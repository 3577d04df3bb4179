import Outreach.Engine.Exchange
import Outreach.Lookup
import Outreach.Pivot.Rows
import Outreach.Pivot.Span
import Outreach.Report.Indicators
import Outreach.Report.Places
import Outreach.SearchRequest
import Outreach.Selection.Compilation
import Outreach.Settings

/-!
# Operations

The eight operations on contacts. Each reads the tokens of the request, asks the engine, and turns
the reply into its result. A request that cannot be read is a fault before the engine is asked
anything.
-/

namespace Outreach

/-! ### Documents of the engine -/

/-- The instant of a stored last change: a timestamp, a day, or milliseconds since 1970. -/
def Json.instant? : Json → Option Calendar.Instant
  | .integer n => ((Json.integer n).int64?).bind fun n => Calendar.Instant.ofMillis? n.toInt
  | .text s =>
    match Calendar.Timestamp.read s with
    | .ok t => some t
    | .error _ => (Calendar.Day.read s).map Calendar.Instant.ofDay
  | _ => none

namespace Operations

def contactsOf (hits : List Json) : Except Fault (List Contact) :=
  (Contact.ofHits hits).mapError Fault.shape

/-! ### Limits and fields -/

def contactSource : List String :=
  ["id", "firstname", "surname", "married_name", "address.street", "address.housenumber",
    "address.city", "address.latitude", "address.longitude", "gender", "birthdate", "phone",
    "mobile", "mail", "lastchange", "formdatas"]

def addressSource : List String := ["address.street", "address.housenumber", "address.city"]

def listingSource : List String :=
  ["id", "firstname", "surname", "married_name", "address.street", "address.housenumber",
    "address.city"]

def listingSize : UInt64 := 20000

def pivotSize : UInt64 := 1000

/-! ### Search -/

structure ContactsPage where
  total : UInt64
  contacts : List Contact
  /-- Filled when the search is by address. -/
  groups : List AddressGroup

/-- A page of contacts, or, by address, the groups of contacts at each latitude. A polygon filters
the hits. -/
def searchBody (s : Settings) (r : SearchRequest) (selection : Selection) : SearchBody :=
  let query : Query := .compound (selection.compile r.query)
  let postFilter :=
    if r.polygon.isEmpty then none else some (polygonClause Field.location r.polygon)
  if selection.scope = .address then
    { index := s.contactsIndex
      query := query
      postFilter := postFilter
      aggregations := AddressGroup.requests selection.page.size selection.page.size
      size := 0
      sort := [.field Field.surname true]
      source := contactSource }
  else
    { index := s.contactsIndex
      query := query
      postFilter := postFilter
      size := selection.page.size
      offset := selection.page.offset
      sort := [.field selection.order.field selection.order.ascending]
      source := contactSource }

def search (s : Settings) (r : SearchRequest) : Exchange ContactsPage := do
  let selection ← Exchange.lift (Selection.read r.fields)
  let reply ← Exchange.search (searchBody s r selection)
  let contacts ← Exchange.lift (contactsOf reply.hits)
  let groups ← match reply.outcomes with
    | some outcomes =>
      if selection.scope = .address then Exchange.lift (AddressGroup.ofOutcomes outcomes)
      else pure []
    | none => pure []
  return ⟨reply.total, contacts, groups⟩

/-! ### Summaries of a selection -/

/-- The query of a selection, confined to the polygon of the request. -/
def confined (r : SearchRequest) (selection : Selection) : Query :=
  .compound ((selection.compile r.query).confine Field.location r.polygon)

def indicators (s : Settings) (r : SearchRequest) : Exchange (List Indicators.Block) := do
  let selection ← Exchange.lift (Selection.read r.fields)
  let reply ← Exchange.search
    { index := s.contactsIndex
      query := confined r selection
      aggregations := Indicators.requests s.stationBuckets
      size := 0 }
  match reply.outcomes with
  | some outcomes => Exchange.lift (Indicators.blocks reply.total outcomes)
  | none => pure []

def clusters (s : Settings) (r : SearchRequest) (precision : UInt8) : Exchange (List Cluster) := do
  let selection ← Exchange.lift (Selection.read r.fields)
  let reply ← Exchange.search
    { index := s.contactsIndex
      query := confined r selection
      aggregations := Cluster.requests Field.location precision
      size := 0 }
  return (reply.outcomes.map Cluster.ofOutcomes).getD []

/-! ### Lookups -/

def addresses (s : Settings) (r : SearchRequest) : Exchange (List AddressGroup) := do
  let lookup ← Exchange.lift (AddressLookup.read r.fields)
  let reply ← Exchange.search
    { index := s.contactsIndex
      query := .compound ((Compound.empty.addMust (TextScope.address.clause r.query)).addMust
        (groupClause lookup.group))
      aggregations := AddressGroup.requests lookup.buckets lookup.hitsPerBucket
      size := 0
      sort := [.field Field.surname true]
      source := addressSource }
  match reply.outcomes with
  | some outcomes => Exchange.lift (AddressGroup.ofOutcomes outcomes)
  | none => pure []

/-- The place that the text of a request names. -/
def origin (r : SearchRequest) : Except Fault Place :=
  match Place.read? r.query with
  | some place => .ok place
  | none => .error (.token (.point r.query))

/-- The contacts of a group, within a radius if there is one. -/
def nearbyQuery (origin : Place) (lookup : NearbyLookup) : Compound :=
  let ofGroup := Compound.empty.addMust (groupClause lookup.group)
  match lookup.radius with
  | some radius => ofGroup.addMust (.near Field.location origin radius)
  | none => ofGroup

def nearby (s : Settings) (r : SearchRequest) : Exchange (List Contact) := do
  let origin ← Exchange.lift (origin r)
  let lookup ← Exchange.lift (NearbyLookup.read r.fields)
  let reply ← Exchange.search
    { index := s.contactsIndex
      query := .compound (nearbyQuery origin lookup)
      aggregations := Nearest.requests Field.location origin lookup.size
      size := 0
      source := addressSource }
  match reply.outcomes with
  | some outcomes => Exchange.lift (Nearest.ofOutcomes outcomes)
  | none => pure []

def leastCorners : Nat := 3

/-- The facts inside a polygon, with a status if one is asked for. -/
def factsQuery (r : SearchRequest) : Compound :=
  let inside :=
    (Compound.empty.addMust .matchAll).addFilter (polygonClause Field.factLocation r.polygon)
  if r.filter.isEmpty then inside else inside.addFilter (.term Field.factStatus (.text r.filter))

def factContact? (hit : Json) : Option Int64 := (hit.get? Field.factContact).bind Json.identifier?

/-- The contacts with facts inside a polygon; a fact without a readable identifier is passed
over. -/
def identifiersWithin (s : Settings) (r : SearchRequest) : Exchange (List Int64) := do
  if r.polygon.length < leastCorners then
    Exchange.lift (.error (.token (.corners r.polygon.length)))
  else
    let reply ← Exchange.search
      { index := s.factsIndex
        query := .compound (factsQuery r)
        size := s.idLimit
        source := [Field.factContact] }
    return reply.hits.filterMap factContact?

/-- All contacts of a group by surname. -/
def listing (s : Settings) (r : SearchRequest) : Exchange (List Contact) := do
  let selection ← Exchange.lift (Selection.read r.fields)
  let reply ← Exchange.search
    { index := s.contactsIndex
      query := .compound ((Compound.empty.addMust .matchAll).addMust (groupClause selection.group))
      size := listingSize
      sort := [.field Field.surname true]
      source := listingSource }
  Exchange.lift (contactsOf reply.hits)

/-! ### Pivot -/

structure PivotTable where
  levels : List String
  rows : List Pivot.Row
  deriving DecidableEq

/-- Asks for the one contact with the oldest or the newest last change. -/
def edgeBody (s : Settings) (query : Query) (oldest : Bool) : SearchBody where
  index := s.contactsIndex
  query := query
  size := 1
  sort := [.field Field.lastChange oldest]
  source := [Field.lastChange]

def lastChange? (reply : Reply) : Option Calendar.Instant :=
  (reply.hits.head?.bind (Json.get? Field.lastChange)).bind Json.instant?

/-- The interval for the dates of a pivot, from the oldest and the newest last change; without a
level of dates nothing is asked. -/
def pivotInterval (s : Settings) (query : Query) (levels : List Pivot.Level) :
    Exchange Interval := do
  if .date ∈ levels then
    let oldest ← Exchange.search (edgeBody s query true)
    let newest ← Exchange.search (edgeBody s query false)
    return Interval.spanning (lastChange? oldest) (lastChange? newest)
  else return .week

/-- Reads the levels of a pivot, of which there must be one. -/
def readLevels (presenceForm : Int64) (names : List String) : Except Fault (List Pivot.Level) := do
  let levels ← names.mapM (Pivot.Level.read presenceForm)
  if levels.isEmpty then .error (.token .noLevel) else .ok levels

def pivot (s : Settings) (r : SearchRequest) (names : List String) : Exchange PivotTable := do
  let levels ← Exchange.lift (readLevels s.presenceForm names)
  let selection ← Exchange.lift (Selection.read r.fields)
  let query := confined r selection
  let interval ← pivotInterval s query levels
  let reply ← Exchange.search
    { index := s.contactsIndex
      query := query
      aggregations := Pivot.requests levels interval pivotSize
      size := 0 }
  return ⟨levels.map Pivot.Level.name, (reply.outcomes.map (Pivot.rows levels)).getD []⟩

/-! ### Results as documents -/

def ContactsPage.toJson (page : ContactsPage) : Json :=
  .object [("total", .ofUInt64 page.total), ("contacts", .list (page.contacts.map Contact.toJson)),
    ("addresses", .list (page.groups.map AddressGroup.toJson))]

def PivotTable.toJson (table : PivotTable) : Json :=
  .object [("dimensions", .ofTexts table.levels), ("rows", .list (table.rows.map Json.ofTexts))]

end Operations

end Outreach
