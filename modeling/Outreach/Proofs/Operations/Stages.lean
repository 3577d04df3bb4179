import Outreach.Proofs.Engine.Answers
import Outreach.Proofs.Operations.Operation
import Outreach.Proofs.Selection.Reading

/-!
# The stages of an operation

Every operation reads its request, asks the engine, and reads what the last reply says. Only the
first stage can refuse the request, and only the second one asks. The plan that the first stage
comes to says what is asked: one search, and before it, for a pivot by dates, the two lookups that
the interval of its dates depends on.
-/

namespace Outreach

/-- The free text is matched against addresses. -/
def SearchRequest.ByAddress (r : SearchRequest) : Prop :=
  TextScope.read (r.fields.textAt Tokens.scopeAt) = .address

instance (r : SearchRequest) : Decidable r.ByAddress :=
  inferInstanceAs (Decidable (_ = _))

namespace Operations

variable (s : Settings) (r : SearchRequest)

/-! ### Plans -/

structure Plan where
  /-- The query whose oldest and newest last changes are looked up first. -/
  span : Option Query
  main : Interval → SearchBody

namespace Plan

def single (body : SearchBody) : Plan := ⟨none, fun _ => body⟩

def interval (plan : Plan) : Exchange Interval :=
  match plan.span with
  | none => return .week
  | some query => do
    let oldest ← Exchange.search (edgeBody s query true)
    let newest ← Exchange.search (edgeBody s query false)
    return Interval.spanning (lastChange? oldest) (lastChange? newest)

/-- Asks for the reply that the operation reads its result from. -/
def ask (plan : Plan) : Exchange Reply := do
  let interval ← plan.interval s
  Exchange.search (plan.main interval)

/-- Asks, and reads the result from the last reply. -/
def carryOut {β : Type} (plan : Plan) (finish : Reply → Except Fault β) : Exchange β :=
  plan.ask s >>= fun reply => Exchange.lift (finish reply)

end Plan

def indicatorsBody (selection : Selection) : SearchBody where
  index := s.contactsIndex
  query := confined r selection
  aggregations := Indicators.requests s.stationBuckets
  size := 0

def clustersBody (precision : UInt8) (selection : Selection) : SearchBody where
  index := s.contactsIndex
  query := confined r selection
  aggregations := Cluster.requests Field.location precision
  size := 0

def addressesBody (lookup : AddressLookup) : SearchBody where
  index := s.contactsIndex
  query := .compound ((Compound.empty.addMust (TextScope.address.clause r.query)).addMust
    (groupClause lookup.group))
  aggregations := AddressGroup.requests lookup.buckets lookup.hitsPerBucket
  size := 0
  sort := [.field Field.surname true]
  source := addressSource

def nearbyBody (origin : Place) (lookup : NearbyLookup) : SearchBody where
  index := s.contactsIndex
  query := .compound (nearbyQuery origin lookup)
  aggregations := Nearest.requests Field.location origin lookup.size
  size := 0
  source := addressSource

def factsBody : SearchBody where
  index := s.factsIndex
  query := .compound (factsQuery r)
  size := s.idLimit
  source := [Field.factContact]

def listingBody (selection : Selection) : SearchBody where
  index := s.contactsIndex
  query := .compound ((Compound.empty.addMust .matchAll).addMust (groupClause selection.group))
  size := listingSize
  sort := [.field Field.surname true]
  source := listingSource

def pivotBody (levels : List Pivot.Level) (selection : Selection) (interval : Interval) :
    SearchBody where
  index := s.contactsIndex
  query := confined r selection
  aggregations := Pivot.requests levels interval pivotSize
  size := 0

def pivotPlan (levels : List Pivot.Level) (selection : Selection) : Plan where
  span := if .date ∈ levels then some (confined r selection) else none
  main := pivotBody s r levels selection

/-! ### Results -/

/-- The address groups of a reply; without outcomes there are none. -/
def groupsOf (reply : Reply) : Except Fault (List AddressGroup) :=
  match reply.outcomes with
  | some outcomes => AddressGroup.ofOutcomes outcomes
  | none => .ok []

/-- The address groups of a page; a search that is not by address does not read them. -/
def pageGroups (reply : Reply) : Except Fault (List AddressGroup) :=
  if r.ByAddress then groupsOf reply else .ok []

def pageOf (reply : Reply) : Except Fault ContactsPage := do
  let contacts ← contactsOf reply.hits
  return ⟨reply.total, contacts, ← pageGroups r reply⟩

end Operations

namespace Operation

open Operations

variable (s : Settings) (r : SearchRequest)

/-- What an operation asks, or the fault in its request. -/
def plan : Operation → Except Fault Plan
  | .search => do return .single (searchBody s r (← Selection.read r.fields))
  | .indicators => do return .single (indicatorsBody s r (← Selection.read r.fields))
  | .clusters precision => do
    return .single (clustersBody s r precision (← Selection.read r.fields))
  | .addresses => do return .single (addressesBody s r (← AddressLookup.read r.fields))
  | .nearby => do
    let place ← origin r
    let lookup ← NearbyLookup.read r.fields
    return .single (nearbyBody s place lookup)
  | .identifiersWithin =>
    if r.polygon.length < leastCorners then .error (.token (.corners r.polygon.length))
    else .ok (.single (factsBody s r))
  | .listing => do return .single (listingBody s (← Selection.read r.fields))
  | .pivot names => do
    let levels ← readLevels s.presenceForm names
    let selection ← Selection.read r.fields
    return pivotPlan s r levels selection

/-- The checks of a request, the first fault counting: its tokens, and before them the levels of a
pivot or the place of a lookup; for facts only the number of corners. -/
def check : Operation → Except Fault Unit
  | .search | .indicators | .clusters _ | .listing => discard (Selection.read r.fields)
  | .addresses => discard (AddressLookup.read r.fields)
  | .nearby => do
    let _ ← origin r
    discard (NearbyLookup.read r.fields)
  | .identifiersWithin =>
    if r.polygon.length < leastCorners then .error (.token (.corners r.polygon.length)) else .ok ()
  | .pivot names => do
    let _ ← readLevels s.presenceForm names
    discard (Selection.read r.fields)

/-- The result that a reply gives. -/
def conclude : (o : Operation) → Reply → Except Fault o.Result
  | .search, reply => pageOf r reply
  | .indicators, reply =>
    match reply.outcomes with
    | some outcomes => Indicators.blocks reply.total outcomes
    | none => .ok []
  | .clusters _, reply => .ok ((reply.outcomes.map Cluster.ofOutcomes).getD [])
  | .addresses, reply => groupsOf reply
  | .nearby, reply =>
    match reply.outcomes with
    | some outcomes => Nearest.ofOutcomes outcomes
    | none => .ok []
  | .identifiersWithin, reply => .ok (reply.hits.filterMap factContact?)
  | .listing, reply => contactsOf reply.hits
  | .pivot names, reply => do
    let levels ← readLevels s.presenceForm names
    return ⟨levels.map Pivot.Level.name, (reply.outcomes.map (Pivot.rows levels)).getD []⟩

end Operation

/-! ### Every operation goes through its stages -/

namespace Operations

variable {s : Settings} {r : SearchRequest} {α β : Type}

theorem byAddress_iff {selection : Selection} (hread : Selection.read r.fields = .ok selection) :
    selection.scope = .address ↔ r.ByAddress := by
  rw [SearchRequest.ByAddress, (Selection.read_eq_ok.mp hread).scope]

/-- An operation that makes one search, once its reading of the request and of the reply are
known. -/
theorem staged_of_single {reading : Except Fault α} {body : α → SearchBody}
    {next : α → Reply → Exchange β} {finish : Reply → Except Fault β}
    (hnext : ∀ a, reading = .ok a → ∀ reply, next a reply = Exchange.lift (finish reply)) :
    (Exchange.lift reading >>= fun a => Exchange.search (body a) >>= next a) =
      Exchange.lift (do return Plan.single (body (← reading))) >>= fun plan =>
        plan.carryOut s finish := by
  cases reading with
  | error fault => rfl
  | ok a =>
    show (Exchange.search (body a) >>= next a) = Exchange.search (body a) >>= _
    rw [funext (hnext a rfl)]

/-- What holds of the lookups and of the main search holds of everything that a plan asks. -/
theorem Plan.everyCall_carryOut {P : SearchBody → Prop} {plan : Plan}
    {finish : Reply → Except Fault β} (hmain : ∀ interval, P (plan.main interval))
    (hspan : ∀ query, plan.span = some query → ∀ oldest, P (edgeBody s query oldest)) :
    (plan.carryOut s finish).EveryCall P := by
  apply Exchange.everyCall_bind
  · apply Exchange.everyCall_bind
    · unfold Plan.interval
      cases hquery : plan.span with
      | none => exact Exchange.everyCall_pure _
      | some query =>
        apply Exchange.everyCall_search_bind (hspan query hquery true)
        intro oldest
        apply Exchange.everyCall_search_bind (hspan query hquery false)
        intro newest
        exact Exchange.everyCall_pure _
    · intro interval
      exact ⟨hmain interval, fun reply => Exchange.everyCall_done reply⟩
  · intro reply
    exact Exchange.everyCall_lift _

theorem search_eq :
    search s r = Exchange.lift (Operation.plan s r .search) >>= fun plan =>
      plan.carryOut s (Operation.conclude s r .search) := by
  apply staged_of_single
  intro selection hread reply
  simp only [Operation.conclude, pageOf, pageGroups, groupsOf, ← byAddress_iff hread]
  cases contactsOf reply.hits with
  | error fault => rfl
  | ok contacts =>
    by_cases haddress : selection.scope = .address
    · simp only [if_pos haddress]
      cases reply.outcomes with
      | none => rfl
      | some outcomes =>
        dsimp only
        cases AddressGroup.ofOutcomes outcomes <;> rfl
    · simp only [if_neg haddress]
      cases reply.outcomes <;> rfl

theorem indicators_eq :
    indicators s r = Exchange.lift (Operation.plan s r .indicators) >>= fun plan =>
      plan.carryOut s (Operation.conclude s r .indicators) := by
  apply staged_of_single
  intro selection _ reply
  simp only [Operation.conclude]
  cases reply.outcomes <;> rfl

theorem clusters_eq (precision : UInt8) :
    clusters s r precision =
      Exchange.lift (Operation.plan s r (.clusters precision)) >>= fun plan =>
        plan.carryOut s (Operation.conclude s r (.clusters precision)) := by
  apply staged_of_single
  intro selection _ reply
  rfl

theorem addresses_eq :
    addresses s r = Exchange.lift (Operation.plan s r .addresses) >>= fun plan =>
      plan.carryOut s (Operation.conclude s r .addresses) := by
  apply staged_of_single
  intro lookup _ reply
  simp only [Operation.conclude, groupsOf]
  cases reply.outcomes <;> rfl

theorem nearby_eq :
    nearby s r = Exchange.lift (Operation.plan s r .nearby) >>= fun plan =>
      plan.carryOut s (Operation.conclude s r .nearby) := by
  simp only [nearby, Operation.plan]
  cases origin r with
  | error fault => rfl
  | ok place =>
    apply staged_of_single
    intro lookup _ reply
    simp only [Operation.conclude]
    cases reply.outcomes <;> rfl

theorem identifiersWithin_eq :
    identifiersWithin s r = Exchange.lift (Operation.plan s r .identifiersWithin) >>= fun plan =>
      plan.carryOut s (Operation.conclude s r .identifiersWithin) := by
  simp only [identifiersWithin, Operation.plan]
  by_cases hcorners : r.polygon.length < leastCorners
  · rw [if_pos hcorners, if_pos hcorners]
    rfl
  · rw [if_neg hcorners, if_neg hcorners]
    rfl

theorem listing_eq :
    listing s r = Exchange.lift (Operation.plan s r .listing) >>= fun plan =>
      plan.carryOut s (Operation.conclude s r .listing) := by
  apply staged_of_single
  intro selection _ reply
  rfl

theorem interval_pivotPlan (levels : List Pivot.Level) (selection : Selection) :
    (pivotPlan s r levels selection).interval s =
      pivotInterval s (confined r selection) levels := by
  unfold Plan.interval pivotPlan pivotInterval
  by_cases hdate : .date ∈ levels
  · simp only [if_pos hdate]
  · simp only [if_neg hdate]

theorem pivot_eq (names : List String) :
    pivot s r names = Exchange.lift (Operation.plan s r (.pivot names)) >>= fun plan =>
      plan.carryOut s (Operation.conclude s r (.pivot names)) := by
  simp only [pivot, Operation.plan]
  cases hlevels : readLevels s.presenceForm names with
  | error fault => rfl
  | ok levels =>
    -- Concluding reads the levels once more, and by now they are known to be readable.
    have hconclude : Operation.conclude s r (.pivot names) = fun reply =>
        .ok ⟨levels.map Pivot.Level.name, (reply.outcomes.map (Pivot.rows levels)).getD []⟩ := by
      funext reply
      simp only [Operation.conclude, hlevels]
      rfl
    rw [hconclude]
    cases Selection.read r.fields with
    | error fault => rfl
    | ok selection =>
      show (pivotInterval s (confined r selection) levels >>= _) =
        ((pivotPlan s r levels selection).interval s >>= _) >>= _
      rw [Exchange.bind_assoc, interval_pivotPlan]
      rfl

end Operations

namespace Operation

open Operations

variable (s : Settings) (r : SearchRequest)

theorem exchange_eq (o : Operation) :
    o.exchange s r = Exchange.lift (o.plan s r) >>= fun plan =>
      plan.carryOut s (o.conclude s r) := by
  cases o with
  | search => exact Operations.search_eq
  | indicators => exact Operations.indicators_eq
  | clusters precision => exact Operations.clusters_eq precision
  | addresses => exact Operations.addresses_eq
  | nearby => exact Operations.nearby_eq
  | identifiersWithin => exact Operations.identifiersWithin_eq
  | listing => exact Operations.listing_eq
  | pivot names => exact Operations.pivot_eq names

variable {s r}

/-- A request comes to a plan when it passes the checks, and otherwise to their fault. -/
theorem check_eq (o : Operation) : o.check s r = discard (o.plan s r) := by
  cases o with
  | search => exact Steps.discard_map.symm
  | indicators => exact Steps.discard_map.symm
  | clusters precision => exact Steps.discard_map.symm
  | addresses => exact Steps.discard_map.symm
  | listing => exact Steps.discard_map.symm
  | nearby =>
    simp only [check, plan]
    cases origin r with
    | error fault => rfl
    | ok place => exact Steps.discard_map.symm
  | identifiersWithin =>
    simp only [check, plan]
    split <;> rfl
  | pivot names =>
    simp only [check, plan]
    cases readLevels s.presenceForm names with
    | error fault => rfl
    | ok levels => exact Steps.discard_map.symm

theorem exchange_of_check_error {o : Operation} {fault : Fault}
    (hcheck : o.check s r = .error fault) : o.exchange s r = .done (.error fault) := by
  rw [exchange_eq]
  rw [check_eq] at hcheck
  cases hplan : o.plan s r with
  | error other =>
    rw [hplan] at hcheck
    cases hcheck
    rfl
  | ok plan =>
    rw [hplan] at hcheck
    cases hcheck

theorem exchange_of_check_ok {o : Operation} (hcheck : o.check s r = .ok ()) :
    ∃ plan, o.plan s r = .ok plan ∧ o.exchange s r = plan.carryOut s (o.conclude s r) := by
  rw [exchange_eq]
  rw [check_eq] at hcheck
  cases hplan : o.plan s r with
  | error other =>
    rw [hplan] at hcheck
    cases hcheck
  | ok plan => exact ⟨plan, rfl, rfl⟩

theorem everyCall_of_plan {P : SearchBody → Prop} {o : Operation}
    (hplan : ∀ plan, o.plan s r = .ok plan → (∀ interval, P (plan.main interval)) ∧
      ∀ query, plan.span = some query → ∀ oldest, P (edgeBody s query oldest)) :
    (o.exchange s r).EveryCall P := by
  rw [exchange_eq]
  apply Exchange.everyCall_lift_bind
  intro plan hread
  exact Plan.everyCall_carryOut (hplan plan hread).1 (hplan plan hread).2

end Operation

end Outreach
