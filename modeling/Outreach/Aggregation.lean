import Outreach.Query.Rendering

/-!
# Aggregations

Requests for grouped counts and other summaries of the documents that a query matches. Every
aggregation has a name, and each may hold further ones that are run inside each of its groups.
-/

namespace Outreach

/-- The width of the groups of a histogram over dates. -/
inductive Interval
  | hour
  | day
  | week
  | month
  | year
  deriving DecidableEq

def Interval.name : Interval → String
  | .hour => "hour"
  | .day => "day"
  | .week => "week"
  | .month => "month"
  | .year => "year"

inductive Aggregation.Kind where
  /-- One group per value of a field, of which the engine keeps at most `size`. -/
  | terms (field : String) (size : Option UInt64)
  | dateHistogram (field : String) (interval : Interval)
  /-- One group per window, from its first date up to before its last. -/
  | dateRange (field : String) (windows : List (DateBound × DateBound))
  /-- The documents without a value. -/
  | missing (field : String)
  | nested (path : String)
  /-- From sub-documents back to their documents. -/
  | reverseNested
  | filter (query : Query)
  /-- The first documents themselves. -/
  | topHits (size : UInt64) (sort : List SortKey) (source : List String)
  | geohashGrid (field : String) (precision : UInt8)
  | average (field : String)

structure Aggregation where
  kind : Aggregation.Kind
  sub : List (String × Aggregation)

abbrev Aggregations := Named Aggregation

namespace Aggregation

def Kind.isBucketed : Kind → Bool
  | .terms _ _ | .dateHistogram _ _ | .dateRange _ _ | .geohashGrid _ _ => true
  | _ => false

def leaf (kind : Kind) : Aggregation := ⟨kind, []⟩

def holding (a : Aggregation) (name : String) (inner : Aggregation) : Aggregation :=
  { a with sub := Named.insert name inner a.sub }

/-! ### Rendering -/

def windowJson (window : DateBound × DateBound) : Json :=
  .object [("from", .text window.1.expression), ("to", .text window.2.expression)]

/-- The restriction of returned documents to some of their fields. -/
def includesJson (source : List String) : Json := .only "includes" (.ofTexts source)

/-- The name of a kind in the engine's language and its parameters. -/
def Kind.toMember : Kind → String × Json
  | .terms field size =>
    ("terms", .object (("field", .text field) :: size.toList.map fun n => ("size", .ofUInt64 n)))
  | .dateHistogram field interval =>
    ("date_histogram", .object [("field", .text field), ("calendar_interval", .text interval.name)])
  | .dateRange field windows =>
    ("date_range", .object [("field", .text field), ("ranges", .list (windows.map windowJson))])
  | .missing field => ("missing", .only "field" (.text field))
  | .nested path => ("nested", .only "path" (.text path))
  | .reverseNested => ("reverse_nested", .object [])
  | .filter query => ("filter", query.toJson)
  | .topHits size sort source =>
    ("top_hits", .object (("size", .ofUInt64 size) ::
      (if sort.isEmpty then [] else [("sort", .list (sort.map SortKey.toJson))]) ++
      if source.isEmpty then [] else [("_source", includesJson source)]))
  | .geohashGrid field precision =>
    ("geohash_grid", .object [("field", .text field), ("precision", .integer precision.toNat)])
  | .average field => ("avg", .only "field" (.text field))

def innerName : String := "aggs"

mutual

def toJson : Aggregation → Json
  | ⟨kind, sub⟩ =>
    .object (kind.toMember :: if sub.isEmpty then [] else [(innerName, .object (toMembers sub))])

def toMembers : List (String × Aggregation) → List (String × Json)
  | [] => []
  | (name, a) :: rest => (name, a.toJson) :: toMembers rest

end

end Aggregation

def Aggregations.toJson (aggregations : Aggregations) : Json :=
  .object (Aggregation.toMembers aggregations)

end Outreach
