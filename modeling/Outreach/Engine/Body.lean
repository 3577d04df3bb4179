import Outreach.Aggregation

/-!
# Search bodies

One call of the engine: the index, the query, a filter that applies to the hits after the
aggregations are made, the aggregations, and which hits to return in which order with which fields.
-/

namespace Outreach

structure SearchBody where
  index : String
  query : Query
  postFilter : Option Query := none
  aggregations : Aggregations := []
  size : UInt64 := 10
  offset : UInt64 := 0
  sort : List SortKey := []
  /-- The fields of the hits that are returned; all when empty. -/
  source : List String := []

namespace SearchBody

/-- The document sent to the engine; the index is part of the address instead. -/
def toJson (body : SearchBody) : Json :=
  .object ([("query", body.query.toJson)] ++
    body.postFilter.toList.map (fun query => ("post_filter", query.toJson)) ++
    (if body.aggregations.isEmpty then []
      else [(Aggregation.innerName, Aggregations.toJson body.aggregations)]) ++
    [("size", .ofUInt64 body.size), ("from", .ofUInt64 body.offset)] ++
    (if body.sort.isEmpty then [] else [("sort", .list (body.sort.map SortKey.toJson))]) ++
    if body.source.isEmpty then [] else [("_source", Aggregation.includesJson body.source)])

def addSort (body : SearchBody) (key : SortKey) : SearchBody :=
  { body with sort := body.sort ++ [key] }

def addAggregations (body : SearchBody) (more : Aggregations) : SearchBody :=
  { body with aggregations := Named.extend body.aggregations more }

def addSource (body : SearchBody) (fields : List String) : SearchBody :=
  { body with source := body.source ++ fields }

end SearchBody

end Outreach
