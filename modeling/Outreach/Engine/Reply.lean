import Outreach.Aggregation.Reading

/-!
# Replies

What the engine answers to a search: the number of matching documents, the documents of the returned
hits in rank order, and the outcomes of the aggregations.
-/

namespace Outreach

structure Reply where
  total : UInt64
  hits : List Json
  /-- Absent when the engine's answer has no member for aggregations. -/
  outcomes : Option Outcomes

/-- Reads the engine's answer; a hit without a document is null. -/
def Reply.ofJson (raw : Json) (aggregations : Aggregations) : Except Fault Reply := do
  let node := raw.get? "hits"
  let total := ((node.bind (Json.get? "total")).map Aggregation.totalHits).getD 0
  let hits ← match node.bind (Json.get? "hits") with
    | none => .ok []
    | some (.list items) => .ok (items.map fun hit => (hit.get? "_source").getD .null)
    | some _ => .error (Fault.reply .hits)
  let outcomes ← match raw.get? "aggregations" with
    | none => .ok none
    | some node => do pure (some (← Aggregations.read aggregations node))
  return ⟨total, hits, outcomes⟩

end Outreach
