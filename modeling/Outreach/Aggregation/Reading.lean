import Outreach.Aggregation
import Outreach.Aggregation.Outcome
import Outreach.Fault

/-!
# Reading the engine's outcomes

The engine does not say which kind of aggregation an outcome answers, so outcomes are read along the
tree of requests, each as its request implies. What was requested and not answered is absent; what
was answered and not requested is ignored.
-/

namespace Outreach

namespace Aggregation

/-- The number of documents of a group; zero unless it is given as a whole number. -/
def docCount (node : Json) : UInt64 := ((node.get? "doc_count").bind Json.uint64?).getD 0

/-- The total number of hits: a whole number, or one under `value`. -/
def totalHits (node : Json) : UInt64 :=
  match node.uint64? with
  | some n => n
  | none => ((node.get? "value").bind Json.uint64?).getD 0

/-- The buckets of a node: a list, or the values of an object of named buckets. -/
def rawBuckets (name : String) (node : Json) : Except Fault (List Json) :=
  match node.get? "buckets" with
  | none => .ok []
  | some (.list items) => .ok items
  | some (.object members) => .ok (members.map Prod.snd)
  | some _ => .error (.reply (.buckets name))

/-- The document of a hit, or the hit itself when it holds none. -/
def hitDocument (hit : Json) : Json := (hit.get? "_source").getD hit

def readHits (name : String) (node : Json) : Except Fault Outcome :=
  let hits := (node.get? "hits").getD .null
  let total := ((hits.get? "total").map totalHits).getD 0
  match hits.get? "hits" with
  | none => .ok (.hits total [])
  | some (.list items) => .ok (.hits total (items.map hitDocument))
  | some _ => .error (.reply (.aggregationHits name))

def readMetric (node : Json) : Outcome := .metric ((node.get? "value").bind Json.float?)

/-- A bucket, its inner outcomes read by `inner`. -/
def readBucket (name : String) (inner : Json → Except Fault Outcomes) (raw : Json) :
    Except Fault Bucket :=
  if raw.isObject then do
    return ⟨(raw.get? "key").getD .null, (raw.get? "key_as_string").bind Json.text?, docCount raw,
      ← inner raw⟩
  else .error (.reply (.bucket name))

mutual

def read : Aggregation → String → Json → Except Fault Outcome
  | ⟨kind, sub⟩, name, node =>
    if kind.isBucketed then do
      let raws ← rawBuckets name node
      return .buckets (← raws.mapM (readBucket name fun raw => readMembers sub raw))
    else match kind with
      | .topHits _ _ _ => readHits name node
      | .average _ => .ok (readMetric node)
      | _ => do return .single (docCount node) (← readMembers sub node)

/-- Reads the outcomes of the requested names that the object holds, in the order of the
requests. -/
def readMembers : List (String × Aggregation) → Json → Except Fault Outcomes
  | [], _ => .ok []
  | (name, a) :: rest, raw =>
    match raw.get? name with
    | none => readMembers rest raw
    | some node => do
      let outcome ← a.read name node
      return (name, outcome) :: (← readMembers rest raw)

end

end Aggregation

def Aggregations.read (aggregations : Aggregations) (raw : Json) : Except Fault Outcomes :=
  Aggregation.readMembers aggregations raw

/-- The outcome under a name, whose absence is a fault. -/
def Outcomes.require (outcomes : Outcomes) (name : String) : Except Fault Outcome :=
  match Named.get? name outcomes with
  | some outcome => .ok outcome
  | none => .error (.missingAggregation name)

end Outreach
