import Outreach.Aggregation
import Outreach.Aggregation.Outcome
import Outreach.Named

/-!
# What an engine counts

The outcomes of aggregations over a finite list of documents: a bucket for each distinct key among
the documents, with the documents that have the key, and the documents without a value as a group of
their own. What is inside a bucket or a group is evaluated on its documents. The order of the
buckets and how their keys are shown are the engine's own affair, and so are the other kinds of
aggregations.
-/

namespace Outreach

/-- The documents of an engine, as it groups them. -/
structure Index (δ ν : Type) where
  /-- The values that a document has in a field. -/
  values : δ → String → List ν
  termKey : ν → String
  /-- The key of the group of a histogram that a value falls into. -/
  dateKey : Interval → ν → String
  /-- A key as the engine writes it, with a label where it encodes the key. -/
  shown : Aggregation.Kind → String → Json × Option String
  keyText_shown : ∀ kind key count sub,
    Bucket.keyText ⟨(shown kind key).1, (shown kind key).2, count, sub⟩ = key
  /-- The order of the buckets of a node; a size keeps the first of them. -/
  arrange : Aggregation.Kind → List δ → List String → List String
  arrange_perm : ∀ kind docs keys, (arrange kind docs keys).Perm keys
  otherwise : Aggregation → List δ → Outcome

namespace Index

variable {δ ν : Type} (index : Index δ ν)

def keysOf (kind : Aggregation.Kind) (d : δ) : List String :=
  match kind with
  | .terms field _ => (index.values d field).map index.termKey
  | .dateHistogram field interval => (index.values d field).map (index.dateKey interval)
  | _ => []

def distinctKeys (kind : Aggregation.Kind) (docs : List δ) : List String :=
  firstOccurrences (docs.flatMap (index.keysOf kind))

def bucketKeys (kind : Aggregation.Kind) (docs : List δ) : List String :=
  let keys := index.arrange kind docs (index.distinctKeys kind docs)
  match kind with
  | .terms _ (some size) => keys.take size.toNat
  | _ => keys

def having (kind : Aggregation.Kind) (key : String) (docs : List δ) : List δ :=
  docs.filter fun d => key ∈ index.keysOf kind d

def lacking (field : String) (docs : List δ) : List δ :=
  docs.filter fun d => (index.values d field).isEmpty

def docCount (docs : List δ) : UInt64 := UInt64.ofNat docs.length

mutual

def evaluate : Aggregation → List δ → Outcome
  | ⟨kind, sub⟩, docs =>
    match kind with
    | .terms _ _ | .dateHistogram _ _ =>
      .buckets ((index.bucketKeys kind docs).map fun key =>
        let inside := index.having kind key docs
        ⟨(index.shown kind key).1, (index.shown kind key).2, docCount inside,
          evaluateAll sub inside⟩)
    | .missing field =>
      let without := index.lacking field docs
      .single (docCount without) (evaluateAll sub without)
    | kind => index.otherwise ⟨kind, sub⟩ docs

def evaluateAll : List (String × Aggregation) → List δ → Outcomes
  | [], _ => []
  | (name, a) :: rest, docs => (name, evaluate a docs) :: evaluateAll rest docs

end

/-- As long as the size of a node is not exceeded, no key is left out. -/
theorem bucketKeys_perm {kind : Aggregation.Kind} {docs : List δ}
    (hsize : ∀ field size, kind = .terms field (some size) →
      (index.distinctKeys kind docs).length ≤ size.toNat) :
    (index.bucketKeys kind docs).Perm (index.distinctKeys kind docs) := by
  have harrange := index.arrange_perm kind docs (index.distinctKeys kind docs)
  unfold bucketKeys
  split
  · rename_i field size
    rw [List.take_of_length_le]
    · exact harrange
    · rw [harrange.length_eq]
      exact hsize field size rfl
  · exact harrange

end Index

end Outreach
