import Outreach.Json.Printer

/-!
# Outcomes of aggregations

What the engine answers to an aggregation: a list of buckets, one group, the documents themselves,
or a number. Buckets and groups hold the outcomes of the inner aggregations by name.
-/

namespace Outreach

mutual

inductive Outcome where
  | buckets (items : List Bucket)
  | single (count : UInt64) (sub : List (String × Outcome))
  | hits (total : UInt64) (documents : List Json)
  | metric (value : Option Float)

structure Bucket where
  key : Json
  /-- The form in which the engine shows a key that is a date or another encoded value. -/
  label : Option String
  count : UInt64
  sub : List (String × Outcome)

end

abbrev Outcomes := Named Outcome

/-- The label of a bucket, or else its key, a text without quotes and null as nothing. -/
def Bucket.keyText (b : Bucket) : String :=
  match b.label with
  | some label => label
  | none =>
    match b.key with
    | .text s => s
    | .null => ""
    | key => key.render

/-- The sum of counts, as a word. -/
def sumOf (counts : List UInt64) : UInt64 := counts.foldr (· + ·) 0

def Bucket.total (buckets : List Bucket) : UInt64 := sumOf (buckets.map Bucket.count)

namespace Outcome

def bucketList : Outcome → List Bucket
  | .buckets items => items
  | _ => []

/-- The number of documents of an outcome; a number counts none. -/
def count : Outcome → UInt64
  | .buckets items => Bucket.total items
  | .single count _ => count
  | .hits total _ => total
  | .metric _ => 0

def documents : Outcome → List Json
  | .hits _ documents => documents
  | _ => []

def value? : Outcome → Option Float
  | .metric value => value
  | _ => none

def inner? : Outcome → Option Outcomes
  | .single _ sub => some sub
  | _ => none

end Outcome

end Outreach
