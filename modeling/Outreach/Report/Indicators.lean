import Outreach.Aggregation.Reading
import Outreach.Contact
import Outreach.Field
import Outreach.Filter.AgeBand

/-!
# Indicators

Counts of the selected contacts by gender, polling station, age, week of the last change, and of
those without mail or phone. Ages are known from two sources, the birth date and a stored category:
the count of a band adds both, and the unknown are the contacts without a birth date less those
whose stored category is a band. Counts are words of sixty-four bits and wrap around when they are
combined.
-/

namespace Outreach

namespace Indicators

structure Entry where
  key : String
  count : Int64
  deriving DecidableEq

structure Block where
  name : String
  entries : List Entry
  deriving DecidableEq

/-! ### Requests -/

def genderName : String := "gender_aggreg"

def genderMissingName : String := "gender_missing_aggreg"

def stationName : String := "pollingstation_aggreg"

def stationMissingName : String := "pollingstation_missing_aggreg"

def categoryName : String := "agecategory_aggreg"

def lastChangeName : String := "lastchange_aggreg"

def mailMissingName : String := "mail_missing_aggreg"

def phoneMissingName : String := "phone_missing_aggreg"

/-- The aggregation over birth dates for an age code; the code zero counts missing birth dates. -/
def birthName (code : Nat) : String := toString code ++ "_aggreg"

def requests (stationBuckets : UInt64) : Aggregations :=
  [ (genderName, .leaf (.terms Field.gender none)),
    (genderMissingName, .leaf (.missing Field.gender)),
    (stationName, .leaf (.terms Field.station (some stationBuckets))),
    (stationMissingName, .leaf (.missing Field.station)),
    (categoryName, .leaf (.terms Field.ageCategory none)),
    (lastChangeName, .leaf (.dateHistogram Field.lastChange .week)),
    (birthName 0, .leaf (.missing Field.birthdate)) ] ++
  AgeBand.all.map (fun band =>
    (birthName band.code, .leaf (.dateRange Field.birthdate [band.birthWindow]))) ++
  [ (mailMissingName, .leaf (.missing Field.mail)),
    (phoneMissingName, .leaf (.missing Field.phone)) ]

/-! ### Blocks -/

def missingKey : String := "missing"

/-- The buckets under a name; an absent outcome has none. -/
def bucketsOf (outcomes : Outcomes) (name : String) : List Bucket :=
  ((Named.get? name outcomes).map Outcome.bucketList).getD []

/-- The number of documents under a name; an absent outcome has none. -/
def countOf (outcomes : Outcomes) (name : String) : UInt64 :=
  ((Named.get? name outcomes).map Outcome.count).getD 0

def bucketEntry (b : Bucket) : Entry := ⟨b.keyText, b.count.toInt64⟩

/-- A polling station that is recorded as empty counts as missing. -/
def stationEntry (b : Bucket) : Entry :=
  ⟨if b.keyText.isEmpty then missingKey else b.keyText, b.count.toInt64⟩

def missingEntry (count : UInt64) : List Entry :=
  if 0 < count then [⟨missingKey, count.toInt64⟩] else []

/-! ### Ages -/

/-- The codes of the stored category, zero for unknown. -/
def ageCodes : List Nat := List.range 7

/-- The age code that a bucket's key names: a text that reads as a number equal to a code. -/
def ageCode (key : String) : Except Fault Nat :=
  match (Decimal.read key).bind fun x => ageCodes.find? fun code => x == Float.ofNat code with
  | some code => .ok code
  | none => .error (.unsupported (.ageBucket key))

def storedAges (outcomes : Outcomes) : Except Fault (List (Nat × UInt64)) :=
  (bucketsOf outcomes categoryName).mapM fun b => do return (← ageCode b.keyText, b.count)

/-- The count stored for a code; of several buckets for one code the last counts. -/
def storedCount (stored : List (Nat × UInt64)) (code : Nat) : UInt64 :=
  ((stored.filter fun entry => entry.1 = code).getLast?.map Prod.snd).getD 0

/-- The unknown age, then one entry for each bucket of each band's window. -/
def ageEntries (outcomes : Outcomes) : Except Fault (List Entry) := do
  let stored ← storedAges outcomes
  let sum := sumOf (stored.map Prod.snd)
  let missing := countOf outcomes (birthName 0)
  let unknown := missing.toInt64 - (sum.toInt64 - (storedCount stored 0).toInt64)
  let banded := AgeBand.all.flatMap fun band =>
    (bucketsOf outcomes (birthName band.code)).map fun b =>
      (⟨band.codeText, (b.count + storedCount stored band.code).toInt64⟩ : Entry)
  return ⟨AgeBand.unknownCode, unknown⟩ :: banded

/-- All blocks, from the total number of contacts and the outcomes of the requests. -/
def blocks (total : UInt64) (outcomes : Outcomes) : Except Fault (List Block) := do
  let ages ← ageEntries outcomes
  return [
    ⟨"total", [⟨"total", total.toInt64⟩]⟩,
    ⟨"gender",
      (bucketsOf outcomes genderName).map bucketEntry ++
        missingEntry (countOf outcomes genderMissingName)⟩,
    ⟨"pollingstation",
      (bucketsOf outcomes stationName).map stationEntry ++
        missingEntry (countOf outcomes stationMissingName)⟩,
    ⟨"agecategory", ages⟩,
    ⟨"lastchange", (bucketsOf outcomes lastChangeName).map bucketEntry⟩,
    ⟨"mail_missing", [⟨missingKey, (countOf outcomes mailMissingName).toInt64⟩]⟩,
    ⟨"phone_missing", [⟨missingKey, (countOf outcomes phoneMissingName).toInt64⟩]⟩ ]

def Entry.toJson (e : Entry) : Json :=
  .object [("key", .text e.key), ("doc_count", .ofInt64 e.count)]

def Block.toJson (b : Block) : Json :=
  .object [("name", .text b.name), ("entries", .list (b.entries.map Entry.toJson))]

end Indicators

end Outreach
