import Outreach.Aggregation.Outcome
import Outreach.Named
import Outreach.Pivot.Level
import Outreach.Text.Numeral

/-!
# Pivot rows

The outcomes of a pivot as rows: one key per level and the count of contacts at the end. Contacts
without a value stand under a key of their own, which every level has, even when it counts nobody.
Folding goes the other way: it builds the outcomes whose rows are given, with the counts of inner
outcomes the sums of those below.
-/

namespace Outreach

namespace Pivot

abbrev Row := List String

/-- The key of the contacts without a value. -/
def notAvailable : String := "N/A"

/-! ### From outcomes to rows -/

/-- One key of a level: how many contacts it counts, and the outcomes of the levels inside. -/
structure Cell where
  key : String
  count : UInt64
  inner : Outcomes

def Cell.ofBucket (b : Bucket) : Cell := ⟨b.keyText, b.count, b.sub⟩

/-- An answer counts contacts, not answers, when the engine went back up to them. -/
def Cell.ofAnswer (b : Bucket) : Cell :=
  match Named.get? Level.contactsName b.sub with
  | some (.single count inner) => ⟨b.keyText, count, inner⟩
  | _ => .ofBucket b

/-- The buckets of the answers inside the outcome of a presence level. -/
def answerBuckets (outcome : Outcome) : List Bucket :=
  let answers := do
    let nested ← outcome.inner?
    let ofForm ← Named.get? Level.formName nested
    let answers ← ofForm.inner?
    Named.get? Level.answerName answers
  (answers.map Outcome.bucketList).getD []

def valueCells (level : Level) (outcomes : Outcomes) : List Cell :=
  match Named.get? level.name outcomes with
  | none => []
  | some outcome =>
    match level with
    | .presence _ => (answerBuckets outcome).map Cell.ofAnswer
    | _ => outcome.bucketList.map Cell.ofBucket

def missingCell (level : Level) (outcomes : Outcomes) : Cell :=
  match Named.get? level.missingName outcomes with
  | some (.single count inner) => ⟨notAvailable, count, inner⟩
  | some other => ⟨notAvailable, other.count, []⟩
  | none => ⟨notAvailable, 0, []⟩

/-- The rows below a cell, without the keys that lead to it. -/
def rowsBelow : List Level → UInt64 → Outcomes → List Row
  | [], count, _ => [[toString count.toNat]]
  | level :: rest, _, outcomes =>
    (valueCells level outcomes ++ [missingCell level outcomes]).flatMap fun cell =>
      (rowsBelow rest cell.count cell.inner).map (cell.key :: ·)

/-- The rows of a pivot; without levels there are none. -/
def rows (levels : List Level) (outcomes : Outcomes) : List Row :=
  if levels.isEmpty then [] else rowsBelow levels 0 outcomes

/-! ### From rows to outcomes -/

structure Entry where
  keys : List String
  count : UInt64
  deriving DecidableEq

def Entry.total (entries : List Entry) : UInt64 := sumOf (entries.map Entry.count)

/-- The entries that begin with a key, without it. -/
def under (key : String) (entries : List Entry) : List Entry :=
  entries.filterMap fun entry =>
    match entry.keys with
    | head :: keys => if head = key then some ⟨keys, entry.count⟩ else none
    | [] => none

/-- The distinct first keys in the order in which they come up, the key of the contacts without a
value aside. -/
def leadingKeys (entries : List Entry) : List String :=
  firstOccurrences ((entries.filterMap fun entry => entry.keys.head?).filter (· ≠ notAvailable))

/-- The bucket of a key; an answer holds its contacts in a group of their own. -/
def bucket (level : Level) (key : String) (count : UInt64) (inner : Outcomes) : Bucket :=
  match level with
  | .presence _ => ⟨.text key, none, count, [(Level.contactsName, .single count inner)]⟩
  | _ => ⟨.text key, none, count, inner⟩

def valueOutcome (level : Level) (buckets : List Bucket) : Outcome :=
  match level with
  | .presence _ =>
    let count := Bucket.total buckets
    .single count [(Level.formName, .single count [(Level.answerName, .buckets buckets)])]
  | _ => .buckets buckets

def fold : List Level → List Entry → Outcomes
  | [], _ => []
  | level :: rest, entries =>
    let buckets := (leadingKeys entries).map fun key =>
      let group := under key entries
      bucket level key (Entry.total group) (fold rest group)
    let missing := under notAvailable entries
    [(level.name, valueOutcome level buckets),
      (level.missingName, .single (Entry.total missing) (fold rest missing))]

def Entry.ofRow (row : Row) : Except Fault Entry :=
  let cell := row.getLast?.getD ""
  match Text.readUInt64 cell with
  | some count => .ok ⟨row.dropLast, count⟩
  | none => .error (.token (.rowCount cell))

/-- Builds the outcomes of rows, which must all have one cell more than there are levels. -/
def foldRows (levels : List Level) (rows : List Row) : Except Fault Outcomes :=
  match rows.find? fun row => row.length ≠ levels.length + 1 with
  | some row => .error (.token (.rowWidth row (levels.length + 1)))
  | none => do return fold levels (← rows.mapM Entry.ofRow)

end Pivot

end Outreach
