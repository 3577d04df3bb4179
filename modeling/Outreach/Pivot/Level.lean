import Outreach.Aggregation
import Outreach.Fault
import Outreach.Field

/-!
# Pivot levels

A pivot counts contacts along a list of levels, the outermost first. Each level asks for two
aggregations that both hold those of the inner levels: one bucket per value, and a companion for the
contacts without a value.
-/

namespace Outreach

namespace Pivot

inductive Level
  | user
  | date
  | gender
  | station
  | ageCategory
  | city
  | postalCode
  /-- The answer given to a form. -/
  | presence (form : Int64)
  deriving DecidableEq

namespace Level

def name : Level → String
  | .user => "user"
  | .date => "date"
  | .gender => "gender"
  | .station => "pollingstation"
  | .ageCategory => "agecategory"
  | .city => "city"
  | .postalCode => "postalcode"
  | .presence _ => "presence"

def field : Level → String
  | .user => Field.changedBy
  | .date => Field.lastChange
  | .gender => Field.gender
  | .station => Field.station
  | .ageCategory => Field.ageCategory
  | .city => Field.city
  | .postalCode => Field.postalCode
  | .presence _ => Field.answerValue

def missingName (level : Level) : String := level.name ++ "_missing"

def plain : List Level := [.user, .date, .gender, .station, .ageCategory, .city, .postalCode]

/-- What stands between the name of the presence level and the form of its own. -/
def presenceOpening : String := "presence/"

/-- Reads the name of a level; `presence` takes the given form unless its name carries another. -/
def read (presenceForm : Int64) (name : String) : Except Fault Level :=
  match (Level.presence presenceForm :: plain).find? fun level => level.name = name with
  | some level => .ok level
  | none =>
    match presenceOpening.toList.isPrefixOf? name.toList with
    | some form =>
      match Text.readInt64 (String.ofList form) with
      | some form => .ok (.presence form)
      | none => .error (.token (.presenceForm (String.ofList form)))
    | none => .error (.unsupported (.pivotLevel name))

/-! ### Requests -/

def formName : String := "form"

def answerName : String := "answer"

def contactsName : String := "contacts"

/-- The buckets of a level. Answers are sub-documents, so a presence level goes down to the answers
to its form and back up to the contacts. -/
def values (level : Level) (interval : Interval) (size : UInt64) (inner : Aggregations) :
    Aggregation :=
  match level with
  | .date => ⟨.dateHistogram level.field interval, inner⟩
  | .presence form =>
    let contacts : Aggregation := ⟨.reverseNested, inner⟩
    let answers := (Aggregation.leaf (.terms level.field (some size))).holding contactsName contacts
    let ofForm := (Aggregation.leaf (.filter (.term Field.answerForm (.integer form)))).holding
      answerName answers
    (Aggregation.leaf (.nested Field.answers)).holding formName ofForm
  | _ => ⟨.terms level.field (some size), inner⟩

def missing (level : Level) (inner : Aggregations) : Aggregation :=
  match level with
  | .presence form =>
    ⟨.filter (.compound (Compound.empty.addMustNot
      (.nested Field.answers (.term Field.answerForm (.integer form))))), inner⟩
  | _ => ⟨.missing level.field, inner⟩

end Level

/-- The aggregations of all levels; `interval` applies to dates and `size` to the number of
buckets. -/
def requests : List Level → Interval → UInt64 → Aggregations
  | [], _, _ => []
  | level :: rest, interval, size =>
    let inner := requests rest interval size
    [(level.name, level.values interval size inner), (level.missingName, level.missing inner)]

end Pivot

end Outreach
