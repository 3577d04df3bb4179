import Outreach.Field
import Outreach.Query
import Outreach.Filter.Tokens
import Outreach.Text.Casing

/-!
# Filters on form answers

A token of three to six parts names a kind of form, the form, whether an answer must exist, then an
option of the form, and a value or a range of values for it. Three parts ask for any answer to the
form, four for an answer with the option, five for an answer with the option and the value, six for
one within the range. A filter whose answer must not exist is the negation that also covers contacts
without any answer.
-/

namespace Outreach

inductive FormKind
  | text
  | radio
  | checkbox
  | range
  | date
  deriving DecidableEq

def FormKind.name : FormKind → String
  | .text => "TEXT"
  | .radio => "RADIO"
  | .checkbox => "CHECKBOX"
  | .range => "RANGE"
  | .date => "DATE"

def FormKind.all : List FormKind := [.text, .radio, .checkbox, .range, .date]

def FormKind.read (name : String) : Except Fault FormKind :=
  match all.find? fun kind => kind.name = name with
  | some kind => .ok kind
  | none => .error (.token (.formKind name))

inductive FormValue
  | text (s : String)
  | integer (n : Int64)
  /-- Milliseconds since 1970, whole seconds. -/
  | millis (n : Int64)
  deriving DecidableEq

inductive Criterion
  | answered
  | option (option : Int64)
  | value (option : Int64) (value : FormValue)
  | range (option : Int64) (low high : FormValue)
  deriving DecidableEq

structure FormFilter where
  kind : FormKind
  form : Int64
  mustExist : Bool
  criterion : Criterion
  deriving DecidableEq

/-! ### Reading -/

def FormFilter.readInteger (token part : String) : Except Fault Int64 :=
  match Text.readInt64 part with
  | some n => .ok n
  | none => .error (.token (.formInteger token part))

def FormValue.read (kind : FormKind) (token part : String) : Except Fault FormValue :=
  match kind with
  | .date =>
    match Calendar.Timestamp.read part with
    | .ok instant => .ok (.millis (Int64.ofInt instant.wholeMillis))
    | .error fault => .error (.token (.formTimestamp token part fault))
  | .range => do return .integer (← FormFilter.readInteger token part)
  | .text | .radio | .checkbox => .ok (.text part)

namespace FormFilter

def readFlagPart (token part : String) : Except Fault Bool :=
  match readFlag part with
  | some flag => .ok flag
  | none => .error (.token (.formFlag token part))

def readCriterion (kind : FormKind) (token : String) : List String → Except Fault Criterion
  | [] => .ok .answered
  | [option] => do return .option (← readInteger token option)
  | [option, value] => do
    let option ← readInteger token option
    return .value option (← FormValue.read kind token value)
  | option :: low :: high :: _ => do
    let option ← readInteger token option
    let low ← FormValue.read kind token low
    return .range option low (← FormValue.read kind token high)

def leastParts : Nat := 3

def mostParts : Nat := 6

def read (token : String) : Except Fault FormFilter :=
  let parts := Text.pieces '/' token
  let wrongCount : Except Fault FormFilter := .error (.token (.formParts token parts.length))
  match parts with
  | kind :: form :: flag :: rest =>
    if mostParts < parts.length then wrongCount
    else do
      let kind ← FormKind.read kind
      let form ← readInteger token form
      let mustExist ← readFlagPart token flag
      let criterion ← readCriterion kind token rest
      return ⟨kind, form, mustExist, criterion⟩
  | _ => wrongCount

end FormFilter

/-! ### Queries -/

/-- A date covers its whole day up to the last second. -/
def daySpanMillis : Int64 := 86399000

/-- The lower-cased words of a text between single spaces. -/
def textTerms (text : String) : List String :=
  ((Text.pieces ' ' text).filter fun word => !word.isEmpty).map Text.lower

def FormValue.operand : FormValue → Operand
  | .text s => .text s
  | .integer n => .integer n
  | .millis n => .integer n

namespace FormFilter

/-- The documents whose field holds a number, or those without answers or without the number. -/
def presence (field : String) (id : Int64) (mustExist : Bool) : Query :=
  if mustExist then .terms field [.integer id]
  else
    .compound (((Compound.empty.addShould (.missing Field.answerOption)).addShould
      (.compound (Compound.empty.addMustNot (.term field (.integer id))))).withThreshold 1)

/-- The documents with one answer to an option that matches, or those with one that does not or
without an answer to it. -/
def answer (option : Int64) (matcher : Query) (mustExist : Bool) : Query :=
  let sameOption : Query := .term Field.answerOption (.integer option)
  if mustExist then
    .nested Field.answers (.compound ((Compound.empty.addMust sameOption).addMust matcher))
  else
    let otherwise : Query := .compound ((Compound.empty.addMustNot matcher).addMust sameOption)
    let mismatch : Query :=
      .compound (((Compound.empty.addShould (.missing Field.answerOption)).addShould
        otherwise).withThreshold 1)
    .compound (((Compound.empty.addShould (.nested Field.answers mismatch)).addShould
      (.compound (Compound.empty.addMustNot sameOption))).withThreshold 1)

/-- The query that one answer's value matches. -/
def valueMatcher (kind : FormKind) (value : FormValue) : Query :=
  match kind, value with
  | .date, .millis start =>
    .range Field.answerValue (some (.integer start)) (some (.integer (start + daySpanMillis)))
  | .text, .text words => .terms Field.answerWords ((textTerms words).map .text)
  | _, value => .terms Field.answerValue [value.operand]

def rangeMatcher (low high : FormValue) : Query :=
  .range Field.answerValue (some low.operand) (some high.operand)

def query (filter : FormFilter) : Query :=
  match filter.criterion with
  | .answered => presence Field.answerForm filter.form filter.mustExist
  | .option option => presence Field.answerOption option filter.mustExist
  | .value option value => answer option (valueMatcher filter.kind value) filter.mustExist
  | .range option low high => answer option (rangeMatcher low high) filter.mustExist

end FormFilter

end Outreach
