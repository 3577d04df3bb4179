import Outreach.Filter.AgeBand
import Outreach.Filter.Form
import Outreach.Filter.TextScope
import Outreach.Filter.Tokens

/-!
# Selections of contacts

The typed view of a contact search's tokens: group, scope of the free text, page, order, and one
optional filter for each further position, then any number of filters on form answers.
-/

namespace Outreach

structure Page where
  size : UInt64
  offset : UInt64
  deriving DecidableEq

structure Order where
  field : String
  ascending : Bool
  deriving DecidableEq

structure StationFilter where
  /-- Accepted polling stations; the empty text is a station that is recorded as empty. -/
  values : List String
  /-- Contacts without a polling station are accepted too. -/
  orMissing : Bool
  deriving DecidableEq

structure AgeFilter where
  orUnknown : Bool
  bands : List AgeBand
  deriving DecidableEq

inductive MailFilter
  | present
  | absent
  deriving DecidableEq

structure Selection where
  group : String
  scope : TextScope
  page : Page
  order : Order
  genders : Option (List String)
  stations : Option StationFilter
  ages : Option AgeFilter
  changedSince : Option DateBound
  mail : Option MailFilter
  forms : List FormFilter
  deriving DecidableEq

def StationFilter.missingValue : String := "missing"

def StationFilter.read (token : String) : StationFilter :=
  let values := Tokens.valueSet token
  let named := values.filter (· ≠ missingValue)
  if missingValue ∈ values then ⟨if "" ∈ named then named else named ++ [""], true⟩
  else ⟨named, false⟩

/-- Adds one code of an age filter; the code zero stands for an unknown age. -/
def AgeFilter.addCode (filter : AgeFilter) (code : String) : Except Fault AgeFilter :=
  if code = AgeBand.unknownCode then .ok { filter with orUnknown := true }
  else do
    let band ← AgeBand.read code
    return if band ∈ filter.bands then filter else { filter with bands := filter.bands ++ [band] }

def AgeFilter.read (token : String) : Except Fault AgeFilter :=
  (Tokens.valueSet token).foldlM AgeFilter.addCode ⟨false, []⟩

/-- The earliest last change: a timestamp or a calendar day. -/
def DateBound.readLastChange (token : String) : Except Fault DateBound :=
  match Calendar.Timestamp.read token with
  | .ok t => .ok (.instant t)
  | .error _ =>
    match Calendar.Day.read token with
    | some d => .ok (.day d)
    | none => .error (.token (.lastChange token))

/-- The mail value that asks for an address to be present; every other single value asks for
none. -/
def MailFilter.presentValue : String := "SET"

/-- A token of a single value is a mail filter; otherwise one long enough is a form filter, and a
shorter one no filter at all. -/
def MailFilter.readOrForm (token : String) : Except Fault (Option MailFilter × Option FormFilter) :=
  let values := Tokens.valueSet token
  if values.length = 1 then
    .ok (some (if presentValue ∈ values then .present else .absent), none)
  else if FormFilter.leastParts ≤ (Text.pieces '/' token).length then do
    return (none, some (← FormFilter.read token))
  else .ok (none, none)

def Page.read (tokens : Tokens) : Page :=
  ⟨tokens.sizeAtD Tokens.sizeAt Tokens.defaultSize, tokens.sizeAtD Tokens.offsetAt 0⟩

/-- By surname unless a field is given; ascending unless the direction reads as false. -/
def Order.read (tokens : Tokens) : Order :=
  ⟨(tokens.at? Tokens.orderFieldAt).getD Field.surname,
    ((tokens.at? Tokens.orderDirectionAt).bind readFlag).getD true⟩

/-- The form filters from their first position on, empty tokens skipped. -/
def FormFilter.readAll (tokens : Tokens) : Except Fault (List FormFilter) :=
  ((tokens.drop Tokens.formsAt).filter fun token => !token.isEmpty).mapM FormFilter.read

namespace Selection

/-- Reads the tokens of a contact search, of which there must be at least `least`, and never fewer
than one. -/
def readAtLeast (least : Nat) (tokens : Tokens) : Except Fault Selection :=
  if tokens.length < max least 1 then .error (.token (.tooFew (max least 1) tokens.length))
  else do
    let group ← tokens.group
    let ages ← tokens.read? Tokens.ageAt AgeFilter.read
    let changedSince ← tokens.read? Tokens.lastChangeAt DateBound.readLastChange
    let mailOrForm ← tokens.read? Tokens.mailAt MailFilter.readOrForm
    let (mail, leading) := mailOrForm.getD (none, none)
    let others ← FormFilter.readAll tokens
    return {
      group := group
      scope := TextScope.read ((tokens.at? Tokens.scopeAt).getD "")
      page := Page.read tokens
      order := Order.read tokens
      genders := (tokens.at? Tokens.genderAt).map Tokens.valueSet
      stations := (tokens.at? Tokens.stationAt).map StationFilter.read
      ages := ages
      changedSince := changedSince
      mail := mail
      forms := leading.toList ++ others }

def read (tokens : Tokens) : Except Fault Selection := readAtLeast 1 tokens

end Selection

end Outreach
