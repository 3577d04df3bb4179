import Outreach.Text.Blank
import Outreach.Text.Numeral

/-!
# Calendar days

Days of the proleptic Gregorian calendar, their numbering from the first of January 1970, and their
written form year-month-day. The numbering counts years from March, so that a leap day is the last
day of its year.
-/

namespace Outreach

namespace Calendar

def isLeap (year : Int) : Bool := year % 4 == 0 && (year % 100 != 0 || year % 400 == 0)

/-- The number of days of a month; no days for a number that is no month. -/
def monthLength (year : Int) (month : Nat) : Nat :=
  if month = 2 then if isLeap year then 29 else 28
  else if month = 4 ∨ month = 6 ∨ month = 9 ∨ month = 11 then 30
  else if 1 ≤ month ∧ month ≤ 12 then 31
  else 0

def firstYear : Int := -262143

def lastYear : Int := 262142

/-- A date that exists in a year of the calendar's range. -/
def IsDate (year : Int) (month day : Nat) : Prop :=
  firstYear ≤ year ∧ year ≤ lastYear ∧ 1 ≤ day ∧ day ≤ monthLength year month

instance (year : Int) (month day : Nat) : Decidable (IsDate year month day) :=
  inferInstanceAs (Decidable (_ ∧ _ ∧ _ ∧ _))

structure Day where
  year : Int
  month : Nat
  day : Nat
  isDate : IsDate year month day
  deriving DecidableEq

def Day.ofDate? (year : Int) (month day : Nat) : Option Day :=
  if h : IsDate year month day then some ⟨year, month, day, h⟩ else none

/-! ### Numbering -/

/-- The number of a date, counted from the first of January 1970. -/
def numberOfDate (year : Int) (month day : Nat) : Int :=
  let marchYear := if month ≤ 2 then year - 1 else year
  let marchMonth : Int := (month + 9) % 12
  365 * marchYear + marchYear / 4 - marchYear / 100 + marchYear / 400 + (153 * marchMonth + 2) / 5 +
    (day - 1) - 719468

def Day.number (d : Day) : Int := numberOfDate d.year d.month d.day

def dateOfNumber (number : Int) : Int × Nat × Nat :=
  let shifted := number + 719468
  let era := shifted / 146097
  let dayOfEra := shifted % 146097
  let century := min (dayOfEra / 36524) 3
  let dayOfCentury := dayOfEra - century * 36524
  let cycle := dayOfCentury / 1461
  let dayOfCycle := dayOfCentury % 1461
  let yearOfCycle := min (dayOfCycle / 365) 3
  let dayOfYear := dayOfCycle - yearOfCycle * 365
  let marchYear := 400 * era + 100 * century + 4 * cycle + yearOfCycle
  let marchMonth := (5 * dayOfYear + 2) / 153
  let day := dayOfYear - (153 * marchMonth + 2) / 5 + 1
  if marchMonth < 10 then (marchYear, (marchMonth + 3).toNat, day.toNat)
  else (marchYear + 1, (marchMonth - 9).toNat, day.toNat)

/-! ### Written form -/

/-- A year has at least four digits and carries a sign when it is negative or has more than four. -/
def yearText (year : Int) : List Char :=
  if 0 ≤ year ∧ year ≤ 9999 then Text.padded 4 year.toNat
  else (if year < 0 then '-' else '+') :: Text.padded 4 year.natAbs

def dateText (year : Int) (month day : Nat) : List Char :=
  yearText year ++ '-' :: Text.padded 2 month ++ '-' :: Text.padded 2 day

def Day.text (d : Day) : String := String.ofList (dateText d.year d.month d.day)

/-! ### Reading -/

/-- A run of one up to `most` digits, any number of them when there is no limit, and what follows
the run. -/
def digitRun (most : Option Nat) (cs : List Char) : Option (Nat × List Char) :=
  let run := match most with
    | some count => (cs.take count).takeWhile Char.isDigit
    | none => cs.takeWhile Char.isDigit
  if run.isEmpty then none else some (Nat.ofDigitChars 10 run 0, cs.drop run.length)

/-- A year after optional blanks: up to four digits, or a sign and any number of digits. -/
def readYear (cs : List Char) : Option (Int × List Char) :=
  match Text.dropBlanks cs with
  | '-' :: rest => (digitRun none rest).map fun (n, rest) => (-(n : Int), rest)
  | '+' :: rest => (digitRun none rest).map fun (n, rest) => ((n : Int), rest)
  | rest => (digitRun (some 4) rest).map fun (n, rest) => ((n : Int), rest)

/-- A hyphen, optional blanks and one or two digits. -/
def readPart : List Char → Option (Nat × List Char)
  | '-' :: rest => digitRun (some 2) (Text.dropBlanks rest)
  | _ => none

/-- A date in the form year-month-day that exists in the calendar. -/
def Day.read (s : String) : Option Day := do
  let (year, rest) ← readYear s.toList
  let (month, rest) ← readPart rest
  let (day, rest) ← readPart rest
  if rest.isEmpty then Day.ofDate? year month day else none

end Calendar

end Outreach
