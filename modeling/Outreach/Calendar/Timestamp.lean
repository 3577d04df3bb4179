import Outreach.Calendar.Instant

/-!
# Timestamps

Reading of the internet timestamp: a date, a time of day with optional decimals, and an offset from
universal time. A text that is no timestamp has one fault, the first in the order of reading; the
date is checked as soon as it is read, the time of day after its decimals, the size of the offset
last.
-/

namespace Outreach

namespace Calendar

inductive TimestampFault
  | tooShort
  | tooLong
  | invalid
  | outOfRange
  deriving DecidableEq

def TimestampFault.message : TimestampFault → String
  | .tooShort => "premature end of input"
  | .tooLong => "trailing input"
  | .invalid => "input contains invalid characters"
  | .outOfRange => "input is out of range"

namespace Timestamp

def digits (count : Nat) (cs : List Char) : Except TimestampFault (Nat × List Char) :=
  let run := cs.take count
  if run.length = count ∧ run.all Char.isDigit then .ok (Nat.ofDigitChars 10 run 0, cs.drop count)
  else .error .invalid

def mark (accepted : List Char) : List Char → Except TimestampFault (List Char)
  | c :: rest => if c ∈ accepted then .ok rest else .error .invalid
  | [] => .error .invalid

def date (cs : List Char) : Except TimestampFault (Day × List Char) := do
  let (year, cs) ← digits 4 cs
  let cs ← mark ['-'] cs
  let (month, cs) ← digits 2 cs
  let cs ← mark ['-'] cs
  let (day, cs) ← digits 2 cs
  match Day.ofDate? year month day with
  | some d => .ok (d, cs)
  | none => .error .outOfRange

def clock (cs : List Char) : Except TimestampFault ((Nat × Nat × Nat) × List Char) := do
  let (hour, cs) ← digits 2 cs
  let cs ← mark [':'] cs
  let (minute, cs) ← digits 2 cs
  let cs ← mark [':'] cs
  let (second, cs) ← digits 2 cs
  .ok ((hour, minute, second), cs)

/-- Optional decimals of a second, in nanoseconds; digits beyond the ninth are skipped. -/
def decimals : List Char → Except TimestampFault (Nat × List Char)
  | '.' :: cs =>
    let run := cs.takeWhile Char.isDigit
    if cs.isEmpty then .error .tooShort
    else if run.isEmpty then .error .invalid
    else
      let kept := run.take 9
      .ok (Nat.ofDigitChars 10 kept 0 * Nat.pow 10 (9 - kept.length), cs.drop run.length)
  | cs => .ok (0, cs)

/-- A pair of digits that may be missing at the end of the text. -/
def pair (cs : List Char) : Except TimestampFault (Nat × List Char) :=
  if (String.ofList cs).utf8ByteSize < 2 then .error .tooShort else digits 2 cs

/-- The offset in seconds; a plus or minus sign, also the typographic minus, or the letter for
universal time. -/
def offset : List Char → Except TimestampFault (Int × List Char)
  | [] => .error .tooShort
  | c :: cs =>
    if c = 'Z' ∨ c = 'z' then .ok (0, cs)
    else if c = '+' ∨ c = '-' ∨ c = '−' then do
      let (hours, cs) ← pair cs
      let cs ← if cs.isEmpty then .error .tooShort else mark [':'] cs
      let (minutes, cs) ← pair cs
      if 60 ≤ minutes then .error .outOfRange
      else
        let size : Int := hours * 3600 + minutes * 60
        .ok (if c = '+' then size else -size, cs)
    else .error .invalid

/-- The instant of a local time of day; second sixty is the leap second after second fifty-nine. -/
def instant (d : Day) (hour minute second nanos : Nat) (offset : Int) : Instant :=
  let (second, nanos) := if second = 60 then (59, nanos + Instant.leap) else (second, nanos)
  ⟨d.number * Instant.secondsOfDay + hour * 3600 + minute * 60 + second - offset, nanos⟩

def read (s : String) : Except TimestampFault Instant :=
  if s.utf8ByteSize < 19 then .error .tooShort
  else do
    let (d, cs) ← date s.toList
    let cs ← mark ['T', 't', ' '] cs
    let ((hour, minute, second), cs) ← clock cs
    let (nanos, cs) ← decimals cs
    if 23 < hour ∨ 59 < minute ∨ 60 < second then .error .outOfRange
    else
      let (offset, cs) ← offset cs
      if !cs.isEmpty then .error .tooLong
      else if Instant.secondsOfDay ≤ offset.natAbs then .error .outOfRange
      else .ok (instant d hour minute second nanos offset)

end Timestamp

end Calendar

end Outreach
