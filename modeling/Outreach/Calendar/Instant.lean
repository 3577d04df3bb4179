import Outreach.Calendar.Day

/-!
# Instants

An instant is counted in seconds of universal time from the beginning of 1970, with nanoseconds. A
leap second is the second before it with a billion nanoseconds or more, so it never changes the
count of seconds.
-/

namespace Outreach

namespace Calendar

structure Instant where
  seconds : Int
  nanos : Nat
  deriving DecidableEq

namespace Instant

def secondsOfDay : Int := 86400

def leap : Nat := 1000000000

def ofDay (d : Day) : Instant := ⟨d.number * secondsOfDay, 0⟩

/-- The instant a number of milliseconds after the beginning of 1970, if it lies in the calendar's
range. -/
def ofMillis? (millis : Int) : Option Instant :=
  if numberOfDate firstYear 1 1 * 86400000 ≤ millis ∧
      millis < (numberOfDate lastYear 12 31 + 1) * 86400000 then
    some ⟨millis / 1000, (millis % 1000).toNat * 1000000⟩
  else none

/-- Milliseconds of the whole seconds; what is below a second does not count. -/
def wholeMillis (t : Instant) : Int := t.seconds * 1000

/-- Universal time with three decimals, cut off; a leap second is written as second sixty. -/
def text (t : Instant) : String :=
  let (year, month, day) := dateOfNumber (t.seconds / secondsOfDay)
  let clock := (t.seconds % secondsOfDay).toNat
  let (second, nanos) :=
    if leap ≤ t.nanos then (clock % 60 + 1, t.nanos - leap) else (clock % 60, t.nanos)
  String.ofList (dateText year month day ++ 'T' :: Text.padded 2 (clock / 3600) ++
    ':' :: Text.padded 2 (clock / 60 % 60) ++ ':' :: Text.padded 2 second ++
    '.' :: Text.padded 3 (nanos / 1000000) ++ ['Z'])

/-- Nanoseconds from `earlier` to `later`. A leap second is counted when the other instant's time of
day lies beyond it. -/
def nanosBetween (earlier later : Instant) : Int :=
  let clockEarlier := earlier.seconds % secondsOfDay
  let clockLater := later.seconds % secondsOfDay
  let passed : Int :=
    if clockEarlier < clockLater then if leap ≤ earlier.nanos then 1 else 0
    else if clockLater < clockEarlier then if leap ≤ later.nanos then -1 else 0
    else 0
  (later.seconds - earlier.seconds + passed) * 1000000000 + (later.nanos - earlier.nanos)

end Instant

end Calendar

end Outreach
