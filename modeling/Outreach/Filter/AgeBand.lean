import Outreach.Fault
import Outreach.Query.Bound

/-!
# Age bands

Bands of age by their edges in years. A filter on birth dates includes both edges of a band, so
neighboring bands share the birth dates on their common edge; the windows that are counted are
bounded on both sides.
-/

namespace Outreach

inductive AgeBand
  | under18
  | from18
  | from25
  | from35
  | from50
  | from65
  deriving DecidableEq

namespace AgeBand

def all : List AgeBand := [.under18, .from18, .from25, .from35, .from50, .from65]

theorem mem_all (band : AgeBand) : band ∈ all := by
  cases band <;> decide

/-- The number that stands for a band; zero stands for an unknown age. -/
def code : AgeBand → Nat
  | .under18 => 1
  | .from18 => 2
  | .from25 => 3
  | .from35 => 4
  | .from50 => 5
  | .from65 => 6

def unknownCode : String := "0"

def codeText (band : AgeBand) : String := toString band.code

def ofCode? (code : String) : Option AgeBand := all.find? fun band => band.codeText = code

def read (code : String) : Except Fault AgeBand :=
  match ofCode? code with
  | some band => .ok band
  | none => .error (.unsupported (.ageCode code))

def least : AgeBand → Option UInt32
  | .under18 => none
  | .from18 => some 18
  | .from25 => some 25
  | .from35 => some 35
  | .from50 => some 50
  | .from65 => some 65

/-- The age at which a band ends. -/
def most : AgeBand → Option UInt32
  | .under18 => some 18
  | .from18 => some 25
  | .from25 => some 35
  | .from35 => some 50
  | .from50 => some 65
  | .from65 => none

/-- The age that closes the window of the oldest band. -/
def oldest : UInt32 := 150

/-- The earliest and the latest birth date of a band, both included. -/
def birthBounds (band : AgeBand) : Option DateBound × Option DateBound :=
  (band.most.map .yearsAgo, band.least.map .yearsAgo)

/-- The window of birth dates in which a band is counted, from its first day up to before its
last. -/
def birthWindow (band : AgeBand) : DateBound × DateBound :=
  (.yearsAgo (band.most.getD oldest), (band.least.map .yearsAgo).getD .today)

end AgeBand

end Outreach
