/-!
# Whole numbers as text

Numerals are read in full or not at all: an optional sign, then at least one ASCII digit and nothing
else. Leading zeros carry no meaning. A numeral outside the range of its type is not read.
-/

namespace Outreach

namespace Text

/-- The value of a run of ASCII digits; the run may not be empty. -/
def natural? (cs : List Char) : Option Nat :=
  if cs.isEmpty || !cs.all Char.isDigit then none else some (Nat.ofDigitChars 10 cs 0)

def unsigned? : List Char → Option Nat
  | '+' :: cs => natural? cs
  | cs => natural? cs

def signed? : List Char → Option Int
  | '+' :: cs => (natural? cs).map Int.ofNat
  | '-' :: cs => (natural? cs).map fun n => -Int.ofNat n
  | cs => (natural? cs).map Int.ofNat

/-- The sixty-four bit word of a natural number that fits. -/
def fitUInt64? (n : Nat) : Option UInt64 := if n < UInt64.size then some (UInt64.ofNat n) else none

/-- The signed sixty-four bit word of an integer that fits. -/
def fitInt64? (n : Int) : Option Int64 :=
  if Int64.minValue.toInt ≤ n ∧ n ≤ Int64.maxValue.toInt then some (Int64.ofInt n) else none

def readUInt64 (s : String) : Option UInt64 := (unsigned? s.toList).bind fitUInt64?

def readInt64 (s : String) : Option Int64 := (signed? s.toList).bind fitInt64?

theorem natural?_toDigits (n : Nat) : natural? (Nat.toDigits 10 n) = some n := by
  have hall : (Nat.toDigits 10 n).all Char.isDigit = true := by
    rw [List.all_eq_true]
    exact fun c hc => Nat.isDigit_of_mem_toDigits (by decide) (by decide) hc
  simp [natural?, hall, Nat.toDigits_ne_nil, Nat.ofDigitChars_ten_toDigits]

theorem unsigned?_toDigits (n : Nat) : unsigned? (Nat.toDigits 10 n) = some n := by
  rw [← natural?_toDigits n]
  unfold unsigned?
  split
  · rename_i cs hplus
    have hdigit : Char.isDigit '+' = true := by
      apply Nat.isDigit_of_mem_toDigits (n := n) (b := 10) (by decide) (by decide)
      rw [hplus]
      exact List.mem_cons_self
    exact absurd hdigit (by decide)
  · rfl

theorem readUInt64_toString {n : Nat} (hn : n < UInt64.size) :
    readUInt64 (toString n) = some (UInt64.ofNat n) := by
  have htext : (toString n).toList = Nat.toDigits 10 n := String.toList_ofList
  rw [readUInt64, htext, unsigned?_toDigits]
  exact if_pos hn

/-- The digits of a natural number, padded with zeros on the left to `width`. -/
def padded (width n : Nat) : List Char :=
  let digits := Nat.toDigits 10 n
  List.replicate (width - digits.length) '0' ++ digits

end Text

end Outreach
