/-!
# The shortest decimal that identifies a binary number

A finite binary number stands for every real number that rounds to it. Among the decimals in that
interval we take one on the coarsest grid of powers of ten that has a point there, which is one with
the fewest digits, and of two such points the nearer one. The interval holds its ends exactly when
the significand is even, since a tie is rounded to the even neighbor.
-/

namespace Outreach

namespace Decimal

/-- A positive number `significand * 2 ^ exponent`, with the gap below it half as wide as the one
above when `narrow`. -/
structure Binary where
  significand : Nat
  exponent : Int
  narrow : Bool

structure Digits where
  coefficient : Nat
  exponent : Int
  deriving DecidableEq

/-- Which of two equally near grid points is taken. -/
inductive Tie
  | even
  | up
  deriving DecidableEq

/-- The magnitude of a finite float. -/
def Binary.ofFloat (x : Float) : Binary :=
  let biased : Nat := (x.toBits >>> 52 &&& 0x7FF).toNat
  let fraction : Nat := (x.toBits &&& 0xFFFFFFFFFFFFF).toNat
  if biased = 0 then ⟨fraction, -1074, false⟩
  else ⟨fraction + 0x10000000000000, (biased : Int) - 1075, fraction == 0 && 1 < biased⟩

/-- The number and the ends of its interval in quarters of a unit in the last place, scaled to
integers. Grid points `k * 10 ^ power` are scaled to `k * step`. -/
structure Grid where
  step : Nat
  value : Nat
  low : Nat
  high : Nat
  closed : Bool

def Binary.grid (b : Binary) (power : Int) : Grid :=
  let quarter := b.exponent - 2
  let scale := Nat.pow 2 quarter.toNat * Nat.pow 10 (-power).toNat
  { step := Nat.pow 10 power.toNat * Nat.pow 2 (-quarter).toNat
    value := 4 * b.significand * scale
    low := (4 * b.significand - if b.narrow then 1 else 2) * scale
    high := (4 * b.significand + 2) * scale
    closed := b.significand % 2 == 0 }

def Grid.holds (g : Grid) (k : Nat) : Bool :=
  if g.closed then g.low ≤ k * g.step && k * g.step ≤ g.high
  else g.low < k * g.step && k * g.step < g.high

/-- The grid point in the interval that is nearest to the number, if there is one. -/
def Grid.nearest? (g : Grid) (tie : Tie) : Option Nat :=
  let below := g.value / g.step
  match g.holds below, g.holds (below + 1) with
  | false, false => none
  | true, false => some below
  | false, true => some (below + 1)
  | true, true =>
    let fromBelow := g.value - below * g.step
    let fromAbove := (below + 1) * g.step - g.value
    if fromBelow < fromAbove then some below
    else if fromAbove < fromBelow then some (below + 1)
    else match tie with
      | .up => some (below + 1)
      | .even => some (if below % 2 = 0 then below else below + 1)

/-- Searches ever finer grids, from `10 ^ power` down. -/
def Binary.search (b : Binary) (tie : Tie) : Nat → Int → Digits
  | 0, power => ⟨0, power⟩
  | fuel + 1, power =>
    match (b.grid power).nearest? tie with
    | some k => ⟨k, power⟩
    | none => b.search tie fuel (power - 1)

/-- Every finite float is below `10 ^ 309` and has a point of the grid of `10 ^ -324` in its
interval. -/
def shortest (tie : Tie) (x : Float) : Digits := (Binary.ofFloat x).search tie 634 309

end Decimal

end Outreach
