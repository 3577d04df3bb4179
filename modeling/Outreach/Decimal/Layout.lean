import Outreach.Decimal.Shortest

/-!
# Layout of floating-point numbers

The digits of a number are chosen by `Decimal.shortest`; a layout says how they are written. Formats
are values of `Layout` and are defined where the output is written.
-/

namespace Outreach

namespace Decimal

structure Layout where
  tie : Tie
  /-- Lowest and highest power of ten of the leading digit that is written positionally; unbounded
  when absent. -/
  positional : Option (Int × Int)
  /-- What follows the digits of a whole number written positionally. -/
  wholeMark : String
  notANumber : String
  infinite : String

/-- The digits with the point after the first `places` of them, zeros filling up on either side. -/
def positional (layout : Layout) (digits : List Char) (places : Int) : String :=
  if places ≤ 0 then
    String.ofList ('0' :: '.' :: List.replicate (-places).toNat '0' ++ digits)
  else if digits.length ≤ places.toNat then
    String.ofList (digits ++ List.replicate (places.toNat - digits.length) '0') ++ layout.wholeMark
  else
    String.ofList (digits.take places.toNat ++ '.' :: digits.drop places.toNat)

/-- The digits with the point after the first of them, if there are more, and a signed exponent. -/
def scientific (digits : List Char) (leading : Int) : String :=
  let mantissa := match digits with
    | [] => []
    | [d] => [d]
    | d :: rest => d :: '.' :: rest
  let sign := if leading < 0 then '-' else '+'
  String.ofList (mantissa ++ 'e' :: sign :: Nat.toDigits 10 leading.natAbs)

/-- A nonnegative finite number. -/
def magnitude (layout : Layout) (x : Float) : String :=
  if x == 0 then "0" ++ layout.wholeMark
  else
    let d := shortest layout.tie x
    let digits := Nat.toDigits 10 d.coefficient
    let leading := d.exponent + digits.length - 1
    let isPositional := match layout.positional with
      | none => true
      | some (lowest, highest) => decide (lowest ≤ leading ∧ leading ≤ highest)
    if isPositional then positional layout digits (leading + 1) else scientific digits leading

def isNegative (x : Float) : Bool := x.toBits >>> 63 == 1

def render (layout : Layout) (x : Float) : String :=
  if x.isNaN then layout.notANumber
  else
    let text := if x.isFinite then magnitude layout x else layout.infinite
    if isNegative x then "-" ++ text else text

end Decimal

end Outreach
