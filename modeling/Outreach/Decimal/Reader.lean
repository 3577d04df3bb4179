/-!
# Reading decimal numbers

The grammar of a decimal: an optional sign, then either a name of an infinity or of the undefined
value in any case, or digits with an optional point and at least one digit beside it, then an
optional exponent. The value is the nearest float, infinite when it is too large and zero when it is
too small.
-/

namespace Outreach

namespace Decimal

/-- The float nearest to `coefficient * 10 ^ exponent`. -/
def nearest (coefficient : Nat) (exponent : Int) : Float :=
  Float.ofScientific coefficient (exponent < 0) exponent.natAbs

/-- An exponent after its letter: an optional sign and at least one digit. -/
def exponent? : List Char → Option Int
  | [] => none
  | c :: rest =>
    let (negative, digits) :=
      if c = '-' then (true, rest) else if c = '+' then (false, rest) else (false, c :: rest)
    if digits.isEmpty || !digits.all Char.isDigit then none
    else
      let n : Int := Nat.ofDigitChars 10 digits 0
      some (if negative then -n else n)

def unsigned? (cs : List Char) : Option Float :=
  let whole := cs.takeWhile Char.isDigit
  let rest := cs.dropWhile Char.isDigit
  let (fraction, rest) := match rest with
    | '.' :: rest => (rest.takeWhile Char.isDigit, rest.dropWhile Char.isDigit)
    | rest => ([], rest)
  if whole.isEmpty && fraction.isEmpty then none
  else
    let coefficient := Nat.ofDigitChars 10 (whole ++ fraction) 0
    match rest with
    | [] => some (nearest coefficient (-fraction.length))
    | c :: rest =>
      if c = 'e' || c = 'E' then
        (exponent? rest).map fun e => nearest coefficient (e - fraction.length)
      else none

def named? (cs : List Char) : Option Float :=
  let name := cs.map Char.toLower
  if name = "inf".toList || name = "infinity".toList then some (1 / 0)
  else if name = "nan".toList then some (0 / 0)
  else none

def magnitude? (cs : List Char) : Option Float :=
  match named? cs with
  | some x => some x
  | none => unsigned? cs

def read (s : String) : Option Float :=
  match s.toList with
  | '-' :: cs => (magnitude? cs).map Float.neg
  | '+' :: cs => magnitude? cs
  | cs => magnitude? cs

end Decimal

end Outreach
