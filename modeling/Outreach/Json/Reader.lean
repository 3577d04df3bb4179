import Outreach.Json
import Outreach.Decimal.Reader

/-!
# Reading JSON text

A reader of one JSON value. A number without point and exponent is whole when it fits a signed or an
unsigned word and is not negative zero; every other number is a float. The reader takes the digits
of a float as long as they fit an unsigned word, then scales by powers of ten that a float can hold,
rounding at each step.
-/

namespace Outreach

namespace Json

namespace Reader

def isSpace (c : Char) : Bool := c = ' ' || c = '\n' || c = '\t' || c = '\r'

def skipSpaces (cs : List Char) : List Char := cs.dropWhile isSpace

def after? : (word : List Char) → List Char → Option (List Char)
  | [], cs => some cs
  | _ :: _, [] => none
  | w :: word, c :: cs => if w = c then after? word cs else none

/-! ### Numbers -/

def largestPower : Nat := 308

/-- `x * 10 ^ exponent`, in steps of at most ten to the 308th; nothing when it is too large. The
fuel bounds the steps down, after which the value is zero. -/
def scale : Nat → Float → Int → Option Float
  | 0, _, _ => some 0
  | fuel + 1, x, exponent =>
    let power := Float.ofScientific 1 false (min exponent.natAbs largestPower)
    if exponent.natAbs ≤ largestPower then
      let y := if 0 ≤ exponent then x * power else x / power
      if y.isInf then none else some y
    else if x == 0 then some x
    else if 0 ≤ exponent then none
    else scale fuel (x / power) (exponent + largestPower)

/-- Digits taken while the number fits an unsigned word: the number, how many were taken, and the
digits left. -/
def take64 (n taken : Nat) : List Char → Nat × Nat × List Char
  | [] => (n, taken, [])
  | c :: rest =>
    let next := 10 * n + (c.toNat - '0'.toNat)
    if next < UInt64.size then take64 next (taken + 1) rest else (n, taken, c :: rest)

def ofSigned (negative : Bool) (x : Float) : Json := .float (if negative then -x else x)

def float? (negative : Bool) (whole fraction : List Char) (exponent : Int) : Option Json :=
  let (n, _, left) := take64 0 0 whole
  let (n, taken, _) := take64 n 0 fraction
  (scale 16 (Float.ofNat n) (exponent + left.length - taken)).map (ofSigned negative)

def whole? (negative : Bool) (digits : List Char) : Option Json :=
  let n := Nat.ofDigitChars 10 digits 0
  if negative then
    if 0 < n ∧ Int64.minValue.toInt ≤ -(n : Int) then some (.integer (-(n : Int)))
    else float? true digits [] 0
  else if n < UInt64.size then some (.integer n)
  else float? false digits [] 0

/-- The digits after a point, of which there is at least one, if there is a point. -/
def fraction? : List Char → Option (Option (List Char) × List Char)
  | '.' :: rest =>
    let fraction := rest.takeWhile Char.isDigit
    if fraction.isEmpty then none else some (some fraction, rest.dropWhile Char.isDigit)
  | rest => some (none, rest)

/-- The exponent after its letter, with or without a sign, if there is the letter. -/
def scaling? : List Char → Option (Option Int × List Char)
  | c :: rest =>
    if c = 'e' || c = 'E' then
      let (sign, digits) := match rest with
        | '+' :: rest => (['+'], rest)
        | '-' :: rest => (['-'], rest)
        | rest => ([], rest)
      (Decimal.exponent? (sign ++ digits.takeWhile Char.isDigit)).map fun e =>
        (some e, digits.dropWhile Char.isDigit)
    else some (none, c :: rest)
  | [] => some (none, [])

def ofParts? (negative : Bool) (whole : List Char) :
    Option (List Char) → Option Int → Option Json
  | none, none => whole? negative whole
  | fraction, exponent => float? negative whole (fraction.getD []) (exponent.getD 0)

/-- A number without its sign: no leading zeros, a digit on each side of the point. -/
def number? (negative : Bool) (cs : List Char) : Option (Json × List Char) := do
  let whole := cs.takeWhile Char.isDigit
  let rest := cs.dropWhile Char.isDigit
  if whole.isEmpty || (1 < whole.length && whole.head? == some '0') then none
  let (fraction, rest) ← fraction? rest
  let (exponent, rest) ← scaling? rest
  let value ← ofParts? negative whole fraction exponent
  some (value, rest)

/-! ### Texts -/

def hexDigit? (c : Char) : Option Nat :=
  if '0' ≤ c ∧ c ≤ '9' then some (c.toNat - '0'.toNat)
  else if 'a' ≤ c ∧ c ≤ 'f' then some (c.toNat - 'a'.toNat + 10)
  else if 'A' ≤ c ∧ c ≤ 'F' then some (c.toNat - 'A'.toNat + 10)
  else none

/-- A unit of sixteen bits written with four hexadecimal digits. -/
def unit? : List Char → Option (Nat × List Char)
  | a :: b :: c :: d :: rest => do
    let a ← hexDigit? a
    let b ← hexDigit? b
    let c ← hexDigit? c
    let d ← hexDigit? d
    some (((a * 16 + b) * 16 + c) * 16 + d, rest)
  | _ => none

/-- The character of an escape by number; a high surrogate needs a low one after it. -/
def escapedUnit? (cs : List Char) : Option (Char × List Char) := do
  let (high, rest) ← unit? cs
  if 0xD800 ≤ high ∧ high < 0xDC00 then
    match rest with
    | '\\' :: 'u' :: rest =>
      let (low, rest) ← unit? rest
      if 0xDC00 ≤ low ∧ low < 0xE000 then
        some (Char.ofNat (0x10000 + (high - 0xD800) * 0x400 + (low - 0xDC00)), rest)
      else none
    | _ => none
  else if 0xDC00 ≤ high ∧ high < 0xE000 then none
  else some (Char.ofNat high, rest)

def escaped? : List Char → Option (Char × List Char)
  | '"' :: rest => some ('"', rest)
  | '\\' :: rest => some ('\\', rest)
  | '/' :: rest => some ('/', rest)
  | 'b' :: rest => some ('\x08', rest)
  | 'f' :: rest => some ('\x0c', rest)
  | 'n' :: rest => some ('\n', rest)
  | 'r' :: rest => some ('\r', rest)
  | 't' :: rest => some ('\t', rest)
  | 'u' :: rest => escapedUnit? rest
  | _ => none

/-- The characters up to the closing quote, collected in reverse. -/
def textBody? : Nat → List Char → List Char → Option (String × List Char)
  | 0, _, _ => none
  | _ + 1, _, [] => none
  | fuel + 1, seen, c :: rest =>
    if c = '"' then some (String.ofList seen.reverse, rest)
    else if c = '\\' then
      match escaped? rest with
      | some (e, rest) => textBody? fuel (e :: seen) rest
      | none => none
    else if c.toNat < 0x20 then none
    else textBody? fuel (c :: seen) rest

/-! ### Values -/

mutual

/-- A value after optional blanks. A nested value costs two steps and stands between two brackets,
so the length of the text is enough fuel. -/
def value? : Nat → List Char → Option (Json × List Char)
  | 0, _ => none
  | fuel + 1, cs =>
    match skipSpaces cs with
    | 'n' :: rest => (after? "ull".toList rest).map fun rest => (.null, rest)
    | 't' :: rest => (after? "rue".toList rest).map fun rest => (.bool true, rest)
    | 'f' :: rest => (after? "alse".toList rest).map fun rest => (.bool false, rest)
    | '"' :: rest => (textBody? fuel [] rest).map fun (s, rest) => (.text s, rest)
    | '-' :: rest => number? true rest
    | '[' :: rest =>
      match skipSpaces rest with
      | ']' :: rest => some (.list [], rest)
      | rest => items? fuel [] rest
    | '\x7b' :: rest =>
      match skipSpaces rest with
      | '\x7d' :: rest => some (.object [], rest)
      | rest => members? fuel [] rest
    | rest => number? false rest

/-- The items of a list, collected in reverse. -/
def items? : Nat → List Json → List Char → Option (Json × List Char)
  | 0, _, _ => none
  | fuel + 1, seen, cs =>
    match value? fuel cs with
    | none => none
    | some (item, rest) =>
      match skipSpaces rest with
      | ',' :: rest => items? fuel (item :: seen) rest
      | ']' :: rest => some (.list (item :: seen).reverse, rest)
      | _ => none

/-- The members of an object, collected in reverse; of a repeated name the last value counts, at the
first place. -/
def members? : Nat → List (String × Json) → List Char → Option (Json × List Char)
  | 0, _, _ => none
  | fuel + 1, seen, cs =>
    match skipSpaces cs with
    | '"' :: rest =>
      match textBody? fuel [] rest with
      | none => none
      | some (name, rest) =>
        match skipSpaces rest with
        | ':' :: rest =>
          match value? fuel rest with
          | none => none
          | some (value, rest) =>
            match skipSpaces rest with
            | ',' :: rest => members? fuel ((name, value) :: seen) rest
            | '\x7d' :: rest => some (.ofMembers ((name, value) :: seen).reverse, rest)
            | _ => none
        | _ => none
    | _ => none

end

end Reader

def read? (s : String) : Option Json :=
  let cs := s.toList
  match Reader.value? (cs.length + 1) cs with
  | some (value, rest) => if (Reader.skipSpaces rest).isEmpty then some value else none
  | none => none

end Json

end Outreach
