import Outreach.Json
import Outreach.Decimal.Layout

/-!
# Compact JSON text

The text of a value without blanks. Only the quote, the backslash and the control characters below
the space are escaped.
-/

namespace Outreach

namespace Json

/-- Floats are written with the fewest digits, an even digit on a tie, positionally from a
hundred-thousandth up to below ten quadrillions and with at least one decimal. -/
def floatLayout : Decimal.Layout where
  tie := .even
  positional := some (-5, 15)
  wholeMark := ".0"
  notANumber := "null"
  infinite := "null"

def escapeChar (c : Char) : List Char :=
  if c = '"' then ['\\', '"']
  else if c = '\\' then ['\\', '\\']
  else if c = '\x08' then ['\\', 'b']
  else if c = '\x0c' then ['\\', 'f']
  else if c = '\n' then ['\\', 'n']
  else if c = '\r' then ['\\', 'r']
  else if c = '\t' then ['\\', 't']
  else if c.toNat < 0x20 then
    ['\\', 'u', '0', '0', Nat.digitChar (c.toNat / 16), Nat.digitChar (c.toNat % 16)]
  else [c]

def quoted (s : String) : String := String.ofList ('"' :: s.toList.flatMap escapeChar ++ ['"'])

def floatText (x : Float) : String := Decimal.render floatLayout x

mutual

def render : Json → String
  | .null => "null"
  | .bool b => if b then "true" else "false"
  | .integer n => toString n
  | .float x => floatText x
  | .text s => quoted s
  | .list items => "[" ++ ",".intercalate (renderItems items) ++ "]"
  | .object members => "\x7b" ++ ",".intercalate (renderMembers members) ++ "\x7d"

def renderItems : List Json → List String
  | [] => []
  | item :: rest => item.render :: renderItems rest

def renderMembers : List (String × Json) → List String
  | [] => []
  | (name, value) :: rest => (quoted name ++ ":" ++ value.render) :: renderMembers rest

end

end Json

end Outreach
