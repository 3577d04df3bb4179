import Outreach.Json.Printer
import Outreach.Text.Quoted

/-!
# Shapes of JSON documents

What a document reader wants at a place, what it found there instead, and the basic readers of
texts, lists and numbers.
-/

namespace Outreach

namespace Json

/-- What a reader may want at a place of a document. -/
inductive Shape
  | text
  | list
  | number
  | contact
  | address
  | answer
  | request
  | place
  deriving DecidableEq

def Shape.name : Shape → String
  | .text => "a string"
  | .list => "a sequence"
  | .number => "f64"
  | .contact => "struct Contact"
  | .address => "struct Address"
  | .answer => "struct Formdata"
  | .request => "struct SearchRequest"
  | .place => "struct GeoPoint"

inductive ShapeFault
  | wrong (found : Json) (wanted : Shape)
  | missing (member : String)
  /-- A list with more items than the record has fields. -/
  | tooLong (length : Nat)
  /-- A list that ends before the coordinates of a place. -/
  | placeTooShort (length : Nat)

def describe : Json → String
  | .null => "null"
  | .bool b => "boolean `" ++ (if b then "true" else "false") ++ "`"
  | .integer n => "integer `" ++ toString n ++ "`"
  | .float x => "floating point `" ++ floatText x ++ "`"
  | .text s => "string " ++ Text.quote s
  | .list _ => "sequence"
  | .object _ => "map"

def ShapeFault.message : ShapeFault → String
  | .wrong found wanted => "invalid type: " ++ found.describe ++ ", expected " ++ wanted.name
  | .missing member => "missing field `" ++ member ++ "`"
  | .tooLong length => "invalid length " ++ toString length ++ ", expected fewer elements in array"
  | .placeTooShort length =>
    "invalid length " ++ toString length ++ ", expected " ++ Shape.place.name ++ " with 2 elements"

def readText : Json → Except ShapeFault String
  | .text s => .ok s
  | found => .error (.wrong found .text)

/-- A text or nothing; null is nothing. -/
def readOptionalText : Json → Except ShapeFault (Option String)
  | .null => .ok none
  | .text s => .ok (some s)
  | found => .error (.wrong found .text)

def readNumber (found : Json) : Except ShapeFault Float :=
  match found.float? with
  | some x => .ok x
  | none => .error (.wrong found .number)

def readList {α : Type} (item : Json → Except ShapeFault α) : Json → Except ShapeFault (List α)
  | .list items => items.mapM item
  | found => .error (.wrong found .list)

end Json

end Outreach
