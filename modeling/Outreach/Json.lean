import Outreach.Named

/-!
# JSON values

A JSON value keeps the order of the members of its objects and the difference between a whole number
and a floating-point number: `3` and `3.0` are different values. Floating-point numbers are finite;
a float that is not becomes null.
-/

namespace Outreach

inductive Json where
  | null
  | bool (b : Bool)
  | integer (n : Int)
  | float (x : Float)
  | text (s : String)
  | list (items : List Json)
  | object (members : List (String × Json))

namespace Json

instance : Inhabited Json := ⟨.null⟩

def ofFloat (x : Float) : Json := if x.isFinite then .float x else .null

def ofUInt64 (n : UInt64) : Json := .integer n.toNat

def ofInt64 (n : Int64) : Json := .integer n.toInt

def ofTexts (texts : List String) : Json := .list (texts.map .text)

/-- An object of members inserted in turn, so that a later member of a repeated name replaces the
value of the earlier one. -/
def ofMembers (members : List (String × Json)) : Json := .object (Named.ofList members)

def only (name : String) (value : Json) : Json := .object [(name, value)]

/-- The member of an object under a name; other values have no members. -/
def get? (name : String) : Json → Option Json
  | .object members => Named.get? name members
  | _ => none

def text? : Json → Option String
  | .text s => some s
  | _ => none

def isObject : Json → Bool
  | .object _ => true
  | _ => false

/-- A whole number that is an unsigned word; a float is none, even when whole. -/
def uint64? : Json → Option UInt64
  | .integer n => if 0 ≤ n ∧ n.toNat < UInt64.size then some (UInt64.ofNat n.toNat) else none
  | _ => none

def int64? : Json → Option Int64
  | .integer n =>
    if Int64.minValue.toInt ≤ n ∧ n ≤ Int64.maxValue.toInt then some (Int64.ofInt n) else none
  | _ => none

/-- Any number as a float, whole numbers rounded to the nearest. -/
def float? : Json → Option Float
  | .integer n => some (Float.ofInt n)
  | .float x => some x
  | _ => none

theorem uint64?_ofUInt64 (n : UInt64) : (ofUInt64 n).uint64? = some n := by
  have hlt := n.toNat_lt
  simp [ofUInt64, uint64?]
  omega

theorem int64?_ofInt64 (n : Int64) : (ofInt64 n).int64? = some n := by
  rw [ofInt64, int64?, if_pos ⟨n.minValue_le_toInt, n.toInt_le⟩, Int64.ofInt_toInt]

end Json

end Outreach
