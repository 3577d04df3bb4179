import Outreach.Fault
import Outreach.Named
import Outreach.Text.Pieces

/-!
# Positional tokens

A request carries its filters as a list of tokens, each with a meaning by its position. An empty
token is the same as an absent one. Sizes and offsets that cannot be read take their default.
-/

namespace Outreach

/-- The literals for yes and no. -/
def readFlag (s : String) : Option Bool :=
  if s ∈ ["1", "t", "T", "TRUE", "true", "True"] then some true
  else if s ∈ ["0", "f", "F", "FALSE", "false", "False"] then some false
  else none

abbrev Tokens := List String

namespace Tokens

def groupAt : Nat := 0

def scopeAt : Nat := 1

def sizeAt : Nat := 2

def offsetAt : Nat := 3

def genderAt : Nat := 4

def stationAt : Nat := 5

def ageAt : Nat := 6

def orderFieldAt : Nat := 7

def orderDirectionAt : Nat := 8

def lastChangeAt : Nat := 9

/-- The mail filter, or the first form filter when the token reads as one. -/
def mailAt : Nat := 10

def formsAt : Nat := 11

def defaultSize : UInt64 := 1000

/-- The token at a position, unless it is absent or empty. -/
def at? (tokens : Tokens) (position : Nat) : Option String :=
  match tokens[position]? with
  | some token => if token.isEmpty then none else some token
  | none => none

def sizeAtD (tokens : Tokens) (position : Nat) (default : UInt64) : UInt64 :=
  ((tokens.at? position).bind Text.readUInt64).getD default

def read? {α : Type} (tokens : Tokens) (position : Nat) (reader : String → Except Fault α) :
    Except Fault (Option α) :=
  match tokens.at? position with
  | some token => do return some (← reader token)
  | none => .ok none

def group (tokens : Tokens) : Except Fault String :=
  match tokens.at? groupAt with
  | some group => .ok group
  | none => .error (.token .noGroup)

/-- The distinct parts of a token between slashes, each where it first occurs. -/
def valueSet (token : String) : List String := firstOccurrences (Text.pieces '/' token)

end Tokens

end Outreach
