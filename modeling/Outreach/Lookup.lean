import Outreach.Filter.Tokens
import Outreach.Decimal.Reader

/-!
# Lookups

The tokens of the two lookups that are no contact search: addresses, and the contacts nearest to a
place. They share the positions of group, size and offset with a search.
-/

namespace Outreach

structure AddressLookup where
  group : String
  buckets : UInt64
  hitsPerBucket : UInt64
  deriving DecidableEq

def AddressLookup.read (tokens : Tokens) : Except Fault AddressLookup := do
  let group ← tokens.group
  return ⟨group, tokens.sizeAtD Tokens.sizeAt Tokens.defaultSize,
    tokens.sizeAtD Tokens.offsetAt Tokens.defaultSize⟩

structure NearbyLookup where
  group : String
  size : UInt64
  radius : Option Float
  deriving DecidableEq

namespace NearbyLookup

/-- Contacts returned per requested unit of size. -/
def sizeFactor : Nat := 10

/-- Ten times a requested size, the largest word at most. -/
def scaled (size : UInt64) : UInt64 :=
  UInt64.ofNat (min (size.toNat * sizeFactor) (UInt64.size - 1))

/-- A distance in metres: finite and not negative. -/
def readRadius (token : String) : Except Fault Float :=
  match Decimal.read token with
  | some x => if x.isFinite && 0 ≤ x then .ok x else .error (.token (.radius token))
  | none => .error (.token (.radius token))

/-- A radius that cannot be read is reported before a missing group. -/
def read (tokens : Tokens) : Except Fault NearbyLookup := do
  let radius ← tokens.read? Tokens.offsetAt readRadius
  let group ← tokens.group
  let size := ((tokens.at? Tokens.sizeAt).bind Text.readUInt64).map scaled
  return ⟨group, size.getD Tokens.defaultSize, radius⟩

end NearbyLookup

end Outreach
