import Outreach.Json
import Outreach.Text.Blank
import Outreach.Text.Pieces
import Outreach.Decimal.Reader
import Outreach.Json.Shape

/-!
# Places

A place on the globe by latitude and longitude in degrees: its forms in requests and in the engine's
language, and the text of a place as a caller types it.
-/

namespace Outreach

structure Place where
  lat : Float
  lng : Float
  deriving DecidableEq

namespace Place

/-- The form in the engine's language, which abbreviates longitude its own way. -/
def toEngine (p : Place) : Json := .object [("lat", .ofFloat p.lat), ("lon", .ofFloat p.lng)]

def toJson (p : Place) : Json := .object [("lat", .ofFloat p.lat), ("lng", .ofFloat p.lng)]

/-- One coordinate after the other as they are met in the document. -/
def readMember (known : Option Float × Option Float) (member : String × Json) :
    Except Json.ShapeFault (Option Float × Option Float) :=
  if member.1 = "lat" then do return (some (← member.2.readNumber), known.2)
  else if member.1 = "lng" then do return (known.1, some (← member.2.readNumber))
  else .ok known

/-- Reads an object of two coordinates, or a list of them. -/
def ofJson : Json → Except Json.ShapeFault Place
  | .object members => do
    match ← members.foldlM readMember (none, none) with
    | (none, _) => .error (.missing "lat")
    | (some _, none) => .error (.missing "lng")
    | (some lat, some lng) => .ok ⟨lat, lng⟩
  | .list items =>
    match items with
    | [] => .error (.placeTooShort 0)
    | [lat] => do
      let _ ← lat.readNumber
      .error (.placeTooShort 1)
    | lat :: lng :: rest => do
      let lat ← lat.readNumber
      let lng ← lng.readNumber
      if rest.isEmpty then .ok ⟨lat, lng⟩ else .error (.tooLong items.length)
  | found => .error (.wrong found .place)

/-- A coordinate between two bounds, blanks around it ignored. -/
def readCoordinate? (bound : Float) (text : String) : Option Float := do
  let x ← Decimal.read (Text.trim text)
  if -bound ≤ x ∧ x ≤ bound then some x else none

/-- Reads latitude and longitude on either side of a single comma. -/
def read? (text : String) : Option Place :=
  match Text.pieces ',' text with
  | [lat, lng] => do
    let lat ← readCoordinate? 90 lat
    let lng ← readCoordinate? 180 lng
    some ⟨lat, lng⟩
  | _ => none

end Place

end Outreach
