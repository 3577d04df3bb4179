import Outreach.Json.Shape
import Outreach.Text.Blank
import Outreach.Text.Numeral
import Outreach.Decimal.Reader

/-!
# Contacts

The documents of the contact index: a person with an address and the answers given to forms. Reading
and writing keep every member that is not modelled, in its order. Identifiers and coordinates are
read from numbers and from numeric texts alike; one that cannot be read is absent and is no fault.
-/

namespace Outreach

structure FormAnswer where
  form : Option Int64 := none
  option : Option Int64 := none
  data : Json := .null

structure Address where
  id : Option Int64 := none
  street : Option String := none
  houseNumber : Option String := none
  city : Option String := none
  postalCode : Option String := none
  latitude : Option Float := none
  longitude : Option Float := none
  station : Option String := none
  extra : List (String × Json) := []

structure Contact where
  id : Option Int64 := none
  firstname : Option String := none
  surname : Option String := none
  marriedName : Option String := none
  gender : Option String := none
  birthdate : Option String := none
  mail : Option String := none
  phone : Option String := none
  address : Option Address := none
  answers : List FormAnswer := []
  extra : List (String × Json) := []

/-! ### Lenient numbers -/

/-- An identifier: a whole number, or a text that holds one between blanks. -/
def Json.identifier? : Json → Option Int64
  | .integer n => (Json.integer n).int64?
  | .text s => Text.readInt64 (Text.trim s)
  | _ => none

/-- A coordinate: any number, or a text that holds one between blanks. -/
def Json.coordinate? : Json → Option Float
  | .text s => Decimal.read (Text.trim s)
  | value => value.float?

def Json.ofIdentifier : Option Int64 → Json
  | some n => .ofInt64 n
  | none => .null

def Json.ofCoordinate : Option Float → Json
  | some x => .ofFloat x
  | none => .null

/-! ### Reading -/

namespace FormAnswer

def readMember (a : FormAnswer) (member : String × Json) : Except Json.ShapeFault FormAnswer :=
  match member.1 with
  | "form_id" => .ok { a with form := member.2.identifier? }
  | "form_ref_id" => .ok { a with option := member.2.identifier? }
  | "data" => .ok { a with data := member.2 }
  | _ => .ok a

def memberNames : List String := ["form_id", "form_ref_id", "data"]

/-- Reads an object, or a list of the members in their order. -/
def ofJson : Json → Except Json.ShapeFault FormAnswer
  | .object members => members.foldlM readMember {}
  | .list items =>
    if memberNames.length < items.length then .error (.tooLong items.length)
    else (memberNames.zip items).foldlM readMember {}
  | found => .error (.wrong found .answer)

end FormAnswer

namespace Address

/-- Takes in one member; the members are read in the order of the document, so the first fault in it
counts. -/
def readMember (a : Address) (member : String × Json) : Except Json.ShapeFault Address :=
  let (name, value) := member
  match name with
  | "id" => .ok { a with id := value.identifier? }
  | "street" => do return { a with street := ← value.readOptionalText }
  | "housenumber" => do return { a with houseNumber := ← value.readOptionalText }
  | "city" => do return { a with city := ← value.readOptionalText }
  | "postalcode" => do return { a with postalCode := ← value.readOptionalText }
  | "latitude" => .ok { a with latitude := value.coordinate? }
  | "longitude" => .ok { a with longitude := value.coordinate? }
  | "PollingStation" => do return { a with station := ← value.readOptionalText }
  | _ => .ok { a with extra := a.extra ++ [member] }

def ofJson : Json → Except Json.ShapeFault Address
  | .object members => members.foldlM readMember {}
  | found => .error (.wrong found .address)

end Address

namespace Contact

def readAddress : Json → Except Json.ShapeFault (Option Address)
  | .null => .ok none
  | value => do return some (← Address.ofJson value)

/-- Takes in one member; the members are read in the order of the document, so the first fault in it
counts. -/
def readMember (c : Contact) (member : String × Json) : Except Json.ShapeFault Contact :=
  let (name, value) := member
  match name with
  | "id" => .ok { c with id := value.identifier? }
  | "firstname" => do return { c with firstname := ← value.readOptionalText }
  | "surname" => do return { c with surname := ← value.readOptionalText }
  | "married_name" => do return { c with marriedName := ← value.readOptionalText }
  | "gender" => do return { c with gender := ← value.readOptionalText }
  | "birthdate" => do return { c with birthdate := ← value.readOptionalText }
  | "mail" => do return { c with mail := ← value.readOptionalText }
  | "phone" => do return { c with phone := ← value.readOptionalText }
  | "address" => do return { c with address := ← readAddress value }
  | "formdatas" => do return { c with answers := ← value.readList FormAnswer.ofJson }
  | _ => .ok { c with extra := c.extra ++ [member] }

def ofJson : Json → Except Json.ShapeFault Contact
  | .object members => members.foldlM readMember {}
  | found => .error (.wrong found .contact)

end Contact

/-! ### Writing -/

/-- A member that is left out when it has no text. -/
def Json.textMember (name : String) (value : Option String) : List (String × Json) :=
  value.toList.map fun s => (name, .text s)

def FormAnswer.toJson (a : FormAnswer) : Json :=
  .object [("form_id", .ofIdentifier a.form), ("form_ref_id", .ofIdentifier a.option),
    ("data", a.data)]

/-- The modelled members; identifier and coordinates are written even when they are absent. -/
def Address.members (a : Address) : List (String × Json) :=
  [("id", .ofIdentifier a.id)] ++ Json.textMember "street" a.street ++
    Json.textMember "housenumber" a.houseNumber ++ Json.textMember "city" a.city ++
    Json.textMember "postalcode" a.postalCode ++
    [("latitude", .ofCoordinate a.latitude), ("longitude", .ofCoordinate a.longitude)] ++
    Json.textMember "PollingStation" a.station

def Address.toJson (a : Address) : Json := .object (Named.extend a.members a.extra)

/-- The modelled members; the identifier is written even when it is absent. -/
def Contact.members (c : Contact) : List (String × Json) :=
  [("id", .ofIdentifier c.id)] ++ Json.textMember "firstname" c.firstname ++
    Json.textMember "surname" c.surname ++ Json.textMember "married_name" c.marriedName ++
    Json.textMember "gender" c.gender ++ Json.textMember "birthdate" c.birthdate ++
    Json.textMember "mail" c.mail ++ Json.textMember "phone" c.phone ++
    c.address.toList.map (fun a => ("address", a.toJson)) ++
    if c.answers.isEmpty then [] else [("formdatas", .list (c.answers.map FormAnswer.toJson))]

def Contact.toJson (c : Contact) : Json := .object (Named.extend c.members c.extra)

/-- Reads the documents of hits; one that is no contact is a fault for all of them. -/
def Contact.ofHits (hits : List Json) : Except Json.ShapeFault (List Contact) :=
  hits.mapM Contact.ofJson

end Outreach
