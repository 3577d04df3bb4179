/-!
# Scopes of the free text

Which fields of a contact the free text of a search is matched against.
-/

namespace Outreach

inductive TextScope
  | firstname
  | name
  | fullname
  | street
  | all
  | cityAndName
  | cityNameAndStreet
  | address
  /-- Any other name leaves the choice of fields to the engine. -/
  | other (name : String)
  deriving DecidableEq

namespace TextScope

def read (name : String) : TextScope :=
  if name = "firstname" then .firstname
  else if name = "name" then .name
  else if name = "fullname" then .fullname
  else if name = "street" then .street
  else if name = "all" then .all
  else if name = "city&name" then .cityAndName
  else if name = "city&name&street" then .cityNameAndStreet
  else if name = "address" then .address
  else .other name

def fields : TextScope → List String
  | .firstname => ["firstname"]
  | .name => ["surname", "married_name"]
  | .fullname => ["firstname", "surname", "married_name"]
  | .street => ["address.street", "address.city"]
  | .all => ["surname", "firstname", "married_name", "address.street", "address.city"]
  | .cityAndName => ["address.city", "surname", "married_name"]
  | .cityNameAndStreet => ["address.city", "surname", "married_name", "address.street"]
  | .address => ["address.street", "address.housenumber", "address.city"]
  | .other _ => []

end TextScope

end Outreach
