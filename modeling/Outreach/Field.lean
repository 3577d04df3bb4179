/-!
# Fields of the indexes

The names under which the engine indexes contacts, their form answers, and the facts recorded about
them.
-/

namespace Outreach

namespace Field

/-! ### Contacts -/

def group : String := "group_id"

def surname : String := "surname"

def gender : String := "gender"

def station : String := "address.PollingStation"

def birthdate : String := "birthdate"

def ageCategory : String := "age_category"

def lastChange : String := "lastchange"

def changedBy : String := "lastchangeuserid"

def mail : String := "mail"

def phone : String := "phone"

def city : String := "address.city"

def postalCode : String := "address.postalcode"

def latitude : String := "address.latitude"

def longitude : String := "address.longitude"

def location : String := "address.location"

/-! ### Form answers -/

def answers : String := "formdatas"

def answerForm : String := "formdatas.form_id"

def answerOption : String := "formdatas.form_ref_id"

/-- The answer cut into words. -/
def answerWords : String := "formdatas.data"

/-- The answer as one value. -/
def answerValue : String := "formdatas.data.strictdata"

/-! ### Facts -/

def factLocation : String := "contact.address.location"

def factStatus : String := "status"

def factContact : String := "contact_id"

end Field

end Outreach
