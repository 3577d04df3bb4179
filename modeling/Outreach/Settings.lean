import Outreach.Text.Numeral

/-!
# Settings

Where the engine is, which indexes it searches, and the limits of some operations. Settings come
from the environment; a variable that is unset or cannot be read keeps its default.
-/

namespace Outreach

structure Settings where
  engineUrl : String := "http://127.0.0.1:9200"
  contactsIndex : String := "contacts"
  /-- The index of what is recorded about contacts. -/
  factsIndex : String := "facts"
  timeoutSeconds : UInt64 := 30
  /-- The most identifiers that a lookup by polygon returns. -/
  idLimit : UInt64 := 10000
  /-- The most polling stations among the indicators. -/
  stationBuckets : UInt64 := 500
  /-- The form whose answers a pivot level of presence reads. -/
  presenceForm : Int64 := 1
  deriving DecidableEq

namespace Settings

def trimSlashes (url : String) : String :=
  String.ofList (url.toList.reverse.dropWhile (· = '/')).reverse

def ofEnvironment (valueOf : String → Option String) : Settings :=
  let initial : Settings := {}
  { engineUrl := ((valueOf "CANVASS_ENGINE_URL").map trimSlashes).getD initial.engineUrl
    contactsIndex := (valueOf "CANVASS_CONTACTS_INDEX").getD initial.contactsIndex
    factsIndex := (valueOf "CANVASS_FACTS_INDEX").getD initial.factsIndex
    timeoutSeconds :=
      ((valueOf "CANVASS_ENGINE_TIMEOUT_SECS").bind Text.readUInt64).getD initial.timeoutSeconds
    idLimit := ((valueOf "CANVASS_ID_LOOKUP_LIMIT").bind Text.readUInt64).getD initial.idLimit
    stationBuckets :=
      ((valueOf "CANVASS_POLLING_STATION_BUCKETS").bind Text.readUInt64).getD initial.stationBuckets
    presenceForm :=
      ((valueOf "CANVASS_PRESENCE_FORM_ID").bind Text.readInt64).getD initial.presenceForm }

def baseUrl (s : Settings) : String := trimSlashes s.engineUrl

def searchUrl (s : Settings) (index : String) : String := s.baseUrl ++ "/" ++ index ++ "/_search"

end Settings

end Outreach
