import Outreach.Aggregation.Reading
import Outreach.Contact
import Outreach.Field

/-!
# Contacts by place

Three groupings of contacts by where they live: by the latitude of their address, the nearest to a
place, and the cells of a geohash grid. An outcome that the engine left out gives an empty list.
-/

namespace Outreach

def Outcome.contacts (outcome : Outcome) : Except Fault (List Contact) :=
  (Contact.ofHits outcome.documents).mapError Fault.shape

/-! ### Address groups -/

structure AddressGroup where
  latitude : String
  count : UInt64
  contacts : List Contact

namespace AddressGroup

def groupsName : String := "result_aggreg"

def contactsName : String := "result_subaggreg"

/-- One group per latitude, each with its first contacts. -/
def requests (buckets hitsPerBucket : UInt64) : Aggregations :=
  [(groupsName, (Aggregation.leaf (.terms Field.latitude (some buckets))).holding contactsName
    (.leaf (.topHits hitsPerBucket [] [])))]

def ofBucket (b : Bucket) (hits : Outcome) : Except Fault AddressGroup := do
  return ⟨b.keyText, b.count, ← hits.contacts⟩

/-- The groups in bucket order; a bucket without its contacts' outcome is left out. -/
def ofOutcomes (outcomes : Outcomes) : Except Fault (List AddressGroup) :=
  let buckets := ((Named.get? groupsName outcomes).map Outcome.bucketList).getD []
  let withHits := buckets.filterMap fun b =>
    (Named.get? contactsName b.sub).map fun hits => (b, hits)
  withHits.mapM fun (b, hits) => ofBucket b hits

def toJson (g : AddressGroup) : Json :=
  .object [("latitude", .text g.latitude), ("doc_count", .ofUInt64 g.count),
    ("contacts", .list (g.contacts.map Contact.toJson))]

end AddressGroup

/-! ### Nearest contacts -/

namespace Nearest

def name : String := "aggreg_sortGeodistance"

def requests (field : String) (origin : Place) (size : UInt64) : Aggregations :=
  [(name, .leaf (.topHits size [.distance field origin] []))]

def ofOutcomes (outcomes : Outcomes) : Except Fault (List Contact) :=
  match Named.get? name outcomes with
  | some outcome => outcome.contacts
  | none => .ok []

end Nearest

/-! ### Clusters -/

structure Cluster where
  geohash : String
  count : UInt64
  lat : Option Float
  lng : Option Float
  deriving DecidableEq

namespace Cluster

def gridName : String := "cluster_aggreg"

def latName : String := "lat_avg"

def lngName : String := "lng_avg"

/-- The engine takes precisions from one to twelve. -/
def clampPrecision (precision : UInt8) : UInt8 := max 1 (min precision 12)

def requests (field : String) (precision : UInt8) : Aggregations :=
  [(gridName, ((Aggregation.leaf (.geohashGrid field (clampPrecision precision))).holding latName
    (.leaf (.average Field.latitude))).holding lngName (.leaf (.average Field.longitude)))]

def mean (b : Bucket) (name : String) : Option Float := (Named.get? name b.sub).bind Outcome.value?

def ofBucket (b : Bucket) : Cluster := ⟨b.keyText, b.count, mean b latName, mean b lngName⟩

def ofOutcomes (outcomes : Outcomes) : List Cluster :=
  (((Named.get? gridName outcomes).map Outcome.bucketList).getD []).map ofBucket

def toJson (c : Cluster) : Json :=
  .object [("geohash", .text c.geohash), ("doc_count", .ofUInt64 c.count),
    ("lat", .ofCoordinate c.lat), ("lng", .ofCoordinate c.lng)]

end Cluster

end Outreach
