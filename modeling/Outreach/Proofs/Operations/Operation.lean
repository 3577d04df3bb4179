import Outreach.Operations

/-!
# The operations as one family

The eight operations under one type, each with what it takes besides the settings and the request,
so that what holds of all of them is one statement.
-/

namespace Outreach

inductive Operation
  | search
  | indicators
  | clusters (precision : UInt8)
  | addresses
  | nearby
  /-- The one operation on facts; all others are about the contacts of a group. -/
  | identifiersWithin
  | listing
  | pivot (levels : List String)
  deriving DecidableEq

namespace Operation

open Operations

abbrev Result : Operation → Type
  | .search => ContactsPage
  | .indicators => List Indicators.Block
  | .clusters _ => List Cluster
  | .addresses => List AddressGroup
  | .nearby => List Contact
  | .identifiersWithin => List Int64
  | .listing => List Contact
  | .pivot _ => PivotTable

def exchange (s : Settings) (r : SearchRequest) : (o : Operation) → Exchange o.Result
  | .search => Operations.search s r
  | .indicators => Operations.indicators s r
  | .clusters precision => Operations.clusters s r precision
  | .addresses => Operations.addresses s r
  | .nearby => Operations.nearby s r
  | .identifiersWithin => Operations.identifiersWithin s r
  | .listing => Operations.listing s r
  | .pivot levels => Operations.pivot s r levels

end Operation

end Outreach
