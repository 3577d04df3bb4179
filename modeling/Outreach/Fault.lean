import Outreach.Calendar.Timestamp
import Outreach.Json.Shape

/-!
# Faults

Everything that can go wrong in a search, by cause. Each fault has one message, belongs to one kind,
and each kind answers a caller with one status.
-/

namespace Outreach

inductive TokenFault
  | tooFew (least count : Nat)
  | noGroup
  | radius (token : String)
  | lastChange (token : String)
  | formKind (name : String)
  | formParts (token : String) (count : Nat)
  | formInteger (token part : String)
  | formFlag (token part : String)
  | formTimestamp (token part : String) (fault : Calendar.TimestampFault)
  | presenceForm (part : String)
  | point (text : String)
  | corners (count : Nat)
  | noLevel
  | rowWidth (row : List String) (width : Nat)
  | rowCount (cell : String)

def TokenFault.message : TokenFault → String
  | .tooFew least count =>
    "expected at least " ++ toString least ++ " field tokens, got " ++ toString count
  | .noGroup => "missing group id"
  | .radius token => "radius '" ++ token ++ "' is not a distance"
  | .lastChange token =>
    "last change bound '" ++ token ++ "' is neither a date nor an RFC 3339 timestamp"
  | .formKind name => "unknown form kind '" ++ name ++ "'"
  | .formParts token count =>
    "form filter '" ++ token ++ "' has " ++ toString count ++ " parts, expected 3 to 6"
  | .formInteger token part => "form filter '" ++ token ++ "': '" ++ part ++ "' is not an integer"
  | .formFlag token part => "form filter '" ++ token ++ "': '" ++ part ++ "' is not a boolean"
  | .formTimestamp token part fault =>
    "form filter '" ++ token ++ "': '" ++ part ++ "' is not an RFC 3339 date (" ++ fault.message ++
      ")"
  | .presenceForm part => "presence form id '" ++ part ++ "' is not a number"
  | .point text => "'" ++ text ++ "' is not a \"lat,lng\" point"
  | .corners count => "polygon needs at least 3 points, got " ++ toString count
  | .noLevel => "no pivot level requested"
  | .rowWidth row width =>
    "pivot row " ++ Text.quoteList row ++ " has " ++ toString row.length ++ " cells, expected " ++
      toString width
  | .rowCount cell => "pivot count '" ++ cell ++ "' is not a number"

/-- A value that is well formed and has no meaning here. -/
inductive UnsupportedFault
  | ageCode (code : String)
  | ageBucket (key : String)
  | pivotLevel (name : String)
  deriving DecidableEq

def UnsupportedFault.message : UnsupportedFault → String
  | .ageCode code => "age category '" ++ code ++ "' (expected 0 to 6)"
  | .ageBucket key => "age category bucket '" ++ key ++ "'"
  | .pivotLevel name => "pivot level '" ++ name ++ "'"

/-- A reply of the engine that does not have the form of a reply. -/
inductive ReplyFault
  | hits
  | aggregationHits (name : String)
  | buckets (name : String)
  | bucket (name : String)
  deriving DecidableEq

def ReplyFault.message : ReplyFault → String
  | .hits => "`hits.hits` is not a list"
  | .aggregationHits name => "aggregation '" ++ name ++ "': `hits.hits` is not a list"
  | .buckets name => "aggregation '" ++ name ++ "': `buckets` is not a list"
  | .bucket name => "aggregation '" ++ name ++ "': bucket is not an object"

inductive Fault
  | token (cause : TokenFault)
  | unsupported (cause : UnsupportedFault)
  | missingAggregation (name : String)
  | reply (cause : ReplyFault)
  /-- A failure reported by the engine, with its status if it answered at all. -/
  | engine (status : Option UInt16) (report : String)
  | shape (cause : Json.ShapeFault)

namespace Fault

inductive Kind
  | decode
  | unsupportedValue
  | missingAggregation
  | engine
  | json
  deriving DecidableEq

def kind : Fault → Kind
  | .token _ => .decode
  | .unsupported _ => .unsupportedValue
  | .missingAggregation _ => .missingAggregation
  | .reply _ => .engine
  | .engine _ _ => .engine
  | .shape _ => .json

def Kind.opening : Kind → String
  | .decode => "Malformed filter token: "
  | .unsupportedValue => "Unsupported value: "
  | .missingAggregation => "Aggregation missing from response: "
  | .engine => "Search engine error: "
  | .json => "JSON error: "

/-- The status with which a fault of this kind is answered over HTTP. -/
def Kind.status : Kind → Nat
  | .decode => 400
  | .unsupportedValue => 400
  | .missingAggregation => 500
  | .engine => 502
  | .json => 500

def detail : Fault → String
  | .token cause => cause.message
  | .unsupported cause => cause.message
  | .missingAggregation name => name
  | .reply cause => cause.message
  | .engine _ report => report
  | .shape cause => cause.message

def message (fault : Fault) : String := fault.kind.opening ++ fault.detail

def engineStatus? : Fault → Option UInt16
  | .engine status _ => status
  | _ => none

end Fault

end Outreach
