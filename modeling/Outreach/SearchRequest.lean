import Outreach.Place
import Outreach.Filter.Tokens

/-!
# Search requests

What a caller sends: a free text, the positional tokens, a polygon that restricts the search when it
has corners, and a filter on facts. Every member may be left out.
-/

namespace Outreach

structure SearchRequest where
  query : String := ""
  fields : Tokens := []
  polygon : List Place := []
  filter : String := ""

namespace SearchRequest

def readMember (r : SearchRequest) (member : String × Json) :
    Except Json.ShapeFault SearchRequest :=
  let (name, value) := member
  match name with
  | "query" => do return { r with query := ← value.readText }
  | "fields" => do return { r with fields := ← value.readList Json.readText }
  | "polygon" => do return { r with polygon := ← value.readList Place.ofJson }
  | "filter" => do return { r with filter := ← value.readText }
  | _ => .ok r

def memberNames : List String := ["query", "fields", "polygon", "filter"]

/-- Reads an object, or a list of the members in their order; what is left out is empty. -/
def ofJson : Json → Except Json.ShapeFault SearchRequest
  | .object members => members.foldlM readMember {}
  | .list items => do
    let r ← (memberNames.zip items).foldlM readMember {}
    if memberNames.length < items.length then .error (.tooLong items.length) else .ok r
  | found => .error (.wrong found .request)

def toJson (r : SearchRequest) : Json :=
  .object [("query", .text r.query), ("fields", .ofTexts r.fields),
    ("polygon", .list (r.polygon.map Place.toJson)), ("filter", .text r.filter)]

end SearchRequest

end Outreach
