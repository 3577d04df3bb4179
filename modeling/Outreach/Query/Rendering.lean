import Outreach.Query
import Outreach.Decimal.Layout

/-!
# The engine's query language

Queries and sort keys as the JSON documents that the engine reads. Absent parts leave no member
behind.
-/

namespace Outreach

/-- Distances are written positionally with the fewest digits, the larger of two on a tie, and
without a point when they are whole. -/
def distanceLayout : Decimal.Layout where
  tie := .up
  positional := none
  wholeMark := ""
  notANumber := "NaN"
  infinite := "inf"

def distanceText (metres : Float) : String := Decimal.render distanceLayout metres ++ "m"

namespace Query

def existsJson (field : String) : Json := .only "exists" (.only "field" (.text field))

/-- A member that is left out when it has no clauses. -/
def occurrence (name : String) (clauses : List Json) : List (String × Json) :=
  if clauses.isEmpty then [] else [(name, .list clauses)]

def boundMember (name : String) (bound : Option Operand) : List (String × Json) :=
  bound.toList.map fun operand => (name, operand.toJson)

end Query

open Query in
mutual

def Query.toJson : Query → Json
  | .matchAll => .only "match_all" (.object [])
  | .words text fields =>
    .only "multi_match" (.object (
      [("query", .text text), ("type", .text "cross_fields"), ("operator", .text "and")] ++
      if fields.isEmpty then [] else [("fields", .ofTexts fields)]))
  | .term field value => .only "term" (.only field value.toJson)
  | .terms field values => .only "terms" (.only field (.list (values.map Operand.toJson)))
  | .range field least most =>
    .only "range" (.only field (.object (boundMember "gte" least ++ boundMember "lte" most)))
  | .missing field => .only "bool" (.only "must_not" (.list [existsJson field]))
  | .nested path query => .only "nested" (.object [("path", .text path), ("query", query.toJson)])
  | .within field corners =>
    .only "geo_polygon" (.only field (.only "points" (.list (corners.map Place.toEngine))))
  | .near field center metres =>
    .only "geo_distance" (.ofMembers
      [("distance", .text (distanceText metres)), (field, center.toEngine)])
  | .compound clauses => clauses.toJson

def Compound.toJson : Compound → Json
  | ⟨must, should, mustNot, filter, threshold⟩ =>
    .only "bool" (.object (
      occurrence "must" (Query.toJsons must) ++ occurrence "should" (Query.toJsons should) ++
      occurrence "must_not" (Query.toJsons mustNot) ++ occurrence "filter" (Query.toJsons filter) ++
      threshold.toList.map fun n => ("minimum_should_match", .integer n.toNat)))

def Query.toJsons : List Query → List Json
  | [] => []
  | query :: rest => query.toJson :: Query.toJsons rest

end

def SortKey.toJson : SortKey → Json
  | .field name ascending =>
    .only name (.only "order" (.text (if ascending then "asc" else "desc")))
  | .distance location origin =>
    .only "_geo_distance" (.ofMembers [(location, origin.toEngine), ("order", .text "asc"),
      ("unit", .text "km"), ("distance_type", .text "arc")])

end Outreach
