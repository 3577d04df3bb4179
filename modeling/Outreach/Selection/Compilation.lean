import Outreach.Selection
import Outreach.Text.Blank

/-!
# From a selection to a query

One compound query for a selection and its free text. The clause of the text and the clause of the
group come first and must always match; each filter adds its clause in a fixed order. Only the age
filter adds optional clauses, of which one must then match.
-/

namespace Outreach

/-- The free text over the fields of a scope; a blank text matches everything. -/
def TextScope.clause (scope : TextScope) (text : String) : Query :=
  if Text.allBlank text then .matchAll else .words (Text.lower text) scope.fields

def groupClause (group : String) : Query := .term Field.group (.text group)

def textOperands (values : List String) : List Operand := values.map .text

def StationFilter.clause (filter : StationFilter) : Query :=
  let named : Query := .terms Field.station (textOperands filter.values)
  if filter.orMissing then
    let unrecorded := Compound.empty.addShould (.missing Field.station)
    .compound ((unrecorded.addShould named).withThreshold 1)
  else named

namespace AgeFilter

/-- Two of three signs of an unknown age: no birth date, no category, the category of the
unknown. -/
def unknownClause : Query :=
  let noBirthdate := Compound.empty.addShould (.missing Field.birthdate)
  let noCategory := noBirthdate.addShould (.missing Field.ageCategory)
  .compound ((noCategory.addShould
    (.term Field.ageCategory (.text AgeBand.unknownCode))).withThreshold 2)

def bandClause (band : AgeBand) : Query :=
  .range Field.birthdate (band.birthBounds.1.map .date) (band.birthBounds.2.map .date)

/-- The optional clauses: an unknown age, a birth date in a band, or the stored category of a
band. -/
def clauses (filter : AgeFilter) : List Query :=
  (if filter.orUnknown then [unknownClause] else []) ++ filter.bands.map bandClause ++
    if filter.bands.isEmpty then []
    else [.terms Field.ageCategory (textOperands (filter.bands.map AgeBand.codeText))]

end AgeFilter

namespace Selection

def mustClauses (s : Selection) (text : String) : List Query :=
  [s.scope.clause text, groupClause s.group] ++
    s.genders.toList.map (fun genders => .terms Field.gender (textOperands genders)) ++
    s.stations.toList.map StationFilter.clause ++
    s.changedSince.toList.map (fun since => .range Field.lastChange (some (.date since)) none) ++
    (if s.mail = some .absent then [.missing Field.mail] else []) ++
    s.forms.map FormFilter.query

def compile (s : Selection) (text : String) : Compound where
  must := s.mustClauses text
  should := (s.ages.map AgeFilter.clauses).getD []
  mustNot := if s.mail = some .present then [.missing Field.mail] else []
  filter := []
  threshold := s.ages.map fun _ => 1

end Selection

def polygonClause (field : String) (corners : List Place) : Query := .within field corners

/-- Confines a query to a polygon, if there is one. -/
def Compound.confine (c : Compound) (field : String) (corners : List Place) : Compound :=
  if corners.isEmpty then c else c.addFilter (polygonClause field corners)

end Outreach
