import Outreach.Query

/-!
# Queries within queries

A query occurs in another one at any depth: as itself, within the query of a nested document, or
within a clause of a compound query, whatever kind of clause it is. A query for one of several
values that are none matches nothing; where such a query occurs is followed down the tree here.
-/

namespace Outreach

def Compound.clauses (c : Compound) : List Query := c.must ++ c.should ++ c.mustNot ++ c.filter

namespace Query

/-- The query is the other one or a part of it, at any depth. -/
inductive OccursIn (part : Query) : Query → Prop
  | self : OccursIn part part
  | nested {path : String} {query : Query} :
    OccursIn part query → OccursIn part (.nested path query)
  | clause {c : Compound} {query : Query} :
    query ∈ c.clauses → OccursIn part query → OccursIn part (.compound c)

/-- A query for one of several values occurs, and there is none to choose from. -/
def AsksForNone (field : String) (query : Query) : Prop := (Query.terms field []).OccursIn query

variable {field : String}

@[simp]
theorem asksForNone_terms {name : String} {values : List Operand} :
    AsksForNone field (.terms name values) ↔ field = name ∧ values = [] := by
  refine ⟨?_, ?_⟩
  · intro h
    cases h
    exact ⟨rfl, rfl⟩
  · rintro ⟨rfl, rfl⟩
    exact .self

@[simp]
theorem asksForNone_nested {path : String} {query : Query} :
    AsksForNone field (.nested path query) ↔ AsksForNone field query := by
  refine ⟨?_, .nested⟩
  intro h
  cases h with
  | nested hquery => exact hquery

@[simp]
theorem asksForNone_compound {c : Compound} :
    AsksForNone field (.compound c) ↔ ∃ query ∈ c.clauses, AsksForNone field query := by
  refine ⟨?_, fun ⟨_, hmem, hquery⟩ => .clause hmem hquery⟩
  intro h
  cases h with
  | clause hmem hquery => exact ⟨_, hmem, hquery⟩

@[simp]
theorem not_asksForNone_matchAll : ¬ AsksForNone field .matchAll := nofun

@[simp]
theorem not_asksForNone_words {text : String} {fields : List String} :
    ¬ AsksForNone field (.words text fields) := nofun

@[simp]
theorem not_asksForNone_term {name : String} {value : Operand} :
    ¬ AsksForNone field (.term name value) := nofun

@[simp]
theorem not_asksForNone_range {name : String} {least most : Option Operand} :
    ¬ AsksForNone field (.range name least most) := nofun

@[simp]
theorem not_asksForNone_missing {name : String} : ¬ AsksForNone field (.missing name) := nofun

end Query

end Outreach
