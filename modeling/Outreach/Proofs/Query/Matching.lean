import Outreach.Query

/-!
# Documents that satisfy a query

A document settles every query that is not compound, and the engine settles the compound ones: all
clauses that must match and all that filter, none that must not match, and as many of the optional
ones as the threshold asks for. Without a threshold one optional clause is asked for when nothing
else has to match, and none otherwise.
-/

namespace Outreach

/-- The truth of the queries that are not compound, for one document. Of these only the match-all
and the query for one of several values have a meaning of their own. -/
structure Document where
  truth : Query → Bool
  truth_matchAll : truth .matchAll = true
  truth_terms : ∀ field values,
    truth (.terms field values) = values.any fun value => truth (.term field value)

/-- How many of the optional clauses must match. -/
def Compound.required (c : Compound) : Nat :=
  match c.threshold with
  | some n => n.toNat
  | none => if !c.should.isEmpty && c.must.isEmpty && c.filter.isEmpty then 1 else 0

namespace Document

/-- The document with the given values of fields and the given truth of all other queries. -/
def ofValues (value : String → Operand → Bool) (other : Query → Bool) : Document where
  truth
    | .matchAll => true
    | .term field operand => value field operand
    | .terms field operands => operands.any (value field)
    | query => other query
  truth_matchAll := rfl
  truth_terms _ _ := rfl

mutual

def satisfies (d : Document) : Query → Bool
  | .compound c => d.meets c
  | query => d.truth query

/-- Whether a document satisfies a compound query. -/
def meets (d : Document) : Compound → Bool
  | ⟨must, should, mustNot, filter, threshold⟩ =>
    (d.truths must).all id && (d.truths filter).all id && !(d.truths mustNot).any id &&
      decide ((Compound.mk must should mustNot filter threshold).required ≤
        (d.truths should).count true)

def truths (d : Document) : List Query → List Bool
  | [] => []
  | query :: rest => d.satisfies query :: d.truths rest

end

variable (d : Document)

theorem truths_eq_map (queries : List Query) : d.truths queries = queries.map d.satisfies := by
  induction queries with
  | nil => rfl
  | cons query rest ih => rw [truths, ih, List.map_cons]

@[simp]
theorem satisfies_matchAll : d.satisfies .matchAll = true := d.truth_matchAll

@[simp]
theorem satisfies_words (text : String) (fields : List String) :
    d.satisfies (.words text fields) = d.truth (.words text fields) := rfl

@[simp]
theorem satisfies_term (field : String) (value : Operand) :
    d.satisfies (.term field value) = d.truth (.term field value) := rfl

@[simp]
theorem satisfies_range (field : String) (least most : Option Operand) :
    d.satisfies (.range field least most) = d.truth (.range field least most) := rfl

@[simp]
theorem satisfies_missing (field : String) :
    d.satisfies (.missing field) = d.truth (.missing field) := rfl

@[simp]
theorem satisfies_compound (c : Compound) : d.satisfies (.compound c) = d.meets c := rfl

theorem satisfies_terms (field : String) (values : List Operand) :
    d.satisfies (.terms field values) = true ↔ ∃ v ∈ values, d.truth (.term field v) = true := by
  change d.truth (.terms field values) = true ↔ _
  rw [d.truth_terms, List.any_eq_true]

/-- The engine's rule for a compound query, clause by clause. -/
theorem meets_iff (c : Compound) :
    d.meets c = true ↔
      (∀ q ∈ c.must, d.satisfies q = true) ∧ (∀ q ∈ c.filter, d.satisfies q = true) ∧
        (∀ q ∈ c.mustNot, d.satisfies q = false) ∧
          c.required ≤ c.should.countP fun q => d.satisfies q := by
  obtain ⟨must, should, mustNot, filter, threshold⟩ := c
  have hcount : (should.map d.satisfies).count true = should.countP fun q => d.satisfies q := by
    rw [List.count_eq_countP, List.countP_map]
    refine List.countP_congr fun q _ => ?_
    simp
  simp only [meets, truths_eq_map, hcount, Bool.and_eq_true, Bool.not_eq_true', List.all_map,
    List.all_eq_true, List.any_map, List.any_eq_false, decide_eq_true_eq, Function.comp, id_eq,
    Bool.not_eq_true, and_assoc]

theorem satisfies_of_mem_must {c : Compound} {q : Query} (hmem : q ∈ c.must)
    (hmeets : d.satisfies (.compound c) = true) : d.satisfies q = true :=
  ((d.meets_iff c).mp hmeets).1 q hmem

/-- A compound query that holds nothing but optional clauses. -/
theorem meets_atLeast (should : List Query) (n : UInt32) :
    d.meets ⟨[], should, [], [], some n⟩ = true ↔
      n.toNat ≤ should.countP fun q => d.satisfies q := by
  rw [meets_iff]
  simp only [Compound.required, List.not_mem_nil, false_implies, implies_true, true_and]

theorem meets_anyOf (should : List Query) :
    d.meets ⟨[], should, [], [], some 1⟩ = true ↔ ∃ q ∈ should, d.satisfies q = true := by
  rw [meets_atLeast, ← List.countP_pos_iff]
  exact Iff.rfl

end Document

end Outreach
