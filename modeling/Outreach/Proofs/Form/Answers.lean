import Mathlib.Logic.Basic
import Outreach.Contact
import Outreach.Proofs.Form.Reading
import Outreach.Proofs.Query.Matching

/-!
# Contacts by their answers

What a form filter finds among contacts that are known by their answers. Outside a nested query the
answers are seen together, so that a field holds the values of all of them; a nested query asks for
one answer that satisfies it alone. Clauses that demand an answer and clauses that exclude it see
different things, which is why a filter and its negation may both hold of one contact; that one of
them holds is true of every contact.
-/

namespace Outreach

/-- The number that an answer holds in a field, if the field is one of the two that hold numbers. -/
def FormAnswer.number? (a : FormAnswer) (field : String) : Option Int64 :=
  if field = Field.answerForm then a.form
  else if field = Field.answerOption then a.option
  else none

namespace Answers

def numberFields : List String := [Field.answerForm, Field.answerOption]

/-- Some answer holds the operand in the field. -/
def hold (answers : List FormAnswer) (field : String) (value : Operand) : Bool :=
  answers.any fun a => decide ((a.number? field).map .integer = some value)

section Evaluation

-- How answers settle the queries that are not about the numbers they hold.
variable (other : List FormAnswer → Query → Bool)

mutual

/-- Whether answers satisfy a query, seen together. -/
def satisfy (answers : List FormAnswer) : Query → Bool
  | .matchAll => true
  | .term field value =>
    if field ∈ numberFields then hold answers field value else other answers (.term field value)
  | .terms field values =>
    if field ∈ numberFields then values.any (hold answers field)
    else other answers (.terms field values)
  | .missing field =>
    if field ∈ numberFields then answers.all fun a => (a.number? field).isNone
    else other answers (.missing field)
  | .nested path query =>
    if path = Field.answers then answers.any fun a => satisfy [a] query
    else other answers (.nested path query)
  | .compound c => meet answers c
  | query => other answers query

/-- Whether answers satisfy a compound query. -/
def meet (answers : List FormAnswer) : Compound → Bool
  | ⟨must, should, mustNot, filter, threshold⟩ =>
    (satisfyEach answers must).all id && (satisfyEach answers filter).all id &&
      !(satisfyEach answers mustNot).any id &&
      decide ((Compound.mk must should mustNot filter threshold).required ≤
        (satisfyEach answers should).count true)

def satisfyEach (answers : List FormAnswer) : List Query → List Bool
  | [] => []
  | query :: rest => satisfy answers query :: satisfyEach answers rest

end

variable {answers : List FormAnswer} {field : String} {id : Int64} {p q : Query}

/-! ### One query at a time -/

theorem satisfyEach_eq_map (queries : List Query) :
    satisfyEach other answers queries = queries.map (satisfy other answers) := by
  induction queries with
  | nil => rfl
  | cons query rest ih => rw [satisfyEach, ih, List.map_cons]

theorem meet_iff (c : Compound) :
    satisfy other answers (.compound c) = true ↔
      (∀ q ∈ c.must, satisfy other answers q = true) ∧
        (∀ q ∈ c.filter, satisfy other answers q = true) ∧
        (∀ q ∈ c.mustNot, satisfy other answers q = false) ∧
          c.required ≤ c.should.countP fun q => satisfy other answers q := by
  obtain ⟨must, should, mustNot, filter, threshold⟩ := c
  have hcount : (should.map (satisfy other answers)).count true =
      should.countP fun q => satisfy other answers q := by
    rw [List.count_eq_countP, List.countP_map]
    refine List.countP_congr fun q _ => ?_
    simp
  show meet other answers _ = true ↔ _
  simp only [meet, satisfyEach_eq_map, hcount, Bool.and_eq_true, Bool.not_eq_true', List.all_map,
    List.all_eq_true, List.any_map, List.any_eq_false, decide_eq_true_eq, Function.comp, id_eq,
    Bool.not_eq_true, and_assoc]

/-- A choice between two optional clauses. -/
theorem satisfy_either :
    satisfy other answers (.compound ⟨[], [p, q], [], [], some 1⟩) = true ↔
      satisfy other answers p = true ∨ satisfy other answers q = true := by
  have hone : (1 ≤ [p, q].countP fun q => satisfy other answers q) ↔
      satisfy other answers p = true ∨ satisfy other answers q = true := by
    rw [Nat.one_le_iff_ne_zero, ← Nat.pos_iff_ne_zero, List.countP_pos_iff]
    simp
  rw [meet_iff, ← hone]
  simp [Compound.required]

theorem satisfy_both :
    satisfy other answers (.compound ⟨[p, q], [], [], [], none⟩) = true ↔
      satisfy other answers p = true ∧ satisfy other answers q = true := by
  rw [meet_iff]
  simp [Compound.required]

theorem satisfy_not :
    satisfy other answers (.compound ⟨[], [], [q], [], none⟩) = true ↔
      satisfy other answers q = false := by
  rw [meet_iff]
  simp [Compound.required]

theorem satisfy_butNot :
    satisfy other answers (.compound ⟨[p], [], [q], [], none⟩) = true ↔
      satisfy other answers p = true ∧ satisfy other answers q = false := by
  rw [meet_iff]
  simp [Compound.required]

theorem hold_iff :
    hold answers field (.integer id) = true ↔ ∃ a ∈ answers, a.number? field = some id := by
  simp [hold]

theorem satisfy_term (hfield : field ∈ numberFields) :
    satisfy other answers (.term field (.integer id)) = true ↔
      ∃ a ∈ answers, a.number? field = some id := by
  rw [satisfy, if_pos hfield, hold_iff]

theorem satisfy_terms (hfield : field ∈ numberFields) :
    satisfy other answers (.terms field [.integer id]) = true ↔
      ∃ a ∈ answers, a.number? field = some id := by
  rw [satisfy, if_pos hfield, ← hold_iff]
  simp

theorem satisfy_missing (hfield : field ∈ numberFields) :
    satisfy other answers (.missing field) = true ↔ ∀ a ∈ answers, a.number? field = none := by
  rw [satisfy, if_pos hfield, List.all_eq_true]
  simp

theorem satisfy_nested :
    satisfy other answers (.nested Field.answers q) = true ↔
      ∃ a ∈ answers, satisfy other [a] q = true := by
  rw [satisfy, if_pos rfl, List.any_eq_true]

/-! ### Demanding and excluding answers -/

theorem optionField : Field.answerOption ∈ numberFields := by decide

theorem formField : Field.answerForm ∈ numberFields := by decide

@[simp]
theorem number?_option (a : FormAnswer) : a.number? Field.answerOption = a.option := rfl

theorem satisfy_presence (hfield : field ∈ numberFields) :
    satisfy other answers (FormFilter.presence field id true) = true ↔
      ∃ a ∈ answers, a.number? field = some id := satisfy_terms other hfield

theorem satisfy_absence (hfield : field ∈ numberFields) :
    satisfy other answers (FormFilter.presence field id false) = true ↔
      (∀ a ∈ answers, a.option = none) ∨ ¬ ∃ a ∈ answers, a.number? field = some id := by
  show satisfy other answers (.compound ⟨[], [.missing Field.answerOption,
    .compound ⟨[], [], [.term field (.integer id)], [], none⟩], [], [], some 1⟩) = true ↔ _
  rw [satisfy_either, satisfy_missing other optionField, satisfy_not, ← Bool.not_eq_true,
    satisfy_term other hfield]
  exact Iff.rfl

theorem satisfy_answer {option : Int64} :
    satisfy other answers (FormFilter.answer option q true) = true ↔
      ∃ a ∈ answers, a.option = some option ∧ satisfy other [a] q = true := by
  show satisfy other answers (.nested Field.answers (.compound ⟨[.term Field.answerOption
    (.integer option), q], [], [], [], none⟩)) = true ↔ _
  simp only [satisfy_nested, satisfy_both, satisfy_term other optionField, number?_option,
    List.mem_singleton, exists_eq_left]

/-- An answer without an option, an answer to the option that does not match, or none to it. -/
theorem satisfy_noAnswer {option : Int64} :
    satisfy other answers (FormFilter.answer option q false) = true ↔
      (∃ a ∈ answers, a.option = none) ∨
        (∃ a ∈ answers, a.option = some option ∧ satisfy other [a] q = false) ∨
          ∀ a ∈ answers, a.option ≠ some option := by
  show satisfy other answers (.compound ⟨[], [.nested Field.answers (.compound ⟨[],
    [.missing Field.answerOption, .compound ⟨[.term Field.answerOption (.integer option)], [], [q],
      [], none⟩], [], [], some 1⟩), .compound ⟨[], [], [.term Field.answerOption
        (.integer option)], [], none⟩], [], [], some 1⟩) = true ↔ _
  have hnone : satisfy other answers (.term Field.answerOption (.integer option)) = false ↔
      ∀ a ∈ answers, a.option ≠ some option := by
    rw [← Bool.not_eq_true, satisfy_term other optionField]
    simp
  rw [satisfy_either, satisfy_nested, satisfy_not, hnone, ← or_assoc]
  simp only [satisfy_either, satisfy_missing other optionField, satisfy_butNot,
    satisfy_term other optionField, number?_option, List.mem_singleton, forall_eq, exists_eq_left,
    and_or_left, exists_or]

end Evaluation

end Answers

/-! ### A filter and its negation -/

namespace FormFilter

open Answers

/-- The query on the value of one answer, of the filters that ask for a value. -/
def matcher? (filter : FormFilter) : Option Query :=
  match filter.criterion with
  | .answered | .option _ => none
  | .value _ value => some (valueMatcher filter.kind value)
  | .range _ low high => some (rangeMatcher low high)

/-- The query that demands what a filter asks for. -/
def demand (filter : FormFilter) : Query := { filter with mustExist := true }.query

/-- The query that excludes what a filter asks for. -/
def exclusion (filter : FormFilter) : Query := { filter with mustExist := false }.query

variable {filter : FormFilter} (other : List FormAnswer → Query → Bool)
  (answers : List FormAnswer) {option : Int64} {matcher : Query}

/-- How the value of an answer is matched is no matter of the numbers that the answers hold. -/
theorem satisfy_matcher (hmatcher : filter.matcher? = some matcher) :
    satisfy other answers matcher = other answers matcher := by
  unfold matcher? at hmatcher
  split at hmatcher
  · cases hmatcher
  · cases hmatcher
  · cases hmatcher
    unfold valueMatcher
    split
    · rfl
    · exact if_neg (by decide)
    · exact if_neg (by decide)
  · cases hmatcher
    rfl

theorem query_eq_answer (hoption : filter.criterion.option? = some option)
    (hmatcher : filter.matcher? = some matcher) :
    filter.query = answer option matcher filter.mustExist := by
  unfold matcher? at hmatcher
  unfold query
  cases hcriterion : filter.criterion with
  | answered => simp [hcriterion] at hmatcher
  | option o => simp [hcriterion] at hmatcher
  | value o v => simp_all [Criterion.option?]
  | range o low high => simp_all [Criterion.option?]

theorem satisfy_answered (hcriterion : filter.criterion = .answered) :
    (satisfy other answers filter.demand = true ↔ ∃ a ∈ answers, a.form = some filter.form) ∧
      (satisfy other answers filter.exclusion = true ↔
        (∀ a ∈ answers, a.option = none) ∨ ¬ ∃ a ∈ answers, a.form = some filter.form) := by
  simp only [demand, exclusion, query, hcriterion]
  exact ⟨satisfy_presence other formField, satisfy_absence other formField⟩

theorem satisfy_option (hcriterion : filter.criterion = .option option) :
    (satisfy other answers filter.demand = true ↔ ∃ a ∈ answers, a.option = some option) ∧
      (satisfy other answers filter.exclusion = true ↔
        (∀ a ∈ answers, a.option = none) ∨ ¬ ∃ a ∈ answers, a.option = some option) := by
  simp only [demand, exclusion, query, hcriterion]
  exact ⟨satisfy_presence other optionField, satisfy_absence other optionField⟩

/-- One answer must have the option and match; or else one lacks an option, or has it and does not
match, or there is none that has it. -/
theorem satisfy_value (hoption : filter.criterion.option? = some option)
    (hmatcher : filter.matcher? = some matcher) :
    (satisfy other answers filter.demand = true ↔
        ∃ a ∈ answers, a.option = some option ∧ other [a] matcher = true) ∧
      (satisfy other answers filter.exclusion = true ↔
        (∃ a ∈ answers, a.option = none) ∨
          (∃ a ∈ answers, a.option = some option ∧ other [a] matcher = false) ∨
            ∀ a ∈ answers, a.option ≠ some option) := by
  have hdemand : filter.demand = answer option matcher true := query_eq_answer hoption hmatcher
  have hexclusion : filter.exclusion = answer option matcher false :=
    query_eq_answer hoption hmatcher
  have hother : ∀ a, satisfy other [a] matcher = other [a] matcher :=
    fun a => satisfy_matcher other [a] hmatcher
  rw [hdemand, hexclusion, satisfy_answer, satisfy_noAnswer]
  simp only [hother, and_self]

/-! ### Which of the two finds a contact -/

/-- A filter finds a contact or its negation does, and not both. -/
def Decides (filter : FormFilter) : Prop :=
  Xor (satisfy other answers filter.demand = true) (satisfy other answers filter.exclusion = true)

theorem decides_answered (hcriterion : filter.criterion = .answered) :
    filter.Decides other answers ↔
      ((∃ a ∈ answers, a.form = some filter.form) → ∃ a ∈ answers, a.option ≠ none) := by
  obtain ⟨hdemand, hexclusion⟩ := satisfy_answered other answers hcriterion
  rw [Decides, hdemand, hexclusion]
  by_cases hform : ∃ a ∈ answers, a.form = some filter.form
  · simp [hform, Xor]
  · simp [hform, Xor]

theorem decides_option (hcriterion : filter.criterion = .option option) :
    filter.Decides other answers := by
  obtain ⟨hdemand, hexclusion⟩ := satisfy_option other answers hcriterion
  rw [Decides, hdemand, hexclusion]
  by_cases hoption : ∃ a ∈ answers, a.option = some option
  · refine .inl ⟨hoption, ?_⟩
    rintro (hnone | habsent)
    · obtain ⟨a, ha, hsome⟩ := hoption
      rw [hnone a ha] at hsome
      cases hsome
    · exact habsent hoption
  · exact .inr ⟨.inr hoption, hoption⟩

/-- Without a matching answer the contact is excluded. -/
theorem exclusion_of_not_demand (hoption : filter.criterion.option? = some option)
    (hmatcher : filter.matcher? = some matcher)
    (hdemand : ¬ satisfy other answers filter.demand = true) :
    satisfy other answers filter.exclusion = true := by
  obtain ⟨hdemanded, hexcluded⟩ := satisfy_value other answers hoption hmatcher
  rw [hdemanded] at hdemand
  rw [hexcluded]
  by_cases hsame : ∃ a ∈ answers, a.option = some option
  · obtain ⟨a, ha, hsame⟩ := hsame
    have hfalse : other [a] matcher = false := by
      rw [← Bool.not_eq_true]
      exact fun htrue => hdemand ⟨a, ha, hsame, htrue⟩
    exact .inr (.inl ⟨a, ha, hsame, hfalse⟩)
  · exact .inr (.inr fun a ha hoption => hsame ⟨a, ha, hoption⟩)

/-- With a matching answer, the contact is excluded too unless all answers have an option and those
to this one all match. -/
theorem decides_value (hoption : filter.criterion.option? = some option)
    (hmatcher : filter.matcher? = some matcher) :
    filter.Decides other answers ↔
      ((∃ a ∈ answers, a.option = some option ∧ other [a] matcher = true) →
        ∀ a ∈ answers, a.option ≠ none ∧
          (a.option = some option → other [a] matcher = true)) := by
  obtain ⟨hdemand, hexclusion⟩ := satisfy_value other answers hoption hmatcher
  by_cases hmatch : ∃ a ∈ answers, a.option = some option ∧ other [a] matcher = true
  · have hdemanded := hdemand.mpr hmatch
    have hsome : ¬ ∀ a ∈ answers, a.option ≠ some option := by
      obtain ⟨a, ha, hsame, -⟩ := hmatch
      exact fun hnone => hnone a ha hsame
    have hnot : ¬ satisfy other answers filter.exclusion = true ↔
        ∀ a ∈ answers, a.option ≠ none ∧
          (a.option = some option → other [a] matcher = true) := by
      rw [hexclusion]
      simp only [hsome, or_false, not_or, not_exists, not_and, Bool.not_eq_false, ne_eq,
        ← forall_and]
    rw [← hnot, Decides]
    simp [hdemanded, hmatch, Xor]
  · have hdemanded := mt hdemand.mp hmatch
    have hexcluded := exclusion_of_not_demand other answers hoption hmatcher hdemanded
    exact iff_of_true (.inr ⟨hexcluded, hdemanded⟩) fun h => absurd h hmatch

theorem demand_or_exclusion (filter : FormFilter) :
    satisfy other answers filter.demand = true ∨ satisfy other answers filter.exclusion = true := by
  by_cases hdemand : satisfy other answers filter.demand = true
  · exact .inl hdemand
  refine .inr ?_
  cases hcriterion : filter.criterion with
  | answered =>
    obtain ⟨hdemanded, hexcluded⟩ := satisfy_answered other answers hcriterion
    exact hexcluded.mpr (.inr (mt hdemanded.mpr hdemand))
  | option o =>
    obtain ⟨hdemanded, hexcluded⟩ := satisfy_option other answers hcriterion
    exact hexcluded.mpr (.inr (mt hdemanded.mpr hdemand))
  | value o v =>
    exact exclusion_of_not_demand other answers (by rw [hcriterion]; rfl)
      (by rw [matcher?, hcriterion]) hdemand
  | range o low high =>
    exact exclusion_of_not_demand other answers (by rw [hcriterion]; rfl)
      (by rw [matcher?, hcriterion]) hdemand

theorem answered_of_parts (hparts : filter.criterion.parts = 3) : filter.criterion = .answered := by
  cases hcriterion : filter.criterion with
  | answered => rfl
  | _ => simp [hcriterion, Criterion.parts] at hparts

theorem option_of_parts (hparts : filter.criterion.parts = 4) :
    ∃ option, filter.criterion = .option option := by
  cases hcriterion : filter.criterion with
  | option o => exact ⟨o, rfl⟩
  | _ => simp [hcriterion, Criterion.parts] at hparts

/-- A criterion of five parts or six asks for the value of an option. -/
theorem exists_matcher (hparts : 5 ≤ filter.criterion.parts) :
    ∃ option matcher, filter.criterion.option? = some option ∧ filter.matcher? = some matcher := by
  unfold matcher?
  cases hcriterion : filter.criterion with
  | answered => simp [hcriterion, Criterion.parts] at hparts
  | option o => simp [hcriterion, Criterion.parts] at hparts
  | value o v => exact ⟨_, _, rfl, rfl⟩
  | range o low high => exact ⟨_, _, rfl, rfl⟩

/-- Every contact is found by a form filter or by its negation, whatever the token asks for and
however values are matched. Which contacts both find depends on the number of parts: for an option
there is none; for any answer to a form it takes an answer to it while no answer has an option; for
a value, a matching answer beside one that does not match or has no option. -/
theorem found_by_filter_or_negation {token : String} (hread : FormFilter.read token = .ok filter)
    (other : List FormAnswer → Query → Bool) (answers : List FormAnswer) :
    let parts := Text.pieces '/' token
    let demanded := satisfy other answers filter.demand = true
    let excluded := satisfy other answers filter.exclusion = true
    (demanded ∨ excluded) ∧
      (parts.length = 3 →
        (Xor demanded excluded ↔
          ((∃ a ∈ answers, a.form = some filter.form) → ∃ a ∈ answers, a.option ≠ none)) ∧
        ((∀ a ∈ answers, a.option ≠ none) → Xor demanded excluded)) ∧
      (parts.length = 4 → Xor demanded excluded) ∧
      (parts.length = 5 ∨ parts.length = 6 → ∃ option matcher,
        parts[3]?.bind Text.readInt64 = some option ∧ filter.matcher? = some matcher ∧
        (demanded ↔ ∃ a ∈ answers, a.option = some option ∧ other [a] matcher = true) ∧
        (excluded ↔ (∃ a ∈ answers, a.option = none) ∨
          (∃ a ∈ answers, a.option = some option ∧ other [a] matcher = false) ∨
            ∀ a ∈ answers, a.option ≠ some option) ∧
        (Xor demanded excluded ↔
          ((∃ a ∈ answers, a.option = some option ∧ other [a] matcher = true) →
            ∀ a ∈ answers, a.option ≠ none ∧
              (a.option = some option → other [a] matcher = true)))) := by
  have hlength := length_pieces_of_read hread
  have hoption := option?_of_read hread
  refine ⟨demand_or_exclusion other answers filter, ?_, ?_, ?_⟩
  · intro hthree
    have hcriterion := answered_of_parts (hlength ▸ hthree)
    have hdecides := decides_answered other answers hcriterion
    refine ⟨hdecides, fun hall => hdecides.mpr ?_⟩
    rintro ⟨a, ha, -⟩
    exact ⟨a, ha, hall a ha⟩
  · intro hfour
    obtain ⟨option, hcriterion⟩ := option_of_parts (hlength ▸ hfour)
    exact decides_option other answers hcriterion
  · intro hmore
    have hparts : 5 ≤ filter.criterion.parts := by omega
    obtain ⟨option, matcher, hcriterion, hmatcher⟩ := exists_matcher hparts
    obtain ⟨hdemanded, hexcluded⟩ := satisfy_value other answers hcriterion hmatcher
    exact ⟨option, matcher, hoption ▸ hcriterion, hmatcher, hdemanded, hexcluded,
      decides_value other answers hcriterion hmatcher⟩

/-- A contact with a matching answer and one that has no option is found by the filter and by its
negation alike. -/
theorem found_by_both :
    let values : List FormAnswer → Query → Bool := fun answers _ =>
      answers.any fun a => match a.data with
        | .text s => s == "oui"
        | _ => false
    let answers : List FormAnswer := [⟨some 1, some 9, .text "oui"⟩, ⟨some 1, none, .null⟩]
    ∃ filter : FormFilter, FormFilter.read "RADIO/1/false/9/oui" = .ok filter ∧
      satisfy values answers filter.demand = true ∧
        satisfy values answers filter.exclusion = true := by
  intro values answers
  obtain ⟨filter, hread⟩ : ∃ filter, FormFilter.read "RADIO/1/false/9/oui" = .ok filter :=
    ⟨⟨.radio, 1, false, .value 9 (.text "oui")⟩, by rfl⟩
  have hparts : (Text.pieces '/' "RADIO/1/false/9/oui")[3]?.bind Text.readInt64 = some 9 := by
    decide +kernel
  obtain ⟨-, -, -, hmore⟩ := found_by_filter_or_negation hread values answers
  obtain ⟨option, matcher, hoption, -, hdemanded, hexcluded, -⟩ := hmore (.inl (by decide +kernel))
  rw [hparts, Option.some.injEq] at hoption
  subst hoption
  refine ⟨filter, hread, hdemanded.mpr ?_, hexcluded.mpr (.inl ?_)⟩
  · exact ⟨_, List.mem_cons_self, rfl, rfl⟩
  · exact ⟨_, List.mem_cons_of_mem _ List.mem_cons_self, rfl⟩

end FormFilter

end Outreach
