import Outreach.Proofs.Query.Matching
import Outreach.Proofs.Selection.Reading
import Outreach.Selection.Compilation

/-!
# What a compiled selection matches

The documents that a compiled selection matches, told from the tokens alone: the text and the group
must match, and so must every filter whose token is given. No filter reaches into another, because
each adds clauses of its own that must or must not match, and the optional clauses all come from the
age filter, of which one is asked for exactly when there is an age filter.
-/

namespace Outreach

namespace Document

variable (d : Document)

/-! ### The meaning of each token -/

/-- The free text, over the fields of its scope; a blank text asks for nothing. -/
def MatchesText (scope : TextScope) (text : String) : Prop :=
  Text.allBlank text = true ∨ d.truth (.words (Text.lower text) scope.fields) = true

def MatchesGenders (token : String) : Prop :=
  ∃ gender ∈ Text.pieces '/' token, d.truth (.term Field.gender (.text gender)) = true

/-- One of the stations; the sign for a missing one also stands for a station recorded as empty. -/
def MatchesStations (token : String) : Prop :=
  (∃ station ∈ Text.pieces '/' token, station ≠ StationFilter.missingValue ∧
      d.truth (.term Field.station (.text station)) = true) ∨
    StationFilter.missingValue ∈ Text.pieces '/' token ∧
      (d.truth (.missing Field.station) = true ∨ d.truth (.term Field.station (.text "")) = true)

/-- Two of three signs that the age is unknown. -/
def HasUnknownAge : Prop :=
  2 ≤ [d.truth (.missing Field.birthdate), d.truth (.missing Field.ageCategory),
    d.truth (.term Field.ageCategory (.text AgeBand.unknownCode))].count true

/-- A band by the birth date or by the stored category. -/
def InBand (band : AgeBand) : Prop :=
  d.truth (.range Field.birthdate (band.birthBounds.1.map .date)
      (band.birthBounds.2.map .date)) = true ∨
    d.truth (.term Field.ageCategory (.text band.codeText)) = true

def MatchesAges (token : String) : Prop :=
  (∃ band : AgeBand, band.codeText ∈ Text.pieces '/' token ∧ d.InBand band) ∨
    AgeBand.unknownCode ∈ Text.pieces '/' token ∧ d.HasUnknownAge

def ChangedSince (token : String) : Prop :=
  ∃ bound, DateBound.readLastChange token = .ok bound ∧
    d.truth (.range Field.lastChange (some (.date bound)) none) = true

def MatchesForm (token : String) : Prop :=
  ∃ form, FormFilter.read token = .ok form ∧ d.satisfies form.query = true

/-- A token whose parts are all alike asks for a mail address or for none, one of three parts or
more is a form filter, and any other asks for nothing. -/
def MatchesMail (token : String) : Prop :=
  let parts := Text.pieces '/' token
  if ∀ p ∈ parts, ∀ q ∈ parts, p = q then
    if MailFilter.presentValue ∈ parts then d.truth (.missing Field.mail) = false
    else d.truth (.missing Field.mail) = true
  else FormFilter.leastParts ≤ parts.length → d.MatchesForm token

/-- What the tokens and the free text of a search ask of a document; an empty token asks for
nothing. -/
structure Selects (tokens : Tokens) (text : String) : Prop where
  text : d.MatchesText (TextScope.read (tokens.textAt Tokens.scopeAt)) text
  group : d.truth (.term Field.group (.text (tokens.textAt Tokens.groupAt))) = true
  genders : tokens.textAt Tokens.genderAt ≠ "" → d.MatchesGenders (tokens.textAt Tokens.genderAt)
  stations : tokens.textAt Tokens.stationAt ≠ "" →
    d.MatchesStations (tokens.textAt Tokens.stationAt)
  ages : tokens.textAt Tokens.ageAt ≠ "" → d.MatchesAges (tokens.textAt Tokens.ageAt)
  changedSince : tokens.textAt Tokens.lastChangeAt ≠ "" →
    d.ChangedSince (tokens.textAt Tokens.lastChangeAt)
  mail : tokens.textAt Tokens.mailAt ≠ "" → d.MatchesMail (tokens.textAt Tokens.mailAt)
  forms : ∀ token ∈ tokens.drop Tokens.formsAt, token ≠ "" → d.MatchesForm token

/-! ### Clauses that must match -/

theorem satisfies_scopeClause (scope : TextScope) (text : String) :
    d.satisfies (scope.clause text) = true ↔ d.MatchesText scope text := by
  unfold TextScope.clause MatchesText
  by_cases hblank : Text.allBlank text = true
  · rw [if_pos hblank, satisfies_matchAll]
    simp [hblank]
  · rw [if_neg hblank, satisfies_words]
    simp [hblank]

theorem satisfies_textTerms (field : String) (values : List String) :
    d.satisfies (.terms field (textOperands values)) = true ↔
      ∃ v ∈ values, d.truth (.term field (.text v)) = true := by
  rw [satisfies_terms]
  simp only [textOperands, List.mem_map, exists_exists_and_eq_and]

theorem satisfies_genders (token : String) :
    d.satisfies (.terms Field.gender (textOperands (Tokens.valueSet token))) = true ↔
      d.MatchesGenders token := by
  rw [satisfies_textTerms]
  simp only [Tokens.mem_valueSet, MatchesGenders]

theorem satisfies_stationClause (token : String) :
    d.satisfies (StationFilter.read token).clause = true ↔ d.MatchesStations token := by
  have hnamed : ∀ v, v ∈ (Tokens.valueSet token).filter (· ≠ StationFilter.missingValue) ↔
      v ∈ Text.pieces '/' token ∧ v ≠ StationFilter.missingValue := by
    intro v
    rw [List.mem_filter, Tokens.mem_valueSet, decide_eq_true_eq]
  unfold MatchesStations
  by_cases hmissing : StationFilter.missingValue ∈ Text.pieces '/' token
  · rw [StationFilter.read, if_pos (Tokens.mem_valueSet.mpr hmissing)]
    generalize (Tokens.valueSet token).filter (· ≠ StationFilter.missingValue) = named at hnamed ⊢
    have hvalues : ∀ v, v ∈ (if "" ∈ named then named else named ++ [""]) ↔ v ∈ named ∨ v = "" := by
      intro v
      split
      · rename_i hempty
        exact ⟨Or.inl, fun h => h.elim id fun h => h ▸ hempty⟩
      · rw [List.mem_append, List.mem_singleton]
    rw [StationFilter.clause, if_pos rfl, satisfies_compound]
    change d.meets ⟨[], [_, _], [], [], some 1⟩ = true ↔ _
    rw [meets_anyOf]
    simp only [List.mem_cons, List.not_mem_nil, or_false, exists_eq_or_imp, exists_eq_left,
      satisfies_missing, satisfies_textTerms, hvalues]
    simp only [hnamed, hmissing, true_and, or_and_right, exists_or, exists_eq_left, and_assoc]
    exact or_left_comm
  · rw [StationFilter.read, if_neg (mt Tokens.mem_valueSet.mp hmissing), StationFilter.clause,
      if_neg Bool.false_ne_true, satisfies_textTerms]
    simp only [hnamed, hmissing, false_and, or_false, and_assoc]

theorem satisfies_lastChange {token : String} {bound : DateBound}
    (hread : DateBound.readLastChange token = .ok bound) :
    d.satisfies (.range Field.lastChange (some (.date bound)) none) = true ↔
      d.ChangedSince token := by
  unfold ChangedSince
  rw [hread, satisfies_range]
  simp only [Except.ok.injEq, exists_eq_left']

theorem satisfies_form {token : String} {form : FormFilter}
    (hread : FormFilter.read token = .ok form) :
    d.satisfies form.query = true ↔ d.MatchesForm token := by
  unfold MatchesForm
  rw [hread]
  simp only [Except.ok.injEq, exists_eq_left']

/-- The filters read from a list of tokens ask for what each token that is not empty does. -/
theorem satisfies_forms {tokens : Tokens} {forms : List FormFilter}
    (hread : FormFilter.readAll tokens = .ok forms) :
    (∀ q ∈ forms.map FormFilter.query, d.satisfies q = true) ↔
      ∀ token ∈ tokens.drop Tokens.formsAt, token ≠ "" → d.MatchesForm token := by
  have hpairs := Steps.mapM_eq_ok.mp hread
  generalize hgiven : ((tokens.drop Tokens.formsAt).filter fun token => !token.isEmpty) = given
    at hpairs
  have hmem : ∀ token, token ∈ given ↔ token ∈ tokens.drop Tokens.formsAt ∧ token ≠ "" := by
    intro token
    rw [← hgiven, List.mem_filter]
    simp
  have hsame : (∀ q ∈ forms.map FormFilter.query, d.satisfies q = true) ↔
      ∀ token ∈ given, d.MatchesForm token := by
    clear hmem hgiven hread
    induction hpairs with
    | nil => simp
    | cons hfirst _ ih =>
      rw [List.map_cons, List.forall_mem_cons, List.forall_mem_cons, ih, d.satisfies_form hfirst]
  rw [hsame]
  simp only [hmem, and_imp]

/-- The token of the mail filter: what its two readings ask for together. -/
theorem satisfies_mailOrForm {token : String} {mail : Option MailFilter}
    {leading : Option FormFilter} (hread : MailFilter.readOrForm token = .ok (mail, leading)) :
    ((mail = some .absent → d.truth (.missing Field.mail) = true) ∧
      (mail = some .present → d.truth (.missing Field.mail) = false) ∧
        ∀ form ∈ leading, d.satisfies form.query = true) ↔ d.MatchesMail token := by
  unfold MailFilter.readOrForm at hread
  unfold MatchesMail
  simp only [← Tokens.length_valueSet_eq_one]
  simp only [← Tokens.mem_valueSet]
  by_cases halike : (Tokens.valueSet token).length = 1
  · rw [if_pos halike] at hread ⊢
    by_cases hpresent : MailFilter.presentValue ∈ Tokens.valueSet token
    · rw [if_pos hpresent] at hread ⊢
      cases hread
      simp
    · rw [if_neg hpresent] at hread ⊢
      cases hread
      simp
  · rw [if_neg halike] at hread ⊢
    by_cases hlong : FormFilter.leastParts ≤ (Text.pieces '/' token).length
    · rw [if_pos hlong] at hread
      obtain ⟨form, hform, hpair⟩ := Steps.map_eq_ok.mp hread
      cases hpair
      simp [hlong, d.satisfies_form hform]
    · rw [if_neg hlong] at hread
      cases hread
      simp [hlong]

/-! ### Optional clauses -/

theorem satisfies_unknownClause :
    d.satisfies AgeFilter.unknownClause = true ↔ d.HasUnknownAge := by
  change d.meets ⟨[], [.missing Field.birthdate, .missing Field.ageCategory,
    .term Field.ageCategory (.text AgeBand.unknownCode)], [], [], some 2⟩ = true ↔ _
  rw [meets_atLeast]
  unfold HasUnknownAge
  rw [show UInt32.toNat 2 = 2 from rfl]
  simp only [List.countP_cons, List.countP_nil, List.count_cons, List.count_nil, satisfies_missing,
    satisfies_term, beq_true]
  exact Iff.rfl

theorem exists_mem_ageClauses (filter : AgeFilter) :
    (∃ q ∈ filter.clauses, d.satisfies q = true) ↔
      (∃ band ∈ filter.bands, d.InBand band) ∨ filter.orUnknown = true ∧ d.HasUnknownAge := by
  have hunknown : (∃ q ∈ (if filter.orUnknown = true then [AgeFilter.unknownClause] else []),
      d.satisfies q = true) ↔ filter.orUnknown = true ∧ d.HasUnknownAge := by
    by_cases h : filter.orUnknown = true
    · rw [if_pos h, ← satisfies_unknownClause]
      simp [h]
    · rw [if_neg h]
      simp [h]
  have hstored : (∃ q ∈ (if filter.bands.isEmpty = true then []
      else [Query.terms Field.ageCategory (textOperands (filter.bands.map AgeBand.codeText))]),
      d.satisfies q = true) ↔
        ∃ band ∈ filter.bands, d.truth (.term Field.ageCategory (.text band.codeText)) = true := by
    by_cases h : filter.bands = []
    · rw [h]
      simp
    · rw [if_neg (by rwa [List.isEmpty_iff])]
      simp only [List.mem_singleton, exists_eq_left, satisfies_textTerms, List.mem_map,
        exists_exists_and_eq_and]
  have hbirth : (∃ q ∈ filter.bands.map AgeFilter.bandClause, d.satisfies q = true) ↔
      ∃ band ∈ filter.bands, d.truth (.range Field.birthdate (band.birthBounds.1.map .date)
        (band.birthBounds.2.map .date)) = true := by
    simp only [List.mem_map, exists_exists_and_eq_and, AgeFilter.bandClause, satisfies_range]
  unfold AgeFilter.clauses InBand
  simp only [List.mem_append, or_and_right, exists_or, hunknown, hstored, hbirth, and_or_left]
  rw [or_assoc, or_comm]

/-- The optional clauses of an age filter, of which one is asked for. -/
theorem exists_mem_ageClauses_of_read {token : String} {filter : AgeFilter}
    (hread : AgeFilter.read token = .ok filter) :
    (∃ q ∈ filter.clauses, d.satisfies q = true) ↔ d.MatchesAges token := by
  obtain ⟨hunknown, hbands⟩ := AgeFilter.read_eq_ok hread
  rw [exists_mem_ageClauses]
  simp only [hunknown, hbands, MatchesAges]

/-! ### The whole selection -/

private theorem forall_mem_optional {α : Type} (c : Prop) [Decidable c] (a : α) (P : α → Prop) :
    (∀ x ∈ (if c then [a] else []), P x) ↔ (c → P a) := by
  by_cases h : c <;> simp [h]

theorem forall_mem_mustClauses (s : Selection) (text : String) :
    (∀ q ∈ s.mustClauses text, d.satisfies q = true) ↔
      d.MatchesText s.scope text ∧ d.truth (.term Field.group (.text s.group)) = true ∧
        (∀ genders ∈ s.genders, d.satisfies (.terms Field.gender (textOperands genders)) = true) ∧
        (∀ stations ∈ s.stations, d.satisfies stations.clause = true) ∧
        (∀ since ∈ s.changedSince,
          d.satisfies (.range Field.lastChange (some (.date since)) none) = true) ∧
        (s.mail = some .absent → d.truth (.missing Field.mail) = true) ∧
        ∀ q ∈ s.forms.map FormFilter.query, d.satisfies q = true := by
  unfold Selection.mustClauses
  simp only [List.forall_mem_append, List.forall_mem_cons, forall_mem_optional,
    satisfies_scopeClause, satisfies_missing]
  simp [groupClause, and_assoc]

/-- An age filter asks for one of its optional clauses; without one there is none to match. -/
theorem required_compile (s : Selection) (text : String) :
    (s.compile text).required ≤ (s.compile text).should.countP (fun q => d.satisfies q) ↔
      ∀ ages ∈ s.ages, ∃ q ∈ ages.clauses, d.satisfies q = true := by
  cases hages : s.ages with
  | none => simp [Selection.compile, Compound.required, hages]
  | some ages =>
    simp only [Selection.compile, Compound.required, hages, Option.map_some, Option.getD_some,
      Option.mem_some, forall_eq', ← List.countP_pos_iff]
    exact Iff.rfl

/-- Which documents a search finds: a document matches the query that an accepted list of tokens and
a free text are compiled into exactly when it is what each of the tokens and the text ask for. -/
theorem meets_compile_iff {tokens : Tokens} {s : Selection}
    (hread : Selection.read tokens = .ok s) (text : String) :
    d.meets (s.compile text) = true ↔ d.Selects tokens text := by
  have h := Selection.read_eq_ok.mp hread
  have hgenders : (∀ genders ∈ s.genders,
      d.satisfies (.terms Field.gender (textOperands genders)) = true) ↔
        (tokens.textAt Tokens.genderAt ≠ "" →
          d.MatchesGenders (tokens.textAt Tokens.genderAt)) := by
    rw [h.genders, Tokens.forall_mem_map_at?, satisfies_genders]
  have hstations : (∀ stations ∈ s.stations, d.satisfies stations.clause = true) ↔
      (tokens.textAt Tokens.stationAt ≠ "" →
        d.MatchesStations (tokens.textAt Tokens.stationAt)) := by
    rw [h.stations, Tokens.forall_mem_map_at?, satisfies_stationClause]
  have hages : (∀ ages ∈ s.ages, ∃ q ∈ ages.clauses, d.satisfies q = true) ↔
      (tokens.textAt Tokens.ageAt ≠ "" → d.MatchesAges (tokens.textAt Tokens.ageAt)) :=
    Tokens.forall_mem_read? h.ages fun _ hfilter => d.exists_mem_ageClauses_of_read hfilter
  have hsince : (∀ since ∈ s.changedSince,
      d.satisfies (.range Field.lastChange (some (.date since)) none) = true) ↔
        (tokens.textAt Tokens.lastChangeAt ≠ "" →
          d.ChangedSince (tokens.textAt Tokens.lastChangeAt)) :=
    Tokens.forall_mem_read? h.changedSince fun _ hbound => d.satisfies_lastChange hbound
  have hmailForms : ((s.mail = some .absent → d.truth (.missing Field.mail) = true) ∧
      (s.mail = some .present → d.truth (.missing Field.mail) = false) ∧
        ∀ q ∈ s.forms.map FormFilter.query, d.satisfies q = true) ↔
      (tokens.textAt Tokens.mailAt ≠ "" → d.MatchesMail (tokens.textAt Tokens.mailAt)) ∧
        ∀ token ∈ tokens.drop Tokens.formsAt, token ≠ "" → d.MatchesForm token := by
    obtain ⟨read, others, hmail, hothers, hmailPart, hforms⟩ := h.mailOrForm
    rw [← d.satisfies_forms hothers, ← Tokens.forall_mem_read? hmail
      fun _ hpair => d.satisfies_mailOrForm hpair, hmailPart, hforms]
    cases read with
    | none => simp
    | some pair => simp [and_assoc, or_imp, forall_and]
  rw [meets_iff, required_compile]
  change (∀ q ∈ s.mustClauses text, _) ∧ (∀ q ∈ ([] : List Query), _) ∧
    (∀ q ∈ (if s.mail = some .present then [Query.missing Field.mail] else []), _) ∧ _ ↔ _
  rw [forall_mem_mustClauses, forall_mem_optional, satisfies_missing, h.scope, h.group, hgenders,
    hstations, hages, hsince]
  refine ⟨?_, ?_⟩
  · intro hclauses
    obtain ⟨hmust, -, hpresent, hage⟩ := hclauses
    obtain ⟨htext, hgroup, hgender, hstation, hchanged, habsent, hform⟩ := hmust
    obtain ⟨hmail, hothers⟩ := hmailForms.mp ⟨habsent, hpresent, hform⟩
    exact ⟨htext, hgroup, hgender, hstation, hage, hchanged, hmail, hothers⟩
  · intro hselects
    obtain ⟨htext, hgroup, hgender, hstation, hage, hchanged, hmail, hothers⟩ := hselects
    obtain ⟨habsent, hpresent, hform⟩ := hmailForms.mpr ⟨hmail, hothers⟩
    exact ⟨⟨htext, hgroup, hgender, hstation, hchanged, habsent, hform⟩, by simp, hpresent, hage⟩

/-- A contact of the group that a search with every kind of filter finds: by the second gender, the
station rather than the sign for a missing one, and the stored category rather than the birth
date. -/
theorem selects_fully_filtered :
    let tokens := ["42", "name", "", "", "F/M", "missing/12", "0/1", "", "", "2016-01-01", "SET",
      "RADIO/354/true"]
    let known := [(Field.group, .text "42"), (Field.gender, .text "M"), (Field.station, .text "12"),
      (Field.ageCategory, .text "1"), (Field.answerForm, .integer 354)]
    let d := ofValues (fun field value => decide ((field, value) ∈ known)) fun
      | .words text fields => decide (text = "dupont" ∧ fields = ["surname", "married_name"])
      | .range field _ _ => decide (field = Field.lastChange)
      | _ => false
    ∃ s, Selection.read tokens = .ok s ∧ d.meets (s.compile "DuPont") = true ∧
      d.Selects tokens "DuPont" := by
  refine ⟨_, rfl, ?_, ?_⟩
  · decide +kernel
  · exact (meets_compile_iff _ rfl "DuPont").mp (by decide +kernel)

end Document

end Outreach
