import Outreach.Proofs.Query.Occurrences
import Outreach.Proofs.Selection.Positions
import Outreach.Proofs.Text.Pieces

/-!
# Well-formed selections

What is read from tokens is never hollow. The sets of a selection are not empty, and hold the parts
of their tokens once each, in the order in which they first stand there; an age filter asks for
something. So the clauses that a selection is compiled into ask for something too: there are
optional clauses exactly when one of them has to match, and only a form filter for words that holds
no word asks for one of no values (`asksForNone_compile`).
-/

namespace Outreach

open Steps

/-! ### Values in the order of their first occurrence -/

/-- The values are those of the parts that are wanted, in the order of their first occurrences. -/
structure KeepsOrder (values parts : List String) (wanted : String → Prop) : Prop where
  mem_iff : ∀ value, value ∈ values ↔ value ∈ parts ∧ wanted value
  ordered : values.Pairwise fun first second => parts.idxOf first < parts.idxOf second

theorem KeepsOrder.nodup {values parts : List String} {wanted : String → Prop}
    (h : KeepsOrder values parts wanted) : values.Nodup := by
  refine h.ordered.imp ?_
  rintro value _ hlt rfl
  exact Nat.lt_irrefl _ hlt

theorem ordered_firstOccurrences (parts : List String) :
    (firstOccurrences parts).Pairwise fun first second =>
      parts.idxOf first < parts.idxOf second := by
  induction parts with
  | nil => exact .nil
  | cons part rest ih =>
    rw [firstOccurrences, List.pairwise_cons]
    refine ⟨?_, ?_⟩
    · intro other hother
      have hne : part ≠ other := by
        rintro rfl
        simp at hother
      rw [List.idxOf_cons_self, List.idxOf_cons_ne rest hne]
      exact Nat.succ_pos _
    · refine (ih.filter _).imp_of_mem ?_
      intro first second hfirst hsecond hlt
      have hne : ∀ other ∈ (firstOccurrences rest).filter (· ≠ part), part ≠ other := by
        rintro other hother rfl
        simp at hother
      rw [List.idxOf_cons_ne rest (hne first hfirst), List.idxOf_cons_ne rest (hne second hsecond)]
      exact Nat.succ_lt_succ hlt

theorem keepsOrder_filter_valueSet (token : String) (wanted : String → Prop)
    [DecidablePred wanted] :
    KeepsOrder ((Tokens.valueSet token).filter wanted) (Text.pieces '/' token) wanted where
  mem_iff := by
    intro value
    rw [List.mem_filter, Tokens.mem_valueSet, decide_eq_true_eq]
  ordered := (ordered_firstOccurrences _).filter _

theorem keepsOrder_valueSet (token : String) :
    KeepsOrder (Tokens.valueSet token) (Text.pieces '/' token) fun _ => True where
  mem_iff := by
    intro value
    rw [Tokens.mem_valueSet, and_true]
  ordered := ordered_firstOccurrences _

theorem Tokens.valueSet_ne_nil (token : String) : Tokens.valueSet token ≠ [] := by
  have hparts : Text.pieces '/' token ≠ [] := by
    simpa [Text.pieces] using Text.cut_ne_nil '/' token.toList
  obtain ⟨part, hpart⟩ := List.exists_mem_of_ne_nil _ hparts
  exact List.ne_nil_of_mem (Tokens.mem_valueSet.mpr hpart)

/-! ### Filters -/

/-- The polling stations of a token: its parts but for the sign for a missing one, for which the
empty station comes last unless it is a part itself. -/
structure StationFilter.WellFormed (filter : StationFilter) (token : String) : Prop where
  nonempty : filter.values ≠ []
  nodup : filter.values.Nodup
  orMissing_iff : filter.orMissing = true ↔ missingValue ∈ Text.pieces '/' token
  missing_notMem : missingValue ∉ filter.values
  empty_mem : filter.orMissing = true → "" ∈ filter.values
  keeps : ∃ named, KeepsOrder named (Text.pieces '/' token) (· ≠ missingValue) ∧
    filter.values =
      if filter.orMissing = true ∧ "" ∉ Text.pieces '/' token then named ++ [""] else named

theorem StationFilter.wellFormed_read (token : String) : (read token).WellFormed token := by
  have hkeeps := keepsOrder_filter_valueSet token (· ≠ missingValue)
  generalize hnamed : (Tokens.valueSet token).filter (· ≠ missingValue) = named at hkeeps
  have hempty : "" ∈ named ↔ "" ∈ Text.pieces '/' token := by
    rw [hkeeps.mem_iff]
    exact and_iff_left (by decide)
  have hmissing : missingValue ∉ named := fun hmem => ((hkeeps.mem_iff _).mp hmem).2 rfl
  unfold read
  dsimp only
  rw [hnamed]
  by_cases hpart : missingValue ∈ Tokens.valueSet token
  · rw [if_pos hpart]
    have horMissing : missingValue ∈ Text.pieces '/' token := Tokens.mem_valueSet.mp hpart
    by_cases hmem : "" ∈ named
    · rw [if_pos hmem]
      refine ⟨List.ne_nil_of_mem hmem, hkeeps.nodup, by simp [horMissing], hmissing,
        fun _ => hmem, named, hkeeps, ?_⟩
      rw [if_neg fun h => h.2 (hempty.mp hmem)]
    · rw [if_neg hmem]
      refine ⟨by simp, ?_, by simp [horMissing], ?_, fun _ => by simp, named, hkeeps, ?_⟩
      · refine List.nodup_append.mpr ⟨hkeeps.nodup, by simp, ?_⟩
        rintro value hvalue last hlast rfl
        rw [List.mem_singleton.mp hlast] at hvalue
        exact hmem hvalue
      · simpa [hmissing] using (by decide : missingValue ≠ "")
      · rw [if_pos ⟨rfl, mt hempty.mpr hmem⟩]
  · rw [if_neg hpart]
    have horMissing : missingValue ∉ Text.pieces '/' token := mt Tokens.mem_valueSet.mpr hpart
    have hall : named = Tokens.valueSet token := by
      rw [← hnamed, List.filter_eq_self]
      rintro value hvalue
      exact decide_eq_true fun heq => hpart (heq ▸ hvalue)
    refine ⟨hall ▸ Tokens.valueSet_ne_nil token, hkeeps.nodup, by simp [horMissing], hmissing,
      by simp, named, hkeeps, by simp⟩

namespace AgeFilter

theorem nodup_addCode {filter next : AgeFilter} {code : String}
    (hstep : filter.addCode code = .ok next) (hnodup : filter.bands.Nodup) : next.bands.Nodup := by
  unfold addCode at hstep
  split at hstep
  · cases hstep
    exact hnodup
  · obtain ⟨band, -, rfl⟩ := map_eq_ok.mp hstep
    split
    · exact hnodup
    · rename_i hnew
      refine List.nodup_append.mpr ⟨hnodup, by simp, ?_⟩
      rintro other hother last hlast rfl
      rw [List.mem_singleton.mp hlast] at hother
      exact hnew hother

theorem nodup_foldlM_addCode {codes : List String} {start final : AgeFilter}
    (hrun : codes.foldlM addCode start = .ok final) (hnodup : start.bands.Nodup) :
    final.bands.Nodup := by
  induction codes generalizing start with
  | nil =>
    cases hrun
    exact hnodup
  | cons code rest ih =>
    obtain ⟨next, hstep, hrest⟩ := bind_eq_ok.mp hrun
    exact ih hrest (nodup_addCode hstep hnodup)

theorem nodup_of_read {token : String} {filter : AgeFilter} (hread : read token = .ok filter) :
    filter.bands.Nodup :=
  nodup_foldlM_addCode hread List.nodup_nil

/-- Every part of a token adds something, and there is a part. -/
theorem asks_of_read {token : String} {filter : AgeFilter} (hread : read token = .ok filter) :
    filter.orUnknown = true ∨ filter.bands ≠ [] := by
  obtain ⟨hunknown, hbands⟩ := read_eq_ok hread
  have hcodes := (checks_read token).succeeds.mp ⟨filter, hread⟩
  obtain ⟨part, hpart⟩ := List.exists_mem_of_ne_nil _ (Tokens.valueSet_ne_nil token)
  have hpart := Tokens.mem_valueSet.mp hpart
  rcases mem_codes.mp (hcodes part hpart) with rfl | ⟨band, rfl⟩
  · exact .inl (hunknown.mpr hpart)
  · exact .inr (List.ne_nil_of_mem ((hbands band).mpr hpart))

theorem clauses_ne_nil {filter : AgeFilter} (hasks : filter.orUnknown = true ∨ filter.bands ≠ []) :
    filter.clauses ≠ [] := by
  rcases hasks with hunknown | hbands
  · simp [clauses, hunknown]
  · simp [clauses, hbands]

end AgeFilter

/-- The filters of a selection hold something, nothing twice, and what stands in their tokens. -/
structure Selection.WellFormed (s : Selection) (tokens : Tokens) : Prop where
  genders : ∀ values ∈ s.genders, values ≠ [] ∧ values.Nodup ∧
    KeepsOrder values (Text.pieces '/' (tokens.textAt Tokens.genderAt)) fun _ => True
  stations : ∀ filter ∈ s.stations, filter.WellFormed (tokens.textAt Tokens.stationAt)
  ages : ∀ filter ∈ s.ages, (filter.orUnknown = true ∨ filter.bands ≠ []) ∧ filter.bands.Nodup

theorem Selection.wellFormed_of_readFrom {tokens : Tokens} {s : Selection}
    (h : s.ReadFrom tokens) : s.WellFormed tokens where
  genders := by
    rw [h.genders, Tokens.forall_mem_map_at?]
    intro _
    have hkeeps := keepsOrder_valueSet (tokens.textAt Tokens.genderAt)
    exact ⟨Tokens.valueSet_ne_nil _, hkeeps.nodup, hkeeps⟩
  stations := by
    rw [h.stations, Tokens.forall_mem_map_at?]
    exact fun _ => StationFilter.wellFormed_read _
  ages := by
    refine (Tokens.forall_mem_read? (Q := True) h.ages fun filter hfilter => ?_).mpr
      fun _ => trivial
    exact iff_of_true ⟨AgeFilter.asks_of_read hfilter, AgeFilter.nodup_of_read hfilter⟩ trivial

/-! ### Form filters -/

namespace FormFilter

variable {token : String} {filter : FormFilter}

/-- A filter for the words of a text that holds nothing but spaces. -/
def Wordless (filter : FormFilter) : Prop :=
  filter.kind = .text ∧ ∃ option words, filter.criterion = .value option (.text words) ∧
    ∀ c ∈ words.toList, c = ' '

/-- Five parts, the first of them for the kind and the last, of spaces alone, for the words. -/
def WordlessToken (token : String) : Prop :=
  ∃ form flag option words, Text.pieces '/' token = ["TEXT", form, flag, option, words] ∧
    ∀ c ∈ words.toList, c = ' '

theorem wordless_iff (hread : read token = .ok filter) : filter.Wordless ↔ WordlessToken token := by
  obtain ⟨kind, form, flag, rest, hparts, hlength, hkind, -, -, hcriterion⟩ := read_eq_ok.mp hread
  rw [FormKind.read_eq_ok] at hkind
  refine ⟨?_, ?_⟩
  · rintro ⟨htext, option, words, hvalue, hspaces⟩
    rw [htext] at hkind hcriterion
    rw [hvalue] at hcriterion
    have hrest : rest.length + 3 = 5 := (readCriterion_eq_ok hlength hcriterion).1.symm
    obtain ⟨named, value, rfl⟩ := List.length_eq_two.mp (Nat.add_right_cancel hrest)
    obtain ⟨o, -, hcriterion⟩ := bind_eq_ok.mp hcriterion
    obtain ⟨v, hv, hsame⟩ := map_eq_ok.mp hcriterion
    cases hv
    cases hsame
    rw [← hkind] at hparts
    exact ⟨form, flag, named, words, hparts, hspaces⟩
  · rintro ⟨form', flag', option, words, hparts', hspaces⟩
    rw [hparts] at hparts'
    cases hparts'
    have htext : filter.kind = .text := by
      revert hkind
      cases filter.kind <;> decide
    rw [htext] at hcriterion
    obtain ⟨o, -, hcriterion⟩ := bind_eq_ok.mp hcriterion
    obtain ⟨v, hv, hsame⟩ := map_eq_ok.mp hcriterion
    cases hv
    exact ⟨htext, o, words, hsame.symm, hspaces⟩

/-- Spaces are no kind of form, so a token for words without a word is never a mail filter. -/
theorem WordlessToken.shaped (h : WordlessToken token) : Shaped token := by
  obtain ⟨form, flag, option, words, hparts, hspaces⟩ := h
  rw [Shaped, hparts]
  refine ⟨by simp, "TEXT", by simp, words, by simp, ?_⟩
  rintro rfl
  exact absurd (hspaces 'T' (by decide)) (by decide)

theorem textTerms_eq_nil (words : String) : textTerms words = [] ↔ ∀ c ∈ words.toList, c = ' ' := by
  rw [textTerms, List.map_eq_nil_iff, Text.filter_pieces_eq_nil]

theorem asksForNone_presence {field name : String} {id : Int64} {mustExist : Bool} :
    ¬ (presence name id mustExist).AsksForNone field := by
  cases mustExist <;>
    simp [presence, Compound.clauses, Compound.empty, Compound.addShould, Compound.addMustNot,
      Compound.withThreshold]

/-- Whether an answer must match or must not, it is asked for in the same way. -/
theorem asksForNone_answer {field : String} {option : Int64} {matcher : Query} {mustExist : Bool} :
    (answer option matcher mustExist).AsksForNone field ↔ matcher.AsksForNone field := by
  cases mustExist <;>
    simp [answer, Compound.clauses, Compound.empty, Compound.addMust, Compound.addShould,
      Compound.addMustNot, Compound.withThreshold]

theorem asksForNone_valueMatcher {field : String} {kind : FormKind} {value : FormValue} :
    (valueMatcher kind value).AsksForNone field ↔
      field = Field.answerWords ∧ kind = .text ∧ ∃ words, value = .text words ∧
        ∀ c ∈ words.toList, c = ' ' := by
  cases kind <;> cases value <;> simp [valueMatcher, textTerms_eq_nil]

theorem asksForNone_query {field : String} :
    filter.query.AsksForNone field ↔ field = Field.answerWords ∧ filter.Wordless := by
  unfold query Wordless
  cases hcriterion : filter.criterion with
  | answered => simp [asksForNone_presence]
  | option option => simp [asksForNone_presence]
  | value option value => simp [asksForNone_answer, asksForNone_valueMatcher]
  | range option low high => simp [asksForNone_answer, rangeMatcher]

end FormFilter

namespace Tokens

variable {tokens : Tokens} {filter : FormFilter}

/-- The token of the mail filter holds a form filter exactly when it can be read as one. -/
theorem leading_iff {read : Option (Option MailFilter × Option FormFilter)}
    (hread : tokens.read? mailAt MailFilter.readOrForm = .ok read) :
    filter ∈ (read.getD (none, none)).2.toList ↔
      FormFilter.read (tokens.textAt mailAt) = .ok filter := by
  refine ⟨?_, ?_⟩
  · intro hmem
    have hvalue := read?_eq_ok.mp hread
    split at hvalue
    · rw [hvalue] at hmem
      simp at hmem
    · obtain ⟨pair, hpair, rfl⟩ := hvalue
      unfold MailFilter.readOrForm at hpair
      dsimp only at hpair
      split at hpair
      · cases hpair
        simp at hmem
      · split at hpair
        · obtain ⟨first, hfirst, rfl⟩ := map_eq_ok.mp hpair
          have hsame : filter = first := by simpa using hmem
          rw [hfirst, hsame]
        · cases hpair
          simp at hmem
  · intro hfilter
    have hshaped := FormFilter.shaped_of_read hfilter
    rw [read?, at?_eq_some hshaped.ne_empty] at hread
    dsimp only at hread
    rw [hshaped.readOrForm_eq, hfilter] at hread
    cases hread
    simp

theorem mem_drop_mailAt {token : String} (hne : token ≠ "") :
    token ∈ tokens.drop mailAt ↔ tokens.textAt mailAt = token ∨ token ∈ tokens.drop formsAt := by
  have hdrop : tokens.drop mailAt = tokens[mailAt]?.toList ++ tokens.drop formsAt := by
    rw [formsAt, List.drop_eq_getElem?_toList_append]
    rfl
  rw [hdrop, List.mem_append, textAt]
  cases tokens[mailAt]? with
  | none => simp [Ne.symm hne]
  | some first => simp [eq_comm]

end Tokens

namespace Selection

variable {tokens : Tokens} {s : Selection} {filter : FormFilter}

/-- The form filters of a selection are those that its tokens hold from the mail filter on. -/
theorem ReadFrom.mem_forms_iff (h : s.ReadFrom tokens) :
    filter ∈ s.forms ↔ ∃ token ∈ tokens.drop Tokens.mailAt, FormFilter.read token = .ok filter := by
  obtain ⟨read, others, hread, hothers, -, hforms⟩ := h.mailOrForm
  have hne : ∀ token, FormFilter.read token = .ok filter → token ≠ "" :=
    fun token hfilter => (FormFilter.shaped_of_read hfilter).ne_empty
  rw [hforms, List.mem_append, Tokens.leading_iff hread, mem_of_mapM_eq_ok hothers]
  refine ⟨?_, ?_⟩
  · rintro (hfilter | ⟨token, hmem, hfilter⟩)
    · exact ⟨_, (Tokens.mem_drop_mailAt (hne _ hfilter)).mpr (.inl rfl), hfilter⟩
    · have hmem := (List.mem_filter.mp hmem).1
      exact ⟨token, (Tokens.mem_drop_mailAt (hne _ hfilter)).mpr (.inr hmem), hfilter⟩
  · rintro ⟨token, hmem, hfilter⟩
    rcases (Tokens.mem_drop_mailAt (hne _ hfilter)).mp hmem with rfl | hmem
    · exact .inl hfilter
    · exact .inr ⟨token, List.mem_filter.mpr ⟨hmem, by simpa using hne _ hfilter⟩, hfilter⟩

/-- No token in the shape of a form filter is passed over. -/
theorem ReadFrom.exists_form (h : s.ReadFrom tokens) {token : String}
    (hmem : token ∈ tokens.drop Tokens.mailAt) (hshaped : FormFilter.Shaped token) :
    ∃ filter, FormFilter.read token = .ok filter := by
  obtain ⟨read, others, hread, hothers, -⟩ := h.mailOrForm
  rcases (Tokens.mem_drop_mailAt hshaped.ne_empty).mp hmem with rfl | hmem
  · rw [Tokens.read?, Tokens.at?_eq_some hshaped.ne_empty] at hread
    dsimp only at hread
    rw [hshaped.readOrForm_eq] at hread
    obtain ⟨pair, hpair, -⟩ := map_eq_ok.mp hread
    obtain ⟨filter, hfilter, -⟩ := map_eq_ok.mp hpair
    exact ⟨filter, hfilter⟩
  · have hall := (FormFilter.checks_readAll tokens).succeeds.mp ⟨others, hothers⟩
    exact hall token hmem hshaped.ne_empty

theorem ReadFrom.exists_wordless_iff (h : s.ReadFrom tokens) :
    (∃ filter ∈ s.forms, filter.Wordless) ↔
      ∃ token ∈ tokens.drop Tokens.mailAt, FormFilter.WordlessToken token := by
  refine ⟨?_, ?_⟩
  · rintro ⟨filter, hmem, hwordless⟩
    obtain ⟨token, hmem, hread⟩ := h.mem_forms_iff.mp hmem
    exact ⟨token, hmem, (FormFilter.wordless_iff hread).mp hwordless⟩
  · rintro ⟨token, hmem, hwordless⟩
    obtain ⟨filter, hread⟩ := h.exists_form hmem hwordless.shaped
    exact ⟨filter, h.mem_forms_iff.mpr ⟨token, hmem, hread⟩,
      (FormFilter.wordless_iff hread).mpr hwordless⟩

/-! ### Clauses -/

theorem asksForNone_textOperands {field name : String} {values : List String}
    (hne : values ≠ []) : ¬ (Query.terms name (textOperands values)).AsksForNone field := by
  simp [textOperands, hne]

theorem asksForNone_stationClause {field : String} {filter : StationFilter}
    (hne : filter.values ≠ []) : ¬ filter.clause.AsksForNone field := by
  have hnamed : ¬ (Query.terms Field.station (textOperands filter.values)).AsksForNone field :=
    asksForNone_textOperands hne
  unfold StationFilter.clause
  dsimp only
  split
  · simp only [Query.asksForNone_compound, not_exists, not_and]
    intro query hquery
    simp only [Compound.clauses, Compound.empty, Compound.addShould, Compound.withThreshold,
      List.nil_append, List.append_nil, List.cons_append, List.mem_cons, List.not_mem_nil,
      or_false] at hquery
    rcases hquery with rfl | rfl
    · exact Query.not_asksForNone_missing
    · exact hnamed
  · exact hnamed

theorem asksForNone_ageClause {field : String} {filter : AgeFilter} {query : Query}
    (hquery : query ∈ filter.clauses) : ¬ query.AsksForNone field := by
  unfold AgeFilter.clauses at hquery
  rw [List.mem_append, List.mem_append] at hquery
  rcases hquery with (hunknown | hband) | hstored
  · split at hunknown
    · rw [List.mem_singleton.mp hunknown]
      simp [AgeFilter.unknownClause, Compound.clauses, Compound.empty, Compound.addShould,
        Compound.withThreshold]
    · cases hunknown
  · obtain ⟨band, -, rfl⟩ := List.mem_map.mp hband
    exact Query.not_asksForNone_range
  · split at hstored
    · cases hstored
    · rename_i hbands
      rw [List.mem_singleton.mp hstored]
      refine asksForNone_textOperands ?_
      simpa using hbands

theorem asksForNone_scopeClause {field text : String} {scope : TextScope} :
    ¬ (scope.clause text).AsksForNone field := by
  unfold TextScope.clause
  split
  · exact Query.not_asksForNone_matchAll
  · exact Query.not_asksForNone_words

/-- The clauses of a selection ask for something, but for filters for words that hold none. -/
theorem asksForNone_compile {field text : String} (h : s.WellFormed tokens) :
    (Query.compound (s.compile text)).AsksForNone field ↔
      field = Field.answerWords ∧ ∃ filter ∈ s.forms, filter.Wordless := by
  rw [Query.asksForNone_compound]
  refine ⟨?_, ?_⟩
  · rintro ⟨query, hmem, hquery⟩
    simp only [Compound.clauses, compile, mustClauses, List.mem_append, List.mem_cons,
      List.not_mem_nil, or_false, or_assoc, List.mem_map, Option.mem_toList] at hmem
    rcases hmem with rfl | rfl | ⟨values, hvalues, rfl⟩ | ⟨filter, hfilter, rfl⟩ | ⟨_, -, rfl⟩ |
      habsent | ⟨filter, hfilter, rfl⟩ | hage | hpresent
    · exact absurd hquery asksForNone_scopeClause
    · exact absurd hquery Query.not_asksForNone_term
    · exact absurd hquery (asksForNone_textOperands (h.genders values hvalues).1)
    · exact absurd hquery (asksForNone_stationClause (h.stations filter hfilter).nonempty)
    · exact absurd hquery Query.not_asksForNone_range
    · split at habsent
      · rw [List.mem_singleton.mp habsent] at hquery
        exact absurd hquery Query.not_asksForNone_missing
      · cases habsent
    · obtain ⟨hfield, hwordless⟩ := FormFilter.asksForNone_query.mp hquery
      exact ⟨hfield, filter, hfilter, hwordless⟩
    · cases hages : s.ages with
      | none => simp [hages] at hage
      | some filter =>
        rw [hages] at hage
        exact absurd hquery (asksForNone_ageClause hage)
    · split at hpresent
      · rw [List.mem_singleton.mp hpresent] at hquery
        exact absurd hquery Query.not_asksForNone_missing
      · cases hpresent
  · rintro ⟨hfield, filter, hfilter, hwordless⟩
    refine ⟨filter.query, ?_, FormFilter.asksForNone_query.mpr ⟨hfield, hwordless⟩⟩
    have hmust : filter.query ∈ s.mustClauses text :=
      List.mem_append_right _ (List.mem_map_of_mem hfilter)
    exact List.mem_append_left _ (List.mem_append_left _ (List.mem_append_left _ hmust))

/-- Optional clauses, and how many of them must match, come from an age filter and with it. -/
theorem should_compile {text : String} (h : s.WellFormed tokens) :
    ((s.compile text).threshold.isSome ↔ s.ages.isSome) ∧
      ((s.compile text).should ≠ [] ↔ s.ages.isSome) := by
  cases hages : s.ages with
  | none => simp [compile, hages]
  | some filter =>
    have hclauses := AgeFilter.clauses_ne_nil (h.ages filter hages).1
    simp [compile, hages, hclauses]

/-- A selection that can be read is well formed, and so is what it is compiled into: there is a
threshold exactly when there is an age filter, and exactly then there are optional clauses for it;
and where one of no values is asked for, at whatever depth, it is among the words of answers, for a
token of five parts whose text holds no word. -/
theorem wellFormed_of_read {tokens : Tokens} {s : Selection} (hread : Selection.read tokens = .ok s)
    (text : String) :
    s.WellFormed tokens ∧
      ((s.compile text).threshold.isSome ↔ s.ages.isSome) ∧
      ((s.compile text).should ≠ [] ↔ s.ages.isSome) ∧
      ∀ field, (Query.terms field []).OccursIn (.compound (s.compile text)) ↔
        field = Field.answerWords ∧
          ∃ token ∈ tokens.drop Tokens.mailAt, FormFilter.WordlessToken token := by
  have hfrom := read_eq_ok.mp hread
  have hwell := wellFormed_of_readFrom hfrom
  refine ⟨hwell, (should_compile hwell).1, (should_compile hwell).2, fun field => ?_⟩
  rw [← hfrom.exists_wordless_iff]
  exact asksForNone_compile hwell

/-- Two genders, one of them twice, the sign for a missing station among stations, and a filter for
a text of spaces at the position of the mail filter. -/
theorem wellFormed_of_read_wordless :
    let tokens : Tokens := ["42", "all", "", "", "F/M/F", "B/missing/A/B", "0/3/3", "", "", "",
      "TEXT/7/false/9/  "]
    ∃ s, Selection.read tokens = .ok s ∧ s.WellFormed tokens ∧
      (s.compile "dupont").should ≠ [] ∧
        (Query.terms Field.answerWords []).OccursIn (.compound (s.compile "dupont")) := by
  intro tokens
  obtain ⟨s, hread, hages⟩ : ∃ s, Selection.read tokens = .ok s ∧ s.ages.isSome := ⟨_, rfl, rfl⟩
  obtain ⟨hwell, -, hshould, hnone⟩ := wellFormed_of_read hread "dupont"
  refine ⟨s, hread, hwell, hshould.mpr hages, (hnone _).mpr ⟨rfl, "TEXT/7/false/9/  ", ?_, ?_⟩⟩
  · exact List.mem_singleton_self _
  · exact ⟨"7", "false", "9", "  ", by decide +kernel, by simp⟩

end Selection

end Outreach
