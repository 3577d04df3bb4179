import Outreach.Proofs.Selection.Acceptance
import Outreach.Selection.Compilation

/-!
# Tokens by position

A selection is made from the tokens at ten positions of their own, and from the answers that are
asked for from the position of the mail filter on (`readAnswers`). Only what stands at a position is
looked at, and an absent token is looked at as the empty text; so lists of tokens that differ in
their length alone read alike. And a form filter at the position of the mail filter is an answer
asked for before all others, where the same filter at the first position of the form filters is.
-/

namespace Outreach

open Steps

namespace Tokens

variable {tokens others : Tokens} {position : Nat}

/-! ### What stands at a position -/

theorem at?_congr (hsame : others.textAt position = tokens.textAt position) :
    others.at? position = tokens.at? position := by
  rw [at?_eq, at?_eq, hsame]

theorem read?_congr {α : Type} (reader : String → Except Fault α)
    (hsame : others.textAt position = tokens.textAt position) :
    others.read? position reader = tokens.read? position reader := by
  rw [read?, read?, at?_congr hsame]

theorem sizeAtD_congr (default : UInt64)
    (hsame : others.textAt position = tokens.textAt position) :
    others.sizeAtD position default = tokens.sizeAtD position default := by
  rw [sizeAtD, sizeAtD, at?_congr hsame]

theorem group_congr (hsame : others.textAt groupAt = tokens.textAt groupAt) :
    others.group = tokens.group := by
  rw [group, group, at?_congr hsame]

/-- The mail filter and the form filters, the one at the position of the mail filter first. -/
def readAnswers (tokens : Tokens) : Except Fault (Option MailFilter × List FormFilter) := do
  let mailOrForm ← tokens.read? mailAt MailFilter.readOrForm
  let others ← FormFilter.readAll tokens
  return ((mailOrForm.getD (none, none)).1, (mailOrForm.getD (none, none)).2.toList ++ others)

end Tokens

namespace Selection

variable {tokens others : Tokens}

theorem read_eq (hne : tokens ≠ []) :
    Selection.read tokens = do
      let group ← tokens.group
      let ages ← tokens.read? Tokens.ageAt AgeFilter.read
      let changedSince ← tokens.read? Tokens.lastChangeAt DateBound.readLastChange
      let answers ← tokens.readAnswers
      return {
        group := group
        scope := TextScope.read ((tokens.at? Tokens.scopeAt).getD "")
        page := Page.read tokens
        order := Order.read tokens
        genders := (tokens.at? Tokens.genderAt).map Tokens.valueSet
        stations := (tokens.at? Tokens.stationAt).map StationFilter.read
        ages := ages
        changedSince := changedSince
        mail := answers.1
        forms := answers.2 } := by
  unfold Selection.read readAtLeast Tokens.readAnswers
  rw [if_neg (by simpa using hne)]
  simp only [bind_assoc, pure_bind]

/-- A selection is made from the tokens before the mail filter and from the answers asked for. -/
theorem read_congr (hne : tokens ≠ []) (hothers : others ≠ [])
    (hsame : ∀ position < Tokens.mailAt, others.textAt position = tokens.textAt position)
    (hanswers : others.readAnswers = tokens.readAnswers) :
    Selection.read others = Selection.read tokens := by
  have hat : ∀ position < Tokens.mailAt, others.at? position = tokens.at? position :=
    fun position hposition => Tokens.at?_congr (hsame position hposition)
  have hpage : Page.read others = Page.read tokens := by
    rw [Page.read, Page.read, Tokens.sizeAtD_congr _ (hsame Tokens.sizeAt (by decide)),
      Tokens.sizeAtD_congr _ (hsame Tokens.offsetAt (by decide))]
  have horder : Order.read others = Order.read tokens := by
    rw [Order.read, Order.read, hat Tokens.orderFieldAt (by decide),
      hat Tokens.orderDirectionAt (by decide)]
  rw [read_eq hne, read_eq hothers, hanswers, hpage, horder,
    Tokens.group_congr (hsame Tokens.groupAt (by decide)),
    Tokens.read?_congr _ (hsame Tokens.ageAt (by decide)),
    Tokens.read?_congr _ (hsame Tokens.lastChangeAt (by decide)),
    hat Tokens.scopeAt (by decide), hat Tokens.genderAt (by decide),
    hat Tokens.stationAt (by decide)]

end Selection

/-! ### Absent tokens -/

namespace Tokens

variable {tokens others : Tokens}

/-- The same token at each single position, where an absent one is empty, and after these the same
tokens in the same order, empty ones left out. -/
structure SameContent (tokens others : Tokens) : Prop where
  single : ∀ position < formsAt, others.textAt position = tokens.textAt position
  forms : others.formTokens = tokens.formTokens

theorem SameContent.readAnswers_eq (h : SameContent tokens others) :
    others.readAnswers = tokens.readAnswers := by
  have hforms : FormFilter.readAll others = FormFilter.readAll tokens :=
    congrArg (List.mapM FormFilter.read) h.forms
  rw [readAnswers, readAnswers, read?_congr _ (h.single mailAt (by decide)), hforms]

/-- Empty tokens at the end say nothing. -/
theorem sameContent_append {dropped : Tokens} (hempty : ∀ token ∈ dropped, token = "") :
    SameContent tokens (tokens ++ dropped) where
  single := by
    intro position _
    rw [textAt, textAt, List.getElem?_append]
    split
    · rfl
    · rename_i hlength
      have hnone : tokens[position]? = none := List.getElem?_eq_none (by omega)
      rw [hnone]
      cases hget : dropped[position - tokens.length]? with
      | none => rfl
      | some token => exact hempty token (List.mem_of_getElem? hget)
  forms := by
    have hnone : (dropped.drop (formsAt - tokens.length)).filter (fun token => !token.isEmpty) =
        [] := by
      rw [List.filter_eq_nil_iff]
      intro token hmem
      simp [hempty token (List.mem_of_mem_drop hmem)]
    rw [formTokens, formTokens, List.drop_append, List.filter_append, hnone, List.append_nil]

end Tokens

namespace Selection

/-- Lists of tokens that differ only in which empty tokens they write out are read as the same
selection, or with the same fault, and so they ask the same of the engine. -/
theorem read_absent_as_empty :
    (∀ tokens others : Tokens, tokens ≠ [] → others ≠ [] → Tokens.SameContent tokens others →
      Selection.read others = Selection.read tokens ∧
        ∀ text, (Selection.read others).map (fun s => s.compile text) =
          (Selection.read tokens).map fun s => s.compile text) ∧
    ∀ kept dropped : Tokens, kept ≠ [] → (∀ token ∈ dropped, token = "") →
      Selection.read (kept ++ dropped) = Selection.read kept := by
  have hread : ∀ tokens others : Tokens, tokens ≠ [] → others ≠ [] →
      Tokens.SameContent tokens others → Selection.read others = Selection.read tokens := by
    intro tokens others hne hothers hsame
    refine read_congr hne hothers (fun position hposition => ?_) hsame.readAnswers_eq
    exact hsame.single position (Nat.lt_succ_of_lt hposition)
  refine ⟨?_, ?_⟩
  · intro tokens others hne hothers hsame
    have heq := hread tokens others hne hothers hsame
    exact ⟨heq, fun text => by rw [heq]⟩
  · intro kept dropped hne hempty
    exact hread kept (kept ++ dropped) hne (by simp [hne]) (Tokens.sameContent_append hempty)

/-- A form filter with empty tokens before and after it; and a group with nothing but empty tokens
behind it. -/
theorem read_absent_as_empty_forms :
    let single : Tokens := ["42", "", "20", "", "F", "", "", "", "", "", "SET"]
    let tokens : Tokens := single ++ ["TEXT/7/true"]
    let others : Tokens := single ++ ["", "", "TEXT/7/true", ""]
    Tokens.SameContent tokens others ∧
      (∃ s, Selection.read tokens = .ok s ∧ s.forms.length = 1 ∧ Selection.read others = .ok s) ∧
        Selection.read (["42"] ++ List.replicate 30 "") = Selection.read ["42"] := by
  intro single tokens others
  have hsame : Tokens.SameContent tokens others := ⟨by decide +kernel, by decide +kernel⟩
  obtain ⟨heq, -⟩ :=
    read_absent_as_empty.1 tokens others (by simp [tokens]) (by simp [others]) hsame
  refine ⟨hsame, ⟨_, rfl, rfl, heq.trans rfl⟩, ?_⟩
  exact read_absent_as_empty.2 ["42"] _ (by simp) fun token => List.eq_of_mem_replicate

end Selection

/-! ### A form filter at the position of the mail filter -/

theorem FormKind.readInt64_name (kind : FormKind) : Text.readInt64 kind.name = none := by
  cases kind <;> decide +kernel

namespace FormFilter

variable {token : String} {filter : FormFilter}

/-- At least three parts between slashes, and not all of them alike. -/
def Shaped (token : String) : Prop :=
  3 ≤ (Text.pieces '/' token).length ∧
    ∃ p ∈ Text.pieces '/' token, ∃ q ∈ Text.pieces '/' token, p ≠ q

theorem Shaped.ne_empty (h : Shaped token) : token ≠ "" := by
  rintro rfl
  have hparts : (Text.pieces '/' "").length = 1 := Text.length_pieces '/' ""
  have hleast := h.1
  omega

/-- The first part names a kind and the second is a number. -/
theorem shaped_of_read (hread : FormFilter.read token = .ok filter) : Shaped token := by
  obtain ⟨kind, form, flag, rest, hparts, -, hkind, hform, -⟩ := read_eq_ok.mp hread
  have hname : filter.kind.name = kind := FormKind.read_eq_ok.mp hkind
  have hnumber : Text.readInt64 form = some filter.form := readInteger_eq_ok.mp hform
  refine ⟨by simp [hparts], kind, by simp [hparts], form, by simp [hparts], ?_⟩
  rintro rfl
  rw [← hname, FormKind.readInt64_name] at hnumber
  cases hnumber

/-- A token in the shape of a form filter is read as one, and never as a mail filter. -/
theorem Shaped.readOrForm_eq (h : Shaped token) :
    MailFilter.readOrForm token = do return (none, some (← FormFilter.read token)) := by
  obtain ⟨hparts, p, hp, q, hq, hne⟩ := h
  have hmany : (Tokens.valueSet token).length ≠ 1 :=
    fun hone => hne (Tokens.length_valueSet_eq_one.mp hone p hp q hq)
  unfold MailFilter.readOrForm
  dsimp only
  rw [if_neg hmany, leastParts, if_pos hparts]

end FormFilter

namespace Tokens

variable {tokens : Tokens} {token : String}

/-- The tokens without a mail filter, and with a form filter before all others. -/
def withFirstForm (tokens : Tokens) (token : String) : Tokens :=
  tokens.take mailAt ++ "" :: token :: tokens.drop formsAt

section WithFirstForm

variable (hget : tokens[mailAt]? = some token)

include hget

theorem length_take_mailAt : (tokens.take mailAt).length = mailAt := by
  have hlength := (List.getElem?_eq_some_iff.mp hget).1
  rw [List.length_take]
  omega

theorem textAt_withFirstForm {position : Nat} (hposition : position < mailAt) :
    (tokens.withFirstForm token).textAt position = tokens.textAt position := by
  have htake : position < (tokens.take mailAt).length := by
    rwa [length_take_mailAt hget]
  rw [textAt, textAt, withFirstForm, List.getElem?_append_left htake, List.getElem?_take,
    if_pos hposition]

theorem textAt_mailAt_withFirstForm : (tokens.withFirstForm token).textAt mailAt = "" := by
  have htake := length_take_mailAt hget
  rw [textAt, withFirstForm, List.getElem?_append_right (Nat.le_of_eq htake), htake]
  rfl

theorem formTokens_withFirstForm (hne : token ≠ "") :
    (tokens.withFirstForm token).formTokens = token :: tokens.formTokens := by
  have htake := length_take_mailAt hget
  have hpast : (tokens.take mailAt).drop formsAt = [] := by
    rw [List.drop_eq_nil_iff, htake]
    decide
  have hdrop : (tokens.withFirstForm token).drop formsAt = token :: tokens.drop formsAt := by
    rw [withFirstForm, List.drop_append, hpast, htake]
    rfl
  rw [formTokens, hdrop, List.filter_cons_of_pos (by simpa using hne), formTokens]

/-- Read as the first form filter, at the position of the mail filter. -/
theorem readAnswers_of_shaped (hshaped : FormFilter.Shaped token) :
    tokens.readAnswers = do
      let first ← FormFilter.read token
      let others ← FormFilter.readAll tokens
      return (none, first :: others) := by
  have htext : tokens.textAt mailAt = token := by
    rw [textAt, hget, Option.getD_some]
  have hat : tokens.at? mailAt = some token := by
    rw [at?_eq_some (by rw [htext]; exact hshaped.ne_empty), htext]
  rw [readAnswers, read?, hat]
  dsimp only
  rw [hshaped.readOrForm_eq]
  cases FormFilter.read token <;> rfl

/-- Read as the first form filter, at the first position of the form filters. -/
theorem readAnswers_withFirstForm (hne : token ≠ "") :
    (tokens.withFirstForm token).readAnswers = do
      let first ← FormFilter.read token
      let others ← FormFilter.readAll tokens
      return (none, first :: others) := by
  have hforms : FormFilter.readAll (tokens.withFirstForm token) =
      (token :: tokens.formTokens).mapM FormFilter.read :=
    congrArg (List.mapM FormFilter.read) (formTokens_withFirstForm hget hne)
  rw [readAnswers, read?, at?_eq_none (textAt_mailAt_withFirstForm hget), hforms, List.mapM_cons]
  cases FormFilter.read token with
  | error fault => rfl
  | ok first =>
    show (tokens.formTokens.mapM FormFilter.read >>= _) >>= _ =
      tokens.formTokens.mapM FormFilter.read >>= _
    cases tokens.formTokens.mapM FormFilter.read <;> rfl

end WithFirstForm

end Tokens

namespace Selection

/-- A form filter at the position of the mail filter means what it means as the first of the form
filters, with no mail filter; and every token that can be read as a form filter is taken for one. -/
theorem read_form_in_mail_position :
    (∀ (tokens : Tokens) (token : String), tokens[Tokens.mailAt]? = some token →
      FormFilter.Shaped token →
        Selection.read (tokens.withFirstForm token) = Selection.read tokens ∧
        ∀ s, Selection.read tokens = .ok s → s.mail = none ∧
          ∃ first others, FormFilter.read token = .ok first ∧
            FormFilter.readAll tokens = .ok others ∧ s.forms = first :: others) ∧
    ∀ (token : String) (filter : FormFilter), FormFilter.read token = .ok filter →
      FormFilter.Shaped token ∧ MailFilter.readOrForm token = .ok (none, some filter) := by
  refine ⟨?_, ?_⟩
  · intro tokens token hget hshaped
    have hne : tokens ≠ [] := by
      rintro rfl
      cases hget
    refine ⟨?_, ?_⟩
    · refine read_congr hne (by simp [Tokens.withFirstForm]) ?_ ?_
      · exact fun position hposition => Tokens.textAt_withFirstForm hget hposition
      · rw [Tokens.readAnswers_withFirstForm hget hshaped.ne_empty,
          Tokens.readAnswers_of_shaped hget hshaped]
    · intro s hread
      rw [read_eq hne, Tokens.readAnswers_of_shaped hget hshaped] at hread
      obtain ⟨group, -, hread⟩ := bind_eq_ok.mp hread
      obtain ⟨ages, -, hread⟩ := bind_eq_ok.mp hread
      obtain ⟨since, -, hread⟩ := bind_eq_ok.mp hread
      obtain ⟨answers, hanswers, hread⟩ := bind_eq_ok.mp hread
      obtain ⟨first, hfirst, hanswers⟩ := bind_eq_ok.mp hanswers
      obtain ⟨others, hothers, hanswers⟩ := bind_eq_ok.mp hanswers
      cases hanswers
      cases hread
      exact ⟨rfl, first, others, hfirst, hothers, rfl⟩
  · intro token filter hread
    have hshaped := FormFilter.shaped_of_read hread
    refine ⟨hshaped, ?_⟩
    rw [hshaped.readOrForm_eq, hread]
    rfl

/-- A filter for a range before one for a choice; and one that is reported as malformed in either
position, though there is another malformed one behind it. -/
theorem read_form_in_mail_position_malformed :
    let single : Tokens := ["42", "", "", "", "", "", "0/2", "", "", ""]
    (∃ s, Selection.read (single ++ ["RANGE/7/true/9/-1/5", "RADIO/8/false"]) = .ok s ∧
      Selection.read (single ++ ["", "RANGE/7/true/9/-1/5", "RADIO/8/false"]) = .ok s ∧
        s.mail = none ∧ s.forms.map FormFilter.kind = [.range, .radio]) ∧
    Selection.read (single ++ ["SET/SET/7", "RADIO"]) = .error (.token (.formKind "SET")) ∧
      Selection.read (single ++ ["", "SET/SET/7", "RADIO"]) =
        .error (.token (.formKind "SET")) := by
  intro single
  have hrange : FormFilter.Shaped "RANGE/7/true/9/-1/5" :=
    ⟨by decide +kernel, "RANGE", by decide +kernel, "7", by decide +kernel, by decide⟩
  have hset : FormFilter.Shaped "SET/SET/7" :=
    ⟨by decide +kernel, "SET", by decide +kernel, "7", by decide +kernel, by decide⟩
  obtain ⟨hsame, hread⟩ := read_form_in_mail_position.1
    (single ++ ["RANGE/7/true/9/-1/5", "RADIO/8/false"]) "RANGE/7/true/9/-1/5" rfl hrange
  obtain ⟨hmalformed, -⟩ := read_form_in_mail_position.1
    (single ++ ["SET/SET/7", "RADIO"]) "SET/SET/7" rfl hset
  have hfault : Selection.read (single ++ ["SET/SET/7", "RADIO"]) =
      .error (.token (.formKind "SET")) := rfl
  exact ⟨⟨_, rfl, hsame.trans rfl, (hread _ rfl).1, rfl⟩, hfault, hmalformed.trans hfault⟩

end Selection

end Outreach
