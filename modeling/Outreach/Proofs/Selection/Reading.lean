import Outreach.Proofs.Fault.Steps
import Outreach.Selection

/-!
# What an accepted list of tokens reads as

Reading a selection succeeds exactly when its group and each of its filters can be read, and then
each part of the selection comes from the tokens at its own position. The age filter is the only one
that is built up part by part; what it holds in the end is a question of which parts there are.
-/

namespace Outreach

namespace Tokens

/-- The token at a position, the empty text when there is none. -/
def textAt (tokens : Tokens) (position : Nat) : String := (tokens[position]?).getD ""

theorem at?_eq (tokens : Tokens) (position : Nat) :
    tokens.at? position =
      if tokens.textAt position = "" then none else some (tokens.textAt position) := by
  unfold at? textAt
  cases tokens[position]? with
  | none => rfl
  | some token => simp

theorem at?_eq_none {tokens : Tokens} {position : Nat} (hempty : tokens.textAt position = "") :
    tokens.at? position = none := by
  rw [at?_eq, if_pos hempty]

theorem at?_eq_some {tokens : Tokens} {position : Nat} (hne : tokens.textAt position ≠ "") :
    tokens.at? position = some (tokens.textAt position) := by
  rw [at?_eq, if_neg hne]

theorem getD_at? (tokens : Tokens) (position : Nat) :
    (tokens.at? position).getD "" = tokens.textAt position := by
  rw [at?_eq]
  split
  · rename_i hempty
    exact hempty.symm
  · rfl

theorem read?_eq_ok {α : Type} {tokens : Tokens} {position : Nat}
    {reader : String → Except Fault α} {value : Option α} :
    tokens.read? position reader = .ok value ↔
      if tokens.textAt position = "" then value = none
      else ∃ a, reader (tokens.textAt position) = .ok a ∧ value = some a := by
  unfold read?
  by_cases hempty : tokens.textAt position = ""
  · rw [at?_eq_none hempty, if_pos hempty, Except.ok.injEq, eq_comm]
  · rw [at?_eq_some hempty, if_neg hempty, Steps.map_eq_ok]
    simp only [eq_comm]

theorem forall_mem_map_at? {α : Type} {tokens : Tokens} {position : Nat} {f : String → α}
    {P : α → Prop} :
    (∀ a ∈ (tokens.at? position).map f, P a) ↔
      (tokens.textAt position ≠ "" → P (f (tokens.textAt position))) := by
  by_cases hempty : tokens.textAt position = ""
  · rw [at?_eq_none hempty]
    simp [hempty]
  · rw [at?_eq_some hempty]
    simp [hempty]

/-- What is asked of a token that may be absent, once it is known what its reading asks for. -/
theorem forall_mem_read? {α : Type} {tokens : Tokens} {position : Nat}
    {reader : String → Except Fault α} {value : Option α} {P : α → Prop} {Q : Prop}
    (hread : tokens.read? position reader = .ok value)
    (hmeaning : ∀ a, reader (tokens.textAt position) = .ok a → (P a ↔ Q)) :
    (∀ a ∈ value, P a) ↔ (tokens.textAt position ≠ "" → Q) := by
  have hvalue := read?_eq_ok.mp hread
  by_cases hempty : tokens.textAt position = ""
  · rw [if_pos hempty] at hvalue
    simp [hempty, hvalue]
  · rw [if_neg hempty] at hvalue
    obtain ⟨a, ha, rfl⟩ := hvalue
    simp [hempty, hmeaning a ha]

theorem group_eq_ok {tokens : Tokens} {group : String} :
    tokens.group = .ok group ↔ tokens.textAt groupAt ≠ "" ∧ group = tokens.textAt groupAt := by
  unfold Tokens.group
  by_cases hempty : tokens.textAt groupAt = ""
  · rw [at?_eq_none hempty]
    simp [hempty]
  · rw [at?_eq_some hempty]
    simp [hempty, eq_comm]

theorem mem_valueSet {token part : String} : part ∈ valueSet token ↔ part ∈ Text.pieces '/' token :=
  mem_firstOccurrences part _

/-- A token of a single value is one whose parts are all alike. -/
theorem length_valueSet_eq_one {token : String} :
    (valueSet token).length = 1 ↔
      ∀ p ∈ Text.pieces '/' token, ∀ q ∈ Text.pieces '/' token, p = q := by
  simp only [← mem_valueSet]
  have hnodup : (valueSet token).Nodup := nodup_firstOccurrences _
  have hne : valueSet token ≠ [] := by
    intro hnil
    obtain ⟨part, hpart⟩ := List.exists_mem_of_ne_nil (Text.pieces '/' token) (by
      simpa [Text.pieces] using Text.cut_ne_nil '/' token.toList)
    rw [← mem_valueSet, hnil] at hpart
    cases hpart
  refine ⟨?_, ?_⟩
  · intro hlength
    obtain ⟨value, hvalue⟩ := List.length_eq_one_iff.mp hlength
    rw [hvalue]
    simp
  · intro halike
    cases hset : valueSet token with
    | nil => exact absurd hset hne
    | cons first rest =>
      rw [hset] at halike hnodup
      cases rest with
      | nil => rfl
      | cons second rest =>
        have hsame := halike first (by simp) second (by simp)
        rw [hsame] at hnodup
        simp at hnodup

end Tokens

/-! ### Ages -/

namespace AgeBand

theorem codeText_injective {b c : AgeBand} (h : b.codeText = c.codeText) : b = c := by
  revert h
  cases b <;> cases c <;> decide

theorem codeText_ne_unknownCode (b : AgeBand) : b.codeText ≠ unknownCode := by
  cases b <;> decide

theorem read_eq_ok {code : String} {band : AgeBand} :
    AgeBand.read code = .ok band ↔ band.codeText = code := by
  have hfind : ofCode? code = some band ↔ band.codeText = code := by
    refine ⟨?_, ?_⟩
    · intro hfound
      simpa using List.find?_some hfound
    · rintro rfl
      unfold ofCode?
      cases hfound : all.find? fun other => decide (other.codeText = band.codeText) with
      | none => exact absurd (List.find?_eq_none.mp hfound band (mem_all band)) (by simp)
      | some other =>
        have hsame : other.codeText = band.codeText := by simpa using List.find?_some hfound
        rw [codeText_injective hsame]
  rw [← hfind, AgeBand.read]
  split <;> simp [*]

end AgeBand

namespace AgeFilter

/-- One code adds the sign for an unknown age or one band, and drops nothing. -/
theorem addCode_eq_ok {filter next : AgeFilter} {code : String}
    (hstep : filter.addCode code = .ok next) :
    (next.orUnknown = true ↔ filter.orUnknown = true ∨ code = AgeBand.unknownCode) ∧
      ∀ band, band ∈ next.bands ↔ band ∈ filter.bands ∨ band.codeText = code := by
  unfold addCode at hstep
  by_cases hunknown : code = AgeBand.unknownCode
  · rw [if_pos hunknown] at hstep
    cases hstep
    refine ⟨by simp [hunknown], fun band => ?_⟩
    rw [hunknown]
    simp [AgeBand.codeText_ne_unknownCode]
  · rw [if_neg hunknown] at hstep
    obtain ⟨band, hread, hnext⟩ := Steps.map_eq_ok.mp hstep
    have hcode := AgeBand.read_eq_ok.mp hread
    have hsame : ∀ other : AgeBand, other.codeText = code ↔ other = band := by
      intro other
      rw [← hcode]
      exact ⟨AgeBand.codeText_injective, fun h => h ▸ rfl⟩
    by_cases hmem : band ∈ filter.bands
    · rw [if_pos hmem] at hnext
      subst hnext
      refine ⟨by simp [hunknown], fun other => ?_⟩
      rw [hsame]
      exact ⟨Or.inl, fun h => h.elim id fun h => h ▸ hmem⟩
    · rw [if_neg hmem] at hnext
      subst hnext
      refine ⟨by simp [hunknown], fun other => ?_⟩
      rw [hsame, List.mem_append, List.mem_singleton]

theorem foldlM_addCode_eq_ok {codes : List String} {start final : AgeFilter}
    (hrun : codes.foldlM addCode start = .ok final) :
    (final.orUnknown = true ↔ start.orUnknown = true ∨ AgeBand.unknownCode ∈ codes) ∧
      ∀ band, band ∈ final.bands ↔ band ∈ start.bands ∨ band.codeText ∈ codes := by
  induction codes generalizing start with
  | nil =>
    cases hrun
    simp
  | cons code rest ih =>
    obtain ⟨next, hstep, hrest⟩ := Steps.bind_eq_ok.mp hrun
    obtain ⟨hunknown, hbands⟩ := addCode_eq_ok hstep
    obtain ⟨hunknown', hbands'⟩ := ih hrest
    refine ⟨?_, fun band => ?_⟩
    · rw [hunknown', hunknown, List.mem_cons, or_assoc, @eq_comm _ code]
    · rw [hbands', hbands, List.mem_cons, or_assoc]

/-- What an age filter holds: each part of its token is the sign for an unknown age or a band. -/
theorem read_eq_ok {token : String} {filter : AgeFilter} (hread : read token = .ok filter) :
    (filter.orUnknown = true ↔ AgeBand.unknownCode ∈ Text.pieces '/' token) ∧
      ∀ band, band ∈ filter.bands ↔ band.codeText ∈ Text.pieces '/' token := by
  obtain ⟨hunknown, hbands⟩ := foldlM_addCode_eq_ok hread
  refine ⟨?_, fun band => ?_⟩
  · rw [hunknown, Tokens.mem_valueSet]
    simp
  · rw [hbands, Tokens.mem_valueSet]
    simp

end AgeFilter

/-! ### The whole selection -/

namespace Selection

/-- Each part of a selection as read from the tokens at its position. -/
structure ReadFrom (s : Selection) (tokens : Tokens) : Prop where
  group_ne : tokens.textAt Tokens.groupAt ≠ ""
  group : s.group = tokens.textAt Tokens.groupAt
  scope : s.scope = TextScope.read (tokens.textAt Tokens.scopeAt)
  page : s.page = Page.read tokens
  order : s.order = Order.read tokens
  genders : s.genders = (tokens.at? Tokens.genderAt).map Tokens.valueSet
  stations : s.stations = (tokens.at? Tokens.stationAt).map StationFilter.read
  ages : tokens.read? Tokens.ageAt AgeFilter.read = .ok s.ages
  changedSince : tokens.read? Tokens.lastChangeAt DateBound.readLastChange = .ok s.changedSince
  /-- The token of the mail filter is one, or the first form filter, or neither. -/
  mailOrForm : ∃ read others,
    tokens.read? Tokens.mailAt MailFilter.readOrForm = .ok read ∧
      FormFilter.readAll tokens = .ok others ∧
        s.mail = (read.getD (none, none)).1 ∧
          s.forms = (read.getD (none, none)).2.toList ++ others

theorem length_pos_of_textAt {tokens : Tokens} (hne : tokens.textAt Tokens.groupAt ≠ "") :
    ¬ tokens.length < max 1 1 := by
  cases tokens with
  | nil => exact absurd rfl hne
  | cons token rest => simp

theorem read_eq_ok {tokens : Tokens} {s : Selection} :
    Selection.read tokens = .ok s ↔ s.ReadFrom tokens := by
  refine ⟨?_, ?_⟩
  · intro hread
    unfold Selection.read readAtLeast at hread
    split at hread
    · cases hread
    · obtain ⟨group, hgroup, hread⟩ := Steps.bind_eq_ok.mp hread
      obtain ⟨ages, hages, hread⟩ := Steps.bind_eq_ok.mp hread
      obtain ⟨since, hsince, hread⟩ := Steps.bind_eq_ok.mp hread
      obtain ⟨mail, hmail, hread⟩ := Steps.bind_eq_ok.mp hread
      obtain ⟨others, hothers, hread⟩ := Steps.bind_eq_ok.mp hread
      obtain ⟨hne, hgroup⟩ := Tokens.group_eq_ok.mp hgroup
      cases hread
      exact ⟨hne, hgroup, by rw [Tokens.getD_at?], rfl, rfl, rfl, rfl, hages, hsince,
        mail, others, hmail, hothers, rfl, rfl⟩
  · intro h
    obtain ⟨mail, others, hmail, hothers, hmailPart, hforms⟩ := h.mailOrForm
    unfold Selection.read readAtLeast
    rw [if_neg (length_pos_of_textAt h.group_ne)]
    refine Steps.bind_eq_ok.mpr ⟨s.group, Tokens.group_eq_ok.mpr ⟨h.group_ne, h.group⟩, ?_⟩
    refine Steps.bind_eq_ok.mpr ⟨s.ages, h.ages, ?_⟩
    refine Steps.bind_eq_ok.mpr ⟨s.changedSince, h.changedSince, ?_⟩
    refine Steps.bind_eq_ok.mpr ⟨mail, hmail, ?_⟩
    refine Steps.bind_eq_ok.mpr ⟨others, hothers, ?_⟩
    simp only [Option.getD] at hmailPart hforms
    rw [Tokens.getD_at?, ← h.scope, ← h.page, ← h.order, ← h.genders, ← h.stations, ← hmailPart,
      ← hforms]
    rfl

end Selection

end Outreach
