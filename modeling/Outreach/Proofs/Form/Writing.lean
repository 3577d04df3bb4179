import Outreach.Proofs.Form.Acceptance
import Outreach.Proofs.Query.Occurrences
import Outreach.Proofs.Text.Pieces

/-!
# Written form filters

A filter is written as its token: the kind, the form and the flag, then what its criterion asks for.
A filter whose values suit its kind is read back from that token, because no part of it holds a
slash (`Criterion.slash_not_mem_written`) and each value is read back on its own
(`FormValue.isReading_written`).
-/

namespace Outreach

open Calendar Steps

/-! ### Values -/

/-- A value as a part of a token; a date is written with any number of decimals and either mark of
universal time. -/
def FormValue.written (places : Nat) (zone : List Char) : FormValue → String
  | .text s => s
  | .integer n => toString n.toInt
  | .millis n => Instant.secondText places zone (n.toInt / 1000)

/-- A value of the sort that the kind calls for and that a part of a token can hold. Dates are whole
seconds of years with four digits. -/
def FormValue.Suits (kind : FormKind) : FormValue → Prop
  | .text s => kind ≠ .date ∧ kind ≠ .range ∧ '/' ∉ s.toList
  | .integer _ => kind = .range
  | .millis n => kind = .date ∧ n.toInt % 1000 = 0 ∧
      0 ≤ (Instant.mk (n.toInt / 1000) 0).year ∧ (Instant.mk (n.toInt / 1000) 0).year ≤ 9999

instance (kind : FormKind) : (value : FormValue) → Decidable (value.Suits kind)
  | .text _ => inferInstanceAs (Decidable (_ ∧ _ ∧ _))
  | .integer _ => inferInstanceAs (Decidable (_ = _))
  | .millis _ => inferInstanceAs (Decidable (_ ∧ _ ∧ _ ∧ _))

variable {places : Nat} {zone : List Char} {kind : FormKind} {value : FormValue}

theorem FormValue.isReading_written (hzone : zone ∈ Instant.utcMarks) (hsuits : value.Suits kind) :
    value.IsReading kind (value.written places zone) := by
  cases value with
  | text s =>
    obtain ⟨hdate, hrange, -⟩ := hsuits
    exact ⟨hdate, hrange, rfl⟩
  | integer n => exact ⟨hsuits, Text.readInt64_toString n⟩
  | millis n =>
    obtain ⟨rfl, hwhole, hyear⟩ := hsuits
    refine ⟨rfl, _, Instant.read_secondText places hzone hyear, ?_⟩
    dsimp only
    omega

theorem FormValue.slash_not_mem_written (hzone : zone ∈ Instant.utcMarks)
    (hsuits : value.Suits kind) : '/' ∉ (value.written places zone).toList := by
  cases value with
  | text s => exact hsuits.2.2
  | integer n => exact Text.not_mem_repr rfl (by decide) n.toInt
  | millis n => exact Instant.slash_not_mem_secondText places hzone (n.toInt / 1000)

/-! ### Criteria -/

/-- The parts after the flag. -/
def Criterion.written (places : Nat) (zone : List Char) (criterion : Criterion) : List String :=
  criterion.option?.toList.map (fun option => toString option.toInt) ++
    criterion.values.map (FormValue.written places zone)

theorem Criterion.slash_not_mem_written {criterion : Criterion} (hzone : zone ∈ Instant.utcMarks)
    (hsuits : ∀ value ∈ criterion.values, value.Suits kind) :
    ∀ part ∈ criterion.written places zone, '/' ∉ part.toList := by
  intro part hpart
  rcases List.mem_append.mp hpart with hoption | hlast
  · obtain ⟨option, -, rfl⟩ := List.mem_map.mp hoption
    exact Text.not_mem_repr rfl (by decide) option.toInt
  · obtain ⟨value, hvalue, rfl⟩ := List.mem_map.mp hlast
    exact FormValue.slash_not_mem_written hzone (hsuits value hvalue)

theorem Criterion.read_written (token : String) (places : Nat) {criterion : Criterion}
    (hzone : zone ∈ Instant.utcMarks) (hsuits : ∀ value ∈ criterion.values, value.Suits kind) :
    (criterion.written places zone).length ≤ 3 ∧
      FormFilter.readCriterion kind token (criterion.written places zone) = .ok criterion := by
  have hparts : criterion.parts = (criterion.written places zone).length + 3 := by
    cases criterion <;> rfl
  have hlength : (criterion.written places zone).length ≤ 3 := by
    cases criterion <;> simp [written, option?, values]
  have hoption : (criterion.written places zone).head?.bind Text.readInt64 =
      criterion.option? := by
    cases criterion with
    | answered => rfl
    | option o => exact Text.readInt64_toString o
    | value o _ => exact Text.readInt64_toString o
    | range o _ _ => exact Text.readInt64_toString o
  have hvalues : (criterion.written places zone).tail =
      criterion.values.map (FormValue.written places zone) := by
    cases criterion <;> rfl
  refine ⟨hlength, (FormFilter.readCriterion_eq_ok_iff hlength).mpr ⟨hoption, hparts, ?_⟩⟩
  rw [hvalues, List.forall₂_map_left_iff, List.forall₂_same]
  exact fun value hvalue => FormValue.isReading_written hzone (hsuits value hvalue)

/-! ### Filters -/

namespace FormFilter

/-- The token of a filter. -/
def text (places : Nat) (zone : List Char) (filter : FormFilter) : String :=
  "/".intercalate (filter.kind.name :: toString filter.form.toInt ::
    (if filter.mustExist then "true" else "false") :: filter.criterion.written places zone)

/-- A filter is read back from its token. -/
theorem read_text {filter : FormFilter} (places : Nat) (hzone : zone ∈ Instant.utcMarks)
    (hsuits : ∀ value ∈ filter.criterion.values, value.Suits filter.kind) :
    read (filter.text places zone) = .ok filter := by
  have hpieces : Text.pieces '/' (filter.text places zone) =
      filter.kind.name :: toString filter.form.toInt ::
        (if filter.mustExist then "true" else "false") :: filter.criterion.written places zone := by
    refine Text.pieces_intercalate (List.cons_ne_nil _ _) ?_
    simp only [List.forall_mem_cons]
    refine ⟨?_, Text.not_mem_repr rfl (by decide) _, ?_,
      Criterion.slash_not_mem_written hzone hsuits⟩
    · cases filter.kind <;> decide
    · split <;> decide
  obtain ⟨hlength, hcriterion⟩ :=
    Criterion.read_written (filter.text places zone) places hzone hsuits
  refine read_eq_ok.mpr ⟨_, _, _, _, hpieces, hlength, FormKind.read_eq_ok.mpr rfl,
    readInteger_eq_ok.mpr (Text.readInt64_toString _), readFlagPart_eq_ok.mpr ?_, hcriterion⟩
  cases filter.mustExist <;> decide

/-- Whether an answer must match or must not, what its value is matched with is asked for. -/
theorem occursIn_answer (option : Int64) (matcher : Query) (mustExist : Bool) :
    matcher.OccursIn (answer option matcher mustExist) := by
  cases mustExist with
  | true =>
    apply Query.OccursIn.nested
    exact .clause (List.mem_cons_of_mem _ List.mem_cons_self) .self
  | false =>
    -- The sub-document that does not match is the second choice of the first clause.
    apply Query.OccursIn.clause List.mem_cons_self
    apply Query.OccursIn.nested
    apply Query.OccursIn.clause (List.mem_cons_of_mem _ List.mem_cons_self)
    exact .clause (List.mem_cons_of_mem _ List.mem_cons_self) .self

/-- The end of a day is far within a word. -/
theorem toInt_add_daySpan {s : String} {t : Instant} {start : Int64}
    (hread : Timestamp.read s = .ok t) (hstart : start.toInt = t.seconds * 1000) :
    (start + daySpanMillis).toInt = start.toInt + 86399000 := by
  obtain ⟨hleast, hmost⟩ := Instant.seconds_bounds hread
  rw [Int64.toInt_add, show daySpanMillis.toInt = 86399000 from by decide, hstart]
  exact Int.bmod_eq_of_le (by omega) (by omega)

/-- A date alone asks for the span of its day, without wrapping. -/
theorem query_of_date {token : String} {filter : FormFilter} (hread : read token = .ok filter)
    (hkind : filter.kind = .date) (hlength : (Text.pieces '/' token).length = 5) :
    ∃ option part t start stop, filter.criterion = .value option (.millis start) ∧
      (Text.pieces '/' token)[4]? = some part ∧ Timestamp.read part = .ok t ∧
      start.toInt = t.seconds * 1000 ∧ stop.toInt = start.toInt + 86399000 ∧
      filter.query = answer option
        (.range Field.answerValue (some (.integer start)) (some (.integer stop)))
        filter.mustExist ∧
      (Query.range Field.answerValue (some (.integer start)) (some (.integer stop))).OccursIn
        filter.query := by
  have hvalues := values_of_read hread
  have hparts := length_pieces_of_read hread
  rw [hlength] at hparts
  obtain ⟨kind, form, mustExist, criterion⟩ := filter
  dsimp only at hkind hvalues hparts
  subst hkind
  cases criterion with
  | answered => cases hparts
  | option _ => cases hparts
  | range _ _ _ => cases hparts
  | value option value =>
    obtain ⟨part, _, hvalue, -, hdrop⟩ := List.forall₂_cons_right_iff.mp hvalues
    have hpart : (Text.pieces '/' token)[4]? = some part := by
      have hfirst : ((Text.pieces '/' token).drop 4)[0]? = (Text.pieces '/' token)[4]? :=
        List.getElem?_drop
      rw [hdrop] at hfirst
      exact hfirst.symm
    cases value with
    | text s => exact absurd rfl hvalue.1
    | integer n => cases hvalue.1
    | millis start =>
      obtain ⟨-, t, ht, hstart⟩ := hvalue
      exact ⟨option, part, t, start, start + daySpanMillis, rfl, hpart, ht, hstart,
        toInt_add_daySpan ht hstart, rfl, occursIn_answer option _ mustExist⟩

/-- Reading form tokens is exact. A token reads as a filter exactly when every part of it is
acceptable, and otherwise it is malformed. The filter is the one that the token stands for, its
values of the sort that the kind calls for, and a date alone asks for its whole day; no milliseconds
wrap. And a filter whose values suit its kind is read back from its token, however its dates write
universal time. -/
theorem read_exact :
    (∀ token, (∃ filter, read token = .ok filter) ↔ Accepted (Text.pieces '/' token)) ∧
    (∀ token fault, read token = .error fault → fault.kind = .decode) ∧
    (∀ token filter, read token = .ok filter ↔ filter.IsReading token) ∧
    (∀ token filter, read token = .ok filter → filter.kind = .date →
      (Text.pieces '/' token).length = 5 →
      ∃ option part t start stop, filter.criterion = .value option (.millis start) ∧
        (Text.pieces '/' token)[4]? = some part ∧ Timestamp.read part = .ok t ∧
        start.toInt = t.seconds * 1000 ∧ stop.toInt = start.toInt + 86399000 ∧
        filter.query = answer option
          (.range Field.answerValue (some (.integer start)) (some (.integer stop)))
          filter.mustExist ∧
        (Query.range Field.answerValue (some (.integer start)) (some (.integer stop))).OccursIn
          filter.query) ∧
    ∀ (filter : FormFilter) (places : Nat), ∀ zone ∈ Instant.utcMarks,
      (∀ value ∈ filter.criterion.values, value.Suits filter.kind) →
      read (filter.text places zone) = .ok filter :=
  ⟨exists_read_iff, failsOnly_read, fun _ _ => isReading_iff, fun _ _ => query_of_date,
    fun _ places _ hzone => read_text places hzone⟩

/-- A day by its local time, and the range of all dates with years of four digits. -/
theorem read_exact_dates :
    let day : FormFilter := ⟨.date, 7, true, .value 42 (.millis 1709254800000)⟩
    let range : FormFilter :=
      ⟨.date, -7, false, .range 42 (.millis (-62167219200000)) (.millis 253402300799000)⟩
    FormFilter.read "DATE/7/T/42/2024-02-29T23:30:00.9-01:30" = .ok day ∧
      day.query = answer 42 (.range Field.answerValue (some (.integer 1709254800000))
        (some (.integer 1709341199000))) true ∧
      range.text 3 ['Z'] = "DATE/-7/false/42/0000-01-01T00:00:00.000Z/9999-12-31T23:59:59.000Z" ∧
      FormFilter.read (range.text 3 ['Z']) = .ok range := by
  intro day range
  have hday : FormFilter.read "DATE/7/T/42/2024-02-29T23:30:00.9-01:30" = .ok day := rfl
  have hrange : ∀ value ∈ range.criterion.values, value.Suits range.kind := by decide
  obtain ⟨option, part, t, start, stop, hvalue, -, -, -, hstop, hquery, -⟩ :=
    read_exact.2.2.2.1 _ _ hday rfl (by decide +kernel)
  refine ⟨hday, ?_, by decide +kernel, read_exact.2.2.2.2 range 3 _ (by decide) hrange⟩
  cases hvalue
  rw [hquery, Int64.toInt_inj.mp (hstop.trans (by decide : _ = (1709341199000 : Int64).toInt))]

end FormFilter

end Outreach
