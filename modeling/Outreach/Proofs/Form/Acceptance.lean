import Mathlib.Data.List.Forall2
import Outreach.Proofs.Calendar.InstantText
import Outreach.Proofs.Form.Reading

/-!
# Which form tokens are accepted

The kind decides how the values of a token are read, and a value that was read shows it: dates carry
milliseconds, ranges carry integers, every other kind carries the text as it stands
(`FormValue.IsReading`). A token is accepted when each of its parts can be read on its own
(`exists_read_iff`).
-/

namespace Outreach

open Calendar Steps

/-! ### Values -/

/-- The value that a part stands for in a token of the kind. The milliseconds of a date are those of
its whole second, without wrapping. -/
def FormValue.IsReading (kind : FormKind) (part : String) : FormValue → Prop
  | .text s => kind ≠ .date ∧ kind ≠ .range ∧ s = part
  | .integer n => kind = .range ∧ Text.readInt64 part = some n
  | .millis n => kind = .date ∧ ∃ t, Timestamp.read part = .ok t ∧ n.toInt = t.seconds * 1000

/-- The parts that a value of the kind can be read from. -/
def FormKind.Reads (kind : FormKind) (part : String) : Prop :=
  match kind with
  | .date => ∃ t, Timestamp.read part = .ok t
  | .range => ∃ n, Text.readInt64 part = some n
  | .text | .radio | .checkbox => True

def Criterion.values : Criterion → List FormValue
  | .answered | .option _ => []
  | .value _ v => [v]
  | .range _ low high => [low, high]

/-- The milliseconds of a timestamp are far within a word. -/
theorem Calendar.Instant.toInt_wholeMillis {s : String} {t : Instant}
    (hread : Timestamp.read s = .ok t) :
    (Int64.ofInt t.wholeMillis).toInt = t.seconds * 1000 := by
  obtain ⟨hleast, hmost⟩ := Instant.seconds_bounds hread
  refine Int64.toInt_ofInt_of_le ?_ ?_
  · unfold Instant.wholeMillis
    omega
  · unfold Instant.wholeMillis
    omega

theorem FormValue.read_date {token part : String} {value : FormValue} :
    FormValue.read .date token part = .ok value ↔ value.IsReading .date part := by
  unfold FormValue.read
  dsimp only
  cases hread : Timestamp.read part with
  | error fault => cases value <;> simp [IsReading, hread]
  | ok t =>
    have hmillis := Instant.toInt_wholeMillis hread
    cases value with
    | text s => simp [IsReading]
    | integer n => simp [IsReading]
    | millis n =>
      simp only [IsReading, hread, Except.ok.injEq, FormValue.millis.injEq, true_and,
        exists_eq_left']
      rw [← hmillis, Int64.toInt_inj, eq_comm]

theorem FormValue.read_eq_ok {kind : FormKind} {token part : String} {value : FormValue} :
    FormValue.read kind token part = .ok value ↔ value.IsReading kind part := by
  cases kind with
  | date => exact read_date
  | range =>
    rw [FormValue.read, map_eq_ok]
    simp only [FormFilter.readInteger_eq_ok]
    cases value <;> simp [IsReading]
  | text => cases value <;> simp [FormValue.read, IsReading, eq_comm]
  | radio => cases value <;> simp [FormValue.read, IsReading, eq_comm]
  | checkbox => cases value <;> simp [FormValue.read, IsReading, eq_comm]

theorem FormKind.reads_iff {kind : FormKind} {part : String} :
    kind.Reads part ↔ ∃ value : FormValue, value.IsReading kind part := by
  refine ⟨?_, ?_⟩
  · intro hreads
    cases kind with
    | date =>
      obtain ⟨t, ht⟩ := hreads
      exact ⟨.millis (Int64.ofInt t.wholeMillis), rfl, t, ht, Instant.toInt_wholeMillis ht⟩
    | range =>
      obtain ⟨n, hn⟩ := hreads
      exact ⟨.integer n, rfl, hn⟩
    | text => exact ⟨.text part, by decide, by decide, rfl⟩
    | radio => exact ⟨.text part, by decide, by decide, rfl⟩
    | checkbox => exact ⟨.text part, by decide, by decide, rfl⟩
  · rintro ⟨value, hvalue⟩
    cases value with
    | text s =>
      obtain ⟨hdate, hrange, -⟩ := hvalue
      cases kind with
      | date => exact absurd rfl hdate
      | range => exact absurd rfl hrange
      | text => trivial
      | radio => trivial
      | checkbox => trivial
    | integer n =>
      obtain ⟨rfl, hn⟩ := hvalue
      exact ⟨n, hn⟩
    | millis n =>
      obtain ⟨rfl, t, ht, -⟩ := hvalue
      exact ⟨t, ht⟩

namespace FormFilter

variable {token : String} {kind : FormKind} {rest : List String} {criterion : Criterion}

/-! ### Criteria -/

/-- The parts after the flag are the option and the values. -/
theorem readCriterion_eq_ok_iff (hlength : rest.length ≤ 3) :
    readCriterion kind token rest = .ok criterion ↔
      rest.head?.bind Text.readInt64 = criterion.option? ∧ criterion.parts = rest.length + 3 ∧
        List.Forall₂ (fun part value => value.IsReading kind part) rest.tail criterion.values := by
  match rest with
  | [] =>
    cases criterion <;>
      simp [readCriterion, Criterion.option?, Criterion.parts, Criterion.values]
  | [option] =>
    rw [readCriterion, map_eq_ok]
    simp only [readInteger_eq_ok]
    cases criterion <;> simp [Criterion.option?, Criterion.parts, Criterion.values]
  | [option, value] =>
    rw [readCriterion, bind_eq_ok]
    simp only [readInteger_eq_ok, map_eq_ok, FormValue.read_eq_ok]
    cases criterion <;> simp [Criterion.option?, Criterion.parts, Criterion.values]
  | option :: low :: high :: more =>
    obtain rfl : more = [] := by
      simp only [List.length_cons] at hlength
      exact List.length_eq_zero_iff.mp (by omega)
    rw [readCriterion, bind_eq_ok]
    simp only [readInteger_eq_ok, bind_eq_ok, FormValue.read_eq_ok, pure, Except.pure]
    cases criterion <;> simp [Criterion.option?, Criterion.parts, Criterion.values]

/-- A criterion can be read when the option is an integer and each value readable for the kind. -/
theorem exists_readCriterion (hlength : rest.length ≤ 3) :
    (∃ criterion, readCriterion kind token rest = .ok criterion) ↔
      (∀ option ∈ rest.head?, ∃ n, Text.readInt64 option = some n) ∧
        ∀ value ∈ rest.tail, kind.Reads value := by
  simp only [readCriterion_eq_ok_iff hlength, FormKind.reads_iff]
  refine ⟨?_, ?_⟩
  · rintro ⟨criterion, hoption, hparts, hvalues⟩
    refine ⟨?_, ?_⟩
    · intro option hhead
      rw [Option.mem_def.mp hhead, Option.bind_some] at hoption
      cases criterion with
      | answered =>
        have hnone : rest = [] := List.length_eq_zero_iff.mp (by
          rw [Criterion.parts] at hparts
          omega)
        rw [hnone] at hhead
        cases hhead
      | option o => exact ⟨o, hoption⟩
      | value o _ => exact ⟨o, hoption⟩
      | range o _ _ => exact ⟨o, hoption⟩
    · exact ((List.forall₂_and_left _ _).mp
        (hvalues.imp fun _ value hvalue => ⟨⟨value, hvalue⟩, hvalue⟩)).1
  · rintro ⟨hoption, hvalues⟩
    rcases rest with _ | ⟨option, _ | ⟨value, _ | ⟨high, more⟩⟩⟩
    · exact ⟨.answered, rfl, rfl, .nil⟩
    · obtain ⟨n, hn⟩ := hoption option rfl
      exact ⟨.option n, hn, rfl, .nil⟩
    · obtain ⟨n, hn⟩ := hoption option rfl
      obtain ⟨v, hv⟩ := hvalues value (by simp)
      exact ⟨.value n v, hn, rfl, .cons hv .nil⟩
    · obtain rfl : more = [] := by
        simp only [List.length_cons] at hlength
        exact List.length_eq_zero_iff.mp (by omega)
      obtain ⟨n, hn⟩ := hoption option rfl
      obtain ⟨l, hl⟩ := hvalues value (by simp)
      obtain ⟨h, hh⟩ := hvalues high (by simp)
      exact ⟨.range n l h, hn, rfl, .cons hl (.cons hh .nil)⟩

/-! ### Tokens -/

/-- The literals of a flag. -/
def flagLiterals : Bool → List String
  | true => ["1", "t", "T", "TRUE", "true", "True"]
  | false => ["0", "f", "F", "FALSE", "false", "False"]

theorem readFlag_eq_some {part : String} {flag : Bool} :
    readFlag part = some flag ↔ part ∈ flagLiterals flag := by
  have hapart : ∀ literal ∈ flagLiterals true, literal ∉ flagLiterals false := by decide
  show (if part ∈ flagLiterals true then some true
    else if part ∈ flagLiterals false then some false else none) = some flag ↔ _
  by_cases htrue : part ∈ flagLiterals true
  · rw [if_pos htrue]
    cases flag with
    | true => simp [htrue]
    | false => simp [hapart part htrue]
  · rw [if_neg htrue]
    cases flag with
    | true => simp [htrue]
    | false => simp

theorem readFlagPart_eq_ok {part : String} {flag : Bool} :
    readFlagPart token part = .ok flag ↔ part ∈ flagLiterals flag := by
  rw [← readFlag_eq_some, readFlagPart]
  cases readFlag part <;> simp

/-- What each part of a token has to be: a kind, the number of a form and a flag, then at most an
option and two values of the kind. -/
def Accepted (parts : List String) : Prop :=
  ∃ (kind : FormKind) (form flag : String) (rest : List String),
    parts = kind.name :: form :: flag :: rest ∧ rest.length ≤ 3 ∧
      (∃ n, Text.readInt64 form = some n) ∧ (∃ b, flag ∈ flagLiterals b) ∧
      (∀ option ∈ rest.head?, ∃ n, Text.readInt64 option = some n) ∧
      ∀ value ∈ rest.tail, kind.Reads value

theorem exists_read_iff (token : String) :
    (∃ filter, read token = .ok filter) ↔ Accepted (Text.pieces '/' token) := by
  simp only [read_eq_ok, FormKind.read_eq_ok, readInteger_eq_ok, readFlagPart_eq_ok]
  refine ⟨?_, ?_⟩
  · rintro ⟨filter, kind, form, flag, rest, hparts, hlength, rfl, hform, hflag, hcriterion⟩
    obtain ⟨hoption, hvalues⟩ := (exists_readCriterion hlength).mp ⟨_, hcriterion⟩
    exact ⟨filter.kind, form, flag, rest, hparts, hlength, ⟨_, hform⟩, ⟨_, hflag⟩, hoption, hvalues⟩
  · rintro ⟨kind, form, flag, rest, hparts, hlength, ⟨n, hform⟩, ⟨b, hflag⟩, hoption, hvalues⟩
    obtain ⟨criterion, hcriterion⟩ := (exists_readCriterion hlength).mpr ⟨hoption, hvalues⟩
    exact ⟨⟨kind, n, b, criterion⟩, kind.name, form, flag, rest, hparts, hlength, rfl, hform, hflag,
      hcriterion⟩

/-- The filter that a token stands for: three parts for the kind, the form and the flag, then one
for the option and one for each value. -/
def IsReading (token : String) (filter : FormFilter) : Prop :=
  ∃ form flag rest, Text.pieces '/' token = filter.kind.name :: form :: flag :: rest ∧
    rest.length ≤ 3 ∧ Text.readInt64 form = some filter.form ∧
    flag ∈ flagLiterals filter.mustExist ∧
    rest.head?.bind Text.readInt64 = filter.criterion.option? ∧
    filter.criterion.parts = rest.length + 3 ∧
    List.Forall₂ (fun part value => value.IsReading filter.kind part) rest.tail
      filter.criterion.values

theorem isReading_iff {filter : FormFilter} :
    read token = .ok filter ↔ filter.IsReading token := by
  simp only [read_eq_ok, FormKind.read_eq_ok, readInteger_eq_ok, readFlagPart_eq_ok]
  refine ⟨?_, ?_⟩
  · rintro ⟨kind, form, flag, rest, hparts, hlength, rfl, hform, hflag, hcriterion⟩
    exact ⟨form, flag, rest, hparts, hlength, hform, hflag,
      (readCriterion_eq_ok_iff hlength).mp hcriterion⟩
  · rintro ⟨form, flag, rest, hparts, hlength, hform, hflag, hcriterion⟩
    exact ⟨_, form, flag, rest, hparts, hlength, rfl, hform, hflag,
      (readCriterion_eq_ok_iff hlength).mpr hcriterion⟩

/-- The values of a filter, each for a part of its own. -/
theorem values_of_read {filter : FormFilter} (hread : read token = .ok filter) :
    List.Forall₂ (fun part value => value.IsReading filter.kind part)
      ((Text.pieces '/' token).drop 4) filter.criterion.values := by
  obtain ⟨form, flag, rest, hparts, -, -, -, -, -, hvalues⟩ := isReading_iff.mp hread
  rw [hparts, List.drop_succ_cons, List.drop_succ_cons, List.drop_succ_cons, List.drop_one]
  exact hvalues

end FormFilter

end Outreach
