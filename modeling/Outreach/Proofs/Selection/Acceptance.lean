import Outreach.Proofs.Form.Reading
import Outreach.Proofs.Selection.Reading

/-!
# Which lists of tokens are accepted

Reading a selection asks five things of its tokens, in a fixed order, and fails with the fault of
the first that is not met. What is asked at one position is the same whatever stands at the others,
so that each is a check of its own; an age filter is the only one whose fault is a value without a
meaning and not a malformed token. The positions that are never checked fall back on a default.
-/

namespace Outreach

open Steps

/-! ### The parts of an age filter -/

theorem find?_firstOccurrences {α : Type} [DecidableEq α] (p : α → Bool) (xs : List α) :
    (firstOccurrences xs).find? p = xs.find? p := by
  induction xs with
  | nil => rfl
  | cons x rest ih =>
    rw [firstOccurrences, List.find?_cons, List.find?_cons]
    cases hx : p x with
    | true => rfl
    | false =>
      have hsame : ∀ y, (decide (y ≠ x) = true ∧ p y = true) ↔ p y = true := by
        intro y
        refine ⟨And.right, fun hy => ⟨decide_eq_true ?_, hy⟩⟩
        rintro rfl
        rw [hx] at hy
        cases hy
      simp only [List.find?_filter, hsame, Bool.decide_eq_true, ih]

theorem AgeBand.read_eq_error {code : String} {fault : Fault} :
    AgeBand.read code = .error fault ↔
      (∀ band : AgeBand, band.codeText ≠ code) ∧ fault = .unsupported (.ageCode code) := by
  cases hread : AgeBand.read code with
  | ok band =>
    have hcode := AgeBand.read_eq_ok.mp hread
    simp only [reduceCtorEq, false_iff, not_and]
    exact fun hnone => absurd hcode (hnone band)
  | error cause =>
    have hnone : ∀ band : AgeBand, band.codeText ≠ code := by
      intro band hcode
      rw [AgeBand.read_eq_ok.mpr hcode] at hread
      cases hread
    have hcause : cause = .unsupported (.ageCode code) := by
      unfold AgeBand.read at hread
      split at hread
      · cases hread
      · exact (Except.error.inj hread).symm
    rw [hcause, Except.error.injEq, eq_comm, and_iff_right hnone]

namespace AgeFilter

/-- The codes of an age filter: the unknown age and the six bands. -/
def codes : List String := ["0", "1", "2", "3", "4", "5", "6"]

theorem mem_codes {code : String} :
    code ∈ codes ↔ code = AgeBand.unknownCode ∨ ∃ band : AgeBand, band.codeText = code := by
  have hcodes : codes = AgeBand.unknownCode :: AgeBand.all.map AgeBand.codeText := by decide
  rw [hcodes, List.mem_cons, List.mem_map]
  simp only [AgeBand.mem_all, true_and]

/-- Whether a code is accepted does not depend on the codes before it. -/
theorem addCode_eq_error {filter : AgeFilter} {code : String} {fault : Fault} :
    filter.addCode code = .error fault ↔
      code ∉ codes ∧ fault = .unsupported (.ageCode code) := by
  unfold addCode
  by_cases hunknown : code = AgeBand.unknownCode
  · rw [if_pos hunknown, mem_codes]
    simp [hunknown]
  · rw [if_neg hunknown, map_eq_error, mem_codes, AgeBand.read_eq_error]
    simp [hunknown]

theorem foldlM_addCode_eq_error {parts : List String} {start : AgeFilter} {fault : Fault} :
    parts.foldlM addCode start = .error fault ↔
      ∃ code, parts.find? (· ∉ codes) = some code ∧ fault = .unsupported (.ageCode code) := by
  induction parts generalizing start with
  | nil => simp [pure, Except.pure]
  | cons part rest ih =>
    rw [List.foldlM_cons, bind_eq_error, addCode_eq_error, List.find?_cons]
    by_cases hpart : part ∈ codes
    · have hok : ∃ next, start.addCode part = .ok next := by
        cases hstep : start.addCode part with
        | ok next => exact ⟨next, rfl⟩
        | error cause => exact absurd hpart (addCode_eq_error.mp hstep).1
      simp [hpart, ih, hok]
    · have hfails : ∀ next, start.addCode part ≠ .ok next := by
        intro next hok
        rw [addCode_eq_error.mpr ⟨hpart, rfl⟩] at hok
        cases hok
      simp [hpart, hfails]

theorem checks_read (token : String) :
    Checks (read token) (∀ part ∈ Text.pieces '/' token, part ∈ codes) fun fault =>
      ∃ part, (Text.pieces '/' token).find? (· ∉ codes) = some part ∧
        fault = .unsupported (.ageCode part) := by
  have hmet : (∀ part ∈ Text.pieces '/' token, part ∈ codes) ↔
      (Text.pieces '/' token).find? (· ∉ codes) = none := by
    simp
  refine .of_fails ?_ fun fault => ?_
  · intro hunmet
    rw [hmet] at hunmet
    obtain ⟨part, hpart⟩ := Option.ne_none_iff_exists'.mp hunmet
    exact ⟨_, part, hpart, rfl⟩
  · rw [read, foldlM_addCode_eq_error, Tokens.valueSet, find?_firstOccurrences, hmet,
      iff_and_self]
    rintro ⟨part, hpart, -⟩ hnone
    rw [hpart] at hnone
    cases hnone

end AgeFilter

/-! ### The other checks -/

theorem DateBound.checks_readLastChange (token : String) :
    Checks (readLastChange token)
      ((∃ t, Calendar.Timestamp.read token = .ok t) ∨ ∃ d, Calendar.Day.read token = some d)
      fun fault => fault = .token (.lastChange token) := by
  refine .of_fails (fun _ => ⟨_, rfl⟩) fun fault => ?_
  unfold readLastChange
  cases Calendar.Timestamp.read token with
  | ok t => simp
  | error cause =>
    cases Calendar.Day.read token with
    | some d => simp
    | none => simp [eq_comm]

/-- A token of the mail filter is one value, too short for a form filter, or a form filter. -/
theorem MailFilter.checks_readOrForm (token : String) :
    Checks (readOrForm token)
      ((∀ p ∈ Text.pieces '/' token, ∀ q ∈ Text.pieces '/' token, p = q) ∨
        (Text.pieces '/' token).length < 3 ∨ ∃ filter, FormFilter.read token = .ok filter)
      fun fault => FormFilter.read token = .error fault := by
  rw [← Tokens.length_valueSet_eq_one]
  unfold readOrForm
  dsimp only
  by_cases hone : (Tokens.valueSet token).length = 1
  · rw [if_pos hone]
    exact ⟨by simp [hone], by simp [hone]⟩
  rw [if_neg hone]
  by_cases hparts : FormFilter.leastParts ≤ (Text.pieces '/' token).length
  · have hlong : ¬ (Text.pieces '/' token).length < 3 := Nat.not_lt.mpr hparts
    rw [if_pos hparts, or_iff_right hone, or_iff_right hlong]
    exact (Checks.self _).map
  · rw [if_neg hparts]
    rw [FormFilter.leastParts, Nat.not_le] at hparts
    exact ⟨by simp [hparts], by simp [hparts]⟩

/-- The tokens that are read as form filters. -/
def Tokens.formTokens (tokens : Tokens) : List String :=
  (tokens.drop formsAt).filter fun token => !token.isEmpty

theorem FormFilter.checks_readAll (tokens : Tokens) :
    Checks (readAll tokens) (∀ token ∈ tokens.drop Tokens.formsAt, token ≠ "" →
      ∃ filter, FormFilter.read token = .ok filter)
      (FirstFault FormFilter.read tokens.formTokens) := by
  have hmet : (∀ token ∈ tokens.drop Tokens.formsAt, token ≠ "" →
      ∃ filter, FormFilter.read token = .ok filter) ↔
      ∀ token ∈ tokens.formTokens, ∃ filter, FormFilter.read token = .ok filter := by
    simp [Tokens.formTokens]
  rw [hmet]
  exact checks_mapM

namespace Tokens

variable {tokens : Tokens} {position : Nat}

/-- A token that may be absent or empty is checked when there is one. -/
theorem checks_read? {α : Type} {reader : String → Except Fault α} {met : Prop}
    {reports : Fault → Prop} (h : Checks (reader (tokens.textAt position)) met reports) :
    Checks (tokens.read? position reader) (tokens.textAt position ≠ "" → met) reports := by
  unfold read?
  by_cases hempty : tokens.textAt position = ""
  · rw [at?_eq_none hempty]
    exact ⟨by simp [hempty], by simp [hempty]⟩
  · rw [at?_eq_some hempty, forall_prop_of_true hempty]
    exact h.map

end Tokens

/-! ### The order of the checks -/

namespace Selection

/-- What is asked of the tokens of a selection. -/
inductive Requirement
  | group
  | ages
  | lastChange
  | mail
  | forms
  deriving DecidableEq

namespace Requirement

/-- The order in which the tokens are checked. -/
def all : List Requirement := [.group, .ages, .lastChange, .mail, .forms]

/-- There is a group; a token that is present and not empty has the form that its position asks
for. -/
def Met (tokens : Tokens) : Requirement → Prop
  | .group => tokens.textAt Tokens.groupAt ≠ ""
  | .ages =>
    let token := tokens.textAt Tokens.ageAt
    token ≠ "" → ∀ part ∈ Text.pieces '/' token, part ∈ AgeFilter.codes
  | .lastChange =>
    let token := tokens.textAt Tokens.lastChangeAt
    token ≠ "" →
      (∃ t, Calendar.Timestamp.read token = .ok t) ∨ ∃ d, Calendar.Day.read token = some d
  | .mail =>
    let token := tokens.textAt Tokens.mailAt
    let parts := Text.pieces '/' token
    token ≠ "" → (∀ p ∈ parts, ∀ q ∈ parts, p = q) ∨ parts.length < 3 ∨
      ∃ filter, FormFilter.read token = .ok filter
  | .forms =>
    ∀ token ∈ tokens.drop Tokens.formsAt, token ≠ "" → ∃ filter, FormFilter.read token = .ok filter

/-- The fault of tokens that do not meet a requirement: the first part of an age filter that is no
code, the first form filter that cannot be read. -/
def Reports (tokens : Tokens) (fault : Fault) : Requirement → Prop
  | .group => fault = .token (if tokens = [] then .tooFew 1 0 else .noGroup)
  | .ages => ∃ part, (Text.pieces '/' (tokens.textAt Tokens.ageAt)).find? (· ∉ AgeFilter.codes) =
      some part ∧ fault = .unsupported (.ageCode part)
  | .lastChange => fault = .token (.lastChange (tokens.textAt Tokens.lastChangeAt))
  | .mail => FormFilter.read (tokens.textAt Tokens.mailAt) = .error fault
  | .forms => FirstFault FormFilter.read tokens.formTokens fault

/-- The step in which a requirement is looked at. -/
def check (tokens : Tokens) : Requirement → Except Fault Unit
  | .group =>
    if tokens.length < max 1 1 then .error (.token (.tooFew (max 1 1) tokens.length))
    else discard tokens.group
  | .ages => discard (tokens.read? Tokens.ageAt AgeFilter.read)
  | .lastChange => discard (tokens.read? Tokens.lastChangeAt DateBound.readLastChange)
  | .mail => discard (tokens.read? Tokens.mailAt MailFilter.readOrForm)
  | .forms => discard (FormFilter.readAll tokens)

theorem checks_group (tokens : Tokens) :
    Checks (check tokens .group) (Met tokens .group) (Reports tokens · .group) := by
  refine .of_fails (fun _ => ⟨_, rfl⟩) fun fault => ?_
  unfold check Met Reports
  cases tokens with
  | nil => simp [Tokens.textAt, eq_comm]
  | cons token rest =>
    rw [if_neg (by simp), discard_eq_error]
    unfold Tokens.group
    by_cases hempty : Tokens.textAt (token :: rest) Tokens.groupAt = ""
    · rw [Tokens.at?_eq_none hempty]
      simp [hempty, eq_comm]
    · rw [Tokens.at?_eq_some hempty]
      simp [hempty]

theorem checks_check (tokens : Tokens) (r : Requirement) :
    Checks (r.check tokens) (r.Met tokens) (r.Reports tokens ·) := by
  cases r with
  | group => exact checks_group tokens
  | ages => exact (Tokens.checks_read? (AgeFilter.checks_read _)).discard
  | lastChange => exact (Tokens.checks_read? (DateBound.checks_readLastChange _)).discard
  | mail => exact (Tokens.checks_read? (MailFilter.checks_readOrForm _)).discard
  | forms => exact (FormFilter.checks_readAll tokens).discard

theorem mem_all (r : Requirement) : r ∈ all := by
  cases r <;> decide

end Requirement

/-- A selection is read by checking one requirement after the other. -/
theorem read_eq_error {tokens : Tokens} {fault : Fault} :
    Selection.read tokens = .error fault ↔
      FirstFault (Requirement.check tokens) Requirement.all fault := by
  simp only [Requirement.all, firstFault_cons, not_firstFault_nil, Requirement.check,
    discard_eq_error, discard_eq_ok]
  unfold Selection.read readAtLeast
  by_cases hcount : tokens.length < max 1 1
  · simp only [if_pos hcount, Except.error.injEq, reduceCtorEq, exists_false, false_and, or_false]
  · simp only [if_neg hcount, discard_eq_error, discard_eq_ok, exists_const]
    refine bind_eq_error_of_forall fun _ => ?_
    refine bind_eq_error_of_forall fun _ => ?_
    refine bind_eq_error_of_forall fun _ => ?_
    refine bind_eq_error_of_forall fun _ => ?_
    refine bind_eq_error_of_forall fun _ => ?_
    simp [pure, Except.pure]

theorem kind_of_reports {tokens : Tokens} {fault : Fault} {r : Requirement}
    (hreports : r.Reports tokens fault) :
    fault.kind = if r = .ages then .unsupportedValue else .decode := by
  cases r with
  | group =>
    cases hreports
    rfl
  | ages =>
    obtain ⟨part, -, rfl⟩ := hreports
    rfl
  | lastChange =>
    cases hreports
    rfl
  | mail => exact FormFilter.failsOnly_read _ _ hreports
  | forms =>
    obtain ⟨before, token, after, -, -, hfault⟩ := hreports
    exact FormFilter.failsOnly_read _ _ hfault

/-- The positions that are never checked: scope, size, offset, gender, station and order. -/
def uncheckedPositions : List Nat := [1, 2, 3, 4, 5, 7, 8]

theorem check_congr {tokens other : Tokens} (r : Requirement)
    (hagree : ∀ position, position ∉ uncheckedPositions → other[position]? = tokens[position]?) :
    r.check other = r.check tokens := by
  have hat : ∀ position, position ∉ uncheckedPositions → other.at? position = tokens.at? position :=
    fun position hposition => by rw [Tokens.at?, Tokens.at?, hagree position hposition]
  have hread : ∀ {α : Type} (position : Nat) (reader : String → Except Fault α),
      position ∉ uncheckedPositions → other.read? position reader = tokens.read? position reader :=
    fun position reader hposition => by rw [Tokens.read?, Tokens.read?, hat position hposition]
  cases r with
  | group =>
    have hfirst : other[0]? = tokens[0]? := hagree 0 (by decide)
    have hgroup : other.group = tokens.group := by
      rw [Tokens.group, Tokens.group, hat _ (by decide)]
    unfold Requirement.check
    cases other with
    | nil =>
      cases tokens with
      | nil => rfl
      | cons token rest => cases hfirst
    | cons token rest =>
      cases tokens with
      | nil => cases hfirst
      | cons token' rest' => rw [if_neg (by simp), if_neg (by simp), hgroup]
  | ages => exact congrArg discard (hread _ _ (by decide))
  | lastChange => exact congrArg discard (hread _ _ (by decide))
  | mail => exact congrArg discard (hread _ _ (by decide))
  | forms =>
    have hdrop : other.drop Tokens.formsAt = tokens.drop Tokens.formsAt := by
      apply List.ext_getElem?
      intro position
      rw [List.getElem?_drop, List.getElem?_drop]
      exact hagree _ (by simp [uncheckedPositions, Tokens.formsAt]; omega)
    unfold Requirement.check FormFilter.readAll
    rw [hdrop]

/-- The lists of tokens that are read as a selection are those that meet every requirement. For any
other, the fault is that of the first requirement that is not met; and nothing at the positions that
are not checked makes a difference to it. -/
theorem read_iff_requirements (tokens : Tokens) :
    ((∃ s, Selection.read tokens = .ok s) ↔ ∀ r : Requirement, r.Met tokens) ∧
      (∀ fault, Selection.read tokens = .error fault ↔
        ∃ before r after, Requirement.all = before ++ r :: after ∧
          (∀ q ∈ before, q.Met tokens) ∧ ¬ r.Met tokens ∧ r.Reports tokens fault ∧
            fault.kind = if r = .ages then .unsupportedValue else .decode) ∧
      ∀ other : Tokens,
        (∀ position, position ∉ uncheckedPositions → other[position]? = tokens[position]?) →
          ∀ fault, Selection.read other = .error fault ↔ Selection.read tokens = .error fault := by
  have herror : ∀ fault, Selection.read tokens = .error fault ↔
      FirstFault (Requirement.check tokens) Requirement.all fault := fun _ => read_eq_error
  refine ⟨?_, ?_, ?_⟩
  · simp only [← mapM_eq_error] at herror
    rw [exists_ok_congr herror, exists_mapM_eq_ok]
    simp only [(Requirement.checks_check tokens _).succeeds, Requirement.mem_all, forall_const]
  · intro fault
    rw [herror, FirstFault]
    refine exists_congr fun before => exists_congr fun r => exists_congr fun after => ?_
    refine and_congr_right fun _ => ?_
    simp only [(Requirement.checks_check tokens _).succeeds,
      (Requirement.checks_check tokens _).fails]
    refine and_congr_right fun _ => and_congr_right fun _ => ?_
    exact (and_iff_left_of_imp kind_of_reports).symm
  · intro other hagree fault
    have hsame : Requirement.check other = Requirement.check tokens :=
      funext fun r => check_congr r hagree
    rw [herror, read_eq_error, hsame]

/-- With a bad age code, a bad date and a bad form filter, it is the age code that is reported. -/
theorem read_reports_age_code :
    Selection.read ["42", "all", "many", "", "", "", "1/9/8", "", "", "soon", "", "TEXT/1"] =
      .error (.unsupported (.ageCode "9")) := by
  refine ((read_iff_requirements _).2.1 _).mpr
    ⟨[.group], .ages, [.lastChange, .mail, .forms], rfl, ?_, ?_, ⟨"9", ?_, rfl⟩, rfl⟩
  · simp [Requirement.Met, Tokens.textAt, Tokens.groupAt]
  · have hpart : "9" ∈ Text.pieces '/' "1/9/8" ∧ "9" ∉ AgeFilter.codes := by decide +kernel
    exact fun hmet => hpart.2 (hmet (by decide) _ hpart.1)
  · decide +kernel

end Selection

end Outreach
