import Outreach.Filter.Form
import Outreach.Proofs.Fault.Steps

/-!
# What a form token reads as

A form filter is read part by part from its token, and the number of parts decides what it asks for:
the parts after the flag are the option and then one value or the two ends of a range. Whatever goes
wrong on the way is a fault of the token.
-/

namespace Outreach

open Steps

/-- The number of parts of a token that asks for this. -/
def Criterion.parts : Criterion → Nat
  | .answered => 3
  | .option _ => 4
  | .value _ _ => 5
  | .range _ _ _ => 6

def Criterion.option? : Criterion → Option Int64
  | .answered => none
  | .option o => some o
  | .value o _ => some o
  | .range o _ _ => some o

theorem FormKind.read_eq_ok {name : String} {kind : FormKind} :
    FormKind.read name = .ok kind ↔ kind.name = name := by
  refine ⟨?_, ?_⟩
  · intro hread
    unfold FormKind.read at hread
    split at hread
    · rename_i found hfound
      cases hread
      simpa using List.find?_some hfound
    · cases hread
  · rintro rfl
    cases kind <;> rfl

namespace FormFilter

variable {token : String}

theorem readInteger_eq_ok {part : String} {n : Int64} :
    readInteger token part = .ok n ↔ Text.readInt64 part = some n := by
  unfold readInteger
  split <;> simp [*]

/-- The parts after the flag decide by their number what is asked for, and the first of them names
the option. -/
theorem readCriterion_eq_ok {kind : FormKind} {rest : List String} {criterion : Criterion}
    (hlength : rest.length ≤ 3) (hread : readCriterion kind token rest = .ok criterion) :
    criterion.parts = rest.length + 3 ∧ criterion.option? = rest[0]?.bind Text.readInt64 := by
  match rest with
  | [] =>
    cases hread
    exact ⟨rfl, rfl⟩
  | [option] =>
    obtain ⟨o, ho, rfl⟩ := map_eq_ok.mp hread
    exact ⟨rfl, (readInteger_eq_ok.mp ho).symm⟩
  | [option, value] =>
    obtain ⟨o, ho, hread⟩ := bind_eq_ok.mp hread
    obtain ⟨v, -, rfl⟩ := map_eq_ok.mp hread
    exact ⟨rfl, (readInteger_eq_ok.mp ho).symm⟩
  | option :: low :: high :: more =>
    obtain ⟨o, ho, hread⟩ := bind_eq_ok.mp hread
    obtain ⟨l, -, hread⟩ := bind_eq_ok.mp hread
    obtain ⟨h, -, rfl⟩ := map_eq_ok.mp hread
    have hmore : more.length = 0 := by
      simp only [List.length_cons] at hlength
      omega
    exact ⟨by simp [Criterion.parts, hmore], (readInteger_eq_ok.mp ho).symm⟩

/-- The parts of a token that reads as a filter. -/
theorem read_eq_ok {filter : FormFilter} :
    read token = .ok filter ↔
      ∃ kind form flag rest, Text.pieces '/' token = kind :: form :: flag :: rest ∧
        rest.length ≤ 3 ∧ FormKind.read kind = .ok filter.kind ∧
        readInteger token form = .ok filter.form ∧
        readFlagPart token flag = .ok filter.mustExist ∧
        readCriterion filter.kind token rest = .ok filter.criterion := by
  unfold read
  refine ⟨?_, ?_⟩
  · intro hread
    dsimp only at hread
    split at hread
    · rename_i kind form flag rest hparts
      split at hread
      · cases hread
      · rename_i hlength
        obtain ⟨k, hkind, hread⟩ := bind_eq_ok.mp hread
        obtain ⟨n, hform, hread⟩ := bind_eq_ok.mp hread
        obtain ⟨b, hflag, hread⟩ := bind_eq_ok.mp hread
        obtain ⟨c, hcriterion, rfl⟩ := map_eq_ok.mp hread
        rw [hparts, mostParts, List.length_cons, List.length_cons, List.length_cons] at hlength
        exact ⟨kind, form, flag, rest, hparts, by omega, hkind, hform, hflag, hcriterion⟩
    · cases hread
  · rintro ⟨kind, form, flag, rest, hparts, hlength, hkind, hform, hflag, hcriterion⟩
    have hmost : ¬ mostParts < (kind :: form :: flag :: rest).length := by
      rw [mostParts, List.length_cons, List.length_cons, List.length_cons]
      omega
    rw [hparts]
    dsimp only
    rw [if_neg hmost]
    refine bind_eq_ok.mpr ⟨_, hkind, bind_eq_ok.mpr ⟨_, hform, bind_eq_ok.mpr ⟨_, hflag, ?_⟩⟩⟩
    exact map_eq_ok.mpr ⟨_, hcriterion, rfl⟩

/-- A token that reads as a filter has as many parts as the filter's criterion takes. -/
theorem length_pieces_of_read {filter : FormFilter} (hread : read token = .ok filter) :
    (Text.pieces '/' token).length = filter.criterion.parts := by
  obtain ⟨kind, form, flag, rest, hparts, hlength, -, -, -, hcriterion⟩ := read_eq_ok.mp hread
  rw [hparts, (readCriterion_eq_ok hlength hcriterion).1]
  rfl

/-- The fourth part of a token names the option that its filter asks for. -/
theorem option?_of_read {filter : FormFilter} (hread : read token = .ok filter) :
    filter.criterion.option? = (Text.pieces '/' token)[3]?.bind Text.readInt64 := by
  obtain ⟨kind, form, flag, rest, hparts, hlength, -, -, -, hcriterion⟩ := read_eq_ok.mp hread
  rw [hparts, (readCriterion_eq_ok hlength hcriterion).2]
  rfl

/-! ### Faults -/

/-- The faults of a malformed token. -/
abbrev OfToken (fault : Fault) : Prop := fault.kind = .decode

theorem failsOnly_readInteger (part : String) : FailsOnly OfToken (readInteger token part) := by
  unfold readInteger
  split
  · exact failsOnly_ok _
  · exact failsOnly_error rfl

theorem failsOnly_readValue (kind : FormKind) (part : String) :
    FailsOnly OfToken (FormValue.read kind token part) := by
  cases kind with
  | date =>
    unfold FormValue.read
    dsimp only
    split
    · exact failsOnly_ok _
    · exact failsOnly_error rfl
  | range => exact (failsOnly_readInteger part).bind fun _ => failsOnly_ok _
  | text => exact failsOnly_ok _
  | radio => exact failsOnly_ok _
  | checkbox => exact failsOnly_ok _

theorem failsOnly_readCriterion (kind : FormKind) (rest : List String) :
    FailsOnly OfToken (readCriterion kind token rest) := by
  match rest with
  | [] => exact failsOnly_ok _
  | [option] => exact (failsOnly_readInteger option).bind fun _ => failsOnly_ok _
  | [option, value] =>
    refine (failsOnly_readInteger option).bind fun _ => ?_
    exact (failsOnly_readValue kind value).bind fun _ => failsOnly_ok _
  | option :: low :: high :: _ =>
    refine (failsOnly_readInteger option).bind fun _ => ?_
    refine (failsOnly_readValue kind low).bind fun _ => ?_
    exact (failsOnly_readValue kind high).bind fun _ => failsOnly_ok _

/-- A token that is no form filter is malformed, in whatever part. -/
theorem failsOnly_read (token : String) : FailsOnly OfToken (read token) := by
  unfold read
  dsimp only
  split
  · split
    · exact failsOnly_error rfl
    · rename_i kind form flag rest _ _
      have hkind : FailsOnly OfToken (FormKind.read kind) := by
        unfold FormKind.read
        split
        · exact failsOnly_ok _
        · exact failsOnly_error rfl
      have hflag : FailsOnly OfToken (readFlagPart token flag) := by
        unfold readFlagPart
        split
        · exact failsOnly_ok _
        · exact failsOnly_error rfl
      refine hkind.bind fun k => (failsOnly_readInteger form).bind fun _ => hflag.bind fun _ => ?_
      exact (failsOnly_readCriterion k rest).bind fun _ => failsOnly_ok _
  · exact failsOnly_error rfl

end FormFilter

end Outreach
