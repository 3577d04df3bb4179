import Mathlib.Data.List.Forall2
import Outreach.Fault

/-!
# Steps that may fail

How a chain of steps comes to a value: each step did, one after the other.
-/

namespace Outreach

namespace Steps

variable {ε α β : Type}

theorem bind_eq_ok {step : Except ε α} {next : α → Except ε β} {b : β} :
    step >>= next = .ok b ↔ ∃ a, step = .ok a ∧ next a = .ok b := by
  refine ⟨?_, ?_⟩
  · intro hrun
    cases step with
    | error fault => cases hrun
    | ok a => exact ⟨a, rfl, hrun⟩
  · intro hsteps
    obtain ⟨a, rfl, hnext⟩ := hsteps
    exact hnext

theorem map_eq_ok {step : Except ε α} {f : α → β} {b : β} :
    (do return f (← step)) = Except.ok (ε := ε) b ↔ ∃ a, step = .ok a ∧ f a = b := by
  rw [bind_eq_ok]
  simp only [pure, Except.pure, Except.ok.injEq]

/-- Whether a step fails, and with what, does not depend on what is made of its value. -/
theorem discard_map {step : Except ε α} {f : α → β} :
    discard (do return f (← step) : Except ε β) = discard step := by
  cases step <;> rfl

/-- A fold over two lists goes on with the second where it came to at the end of the first. -/
theorem foldlM_append_eq_ok {σ : Type} {step : σ → α → Except ε σ} {first middle last : σ}
    {xs ys : List α} (hxs : xs.foldlM step first = .ok middle)
    (hys : ys.foldlM step middle = .ok last) : (xs ++ ys).foldlM step first = .ok last := by
  rw [List.foldlM_append, bind_eq_ok]
  exact ⟨middle, hxs, hys⟩

/-- Steps over a list give one value for each member, in order. -/
theorem mapM_eq_ok {f : α → Except ε β} {xs : List α} {ys : List β} :
    xs.mapM f = .ok ys ↔ List.Forall₂ (fun x y => f x = .ok y) xs ys := by
  induction xs generalizing ys with
  | nil => cases ys <;> simp [pure, Except.pure]
  | cons x rest ih =>
    rw [List.mapM_cons, bind_eq_ok, List.forall₂_cons_left_iff]
    refine ⟨?_, ?_⟩
    · intro hlist
      obtain ⟨y, hy, hrest⟩ := hlist
      obtain ⟨zs, hzs, hpair⟩ := bind_eq_ok.mp hrest
      cases hpair
      exact ⟨y, zs, hy, ih.mp hzs, rfl⟩
    · intro hpairs
      obtain ⟨y, zs, hy, hzs, rfl⟩ := hpairs
      exact ⟨y, hy, bind_eq_ok.mpr ⟨zs, ih.mpr hzs, rfl⟩⟩

theorem mem_of_mapM_eq_ok {f : α → Except ε β} {xs : List α} {ys : List β}
    (hlist : xs.mapM f = .ok ys) {y : β} : y ∈ ys ↔ ∃ x ∈ xs, f x = .ok y := by
  have hpairs := mapM_eq_ok.mp hlist
  clear hlist
  induction hpairs with
  | nil => simp
  | cons hx _ ih => simp [hx, ih, eq_comm]

theorem mapError_eq_ok {δ : Type} {g : ε → δ} {step : Except ε α} {a : α} :
    step.mapError g = .ok a ↔ step = .ok a := by
  cases step <;> simp [Except.mapError]

/-! ### The first fault -/

theorem bind_eq_error {step : Except ε α} {next : α → Except ε β} {fault : ε} :
    step >>= next = .error fault ↔
      step = .error fault ∨ ∃ a, step = .ok a ∧ next a = .error fault := by
  cases step with
  | error first =>
    simp only [Except.error.injEq, reduceCtorEq, false_and, exists_false, or_false]
    exact ⟨fun h => Except.error.inj h, fun h => congrArg Except.error h⟩
  | ok a =>
    simp only [reduceCtorEq, Except.ok.injEq, false_or, exists_eq_left']
    exact Iff.rfl

/-- Whether the rest of a chain of steps fails may be told without the value of the first. -/
theorem bind_eq_error_of_forall {step : Except ε α} {next : α → Except ε β} {fault : ε}
    {P : Prop} (hnext : ∀ a, next a = .error fault ↔ P) :
    step >>= next = .error fault ↔ step = .error fault ∨ (∃ a, step = .ok a) ∧ P := by
  rw [bind_eq_error, ← exists_and_right]
  exact or_congr_right (exists_congr fun a => and_congr_right fun _ => hnext a)

theorem map_eq_error {step : Except ε α} {f : α → β} {fault : ε} :
    (do return f (← step)) = Except.error (α := β) fault ↔ step = .error fault := by
  rw [bind_eq_error]
  simp only [pure, Except.pure, reduceCtorEq, and_false, exists_false, or_false]

theorem mapError_eq_error {δ : Type} {g : ε → δ} {step : Except ε α} {fault : δ} :
    step.mapError g = .error fault ↔ ∃ cause, step = .error cause ∧ fault = g cause := by
  cases step <;> simp [Except.mapError, eq_comm]

theorem mapError_mapM {δ : Type} {g : ε → δ} {f : α → Except ε β} {xs : List α} :
    (xs.mapM f).mapError g = xs.mapM fun x => (f x).mapError g := by
  induction xs with
  | nil => rfl
  | cons x rest ih =>
    rw [List.mapM_cons, List.mapM_cons, ← ih]
    cases f x with
    | error fault => rfl
    | ok b =>
      show Except.mapError g ((rest.mapM f) >>= _) = (rest.mapM f).mapError g >>= _
      cases rest.mapM f <;> rfl

/-- Every fault of a step is one of these. -/
def FailsOnly (P : ε → Prop) (step : Except ε α) : Prop := ∀ fault, step = .error fault → P fault

theorem failsOnly_ok {P : ε → Prop} (a : α) : FailsOnly P (.ok a : Except ε α) :=
  fun _ hfault => by cases hfault

theorem failsOnly_error {P : ε → Prop} {fault : ε} (hfault : P fault) :
    FailsOnly P (.error fault : Except ε α) := by
  rintro _ ⟨⟩
  exact hfault

theorem FailsOnly.bind {P : ε → Prop} {step : Except ε α} {next : α → Except ε β}
    (hstep : FailsOnly P step) (hnext : ∀ a, FailsOnly P (next a)) :
    FailsOnly P (step >>= next) := by
  intro fault hfault
  rcases bind_eq_error.mp hfault with hfault | ⟨a, -, hfault⟩
  · exact hstep fault hfault
  · exact hnext a fault hfault

/-- The fault of the first member of a list at which a step fails. -/
def FirstFault (f : α → Except ε β) (xs : List α) (fault : ε) : Prop :=
  ∃ before x after, xs = before ++ x :: after ∧ (∀ y ∈ before, ∃ b, f y = .ok b) ∧
    f x = .error fault

section FirstFault

variable {f : α → Except ε β} {fault : ε}

theorem not_firstFault_nil : ¬ FirstFault f [] fault := by
  intro hfirst
  obtain ⟨before, x, after, hsplit, -⟩ := hfirst
  cases before <;> cases hsplit

theorem firstFault_cons {x : α} {xs : List α} :
    FirstFault f (x :: xs) fault ↔
      f x = .error fault ∨ (∃ b, f x = .ok b) ∧ FirstFault f xs fault := by
  refine ⟨?_, ?_⟩
  · intro hfirst
    obtain ⟨before, y, after, hsplit, hbefore, hy⟩ := hfirst
    cases before with
    | nil =>
      obtain ⟨rfl, rfl⟩ := List.cons.inj hsplit
      exact .inl hy
    | cons z others =>
      obtain ⟨rfl, rfl⟩ := List.cons.inj hsplit
      refine .inr ⟨hbefore _ List.mem_cons_self, others, y, after, rfl, ?_, hy⟩
      exact fun z hz => hbefore z (List.mem_cons_of_mem _ hz)
  · rintro (hx | ⟨hx, before, y, after, rfl, hbefore, hy⟩)
    · exact ⟨[], x, xs, rfl, by simp, hx⟩
    · refine ⟨x :: before, y, after, rfl, ?_, hy⟩
      intro z hz
      rcases List.mem_cons.mp hz with rfl | hz
      · exact hx
      · exact hbefore z hz

/-- Steps over a list fail with the first fault of a member. -/
theorem mapM_eq_error {xs : List α} : xs.mapM f = .error fault ↔ FirstFault f xs fault := by
  induction xs with
  | nil => simp [not_firstFault_nil, pure, Except.pure]
  | cons x rest ih =>
    rw [List.mapM_cons, firstFault_cons, ← ih]
    exact bind_eq_error_of_forall fun _ => map_eq_error

theorem mapM_append_eq_error {xs ys : List α} :
    (xs ++ ys).mapM f = .error fault ↔
      xs.mapM f = .error fault ∨ (∃ zs, xs.mapM f = .ok zs) ∧ ys.mapM f = .error fault := by
  rw [List.mapM_append]
  exact bind_eq_error_of_forall fun _ => map_eq_error

/-- What is made of the values does not matter for the first fault. -/
theorem mapM_map_eq_error {γ : Type} {h : α → β → γ} {xs : List α} :
    (xs.mapM fun x => do return h x (← f x)) = .error fault ↔ xs.mapM f = .error fault := by
  have hok : ∀ x, (∃ c, (do return h x (← f x)) = Except.ok (ε := ε) c) ↔ ∃ b, f x = .ok b := by
    intro x
    simp only [map_eq_ok]
    exact ⟨fun ⟨_, b, hb, _⟩ => ⟨b, hb⟩, fun ⟨b, hb⟩ => ⟨h x b, b, hb, rfl⟩⟩
  simp only [mapM_eq_error, FirstFault, hok, map_eq_error]

/-- Whether the members of all lists are taken one after the other or list by list, the first fault
is the same. -/
theorem mapM_flatMap_eq_error {γ : Type} {g : γ → List α} {ls : List γ} :
    (ls.flatMap g).mapM f = .error fault ↔
      ls.mapM (fun l => (g l).mapM f) = .error fault := by
  induction ls with
  | nil => simp [pure, Except.pure]
  | cons l rest ih =>
    rw [List.flatMap_cons, mapM_append_eq_error, ih, List.mapM_cons]
    exact (bind_eq_error_of_forall fun _ => map_eq_error).symm

end FirstFault

/-! ### Checks -/

section Checks

variable {step : Except ε α} {met : Prop} {reports : ε → Prop}

/-- A step that succeeds exactly when something is met, and reports certain faults otherwise. -/
structure Checks (step : Except ε α) (met : Prop) (reports : ε → Prop) : Prop where
  succeeds : (∃ a, step = .ok a) ↔ met
  fails : ∀ fault, step = .error fault ↔ ¬ met ∧ reports fault

theorem Checks.of_fails (hreports : ¬ met → ∃ fault, reports fault)
    (hfails : ∀ fault, step = .error fault ↔ ¬ met ∧ reports fault) : Checks step met reports where
  succeeds := by
    refine ⟨?_, ?_⟩
    · rintro ⟨a, rfl⟩
      by_contra hunmet
      obtain ⟨fault, hfault⟩ := hreports hunmet
      cases (hfails fault).mpr ⟨hunmet, hfault⟩
    · intro hmet
      cases step with
      | ok a => exact ⟨a, rfl⟩
      | error fault => exact absurd hmet ((hfails fault).mp rfl).1
  fails := hfails

theorem Checks.self (step : Except ε α) :
    Checks step (∃ a, step = .ok a) fun fault => step = .error fault where
  succeeds := Iff.rfl
  fails := by cases step <;> simp

theorem Checks.map {f : α → β} (h : Checks step met reports) :
    Checks (do return f (← step)) met reports where
  succeeds := by
    rw [← h.succeeds]
    simp only [map_eq_ok]
    exact ⟨fun ⟨_, a, ha, _⟩ => ⟨a, ha⟩, fun ⟨a, ha⟩ => ⟨f a, a, ha, rfl⟩⟩
  fails := by
    intro fault
    rw [map_eq_error, h.fails]

theorem discard_eq_error {fault : ε} : discard step = .error fault ↔ step = .error fault := by
  cases step <;> simp [discard, Functor.discard, Functor.mapConst, Except.map]

theorem discard_eq_ok {u : PUnit} : discard step = .ok u ↔ ∃ a, step = .ok a := by
  cases step <;> simp [discard, Functor.discard, Functor.mapConst, Except.map]

theorem Checks.discard (h : Checks step met reports) :
    Checks (Functor.discard step) met reports where
  succeeds := by
    rw [← h.succeeds]
    simp only [discard_eq_ok, exists_const]
  fails := by
    intro fault
    rw [discard_eq_error, h.fails]

theorem exists_ok_congr {other : Except ε β}
    (hsame : ∀ fault, step = .error fault ↔ other = .error fault) :
    (∃ a, step = .ok a) ↔ ∃ b, other = .ok b := by
  cases step with
  | ok a =>
    cases other with
    | ok b => simp
    | error fault => simp at hsame
  | error fault =>
    rw [(hsame fault).mp rfl]
    simp

/-- The first fault of steps over a list depends only on how each of the steps fails. -/
theorem mapM_eq_error_congr {γ : Type} {f : α → Except ε β} {g : α → Except ε γ}
    (hsame : ∀ x fault, f x = .error fault ↔ g x = .error fault) {xs : List α} {fault : ε} :
    xs.mapM f = .error fault ↔ xs.mapM g = .error fault := by
  have hok : ∀ x, (∃ b, f x = .ok b) ↔ ∃ c, g x = .ok c := fun x => exists_ok_congr (hsame x)
  simp only [mapM_eq_error, FirstFault, hok, hsame]

theorem exists_mapM_eq_ok {f : α → Except ε β} {xs : List α} :
    (∃ ys, xs.mapM f = .ok ys) ↔ ∀ x ∈ xs, ∃ y, f x = .ok y := by
  induction xs with
  | nil => simp [pure, Except.pure]
  | cons x rest ih =>
    rw [List.forall_mem_cons, ← ih]
    simp only [List.mapM_cons, bind_eq_ok]
    exact ⟨fun ⟨_, y, hy, ys, hys, _⟩ => ⟨⟨y, hy⟩, ys, hys⟩,
      fun ⟨⟨y, hy⟩, ys, hys⟩ => ⟨_, y, hy, ys, hys, rfl⟩⟩

/-- Steps over a list check that each of them succeeds, and report the first fault. -/
theorem checks_mapM {f : α → Except ε β} {xs : List α} :
    Checks (xs.mapM f) (∀ x ∈ xs, ∃ y, f x = .ok y) (FirstFault f xs) := by
  have h := Checks.self (xs.mapM f)
  simp only [mapM_eq_error, exists_mapM_eq_ok] at h
  exact h

end Checks

end Steps

end Outreach
