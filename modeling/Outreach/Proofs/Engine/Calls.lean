import Outreach.Engine.Exchange

/-!
# What an exchange can ask

A property of every search that an exchange can come to, along any path of answers. It is checked
on the tree of the exchange, step by step, and then holds of the calls in every transcript, whatever
engine the exchange is run against. An exchange that fails at once has no calls to check.
-/

namespace Outreach

namespace Exchange

variable {α β σ : Type} {P : SearchBody → Prop}

/-- Every search that the exchange can ask for, whatever it is answered, has the property. -/
def EveryCall (P : SearchBody → Prop) : Exchange α → Prop
  | .done _ => True
  | .ask body next => P body ∧ ∀ reply, (next reply).EveryCall P

/-- The exchange fails before it asks anything. -/
def FailsAtOnce (e : Exchange α) : Prop := ∃ fault, e = .done (.error fault)

theorem everyCall_done (result : Except Fault α) : (Exchange.done result).EveryCall P := trivial

theorem everyCall_lift (result : Except Fault α) : (lift result).EveryCall P := trivial

theorem everyCall_pure (a : α) : (pure a : Exchange α).EveryCall P := trivial

theorem everyCall_bind {e : Exchange α} {next : α → Exchange β} (he : e.EveryCall P)
    (hnext : ∀ a, (next a).EveryCall P) : (e >>= next).EveryCall P := by
  induction e with
  | done result =>
    cases result with
    | error fault => exact trivial
    | ok a => exact hnext a
  | ask body rest ih => exact ⟨he.1, fun reply => ih reply (he.2 reply)⟩

theorem everyCall_search_bind {body : SearchBody} {next : Reply → Exchange α} (hbody : P body)
    (hnext : ∀ reply, (next reply).EveryCall P) : (search body >>= next).EveryCall P :=
  everyCall_bind ⟨hbody, fun reply => everyCall_done reply⟩ hnext

/-- A step without the engine: what follows may count on the step's value. -/
theorem everyCall_lift_bind {result : Except Fault α} {next : α → Exchange β}
    (hnext : ∀ a, result = .ok a → (next a).EveryCall P) :
    (lift result >>= next).EveryCall P := by
  cases result with
  | error fault => exact everyCall_done _
  | ok a => exact hnext a rfl

theorem EveryCall.calls {e : Exchange α} (he : e.EveryCall P) (engine : Engine σ) (state : σ) :
    ∀ body ∈ (e.run engine state).calls, P body := by
  induction e generalizing state with
  | done result =>
    intro body hbody
    cases hbody
  | ask asked next ih =>
    intro body hbody
    rcases List.mem_cons.mp hbody with rfl | hlater
    · exact he.1
    · exact ih _ (he.2 _) _ body hlater

/-- Engines that answer alike whatever the exchange can ask are the same to it. -/
theorem EveryCall.run_congr {e : Exchange α} (he : e.EveryCall P) {engine other : Engine σ}
    (hagree : ∀ state body, P body → engine state body = other state body) (state : σ) :
    e.run engine state = e.run other state := by
  induction e generalizing state with
  | done result => rfl
  | ask body next ih =>
    rw [run, run, hagree state body he.1]
    rcases other state body with ⟨reply, after⟩
    simp only [ih reply (he.2 reply) after]

theorem failsAtOnce_lift_bind {result : Except Fault α} {next : α → Exchange β}
    (hnext : ∀ a, result = .ok a → (next a).FailsAtOnce) :
    (lift result >>= next).FailsAtOnce := by
  cases result with
  | error fault => exact ⟨fault, rfl⟩
  | ok a => exact hnext a rfl

theorem FailsAtOnce.run {e : Exchange α} (he : e.FailsAtOnce) (engine : Engine σ) (state : σ) :
    (e.run engine state).calls = [] ∧ ∃ fault, (e.run engine state).result = .error fault := by
  obtain ⟨fault, rfl⟩ := he
  exact ⟨rfl, fault, rfl⟩

end Exchange

end Outreach
