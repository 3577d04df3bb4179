import Outreach.Proofs.Engine.Calls

/-!
# How an exchange is answered

The answers that an engine gives to the calls of a transcript, and exchanges that are over with the
first fault among them. Whether an exchange is one of those can be seen on its tree: after a fault
it is done with that very fault. Chains of calls and of steps without the engine all are.
-/

namespace Outreach

namespace Exchange

variable {α β γ σ : Type}

/-- What an engine answers to searches that are made one after the other. -/
def answers (engine : Engine σ) : List SearchBody → σ → List (Except Fault Reply)
  | [], _ => []
  | body :: rest, state =>
    let (reply, state) := engine state body
    reply :: answers engine rest state

/-- An engine with prepared answers, which fails when they are used up. -/
def scripted : Engine (List (Except Fault Reply))
  | [], _ => (.error (.engine none "script exhausted"), [])
  | reply :: rest, _ => (reply, rest)

/-! ### Chains -/

theorem bind_assoc (e : Exchange α) (next : α → Exchange β) (last : β → Exchange γ) :
    (e >>= next) >>= last = e >>= fun a => next a >>= last := by
  induction e with
  | done result =>
    cases result with
    | error fault => rfl
    | ok a => rfl
  | ask body rest ih =>
    show Exchange.ask body _ = Exchange.ask body _
    exact congrArg (Exchange.ask body) (funext ih)

/-- A search that fails is the last call; otherwise what follows it goes on from its reply. -/
theorem run_search_bind (engine : Engine σ) (state : σ) (body : SearchBody)
    (next : Reply → Exchange α) :
    let transcript := (search body >>= next).run engine state
    (∃ fault, answers engine transcript.calls state = [.error fault] ∧
        transcript.calls = [body] ∧ transcript.result = .error fault) ∨
      ∃ reply after,
        let later := (next reply).run engine after
        answers engine transcript.calls state = .ok reply :: answers engine later.calls after ∧
          transcript.calls = body :: later.calls ∧ transcript.result = later.result := by
  intro transcript
  have hrun : transcript =
      (Exchange.ask body fun reply => (Exchange.done reply).bind next).run engine state := rfl
  rw [run] at hrun
  rcases hreply : engine state body with ⟨fault | reply, after⟩
  · rw [hreply] at hrun
    have hcalls : transcript.calls = [body] := congrArg Transcript.calls hrun
    have hresult : transcript.result = .error fault := congrArg Transcript.result hrun
    refine .inl ⟨fault, ?_, hcalls, hresult⟩
    rw [hcalls]
    simp only [answers, hreply]
  · rw [hreply] at hrun
    have hcalls : transcript.calls = body :: ((next reply).run engine after).calls :=
      congrArg Transcript.calls hrun
    have hresult : transcript.result = ((next reply).run engine after).result := by
      rw [hrun]
      rfl
    refine .inr ⟨reply, after, ?_, hcalls, hresult⟩
    rw [hcalls]
    simp only [answers, hreply]

/-- All calls of a list are answered with a reply. -/
def Replied (engine : Engine σ) (calls : List SearchBody) (state : σ) : Prop :=
  ∀ answer ∈ answers engine calls state, ∃ reply, answer = .ok reply

theorem Replied.run_search_bind {engine : Engine σ} {state : σ} {body : SearchBody}
    {next : Reply → Exchange α}
    (hreplied : Replied engine ((search body >>= next).run engine state).calls state) :
    ∃ reply after,
      let transcript := (search body >>= next).run engine state
      let later := (next reply).run engine after
      answers engine transcript.calls state = .ok reply :: answers engine later.calls after ∧
        Replied engine later.calls after ∧ transcript.result = later.result := by
  rcases Exchange.run_search_bind engine state body next with
    ⟨fault, hanswers, -⟩ | ⟨reply, after, hanswers, -, hresult⟩
  · obtain ⟨reply, hreply⟩ := hreplied (.error fault) (by simp [hanswers])
    cases hreply
  · refine ⟨reply, after, hanswers, ?_, hresult⟩
    intro answer hanswer
    exact hreplied answer (hanswers ▸ List.mem_cons_of_mem _ hanswer)

/-! ### Ending with a fault -/

/-- After a fault the exchange asks nothing more and fails with that fault. -/
def StopsAtFault : Exchange α → Prop
  | .done _ => True
  | .ask _ next =>
    (∀ fault, next (.error fault) = .done (.error fault)) ∧
      ∀ reply, (next (.ok reply)).StopsAtFault

theorem stopsAtFault_lift (result : Except Fault α) : (lift result).StopsAtFault := trivial

theorem stopsAtFault_search (body : SearchBody) : (search body).StopsAtFault :=
  ⟨fun _ => rfl, fun _ => trivial⟩

theorem stopsAtFault_bind {e : Exchange α} {next : α → Exchange β} (he : e.StopsAtFault)
    (hnext : ∀ a, (next a).StopsAtFault) : (e >>= next).StopsAtFault := by
  induction e with
  | done result =>
    cases result with
    | error fault => exact trivial
    | ok a => exact hnext a
  | ask body rest ih =>
    obtain ⟨hfault, hrest⟩ := he
    refine ⟨fun fault => ?_, fun reply => ih (.ok reply) (hrest reply)⟩
    show (rest (.error fault)).bind next = _
    rw [hfault]
    rfl

theorem StopsAtFault.run {e : Exchange α} (he : e.StopsAtFault) {engine : Engine σ} {state : σ}
    {before later : List (Except Fault Reply)} {fault : Fault}
    (hanswers : answers engine (e.run engine state).calls state = before ++ .error fault :: later) :
    later = [] ∧ (e.run engine state).result = .error fault := by
  -- On the tree, for every list of answers before the fault: a reply leads to the subtree below it
  -- and uses up the first of them.
  induction e generalizing state before with
  | done result => simp [Exchange.run, answers] at hanswers
  | ask body next ih =>
    obtain ⟨hfault, hnext⟩ := he
    rw [Exchange.run] at hanswers ⊢
    rcases hreply : engine state body with ⟨reply, after⟩
    rw [hreply] at hanswers
    simp only [answers, hreply] at hanswers ⊢
    cases reply with
    | error first =>
      rw [hfault] at hanswers ⊢
      simp only [Exchange.run, answers] at hanswers ⊢
      cases before with
      | nil =>
        obtain ⟨hfirst, hlater⟩ := List.cons.inj hanswers
        cases hfirst
        exact ⟨hlater.symm, rfl⟩
      | cons earlier rest => simp at hanswers
    | ok first =>
      cases before with
      | nil => cases hanswers
      | cons earlier rest => exact ih (.ok first) (hnext first) (List.cons.inj hanswers).2

end Exchange

end Outreach
