import Outreach.Engine.Body
import Outreach.Engine.Reply

/-!
# Exchanges with the engine

An operation is a tree of what it does next: it is done, or it asks the engine and goes on with the
answer. An exchange can be run against anything that answers searches, however it answers; the
transcript keeps what was asked, in order.
-/

namespace Outreach

inductive Exchange (α : Type) where
  | done (result : Except Fault α)
  | ask (body : SearchBody) (next : Except Fault Reply → Exchange α)

namespace Exchange

variable {α β σ : Type}

/-- Goes on with the value of an exchange; a fault ends it. -/
def bind : Exchange α → (α → Exchange β) → Exchange β
  | .done (.ok a), next => next a
  | .done (.error fault), _ => .done (.error fault)
  | .ask body rest, next => .ask body fun reply => (rest reply).bind next

instance : Monad Exchange where
  pure a := .done (.ok a)
  bind := Exchange.bind

def lift (result : Except Fault α) : Exchange α := .done result

def search (body : SearchBody) : Exchange Reply := .ask body .done

/-- Something that answers searches, one after the other, in a state of its own. -/
abbrev Engine (σ : Type) := σ → SearchBody → Except Fault Reply × σ

structure Transcript (σ α : Type) where
  calls : List SearchBody
  result : Except Fault α
  state : σ

def run (engine : Engine σ) : Exchange α → σ → Transcript σ α
  | .done result, state => ⟨[], result, state⟩
  | .ask body next, state =>
    let (reply, state) := engine state body
    let later := (next reply).run engine state
    { later with calls := body :: later.calls }

end Exchange

end Outreach
