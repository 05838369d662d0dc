import TickerTape.Engine.Request
import TickerTape.Fault

/-!
# Inquiries

An inquiry asks an engine and keeps a state of its own. It may stop at a failure; what it has learnt
by then stays in the state. A status code that the engine answers with stops it.

## Main definitions

* `TickerTape.Inquiry` — an inquiry with a state.
* `TickerTape.Inquiry.query`, `TickerTape.Inquiry.fail`, `TickerTape.Inquiry.lift` — its steps.
* `TickerTape.Inquiry.focus` — an inquiry on a part of a larger state.
-/

namespace TickerTape

/-- A program that asks an engine, with a state that outlives its failures. -/
abbrev Inquiry (σ α : Type) := ExceptT Failure (StateT σ (Program Engine.wire)) α

namespace Inquiry

variable {σ τ α : Type}

/-- Runs an inquiry from a state. -/
def start (m : Inquiry σ α) (s : σ) : Program Engine.wire (Except Failure α × σ) := m.run s

/-- Asks the engine what may fail. -/
def query (q : Engine.Query) : Inquiry σ q.Answer :=
  ExceptT.mk fun s => .ask (.query q) fun (reply : Except Status q.Answer) =>
    match reply with
    | .ok answer => .done (.ok answer, s)
    | .error status => .done (.error (.fault (.ofStatus status)), s)

/-- Stops at a fault. -/
def fail (f : Fault) : Inquiry σ α := throw (.fault f)

/-- Goes on with a result or stops at a failure. -/
def lift : Except Failure α → Inquiry σ α
  | .ok a => pure a
  | .error f => throw f

/-- Runs an inquiry on the part of a state that `get` reads and `set` writes. -/
def focus (get : τ → σ) (set : σ → τ → τ) (m : Inquiry σ α) : Inquiry τ α :=
  ExceptT.mk fun t => do
    let (result, s) ← m.start (get t)
    return (result, set s t)

end Inquiry

end TickerTape
