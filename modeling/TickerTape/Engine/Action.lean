import TickerTape.Status

/-!
# Actions on a state

An engine works on its state in place. An action reads and writes a state and may be refused with a
status code. What it has written by then stays written: nothing brings the old state back, and so
it depends on the order of its checks and changes what a refused action leaves.

## Main definitions

* `TickerTape.Engine.Action` — an action on a state.
* `TickerTape.Engine.Action.refuse`, `TickerTape.Engine.Action.lift` — its ends.
* `TickerTape.Engine.Action.focus` — an action on a part of a larger state.
* `TickerTape.Engine.Action.outcome` — the answer of an action that is not refused, with the state
  after it.

## Main results

* `TickerTape.Engine.Action.start_bind`, `TickerTape.Engine.Action.outcome_bind` — two actions in
  turn.
-/

namespace TickerTape.Engine

/-- A step on a state that answers or is refused, and leaves a state in both cases. -/
abbrev Action (σ α : Type) := ExceptT Status (StateM σ) α

namespace Action

variable {σ τ α β : Type}

/-- The answer to an action, and the state that it leaves. -/
def start (m : Action σ α) (s : σ) : Except Status α × σ := m.run s

/-- Stops with a status code. -/
def refuse (status : Status) : Action σ α := throw status

/-- Goes on with a result or stops with a status code. -/
def lift : Except Status α → Action σ α
  | .ok a => pure a
  | .error status => refuse status

/-- Runs an action on the part of a state that `find` gives. What it leaves of the part is written
back by `put`, whether or not it was refused. -/
def focus (find : τ → Except Status σ) (put : σ → τ → τ) (m : Action σ α) : Action τ α :=
  ExceptT.mk fun t =>
    match find t with
    | .error status => (.error status, t)
    | .ok s =>
      let (answer, s) := m.start s
      (answer, put s t)

/-- The answer to an action and the state after it, if it is not refused. -/
def outcome (m : Action σ α) (s : σ) : Except Status (α × σ) :=
  let (answer, s) := m.start s
  answer.map (·, s)

/-! ### Runs of actions -/

variable (m : Action σ α) (f : α → Action σ β) (s : σ)

@[simp] theorem start_lift (x : Except Status α) : (lift x : Action σ α).start s = (x, s) := by
  cases x <;> rfl

/-- A refusal of the first of two actions ends both. -/
theorem start_bind : (m >>= f).start s =
    match m.start s with
    | (.ok a, s) => (f a).start s
    | (.error status, s) => (.error status, s) := by
  change ExceptT.bindCont f (m.start s).1 (m.start s).2 = _
  cases m.start s with
  | mk answer t => cases answer <;> rfl

-- What was written before a refusal stays.
example : (set 1 >>= fun _ => refuse .dataType : Action Nat Unit).start 0 = (.error .dataType, 1) :=
  rfl

theorem start_focus (find : τ → Except Status σ) (put : σ → τ → τ) (t : τ) :
    (focus find put m).start t =
      match find t with
      | .error status => (.error status, t)
      | .ok s => ((m.start s).1, put (m.start s).2 t) := rfl

/-! ### Outcomes -/

@[simp] theorem outcome_set (t : σ) : (set t : Action σ PUnit).outcome s = .ok (⟨⟩, t) := rfl

@[simp] theorem outcome_lift (x : Except Status α) :
    (lift x : Action σ α).outcome s = x >>= fun a => .ok (a, s) := by cases x <;> rfl

theorem outcome_bind :
    (m >>= f).outcome s = m.outcome s >>= fun out => (f out.1).outcome out.2 := by
  rw [outcome, outcome, start_bind]
  cases m.start s with
  | mk answer t => cases answer <;> rfl

/-- What follows a look at the state. -/
theorem outcome_get_bind (f : σ → Action σ β) :
    ((get : Action σ σ) >>= f).outcome s = (f s).outcome s := rfl

/-- What follows a check. -/
theorem outcome_lift_bind (x : Except Status α) :
    (lift x >>= f).outcome s = x >>= fun a => (f a).outcome s := by cases x <;> rfl

theorem outcome_focus (find : τ → Except Status σ) (put : σ → τ → τ) (t : τ) :
    (focus find put m).outcome t =
      find t >>= fun s => m.outcome s >>= fun out => .ok (out.1, put out.2 t) := by
  rw [outcome, start_focus]
  cases find t with
  | error status => rfl
  | ok s =>
    change Except.map _ _ = m.outcome s >>= _
    rw [outcome]
    cases m.start s with
    | mk answer s' => cases answer <;> rfl

variable {m s} {a : α} {s' : σ} {status : Status}

theorem outcome_eq_ok_iff : m.outcome s = .ok (a, s') ↔ m.start s = (.ok a, s') := by
  rw [outcome]
  cases m.start s with
  | mk answer t => cases answer <;> simp [Except.map]

theorem outcome_eq_error_iff : m.outcome s = .error status ↔ (m.start s).1 = .error status := by
  rw [outcome]
  cases m.start s with
  | mk answer t => cases answer <;> simp [Except.map]

end Action

end TickerTape.Engine
