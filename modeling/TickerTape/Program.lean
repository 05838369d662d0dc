/-!
# Programs that ask

A program computes by asking requests of some partner and going on with the replies. The partner is
left open: a handler with a state answers the requests of a run, and a program of another interface
may stand for each request.

## Main definitions

* `TickerTape.Interface` — requests with the types of their replies.
* `TickerTape.Program` — a program over an interface.
* `TickerTape.Handler`, `TickerTape.Program.run` — a partner with a state, and a run against it.
* `TickerTape.Program.through` — a program with each request replaced by a program.
-/

namespace TickerTape

/-- Requests, each with the type of its replies. -/
structure Interface where
  Request : Type
  Reply : Request → Type

/-- A program that returns an `α` after finitely many requests. -/
inductive Program (I : Interface) (α : Type) : Type where
  | done (a : α)
  | ask (r : I.Request) (next : I.Reply r → Program I α)

/-- A partner that answers requests and changes its state. -/
abbrev Handler (I : Interface) (σ : Type) := (r : I.Request) → σ → I.Reply r × σ

namespace Program

variable {I J : Interface} {α β ε σ : Type}

/-- The first program, then the second on its result. -/
def bind : Program I α → (α → Program I β) → Program I β
  | done a, f => f a
  | ask r next, f => ask r fun reply => (next reply).bind f

instance : Monad (Program I) where
  pure := done
  bind := bind

/-- The program that asks once and returns the reply. -/
def request (r : I.Request) : Program I (I.Reply r) := ask r done

@[simp] theorem pure_eq (a : α) : (pure a : Program I α) = done a := rfl

@[simp] theorem done_bind (a : α) (f : α → Program I β) : done a >>= f = f a := rfl

@[simp] theorem ask_bind (r : I.Request) (next : I.Reply r → Program I α)
    (f : α → Program I β) : ask r next >>= f = ask r fun reply => next reply >>= f := rfl

theorem bind_done (p : Program I α) : p >>= done = p := by
  induction p with
  | done a => rfl
  | ask r next ih => rw [ask_bind]; exact congrArg (ask r) (funext ih)

theorem bind_assoc {γ : Type} (p : Program I α) (f : α → Program I β) (g : β → Program I γ) :
    p >>= f >>= g = p >>= fun a => f a >>= g := by
  induction p with
  | done a => rfl
  | ask r next ih => exact congrArg (ask r) (funext ih)

instance : LawfulMonad (Program I) :=
  LawfulMonad.mk' (Program I) bind_done (fun _ _ => rfl) bind_assoc

/-- The result of a program and the partner's state after it. -/
def run (h : Handler I σ) : Program I α → σ → α × σ
  | done a, s => (a, s)
  | ask r next, s => (next (h r s).1).run h (h r s).2

@[simp] theorem run_done (h : Handler I σ) (a : α) (s : σ) : (done a).run h s = (a, s) := rfl

@[simp] theorem run_ask (h : Handler I σ) (r : I.Request) (next : I.Reply r → Program I α)
    (s : σ) : (ask r next).run h s = (next (h r s).1).run h (h r s).2 := rfl

/-- A run of two programs in turn is the run of the second after that of the first. -/
@[simp] theorem run_bind (h : Handler I σ) (p : Program I α) (f : α → Program I β) (s : σ) :
    (p >>= f).run h s = (f (p.run h s).1).run h (p.run h s).2 := by
  induction p generalizing s with
  | done a => rfl
  | ask r next ih => exact ih ..

/-- A program with each request replaced by a program of another interface, which may fail. The
first failure ends it. -/
def through (f : (r : I.Request) → Program J (Except ε (I.Reply r))) :
    Program I α → Program J (Except ε α)
  | done a => done (.ok a)
  | ask r next =>
    f r >>= fun
      | .ok reply => (next reply).through f
      | .error e => done (.error e)

end Program

end TickerTape
