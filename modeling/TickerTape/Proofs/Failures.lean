import TickerTape.Proofs.StreamLedger

/-!
# How steps and inquiries may fail

A property of failures is followed through the steps of an accessor, and through inquiries whose
replies may be restricted by an assumption. There is one rule for each step of which inquiries are
composed, so that a statement on how an operation may fail is read off its text.

## Main definitions

* `TickerTape.FailsOnly` — how a step may fail.
* `TickerTape.Inquiry.FailsOnly` — how an inquiry may fail.
-/

namespace TickerTape

open Engine

/-! ### Steps -/

/-- The failures of a step have a property. -/
def FailsOnly {α : Type} (G : Failure → Prop) (x : Except Failure α) : Prop :=
  ∀ failure, x = .error failure → G failure

namespace FailsOnly

variable {α β : Type} {G : Failure → Prop} {x : Except Failure α}

theorem ok (a : α) : FailsOnly G (.ok a) := nofun

theorem error {failure : Failure} (h : G failure) : FailsOnly G (.error failure : Except _ α) :=
  fun _ heq => Except.error.inj heq ▸ h

theorem checked (h : ∀ o, G (.overflow o)) (x : Except Overflow α) :
    FailsOnly G (Word.checked x) := by
  cases x with
  | ok a => exact ok a
  | error o => exact error (h o)

theorem bind {f : α → Except Failure β} (hx : FailsOnly G x) (hf : ∀ a, FailsOnly G (f a)) :
    FailsOnly G (x >>= f) := by
  intro failure h
  rcases bind_eq_error_iff.mp h with h | ⟨a, -, h⟩
  · exact hx failure h
  · exact hf a failure h

theorem ite {c : Prop} [Decidable c] {y : Except Failure α} (hx : FailsOnly G x)
    (hy : FailsOnly G y) : FailsOnly G (if c then x else y) := by
  split
  · exact hx
  · exact hy

theorem mapM {f : α → Except Failure β} {as : List α} (hf : ∀ a ∈ as, FailsOnly G (f a)) :
    FailsOnly G (as.mapM f) := by
  intro failure h
  obtain ⟨a, ha, herror⟩ := exists_of_mapM_eq_error h
  exact hf a ha failure herror

end FailsOnly

section Steps

variable {G : Failure → Prop} (hrange : ∀ index capacity, G (.fault (.outOfRange index capacity)))
  (hoverflow : ∀ o, G (.overflow o))
include hrange hoverflow

theorem Slot.failsOnly_ofIndex (index : Int) (capacity : Nat) :
    FailsOnly G (Slot.ofIndex index capacity) := by
  have hlast (i : Int) : FailsOnly G (if i < 0 ∨ Word.toSigned capacity ≤ i then
      .error (.fault (.outOfRange index capacity)) else .ok i.toNat : Except Failure Nat) :=
    .ite (.error (hrange _ _)) (.ok _)
  exact .ite (.bind (.checked hoverflow _) hlast) (hlast index)

theorem Slot.Range.failsOnly_ofIndices (first last : Int) (capacity : Nat) :
    FailsOnly G (Slot.Range.ofIndices first last capacity) :=
  .bind (failsOnly_ofIndex hrange hoverflow first capacity) fun _ =>
    .bind (failsOnly_ofIndex hrange hoverflow last capacity) fun _ =>
      .ite (.error (hrange _ _)) (.ok _)

end Steps

theorem Accessor.failsOnly_frameOf {G : Failure → Prop} {form : Form}
    {cells : List (String × Sample)} (h : ∀ cell ∈ cells, FailsOnly G (convert form cell.2)) :
    FailsOnly G (frameOf form cells) :=
  .bind (.mapM fun cell hcell => .bind (h cell hcell) fun _ => .ok _) fun _ => .ok _

/-! ### Inquiries -/

namespace Inquiry

/-- If the replies are those that `A` admits, the inquiry asks only requests that satisfy `P` and
its failures satisfy `G`. -/
def FailsOnly {σ α : Type} (A : (r : Request) → r.Reply → Prop) (P : Request → Prop)
    (G : Failure → Prop) (m : Inquiry σ α) : Prop :=
  ∀ s, (m.start s).Yields A P fun out => TickerTape.FailsOnly G out.1

namespace FailsOnly

variable {σ τ α β : Type} {A : (r : Request) → r.Reply → Prop} {P : Request → Prop}
  {G : Failure → Prop}

theorem pure (a : α) : FailsOnly A P G (Pure.pure a : Inquiry σ α) := fun _ => .ok a

theorem fail {f : Fault} (h : G (.fault f)) : FailsOnly A P G (fail f : Inquiry σ α) :=
  fun _ => .error h

theorem lift {x : Except Failure α} (hx : TickerTape.FailsOnly G x) :
    FailsOnly A P G (lift x : Inquiry σ α) := fun s => by
  rw [start_lift]
  exact hx

theorem get : FailsOnly A P G (MonadState.get : Inquiry σ σ) := fun _ => .ok _

theorem modify (f : σ → σ) : FailsOnly A P G (modify f : Inquiry σ PUnit) := fun _ => .ok _

theorem bind {m : Inquiry σ α} {f : α → Inquiry σ β} (hm : FailsOnly A P G m)
    (hf : ∀ a, FailsOnly A P G (f a)) : FailsOnly A P G (m >>= f) := fun s => by
  rw [start_bind]
  refine (hm s).bind fun out hout => ?_
  obtain ⟨failure | a, s'⟩ := out
  · exact .error (hout failure rfl)
  · exact hf a s'

/-- What follows a request may rely on what its reply may be. -/
theorem query_bind {q : Query} {f : q.Answer → Inquiry σ β} (hq : P (.query q))
    (hstatus : ∀ status, A (.query q) (.error status : Except Status q.Answer) →
      G (.fault (.ofStatus status)))
    (hf : ∀ answer, A (.query q) (.ok answer : Except Status q.Answer) →
      FailsOnly A P G (f answer)) : FailsOnly A P G (query q >>= f) := fun s => by
  rw [start_bind, start_query]
  refine ⟨hq, fun reply hreply => ?_⟩
  obtain status | answer := reply
  · exact .error (hstatus status hreply)
  · exact hf answer hreply s

theorem ite {c : Prop} [Decidable c] {m n : Inquiry σ α} (hm : FailsOnly A P G m)
    (hn : FailsOnly A P G n) : FailsOnly A P G (if c then m else n) := by
  split
  · exact hm
  · exact hn

theorem focus {get : τ → σ} {set : σ → τ → τ} {m : Inquiry σ α} (hm : FailsOnly A P G m) :
    FailsOnly A P G (focus get set m) := fun t => by
  rw [start_focus]
  exact (hm (get t)).bind fun out hout => hout

end FailsOnly

end Inquiry

end TickerTape
