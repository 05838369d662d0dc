import TickerTape.Program
import TickerTape.Table

/-!
# Plans of refusals

A partner on a plan keeps what it is asked, and refuses what the plan tells it to refuse. The plan
holds a queue of codes for each of some words. A request takes the next code of its word: zero, or
an empty queue, lets it through, and with any other code the partner refuses and stays as it is.

## Main definitions

* `TickerTape.Plan` — the codes still to come and the requests so far.
* `TickerTape.Plan.take` — the code for a request.
* `TickerTape.Handler.planned` — a partner that follows a plan.

## Main results

* `TickerTape.Handler.planned_of_refused` — a refused request leaves the partner as it is.
* `TickerTape.Handler.planned_of_accepted` — any other request is answered by the partner.
-/

namespace TickerTape

/-- What a partner is to refuse, and what it was asked. -/
structure Plan (I : Interface) where
  codes : Table String (List Int) := ∅
  /-- The requests so far, the last first. -/
  asked : List I.Request := []

namespace Plan

variable {I : Interface}

/-- The code that comes next for a word. -/
def next (p : Plan I) (word : String) : Int := ((p.codes.get? word).getD []).headD 0

/-- The plan after a request with a word. -/
def after (p : Plan I) (word : String) (r : I.Request) : Plan I where
  codes := p.codes.insert word ((p.codes.get? word).getD []).tail
  asked := r :: p.asked

@[simp] theorem asked_after (p : Plan I) (word : String) (r : I.Request) :
    (p.after word r).asked = r :: p.asked := rfl

end Plan

namespace Handler

variable {I : Interface} {σ : Type}

/-- The partner `h` on a plan. Requests stand in the plan by their words, and `refusal` is the reply
to a request that gets a code. -/
def planned (word : I.Request → String) (refusal : (r : I.Request) → Int → I.Reply r)
    (h : Handler I σ) : Handler I (Plan I × σ) := fun r s =>
  if s.1.next (word r) = 0 then ((h r s.2).1, s.1.after (word r) r, (h r s.2).2)
  else (refusal r (s.1.next (word r)), s.1.after (word r) r, s.2)

variable (word : I.Request → String) (refusal : (r : I.Request) → Int → I.Reply r)
  (h : Handler I σ) (r : I.Request) (p : Plan I) (s : σ)

theorem planned_of_accepted (hc : p.next (word r) = 0) :
    planned word refusal h r (p, s) = ((h r s).1, p.after (word r) r, (h r s).2) := if_pos hc

theorem planned_of_refused (hc : p.next (word r) ≠ 0) :
    planned word refusal h r (p, s) = (refusal r (p.next (word r)), p.after (word r) r, s) :=
  if_neg hc

end Handler

end TickerTape
