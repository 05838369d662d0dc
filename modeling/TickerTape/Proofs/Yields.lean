import TickerTape.Accessor.Inquiry

/-!
# What a program asks and how it ends

A program is followed over all replies that its partner might give. The replies may be restricted
by an assumption, which relates each request to the replies that it can get; the trivial assumption
admits every partner. Under an assumption a program *yields* a property of its result when it asks
only admitted requests and all its results have the property.

An inquiry *keeps* a property of its state when it yields the property from every state that has
it. Inquiries are composed of few steps, so that one rule for each step tells what an inquiry keeps.

## Main definitions

* `TickerTape.Program.Yields` — what a program asks and how it ends.
* `TickerTape.Program.log` — what a run asked and was told.
* `TickerTape.Inquiry.andThen` — the second of two inquiries, after the first has ended.
* `TickerTape.Inquiry.Keeps` — a property of the state that an inquiry keeps.

## Main results

* `TickerTape.Program.Yields.run` — a run against a partner that meets the assumption.
* `TickerTape.Program.Yields.of_mem_log` — what a run asked.
* `TickerTape.Inquiry.start_bind` — two inquiries in turn.
-/

namespace TickerTape

/-! ### Programs -/

namespace Program

variable {I : Interface} {α β σ : Type} {A : (r : I.Request) → I.Reply r → Prop}
  {P : I.Request → Prop} {Q : α → Prop} {R : β → Prop}

/-- If every request `r` gets a reply that `A r` admits, the program asks only requests that
satisfy `P` and returns a result that satisfies `Q`. -/
def Yields (A : (r : I.Request) → I.Reply r → Prop) (P : I.Request → Prop) (Q : α → Prop) :
    Program I α → Prop
  | done a => Q a
  | ask r next => P r ∧ ∀ reply, A r reply → (next reply).Yields A P Q

@[simp] theorem yields_done (a : α) : (done a : Program I α).Yields A P Q ↔ Q a := Iff.rfl

@[simp] theorem yields_ask (r : I.Request) (next : I.Reply r → Program I α) :
    (ask r next).Yields A P Q ↔ P r ∧ ∀ reply, A r reply → (next reply).Yields A P Q := Iff.rfl

theorem Yields.bind {p : Program I α} {f : α → Program I β} (hp : p.Yields A P Q)
    (hf : ∀ a, Q a → (f a).Yields A P R) : (p >>= f).Yields A P R := by
  induction p with
  | done a => exact hf a hp
  | ask r next ih => exact ⟨hp.1, fun reply h => ih reply (hp.2 reply h)⟩

theorem Yields.mono {P' : I.Request → Prop} {Q' : α → Prop} {p : Program I α}
    (hp : p.Yields A P Q) (hP : ∀ r, P r → P' r) (hQ : ∀ a, Q a → Q' a) : p.Yields A P' Q' := by
  induction p with
  | done a => exact hQ a hp
  | ask r next ih => exact ⟨hP r hp.1, fun reply h => ih reply (hp.2 reply h)⟩

/-- A partner that gives admitted replies and keeps `J` under admitted requests still satisfies
`J` after the run. -/
theorem Yields.run {h : Handler I σ} {J : σ → Prop}
    (hstep : ∀ r s, P r → J s → A r (h r s).1 ∧ J (h r s).2) {p : Program I α} {s : σ}
    (hp : p.Yields A P Q) (hs : J s) : Q (p.run h s).1 ∧ J (p.run h s).2 := by
  induction p generalizing s with
  | done a => exact ⟨hp, hs⟩
  | ask r next ih =>
    obtain ⟨hreply, hs'⟩ := hstep r s hp.1 hs
    exact ih _ (hp.2 _ hreply) hs'

/-! ### Logs of runs -/

/-- A request with the reply that it got. -/
structure Entry (I : Interface) where
  request : I.Request
  reply : I.Reply request

instance [DecidableEq I.Request] [∀ r, DecidableEq (I.Reply r)] : DecidableEq (Entry I)
  | ⟨r, reply⟩, ⟨r', reply'⟩ =>
    if h : r = r' then
      decidable_of_decidable_of_iff (p := h ▸ reply = reply') (by subst h; simp)
    else .isFalse fun heq => h (congrArg Entry.request heq)

/-- The requests of a run with their replies, in order. -/
def log (h : Handler I σ) : Program I α → σ → List (Entry I)
  | done _, _ => []
  | ask r next, s => ⟨r, (h r s).1⟩ :: (next (h r s).1).log h (h r s).2

@[simp] theorem log_done (h : Handler I σ) (a : α) (s : σ) : (done a).log h s = [] := rfl

@[simp] theorem log_ask (h : Handler I σ) (r : I.Request) (next : I.Reply r → Program I α)
    (s : σ) : (ask r next).log h s = ⟨r, (h r s).1⟩ :: (next (h r s).1).log h (h r s).2 := rfl

@[simp] theorem log_bind (h : Handler I σ) (p : Program I α) (f : α → Program I β) (s : σ) :
    (p >>= f).log h s = p.log h s ++ (f (p.run h s).1).log h (p.run h s).2 := by
  induction p generalizing s with
  | done a => rfl
  | ask r next ih => exact congrArg (_ :: ·) (ih ..)

/-- A run asks only what its program may ask. -/
theorem Yields.of_mem_log {h : Handler I σ} {p : Program I α}
    (hp : p.Yields (fun _ _ => True) P Q) {s : σ} {x : Entry I} (hx : x ∈ p.log h s) :
    P x.request := by
  induction p generalizing s with
  | done a => contradiction
  | ask r next ih =>
    rcases List.mem_cons.mp hx with rfl | hx
    · exact hp.1
    · exact ih _ (hp.2 _ trivial) hx

/-- A log holds replies of the partner. -/
theorem reply_of_mem_log {h : Handler I σ} (hA : ∀ r s, A r (h r s).1) {p : Program I α} {s : σ}
    {x : Entry I} (hx : x ∈ p.log h s) : A x.request x.reply := by
  induction p generalizing s with
  | done a => contradiction
  | ask r next ih =>
    rcases List.mem_cons.mp hx with rfl | hx
    · exact hA r s
    · exact ih _ hx

/-- The result of a run in whose log all replies are admitted. -/
theorem Yields.of_log {h : Handler I σ} {p : Program I α} {s : σ} (hp : p.Yields A P Q)
    (hA : ∀ x ∈ p.log h s, A x.request x.reply) : Q (p.run h s).1 := by
  induction p generalizing s with
  | done a => exact hp
  | ask r next ih =>
    obtain ⟨hreply, hrest⟩ := List.forall_mem_cons.mp hA
    exact ih _ (hp.2 _ hreply) hrest

end Program

/-! ### Inquiries -/

namespace Inquiry

variable {σ τ α β : Type}

/-- The second of two inquiries, after the first has ended; a failure of the first ends both. -/
def andThen (f : α → Inquiry σ β) :
    Except Failure α × σ → Program Engine.wire (Except Failure β × σ)
  | (.ok a, s) => (f a).start s
  | (.error x, s) => .done (.error x, s)

@[simp] theorem andThen_ok (f : α → Inquiry σ β) (a : α) (s : σ) :
    andThen f (.ok a, s) = (f a).start s := rfl

@[simp] theorem andThen_error (f : α → Inquiry σ β) (x : Failure) (s : σ) :
    andThen f (.error x, s) = .done (.error x, s) := rfl

/-- Two inquiries in turn. -/
theorem start_bind (m : Inquiry σ α) (f : α → Inquiry σ β) (s : σ) :
    (m >>= f).start s = m.start s >>= andThen f := by
  change (m.start s >>= fun out => _) = _
  congr 1
  funext out
  obtain ⟨_ | _, _⟩ := out <;> rfl

@[simp] theorem start_pure (a : α) (s : σ) : (pure a : Inquiry σ α).start s = .done (.ok a, s) :=
  rfl

@[simp] theorem start_get (s : σ) : (get : Inquiry σ σ).start s = .done (.ok s, s) := rfl

@[simp] theorem start_set (s t : σ) : (set t : Inquiry σ PUnit).start s = .done (.ok ⟨⟩, t) := rfl

@[simp] theorem start_modify (f : σ → σ) (s : σ) :
    (modify f : Inquiry σ PUnit).start s = .done (.ok ⟨⟩, f s) := rfl

@[simp] theorem start_fail (x : Fault) (s : σ) :
    (fail x : Inquiry σ α).start s = .done (.error (.fault x), s) := rfl

@[simp] theorem start_lift (x : Except Failure α) (s : σ) :
    (lift x : Inquiry σ α).start s = .done (x, s) := by cases x <;> rfl

theorem start_request (r : Engine.Request) (s : σ) :
    (liftM (Program.request (I := Engine.wire) r) : Inquiry σ r.Reply).start s =
      .ask r fun reply => .done (.ok reply, s) := rfl

theorem start_query (q : Engine.Query) (s : σ) :
    (query q : Inquiry σ q.Answer).start s =
      .ask (.query q) fun (reply : Except Status q.Answer) =>
        .done (reply.mapError (.fault <| .ofStatus ·), s) := by
  change Program.ask _ _ = _
  congr 1
  funext reply
  cases reply <;> rfl

theorem start_focus (get : τ → σ) (set : σ → τ → τ) (m : Inquiry σ α) (t : τ) :
    (focus get set m).start t = m.start (get t) >>= fun out => .done (out.1, set out.2 t) := rfl

theorem start_get_bind (f : σ → Inquiry σ β) (s : σ) :
    ((get : Inquiry σ σ) >>= f).start s = (f s).start s := rfl

theorem start_lift_bind (x : Except Failure α) (f : α → Inquiry σ β) (s : σ) :
    (lift x >>= f).start s = andThen f (x, s) := by cases x <;> rfl

/-! ### Requests of a run -/

section Run

variable {ρ : Type} {h : Handler Engine.wire ρ} {q : Engine.Query} {f : q.Answer → Inquiry σ α}
  {answer : q.Answer} {status : Status} {s : σ} {e e' : ρ}

theorem run_query_of_ok (hq : h (.query q) e = ((.ok answer : Except Status q.Answer), e')) :
    ((query q).start s).run h e = ((.ok answer, s), e') := by
  rw [start_query, Program.run_ask, hq]
  rfl

theorem run_query_of_error
    (hq : h (.query q) e = ((.error status : Except Status q.Answer), e')) :
    ((query q).start s).run h e = ((.error (.fault (.ofStatus status)), s), e') := by
  rw [start_query, Program.run_ask, hq]
  rfl

/-- An answered request goes on with the answer. -/
theorem run_query_bind (hq : h (.query q) e = ((.ok answer : Except Status q.Answer), e')) :
    ((query q >>= f).start s).run h e = ((f answer).start s).run h e' := by
  rw [start_bind, Program.run_bind, run_query_of_ok hq]
  rfl

/-- A request that fails ends an inquiry. -/
theorem run_query_bind_of_error
    (hq : h (.query q) e = ((.error status : Except Status q.Answer), e')) :
    ((query q >>= f).start s).run h e = ((.error (.fault (.ofStatus status)), s), e') := by
  rw [start_bind, Program.run_bind, run_query_of_error hq]
  rfl

end Run

/-! ### Properties of the state that an inquiry keeps -/

/-- From every state that satisfies `Inv` the inquiry asks only requests that satisfy `P` and ends
in a state that satisfies `Inv`, failed or not, if the replies are those that `A` admits. -/
def Keeps (A : (r : Engine.Request) → r.Reply → Prop) (P : Engine.Request → Prop) (Inv : σ → Prop)
    (m : Inquiry σ α) : Prop :=
  ∀ s, Inv s → (m.start s).Yields A P fun out => Inv out.2

variable {A : (r : Engine.Request) → r.Reply → Prop} {P : Engine.Request → Prop} {Inv : σ → Prop}

namespace Keeps

theorem pure (a : α) : Keeps A P Inv (Pure.pure a : Inquiry σ α) := fun _ h => h

theorem fail (x : Fault) : Keeps A P Inv (fail x : Inquiry σ α) := fun _ h => h

theorem lift (x : Except Failure α) : Keeps A P Inv (lift x : Inquiry σ α) := fun s h => by
  rw [start_lift]
  exact h

theorem modify {f : σ → σ} (hf : ∀ s, Inv s → Inv (f s)) :
    Keeps A P Inv (modify f : Inquiry σ PUnit) := hf

theorem set {t : σ} (ht : Inv t) : Keeps A P Inv (set t : Inquiry σ PUnit) := fun _ _ => ht

theorem get : Keeps A P Inv (get : Inquiry σ σ) := fun _ h => h

/-- What comes first may keep a property from the state in which it starts only. -/
theorem start_bind {m : Inquiry σ α} {f : α → Inquiry σ β} {s : σ}
    (hm : (m.start s).Yields A P fun out => Inv out.2) (hf : ∀ a, Keeps A P Inv (f a)) :
    ((m >>= f).start s).Yields A P fun out => Inv out.2 := by
  rw [Inquiry.start_bind]
  refine hm.bind fun out hout => ?_
  obtain ⟨x | a, s'⟩ := out
  · exact hout
  · exact hf a s' hout

theorem bind {m : Inquiry σ α} {f : α → Inquiry σ β} (hm : Keeps A P Inv m)
    (hf : ∀ a, Keeps A P Inv (f a)) : Keeps A P Inv (m >>= f) :=
  fun s h => start_bind (hm s h) hf

/-- What follows a look at the state may rely on what holds of the state. -/
theorem get_bind {f : σ → Inquiry σ β} (hf : ∀ s, Inv s → Keeps A P Inv (f s)) :
    Keeps A P Inv (MonadState.get >>= f) := fun s h => by
  rw [Inquiry.start_bind]
  exact hf s h s h

/-- What follows a request may rely on the assumption about its reply. -/
theorem query_bind {q : Engine.Query} {f : q.Answer → Inquiry σ β} (hq : P (.query q))
    (hf : ∀ answer, A (.query q) (.ok answer) → Keeps A P Inv (f answer)) :
    Keeps A P Inv (query q >>= f) := fun s h => by
  rw [Inquiry.start_bind, start_query]
  refine ⟨hq, fun reply hreply => ?_⟩
  obtain status | answer := reply
  · exact h
  · exact hf answer hreply s h

theorem query {q : Engine.Query} (hq : P (.query q)) : Keeps A P Inv (query q) := fun s h => by
  rw [start_query]
  exact ⟨hq, fun _ _ => h⟩

theorem ite {c : Prop} [Decidable c] {m n : Inquiry σ α} (hm : Keeps A P Inv m)
    (hn : Keeps A P Inv n) : Keeps A P Inv (if c then m else n) := by
  split
  · exact hm
  · exact hn

theorem focus {get : τ → σ} {set : σ → τ → τ} {m : Inquiry σ α} {Inv : τ → Prop}
    (hget : ∀ t, set (get t) t = t) (hm : ∀ t, Inv t → Keeps A P (fun s => Inv (set s t)) m) :
    Keeps A P Inv (focus get set m) := fun t ht => by
  rw [start_focus]
  refine Program.Yields.bind (hm t ht (get t) ?_) fun out hout => hout
  change Inv (set (get t) t)
  rwa [hget]

end Keeps

end Inquiry

end TickerTape
