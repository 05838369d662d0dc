import TickerTape.Proofs.Conversations
import TickerTape.Proofs.Failures
import TickerTape.Proofs.Lifetime

/-!
# The first failure ends an operation

An engine may fail any request with any code. An operation makes no request after one that failed:
it returns the fault for the code, and a set of names whose reading failed stays as it was. An
operation to which nothing failed does not blame the engine. Closing alone has an exception, a block
that the engine does not have.

The operations are composed of few steps, as for `TickerTape.Inquiry.Keeps`; here one rule for each
step tells how it ends after a past in which nothing failed.

## Main definitions

* `TickerTape.Unfailed` — a past in which no request failed.
* `TickerTape.Inquiry.Ends` — how an inquiry may end after its requests.
* `TickerTape.Inquiry.StopsAtFailure` — inquiries that the first failure ends.
* `TickerTape.Accessor.Call.stopped` — what a call returns when a request of it fails.

## Main results

* `TickerTape.Accessor.Call.stopsAtFailure_operation` — every call but closing.
* `TickerTape.Accessor.first_failure_ends` — whole runs, closing and creation included.
-/

namespace TickerTape

open Engine Program Inquiry

/-! ### Failures and faults -/

/-- The code with which a request failed, if it did. -/
def Program.Entry.failure? : Entry wire → Option Status
  | ⟨.query _, (reply : Except Status _)⟩ =>
    match reply with
    | .ok _ => none
    | .error status => some status
  | _ => none

@[simp] theorem failure?_told (q : Query) (answer : q.Answer) :
    (told q answer).failure? = none := rfl

@[simp] theorem failure?_refused (q : Query) (status : Status) :
    (refused q status).failure? = some status := rfl

/-- No request has failed. -/
def Unfailed (past : List (Entry wire)) : Prop := ∀ x ∈ past, x.failure? = none

theorem Unfailed.told {past : List (Entry wire)} (h : Unfailed past) (q : Query)
    (answer : q.Answer) : Unfailed (past ++ [told q answer]) := by
  intro x hx
  rcases List.mem_append.mp hx with hx | hx
  · exact h x hx
  · rw [List.mem_singleton.mp hx, failure?_told]

theorem not_unfailed_of_mem {past : List (Entry wire)} {x : Entry wire} {status : Status}
    (hx : x ∈ past) (hstatus : x.failure? = some status) : ¬ Unfailed past := fun h => by
  simp [h x hx] at hstatus

/-- Whether a fault says that the engine failed. -/
def Fault.blamesEngine : Fault → Bool
  | .notConnected | .callFailed _ => true
  | _ => false

/-- Whether a failure says that the engine failed. -/
def Failure.blamesEngine : Failure → Bool
  | .fault f => f.blamesEngine
  | .overflow _ => false

/-- A step that the accessor makes by itself: it does not fail in the engine's name. -/
def Own {α : Type} (x : Except Failure α) : Prop :=
  ∀ failure, x = .error failure → failure.blamesEngine = false

theorem own_checked {α : Type} (x : Except Overflow α) : Own (Word.checked x) :=
  FailsOnly.checked (fun _ => rfl) x

theorem Slot.own_ofIndex (index : Int) (capacity : Nat) : Own (Slot.ofIndex index capacity) :=
  failsOnly_ofIndex (fun _ _ => rfl) (fun _ => rfl) index capacity

theorem Slot.Range.own_ofIndices (first last : Int) (capacity : Nat) :
    Own (Slot.Range.ofIndices first last capacity) :=
  failsOnly_ofIndices (fun _ _ => rfl) (fun _ => rfl) first last capacity

namespace Accessor

theorem own_convert (form : Form) (p : Sample) : Own (convert form p) := by
  rw [convert]
  split
  · exact FailsOnly.ok _
  · exact FailsOnly.error rfl

theorem own_frameOf (form : Form) (cells : List (String × Sample)) : Own (frameOf form cells) :=
  failsOnly_frameOf fun cell _ => own_convert form cell.2

end Accessor

/-! ### Inquiries that the first failure ends -/

namespace Inquiry

variable {σ τ α β : Type}

/-- How an inquiry may end after its requests. By `K`, a request that failed tells of the state in
which it leaves the inquiry; by `Q`, an answer tells of the last state. -/
inductive Ends (K : Query → σ → Prop) (Q : α → σ → Prop) :
    List (Entry wire) → Except Failure α × σ → Prop
  /-- Nothing failed, and there is an answer. -/
  | answer {past a s} (hpast : Unfailed past) (ha : Q a s) : Ends K Q past (.ok a, s)
  /-- Nothing failed, and the inquiry stops by itself. -/
  | own {past failure s} (hpast : Unfailed past) (hfailure : failure.blamesEngine = false) :
    Ends K Q past (.error failure, s)
  /-- The last request failed, and the fault says so. -/
  | refused {past q status s} (hpast : Unfailed past) (hs : K q s) :
    Ends K Q (past ++ [refused q status]) (.error (.fault (.ofStatus status)), s)

/-- From each state that satisfies `Inv`, the first request that fails is the last. -/
def StopsAtFailure (K : Query → σ → Prop) (Inv : σ → Prop) (Q : α → σ → Prop)
    (m : Inquiry σ α) : Prop :=
  ∀ s past, Inv s → Unfailed past → (m.start s).Follows (fun _ _ => True) (Ends K Q) past

namespace StopsAtFailure

variable {K : Query → σ → Prop} {Inv : σ → Prop} {Q : α → σ → Prop} {R : β → σ → Prop}

theorem pure {a : α} (h : ∀ s, Inv s → Q a s) :
    StopsAtFailure K Inv Q (Pure.pure a : Inquiry σ α) := fun s _ hs hpast => .answer hpast (h s hs)

theorem fail {f : Fault} (h : f.blamesEngine = false) :
    StopsAtFailure K Inv Q (fail f : Inquiry σ α) := fun _ _ _ hpast => .own hpast h

theorem lift {x : Except Failure α} (hx : Own x) (h : ∀ a s, Inv s → Q a s) :
    StopsAtFailure K Inv Q (lift x : Inquiry σ α) := fun s past hs hpast => by
  rw [start_lift]
  cases x with
  | ok a => exact .answer hpast (h a s hs)
  | error failure => exact .own hpast (hx failure rfl)

/-- A weaker statement of the answer and the last state. -/
theorem mono {Q' : α → σ → Prop} {m : Inquiry σ α} (hm : StopsAtFailure K Inv Q m)
    (hQ : ∀ a s, Q a s → Q' a s) : StopsAtFailure K Inv Q' m := by
  refine fun s past hs hpast => (hm s past hs hpast).mono (fun _ _ h => h) fun past out hout => ?_
  cases hout with
  | answer hpast ha => exact .answer hpast (hQ _ _ ha)
  | own hpast hfailure => exact .own hpast hfailure
  | refused hpast hs => exact .refused hpast hs

theorem get : StopsAtFailure K Inv (fun t s => s = t ∧ Inv s) (MonadState.get : Inquiry σ σ) :=
  fun _ _ hs hpast => .answer hpast ⟨rfl, hs⟩

theorem modify {f : σ → σ} {Inv' : σ → Prop} (h : ∀ s, Inv s → Inv' (f s)) :
    StopsAtFailure K Inv (fun _ => Inv') (modify f : Inquiry σ PUnit) :=
  fun s _ hs hpast => .answer hpast (h s hs)

theorem query {q : Query} (h : ∀ s, Inv s → K q s) :
    StopsAtFailure K Inv (fun _ => Inv) (query q : Inquiry σ q.Answer) := fun s _ hs hpast => by
  rw [start_query]
  refine ⟨trivial, fun reply => ?_⟩
  obtain status | answer := reply
  · exact .refused hpast (h s hs)
  · exact .answer (hpast.told q answer) hs

theorem bind {m : Inquiry σ α} {f : α → Inquiry σ β} (hm : StopsAtFailure K Inv Q m)
    (hf : ∀ a, StopsAtFailure K (Q a) R (f a)) : StopsAtFailure K Inv R (m >>= f) := by
  intro s past hs hpast
  refine follows_bind (hm s past hs hpast) fun past out hout => ?_
  cases hout with
  | answer hpast ha => exact hf _ _ _ ha hpast
  | own hpast hfailure => exact .own hpast hfailure
  | refused hpast hs => exact .refused hpast hs

/-- What follows a look at the state may rely on what holds of the state. -/
theorem get_bind {f : σ → Inquiry σ β} (hf : ∀ s, Inv s → StopsAtFailure K Inv R (f s)) :
    StopsAtFailure K Inv R (MonadState.get >>= f) := fun s past hs hpast => by
  rw [start_get_bind]
  exact hf s hs s past hs hpast

theorem ite {c : Prop} [Decidable c] {m n : Inquiry σ α} (hm : StopsAtFailure K Inv Q m)
    (hn : StopsAtFailure K Inv Q n) : StopsAtFailure K Inv Q (if c then m else n) := by
  split
  · exact hm
  · exact hn

theorem focus {get : τ → σ} {set : σ → τ → τ} (hset : ∀ s t, get (set s t) = s)
    {m : Inquiry σ α} (hm : StopsAtFailure K Inv Q m) :
    StopsAtFailure (fun q t => K q (get t)) (fun t => Inv (get t)) (fun a t => Q a (get t))
      (focus get set m) := by
  intro t past ht hpast
  rw [start_focus]
  refine (hm (get t) past ht hpast).bind fun past out hout => ?_
  cases hout with
  | answer hpast ha => exact .answer hpast (by rwa [hset])
  | own hpast hfailure => exact .own hpast hfailure
  | refused hpast hs => exact .refused hpast (by rwa [hset])

end StopsAtFailure

end Inquiry

/-! ### Remembered names -/

namespace Members

variable {old : Members} {Inv : Members → Prop} {R : Members → Prop} {axis : Axis} (block : String)

/-- A set of names whose reading failed is the old one. -/
def Kept (old : Members) (q : Query) (m : Members) : Prop :=
  ∀ block axis, q = .members block axis → m.names axis = old.names axis

theorem stopsAtFailure_refresh (hkept : ∀ m, Inv m → m.names axis = old.names axis)
    (hR : ∀ m names, Inv m → R (m.setNames axis names)) :
    StopsAtFailure (Kept old) Inv (fun _ => R) (refresh block axis) := by
  refine .bind (.query fun m hm _ _ heq => ?_) fun names => .modify fun m hm => hR m names hm
  cases heq
  exact hkept m hm

theorem stopsAtFailure_validate (hR : ∀ m, Inv m → R m)
    (hfill : ∀ m, Inv m → (m.names axis).isEmpty = true →
      m.names axis = old.names axis ∧ ∀ names, R (m.setNames axis names)) (name : String) :
    StopsAtFailure (Kept old) Inv (fun _ => R) (validate block axis name) := by
  have hcheck : StopsAtFailure (Kept old) R (fun _ => R) (do
      if ((← get).names axis).contains name then pure ()
      else Inquiry.fail (unknown axis name)) :=
    .get_bind fun _ _ => .ite (.pure fun _ h => h) (.fail (by cases axis <;> rfl))
  intro m past hm hpast
  rw [validate, start_get_bind]
  split
  next hempty =>
    -- Only this state is read anew, so the set is known to be empty.
    obtain ⟨hkept, hnames⟩ := hfill m hm hempty
    have hrefresh : StopsAtFailure (Kept old) (· = m) (fun _ => R) (refresh block axis) :=
      stopsAtFailure_refresh block (fun _ h => h ▸ hkept) fun _ names h => h ▸ hnames names
    exact (hrefresh.bind fun _ => hcheck) m past rfl hpast
  next => exact hcheck m past (hR m hm) hpast

theorem stopsAtFailure_verify :
    StopsAtFailure (Kept old) (· = old) (fun _ m => m = old) (verify block axis) :=
  .bind (.query fun _ hm _ _ _ => hm ▸ rfl) fun _ => .get_bind fun _ _ =>
    .ite (.pure fun _ h => h) (.fail rfl)

theorem stopsAtFailure_afterChange (wasEmpty : Bool) :
    StopsAtFailure (Kept old) (· = old) (fun _ _ => True) (afterChange block axis wasEmpty) := by
  have hrefresh : StopsAtFailure (Kept old) (· = old)
      (fun _ m => m.names axis.other = old.names axis.other) (refresh block axis) :=
    stopsAtFailure_refresh block (fun _ hm => hm ▸ rfl) fun _ names hm => by
      rw [hm, names_other_setNames]
  refine .bind hrefresh fun _ => .get_bind fun _ _ => .ite ?_ (.pure fun _ _ => trivial)
  exact stopsAtFailure_refresh block (fun _ hm => hm) fun _ _ _ => trivial

end Members

namespace Accessor

/-! ### Calls -/

/-- The remembered set of names whose reading failed is the old one. -/
abbrev NamesKept (old : Members) (q : Query) (a : Accessor) : Prop := old.Kept q a.members

section Calls

variable {old : Members} {Inv : Accessor → Prop} {item topic : String} {form : Form}

/-- A request for anything but names. -/
theorem namesKept_of_ne {q : Query} (hq : ∀ block axis, q ≠ .members block axis) (a : Accessor) :
    NamesKept old q a := fun block axis heq => absurd heq (hq block axis)

theorem stopsAtFailure_query {q : Query} (hq : ∀ block axis, q ≠ .members block axis) :
    StopsAtFailure (NamesKept old) Inv (fun _ => Inv) (Inquiry.query q : Operation q.Answer) :=
  .query fun a _ => namesKept_of_ne hq a

theorem stopsAtFailure_ensureOpen :
    StopsAtFailure (NamesKept old) Inv (fun _ => Inv) ensureOpen :=
  .get_bind fun _ _ => .ite (.fail rfl) (.pure fun _ h => h)

theorem stopsAtFailure_onMembers {α : Type} {Inv : Members → Prop} {Q : α → Members → Prop}
    {m : Inquiry Members α} (hm : StopsAtFailure old.Kept Inv Q m) :
    StopsAtFailure (NamesKept old) (fun a => Inv a.members) (fun x a => Q x a.members)
      (onMembers m) := hm.focus fun _ _ => rfl

theorem stopsAtFailure_validate (item topic : String) :
    StopsAtFailure (NamesKept old) (·.members = old) (fun _ _ => True) (validate item topic) := by
  refine .bind stopsAtFailure_ensureOpen fun _ => .get_bind fun a _ => ?_
  have hitem : StopsAtFailure old.Kept (· = old) (fun _ m => m.names .topic = old.names .topic)
      (Members.validate a.name .item item) := by
    refine Members.stopsAtFailure_validate _ (fun _ h => h ▸ rfl) (fun _ h _ => ⟨h ▸ rfl, ?_⟩) item
    exact fun names => h ▸ Members.names_other_setNames old .item names
  have htopic : StopsAtFailure old.Kept (fun m => m.names .topic = old.names .topic)
      (fun _ _ => True) (Members.validate a.name .topic topic) :=
    Members.stopsAtFailure_validate _ (fun _ _ => trivial) (fun _ h _ => ⟨h, fun _ => trivial⟩)
      topic
  refine .bind (stopsAtFailure_onMembers hitem) fun _ => ?_
  refine .bind (stopsAtFailure_onMembers htopic) fun _ => ?_
  exact .get_bind fun _ _ => .pure fun _ _ => trivial

theorem stopsAtFailure_value (index : Int) :
    StopsAtFailure (NamesKept old) (·.members = old) (fun _ _ => True)
      (value form item topic index) := by
  refine .bind (stopsAtFailure_validate item topic) fun size => ?_
  refine .bind (.lift (Slot.own_ofIndex index size) fun _ _ h => h) fun slot => ?_
  refine .get_bind fun a _ => .bind (stopsAtFailure_query nofun) fun sample => ?_
  exact .lift (own_convert form sample) fun _ _ h => h

theorem stopsAtFailure_range (first last : Int) (smart : Bool) :
    StopsAtFailure (NamesKept old) (·.members = old) (fun _ _ => True)
      (range form item topic first last smart) := by
  refine .bind (stopsAtFailure_validate item topic) fun size => ?_
  refine .bind (.lift (Slot.Range.own_ofIndices first last size) fun _ _ h => h) fun r => ?_
  refine .get_bind fun a _ => ?_
  extract_lets read
  have hread : ∀ asked, StopsAtFailure (NamesKept old) (fun _ => True) (fun _ _ => True)
      (read asked) := by
    intro asked
    cases asked with
    | none => exact .pure fun _ h => h
    | some r =>
      refine .bind (stopsAtFailure_query nofun) fun samples => ?_
      exact .lift (FailsOnly.mapM fun sample _ => own_convert form sample) fun _ _ h => h
  refine .ite ?_ (.bind (.pure fun _ h => h) hread)
  refine .bind (stopsAtFailure_query nofun) fun occupancy => ?_
  exact .bind (.lift (own_checked _) fun _ _ h => h) hread

theorem stopsAtFailure_sinceMarker (index : Int) (policy : LossPolicy) :
    StopsAtFailure (NamesKept old) (·.members = old) (fun _ _ => True)
      (sinceMarker form item topic index policy) := by
  have hrefuse (lost : Bool) : StopsAtFailure (NamesKept old) (fun _ => True) (fun _ _ => True)
      (refuseLoss item topic lost policy) := .ite (.fail rfl) (.pure fun _ h => h)
  refine .bind (stopsAtFailure_validate item topic) fun size => ?_
  refine .bind (.lift (Slot.own_ofIndex index size) fun _ _ h => h) fun slot => ?_
  refine .get_bind fun a _ => .bind (stopsAtFailure_query nofun) fun dirty => ?_
  refine .bind (hrefuse dirty) fun _ => .bind (stopsAtFailure_query nofun) fun position => ?_
  refine .bind (.lift (own_checked _) fun _ _ h => h) fun expected => ?_
  refine .ite (.pure fun _ h => h) (.bind (.lift (own_checked _) fun _ _ h => h) fun room => ?_)
  refine .bind (stopsAtFailure_query nofun) fun found => .bind (hrefuse _) fun _ => ?_
  exact .lift (FailsOnly.mapM fun sample _ => own_convert form sample) fun _ _ h => h

theorem stopsAtFailure_itemFrame :
    StopsAtFailure (NamesKept old) (·.members = old) (fun _ _ => True) (itemFrame form topic) := by
  refine .bind stopsAtFailure_ensureOpen fun _ => .get_bind fun a _ => ?_
  have htopic : StopsAtFailure old.Kept (· = old) (fun _ _ => True)
      (Members.validate a.name .topic topic) :=
    Members.stopsAtFailure_validate _ (fun _ _ => trivial)
      (fun _ h _ => ⟨h ▸ rfl, fun _ => trivial⟩) topic
  refine .bind (stopsAtFailure_onMembers htopic) fun _ => ?_
  refine .bind (stopsAtFailure_query nofun) fun cells => ?_
  exact .lift (own_frameOf form cells) fun _ _ h => h

/-- A frame reads the items anew only when there are none. -/
theorem stopsAtFailure_topicFrame (Inv : Members → Prop) {R : Members → Prop}
    (hR : ∀ m, Inv m → R m)
    (hfill : ∀ m, Inv m → (m.names .item).isEmpty = true →
      m.names .item = old.names .item ∧ ∀ names, R (m.setNames .item names)) :
    StopsAtFailure (NamesKept old) (fun a => Inv a.members) (fun _ a => R a.members)
      (topicFrame item) := by
  refine .bind stopsAtFailure_ensureOpen fun _ => .get_bind fun a _ => ?_
  have hitem : StopsAtFailure old.Kept Inv (fun _ => R) (Members.validate a.name .item item) :=
    Members.stopsAtFailure_validate _ hR hfill item
  refine .bind (stopsAtFailure_onMembers hitem) fun _ => ?_
  refine .bind (stopsAtFailure_query nofun) fun cells => ?_
  exact .lift (own_frameOf .text cells) fun _ _ h => h

/-- While items are remembered, frames do not read them anew. -/
theorem stopsAtFailure_framesOf (old : Members) (items : List String) :
    StopsAtFailure (NamesKept old)
      (fun a => (a.members.names .item).isEmpty = false)
      (fun _ a => (a.members.names .item).isEmpty = false) (framesOf items) := by
  induction items with
  | nil => exact .pure fun _ h => h
  | cons item items ih =>
    have hframe : StopsAtFailure (NamesKept old)
        (fun a => (a.members.names .item).isEmpty = false)
        (fun _ a => (a.members.names .item).isEmpty = false) (topicFrame item) :=
      stopsAtFailure_topicFrame (fun m => (m.names .item).isEmpty = false) (fun _ h => h)
        fun m hm hempty => by simp [hm] at hempty
    exact .bind hframe fun _ => .bind ih fun _ => .pure fun _ h => h

theorem stopsAtFailure_readMembers (axis : Axis) :
    StopsAtFailure (NamesKept old) (·.members = old)
      (fun names a => a.members.names axis = names) (readMembers axis) := by
  refine .bind stopsAtFailure_ensureOpen fun _ => .get_bind fun a _ => ?_
  have hrefresh : StopsAtFailure old.Kept (· = old) (fun _ _ => True)
      (Members.refresh a.name axis) :=
    Members.stopsAtFailure_refresh _ (fun _ h => h ▸ rfl) fun _ _ _ => trivial
  refine .bind (stopsAtFailure_onMembers hrefresh) fun _ => ?_
  exact .bind .get fun a' => .pure fun _ h => by rw [h.1]

theorem stopsAtFailure_allFrames :
    StopsAtFailure (NamesKept old) (·.members = old) (fun _ _ => True) allFrames := by
  refine .bind (stopsAtFailure_readMembers .item) fun items => ?_
  cases hempty : items.isEmpty with
  | true =>
    rw [Table.isEmpty_iff.mp hempty]
    exact .pure fun _ _ => trivial
  | false =>
    intro a past ha hpast
    have hitems : (a.members.names .item).isEmpty = false := by rwa [ha]
    have hframes := stopsAtFailure_framesOf old items.keys
    exact (hframes.bind fun _ => .pure fun _ _ => trivial) a past hitems hpast

theorem stopsAtFailure_changeMembers (axis : Axis) (request : String → Operation Unit)
    (hr : ∀ block, StopsAtFailure (NamesKept old) (·.members = old) (fun _ a => a.members = old)
      (request block)) :
    StopsAtFailure (NamesKept old) (·.members = old) (fun _ _ => True)
      (changeMembers axis request) := by
  refine .bind stopsAtFailure_ensureOpen fun _ => .get_bind fun a _ => ?_
  refine .bind (stopsAtFailure_onMembers (Members.stopsAtFailure_verify a.name)) fun _ => ?_
  refine .get_bind fun _ _ => .bind (hr a.name) fun _ => ?_
  exact stopsAtFailure_onMembers (Members.stopsAtFailure_afterChange a.name _)

/-- The first failure ends every call, but for what closing makes of it. -/
theorem Call.stopsAtFailure_operation {c : Call} (hc : c ≠ .close) :
    StopsAtFailure (NamesKept old) (·.members = old) (fun _ _ => True) c.operation := by
  cases c with
  | close => contradiction
  | readSize =>
    refine .bind stopsAtFailure_ensureOpen fun _ => .get_bind fun a _ => ?_
    refine .bind (stopsAtFailure_query nofun) fun size => ?_
    exact .bind (.modify fun _ _ => trivial) fun _ => .pure fun _ h => h
  | resize size =>
    refine .bind stopsAtFailure_ensureOpen fun _ => .ite (.fail rfl) (.get_bind fun a _ => ?_)
    refine .bind (stopsAtFailure_query nofun) fun _ => ?_
    refine .bind (stopsAtFailure_query nofun) fun told => ?_
    exact .bind (.modify fun _ _ => trivial) fun _ => .ite (.pure fun _ h => h) (.fail rfl)
  | readMembers axis => exact (stopsAtFailure_readMembers axis).mono fun _ _ _ => trivial
  | readWaiting axis =>
    refine .bind stopsAtFailure_ensureOpen fun _ => .get_bind fun a _ => ?_
    exact (stopsAtFailure_query (q := .waiting a.name axis) nofun).mono fun _ _ _ => trivial
  | addMember axis name =>
    exact stopsAtFailure_changeMembers axis
      (fun block => Inquiry.query (.addMember block axis name))
      fun block => stopsAtFailure_query (q := .addMember block axis name) nofun
  | removeMember axis name =>
    exact stopsAtFailure_changeMembers axis
      (fun block => Inquiry.query (.removeMember block axis name))
      fun block => stopsAtFailure_query (q := .removeMember block axis name) nofun
  | topicKind topic =>
    refine .bind stopsAtFailure_ensureOpen fun _ => ?_
    exact (stopsAtFailure_query (q := .topicKind topic) nofun).mono fun _ _ _ => trivial
  | occupancy item topic | isDirty item topic | position item topic =>
    refine .bind (stopsAtFailure_validate item topic) fun _ => .get_bind fun _ _ => ?_
    exact stopsAtFailure_query nofun
  | value form item topic index => exact stopsAtFailure_value index
  | latest form item topic => exact stopsAtFailure_value 0
  | range form item topic first last smart => exact stopsAtFailure_range first last smart
  | sinceMarker form item topic index policy => exact stopsAtFailure_sinceMarker index policy
  | itemFrame form topic => exact stopsAtFailure_itemFrame
  | topicFrame item =>
    exact stopsAtFailure_topicFrame (· = old) (fun _ _ => trivial) fun _ h _ =>
      ⟨h ▸ rfl, fun _ => trivial⟩
  | allFrames => exact stopsAtFailure_allFrames

end Calls

/-! ### Runs -/

/-- What a call returns when a request of it fails. To close a block that the engine does not have
succeeds. -/
def Call.stopped (status : Status) : (c : Call) → Except Failure c.Answer
  | .close => if status = .noBlock then .ok () else .error (.fault (.ofStatus status))
  | _ => .error (.fault (.ofStatus status))

theorem Call.stopped_of_ne_close {c : Call} (hc : c ≠ .close) :
    (c.stopped ·) = fun status => .error (.fault (.ofStatus status)) := by
  cases c with
  | close => contradiction
  | _ => rfl

/-- A failed request is the last of a run, and its code tells the result. Without one the result
does not say that a call of the engine failed. -/
structure FailsLast {α : Type} (log : List (Entry wire)) (stopped : Status → Except Failure α)
    (result : Except Failure α) : Prop where
  last : ∀ before x rest status, log = before ++ x :: rest → x.failure? = some status →
    rest = [] ∧ result = stopped status
  callFailed_ne : result ≠ .error (.fault (.callFailed .notConnected))
  unfailed : Unfailed log → ∀ status, result ≠ .error (.fault (.callFailed status))

theorem ofStatus_ne_callFailed_notConnected (status : Status) :
    Fault.ofStatus status ≠ .callFailed .notConnected := by
  by_cases h : status = .notConnected
  · simp [h]
  · simp [Fault.ofStatus_of_ne h, h]

theorem Call.stopped_ne (c : Call) (status : Status) :
    c.stopped status ≠ .error (.fault (.callFailed .notConnected)) := by
  have hstatus : (.error (.fault (.ofStatus status)) : Except Failure c.Answer) ≠
      .error (.fault (.callFailed .notConnected)) := fun heq =>
    ofStatus_ne_callFailed_notConnected status (Failure.fault.inj (Except.error.inj heq))
  cases c with
  | close =>
    rw [stopped]
    split
    · nofun
    · exact hstatus
  | _ => exact hstatus

namespace FailsLast

variable {α : Type} {log past : List (Entry wire)} {stopped : Status → Except Failure α}
  {result : Except Failure α}

theorem of_unfailed (hlog : Unfailed log)
    (hresult : ∀ status, result ≠ .error (.fault (.callFailed status))) :
    FailsLast log stopped result := by
  refine ⟨fun before x rest status hsplit hx => ?_, hresult _, fun _ => hresult⟩
  exact absurd hlog (not_unfailed_of_mem (by simp [hsplit]) hx)

theorem of_ok {v : α} (hlog : Unfailed log) (hresult : result = .ok v) :
    FailsLast log stopped result ∧ (Unfailed log → result ≠ .error (.fault .notConnected)) := by
  subst hresult
  exact ⟨.of_unfailed hlog fun _ => nofun, fun _ => nofun⟩

theorem of_refused (hpast : Unfailed past) (q : Query) {status : Status}
    (hresult : result = stopped status)
    (hne : stopped status ≠ .error (.fault (.callFailed .notConnected))) :
    FailsLast (past ++ [refused q status]) stopped result := by
  refine ⟨fun before x rest code hsplit hx => ?_, hresult ▸ hne, fun hlog => ?_⟩
  · rcases List.eq_nil_or_concat rest with rfl | ⟨rest, y, rfl⟩
    · obtain ⟨-, hlast⟩ := List.append_inj' hsplit rfl
      obtain rfl := (List.cons.inj hlast).1
      cases hx
      exact ⟨rfl, hresult⟩
    · -- An earlier failure would lie in the past.
      have hsplit : past ++ [refused q status] = (before ++ x :: rest) ++ [y] := by
        simpa using hsplit
      obtain ⟨rfl, -⟩ := List.append_inj' hsplit rfl
      exact absurd hpast (not_unfailed_of_mem (by simp) hx)
  · exact absurd hlog (not_unfailed_of_mem List.mem_concat_self (failure?_refused ..))

end FailsLast

section Ends

variable {σ α : Type} {K : Query → σ → Prop} {Q : α → σ → Prop} {log : List (Entry wire)}
  {result : Except Failure α} {last : σ}

theorem failsLast_of_ends (hends : Ends K Q log (result, last)) :
    FailsLast log (fun status => .error (.fault (.ofStatus status))) result := by
  cases hends with
  | answer hpast => exact .of_unfailed hpast fun _ => nofun
  | own hpast hown =>
    refine .of_unfailed hpast fun _ heq => ?_
    cases heq
    cases hown
  | refused hpast =>
    refine .of_refused hpast _ rfl fun heq => ?_
    exact ofStatus_ne_callFailed_notConnected _ (Failure.fault.inj (Except.error.inj heq))

/-- An inquiry to which nothing failed does not say that the engine is not connected. -/
theorem ne_notConnected_of_ends (hends : Ends K Q log (result, last)) (hlog : Unfailed log) :
    result ≠ .error (.fault .notConnected) := by
  intro heq
  cases hends with
  | answer => cases heq
  | own hpast hown =>
    cases heq
    cases hown
  | refused => exact absurd hlog (not_unfailed_of_mem List.mem_concat_self (failure?_refused ..))

/-- A failed request tells of the last state. -/
theorem kept_of_ends (hends : Ends K Q log (result, last)) {q : Query} {status : Status}
    (hq : refused q status ∈ log) : K q last := by
  have hfailed (past : List (Entry wire)) (hpast : Unfailed past) : refused q status ∉ past :=
    fun hq => absurd hpast (not_unfailed_of_mem hq (failure?_refused ..))
  cases hends with
  | answer hpast => exact absurd hq (hfailed _ hpast)
  | own hpast => exact absurd hq (hfailed _ hpast)
  | refused hpast hs =>
    rcases List.mem_append.mp hq with hq | hq
    · exact absurd hq (hfailed _ hpast)
    · cases List.mem_singleton.mp hq
      exact hs

end Ends

/-- An accessor is created, or the engine is not connected, or the first failure ends the
attempt. -/
theorem follows_create (settings : Settings) :
    (create settings).Follows (fun _ _ => True)
      (fun past result => Ends (fun _ _ => True) (fun _ _ => True) past (result, ()) ∨
        result = .error (.fault .notConnected) ∧ ⟨.connected, false⟩ ∈ past ∧ Unfailed past)
      [] := by
  have hnil : Unfailed [] := nofun
  rw [create]
  split
  next f hf =>
    rw [Settings.validate] at hf
    split at hf
    · cases hf
      exact .inl (.own hnil rfl)
    · cases hf
  next =>
    refine ⟨trivial, fun (connected : Bool) => ?_⟩
    have hasked : Unfailed ([] ++ [⟨.connected, connected⟩]) :=
      fun x hx => List.mem_singleton.mp hx ▸ rfl
    cases connected with
    | false => exact .inr ⟨rfl, List.mem_singleton_self _, hasked⟩
    | true =>
      refine ⟨trivial, fun reply => ?_⟩
      obtain status | name := reply
      · exact .inl (.refused hasked trivial)
      · exact .inl (.answer (hasked.told _ name) trivial)

section Calls

variable {σ : Type} (h : Handler wire σ) (s : σ) (a : Accessor)

theorem failsLast_close :
    FailsLast ((close.start a).log h s) (Call.stopped · .close) ((close.start a).run h s).1.1 ∧
      (Unfailed ((close.start a).log h s) →
        ((close.start a).run h s).1.1 ≠ .error (.fault .notConnected)) := by
  have hnil : Unfailed [] := List.forall_mem_nil _
  cases hclosed : a.closed with
  | true =>
    have hstart : close.start a = .done (.ok (), a) := Call.start_of_closed hclosed .close
    rw [hstart]
    exact FailsLast.of_ok hnil rfl
  | false =>
    rw [start_close_of_open hclosed, run_ask, log_ask, log_done, run_done]
    obtain ⟨reply, s'⟩ := h (.query (.closeBlock a.name)) s
    obtain status | ⟨⟩ := reply
    · have hresult : (a.closeOutcome (.error status)).1 = Call.stopped status .close := by
        rw [closeOutcome, Call.stopped]
        split <;> rfl
      refine ⟨.of_refused hnil _ hresult (Call.stopped_ne .close status), fun hlog => ?_⟩
      exact absurd hlog (not_unfailed_of_mem (List.mem_singleton_self _) (failure?_refused ..))
    · have hlog : Unfailed [told (.closeBlock a.name) ()] := hnil.told (.closeBlock a.name) ()
      exact FailsLast.of_ok hlog rfl

/-- What an accessor remembers of the capacity is what it remembered before or was told. -/
theorem Call.size_or_told (c : Call) :
    ((c.operation.start a).run h s).1.2.size = a.size ∨
      told (.blockSize a.name) ((c.operation.start a).run h s).1.2.size ∈
        (c.operation.start a).log h s := by
  have htold : Told (fun r reply => ⟨r, reply⟩ ∈ (c.operation.start a).log h s) (c.MayAsk a.name)
      (fun x => x.name = a.name ∧
        (x.size = a.size ∨ told (.blockSize a.name) x.size ∈ (c.operation.start a).log h s))
      a.name :=
    ⟨fun _ hq => .inl hq, fun _ hx => hx.1, fun _ _ _ hx _ => hx,
      fun _ _ hx htold => ⟨hx.1, .inr htold⟩⟩
  have hkeeps := c.keeps_operation htold (fun _ _ _ hx => hx) a ⟨rfl, .inl rfl⟩
  exact (hkeeps.of_log fun _ hx => hx).2

/-- Closing does not read names, and leaves those that are remembered. -/
theorem members_close : ((close.start a).run h s).1.2.members = a.members := by
  cases hclosed : a.closed with
  | true =>
    have hstart : close.start a = .done (.ok (), a) := Call.start_of_closed hclosed .close
    rw [hstart]
    rfl
  | false =>
    rw [start_close_of_open hclosed, run_ask, run_done]
    obtain ⟨reply, s'⟩ := h (.query (.closeBlock a.name)) s
    obtain status | ⟨⟩ := reply
    · change (a.closeOutcome (.error status)).2.members = _
      rw [closeOutcome]
      split <;> rfl
    · rfl

end Calls

/-- **The first failure ends an operation.** The engine may answer anything. In the creation of an
accessor and in every call of one, a request that fails is the last, and its code tells the result:
that the engine is not connected, or that a call failed with the code, which is then another one.
Only to close a block that the engine does not have succeeds. If nothing fails, the result says
neither, except that a creation says of an engine that it is not connected when the engine has said
so.

A set of names whose reading failed is remembered as it was before the call, and the capacity is
remembered as it was or as the engine told it during the call. -/
theorem first_failure_ends {σ : Type} (h : Handler wire σ) (s : σ) :
    (∀ settings : Settings,
      let log := (create settings).log h s
      let result := ((create settings).run h s).1
      FailsLast log (fun status => .error (.fault (.ofStatus status))) result ∧
        (Unfailed log → result = .error (.fault .notConnected) → ⟨.connected, false⟩ ∈ log)) ∧
    ∀ (a : Accessor) (c : Call),
      let log := (c.operation.start a).log h s
      let out := ((c.operation.start a).run h s).1
      FailsLast log (c.stopped ·) out.1 ∧
        (Unfailed log → out.1 ≠ .error (.fault .notConnected)) ∧
        (∀ axis status, refused (.members a.name axis) status ∈ log →
          out.2.members.names axis = a.members.names axis) ∧
        (out.2.size = a.size ∨ told (.blockSize a.name) out.2.size ∈ log) := by
  refine ⟨fun settings => ?_, fun a c => ?_⟩
  · obtain ⟨-, hends | ⟨hresult, hconnected, hlog⟩⟩ := (follows_create settings).of_log h s
    · exact ⟨failsLast_of_ends hends, fun hlog hresult =>
        absurd hresult (ne_notConnected_of_ends hends hlog)⟩
    · exact ⟨.of_unfailed hlog fun _ => hresult ▸ nofun, fun _ _ => hconnected⟩
  · by_cases hc : c = .close
    · subst hc
      obtain ⟨hlast, hunfailed⟩ := failsLast_close h s a
      refine ⟨hlast, hunfailed, fun axis _ _ => ?_, Call.size_or_told h s a .close⟩
      exact congrArg (Members.names · axis) (members_close h s a)
    · obtain ⟨-, hends⟩ :=
        (Call.stopsAtFailure_operation hc a [] rfl (List.forall_mem_nil _)).of_log h s
      refine ⟨?_, ne_notConnected_of_ends hends, fun axis status hmem => ?_, c.size_or_told h s a⟩
      · rw [Call.stopped_of_ne_close hc]
        exact failsLast_of_ends hends
      · exact kept_of_ends hends hmem _ _ rfl

/-- The first topic is added, but the items cannot be read anew. -/
theorem first_failure_ends_refusedItems :
    let a := ofSettings "MOCK" {}
    let c : Call := .addMember .topic "LAST"
    let h := Scripted.handler fun
      | .query (.members _ axis) => axis.plural
      | _ => ""
    let plan : Plan wire := { codes := Table.insert ∅ "items" [-4] }
    let log := (c.operation.start a).log h (plan, ({} : Scripted))
    let out := ((c.operation.start a).run h (plan, ({} : Scripted))).1
    (log.map fun x => (x.request, x.failure?)) =
        [(.query (.members "MOCK" .topic), none), (.query (.addMember "MOCK" .topic "LAST"), none),
          (.query (.members "MOCK" .topic), none), (.query (.members "MOCK" .item), some ⟨-4⟩)] ∧
      out.1 = .error (.fault (.callFailed ⟨-4⟩)) ∧
      out.2.members.names .item = a.members.names .item := by
  intro a c h plan log out
  have hlog : (log.map fun x => (x.request, x.failure?)) =
      [(.query (.members "MOCK" .topic), none), (.query (.addMember "MOCK" .topic "LAST"), none),
        (.query (.members "MOCK" .topic), none), (.query (.members "MOCK" .item), some ⟨-4⟩)] := by
    decide +kernel
  obtain ⟨before, rest, hsplit, -, hrest⟩ :=
    List.map_eq_append_iff.mp (hlog.trans (List.take_append_drop 3 _).symm)
  obtain ⟨⟨r, reply⟩, tail, rfl, hx, hnil⟩ := List.map_eq_cons_iff.mp hrest
  obtain rfl := List.map_eq_nil_iff.mp hnil
  obtain ⟨hr, hstatus⟩ := Prod.mk.inj hx
  obtain rfl : r = .query (.members "MOCK" .item) := hr
  obtain status | names := reply
  · cases hstatus
    have hmem : refused (.members "MOCK" .item) ⟨-4⟩ ∈ log := hsplit ▸ List.mem_concat_self
    obtain ⟨hlast, -, hkept, -⟩ := (first_failure_ends h (plan, ({} : Scripted))).2 a c
    exact ⟨hlog, (hlast.last before _ [] _ hsplit rfl).2, hkept .item ⟨-4⟩ hmem⟩
  · cases hstatus

end Accessor

end TickerTape
