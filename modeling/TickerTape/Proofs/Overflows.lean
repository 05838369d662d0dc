import TickerTape.Proofs.Conversations
import TickerTape.Proofs.Failures
import TickerTape.Proofs.Lifetime

/-!
# Arithmetic that leaves the range of a word

An accessor refuses an index that names no slot, and it takes whatever an engine tells it. Yet its
arithmetic can leave the range of a word: a negative index, when the capacity is read as a negative
word; the way from the marker to a slot; and the room of a marker read, to which any margin is
added. This module says exactly when that happens, and that it cannot happen while capacities,
positions and margins are of moderate size.

## Main definitions

* `TickerTape.Slot.Overflows`, `TickerTape.Accessor.RoomOverflows` — the arithmetic that overflows.
* `TickerTape.Inquiry.NeverOverflows` — inquiries without such arithmetic.
* `TickerTape.Accessor.Call.Overflows` — the calls that overflow, by what they were told.

## Main results

* `TickerTape.Accessor.Call.overflows_iff` — when a call overflows.
* `TickerTape.Accessor.Lifetime.never_overflows` — moderate engines and settings.
-/

namespace TickerTape

open Engine Program Inquiry

/-! ### Indices and rooms that overflow -/

/-- From `2 ^ 63` on an unsigned word is read as a negative one. -/
theorem Word.toSigned_of_ge {n : Nat} (hn : IsUnsigned n) (h : 0x8000000000000000 ≤ n) :
    toSigned n = n - 0x10000000000000000 := by
  unfold toSigned
  unfold IsUnsigned at hn
  rw [Int.bmod_def]
  omega

/-- A negative index is added to a capacity that is read as a negative word, with a sum below all
signed words. -/
def Slot.Overflows (index : Int) (capacity : Nat) : Prop :=
  index < 0 ∧ 0x8000000000000000 ≤ capacity ∧ index + capacity < 0x8000000000000000

section Index

variable {index first last : Int} {capacity slot margin : Nat} {position : Int} {o : Overflow}

/-- Each operation on words fails in one way. -/
theorem Word.ite_eq_error_iff {α : Type} {c : Prop} [Decidable c] {a : α} {o' : Overflow} :
    (if c then .ok a else .error o' : Except Overflow α) = .error o ↔ ¬ c ∧ o = o' := by
  split
  next h => simp [h]
  next h => simp [h, eq_comm]

theorem Word.ite_eq_ok_iff {α : Type} {c : Prop} [Decidable c] {a b : α} :
    (if c then .ok a else .error o : Except Overflow α) = .ok b ↔ c ∧ b = a := by
  split
  next h => simp [h, eq_comm]
  next h => simp [h]

theorem Word.checked_eq_overflow_iff {α : Type} {x : Except Overflow α} :
    checked x = .error (.overflow o) ↔ x = .error o := by
  cases x <;> simp [checked]

/-- A step on words fails only by an overflow. -/
theorem Word.of_checked_eq_error {α : Type} {x : Except Overflow α} {failure : Failure}
    (h : checked x = .error failure) : ∃ o, x = .error o ∧ failure = .overflow o := by
  cases x with
  | error o => exact ⟨o, rfl, (Except.error.inj h).symm⟩
  | ok a => contradiction

theorem Word.not_isSigned_add_toSigned_iff (hindex : IsSigned index) (hneg : index < 0)
    (hcapacity : IsUnsigned capacity) :
    ¬ IsSigned (index + toSigned capacity) ↔ Slot.Overflows index capacity := by
  unfold IsSigned at *
  unfold Slot.Overflows
  by_cases hsmall : capacity < 0x8000000000000000
  · rw [toSigned_of_lt hsmall]
    omega
  · rw [toSigned_of_ge hcapacity (by omega)]
    unfold IsUnsigned at hcapacity
    omega

theorem Slot.ofIndex_eq_overflow_iff (hindex : Word.IsSigned index)
    (hcapacity : Word.IsUnsigned capacity) :
    ofIndex index capacity = .error (.overflow o) ↔ Overflows index capacity ∧ o = .add := by
  have hlast (i : Int) : (if i < 0 ∨ Word.toSigned capacity ≤ i then
      (.error (.fault (.outOfRange index capacity)) : Except Failure Nat) else .ok i.toNat) ≠
        .error (.overflow o) := by
    split <;> nofun
  rw [ofIndex]
  dsimp only
  by_cases hneg : index < 0
  · rw [if_pos hneg, bind_eq_error_iff, ← Word.not_isSigned_add_toSigned_iff hindex hneg hcapacity]
    refine Iff.trans ⟨fun h => ?_, .inl⟩
      (Word.checked_eq_overflow_iff.trans Word.ite_eq_error_iff)
    rcases h with h | ⟨i, -, h⟩
    · exact h
    · exact absurd h (hlast i)
  · rw [if_neg hneg]
    exact ⟨fun h => absurd h (hlast index), fun h => absurd h.1.1 hneg⟩

/-- When one index names a slot, none overflows. -/
theorem Slot.not_overflows_of_ofIndex (hcapacity : Word.IsUnsigned capacity)
    (h : ofIndex first capacity = .ok slot) (index : Int) : ¬ Overflows index capacity := by
  rintro ⟨-, hlarge, -⟩
  have hslot := (of_ofIndex_eq_ok h).2
  rw [Word.toSigned_of_ge hcapacity hlarge] at hslot
  unfold Word.IsUnsigned at hcapacity
  omega

theorem Slot.Range.ofIndices_eq_overflow_iff (hfirst : Word.IsSigned first)
    (hlast : Word.IsSigned last) (hcapacity : Word.IsUnsigned capacity) :
    ofIndices first last capacity = .error (.overflow o) ↔
      Slot.Overflows first capacity ∧ o = .add := by
  rw [← Slot.ofIndex_eq_overflow_iff hfirst hcapacity, ofIndices, bind_eq_error_iff]
  refine ⟨fun h => ?_, .inl⟩
  rcases h with h | ⟨start, hstart, h⟩
  · exact h
  · rcases bind_eq_error_iff.mp h with h | ⟨stop, -, h⟩
    · have hover := ((Slot.ofIndex_eq_overflow_iff hlast hcapacity).mp h).1
      exact absurd hover (Slot.not_overflows_of_ofIndex hcapacity hstart last)
    · split at h <;> cases h

/-- The room for a marker read down to a slot, when the marker stands at a position, is no word. -/
def Accessor.RoomOverflows (position : Int) (slot margin : Nat) (o : Overflow) : Prop :=
  ¬ Word.IsSigned (position - slot) ∧ o = .sub ∨
    position - slot + 1 = 0x8000000000000000 ∧ o = .add ∨
    0 ≤ position - slot + 1 ∧ position - slot + 1 < 0x8000000000000000 ∧
      0x10000000000000000 ≤ position - slot + 1 + margin ∧ o = .add

/-- The steps from the position of a marker to the room of a read fail when one of their results is
no word. -/
theorem Accessor.room_eq_error_iff (hslot : slot < 0x8000000000000000) :
    (pending position slot = .error o ∨ ∃ n, pending position slot = .ok n ∧ ¬ n < 0 ∧
      Word.addUnsigned n.toNat margin = .error o) ↔ RoomOverflows position slot margin o := by
  have hpending : pending position slot = .error o ↔
      ¬ Word.IsSigned (position - slot) ∧ o = .sub ∨
        Word.IsSigned (position - slot) ∧ ¬ Word.IsSigned (position - slot + 1) ∧ o = .add := by
    rw [pending, bind_eq_error_iff, Word.toSigned_of_lt hslot]
    refine or_congr Word.ite_eq_error_iff ?_
    simp only [Word.subSigned, Word.addSigned, Word.ite_eq_ok_iff, Word.ite_eq_error_iff]
    constructor
    · rintro ⟨_, ⟨h, rfl⟩, h'⟩
      exact ⟨h, h'⟩
    · rintro ⟨h, h'⟩
      exact ⟨_, ⟨h, rfl⟩, h'⟩
  have hok (n : Int) : pending position slot = .ok n ↔
      Word.IsSigned (position - slot) ∧ Word.IsSigned (position - slot + 1) ∧
        n = position - slot + 1 := by
    rw [pending, bind_eq_ok_iff, Word.toSigned_of_lt hslot]
    simp only [Word.subSigned, Word.addSigned, Word.ite_eq_ok_iff]
    constructor
    · rintro ⟨_, ⟨h, rfl⟩, h'⟩
      exact ⟨h, h'⟩
    · rintro ⟨h, h'⟩
      exact ⟨_, ⟨h, rfl⟩, h'⟩
  simp only [hpending, hok, Word.addUnsigned, Word.ite_eq_error_iff]
  unfold RoomOverflows Word.IsSigned Word.IsUnsigned
  constructor
  · rintro ((h | h) | ⟨n, ⟨h, h', rfl⟩, hn, hroom, rfl⟩)
    · exact .inl h
    · exact .inr (.inl ⟨by omega, h.2.2⟩)
    · exact .inr (.inr ⟨by omega, by omega, by omega, rfl⟩)
  · rintro (h | ⟨h, rfl⟩ | ⟨h, h', hroom, rfl⟩)
    · exact .inl (.inl h)
    · exact .inl (.inr ⟨by omega, by omega, rfl⟩)
    · exact .inr ⟨_, ⟨by omega, by omega, rfl⟩, by omega, by omega, rfl⟩

end Index

/-! ### Inquiries that never overflow -/

/-- A step that does not fail by an overflow. -/
def Fits {α : Type} (x : Except Failure α) : Prop := ∀ o, x ≠ .error (.overflow o)

theorem fits_iff {α : Type} {x : Except Failure α} :
    Fits x ↔ FailsOnly (fun failure => ∀ o, failure ≠ .overflow o) x :=
  ⟨fun h _ heq o ho => h o (ho ▸ heq), fun h o heq => h _ heq o rfl⟩

namespace Fits

variable {α β : Type}

theorem ok (a : α) : Fits (.ok a) := nofun

theorem fault (f : Fault) : Fits (.error (.fault f) : Except Failure α) := nofun

theorem mapM {f : α → Except Failure β} (hf : ∀ a, Fits (f a)) (as : List α) :
    Fits (as.mapM f) :=
  fits_iff.mpr (.mapM fun a _ => fits_iff.mp (hf a))

end Fits

namespace Accessor

theorem fits_convert (form : Form) (p : Sample) : Fits (convert form p) := by
  rw [convert]
  split
  · exact .ok _
  · exact .fault _

theorem fits_frameOf (form : Form) (cells : List (String × Sample)) :
    Fits (frameOf form cells) :=
  fits_iff.mpr (failsOnly_frameOf fun cell _ => fits_iff.mp (fits_convert form cell.2))

end Accessor

namespace Inquiry

variable {σ τ α β : Type}

/-- Whatever it is told, the inquiry does not fail by an overflow. -/
def NeverOverflows (m : Inquiry σ α) : Prop :=
  ∀ s, (m.start s).Yields (fun _ _ => True) (fun _ => True) fun out => Fits out.1

theorem neverOverflows_iff {m : Inquiry σ α} : NeverOverflows m ↔
    m.FailsOnly (fun _ _ => True) (fun _ => True) fun failure => ∀ o, failure ≠ .overflow o := by
  simp only [NeverOverflows, FailsOnly, fits_iff]

namespace NeverOverflows

theorem pure (a : α) : NeverOverflows (Pure.pure a : Inquiry σ α) := fun _ => .ok a

theorem fail (x : Fault) : NeverOverflows (fail x : Inquiry σ α) := fun _ => .fault x

theorem lift {x : Except Failure α} (hx : Fits x) : NeverOverflows (lift x : Inquiry σ α) :=
  neverOverflows_iff.mpr (.lift (fits_iff.mp hx))

theorem get : NeverOverflows (MonadState.get : Inquiry σ σ) := fun _ => .ok _

theorem set (t : σ) : NeverOverflows (MonadState.set t : Inquiry σ PUnit) := fun _ => .ok _

theorem modify (f : σ → σ) : NeverOverflows (modify f : Inquiry σ PUnit) := fun _ => .ok _

theorem query (q : Query) : NeverOverflows (query q : Inquiry σ q.Answer) := fun s => by
  rw [start_query]
  refine ⟨trivial, fun reply _ => ?_⟩
  obtain status | answer := reply
  · exact .fault _
  · exact .ok _

theorem request (r : Request) :
    NeverOverflows (liftM (Program.request (I := wire) r) : Inquiry σ r.Reply) :=
  fun _ => ⟨trivial, fun _ _ => .ok _⟩

theorem bind {m : Inquiry σ α} {f : α → Inquiry σ β} (hm : NeverOverflows m)
    (hf : ∀ a, NeverOverflows (f a)) : NeverOverflows (m >>= f) :=
  neverOverflows_iff.mpr (.bind (neverOverflows_iff.mp hm) fun a => neverOverflows_iff.mp (hf a))

theorem ite {c : Prop} [Decidable c] {m n : Inquiry σ α} (hm : NeverOverflows m)
    (hn : NeverOverflows n) : NeverOverflows (if c then m else n) :=
  neverOverflows_iff.mpr (.ite (neverOverflows_iff.mp hm) (neverOverflows_iff.mp hn))

theorem focus {get : τ → σ} {set : σ → τ → τ} {m : Inquiry σ α} (hm : NeverOverflows m) :
    NeverOverflows (focus get set m) :=
  neverOverflows_iff.mpr (.focus (neverOverflows_iff.mp hm))

end NeverOverflows

end Inquiry

namespace Members

variable (block : String) (axis : Axis)

theorem neverOverflows_refresh : NeverOverflows (refresh block axis) :=
  .bind (.query _) fun _ => .modify _

theorem neverOverflows_validate (name : String) : NeverOverflows (validate block axis name) := by
  have hcheck : NeverOverflows (do
      if ((← get).names axis).contains name then pure ()
      else Inquiry.fail (unknown axis name) : Inquiry Members Unit) :=
    .bind .get fun _ => .ite (.pure _) (.fail _)
  exact .bind .get fun _ => .ite (.bind (neverOverflows_refresh block axis) fun _ => hcheck) hcheck

theorem neverOverflows_verify : NeverOverflows (verify block axis) :=
  .bind (.query _) fun _ => .bind .get fun _ => .ite (.pure _) (.fail _)

theorem neverOverflows_afterChange (wasEmpty : Bool) :
    NeverOverflows (afterChange block axis wasEmpty) :=
  .bind (neverOverflows_refresh block axis) fun _ =>
    .bind .get fun _ => .ite (neverOverflows_refresh block axis.other) (.pure _)

end Members

namespace Accessor

theorem neverOverflows_ensureOpen : NeverOverflows ensureOpen :=
  .bind .get fun _ => .ite (.fail _) (.pure _)

theorem neverOverflows_validate (item topic : String) : NeverOverflows (validate item topic) :=
  .bind neverOverflows_ensureOpen fun _ => .bind .get fun _ =>
    .bind (.focus (Members.neverOverflows_validate _ _ _)) fun _ =>
      .bind (.focus (Members.neverOverflows_validate _ _ _)) fun _ => .bind .get fun _ => .pure _

theorem neverOverflows_changeMembers (axis : Axis) (request : String → Operation Unit)
    (hr : ∀ block, NeverOverflows (request block)) :
    NeverOverflows (changeMembers axis request) :=
  .bind neverOverflows_ensureOpen fun _ => .bind .get fun _ =>
    .bind (.focus (Members.neverOverflows_verify _ _)) fun _ => .bind .get fun _ =>
      .bind (hr _) fun _ => .focus (Members.neverOverflows_afterChange _ _ _)

theorem neverOverflows_close : NeverOverflows close := by
  refine .bind .get fun a => .ite (.pure _) (.bind (.set _) fun _ => .bind (.request _) ?_)
  intro reply
  cases reply with
  | ok => exact .pure _
  | error status => exact .ite (.pure _) (.bind (.set _) fun _ => .fail _)

theorem neverOverflows_resize (size : Nat) : NeverOverflows (resize size) :=
  .bind neverOverflows_ensureOpen fun _ => .ite (.fail _) (.bind .get fun _ =>
    .bind (.query _) fun _ => .bind (.query _) fun _ => .bind (.modify _) fun _ =>
      .ite (.pure _) (.fail _))

theorem neverOverflows_readMembers (axis : Axis) : NeverOverflows (readMembers axis) :=
  .bind neverOverflows_ensureOpen fun _ => .bind .get fun _ =>
    .bind (.focus (Members.neverOverflows_refresh _ _)) fun _ => .bind .get fun _ => .pure _

theorem neverOverflows_topicFrame (item : String) : NeverOverflows (topicFrame item) :=
  .bind neverOverflows_ensureOpen fun _ => .bind .get fun _ =>
    .bind (.focus (Members.neverOverflows_validate _ _ _)) fun _ =>
      .bind (.query _) fun cells => .lift (fits_frameOf .text cells)

theorem neverOverflows_framesOf (items : List String) : NeverOverflows (framesOf items) := by
  induction items with
  | nil => exact .pure _
  | cons item items ih =>
    exact .bind (neverOverflows_topicFrame item) fun _ => .bind ih fun _ => .pure _

/-- Whether a call computes with an index or with the position of a marker. -/
def Call.computes : Call → Bool
  | .value .. | .latest .. | .range .. | .sinceMarker .. => true
  | _ => false

/-- A call that does not compute never overflows. -/
theorem Call.neverOverflows_operation {c : Call} (hc : c.computes = false) :
    NeverOverflows c.operation := by
  cases c with
  | close => exact neverOverflows_close
  | readSize =>
    exact .bind neverOverflows_ensureOpen fun _ => .bind .get fun _ => .bind (.query _) fun _ =>
      .bind (.modify _) fun _ => .pure _
  | resize size => exact neverOverflows_resize size
  | readMembers axis => exact neverOverflows_readMembers axis
  | readWaiting axis =>
    exact .bind neverOverflows_ensureOpen fun _ => .bind .get fun _ => .query _
  | addMember axis name =>
    exact neverOverflows_changeMembers axis
      (fun block => Inquiry.query (.addMember block axis name)) fun _ => .query _
  | removeMember axis name =>
    exact neverOverflows_changeMembers axis
      (fun block => Inquiry.query (.removeMember block axis name)) fun _ => .query _
  | topicKind topic => exact .bind neverOverflows_ensureOpen fun _ => .query _
  | occupancy item topic | isDirty item topic | position item topic =>
    exact .bind (neverOverflows_validate item topic) fun _ => .bind .get fun _ => .query _
  | itemFrame form topic =>
    exact .bind neverOverflows_ensureOpen fun _ => .bind .get fun _ =>
      .bind (.focus (Members.neverOverflows_validate _ _ _)) fun _ =>
        .bind (.query _) fun cells => .lift (fits_frameOf form cells)
  | topicFrame item => exact neverOverflows_topicFrame item
  | allFrames =>
    exact .bind (neverOverflows_readMembers .item) fun items =>
      .bind (neverOverflows_framesOf items.keys) fun _ => .pure _
  | value | latest | range | sinceMarker => contradiction

/-! ### Calls that overflow -/

/-- After what it was told, an accessor remembers both names of a pair. -/
def Knows (a : Accessor) (p : Pair) (past : List (Entry wire)) : Prop :=
  ∀ axis, ((a.members.learn past).names axis).contains (p.get axis) = true

/-- The indices of a call are signed words. -/
def Call.HasWords : Call → Prop
  | .value _ _ _ index | .sinceMarker _ _ _ index _ => Word.IsSigned index
  | .range _ _ _ first last _ => Word.IsSigned first ∧ Word.IsSigned last
  | _ => True

/-- A call of an open accessor whose conversation was `past` overflows in this operation: its names
were accepted and its first index overflows, or it is a marker read and the last that it was told is
the position of the marker, from which no room can be computed. -/
def Call.Overflows (a : Accessor) (past : List (Entry wire)) (o : Overflow) : Call → Prop
  | .value _ item topic index | .range _ item topic index _ _ =>
    a.Knows ⟨item, topic⟩ past ∧ Slot.Overflows index a.size ∧ o = .add
  | .sinceMarker _ item topic index _ =>
    a.Knows ⟨item, topic⟩ past ∧ (Slot.Overflows index a.size ∧ o = .add ∨
      ∃ slot position, Slot.Names index a.size slot ∧
        past.getLast? = some (told (.markerPosition (a.address item topic)) position) ∧
        RoomOverflows position slot a.margin o)
  | _ => False

variable {a : Accessor} {c : Call} {past : List (Entry wire)}

/-- The result of a call is an overflow when, by what it was told, the call overflows. -/
def Foretold {α : Type} (a : Accessor) (c : Call) (past : List (Entry wire))
    (out : Except Failure α × Accessor) : Prop :=
  ∀ o, out.1 = .error (.overflow o) ↔ c.Overflows a past o

theorem Foretold.of_fits {α : Type} {out : Except Failure α × Accessor} (hout : Fits out.1)
    (hpast : ∀ o, ¬ c.Overflows a past o) : a.Foretold c past out :=
  fun o => ⟨fun h => absurd h (hout o), fun h => absurd h (hpast o)⟩

/-- What never overflows may follow where the call does not overflow any more. -/
theorem follows_of_neverOverflows {α : Type} {m : Operation α} {s : Accessor}
    (hm : NeverOverflows m) (hpast : ∀ past o, ¬ c.Overflows a past o) :
    (m.start s).Follows (fun _ _ => True) (a.Foretold c) past :=
  ((hm s).follows past).mono (fun _ _ _ => trivial) fun past' _ h => .of_fits h (hpast past')

/-- A call whose names are refused does not overflow, so it may go on after they are accepted. -/
theorem follows_accepted {α : Type} {f : Nat → Operation α} {p : Pair} (hopen : a.closed = false)
    (hknows : ∀ past o, c.Overflows a past o → a.Knows p past)
    (hf : ∀ past, a.Accepts p past → ((f a.size).start (a.filled past)).Follows (fun _ _ => True)
      (a.Foretold c) past) :
    ((validate p.item p.topic >>= f).start a).Follows (fun _ _ => True) (a.Foretold c) [] := by
  refine follows_validated (c := c) hopen (fun _ _ _ => trivial) ?_ hf
  intro past fault _ ⟨axis, haxis⟩
  refine .of_fits (.fault fault) fun o h => ?_
  exact absurd (haxis.symm.trans (hknows past o h axis)) Bool.false_ne_true

/-- A first step that overflows as the call does, by its index. -/
theorem follows_lift_foretold {α β : Type} {x : Except Failure α} {f : α → Operation β}
    {s : Accessor} (hx : ∀ o, x = .error (.overflow o) ↔ c.Overflows a past o)
    (hf : ∀ b, x = .ok b → ((f b).start s).Follows (fun _ _ => True) (a.Foretold c) past) :
    ((lift x >>= f).start s).Follows (fun _ _ => True) (a.Foretold c) past := by
  refine follows_lift_bind (fun failure hfailure o => ?_) hf
  rw [← hx o, hfailure]
  simp

variable {item topic : String} {form : Form}

theorem foretold_value (hopen : a.closed = false) (hsize : Word.IsUnsigned a.size) (index : Int)
    (hindex : Word.IsSigned index) (hcall : ∀ past o, c.Overflows a past o ↔
      a.Knows ⟨item, topic⟩ past ∧ Slot.Overflows index a.size ∧ o = .add) :
    ((value form item topic index).start a).Follows (fun _ _ => True) (a.Foretold c) [] := by
  refine follows_accepted (p := ⟨item, topic⟩) hopen (fun _ _ h => ((hcall _ _).mp h).1)
    fun past hnames => ?_
  refine follows_lift_foretold (fun o => ?_) fun slot hslot => ?_
  · rw [Slot.ofIndex_eq_overflow_iff hindex hsize, hcall]
    exact (and_iff_right hnames.contains).symm
  · refine follows_of_neverOverflows ?_ fun _ _ h =>
      Slot.not_overflows_of_ofIndex hsize hslot index ((hcall _ _).mp h).2.1
    exact .bind .get fun _ => .bind (.query _) fun _ => .lift (fits_convert form _)

theorem foretold_range (hopen : a.closed = false) (hsize : Word.IsUnsigned a.size)
    {first last : Int} (hfirst : Word.IsSigned first) (hlast : Word.IsSigned last) (smart : Bool) :
    ((range form item topic first last smart).start a).Follows (fun _ _ => True)
      (a.Foretold (.range form item topic first last smart)) [] := by
  refine follows_accepted (p := ⟨item, topic⟩) hopen (fun _ _ h => h.1) fun past hnames => ?_
  refine follows_lift_foretold (fun o => ?_) fun r hr => ?_
  · rw [Slot.Range.ofIndices_eq_overflow_iff hfirst hlast hsize]
    exact (and_iff_right hnames.contains).symm
  · obtain ⟨-, -, hle, hword⟩ := Slot.Range.names_of_ofIndices hsize hr
    refine follows_of_neverOverflows ?_ fun _ o h => ?_
    · refine .bind .get fun a => ?_
      extract_lets read
      have hread : ∀ asked, NeverOverflows (read asked) := by
        intro asked
        cases asked with
        | none => exact .pure _
        | some r => exact .bind (.query _) fun _ => .lift (.mapM (fits_convert form) _)
      refine .ite (.bind (.query _) fun n => .bind (.lift ?_) hread) (.bind (.pure _) hread)
      rw [Slot.Range.occupied_eq hle hword]
      exact .ok _
    · have hover := (Slot.Range.ofIndices_eq_overflow_iff hfirst hlast hsize).mpr h.2
      rw [hr] at hover
      contradiction

/-! ### Marker reads -/

variable {index : Int} {policy : LossPolicy} {slot : Nat} {position : Int}

/-- A marker read overflows by its room only while the position of the marker is the last that it
was told. -/
theorem not_overflows_sinceMarker (hindex : ¬ Slot.Overflows index a.size)
    (hlast : ∀ position,
      past.getLast? ≠ some (told (.markerPosition (a.address item topic)) position))
    (o : Overflow) : ¬ (Call.sinceMarker form item topic index policy).Overflows a past o := by
  rintro ⟨-, h | ⟨slot, position, -, h, -⟩⟩
  · exact hindex h.1
  · exact hlast position h

theorem not_overflows_sinceMarker_concat (hindex : ¬ Slot.Overflows index a.size) {x : Entry wire}
    (hx : ∀ position, x ≠ told (.markerPosition (a.address item topic)) position) (o : Overflow) :
    ¬ (Call.sinceMarker form item topic index policy).Overflows a (past ++ [x]) o :=
  not_overflows_sinceMarker hindex (fun position h => hx position (by
    rw [List.getLast?_concat] at h
    exact Option.some.inj h)) o

/-- Once it was told the position of the marker, a marker read overflows by its room. -/
theorem overflows_sinceMarker_iff (hindex : ¬ Slot.Overflows index a.size)
    (hslot : Slot.Names index a.size slot) (hknows : a.Knows ⟨item, topic⟩
      (past ++ [told (.markerPosition (a.address item topic)) position])) (o : Overflow) :
    (Call.sinceMarker form item topic index policy).Overflows a
        (past ++ [told (.markerPosition (a.address item topic)) position]) o ↔
      RoomOverflows position slot a.margin o := by
  constructor
  · rintro ⟨-, h | ⟨slot', position', hslot', h, hroom⟩⟩
    · exact absurd h.1 hindex
    · rw [List.getLast?_concat] at h
      cases h
      have heq : slot' = slot := Int.ofNat.inj (hslot'.1.trans hslot.1.symm)
      rwa [heq] at hroom
  · intro hroom
    exact ⟨hknows, .inr ⟨slot, position, hslot, List.getLast?_concat .., hroom⟩⟩

theorem fits_markerAnswer (found : MarkerRead) :
    Fits (markerAnswer form item topic policy found) := by
  rw [markerAnswer]
  split
  · exact .fault _
  · exact .mapM (fits_convert form) _

theorem foretold_fetchBehind (hindex : ¬ Slot.Overflows index a.size) (room : Nat) (s : Accessor) :
    ((fetchBehind form item topic policy slot room a).start s).Follows (fun _ _ => True)
      (a.Foretold (.sinceMarker form item topic index policy)) past := by
  refine follows_query_bind trivial (fun status => ?_) fun (found : MarkerRead) => ?_
  · exact .of_fits (.fault _) (not_overflows_sinceMarker_concat hindex nofun)
  · rw [start_lift]
    exact .of_fits (fits_markerAnswer found) (not_overflows_sinceMarker_concat hindex nofun)

/-- From the position of the marker on a marker read overflows exactly when its room does. -/
theorem foretold_room (hindex : ¬ Slot.Overflows index a.size) (hword : slot < 0x8000000000000000)
    (hover : ∀ o, (Call.sinceMarker form item topic index policy).Overflows a past o ↔
      RoomOverflows position slot a.margin o) (s : Accessor) :
    ((do
      let expected ← Inquiry.lift (Word.checked (pending position slot))
      if expected < 0 then return []
      else
        let room ← Inquiry.lift (Word.checked (Word.addUnsigned expected.toNat a.margin))
        fetchBehind form item topic policy slot room a :
          Operation (List (Point form.Carrier))).start s).Follows (fun _ _ => True)
      (a.Foretold (.sinceMarker form item topic index policy)) past := by
  simp only [← room_eq_error_iff hword] at hover
  refine follows_lift_bind (fun failure hfailure o => ?_) fun expected hexpected => ?_
  · obtain ⟨o', hpending, rfl⟩ := Word.of_checked_eq_error hfailure
    simp [hover, hpending]
  · have hpending := Word.of_checked_eq_ok hexpected
    split
    next hneg =>
      refine .of_fits (.ok []) fun o h => ?_
      obtain ⟨hexpected, -⟩ : 0 ≤ expected ∧ _ := by simpa [hover, hpending] using h
      omega
    next hneg =>
      have hneg := Int.not_lt.mp hneg
      refine follows_lift_bind (fun failure hfailure o => ?_) fun room hroom => ?_
      · obtain ⟨o', hadd, rfl⟩ := Word.of_checked_eq_error hfailure
        simp [hover, hpending, hneg, hadd]
      · exact foretold_fetchBehind hindex room s

theorem foretold_readBehind (hnames : a.Accepts ⟨item, topic⟩ past)
    (hindex : ¬ Slot.Overflows index a.size) (hslot : Slot.Names index a.size slot)
    (hword : slot < 0x8000000000000000) :
    ((readBehind form item topic policy slot (a.filled past)).start (a.filled past)).Follows
      (fun _ _ => True) (a.Foretold (.sinceMarker form item topic index policy)) past := by
  rw [readBehind, address_filled]
  refine follows_query_bind trivial (fun status => ?_) fun (dirty : Bool) => ?_
  · exact .of_fits (.fault _) (not_overflows_sinceMarker_concat hindex fun _ h => by cases h)
  rw [start_refuseLoss_bind]
  split
  · exact .of_fits (.fault _) (not_overflows_sinceMarker_concat hindex fun _ h => by cases h)
  refine follows_query_bind trivial (fun status => ?_) fun (position : Int) => ?_
  · exact .of_fits (.fault _) (not_overflows_sinceMarker_concat hindex fun _ h => by cases h)
  refine foretold_room hindex hword ?_ (a.filled past)
  refine overflows_sinceMarker_iff hindex hslot fun axis => ?_
  have hlearn : a.members.learn (past ++ [told (.markerDirty (a.address item topic)) dirty] ++
      [told (.markerPosition (a.address item topic)) position]) = a.members.learn past :=
    (Members.learn_concat ..).trans (Members.learn_concat ..)
  rw [hlearn]
  exact hnames.contains axis

theorem foretold_sinceMarker (hopen : a.closed = false) (hsize : Word.IsUnsigned a.size)
    (hindex : Word.IsSigned index) :
    ((sinceMarker form item topic index policy).start a).Follows (fun _ _ => True)
      (a.Foretold (.sinceMarker form item topic index policy)) [] := by
  rw [sinceMarker_eq]
  refine follows_accepted (p := ⟨item, topic⟩) hopen (fun _ _ h => h.1) fun past hnames => ?_
  refine follows_lift_foretold (fun o => ?_) fun slot hslot => ?_
  · rw [Slot.ofIndex_eq_overflow_iff hindex hsize]
    refine ⟨fun h => ⟨hnames.contains, .inl h⟩, ?_⟩
    rintro ⟨-, h | ⟨slot, position, -, hlast, -⟩⟩
    · exact h
    · -- Nothing but names was asked for, so the last request was not for the marker.
      obtain ⟨axis, -, hrequest⟩ := hnames.isFill _ (List.mem_of_getLast? hlast)
      cases hrequest
  · rw [start_get_bind]
    exact foretold_readBehind hnames (Slot.not_overflows_of_ofIndex hsize hslot index)
      (Slot.names_of_ofIndex hsize hslot) (Slot.lt_of_ofIndex hslot)

/-! ### Calls -/

/-- What an open accessor was told decides whether its call overflows. -/
theorem Call.foretold_operation (hopen : a.closed = false) (hsize : Word.IsUnsigned a.size)
    (hc : c.HasWords) :
    (c.operation.start a).Follows (fun _ _ => True) (a.Foretold c) [] := by
  cases c with
  | value form item topic index => exact foretold_value hopen hsize index hc fun _ _ => Iff.rfl
  | latest form item topic =>
    refine foretold_value hopen hsize 0 (by decide) fun _ _ => ?_
    exact iff_of_false id fun h => absurd h.2.1.1 (Int.lt_irrefl 0)
  | range form item topic first last smart => exact foretold_range hopen hsize hc.1 hc.2 smart
  | sinceMarker form item topic index policy => exact foretold_sinceMarker hopen hsize hc
  | _ => exact follows_of_neverOverflows (Call.neverOverflows_operation rfl) fun _ _ => id

/-- **When a call overflows.** Take any call with word indices, any accessor whose capacity is a
word, and any engine. The call overflows in an operation exactly when the accessor is open and what
it was told during the call makes the call overflow in this operation: both names are accepted, and
either the first index is negative, the capacity is read as a negative word and their sum is below
all words; or it is a marker read, the last reply was the position of the marker, and the way from
there to the slot, the number of values on it, or this number with the margin is no word. -/
theorem Call.overflows_iff {σ : Type} (h : Handler wire σ) (s : σ) {a : Accessor}
    (hsize : Word.IsUnsigned a.size) {c : Call} (hc : c.HasWords) (o : Overflow) :
    ((c.operation.start a).run h s).1.1 = .error (.overflow o) ↔
      a.closed = false ∧ c.Overflows a ((c.operation.start a).log h s) o := by
  cases hclosed : a.closed with
  | true =>
    rw [Call.start_of_closed hclosed]
    refine iff_of_false (fun hover => ?_) fun hover => Bool.noConfusion hover.1
    cases c <;> cases hover
  | false =>
    have hforetold := ((Call.foretold_operation hclosed hsize hc).of_log h s).2 o
    rw [List.nil_append] at hforetold
    rw [hforetold]
    exact (and_iff_right rfl).symm

/-- The engine is told to put the marker so far back that the way to the oldest slot is no word. -/
theorem Call.overflows_iff_farMarker :
    let engine : Scripted :=
      { items := .ofNames ["X"]
        topics := .ofNames ["VOLUME"]
        position := -0x8000000000000000 }
    let a := ofSettings "MOCK" {}
    let c : Call := .sinceMarker .long "X" "VOLUME" (-1) .ignore
    (Word.IsUnsigned a.size ∧ c.HasWords) ∧
      ((c.operation.start a).run Scripted.reply engine).1.1 = .error (.overflow .sub) ∧
      c.Overflows a ((c.operation.start a).log Scripted.reply engine) .sub := by
  intro engine a c
  have hinput : Word.IsUnsigned a.size ∧ c.HasWords := ⟨by decide, (by decide : Word.IsSigned (-1))⟩
  have hresult : ((c.operation.start a).run Scripted.reply engine).1.1 =
      .error (.overflow .sub) := by decide +kernel
  exact ⟨hinput, hresult,
    ((Call.overflows_iff Scripted.reply engine hinput.1 hinput.2 .sub).mp hresult).2⟩

/-- With settings that are accepted, a marker read of a stream with one value overflows: the margin
alone fills a word. -/
theorem exists_overflow :
    let settings : Settings := { size := 2, margin := 0xFFFFFFFFFFFFFFFF }
    let e := Exchange.oneStream.after [.publish ⟨"X", "VOLUME"⟩ ⟨.long 7, ⟨0, 0⟩⟩]
    let c : Call := .sinceMarker .long "X" "VOLUME" 0 .fail
    (settings.validate = .ok () ∧ Word.IsUnsigned settings.margin ∧ c.HasWords) ∧
      ((c.operation.start (ofSettings "B" settings)).run (Exchange.handler "") e).1.1 =
        .error (.overflow .add) := by
  intro settings e c
  exact ⟨⟨rfl, by decide, (by decide : Word.IsSigned 0)⟩, by decide +kernel⟩

/-! ### Moderate engines -/

/-- The replies of an engine whose capacities are positive when read as signed words, and whose
markers stand at slots or just before the first one. -/
def Moderate : (r : Request) → r.Reply → Prop
  | .query (.blockSize _), (reply : Except Status Nat) =>
    ∀ size, reply = .ok size → size < 0x8000000000000000
  | .query (.markerPosition _), (reply : Except Status Int) =>
    ∀ position, reply = .ok position → -1 ≤ position ∧ position < 0x7FFFFFFFFFFFFFFF
  | _, _ => True

/-- The accessor remembers a capacity that is positive when read as a signed word, and its margin
is at most half of the unsigned words. -/
def IsModerate (a : Accessor) : Prop :=
  a.size < 0x8000000000000000 ∧ a.margin ≤ 0x8000000000000000

theorem not_roomOverflows {margin : Nat} (hslot : slot < 0x8000000000000000)
    (hposition : -1 ≤ position ∧ position < 0x7FFFFFFFFFFFFFFF)
    (hmargin : margin ≤ 0x8000000000000000) (o : Overflow) :
    ¬ RoomOverflows position slot margin o := by
  unfold RoomOverflows Word.IsSigned
  omega

/-- What a moderate accessor was told by a moderate engine makes no call overflow. -/
theorem IsModerate.not_overflows (ha : a.IsModerate)
    (hpast : ∀ x ∈ past, Moderate x.request x.reply) (c : Call) (o : Overflow) :
    ¬ c.Overflows a past o := by
  have hindex (index : Int) : ¬ Slot.Overflows index a.size := fun h =>
    absurd ha.1 (Nat.not_lt.mpr h.2.1)
  cases c with
  | value _ _ _ index | range _ _ _ index => exact fun h => hindex index h.2.1
  | sinceMarker form item topic index policy =>
    rintro ⟨-, h | ⟨slot, position, hslot, hlast, hroom⟩⟩
    · exact hindex index h.1
    · have hposition := hpast _ (List.mem_of_getLast? hlast) position rfl
      exact not_roomOverflows (Nat.lt_trans hslot.2 ha.1) hposition ha.2 o hroom
  | _ => exact id

namespace Lifetime

variable {σ : Type} {h : Handler wire σ} {w : Lifetime σ}

theorem isModerate_call (hmoderate : ∀ r s, Moderate r (h r s).1) (hw : w.accessor.IsModerate)
    (c : Call) : (w.call h c).accessor.IsModerate := by
  have htold : Told Moderate (c.MayAsk w.accessor.name)
      (fun x => x.name = w.accessor.name ∧ x.IsModerate) w.accessor.name :=
    ⟨fun _ hq => .inl hq, fun _ hx => hx.1, fun _ _ _ hx _ => hx,
      fun _ size hx hsize => ⟨hx.1, hsize size rfl, hx.2.2⟩⟩
  have hkeeps := c.keeps_operation htold (fun _ _ _ hx => hx) w.accessor ⟨rfl, hw⟩
  exact (hkeeps.run (J := fun _ => True) (fun r s _ _ => ⟨hmoderate r s, trivial⟩) trivial).1.2

theorem isModerate_after (hmoderate : ∀ r s, Moderate r (h r s).1) (hw : w.accessor.IsModerate)
    (calls : List Call) : (w.after h calls).accessor.IsModerate := by
  induction calls generalizing w with
  | nil => exact hw
  | cons c calls ih => exact ih (isModerate_call hmoderate hw c)

/-- Between a moderate engine and a moderate accessor no call overflows, whatever was called
before. -/
theorem never_overflows (h : Handler wire σ) (hmoderate : ∀ r s, Moderate r (h r s).1) (s : σ)
    {a : Accessor} (ha : a.IsModerate) (calls : List Call) {c : Call} (hc : c.HasWords)
    (o : Overflow) : ((start a s).after h calls).result h c ≠ .error (.overflow o) := by
  intro hover
  have hw := isModerate_after hmoderate (w := start a s) ha calls
  have hsize : Word.IsUnsigned ((start a s).after h calls).accessor.size :=
    Nat.lt_trans hw.1 (by decide)
  obtain ⟨-, hover⟩ := (Call.overflows_iff h _ hsize hc o).mp hover
  exact hw.not_overflows (fun x hx => reply_of_mem_log hmoderate hx) c o hover

end Lifetime

end Accessor

end TickerTape
