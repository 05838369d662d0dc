import TickerTape.Proofs.FailedCalls

/-!
# A block as its user thinks of it

A user thinks of a block as a capacity, two sets of names, and for each pair of names a window of
the most recent records: it starts empty when the pair comes into being, takes each record that is
published, and is cut to the capacity. This module follows such a reference along a run of an
accessor on the exchange. While the block gets its capacity and its names only through the accessor,
the exchange and what the accessor remembers agree with the reference.

## Main definitions

* `TickerTape.Reference` — a capacity, names and windows, with
  `TickerTape.Reference.step` — what a turn makes of them.
* `TickerTape.Reference.Mirrors` — a block and its accessor agree with a reference.
* `TickerTape.Reference.Tracks` — the agreement along a run.

## Main results

* `TickerTape.Reference.Mirrors.write`, `TickerTape.Reference.Mirrors.resize`,
  `TickerTape.Reference.Mirrors.add`, `TickerTape.Reference.Mirrors.remove` — changes of a block.
* `TickerTape.Reference.Mirrors.call` — calls that succeed.
* `TickerTape.Reference.Tracks.after` — whole runs.
-/

namespace TickerTape

open Engine Exchange Inquiry Accessor

/-- What a block is meant to hold. Only the windows of pairs of its names matter. -/
structure Reference where
  size : Nat
  stamped : Bool
  names : Axis → NameSet
  window : Pair → List Record

namespace Reference

/-! ### Changes -/

/-- A block that was just created. -/
def new (s : Settings) : Reference := ⟨s.size, s.stamped, fun _ => ∅, fun _ => []⟩

/-- Whether the block has both names of a pair. -/
def has (m : Reference) (p : Pair) : Bool :=
  (m.names .item).contains p.item && (m.names .topic).contains p.topic

/-- A record becomes the most recent one in the window of its pair. -/
def publish (m : Reference) (p : Pair) (r : Record) : Reference :=
  { m with window := fun q => if q = p then (r :: m.window p).take m.size else m.window q }

/-- All windows are cut to a new capacity. -/
def resize (m : Reference) (size : Nat) : Reference :=
  { m with size, window := fun p => (m.window p).take size }

def setNames (m : Reference) (axis : Axis) (names : NameSet) : Reference :=
  { m with names := fun kind => if kind = axis then names else m.names kind }

/-- The windows of the pairs that a new name makes are empty. -/
def add (m : Reference) (axis : Axis) (name : String) : Reference :=
  { m.setNames axis ((m.names axis).add name) with
    window := fun p => if m.has p then m.window p else [] }

def remove (m : Reference) (axis : Axis) (name : String) : Reference :=
  m.setNames axis ((m.names axis).remove name)

/-- What a call makes of the block when it succeeds. -/
def apply (m : Reference) : Call → Reference
  | .resize size => m.resize size
  | .addMember axis name => m.add axis name
  | .removeMember axis name => m.remove axis name
  | _ => m

/-- What a turn makes of the block: a record is published, or a call succeeds. -/
def step {block : String} (m : Reference) (w : Client) : Client.Turn block → Reference
  | .event (.publish p r) _ => m.publish p r
  | .event _ _ => m
  | .call draw c =>
    match ((c.operation.start w.accessor).run (handler draw) w.exchange).1.1 with
    | .ok _ => m.apply c
    | .error _ => m

/-- What a sequence of turns makes of the block. -/
def after {block : String} (m : Reference) (w : Client) : List (Client.Turn block) → Reference
  | [] => m
  | turn :: turns => (m.step w turn).after (w.step turn) turns

@[simp] theorem names_setNames (m : Reference) (axis : Axis) (names : NameSet) :
    (m.setNames axis names).names axis = names := if_pos rfl

@[simp] theorem names_other_setNames (m : Reference) (axis : Axis) (names : NameSet) :
    (m.setNames axis names).names axis.other = m.names axis.other := if_neg axis.other_ne

end Reference

/-! ### Streams of a changed block -/

namespace Engine.Block

variable {b b' : Block} {p q : Pair} {s : Stream}

/-- A block with the names of another one gives the streams that it holds. -/
theorem stream_eq_ok_of_names (hnames : ∀ axis, b'.names axis = b.names axis)
    (hs : b'.stream p = .ok s) : b'.streams.get? p = some s ∧
      ∀ t, b.streams.get? p = some t → b.stream p = .ok t := by
  obtain ⟨hitem, htopic, hget⟩ := stream_eq_ok_iff.mp hs
  have hitems : b'.items = b.items := hnames .item
  have htopics : b'.topics = b.topics := hnames .topic
  exact ⟨hget, fun t ht => stream_eq_ok_iff.mpr ⟨hitems ▸ hitem, htopics ▸ htopic, ht⟩⟩

theorem of_stream_resize {size : Nat} (hs : (b.resize size).stream p = .ok s) :
    ∃ t, b.stream p = .ok t ∧ s = t.truncate size := by
  obtain ⟨hget, hold⟩ := stream_eq_ok_of_names (names_resize b size) hs
  obtain ⟨t, ht, rfl⟩ : ∃ t, b.streams.get? p = some t ∧ t.truncate size = s := by
    simpa [resize] using hget
  exact ⟨t, hold t ht, rfl⟩

theorem of_stream_replace {t : Stream}
    (hs : stream { b with streams := b.streams.insert q t } p = .ok s) :
    p = q ∧ s = t ∨ p ≠ q ∧ b.stream p = .ok s := by
  obtain ⟨hget, hold⟩ := stream_eq_ok_of_names (names_streams b _) hs
  rw [Table.get?_insert] at hget
  split at hget
  next hp => exact .inl ⟨hp, (Option.some.inj hget).symm⟩
  next hp => exact .inr ⟨hp, hold s hget⟩

theorem of_stream_write {r : Record} (hs : (b.write q r).stream p = .ok s) :
    ∃ t, b.stream p = .ok t ∧
      s.records = if p = q then (r :: t.records).take b.size else t.records := by
  obtain ⟨-, hold⟩ := stream_eq_ok_of_names (names_write b q r) hs
  rw [write] at hs
  split at hs
  next t ht =>
    rcases of_stream_replace hs with ⟨rfl, rfl⟩ | ⟨hp, hs⟩
    · exact ⟨t, hold t ht, by rw [if_pos rfl, Stream.records_push]⟩
    · exact ⟨s, hs, by rw [if_neg hp]⟩
  next hnone =>
    refine ⟨s, hs, ?_⟩
    rw [if_neg]
    rintro rfl
    rw [(stream_eq_ok_iff.mp hs).2.2] at hnone
    contradiction

theorem of_stream_remove {axis : Axis} {name : String} (hremove : b.remove axis name = .ok b')
    (hs : b'.stream p = .ok s) : b.stream p = .ok s := by
  obtain ⟨hitem, htopic, hget⟩ := stream_eq_ok_iff.mp hs
  rw [(of_remove_eq_ok hremove).2.2.2] at hget
  split at hget
  · contradiction
  · have hsub := contains_of_remove hremove
    exact stream_eq_ok_iff.mpr ⟨hsub .item _ hitem, hsub .topic _ htopic, hget⟩

end Engine.Block

/-! ### Agreement of a block -/

namespace Reference

/-- The capacity, the names and the windows of a block are those of a reference, and its accessor
knows the capacity. -/
structure Mirrors (m : Reference) (a : Accessor) (b : Block) : Prop where
  size_eq : a.size = m.size
  stamped_eq : a.stamped = m.stamped
  capacity_eq : b.size = m.size
  recorded_eq : b.stamped = m.stamped
  names_eq : ∀ axis, b.names axis = m.names axis
  window_eq : ∀ p s, b.stream p = .ok s → s.records = m.window p

namespace Mirrors

variable {m : Reference} {a : Accessor} {b : Block}

theorem of_eq (h : m.Mirrors a b) {a' : Accessor} (hsize : a'.size = a.size)
    (hstamped : a'.stamped = a.stamped) : m.Mirrors a' b :=
  { h with size_eq := hsize.trans h.size_eq, stamped_eq := hstamped.trans h.stamped_eq }

theorem has_eq (h : m.Mirrors a b) (p : Pair) :
    m.has p = true ↔ b.items.contains p.item = true ∧ b.topics.contains p.topic = true := by
  have hitems : b.items = m.names .item := h.names_eq .item
  have htopics : b.topics = m.names .topic := h.names_eq .topic
  rw [has, Bool.and_eq_true, hitems, htopics]

theorem write (h : m.Mirrors a b) (p : Pair) (r : Record) :
    (m.publish p r).Mirrors a (b.write p r) where
  size_eq := h.size_eq
  stamped_eq := h.stamped_eq
  capacity_eq := (Block.size_write b p r).trans h.capacity_eq
  recorded_eq := (Block.stamped_write b p r).trans h.recorded_eq
  names_eq axis := (Block.names_write b p r axis).trans (h.names_eq axis)
  window_eq q s hs := by
    obtain ⟨t, ht, hrecords⟩ := Block.of_stream_write hs
    rw [hrecords, h.window_eq q t ht, h.capacity_eq, publish]
    dsimp only
    split
    next hq => rw [hq]
    next => rfl

/-- A marker read leaves the windows. -/
theorem replace (h : m.Mirrors a b) {p : Pair} {s s' : Stream} (hs : b.stream p = .ok s)
    (hrecords : s'.records = s.records) :
    m.Mirrors a { b with streams := b.streams.insert p s' } where
  size_eq := h.size_eq
  stamped_eq := h.stamped_eq
  capacity_eq := h.capacity_eq
  recorded_eq := h.recorded_eq
  names_eq axis := (Block.names_streams b _ axis).trans (h.names_eq axis)
  window_eq q t ht := by
    rcases Block.of_stream_replace ht with ⟨rfl, rfl⟩ | ⟨-, ht⟩
    · rw [hrecords, h.window_eq q s hs]
    · exact h.window_eq q t ht

theorem resize (h : m.Mirrors a b) (size : Nat) :
    (m.resize size).Mirrors { a with size } (b.resize size) where
  size_eq := rfl
  stamped_eq := h.stamped_eq
  capacity_eq := rfl
  recorded_eq := h.recorded_eq
  names_eq axis := (Block.names_resize b size axis).trans (h.names_eq axis)
  window_eq p s hs := by
    obtain ⟨t, ht, rfl⟩ := Block.of_stream_resize hs
    rw [Stream.records_truncate, h.window_eq p t ht]
    rfl

/-- The names of one kind are changed in the same way. -/
theorem names_eq_setNames (h : m.Mirrors a b) {b' : Block} {axis : Axis} (f : NameSet → NameSet)
    (hnames : b'.names axis = f (b.names axis))
    (hother : b'.names axis.other = b.names axis.other) (kind : Axis) :
    b'.names kind = (m.setNames axis (f (m.names axis))).names kind := by
  rcases axis.eq_or_eq_other kind with rfl | rfl
  · rw [hnames, h.names_eq, names_setNames]
  · rw [hother, h.names_eq, names_other_setNames]

theorem add (h : m.Mirrors a b) (hb : b.Sound) (axis : Axis) (name : String) :
    (m.add axis name).Mirrors a (b.add axis name) where
  size_eq := h.size_eq
  stamped_eq := h.stamped_eq
  capacity_eq := (Block.size_add b axis name).trans h.capacity_eq
  recorded_eq := (Block.stamped_add b axis name).trans h.recorded_eq
  names_eq := h.names_eq_setNames (·.add name) (Block.names_add b axis name).1
    (Block.names_add b axis name).2
  window_eq p s hs := by
    rw [Reference.add]
    dsimp only
    rcases hb.of_stream_add hs with hold | ⟨hnew, rfl⟩
    · obtain ⟨hitem, htopic, -⟩ := Block.stream_eq_ok_iff.mp hold
      rw [if_pos ((h.has_eq p).mpr ⟨hitem, htopic⟩), h.window_eq p s hold]
    · rw [if_neg fun hp => hnew ((h.has_eq p).mp hp), Stream.records_empty]

theorem remove (h : m.Mirrors a b) {axis : Axis} {name : String} {b' : Block}
    (hremove : b.remove axis name = .ok b') : (m.remove axis name).Mirrors a b' where
  size_eq := h.size_eq
  stamped_eq := h.stamped_eq
  capacity_eq := (Block.of_remove_eq_ok hremove).2.2.1.trans h.capacity_eq
  recorded_eq := (Block.stamped_of_remove hremove).trans h.recorded_eq
  names_eq := h.names_eq_setNames (·.remove name) (Block.of_remove_eq_ok hremove).1
    (Block.of_remove_eq_ok hremove).2.1
  window_eq p s hs := h.window_eq p s (Block.of_stream_remove hremove hs)

/-- Requests that spare a block and leave its capacity leave its agreement with a reference. -/
theorem move (h : m.Mirrors a b) {draw block : String} {r : Request} {e e' : Exchange}
    (hmove : Move draw e r e') (hr : r.Spares block)
    (hsize : ∀ size, r ≠ .query (.resizeBlock block size)) (hb : e.block block = .ok b) :
    ∃ b', e'.block block = .ok b' ∧ m.Mirrors a b' :=
  block_move hmove hr hb h (fun size hresize => absurd hresize (hsize size))
    fun _ _ _ hs hrecords => h.replace hs hrecords

end Mirrors

end Reference

/-! ### Agreement along a run -/

/-- Others leave the capacity of the block. -/
def Accessor.Client.Turn.KeepsSize {block : String} : Client.Turn block → Prop
  | .event (.request _ r) _ => ∀ size, r ≠ .query (.resizeBlock block size)
  | _ => True

/-- Reads and marker reads spare a block and leave its capacity. -/
theorem Engine.Request.spares_of_leavesShape {r : Request} (hr : r.leavesShape = true)
    (block : String) : r.Spares block ∧ ∀ size, r ≠ .query (.resizeBlock block size) := by
  refine ⟨⟨?_, fun axis name => ⟨?_, ?_⟩⟩, fun size => ?_⟩
  all_goals
    rintro rfl
    contradiction

/-- No call changes whether an accessor asks for times. -/
theorem Accessor.Call.stamped_run {σ : Type} (h : Handler wire σ) (c : Call) (a : Accessor)
    (s : σ) : ((c.operation.start a).run h s).1.2.stamped = a.stamped :=
  c.run_frame h (P := fun x => x.stamped = a.stamped) (fun _ _ hx => hx) (fun _ _ hx => hx)
    (fun _ _ _ hx => hx) rfl s

namespace Reference

section Calls

variable {m : Reference} {draw : String} {e e' : Exchange} {a a' : Accessor} {b : Block}

/-- Calls that change neither capacity nor names leave the agreement of a block. -/
theorem Mirrors.call_of_leavesShape (hm : m.Mirrors a b) (hb : e.block a.name = .ok b)
    {c : Call} (hc : c.reshapes = false) {result : Except Failure c.Answer}
    (hout : (c.operation.start a).run (handler draw) e = ((result, a'), e')) :
    ∃ b', e'.block a.name = .ok b' ∧ m.Mirrors a' b' := by
  have hkept := (c.run_keeps draw a
    (J := fun x => ∃ b', x.block a.name = .ok b' ∧ m.Mirrors a b') (fun r x hr hx => by
      obtain ⟨b', hb', hm'⟩ := hx
      obtain ⟨hspares, hsize⟩ :=
        Request.spares_of_leavesShape (Call.leavesShape_of_mayAsk hc hr) a.name
      exact hm'.move (move_handler draw r x) hspares hsize hb') ⟨b, hb, hm⟩).2
  have hremembered : Memory.size.Right a (e.blockD a.name) := by
    rw [blockD_of_block_eq_ok hb]
    exact hm.size_eq.trans hm.capacity_eq.symm
  have hright := Call.right_of_leavesShape hc (truthful_handler draw a.name) hremembered
  have hstamped := c.stamped_run (handler draw) a e
  rw [hout] at hkept hright hstamped
  obtain ⟨b', hb', hm'⟩ := hkept
  rw [blockD_of_block_eq_ok hb'] at hright
  have hsize : a'.size = a.size := by
    rw [hm'.size_eq, ← hm'.capacity_eq]
    exact hright
  exact ⟨b', hb', hm'.of_eq hsize hstamped⟩

theorem Mirrors.addMember (hm : m.Mirrors a b) (hsound : b.Sound) (hopen : a.closed = false)
    (hb : e.block a.name = .ok b) {axis : Axis} {name : String} {answer : Unit}
    (hout : ((Accessor.addMember axis name).start a).run (handler draw) e =
      ((.ok answer, a'), e')) :
    ∃ b', e'.block a.name = .ok b' ∧ (m.add axis name).Mirrors a' b' := by
  cases changeMembers_outcome hopen hb (changes_addMember hb name) hout with
  | changed _ hmade =>
    subst hmade
    exact ⟨_, block_setBlock_self (block_eq_ok_iff.mp hb).1,
      (hm.add hsound axis name).of_eq rfl rfl⟩

theorem Mirrors.removeMember (hm : m.Mirrors a b) (hopen : a.closed = false)
    (hb : e.block a.name = .ok b) {axis : Axis} {name : String} {answer : Unit}
    (hout : ((Accessor.removeMember axis name).start a).run (handler draw) e =
      ((.ok answer, a'), e')) :
    ∃ b', e'.block a.name = .ok b' ∧ (m.remove axis name).Mirrors a' b' := by
  cases changeMembers_outcome hopen hb (changes_removeMember hb name) hout with
  | changed _ hremove =>
    exact ⟨_, block_setBlock_self (block_eq_ok_iff.mp hb).1, (hm.remove hremove).of_eq rfl rfl⟩

/-- A call that succeeds makes of the block what it makes of the reference. -/
theorem Mirrors.call (hm : m.Mirrors a b) (hsound : b.Sound) (hopen : a.closed = false)
    (hb : e.block a.name = .ok b) {c : Call} {answer : c.Answer}
    (hout : (c.operation.start a).run (handler draw) e = ((.ok answer, a'), e'))
    (hopen' : a'.closed = false) : ∃ b', e'.block a.name = .ok b' ∧ (m.apply c).Mirrors a' b' := by
  have hconn := (block_eq_ok_iff.mp hb).1
  cases c with
  | close =>
    have hclosed : ((Call.close.operation.start a).run (handler draw) e).1.2.closed = true :=
      closed_of_run_close hconn
    rw [hout] at hclosed
    exact absurd hclosed (Bool.eq_false_iff.mp hopen')
  | resize size =>
    obtain ⟨x, hrun⟩ | ⟨c, hc, hrun⟩ := run_resize draw e a size
    all_goals
      rw [Call.operation, hrun] at hout
      cases hout
    obtain rfl : b = c := Except.ok.inj (hb.symm.trans hc)
    exact ⟨_, block_setBlock_self hconn, hm.resize size⟩
  | addMember axis name => exact hm.addMember hsound hopen hb hout
  | removeMember axis name => exact hm.removeMember hopen hb hout
  | _ => exact hm.call_of_leavesShape hb rfl hout

end Calls

/-- An accessor that is open and its block agree with a reference. -/
structure Tracks (block : String) (m : Reference) (w : Client) : Prop where
  faithful : w.Faithful block
  sound : w.exchange.Sound
  mirrors : w.accessor.closed = false →
    ∃ b, w.exchange.block block = .ok b ∧ m.Mirrors w.accessor b

namespace Tracks

variable {block : String} {m : Reference} {w : Client}

/-- An accessor that was just created has an empty block. -/
theorem create {draw : String} {s : Settings} {e e' : Exchange} {a : Accessor} (he : e.Sound)
    (h : (Accessor.create s).run (handler draw) e = (.ok a, e')) :
    Tracks a.name (.new s) ⟨a, e'⟩ := by
  refine ⟨Client.faithful_create h, ?_, fun _ => ?_⟩
  · exact he.move (Client.of_create_eq_ok h).2.2.2
  · obtain ⟨rfl, hconn, rfl, -⟩ := Client.of_create_eq_ok h
    refine ⟨_, block_setBlock_self hconn, rfl, rfl, rfl, rfl, fun axis => ?_, fun p t ht => ?_⟩
    · cases axis <;> rfl
    · have hitem := (Block.stream_eq_ok_iff.mp ht).1
      contradiction

theorem event (h : Tracks block m w) {event : Event} (hevent : event.Spares block)
    (hsize : (Client.Turn.event event hevent).KeepsSize) :
    Tracks block (m.step w (.event event hevent)) (w.step (.event event hevent)) := by
  refine ⟨h.faithful.step _, h.sound.step event, fun hopen => ?_⟩
  obtain ⟨b, hb, hm⟩ := h.mirrors hopen
  cases event with
  | connect connected =>
    exact ⟨b, block_eq_ok_iff.mpr ⟨hevent, (block_eq_ok_iff.mp hb).2⟩, hm⟩
  | publish p r => exact ⟨_, block_publish hb p r, hm.write p r⟩
  | request draw r => exact hm.move (move_handler draw r w.exchange) hevent hsize hb

theorem call (h : Tracks block m w) (draw : String) (c : Call) :
    Tracks block (m.step w (.call draw c : Client.Turn block))
      (w.step (.call draw c : Client.Turn block)) := by
  refine ⟨h.faithful.call draw c, h.sound.call c draw w.accessor, fun hopen => ?_⟩
  have hbefore : w.accessor.closed = false := by
    refine Bool.eq_false_iff.mpr fun hclosed => ?_
    rw [Client.step, Call.start_of_closed hclosed] at hopen
    exact Bool.eq_false_iff.mp hopen hclosed
  obtain ⟨b, hb, hm⟩ := h.mirrors hbefore
  rw [← h.faithful.name_eq] at hb ⊢
  cases hout : (c.operation.start w.accessor).run (handler draw) w.exchange with
  | mk out e' =>
    obtain ⟨x | answer, a'⟩ := out
    · obtain ⟨rfl, hfilled⟩ := Call.of_error h.sound hout
      simp only [Client.step, Reference.step, hout] at hopen ⊢
      refine ⟨b, hb, hm.of_eq ?_ ?_⟩
      all_goals rw [hfilled.eq_with]
    · simp only [Client.step, Reference.step, hout] at hopen ⊢
      exact hm.call (h.sound.of_block_eq_ok hb) hbefore hb hout hopen

theorem step (h : Tracks block m w) {turn : Client.Turn block} (hturn : turn.KeepsSize) :
    Tracks block (m.step w turn) (w.step turn) := by
  cases turn with
  | call draw c => exact h.call draw c
  | event event hevent => exact h.event hevent hturn

theorem after (h : Tracks block m w) {turns : List (Client.Turn block)}
    (hturns : ∀ turn ∈ turns, turn.KeepsSize) : Tracks block (m.after w turns) (w.after turns) := by
  induction turns generalizing m w with
  | nil => exact h
  | cons turn turns ih =>
    exact ih (h.step (hturns turn List.mem_cons_self))
      fun turn' hturn => hturns turn' (List.mem_cons_of_mem _ hturn)

end Tracks

end Reference

end TickerTape
