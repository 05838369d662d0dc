import TickerTape.Proofs.Reference
import TickerTape.Proofs.SlotRanges

/-!
# Reads answer from the reference

What a read of a block returns is told by its reference alone: whether the names are known, the slot
that an index names, and the records of the window in these slots, each as the reader wants it. No
read changes anything.

## Main definitions

* `TickerTape.Form.ofStored` — what a reader makes of a stored value.
* `TickerTape.Reference.value`, `TickerTape.Reference.range`, `TickerTape.Reference.occupancy` —
  the expected answers.
* `TickerTape.Accessor.Answers` — an operation answers and leaves everything as it is.
* `TickerTape.Reference.Agrees` — an open accessor and its block agree with a reference.

## Main results

* `TickerTape.Reference.Agrees.answers_validate`, `TickerTape.Reference.Agrees.ofIndex_eq` — what an
  accessor accepts before it asks for data.
* `TickerTape.Reference.mapM_give_bind_convert` — what a reader makes of the records of a stream.
* `TickerTape.Reference.Agrees.answers_value`, `TickerTape.Reference.Agrees.answers_range`,
  `TickerTape.Reference.Agrees.answers_occupancy` — reads of a block that agrees with a reference.
* `TickerTape.Reference.reads_refine` — reads after whole runs.
-/

namespace TickerTape

open Engine Exchange Inquiry Accessor

/-! ### Expected answers -/

/-- What a reader makes of a stored value: every value can be read as text, and a long value as a
double. A reader of any value gets text. -/
def Form.ofStored : (form : Form) → Value → Option form.Carrier
  | .long, .long n => some n
  | .double, .double x => some x
  | .double, .long n => some (Float.ofInt n)
  | .text, v => some v.render
  | .any, v => some (.text v.render)
  | _, _ => none

namespace Reference

/-- The names of a stream are known. Without topics no item is. -/
def check (m : Reference) (p : Pair) : Except Failure Unit :=
  if ¬ (m.names .item).contains p.item ∨ (m.names .topic).isEmpty then
    .error (.fault (.unknownItem p.item))
  else if ¬ (m.names .topic).contains p.topic then .error (.fault (.unknownTopic p.topic))
  else .ok ()

/-- The slot that an index names: from the recent end or, if it is negative, from the other one. -/
def slot (m : Reference) (index : Int) : Except Failure Nat :=
  if -m.size ≤ index ∧ index < m.size then
    .ok (if index < 0 then index + m.size else index).toNat
  else .error (.fault (.outOfRange index m.size))

/-- The slots are those of the capacity. -/
theorem lt_size_of_slot {m : Reference} {index : Int} {slot : Nat} (h : m.slot index = .ok slot) :
    slot < m.size := by
  rw [Reference.slot] at h
  split at h
  · cases h
    split
    all_goals omega
  · contradiction

/-- A record as a reader wants it, with its time if the block records times. -/
def point (m : Reference) (form : Form) (r : Record) : Except Failure (Point form.Carrier) :=
  match form.ofStored r.value with
  | some value => .ok ⟨value, if m.stamped then some r.stamp else none⟩
  | none => .error (.fault (.callFailed .dataType))

/-- The record in a slot, if there is one. -/
def pointAt (m : Reference) (form : Form) (p : Pair) (slot : Nat) :
    Except Failure (Point form.Carrier) :=
  match (m.window p)[slot]? with
  | some r => m.point form r
  | none => .error (.fault (.callFailed .getData))

/-- The records in the slots from `start` to `stop`, as far as there are any. -/
def pointsIn (m : Reference) (form : Form) (p : Pair) (start stop : Nat) :
    Except Failure (List (Point form.Carrier)) :=
  (((m.window p).take (stop + 1)).drop start).mapM (m.point form)

/-- Beyond the records there are none. -/
theorem pointsIn_of_length_le (m : Reference) (form : Form) {p : Pair} {start : Nat} (stop : Nat)
    (h : (m.window p).length ≤ start) : m.pointsIn form p start stop = .ok [] := by
  have hnone : ((m.window p).take (stop + 1)).drop start = [] :=
    List.drop_eq_nil_of_le (Nat.le_trans (List.length_take_le' _ _) h)
  rw [pointsIn, hnone]
  rfl

/-- A range may be cut to the slots that hold a record. -/
theorem pointsIn_min (m : Reference) (form : Form) {p : Pair} (start stop : Nat)
    (h : 0 < (m.window p).length) :
    m.pointsIn form p start (min stop ((m.window p).length - 1)) =
      m.pointsIn form p start stop := by
  have htake : (m.window p).take (min stop ((m.window p).length - 1) + 1) =
      (m.window p).take (stop + 1) := by
    rw [List.take_eq_take_iff]
    omega
  rw [pointsIn, htake, pointsIn]

/-- The record in the slot that an index names. -/
def value (m : Reference) (form : Form) (p : Pair) (index : Int) :
    Except Failure (Point form.Carrier) := do
  m.check p
  let slot ← m.slot index
  m.pointAt form p slot

/-- The records in the slots of a range, whose end must not be more recent than its start. -/
def range (m : Reference) (form : Form) (p : Pair) (first last : Int) :
    Except Failure (List (Point form.Carrier)) := do
  m.check p
  let start ← m.slot first
  let stop ← m.slot last
  if stop < start then .error (.fault (.outOfRange last m.size))
  else m.pointsIn form p start stop

/-- The number of records. -/
def occupancy (m : Reference) (p : Pair) : Except Failure Nat := do
  m.check p
  return (m.window p).length

end Reference

/-! ### Operations that answer -/

namespace Accessor

variable {α β : Type} {draw : String} {a : Accessor} {e : Exchange}

variable (draw a e) in
/-- In this state an operation answers `x`, and leaves the accessor and the exchange as they are. -/
def Answers (op : Operation α) (x : Except Failure α) : Prop :=
  (op.start a).run (handler draw) e = ((x, a), e)

namespace Answers

theorem bind {op : Operation α} {f : α → Operation β} {x : Except Failure α}
    {y : α → Except Failure β} (hop : Answers draw a e op x)
    (hf : ∀ v, x = .ok v → Answers draw a e (f v) (y v)) :
    Answers draw a e (op >>= f) (x >>= y) := by
  rw [Answers, start_bind, Program.run_bind, hop]
  cases x with
  | error fault => rfl
  | ok v => exact hf v rfl

/-- A step that fails ends an operation. -/
theorem error_bind {op : Operation α} {f : α → Operation β} {failure : Failure}
    (hop : Answers draw a e op (.error failure)) :
    Answers draw a e (op >>= f) (.error failure) :=
  hop.bind (y := fun _ => .error failure) nofun

theorem lift (x : Except Failure α) : Answers draw a e (Inquiry.lift x) x := by
  rw [Answers, start_lift, Program.run_done]

theorem lift_ok_bind {f : α → Operation β} {v : α} {x : Except Failure β}
    (hf : Answers draw a e (f v) x) : Answers draw a e (Inquiry.lift (.ok v) >>= f) x := hf

theorem get_bind {f : Accessor → Operation α} {x : Except Failure α}
    (hf : Answers draw a e (f a) x) : Answers draw a e (get >>= f) x := hf

theorem ensureOpen_bind {f : Unit → Operation α} {x : Except Failure α} (hopen : a.closed = false)
    (hf : Answers draw a e (f ()) x) : Answers draw a e (ensureOpen >>= f) x := by
  rw [Answers, start_ensureOpen_bind, hopen, if_neg Bool.false_ne_true]
  exact hf

/-- A request that leaves the exchange as it is. -/
theorem query {q : Query} {x : Except Status q.Answer}
    (hq : e.perform draw q = x.map fun answer => (answer, e)) :
    Answers draw a e (Inquiry.query q) (x.mapError fun status => .fault (.ofStatus status)) := by
  cases x with
  | error status => exact run_query_of_error (handler_of_perform_eq_error hq)
  | ok answer => exact run_query_of_ok (handler_of_perform_eq_ok hq)

/-- A request that reads a block. -/
theorem query_block (draw : String) {b : Block} (hb : e.block a.name = .ok b) {q : Query}
    (f : Block → Except Status q.Answer)
    (hq : serve draw q = readBlock a.name f) :
    Answers draw a e (Inquiry.query q)
      ((f b).mapError fun status => .fault (.ofStatus status)) := by
  refine .query ?_
  rw [perform, hq, outcome_readBlock, hb]
  change (f b >>= fun answer => pure (answer, e)) = _
  cases f b with
  | error status => rfl
  | ok answer => rfl

end Answers

end Accessor

/-! ### Names -/

/-- A fault, unless something is so. -/
def Fault.unless (f : Fault) (so : Bool) : Except Failure Unit :=
  if so then .ok () else .error (.fault f)

theorem Fault.unless_eq_ok_iff {f : Fault} {so : Bool} : f.unless so = .ok () ↔ so = true := by
  cases so with
  | false => exact ⟨nofun, nofun⟩
  | true => exact ⟨fun _ => rfl, fun _ => rfl⟩

namespace Members

theorem setNames_self (m : Members) (axis : Axis) : m.setNames axis (m.names axis) = m := by
  cases axis <;> rfl

/-- A remembered set that is the engine's decides about a name, also if it is read anew. -/
theorem run_validate {draw : String} {e : Exchange} {block : String} {b : Block} {m : Members}
    {axis : Axis} (hb : e.block block = .ok b) (hm : m.names axis = b.live axis) (name : String) :
    ((validate block axis name).start m).run (handler draw) e =
      (((unknown axis name).unless ((b.live axis).contains name), m), e) := by
  rw [validate, start_get_bind, Fault.unless]
  split
  · rw [start_bind, Program.run_bind, run_refresh hb, ← hm, setNames_self, andThen_ok,
      start_get_bind]
    split
    all_goals rfl
  · rw [start_get_bind, hm]
    split
    all_goals rfl

end Members

namespace Reference

/-- An open accessor and its block, of which it remembers the names, agree with a reference. -/
structure Agrees (m : Reference) (a : Accessor) (b : Block) (e : Exchange) : Prop where
  isOpen : a.closed = false
  block_eq : e.block a.name = .ok b
  members_eq : ∀ axis, a.members.names axis = b.live axis
  sound : b.Sound
  mirrors : m.Mirrors a b

namespace Agrees

variable {m : Reference} {a : Accessor} {b : Block} {e : Exchange} {draw : String}

theorem check_eq (h : m.Agrees a b e) (p : Pair) :
    m.check p = (Fault.unknownItem p.item).unless ((b.live .item).contains p.item) >>= fun _ =>
      (Fault.unknownTopic p.topic).unless ((b.live .topic).contains p.topic) := by
  have hitems : m.names .item = b.names .item := (h.mirrors.names_eq .item).symm
  have htopics : m.names .topic = b.names .topic := (h.mirrors.names_eq .topic).symm
  rw [check, hitems, htopics]
  by_cases hitem : (b.live .item).contains p.item = true
  · obtain ⟨hsome : (b.names .topic).isEmpty = false, hcontains⟩ :=
      Block.contains_live_iff.mp hitem
    rw [if_neg (not_or.mpr ⟨not_not.mpr hcontains, Bool.eq_false_iff.mp hsome⟩), hitem]
    have hnames : (b.names .item).isEmpty = false := Table.isEmpty_of_contains hcontains
    by_cases htopic : (b.names .topic).contains p.topic = true
    · have hlive : (b.live .topic).contains p.topic = true :=
        Block.contains_live_iff.mpr ⟨hnames, htopic⟩
      rw [if_neg (not_not.mpr htopic), hlive]
      rfl
    · have hlive : (b.live .topic).contains p.topic = false :=
        Bool.eq_false_iff.mpr fun hlive => htopic (Block.contains_live_iff.mp hlive).2
      rw [if_pos htopic, hlive]
      rfl
  · rw [if_pos, Bool.eq_false_iff.mpr hitem]
    · rfl
    · by_contra hknown
      obtain ⟨hcontains, hsome⟩ := not_or.mp hknown
      exact hitem (Block.contains_live_iff.mpr ⟨Bool.eq_false_iff.mpr hsome, not_not.mp hcontains⟩)

/-- The names are accepted as the reference knows them. -/
theorem answers_validate (h : m.Agrees a b e) (p : Pair) :
    Answers draw a e (validate p.item p.topic) (m.check p >>= fun _ => .ok m.size) := by
  have hname (axis : Axis) (name : String) :
      Answers draw a e (onMembers (Members.validate a.name axis name))
        ((Members.unknown axis name).unless ((b.live axis).contains name)) :=
    run_onMembers (Members.run_validate h.block_eq (h.members_eq axis) name)
  have hsize : Answers draw a e (do return (← get).size) (.ok a.size) := rfl
  rw [h.check_eq, bind_assoc, ← h.mirrors.size_eq]
  refine .ensureOpen_bind h.isOpen (.get_bind ?_)
  exact (hname .item p.item).bind fun _ _ => (hname .topic p.topic).bind fun _ _ => hsize

/-- The block has the stream of a pair whose names the reference knows. -/
theorem exists_stream (h : m.Agrees a b e) {p : Pair} (hp : m.check p = .ok ()) :
    ∃ s, b.stream p = .ok s := by
  rw [h.check_eq] at hp
  obtain ⟨_, hitem, htopic⟩ := bind_eq_ok_iff.mp hp
  have hitems := (Block.contains_live_iff.mp (Fault.unless_eq_ok_iff.mp hitem)).2
  have htopics := (Block.contains_live_iff.mp (Fault.unless_eq_ok_iff.mp htopic)).2
  obtain ⟨s, hs, -⟩ := h.sound.exists_stream hitems htopics
  exact ⟨s, hs⟩

/-! ### Slots -/

theorem size_le (h : m.Agrees a b e) : m.size ≤ maxBlockSize :=
  h.mirrors.capacity_eq ▸ h.sound.size_le

/-- An index names the same slot for the accessor and for the reference. -/
theorem ofIndex_eq (h : m.Agrees a b e) {index : Int} (hindex : Word.IsSigned index) :
    Slot.ofIndex index m.size = m.slot index := by
  have hsize : m.size ≤ 1000000 := h.size_le
  rw [Slot.ofIndex_eq (by omega) hindex, slot]
  rfl

/-- The range that two indices name, and what is read of it. -/
theorem ofIndices_bind (h : m.Agrees a b e) {first last : Int} (hfirst : Word.IsSigned first)
    (hlast : Word.IsSigned last) {α : Type} (f : Slot.Range → Except Failure α) :
    Slot.Range.ofIndices first last m.size >>= f = m.slot first >>= fun start =>
      m.slot last >>= fun stop =>
        if stop < start then .error (.fault (.outOfRange last m.size))
        else f ⟨start, stop, stop - start + 1⟩ := by
  rw [Slot.Range.ofIndices, h.ofIndex_eq hfirst, h.ofIndex_eq hlast, bind_assoc]
  congr 1
  funext start
  rw [bind_assoc]
  congr 1
  funext stop
  split
  all_goals rfl

theorem of_ofIndices_eq_ok (h : m.Agrees a b e) {first last : Int}
    (hfirst : Word.IsSigned first) (hlast : Word.IsSigned last) {r : Slot.Range}
    (hr : Slot.Range.ofIndices first last m.size = .ok r) : r.first ≤ r.last ∧ r.last < m.size := by
  rw [Slot.Range.ofIndices, h.ofIndex_eq hfirst, h.ofIndex_eq hlast] at hr
  obtain ⟨start, -, hr⟩ := bind_eq_ok_iff.mp hr
  obtain ⟨stop, hstop, hr⟩ := bind_eq_ok_iff.mp hr
  split at hr
  · contradiction
  next hle =>
    cases hr
    exact ⟨Nat.not_lt.mp hle, lt_size_of_slot hstop⟩

end Agrees

end Reference

/-! ### Records -/

/-- A reader makes something of exactly the values that can be given as the kind it asks for. -/
theorem Form.giveAs_bind_read (form : Form) (v : Value) :
    (v.giveAs form.kind).toOption.bind form.read = form.ofStored v := by
  cases form <;> cases v <;> rfl

theorem Form.giveAs_of_ofStored_eq_none {form : Form} {v : Value} (h : form.ofStored v = none) :
    v.giveAs form.kind = .error .dataType := by
  cases form <;> cases v <;> first | rfl | contradiction

namespace Reference

/-- A record cannot be given as the kind that a reader asks for, or the reader gets it. -/
theorem give_cases (m : Reference) (form : Form) (r : Record) :
    r.give form.kind m.stamped = .error .dataType ∧
        m.point form r = .error (.fault (.callFailed .dataType)) ∨
      ∃ sample point, r.give form.kind m.stamped = .ok sample ∧
        convert form sample = .ok point ∧ m.point form r = .ok point := by
  have hread := form.giveAs_bind_read r.value
  rw [point, Record.give]
  cases hgive : r.value.giveAs form.kind with
  | error status =>
    rw [hgive] at hread
    have hnone : form.ofStored r.value = none := hread.symm
    rw [Form.giveAs_of_ofStored_eq_none hnone] at hgive
    cases hgive
    rw [hnone]
    exact .inl ⟨rfl, rfl⟩
  | ok v =>
    obtain ⟨x, hx⟩ := Form.exists_read_of_giveAs hgive
    rw [hgive] at hread
    have hsome : form.ofStored r.value = some x := hread.symm.trans hx
    rw [hsome]
    refine .inr ⟨_, _, rfl, ?_, rfl⟩
    simp [convert, Form.readPoint, hx]

/-- What a reader makes of a record that it is given, or of the refusal. -/
theorem give_bind_convert (m : Reference) (form : Form) (r : Record) :
    ((r.give form.kind m.stamped).mapError fun status => .fault (.ofStatus status)) >>=
      convert form = m.point form r := by
  obtain ⟨hgive, hpoint⟩ | ⟨sample, point, hgive, hconvert, hpoint⟩ := m.give_cases form r
  · rw [hgive, hpoint]
    rfl
  · rw [hgive, hpoint]
    exact hconvert

theorem mapM_give_bind_convert (m : Reference) (form : Form) (rs : List Record) :
    ((rs.mapM (Record.give form.kind m.stamped)).mapError fun status =>
      .fault (.ofStatus status)) >>= (fun samples => samples.mapM (convert form)) =
        rs.mapM (m.point form) := by
  induction rs with
  | nil => rfl
  | cons r rs ih =>
    rw [List.mapM_cons, List.mapM_cons, ← ih]
    obtain ⟨hgive, hpoint⟩ | ⟨sample, point, hgive, hconvert, hpoint⟩ := m.give_cases form r
    · rw [hgive, hpoint]
      rfl
    · rw [hgive, hpoint]
      cases rs.mapM (Record.give form.kind m.stamped) with
      | error status => rfl
      | ok samples =>
        change (sample :: samples).mapM (convert form) = _
        rw [List.mapM_cons, hconvert]
        rfl

section Mirrors

variable {m : Reference} {a : Accessor} {b : Block} {p : Pair} {s : Stream}

theorem Mirrors.give_eq (h : m.Mirrors a b) (kind : Kind) :
    b.give kind a.stamped = Record.give kind m.stamped := by
  funext r
  rw [Block.give, h.stamped_eq, h.recorded_eq, Bool.and_self]

/-- What a block gives of one slot. -/
theorem Mirrors.value_eq (h : m.Mirrors a b) (hs : b.stream p = .ok s) {slot : Nat}
    (hslot : slot < m.size) (kind : Kind) :
    b.value p slot kind a.stamped =
      ((m.window p)[slot]?).elim (.error .getData) (Record.give kind m.stamped) := by
  have hcapacity : ¬ b.size ≤ slot := Nat.not_le.mpr (h.capacity_eq ▸ hslot)
  rw [Block.value, if_neg hcapacity, hs, h.give_eq, ← h.window_eq p s hs, ← s.record?_eq]
  change (match s.record? slot with | some r => _ | none => _) = _
  cases s.record? slot with
  | none => rfl
  | some r => rfl

/-- What a block gives of a range of slots. -/
theorem Mirrors.range_eq (h : m.Mirrors a b) (hs : b.stream p = .ok s) {start stop : Nat}
    (hle : start ≤ stop) (hlt : stop < m.size) (kind : Kind) :
    b.range p start stop kind a.stamped =
      (((m.window p).take (stop + 1)).drop start).mapM (Record.give kind m.stamped) := by
  have hcapacity : ¬ b.size ≤ stop := Nat.not_le.mpr (h.capacity_eq ▸ hlt)
  rw [Block.range, if_neg hcapacity, if_neg (Nat.not_lt.mpr hle), hs, h.give_eq]
  change (s.window start (stop - start + 1)).mapM _ = _
  rw [s.window_eq, h.window_eq p s hs, List.drop_take, Nat.sub_add_comm hle]

end Mirrors

/-! ### Reads -/

namespace Agrees

variable {m : Reference} {a : Accessor} {b : Block} {e : Exchange} {draw : String} {p : Pair}
  {s : Stream}

theorem answers_validate_bind (h : m.Agrees a b e) {α : Type} {f : Nat → Operation α}
    {x : Except Failure α}
    (hf : ∀ s, b.stream p = .ok s → Answers draw a e (f m.size) x) :
    Answers draw a e (validate p.item p.topic >>= f) (m.check p >>= fun _ => x) := by
  have hbind := (h.answers_validate p).bind (f := f) (y := fun _ => x) fun size hsize => by
    obtain ⟨_, hp, hsize⟩ := bind_eq_ok_iff.mp hsize
    cases hsize
    obtain ⟨s, hs⟩ := h.exists_stream hp
    exact hf s hs
  rwa [bind_assoc] at hbind

/-- A request that reads a block. -/
theorem answers_query (h : m.Agrees a b e) (draw : String) {q : Query}
    (f : Block → Except Status q.Answer)
    (hq : serve draw q = readBlock a.name f) :
    Answers draw a e (Inquiry.query q)
      ((f b).mapError fun status => .fault (.ofStatus status)) :=
  .query_block draw h.block_eq f hq

/-! The requests for the contents of a stream. -/

section Stream

variable (h : m.Agrees a b e) (hs : b.stream p = .ok s)
include h hs

theorem answers_askOccupancy :
    Answers draw a e (Inquiry.query (.occupancy (a.address p.item p.topic)))
      (.ok (m.window p).length) := by
  refine .query (x := .ok (m.window p).length) (perform_occupancy_eq_ok_iff.mpr ?_)
  refine ⟨b, s, h.block_eq, hs, ?_, rfl⟩
  rw [Stream.occupancy_eq, h.mirrors.window_eq p s hs]

theorem answers_askValue {slot : Nat} (hslot : slot < m.size) (form : Form) :
    Answers draw a e (do
      let sample : Sample ←
        Inquiry.query (.value (a.address p.item p.topic) slot form.kind a.stamped)
      Inquiry.lift (convert form sample))
      (m.pointAt form p slot) := by
  have hquery := h.answers_query draw
    (q := .value (a.address p.item p.topic) slot form.kind a.stamped)
    (fun b => b.value p slot form.kind a.stamped) rfl
  have hanswer := hquery.bind fun sample _ => Answers.lift (convert form sample)
  rw [h.mirrors.value_eq hs hslot] at hanswer
  rw [pointAt]
  cases hr : (m.window p)[slot]? with
  | none =>
    rw [hr] at hanswer
    exact hanswer
  | some r =>
    rw [hr, Option.elim_some, m.give_bind_convert form r] at hanswer
    exact hanswer

theorem answers_askRange {start stop : Nat} (hle : start ≤ stop) (hlt : stop < m.size)
    (form : Form) :
    Answers draw a e (do
      let samples : List Sample ←
        Inquiry.query (.range (a.address p.item p.topic) start stop form.kind a.stamped)
      Inquiry.lift (samples.mapM (convert form)))
      (m.pointsIn form p start stop) := by
  have hquery := h.answers_query draw
    (q := .range (a.address p.item p.topic) start stop form.kind a.stamped)
    (fun b => b.range p start stop form.kind a.stamped) rfl
  have hanswer := hquery.bind fun samples _ =>
    Answers.lift (List.mapM (convert form) samples)
  rw [h.mirrors.range_eq hs hle hlt, m.mapM_give_bind_convert form] at hanswer
  exact hanswer

end Stream

theorem answers_occupancy (h : m.Agrees a b e) (p : Pair) :
    Answers draw a e (Accessor.occupancy p.item p.topic) (m.occupancy p) :=
  h.answers_validate_bind fun _ hs => .get_bind (h.answers_askOccupancy hs)

theorem answers_value (h : m.Agrees a b e) (form : Form) (p : Pair) {index : Int}
    (hindex : Word.IsSigned index) :
    Answers draw a e (Accessor.value form p.item p.topic index) (m.value form p index) := by
  refine h.answers_validate_bind fun _ hs => ?_
  rw [h.ofIndex_eq hindex]
  exact (Answers.lift _).bind fun slot hslot =>
    .get_bind (h.answers_askValue hs (lt_size_of_slot hslot) form)

theorem answers_range (h : m.Agrees a b e) (form : Form) (p : Pair) {first last : Int}
    (hfirst : Word.IsSigned first) (hlast : Word.IsSigned last) (smart : Bool) :
    Answers draw a e (Accessor.range form p.item p.topic first last smart)
      (m.range form p first last) := by
  refine h.answers_validate_bind fun _ hs => ?_
  rw [← h.ofIndices_bind hfirst hlast fun r => m.pointsIn form p r.first r.last]
  refine (Answers.lift _).bind fun r hr => .get_bind ?_
  obtain ⟨hle, hlt⟩ := h.of_ofIndices_eq_ok hfirst hlast hr
  cases smart with
  | false => exact h.answers_askRange hs hle hlt form
  | true =>
    have hlast : r.last < 1000000 := Nat.lt_of_lt_of_le hlt h.size_le
    refine (h.answers_askOccupancy hs).bind (y := fun _ => m.pointsIn form p r.first r.last)
      fun n hn => ?_
    cases hn
    rw [Slot.Range.occupied_eq hle (by omega)]
    split
    next hshort =>
      rw [m.pointsIn_of_length_le form _ hshort]
      rfl
    next hlong =>
      rw [← m.pointsIn_min form r.first r.last (by omega)]
      have hcut : r.first ≤ min r.last ((m.window p).length - 1) ∧
          min r.last ((m.window p).length - 1) < m.size := by omega
      exact h.answers_askRange hs hcut.1 hcut.2 form

end Agrees

/-! ### Runs -/

/-- An accessor that is still open and its block agree with what the reference has become. -/
theorem Tracks.agrees {block : String} {m : Reference} {w : Client} (h : Tracks block m w)
    (hopen : w.accessor.closed = false) : ∃ b, m.Agrees w.accessor b w.exchange := by
  obtain ⟨b, hb, hnames⟩ := h.faithful.coherent hopen
  obtain ⟨c, hc, hm⟩ := h.mirrors hopen
  rw [← h.faithful.name_eq] at hc
  obtain rfl : b = c := Except.ok.inj (hb.symm.trans hc)
  exact ⟨b, hopen, hb, hnames, h.sound.of_block_eq_ok hb, hm⟩

/-- **Reads answer from the reference.** A block is created through an accessor, on an exchange that
began without blocks, and its capacity and its names change only through it. The reference follows
the run: a window is empty when its pair comes into being, takes each record that is published, and
is cut to each new capacity. After any turns, while the accessor is open, what it reads of one slot,
of a range of slots, smart or not, and of their number is what the reference has there: a fault for
an item that is unknown or without topics, then for an unknown topic, then for an index that names
no slot, then for a slot without a record or a record of another kind, and otherwise the records.
Reads leave the accessor and the exchange as they are. -/
theorem reads_refine {draw : String} {s : Settings} {e₀ e : Exchange} {a : Accessor}
    (he : e₀.Reachable) (hcreate : (Accessor.create s).run (handler draw) e₀ = (.ok a, e))
    {turns : List (Client.Turn a.name)} (hturns : ∀ turn ∈ turns, turn.KeepsSize) :
    let w := (Client.mk a e).after turns
    let m := (Reference.new s).after (Client.mk a e) turns
    w.accessor.closed = false → ∀ (draw : String) (p : Pair),
      (∀ form index, Word.IsSigned index →
        Answers draw w.accessor w.exchange (Accessor.value form p.item p.topic index)
          (m.value form p index)) ∧
      (∀ form, Answers draw w.accessor w.exchange (Accessor.latest form p.item p.topic)
        (m.value form p 0)) ∧
      (∀ form first last smart, Word.IsSigned first → Word.IsSigned last →
        Answers draw w.accessor w.exchange
          (Accessor.range form p.item p.topic first last smart) (m.range form p first last)) ∧
      Answers draw w.accessor w.exchange (Accessor.occupancy p.item p.topic)
        (m.occupancy p) := by
  intro w m hopen draw p
  obtain ⟨b, h⟩ := ((Tracks.create he.sound hcreate).after hturns).agrees hopen
  refine ⟨fun form index hindex => h.answers_value form p hindex, fun form => ?_,
    fun form first last smart hfirst hlast => h.answers_range form p hfirst hlast smart,
    h.answers_occupancy p⟩
  exact h.answers_value form p (by decide)

/-- Of four values three fit into a stream, and two are left when the block gets a smaller capacity.
The older one is read by its index from the oldest end, as text. -/
theorem reads_refine_resized :
    let s : Settings := { size := 3, stamped := true }
    let a := ofSettings "B" s
    let e := ((Accessor.create s).run (handler "B") Exchange.start).2
    let turns : List (Client.Turn a.name) :=
      [.call "" (.addMember .item "X"), .call "" (.addMember .topic "VOLUME")] ++
        ([1, 2, 3, 4] : List Int).map
          (fun n => .event (.publish ⟨"X", "VOLUME"⟩ ⟨.long n, .zero⟩) trivial) ++
        [.call "" (.resize 2)]
    let w := (Client.mk a e).after turns
    Answers "" w.accessor w.exchange (Accessor.value .text "X" "VOLUME" (-1))
      (.ok ⟨"3", some .zero⟩) := by
  intro s a e turns w
  have he : Exchange.start.Reachable := ⟨[], rfl⟩
  have hcreate : (Accessor.create s).run (handler "B") Exchange.start = (.ok a, e) := rfl
  have hturns : ∀ turn ∈ turns, turn.KeepsSize := by
    simp [turns, Client.Turn.KeepsSize]
  have hopen : w.accessor.closed = false := by decide +kernel
  have hvalue : ((Reference.new s).after (Client.mk a e) turns).value .text ⟨"X", "VOLUME"⟩ (-1) =
    .ok ⟨"3", some .zero⟩ := by decide +kernel
  have hread := (reads_refine he hcreate hturns hopen "" ⟨"X", "VOLUME"⟩).1 .text (-1) (by decide)
  rw [hvalue] at hread
  exact hread

end Reference

end TickerTape
