import TickerTape.Proofs.Conversations
import TickerTape.Proofs.Lifetime
import TickerTape.Proofs.ReferenceReads

/-!
# Smart and plain reads of a range

A plain read of a range asks for all of its slots, a smart one first asks how many values there are
and then for no more. The accessor may remember another capacity and other names than the block has,
if others have changed it. Whatever it remembers, both reads give what the block has in these slots,
except that the plain one is refused when the range reaches beyond the capacity that the block now
has.

## Main definitions

* `TickerTape.Engine.Record.readAs` — a record as a reader wants it.
* `TickerTape.Engine.Stream.points`, `TickerTape.Engine.Block.points` — what there is to be read in
  a range of slots.

## Main results

* `TickerTape.Accessor.of_run_validate` — what it means that an accessor accepts two names.
* `TickerTape.Accessor.run_plainRange`, `TickerTape.Accessor.run_smartRange` — the two reads.
* `TickerTape.Accessor.smart_agrees_with_plain` — they agree.
-/

namespace TickerTape

open Engine Exchange Program Inquiry Accessor

/-! ### What there is to be read -/

/-- The failure for the status code of a request. -/
abbrev Failure.ofStatus (status : Status) : Failure := .fault (.ofStatus status)

namespace Engine

/-- A record as a reader wants it, with its time if that is wanted. -/
def Record.readAs (form : Form) (stamped : Bool) (r : Record) :
    Except Failure (Point form.Carrier) :=
  match form.ofStored r.value with
  | some value => .ok ⟨value, if stamped then some r.stamp else none⟩
  | none => .error (.fault (.callFailed .dataType))

/-- The records in the slots from `start` to `stop`, as far as there are any. -/
def Stream.points (s : Stream) (form : Form) (stamped : Bool) (start stop : Nat) :
    Except Failure (List (Point form.Carrier)) :=
  ((s.records.take (stop + 1)).drop start).mapM (Record.readAs form stamped)

/-- The records of a stream in the slots from `start` to `stop`, or why the block does not have the
stream. -/
def Block.points (b : Block) (p : Pair) (form : Form) (stamped : Bool) (start stop : Nat) :
    Except Failure (List (Point form.Carrier)) :=
  (b.stream p).mapError .ofStatus >>= fun s => s.points form (stamped && b.stamped) start stop

end Engine

/-- A reference whose windows hold what a stream holds. -/
def Reference.ofStream (stamped : Bool) (s : Stream) : Reference :=
  ⟨0, stamped, fun _ => ∅, fun _ => s.records⟩

namespace Engine

section Points

variable {form : Form} {stamped : Bool} {start : Nat} (stop : Nat)

theorem Stream.points_of_occupancy_le {s : Stream} (h : s.occupancy ≤ start) :
    s.points form stamped start stop = .ok [] :=
  (Reference.ofStream stamped s).pointsIn_of_length_le form (p := ⟨"", ""⟩) stop
    (s.occupancy_eq ▸ h)

/-- A range may be cut to the slots that hold a record. -/
theorem Stream.points_min {s : Stream} (h : 0 < s.occupancy) :
    s.points form stamped start (min stop (s.occupancy - 1)) =
      s.points form stamped start stop := by
  rw [s.occupancy_eq] at h ⊢
  exact (Reference.ofStream stamped s).pointsIn_min form (p := ⟨"", ""⟩) start stop h

/-- A record is read, or it is not of the kind that is asked for. -/
theorem Record.eq_of_readAs_eq_error {r : Record} {failure : Failure}
    (h : r.readAs form stamped = .error failure) : failure = .fault (.callFailed .dataType) := by
  rw [readAs] at h
  split at h
  · contradiction
  · exact (Except.error.inj h).symm

end Points

/-- The fault for a status code other than that of a lost connection holds the code. -/
theorem eq_of_ofStatus_eq_callFailed {status status' : Status}
    (h : Fault.ofStatus status = .callFailed status') : status = status' := by
  rw [Fault.ofStatus] at h
  split at h
  · contradiction
  · exact Fault.callFailed.inj h

/-- A stream that a block does not give is missed for one of its names. -/
theorem Block.stream_ne_streamSize (b : Block) (p : Pair) : b.stream p ≠ .error .streamSize := by
  rw [stream]
  split
  · decide
  · split
    · decide
    · split
      · intro h
        cases h
      · decide

namespace Block

variable {b : Block} {p : Pair} {form : Form} {stamped : Bool} {start stop : Nat}

theorem points_of_stream {s : Stream} (hs : b.stream p = .ok s) :
    b.points p form stamped start stop = s.points form (stamped && b.stamped) start stop := by
  rw [points, hs]
  rfl

theorem points_ne_streamSize :
    b.points p form stamped start stop ≠ .error (.fault (.callFailed .streamSize)) := by
  intro h
  rcases bind_eq_error_iff.mp h with h | ⟨s, -, h⟩
  · cases hs : b.stream p with
    | error status =>
      rw [hs] at h
      have hstatus := eq_of_ofStatus_eq_callFailed (Failure.fault.inj (Except.error.inj h))
      exact b.stream_ne_streamSize p (hstatus ▸ hs)
    | ok s =>
      rw [hs] at h
      contradiction
  · obtain ⟨r, -, hr⟩ := exists_of_mapM_eq_error h
    cases Record.eq_of_readAs_eq_error hr

/-- A reader makes of a range what there is to be read in it. -/
theorem range_bind_convert (hle : start ≤ stop) (hlt : stop < b.size) :
    ((b.range p start stop form.kind stamped).mapError .ofStatus >>= fun samples =>
      samples.mapM (convert form)) = b.points p form stamped start stop := by
  rw [range, if_neg (Nat.not_le.mpr hlt), if_neg (Nat.not_lt.mpr hle), points]
  cases b.stream p with
  | error status => rfl
  | ok s =>
    change ((s.window start (stop - start + 1)).mapM (b.give form.kind stamped)).mapError _ >>= _ =
      s.points form (stamped && b.stamped) start stop
    rw [s.window_eq, ← Nat.sub_add_comm hle, ← List.drop_take]
    exact (Reference.ofStream (stamped && b.stamped) s).mapM_give_bind_convert form _

end Block

end Engine

/-- A range ends with a slot that is a signed word, not more recent than its first one. -/
theorem Slot.Range.le_of_ofIndices {first last : Int} {capacity : Nat} {r : Slot.Range}
    (h : ofIndices first last capacity = .ok r) :
    r.first ≤ r.last ∧ r.last < 0x8000000000000000 := by
  obtain ⟨start, -, h⟩ := bind_eq_ok_iff.mp h
  obtain ⟨stop, hstop, h⟩ := bind_eq_ok_iff.mp h
  split at h
  · contradiction
  next hle =>
    cases h
    exact ⟨Nat.not_lt.mp hle, Slot.lt_of_ofIndex hstop⟩

namespace Accessor

/-! ### Accepted names -/

section Validate

variable {σ : Type} {h : Handler wire σ} {s : σ} {a a' : Accessor} {item topic : String}
  {size : Nat}

/-- An accessor that accepts two names is open. It has remembered nothing but names, with both of
them among these. -/
theorem of_run_validate (hvalid : (((validate item topic).start a).run h s).1 = (.ok size, a')) :
    a.closed = false ∧ size = a.size ∧ a' = { a with members := a'.members } ∧
      (a'.members.names .item).contains item = true ∧
      (a'.members.names .topic).contains topic = true := by
  have hopen : a.closed = false := by
    refine Bool.eq_false_iff.mpr fun hclosed => ?_
    rw [start_validate_of_closed hclosed] at hvalid
    cases hvalid
  obtain ⟨-, hout⟩ := (follows_validate (c := .occupancy item topic) hopen ⟨item, topic⟩).of_log h s
  rw [hvalid] at hout
  obtain ⟨haccessor, -, hverdict⟩ := hout
  obtain rfl : a' = a.filled _ := haccessor
  rcases hverdict with ⟨hsize, haccepts⟩ | ⟨⟨_, herror⟩, -⟩
  · exact ⟨hopen, Except.ok.inj hsize, rfl, haccepts.contains .item, haccepts.contains .topic⟩
  · cases herror

/-- Accepting names leaves an exchange as it is. -/
theorem run_validate_snd (draw item topic : String) (a : Accessor) (e : Exchange) :
    (((validate item topic).start a).run (handler draw) e).2 = e := by
  have htold : Told (fun _ _ => True) (fun r => r.isRead = true) (·.name = a.name) a.name :=
    ⟨fun _ hq => hq, fun _ hx => hx, fun _ _ _ hx _ => hx, fun _ _ hx _ => hx⟩
  exact (run_of_reads draw (htold.filled.keeps_validate item topic a rfl) e).2

end Validate

/-! ### The two reads -/

section Reads

variable {draw : String} {a a' : Accessor} {b : Block} {e : Exchange} {form : Form}
  {item topic : String} {size : Nat} {first last : Int} {r : Slot.Range}

theorem answers_askPoints (hb : e.block a.name = .ok b) {start stop : Nat} (hle : start ≤ stop)
    (hlt : stop < b.size) :
    Answers draw a e (do
      let samples : List Sample ←
        Inquiry.query (.range (a.address item topic) start stop form.kind a.stamped)
      Inquiry.lift (samples.mapM (convert form)))
      (b.points ⟨item, topic⟩ form a.stamped start stop) := by
  rw [← Block.range_bind_convert hle hlt]
  refine Answers.bind (.query_block draw hb
    (q := .range (a.address item topic) start stop form.kind a.stamped)
    (fun b => b.range ⟨item, topic⟩ start stop form.kind a.stamped) rfl) fun samples _ => .lift _

theorem answers_askOccupancy (hb : e.block a.name = .ok b) :
    Answers draw a e (Inquiry.query (.occupancy (a.address item topic)))
      (((b.stream ⟨item, topic⟩).map (·.occupancy)).mapError .ofStatus) := by
  refine .query ?_
  rw [perform, serve, outcome_readStream]
  change (e.block a.name >>= fun b => b.stream ⟨item, topic⟩ >>= fun s => .ok (s.occupancy, e)) = _
  rw [hb]
  change (b.stream ⟨item, topic⟩ >>= fun s => .ok (s.occupancy, e)) = _
  cases b.stream ⟨item, topic⟩ with
  | error status => rfl
  | ok s => rfl

/-- A read that has accepted its names goes on from there. -/
theorem run_validated {α : Type} {f : Nat → Operation α} {x : Except Failure α}
    (hvalid : (((validate item topic).start a).run (handler draw) e).1 = (.ok size, a'))
    (hf : Answers draw a' e (f size) x) :
    ((validate item topic >>= f).start a).run (handler draw) e = ((x, a'), e) := by
  rw [start_bind, run_bind, hvalid, run_validate_snd]
  exact hf

variable (hb : e.block a.name = .ok b)
  (hvalid : (((validate item topic).start a).run (handler draw) e).1 = (.ok size, a'))
  (hr : Slot.Range.ofIndices first last size = .ok r)
include hb hvalid hr

/-- A plain read gives what there is to be read, unless it reaches beyond the block. -/
theorem run_plainRange :
    ((range form item topic first last false).start a).run (handler draw) e =
      ((if b.size ≤ r.last then .error (.fault (.callFailed .streamSize))
        else b.points ⟨item, topic⟩ form a.stamped r.first r.last, a'), e) := by
  obtain ⟨-, -, haccessor, -, -⟩ := of_run_validate hvalid
  have hname : a'.name = a.name := by rw [haccessor]
  have hstamped : a'.stamped = a.stamped := by rw [haccessor]
  rw [← hname] at hb
  rw [← hstamped]
  refine run_validated hvalid ?_
  rw [hr]
  refine .lift_ok_bind (.get_bind ?_)
  by_cases hlarge : b.size ≤ r.last
  · have hrefused : b.range ⟨item, topic⟩ r.first r.last form.kind a'.stamped =
        .error .streamSize := if_pos hlarge
    have hquery := Answers.query_block draw hb
      (q := .range (a'.address item topic) r.first r.last form.kind a'.stamped)
      (fun b => b.range ⟨item, topic⟩ r.first r.last form.kind a'.stamped) rfl
    rw [hrefused] at hquery
    rw [if_pos hlarge]
    exact hquery.error_bind
  · rw [if_neg hlarge]
    exact answers_askPoints hb (Slot.Range.le_of_ofIndices hr).1 (Nat.not_le.mp hlarge)

/-- A smart read gives what there is to be read. -/
theorem run_smartRange (hblock : b.Sound) :
    ((range form item topic first last true).start a).run (handler draw) e =
      ((b.points ⟨item, topic⟩ form a.stamped r.first r.last, a'), e) := by
  obtain ⟨-, -, haccessor, -, -⟩ := of_run_validate hvalid
  have hname : a'.name = a.name := by rw [haccessor]
  have hstamped : a'.stamped = a.stamped := by rw [haccessor]
  rw [← hname] at hb
  rw [← hstamped]
  refine run_validated hvalid ?_
  rw [hr]
  refine .lift_ok_bind (.get_bind ?_)
  obtain ⟨hle, hword⟩ := Slot.Range.le_of_ofIndices hr
  have hquery : Answers draw a' e (Inquiry.query (.occupancy (a'.address item topic))) _ :=
    answers_askOccupancy hb
  cases hs : b.stream ⟨item, topic⟩ with
  | error status =>
    rw [hs] at hquery
    rw [Block.points, hs]
    exact hquery.error_bind
  | ok s =>
    rw [hs] at hquery
    refine hquery.bind (y := fun _ => b.points ⟨item, topic⟩ form a'.stamped r.first r.last)
      fun n hn => ?_
    cases hn
    rw [Slot.Range.occupied_eq hle hword]
    split
    next hshort =>
      rw [Block.points_of_stream hs, Stream.points_of_occupancy_le r.last hshort]
      rfl
    next hlong =>
      -- The slots that are asked for hold records, so that they lie within the block.
      have hlong : r.first < s.occupancy := Nat.not_le.mp hlong
      have hfits : s.occupancy ≤ b.size := s.occupancy_eq ▸ (hblock.of_stream_eq_ok hs).length_le
      have hcut : r.first ≤ min r.last (s.occupancy - 1) ∧
          min r.last (s.occupancy - 1) < b.size := by omega
      rw [Block.points_of_stream hs, ← s.points_min r.last (by omega), ← Block.points_of_stream hs]
      exact answers_askPoints hb hcut.1 hcut.2

end Reads

/-- **Smart and plain reads agree.** The exchange may be in any state that it can reach with the
accessor's block, whatever the accessor remembers of it. Let it accept an item and a topic, and two
indices as a range of slots. The plain read is refused for the size of the block when the range
reaches beyond it, and only then; otherwise the plain and the smart read come to the same. The smart
read is never refused for the size: when the block has both names, it gives the records in these
slots, as far as there are any, or fails because one of them is not of the kind that is asked
for. -/
theorem smart_agrees_with_plain {draw : String} {a a' : Accessor} {e : Exchange} (he : e.Reachable)
    {b : Block} (hb : e.block a.name = .ok b) {item topic : String} {size : Nat}
    (hvalid : (((validate item topic).start a).run (handler draw) e).1 = (.ok size, a'))
    {first last : Int} {r : Slot.Range} (hr : Slot.Range.ofIndices first last size = .ok r)
    (form : Form) :
    let read (smart : Bool) :=
      ((range form item topic first last smart).start a).run (handler draw) e
    ((read false).1.1 = .error (.fault (.callFailed .streamSize)) ↔ b.size ≤ r.last) ∧
      (r.last < b.size → read true = read false) ∧
      (read true).1.1 ≠ .error (.fault (.callFailed .streamSize)) ∧
      (b.items.contains item = true → b.topics.contains topic = true →
        ∃ s, b.stream ⟨item, topic⟩ = .ok s ∧
          (read true).1.1 = ((s.records.take (r.last + 1)).drop r.first).mapM
            (Record.readAs form (a.stamped && b.stamped))) := by
  intro read
  have hblock : b.Sound := he.sound.of_block_eq_ok hb
  have hplain : read false = ((if b.size ≤ r.last then .error (.fault (.callFailed .streamSize))
      else b.points ⟨item, topic⟩ form a.stamped r.first r.last, a'), e) :=
    run_plainRange hb hvalid hr
  have hsmart : read true = ((b.points ⟨item, topic⟩ form a.stamped r.first r.last, a'), e) :=
    run_smartRange hb hvalid hr hblock
  refine ⟨?_, fun hlt => ?_, ?_, fun hitem htopic => ?_⟩
  · rw [hplain]
    by_cases hlarge : b.size ≤ r.last
    · simp [hlarge]
    · simp [hlarge, Block.points_ne_streamSize]
  · rw [hplain, hsmart, if_neg (Nat.not_le.mpr hlt)]
  · rw [hsmart]
    exact Block.points_ne_streamSize
  · obtain ⟨s, hs, -⟩ := hblock.exists_stream (p := ⟨item, topic⟩) hitem htopic
    refine ⟨s, hs, ?_⟩
    rw [hsmart, Block.points_of_stream hs]
    rfl

/-- The block was given a smaller capacity than its accessor remembers. -/
theorem smart_agrees_with_plain_shrunk :
    let a := ofSettings "B" { size := 4, stamped := true }
    let a' := { a with members := ⟨NameSet.ofNames ["X"], NameSet.ofNames ["VOLUME"]⟩ }
    let e := oneStream.after (([1, 2] : List Int).map fun n =>
      .publish ⟨"X", "VOLUME"⟩ ⟨.long n, ⟨n, 0⟩⟩)
    (((validate "X" "VOLUME").start a).run (handler "") e).1 = (.ok 4, a') ∧
      Slot.Range.ofIndices 1 (-1) 4 = .ok ⟨1, 3, 3⟩ ∧
      (((range .long "X" "VOLUME" 1 (-1) false).start a).run (handler "") e).1.1 =
        .error (.fault (.callFailed .streamSize)) ∧
      (((range .long "X" "VOLUME" 1 (-1) true).start a).run (handler "") e).1.1 =
        .ok [⟨(1 : Int), some ⟨1, 0⟩⟩] := by
  intro a a' e
  have he : e.Reachable := Reachable.after ⟨_, rfl⟩ _
  obtain ⟨b, hb, hsize, hitem, htopic, hrecords⟩ : ∃ b, e.block a.name = .ok b ∧ b.size = 2 ∧
      b.items.contains "X" = true ∧ b.topics.contains "VOLUME" = true ∧
      ∀ s, b.stream ⟨"X", "VOLUME"⟩ = .ok s →
        s.records = [⟨.long 2, ⟨2, 0⟩⟩, ⟨.long 1, ⟨1, 0⟩⟩] ∧ b.stamped = true :=
    ⟨_, rfl, rfl, rfl, rfl, fun s hs => by cases hs; exact ⟨rfl, rfl⟩⟩
  have hvalid : (((validate "X" "VOLUME").start a).run (handler "") e).1 = (.ok 4, a') := by
    decide +kernel
  have hr : Slot.Range.ofIndices 1 (-1) 4 = .ok ⟨1, 3, 3⟩ := by decide
  obtain ⟨hplain, -, -, hsmart⟩ := smart_agrees_with_plain he hb hvalid hr .long
  beta_reduce at hplain hsmart
  obtain ⟨s, hs, hread⟩ := hsmart hitem htopic
  obtain ⟨hrecords, hstamped⟩ := hrecords s hs
  have hlarge : b.size ≤ 3 := by omega
  refine ⟨hvalid, hr, hplain.mpr hlarge, hread.trans ?_⟩
  rw [hrecords, hstamped]
  rfl

end Accessor

end TickerTape
