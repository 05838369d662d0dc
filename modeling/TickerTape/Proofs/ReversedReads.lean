import TickerTape.Proofs.MarkerCounts
import TickerTape.Proofs.SmartReads

/-!
# Marker reads are reversed range reads

A marker read goes from the slot that it is given to the marker, and gives what it finds oldest
first. A range read of the same slots gives the same values most recent first. Once the marker read
has given its values the marker stands before the slot, so that a second one finds nothing, and the
values themselves are where they were.

The accessor asks for some room more than the marker read needs. If no record is written in between
this margin makes no difference.

## Main definitions

* `TickerTape.Engine.Stream.taken` — a stream after a marker read.
* `TickerTape.Engine.Exchange.afterRead` — an exchange after a marker read.
* `TickerTape.Accessor.IgnoresMargin` — an operation that does not depend on the margin.

## Main results

* `TickerTape.Engine.mapM_reverse` — steps that fail in one way only may be made in either order.
* `TickerTape.Accessor.run_sinceMarker` — what a marker read gives and leaves.
* `TickerTape.Accessor.sinceMarker_reverses_range` — it gives the reverse of a range.
-/

namespace TickerTape

open Engine Exchange Program Inquiry Accessor

/-! ### Streams after a marker read -/

namespace Engine

/-- If steps fail in one way only, a list of them does not depend on its order. -/
theorem mapM_reverse {ε α β : Type} {f : α → Except ε β} {x : ε}
    (hf : ∀ a y, f a = .error y → y = x) (as : List α) :
    as.reverse.mapM f = (as.mapM f).map List.reverse := by
  cases h : as.mapM f with
  | ok bs => exact mapM_eq_ok_iff.mpr (List.forall₂_reverse_iff.mpr (mapM_eq_ok_iff.mp h))
  | error y =>
    obtain ⟨a, -, ha⟩ := exists_of_mapM_eq_error h
    cases h' : as.reverse.mapM f with
    | error z =>
      obtain ⟨a', -, ha'⟩ := exists_of_mapM_eq_error h'
      rw [hf a y ha, hf a' z ha']
      rfl
    | ok bs =>
      -- If all steps succeed in one order they succeed in the other.
      have hok := mapM_eq_ok_iff.mpr (List.forall₂_reverse_iff.mpr (mapM_eq_ok_iff.mp h'))
      rw [List.reverse_reverse, h] at hok
      contradiction

namespace Stream

/-- The stream after a marker read down to slot `first`. -/
def taken (s : Stream) (first : Nat) : Stream := ⟨s.held, min s.unread first, false⟩

/-- The room that an accessor with some margin asks for, to read down to slot `first`, is a word. -/
def Fits (s : Stream) (first margin : Nat) : Prop :=
  0 ≤ s.position - first + 1 → Word.IsUnsigned ((s.position - first + 1).toNat + margin)

variable {s : Stream} {first room : Nat} {kind : Kind} {form : Form} {stamped : Bool}

theorem behind_of_unread_le (h : s.unread ≤ first) : s.behind first = [] :=
  List.drop_eq_nil_of_le (Nat.le_trans (List.length_take_le _ _) h)

/-- What there is to be read from a slot up to the marker. -/
theorem points_position (h : 0 < s.unread) :
    s.points form stamped first (s.unread - 1) =
      (s.behind first).mapM (Record.readAs form stamped) := by
  rw [points, Nat.sub_add_cancel h, behind]

/-- With room for all of them, a marker read gives the unread records from a slot on. -/
theorem fetch_of_room (h : s.unread - first ≤ room) :
    s.fetch first room kind stamped =
      (s.behind first).reverse.mapM (Record.give kind stamped) >>= fun samples =>
        .ok (⟨samples, if s.lost then -((s.unread - first : Nat) : Int)
          else (s.unread - first : Nat)⟩, s.taken first) := by
  rw [fetch_eq]
  simp only [Nat.min_eq_left h, Nat.not_lt.mpr h, decide_false, Bool.or_false, window_eq, behind,
    List.drop_take]
  rfl

end Stream

/-- The exchange after a marker read down to slot `first` that came to `result`. The read took
nothing if it failed, or if there was no need to fetch anything. -/
def Exchange.afterRead (e : Exchange) (name : String) (b : Block) (p : Pair) (s : Stream)
    (first : Nat) {α : Type} (result : Except Failure α) : Exchange :=
  match result with
  | .ok _ =>
    if s.unread < first then e
    else e.setBlock name { b with streams := b.streams.insert p (s.taken first) }
  | .error _ => e

section

variable {e : Exchange} {name : String} {b : Block} {p : Pair} {s : Stream}

theorem Block.stream_replace_of_ne {q : Pair} (hq : q ≠ p) (s' : Stream) :
    Block.stream { b with streams := b.streams.insert p s' } q = b.stream q := by
  rw [Block.stream, Table.get?_insert, if_neg hq]
  rfl

/-- After a marker read down to slot `first` the stream holds what it held, with its marker before
the slot, and the other streams of the block are as they were. -/
theorem Exchange.block_afterRead (hb : e.block name = .ok b) (hs : b.stream p = .ok s)
    (first : Nat) {α : Type} (a : α) :
    ∃ b' s', (e.afterRead name b p s first (.ok a)).block name = .ok b' ∧ b'.size = b.size ∧
      b'.stream p = .ok s' ∧ s'.held = s.held ∧ s'.unread = min s.unread first ∧
      (s.lost = false → s'.lost = false) ∧ ∀ q, q ≠ p → b'.stream q = b.stream q := by
  rw [afterRead]
  split
  next hnone =>
    exact ⟨b, s, hb, rfl, hs, rfl, (Nat.min_eq_left (Nat.le_of_lt hnone)).symm, id,
      fun _ _ => rfl⟩
  next =>
    exact ⟨_, s.taken first, block_setBlock_self (block_eq_ok_iff.mp hb).1, rfl,
      Block.stream_replace hs _, rfl, rfl, fun _ => rfl,
      fun q hq => Block.stream_replace_of_ne hq _⟩

theorem Exchange.block_afterRead_of_ne {other : String} (h : other ≠ name) (first : Nat) {α : Type}
    (result : Except Failure α) :
    (e.afterRead name b p s first result).block other = e.block other := by
  unfold afterRead
  split
  · split
    · rfl
    · exact block_setBlock_of_ne h _
  · rfl

end

/-- A marker read of an exchange is one of a stream. -/
theorem Exchange.perform_sinceMarker {e : Exchange} {b : Block} {s : Stream} {slot : Nat}
    (draw : String) {a : Address} (hb : e.block a.block = .ok b)
    (hs : b.stream (pair a) = .ok s) (hslot : slot < b.size) (room : Nat) (kind : Kind)
    (stamped : Bool) :
    e.perform draw (.sinceMarker a slot room kind stamped) =
      s.fetch slot room kind (stamped && b.stamped) >>= fun out => .ok (out.1,
        e.setBlock a.block { b with streams := b.streams.insert (pair a) out.2 }) := by
  rw [perform_sinceMarker_eq, hb]
  change b.fetch _ _ _ _ _ >>= _ = _
  rw [Block.fetch_eq, if_neg (Nat.not_le.mpr hslot), hs]
  change s.fetch _ _ _ _ >>= _ >>= _ = _
  cases s.fetch slot room kind (stamped && b.stamped) with
  | error status => rfl
  | ok out => rfl

end Engine

/-- The slot of an index that counts from the recent end. -/
theorem Slot.ofIndex_of_lt {slot capacity : Nat} (hlt : slot < capacity)
    (hcapacity : capacity < 0x8000000000000000) : ofIndex slot capacity = .ok slot := by
  rw [ofIndex, if_neg (Int.not_lt.mpr (Int.natCast_nonneg slot)), Word.toSigned_of_lt hcapacity]
  refine (if_neg ?_).trans (by rw [Int.toNat_natCast])
  omega

namespace Accessor

/-! ### What a marker read gives and leaves -/

section Reads

variable {draw : String} {a a' : Accessor} {b : Block} {e : Exchange} {s : Stream} {form : Form}
  {item topic : String} {policy : LossPolicy} {slot room : Nat}

/-- A marker read returns all samples that it has a count of, unless it is strict and learns of a
loss. -/
theorem markerAnswer_of_natAbs {found : MarkerRead} (hgot : found.got.natAbs = found.samples.length)
    (hpolicy : policy = .fail → 0 ≤ found.got) :
    markerAnswer form item topic policy found = found.samples.mapM (convert form) := by
  have hkeeps : ¬ (found.got < 0 ∧ policy = .fail) := fun h => Int.not_lt.mpr (hpolicy h.2) h.1
  rw [markerAnswer, if_neg hkeeps, hgot, List.take_length]

theorem run_fetchBehind (hb : e.block a.name = .ok b) (hs : b.stream ⟨item, topic⟩ = .ok s)
    (hle : s.unread ≤ s.records.length) (hslot : slot < b.size) (hneed : slot ≤ s.unread)
    (hroom : s.unread - slot ≤ room) (hpolicy : policy = .fail → s.lost = false) :
    let result := (s.behind slot).reverse.mapM (Record.readAs form (a.stamped && b.stamped))
    ((fetchBehind form item topic policy slot room a).start a').run (handler draw) e =
      ((result, a'), e.afterRead a.name b ⟨item, topic⟩ s slot result) := by
  intro result
  have hread : ((s.behind slot).reverse.mapM
      (Record.give form.kind (a.stamped && b.stamped))).mapError .ofStatus >>=
        (fun samples => samples.mapM (convert form)) = result :=
    (Reference.ofStream (a.stamped && b.stamped) s).mapM_give_bind_convert form _
  have hperform := perform_sinceMarker draw (a := a.address item topic) hb hs hslot room form.kind
    a.stamped
  rw [Stream.fetch_of_room hroom] at hperform
  rw [fetchBehind]
  cases hgive : (s.behind slot).reverse.mapM
      (Record.give form.kind (a.stamped && b.stamped)) with
  | error status =>
    rw [hgive] at hperform hread
    rw [run_query_bind_of_error (handler_of_perform_eq_error hperform), ← hread]
    rfl
  | ok samples =>
    rw [hgive] at hperform hread
    obtain ⟨points, hpoints, -⟩ := mapM_convert_of_give hgive
    have hlen : samples.length = s.unread - slot := by
      rw [← (mapM_eq_ok_iff.mp hgive).length_eq, List.length_reverse, Stream.length_behind hle]
    have hresult : result = .ok points := hread.symm.trans hpoints
    have hanswer : markerAnswer form item topic policy ⟨samples, if s.lost then
        -((s.unread - slot : Nat) : Int) else (s.unread - slot : Nat)⟩ = .ok points := by
      rw [← hpoints]
      refine markerAnswer_of_natAbs ?_ fun hfail => ?_
      · dsimp only
        split
        all_goals omega
      · rw [hpolicy hfail]
        exact Int.natCast_nonneg _
    rw [run_query_bind (handler_of_perform_eq_ok hperform), start_lift, hanswer, run_done, hresult,
      afterRead, if_neg (Nat.not_lt.mpr hneed)]
    rfl

/-- How many values lie between a marker and a slot. -/
theorem pending_eq {position : Int} (hposition : Word.IsSigned (position + 1))
    (hlow : -1 ≤ position) (hslot : slot < 0x8000000000000000) :
    pending position slot = .ok (position - slot + 1) := by
  obtain ⟨-, hhigh⟩ := hposition
  rw [pending, Word.toSigned_of_lt hslot, Word.subSigned_of_isSigned ⟨by omega, by omega⟩]
  exact Word.addSigned_of_isSigned ⟨by omega, by omega⟩

theorem run_readBehind (hb : e.block a.name = .ok b) (hs : b.stream ⟨item, topic⟩ = .ok s)
    (hsound : s.Sound b.size) (hsize : b.size ≤ maxBlockSize) (hslot : slot < b.size)
    (hfits : s.Fits slot a.margin) (hpolicy : policy = .fail → s.lost = false) :
    let result := (s.behind slot).reverse.mapM (Record.readAs form (a.stamped && b.stamped))
    ((readBehind form item topic policy slot a).start a').run (handler draw) e =
      ((result, a'), e.afterRead a.name b ⟨item, topic⟩ s slot result) := by
  intro result
  have hdirty : handler draw (.query (.markerDirty (a.address item topic))) e =
      ((.ok s.lost : Except Status Bool), e) :=
    handler_of_perform_eq_ok (outcome_readStream_eq_ok_iff.mpr ⟨b, s, hb, hs, rfl, rfl⟩)
  have hposition : handler draw (.query (.markerPosition (a.address item topic))) e =
      ((.ok s.position : Except Status Int), e) :=
    handler_of_perform_eq_ok (outcome_readStream_eq_ok_iff.mpr ⟨b, s, hb, hs, rfl, rfl⟩)
  have hclean : ¬ (s.lost = true ∧ policy = .fail) := by
    rintro ⟨hlost, hfail⟩
    simp [hpolicy hfail] at hlost
  have hunread : s.unread ≤ 1000000 :=
    Nat.le_trans hsound.unread_le (Nat.le_trans hsound.length_le hsize)
  have hword : slot < 1000000 := Nat.lt_of_lt_of_le hslot hsize
  have hpending : pending s.position slot = .ok (s.position - slot + 1) := by
    rw [Stream.position]
    exact pending_eq ⟨by omega, by omega⟩ (by omega) (by omega)
  rw [readBehind, run_query_bind hdirty, start_refuseLoss_bind, if_neg hclean,
    run_query_bind hposition, start_lift_bind, hpending]
  change ((if s.position - slot + 1 < 0 then _ else _ : Operation _).start a').run _ e = _
  -- A fetch is made also when the marker stands just before the slot, and then gives nothing.
  by_cases hneed : s.unread < slot
  · have hresult : result = .ok [] := by
      unfold result
      rw [Stream.behind_of_unread_le (Nat.le_of_lt hneed)]
      rfl
    rw [if_pos (by rw [Stream.position]; omega), hresult, afterRead, if_pos hneed]
    rfl
  · have hfew : ¬ s.position - slot + 1 < 0 := by
      rw [Stream.position]
      omega
    rw [if_neg hfew, start_lift_bind, Word.addUnsigned_of_isUnsigned (hfits (Int.not_lt.mp hfew))]
    refine run_fetchBehind hb hs hsound.unread_le hslot (Nat.not_lt.mp hneed) ?_ hpolicy
    rw [Stream.position]
    omega

/-- What a marker read gives and leaves, in a state in which the accessor accepts the names. -/
theorem run_sinceMarker {index : Int} (he : e.Sound) (hb : e.block a.name = .ok b)
    (hvalid : (((validate item topic).start a).run (handler draw) e).1 = (.ok b.size, a'))
    (hs : b.stream ⟨item, topic⟩ = .ok s) (hslot : Slot.ofIndex index b.size = .ok slot)
    (hfits : s.Fits slot a.margin) (hpolicy : policy = .fail → s.lost = false) :
    let result := (s.behind slot).reverse.mapM (Record.readAs form (a.stamped && b.stamped))
    ((sinceMarker form item topic index policy).start a).run (handler draw) e =
      ((result, a'), e.afterRead a.name b ⟨item, topic⟩ s slot result) := by
  intro result
  have hblock : b.Sound := he.of_block_eq_ok hb
  have hlt : slot < b.size := by
    have hsize : b.size ≤ 1000000 := hblock.size_le
    have hword := (Slot.of_ofIndex_eq_ok hslot).2
    rw [Word.toSigned_of_lt (by omega)] at hword
    omega
  obtain ⟨-, -, haccessor, -, -⟩ := of_run_validate hvalid
  have hname : a'.name = a.name := by rw [haccessor]
  have hstamped : a'.stamped = a.stamped := by rw [haccessor]
  have hmargin : a'.margin = a.margin := by rw [haccessor]
  rw [sinceMarker_eq, start_bind, run_bind, hvalid, run_validate_snd, andThen_ok, start_lift_bind,
    hslot, andThen_ok, start_get_bind, run_readBehind (hname ▸ hb) hs (hblock.of_stream_eq_ok hs)
    hblock.size_le hlt (hmargin ▸ hfits) hpolicy, hname, hstamped]

end Reads

/-! ### The margin -/

/-- The margin makes no difference to an operation. -/
def IgnoresMargin {α : Type} (op : Operation α) : Prop :=
  ∀ (a : Accessor) (margin : Nat), op.start { a with margin } =
    op.start a >>= fun out => .done (out.1, { out.2 with margin })

namespace IgnoresMargin

variable {α β : Type}

theorem bind {op : Operation α} {f : α → Operation β} (hop : IgnoresMargin op)
    (hf : ∀ v, IgnoresMargin (f v)) : IgnoresMargin (op >>= f) := fun a margin => by
  rw [start_bind, start_bind, hop, bind_assoc, bind_assoc]
  congr 1
  funext out
  obtain ⟨_ | v, a'⟩ := out
  · rfl
  · exact hf v a' margin

theorem get_bind {f : Accessor → Operation α} (hf : ∀ a, IgnoresMargin (f a))
    (hmargin : ∀ (a : Accessor) (margin : Nat), f { a with margin } = f a) :
    IgnoresMargin (get >>= f) := fun a margin => by
  rw [start_get_bind, start_get_bind, hmargin]
  exact hf a a margin

theorem onMembers (m : Inquiry Members α) : IgnoresMargin (onMembers m) := fun a margin => by
  rw [Accessor.onMembers, start_focus, start_focus, bind_assoc]
  rfl

theorem ensureOpen : IgnoresMargin ensureOpen := by
  refine get_bind (fun _ => ?_) fun _ _ => rfl
  split
  all_goals exact fun _ _ => rfl

theorem validate (item topic : String) : IgnoresMargin (validate item topic) := by
  refine ensureOpen.bind fun _ => get_bind (fun _ => ?_) fun _ _ => rfl
  refine (onMembers _).bind fun _ => (onMembers _).bind fun _ => ?_
  exact get_bind (fun _ _ _ => rfl) fun _ _ => rfl

end IgnoresMargin

/-! ### Marker reads and range reads -/

theorem start_validate_of_contains {a : Accessor} {item topic : String} (hopen : a.closed = false)
    (hitem : (a.members.names .item).contains item = true)
    (htopic : (a.members.names .topic).contains topic = true) :
    (validate item topic).start a = .done (.ok a.size, a) := by
  rw [validate, start_ensureOpen_bind, hopen, if_neg Bool.false_ne_true, start_get_bind, start_bind,
    Accessor.onMembers, start_focus, Members.start_validate_of_contains hitem, done_bind,
    done_bind, andThen_ok, start_bind, Accessor.onMembers, start_focus,
    Members.start_validate_of_contains htopic]
  rfl

section Between

variable {draw : String} {a a' : Accessor} {e : Exchange} {b : Block} {item topic : String}
  {s : Stream} {slot : Nat} {form : Form}

/-- After a marker read down to a slot has given its values, the same read gives nothing. -/
theorem run_sinceMarker_again {size : Nat} {index : Int} {policy : LossPolicy}
    (hvalid : (((validate item topic).start a).run (handler draw) e).1 = (.ok size, a'))
    (hslot : Slot.ofIndex index size = .ok slot) (hfits : s.Fits slot a.margin)
    (hpolicy : policy = .fail → s.lost = false) {e' : Exchange} (he' : e'.Sound) {b' : Block}
    (hb' : e'.block a.name = .ok b') (hsize' : b'.size = size) {s' : Stream}
    (hs' : b'.stream ⟨item, topic⟩ = .ok s') (hunread : s'.unread = min s.unread slot)
    (hlost : s.lost = false → s'.lost = false) :
    (((sinceMarker form item topic index policy).start a').run (handler draw) e').1.1 =
      .ok [] := by
  obtain ⟨hopen, hsize, haccessor, hitem, htopic⟩ := of_run_validate hvalid
  have hopen' : a'.closed = false := by rw [haccessor, hopen]
  have hname : a'.name = a.name := by rw [haccessor]
  have hmargin : a'.margin = a.margin := by rw [haccessor]
  have hvalid' : (((validate item topic).start a').run (handler draw) e').1 =
      (.ok b'.size, a') := by
    rw [start_validate_of_contains hopen' hitem htopic, run_done, hsize', hsize, haccessor]
  -- The marker is no farther from the slot than before, so that no more room is asked for.
  have hfits' : s'.Fits slot a'.margin := by
    intro hneed
    rw [Stream.position, hunread] at hneed ⊢
    have hroom := hfits (by rw [Stream.position]; omega)
    unfold Word.IsUnsigned at hroom ⊢
    omega
  rw [run_sinceMarker he' (hname ▸ hb') hvalid' hs' (hsize' ▸ hslot) hfits'
      fun hfail => hlost (hpolicy hfail),
    Stream.behind_of_unread_le (hunread ▸ Nat.min_le_right _ _)]
  rfl

variable (he : e.Sound) (hb : e.block a.name = .ok b)
  (hvalid : (((validate item topic).start a).run (handler draw) e).1 = (.ok b.size, a'))
  (hs : b.stream ⟨item, topic⟩ = .ok s)
include he hb hvalid hs

/-- A range read from a slot to the marker, which is not before it. -/
theorem run_range_position (hle : (slot : Int) ≤ s.position) (smart : Bool) :
    ((range form item topic slot s.position smart).start a).run (handler draw) e =
      (((s.behind slot).mapM (Record.readAs form (a.stamped && b.stamped)), a'), e) := by
  have hblock : b.Sound := he.of_block_eq_ok hb
  have hsound : s.Sound b.size := hblock.of_stream_eq_ok hs
  have hsize : b.size ≤ 1000000 := hblock.size_le
  have hunread : s.unread ≤ b.size := Nat.le_trans hsound.unread_le hsound.length_le
  rw [Stream.position] at hle ⊢
  have hlast : (s.unread : Int) - 1 = (s.unread - 1 : Nat) := by omega
  have hr : Slot.Range.ofIndices slot (s.unread - 1) b.size =
      .ok ⟨slot, s.unread - 1, s.unread - 1 - slot + 1⟩ := by
    rw [hlast, Slot.Range.ofIndices, Slot.ofIndex_of_lt (by omega) (by omega),
      Slot.ofIndex_of_lt (by omega) (by omega)]
    exact if_neg (by omega)
  rw [← Stream.points_position (by omega), ← Block.points_of_stream hs]
  cases smart with
  | true => exact run_smartRange hb hvalid hr hblock
  | false => rw [run_plainRange hb hvalid hr, if_neg (by dsimp only; omega)]

/-- A marker read that does not fail moves the marker before its slot and changes nothing else. -/
theorem of_run_sinceMarker_eq_ok {index : Int} {policy : LossPolicy}
    (hslot : Slot.ofIndex index b.size = .ok slot) (hfits : s.Fits slot a.margin)
    (hpolicy : policy = .fail → s.lost = false) {points : List (Point form.Carrier)}
    {left : Accessor} {e' : Exchange}
    (hread : ((sinceMarker form item topic index policy).start a).run (handler draw) e =
      ((.ok points, left), e')) :
    ∃ b' s', e'.block a.name = .ok b' ∧ b'.stream ⟨item, topic⟩ = .ok s' ∧
      s'.held = s.held ∧ s'.position = min s.position ((slot : Int) - 1) ∧
      (∀ p, p ≠ ⟨item, topic⟩ → b'.stream p = b.stream p) ∧
      (∀ name, name ≠ a.name → e'.block name = e.block name) ∧
      (((sinceMarker form item topic index policy).start left).run (handler draw) e').1.1 =
        .ok [] := by
  have he' : e'.Sound := by
    have hsound := he.call (.sinceMarker form item topic index policy) draw a
    rwa [Call.operation, hread] at hsound
  have hrun := hread.symm.trans (run_sinceMarker he hb hvalid hs hslot hfits hpolicy)
  obtain ⟨hresult, rfl⟩ := Prod.mk.inj hrun
  obtain ⟨hpoints, rfl⟩ := Prod.mk.inj hresult
  rw [← hpoints] at he' ⊢
  obtain ⟨b', s', hb', hsize', hs', hheld, hunread, hlost, hothers⟩ :=
    block_afterRead hb hs slot points
  refine ⟨b', s', hb', hs', hheld, ?_, hothers, fun name h => block_afterRead_of_ne h slot _, ?_⟩
  · rw [Stream.position, Stream.position, hunread]
    omega
  · exact run_sinceMarker_again hvalid hslot hfits hpolicy he' hb' hsize' hs' hunread hlost

end Between

/-- **A marker read is a reversed range read.** The exchange may be in any state that it can reach
with the accessor's block, of which the accessor remembers the capacity. Let the accessor accept an
item and a topic that the block has, and an index as a slot; let the room that it asks for be a
word, and either losses be accepted or the stream be clean. If the marker stands at the slot or
behind it, the read gives the values from the slot to the marker, as a range read does, plain or
smart, but oldest first; or it fails as the range read does. If the marker stands before the slot,
it gives nothing. When the read has not failed, the marker stands before the slot, the values are
where they were, no other stream has changed, and the same read gives nothing more. The margin makes
no difference. -/
theorem sinceMarker_reverses_range {draw : String} {a a' : Accessor} {e : Exchange}
    (he : e.Reachable) {b : Block} (hb : e.block a.name = .ok b) (hsize : a.size = b.size)
    {item topic : String}
    (hvalid : (((validate item topic).start a).run (handler draw) e).1 = (.ok a.size, a'))
    {s : Stream} (hs : b.stream ⟨item, topic⟩ = .ok s) {index : Int} {slot : Nat}
    (hslot : Slot.ofIndex index a.size = .ok slot) (hfits : s.Fits slot a.margin)
    {policy : LossPolicy} (hpolicy : policy = .fail → s.lost = false) (form : Form) :
    let read (x : Accessor) (y : Exchange) :=
      ((sinceMarker form item topic index policy).start x).run (handler draw) y
    let between (smart : Bool) :=
      ((range form item topic slot s.position smart).start a).run (handler draw) e
    ((slot : Int) ≤ s.position →
        ∀ smart, (read a e).1.1 = (between smart).1.1.map List.reverse) ∧
      (s.position < slot → (read a e).1.1 = .ok []) ∧
      (∀ points, (read a e).1.1 = .ok points → ∃ b' s', (read a e).2.block a.name = .ok b' ∧
        b'.stream ⟨item, topic⟩ = .ok s' ∧ s'.position = min s.position ((slot : Int) - 1) ∧
        s'.records = s.records ∧ s'.occupancy = s.occupancy ∧
        (∀ p, p ≠ ⟨item, topic⟩ → b'.stream p = b.stream p) ∧
        (∀ name, name ≠ a.name → (read a e).2.block name = e.block name) ∧
        (read (read a e).1.2 (read a e).2).1.1 = .ok []) ∧
      ∀ margin, s.Fits slot margin →
        (read { a with margin } e).1.1 = (read a e).1.1 ∧
          (read { a with margin } e).2 = (read a e).2 := by
  intro read between
  rw [hsize] at hvalid hslot
  have hread : read a e = _ := run_sinceMarker he.sound hb hvalid hs hslot hfits hpolicy
  refine ⟨fun hle smart => ?_, fun hlt => ?_, fun points hpoints => ?_, fun margin hmargin => ?_⟩
  · have hbetween : between smart = _ := run_range_position he.sound hb hvalid hs hle smart
    rw [hread, hbetween]
    exact mapM_reverse (fun _ _ => Record.eq_of_readAs_eq_error) _
  · rw [hread, Stream.behind_of_unread_le (by rw [Stream.position] at hlt; omega)]
    rfl
  · have hok : read a e = ((.ok points, (read a e).1.2), (read a e).2) := by rw [← hpoints]
    obtain ⟨b', s', hb', hs', hheld, hposition, hothers, hblocks, hagain⟩ :=
      of_run_sinceMarker_eq_ok he.sound hb hvalid hs hslot hfits hpolicy hok
    exact ⟨b', s', hb', hs', hposition, congrArg Recent.toList hheld, congrArg Recent.size hheld,
      hothers, hblocks, hagain⟩
  · have hvalid' : (((validate item topic).start { a with margin }).run (handler draw) e).1 =
        (.ok b.size, { a' with margin }) := by
      rw [IgnoresMargin.validate, run_bind, hvalid, run_done]
    have hread' : read { a with margin } e = _ :=
      run_sinceMarker he.sound hb hvalid' hs hslot hmargin hpolicy
    rw [hread, hread']
    exact ⟨rfl, rfl⟩

/-- Both values of a stream are read, strictly and then once more. -/
theorem sinceMarker_reverses_range_oneStream :
    let a := ofSettings "B" { size := 2, stamped := true }
    let a' := { a with members := ⟨NameSet.ofNames ["X"], NameSet.ofNames ["VOLUME"]⟩ }
    let e := oneStream.after (([1, 2] : List Int).map fun n =>
      .publish ⟨"X", "VOLUME"⟩ ⟨.long n, ⟨n, 0⟩⟩)
    let read (x : Accessor) (y : Exchange) :=
      ((sinceMarker .long "X" "VOLUME" (-2) .fail).start x).run (handler "") y
    (((validate "X" "VOLUME").start a).run (handler "") e).1 = (.ok 2, a') ∧
      (((range .long "X" "VOLUME" 0 1 true).start a).run (handler "") e).1.1 =
        .ok [⟨(2 : Int), some ⟨2, 0⟩⟩, ⟨(1 : Int), some ⟨1, 0⟩⟩] ∧
      (read a e).1.1 = .ok [⟨(1 : Int), some ⟨1, 0⟩⟩, ⟨(2 : Int), some ⟨2, 0⟩⟩] ∧
      (read { a with margin := 0 } e).1.1 = (read a e).1.1 ∧
      (read (read a e).1.2 (read a e).2).1.1 = .ok [] := by
  intro a a' e read
  have he : e.Reachable := Reachable.after ⟨_, rfl⟩ _
  obtain ⟨b, s, hb, hsize, hstamped, hs, hrecords, hposition, hlost⟩ : ∃ b s,
      e.block a.name = .ok b ∧ a.size = b.size ∧ b.stamped = true ∧
      b.stream ⟨"X", "VOLUME"⟩ = .ok s ∧ s.records = [⟨.long 2, ⟨2, 0⟩⟩, ⟨.long 1, ⟨1, 0⟩⟩] ∧
      s.position = 1 ∧ s.lost = false :=
    ⟨_, _, rfl, rfl, rfl, rfl, rfl, rfl, rfl⟩
  have hvalid : (((validate "X" "VOLUME").start a).run (handler "") e).1 = (.ok 2, a') := by
    decide +kernel
  have hslot : Slot.ofIndex (-2) 2 = .ok 0 := by decide
  have hr : Slot.Range.ofIndices 0 1 2 = .ok ⟨0, 1, 2⟩ := by decide
  have hfits (margin : Nat) (h : margin ≤ 100) : s.Fits 0 margin := fun _ => by
    rw [hposition, Word.IsUnsigned]
    omega
  have hrange : (((range .long "X" "VOLUME" 0 1 true).start a).run (handler "") e).1.1 =
      .ok [⟨(2 : Int), some ⟨2, 0⟩⟩, ⟨(1 : Int), some ⟨1, 0⟩⟩] := by
    rw [run_smartRange hb hvalid hr (he.sound.of_block_eq_ok hb), Block.points_of_stream hs,
      Stream.points, hrecords, hstamped]
    rfl
  obtain ⟨hreverse, -, hafter, hmargin⟩ := sinceMarker_reverses_range he hb hsize hvalid hs hslot
    (hfits 100 (Nat.le_refl _)) (fun _ : LossPolicy.fail = .fail => hlost) .long
  beta_reduce at hreverse hafter hmargin
  rw [hposition, Int.natCast_zero] at hreverse
  have hread := hreverse (by decide) true
  rw [hrange] at hread
  obtain ⟨_, _, -, -, -, -, -, -, -, hagain⟩ := hafter _ hread
  unfold read
  exact ⟨hvalid, hrange, hread, (hmargin 0 (hfits 0 (Nat.zero_le _))).1, hagain⟩

end Accessor

end TickerTape
