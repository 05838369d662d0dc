import Mathlib.Data.List.Nodup
import TickerTape.Proofs.FailedCalls
import TickerTape.Proofs.HeldBlock
import TickerTape.Proofs.SmartReads

/-!
# Frames and single reads

A frame is read in one request, over all names of a block, and a reader then converts its cells. A
single read asks for slot `0` of one stream. Both come to the most recent records: the frame has a
cell for each stream with a record, equal to what the single read gives, and it fails when one of
the cells would. The frames of all items are, cell by cell, those of all topics as text.

## Main definitions

* `TickerTape.Table.collect` — the results of steps that may fail, as a table.
* `TickerTape.Engine.Stream.newest` — what a reader gets of a stream.
* `TickerTape.Engine.Block.newest` — the most recent records that a frame goes through.
* `TickerTape.Engine.Block.frameAs` — the frame that a reader gets.

## Main results

* `TickerTape.Engine.Block.frame_bind_frameOf` — a frame is made of the most recent records.
* `TickerTape.Accessor.Informed.answers_latest`, `TickerTape.Accessor.Informed.answers_itemFrame`,
  `TickerTape.Accessor.Informed.answers_topicFrame`,
  `TickerTape.Accessor.Informed.answers_allFrames` — the four reads.
* `TickerTape.Accessor.Client.frames_agree` — they agree.
-/

namespace TickerTape

open Engine Exchange Inquiry Accessor

/-! ### Tables of results -/

section Results

variable {α β γ ε : Type} {x : Except ε α}

theorem map_eq_ok_iff {g : α → β} {b : β} : x.map g = .ok b ↔ ∃ a, x = .ok a ∧ g a = b := by
  cases x with
  | error y => exact ⟨nofun, nofun⟩
  | ok a => simp [Except.map]

theorem map_eq_error_iff {g : α → β} {y : ε} : x.map g = .error y ↔ x = .error y := by
  cases x with
  | error z => simp [Except.map]
  | ok a => exact ⟨nofun, nofun⟩

/-- The results of steps of a list are those of its members. -/
theorem mem_iff_of_mapM_eq_ok {f : α → Except ε β} {as : List α} {bs : List β}
    (h : as.mapM f = .ok bs) {b : β} : b ∈ bs ↔ ∃ a ∈ as, f a = .ok b := by
  rw [mapM_eq_ok_iff] at h
  induction h with
  | nil => simp
  | cons hab _ ih => simp [ih, hab, eq_comm]

theorem exists_of_mapM_eq_ok {f : α → Except ε β} {as : List α} {bs : List β}
    (h : as.mapM f = .ok bs) {a : α} (ha : a ∈ as) : ∃ b, f a = .ok b := by
  rw [mapM_eq_ok_iff] at h
  induction h with
  | nil => contradiction
  | cons hab _ ih =>
    rcases List.mem_cons.mp ha with rfl | ha
    · exact ⟨_, hab⟩
    · exact ih ha

/-- Steps that may have no result are those of the members that have one. -/
theorem mapM_bind_filterMap {f : α → Except ε (Option β)} {g : α → Option γ} {h : γ → Except ε β}
    {as : List α} (hf : ∀ a ∈ as, f a = (g a).elim (.ok none) fun c => (h c).map some) :
    (as.mapM f >>= fun bs => pure (bs.filterMap id)) = (as.filterMap g).mapM h := by
  induction as with
  | nil => rfl
  | cons a as ih =>
    have ih := ih fun a' ha' => hf a' (List.mem_cons_of_mem _ ha')
    rw [List.mapM_cons, List.filterMap_cons, hf a List.mem_cons_self]
    cases g a with
    | none =>
      rw [← ih]
      cases as.mapM f with
      | error x => rfl
      | ok bs => rfl
    | some c =>
      rw [List.mapM_cons, ← ih, Option.elim_some]
      cases h c with
      | error x => rfl
      | ok b =>
        cases as.mapM f with
        | error x => rfl
        | ok bs => rfl

/-- Two steps for each member, the second of which cannot fail, may be made at once. -/
theorem mapM_mapError_bind_mapM {δ : Type} {f : α → Except ε β} {g : ε → δ} {h : β → Except δ γ}
    {k : α → Except δ γ} {as : List α}
    (hf : ∀ a ∈ as, (∃ y, f a = .error y ∧ k a = .error (g y)) ∨
      ∃ b c, f a = .ok b ∧ h b = .ok c ∧ k a = .ok c) :
    ((as.mapM f).mapError g >>= fun bs => bs.mapM h) = as.mapM k := by
  induction as with
  | nil => rfl
  | cons a as ih =>
    rw [List.mapM_cons, List.mapM_cons, ← ih fun a' ha' => hf a' (List.mem_cons_of_mem _ ha')]
    obtain ⟨y, hy, hk⟩ | ⟨b, c, hb, hc, hk⟩ := hf a List.mem_cons_self
    · rw [hy, hk]
      rfl
    · rw [hb, hk]
      cases as.mapM f with
      | error y => rfl
      | ok bs =>
        change (b :: bs).mapM h = _
        rw [List.mapM_cons, hc]
        rfl

theorem keys_of_mapM_eq_ok {κ : Type} {key : α → κ} {f : α → Except ε β} {as : List α}
    {cells : List (κ × β)} (h : as.mapM (fun a => (f a).map (key a, ·)) = .ok cells) :
    cells.map (·.1) = as.map key := by
  rw [mapM_eq_ok_iff] at h
  induction h with
  | nil => rfl
  | cons hstep _ ih =>
    obtain ⟨b, -, rfl⟩ := map_eq_ok_iff.mp hstep
    rw [List.map_cons, List.map_cons, ih]

end Results

namespace Table

variable {α β ε κ : Type} [Ord κ] [Std.TransOrd κ] [Std.LawfulEqOrd κ]
  {key : α → κ} {f : α → Except ε β} {as : List α} {t : Table κ β}

variable (key f as) in
/-- The results of steps that may fail, one for each member of a list and under its key. -/
def collect : Except ε (Table κ β) := (as.mapM fun a => (f a).map (key a, ·)).map ofList

theorem exists_of_collect_eq_error {x : ε} (h : collect key f as = .error x) :
    ∃ a ∈ as, f a = .error x := by
  obtain ⟨a, ha, hstep⟩ := exists_of_mapM_eq_error (map_eq_error_iff.mp h)
  exact ⟨a, ha, map_eq_error_iff.mp hstep⟩

theorem exists_collect_eq_ok_iff :
    (∃ t, collect key f as = .ok t) ↔ ∀ a ∈ as, ∃ b, f a = .ok b := by
  constructor
  · rintro ⟨t, ht⟩ a ha
    obtain ⟨cells, hcells, -⟩ := map_eq_ok_iff.mp ht
    obtain ⟨cell, hcell⟩ := exists_of_mapM_eq_ok hcells ha
    obtain ⟨b, hb, -⟩ := map_eq_ok_iff.mp hcell
    exact ⟨b, hb⟩
  · intro hf
    cases h : collect key f as with
    | ok t => exact ⟨t, rfl⟩
    | error x =>
      obtain ⟨a, ha, hx⟩ := exists_of_collect_eq_error h
      obtain ⟨b, hb⟩ := hf a ha
      rw [hx] at hb
      contradiction

/-- When no key comes twice the table has the result of each member. -/
theorem get?_of_collect [DecidableEq κ] (h : collect key f as = .ok t) (hkeys : (as.map key).Nodup)
    {k : κ} {b : β} : t.get? k = some b ↔ ∃ a ∈ as, key a = k ∧ f a = .ok b := by
  obtain ⟨cells, hcells, rfl⟩ := map_eq_ok_iff.mp h
  have hnodup : (cells.map (·.1)).Nodup := by
    rwa [keys_of_mapM_eq_ok hcells]
  rw [get?_ofList, lookup_eq_some_iff (by rwa [List.map_reverse, List.nodup_reverse]),
    List.mem_reverse, mem_iff_of_mapM_eq_ok hcells]
  simp only [map_eq_ok_iff, Prod.mk.injEq]
  constructor
  · rintro ⟨a, ha, b, hb, rfl, rfl⟩
    exact ⟨a, ha, rfl, hb⟩
  · rintro ⟨a, ha, rfl, hb⟩
    exact ⟨a, ha, b, hb, rfl, rfl⟩

end Table

/-! ### The most recent records -/

namespace Engine

/-- The most recent record of a stream as a reader wants it. -/
def Stream.newest (s : Stream) (form : Form) (stamped : Bool) :
    Except Failure (Point form.Carrier) :=
  match s.records.head? with
  | some r => r.readAs form stamped
  | none => .error (.fault (.callFailed .getData))

theorem Stream.newest_of_head? {s : Stream} {r : Record} (hr : s.records.head? = some r)
    (form : Form) (stamped : Bool) : s.newest form stamped = r.readAs form stamped := by
  rw [newest, hr]

/-- A reader gets no record of a stream without records. -/
theorem Stream.exists_of_newest_eq_ok {s : Stream} {form : Form} {stamped : Bool}
    {point : Point form.Carrier} (h : s.newest form stamped = .ok point) :
    ∃ r, s.records.head? = some r ∧ r.readAs form stamped = .ok point := by
  rw [newest] at h
  split at h
  next r hr => exact ⟨r, hr, h⟩
  next => contradiction

namespace Block

/-- The block has the stream of a pair, with a record in it. -/
def IsFilled (b : Block) (p : Pair) : Prop := ∃ s, b.stream p = .ok s ∧ s.records ≠ []

/-- The most recent records of the streams of `name`, each with its name of the kind `axis`. -/
def newest (b : Block) (axis : Axis) (name : String) : List (String × Record) :=
  (b.names axis).keys.filterMap fun other =>
    ((b.streams.get? (Pair.along axis other name)).bind (·.records.head?)).map (other, ·)

/-- The frame that a reader makes of the most recent records. -/
def frameAs (b : Block) (axis : Axis) (name : String) (form : Form) (stamped : Bool) :
    Except Failure (Frame form) :=
  Table.collect (fun cell : String × Record => cell.1)
    (fun cell => cell.2.readAs form (stamped && b.stamped)) (b.newest axis name)

variable {b : Block} {axis : Axis} {name other : String} {form : Form} {stamped : Bool}

theorem mem_newest_iff (hname : (b.names axis.other).contains name = true) {r : Record} :
    (other, r) ∈ b.newest axis name ↔
      ∃ s, b.stream (Pair.along axis other name) = .ok s ∧ s.records.head? = some r := by
  have hstream (s : Stream) : b.stream (Pair.along axis other name) = .ok s ↔
      other ∈ (b.names axis).keys ∧ b.streams.get? (Pair.along axis other name) = some s := by
    rw [stream_eq_ok_iff, ← and_assoc, contains_pair_iff b axis, Pair.get_along,
      Pair.get_other_along, ← Table.contains_iff]
    simp [hname]
  simp only [newest, List.mem_filterMap, Option.map_eq_some_iff, Option.bind_eq_some_iff, hstream]
  constructor
  · rintro ⟨_, hother, _, ⟨s, hs, hr⟩, h⟩
    cases h
    exact ⟨s, ⟨hother, hs⟩, hr⟩
  · rintro ⟨s, ⟨hother, hs⟩, hr⟩
    exact ⟨other, hother, r, ⟨s, hs, hr⟩, rfl⟩

theorem nodup_newest (b : Block) (axis : Axis) (name : String) :
    ((b.newest axis name).map (·.1)).Nodup := by
  rw [newest, List.map_filterMap]
  refine List.Nodup.filterMap (fun x y z hx hy => ?_) (b.names axis).nodup_keys
  simp only [Option.map_map, Option.mem_def, Option.map_eq_some_iff, Function.comp_apply] at hx hy
  obtain ⟨_, -, rfl⟩ := hx
  obtain ⟨_, -, rfl⟩ := hy
  rfl

/-! ### Frames of the most recent records -/

/-- What a block gives for a frame: its most recent records. -/
theorem frame_eq (hb : b.Sound) (hname : (b.live axis.other).contains name = true) (kind : Kind)
    (stamped : Bool) : b.frame axis name kind stamped =
      (b.newest axis name).mapM fun cell => (b.give kind stamped cell.2).map (cell.1, ·) := by
  obtain ⟨hsome, hname⟩ := contains_live_iff.mp hname
  rw [Axis.other_other] at hsome
  have hrefused : (!b.isLive || !(b.names axis.other).contains name) = false := by
    rw [isLive_eq b axis, hsome, Table.isEmpty_of_contains hname, hname]
    rfl
  rw [frame, hrefused, if_neg Bool.false_ne_true, newest]
  have hstreams : ∀ other ∈ (b.names axis).keys, ∃ s,
      b.stream (Pair.along axis other name) = .ok s ∧
        b.streams.get? (Pair.along axis other name) = some s := by
    intro other hother
    have hpair : (b.names axis).contains ((Pair.along axis other name).get axis) = true ∧
        (b.names axis.other).contains ((Pair.along axis other name).get axis.other) = true := by
      rw [Pair.get_along, Pair.get_other_along]
      exact ⟨Table.contains_iff.mpr hother, hname⟩
    obtain ⟨hitem, htopic⟩ := (contains_pair_iff b axis _).mpr hpair
    obtain ⟨s, hs, -⟩ := hb.exists_stream hitem htopic
    exact ⟨s, hs, (stream_eq_ok_iff.mp hs).2.2⟩
  refine mapM_bind_filterMap fun other hother => ?_
  obtain ⟨s, hs, hget⟩ := hstreams other hother
  have hrecord : s.record? 0 = s.records.head? := by
    rw [s.record?_eq, List.head?_eq_getElem?]
  rw [hs, hget, Option.bind_some, ← hrecord]
  change (match s.record? 0 with | some r => _ | none => _) = _
  cases s.record? 0 with
  | none => rfl
  | some r =>
    change (b.give kind stamped r >>= fun sample => pure (some (other, sample))) =
      ((b.give kind stamped r).map (other, ·)).map some
    cases b.give kind stamped r with
    | error status => rfl
    | ok sample => rfl

/-- A reader makes its frame of what a block gives for it. -/
theorem frame_bind_frameOf (hb : b.Sound) (hname : (b.live axis.other).contains name = true) :
    (b.frame axis name form.kind stamped).mapError .ofStatus >>= frameOf form =
      b.frameAs axis name form stamped := by
  have hframe (x : Except Failure (List (String × Sample))) : x >>= frameOf form =
      (x >>= fun cells => cells.mapM fun cell => (convert form cell.2).map (cell.1, ·)).map
        Table.ofList := by
    cases x with
    | error failure => rfl
    | ok cells => rfl
  rw [frame_eq hb hname, frameAs, Table.collect, hframe]
  refine congrArg (Except.map Table.ofList) (mapM_mapError_bind_mapM fun cell _ => ?_)
  obtain ⟨hgive, hread⟩ | ⟨sample, point, hgive, hconvert, hread⟩ :=
    (Reference.ofStream (stamped && b.stamped) .empty).give_cases form cell.2
  · exact .inl ⟨.dataType, congrArg _ hgive, congrArg _ hread⟩
  · exact .inr ⟨(cell.1, sample), (cell.1, point), congrArg _ hgive, congrArg _ hconvert,
      congrArg _ hread⟩

theorem live_of_stream_eq_ok {item topic : String} {s : Stream}
    (hs : b.stream ⟨item, topic⟩ = .ok s) :
    (b.live .item).contains item = true ∧ (b.live .topic).contains topic = true := by
  obtain ⟨hitem, htopic, -⟩ := stream_eq_ok_iff.mp hs
  exact ⟨contains_live_iff.mpr ⟨Table.isEmpty_of_contains htopic, hitem⟩,
    contains_live_iff.mpr ⟨Table.isEmpty_of_contains hitem, htopic⟩⟩

/-- A reader gets the most recent record from slot `0`. -/
theorem value_bind_convert (hb : b.Sound) {p : Pair} {s : Stream} (hs : b.stream p = .ok s) :
    (b.value p 0 form.kind stamped).mapError .ofStatus >>= convert form =
      s.newest form (stamped && b.stamped) := by
  have hrecord : s.record? 0 = s.records.head? := by
    rw [s.record?_eq, List.head?_eq_getElem?]
  rw [value, if_neg (Nat.not_le.mpr hb.one_le_size), hs, Stream.newest, ← hrecord]
  change (match s.record? 0 with | some r => _ | none => _ : Except Status Sample).mapError _
    >>= _ = _
  cases s.record? 0 with
  | none => rfl
  | some r => exact (Reference.ofStream (stamped && b.stamped) s).give_bind_convert form r

section Names

variable (hname : (b.names axis.other).contains name = true)
include hname

/-- The cells of a frame are what the reader gets of the streams. -/
theorem get?_of_frameAs {frame : Frame form} (h : b.frameAs axis name form stamped = .ok frame)
    {point : Point form.Carrier} : frame.get? other = some point ↔
      ∃ s, b.stream (Pair.along axis other name) = .ok s ∧
        s.newest form (stamped && b.stamped) = .ok point := by
  rw [Table.get?_of_collect h (b.nodup_newest axis name)]
  constructor
  · rintro ⟨⟨other, r⟩, hmem, rfl, hr⟩
    obtain ⟨s, hs, hhead⟩ := (mem_newest_iff hname).mp hmem
    exact ⟨s, hs, (Stream.newest_of_head? hhead form _).trans hr⟩
  · rintro ⟨s, hs, hpoint⟩
    obtain ⟨r, hhead, hr⟩ := Stream.exists_of_newest_eq_ok hpoint
    exact ⟨(other, r), (mem_newest_iff hname).mpr ⟨s, hs, hhead⟩, rfl, hr⟩

/-- There is a frame if the most recent record of no stream is of another kind. -/
theorem exists_frameAs_eq_ok_iff : (∃ frame, b.frameAs axis name form stamped = .ok frame) ↔
    ∀ other s, b.stream (Pair.along axis other name) = .ok s →
      s.newest form (stamped && b.stamped) ≠ .error (.fault (.callFailed .dataType)) := by
  rw [frameAs, Table.exists_collect_eq_ok_iff]
  constructor
  · intro h other s hs hnewest
    rw [Stream.newest] at hnewest
    split at hnewest
    next r hr =>
      obtain ⟨point, hpoint⟩ := h (other, r) ((mem_newest_iff hname).mpr ⟨s, hs, hr⟩)
      rw [hnewest] at hpoint
      contradiction
    next =>
      cases hnewest
  · rintro h ⟨other, r⟩ hmem
    obtain ⟨s, hs, hhead⟩ := (mem_newest_iff hname).mp hmem
    have hne := h other s hs
    rw [Stream.newest_of_head? hhead] at hne
    cases hr : r.readAs form (stamped && b.stamped) with
    | ok point => exact ⟨point, rfl⟩
    | error failure => exact absurd (Record.eq_of_readAs_eq_error hr ▸ hr) hne

/-- A frame has cells for exactly the streams with records. -/
theorem contains_of_frameAs {frame : Frame form}
    (h : b.frameAs axis name form stamped = .ok frame) :
    frame.contains other = true ↔ b.IsFilled (Pair.along axis other name) := by
  rw [Table.contains_eq_true_iff]
  constructor
  · rintro ⟨point, hpoint⟩
    obtain ⟨s, hs, hnewest⟩ := (get?_of_frameAs hname h).mp hpoint
    obtain ⟨r, hhead, -⟩ := Stream.exists_of_newest_eq_ok hnewest
    exact ⟨s, hs, fun hempty => by rw [hempty] at hhead; contradiction⟩
  · rintro ⟨s, hs, hfilled⟩
    have hne := (exists_frameAs_eq_ok_iff hname).mp ⟨frame, h⟩ other s hs
    obtain ⟨r, hhead⟩ := Option.isSome_iff_exists.mp (List.isSome_head?.mpr hfilled)
    cases hr : s.newest form (stamped && b.stamped) with
    | ok point => exact ⟨point, (get?_of_frameAs hname h).mpr ⟨s, hs, hr⟩⟩
    | error failure =>
      have hread := Stream.newest_of_head? hhead form (stamped && b.stamped)
      rw [hr] at hread
      exact absurd (Record.eq_of_readAs_eq_error hread.symm ▸ hr) hne

end Names

/-- There is no other failure of a frame. -/
theorem eq_of_frameAs_eq_error {failure : Failure}
    (h : b.frameAs axis name form stamped = .error failure) :
    failure = .fault (.callFailed .dataType) := by
  obtain ⟨cell, -, hcell⟩ := Table.exists_of_collect_eq_error h
  exact Record.eq_of_readAs_eq_error hcell

/-- Every record can be read as text. -/
theorem exists_frameAs_text (b : Block) (axis : Axis) (name : String) (stamped : Bool) :
    ∃ frame, b.frameAs axis name .text stamped = .ok frame :=
  Table.exists_collect_eq_ok_iff.mpr fun _ _ => ⟨_, rfl⟩

end Block

end Engine

/-- In a stream that has slots the index `0` names the slot `0`. -/
theorem Slot.ofIndex_zero {capacity : Nat} (hpos : 1 ≤ capacity)
    (hle : capacity ≤ maxBlockSize) : Slot.ofIndex 0 capacity = .ok 0 := by
  have hword : capacity < 0x8000000000000000 := Nat.lt_of_le_of_lt hle (by decide)
  have hin : ¬ ((0 : Int) < 0 ∨ (capacity : Int) ≤ 0) := by omega
  rw [ofIndex, Word.toSigned_of_lt hword]
  exact if_neg hin

namespace Accessor

/-! ### The four reads -/

namespace Informed

variable {a : Accessor} {b : Block} {e : Exchange} {draw : String} {item topic : String}
  {s : Stream}

theorem answers_validateName (h : Informed a b e) (axis : Axis) (name : String) :
    Answers draw a e (onMembers (Members.validate a.name axis name))
      ((Members.unknown axis name).unless ((b.live axis).contains name)) :=
  run_onMembers (Members.run_validate h.block_eq (h.members_eq axis) name)

/-- A name that the block streams is accepted. -/
theorem answers_validateName_bind (h : Informed a b e) {axis : Axis} {name : String} {α : Type}
    {f : Unit → Operation α} {x : Except Failure α} (hname : (b.live axis).contains name = true)
    (hf : Answers draw a e (f ()) x) :
    Answers draw a e (onMembers (Members.validate a.name axis name) >>= f) x := by
  have hvalidate : Answers draw a e (onMembers (Members.validate a.name axis name)) _ :=
    h.answers_validateName axis name
  rw [hname] at hvalidate
  exact hvalidate.bind (y := fun _ => x) fun _ _ => hf

/-- The names of a stream are accepted. -/
theorem answers_validate (h : Informed a b e) (hs : b.stream ⟨item, topic⟩ = .ok s) :
    Answers draw a e (validate item topic) (.ok a.size) := by
  obtain ⟨hitem, htopic⟩ := Block.live_of_stream_eq_ok hs
  refine .ensureOpen_bind h.isOpen (.get_bind ?_)
  exact h.answers_validateName_bind hitem (h.answers_validateName_bind htopic rfl)

/-- A single read gives the most recent record of a stream. -/
theorem answers_latest (h : Informed a b e) (hs : b.stream ⟨item, topic⟩ = .ok s) (form : Form) :
    Answers draw a e (latest form item topic) (s.newest form (a.stamped && b.stamped)) := by
  refine (h.answers_validate hs).bind (y := fun _ => s.newest form (a.stamped && b.stamped))
    fun size hsize => ?_
  cases hsize
  rw [Slot.ofIndex_zero h.one_le_size h.size_le]
  refine .lift_ok_bind (.get_bind ?_)
  rw [← Block.value_bind_convert h.sound hs]
  exact (Answers.query_block draw h.block_eq
    (q := .value (a.address item topic) 0 form.kind a.stamped)
    (fun b => b.value ⟨item, topic⟩ 0 form.kind a.stamped) rfl).bind fun sample _ => .lift _

/-- The frame of a topic has the most recent records of its items. -/
theorem answers_itemFrame (h : Informed a b e) (form : Form) (topic : String) :
    Answers draw a e (itemFrame form topic)
      ((Fault.unknownTopic topic).unless ((b.live .topic).contains topic) >>= fun _ =>
        b.frameAs .item topic form a.stamped) := by
  refine .ensureOpen_bind h.isOpen (.get_bind ?_)
  refine (h.answers_validateName .topic topic).bind fun _ hname => ?_
  have htopic : (b.live Axis.item.other).contains topic = true :=
    Fault.unless_eq_ok_iff.mp hname
  rw [← Block.frame_bind_frameOf h.sound htopic]
  exact (Answers.query_block draw h.block_eq (q := .itemFrame a.name topic form.kind a.stamped)
    (fun b => b.frame .item topic form.kind a.stamped) rfl).bind fun cells _ => .lift _

/-- The frame of an item has the most recent records of its topics. -/
theorem answers_topicFrame (h : Informed a b e)
    (hitem : (b.live Axis.topic.other).contains item = true) :
    Answers draw a e (topicFrame item) (b.frameAs .topic item .text a.stamped) := by
  refine .ensureOpen_bind h.isOpen (.get_bind (h.answers_validateName_bind hitem ?_))
  rw [← Block.frame_bind_frameOf h.sound hitem]
  exact (Answers.query_block draw h.block_eq (q := .topicFrame a.name item a.stamped)
    (fun b => b.frame .topic item .text a.stamped) rfl).bind fun cells _ => .lift _

/-- Reading the names anew changes nothing. -/
theorem answers_readMembers (h : Informed a b e) (axis : Axis) :
    Answers draw a e (readMembers axis) (.ok (b.live axis)) := by
  have hrefresh : ((Members.refresh a.name axis).start a.members).run (handler draw) e =
      ((.ok (), a.members), e) := by
    rw [Members.run_refresh h.block_eq, ← h.members_eq, Members.setNames_self]
  have hmembers : Answers draw a e (onMembers (Members.refresh a.name axis)) (.ok ()) :=
    run_onMembers hrefresh
  refine .ensureOpen_bind h.isOpen (.get_bind ?_)
  refine hmembers.bind (y := fun _ => .ok (b.live axis)) fun _ _ => ?_
  rw [← h.members_eq]
  rfl

theorem answers_framesOf (h : Informed a b e) {items : List String}
    (hitems : ∀ item ∈ items, (b.live .item).contains item = true) :
    Answers draw a e (framesOf items)
      (items.mapM fun item => (b.frameAs .topic item .text a.stamped).map (item, ·)) := by
  induction items with
  | nil => rfl
  | cons item items ih =>
    obtain ⟨frame, hframe⟩ := b.exists_frameAs_text .topic item a.stamped
    have hanswer : Answers draw a e (topicFrame item) _ :=
      h.answers_topicFrame (hitems item List.mem_cons_self)
    rw [hframe] at hanswer
    rw [List.mapM_cons, hframe]
    refine hanswer.bind (y := fun frame => _ >>= fun frames => .ok ((item, frame) :: frames))
      fun frame _ => ?_
    exact (ih fun item hitem => hitems item (List.mem_cons_of_mem _ hitem)).bind
      (y := fun frames => .ok ((item, frame) :: frames)) fun frames _ => rfl

/-- All frames are those of the items that the block streams. -/
theorem answers_allFrames (h : Informed a b e) :
    Answers draw a e allFrames
      (Table.collect id (fun item => b.frameAs .topic item .text a.stamped)
        (b.live .item).keys) := by
  refine (h.answers_readMembers .item).bind (y := fun _ => _) fun items hitems => ?_
  cases hitems
  have hframes : Answers draw a e (framesOf (b.live .item).keys) _ :=
    h.answers_framesOf fun item hitem => Table.contains_iff.mpr hitem
  exact hframes.bind (y := fun frames => .ok (Table.ofList frames)) fun frames _ => rfl

end Informed

namespace Client

/-! ### Frames agree with single reads -/

/-- What an operation answers in a state. -/
def read {α : Type} (w : Client) (draw : String) (op : Operation α) : Except Failure α :=
  ((op.start w.accessor).run (handler draw) w.exchange).1.1

theorem read_eq {α : Type} {w : Client} {draw : String} {op : Operation α} {x : Except Failure α}
    (h : Answers draw w.accessor w.exchange op x) : w.read draw op = x := by
  rw [read, h]

/-- A frame has a cell for exactly the names whose stream with `name` has a record, and each cell is
what a single read gives. -/
def Framed (w : Client) (draw : String) (b : Block) (axis : Axis) (name : String) {form : Form}
    (frame : Frame form) : Prop :=
  ∀ other, let p := Pair.along axis other name
    (frame.contains other = true ↔ b.IsFilled p) ∧
      ∀ point, frame.get? other = some point →
        w.read draw (latest form p.item p.topic) = .ok point

section Agreement

variable {w : Client} {b : Block} {axis : Axis} {name : String} {form : Form} {draw : String}
  (h : Informed w.accessor b w.exchange)
include h

theorem framed_of_frameAs (hname : (b.names axis.other).contains name = true) {frame : Frame form}
    (hframe : b.frameAs axis name form w.accessor.stamped = .ok frame) :
    w.Framed draw b axis name frame := by
  refine fun other => ⟨Block.contains_of_frameAs hname hframe, fun point hpoint => ?_⟩
  obtain ⟨s, hs, hnewest⟩ := (Block.get?_of_frameAs hname hframe).mp hpoint
  exact (read_eq (h.answers_latest hs form)).trans hnewest

/-- The frame of a topic fails if a single read of one of its items finds a record of another
kind. -/
theorem exists_itemFrame_iff {topic : String} (htopic : (b.live .topic).contains topic = true) :
    (∃ frame, b.frameAs .item topic form w.accessor.stamped = .ok frame) ↔
      ∀ item, (b.live .item).contains item = true →
        w.read draw (latest form item topic) ≠ .error (.fault (.callFailed .dataType)) := by
  have hname : (b.names Axis.item.other).contains topic = true :=
    (Block.contains_live_iff.mp htopic).2
  rw [Block.exists_frameAs_eq_ok_iff hname]
  constructor
  · intro hne item hitem
    obtain ⟨s, hs, -⟩ := h.sound.exists_stream (p := ⟨item, topic⟩)
      (Block.contains_live_iff.mp hitem).2 hname
    rw [read_eq (h.answers_latest hs form)]
    exact hne item s hs
  · intro hne item s hs
    have hread : w.read draw (latest form item topic) = _ := read_eq (h.answers_latest hs form)
    rw [← hread]
    exact hne item (Block.live_of_stream_eq_ok hs).1

/-- What all frames and the frame of a topic have of one stream. -/
theorem get?_itemFrame_text (item topic : String) {point : Point Form.text.Carrier} :
    (w.read draw (itemFrame .text topic)).toOption.bind (·.get? item) = some point ↔
      ∃ s, b.stream ⟨item, topic⟩ = .ok s ∧
        s.newest .text (w.accessor.stamped && b.stamped) = .ok point := by
  rw [read_eq (h.answers_itemFrame .text topic)]
  cases htopic : (b.live .topic).contains topic with
  | true =>
    have hname : (b.names Axis.item.other).contains topic = true :=
      (Block.contains_live_iff.mp htopic).2
    obtain ⟨frame, hframe⟩ := b.exists_frameAs_text .item topic w.accessor.stamped
    rw [hframe]
    exact Block.get?_of_frameAs hname hframe
  | false =>
    constructor
    · nofun
    · rintro ⟨s, hs, -⟩
      rw [(Block.live_of_stream_eq_ok hs).2] at htopic
      contradiction

section Total

variable {total : Table String (Frame .text)}
  (htotal : Table.collect id (fun item => b.frameAs .topic item .text w.accessor.stamped)
    (b.live .item).keys = .ok total)
include htotal

omit h in
theorem get?_total {item : String} {frame : Frame .text} : total.get? item = some frame ↔
    (b.live .item).contains item = true ∧
      b.frameAs .topic item .text w.accessor.stamped = .ok frame := by
  have hkeys : ((b.live .item).keys.map id).Nodup := by
    rw [List.map_id]
    exact Table.nodup_keys _
  rw [Table.get?_of_collect htotal hkeys, Table.contains_iff]
  simp

omit h in
theorem contains_total {item : String} :
    total.contains item = true ↔ (b.live .item).contains item = true := by
  simp only [Table.contains_eq_true_iff, get?_total htotal, exists_and_left, and_iff_left_iff_imp]
  exact fun _ => b.exists_frameAs_text .topic item w.accessor.stamped

omit h in
theorem get?_get?_total (item topic : String) {point : Point Form.text.Carrier} :
    (total.get? item).bind (·.get? topic) = some point ↔
      ∃ s, b.stream ⟨item, topic⟩ = .ok s ∧
        s.newest .text (w.accessor.stamped && b.stamped) = .ok point := by
  simp only [Option.bind_eq_some_iff, get?_total htotal]
  constructor
  · rintro ⟨frame, ⟨hitem, hframe⟩, hpoint⟩
    have hname : (b.names Axis.topic.other).contains item = true :=
      (Block.contains_live_iff.mp hitem).2
    exact (Block.get?_of_frameAs hname hframe).mp hpoint
  · rintro ⟨s, hs, hpoint⟩
    have hitem := (Block.live_of_stream_eq_ok hs).1
    have hname : (b.names Axis.topic.other).contains item = true :=
      (Block.contains_live_iff.mp hitem).2
    obtain ⟨frame, hframe⟩ := b.exists_frameAs_text .topic item w.accessor.stamped
    exact ⟨frame, ⟨hitem, hframe⟩, (Block.get?_of_frameAs hname hframe).mpr ⟨s, hs, hpoint⟩⟩

end Total

end Agreement

/-- **Frames agree with single reads.** Take an open accessor after any calls, on an exchange that
is connected and still has its block, where no one else has closed the block or changed its names.

The frame of a topic that the block streams is read exactly when the most recent value of none of
its items is refused for its kind, and is itself refused for that otherwise. The frame of an item
that the block streams is always read. Each has a cell for exactly the streams that hold a record,
equal to the single read of it. All frames together have the frame of each item that the block
streams, empty if the item has no records, and agree cell by cell with the frames of the topics as
text, whether or not there is a cell. -/
theorem frames_agree {block : String} {w : Client} (hw : w.Held block)
    (hopen : w.accessor.closed = false) {b : Block} (hb : w.exchange.block block = .ok b)
    (draw : String) :
    (∀ topic, (b.live .topic).contains topic = true → ∀ form,
      ((∃ frame, w.read draw (itemFrame form topic) = .ok frame) ↔
        ∀ item, (b.live .item).contains item = true →
          w.read draw (latest form item topic) ≠ .error (.fault (.callFailed .dataType))) ∧
      (∀ frame, w.read draw (itemFrame form topic) = .ok frame →
        w.Framed draw b .item topic frame) ∧
      ∀ failure, w.read draw (itemFrame form topic) = .error failure →
        failure = .fault (.callFailed .dataType)) ∧
    (∀ item, (b.live .item).contains item = true →
      ∃ frame, w.read draw (topicFrame item) = .ok frame ∧ w.Framed draw b .topic item frame) ∧
    ∃ total, w.read draw allFrames = .ok total ∧
      (∀ item, total.contains item = true ↔ (b.live .item).contains item = true) ∧
      (∀ item frame, total.get? item = some frame →
        w.read draw (topicFrame item) = .ok frame ∧
          ((∀ topic, ¬ b.IsFilled ⟨item, topic⟩) → frame = ∅)) ∧
      ∀ item topic, (total.get? item).bind (·.get? topic) =
        (w.read draw (itemFrame .text topic)).toOption.bind (·.get? item) := by
  have h := hw.informed hopen hb
  refine ⟨fun topic htopic form => ?_, fun item hitem => ?_, ?_⟩
  · have hname : (b.names Axis.item.other).contains topic = true :=
      (Block.contains_live_iff.mp htopic).2
    have hread : w.read draw (itemFrame form topic) =
        b.frameAs .item topic form w.accessor.stamped := by
      rw [read_eq (h.answers_itemFrame form topic), htopic]
      rfl
    rw [hread]
    exact ⟨exists_itemFrame_iff h htopic, fun frame hframe => framed_of_frameAs h hname hframe,
      fun failure => Block.eq_of_frameAs_eq_error⟩
  · have hname : (b.names Axis.topic.other).contains item = true :=
      (Block.contains_live_iff.mp hitem).2
    obtain ⟨frame, hframe⟩ := b.exists_frameAs_text .topic item w.accessor.stamped
    exact ⟨frame, (read_eq (h.answers_topicFrame hitem)).trans hframe,
      framed_of_frameAs h hname hframe⟩
  · obtain ⟨total, htotal⟩ : ∃ total, Table.collect id
        (fun item => b.frameAs .topic item .text w.accessor.stamped) (b.live .item).keys =
          .ok total :=
      Table.exists_collect_eq_ok_iff.mpr fun item _ =>
        b.exists_frameAs_text .topic item w.accessor.stamped
    refine ⟨total, (read_eq h.answers_allFrames).trans htotal,
      fun item => contains_total htotal, fun item frame hframe => ?_, fun item topic => ?_⟩
    · obtain ⟨hitem, hframe⟩ := (get?_total htotal).mp hframe
      have hname : (b.names Axis.topic.other).contains item = true :=
        (Block.contains_live_iff.mp hitem).2
      refine ⟨(read_eq (h.answers_topicFrame hitem)).trans hframe, fun hempty => ?_⟩
      refine Table.ext_get? fun topic => Option.not_isSome_iff_eq_none.mp fun hsome => ?_
      exact hempty topic ((Block.contains_of_frameAs hname hframe).mp hsome)
    · refine Option.ext fun point => ?_
      rw [get?_get?_total htotal, get?_itemFrame_text h]

/-- One item has a text under a topic of numbers and a number, the other has no records. While the
connection was lost a name could not be added, and a record still arrived. -/
theorem frames_agree_reconnected :
    let call (c : Call) (w : Client) : Client := w.step (.call "" c : Turn "B")
    let happen (event : Event) (w : Client) : Client := ⟨w.accessor, w.exchange.step event⟩
    let s : Settings := { size := 3, stamped := true }
    let w := Client.mk (ofSettings "B" s)
        ((Accessor.create s).run (handler "B") Exchange.start).2
      |> call (.addMember .item "X") |> call (.addMember .item "Y")
      |> call (.addMember .topic "LAST") |> call (.addMember .topic "VOLUME")
      |> happen (.publish ⟨"X", "LAST"⟩ ⟨.text "halted", .zero⟩)
      |> happen (.connect false) |> call (.addMember .item "Z")
      |> happen (.publish ⟨"X", "VOLUME"⟩ ⟨.long 7, ⟨1, 0⟩⟩) |> happen (.connect true)
    w.Held "B" ∧ w.accessor.closed = false ∧
      w.read "" (itemFrame .long "LAST") = .error (.fault (.callFailed .dataType)) ∧
      ∃ total, w.read "" allFrames = .ok total ∧ total.contains "Z" = false ∧
        total.get? "Y" = some ∅ ∧
        (total.get? "X").bind (·.get? "VOLUME") = some ⟨"7", some ⟨1, 0⟩⟩ := by
  intro call happen s w
  have hcreate : (Accessor.create s).run (handler "B") Exchange.start =
      (.ok (ofSettings "B" s), _) := rfl
  have hstart : Held "B" _ := .create ⟨[], rfl⟩ hcreate rfl
  have hnamed := (((hstart.call "" (.addMember .item "X")).call "" (.addMember .item "Y")).call ""
    (.addMember .topic "LAST")).call "" (.addMember .topic "VOLUME")
  have hlost := (hnamed.event (show Event.Leaves "B" (.publish ⟨"X", "LAST"⟩
    ⟨.text "halted", .zero⟩) from trivial)).event (show Event.Leaves "B" (.connect false)
      from trivial)
  have hw : w.Held "B" := ((hlost.call "" (.addMember .item "Z")).event
    (show Event.Leaves "B" (.publish ⟨"X", "VOLUME"⟩ ⟨.long 7, ⟨1, 0⟩⟩) from trivial)).event
      (show Event.Leaves "B" (.connect true) from trivial)
  have hopen : w.accessor.closed = false := by decide +kernel
  let b := (w.exchange.block "B").toOption.getD (.new 1 false 0)
  have hb : w.exchange.block "B" = .ok b := by decide +kernel
  have hitems : (b.live .item).keys = ["X", "Y"] := by decide +kernel
  have htopics : (b.live .topic).keys = ["LAST", "VOLUME"] := by decide +kernel
  have hempty : ∀ x ∈ b.streams.entries, x.1.item = "Y" → x.2.records = [] := by decide +kernel
  clear_value b
  obtain ⟨hframe, -, total, htotal, hkeys, hframes, hcells⟩ := frames_agree hw hopen hb ""
  have hcontains (item : String) (hitem : item ∈ ["X", "Y"]) :
      (b.live .item).contains item = true := Table.contains_iff.mpr (hitems ▸ hitem)
  refine ⟨hw, hopen, ?_, total, htotal, ?_, ?_, ?_⟩
  · have htopic : (b.live .topic).contains "LAST" = true :=
      Table.contains_iff.mpr (htopics ▸ List.mem_cons_self)
    obtain ⟨hexists, -, hfailure⟩ := hframe "LAST" htopic .long
    have hlatest : w.read "" (latest .long "X" "LAST") =
        .error (.fault (.callFailed .dataType)) := by decide +kernel
    cases hread : w.read "" (itemFrame .long "LAST") with
    | ok frame =>
      exact absurd hlatest (hexists.mp ⟨frame, hread⟩ "X" (hcontains "X" List.mem_cons_self))
    | error failure => rw [hfailure failure hread]
  · refine Bool.eq_false_iff.mpr fun hz => ?_
    have hmem := Table.contains_iff.mp ((hkeys "Z").mp hz)
    rw [hitems] at hmem
    revert hmem
    decide
  · obtain ⟨frame, hy⟩ := Table.contains_eq_true_iff.mp
      ((hkeys "Y").mpr (hcontains "Y" (List.mem_cons_of_mem _ List.mem_cons_self)))
    rw [hy, (hframes "Y" frame hy).2]
    rintro topic ⟨s, hs, hfilled⟩
    exact hfilled (hempty _ (Table.mem_of_lookup (Block.stream_eq_ok_iff.mp hs).2.2) rfl)
  · rw [hcells]
    decide +kernel

end Client

end Accessor

end TickerTape
