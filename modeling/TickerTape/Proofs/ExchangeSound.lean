import TickerTape.Proofs.EngineSteps

/-!
# The exchange stays well formed

A block has exactly one stream for each pair of its names, a stream holds no more records than the
capacity of its block, and when a stream has lost unread records then all that it still holds are
unread. These and the checks on names, capacities and the number of blocks hold in every state that
an exchange can reach.

## Main definitions

* `TickerTape.Engine.Stream.Sound`, `TickerTape.Engine.Block.Sound`,
  `TickerTape.Engine.Exchange.Sound` — well-formed streams, blocks and exchanges.

## Main results

* `TickerTape.Engine.Exchange.Reachable.sound` — every reachable exchange is well formed.
* `TickerTape.Engine.Block.Sound.exists_stream` — a well-formed block has the stream of each pair of
  its names.
* `TickerTape.Engine.Exchange.wellFormed_after_events` — what holds after any events.
-/

namespace TickerTape.Engine

/-! ### Streams -/

namespace Stream

/-- A stream that fits into a block of some capacity. A stream that has lost records holds some, and
all of them are unread. -/
structure Sound (capacity : Nat) (s : Stream) : Prop where
  length_le : s.records.length ≤ capacity
  unread_le : s.unread ≤ s.records.length
  unread_of_lost : s.lost = true → s.unread = s.records.length
  pos_of_lost : s.lost = true → 0 < s.unread

variable {s : Stream} {capacity : Nat}

theorem sound_empty (capacity : Nat) : empty.Sound capacity :=
  ⟨Nat.zero_le _, Nat.zero_le _, nofun, nofun⟩

/-- Cut to a capacity that is not zero, a stream is well formed if at most all of its records were
unread, and all of them, and some, when records were lost. -/
theorem sound_truncate (hcap : 0 < capacity) (hunread : s.unread ≤ s.records.length)
    (hlost : s.lost = true → s.unread = s.records.length ∧ 0 < s.unread) :
    (s.truncate capacity).Sound capacity := by
  have hlen : (s.records.take capacity).length = min capacity s.records.length :=
    List.length_take
  refine ⟨?_, ?_, fun h => ?_, fun h => ?_⟩
  · rw [records_truncate, hlen]
    exact Nat.min_le_left _ _
  · rw [records_truncate, unread_truncate]
    exact Nat.min_le_right _ _
  all_goals
    rw [lost_truncate, hlen, Bool.or_eq_true, decide_eq_true_eq] at h
    simp only [records_truncate, unread_truncate, hlen]
  · rcases h with h | h
    · have := hlost h
      omega
    · omega
  · rcases h with h | h
    · have := hlost h
      omega
    · omega

theorem Sound.truncate {size : Nat} (h : s.Sound size) (hcap : 0 < capacity) :
    (s.truncate capacity).Sound capacity :=
  sound_truncate hcap h.unread_le fun hl => ⟨h.unread_of_lost hl, h.pos_of_lost hl⟩

theorem Sound.push (h : s.Sound capacity) (hcap : 0 < capacity) (r : Record) :
    (s.push capacity r).Sound capacity := by
  refine sound_truncate hcap ?_ fun hl => ⟨?_, Nat.succ_pos _⟩
  · exact Nat.succ_le_succ h.unread_le
  · exact congrArg (· + 1) (h.unread_of_lost hl)

/-- A marker read leaves the records, and unread those that are more recent than the read went. -/
theorem of_fetch_eq_ok {first room : Nat} {kind : Kind} {stamped : Bool} {found : MarkerRead}
    {s' : Stream} (h : s.fetch first room kind stamped = .ok (found, s')) :
    s'.records = s.records ∧ s'.unread = min s.unread first ∧ s'.lost = false := by
  rw [fetch_eq] at h
  obtain ⟨samples, -, h⟩ := bind_eq_ok_iff.mp h
  cases h
  exact ⟨rfl, rfl, rfl⟩

theorem unread_le_of_fetch (hle : s.unread ≤ s.records.length) {first room : Nat} {kind : Kind}
    {stamped : Bool} {found : MarkerRead} {s' : Stream}
    (h : s.fetch first room kind stamped = .ok (found, s')) : s'.unread ≤ s'.records.length := by
  obtain ⟨hrecords, hunread, -⟩ := of_fetch_eq_ok h
  rw [hrecords, hunread]
  exact Nat.le_trans (Nat.min_le_left _ _) hle

theorem Sound.fetch {first room : Nat} {kind : Kind} {stamped : Bool} {found : MarkerRead}
    {s' : Stream} (h : s.Sound capacity)
    (hf : s.fetch first room kind stamped = .ok (found, s')) : s'.Sound capacity := by
  obtain ⟨hrecords, -, hlost⟩ := of_fetch_eq_ok hf
  refine ⟨hrecords ▸ h.length_le, unread_le_of_fetch h.unread_le hf, ?_, ?_⟩
  all_goals simp [hlost]

end Stream

/-! ### Names -/

/-- A name has 1 to 39 bytes. -/
def IsName (name : String) : Prop := 1 ≤ name.utf8ByteSize ∧ name.utf8ByteSize ≤ 39

theorem isName_of_checkName {name : String} (h : checkName name = .ok ()) : IsName name := by
  rw [checkName] at h
  split at h
  · contradiction
  next hn =>
    rw [Bool.or_eq_true, decide_eq_true_eq, String.isEmpty_iff_utf8ByteSize_eq_zero, nameRoom] at hn
    exact ⟨by omega, by omega⟩

theorem isName_of_checkMember {axis : Axis} {name : String} (h : checkMember axis name = .ok ()) :
    IsName name := by
  obtain ⟨_, h, -⟩ := bind_eq_ok_iff.mp h
  exact isName_of_checkName h

theorem topicKind_isSome_of_checkMember {topic : String}
    (h : checkMember .topic topic = .ok ()) : (topicKind topic).isSome = true := by
  obtain ⟨_, -, h⟩ := bind_eq_ok_iff.mp h
  cases hk : topicKind topic with
  | some kind => rfl
  | none =>
    simp only [checkTopic, hk] at h
    contradiction

theorem size_of_checkSize {size : Nat} (h : checkSize size = .ok ()) :
    1 ≤ size ∧ size ≤ maxBlockSize := by
  rw [checkSize] at h
  split at h
  · contradiction
  · omega

theorem Pair.eq_along_iff {p : Pair} {axis : Axis} {name other : String} :
    p = .along axis name other ↔ p.get axis = name ∧ p.get axis.other = other := by
  obtain ⟨item, topic⟩ := p
  cases axis <;> simp [along, get, Axis.other, and_comm]

/-! ### Blocks -/

namespace Block

/-- A block with a capacity in its bounds, well-formed names, and exactly one stream, itself well
formed, for each pair of its names. -/
structure Sound (b : Block) : Prop where
  one_le_size : 1 ≤ b.size
  size_le : b.size ≤ maxBlockSize
  isName : ∀ axis name, (b.names axis).contains name = true → IsName name
  topicKind_isSome : ∀ topic, b.topics.contains topic = true → (topicKind topic).isSome = true
  contains_streams_iff : ∀ p, b.streams.contains p = true ↔
    b.items.contains p.item = true ∧ b.topics.contains p.topic = true
  stream_sound : ∀ p s, b.streams.get? p = some s → s.Sound b.size

variable {b : Block}

/-- Both names of a pair, whichever comes first. -/
theorem contains_pair_iff (b : Block) (axis : Axis) (p : Pair) :
    b.items.contains p.item = true ∧ b.topics.contains p.topic = true ↔
      (b.names axis).contains (p.get axis) = true ∧
        (b.names axis.other).contains (p.get axis.other) = true := by
  cases axis with
  | item => rfl
  | topic => exact and_comm

/-- A well-formed block gives the stream of each pair of its names. -/
theorem Sound.exists_stream (h : b.Sound) {p : Pair} (hitem : b.items.contains p.item = true)
    (htopic : b.topics.contains p.topic = true) : ∃ s, b.stream p = .ok s ∧ s.Sound b.size := by
  obtain ⟨s, hs⟩ := Table.contains_eq_true_iff.mp ((h.contains_streams_iff p).mpr ⟨hitem, htopic⟩)
  exact ⟨s, stream_eq_ok_iff.mpr ⟨hitem, htopic, hs⟩, h.stream_sound p s hs⟩

theorem Sound.of_stream_eq_ok (h : b.Sound) {p : Pair} {s : Stream} (hs : b.stream p = .ok s) :
    s.Sound b.size :=
  h.stream_sound p s (stream_eq_ok_iff.mp hs).2.2

/-- A well-formed block never misses the stream of a pair of its names. -/
theorem Sound.stream_ne_getData (h : b.Sound) (p : Pair) : b.stream p ≠ .error .getData := by
  intro hp
  by_cases hnames : b.items.contains p.item = true ∧ b.topics.contains p.topic = true
  · obtain ⟨s, hs, -⟩ := h.exists_stream hnames.1 hnames.2
    rw [hs] at hp
    contradiction
  · rw [stream] at hp
    split at hp
    · simp [Status.noItem, Status.getData] at hp
    next hitem =>
      split at hp
      · simp [Status.noTopic, Status.getData] at hp
      next htopic => simp_all

theorem sound_new {size : Nat} (hsize : checkSize size = .ok ()) (stamped : Bool) (timeout : Nat) :
    (new size stamped timeout).Sound where
  one_le_size := (size_of_checkSize hsize).1
  size_le := (size_of_checkSize hsize).2
  isName axis name h := by cases axis <;> contradiction
  topicKind_isSome _ h := by contradiction
  contains_streams_iff _ := ⟨nofun, nofun⟩
  stream_sound _ _ h := by contradiction

theorem Sound.resize (h : b.Sound) {size : Nat} (hsize : checkSize size = .ok ()) :
    (b.resize size).Sound where
  one_le_size := (size_of_checkSize hsize).1
  size_le := (size_of_checkSize hsize).2
  isName axis := by
    rw [names_resize]
    exact h.isName axis
  topicKind_isSome := h.topicKind_isSome
  contains_streams_iff p := by
    refine Iff.trans ?_ (h.contains_streams_iff p)
    simp [Block.resize, Table.contains]
  stream_sound p s hs := by
    obtain ⟨s', hs', rfl⟩ : ∃ s', b.streams.get? p = some s' ∧ s'.truncate size = s := by
      simpa [Block.resize] using hs
    exact (h.stream_sound p s' hs').truncate (size_of_checkSize hsize).1

/-- A well-formed stream in place of another keeps a block well formed. -/
theorem Sound.replace (h : b.Sound) {p : Pair} (hp : b.streams.contains p = true) {s : Stream}
    (hs : s.Sound b.size) : Sound { b with streams := b.streams.insert p s } where
  one_le_size := h.one_le_size
  size_le := h.size_le
  isName axis := by
    rw [names_streams]
    exact h.isName axis
  topicKind_isSome := h.topicKind_isSome
  contains_streams_iff q := by
    refine Iff.trans ?_ (h.contains_streams_iff q)
    rw [Table.contains, Table.get?_insert]
    split
    next hq => exact ⟨fun _ => hq ▸ hp, fun _ => rfl⟩
    next => rfl
  stream_sound q t ht := by
    rw [Table.get?_insert] at ht
    split at ht
    · cases ht
      exact hs
    · exact h.stream_sound q t ht

theorem Sound.write (h : b.Sound) (p : Pair) (r : Record) : (b.write p r).Sound := by
  rw [Block.write]
  split
  next s hs =>
    refine h.replace (Table.contains_eq_true_iff.mpr ⟨s, hs⟩) ?_
    exact (h.stream_sound p s hs).push h.one_le_size r
  next => exact h

theorem Sound.fetch (h : b.Sound) {p : Pair} {first room : Nat} {kind : Kind} {stamped : Bool}
    {found : MarkerRead} {b' : Block}
    (hf : b.fetch p first room kind stamped = .ok (found, b')) : b'.Sound := by
  obtain ⟨-, s, s', hs, hfetch, rfl⟩ := fetch_eq_ok_iff.mp hf
  obtain ⟨-, -, hget⟩ := stream_eq_ok_iff.mp hs
  refine h.replace (Table.contains_eq_true_iff.mpr ⟨s, hget⟩) ?_
  exact (h.stream_sound p s hget).fetch hfetch

/-- The streams of a block with one more name: an empty one for each pair that the name makes. -/
theorem get?_foldl_insert (axis : Axis) (name : String) (others : List String)
    (streams : Table Pair Stream) (p : Pair) :
    (others.foldl (fun t other => t.insert (Pair.along axis name other) .empty) streams).get? p =
      if p.get axis = name ∧ p.get axis.other ∈ others then some .empty else streams.get? p := by
  induction others generalizing streams with
  | nil => simp
  | cons other others ih =>
    rw [List.foldl_cons, ih, Table.get?_insert]
    by_cases hname : p.get axis = name
    · by_cases hother : p.get axis.other = other <;> simp [Pair.eq_along_iff, hname, hother]
    · simp [Pair.eq_along_iff, hname]

theorem get?_streams_add {axis : Axis} {name : String}
    (hname : (b.names axis).contains name = false) (p : Pair) :
    (b.add axis name).streams.get? p =
      if p.get axis = name ∧ (b.names axis.other).contains (p.get axis.other) = true then
        some .empty
      else b.streams.get? p := by
  simp only [add, hname, Bool.false_eq_true, if_false, Table.contains_iff]
  exact get?_foldl_insert axis name _ b.streams p

theorem names_add (b : Block) (axis : Axis) (name : String) :
    (b.add axis name).names axis = (b.names axis).add name ∧
      (b.add axis name).names axis.other = b.names axis.other := by
  rw [add]
  split
  next h =>
    refine ⟨NameSet.ext_contains fun other => ?_, rfl⟩
    rw [NameSet.contains_add]
    by_cases ho : other = name
    · rw [ho, h]
      simp
    · simp [ho]
  next => simp

theorem size_add (b : Block) (axis : Axis) (name : String) : (b.add axis name).size = b.size := by
  rw [add]
  split
  · rfl
  · cases axis <;> rfl

theorem stamped_add (b : Block) (axis : Axis) (name : String) :
    (b.add axis name).stamped = b.stamped := by
  rw [add]
  split
  · rfl
  · cases axis <;> rfl

theorem Sound.add (h : b.Sound) {axis : Axis} {name : String}
    (hname : checkMember axis name = .ok ()) : (b.add axis name).Sound := by
  by_cases hmem : (b.names axis).contains name = true
  · rwa [Block.add, if_pos hmem]
  rw [Bool.not_eq_true] at hmem
  obtain ⟨hnames, hother⟩ := names_add b axis name
  have hsize : (b.add axis name).size = b.size := size_add b axis name
  refine ⟨?_, ?_, fun other n hn => ?_, fun topic ht => ?_, fun p => ?_, fun p s hs => ?_⟩
  · exact hsize ▸ h.one_le_size
  · exact hsize ▸ h.size_le
  · rcases axis.eq_or_eq_other other with rfl | rfl
    · rw [hnames, NameSet.contains_add, Bool.or_eq_true, decide_eq_true_eq] at hn
      rcases hn with rfl | hn
      · exact isName_of_checkMember hname
      · exact h.isName other n hn
    · rw [hother] at hn
      exact h.isName axis.other n hn
  · cases axis with
    | item =>
      replace ht : ((b.add .item name).names Axis.item.other).contains topic = true := ht
      rw [hother] at ht
      exact h.topicKind_isSome topic ht
    | topic =>
      replace ht : ((b.add .topic name).names .topic).contains topic = true := ht
      rw [hnames, NameSet.contains_add, Bool.or_eq_true, decide_eq_true_eq] at ht
      rcases ht with rfl | ht
      · exact topicKind_isSome_of_checkMember hname
      · exact h.topicKind_isSome topic ht
  · rw [contains_pair_iff _ axis, hnames, hother, NameSet.contains_add, Table.contains,
      get?_streams_add hmem]
    have hold := h.contains_streams_iff p
    rw [contains_pair_iff _ axis, Table.contains] at hold
    split
    next hp => simp [hp]
    next hp =>
      rw [hold]
      by_cases hp' : p.get axis = name
      · simp_all
      · simp [hp']
  · rw [get?_streams_add hmem] at hs
    rw [hsize]
    split at hs
    · cases hs
      exact Stream.sound_empty _
    · exact h.stream_sound p s hs

/-- Only the pairs that a new name makes get a stream, which is empty. -/
theorem Sound.of_stream_add (h : b.Sound) {axis : Axis} {name : String} {p : Pair} {s : Stream}
    (hs : (b.add axis name).stream p = .ok s) :
    b.stream p = .ok s ∨
      ¬ (b.items.contains p.item = true ∧ b.topics.contains p.topic = true) ∧ s = .empty := by
  by_cases hmem : (b.names axis).contains name = true
  · rw [Block.add, if_pos hmem] at hs
    exact .inl hs
  rw [Bool.not_eq_true] at hmem
  have hget := (stream_eq_ok_iff.mp hs).2.2
  rw [get?_streams_add hmem] at hget
  split at hget
  next hp =>
    refine .inr ⟨fun hnames => ?_, (Option.some.inj hget).symm⟩
    rw [contains_pair_iff b axis, hp.1, hmem] at hnames
    exact absurd hnames.1 Bool.false_ne_true
  next =>
    have hnames := (h.contains_streams_iff p).mp (Table.contains_eq_true_iff.mpr ⟨s, hget⟩)
    exact .inl (stream_eq_ok_iff.mpr ⟨hnames.1, hnames.2, hget⟩)

theorem of_remove_eq_ok {axis : Axis} {name : String} {b' : Block}
    (h : b.remove axis name = .ok b') :
    b'.names axis = (b.names axis).remove name ∧ b'.names axis.other = b.names axis.other ∧
      b'.size = b.size ∧
      ∀ p, b'.streams.get? p = if p.get axis = name then none else b.streams.get? p := by
  rw [remove_eq] at h
  split at h
  · cases h
    refine ⟨by simp, by simp, by cases axis <;> rfl, fun p => ?_⟩
    rw [Table.get?_filter]
    by_cases hp : p.get axis = name <;> simp [hp]
  · contradiction

theorem stamped_of_remove {axis : Axis} {name : String} {b' : Block}
    (hremove : b.remove axis name = .ok b') : b'.stamped = b.stamped := by
  rw [remove_eq] at hremove
  split at hremove
  · cases hremove
    cases axis <;> rfl
  · contradiction

theorem contains_of_remove {axis : Axis} {name : String} {b' : Block}
    (hremove : b.remove axis name = .ok b') (other : Axis) (n : String)
    (hn : (b'.names other).contains n = true) : (b.names other).contains n = true := by
  obtain ⟨hnames, hother, -⟩ := of_remove_eq_ok hremove
  rcases axis.eq_or_eq_other other with rfl | rfl
  · rw [hnames, NameSet.contains_remove, Bool.and_eq_true] at hn
    exact hn.2
  · rwa [hother] at hn

theorem Sound.remove (h : b.Sound) {axis : Axis} {name : String} {b' : Block}
    (hremove : b.remove axis name = .ok b') : b'.Sound := by
  obtain ⟨hnames, hother, hsize, hget⟩ := of_remove_eq_ok hremove
  have hsub := contains_of_remove hremove
  refine ⟨?_, ?_, fun other n hn => ?_, fun topic ht => ?_, fun p => ?_, fun p s hs => ?_⟩
  · exact hsize ▸ h.one_le_size
  · exact hsize ▸ h.size_le
  · exact h.isName other n (hsub other n hn)
  · exact h.topicKind_isSome topic (hsub .topic topic ht)
  · have hold := h.contains_streams_iff p
    rw [contains_pair_iff _ axis, Table.contains] at hold ⊢
    rw [hnames, hother, NameSet.contains_remove, hget]
    by_cases hp : p.get axis = name <;> simp [hp, hold]
  · rw [hget] at hs
    split at hs
    · contradiction
    · exact hsize ▸ h.stream_sound p s hs

end Block

/-! ### Exchanges -/

namespace Exchange

/-- An exchange with no more blocks than it may have, all of them well formed. -/
structure Sound (e : Exchange) : Prop where
  size_le : e.blocks.size ≤ e.limit
  block_sound : ∀ name b, e.blocks.get? name = some b → b.Sound

variable {e : Exchange}

theorem Sound.of_block_eq_ok (h : e.Sound) {name : String} {b : Block}
    (hb : e.block name = .ok b) : b.Sound :=
  h.block_sound name b (block_eq_ok_iff.mp hb).2

theorem sound_start : start.Sound := ⟨Nat.zero_le _, nofun⟩

/-- A well-formed block in place of another keeps an exchange well formed. -/
theorem Sound.setBlock (h : e.Sound) {name : String} {b b' : Block} (hb : e.block name = .ok b)
    (hb' : b'.Sound) : (e.setBlock name b').Sound where
  size_le := by
    rw [Exchange.setBlock, Table.size_insert_of_get? (block_eq_ok_iff.mp hb).2]
    exact h.size_le
  block_sound other c hc := by
    rw [Exchange.setBlock, Table.get?_insert] at hc
    split at hc
    · cases hc
      exact hb'
    · exact h.block_sound other c hc

/-- A request keeps an exchange well formed. -/
theorem Sound.move (h : e.Sound) {draw : String} {r : Request} {e' : Exchange}
    (hmove : Move draw e r e') : e'.Sound := by
  cases hmove with
  | still => exact h
  | setLimit limit => exact ⟨Nat.le_max_right _ _, h.block_sound⟩
  | createBlock hsize hlimit hnew =>
    refine ⟨?_, fun other c hc => ?_⟩
    · exact Nat.le_trans (Table.size_insert_le _ _ _) hlimit
    · rw [Exchange.setBlock, Table.get?_insert] at hc
      split at hc
      · cases hc
        exact Block.sound_new hsize _ _
      · exact h.block_sound other c hc
  | closeBlock name =>
    refine ⟨Nat.le_trans (Table.size_filter_le _ _) h.size_le, fun other c hc => ?_⟩
    rw [Table.get?_erase] at hc
    split at hc
    · contradiction
    · exact h.block_sound other c hc
  | resizeBlock hsize hb => exact h.setBlock hb ((h.of_block_eq_ok hb).resize hsize)
  | addMember hmember hb => exact h.setBlock hb ((h.of_block_eq_ok hb).add hmember)
  | removeMember hb hremove => exact h.setBlock hb ((h.of_block_eq_ok hb).remove hremove)
  | sinceMarker hb hfetch => exact h.setBlock hb ((h.of_block_eq_ok hb).fetch hfetch)

/-- A call of an accessor keeps an exchange well formed. -/
theorem Sound.call (h : e.Sound) (c : Accessor.Call) (draw : String) (a : Accessor) :
    ((c.operation.start a).run (handler draw) e).2.Sound :=
  (c.run_keeps draw a (fun r _ _ hx => hx.move (move_handler draw r _)) h).2

theorem Sound.publish (h : e.Sound) (p : Pair) (r : Record) : (e.publish p r).2.Sound where
  size_le := by
    rw [Exchange.publish, Table.size_mapValues]
    exact h.size_le
  block_sound name c hc := by
    rw [Exchange.publish, Table.get?_mapValues] at hc
    obtain ⟨b, hb, rfl⟩ := Option.map_eq_some_iff.mp hc
    exact (h.block_sound name b hb).write p r

theorem Sound.step (h : e.Sound) (event : Event) : (e.step event).Sound := by
  cases event with
  | connect connected => exact ⟨h.size_le, h.block_sound⟩
  | publish p r => exact h.publish p r
  | request draw r => exact h.move (move_handler draw r e)

theorem Sound.after (h : e.Sound) (events : List Event) : (e.after events).Sound := by
  induction events generalizing e with
  | nil => exact h
  | cons event events ih => exact ih (h.step event)

/-- Every exchange that began without blocks is well formed. -/
theorem Reachable.sound (h : e.Reachable) : e.Sound := by
  obtain ⟨events, rfl⟩ := h
  exact sound_start.after events

/-! ### What the exchange tells of its streams -/

theorem perform_blockSize (draw : String) {name : String} {b : Block} (hb : e.block name = .ok b) :
    e.perform draw (.blockSize name) = .ok (b.size, e) :=
  outcome_readBlock_eq_ok_iff.mpr ⟨b, hb, rfl, rfl⟩

theorem perform_occupancy_eq_ok_iff {draw : String} {a : Address} {n : Nat} {e' : Exchange} :
    e.perform draw (.occupancy a) = .ok (n, e') ↔
      ∃ b s, e.block a.block = .ok b ∧ b.stream (pair a) = .ok s ∧ n = s.occupancy ∧ e' = e :=
  outcome_readStream_eq_ok_iff

theorem perform_markerPosition_eq_ok_iff {draw : String} {a : Address} {m : Int} {e' : Exchange} :
    e.perform draw (.markerPosition a) = .ok (m, e') ↔
      ∃ b s, e.block a.block = .ok b ∧ b.stream (pair a) = .ok s ∧ m = s.position ∧ e' = e :=
  outcome_readStream_eq_ok_iff

/-- **The exchange stays well formed.** After any sequence of events an exchange that began without
blocks is well formed: the number of its blocks, their capacities and names are in their bounds, and
each block has exactly the streams of its pairs of names, each within the capacity and wholly unread
once it has lost records. So a block never misses the stream of a pair whose names it has, a stream
holds at most as many records as the block has slots, and its marker stands at one of its records or
at `-1`. -/
theorem wellFormed_after_events (events : List Event) :
    (start.after events).Sound ∧
      (∀ name b p, (start.after events).blocks.get? name = some b →
        b.stream p ≠ .error .getData) ∧
      (∀ draw a (n : Nat) e', (start.after events).perform draw (.occupancy a) = .ok (n, e') →
        ∃ size : Nat, (start.after events).perform draw (.blockSize a.block) =
          .ok (size, start.after events) ∧ n ≤ size) ∧
      (∀ draw a (m : Int) e', (start.after events).perform draw (.markerPosition a) = .ok (m, e') →
        ∃ n : Nat, (start.after events).perform draw (.occupancy a) =
          .ok (n, start.after events) ∧ -1 ≤ m ∧ m < n) := by
  have hsound : (start.after events).Sound := sound_start.after events
  refine ⟨hsound, fun name b p hb => ?_, fun draw a n e' h => ?_, fun draw a m e' h => ?_⟩
  · exact (hsound.block_sound name b hb).stream_ne_getData p
  · obtain ⟨b, s, hb, hs, rfl, -⟩ := perform_occupancy_eq_ok_iff.mp h
    refine ⟨b.size, perform_blockSize draw hb, ?_⟩
    rw [Stream.occupancy_eq]
    exact ((hsound.of_block_eq_ok hb).of_stream_eq_ok hs).length_le
  · obtain ⟨b, s, hb, hs, rfl, -⟩ := perform_markerPosition_eq_ok_iff.mp h
    refine ⟨s.occupancy, perform_occupancy_eq_ok_iff.mpr ⟨b, s, hb, hs, rfl, rfl⟩, ?_⟩
    have hunread := ((hsound.of_block_eq_ok hb).of_stream_eq_ok hs).unread_le
    rw [Stream.occupancy_eq, Stream.position]
    omega

end Exchange

end TickerTape.Engine
