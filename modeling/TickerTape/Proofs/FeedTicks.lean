import Mathlib.Algebra.GroupWithZero.Nat
import TickerTape.Proofs.EngineSteps
import TickerTape.Quote.Feed

/-!
# Ticks of a feed

A tick of a feed goes through the pairs that some block streams, and each of them is written into
all blocks. So whatever the blocks have in common, each stream of a pair that the feed has a value
for gets this value once, and each other stream stays as it is. This is shown for any news, that is
records for some pairs: publishing a list of pairs one after the other is writing the news for all
of them at once.

## Main definitions

* `TickerTape.Engine.Exchange.writeEach` — an exchange with news written into its streams.
* `TickerTape.Engine.Exchange.streamed` — the pairs of all streams, once for each block.
* `TickerTape.Feed.Writes` — what publishing quotes does.

## Main results

* `TickerTape.Feed.publish_eq` — publishing pairs one after the other.
* `TickerTape.Feed.writes_publish` — publishing all pairs that some block streams.
* `TickerTape.Feed.exists_tick_iff`, `TickerTape.Feed.of_tick_eq_ok` — when a tick succeeds, and
  what it does.
* `TickerTape.Feed.tick_writes_each_stream_once` — ticks as a whole.
-/

namespace TickerTape

/-! ### Tables -/

namespace Table

variable {κ : Type} [Ord κ] {β γ δ ε : Type}

theorem mapValues_mapValues (f : κ → β → γ) (g : κ → γ → δ) (t : Table κ β) :
    (t.mapValues f).mapValues g = t.mapValues fun k b => g k (f k b) := by
  simp only [mapValues, List.map_map]
  rfl

theorem mapValues_congr {f g : κ → β → γ} {t : Table κ β}
    (h : ∀ entry ∈ t.entries, f entry.1 entry.2 = g entry.1 entry.2) :
    t.mapValues f = t.mapValues g := by
  simp only [mapValues, mk.injEq]
  exact List.map_congr_left fun entry hentry => by rw [h entry hentry]

theorem mapValues_id (t : Table κ β) : t.mapValues (fun _ b => b) = t := by
  simp only [mapValues, List.map_id']

@[simp] theorem keys_mapValues (f : κ → β → γ) (t : Table κ β) :
    (t.mapValues f).keys = t.keys := by
  simp only [keys, mapValues, List.map_map]
  rfl

theorem values_mapValues (f : β → γ) (t : Table κ β) :
    (t.mapValues fun _ b => f b).values = t.values.map f := by
  simp only [values, mapValues, List.map_map]
  rfl

omit [Ord κ] in
theorem exists_traverseEntries_iff {f : κ → β → Except ε γ} {entries : List (κ × β)} :
    (∃ cs, traverseEntries f entries = .ok cs) ↔
      ∀ entry ∈ entries, ∃ c, f entry.1 entry.2 = .ok c := by
  induction entries with
  | nil => exact ⟨fun _ => nofun, fun _ => ⟨[], rfl⟩⟩
  | cons entry entries ih =>
    simp only [traverseEntries, bind_eq_ok_iff, List.forall_mem_cons, ← ih]
    constructor
    · rintro ⟨_, c, hc, cs, hcs, -⟩
      exact ⟨⟨c, hc⟩, cs, hcs⟩
    · rintro ⟨⟨c, hc⟩, cs, hcs⟩
      exact ⟨_, c, hc, cs, hcs, rfl⟩

theorem traverse_eq_ok_iff {f : κ → β → Except ε γ} {t : Table κ β} {u : Table κ γ} :
    t.traverse f = .ok u ↔ traverseEntries f t.entries = .ok u.entries := by
  obtain ⟨es, hes⟩ := u
  fun_cases traverse f t with
  | case1 cs h =>
    rw [h]
    simp only [Except.ok.injEq, mk.injEq]
  | case2 x h =>
    rw [h]
    simp only [reduceCtorEq]

theorem exists_traverse_iff {f : κ → β → Except ε γ} {t : Table κ β} :
    (∃ u, t.traverse f = .ok u) ↔ ∀ entry ∈ t.entries, ∃ c, f entry.1 entry.2 = .ok c := by
  rw [← exists_traverseEntries_iff]
  constructor
  · rintro ⟨u, hu⟩
    exact ⟨_, traverse_eq_ok_iff.mp hu⟩
  · rintro ⟨cs, hcs⟩
    have hasc := ascending_iff.mpr (keys_traverseEntries hcs ▸ ascending_iff.mp t.ascending)
    exact ⟨⟨cs, hasc⟩, traverse_eq_ok_iff.mpr hcs⟩

theorem keys_of_traverse {f : κ → β → Except ε γ} {t : Table κ β} {u : Table κ γ}
    (h : t.traverse f = .ok u) : u.keys = t.keys :=
  keys_traverseEntries (traverse_eq_ok_iff.mp h)

theorem get?_of_traverse [DecidableEq κ] {f : κ → β → Except ε γ} {t : Table κ β} {u : Table κ γ}
    (h : t.traverse f = .ok u) {k : κ} {b : β} (hb : t.get? k = some b) :
    ∃ c, f k b = .ok c ∧ u.get? k = some c := by
  rw [traverse_eq_ok_iff] at h
  rw [get?] at hb ⊢
  generalize t.entries = entries, u.entries = cs at h hb ⊢
  induction entries generalizing cs with
  | nil => contradiction
  | cons entry entries ih =>
    obtain ⟨c, hc, h⟩ := bind_eq_ok_iff.mp h
    obtain ⟨cs, hcs, h⟩ := bind_eq_ok_iff.mp h
    cases h
    rw [lookup] at hb ⊢
    split at hb
    next hk =>
      obtain rfl := Option.some.inj hb
      exact ⟨c, hk ▸ hc, if_pos hk⟩
    next hk =>
      rw [if_neg hk]
      exact ih _ hcs hb

theorem mem_keys_insert [DecidableEq κ] [Std.TransOrd κ] [Std.LawfulEqOrd κ] {t : Table κ β}
    {k k' : κ} {b : β} : k' ∈ (t.insert k b).keys ↔ k' = k ∨ k' ∈ t.keys := by
  rw [← contains_iff, ← contains_iff, contains, get?_insert]
  by_cases h : k' = k
  · simp [h]
  · simp [h, contains]

end Table

namespace Engine

/-! ### News for the streams of an exchange -/

/-- A stream with the news written into it, if there are some. -/
def Stream.offer (capacity : Nat) (s : Stream) : Option Record → Stream
  | some r => s.push capacity r
  | none => s

/-- News for the stream of one pair. -/
def newsFor (p : Pair) (r : Record) (q : Pair) : Option Record := if q = p then some r else none

/-- The block with news written into its streams. -/
def Block.writeEach (news : Pair → Option Record) (b : Block) : Block :=
  { b with streams := b.streams.mapValues fun p s => s.offer b.size (news p) }

theorem Block.writeEach_newsFor (b : Block) (p : Pair) (r : Record) :
    b.writeEach (newsFor p r) = b.write p r := by
  have hother {q : Pair} (s : Stream) (hq : q ≠ p) : s.offer b.size (newsFor p r q) = s := by
    rw [newsFor, if_neg hq]
    rfl
  rw [write, writeEach]
  split
  next s hs =>
    refine congrArg (fun streams => { b with streams }) (Table.ext_get? fun q => ?_)
    rw [Table.get?_mapValues, Table.get?_insert]
    split
    next hq =>
      rw [hq, hs, Option.map_some, newsFor, if_pos rfl]
      rfl
    next hq => simp only [hother _ hq, Option.map_id']
  next hnone =>
    have hsame : (b.streams.mapValues fun q s => s.offer b.size (newsFor p r q)) = b.streams := by
      refine Table.ext_get? fun q => ?_
      rw [Table.get?_mapValues]
      by_cases hq : q = p
      · rw [hq, hnone, Option.map_none]
      · simp only [hother _ hq, Option.map_id']
    rw [hsame]

section News

variable {f g : Pair → Option Record} {p : Pair} {r : Record}

/-- News for different streams are written in any order. -/
theorem Block.writeEach_writeEach (hfg : ∀ p, f p = none ∨ g p = none) (b : Block) :
    (b.writeEach f).writeEach g = b.writeEach fun p => (f p).or (g p) := by
  have hoffer (p : Pair) (s : Stream) :
      (s.offer b.size (f p)).offer b.size (g p) = s.offer b.size ((f p).or (g p)) := by
    obtain h | h := hfg p
    · rw [h, Option.none_or]
      rfl
    · rw [h, Option.or_none]
      rfl
  simp only [writeEach, Table.mapValues_mapValues, hoffer]

namespace Exchange

/-- The exchange with news written into its streams. -/
def writeEach (news : Pair → Option Record) (e : Exchange) : Exchange :=
  { e with blocks := e.blocks.mapValues fun _ b => b.writeEach news }

/-- The pairs of all streams of all blocks, once for each block that streams them. -/
def streamed (e : Exchange) : List Pair := e.blocks.values.flatMap (·.streams.keys)

variable {e : Exchange}

theorem writeEach_writeEach (hfg : ∀ p, f p = none ∨ g p = none) (e : Exchange) :
    (e.writeEach f).writeEach g = e.writeEach fun p => (f p).or (g p) := by
  simp only [writeEach, Table.mapValues_mapValues, Block.writeEach_writeEach hfg]

@[simp] theorem streamed_writeEach (e : Exchange) (f : Pair → Option Record) :
    (e.writeEach f).streamed = e.streamed := by
  rw [streamed, writeEach, Table.values_mapValues, List.flatMap_map]
  simp only [Block.writeEach, Table.keys_mapValues]
  rfl

theorem writeEach_congr (h : ∀ p ∈ e.streamed, f p = g p) : e.writeEach f = e.writeEach g := by
  refine congrArg (fun blocks => { e with blocks }) (Table.mapValues_congr fun block hblock => ?_)
  refine congrArg (fun streams => { block.2 with streams })
    (Table.mapValues_congr fun stream hstream => ?_)
  rw [h]
  exact List.mem_flatMap.mpr ⟨block.2, List.mem_map_of_mem hblock, List.mem_map_of_mem hstream⟩

theorem writeEach_none (e : Exchange) : e.writeEach (fun _ => none) = e := by
  have hblock (b : Block) : b.writeEach (fun _ => none) = b := by
    simp only [Block.writeEach, Stream.offer, Table.mapValues_id]
  simp only [writeEach, hblock, Table.mapValues_id]

/-- Publishing writes news for one pair, and counts its streams. -/
theorem publish_eq_writeEach (e : Exchange) (p : Pair) (r : Record) :
    e.publish p r =
      (e.streamed.countP fun q => (newsFor p r q).isSome, e.writeEach (newsFor p r)) := by
  have hcount : (e.blocks.values.filter (·.streams.contains p)).length =
      e.streamed.countP fun q => (newsFor p r q).isSome := by
    rw [streamed]
    induction e.blocks.values with
    | nil => rfl
    | cons b blocks ih =>
      have hkeys : b.streams.keys.countP (fun q => (newsFor p r q).isSome) =
          if p ∈ b.streams.keys then 1 else 0 := by
        rw [← b.streams.nodup_keys.count, List.count]
        refine List.countP_congr fun q _ => ?_
        rw [newsFor]
        split
        next hq => simp [hq]
        next hq => simp [hq]
      rw [List.flatMap_cons, List.countP_append, ← ih, hkeys, List.filter_cons]
      by_cases hp : b.streams.contains p = true
      · rw [if_pos hp, if_pos (Table.contains_iff.mp hp), List.length_cons, Nat.add_comm]
      · rw [if_neg hp, if_neg (mt Table.contains_iff.mpr hp), Nat.zero_add]
  rw [publish, hcount]
  simp only [writeEach, Block.writeEach_newsFor]

theorem countP_or (hfg : ∀ p, f p = none ∨ g p = none) (ps : List Pair) :
    (ps.countP fun p => ((f p).or (g p)).isSome) =
      (ps.countP fun p => (f p).isSome) + ps.countP fun p => (g p).isSome := by
  induction ps with
  | nil => rfl
  | cons p ps ih =>
    rw [List.countP_cons, List.countP_cons, List.countP_cons, ih]
    obtain h | h := hfg p
    · simp only [h, Option.none_or, Option.isSome_none, Bool.false_eq_true, if_false]
      omega
    · simp only [h, Option.or_none, Option.isSome_none, Bool.false_eq_true, if_false]
      omega

theorem mem_subscriptions : p ∈ e.subscriptions ↔ p ∈ e.streamed := by
  have hfold (ps : List Pair) (t : Table Pair Unit) :
      p ∈ (ps.foldl (fun pairs q => pairs.insert q ()) t).keys ↔ p ∈ ps ∨ p ∈ t.keys := by
    induction ps generalizing t with
    | nil => exact (or_iff_right List.not_mem_nil).symm
    | cons q ps ih =>
      rw [List.foldl_cons, ih, Table.mem_keys_insert, List.mem_cons, or_left_comm, or_assoc]
  exact (hfold e.streamed ∅).trans (or_iff_left List.not_mem_nil)

theorem nodup_subscriptions (e : Exchange) : e.subscriptions.Nodup := Table.nodup_keys _

end Exchange

end News

end Engine

/-! ### Steps of quotes -/

theorem Quote.step_eq_ok_iff {spread : Float} {d : Draw} {q q' : Quote} :
    q.step spread d = .ok q' ↔ Word.IsSigned (q.volume + tradeSize q.ticker d.size) ∧
      q' = { q.setLast (q.last * Float.exp (spread * d.normal)) with
        lastSize := tradeSize q.ticker d.size
        volume := q.volume + tradeSize q.ticker d.size
        stamp := d.now } := by
  rw [step, bind_eq_ok_iff, Word.addSigned]
  split
  next h =>
    constructor
    · rintro ⟨volume, hvolume, heq⟩
      cases hvolume
      exact ⟨h, (Except.ok.inj heq).symm⟩
    · rintro ⟨-, rfl⟩
      exact ⟨_, rfl, rfl⟩
  next h => exact ⟨nofun, fun h' => absurd h'.1 h⟩

theorem Quote.exists_step_iff {spread : Float} {d : Draw} {q : Quote} :
    (∃ q', q.step spread d = .ok q') ↔
      Word.IsSigned (q.volume + tradeSize q.ticker d.size) := by
  simp only [step_eq_ok_iff, exists_and_left, exists_eq, and_true]

namespace Feed

open Engine Exchange

variable {quotes : Table String Quote} {draw : String → Draw} {f f' : Feed} {e e' : Exchange}
  {n : Nat}

/-! ### Publishing quotes -/

theorem record_eq (quotes : Table String Quote) (p : Pair) :
    record quotes p =
      (quotes.get? p.item).bind fun q => (q.value p.topic).map fun v => ⟨v, q.stamp⟩ := by
  simp only [Option.map_eq_bind]
  rfl

/-- Pairs that are published one after the other, each once, are written all at once. -/
theorem publish_eq (quotes : Table String Quote) {pairs : List Pair} (h : pairs.Nodup)
    (e : Exchange) :
    publish quotes pairs e =
      (e.streamed.countP fun p => (if p ∈ pairs then record quotes p else none).isSome,
        e.writeEach fun p => if p ∈ pairs then record quotes p else none) := by
  induction pairs generalizing e with
  | nil => simp [publish, writeEach_none]
  | cons p pairs ih =>
    obtain ⟨hp, hpairs⟩ := List.nodup_cons.mp h
    rw [publish]
    split
    next r hr =>
      have hor (q : Pair) : (newsFor p r q).or (if q ∈ pairs then record quotes q else none) =
          if q ∈ p :: pairs then record quotes q else none := by
        rw [newsFor]
        by_cases hq : q = p
        · simp [hq, hr]
        · simp [hq]
      have hdisjoint (q : Pair) :
          newsFor p r q = none ∨ (if q ∈ pairs then record quotes q else none) = none := by
        by_cases hq : q = p
        · exact .inr (if_neg (hq ▸ hp))
        · exact .inl (if_neg hq)
      rw [publish_eq_writeEach]
      simp only [ih hpairs, streamed_writeEach, writeEach_writeEach hdisjoint,
        ← countP_or hdisjoint, hor]
    next hnone =>
      have hskip (q : Pair) : (if q ∈ pairs then record quotes q else none) =
          if q ∈ p :: pairs then record quotes q else none := by
        by_cases hq : q = p
        · simp [hq, hnone]
        · simp [hq]
      simp only [ih hpairs, hskip]

theorem publish_subscriptions (quotes : Table String Quote) (e : Exchange) :
    publish quotes e.subscriptions e =
      (e.streamed.countP fun p => (record quotes p).isSome, e.writeEach (record quotes)) := by
  have hnews (p : Pair) (hp : p ∈ e.streamed) :
      (if p ∈ e.subscriptions then record quotes p else none) = record quotes p :=
    if_pos (mem_subscriptions.mpr hp)
  rw [publish_eq quotes (nodup_subscriptions e), writeEach_congr hnews]
  congr 1
  exact List.countP_congr fun p hp => by rw [hnews p hp]

/-- What publishing quotes does to an exchange: each stream of a pair that the quotes have a value
for gets this value, with the time of the quote, once; nothing else changes; and these streams are
counted. -/
structure Writes (quotes : Table String Quote) (e : Exchange) (n : Nat) (e' : Exchange) : Prop where
  limit : e'.limit = e.limit
  connected : e'.connected = e.connected
  names : e'.blocks.keys = e.blocks.keys
  block : ∀ {name b}, e.blocks.get? name = some b → ∃ b', e'.blocks.get? name = some b' ∧
    (b'.size = b.size ∧ b'.stamped = b.stamped ∧ b'.timeout = b.timeout ∧ b'.items = b.items ∧
      b'.topics = b.topics ∧ b'.streams.keys = b.streams.keys) ∧
    ∀ {p s}, b.streams.get? p = some s →
      (∀ q v, quotes.get? p.item = some q → q.value p.topic = some v →
        b'.streams.get? p = some (s.push b.size ⟨v, q.stamp⟩)) ∧
      ((∀ q, quotes.get? p.item = some q → q.value p.topic = none) → b'.streams.get? p = some s)
  count : n = (e.blocks.values.map fun b => b.streams.keys.countP fun p =>
    ((quotes.get? p.item).bind (·.value p.topic)).isSome).sum

theorem writes_publish (quotes : Table String Quote) (e : Exchange) :
    Writes quotes e (publish quotes e.subscriptions e).1 (publish quotes e.subscriptions e).2 := by
  rw [publish_subscriptions]
  refine ⟨rfl, rfl, Table.keys_mapValues _ _, fun {name b} hb => ?_, ?_⟩
  · refine ⟨b.writeEach (record quotes), ?_, ⟨rfl, rfl, rfl, rfl, rfl, Table.keys_mapValues _ _⟩,
      fun {p s} hs => ?_⟩
    · rw [writeEach, Table.get?_mapValues, hb, Option.map_some]
    have hstream : (b.writeEach (record quotes)).streams.get? p =
        some (s.offer b.size (record quotes p)) := by
      rw [Block.writeEach, Table.get?_mapValues, hs, Option.map_some]
    rw [hstream, record_eq]
    constructor
    · intro q v hq hv
      rw [hq, Option.bind_some, hv]
      rfl
    · intro hnone
      cases hq : quotes.get? p.item with
      | none => rfl
      | some q =>
        rw [Option.bind_some, hnone q hq]
        rfl
  · rw [streamed, List.countP_flatMap]
    refine congrArg List.sum (List.map_congr_left fun b _ => List.countP_congr fun p _ => ?_)
    rw [record_eq]
    cases quotes.get? p.item with
    | none => rfl
    | some q => simp

/-! ### Ticks -/

theorem of_tick_eq_ok (h : f.tick draw e = .ok (.ok (n, f', e'))) :
    f.walk.volatility.isFinite = true ∧
      f.quotes.traverse (fun ticker q => q.step f.walk.volatility (draw ticker)) =
        .ok f'.quotes ∧
      f'.walk = f.walk ∧ (n, e') = publish f'.quotes e.subscriptions e := by
  rw [tick, Walk.spread] at h
  split at h
  · contradiction
  next spread hspread =>
    split at hspread
    next hfinite =>
      cases hspread
      obtain ⟨quotes, hquotes, h⟩ := bind_eq_ok_iff.mp (Except.ok.inj h)
      cases h
      exact ⟨hfinite, hquotes, rfl, rfl⟩
    next => contradiction

/-- A tick succeeds when the volatility is a number and no trade makes a volume too large. -/
theorem exists_tick_iff :
    (∃ n f' e', f.tick draw e = .ok (.ok (n, f', e'))) ↔
      f.walk.volatility.isFinite = true ∧ ∀ ticker q, f.quotes.get? ticker = some q →
        Word.IsSigned (q.volume + tradeSize q.ticker (draw ticker).size) := by
  have hquotes : (∃ quotes, f.quotes.traverse
      (fun ticker q => q.step f.walk.volatility (draw ticker)) = .ok quotes) ↔
      ∀ ticker q, f.quotes.get? ticker = some q →
        Word.IsSigned (q.volume + tradeSize q.ticker (draw ticker).size) := by
    simp only [Table.exists_traverse_iff, Prod.forall, Quote.exists_step_iff,
      Table.get?_eq_some_iff]
  rw [← hquotes]
  constructor
  · rintro ⟨n, f', e', h⟩
    obtain ⟨hfinite, hquotes, -⟩ := of_tick_eq_ok h
    exact ⟨hfinite, _, hquotes⟩
  · rintro ⟨hfinite, quotes, hquotes⟩
    refine ⟨(publish quotes e.subscriptions e).1, { f with quotes },
      (publish quotes e.subscriptions e).2, ?_⟩
    rw [tick, Walk.spread, if_pos hfinite]
    exact congrArg Except.ok (bind_eq_ok_iff.mpr ⟨quotes, hquotes, rfl⟩)

/-- **One tick, one write to a stream.** Whatever the quotes of a feed and the blocks of an exchange
are, publishing the quotes writes exactly the streams, in all blocks, of the pairs that they have a
value for, each of them once. A tick succeeds when the volatility is a number and no trade makes a
volume too large; then it moves each quote one step, and publishes the quotes after this step. -/
theorem tick_writes_each_stream_once (draw : String → Draw) (f : Feed) (e : Exchange) :
    (∀ quotes, Writes quotes e (publish quotes e.subscriptions e).1
      (publish quotes e.subscriptions e).2) ∧
    ((∃ n f' e', f.tick draw e = .ok (.ok (n, f', e'))) ↔
      f.walk.volatility.isFinite = true ∧ ∀ ticker q, f.quotes.get? ticker = some q →
        Word.IsSigned (q.volume + tradeSize q.ticker (draw ticker).size)) ∧
    ∀ n f' e', f.tick draw e = .ok (.ok (n, f', e')) →
      (f'.walk = f.walk ∧ f'.quotes.keys = f.quotes.keys ∧
        ∀ ticker q, f.quotes.get? ticker = some q →
          ∃ q', q.step f.walk.volatility (draw ticker) = .ok q' ∧
            f'.quotes.get? ticker = some q') ∧
      Writes f'.quotes e n e' := by
  refine ⟨fun quotes => writes_publish quotes e, exists_tick_iff, fun n f' e' h => ?_⟩
  obtain ⟨-, hquotes, hwalk, hpublish⟩ := of_tick_eq_ok h
  refine ⟨⟨hwalk, Table.keys_of_traverse hquotes, fun ticker q => Table.get?_of_traverse hquotes⟩,
    ?_⟩
  have hwrites := writes_publish f'.quotes e
  rwa [← hpublish] at hwrites

/-- Two blocks stream the volume of one item, and the stream of the first one is full. -/
theorem tick_writes_each_stream_once_two_blocks :
    let p : Pair := ⟨"X", "VOLUME"⟩
    let full :=
      (((Block.new 1 true 1000).add .item "X").add .topic "VOLUME").write p ⟨.long 5, .zero⟩
    let fresh := ((Block.new 2 true 1000).add .item "X").add .topic "VOLUME"
    let e : Exchange := ⟨.ofList [("A", full), ("B", fresh)], 10, true⟩
    let f : Feed := ⟨.ofList [("X", .opening "X" 1.0 .zero)], ⟨feedVolatility⟩⟩
    ∃ n f' e', f.tick (fun _ => ⟨0.0, 0, ⟨7, 0⟩⟩) e = .ok (.ok (n, f', e')) ∧ n = 2 ∧
      ∃ a b s t, e'.blocks.get? "A" = some a ∧ e'.blocks.get? "B" = some b ∧
        a.streams.get? p = some s ∧ b.streams.get? p = some t ∧
        s.records = [⟨.long 100, ⟨7, 0⟩⟩] ∧ s.lost = true ∧
        t.records = [⟨.long 100, ⟨7, 0⟩⟩] ∧ t.lost = false := by
  intro p full fresh e f
  obtain ⟨-, hexists, hticks⟩ := tick_writes_each_stream_once (fun _ => ⟨0.0, 0, ⟨7, 0⟩⟩) f e
  have hquote (ticker : String) : f.quotes.get? ticker =
      if ticker = "X" then some (.opening "X" 1.0 .zero) else none := Table.get?_ofList _ _
  obtain ⟨n, f', e', h⟩ := hexists.mpr ⟨by decide +kernel, fun ticker q hq => by
    rw [hquote] at hq
    split at hq
    · cases hq
      decide
    · contradiction⟩
  obtain ⟨⟨-, -, hsteps⟩, hwrites⟩ := hticks n f' e' h
  obtain ⟨q, hstep, hq⟩ := hsteps "X" _ (hquote "X")
  obtain ⟨-, rfl⟩ := Quote.step_eq_ok_iff.mp hstep
  obtain ⟨a, ha, -, hfull⟩ := hwrites.block (show e.blocks.get? "A" = some full by decide)
  obtain ⟨b, hb, -, hfresh⟩ := hwrites.block (show e.blocks.get? "B" = some fresh by decide)
  have hs : full.streams.get? p = some (Stream.empty.push 1 ⟨.long 5, .zero⟩) := by decide
  have ht : fresh.streams.get? p = some .empty := by decide
  refine ⟨n, f', e', h, ?_, a, b, _, _, ha, hb, (hfull hs).1 _ _ hq rfl, (hfresh ht).1 _ _ hq rfl,
    by decide, by decide, by decide, by decide⟩
  have hvalues : e.blocks.values = [full, fresh] := by decide
  have hkeys : full.streams.keys = [p] ∧ fresh.streams.keys = [p] := by decide
  rw [hwrites.count, hvalues, List.map_cons, List.map_singleton, hkeys.1, hkeys.2,
    List.countP_singleton, hq]
  rfl

end Feed

end TickerTape
