import Mathlib.Data.List.Forall2
import Mathlib.Logic.Function.Basic
import TickerTape.Proofs.ExchangeSound

/-!
# Streams do not interfere

What becomes of a stream is decided by few of the events that an exchange sees: the loss and return
of the connection, the resizes and the end of its block, the changes of its two names, the records
of its pair and the marker reads of the pair. Two blocks that were created alike and see these
events alike have the same stream and give the same answers, whatever else happens to them and
around them.

A block is seen here from one pair of names. What is seen of it and of the connection, the outlook,
goes through the events that touch the stream as a machine of its own, and no other event changes
it.

## Main definitions

* `TickerTape.Engine.Touch` — the events that touch a stream, without the names.
* `TickerTape.Engine.Lane`, `TickerTape.Engine.Outlook` — what is seen from a pair of names.
* `TickerTape.Engine.Outcome.Agrees` — answers that are the same, as far as they have to be.
* `TickerTape.Engine.BlockRun` — events from the creation of a block on.

## Main results

* `TickerTape.Engine.Exchange.outlook_step_of_touch?_eq_none` — what does not touch a stream.
* `TickerTape.Engine.Exchange.step_touch` — what does.
* `TickerTape.Engine.BlockRun.streams_do_not_interfere` — two runs with the same touches.
-/

namespace TickerTape.Engine

/-! ### The events that touch a stream -/

/-- An event that touches the stream of a pair in a block. The names of the block and of the pair
are left out. -/
inductive Touch where
  /-- The connection is lost or regained. -/
  | connect (connected : Bool)
  /-- A record of the pair arrives. -/
  | publish (r : Record)
  /-- The block is given another capacity. -/
  | resize (size : Nat)
  /-- The block is closed. -/
  | close
  /-- The name of a kind is added to the block. -/
  | add (axis : Axis)
  /-- The name of a kind is removed from the block. -/
  | remove (axis : Axis)
  /-- The stream is read behind its marker. -/
  | fetch (first room : Nat) (kind : Kind) (stamped : Bool)
  deriving DecidableEq

/-- Whether a marker is read. -/
def Touch.isFetch : Touch → Bool
  | fetch .. => true
  | _ => false

/-- How a request touches the stream of a pair in a block. -/
def Query.touch? (block : String) (p : Pair) : Query → Option Touch
  | .resizeBlock name size => if name = block then some (.resize size) else none
  | .closeBlock name => if name = block then some .close else none
  | .addMember name axis member =>
    if name = block ∧ member = p.get axis then some (.add axis) else none
  | .removeMember name axis member =>
    if name = block ∧ member = p.get axis then some (.remove axis) else none
  | .sinceMarker a first room kind stamped =>
    if a.block = block ∧ Exchange.pair a = p then some (.fetch first room kind stamped) else none
  | _ => none

/-- How an event touches the stream of a pair in a block. -/
def Event.touch? (block : String) (p : Pair) : Event → Option Touch
  | .connect connected => some (.connect connected)
  | .publish q r => if q = p then some (.publish r) else none
  | .request _ (.query q) => q.touch? block p
  | .request .. => none

/-! ### A block seen from a pair -/

/-- What is seen of a block from a pair of names: which of the two names it has, and the stream. -/
@[ext] structure Lane where
  size : Nat
  stamped : Bool
  has : Axis → Bool
  stream : Option Stream

namespace Lane

/-- The block without names. -/
def new (size : Nat) (stamped : Bool) : Lane := ⟨size, stamped, fun _ => false, none⟩

/-- Whether the block has both names. -/
def configured (l : Lane) : Bool := l.has .item && l.has .topic

/-- The block with one more record in the stream. -/
def write (r : Record) (l : Lane) : Lane := { l with stream := l.stream.map (·.push l.size r) }

/-- The block with another capacity. -/
def resize (size : Nat) (l : Lane) : Lane :=
  { l with size, stream := l.stream.map (·.truncate size) }

/-- The block with one of the names, and the stream if it has the other one. -/
def add (axis : Axis) (l : Lane) : Lane :=
  if l.has axis then l
  else { l with
    has := Function.update l.has axis true
    stream := if l.has axis.other then some .empty else l.stream }

/-- The block without one of the names. -/
def remove (axis : Axis) (l : Lane) : Except Status Lane :=
  if l.has axis then .ok { l with has := Function.update l.has axis false, stream := none }
  else .error (missing axis)

/-- A marker read of the stream. -/
def fetch (first room : Nat) (kind : Kind) (stamped : Bool) (l : Lane) :
    Except Status (MarkerRead × Lane) :=
  if l.size ≤ first then .error .streamSize
  else if !l.has .item then .error .noItem
  else if !l.has .topic then .error .noTopic
  else
    match l.stream with
    | some s => do
      let (found, s) ← s.fetch first room kind (stamped && l.stamped)
      return (found, { l with stream := some s })
    | none => .error .getData

end Lane

/-! ### Answers about names that are missing -/

/-- The answers that a pair has no stream because a name is missing. -/
def Misses {α : Type} (x : Except Status α) : Prop := x = .error .noItem ∨ x = .error .noTopic

/-- Answers that are the same, or that both say of a pair that is free which of its names is
missing. -/
def AnswersAlike {α : Type} (free : Prop) (x y : Except Status α) : Prop :=
  x = y ∨ free ∧ Misses x ∧ Misses y

namespace AnswersAlike

variable {α β : Type} {free : Prop} {x y : Except Status α}

theorem refl (x : Except Status α) : AnswersAlike free x x := .inl rfl

theorem of_eq (h : x = y) : AnswersAlike free x y := .inl h

theorem map (f : α → β) (h : AnswersAlike free x y) :
    AnswersAlike free (f <$> x) (f <$> y) := by
  have misses {z : Except Status α} (hz : Misses z) : Misses (f <$> z) := by
    rcases hz with rfl | rfl
    · exact .inl rfl
    · exact .inr rfl
  rcases h with rfl | ⟨hfree, hx, hy⟩
  · exact .refl _
  · exact .inr ⟨hfree, misses hx, misses hy⟩

end AnswersAlike

namespace Block

variable {b : Block} {p : Pair}

/-- What is seen of a block from a pair of names. -/
def lane (p : Pair) (b : Block) : Lane :=
  ⟨b.size, b.stamped, fun axis => (b.names axis).contains (p.get axis), b.streams.get? p⟩

@[simp] theorem size_lane (p : Pair) (b : Block) : (b.lane p).size = b.size := rfl

@[simp] theorem stamped_lane (p : Pair) (b : Block) : (b.lane p).stamped = b.stamped := rfl

@[simp] theorem has_lane (p : Pair) (b : Block) (axis : Axis) :
    (b.lane p).has axis = (b.names axis).contains (p.get axis) := rfl

@[simp] theorem stream_lane (p : Pair) (b : Block) : (b.lane p).stream = b.streams.get? p := rfl

@[simp] theorem lane_new (size : Nat) (stamped : Bool) (timeout : Nat) :
    (new size stamped timeout).lane p = .new size stamped := by
  have hhas : (fun axis => ((new size stamped timeout).names axis).contains (p.get axis)) =
      fun _ => false := by
    funext axis
    cases axis <;> rfl
  rw [lane, hhas]
  rfl

/-- Blocks look the same from a pair when they have the same settings, the same of its names and the
same stream. -/
theorem lane_congr {b' : Block} (hsize : b'.size = b.size) (hstamped : b'.stamped = b.stamped)
    (hnames : ∀ axis,
      (b'.names axis).contains (p.get axis) = (b.names axis).contains (p.get axis))
    (hstream : b'.streams.get? p = b.streams.get? p) : b'.lane p = b.lane p := by
  rw [lane, lane, hsize, hstamped, funext hnames, hstream]

theorem lane_write_self (b : Block) (p : Pair) (r : Record) :
    (b.write p r).lane p = (b.lane p).write r := by
  ext1
  · exact size_write b p r
  · exact stamped_write b p r
  · funext axis
    simp [lane, Lane.write]
  · simp only [lane, Lane.write]
    rw [write]
    split
    next s hs => simp [hs]
    next hs => simp [hs]

theorem lane_write_of_ne {q : Pair} (hq : q ≠ p) (r : Record) :
    (b.write q r).lane p = b.lane p := by
  refine lane_congr (size_write b q r) (stamped_write b q r) (fun axis => by simp) ?_
  rw [write]
  split
  · rw [Table.get?_insert, if_neg hq.symm]
  · rfl

theorem lane_resize (b : Block) (p : Pair) (size : Nat) :
    (b.resize size).lane p = (b.lane p).resize size := by
  ext1
  · rfl
  · rfl
  · funext axis
    simp [lane, Lane.resize]
  · simp [lane, Lane.resize, resize]

/-- The names of a pair that a block has when one of them is added. -/
theorem lane_add_self (b : Block) (p : Pair) (axis : Axis) :
    (b.add axis (p.get axis)).lane p = (b.lane p).add axis := by
  rw [Lane.add, has_lane]
  split
  next hhas => rw [add, if_pos hhas]
  next hhas =>
    obtain ⟨hnames, hother⟩ := names_add b axis (p.get axis)
    ext1
    · exact size_add b axis _
    · exact stamped_add b axis _
    · funext a
      rcases axis.eq_or_eq_other a with rfl | rfl
      · simp [hnames, NameSet.contains_add]
      · simp [hother, Function.update_of_ne axis.other_ne]
    · rw [stream_lane, get?_streams_add (Bool.eq_false_iff.mpr hhas)]
      simp only [true_and]
      rfl

/-- Another name leaves what is seen from a pair. -/
theorem lane_add_of_ne {axis : Axis} {name : String} (hname : name ≠ p.get axis) :
    (b.add axis name).lane p = b.lane p := by
  by_cases hhas : (b.names axis).contains name = true
  · rw [add, if_pos hhas]
  rw [Bool.not_eq_true] at hhas
  obtain ⟨hnames, hother⟩ := names_add b axis name
  refine lane_congr (size_add b axis name) (stamped_add b axis name) (fun a => ?_) ?_
  · rcases axis.eq_or_eq_other a with rfl | rfl
    · simp [hnames, NameSet.contains_add, hname.symm]
    · rw [hother]
  · simp [get?_streams_add hhas, hname.symm]

/-- A name of a pair is removed from a block as it is from what is seen of it. -/
theorem remove_self (b : Block) (p : Pair) (axis : Axis) :
    lane p <$> b.remove axis (p.get axis) = (b.lane p).remove axis := by
  cases hremove : b.remove axis (p.get axis) with
  | error status =>
    rw [remove_eq] at hremove
    split at hremove
    · contradiction
    next hhas =>
      rw [Lane.remove, has_lane, if_neg hhas, ← Except.error.inj hremove]
      rfl
  | ok b' =>
    have hhas : (b.names axis).contains (p.get axis) = true := by
      by_contra hhas
      rw [remove_eq, if_neg hhas] at hremove
      contradiction
    obtain ⟨hnames, hother, hsize, hget⟩ := of_remove_eq_ok hremove
    rw [Lane.remove, has_lane, if_pos hhas]
    refine congrArg Except.ok ?_
    ext1
    · exact hsize
    · exact stamped_of_remove hremove
    · funext a
      rcases axis.eq_or_eq_other a with rfl | rfl
      · simp [lane, hnames, NameSet.contains_remove]
      · simp [hother, Function.update_of_ne axis.other_ne]
    · simp [hget]

theorem lane_of_remove {axis : Axis} {name : String} {b' : Block} (hname : name ≠ p.get axis)
    (hremove : b.remove axis name = .ok b') : b'.lane p = b.lane p := by
  obtain ⟨hnames, hother, hsize, hget⟩ := of_remove_eq_ok hremove
  refine lane_congr hsize (stamped_of_remove hremove) (fun a => ?_) ?_
  · rcases axis.eq_or_eq_other a with rfl | rfl
    · simp [hnames, NameSet.contains_remove, hname.symm]
    · rw [hother]
  · simp [hget, hname.symm]

theorem lane_replace_self (b : Block) (p : Pair) (s : Stream) :
    lane p { b with streams := b.streams.insert p s } = { b.lane p with stream := some s } := by
  ext1
  · rfl
  · rfl
  · funext axis
    simp [lane]
  · simp [lane]

theorem lane_of_fetch {q : Pair} (hq : q ≠ p) {first room : Nat} {kind : Kind} {stamped : Bool}
    {found : MarkerRead} {b' : Block} (h : b.fetch q first room kind stamped = .ok (found, b')) :
    b'.lane p = b.lane p := by
  obtain ⟨-, s, s', -, -, rfl⟩ := fetch_eq_ok_iff.mp h
  refine lane_congr rfl rfl (fun axis => by simp) ?_
  rw [Table.get?_insert, if_neg hq.symm]

/-- A marker read of a block is one of what is seen of it, except for the name that it says to be
missing. -/
theorem fetch_alike (b : Block) (p : Pair) (first room : Nat) (kind : Kind) (stamped : Bool) :
    AnswersAlike ((b.lane p).configured = false)
      (Prod.map id (lane p) <$> b.fetch p first room kind stamped)
      ((b.lane p).fetch first room kind stamped) := by
  have hitem : (b.lane p).has .item = b.items.contains p.item := rfl
  have htopic : (b.lane p).has .topic = b.topics.contains p.topic := rfl
  rw [fetch_eq, Lane.fetch, size_lane, hitem, htopic]
  by_cases hfirst : b.size ≤ first
  · rw [if_pos hfirst, if_pos hfirst]
    exact .refl _
  rw [if_neg hfirst, if_neg hfirst]
  cases hi : b.items.contains p.item with
  | false =>
    have hs : b.stream p = .error .noItem := by simp [stream, hi]
    rw [hs]
    exact .refl _
  | true =>
    cases ht : b.topics.contains p.topic with
    | false =>
      -- Without any topic the block says that the item is missing.
      refine .inr ⟨by rw [Lane.configured, htopic, ht, Bool.and_false], ?_, .inr rfl⟩
      cases hlive : b.isLive with
      | false =>
        have hs : b.stream p = .error .noItem := by simp [stream, hlive]
        rw [hs]
        exact .inl rfl
      | true =>
        have hs : b.stream p = .error .noTopic := by simp [stream, hlive, hi, ht]
        rw [hs]
        exact .inr rfl
    | true =>
      have hlive : b.isLive = true := by
        simp [isLive, Table.isEmpty_of_contains hi, Table.isEmpty_of_contains ht]
      have hget : (b.lane p).stream = b.streams.get? p := rfl
      cases hs : b.streams.get? p with
      | none =>
        have hstream : b.stream p = .error .getData := by simp [stream, hlive, hi, ht, hs]
        rw [hstream, hget, hs]
        exact .refl _
      | some s =>
        rw [stream_eq_ok_iff.mpr ⟨hi, ht, hs⟩, hget, hs]
        refine .of_eq ?_
        change Prod.map id (lane p) <$> (s.fetch first room kind (stamped && b.stamped) >>= _) =
          s.fetch first room kind (stamped && b.stamped) >>= _
        cases s.fetch first room kind (stamped && b.stamped) with
        | error status => rfl
        | ok found =>
          exact congrArg (fun l => Except.ok (found.1, l)) (lane_replace_self b p found.2)

end Block

/-! ### The outlook from a pair -/

/-- What is seen of an exchange from a pair of names and a block: the connection, and the block if
there is one. -/
structure Outlook where
  connected : Bool
  lane : Option Lane

namespace Outlook

/-- The block of a connected exchange. -/
def block (o : Outlook) : Except Status Lane :=
  if o.connected then
    match o.lane with
    | some l => .ok l
    | none => .error .noBlock
  else .error .notConnected

/-- Whether there is a block, and it has both names. -/
def configured (o : Outlook) : Bool := o.lane.any Lane.configured

/-- The answer to an event that touches the stream, and the outlook after it. Only marker reads
tell something. -/
def perform (p : Pair) : Touch → Outlook → Except Status (Option MarkerRead × Outlook)
  | .connect connected, o => .ok (none, { o with connected })
  | .publish r, o => .ok (none, { o with lane := o.lane.map (·.write r) })
  | .resize size, o => do
    checkSize size
    let l ← o.block
    return (none, { o with lane := some (l.resize size) })
  | .close, o => do
    let _ ← o.block
    return (none, { o with lane := none })
  | .add axis, o => do
    checkMember axis (p.get axis)
    let l ← o.block
    return (none, { o with lane := some (l.add axis) })
  | .remove axis, o => do
    let l ← o.block
    let l ← l.remove axis
    return (none, { o with lane := some l })
  | .fetch first room kind stamped, o => do
    let l ← o.block
    let (found, l) ← l.fetch first room kind stamped
    return (some found, { o with lane := some l })

/-- The answer to an event that touches the stream. -/
def reply (p : Pair) (t : Touch) (o : Outlook) : Except Status (Option MarkerRead) :=
  Prod.fst <$> o.perform p t

/-- The outlook after an event that touches the stream. If the event fails it is as before. -/
def step (p : Pair) (o : Outlook) (t : Touch) : Outlook :=
  match o.perform p t with
  | .ok (_, o') => o'
  | .error _ => o

end Outlook

/-- What a request tells of a stream when it does not fail: the values of a marker read. -/
def Query.found : (q : Query) → q.Answer → Option MarkerRead
  | .sinceMarker .., found => some found
  | _, _ => none

namespace Exchange

variable {e e' : Exchange} {block : String} {p : Pair}

/-- What is seen of an exchange from a pair of names and a block. -/
def outlook (block : String) (p : Pair) (e : Exchange) : Outlook :=
  ⟨e.connected, (e.blocks.get? block).map (·.lane p)⟩

/-- The answer to an event. How many streams took a record is left out. -/
def reply (e : Exchange) : Event → Except Status (Option MarkerRead)
  | .request draw (.query q) =>
    let answer : Except Status q.Answer := (handler draw (.query q) e).1
    q.found <$> answer
  | _ => .ok none

/-- An event creates a block and gives it this name. -/
def Names (block : String) (e : Exchange) : Event → Prop
  | .request draw (.query (.createBlock size stamped timeout)) =>
    (handler draw (.query (.createBlock size stamped timeout)) e).1 =
      (.ok block : Except Status String)
  | _ => False

theorem block_outlook (e : Exchange) (block : String) (p : Pair) :
    (e.outlook block p).block = Block.lane p <$> e.block block := by
  unfold Exchange.block connection outlook Outlook.block
  cases e.connected with
  | false => rfl
  | true => cases e.blocks.get? block <;> rfl

theorem outlook_setBlock_self (e : Exchange) (block : String) (p : Pair) (b : Block) :
    (e.setBlock block b).outlook block p = { e.outlook block p with lane := some (b.lane p) } := by
  simp [outlook, setBlock]

/-- A block that looks the same may take the place of another. -/
theorem outlook_setBlock {name : String} {b b' : Block} (hb : e.block name = .ok b)
    (h : name = block → b'.lane p = b.lane p) :
    (e.setBlock name b').outlook block p = e.outlook block p := by
  rw [outlook, setBlock, Table.get?_insert]
  split
  next hname =>
    rw [outlook, hname, (block_eq_ok_iff.mp hb).2, Option.map_some, Option.map_some,
      h hname.symm]
  next => rfl

/-- A request that does not touch a stream, nor creates a block of the same name, changes nothing
of what is seen of it. -/
theorem outlook_of_perform {draw : String} {q : Query} {answer : q.Answer}
    (htouch : q.touch? block p = none) (hnames : ¬ e.Names block (.request draw (.query q)))
    (h : e.perform draw q = .ok (answer, e')) : e'.outlook block p = e.outlook block p := by
  cases move_of_perform h with
  | still => rfl
  | createBlock hsize hlimit hnew =>
    have hne : block ≠ draw := by
      rintro rfl
      obtain ⟨-, -, -, -, rfl, -⟩ := of_perform_createBlock h
      refine hnames ?_
      rw [Names, handler_of_perform_eq_ok h]
    rw [outlook, setBlock, Table.get?_insert, if_neg hne]
    rfl
  | closeBlock name =>
    have hne : block ≠ name := by
      rintro rfl
      simp [Query.touch?] at htouch
    rw [outlook, Table.get?_erase, if_neg hne]
    rfl
  | resizeBlock hsize hb =>
    refine outlook_setBlock hb ?_
    rintro rfl
    simp [Query.touch?] at htouch
  | addMember hmember hb =>
    refine outlook_setBlock hb ?_
    rintro rfl
    exact Block.lane_add_of_ne (by simpa [Query.touch?] using htouch)
  | removeMember hb hremove =>
    refine outlook_setBlock hb ?_
    rintro rfl
    exact Block.lane_of_remove (by simpa [Query.touch?] using htouch) hremove
  | sinceMarker hb hfetch =>
    refine outlook_setBlock hb ?_
    rintro rfl
    exact Block.lane_of_fetch (by simpa [Query.touch?] using htouch) hfetch

/-- An event that does not touch a stream, nor creates a block of the same name, changes nothing of
what is seen of it. -/
theorem outlook_step_of_touch?_eq_none {event : Event} (htouch : event.touch? block p = none)
    (hnames : ¬ e.Names block event) :
    (e.step event).outlook block p = e.outlook block p := by
  cases event with
  | connect connected => contradiction
  | publish q r =>
    have hq : q ≠ p := by
      rintro rfl
      simp [Event.touch?] at htouch
    have hlane : (fun b : Block => (b.write q r).lane p) = Block.lane p :=
      funext fun b => Block.lane_write_of_ne hq r
    simp only [step, outlook, publish, Table.get?_mapValues, Option.map_map, Function.comp_def,
      hlane]
  | request draw r =>
    cases r with
    | connected | limit | count | setLimit => rfl
    | query q =>
      cases h : e.perform draw q with
      | error status => rw [step, handler_of_perform_eq_error h]
      | ok reply =>
        rw [step, handler_of_perform_eq_ok h]
        exact outlook_of_perform htouch hnames h

/-- A marker read, seen from the pair whose stream it reads. -/
theorem perform_fetch (draw : String) (a : Address) (first room : Nat) (kind : Kind)
    (stamped : Bool) :
    AnswersAlike ((Touch.fetch first room kind stamped).isFetch = true ∧
        (e.outlook a.block (pair a)).configured = false)
      (Prod.map (Query.found (.sinceMarker a first room kind stamped))
        (outlook a.block (pair a)) <$> e.perform draw (.sinceMarker a first room kind stamped))
      ((e.outlook a.block (pair a)).perform (pair a) (.fetch first room kind stamped)) := by
  simp only [perform_sinceMarker_eq, Outlook.perform, block_outlook]
  cases hb : e.block a.block with
  | error status => exact .refl _
  | ok b =>
    have hlane : (e.outlook a.block (pair a)).configured = (b.lane (pair a)).configured := by
      rw [Outlook.configured, outlook, (block_eq_ok_iff.mp hb).2]
      rfl
    have hfetch := (b.fetch_alike (pair a) first room kind stamped).map fun x =>
      (some x.1, { e.outlook a.block (pair a) with lane := some x.2 })
    rw [hlane]
    change AnswersAlike _ (Prod.map _ _ <$> (b.fetch (pair a) first room kind stamped >>= _))
      ((b.lane (pair a)).fetch first room kind stamped >>= _)
    convert hfetch using 1
    · exact and_iff_right rfl
    · cases b.fetch (pair a) first room kind stamped with
      | error status => rfl
      | ok x =>
        exact congrArg (fun o => Except.ok (some x.1, o))
          (outlook_setBlock_self e a.block (pair a) x.2)
    · cases (b.lane (pair a)).fetch first room kind stamped <;> rfl

/-- A request that touches a stream does to the outlook what the outlook tells. -/
theorem perform_touch (draw : String) {q : Query} {t : Touch}
    (h : q.touch? block p = some t) :
    AnswersAlike (t.isFetch = true ∧ (e.outlook block p).configured = false)
      (Prod.map q.found (outlook block p) <$> e.perform draw q)
      ((e.outlook block p).perform p t) := by
  cases q with
  | resizeBlock name size =>
    obtain ⟨rfl, rfl⟩ : name = block ∧ Touch.resize size = t := by
      simpa [Query.touch?] using h
    refine .of_eq ?_
    simp only [perform_resizeBlock_eq, Outlook.perform, block_outlook]
    cases checkSize size with
    | error status => rfl
    | ok _ =>
      cases e.block name with
      | error status => rfl
      | ok b =>
        refine congrArg (fun o => Except.ok (none, o)) ?_
        rw [outlook_setBlock_self, Block.lane_resize]
  | closeBlock name =>
    obtain ⟨rfl, rfl⟩ : name = block ∧ Touch.close = t := by simpa [Query.touch?] using h
    refine .of_eq ?_
    simp only [perform_closeBlock_eq, Outlook.perform, block_outlook]
    cases e.block name with
    | error status => rfl
    | ok b =>
      refine congrArg (fun o => Except.ok (none, o)) ?_
      rw [outlook, Table.get?_erase, if_pos rfl]
      rfl
  | addMember name axis member =>
    obtain ⟨⟨rfl, rfl⟩, rfl⟩ : (name = block ∧ member = p.get axis) ∧ Touch.add axis = t := by
      simpa [Query.touch?] using h
    refine .of_eq ?_
    simp only [perform_addMember_eq, Outlook.perform, block_outlook]
    cases checkMember axis (p.get axis) with
    | error status => rfl
    | ok _ =>
      cases e.block name with
      | error status => rfl
      | ok b =>
        refine congrArg (fun o => Except.ok (none, o)) ?_
        rw [outlook_setBlock_self, Block.lane_add_self]
  | removeMember name axis member =>
    obtain ⟨⟨rfl, rfl⟩, rfl⟩ : (name = block ∧ member = p.get axis) ∧ Touch.remove axis = t := by
      simpa [Query.touch?] using h
    refine .of_eq ?_
    simp only [perform_removeMember_eq, Outlook.perform, block_outlook]
    cases e.block name with
    | error status => rfl
    | ok b =>
      change _ = (b.lane p).remove axis >>= _
      rw [← Block.remove_self]
      change Prod.map _ _ <$> (b.remove axis (p.get axis) >>= _) = _
      cases b.remove axis (p.get axis) with
      | error status => rfl
      | ok b' => exact congrArg (fun o => Except.ok (none, o)) (outlook_setBlock_self e name p b')
  | sinceMarker a first room kind stamped =>
    obtain ⟨⟨rfl, rfl⟩, rfl⟩ :
        (a.block = block ∧ pair a = p) ∧ Touch.fetch first room kind stamped = t := by
      simpa [Query.touch?] using h
    exact perform_fetch draw a first room kind stamped
  | _ => contradiction

theorem reply_query (e : Exchange) (draw : String) (q : Query) (block : String) (p : Pair) :
    e.reply (.request draw (.query q)) =
      Prod.fst <$> (Prod.map q.found (outlook block p) <$> e.perform draw q) := by
  rw [reply, handler_fst]
  cases e.perform draw q <;> rfl

/-- A request that touches a stream, as a step and with its answer. -/
theorem step_query_touch (draw : String) {q : Query} {t : Touch} (h : q.touch? block p = some t) :
    (e.step (.request draw (.query q))).outlook block p = (e.outlook block p).step p t ∧
      AnswersAlike (t.isFetch = true ∧ (e.outlook block p).configured = false)
        (e.reply (.request draw (.query q))) ((e.outlook block p).reply p t) := by
  have hperform := perform_touch (e := e) draw h
  constructor
  · rw [Outlook.step, step]
    cases hq : e.perform draw q with
    | ok x =>
      rw [handler_of_perform_eq_ok hq]
      rw [hq] at hperform
      -- An answer that is no failure does not complain of a missing name.
      rcases hperform with heq | ⟨-, hmiss | hmiss, -⟩
      · rw [← heq]
        rfl
      all_goals contradiction
    | error status =>
      rw [handler_of_perform_eq_error hq]
      rw [hq] at hperform
      rcases hperform with heq | ⟨-, -, hmiss | hmiss⟩
      · rw [← heq]
        rfl
      · rw [hmiss]
      · rw [hmiss]
  · rw [reply_query e draw q block p]
    exact hperform.map Prod.fst

/-- **The events that touch a stream.** Such an event does to the outlook what the outlook tells,
and answers what it tells; only which of two missing names a marker read complains of may differ. -/
theorem step_touch {event : Event} {t : Touch} (h : event.touch? block p = some t) :
    (e.step event).outlook block p = (e.outlook block p).step p t ∧
      AnswersAlike (t.isFetch = true ∧ (e.outlook block p).configured = false) (e.reply event)
        ((e.outlook block p).reply p t) := by
  cases event with
  | connect connected =>
    cases h
    exact ⟨rfl, .refl _⟩
  | publish q r =>
    obtain ⟨rfl, rfl⟩ : q = p ∧ Touch.publish r = t := by simpa [Event.touch?] using h
    have hlane : (fun b : Block => (b.write q r).lane q) = fun b => (b.lane q).write r :=
      funext fun b => Block.lane_write_self b q r
    refine ⟨?_, .refl _⟩
    simp only [step, outlook, publish, Table.get?_mapValues, Option.map_map, Function.comp_def,
      hlane, Outlook.step, Outlook.perform]
  | request draw r =>
    cases r with
    | connected | limit | count | setLimit => contradiction
    | query q => exact step_query_touch draw h

end Exchange

/-! ### Runs -/

/-- An event that touched a stream: whether the block had both names then, and the answer. -/
structure Outcome where
  touch : Touch
  configured : Bool
  reply : Except Status (Option MarkerRead)

/-- Two outcomes of the same event with the same answer. Only a marker read of a pair of which the
block has not both names may complain of the item in one and of the topic in the other. -/
def Outcome.Agrees (x y : Outcome) : Prop :=
  x.touch = y.touch ∧ x.configured = y.configured ∧
    AnswersAlike (x.touch.isFetch = true ∧ x.configured = false) x.reply y.reply

namespace Outcome

/-- Outcomes that agree with the same one agree with each other. -/
theorem Agrees.of_common {x y z : Outcome} (hx : x.Agrees z) (hy : y.Agrees z) : x.Agrees y := by
  obtain ⟨hxt, hxc, hxr⟩ := hx
  obtain ⟨hyt, hyc, hyr⟩ := hy
  refine ⟨hxt.trans hyt.symm, hxc.trans hyc.symm, ?_⟩
  rw [hxt, hxc] at hxr ⊢
  rw [hyt, hyc] at hyr
  rcases hxr with hxr | ⟨hfree, hx, hz⟩
  · rw [hxr]
    rcases hyr with hyr | ⟨hfree, hy, hz⟩
    · exact .of_eq hyr.symm
    · exact .inr ⟨hfree, hz, hy⟩
  · rcases hyr with hyr | ⟨-, hy, -⟩
    · exact .inr ⟨hfree, hx, hyr ▸ hz⟩
    · exact .inr ⟨hfree, hx, hy⟩

theorem forall₂_agrees_of_common {xs ys zs : List Outcome} (hx : List.Forall₂ Agrees xs zs)
    (hy : List.Forall₂ Agrees ys zs) : List.Forall₂ Agrees xs ys := by
  induction hx generalizing ys with
  | nil =>
    cases hy
    exact .nil
  | cons hx _ ih =>
    cases hy with
    | cons hy hys => exact .cons (hx.of_common hy) (ih hys)

end Outcome

/-- The outcomes of events that touch a stream, as the outlook tells them. -/
def Outlook.outcomes (p : Pair) (o : Outlook) : List Touch → List Outcome
  | [] => []
  | t :: touches => ⟨t, o.configured, o.reply p t⟩ :: (o.step p t).outcomes p touches

namespace Exchange

variable {block : String} {p : Pair}

/-- The outcomes of those events that touch a stream. -/
def outcomes (block : String) (p : Pair) (e : Exchange) : List Event → List Outcome
  | [] => []
  | event :: events =>
    match event.touch? block p with
    | some t => ⟨t, (e.outlook block p).configured, e.reply event⟩ ::
        (e.step event).outcomes block p events
    | none => (e.step event).outcomes block p events

/-- No event gives a new block this name. -/
def Reserved (block : String) (e : Exchange) : List Event → Prop
  | [] => True
  | event :: events => ¬ e.Names block event ∧ (e.step event).Reserved block events

/-- The stream of a pair in a block, if there is one. -/
def stream? (block : String) (p : Pair) (e : Exchange) : Option Stream := do
  let b ← e.blocks.get? block
  b.streams.get? p

theorem stream?_eq_outlook (e : Exchange) :
    e.stream? block p = (e.outlook block p).lane >>= Lane.stream := by
  unfold stream? outlook
  cases e.blocks.get? block <;> rfl

/-- After any events the outlook is what those that touch the stream make of it. -/
theorem outlook_after {e : Exchange} {events : List Event} (h : e.Reserved block events) :
    (e.after events).outlook block p =
      (events.filterMap (Event.touch? block p)).foldl (Outlook.step p) (e.outlook block p) := by
  induction events generalizing e with
  | nil => rfl
  | cons event events ih =>
    obtain ⟨hnames, h⟩ := h
    rw [after, List.foldl_cons, ← after, ih h, List.filterMap_cons]
    cases ht : event.touch? block p with
    | none => rw [outlook_step_of_touch?_eq_none ht hnames]
    | some t => rw [(step_touch ht).1, List.foldl_cons]

/-- The answers to the events that touch a stream agree with those that the outlook tells. -/
theorem outcomes_agree {e : Exchange} {events : List Event} (h : e.Reserved block events) :
    List.Forall₂ Outcome.Agrees (e.outcomes block p events)
      ((e.outlook block p).outcomes p (events.filterMap (Event.touch? block p))) := by
  induction events generalizing e with
  | nil => exact .nil
  | cons event events ih =>
    obtain ⟨hnames, h⟩ := h
    have hrest := ih h
    rw [outcomes, List.filterMap_cons]
    cases ht : event.touch? block p with
    | none => rwa [outlook_step_of_touch?_eq_none ht hnames] at hrest
    | some t =>
      obtain ⟨hstep, hreply⟩ := step_touch (e := e) ht
      rw [hstep] at hrest
      exact .cons ⟨rfl, rfl, hreply⟩ hrest

end Exchange

/-- A block that some exchange created with these settings, and what happened from then on. No other
block is given its name. -/
structure BlockRun (size : Nat) (stamped : Bool) (timeout : Nat) where
  before : Exchange
  draw : String
  block : String
  begun : Exchange
  created : Exchange.handler draw (.query (.createBlock size stamped timeout)) before =
    ((.ok block : Except Status String), begun)
  events : List Event
  reserved : begun.Reserved block events

namespace BlockRun

variable {size : Nat} {stamped : Bool} {timeout : Nat}

/-- The exchange after the run. -/
def final (r : BlockRun size stamped timeout) : Exchange := r.begun.after r.events

/-- The events of the run that touch the stream of a pair in the block. -/
def touches (r : BlockRun size stamped timeout) (p : Pair) : List Touch :=
  r.events.filterMap (Event.touch? r.block p)

/-- The outcomes of the events that touch the stream of a pair in the block. -/
def outcomes (r : BlockRun size stamped timeout) (p : Pair) : List Outcome :=
  r.begun.outcomes r.block p r.events

/-- A new block looks the same from any pair. -/
theorem outlook_begun (r : BlockRun size stamped timeout) (p : Pair) :
    r.begun.outlook r.block p = ⟨true, some (.new size stamped)⟩ := by
  obtain ⟨-, hconn, -, -, hname, hbegun⟩ :=
    Exchange.of_perform_createBlock (Exchange.handler_eq_ok_iff.mp r.created)
  rw [hbegun, ← hname, Exchange.outlook_setBlock_self, Block.lane_new, Exchange.outlook, hconn]

/-- **Streams do not interfere.** Take two runs, each from the creation of a block with the same
settings, and a pair of names. If the same events of the two runs, in the same order, touch the
stream of the pair in the block, then after the runs the stream is there in both or in none, with
the same records, marker and losses, and these events had the same answers. Only a marker read of a
pair of which the block did not have both names may have complained of the item in one run and of
the topic in the other. How many streams took a record is not among the answers. -/
theorem streams_do_not_interfere (r₁ r₂ : BlockRun size stamped timeout) (p : Pair)
    (h : r₁.touches p = r₂.touches p) :
    r₁.final.stream? r₁.block p = r₂.final.stream? r₂.block p ∧
      List.Forall₂ Outcome.Agrees (r₁.outcomes p) (r₂.outcomes p) := by
  have hafter (r : BlockRun size stamped timeout) : r.final.outlook r.block p =
      (r.touches p).foldl (Outlook.step p) ⟨true, some (.new size stamped)⟩ := by
    rw [final, Exchange.outlook_after r.reserved, outlook_begun, touches]
  have hagree (r : BlockRun size stamped timeout) : List.Forall₂ Outcome.Agrees (r.outcomes p)
      (Outlook.outcomes p ⟨true, some (.new size stamped)⟩ (r.touches p)) := by
    have hagree := Exchange.outcomes_agree (p := p) r.reserved
    rwa [outlook_begun] at hagree
  refine ⟨?_, ?_⟩
  · rw [Exchange.stream?_eq_outlook, Exchange.stream?_eq_outlook, hafter, hafter, h]
  · exact Outcome.forall₂_agrees_of_common (h ▸ hagree r₁) (hagree r₂)

/-- A block that gets an item, a topic and a record, and whose stream is read. -/
def alone : BlockRun 2 true 1000 where
  before := .start
  draw := "B"
  block := "B"
  begun := Exchange.start.setBlock "B" (.new 2 true 1000)
  created := rfl
  events := [
    .request "" (.query (.addMember "B" .item "X")),
    .request "" (.query (.addMember "B" .topic "VOLUME")),
    .publish ⟨"X", "VOLUME"⟩ ⟨.long 7, ⟨1, 2⟩⟩,
    .request "" (.query (.sinceMarker ⟨"B", "X", "VOLUME"⟩ 0 9 .long true))]
  reserved := by simp [Exchange.Reserved, Exchange.Names]

/-- The same block beside another one, with a topic and an item that come and go, and with records
and reads of other streams. -/
def crowded : BlockRun 2 true 1000 where
  before := Exchange.start.setBlock "A" (.new 5 false 10)
  draw := "B"
  block := "B"
  begun := (Exchange.start.setBlock "A" (.new 5 false 10)).setBlock "B" (.new 2 true 1000)
  created := rfl
  events := [
    .request "" (.query (.addMember "B" .topic "LAST")),
    .request "" (.query (.addMember "B" .item "X")),
    .publish ⟨"X", "LAST"⟩ ⟨.long 1, ⟨1, 2⟩⟩,
    .request "" (.query (.addMember "B" .topic "VOLUME")),
    .request "" (.query (.addMember "B" .item "Y")),
    .publish ⟨"X", "VOLUME"⟩ ⟨.long 7, ⟨1, 2⟩⟩,
    .publish ⟨"Y", "VOLUME"⟩ ⟨.long 8, ⟨1, 2⟩⟩,
    .request "" (.query (.removeMember "B" .topic "LAST")),
    .request "" (.query (.closeBlock "A")),
    .request "" (.query (.sinceMarker ⟨"B", "Y", "VOLUME"⟩ 0 9 .long true)),
    .request "" (.query (.sinceMarker ⟨"B", "X", "VOLUME"⟩ 0 9 .long true))]
  reserved := by simp [Exchange.Reserved, Exchange.Names]

theorem streams_do_not_interfere_crowded :
    alone.touches ⟨"X", "VOLUME"⟩ = crowded.touches ⟨"X", "VOLUME"⟩ ∧
      alone.final.stream? alone.block ⟨"X", "VOLUME"⟩ =
        crowded.final.stream? crowded.block ⟨"X", "VOLUME"⟩ ∧
      List.Forall₂ Outcome.Agrees (alone.outcomes ⟨"X", "VOLUME"⟩)
        (crowded.outcomes ⟨"X", "VOLUME"⟩) := by
  have h : alone.touches ⟨"X", "VOLUME"⟩ = crowded.touches ⟨"X", "VOLUME"⟩ := by decide
  exact ⟨h, streams_do_not_interfere alone crowded ⟨"X", "VOLUME"⟩ h⟩

end BlockRun

end TickerTape.Engine
