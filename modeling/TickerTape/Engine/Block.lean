import TickerTape.Engine.Stream

/-!
# Blocks of an engine

A block has a set of items, a set of topics, and a stream for each pair of them. It is *live* when
neither set is empty; otherwise the names it has wait.

## Main definitions

* `TickerTape.topicKind` — the topics that an engine knows, with the kinds they store.
* `TickerTape.Engine.Pair` — an item and a topic.
* `TickerTape.Engine.Block` — a block.
* `TickerTape.Engine.Block.add`, `TickerTape.Engine.Block.removeMember`,
  `TickerTape.Engine.Block.resize`, `TickerTape.Engine.Block.write` — changes of a block.
* `TickerTape.Engine.Block.value`, `TickerTape.Engine.Block.range`,
  `TickerTape.Engine.Block.sinceMarker`, `TickerTape.Engine.Block.frame` — reads.
* `TickerTape.Engine.Block.remove`, `TickerTape.Engine.Block.fetch` — what the two of them that are
  actions give and leave when they are not refused.
-/

namespace TickerTape

/-- The kind of value that a topic stores, for the topics that there are. -/
def topicKind (topic : String) : Option Kind :=
  if topic ∈ ["LAST", "BID", "ASK", "OPEN", "HIGH", "LOW", "CLOSE", "MARK", "NETCHANGE"] then
    some .double
  else if topic ∈ ["VOLUME", "LAST_SIZE", "BID_SIZE", "ASK_SIZE"] then some .long
  else if topic ∈ ["DESCRIPTION", "EXCHANGE"] then some .text
  else none

namespace Engine

/-! ### Pairs of names -/

/-- An item and a topic. -/
structure Pair where
  item : String
  topic : String
  deriving DecidableEq, Repr

namespace Pair

/-- Pairs are ordered by item, then by topic. -/
instance : Ord Pair := ⟨compareLex (compareOn item) (compareOn topic)⟩

instance : Std.TransOrd Pair :=
  inferInstanceAs (Std.TransCmp (compareLex (compareOn item) (compareOn topic)))

instance : Std.LawfulEqOrd Pair where
  eq_of_compare {a b} h := by
    obtain ⟨h₁, h₂⟩ := compareLex_eq_eq.mp h
    obtain ⟨i, t⟩ := a
    obtain ⟨j, u⟩ := b
    obtain rfl := @Std.LawfulEqCmp.eq_of_compare String compare _ i j h₁
    obtain rfl := @Std.LawfulEqCmp.eq_of_compare String compare _ t u h₂
    rfl

/-- The name of one kind in a pair. -/
def get (p : Pair) : Axis → String
  | .item => p.item
  | .topic => p.topic

/-- The pair of a name of one kind and one of the other kind. -/
def along : Axis → String → String → Pair
  | .item, name, other => ⟨name, other⟩
  | .topic, name, other => ⟨other, name⟩

@[simp] theorem get_along (axis : Axis) (name other : String) :
    (along axis name other).get axis = name := by cases axis <;> rfl

@[simp] theorem get_other_along (axis : Axis) (name other : String) :
    (along axis name other).get axis.other = other := by cases axis <;> rfl

end Pair

/-- The status code for a name that a block does not have. -/
def missing : Axis → Status
  | .item => .noItem
  | .topic => .noTopic

/-! ### Blocks -/

/-- A block with its settings, its names and its streams. -/
structure Block where
  size : Nat
  stamped : Bool
  timeout : Nat
  items : NameSet
  topics : NameSet
  streams : Table Pair Stream
  deriving DecidableEq

namespace Block

/-- A block without names. -/
def new (size : Nat) (stamped : Bool) (timeout : Nat) : Block := ⟨size, stamped, timeout, ∅, ∅, ∅⟩

/-- The names of a kind. -/
def names (b : Block) : Axis → NameSet
  | .item => b.items
  | .topic => b.topics

/-- The block with other names of a kind. -/
def setNames (b : Block) (axis : Axis) (names : NameSet) : Block :=
  match axis with
  | .item => { b with items := names }
  | .topic => { b with topics := names }

/-- Whether the block has names of both kinds. -/
def isLive (b : Block) : Bool := !b.items.isEmpty && !b.topics.isEmpty

/-- The names of a kind that have streams. -/
def live (b : Block) (axis : Axis) : NameSet :=
  if (b.names axis.other).isEmpty then ∅ else b.names axis

/-- The names of a kind that wait for names of the other kind. -/
def waiting (b : Block) (axis : Axis) : NameSet :=
  if (b.names axis.other).isEmpty then b.names axis else ∅

/-- The stream of a pair of names that the block has. -/
def stream (b : Block) (p : Pair) : Except Status Stream :=
  if !b.isLive || !b.items.contains p.item then .error .noItem
  else if !b.topics.contains p.topic then .error .noTopic
  else
    match b.streams.get? p with
    | some s => .ok s
    | none => .error .getData

/-! ### Changes -/

/-- The block with one more name, and an empty stream for each pair that the name makes. A name that
it has already changes nothing. -/
def add (b : Block) (axis : Axis) (name : String) : Block :=
  if (b.names axis).contains name then b
  else
    { b.setNames axis ((b.names axis).add name) with
      streams := (b.names axis.other).keys.foldl
        (fun streams other => streams.insert (Pair.along axis name other) .empty) b.streams }

/-- Takes a name out, then its streams. Only when it is out the block tells whether it was there. -/
def removeMember (axis : Axis) (name : String) : Action Block Unit := do
  let b ← get
  set (b.setNames axis ((b.names axis).remove name))
  if (b.names axis).contains name then
    modify fun b => { b with streams := b.streams.filter fun p => p.get axis ≠ name }
  else Action.refuse (missing axis)

/-- The block without a name and its streams, if it had the name. -/
def remove (b : Block) (axis : Axis) (name : String) : Except Status Block :=
  ((removeMember axis name).outcome b).map (·.2)

/-- The block with another capacity; values beyond it are dropped. -/
def resize (b : Block) (size : Nat) : Block :=
  { b with size, streams := b.streams.mapValues fun _ s => s.truncate size }

/-- Writes a record into a stream, if the block has it. -/
def write (b : Block) (p : Pair) (r : Record) : Block :=
  match b.streams.get? p with
  | some s => { b with streams := b.streams.insert p (s.push b.size r) }
  | none => b

/-! ### Reads -/

/-- A record as the block gives it: with its time only if the block records times. -/
def give (b : Block) (kind : Kind) (stamped : Bool) (r : Record) : Except Status Sample :=
  r.give kind (stamped && b.stamped)

/-- The value in a slot. -/
def value (b : Block) (p : Pair) (slot : Nat) (kind : Kind) (stamped : Bool) :
    Except Status Sample := do
  if b.size ≤ slot then .error .streamSize
  else
    let s ← b.stream p
    match s.record? slot with
    | some r => b.give kind stamped r
    | none => .error .getData

/-- The values in the slots from `first` to `last`; slots without a value are left out. -/
def range (b : Block) (p : Pair) (first last : Nat) (kind : Kind) (stamped : Bool) :
    Except Status (List Sample) := do
  if b.size ≤ last then .error .streamSize
  else if last < first then .error .badInput
  else
    let s ← b.stream p
    (s.window first (last - first + 1)).mapM (b.give kind stamped)

/-- An action on the stream of a pair of names. The stream that it leaves takes the place of the one
that it found. -/
def withStream {α : Type} (p : Pair) (m : Action Stream α) : Action Block α :=
  Action.focus (·.stream p) (fun s b => { b with streams := b.streams.insert p s }) m

/-- A marker read of a stream. -/
def sinceMarker (p : Pair) (first room : Nat) (kind : Kind) (stamped : Bool) :
    Action Block MarkerRead := do
  let b ← get
  if b.size ≤ first then Action.refuse .streamSize
  else withStream p (Stream.sinceMarker first room kind (stamped && b.stamped))

/-- What a marker read of a stream gives, and the block after it, if it is not refused. -/
def fetch (b : Block) (p : Pair) (first room : Nat) (kind : Kind) (stamped : Bool) :
    Except Status (MarkerRead × Block) := (sinceMarker p first room kind stamped).outcome b

/-- The most recent value of each pair of `name` with a name of the kind `axis`; pairs without a
value are left out. -/
def frame (b : Block) (axis : Axis) (name : String) (kind : Kind) (stamped : Bool) :
    Except Status (List (String × Sample)) :=
  if !b.isLive || !(b.names axis.other).contains name then .error (missing axis.other)
  else do
    let cells ← (b.names axis).keys.mapM fun other => do
      let s ← b.stream (Pair.along axis other name)
      match s.record? 0 with
      | some r => do
        let sample ← b.give kind stamped r
        return some (other, sample)
      | none => return none
    return cells.filterMap id

/-! ### Outcomes of actions -/

theorem remove_eq (b : Block) (axis : Axis) (name : String) :
    b.remove axis name =
      if (b.names axis).contains name then
        .ok { b.setNames axis ((b.names axis).remove name) with
          streams := b.streams.filter fun p => p.get axis ≠ name }
      else .error (missing axis) := by
  rw [remove, removeMember, Action.outcome_get_bind, Action.outcome_bind, Action.outcome_set]
  split
  · cases axis <;> rfl
  · rfl

theorem fetch_eq (b : Block) (p : Pair) (first room : Nat) (kind : Kind) (stamped : Bool) :
    b.fetch p first room kind stamped =
      if b.size ≤ first then .error .streamSize
      else do
        let s ← b.stream p
        let (found, s) ← s.fetch first room kind (stamped && b.stamped)
        return (found, { b with streams := b.streams.insert p s }) := by
  rw [fetch, sinceMarker, Action.outcome_get_bind]
  split
  · rfl
  · exact Action.outcome_focus ..

end Block

end Engine

end TickerTape
