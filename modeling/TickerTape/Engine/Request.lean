import TickerTape.NameSet
import TickerTape.Point
import TickerTape.Program
import TickerTape.Status

/-!
# What an engine can be asked

An engine keeps blocks. A block streams items by topics: for each pair of one of its items and one
of its topics it holds a stream, of the same capacity for all. While it has no topics its items
wait, and the other way round, and a name that waits has no streams.

This module lists what an engine can be asked and what it replies. Most requests may fail with a
status code; whether the engine is connected, and how many blocks it has and may have, it always
tells.

## Main definitions

* `TickerTape.Axis` — items or topics.
* `TickerTape.Address` — a stream of a block.
* `TickerTape.Engine.Query`, `TickerTape.Engine.Request` — the requests that may fail, and all.
* `TickerTape.Engine.wire` — the interface of engines.
-/

namespace TickerTape

/-- The two kinds of names that a block streams by. -/
inductive Axis where
  | item
  | topic
  deriving DecidableEq, Repr

namespace Axis

/-- The other kind of names. -/
def other : Axis → Axis
  | item => topic
  | topic => item

/-- Names of a kind, as a word. -/
def plural : Axis → String
  | item => "items"
  | topic => "topics"

@[simp] theorem other_other (a : Axis) : a.other.other = a := by cases a <;> rfl

theorem other_ne (a : Axis) : a.other ≠ a := by cases a <;> decide

theorem eq_or_eq_other (a b : Axis) : b = a ∨ b = a.other := by cases a <;> cases b <;> decide

end Axis

/-- The stream of an item and a topic in a block. -/
structure Address where
  block : String
  item : String
  topic : String
  deriving DecidableEq, Repr

namespace Engine

/-- What an engine gives for the values behind a marker: the values, oldest first, and how many they
are, negated when values were lost before the read. -/
structure MarkerRead where
  samples : List Sample
  got : Int
  deriving DecidableEq

/-- A request that may fail with a status code. Slots count from the most recent value. -/
inductive Query where
  /-- A new block; the reply is its name. -/
  | createBlock (size : Nat) (stamped : Bool) (timeout : Nat)
  /-- The end of a block. -/
  | closeBlock (block : String)
  /-- The capacity of the streams of a block. -/
  | blockSize (block : String)
  /-- Another capacity for them. -/
  | resizeBlock (block : String) (size : Nat)
  /-- The names that a block streams. -/
  | members (block : String) (axis : Axis)
  /-- The names that wait for one of the other kind. -/
  | waiting (block : String) (axis : Axis)
  /-- One more name for a block. -/
  | addMember (block : String) (axis : Axis) (name : String)
  /-- One name less. -/
  | removeMember (block : String) (axis : Axis) (name : String)
  /-- The kind of value that a topic stores. -/
  | topicKind (topic : String)
  /-- The number of values in a stream. -/
  | occupancy (stream : Address)
  /-- The value in a slot. -/
  | value (stream : Address) (slot : Nat) (kind : Kind) (stamped : Bool)
  /-- The values in the slots from `first` to `last`. -/
  | range (stream : Address) (first last : Nat) (kind : Kind) (stamped : Bool)
  /-- Whether values behind the marker were overwritten before they were read. -/
  | markerDirty (stream : Address)
  /-- The slot of the oldest value written since the last marker read, `-1` if there is none. -/
  | markerPosition (stream : Address)
  /-- The values from the marker down to slot `first`, at most `room` of them; the marker moves. -/
  | sinceMarker (stream : Address) (first room : Nat) (kind : Kind) (stamped : Bool)
  /-- The most recent value of a topic for each item. -/
  | itemFrame (block topic : String) (kind : Kind) (stamped : Bool)
  /-- The most recent value of each topic for an item, as text. -/
  | topicFrame (block item : String) (stamped : Bool)
  /-- The names of all blocks. -/
  | blockNames
  deriving DecidableEq

/-- The replies to a request that did not fail. -/
@[reducible] def Query.Answer : Query → Type
  | .createBlock .. => String
  | .closeBlock _ => Unit
  | .blockSize _ => Nat
  | .resizeBlock .. => Unit
  | .members .. => NameSet
  | .waiting .. => NameSet
  | .addMember .. => Unit
  | .removeMember .. => Unit
  | .topicKind _ => Kind
  | .occupancy _ => Nat
  | .value .. => Sample
  | .range .. => List Sample
  | .markerDirty _ => Bool
  | .markerPosition _ => Int
  | .sinceMarker .. => MarkerRead
  | .itemFrame .. => List (String × Sample)
  | .topicFrame .. => List (String × Sample)
  | .blockNames => List String

/-- All requests. -/
inductive Request where
  /-- Whether the engine is connected. -/
  | connected
  /-- How many blocks there may be. -/
  | limit
  /-- Another number of blocks that there may be; the reply is the number that now holds. -/
  | setLimit (limit : Nat)
  /-- How many blocks there are. -/
  | count
  /-- A request that may fail. -/
  | query (q : Query)
  deriving DecidableEq

/-- The replies to a request. -/
@[reducible] def Request.Reply : Request → Type
  | .connected => Bool
  | .limit => Nat
  | .setLimit _ => Nat
  | .count => Nat
  | .query q => Except Status q.Answer

/-- The interface of engines. -/
@[reducible] def wire : Interface := ⟨Request, Request.Reply⟩

end Engine

end TickerTape
