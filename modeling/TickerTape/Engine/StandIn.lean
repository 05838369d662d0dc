import TickerTape.Engine.Request
import TickerTape.Word

/-!
# A stand-in engine

The stand-in takes the place of an engine when an accessor is tried out. It never refuses: it
answers from settings that may be changed at any time, gives the number of a slot as the slot's
value, and keeps what it was asked. Its one block has the same name whatever happens.

## Main definitions

* `TickerTape.Engine.Told` — the settings.
* `TickerTape.Engine.StandIn` — the settings and what was asked.
* `TickerTape.Engine.StandIn.handler` — its answers.
-/

namespace TickerTape.Engine

/-- The point that stands for slot `n`: its number as a value of the kind, written `n` seconds after
the start of 1970. -/
def numbered (n : Nat) (kind : Kind) (stamped : Bool) : Sample where
  value :=
    match kind with
    | .long => .long (Word.toSigned n)
    | .double => .double (Float.ofNat n)
    | .text => .text (toString n)
  stamp := if stamped then some ⟨Word.toSigned n, 0⟩ else none

/-- What an engine without streams of its own is told to say. -/
structure Told where
  connected : Bool := true
  size : Nat := 10
  items : NameSet := ∅
  topics : NameSet := ∅
  occupancy : Nat := 10
  dirty : Bool := false
  position : Int := -1
  /-- What marker reads report as their count; otherwise they report the room they were given. -/
  got : Option Int := none
  /-- The kind that all values have; otherwise they have the kind that is asked for. -/
  answerKind : Option Kind := none

namespace Told

/-- The names of a kind. -/
def names (t : Told) : Axis → NameSet
  | .item => t.items
  | .topic => t.topics

/-- Other names of a kind. -/
def setNames (t : Told) (axis : Axis) (names : NameSet) : Told :=
  match axis with
  | .item => { t with items := names }
  | .topic => { t with topics := names }

end Told

/-- A stand-in engine. -/
structure StandIn extends Told where
  /-- The room of the last marker read. -/
  lastRoom : Option Nat := none
  /-- The slots of the last range read. -/
  lastRange : Option (Nat × Nat) := none
  /-- The slot of the last point read. -/
  lastSlot : Option Nat := none
  /-- The blocks that were closed, in order. -/
  closed : List String := []
  /-- What was asked, the last request first. -/
  asked : List Request := []

namespace StandIn

/-- The name of the one block. -/
def blockName : String := "MOCK_BLOCK"

/-- The stand-in with other names of a kind. -/
def setNames (e : StandIn) (axis : Axis) (names : NameSet) : StandIn :=
  { e with toTold := e.toTold.setNames axis names }

/-- The point for slot `n` as this stand-in gives it. -/
def sample (e : StandIn) (n : Nat) (kind : Kind) (stamped : Bool) : Sample :=
  numbered n (e.answerKind.getD kind) stamped

/-- The cells of a frame: the names of a kind with their places in order. -/
def cells (e : StandIn) (axis : Axis) (kind : Kind) (stamped : Bool) : List (String × Sample) :=
  (e.names axis).keys.mapIdx fun i name => (name, e.sample i kind stamped)

/-- The answer to a request that may fail, which it does not except for the names of blocks without
a connection. -/
def answer (e : StandIn) : (q : Query) → Except Status q.Answer × StandIn
  | .createBlock size _ _ => (.ok blockName, { e with size })
  | .closeBlock block => (.ok (), { e with closed := e.closed ++ [block] })
  | .blockSize _ => (.ok e.size, e)
  | .resizeBlock _ size => (.ok (), { e with size })
  | .members _ axis => (.ok (e.names axis), e)
  | .waiting _ _ => (.ok (∅ : NameSet), e)
  | .addMember _ axis name => (.ok (), e.setNames axis ((e.names axis).add name))
  | .removeMember _ axis name => (.ok (), e.setNames axis ((e.names axis).remove name))
  | .topicKind _ => (.ok Kind.double, e)
  | .occupancy _ => (.ok e.occupancy, e)
  | .value _ slot kind stamped => (.ok (e.sample slot kind stamped), { e with lastSlot := slot })
  | .range _ first last kind stamped =>
    (.ok ((List.range' first (last + 1 - first)).map fun n => e.sample n kind stamped),
      { e with lastRange := some (first, last) })
  | .markerDirty _ => (.ok e.dirty, e)
  | .markerPosition _ => (.ok e.position, e)
  | .sinceMarker _ _ room kind stamped =>
    (.ok ⟨(List.range room).map fun n => e.sample n kind stamped,
        e.got.getD (Word.toSigned room)⟩, { e with lastRoom := room })
  | .itemFrame _ _ kind stamped => (.ok (e.cells .item kind stamped), e)
  | .topicFrame _ _ stamped => (.ok (e.cells .topic .text stamped), e)
  | .blockNames => (if e.connected then .ok [blockName] else .error .notConnected, e)

/-- The reply to a request, which is kept. There is always one block. -/
def handler : Handler wire StandIn
  | .connected, e => (e.connected, { e with asked := .connected :: e.asked })
  | .limit, e => ((1 : Nat), e)
  | .setLimit limit, e => (limit, e)
  | .count, e => ((1 : Nat), e)
  | .query q, e => { e with asked := .query q :: e.asked }.answer q

end StandIn

end TickerTape.Engine
