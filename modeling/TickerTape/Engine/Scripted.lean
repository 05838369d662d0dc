import TickerTape.Engine.StandIn
import TickerTape.Plan

/-!
# A scripted engine

This engine says what it is set to say, whether or not that makes sense: it may report another
capacity than it was given, ignore changes of its names, and give values of a kind that nobody asked
for. So it shows what a client makes of an engine that it cannot trust.

## Main definitions

* `TickerTape.Engine.Scripted` — what the engine is set to say.
* `TickerTape.Engine.Scripted.handler` — its answers, under a plan of refusals.
-/

namespace TickerTape.Engine

/-- What an engine is set to say. -/
structure Scripted extends Told where
  /-- The capacity that it tells; otherwise the true one. -/
  toldSize : Option Nat := none
  /-- Whether changes of its names are ignored. -/
  frozen : Bool := false
  waitingItems : NameSet := ∅
  waitingTopics : NameSet := ∅
  /-- How many values marker reads give; otherwise as many as there is room for. -/
  given : Option Nat := none
  /-- The kinds of the values in some slots. -/
  odd : List (Nat × Kind) := []
  /-- The names in frames with the slots of their values; otherwise the names of the block with
  their places in order. -/
  frame : Option (List (String × Nat)) := none

namespace Scripted

/-- The name of the one block. -/
def blockName : String := "MOCK"

/-- The number of values that a read gives at most. -/
def longest : Nat := 1000

/-- The engine with other names of a kind, unless it ignores changes. -/
def setNames (e : Scripted) (axis : Axis) (names : NameSet) : Scripted :=
  if e.frozen then e else { e with toTold := e.toTold.setNames axis names }

/-- The point in slot `n`. -/
def sample (e : Scripted) (n : Nat) (kind : Kind) (stamped : Bool) : Sample :=
  numbered n (((e.odd.lookup n).orElse fun _ => e.answerKind).getD kind) stamped

/-- The cells of a frame. -/
def cells (e : Scripted) (axis : Axis) (kind : Kind) (stamped : Bool) : List (String × Sample) :=
  match e.frame with
  | some frame => frame.map fun (name, n) => (name, e.sample n kind stamped)
  | none => (e.names axis).keys.mapIdx fun i name => (name, e.sample i kind stamped)

/-- The answer to a request that is not refused. -/
def answer (e : Scripted) : (q : Query) → q.Answer × Scripted
  | .createBlock size _ _ => (blockName, { e with size })
  | .closeBlock _ => ((), e)
  | .blockSize _ => (e.toldSize.getD e.size, e)
  | .resizeBlock _ size => ((), { e with size })
  | .members _ axis => (e.names axis, e)
  | .waiting _ .item => (e.waitingItems, e)
  | .waiting _ .topic => (e.waitingTopics, e)
  | .addMember _ axis name => ((), e.setNames axis ((e.names axis).add name))
  | .removeMember _ axis name => ((), e.setNames axis ((e.names axis).remove name))
  | .topicKind _ => (e.answerKind.getD .double, e)
  | .occupancy _ => (e.occupancy, e)
  | .value _ slot kind stamped => (e.sample slot kind stamped, e)
  | .range _ first last kind stamped =>
    ((List.range' first (min (last + 1 - first) longest)).map fun n => e.sample n kind stamped, e)
  | .markerDirty _ => (e.dirty, e)
  | .markerPosition _ => (e.position, e)
  | .sinceMarker _ _ room kind stamped =>
    (⟨(List.range (min (e.given.getD room) longest)).map fun n => e.sample n kind stamped,
      e.got.getD (Word.toSigned room)⟩, e)
  | .itemFrame _ _ kind stamped => (e.cells .item kind stamped, e)
  | .topicFrame _ _ stamped => (e.cells .topic .text stamped, e)
  | .blockNames => ([blockName], e)

/-- The reply to a request that is not refused. There is always one block. -/
def reply : Handler wire Scripted
  | .connected, e => (e.connected, e)
  | .limit, e => ((1 : Nat), e)
  | .setLimit limit, e => (limit, e)
  | .count, e => ((1 : Nat), e)
  | .query q, e => (.ok (e.answer q).1, (e.answer q).2)

/-- The reply to a request that is refused with a code. -/
def refusal : (r : Request) → Int → wire.Reply r
  | .connected, _ => false
  | .limit, _ => (0 : Nat)
  | .setLimit _, _ => (0 : Nat)
  | .count, _ => (0 : Nat)
  | .query _, code => .error ⟨code⟩

/-- The engine under a plan. -/
def handler (word : Request → String) : Handler wire (Plan wire × Scripted) :=
  reply.planned word refusal

end Scripted

end TickerTape.Engine
