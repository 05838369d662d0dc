import TickerTape.Foreign.Buffer

/-!
# The calls of a foreign library

The interface of a library that keeps blocks outside of this program. A call takes names, numbers
and the room in its buffers, and leaves behind a status code, numbers and buffers. What it leaves
counts only when the status code is zero. A buffer without slots for times stands for times that are
not wanted.

## Main definitions

* `TickerTape.Foreign.Call`, `TickerTape.Foreign.Call.Reply` — the calls and what they leave.
* `TickerTape.Foreign.library` — the interface.
-/

namespace TickerTape.Foreign

/-- The names of a stream. -/
structure Stream where
  block : Name
  item : Name
  topic : Name
  deriving DecidableEq

/-- What a call leaves behind. -/
structure Outcome (α : Type) where
  status : Status
  written : α
  deriving DecidableEq

/-- What was written, if the call succeeded. -/
def Outcome.result {α : Type} (o : Outcome α) : Except Status α := do
  o.status.check
  return o.written

/-- A call of the library. Indices of slots are signed words here. -/
inductive Call where
  | connected
  | createBlock (block : Name) (size : Nat) (stamped : Bool) (timeout : Nat)
  | closeBlock (block : Name)
  | blockSize (block : Name)
  | resizeBlock (block : Name) (size : Nat)
  | limit
  | setLimit (limit : Nat)
  | count
  | blockNames (room : Nat)
  | occupancy (stream : Stream)
  | memberCount (block : Name) (axis : Axis)
  | memberNames (block : Name) (axis : Axis) (room : Nat)
  | waitingCount (block : Name) (axis : Axis)
  | waitingNames (block : Name) (axis : Axis) (room : Nat)
  | addMember (block : Name) (axis : Axis) (name : Name)
  | removeMember (block : Name) (axis : Axis) (name : Name)
  | topicKind (topic : Name)
  | value (stream : Stream) (index : Int) (kind : Kind) (stampRoom : Nat)
  | range (stream : Stream) (kind : Kind) (room stampRoom : Nat) (last first : Int)
  | markerDirty (stream : Stream)
  | markerPosition (stream : Stream)
  | sinceMarker (stream : Stream) (kind : Kind) (room stampRoom : Nat) (first : Int)
  | itemFrame (block topic : Name) (kind : Kind) (room stampRoom : Nat)
  | topicFrame (block item : Name) (room stampRoom : Nat)
  deriving DecidableEq

/-- What a call leaves behind. -/
def Call.Reply : Call → Type
  | .connected => Nat
  | .createBlock .. => Outcome Unit
  | .closeBlock _ => Outcome Unit
  | .blockSize _ => Outcome Nat
  | .resizeBlock .. => Outcome Unit
  | .limit => Nat
  | .setLimit _ => Nat
  | .count => Nat
  | .blockNames room => Outcome (Vector TextSlot room)
  | .occupancy _ => Outcome Nat
  | .memberCount .. => Outcome Nat
  | .memberNames _ _ room => Outcome (Vector TextSlot room)
  | .waitingCount .. => Outcome Nat
  | .waitingNames _ _ room => Outcome (Vector TextSlot room)
  | .addMember .. => Outcome Unit
  | .removeMember .. => Outcome Unit
  | .topicKind _ => Outcome Int
  | .value _ _ kind stampRoom => Outcome (Filled kind 1 stampRoom)
  | .range _ kind room stampRoom _ _ => Outcome (Filled kind room stampRoom)
  | .markerDirty _ => Outcome Nat
  | .markerPosition _ => Outcome Int
  | .sinceMarker _ kind room stampRoom _ => Outcome (Filled kind room stampRoom × Int)
  | .itemFrame _ _ kind room stampRoom =>
    Outcome (Filled kind room stampRoom × Vector TextSlot room)
  | .topicFrame _ _ room stampRoom => Outcome (Filled .text room stampRoom × Vector TextSlot room)

instance Call.decidableEqReply : (c : Call) → DecidableEq c.Reply
  | .connected | .limit | .setLimit _ | .count => inferInstanceAs (DecidableEq Nat)
  | .createBlock .. | .closeBlock _ | .resizeBlock .. | .addMember .. | .removeMember .. =>
    inferInstanceAs (DecidableEq (Outcome Unit))
  | .blockSize _ | .occupancy _ | .memberCount .. | .waitingCount .. | .markerDirty _ =>
    inferInstanceAs (DecidableEq (Outcome Nat))
  | .topicKind _ | .markerPosition _ => inferInstanceAs (DecidableEq (Outcome Int))
  | .blockNames room | .memberNames _ _ room | .waitingNames _ _ room =>
    inferInstanceAs (DecidableEq (Outcome (Vector TextSlot room)))
  | .value _ _ kind stampRoom => inferInstanceAs (DecidableEq (Outcome (Filled kind 1 stampRoom)))
  | .range _ kind room stampRoom _ _ =>
    inferInstanceAs (DecidableEq (Outcome (Filled kind room stampRoom)))
  | .sinceMarker _ kind room stampRoom _ =>
    inferInstanceAs (DecidableEq (Outcome (Filled kind room stampRoom × Int)))
  | .itemFrame _ _ kind room stampRoom =>
    inferInstanceAs (DecidableEq (Outcome (Filled kind room stampRoom × Vector TextSlot room)))
  | .topicFrame _ _ room stampRoom =>
    inferInstanceAs (DecidableEq (Outcome (Filled .text room stampRoom × Vector TextSlot room)))

/-- The interface of the library. -/
def library : Interface := ⟨Call, Call.Reply⟩

instance : DecidableEq library.Request := inferInstanceAs (DecidableEq Call)

instance (c : library.Request) : DecidableEq (library.Reply c) := Call.decidableEqReply c

end TickerTape.Foreign
