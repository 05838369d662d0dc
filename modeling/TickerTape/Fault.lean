import TickerTape.Point
import TickerTape.Status

/-!
# Faults

Why an operation of an accessor did not answer: it refused the request, the engine failed, or the
two disagree.

## Main definitions

* `TickerTape.Fault` — the causes, with `TickerTape.Fault.message` for their texts.
* `TickerTape.Fault.ofStatus` — the fault for a status code of the engine.
* `TickerTape.Failure` — a fault, or arithmetic that left the range of a word.
-/

namespace TickerTape

/-- Why an operation on a block did not answer. -/
inductive Fault where
  /-- The engine is not connected. -/
  | notConnected
  /-- A call of the engine failed. -/
  | callFailed (status : Status)
  /-- The block does not stream the item. -/
  | unknownItem (item : String)
  /-- The block does not stream the topic. -/
  | unknownTopic (topic : String)
  /-- An index, or the end of a range, names no slot. -/
  | outOfRange (index : Int) (capacity : Nat)
  /-- Values behind the marker were overwritten before they were read. -/
  | dirtyMarker (item topic : String)
  /-- What the accessor remembers of the block is not what the engine says. -/
  | diverged (detail : String)
  /-- The engine gave a value of another kind. -/
  | typeMismatch (expected found : Kind)
  /-- The block was closed. -/
  | closed (name : String)
  /-- A block cannot have these settings. -/
  | invalidSettings (reason : String)
  deriving DecidableEq, Repr

namespace Fault

/-- The text of a fault. -/
def message : Fault → String
  | notConnected => "Engine not connected"
  | callFailed status => "Engine call failed: " ++ status.render
  | unknownItem item => "Unknown item: " ++ item
  | unknownTopic topic => "Unknown topic: " ++ topic
  | outOfRange index capacity =>
    "Index " ++ toString index ++ " out of range for capacity " ++ toString capacity
  | dirtyMarker item topic =>
    "Dirty marker for (" ++ item ++ ", " ++ topic ++ "): data lost before read"
  | diverged detail => "Cached state diverged from engine: " ++ detail
  | typeMismatch expected found =>
    "Engine returned " ++ found.name ++ " value, expected " ++ expected.name
  | closed name => "Block " ++ name ++ " is closed"
  | invalidSettings reason => "Invalid block config: " ++ reason

/-- The fault for the status code of a call that failed. -/
def ofStatus (s : Status) : Fault := if s = .notConnected then notConnected else callFailed s

@[simp] theorem ofStatus_notConnected : ofStatus .notConnected = notConnected := rfl

theorem ofStatus_of_ne {s : Status} (h : s ≠ .notConnected) : ofStatus s = callFailed s := if_neg h

end Fault

/-- Why an operation stopped. -/
inductive Failure where
  | fault (f : Fault)
  | overflow (o : Overflow)
  deriving DecidableEq, Repr

namespace Failure

/-- The text of a failure. -/
def message : Failure → String
  | fault f => f.message
  | overflow o => o.message

end Failure

/-- A checked operation on words as part of an operation that can fail. -/
def Word.checked {α : Type} : Except Overflow α → Except Failure α
  | .ok a => .ok a
  | .error o => .error (.overflow o)

end TickerTape
