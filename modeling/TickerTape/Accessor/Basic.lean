import TickerTape.Accessor.Members
import TickerTape.Slot

/-!
# The accessor of a block

An accessor is a client's handle on one block of an engine. It knows the block's name and settings,
remembers its capacity and its names, and refuses everything once it is closed.

This module holds the accessor itself, its creation and its end, and what it tells of the block's
capacity. `TickerTape.Accessor.Names` holds its operations on items and topics,
`TickerTape.Accessor.Read` those that read streams.

## Main definitions

* `TickerTape.Settings` — how a block is to be created.
* `TickerTape.Accessor` — an accessor, and `TickerTape.Operation`, its operations.
* `TickerTape.Accessor.create`, `TickerTape.Accessor.close`, `TickerTape.Accessor.drop`.
* `TickerTape.Accessor.readSize`, `TickerTape.Accessor.resize`.
-/

namespace TickerTape

/-! ### Settings -/

/-- How a block is to be created. -/
structure Settings where
  /-- The capacity of its streams. -/
  size : Nat := 1000
  /-- Whether its streams record the times of writing. -/
  stamped : Bool := false
  /-- The timeout of the engine, in milliseconds. -/
  timeout : Nat := 2000
  /-- How many values more than expected a marker read makes room for. -/
  margin : Nat := 100
  deriving DecidableEq, Repr

/-- The fault for a capacity of zero. -/
def zeroSize : Fault := .invalidSettings "size must be positive"

/-- Settings need a capacity that is not zero. -/
def Settings.validate (s : Settings) : Except Fault Unit :=
  if s.size = 0 then .error zeroSize else .ok ()

/-! ### Accessors -/

/-- A client's handle on a block. -/
structure Accessor where
  name : String
  stamped : Bool
  timeout : Nat
  margin : Nat
  /-- The remembered capacity. -/
  size : Nat
  /-- The remembered names. -/
  members : Members
  closed : Bool
  deriving DecidableEq

/-- An operation of an accessor. -/
abbrev Operation (α : Type) := Inquiry Accessor α

namespace Accessor

/-- The accessor of a block that was just created. -/
def ofSettings (name : String) (s : Settings) : Accessor :=
  ⟨name, s.stamped, s.timeout, s.margin, s.size, .none, false⟩

/-- Creates a block on a connected engine. -/
def create (s : Settings) : Program Engine.wire (Except Failure Accessor) :=
  match s.validate with
  | .error f => .done (.error (.fault f))
  | .ok () =>
    .ask .connected fun (connected : Bool) =>
      if connected then
        .ask (.query (.createBlock s.size s.stamped s.timeout)) fun
            (reply : Except Status String) =>
          match reply with
          | .ok name => .done (.ok (ofSettings name s))
          | .error status => .done (.error (.fault (.ofStatus status)))
      else .done (.error (.fault .notConnected))

/-- Stops if the accessor is closed. -/
def ensureOpen : Operation Unit := do
  let a ← get
  if a.closed then Inquiry.fail (.closed a.name) else pure ()

/-- An inquiry on the remembered names. -/
def onMembers {α : Type} (m : Inquiry Members α) : Operation α :=
  Inquiry.focus Accessor.members (fun members a => { a with members }) m

/-! ### The end of a block -/

/-- Closes the block. While the engine refuses, the accessor stays open; a block that the engine no
longer has counts as closed, and closing again does nothing. -/
def close : Operation Unit := do
  let a ← get
  if a.closed then pure ()
  else
    set { a with closed := true }
    let reply : Except Status Unit ← liftM (Program.request (I := Engine.wire)
      (.query (.closeBlock a.name)))
    match reply with
    | .ok () => pure ()
    | .error status =>
      if status = .noBlock then pure ()
      else
        set { a with closed := false }
        Inquiry.fail (.ofStatus status)

/-- Gives an accessor up: a last attempt to close the block. -/
def drop (a : Accessor) : Program Engine.wire Unit := do
  let _ ← close.start a
  return ()

/-! ### Capacity -/

/-- The capacity of the block, which is then remembered. -/
def readSize : Operation Nat := do
  ensureOpen
  let a ← get
  let size : Nat ← Inquiry.query (.blockSize a.name)
  modify ({ · with size })
  return size

/-- The fault for a block whose capacity is not the one that it was given. -/
def wrongSize (name : String) (asked told : Nat) : Fault :=
  .diverged ("block " ++ name ++ " resized to " ++ toString asked ++ " but engine reports "
    ++ toString told)

/-- Gives the block another capacity. What the engine then tells is remembered, and must be that
capacity. -/
def resize (size : Nat) : Operation Unit := do
  ensureOpen
  if size = 0 then Inquiry.fail zeroSize
  else
    let a ← get
    Inquiry.query (.resizeBlock a.name size)
    let told : Nat ← Inquiry.query (.blockSize a.name)
    modify ({ · with size := told })
    if told = size then pure () else Inquiry.fail (wrongSize a.name size told)

end Accessor

end TickerTape
