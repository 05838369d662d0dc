import TickerTape.Accessor.Basic

/-!
# Items and topics of a block

The operations of an accessor on the names of its block. A change first checks that the remembered
set is the engine's, so that a change made by someone else is noticed, and afterwards reads anew
what may have moved.

## Main definitions

* `TickerTape.Accessor.readMembers`, `TickerTape.Accessor.readWaiting` — the names of the block.
* `TickerTape.Accessor.addMember`, `TickerTape.Accessor.removeMember` — one name more or less.
* `TickerTape.Accessor.topicKind` — the kind of value that a topic stores.
-/

namespace TickerTape.Accessor

/-- The names that the block streams, which are then remembered. -/
def readMembers (axis : Axis) : Operation NameSet := do
  ensureOpen
  let a ← get
  onMembers (Members.refresh a.name axis)
  return (← get).members.names axis

/-- The names that wait for a name of the other kind. -/
def readWaiting (axis : Axis) : Operation NameSet := do
  ensureOpen
  let a ← get
  Inquiry.query (.waiting a.name axis)

/-- Changes a set of names by a request to the engine, which is made of the block's name. -/
def changeMembers (axis : Axis) (request : String → Inquiry Accessor Unit) : Operation Unit := do
  ensureOpen
  let a ← get
  onMembers (Members.verify a.name axis)
  let wasEmpty := (← get).members.eitherEmpty
  request a.name
  onMembers (Members.afterChange a.name axis wasEmpty)

/-- Adds a name to the block. -/
def addMember (axis : Axis) (name : String) : Operation Unit :=
  changeMembers axis fun block => Inquiry.query (.addMember block axis name)

/-- Removes a name from the block. -/
def removeMember (axis : Axis) (name : String) : Operation Unit :=
  changeMembers axis fun block => Inquiry.query (.removeMember block axis name)

/-- The kind of value that a topic stores, as the engine tells it. -/
def topicKind (topic : String) : Operation Kind := do
  ensureOpen
  Inquiry.query (.topicKind topic)

end TickerTape.Accessor
