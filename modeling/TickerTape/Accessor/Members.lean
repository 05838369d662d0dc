import TickerTape.Accessor.Inquiry
import TickerTape.Text.Quoted

/-!
# Remembered names

An accessor remembers the items and topics that its block streams, so that it can refuse a name
without asking the engine. Only names with streams are remembered: while a block has no topics the
engine keeps its items waiting and reports none, and the other way round.

## Main definitions

* `TickerTape.Members` — the remembered names.
* `TickerTape.Members.refresh` — reads one set anew.
* `TickerTape.Members.validate` — accepts a name of a set, which is first read if it is empty.
* `TickerTape.Members.verify` — compares a set with the engine's.
* `TickerTape.Members.afterChange` — reads anew what a change of one set may have moved.
-/

namespace TickerTape

/-- The remembered names of a block. -/
structure Members where
  items : NameSet
  topics : NameSet
  deriving DecidableEq

namespace Members

/-- No names. -/
def none : Members := ⟨∅, ∅⟩

instance : Inhabited Members := ⟨none⟩

/-- The names of a kind. -/
def names (m : Members) : Axis → NameSet
  | .item => m.items
  | .topic => m.topics

/-- The remembered names with one set replaced. -/
def setNames (m : Members) (axis : Axis) (names : NameSet) : Members :=
  match axis with
  | .item => { m with items := names }
  | .topic => { m with topics := names }

@[simp] theorem names_setNames (m : Members) (axis : Axis) (names : NameSet) :
    (m.setNames axis names).names axis = names := by cases axis <;> rfl

@[simp] theorem names_other_setNames (m : Members) (axis : Axis) (names : NameSet) :
    (m.setNames axis names).names axis.other = m.names axis.other := by cases axis <;> rfl

/-- Whether one of the sets is empty. -/
def eitherEmpty (m : Members) : Bool := m.items.isEmpty || m.topics.isEmpty

/-- The fault for a name that is not in its set. -/
def unknown : Axis → String → Fault
  | .item, name => .unknownItem name
  | .topic, name => .unknownTopic name

/-- The fault for a set that is not the engine's. -/
def divergence (axis : Axis) (remembered told : NameSet) : Fault :=
  .diverged ("cached " ++ axis.plural ++ " " ++ Text.quotedSet remembered.keys
    ++ " differ from engine " ++ Text.quotedSet told.keys)

/-- Replaces a set with the engine's. -/
def refresh (block : String) (axis : Axis) : Inquiry Members Unit := do
  let names : NameSet ← Inquiry.query (.members block axis)
  modify (·.setNames axis names)

/-- Accepts a name that is in its set. An empty set is read anew first. -/
def validate (block : String) (axis : Axis) (name : String) : Inquiry Members Unit := do
  if ((← get).names axis).isEmpty then refresh block axis
  if ((← get).names axis).contains name then pure () else Inquiry.fail (unknown axis name)

/-- Stops unless a set is the engine's. -/
def verify (block : String) (axis : Axis) : Inquiry Members Unit := do
  let told : NameSet ← Inquiry.query (.members block axis)
  let remembered := (← get).names axis
  if told = remembered then pure () else Inquiry.fail (divergence axis remembered told)

/-- Reads anew the set that was changed and, if a set was empty before the change or the changed one
is empty after it, the other set: names may then have begun or ceased to wait. -/
def afterChange (block : String) (axis : Axis) (wasEmpty : Bool) : Inquiry Members Unit := do
  refresh block axis
  if wasEmpty || ((← get).names axis).isEmpty then refresh block axis.other

end Members

end TickerTape
