import TickerTape.Accessor.Basic

/-!
# Reading streams

The operations of an accessor that read streams. Each accepts its names by the remembered sets and
its indices by the remembered capacity before it asks the engine for data.

A *marker read* gives what was written since the last one. The accessor asks whether values were
lost, then where the marker stands, and then for as many values as that makes, with a margin for
those that arrive in between. A strict read stops when it learns of a loss, before the fetch or from
it.

## Main definitions

* `TickerTape.Accessor.occupancy`, `TickerTape.Accessor.isDirty`, `TickerTape.Accessor.position`.
* `TickerTape.Accessor.value`, `TickerTape.Accessor.latest` — one slot.
* `TickerTape.Accessor.range` — a range of slots.
* `TickerTape.Accessor.sinceMarker` — a marker read.
* `TickerTape.Accessor.itemFrame`, `TickerTape.Accessor.topicFrame` — the most recent values of
  several streams.
-/

namespace TickerTape

/-- What a marker read does when values were lost. -/
inductive LossPolicy where
  /-- It fails. -/
  | fail
  /-- It gives what there is. -/
  | ignore
  deriving DecidableEq, Repr

/-- Points by name. -/
abbrev Frame (form : Form) := Table String (Point form.Carrier)

namespace Accessor

/-! ### Steps of a read -/

/-- A stream of the accessor's block. -/
def address (a : Accessor) (item topic : String) : Address := ⟨a.name, item, topic⟩

/-- Accepts an item and a topic and gives the remembered capacity. -/
def validate (item topic : String) : Operation Nat := do
  ensureOpen
  let a ← get
  onMembers (Members.validate a.name .item item)
  onMembers (Members.validate a.name .topic topic)
  return (← get).size

/-- A sample as the reader wants it. -/
def convert (form : Form) (p : Sample) : Except Failure (Point form.Carrier) :=
  match form.readPoint p with
  | some p => .ok p
  | none => .error (.fault (.typeMismatch form.kind p.value.kind))

/-- The cells of a frame by name; of two with one name the later counts. -/
def frameOf (form : Form) (cells : List (String × Sample)) : Except Failure (Frame form) := do
  let points ← cells.mapM fun (name, p) => do
    let p ← convert form p
    return (name, p)
  return Table.ofList points

/-! ### Streams -/

/-- The number of values in a stream. -/
def occupancy (item topic : String) : Operation Nat := do
  let _ ← validate item topic
  let a ← get
  Inquiry.query (.occupancy (a.address item topic))

/-- Whether values were overwritten before a marker read took them. -/
def isDirty (item topic : String) : Operation Bool := do
  let _ ← validate item topic
  let a ← get
  Inquiry.query (.markerDirty (a.address item topic))

/-- The slot at which the marker stands. -/
def position (item topic : String) : Operation Int := do
  let _ ← validate item topic
  let a ← get
  Inquiry.query (.markerPosition (a.address item topic))

/-- The value in the slot that an index names. -/
def value (form : Form) (item topic : String) (index : Int) :
    Operation (Point form.Carrier) := do
  let size ← validate item topic
  let slot ← Inquiry.lift (Slot.ofIndex index size)
  let a ← get
  let sample : Sample ← Inquiry.query (.value (a.address item topic) slot form.kind a.stamped)
  Inquiry.lift (convert form sample)

/-- The most recent value. -/
def latest (form : Form) (item topic : String) : Operation (Point form.Carrier) :=
  value form item topic 0

/-- The values in the slots of a range, most recent first. A smart read asks only for the slots that
hold a value, and for nothing if there are none. -/
def range (form : Form) (item topic : String) (first last : Int) (smart : Bool) :
    Operation (List (Point form.Carrier)) := do
  let size ← validate item topic
  let r ← Inquiry.lift (Slot.Range.ofIndices first last size)
  let a ← get
  let asked : Option Slot.Range ←
    if smart then do
      let occupancy : Nat ← Inquiry.query (.occupancy (a.address item topic))
      Inquiry.lift (Word.checked (Slot.Range.occupied r.first r.last occupancy))
    else pure (some r)
  match asked with
  | none => return []
  | some r =>
    let samples : List Sample ←
      Inquiry.query (.range (a.address item topic) r.first r.last form.kind a.stamped)
    Inquiry.lift (samples.mapM (convert form))

/-! ### Marker reads -/

/-- How many values lie between the marker at slot `position` and slot `slot`; negative if the
marker is more recent than the slot by two or more. -/
def pending (position : Int) (slot : Nat) : Except Overflow Int := do
  let gap ← Word.subSigned position (Word.toSigned slot)
  Word.addSigned gap 1

/-- Stops a strict read of a stream that lost values. -/
def refuseLoss (item topic : String) (lost : Bool) (policy : LossPolicy) : Operation Unit :=
  if lost && policy = .fail then Inquiry.fail (.dirtyMarker item topic) else pure ()

/-- The values written since the last marker read, down to the slot that `index` names, oldest
first. -/
def sinceMarker (form : Form) (item topic : String) (index : Int) (policy : LossPolicy) :
    Operation (List (Point form.Carrier)) := do
  let size ← validate item topic
  let slot ← Inquiry.lift (Slot.ofIndex index size)
  let a ← get
  let dirty : Bool ← Inquiry.query (.markerDirty (a.address item topic))
  refuseLoss item topic dirty policy
  let position : Int ← Inquiry.query (.markerPosition (a.address item topic))
  let expected ← Inquiry.lift (Word.checked (pending position slot))
  if expected < 0 then return []
  else
    let room ← Inquiry.lift (Word.checked (Word.addUnsigned expected.toNat a.margin))
    let found : Engine.MarkerRead ←
      Inquiry.query (.sinceMarker (a.address item topic) slot room form.kind a.stamped)
    refuseLoss item topic (found.got < 0) policy
    Inquiry.lift ((found.samples.take found.got.natAbs).mapM (convert form))

/-! ### Frames -/

/-- The most recent value of a topic for each item. -/
def itemFrame (form : Form) (topic : String) : Operation (Frame form) := do
  ensureOpen
  let a ← get
  onMembers (Members.validate a.name .topic topic)
  let cells : List (String × Sample) ←
    Inquiry.query (.itemFrame a.name topic form.kind a.stamped)
  Inquiry.lift (frameOf form cells)

/-- The most recent value of each topic for an item, as text. -/
def topicFrame (item : String) : Operation (Frame .text) := do
  ensureOpen
  let a ← get
  onMembers (Members.validate a.name .item item)
  let cells : List (String × Sample) ← Inquiry.query (.topicFrame a.name item a.stamped)
  Inquiry.lift (frameOf .text cells)

end Accessor

end TickerTape
