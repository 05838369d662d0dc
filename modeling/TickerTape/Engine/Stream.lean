import TickerTape.Engine.Action
import TickerTape.Engine.Request
import TickerTape.Recent

/-!
# Circular streams with a marker

A stream holds the values written to it, most recent first, up to the capacity of its block. The
*marker* stands behind the values that no marker read has taken: they are the most recent ones, as
many as the stream counts as unread. When an unread value is overwritten the stream is *dirty*,
until the next marker read.

## Main definitions

* `TickerTape.Engine.Record`, `TickerTape.Engine.Stream` — a value in a slot, and a stream.
* `TickerTape.Engine.Stream.records` — the records of a stream, slot `0` first.
* `TickerTape.Engine.Stream.push`, `TickerTape.Engine.Stream.truncate` — writing and shrinking.
* `TickerTape.Engine.Stream.position` — the slot at which the marker stands.
* `TickerTape.Engine.Stream.sinceMarker` — a marker read, with
  `TickerTape.Engine.Stream.fetch` for what it gives and leaves.
-/

namespace TickerTape

/-- A value given as a kind. Every value can be given as text, and a long value as a double. -/
def Value.giveAs (kind : Kind) (v : Value) : Except Status Value :=
  match kind, v with
  | .text, v => .ok (.text v.render)
  | .long, .long n => .ok (.long n)
  | .double, .double x => .ok (.double x)
  | .double, .long n => .ok (.double (Float.ofInt n))
  | _, _ => .error .dataType

namespace Engine

/-- A written value with the time of its writing. -/
structure Record where
  value : Value
  stamp : Stamp
  deriving DecidableEq

/-- A record given as a kind, with its time if that is wanted. -/
def Record.give (kind : Kind) (stamped : Bool) (r : Record) : Except Status Sample := do
  let value ← r.value.giveAs kind
  return ⟨value, if stamped then some r.stamp else none⟩

/-- The values of one item and topic in a block. -/
structure Stream where
  /-- The records, slot `0` first. -/
  held : Recent Record
  /-- How many of them no marker read has taken. -/
  unread : Nat
  /-- Whether unread values were overwritten since the last marker read. -/
  lost : Bool
  deriving DecidableEq

namespace Stream

/-- A stream to which nothing was written. -/
def empty : Stream := ⟨.empty, 0, false⟩

/-- The records, slot `0` first. -/
def records (s : Stream) : List Record := s.held.toList

/-- The number of values held. -/
def occupancy (s : Stream) : Nat := s.held.size

/-- Drops the oldest values beyond a capacity. The unread values are always among those held; when
some of them are dropped the stream is dirty. -/
def truncate (capacity : Nat) (s : Stream) : Stream :=
  let held := s.held.keep capacity
  ⟨held, min s.unread held.size, s.lost || held.size < s.unread⟩

/-- Writes a value into slot `0`. -/
def push (capacity : Nat) (r : Record) (s : Stream) : Stream :=
  truncate capacity ⟨s.held.cons r, s.unread + 1, s.lost⟩

/-- The slot of the oldest unread value, `-1` if there is none. -/
def position (s : Stream) : Int := s.unread - 1

/-- The record in a slot, if the slot has one. -/
def record? (s : Stream) (slot : Nat) : Option Record := s.held.get? slot

/-- The records in the slots from `first`, at most `count` of them, most recent first. -/
def window (s : Stream) (first count : Nat) : List Record := s.held.window first count

/-- A marker read down to slot `first` that takes at most `room` values. The values come oldest
first, and their number is negated when unread values were lost, by then or in this read. The values
more recent than `first` stay unread. A value that cannot be given as the kind ends the read before
the marker moves. -/
def sinceMarker (first room : Nat) (kind : Kind) (stamped : Bool) : Action Stream MarkerRead := do
  let s ← get
  let pending := s.unread - first
  let taken := min pending room
  let lost := s.lost || room < pending
  let samples ← Action.lift ((s.window first taken).reverse.mapM (Record.give kind stamped))
  modify fun s => { s with unread := min s.unread first }
  modify fun s => { s with lost := false }
  let got : Int := if lost then -taken else taken
  return ⟨samples, got⟩

/-- What a marker read gives, and the stream after it, if it is not refused. -/
def fetch (first room : Nat) (kind : Kind) (stamped : Bool) (s : Stream) :
    Except Status (MarkerRead × Stream) := (sinceMarker first room kind stamped).outcome s

@[simp] theorem records_empty : empty.records = [] := rfl

theorem occupancy_eq (s : Stream) : s.occupancy = s.records.length :=
  s.held.length_toList.symm

@[simp] theorem records_truncate (capacity : Nat) (s : Stream) :
    (s.truncate capacity).records = s.records.take capacity := s.held.toList_keep capacity

@[simp] theorem unread_truncate (capacity : Nat) (s : Stream) :
    (s.truncate capacity).unread = min s.unread (s.records.take capacity).length := by
  simp [truncate, records]

@[simp] theorem lost_truncate (capacity : Nat) (s : Stream) :
    (s.truncate capacity).lost =
      (s.lost || decide ((s.records.take capacity).length < s.unread)) := by
  simp [truncate, records]

@[simp] theorem records_push (capacity : Nat) (r : Record) (s : Stream) :
    (s.push capacity r).records = (r :: s.records).take capacity :=
  records_truncate capacity _

theorem record?_eq (s : Stream) (slot : Nat) : s.record? slot = s.records[slot]? :=
  s.held.get?_eq slot

theorem window_eq (s : Stream) (first count : Nat) :
    s.window first count = (s.records.drop first).take count :=
  s.held.window_eq first count

theorem fetch_eq (first room : Nat) (kind : Kind) (stamped : Bool) (s : Stream) :
    s.fetch first room kind stamped = do
      let pending := s.unread - first
      let taken := min pending room
      let samples ← (s.window first taken).reverse.mapM (Record.give kind stamped)
      let got : Int := if s.lost || room < pending then -taken else taken
      return (⟨samples, got⟩, ⟨s.held, min s.unread first, false⟩) := by
  rw [fetch, sinceMarker, Action.outcome_get_bind, Action.outcome_lift_bind]
  rfl

end Stream

end Engine

end TickerTape
