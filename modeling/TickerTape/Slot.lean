import TickerTape.Fault

/-!
# Slots of a stream

A stream of capacity `c` has the slots `0` to `c - 1`, slot `0` the most recent. An index names a
slot in one of two ways: from the recent end by `0`, `1`, …, or from the oldest end by `-1`, `-2`,
and so on. A range of slots has both its ends named so; once they are slots, it may be cut to the
slots that hold a value.

The capacity is read as a signed word, so that a capacity of `2 ^ 63` or more has no slots.

## Main definitions

* `TickerTape.Slot.ofIndex` — the slot that an index names.
* `TickerTape.Slot.Range`, `TickerTape.Slot.Range.ofIndices` — a range of slots.
* `TickerTape.Slot.Range.occupied` — the part of a range that holds values.
-/

namespace TickerTape.Slot

/-- The slot that `index` names in a stream of the given capacity. -/
def ofIndex (index : Int) (capacity : Nat) : Except Failure Nat := do
  let slots := Word.toSigned capacity
  let slot ← if index < 0 then Word.checked (Word.addSigned index slots) else pure index
  if slot < 0 ∨ slots ≤ slot then .error (.fault (.outOfRange index capacity))
  else .ok slot.toNat

/-- The slots from `first`, the most recent, to `last`, and how many they are. -/
structure Range where
  first : Nat
  last : Nat
  size : Nat
  deriving DecidableEq, Repr

namespace Range

/-- The range whose ends two indices name. The end must not be more recent than the start. -/
def ofIndices (first last : Int) (capacity : Nat) : Except Failure Range := do
  let start ← ofIndex first capacity
  let stop ← ofIndex last capacity
  if stop < start then .error (.fault (.outOfRange last capacity))
  else .ok ⟨start, stop, stop - start + 1⟩

/-- The slots from `first` to `last` of a stream with values in its first `occupancy` slots, or
nothing when there are none. -/
def occupied (first last occupancy : Nat) : Except Overflow (Option Range) :=
  if occupancy = 0 ∨ occupancy ≤ first then .ok none
  else do
    let stop := min last (occupancy - 1)
    let start := min first (occupancy - 1)
    let gap ← Word.subUnsigned stop start
    let size ← Word.addUnsigned gap 1
    return some ⟨start, stop, size⟩

end Range

end TickerTape.Slot
