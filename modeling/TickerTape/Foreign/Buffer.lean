import TickerTape.Calendar
import TickerTape.Engine.Exchange
import TickerTape.Text.Utf8

/-!
# Buffers shared with a foreign library

A foreign library reads names that end at a zero byte and writes into buffers of a fixed number of
slots: signed words, doubles, texts of forty bytes, and broken-down times. This module says which
names can be handed over and what the slots hold afterwards.

## Main definitions

* `TickerTape.Foreign.Name` — a name that can be handed over.
* `TickerTape.Foreign.TextSlot`, `TickerTape.Foreign.TextSlot.text` — a slot for text.
* `TickerTape.Foreign.RawStamp`, `TickerTape.Foreign.RawStamp.stamp` — a slot for a time.
* `TickerTape.Foreign.Slots`, `TickerTape.Foreign.Filled` — the slots for values with their times.
-/

namespace TickerTape.Foreign

/-! ### Names -/

/-- A text that can be handed over as a name: with its end it fits in a slot for text, and it has no
zero byte. -/
structure Name where
  text : String
  fits : text.utf8ByteSize < Engine.nameRoom
  unbroken : '\x00' ∉ text.toList
  deriving DecidableEq

/-- A text as a name, if it can be handed over. -/
def Name.ofString (s : String) : Except Status Name :=
  if h : s.utf8ByteSize < Engine.nameRoom ∧ '\x00' ∉ s.toList then .ok ⟨s, h.1, h.2⟩
  else .error .badInput

/-- A name has the text that it was made of. -/
theorem Name.text_of_ofString {s : String} {n : Name} (h : Name.ofString s = .ok n) :
    n.text = s := by
  rw [Name.ofString] at h
  split at h
  · cases h
    rfl
  · contradiction

/-- The text of a name can be handed over as this name. -/
theorem Name.ofString_text (n : Name) : Name.ofString n.text = .ok n :=
  dif_pos ⟨n.fits, n.unbroken⟩

theorem Name.ofString_cases (s : String) :
    (∃ n, Name.ofString s = .ok n) ∨ Name.ofString s = .error .badInput := by
  rw [Name.ofString]
  split
  · exact .inl ⟨_, rfl⟩
  · exact .inr rfl

/-! ### Text -/

/-- A slot for text. -/
abbrev TextSlot := Vector UInt8 Engine.nameRoom

/-- The text in a slot ends before the first zero byte and before the last byte of the slot. Bytes
that are no UTF-8 are replaced. -/
def TextSlot.text (slot : TextSlot) : String :=
  Text.Utf8.lenient ((slot.toList.take (Engine.nameRoom - 1)).takeWhile (· ≠ 0))

/-- The texts in the first slots, as many as there are up to `count`. -/
def texts (count : Nat) {n : Nat} (slots : Vector TextSlot n) : List String :=
  (slots.toList.take count).map TextSlot.text

/-! ### Times -/

/-- A slot for a time. -/
structure RawStamp where
  time : Calendar.Time
  micros : Int
  deriving DecidableEq

/-- A slot for a time to which nothing was written. -/
def RawStamp.zero : RawStamp := ⟨⟨0, 0, 0, 0, 0, 0⟩, 0⟩

/-- The time in a slot. Microseconds are kept below a second. -/
def RawStamp.stamp (r : RawStamp) : Stamp :=
  ⟨r.time.seconds, (max 0 (min r.micros 999999)).toNat⟩

/-! ### Values -/

/-- Slots for values of a kind. -/
def Slots : Kind → Nat → Type
  | .long, n => Vector Int n
  | .double, n => Vector Float n
  | .text, n => Vector TextSlot n

instance : (kind : Kind) → (n : Nat) → DecidableEq (Slots kind n)
  | .long, n => inferInstanceAs (DecidableEq (Vector Int n))
  | .double, n => inferInstanceAs (DecidableEq (Vector Float n))
  | .text, n => inferInstanceAs (DecidableEq (Vector TextSlot n))

/-- The values in slots. -/
def Slots.values : (kind : Kind) → {n : Nat} → Slots kind n → List Value
  | .long, _, slots => (Vector.toList slots).map .long
  | .double, _, slots => (Vector.toList slots).map .double
  | .text, n, slots => (texts n slots).map .text

/-- Slots for values and slots for their times. -/
structure Filled (kind : Kind) (room stampRoom : Nat) where
  slots : Slots kind room
  stamps : Vector RawStamp stampRoom
  deriving DecidableEq

/-- The room for the times of `room` values: none if no times are wanted. -/
def stampRoom (wanted : Bool) (room : Nat) : Nat := if wanted then room else 0

/-- Values with their times, as far as there are any. -/
def attach : List Value → List RawStamp → List Sample
  | [], _ => []
  | v :: values, [] => ⟨v, none⟩ :: attach values []
  | v :: values, r :: stamps => ⟨v, some r.stamp⟩ :: attach values stamps

/-- The points in filled slots. -/
def Filled.samples {kind : Kind} {room stampRoom : Nat} (f : Filled kind room stampRoom) :
    List Sample :=
  attach (Slots.values kind f.slots) f.stamps.toList

end TickerTape.Foreign
