/-!
# Reading UTF-8

Bytes are read one character at a time. Where they are not the encoding of a character, the longest
start of an encoding that is there, or else a single byte, counts as one *fault*. A strict reading
refuses a fault, a lenient one puts U+FFFD in its place.

The first byte of an encoding fixes how many bytes follow and the range of the second one; the
ranges leave out surrogates, overlong forms and code points above U+10FFFF.

## Main definitions

* `TickerTape.Text.Utf8.characters` — the characters and faults of a list of bytes.
* `TickerTape.Text.Utf8.strict`, `TickerTape.Text.Utf8.lenient` — the two readings.
-/

namespace TickerTape.Text.Utf8

/-- What a first byte from `0x80` on announces: the number of bytes that follow, the range of the
second byte, and the bits that the first byte itself contributes. -/
structure Lead where
  follow : Nat
  low : UInt8
  high : UInt8
  bits : Nat

/-- The announcement of a first byte, if it can start an encoding of several bytes. -/
def lead (b : UInt8) : Option Lead :=
  if b < 0xc2 then none
  else if b ≤ 0xdf then some ⟨1, 0x80, 0xbf, b.toNat - 0xc0⟩
  else if b = 0xe0 then some ⟨2, 0xa0, 0xbf, 0⟩
  else if b = 0xed then some ⟨2, 0x80, 0x9f, 0xd⟩
  else if b ≤ 0xef then some ⟨2, 0x80, 0xbf, b.toNat - 0xe0⟩
  else if b = 0xf0 then some ⟨3, 0x90, 0xbf, 0⟩
  else if b ≤ 0xf3 then some ⟨3, 0x80, 0xbf, b.toNat - 0xf0⟩
  else if b = 0xf4 then some ⟨3, 0x80, 0x8f, 4⟩
  else none

/-- Reads `n` more bytes, the first of them between `low` and `high`, after bytes that contribute
`bits`. Gives the character, or nothing at a fault, and the bytes after it. -/
def continuation (low high : UInt8) : Nat → Nat → List UInt8 → Option Char × List UInt8
  | 0, bits, bytes => (some (Char.ofNat bits), bytes)
  | _ + 1, _, [] => (none, [])
  | n + 1, bits, b :: bytes =>
    if low ≤ b ∧ b ≤ high then continuation 0x80 0xbf n (bits * 64 + (b.toNat - 0x80)) bytes
    else (none, b :: bytes)

/-- Reads the character or fault that starts with byte `b`. -/
def next (b : UInt8) (bytes : List UInt8) : Option Char × List UInt8 :=
  if b < 0x80 then (some (Char.ofNat b.toNat), bytes)
  else
    match lead b with
    | some l => continuation l.low l.high l.follow l.bits bytes
    | none => (none, bytes)

theorem length_continuation_le (low high : UInt8) (n bits : Nat) (bytes : List UInt8) :
    (continuation low high n bits bytes).2.length ≤ bytes.length := by
  induction bytes generalizing low high n bits with
  | nil => cases n <;> simp [continuation]
  | cons b bytes ih =>
    cases n with
    | zero => simp [continuation]
    | succ n =>
      rw [continuation]
      split
      · exact Nat.le_trans (ih ..) (by simp)
      · simp

theorem length_next_le (b : UInt8) (bytes : List UInt8) :
    (next b bytes).2.length ≤ bytes.length := by
  unfold next
  split
  · exact Nat.le_refl _
  · split
    · exact length_continuation_le ..
    · exact Nat.le_refl _

/-- The characters of a list of bytes, with `none` for each fault. -/
def characters : List UInt8 → List (Option Char)
  | [] => []
  | b :: bytes => (next b bytes).1 :: characters (next b bytes).2
termination_by bytes => bytes.length
decreasing_by exact Nat.lt_succ_of_le (length_next_le b bytes)

@[simp] theorem characters_nil : characters [] = [] := by simp [characters]

theorem characters_cons (b : UInt8) (bytes : List UInt8) :
    characters (b :: bytes) = (next b bytes).1 :: characters (next b bytes).2 := by
  rw [characters]

/-- The text of bytes without a fault. -/
def strict (bytes : List UInt8) : Option String :=
  ((characters bytes).mapM id).map String.ofList

/-- The text of any bytes, with U+FFFD for each fault. -/
def lenient (bytes : List UInt8) : String :=
  String.ofList ((characters bytes).map (·.getD '\ufffd'))

/-- The bytes of a text. -/
def encode (s : String) : List UInt8 := s.toUTF8.data.toList

example : lenient [0x41, 0xe2, 0x82, 0x42] = "A\ufffdB" := by decide +kernel
example : lenient [0xed, 0xa0, 0x80] = "\ufffd\ufffd\ufffd" := by decide +kernel

end TickerTape.Text.Utf8
