/-!
# Sixty-four bit words

Sizes and counts are natural numbers below `2 ^ 64`, indices and positions are integers between
`-2 ^ 63` and `2 ^ 63 - 1`. This module holds the readings of one kind of word as the other, which
wrap, and the checked operations, which refuse a result that is no word.

Such a refusal stands for the panic of a program that was built with overflow checks. Built without
them it goes on with the result wrapped to a word. Here, as everywhere in the library, the checks
are on.

## Main definitions

* `TickerTape.Overflow` — the operation whose result is no word.
* `TickerTape.Word.toSigned`, `TickerTape.Word.toUnsigned` — the two readings of a word.
* `TickerTape.Word.addSigned`, `TickerTape.Word.subSigned`, `TickerTape.Word.mulSigned`,
  `TickerTape.Word.addUnsigned`, `TickerTape.Word.subUnsigned` — checked arithmetic.
-/

namespace TickerTape

/-- The arithmetic operation whose result does not fit in a word. -/
inductive Overflow where
  | add
  | sub
  | mul
  deriving DecidableEq, Repr

/-- The text reported for an operation that left the range of a word. -/
def Overflow.message : Overflow → String
  | .add => "attempt to add with overflow"
  | .sub => "attempt to subtract with overflow"
  | .mul => "attempt to multiply with overflow"

namespace Word

/-- A signed word lies between `-2 ^ 63` and `2 ^ 63 - 1`. -/
def IsSigned (i : Int) : Prop := -0x8000000000000000 ≤ i ∧ i < 0x8000000000000000

instance (i : Int) : Decidable (IsSigned i) := inferInstanceAs (Decidable (_ ∧ _))

/-- An unsigned word lies below `2 ^ 64`. -/
def IsUnsigned (n : Nat) : Prop := n < 0x10000000000000000

instance (n : Nat) : Decidable (IsUnsigned n) := inferInstanceAs (Decidable (_ < _))

/-- The signed reading of an unsigned word: from `2 ^ 63` on it is negative. -/
def toSigned (n : Nat) : Int := Int.bmod n 0x10000000000000000

/-- The unsigned reading of a signed word: negative ones are counted down from `2 ^ 64`. -/
def toUnsigned (i : Int) : Nat := (i % 0x10000000000000000).toNat

/-- Sum of signed words. -/
def addSigned (a b : Int) : Except Overflow Int :=
  if IsSigned (a + b) then .ok (a + b) else .error .add

/-- Difference of signed words. -/
def subSigned (a b : Int) : Except Overflow Int :=
  if IsSigned (a - b) then .ok (a - b) else .error .sub

/-- Product of signed words. -/
def mulSigned (a b : Int) : Except Overflow Int :=
  if IsSigned (a * b) then .ok (a * b) else .error .mul

/-- Sum of unsigned words. -/
def addUnsigned (a b : Nat) : Except Overflow Nat :=
  if IsUnsigned (a + b) then .ok (a + b) else .error .add

/-- Difference of unsigned words. -/
def subUnsigned (a b : Nat) : Except Overflow Nat :=
  if b ≤ a then .ok (a - b) else .error .sub

/-- Below `2 ^ 63` the signed reading changes nothing. -/
theorem toSigned_of_lt {n : Nat} (h : n < 0x8000000000000000) : toSigned n = n := by
  unfold toSigned
  rw [Int.bmod_def]
  omega

/-- A natural number that is a signed word is its own unsigned reading. -/
theorem toUnsigned_of_nonneg {i : Int} (h₀ : 0 ≤ i) (h : i < 0x10000000000000000) :
    toUnsigned i = i.toNat := by
  unfold toUnsigned
  rw [Int.emod_eq_of_lt h₀ (by omega)]

/-- The signed reading of an unsigned word is a signed word. -/
theorem isSigned_toSigned (n : Nat) : IsSigned (toSigned n) := by
  unfold IsSigned toSigned
  constructor
  · have := @Int.le_bmod n 0x10000000000000000 (by omega)
    omega
  · have := @Int.bmod_lt n 0x10000000000000000 (by omega)
    omega

theorem addSigned_of_isSigned {a b : Int} (h : IsSigned (a + b)) :
    addSigned a b = .ok (a + b) := if_pos h

theorem subSigned_of_isSigned {a b : Int} (h : IsSigned (a - b)) :
    subSigned a b = .ok (a - b) := if_pos h

theorem addUnsigned_of_isUnsigned {a b : Nat} (h : IsUnsigned (a + b)) :
    addUnsigned a b = .ok (a + b) := if_pos h

theorem subUnsigned_of_le {a b : Nat} (h : b ≤ a) : subUnsigned a b = .ok (a - b) := if_pos h

end Word

end TickerTape
