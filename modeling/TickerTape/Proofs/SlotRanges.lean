import Mathlib.Order.Bounds.Basic
import Mathlib.Order.Interval.Finset.Nat
import TickerTape.Proofs.MarkerReads

/-!
# Slots and ranges by their indices

While a capacity is positive as a signed word, the arithmetic on indices is exact. An index names a
slot when it lies between the negated capacity and the capacity, and each slot has two indices, one
from either end. Two indices name a range when both name slots, in this order; what is left of the
range where only the first slots are occupied has the least and the greatest of the slots left as
its ends, and their number as its size.

## Main definitions

* `TickerTape.Slot.IsIndex` — the indices that name slots.
* `TickerTape.Slot.Range.left` — the occupied slots of a range.

## Main results

* `TickerTape.Slot.ofIndex_eq` — what an index comes to.
* `TickerTape.Slot.Range.ofIndices_eq_ok_iff`, `TickerTape.Slot.Range.ofIndices_eq_error_iff` — what
  two indices come to.
* `TickerTape.Slot.index_ranges_exact` — indices, ranges and occupied slots together.
-/

namespace TickerTape.Slot

/-! ### Indices -/

/-- The index lies between the negated capacity and the capacity. -/
def IsIndex (index : Int) (capacity : Nat) : Prop := -(capacity : Int) ≤ index ∧ index < capacity

instance (index : Int) (capacity : Nat) : Decidable (IsIndex index capacity) :=
  inferInstanceAs (Decidable (_ ∧ _))

section Index

variable {index first last : Int} {capacity slot : Nat} {failure : Failure}

/-- What an index comes to: a slot, counted from one end or the other, or the fault that it is out
of range. -/
theorem ofIndex_eq (hcapacity : capacity < 0x8000000000000000) (hindex : Word.IsSigned index) :
    ofIndex index capacity =
      if IsIndex index capacity then .ok (if index < 0 then index + capacity else index).toNat
      else .error (.fault (.outOfRange index capacity)) := by
  obtain ⟨hlow, hhigh⟩ := hindex
  -- The sum of a negative index and the capacity is a signed word.
  have hplace (f : Int → Except Failure Nat) :
      (if index < 0 then Word.checked (Word.addSigned index capacity) >>= f
        else pure index >>= f) = f (if index < 0 then index + capacity else index) := by
    split
    · rw [Word.addSigned_of_isSigned ⟨by omega, by omega⟩]
      rfl
    · rfl
  rw [ofIndex, Word.toSigned_of_lt hcapacity]
  refine (hplace _).trans ?_
  generalize hi : (if index < 0 then index + capacity else index) = i
  have hslot : (i < 0 ∨ (capacity : Int) ≤ i) ↔ ¬ IsIndex index capacity := by
    unfold IsIndex
    split at hi
    all_goals omega
  by_cases hin : IsIndex index capacity
  · rw [if_pos hin]
    exact if_neg fun hout => hslot.mp hout hin
  · rw [if_neg hin]
    exact if_pos (hslot.mpr hin)

variable (hcapacity : capacity < 0x8000000000000000)
include hcapacity

/-- A slot has two indices, one from either end. -/
theorem ofIndex_eq_ok_iff (hindex : Word.IsSigned index) :
    ofIndex index capacity = .ok slot ↔
      slot < capacity ∧ (index = slot ∨ index = (slot : Int) - capacity) := by
  rw [ofIndex_eq hcapacity hindex]
  split
  next hin =>
    rw [Except.ok.injEq]
    unfold IsIndex at hin
    split
    all_goals omega
  next hout =>
    unfold IsIndex at hout
    constructor
    · nofun
    · omega

theorem ofIndex_eq_error_iff (hindex : Word.IsSigned index) :
    ofIndex index capacity = .error failure ↔
      ¬ IsIndex index capacity ∧ failure = .fault (.outOfRange index capacity) := by
  rw [ofIndex_eq hcapacity hindex]
  split
  next hin => simp [hin]
  next hout => simp [hout, eq_comm]

theorem exists_ofIndex_iff (hindex : Word.IsSigned index) :
    (∃ slot, ofIndex index capacity = .ok slot) ↔ IsIndex index capacity := by
  rw [ofIndex_eq hcapacity hindex]
  split
  next hin => simp [hin]
  next hout => simp [hout]

/-- The indices of a slot are two words. -/
theorem indices_of_slot (hslot : slot < capacity) :
    {index | Word.IsSigned index ∧ ofIndex index capacity = .ok slot} =
        {(slot : Int), (slot : Int) - capacity} ∧
      (slot : Int) ≠ (slot : Int) - capacity := by
  refine ⟨Set.ext fun index => ?_, by omega⟩
  rw [Set.mem_ofPred_eq, Set.mem_insert_iff, Set.mem_singleton_iff]
  constructor
  · rintro ⟨hindex, hok⟩
    exact ((ofIndex_eq_ok_iff hcapacity hindex).mp hok).2
  · intro h
    have hindex : Word.IsSigned index := by
      unfold Word.IsSigned
      omega
    exact ⟨hindex, (ofIndex_eq_ok_iff hcapacity hindex).mpr ⟨hslot, h⟩⟩

end Index

/-! ### Ranges -/

namespace Range

section Indices

variable {first last : Int} {capacity : Nat} {r : Range} {failure : Failure}

theorem ofIndices_eq_ok_iff :
    ofIndices first last capacity = .ok r ↔
      ofIndex first capacity = .ok r.first ∧ ofIndex last capacity = .ok r.last ∧
        r.first ≤ r.last ∧ r.size = r.last - r.first + 1 := by
  simp only [ofIndices, bind_eq_ok_iff]
  constructor
  · rintro ⟨start, hstart, stop, hstop, h⟩
    split at h
    · contradiction
    next hle =>
      cases h
      exact ⟨hstart, hstop, Nat.not_lt.mp hle, rfl⟩
  · rintro ⟨hfirst, hlast, hle, hsize⟩
    refine ⟨r.first, hfirst, r.last, hlast, ?_⟩
    rw [if_neg (Nat.not_lt.mpr hle), ← hsize]

/-- Two indices fail to name a range for the first of them that names no slot, or for the last one
if its slot is the more recent one. -/
theorem ofIndices_eq_error_iff (hcapacity : capacity < 0x8000000000000000)
    (hfirst : Word.IsSigned first) (hlast : Word.IsSigned last) :
    ofIndices first last capacity = .error failure ↔
      ¬ IsIndex first capacity ∧ failure = .fault (.outOfRange first capacity) ∨
      IsIndex first capacity ∧ ¬ IsIndex last capacity ∧
        failure = .fault (.outOfRange last capacity) ∨
      (∃ start stop, ofIndex first capacity = .ok start ∧ ofIndex last capacity = .ok stop ∧
        stop < start) ∧ failure = .fault (.outOfRange last capacity) := by
  rw [ofIndices, bind_eq_error_iff, ofIndex_eq_error_iff hcapacity hfirst]
  refine or_congr Iff.rfl ?_
  rw [← exists_ofIndex_iff hcapacity hfirst]
  constructor
  · rintro ⟨start, hstart, h⟩
    rcases bind_eq_error_iff.mp h with h | ⟨stop, hstop, h⟩
    · exact .inl ⟨⟨start, hstart⟩, (ofIndex_eq_error_iff hcapacity hlast).mp h⟩
    · split at h
      next hlt => exact .inr ⟨⟨start, stop, hstart, hstop, hlt⟩, (Except.error.inj h).symm⟩
      next => contradiction
  · rintro (⟨⟨start, hstart⟩, h⟩ | ⟨⟨start, stop, hstart, hstop, hlt⟩, rfl⟩)
    · exact ⟨start, hstart, bind_eq_error_iff.mpr
        (.inl ((ofIndex_eq_error_iff hcapacity hlast).mpr h))⟩
    · exact ⟨start, hstart, bind_eq_error_iff.mpr (.inr ⟨stop, hstop, if_pos hlt⟩)⟩

end Indices

/-! ### Occupied slots -/

/-- The slots of the range among the first `occupancy` ones. -/
def left (r : Range) (occupancy : Nat) : Finset Nat :=
  (Finset.Icc r.first r.last).filter (· < occupancy)

variable {r : Range} {occupancy : Nat}

theorem mem_left {slot : Nat} :
    slot ∈ r.left occupancy ↔ (r.first ≤ slot ∧ slot ≤ r.last) ∧ slot < occupancy := by
  rw [left, Finset.mem_filter, Finset.mem_Icc]

theorem left_eq_empty_iff (hle : r.first ≤ r.last) :
    r.left occupancy = ∅ ↔ occupancy ≤ r.first := by
  rw [Finset.eq_empty_iff_forall_notMem]
  simp only [mem_left]
  constructor
  · intro h
    have hfirst := h r.first
    omega
  · intro h slot hslot
    omega

/-- The occupied slots of a range are a range themselves, as long as there are some. -/
theorem left_eq_Icc (hoccupied : r.first < occupancy) :
    r.left occupancy = Finset.Icc r.first (min r.last (occupancy - 1)) := by
  ext slot
  rw [mem_left, Finset.mem_Icc]
  omega

/-- What is left of a range holds the occupied slots, by its ends and by its size. -/
theorem occupied_eq_left (hle : r.first ≤ r.last) (hword : r.last < 0x8000000000000000) :
    (r.left occupancy = ∅ → occupied r.first r.last occupancy = .ok none) ∧
      ((r.left occupancy).Nonempty → ∃ part, occupied r.first r.last occupancy = .ok (some part) ∧
        r.left occupancy = Finset.Icc part.first part.last ∧
        IsLeast (r.left occupancy : Set Nat) part.first ∧
        IsGreatest (r.left occupancy : Set Nat) part.last ∧
        part.size = (r.left occupancy).card) := by
  rw [occupied_eq hle hword, Finset.nonempty_iff_ne_empty, Ne, left_eq_empty_iff hle]
  refine ⟨fun hnone => by rw [if_pos hnone], fun hsome => ?_⟩
  have hoccupied : r.first < occupancy := Nat.not_le.mp hsome
  have hends : r.first ≤ min r.last (occupancy - 1) := by omega
  refine ⟨_, by rw [if_neg hsome], left_eq_Icc hoccupied, ?_⟩
  rw [left_eq_Icc hoccupied, Finset.coe_Icc, Nat.card_Icc]
  exact ⟨isLeast_Icc hends, isGreatest_Icc hends, (Nat.sub_add_comm hends).symm⟩

end Range

/-- **Indices and ranges are exact.** Take any capacity that is positive, or zero, as a signed word,
and any indices. An index comes to a slot exactly when it lies between the negated capacity and the
capacity, and never overflows; each slot has exactly two indices, counted from either end. Two
indices fail to name a range exactly when one of them names no slot, which is then reported for the
first such one, or when the slot of the last one is more recent than that of the first, which is
reported for the last one; otherwise the range has the two slots as its ends. Of such a range, and
for any number of occupied slots, nothing is left when none of its slots is occupied. Otherwise the
slots that are left are those that are occupied, with the least and the greatest of them as ends and
their number as size. -/
theorem index_ranges_exact {capacity : Nat} (hcapacity : capacity < 0x8000000000000000) :
    (∀ index, Word.IsSigned index →
      ((∃ slot, ofIndex index capacity = .ok slot) ↔
        -(capacity : Int) ≤ index ∧ index < capacity) ∧
      ∀ o, ofIndex index capacity ≠ .error (.overflow o)) ∧
    (∀ slot < capacity,
      {index | Word.IsSigned index ∧ ofIndex index capacity = .ok slot} =
        {(slot : Int), (slot : Int) - capacity} ∧
      (slot : Int) ≠ (slot : Int) - capacity) ∧
    ∀ first last, Word.IsSigned first → Word.IsSigned last →
      (∀ failure, Range.ofIndices first last capacity = .error failure ↔
        ¬ IsIndex first capacity ∧ failure = .fault (.outOfRange first capacity) ∨
        IsIndex first capacity ∧ ¬ IsIndex last capacity ∧
          failure = .fault (.outOfRange last capacity) ∨
        (∃ start stop, ofIndex first capacity = .ok start ∧ ofIndex last capacity = .ok stop ∧
          stop < start) ∧ failure = .fault (.outOfRange last capacity)) ∧
      ∀ r, Range.ofIndices first last capacity = .ok r →
        (ofIndex first capacity = .ok r.first ∧ ofIndex last capacity = .ok r.last) ∧
        ∀ occupancy,
          let slots := (Finset.Icc r.first r.last).filter (· < occupancy)
          (slots = ∅ → Range.occupied r.first r.last occupancy = .ok none) ∧
            (slots.Nonempty → ∃ part, Range.occupied r.first r.last occupancy = .ok (some part) ∧
              slots = Finset.Icc part.first part.last ∧ IsLeast (slots : Set Nat) part.first ∧
              IsGreatest (slots : Set Nat) part.last ∧ part.size = slots.card) := by
  refine ⟨fun index hindex => ⟨exists_ofIndex_iff hcapacity hindex, fun o ho => ?_⟩,
    fun slot hslot => indices_of_slot hcapacity hslot, fun first last hfirst hlast =>
      ⟨fun failure => Range.ofIndices_eq_error_iff hcapacity hfirst hlast, fun r hr => ?_⟩⟩
  · cases ((ofIndex_eq_error_iff hcapacity hindex).mp ho).2
  · obtain ⟨hstart, hstop, hle, -⟩ := Range.ofIndices_eq_ok_iff.mp hr
    have hlt := ((ofIndex_eq_ok_iff hcapacity hlast).mp hstop).1
    have hbound := Nat.lt_trans hlt hcapacity
    exact ⟨⟨hstart, hstop⟩, fun occupancy => Range.occupied_eq_left hle hbound⟩

/-- A range to the oldest of ten slots, of which five are occupied. -/
theorem index_ranges_exact_ten :
    (10 < 0x8000000000000000 ∧ Word.IsSigned 2 ∧ Word.IsSigned (-1) ∧ (2 : Nat) < 10) ∧
      Range.ofIndices 2 (-1) 10 = .ok ⟨2, 9, 8⟩ ∧
      ofIndex (-8) 10 = .ok 2 ∧
      Range.ofIndices (-1) 2 10 = .error (.fault (.outOfRange 2 10)) ∧
      ∃ part, Range.occupied 2 9 5 = .ok (some part) ∧ part.size = 3 ∧
        IsGreatest (((Finset.Icc 2 9).filter (· < 5) : Finset Nat) : Set Nat) part.last := by
  have hinput :
      10 < 0x8000000000000000 ∧ Word.IsSigned 2 ∧ Word.IsSigned (-1) ∧ (2 : Nat) < 10 := by
    decide
  have hr : Range.ofIndices 2 (-1) 10 = .ok ⟨2, 9, 8⟩ := by decide
  obtain ⟨-, hslots, hranges⟩ := index_ranges_exact hinput.1
  have hnames : (-8 : Int) ∈ {index | Word.IsSigned index ∧ ofIndex index 10 = .ok 2} := by
    rw [(hslots 2 hinput.2.2.2).1]
    exact .inr rfl
  obtain ⟨herror, -⟩ := hranges (-1) 2 hinput.2.2.1 hinput.2.1
  obtain ⟨-, hocc⟩ := (hranges 2 (-1) hinput.2.1 hinput.2.2.1).2 _ hr
  obtain ⟨part, hpart, -, -, hgreatest, hsize⟩ := (hocc 5).2 ⟨2, by decide⟩
  exact ⟨hinput, hr, hnames.2, (herror _).mpr (.inr (.inr ⟨⟨9, 2, by decide⟩, rfl⟩)), part, hpart,
    hsize, hgreatest⟩

end TickerTape.Slot
