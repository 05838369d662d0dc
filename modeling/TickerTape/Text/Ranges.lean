/-!
# Sets of characters given by ranges

A property of characters is kept as a list of inclusive code point ranges in ascending order, so
that a look-up can stop at the first range above the character.

## Main definitions

* `TickerTape.Text.inRanges` — membership of a code point.
-/

namespace TickerTape.Text

/-- Whether `n` lies in one of the ranges, which ascend. -/
def inRanges (n : Nat) : List (Nat × Nat) → Bool
  | [] => false
  | (first, last) :: ranges =>
    if n < first then false else if n ≤ last then true else inRanges n ranges

/-- A code point in one of the ranges lies between the ends of one of them. -/
theorem exists_of_inRanges {n : Nat} {ranges : List (Nat × Nat)} (h : inRanges n ranges = true) :
    ∃ r ∈ ranges, r.1 ≤ n ∧ n ≤ r.2 := by
  induction ranges with
  | nil => simp [inRanges] at h
  | cons r ranges ih =>
    obtain ⟨first, last⟩ := r
    rw [inRanges] at h
    split at h
    · contradiction
    · split at h
      · exact ⟨(first, last), List.mem_cons_self, by omega, by omega⟩
      · obtain ⟨r, hr, hn⟩ := ih h
        exact ⟨r, List.mem_cons_of_mem _ hr, hn⟩

end TickerTape.Text
