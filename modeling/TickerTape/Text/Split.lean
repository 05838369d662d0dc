/-!
# Pieces of a text

A text is cut at each place where a separator stands. The separators belong to no piece, so that
between two of them that stand side by side there is an empty piece.

## Main definitions

* `TickerTape.Text.split` — the pieces.
-/

namespace TickerTape.Text

/-- The pieces of a text between the characters `sep`. -/
def split (sep : Char) : List Char → List (List Char)
  | [] => [[]]
  | c :: cs =>
    if c = sep then [] :: split sep cs
    else
      match split sep cs with
      | [] => [[c]]
      | piece :: rest => (c :: piece) :: rest

/-- A text has at least one piece. -/
theorem split_ne_nil (sep : Char) (cs : List Char) : split sep cs ≠ [] := by
  cases cs with
  | nil => simp [split]
  | cons c cs =>
    rw [split]
    split
    · simp
    · split <;> simp

/-- No piece holds a separator. -/
theorem notMem_of_mem_split {sep : Char} {cs : List Char} : ∀ p ∈ split sep cs, sep ∉ p := by
  induction cs with
  | nil => simp [split]
  | cons c cs ih =>
    rw [split]
    split
    · simpa using ih
    · next hc =>
      split
      · simpa using Ne.symm hc
      · next piece rest h =>
        rw [h] at ih
        simp only [List.mem_cons, forall_eq_or_imp] at ih ⊢
        exact ⟨by simp [Ne.symm hc, ih.1], ih.2⟩

/-- The pieces with separators between them are the text. -/
theorem intercalate_split (sep : Char) (cs : List Char) :
    [sep].intercalate (split sep cs) = cs := by
  induction cs with
  | nil => rfl
  | cons c cs ih =>
    rw [split]
    split
    · next hc =>
      obtain ⟨p, ps, h⟩ := List.exists_cons_of_ne_nil (split_ne_nil sep cs)
      rw [h] at ih ⊢
      simp [List.intercalate, hc] at ih ⊢
      exact ih
    · obtain ⟨p, ps, h⟩ := List.exists_cons_of_ne_nil (split_ne_nil sep cs)
      rw [h] at ih ⊢
      cases ps <;> simp_all [List.intercalate]

end TickerTape.Text
