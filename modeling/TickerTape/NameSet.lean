import TickerTape.Table

/-!
# Sets of names

A set of names is a table without values: its names stand in code point order, each once, and two
sets with the same names are equal.

## Main definitions

* `TickerTape.NameSet` — a set of names.
* `TickerTape.NameSet.add`, `TickerTape.NameSet.remove`, `TickerTape.NameSet.ofNames`.

## Main results

* `TickerTape.NameSet.ext_contains` — sets with the same names are equal.
* `TickerTape.NameSet.contains_add`, `TickerTape.NameSet.contains_remove`.
-/

namespace TickerTape

/-- A set of names. -/
abbrev NameSet := Table String Unit

namespace NameSet

/-- The set with a name put in. -/
def add (s : NameSet) (name : String) : NameSet := Table.insert s name ()

/-- The set without a name. -/
def remove (s : NameSet) (name : String) : NameSet := Table.erase s name

/-- The set of the names of a list. -/
def ofNames (names : List String) : NameSet := names.foldl add ∅

theorem get?_eq_of_contains (s : NameSet) (name : String) :
    s.get? name = if s.contains name then some () else none := by
  unfold Table.contains
  cases s.get? name <;> rfl

/-- Sets with the same names are equal. -/
theorem ext_contains {s t : NameSet} (h : ∀ name, s.contains name = t.contains name) : s = t :=
  Table.ext_get? fun name => by
    rw [get?_eq_of_contains, get?_eq_of_contains, h]

@[simp] theorem contains_empty (name : String) : (∅ : NameSet).contains name = false := rfl

theorem contains_add (s : NameSet) (name other : String) :
    (s.add name).contains other = (decide (other = name) || s.contains other) := by
  unfold Table.contains add
  rw [Table.get?_insert]
  by_cases h : other = name <;> simp [h]

theorem contains_remove (s : NameSet) (name other : String) :
    (s.remove name).contains other = (decide (other ≠ name) && s.contains other) := by
  unfold Table.contains remove
  rw [Table.get?_erase]
  by_cases h : other = name <;> simp [h]

theorem contains_ofNames (names : List String) (name : String) :
    (ofNames names).contains name = decide (name ∈ names) := by
  have (s : NameSet) : (names.foldl add s).contains name =
      (decide (name ∈ names) || s.contains name) := by
    induction names generalizing s with
    | nil => simp
    | cons n names ih =>
      rw [List.foldl_cons, ih, contains_add, ← Bool.or_assoc, ← Bool.decide_or]
      simp [or_comm]
  simpa [ofNames] using this ∅

end NameSet

end TickerTape
