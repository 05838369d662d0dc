/-!
# The most recent values

A list to whose front values are added and of which only the most recent are kept. The values that
are dropped stay in a log behind the others until they outnumber them; only then the log is cut, so
that adding and dropping one value take constant time on average.

## Main definitions

* `TickerTape.Recent` — the values and the log.
* `TickerTape.Recent.toList` — the values, most recent first.
* `TickerTape.Recent.cons`, `TickerTape.Recent.keep` — adding one, and dropping the oldest.
* `TickerTape.Recent.get?`, `TickerTape.Recent.window` — reads.
-/

namespace TickerTape

/-- The most recent of the values that were added. -/
structure Recent (α : Type) where
  /-- The values, most recent first, and behind them values that were dropped. -/
  log : List α
  /-- The number of values. -/
  size : Nat
  /-- The number of dropped values in the log. -/
  dropped : Nat
  length_log : log.length = size + dropped
  deriving DecidableEq

namespace Recent

variable {α : Type}

/-- No values. -/
def empty : Recent α := ⟨[], 0, 0, rfl⟩

instance : Inhabited (Recent α) := ⟨empty⟩

/-- The values, most recent first. -/
def toList (w : Recent α) : List α := w.log.take w.size

/-- Adds a value. -/
def cons (a : α) (w : Recent α) : Recent α :=
  ⟨a :: w.log, w.size + 1, w.dropped, by simp [w.length_log]; omega⟩

/-- Drops all but the `n` most recent values. -/
def keep (n : Nat) (w : Recent α) : Recent α :=
  let size := min n w.size
  let dropped := w.dropped + (w.size - size)
  if dropped ≤ size then ⟨w.log, size, dropped, by have := w.length_log; omega⟩
  else ⟨w.log.take size, size, 0, by have := w.length_log; simp; omega⟩

/-- The value in a place, the most recent one in place `0`. -/
def get? (i : Nat) (w : Recent α) : Option α := if i < w.size then w.log[i]? else none

/-- The values from place `first` on, at most `count` of them, most recent first. -/
def window (first count : Nat) (w : Recent α) : List α :=
  (w.log.drop first).take (min count (w.size - first))

@[simp] theorem toList_empty : (empty : Recent α).toList = [] := rfl

@[simp] theorem length_toList (w : Recent α) : w.toList.length = w.size := by
  simp [toList, w.length_log]

@[simp] theorem toList_cons (a : α) (w : Recent α) : (w.cons a).toList = a :: w.toList := rfl

@[simp] theorem size_keep (n : Nat) (w : Recent α) : (w.keep n).size = min n w.size := by
  dsimp only [keep]
  split <;> rfl

@[simp] theorem toList_keep (n : Nat) (w : Recent α) : (w.keep n).toList = w.toList.take n := by
  dsimp only [keep, toList]
  split <;> simp [List.take_take]

theorem get?_eq (i : Nat) (w : Recent α) : w.get? i = w.toList[i]? := by
  rw [get?, toList, List.getElem?_take]

theorem window_eq (first count : Nat) (w : Recent α) :
    w.window first count = (w.toList.drop first).take count := by
  rw [window, toList, List.drop_take, List.take_take]

end Recent

end TickerTape
