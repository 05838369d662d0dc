/-!
# Seconds of a broken-down time

A broken-down time names a second by year, month, day, hour, minute and second in the Gregorian
calendar, extended to all years, in universal time and without leap seconds. Its fields may lie
outside their usual ranges and then carry into the larger ones: month 12 is January of the next
year, day 0 the last day of the month before.

## Main definitions

* `TickerTape.Calendar.Time` — a broken-down time.
* `TickerTape.Calendar.yearStart` — the day on which a year starts, counted from 1 January 1970.
* `TickerTape.Calendar.Time.seconds` — the seconds since the start of 1970.
-/

namespace TickerTape.Calendar

/-- A broken-down time. Years count from 1900, months from January as 0, days from 1. -/
structure Time where
  year : Int
  month : Int
  day : Int
  hour : Int
  minute : Int
  second : Int
  deriving DecidableEq, Repr

/-- The first day of year `y` of the common era, counted from 1 January 1970. -/
def yearStart (y : Int) : Int :=
  365 * (y - 1970) + Int.fdiv (y - 1969) 4 - Int.fdiv (y - 1901) 100 + Int.fdiv (y - 1601) 400

/-- Leap years are those divisible by 4, but of the centuries only those divisible by 400. -/
def isLeap (y : Int) : Bool := y % 4 = 0 ∧ (y % 100 ≠ 0 ∨ y % 400 = 0)

/-- A year has 365 days, a leap year one more. -/
theorem yearStart_succ (y : Int) :
    yearStart (y + 1) = yearStart y + (if isLeap y then 366 else 365) := by
  simp only [yearStart, isLeap, Int.fdiv_eq_ediv_of_nonneg _ (show (0 : Int) ≤ 4 by decide),
    Int.fdiv_eq_ediv_of_nonneg _ (show (0 : Int) ≤ 100 by decide),
    Int.fdiv_eq_ediv_of_nonneg _ (show (0 : Int) ≤ 400 by decide), decide_eq_true_eq]
  split <;> omega

/-- The days before the first of month `m`, from 0 to 11, of a year. -/
def monthStart (leap : Bool) (m : Nat) : Int :=
  ([31, if leap then 29 else 28, 31, 30, 31, 30, 31, 31, 30, 31, 30, 31].take m).foldl
    (· + ·) 0

/-- The seconds from the start of 1970 to the time, in exact arithmetic. -/
def Time.elapsed (t : Time) : Int :=
  let y := 1900 + t.year + Int.fdiv t.month 12
  let day := yearStart y + monthStart (isLeap y) (Int.fmod t.month 12).toNat + (t.day - 1)
  ((day * 24 + t.hour) * 60 + t.minute) * 60 + t.second

/-- The seconds at which the first and the last year that a broken-down time can name start and
end: the years from 1900 fit in 32 bits. -/
def yearLimits : Int × Int :=
  (yearStart (1900 - 0x80000000) * 86400, yearStart (1900 + 0x80000000) * 86400)

/-- Whether seconds since the start of 1970 fall into a year that can be named. -/
def isNamed (seconds : Int) : Bool := yearLimits.1 ≤ seconds && seconds < yearLimits.2

/-- The time with its second brought into a minute. -/
def Time.clampSecond (t : Time) : Time := { t with second := max 0 (min t.second 59) }

/-- The seconds since the start of 1970. A time whose fields carry into a year that cannot be named,
with its second or with the second brought into a minute, gives `-1`. -/
def Time.seconds (t : Time) : Int :=
  if isNamed t.clampSecond.elapsed && isNamed t.elapsed then t.elapsed else -1

example : Time.seconds ⟨70, 0, 2, 0, 0, 0⟩ = 86400 := by decide
example : Time.seconds ⟨123, 10, 14, 22, 13, 20⟩ = 1700000000 := by decide
example : Time.seconds ⟨0, 0, 0, 0, 0, 0⟩ = -2209075200 := by decide

end TickerTape.Calendar
