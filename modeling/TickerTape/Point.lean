import TickerTape.Decimal.Positional
import TickerTape.Word

/-!
# Data points

A slot of a stream holds a value of one of three kinds together with the time at which it was
written. A reader asks for a *form*: one of the three kinds, or any value as it comes.

## Main definitions

* `TickerTape.Kind`, `TickerTape.Value` — kinds of values and values.
* `TickerTape.Stamp` — a time in seconds and microseconds.
* `TickerTape.Stamp.ofNanos` — the time at some distance from the start of 1970.
* `TickerTape.Point` — a value with the time of its writing, if that is known.
* `TickerTape.Form` — what a reader takes out of a value.
-/

namespace TickerTape

/-! ### Values -/

/-- The kind of value that a topic stores. -/
inductive Kind where
  | long
  | double
  | text
  deriving DecidableEq, Repr

/-- The name of a kind. -/
def Kind.name : Kind → String
  | .long => "long"
  | .double => "double"
  | .text => "string"

/-- A value in a slot. Long values are signed words. -/
inductive Value where
  | long (n : Int)
  | double (x : Float)
  | text (s : String)
  deriving DecidableEq

namespace Value

/-- The kind of a value. -/
def kind : Value → Kind
  | long _ => .long
  | double _ => .double
  | text _ => .text

/-- A value as text. -/
def render : Value → String
  | long n => toString n
  | double x => Decimal.ofDouble x
  | text s => s

@[simp] theorem kind_long (n : Int) : (long n).kind = .long := rfl

@[simp] theorem kind_double (x : Float) : (double x).kind = .double := rfl

@[simp] theorem kind_text (s : String) : (text s).kind = .text := rfl

end Value

/-! ### Times -/

/-- Why a clock has no time at some distance from the start of 1970. -/
inductive ClockFault where
  | tooLate
  | tooEarly
  deriving DecidableEq, Repr

/-- The text of a fault. -/
def ClockFault.message : ClockFault → String
  | tooLate => "overflow when adding duration to instant"
  | tooEarly => "overflow when subtracting duration from instant"

/-- A time since the start of 1970, in whole seconds and the microseconds beyond them. -/
structure Stamp where
  seconds : Int
  micros : Nat
  deriving DecidableEq, Repr

namespace Stamp

/-- The start of 1970. -/
def zero : Stamp := ⟨0, 0⟩

/-- Times are ordered by their seconds, then by their microseconds. -/
def order (a b : Stamp) : Ordering :=
  (compare a.seconds b.seconds).then (compare a.micros b.micros)

/-- Microseconds since the start of 1970. -/
def toMicros (t : Stamp) : Except Overflow Int := do
  let whole ← Word.mulSigned t.seconds 1000000
  Word.addSigned whole t.micros

/-- The time `n` nanoseconds after the start of 1970. Earlier times become the start of 1970, and a
clock has a time only if its seconds are a signed word. -/
def ofNanos (n : Int) : Except ClockFault Stamp :=
  if ¬ Word.IsSigned (n / 1000000000) then .error (if n < 0 then .tooEarly else .tooLate)
  else if n < 0 then .ok zero
  else .ok ⟨n / 1000000000, (n % 1000000000 / 1000).toNat⟩

/-- Seconds, a point and at least six digits of microseconds. -/
def render (t : Stamp) : String :=
  let micros := toString t.micros
  toString t.seconds ++ "." ++ Decimal.zeros (6 - micros.length) ++ micros

/-- The microseconds of a time that a clock gives are less than a second. -/
theorem micros_lt_of_ofNanos {n : Int} {t : Stamp} (h : ofNanos n = .ok t) :
    t.micros < 1000000 := by
  unfold ofNanos at h
  split at h
  · contradiction
  · split at h
    · cases h
      decide
    · cases h
      dsimp only
      omega

example : ofNanos 5000000123456 = .ok ⟨5000, 123⟩ := rfl
example : render ⟨1700000000, 42⟩ = "1700000000.000042" := by decide +kernel

end Stamp

/-! ### Points -/

/-- A value with the time at which it was written, if that is recorded. -/
structure Point (α : Type) where
  value : α
  stamp : Option Stamp
  deriving DecidableEq

/-- A point as the engine gives it. -/
abbrev Sample := Point Value

/-- What a reader takes out of a value: a value of one kind, or any value. -/
inductive Form where
  | long
  | double
  | text
  | any
  deriving DecidableEq, Repr

namespace Form

/-- The type of what a reader gets. -/
def Carrier : Form → Type
  | long => Int
  | double => Float
  | text => String
  | any => Value

instance (form : Form) : DecidableEq form.Carrier :=
  match form with
  | long => inferInstanceAs (DecidableEq Int)
  | double => inferInstanceAs (DecidableEq Float)
  | text => inferInstanceAs (DecidableEq String)
  | any => inferInstanceAs (DecidableEq Value)

/-- The kind that a reader asks the engine for. A reader of any value asks for text, which every
topic can give. -/
def kind : Form → Kind
  | long => .long
  | double => .double
  | text => .text
  | any => .text

/-- What a reader takes out of a value, if its kind is right. -/
def read : (form : Form) → Value → Option form.Carrier
  | long, .long n => some n
  | double, .double x => some x
  | text, .text s => some s
  | any, v => some v
  | _, _ => none

/-- What a reader got, as a value. -/
def toValue : (form : Form) → form.Carrier → Value
  | long, n => .long n
  | double, x => .double x
  | text, s => .text s
  | any, v => v

/-- A reader gets the value it was given. -/
theorem toValue_of_read {form : Form} {v : Value} {a : form.Carrier} (h : form.read v = some a) :
    form.toValue a = v := by
  cases form <;> cases v <;> cases h <;> rfl

/-- A reader takes the values of the kind that it asks for, and one of any value takes all. -/
theorem isSome_read (form : Form) (v : Value) :
    (form.read v).isSome = (form == any || v.kind == form.kind) := by
  cases form <;> cases v <;> rfl

/-- A reader's view of a point. -/
def readPoint (form : Form) (p : Sample) : Option (Point form.Carrier) :=
  (form.read p.value).map (⟨·, p.stamp⟩)

end Form

end TickerTape
