/-!
# The fewest digits that read back

A positive binary number `m * 2 ^ q` is the nearest representable number to every real of an
interval around it. Its *shortest decimal* is the decimal `d * 10 ^ e` inside that interval with the
fewest digits, and of those the nearest to the number. For each digit count it is enough to look at
the two neighbours of the number on the decimal grid of that count: if a point of the grid lies in
the interval, then so does one of them.

All arithmetic is exact: a number is a quotient of natural numbers.

## Main definitions

* `TickerTape.Decimal.Binary` — a positive binary number with the shape of its interval.
* `TickerTape.Decimal.shortest` — its shortest decimal.
-/

namespace TickerTape.Decimal

/-- The positive number `mantissa * 2 ^ exponent` of a binary format. It is a `boundary` when the
representable number below it is only half as far away as the one above. -/
structure Binary where
  mantissa : Nat
  exponent : Int
  boundary : Bool
  deriving DecidableEq, Repr

namespace Binary

/-- The numerator of the number over `denominator`. -/
def numerator (b : Binary) : Nat := (4 * b.mantissa) <<< b.exponent.toNat

/-- The numerator of a quarter of a unit in the last place, over `denominator`. -/
def quarter (b : Binary) : Nat := 1 <<< b.exponent.toNat

/-- The common denominator of the number and of a quarter of a unit in its last place. -/
def denominator (b : Binary) : Nat := 4 <<< (-b.exponent).toNat

/-- The numerator of the lower end of the interval. -/
def lowest (b : Binary) : Nat := b.numerator - (if b.boundary then 1 else 2) * b.quarter

/-- The numerator of the upper end of the interval. -/
def highest (b : Binary) : Nat := b.numerator + 2 * b.quarter

/-- The quotient `n / d` reads back as the number. The ends of the interval do so when the mantissa
is even. -/
def readsBack (b : Binary) (n d : Nat) : Bool :=
  let low := b.lowest * d
  let high := b.highest * d
  let here := n * b.denominator
  if b.mantissa % 2 = 0 then low ≤ here && here ≤ high else low < here && here < high

end Binary

/-- The number of decimal digits of `n`, at least one. -/
def digitCount (n : Nat) : Nat := (Nat.toDigits 10 n).length

/-- The place of the first digit of `n / d`: the `k` with `10 ^ (k - 1) ≤ n / d < 10 ^ k`. -/
def magnitude (n d : Nat) : Int :=
  if d ≤ n then digitCount (n / d) else 1 - (digitCount ((d - 1) / n) : Int)

/-- The decimal `d * 10 ^ e` as a quotient. -/
def quotient (d : Nat) (e : Int) : Nat × Nat := (d * Nat.pow 10 e.toNat, Nat.pow 10 (-e).toNat)

/-- The neighbour of `b` on the grid of multiples of `10 ^ e` that reads back as `b`, the nearer one
if both do, the upper one if they are equally near. -/
def onGrid (b : Binary) (e : Int) : Option Nat :=
  let (unit, parts) := quotient 1 e
  let below := b.numerator * parts / (b.denominator * unit)
  let reads (d : Nat) : Bool := b.readsBack (d * unit) parts
  match reads below, reads (below + 1) with
  | true, true =>
    let middle := (2 * below + 1) * unit * b.denominator
    if 2 * b.numerator * parts < middle then some below else some (below + 1)
  | true, false => some below
  | false, true => some (below + 1)
  | false, false => none

/-- The first grid of at least `n` digits with a neighbour that reads back, among the next `fuel`
grids. -/
def search (b : Binary) (first : Int) : Nat → Nat → Nat × Int
  | 0, n => (b.numerator * Nat.pow 10 ((n : Int) - first).toNat / b.denominator, first - n)
  | fuel + 1, n =>
    match onGrid b (first - n) with
    | some d => if d = Nat.pow 10 n then (1, first) else (d, first - n)
    | none => search b first fuel (n + 1)

/-- The shortest decimal of `b`, as digits `d` and an exponent `e` that stand for `d * 10 ^ e`.
Seventeen digits always read back in a format of 53 bits. -/
def shortest (b : Binary) : Nat × Int :=
  search b (magnitude b.numerator b.denominator) 17 1

end TickerTape.Decimal
