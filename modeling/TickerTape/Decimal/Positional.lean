import TickerTape.Decimal.Shortest

/-!
# Decimal text of a double

A double is written with the fewest digits that read back as it, always in positional notation:
zeros fill the places between the digits and the point, a whole number has no point, and a number
below one starts with `0.`. Zero keeps its sign.

## Main definitions

* `TickerTape.Decimal.positional` — the text of `d * 10 ^ e`.
* `TickerTape.Decimal.Binary.ofBits` — the number that a bit pattern of a double stands for.
* `TickerTape.Decimal.ofDouble` — the text of a double.
-/

namespace TickerTape.Decimal

/-- `n` zeros. -/
def zeros (n : Nat) : String := String.ofList (List.replicate n '0')

/-- The text of `d * 10 ^ e` in positional notation. -/
def positional (d : Nat) (e : Int) : String :=
  let digits := Nat.toDigits 10 d
  if 0 ≤ e then String.ofList digits ++ zeros e.toNat
  else
    let places := (-e).toNat
    if places < digits.length then
      String.ofList (digits.take (digits.length - places)) ++ "."
        ++ String.ofList (digits.drop (digits.length - places))
    else "0." ++ zeros (places - digits.length) ++ String.ofList digits

/-- The number with exponent field `e` and fraction field `f`, both of a finite double other than
zero. -/
def Binary.ofFields (e f : Nat) : Binary :=
  if e = 0 then ⟨f, -1074, false⟩
  else ⟨0x10000000000000 + f, (e : Int) - 1075, f = 0 && e ≠ 1⟩

/-- The text of the double with the given bit pattern. -/
def ofBits (bits : Nat) : String :=
  let sign := if bits >>> 63 = 1 then "-" else ""
  let e := bits >>> 52 % 0x800
  let f := bits % 0x10000000000000
  if e = 0x7ff then
    if f = 0 then sign ++ "inf" else "NaN"
  else if e = 0 ∧ f = 0 then sign ++ "0"
  else
    let (d, x) := shortest (Binary.ofFields e f)
    sign ++ positional d x

/-- The text of a double. -/
def ofDouble (x : Float) : String := ofBits x.toBits.toNat

example : ofBits 0x3ff8000000000000 = "1.5" := by decide +kernel
example : ofBits 0x8000000000000000 = "-0" := by decide +kernel
example : ofBits 0x3fb999999999999a = "0.1" := by decide +kernel
example : ofBits 0x444b1ae4d6e2ef50 = "1000000000000000000000" := by decide +kernel
example : ofBits 0x3e7ad7f29abcaf48 = "0.0000001" := by decide +kernel

end TickerTape.Decimal
