import TickerTape.Quote.Basic

/-!
# Random steps of prices

Prices move in steps: each step multiplies the last price by a log-normal factor, whose spread is
the volatility, and trades a size that depends on the item. What chance decides in a step is an
argument here, the *draw*.

## Main definitions

* `TickerTape.Draw` — what chance and the clock decide in a step.
* `TickerTape.Quote.step` — a step of a quote.
* `TickerTape.Walk`, `TickerTape.Walk.ofVolatility` — steps of a volatility that is allowed.
* `TickerTape.Walk.advance` — a step of several quotes.
-/

namespace TickerTape

/-- What a step draws: a standard normal number, a number for the size of the trade, and the
time. -/
structure Draw where
  normal : Float
  size : Nat
  now : Stamp

/-- The least size of a trade and the number of sizes. The large funds trade in thousands. -/
def tradeSizes (ticker : String) : Nat × Nat :=
  if ticker = "SPY" ∨ ticker = "QQQ" ∨ ticker = "XLF" then (1000, 5000) else (100, 1000)

/-- The size of a trade. -/
def tradeSize (ticker : String) (draw : Nat) : Int :=
  let (least, sizes) := tradeSizes ticker
  least + draw % sizes

/-- A trade has one of the sizes for its item. -/
theorem tradeSize_mem (ticker : String) (draw : Nat) :
    ((tradeSizes ticker).1 : Int) ≤ tradeSize ticker draw ∧
      tradeSize ticker draw < (tradeSizes ticker).1 + (tradeSizes ticker).2 := by
  simp only [tradeSize, tradeSizes]
  split <;> simp only [] <;> omega

/-- A step of a quote with the given spread of the log-normal factor. -/
def Quote.step (spread : Float) (d : Draw) (q : Quote) : Except Overflow Quote := do
  let moved := q.setLast (q.last * Float.exp (spread * d.normal))
  let size := tradeSize q.ticker d.size
  let volume ← Word.addSigned q.volume size
  return { moved with lastSize := size, volume, stamp := d.now }

/-- Why quotes cannot step. -/
inductive WalkFault where
  /-- A volatility that is not above zero and at most one. -/
  | invalidVolatility (volatility : Float)
  /-- A spread that is no number. -/
  | invalidSpread
  deriving DecidableEq

/-- The text of a fault. -/
def WalkFault.message : WalkFault → String
  | .invalidVolatility v => "Invalid volatility: " ++ Decimal.ofDouble v
  | .invalidSpread =>
    "Distribution error: variation parameter is non-finite in (log)normal distribution"

/-- Steps of one volatility. -/
structure Walk where
  volatility : Float

namespace Walk

/-- Steps of a volatility. One that is no number passes here and is refused by the first step. -/
def ofVolatility (volatility : Float) : Except WalkFault Walk :=
  if volatility ≤ 0.0 ∨ 1.0 < volatility then .error (.invalidVolatility volatility)
  else .ok ⟨volatility⟩

/-- The spread of the factor, which must be a number. -/
def spread (w : Walk) : Except WalkFault Float :=
  if w.volatility.isFinite then .ok w.volatility else .error .invalidSpread

/-- Steps of quotes by the draws for them. -/
def stepAll (spread : Float) (draw : Nat → Draw) : Nat → List Quote → Except Overflow (List Quote)
  | _, [] => .ok []
  | i, q :: quotes => do
    let q ← q.step spread (draw i)
    let quotes ← stepAll spread draw (i + 1) quotes
    return q :: quotes

/-- One step of every quote; `draw i` is the draw for the one at place `i`. -/
def advance (w : Walk) (draw : Nat → Draw) (quotes : List Quote) :
    Except WalkFault (Except Overflow (List Quote)) := do
  let spread ← w.spread
  return stepAll spread draw 0 quotes

end Walk

end TickerTape
