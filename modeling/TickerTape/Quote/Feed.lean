import TickerTape.Engine.Exchange
import TickerTape.Quote.Walk

/-!
# The feed of an exchange

A feed plays the market for an exchange: on each tick every quote makes a step, and what is streamed
of the quotes is published.

## Main definitions

* `TickerTape.Feed` — a feed, and `TickerTape.Feed.start`, a feed of some items.
* `TickerTape.Feed.tick` — a tick.
* `TickerTape.ticksDue` — how many ticks fall into a time.
-/

namespace TickerTape

/-- The volatility of a feed. -/
def feedVolatility : Float := 0.000082

/-- The milliseconds from one tick to the next. -/
def tickPeriod : Nat := 200

/-- The ticks of the first `elapsed` milliseconds. -/
def ticksDue (elapsed : Nat) : Nat := elapsed / tickPeriod

/-- Why a feed stopped. -/
inductive FeedFault where
  /-- The feed could not be made. -/
  | initialization (detail : String)
  /-- The quotes could not be moved. -/
  | update (detail : String)
  deriving DecidableEq, Repr

/-- The text of a fault. -/
def FeedFault.message : FeedFault → String
  | .initialization detail => "Failed to initialize quote feed: " ++ detail
  | .update detail => "Failed to update quotes: " ++ detail

/-- The quotes of the items that are watched. -/
structure Feed where
  quotes : Table String Quote
  walk : Walk

namespace Feed

/-- A feed of some items; `price` gives the opening price of an item. -/
def start (tickers : List String) (price : String → Float) (now : Stamp) :
    Except FeedFault Feed :=
  match Walk.ofVolatility feedVolatility with
  | .ok walk =>
    .ok ⟨Table.ofList (tickers.map fun t => (t, .opening t (price t) now)), walk⟩
  | .error f => .error (.initialization ("Failed to create Quote Generator: " ++ f.message))

/-- What the feed publishes for a pair: the value of the topic in the item's quote, with the time of
the quote. -/
def record (quotes : Table String Quote) (p : Engine.Pair) : Option Engine.Record := do
  let q ← quotes.get? p.item
  let value ← q.value p.topic
  return ⟨value, q.stamp⟩

/-- Publishes what the quotes have of some pairs, and counts the streams written. -/
def publish (quotes : Table String Quote) :
    List Engine.Pair → Engine.Exchange → Nat × Engine.Exchange
  | [], e => (0, e)
  | p :: pairs, e =>
    match record quotes p with
    | some r =>
      let (n, e) := e.publish p r
      let (m, e) := publish quotes pairs e
      (n + m, e)
    | none => publish quotes pairs e

/-- A tick: all quotes make a step, by the draws for their items, then every pair that is streamed
and watched is published. Gives the number of streams written. -/
def tick (draw : String → Draw) (f : Feed) (e : Engine.Exchange) :
    Except FeedFault (Except Overflow (Nat × Feed × Engine.Exchange)) :=
  match f.walk.spread with
  | .error fault => .error (.update fault.message)
  | .ok spread =>
    .ok do
      let quotes ← f.quotes.traverse fun ticker q => q.step spread (draw ticker)
      let (n, e) := publish quotes e.subscriptions e
      return (n, { f with quotes }, e)

end Feed

end TickerTape
