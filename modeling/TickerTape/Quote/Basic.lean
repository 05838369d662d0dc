import TickerTape.Point

/-!
# Quotes

A quote is the market state of one item: its last price with bid and ask one cent around it, the
range of the session, the last trade and the traded volume.

## Main definitions

* `TickerTape.Quote` — a quote.
* `TickerTape.Quote.opening` — a quote at the start of a session.
* `TickerTape.Quote.setLast` — another last price.
* `TickerTape.Quote.value` — the value of a topic.
-/

namespace TickerTape

/-- The greater of two prices; one that is no number gives way to the other. -/
def greaterPrice (a b : Float) : Float := if a.isNaN then b else if a < b then b else a

/-- The lesser of two prices; one that is no number gives way to the other. -/
def lesserPrice (a b : Float) : Float := if a.isNaN then b else if b < a then b else a

/-- One cent. -/
def cent : Float := 0.01

/-- The market state of an item. Sizes and volumes are signed words. -/
structure Quote where
  ticker : String
  last : Float
  bid : Float
  ask : Float
  high : Float
  low : Float
  lastSize : Int
  volume : Int
  stamp : Stamp
  deriving DecidableEq

namespace Quote

/-- The quote with another last price. -/
def setLast (q : Quote) (last : Float) : Quote :=
  { q with
    last
    bid := last - cent
    ask := last + cent
    high := greaterPrice q.high last
    low := lesserPrice q.low last }

/-- The price between one and a thousand that a draw from zero to one opens with. -/
def openingPrice (draw : Float) : Float := 1.0 + draw * 999.0

/-- A quote without trades. -/
def opening (ticker : String) (last : Float) (now : Stamp) : Quote :=
  setLast ⟨ticker, last, last, last, last, last, 0, 0, now⟩ last

/-- The value of a topic, for the topics that a quote has. -/
def value (q : Quote) (topic : String) : Option Value :=
  if topic = "LAST" then some (.double q.last)
  else if topic = "BID" then some (.double q.bid)
  else if topic = "ASK" then some (.double q.ask)
  else if topic = "HIGH" then some (.double q.high)
  else if topic = "LOW" then some (.double q.low)
  else if topic = "MARK" then some (.double ((q.bid + q.ask) / 2.0))
  else if topic = "VOLUME" then some (.long q.volume)
  else if topic = "LAST_SIZE" then some (.long q.lastSize)
  else if topic = "BID_SIZE" ∨ topic = "ASK_SIZE" then some (.long 100)
  else if topic = "DESCRIPTION" then some (.text (q.ticker ++ " simulated"))
  else none

end Quote

end TickerTape
