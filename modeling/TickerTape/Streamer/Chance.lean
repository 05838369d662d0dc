import TickerTape.Engine.Exchange
import TickerTape.Quote.Walk

/-!
# Draws from a seed

What chance decides in a run, worked out from a seed: a draw for a purpose is a scrambled function
of the seed and of numbers that name the purpose, so that no draw depends on how many came before
it.

## Main definitions

* `TickerTape.Streamer.scramble` — a scrambled word.
* `TickerTape.Streamer.Chance`, `TickerTape.Streamer.Chance.ofSeed` — what chance and the clock
  decide.
-/

namespace TickerTape.Streamer

/-- A word that depends on every bit of the given one. -/
def scramble (x : UInt64) : UInt64 :=
  let x := x + 0x9e3779b97f4a7c15
  let x := (x ^^^ (x >>> 30)) * 0xbf58476d1ce4e5b9
  let x := (x ^^^ (x >>> 27)) * 0x94d049bb133111eb
  x ^^^ (x >>> 31)

/-- A word for a seed and the numbers that name a purpose. -/
def word (seed : UInt64) (purpose : List Nat) : UInt64 :=
  purpose.foldl (fun w n => scramble (w ^^^ n.toUInt64)) (scramble seed)

/-- A number from zero, which it may be, to one, which it is not. -/
def unit (w : UInt64) : Float := (w >>> 11).toFloat / 9007199254740992.0

/-- A standard normal number from two words. -/
def normal (v w : UInt64) : Float :=
  Float.sqrt (-2.0 * Float.log (1.0 - unit v)) * Float.cos (6.283185307179586 * unit w)

/-- The numbers that name an item. -/
def itemPurpose (item : String) : List Nat := item.toList.map Char.toNat

/-- What chance and the clock decide in a run. -/
structure Chance where
  /-- The name of the block. -/
  blockName : String
  /-- The opening prices. -/
  price : String → Float
  /-- The time at the start. -/
  now : Stamp
  /-- The step of an item's quote in a tick. -/
  draw : Nat → String → Draw

namespace Chance

/-- The time some milliseconds after another. -/
def later (now : Stamp) (ms : Nat) : Stamp :=
  let micros := now.micros + ms * 1000
  ⟨now.seconds + (micros / 1000000 : Nat), micros % 1000000⟩

/-- The draws of a seed for a run that starts at some time and has a tick every `period`
milliseconds. -/
def ofSeed (seed : UInt64) (now : Stamp) (period : Nat) : Chance where
  blockName :=
    Engine.blockName ((word seed [0]).toNat <<< 64 + (word seed [1]).toNat)
  price item := Quote.openingPrice (unit (word seed (2 :: itemPurpose item)))
  now
  draw tick item :=
    let purpose := tick :: itemPurpose item
    { normal := normal (word seed (3 :: purpose)) (word seed (4 :: purpose))
      size := (word seed (5 :: purpose)).toNat
      now := later now (tick * period) }

end Chance

end TickerTape.Streamer
