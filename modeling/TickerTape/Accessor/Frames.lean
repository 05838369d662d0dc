import TickerTape.Accessor.Names
import TickerTape.Accessor.Read

/-!
# All frames of a block

## Main definitions

* `TickerTape.Accessor.allFrames` — the topic frame of every item.
-/

namespace TickerTape.Accessor

/-- The topic frame of each of some items. -/
def framesOf : List String → Operation (List (String × Frame .text))
  | [] => pure []
  | item :: items => do
    let frame ← topicFrame item
    let frames ← framesOf items
    return (item, frame) :: frames

/-- The topic frame of every item of the block. -/
def allFrames : Operation (Table String (Frame .text)) := do
  let items ← readMembers .item
  let frames ← framesOf items.keys
  return Table.ofList frames

end TickerTape.Accessor
