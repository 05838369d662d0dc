import TickerTape.Foreign.Call
import TickerTape.Plan

/-!
# A scripted library

This library keeps no blocks. It hands out what it is set to hold, whichever block is named: lists
of names, and lists of values and times from which each read takes the elements that its slots ask
for. Slots beyond the end of a list stay as they were.

## Main definitions

* `TickerTape.Foreign.Scripted` — what the library is set to hold.
* `TickerTape.Foreign.Scripted.handler` — its answers, under a plan of refusals.
-/

namespace TickerTape.Foreign

/-- Texts as a library holds them, in bytes. -/
abbrev ByteTexts := List (List UInt8)

/-- Texts and how many the library says there are. -/
structure Listing where
  texts : ByteTexts := []
  /-- What it says instead of the true number. -/
  told : Option Nat := none

/-- How many texts the library says there are. -/
def Listing.count (l : Listing) : Nat := l.told.getD l.texts.length

/-- What a library is set to hold. -/
structure Scripted where
  connected : Nat := 1
  size : Nat := 10
  limit : Nat := 10
  occupancy : Nat := 0
  position : Int := -1
  dirty : Nat := 0
  topicKind : Int := 0
  /-- What marker reads report as their count. -/
  got : Int := 0
  blocks : Listing := {}
  items : Listing := {}
  topics : Listing := {}
  waitingItems : Listing := {}
  waitingTopics : Listing := {}
  labels : ByteTexts := []
  longs : List Int := []
  doubles : List Float := []
  strings : ByteTexts := []
  stamps : List RawStamp := []

namespace Scripted

/-- The most blocks that there may be. -/
def mostBlocks : Nat := 100

/-- The names of a kind. -/
def names (s : Scripted) : Axis → Listing
  | .item => s.items
  | .topic => s.topics

/-- The names of a kind that wait. -/
def waiting (s : Scripted) : Axis → Listing
  | .item => s.waitingItems
  | .topic => s.waitingTopics

/-! ### Slots -/

/-- `n` slots with the elements of a list from the index `first` on; a slot without an element holds
`blank`. -/
def window {α : Type} (blank : α) (elements : List α) (first : Int) (n : Nat) : Vector α n :=
  let elements := elements.toArray
  Vector.ofFn fun i =>
    if first < 0 then blank else (elements[first.toNat + i.val]?).getD blank

/-- A slot with the bytes of a text, as far as they fit. -/
def textSlot (bytes : List UInt8) : TextSlot := window 0 bytes 0 Engine.nameRoom

/-- `n` slots with texts. -/
def textSlots (texts : ByteTexts) (first : Int) (n : Nat) : Vector TextSlot n :=
  window (textSlot []) (texts.map textSlot) first n

/-- `n` slots with values. -/
def slots (s : Scripted) (first : Int) (n : Nat) : (kind : Kind) → Slots kind n
  | .long => window (0 : Int) s.longs first n
  | .double => window (0.0 : Float) s.doubles first n
  | .text => textSlots s.strings first n

/-- `n` slots with values and `m` slots with their times. -/
def filled (s : Scripted) (kind : Kind) (first : Int) (n m : Nat) : Filled kind n m :=
  ⟨s.slots first n kind, window .zero s.stamps first m⟩

/-! ### Calls -/

/-- A call that succeeded. -/
def done {α : Type} (written : α) : Outcome α := ⟨⟨0⟩, written⟩

/-- What a call that is not refused leaves behind. -/
def reply : Handler library Scripted
  | .connected, s => (s.connected, s)
  | .createBlock _ size _ _, s => (done (), { s with size })
  | .closeBlock _, s => (done (), s)
  | .blockSize _, s => (done s.size, s)
  | .resizeBlock _ size, s => (done (), { s with size })
  | .limit, s => (s.limit, s)
  | .setLimit limit, s =>
    let limit : Nat := min limit mostBlocks
    (limit, { s with limit })
  | .count, s => (s.blocks.count, s)
  | .blockNames room, s => (done (textSlots s.blocks.texts 0 room), s)
  | .occupancy _, s => (done s.occupancy, s)
  | .memberCount _ axis, s => (done (s.names axis).count, s)
  | .memberNames _ axis room, s => (done (textSlots (s.names axis).texts 0 room), s)
  | .waitingCount _ axis, s => (done (s.waiting axis).count, s)
  | .waitingNames _ axis room, s => (done (textSlots (s.waiting axis).texts 0 room), s)
  | .addMember .., s => (done (), s)
  | .removeMember .., s => (done (), s)
  | .topicKind _, s => (done s.topicKind, s)
  | .value _ index kind m, s => (done (s.filled kind index 1 m), s)
  | .range _ kind n m _ first, s => (done (s.filled kind first n m), s)
  | .markerDirty _, s => (done s.dirty, s)
  | .markerPosition _, s => (done s.position, s)
  | .sinceMarker _ kind n m first, s => (done (s.filled kind first n m, s.got), s)
  | .itemFrame _ _ kind n m, s => (done (s.filled kind 0 n m, textSlots s.labels 0 n), s)
  | .topicFrame _ _ n m, s => (done (s.filled .text 0 n m, textSlots s.labels 0 n), s)

/-- What a call that is refused with a code leaves behind: the code, and slots to which nothing was
written. A call without a status code gives zero. -/
def refusal : (c : Call) → Int → c.Reply
  | .connected, _ => (0 : Nat)
  | .createBlock .., code => ⟨⟨code⟩, ()⟩
  | .closeBlock _, code => ⟨⟨code⟩, ()⟩
  | .blockSize _, code => ⟨⟨code⟩, 0⟩
  | .resizeBlock .., code => ⟨⟨code⟩, ()⟩
  | .limit, _ => (0 : Nat)
  | .setLimit _, _ => (0 : Nat)
  | .count, _ => (0 : Nat)
  | .blockNames room, code => ⟨⟨code⟩, textSlots [] 0 room⟩
  | .occupancy _, code => ⟨⟨code⟩, 0⟩
  | .memberCount .., code => ⟨⟨code⟩, 0⟩
  | .memberNames _ _ room, code => ⟨⟨code⟩, textSlots [] 0 room⟩
  | .waitingCount .., code => ⟨⟨code⟩, 0⟩
  | .waitingNames _ _ room, code => ⟨⟨code⟩, textSlots [] 0 room⟩
  | .addMember .., code => ⟨⟨code⟩, ()⟩
  | .removeMember .., code => ⟨⟨code⟩, ()⟩
  | .topicKind _, code => ⟨⟨code⟩, 0⟩
  | .value _ _ kind m, code => ⟨⟨code⟩, filled {} kind 0 1 m⟩
  | .range _ kind n m _ _, code => ⟨⟨code⟩, filled {} kind 0 n m⟩
  | .markerDirty _, code => ⟨⟨code⟩, 0⟩
  | .markerPosition _, code => ⟨⟨code⟩, 0⟩
  | .sinceMarker _ kind n m _, code => ⟨⟨code⟩, filled {} kind 0 n m, 0⟩
  | .itemFrame _ _ kind n m, code => ⟨⟨code⟩, filled {} kind 0 n m, textSlots [] 0 n⟩
  | .topicFrame _ _ n m, code => ⟨⟨code⟩, filled {} .text 0 n m, textSlots [] 0 n⟩

/-- The library under a plan. -/
def handler (word : Call → String) : Handler library (Plan library × Scripted) :=
  Handler.planned word refusal reply

end Scripted

end TickerTape.Foreign
