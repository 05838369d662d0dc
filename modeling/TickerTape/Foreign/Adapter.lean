import TickerTape.Foreign.Call

/-!
# An engine behind a foreign library

Each request to an engine is carried out by calls of the library. Names are checked before the call
that needs them; sets of names and frames are read in two calls, one for the number of names and, if
there are any, one for the names themselves.

## Main definitions

* `TickerTape.Foreign.Adapter.perform` — the calls for a request that may fail.
* `TickerTape.Foreign.Adapter.answer` — the calls for any request.
* `TickerTape.Foreign.Adapter.through` — a program that asks an engine, as calls of the library.
-/

namespace TickerTape.Foreign

/-- A part of an answer: calls of the library that end with a result, a status code, or a length
that is no word. -/
abbrev Adapted (α : Type) := ExceptT Status (ExceptT Overflow (Program library)) α

namespace Adapter

/-- Calls the library, whatever it leaves behind. -/
def call (c : Call) : Adapted c.Reply :=
  ExceptT.mk (ExceptT.mk (.ask c fun (reply : c.Reply) => .done (.ok (.ok reply))))

/-- Goes on with a result or stops at a status code. -/
def lift {α : Type} : Except Status α → Adapted α
  | .ok a => pure a
  | .error s => throw s

/-- A text as a name. -/
def name (s : String) : Adapted Name := lift (Name.ofString s)

/-- The names of a stream: first the block's is checked, then the item's, then the topic's. -/
def stream (a : Address) : Adapted Stream := do
  let block ← name a.block
  let item ← name a.item
  let topic ← name a.topic
  return ⟨block, item, topic⟩

/-- What a call that may fail has written. -/
def result {α : Type} (o : Outcome α) : Adapted α := lift o.result

/-- The set of names that a block has, or that wait. -/
def members (block : String) (axis : Axis) : Adapted NameSet := do
  let block ← name block
  let reply : Outcome Nat ← call (.memberCount block axis)
  let n ← result reply
  if n = 0 then return ∅
  else
    let reply : Outcome (Vector TextSlot n) ← call (.memberNames block axis n)
    let slots ← result reply
    return NameSet.ofNames (texts n slots)

/-- The set of names of a block that wait. -/
def waiting (block : String) (axis : Axis) : Adapted NameSet := do
  let block ← name block
  let reply : Outcome Nat ← call (.waitingCount block axis)
  let n ← result reply
  if n = 0 then return ∅
  else
    let reply : Outcome (Vector TextSlot n) ← call (.waitingNames block axis n)
    let slots ← result reply
    return NameSet.ofNames (texts n slots)

/-- The kind that a topic stores, from its number. -/
def kindOf (raw : Int) : Except Status Kind :=
  if raw = 0 then .ok .long
  else if raw = 1 then .ok .double
  else if raw = 2 then .ok .text
  else .error .dataType

/-- The number of slots from `first` to `last`. -/
def span (first last : Nat) : Adapted Nat :=
  if last < first then throw .badInput
  else ExceptT.mk (ExceptT.mk (.done ((Word.addUnsigned (last - first) 1).map .ok)))

/-- The value in a slot. -/
def value (a : Address) (slot : Nat) (kind : Kind) (stamped : Bool) : Adapted Sample := do
  let s ← stream a
  let stamps := stampRoom stamped 1
  let reply : Outcome (Filled kind 1 stamps) ← call (.value s (Word.toSigned slot) kind stamps)
  let filled ← result reply
  match filled.samples with
  | sample :: _ => return sample
  | [] => throw .getData

/-- The values in a range of slots. -/
def range (a : Address) (first last : Nat) (kind : Kind) (stamped : Bool) :
    Adapted (List Sample) := do
  let s ← stream a
  let n ← span first last
  let stamps := stampRoom stamped n
  let reply : Outcome (Filled kind n stamps) ←
    call (.range s kind n stamps (Word.toSigned last) (Word.toSigned first))
  let filled ← result reply
  return filled.samples

/-- The values behind the marker. The library fills its slots with the most recent value first and
reports how many there are; no slot beyond that number counts. -/
def sinceMarker (a : Address) (first room : Nat) (kind : Kind) (stamped : Bool) :
    Adapted Engine.MarkerRead := do
  let s ← stream a
  let stamps := stampRoom stamped room
  let reply : Outcome (Filled kind room stamps × Int) ←
    call (.sinceMarker s kind room stamps (Word.toSigned first))
  let (filled, got) ← result reply
  return ⟨(filled.samples.take got.natAbs).reverse, got⟩

/-- The most recent value of a topic for each item. -/
def itemFrame (block topic : String) (kind : Kind) (stamped : Bool) :
    Adapted (List (String × Sample)) := do
  let n := (← members block .item).size
  if n = 0 then return []
  else
    let block ← name block
    let topic ← name topic
    let stamps := stampRoom stamped n
    let reply : Outcome (Filled kind n stamps × Vector TextSlot n) ←
      call (.itemFrame block topic kind n stamps)
    let (filled, labels) ← result reply
    return (texts n labels).zip filled.samples

/-- The most recent value of each topic for an item. -/
def topicFrame (block item : String) (stamped : Bool) : Adapted (List (String × Sample)) := do
  let n := (← members block .topic).size
  if n = 0 then return []
  else
    let block ← name block
    let item ← name item
    let stamps := stampRoom stamped n
    let reply : Outcome (Filled .text n stamps × Vector TextSlot n) ←
      call (.topicFrame block item n stamps)
    let (filled, labels) ← result reply
    return (texts n labels).zip filled.samples

/-- The names of all blocks, in the order of the library. -/
def blockNames : Adapted (List String) := do
  let n : Nat ← call .count
  if n = 0 then return []
  else
    let reply : Outcome (Vector TextSlot n) ← call (.blockNames n)
    let slots ← result reply
    return texts n slots

/-- The calls for a request that may fail. A new block gets the drawn name. -/
def perform (draw : String) : (q : Engine.Query) → Adapted q.Answer
  | .createBlock size stamped timeout => do
    let block ← name draw
    let reply : Outcome Unit ← call (.createBlock block size stamped timeout)
    result reply
    return draw
  | .closeBlock block => do
    let block ← name block
    let reply : Outcome Unit ← call (.closeBlock block)
    result reply
  | .blockSize block => do
    let block ← name block
    let reply : Outcome Nat ← call (.blockSize block)
    result reply
  | .resizeBlock block size => do
    let block ← name block
    let reply : Outcome Unit ← call (.resizeBlock block size)
    result reply
  | .members block axis => members block axis
  | .waiting block axis => waiting block axis
  | .addMember block axis member => do
    let block ← name block
    let member ← name member
    let reply : Outcome Unit ← call (.addMember block axis member)
    result reply
  | .removeMember block axis member => do
    let block ← name block
    let member ← name member
    let reply : Outcome Unit ← call (.removeMember block axis member)
    result reply
  | .topicKind topic => do
    let topic ← name topic
    let reply : Outcome Int ← call (.topicKind topic)
    let raw ← result reply
    lift (kindOf raw)
  | .occupancy a => do
    let s ← stream a
    let reply : Outcome Nat ← call (.occupancy s)
    result reply
  | .value a slot kind stamped => value a slot kind stamped
  | .range a first last kind stamped => range a first last kind stamped
  | .markerDirty a => do
    let s ← stream a
    let reply : Outcome Nat ← call (.markerDirty s)
    let dirty ← result reply
    return dirty != 0
  | .markerPosition a => do
    let s ← stream a
    let reply : Outcome Int ← call (.markerPosition s)
    result reply
  | .sinceMarker a first room kind stamped => sinceMarker a first room kind stamped
  | .itemFrame block topic kind stamped => itemFrame block topic kind stamped
  | .topicFrame block item stamped => topicFrame block item stamped
  | .blockNames => blockNames

/-- The calls for any request. -/
def answer (draw : String) : (r : Engine.Request) → Program library (Except Overflow r.Reply)
  | .connected => .ask .connected fun (reply : Nat) => .done (.ok (reply != 0))
  | .limit => .ask .limit fun (reply : Nat) => .done (.ok reply)
  | .setLimit limit => .ask (.setLimit limit) fun (reply : Nat) => .done (.ok reply)
  | .count => .ask .count fun (reply : Nat) => .done (.ok reply)
  | .query q => (perform draw q).run.run

/-- A program that asks an engine, as a program that calls the library. -/
def through {α : Type} (draw : String) (p : Program Engine.wire α) :
    Program library (Except Overflow α) :=
  Program.through (answer draw) p

end Adapter

end TickerTape.Foreign
