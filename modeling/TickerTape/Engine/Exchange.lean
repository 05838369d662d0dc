import TickerTape.Engine.Block

/-!
# The exchange: an engine in memory

The exchange keeps its blocks by name. Updates of an item's topic reach the stream of that pair in
every block that has it, connected or not; all requests that name a block need a connection.

A new block gets a name that is drawn at random. The draw is an argument here: it is what the
request would draw.

## Main definitions

* `TickerTape.Engine.Exchange` — the exchange, and `TickerTape.Engine.Exchange.start` at its start.
* `TickerTape.Engine.Exchange.publish` — an update from the market.
* `TickerTape.Engine.Exchange.subscriptions` — the pairs that some block streams.
* `TickerTape.Engine.Exchange.withBlock`, `TickerTape.Engine.Exchange.readBlock` — requests that
  name a block.
* `TickerTape.Engine.Exchange.serve` — what a request that may fail does, with
  `TickerTape.Engine.Exchange.perform` for its answer.
* `TickerTape.Engine.Exchange.handler` — the replies to all requests.
-/

namespace TickerTape.Engine

/-- The number of blocks that a new exchange may have. -/
def defaultLimit : Nat := 10

/-- The largest capacity of a block. -/
def maxBlockSize : Nat := 1000000

/-- The bytes that a name has room for, one of them for its end. -/
def nameRoom : Nat := 40

/-- The name that a new block gets when the 128 bits `bits` are drawn: they are written in upper
case hexadecimal, after six of them are set to mark them as a random identifier. -/
def blockName (bits : Nat) : String :=
  let digit (i : Nat) : Nat :=
    let d := bits >>> (4 * (31 - i)) % 16
    if i = 12 then 4 else if i = 16 then 8 + d % 4 else d
  String.ofList ((List.range 32).map fun i => (digit i).digitChar.toUpper)

/-- An item or topic has a name of 1 to 39 bytes. -/
def checkName (name : String) : Except Status Unit :=
  if name.isEmpty || nameRoom ≤ name.utf8ByteSize then .error .badInput else .ok ()

/-- A block has a capacity from 1 to a million. -/
def checkSize (size : Nat) : Except Status Unit :=
  if size = 0 ∨ maxBlockSize < size then .error .blockSize else .ok ()

/-- A topic that streams values of a kind. -/
def checkTopic (topic : String) : Except Status Kind :=
  match topicKind topic with
  | some kind => .ok kind
  | none => .error .unknownTopic

/-- What a block checks before it takes a name, whether or not it has it. -/
def checkMember (axis : Axis) (name : String) : Except Status Unit := do
  checkName name
  match axis with
  | .item => pure ()
  | .topic => discard (checkTopic name)

/-- An engine in memory. -/
structure Exchange where
  blocks : Table String Block
  limit : Nat
  connected : Bool
  deriving DecidableEq

namespace Exchange

/-- A connected exchange without blocks. -/
def start : Exchange := ⟨∅, defaultLimit, true⟩

instance : Inhabited Exchange := ⟨start⟩

/-- Loses or regains the connection. -/
def setConnected (e : Exchange) (connected : Bool) : Exchange := { e with connected }

/-! ### Updates from the market -/

/-- Writes a record into every stream of a pair, and counts the streams. -/
def publish (e : Exchange) (p : Pair) (r : Record) : Nat × Exchange :=
  ((e.blocks.values.filter (·.streams.contains p)).length,
    { e with blocks := e.blocks.mapValues fun _ b => b.write p r })

/-- The pairs that some block streams, in order, each once. -/
def subscriptions (e : Exchange) : List Pair :=
  ((e.blocks.values.flatMap (·.streams.keys)).foldl
    (fun pairs p => pairs.insert p ()) (∅ : Table Pair Unit)).keys

/-! ### Requests -/

/-- A request needs a connection. -/
def connection (e : Exchange) : Except Status Unit :=
  if e.connected then .ok () else .error .notConnected

/-- A block of a connected exchange. -/
def block (e : Exchange) (name : String) : Except Status Block := do
  e.connection
  match e.blocks.get? name with
  | some b => .ok b
  | none => .error .noBlock

/-- The exchange with a block in place of the one of that name. -/
def setBlock (e : Exchange) (name : String) (b : Block) : Exchange :=
  { e with blocks := e.blocks.insert name b }

/-- A look at a block. -/
def readBlock {α : Type} (name : String) (f : Block → Except Status α) : Action Exchange α := do
  let e ← get
  let b ← Action.lift (e.block name)
  Action.lift (f b)

/-- An action on a block. The block that it leaves takes the place of the one that it found. -/
def withBlock {α : Type} (name : String) (m : Action Block α) : Action Exchange α :=
  Action.focus (·.block name) (fun b e => e.setBlock name b) m

/-- The pair of a stream. -/
def pair (a : Address) : Pair := ⟨a.item, a.topic⟩

/-- A look at a stream. -/
def readStream {α : Type} (a : Address) (f : Stream → α) : Action Exchange α :=
  readBlock a.block fun b => do
    let s ← b.stream (pair a)
    return f s

/-- A new block, under the drawn name. -/
def createBlock (draw : String) (size : Nat) (stamped : Bool) (timeout : Nat) :
    Action Exchange String := do
  Action.lift (checkSize size)
  let e ← get
  Action.lift e.connection
  if e.limit ≤ e.blocks.size then Action.refuse .blockLimit
  else if e.blocks.contains draw then Action.refuse .blockExists
  else
    set (e.setBlock draw (.new size stamped timeout))
    return draw

/-- Takes a block out. Only when it is out the exchange tells whether it was there. -/
def closeBlock (name : String) : Action Exchange Unit := do
  let e ← get
  Action.lift e.connection
  set { e with blocks := e.blocks.erase name }
  if e.blocks.contains name then pure () else Action.refuse .noBlock

/-- The timeout with which a block was created. -/
def timeout (e : Exchange) (name : String) : Except Status Nat := do
  let b ← e.block name
  return b.timeout

/-- The names of all blocks, in order. -/
def blockNames : Action Exchange (List String) := do
  let e ← get
  Action.lift e.connection
  return e.blocks.keys

/-- What a request that may fail does. -/
def serve (draw : String) : (q : Query) → Action Exchange q.Answer
  | .createBlock size stamped timeout => createBlock draw size stamped timeout
  | .closeBlock name => closeBlock name
  | .blockSize name => readBlock name fun b => .ok b.size
  | .resizeBlock name size => do
    Action.lift (checkSize size)
    withBlock name (modify (·.resize size))
  | .members name axis => readBlock name fun b => .ok (b.live axis)
  | .waiting name axis => readBlock name fun b => .ok (b.waiting axis)
  | .addMember name axis member => do
    Action.lift (checkMember axis member)
    withBlock name (modify (·.add axis member))
  | .removeMember name axis member => withBlock name (Block.removeMember axis member)
  | .topicKind topic => Action.lift (checkTopic topic)
  | .occupancy a => readStream a (·.occupancy)
  | .value a slot kind stamped => readBlock a.block (·.value (pair a) slot kind stamped)
  | .range a first last kind stamped => readBlock a.block (·.range (pair a) first last kind stamped)
  | .markerDirty a => readStream a (·.lost)
  | .markerPosition a => readStream a (·.position)
  | .sinceMarker a first room kind stamped =>
    withBlock a.block (Block.sinceMarker (pair a) first room kind stamped)
  | .itemFrame name topic kind stamped => readBlock name (·.frame .item topic kind stamped)
  | .topicFrame name item stamped => readBlock name (·.frame .topic item .text stamped)
  | .blockNames => blockNames

/-- The answer to a request that may fail and the exchange after it, if it does not fail. -/
def perform (draw : String) (q : Query) (e : Exchange) : Except Status (q.Answer × Exchange) :=
  (serve draw q).outcome e

/-- The reply to a request and the exchange after it. The limit never falls below the number of
blocks. -/
def handler (draw : String) : Handler wire Exchange
  | .connected, e => (e.connected, e)
  | .limit, e => (e.limit, e)
  | .setLimit limit, e =>
    let limit := max limit e.blocks.size
    (limit, { e with limit })
  | .count, e => (e.blocks.size, e)
  | .query q, e => (serve draw q).start e

/-! ### Outcomes of requests -/

section Outcomes

variable {α : Type} (draw name : String) (a : Address) (e : Exchange)

theorem outcome_readBlock (f : Block → Except Status α) :
    (readBlock name f).outcome e = do
      let b ← e.block name
      let answer ← f b
      return (answer, e) := by
  rw [readBlock, Action.outcome_get_bind, Action.outcome_lift_bind]
  simp only [Action.outcome_lift]
  rfl

theorem outcome_readStream (f : Stream → α) :
    (readStream a f).outcome e = do
      let b ← e.block a.block
      let s ← b.stream (pair a)
      return (f s, e) := by
  rw [readStream, outcome_readBlock]
  cases e.block a.block with
  | error status => rfl
  | ok b =>
    change (b.stream (pair a) >>= _) >>= _ = b.stream (pair a) >>= _
    cases b.stream (pair a) <;> rfl

theorem outcome_withBlock (m : Action Block α) :
    (withBlock name m).outcome e = do
      let b ← e.block name
      let (answer, b) ← m.outcome b
      return (answer, e.setBlock name b) :=
  Action.outcome_focus ..

theorem perform_createBlock_eq (size : Nat) (stamped : Bool) (timeout : Nat) :
    e.perform draw (.createBlock size stamped timeout) = do
      checkSize size
      e.connection
      if e.limit ≤ e.blocks.size then .error .blockLimit
      else if e.blocks.contains draw then .error .blockExists
      else return (draw, e.setBlock draw (.new size stamped timeout)) := by
  rw [perform, serve, createBlock, Action.outcome_lift_bind]
  refine congrArg _ (funext fun _ => ?_)
  rw [Action.outcome_get_bind, Action.outcome_lift_bind]
  refine congrArg _ (funext fun _ => ?_)
  split
  · rfl
  · split <;> rfl

theorem perform_closeBlock_eq :
    e.perform draw (.closeBlock name) = do
      let _ ← e.block name
      return ((), { e with blocks := e.blocks.erase name }) := by
  rw [perform, serve, closeBlock, Action.outcome_get_bind, Action.outcome_lift_bind, block]
  cases e.connection with
  | error status => rfl
  | ok _ =>
    rw [Table.contains]
    cases e.blocks.get? name <;> rfl

theorem perform_resizeBlock_eq (size : Nat) :
    e.perform draw (.resizeBlock name size) = do
      checkSize size
      let b ← e.block name
      return ((), e.setBlock name (b.resize size)) := by
  rw [perform, serve, Action.outcome_lift_bind]
  exact congrArg _ (funext fun _ => outcome_withBlock ..)

theorem perform_addMember_eq (axis : Axis) (member : String) :
    e.perform draw (.addMember name axis member) = do
      checkMember axis member
      let b ← e.block name
      return ((), e.setBlock name (b.add axis member)) := by
  rw [perform, serve, Action.outcome_lift_bind]
  exact congrArg _ (funext fun _ => outcome_withBlock ..)

theorem perform_removeMember_eq (axis : Axis) (member : String) :
    e.perform draw (.removeMember name axis member) = do
      let b ← e.block name
      let b ← b.remove axis member
      return ((), e.setBlock name b) := by
  rw [perform, serve, outcome_withBlock]
  refine congrArg _ (funext fun b => ?_)
  rw [Block.remove]
  cases (Block.removeMember axis member).outcome b <;> rfl

theorem perform_sinceMarker_eq (first room : Nat) (kind : Kind) (stamped : Bool) :
    e.perform draw (.sinceMarker a first room kind stamped) = do
      let b ← e.block a.block
      let (found, b) ← b.fetch (pair a) first room kind stamped
      return (found, e.setBlock a.block b) :=
  outcome_withBlock ..

end Outcomes

end Exchange

end TickerTape.Engine
