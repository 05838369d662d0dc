import TickerTape.Proofs.Calls
import TickerTape.Proofs.Refusals

/-!
# Steps of the exchange

What a request can do to an exchange, once and for all requests: each of the changes that there are
is a constructor of a relation, with the checks that it passed. Statements about all requests are
proved by cases on it.

## Main definitions

* `TickerTape.Engine.Exchange.Move` — the changes that a request can make.
* `TickerTape.Engine.Event`, `TickerTape.Engine.Exchange.after` — what may happen to an exchange,
  and the exchange after a sequence of events.
* `TickerTape.Engine.Exchange.Reachable` — the states of an exchange that began without blocks.
* `TickerTape.Engine.Exchange.HasStream` — what holds of a stream of the exchange.

## Main results

* `TickerTape.Engine.Exchange.handler_eq_ok_iff`,
  `TickerTape.Engine.Exchange.eq_of_handler_eq_error` — a request that is answered, and one that
  fails.
* `TickerTape.Engine.Exchange.move_handler` — a request makes one of the changes.
* `TickerTape.Accessor.Call.run_keeps` — what a call of an accessor keeps of the exchange.
-/

namespace TickerTape

/-- Two steps that may fail succeed when both do. -/
theorem bind_eq_ok_iff {ε α β : Type} {x : Except ε α} {f : α → Except ε β} {b : β} :
    x >>= f = .ok b ↔ ∃ a, x = .ok a ∧ f a = .ok b := by
  cases x with
  | error e =>
    constructor
    · intro h
      contradiction
    · rintro ⟨_, h, -⟩
      contradiction
  | ok a =>
    constructor
    · intro h
      exact ⟨a, rfl, h⟩
    · rintro ⟨_, h, h'⟩
      cases h
      exact h'

/-- They fail when the first one does, or when the second one does. -/
theorem bind_eq_error_iff {ε α β : Type} {x : Except ε α} {f : α → Except ε β} {e : ε} :
    x >>= f = .error e ↔ x = .error e ∨ ∃ a, x = .ok a ∧ f a = .error e := by
  cases x with
  | error e' =>
    constructor
    · intro h
      cases h
      exact .inl rfl
    · rintro (h | ⟨_, h, -⟩)
      · cases h
        rfl
      · contradiction
  | ok a =>
    constructor
    · intro h
      exact .inr ⟨a, rfl, h⟩
    · rintro (h | ⟨_, h, h'⟩)
      · contradiction
      · cases h
        exact h'

namespace Engine

/-! ### Streams of a block -/

namespace Block

variable {b : Block} {p : Pair} {s : Stream}

@[simp] theorem names_resize (b : Block) (size : Nat) (axis : Axis) :
    (b.resize size).names axis = b.names axis := by cases axis <;> rfl

@[simp] theorem names_streams (b : Block) (streams : Table Pair Stream) (axis : Axis) :
    names { b with streams } axis = b.names axis := by cases axis <;> rfl

@[simp] theorem names_write (b : Block) (p : Pair) (r : Record) (axis : Axis) :
    (b.write p r).names axis = b.names axis := by
  rw [write]
  split <;> simp

@[simp] theorem stamped_write (b : Block) (p : Pair) (r : Record) :
    (b.write p r).stamped = b.stamped := by
  rw [write]
  split <;> rfl

@[simp] theorem size_write (b : Block) (p : Pair) (r : Record) : (b.write p r).size = b.size := by
  rw [write]
  split <;> rfl

@[simp] theorem names_setNames (b : Block) (axis : Axis) (names : NameSet) :
    (b.setNames axis names).names axis = names := by cases axis <;> rfl

@[simp] theorem names_other_setNames (b : Block) (axis : Axis) (names : NameSet) :
    (b.setNames axis names).names axis.other = b.names axis.other := by cases axis <;> rfl

theorem stream_resize (h : b.stream p = .ok s) (size : Nat) :
    (b.resize size).stream p = .ok (s.truncate size) := by
  obtain ⟨hitem, htopic, hget⟩ := stream_eq_ok_iff.mp h
  exact stream_eq_ok_iff.mpr ⟨hitem, htopic, by simp [resize, hget]⟩

theorem stream_write (h : b.stream p = .ok s) (r : Record) :
    (b.write p r).stream p = .ok (s.push b.size r) := by
  obtain ⟨hitem, htopic, hget⟩ := stream_eq_ok_iff.mp h
  rw [write, hget]
  exact stream_eq_ok_iff.mpr ⟨hitem, htopic, Table.get?_insert_self ..⟩

theorem stream_replace (h : b.stream p = .ok s) (s' : Stream) :
    stream { b with streams := b.streams.insert p s' } p = .ok s' := by
  obtain ⟨hitem, htopic, -⟩ := stream_eq_ok_iff.mp h
  exact stream_eq_ok_iff.mpr ⟨hitem, htopic, Table.get?_insert_self ..⟩

/-- A marker read of a block is a marker read of one of its streams. -/
theorem fetch_eq_ok_iff {first room : Nat} {kind : Kind} {stamped : Bool} {found : MarkerRead}
    {b' : Block} : b.fetch p first room kind stamped = .ok (found, b') ↔
      first < b.size ∧ ∃ s s', b.stream p = .ok s ∧
        s.fetch first room kind (stamped && b.stamped) = .ok (found, s') ∧
        b' = { b with streams := b.streams.insert p s' } := by
  rw [fetch_eq]
  split
  next h =>
    constructor
    · intro h'
      contradiction
    · rintro ⟨h', -⟩
      exact absurd h' (Nat.not_lt.mpr h)
  next h =>
    simp only [bind_eq_ok_iff, Prod.exists, Nat.not_le.mp h, true_and]
    constructor
    · rintro ⟨s, hs, found, s', hfetch, h⟩
      cases h
      exact ⟨s, s', hs, hfetch, rfl⟩
    · rintro ⟨s, s', hs, hfetch, rfl⟩
      exact ⟨s, hs, found, s', hfetch, rfl⟩

end Block

/-! ### Changes by requests -/

namespace Exchange

variable {e : Exchange} {name : String} {b : Block}

@[simp] theorem connected_setBlock : (e.setBlock name b).connected = e.connected := rfl

theorem block_setBlock_self (h : e.connected = true) : (e.setBlock name b).block name = .ok b :=
  block_eq_ok_iff.mpr ⟨h, Table.get?_insert_self ..⟩

section Replies

variable {draw : String} {q : Query} {answer : q.Answer} {status : Status} {e' : Exchange}

theorem handler_eq_ok_iff :
    handler draw (.query q) e = ((.ok answer : Except Status q.Answer), e') ↔
      e.perform draw q = .ok (answer, e') :=
  Action.outcome_eq_ok_iff.symm

theorem handler_of_perform_eq_ok (h : e.perform draw q = .ok (answer, e')) :
    handler draw (.query q) e = ((.ok answer : Except Status q.Answer), e') :=
  handler_eq_ok_iff.mpr h

/-- A request that fails leaves the exchange as it is. -/
theorem eq_of_handler_eq_error
    (h : handler draw (.query q) e = ((.error status : Except Status q.Answer), e')) :
    e.perform draw q = .error status ∧ e' = e :=
  ⟨Action.outcome_eq_error_iff.mpr (congrArg Prod.fst h), atomicAt_serve draw q e status e' h⟩

theorem handler_of_perform_eq_error (h : e.perform draw q = .error status) :
    handler draw (.query q) e = ((.error status : Except Status q.Answer), e) := by
  have hreply : (handler draw (.query q) e).1 = (.error status : Except Status q.Answer) :=
    Action.outcome_eq_error_iff.mp h
  exact Prod.ext hreply (eq_of_handler_eq_error (Prod.ext hreply rfl)).2

/-- The reply to a request is what it answers or fails with. -/
theorem handler_fst (draw : String) (q : Query) (e : Exchange) :
    (handler draw (.query q) e).1 = Prod.fst <$> e.perform draw q := by
  cases hperform : e.perform draw q with
  | ok reply =>
    rw [handler_of_perform_eq_ok hperform]
    rfl
  | error status =>
    rw [handler_of_perform_eq_error hperform]
    rfl

end Replies

section Looks

variable {α : Type} {answer : α} {e' : Exchange}

/-- What a look at a block answers is what is seen there. -/
theorem outcome_readBlock_eq_ok_iff {f : Block → Except Status α} :
    (readBlock name f).outcome e = .ok (answer, e') ↔
      ∃ b, e.block name = .ok b ∧ f b = .ok answer ∧ e' = e := by
  simp only [outcome_readBlock, bind_eq_ok_iff]
  constructor
  · rintro ⟨b, hb, _, hf, h⟩
    cases h
    exact ⟨b, hb, hf, rfl⟩
  · rintro ⟨b, hb, hf, rfl⟩
    exact ⟨b, hb, answer, hf, rfl⟩

theorem outcome_readBlock_of_error {f : Block → Except Status α} {status : Status}
    (hb : e.block name = .error status) : (readBlock name f).outcome e = .error status := by
  rw [outcome_readBlock, hb]
  rfl

theorem outcome_readStream_eq_ok_iff {a : Address} {f : Stream → α} :
    (readStream a f).outcome e = .ok (answer, e') ↔
      ∃ b s, e.block a.block = .ok b ∧ b.stream (pair a) = .ok s ∧ answer = f s ∧ e' = e := by
  simp only [outcome_readStream, bind_eq_ok_iff]
  constructor
  · rintro ⟨b, hb, s, hs, h⟩
    cases h
    exact ⟨b, s, hb, hs, rfl, rfl⟩
  · rintro ⟨b, s, hb, hs, rfl, rfl⟩
    exact ⟨b, hb, s, hs, rfl⟩

end Looks

section Changes

variable {draw : String} {e' : Exchange}

theorem of_perform_createBlock {size : Nat} {stamped : Bool} {timeout : Nat}
    (h : e.perform draw (.createBlock size stamped timeout) = .ok (name, e')) :
    checkSize size = .ok () ∧ e.connected = true ∧ e.blocks.size < e.limit ∧
      e.blocks.contains draw = false ∧ name = draw ∧
      e' = e.setBlock draw (.new size stamped timeout) := by
  rw [perform_createBlock_eq] at h
  obtain ⟨_, hsize, h⟩ := bind_eq_ok_iff.mp h
  obtain ⟨_, hconn, h⟩ := bind_eq_ok_iff.mp h
  rw [connection] at hconn
  split at h
  · contradiction
  next hlimit =>
    split at h
    · contradiction
    next hnew =>
      cases h
      refine ⟨hsize, ?_, Nat.not_le.mp hlimit, Bool.eq_false_iff.mpr hnew, rfl, rfl⟩
      split at hconn
      · assumption
      · contradiction

theorem of_perform_closeBlock {answer : Unit}
    (h : e.perform draw (.closeBlock name) = .ok (answer, e')) :
    e' = { e with blocks := e.blocks.erase name } := by
  rw [perform_closeBlock_eq] at h
  obtain ⟨_, -, h⟩ := bind_eq_ok_iff.mp h
  cases h
  rfl

theorem of_perform_resizeBlock {size : Nat} {answer : Unit}
    (h : e.perform draw (.resizeBlock name size) = .ok (answer, e')) :
    checkSize size = .ok () ∧
      ∃ b, e.block name = .ok b ∧ e' = e.setBlock name (b.resize size) := by
  rw [perform_resizeBlock_eq] at h
  obtain ⟨_, hsize, h⟩ := bind_eq_ok_iff.mp h
  obtain ⟨b, hb, h⟩ := bind_eq_ok_iff.mp h
  cases h
  exact ⟨hsize, b, hb, rfl⟩

theorem of_perform_addMember {axis : Axis} {member : String} {answer : Unit}
    (h : e.perform draw (.addMember name axis member) = .ok (answer, e')) :
    checkMember axis member = .ok () ∧
      ∃ b, e.block name = .ok b ∧ e' = e.setBlock name (b.add axis member) := by
  rw [perform_addMember_eq] at h
  obtain ⟨_, hmember, h⟩ := bind_eq_ok_iff.mp h
  obtain ⟨b, hb, h⟩ := bind_eq_ok_iff.mp h
  cases h
  exact ⟨hmember, b, hb, rfl⟩

theorem of_perform_removeMember {axis : Axis} {member : String} {answer : Unit}
    (h : e.perform draw (.removeMember name axis member) = .ok (answer, e')) :
    ∃ b b', e.block name = .ok b ∧ b.remove axis member = .ok b' ∧ e' = e.setBlock name b' := by
  rw [perform_removeMember_eq] at h
  obtain ⟨b, hb, h⟩ := bind_eq_ok_iff.mp h
  obtain ⟨b', hremove, h⟩ := bind_eq_ok_iff.mp h
  cases h
  exact ⟨b, b', hb, hremove, rfl⟩

theorem exists_of_perform_sinceMarker {a : Address} {first room : Nat} {kind : Kind}
    {stamped : Bool} {found : MarkerRead}
    (h : e.perform draw (.sinceMarker a first room kind stamped) = .ok (found, e')) :
    ∃ b b', e.block a.block = .ok b ∧
      b.fetch (pair a) first room kind stamped = .ok (found, b') ∧
      e' = e.setBlock a.block b' := by
  rw [perform_sinceMarker_eq] at h
  obtain ⟨b, hb, h⟩ := bind_eq_ok_iff.mp h
  obtain ⟨⟨_, b'⟩, hfetch, h⟩ := bind_eq_ok_iff.mp h
  cases h
  exact ⟨b, b', hb, hfetch, rfl⟩

end Changes

/-- The changes that a request can make to an exchange, where `draw` is the name that it would
draw. Any request may also leave the exchange as it is. -/
inductive Move (draw : String) (e : Exchange) : Request → Exchange → Prop
  | still (r : Request) : Move draw e r e
  | setLimit (limit : Nat) :
      Move draw e (.setLimit limit) { e with limit := max limit e.blocks.size }
  | createBlock {size : Nat} {stamped : Bool} {timeout : Nat} (hsize : checkSize size = .ok ())
      (hlimit : e.blocks.size < e.limit) (hnew : e.blocks.contains draw = false) :
      Move draw e (.query (.createBlock size stamped timeout))
        (e.setBlock draw (.new size stamped timeout))
  | closeBlock (name : String) :
      Move draw e (.query (.closeBlock name)) { e with blocks := e.blocks.erase name }
  | resizeBlock {name : String} {size : Nat} {b : Block} (hsize : checkSize size = .ok ())
      (hb : e.block name = .ok b) :
      Move draw e (.query (.resizeBlock name size)) (e.setBlock name (b.resize size))
  | addMember {name member : String} {axis : Axis} {b : Block}
      (hmember : checkMember axis member = .ok ()) (hb : e.block name = .ok b) :
      Move draw e (.query (.addMember name axis member)) (e.setBlock name (b.add axis member))
  | removeMember {name member : String} {axis : Axis} {b b' : Block} (hb : e.block name = .ok b)
      (hremove : b.remove axis member = .ok b') :
      Move draw e (.query (.removeMember name axis member)) (e.setBlock name b')
  | sinceMarker {a : Address} {first room : Nat} {kind : Kind} {stamped : Bool} {b b' : Block}
      {found : MarkerRead} (hb : e.block a.block = .ok b)
      (hfetch : b.fetch (pair a) first room kind stamped = .ok (found, b')) :
      Move draw e (.query (.sinceMarker a first room kind stamped)) (e.setBlock a.block b')

theorem looksAt_serve (draw : String) {q : Query} (hq : q.isRead = true) (e : Exchange) :
    (serve draw q).LooksAt e := by
  cases q with
  | createBlock | closeBlock | resizeBlock | addMember | removeMember | sinceMarker =>
    contradiction
  | topicKind topic => exact .lift _
  | blockNames => exact .get_bind <| .lift_bind fun _ _ => .pure _
  | _ => exact looksAt_readBlock ..

/-- A reading request leaves the exchange as it is. -/
theorem handler_of_isRead (draw : String) {r : Request} (hr : r.isRead = true) (e : Exchange) :
    (handler draw r e).2 = e := by
  cases r with
  | connected | limit | count => rfl
  | setLimit limit => contradiction
  | query q => exact looksAt_serve draw hr e

theorem eq_of_perform_of_isRead {draw : String} {q : Query} {answer : q.Answer} {e' : Exchange}
    (hq : q.isRead = true) (h : e.perform draw q = .ok (answer, e')) : e' = e := by
  have hread := handler_of_isRead draw (r := .query q) hq e
  rwa [handler_of_perform_eq_ok h] at hread

theorem move_of_perform {draw : String} {q : Query} {answer : q.Answer} {e' : Exchange}
    (h : e.perform draw q = .ok (answer, e')) : Move draw e (.query q) e' := by
  by_cases hq : q.isRead = true
  · rw [eq_of_perform_of_isRead hq h]
    exact .still _
  cases q with
  | createBlock size stamped timeout =>
    obtain ⟨hsize, -, hlimit, hnew, -, rfl⟩ := of_perform_createBlock h
    exact .createBlock hsize hlimit hnew
  | closeBlock name =>
    rw [of_perform_closeBlock h]
    exact .closeBlock name
  | resizeBlock name size =>
    obtain ⟨hsize, b, hb, rfl⟩ := of_perform_resizeBlock h
    exact .resizeBlock hsize hb
  | addMember name axis member =>
    obtain ⟨hmember, b, hb, rfl⟩ := of_perform_addMember h
    exact .addMember hmember hb
  | removeMember name axis member =>
    obtain ⟨b, b', hb, hremove, rfl⟩ := of_perform_removeMember h
    exact .removeMember hb hremove
  | sinceMarker a first room kind stamped =>
    obtain ⟨b, b', hb, hfetch, rfl⟩ := exists_of_perform_sinceMarker h
    exact .sinceMarker hb hfetch
  | _ => exact absurd rfl hq

/-- A request makes one of the changes. -/
theorem move_handler (draw : String) (r : Request) (e : Exchange) :
    Move draw e r (handler draw r e).2 := by
  cases r with
  | connected | limit | count => exact .still _
  | setLimit limit => exact .setLimit limit
  | query q =>
    cases hperform : e.perform draw q with
    | ok reply =>
      rw [handler_of_perform_eq_ok hperform]
      exact move_of_perform hperform
    | error status =>
      rw [handler_of_perform_eq_error hperform]
      exact .still _

theorem block_publish (h : e.block name = .ok b) (p : Pair) (r : Record) :
    (e.publish p r).2.block name = .ok (b.write p r) := by
  obtain ⟨hconn, hget⟩ := block_eq_ok_iff.mp h
  exact block_eq_ok_iff.mpr ⟨hconn, by simp [publish, hget]⟩

/-- A marker read of an exchange is one of the stream that it names. -/
theorem of_perform_sinceMarker {draw : String} {a : Address} {s : Stream}
    (hb : e.block a.block = .ok b) (hs : b.stream (pair a) = .ok s) {first room : Nat}
    {kind : Kind} {stamped : Bool} {found : MarkerRead} {e' : Exchange}
    (h : e.perform draw (.sinceMarker a first room kind stamped) = .ok (found, e')) :
    ∃ s', s.fetch first room kind (stamped && b.stamped) = .ok (found, s') ∧
      e' = e.setBlock a.block { b with streams := b.streams.insert (pair a) s' } := by
  obtain ⟨c, b', hc, hfetch, rfl⟩ := exists_of_perform_sinceMarker h
  obtain rfl : b = c := Except.ok.inj (hb.symm.trans hc)
  obtain ⟨-, t, s', ht, hfetch, rfl⟩ := Block.fetch_eq_ok_iff.mp hfetch
  obtain rfl : s = t := Except.ok.inj (hs.symm.trans ht)
  exact ⟨s', hfetch, rfl⟩

/-- The exchange has the stream of a pair in a block, and both have a property. -/
def HasStream (name : String) (p : Pair) (Q : Block → Stream → Prop) (e : Exchange) : Prop :=
  ∃ b s, e.block name = .ok b ∧ b.stream p = .ok s ∧ Q b s

section HasStream

variable {p : Pair} {Q Q' : Block → Stream → Prop}

theorem HasStream.imp (h : e.HasStream name p Q) (hQ : ∀ b s, Q b s → Q' b s) :
    e.HasStream name p Q' := by
  obtain ⟨b, s, hb, hs, hbs⟩ := h
  exact ⟨b, s, hb, hs, hQ b s hbs⟩

/-- The stream of a pair may be replaced. -/
theorem HasStream.replace {b : Block} {s s' : Stream} (hb : e.block name = .ok b)
    (hs : b.stream p = .ok s) (hQ : Q { b with streams := b.streams.insert p s' } s') :
    (e.setBlock name { b with streams := b.streams.insert p s' }).HasStream name p Q := by
  have hconn := (block_eq_ok_iff.mp hb).1
  exact ⟨_, s', block_setBlock_self hconn, Block.stream_replace hs s', hQ⟩

theorem HasStream.publish (h : e.HasStream name p Q) (r : Record)
    (hQ : ∀ b s, Q b s → Q' (b.write p r) (s.push b.size r)) :
    (e.publish p r).2.HasStream name p Q' := by
  obtain ⟨b, s, hb, hs, hbs⟩ := h
  exact ⟨_, _, block_publish hb p r, Block.stream_write hs r, hQ b s hbs⟩

theorem HasStream.read (h : e.HasStream name p Q) (draw : String) {r : Request}
    (hr : r.isRead = true) : (handler draw r e).2.HasStream name p Q := by
  rwa [handler_of_isRead draw hr]

theorem HasStream.resizeBlock (h : e.HasStream name p Q) (draw : String) (size : Nat)
    (hQ : ∀ b s, Q b s → Q (b.resize size) (s.truncate size)) :
    (handler draw (.query (.resizeBlock name size)) e).2.HasStream name p Q := by
  cases hperform : e.perform draw (.resizeBlock name size) with
  | error status =>
    rw [handler_of_perform_eq_error hperform]
    exact h
  | ok reply =>
    rw [handler_of_perform_eq_ok hperform]
    obtain ⟨-, c, hc, hafter⟩ := of_perform_resizeBlock hperform
    obtain ⟨b, s, hb, hs, hbs⟩ := h
    obtain rfl : b = c := Except.ok.inj (hb.symm.trans hc)
    have hconn := (block_eq_ok_iff.mp hb).1
    rw [hafter]
    exact ⟨_, _, block_setBlock_self hconn, Block.stream_resize hs size, hQ b s hbs⟩

end HasStream

/-- A program that only reads leaves the exchange as it is. -/
theorem run_of_reads {α : Type} {Q : α → Prop} {p : Program wire α} (draw : String)
    (hp : p.Yields (fun _ _ => True) (fun r : Request => r.isRead = true) Q) (e : Exchange) :
    Q (p.run (handler draw) e).1 ∧ (p.run (handler draw) e).2 = e := by
  refine hp.run (J := fun x => x = e) (fun r x hr hx => ⟨trivial, ?_⟩) rfl
  rw [handler_of_isRead draw hr, hx]

end Exchange

/-! ### Sequences of events -/

/-- What may happen to an exchange. -/
inductive Event where
  /-- The connection is lost or regained. -/
  | connect (connected : Bool)
  /-- A record of an item's topic arrives from the market. -/
  | publish (p : Pair) (r : Record)
  /-- A client makes a request; a new block would get the name `draw`. -/
  | request (draw : String) (r : Request)

namespace Exchange

/-- The exchange after an event. -/
def step (e : Exchange) : Event → Exchange
  | .connect connected => e.setConnected connected
  | .publish p r => (e.publish p r).2
  | .request draw r => (handler draw r e).2

/-- The exchange after a sequence of events. -/
def after (e : Exchange) (events : List Event) : Exchange := events.foldl step e

/-- A connected exchange with one block of two slots, and in it one stream to which nothing was
written. -/
def oneStream : Exchange :=
  start.after [.request "B" (.query (.createBlock 2 true 1000)),
    .request "" (.query (.addMember "B" .item "X")),
    .request "" (.query (.addMember "B" .topic "VOLUME"))]

/-- The states of an exchange that began without blocks. -/
def Reachable (e : Exchange) : Prop := ∃ events, start.after events = e

theorem Reachable.after {e : Exchange} (h : e.Reachable) (events : List Event) :
    (e.after events).Reachable := by
  obtain ⟨before, rfl⟩ := h
  exact ⟨before ++ events, List.foldl_append⟩

end Exchange

end Engine

/-! ### Calls of an accessor -/

namespace Accessor

open Engine Exchange

/-- A call keeps the name of its accessor, and of the exchange what every request that it may make
keeps. -/
theorem Call.run_keeps (c : Call) (draw : String) (a : Accessor) {J : Exchange → Prop}
    (hJ : ∀ r x, c.MayAsk a.name r → J x → J (handler draw r x).2) {e : Exchange} (he : J e) :
    ((c.operation.start a).run (handler draw) e).1.2.name = a.name ∧
      J ((c.operation.start a).run (handler draw) e).2 := by
  have htold : Told (fun _ _ => True) (c.MayAsk a.name) (fun x => x.name = a.name) a.name :=
    ⟨fun _ hq => .inl hq, fun _ hx => hx, fun _ _ _ hx _ => hx, fun _ _ hx _ => hx⟩
  have hkeeps := c.keeps_operation htold (fun _ _ _ hx => hx) a rfl
  exact hkeeps.run (fun r x hr hx => ⟨trivial, hJ r x hr hx⟩) he

theorem Call.isRead_of_mayAsk {c : Call} (hc : c.isRead = true) {block : String} {r : Request}
    (hr : c.MayAsk block r) : r.isRead = true := by
  rcases hr with hr | hr
  · exact hr
  · cases c
    all_goals contradiction

end Accessor

end TickerTape
