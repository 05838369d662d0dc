import TickerTape.Proofs.Lifetime

/-!
# An accessor whose block is held

An exchange *holds* the block of an accessor while no one else closes it or changes its names.
Others may do anything else: publish, resize the block, read its markers, use other blocks, and cut
the connection. Without the connection no call changes the block or what the accessor remembers. So
an open accessor knows the names of its block in every state that can be reached, and some capacity
that a block may have.

## Main definitions

* `TickerTape.Engine.Event.Leaves` — what others may do.
* `TickerTape.Accessor.Client.Held` — the states that can be reached.
* `TickerTape.Accessor.Informed` — what an open accessor knows.

## Main results

* `TickerTape.Accessor.Call.run_of_disconnected` — a call without a connection.
* `TickerTape.Accessor.Client.Held.informed` — what is known in every state.
-/

namespace TickerTape

open Engine Exchange Inquiry

/-! ### Exchanges without a connection -/

namespace Engine

/-- An event that neither closes a block nor changes its names. The connection may be lost. -/
def Event.Leaves (block : String) : Event → Prop
  | .request _ r => r.Spares block
  | _ => True

namespace Exchange

variable {e : Exchange} {draw : String}

theorem block_of_disconnected (he : e.connected = false) (name : String) :
    e.block name = .error .notConnected := by
  simp [block, connection, he]
  rfl

/-- Without a connection a request that would change something is refused. -/
theorem perform_of_disconnected (he : e.connected = false) {q : Query} (hq : q.isRead = false) :
    ∃ status, e.perform draw q = .error status := by
  have hblock := block_of_disconnected he
  cases q with
  | createBlock size stamped timeout =>
    cases hsize : checkSize size with
    | error status => exact ⟨status, by rw [perform_createBlock_eq, hsize]; rfl⟩
    | ok => exact ⟨.notConnected, by rw [perform_createBlock_eq, hsize, connection, he]; rfl⟩
  | resizeBlock name size =>
    cases hsize : checkSize size with
    | error status => exact ⟨status, by rw [perform_resizeBlock_eq, hsize]; rfl⟩
    | ok => exact ⟨.notConnected, by rw [perform_resizeBlock_eq, hsize, hblock]; rfl⟩
  | addMember name axis member =>
    cases hmember : checkMember axis member with
    | error status => exact ⟨status, by rw [perform_addMember_eq, hmember]; rfl⟩
    | ok => exact ⟨.notConnected, by rw [perform_addMember_eq, hmember, hblock]; rfl⟩
  | closeBlock => exact ⟨.notConnected, by rw [perform_closeBlock_eq, hblock]; rfl⟩
  | removeMember => exact ⟨.notConnected, by rw [perform_removeMember_eq, hblock]; rfl⟩
  | sinceMarker => exact ⟨.notConnected, by rw [perform_sinceMarker_eq, hblock]; rfl⟩
  | _ => contradiction

/-- Without a connection only the limit can be changed. -/
theorem handler_of_disconnected (he : e.connected = false) {r : Request}
    (hr : ∀ limit, r ≠ .setLimit limit) : (handler draw r e).2 = e := by
  cases r with
  | setLimit limit => exact absurd rfl (hr limit)
  | query q =>
    cases hq : q.isRead with
    | true => exact handler_of_isRead draw (r := .query q) hq e
    | false =>
      obtain ⟨status, hperform⟩ : ∃ status, e.perform draw q = .error status :=
        perform_of_disconnected he hq
      rw [handler_of_perform_eq_error hperform]
  | _ => rfl

theorem blocks_of_disconnected (he : e.connected = false) (draw : String) (r : Request) :
    (handler draw r e).2.blocks = e.blocks := by
  cases r with
  | setLimit limit => rfl
  | connected | limit | count => rfl
  | query q =>
    rw [handler_of_disconnected he]
    intro limit
    exact Request.noConfusion

/-- A block keeps its names under an event that leaves them, with or without a connection. -/
theorem names_of_leaves {name : String} {b : Block} (hb : e.blocks.get? name = some b)
    {event : Event} (h : event.Leaves name) :
    ∃ b', (e.step event).blocks.get? name = some b' ∧ ∀ axis, b'.names axis = b.names axis := by
  cases event with
  | connect connected => exact ⟨b, hb, fun _ => rfl⟩
  | publish p r =>
    refine ⟨b.write p r, ?_, fun axis => Block.names_write b p r axis⟩
    simp [Exchange.step, publish, hb]
  | request draw r =>
    cases hconn : e.connected with
    | true =>
      obtain ⟨b', hb', hnames⟩ :=
        names_move (move_handler draw r e) h (block_eq_ok_iff.mpr ⟨hconn, hb⟩)
      exact ⟨b', (block_eq_ok_iff.mp hb').2, hnames⟩
    | false => exact ⟨b, (congrArg (·.get? name) (blocks_of_disconnected hconn draw r)).trans hb,
        fun _ => rfl⟩

end Exchange

end Engine

namespace Accessor

/-! ### Calls -/

section Calls

variable {draw : String} {e : Exchange} {a : Accessor}

theorem Call.ne_setLimit_of_mayAsk {c : Call} {block : String} {r : Request}
    (hr : c.MayAsk block r) (limit : Nat) : r ≠ .setLimit limit := by
  rintro rfl
  rcases hr with hr | hr
  · contradiction
  · cases c with
    | sinceMarker =>
      obtain ⟨_, _, _, h⟩ := hr
      contradiction
    | _ => contradiction

/-- The replies of an engine that tells nothing of names and capacities. -/
def Mute : (r : Request) → r.Reply → Prop
  | .query (.members _ _), (reply : Except Status NameSet) => ∀ names, reply ≠ .ok names
  | .query (.blockSize _), (reply : Except Status Nat) => ∀ size, reply ≠ .ok size
  | _, _ => True

theorem mute_of_disconnected (he : e.connected = false) (draw : String) (r : Request) :
    Mute r (handler draw r e).1 := by
  have hblock := block_of_disconnected he
  cases r with
  | query q =>
    cases q with
    | members name axis =>
      rw [handler_of_perform_eq_error (perform_members_of_error (hblock name) axis)]
      intro names h
      contradiction
    | blockSize name =>
      have hperform : e.perform draw (.blockSize name) = .error .notConnected :=
        outcome_readBlock_of_error (hblock name)
      rw [handler_of_perform_eq_error hperform]
      intro size h
      contradiction
    | _ => trivial
  | _ => trivial

/-- Without a connection a call leaves the accessor and the exchange as they are. -/
theorem Call.run_of_disconnected (he : e.connected = false) (draw : String) (a : Accessor)
    (c : Call) :
    ((c.operation.start a).run (handler draw) e).1.2 = a ∧
      ((c.operation.start a).run (handler draw) e).2 = e := by
  have hstill (r : Request) (x : Exchange) (hr : c.MayAsk a.name r) (hx : x = e) :
      Mute r (handler draw r x).1 ∧ (handler draw r x).2 = e := by
    subst hx
    exact ⟨mute_of_disconnected he draw r, handler_of_disconnected he (ne_setLimit_of_mayAsk hr)⟩
  by_cases hc : c = .close
  · subst hc
    cases hclosed : a.closed with
    | true =>
      rw [start_of_closed hclosed]
      exact ⟨rfl, rfl⟩
    | false =>
      have hperform : e.perform draw (.closeBlock a.name) = .error .notConnected := by
        rw [perform_closeBlock_eq, block_of_disconnected he]
        rfl
      rw [operation, start_close_of_open hclosed, Program.run_ask,
        handler_of_perform_eq_error hperform]
      exact ⟨rfl, rfl⟩
  · have htold : Told Mute (c.MayAsk a.name) (· = a) a.name := by
      refine ⟨fun _ hq => .inl hq, fun _ hx => congrArg name hx, ?_, ?_⟩
      · exact fun _ _ names _ hmute => absurd rfl (hmute names)
      · exact fun _ size _ hmute => absurd rfl (hmute size)
    have hkeeps := c.keeps_operation htold (fun h => absurd h hc) a rfl
    exact hkeeps.run (J := fun x => x = e) hstill rfl

/-- The replies of an engine whose blocks have capacities that they may have. -/
def TellsSizes : (r : Request) → r.Reply → Prop
  | .query (.blockSize _), (reply : Except Status Nat) =>
    ∀ size, reply = .ok size → 1 ≤ size ∧ size ≤ maxBlockSize
  | _, _ => True

theorem tellsSizes_of_sound (he : e.Sound) (draw : String) (r : Request) :
    TellsSizes r (handler draw r e).1 := by
  cases r with
  | query q =>
    cases q with
    | blockSize name =>
      intro size hsize
      have hperform := handler_eq_ok_iff.mp
        (Prod.ext hsize rfl : handler draw (.query (.blockSize name)) e = (.ok size, _))
      obtain ⟨b, hb, htold, -⟩ := outcome_readBlock_eq_ok_iff.mp hperform
      obtain rfl : b.size = size := Except.ok.inj htold
      have hsound := he.of_block_eq_ok hb
      exact ⟨hsound.one_le_size, hsound.size_le⟩
    | _ => trivial
  | _ => trivial

/-- An accessor of a well-formed exchange remembers a capacity that a block may have. -/
theorem Call.size_mem (he : e.Sound) (draw : String) (c : Call)
    (ha : 1 ≤ a.size ∧ a.size ≤ maxBlockSize) :
    1 ≤ ((c.operation.start a).run (handler draw) e).1.2.size ∧
      ((c.operation.start a).run (handler draw) e).1.2.size ≤ maxBlockSize := by
  have htold : Told TellsSizes (c.MayAsk a.name)
      (fun x => x.name = a.name ∧ 1 ≤ x.size ∧ x.size ≤ maxBlockSize) a.name :=
    ⟨fun _ hq => .inl hq, fun _ hx => hx.1, fun _ _ _ hx _ => hx,
      fun _ size hx hsize => ⟨hx.1, hsize size rfl⟩⟩
  have hkeeps := c.keeps_operation htold (fun _ _ _ hx => hx) a ⟨rfl, ha⟩
  exact (hkeeps.run (J := Exchange.Sound) (fun r x _ hx =>
    ⟨tellsSizes_of_sound hx draw r, hx.move (move_handler draw r x)⟩) he).1.2

end Calls

/-! ### States that can be reached -/

/-- An open accessor that knows the names of its block, and some capacity that a block may have. -/
structure Informed (a : Accessor) (b : Block) (e : Exchange) : Prop where
  isOpen : a.closed = false
  block_eq : e.block a.name = .ok b
  members_eq : ∀ axis, a.members.names axis = b.live axis
  sound : b.Sound
  one_le_size : 1 ≤ a.size
  size_le : a.size ≤ maxBlockSize

namespace Client

/-- The states of an accessor and its exchange since the accessor has created `block`: it is called,
and others do what neither closes the block nor changes its names. -/
inductive Held (block : String) : Client → Prop
  | create {draw : String} {s : Settings} {e e' : Exchange} {a : Accessor} (he : e.Reachable)
      (hcreate : (Accessor.create s).run (handler draw) e = (.ok a, e'))
      (hname : a.name = block) : Held block ⟨a, e'⟩
  | call {w : Client} (h : Held block w) (draw : String) (c : Call) :
      Held block (w.step (.call draw c : Turn block))
  | event {w : Client} (h : Held block w) {event : Event} (hevent : event.Leaves block) :
      Held block ⟨w.accessor, w.exchange.step event⟩

/-- What holds of these states, with or without a connection: while it is open the accessor knows
the names of its block. -/
structure Aware (block : String) (w : Client) : Prop where
  name_eq : w.accessor.name = block
  sound : w.exchange.Sound
  size_mem : 1 ≤ w.accessor.size ∧ w.accessor.size ≤ maxBlockSize
  names : w.accessor.closed = false → ∃ b, w.exchange.blocks.get? block = some b ∧
    ∀ axis, w.accessor.members.names axis = b.live axis

namespace Aware

variable {block : String} {w : Client}

theorem create {draw : String} {s : Settings} {e e' : Exchange} {a : Accessor} (he : e.Sound)
    (hcreate : (Accessor.create s).run (handler draw) e = (.ok a, e')) : Aware a.name ⟨a, e'⟩ := by
  have hfaithful := faithful_create hcreate
  obtain ⟨rfl, hconn, rfl, hmove⟩ := of_create_eq_ok hcreate
  have hsound := he.move hmove
  have hblock := hsound.of_block_eq_ok (block_setBlock_self hconn)
  refine ⟨rfl, hsound, ⟨hblock.one_le_size, hblock.size_le⟩, fun hopen => ?_⟩
  obtain ⟨b, hb, hnames⟩ := hfaithful.coherent hopen
  exact ⟨b, (block_eq_ok_iff.mp hb).2, hnames⟩

theorem faithful (h : w.Aware block) (hconn : w.exchange.connected = true) :
    w.Faithful block := by
  refine ⟨h.name_eq, hconn, fun hopen => ?_⟩
  obtain ⟨b, hb, hnames⟩ := h.names hopen
  exact ⟨b, block_eq_ok_iff.mpr ⟨hconn, h.name_eq ▸ hb⟩, hnames⟩

theorem call (h : w.Aware block) (draw : String) (c : Call) :
    (w.step (.call draw c : Turn block)).Aware block := by
  cases hconn : w.exchange.connected with
  | true =>
    have hfaithful := (h.faithful hconn).call draw c
    refine ⟨hfaithful.name_eq, h.sound.call c draw _, Call.size_mem h.sound draw c h.size_mem,
      fun hopen => ?_⟩
    obtain ⟨b, hb, hnames⟩ := hfaithful.coherent hopen
    rw [hfaithful.name_eq] at hb
    exact ⟨b, (block_eq_ok_iff.mp hb).2, hnames⟩
  | false =>
    obtain ⟨haccessor, hexchange⟩ := Call.run_of_disconnected hconn draw w.accessor c
    change Aware block ⟨((c.operation.start w.accessor).run (handler draw) w.exchange).1.2,
      ((c.operation.start w.accessor).run (handler draw) w.exchange).2⟩
    rwa [haccessor, hexchange]

theorem event (h : w.Aware block) {event : Event} (hevent : event.Leaves block) :
    Aware block ⟨w.accessor, w.exchange.step event⟩ := by
  refine ⟨h.name_eq, h.sound.step event, h.size_mem, fun hopen => ?_⟩
  obtain ⟨b, hb, hnames⟩ := h.names hopen
  obtain ⟨b', hb', hsame⟩ := names_of_leaves hb hevent
  exact ⟨b', hb', fun axis => (hnames axis).trans (Block.live_congr hsame axis).symm⟩

end Aware

theorem Held.aware {block : String} {w : Client} (h : w.Held block) : w.Aware block := by
  induction h with
  | create he hcreate hname => exact hname ▸ Aware.create he.sound hcreate
  | call _ draw c ih => exact ih.call draw c
  | event _ hevent ih => exact ih.event hevent

/-- What an open accessor knows in every state with a connection. -/
theorem Held.informed {block : String} {w : Client} (h : w.Held block)
    (hopen : w.accessor.closed = false) {b : Block} (hb : w.exchange.block block = .ok b) :
    Informed w.accessor b w.exchange := by
  have haware := h.aware
  obtain ⟨hconn, hget⟩ := block_eq_ok_iff.mp hb
  obtain ⟨c, hc, hnames⟩ := haware.names hopen
  obtain rfl : b = c := Option.some.inj (hget.symm.trans hc)
  rw [← haware.name_eq] at hb
  exact ⟨hopen, hb, hnames, haware.sound.of_block_eq_ok hb, haware.size_mem.1, haware.size_mem.2⟩

end Client

end Accessor

end TickerTape
