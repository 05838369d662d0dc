import TickerTape.Engine.Exchange

/-!
# What a refused request leaves

The exchange changes in place, and a request that is refused on the way keeps what it has changed by
then. Here every action of the exchange is followed to each of its refusals: either nothing was
changed before it, or the change made no difference. A marker read moves the marker only when all
values are given. A name or a block that is not there is taken out before it is missed, which leaves
what was there.

## Main definitions

* `TickerTape.Engine.Action.LooksAt` — an action that leaves the state, refused or not.
* `TickerTape.Engine.Action.AtomicAt` — an action that leaves the state when it is refused.

## Main results

* `TickerTape.Engine.Action.AtomicAt.focus` — an action on a part of a state.
* `TickerTape.Engine.Block.stream_eq_ok_iff`, `TickerTape.Engine.Exchange.block_eq_ok_iff` — the
  streams that a block gives, and the blocks that an exchange gives.
* `TickerTape.Engine.Stream.atomicAt_sinceMarker`, `TickerTape.Engine.Block.atomicAt_removeMember`,
  `TickerTape.Engine.Exchange.atomicAt_closeBlock` — the actions that change and may be refused.
* `TickerTape.Engine.Exchange.atomicAt_serve` — all requests.
-/

namespace TickerTape.Engine

/-! ### Atomic actions -/

namespace Action

variable {σ τ α β : Type} {m : Action σ α} {s : σ}

/-- The action leaves the state `s` as it is, refused or not. -/
def LooksAt (m : Action σ α) (s : σ) : Prop := (m.start s).2 = s

/-- The action leaves the state `s` as it is if it is refused there. -/
def AtomicAt (m : Action σ α) (s : σ) : Prop :=
  ∀ status s', m.start s = (.error status, s') → s' = s

namespace LooksAt

theorem pure (a : α) : LooksAt (Pure.pure a) s := rfl

theorem lift (x : Except Status α) : (lift x).LooksAt s := by rw [LooksAt, start_lift]

/-- What follows a look at the state may rely on the state. -/
theorem get_bind {f : σ → Action σ β} (hf : (f s).LooksAt s) : (get >>= f).LooksAt s := hf

theorem lift_bind {x : Except Status α} {f : α → Action σ β}
    (hf : ∀ a, x = .ok a → (f a).LooksAt s) : (Action.lift x >>= f).LooksAt s := by
  cases x with
  | error status => rfl
  | ok a => exact hf a rfl

end LooksAt

namespace AtomicAt

theorem of_looksAt (h : m.LooksAt s) : m.AtomicAt s := by
  intro status s' hm
  rw [LooksAt, hm] at h
  exact h

/-- An action that answers is not refused. -/
theorem of_start_eq_ok {a : α} {s' : σ} (h : m.start s = (.ok a, s')) : m.AtomicAt s := by
  intro status s'' hm
  rw [h] at hm
  cases hm

theorem get_bind {f : σ → Action σ β} (hf : (f s).AtomicAt s) : (get >>= f).AtomicAt s := hf

/-- A check changes nothing. -/
theorem lift_bind {x : Except Status α} {f : α → Action σ β}
    (hf : ∀ a, x = .ok a → (f a).AtomicAt s) : (Action.lift x >>= f).AtomicAt s := by
  cases x with
  | error status => exact .of_looksAt rfl
  | ok a => exact hf a rfl

/-- On a larger state an action is atomic if writing back the part that was found changes
nothing. -/
theorem focus {find : τ → Except Status σ} {put : σ → τ → τ} {t : τ}
    (hput : ∀ s, find t = .ok s → put s t = t) (hm : ∀ s, find t = .ok s → m.AtomicAt s) :
    (focus find put m).AtomicAt t := by
  intro status t' h
  rw [start_focus] at h
  cases hs : find t with
  | error status' =>
    rw [hs] at h
    cases h
    rfl
  | ok s =>
    rw [hs] at h
    obtain ⟨hanswer, rfl⟩ := Prod.mk.inj h
    have hpart : (m.start s).2 = s := hm s hs status _ (Prod.ext hanswer rfl)
    exact (congrArg (put · t) hpart).trans (hput s hs)

end AtomicAt

end Action

/-! ### Streams and blocks -/

/-- A marker read is refused only while it gives values, which is before the marker moves. -/
theorem Stream.atomicAt_sinceMarker (first room : Nat) (kind : Kind) (stamped : Bool)
    (s : Stream) : (sinceMarker first room kind stamped).AtomicAt s :=
  .get_bind <| .lift_bind fun _ _ => .of_start_eq_ok rfl

namespace Block

variable {b : Block} {p : Pair} {s : Stream}

/-- A block gives a stream that it has, if it has both names of the pair. -/
theorem stream_eq_ok_iff : b.stream p = .ok s ↔
    b.items.contains p.item = true ∧ b.topics.contains p.topic = true ∧
      b.streams.get? p = some s := by
  rw [stream]
  constructor
  · intro h
    split at h
    · contradiction
    next hlive =>
      split at h
      · contradiction
      next htopic =>
        split at h
        next hget => simp_all
        next => contradiction
  · rintro ⟨hitem, htopic, hget⟩
    have hlive : b.isLive = true := by
      simp [isLive, Table.isEmpty_of_contains hitem, Table.isEmpty_of_contains htopic]
    simp [hlive, hitem, htopic, hget]

/-- A stream may be put back where it was found. -/
theorem insert_stream_eq_self (h : b.stream p = .ok s) :
    { b with streams := b.streams.insert p s } = b := by
  rw [Table.insert_of_get? (stream_eq_ok_iff.mp h).2.2]

theorem atomicAt_sinceMarker (p : Pair) (first room : Nat) (kind : Kind) (stamped : Bool)
    (b : Block) : (sinceMarker p first room kind stamped).AtomicAt b := by
  refine .get_bind ?_
  split
  · exact .of_looksAt rfl
  · exact .focus (fun _ => insert_stream_eq_self) fun s _ =>
      Stream.atomicAt_sinceMarker first room kind _ s

theorem setNames_names (b : Block) (axis : Axis) : b.setNames axis (b.names axis) = b := by
  cases axis <;> rfl

/-- The block misses a name only after it was taken out, but then there was none to take out. -/
theorem atomicAt_removeMember (axis : Axis) (name : String) (b : Block) :
    (removeMember axis name).AtomicAt b := by
  refine .get_bind ?_
  cases hname : (b.names axis).contains name with
  | true => exact .of_start_eq_ok rfl
  | false =>
    have hnames : (b.names axis).remove name = b.names axis :=
      Table.erase_of_contains_eq_false hname
    rw [hnames, setNames_names]
    exact .of_looksAt rfl

end Block

/-! ### The exchange -/

namespace Exchange

variable {e : Exchange} {name : String} {b : Block}

/-- A connected exchange gives the blocks that it has. -/
theorem block_eq_ok_iff :
    e.block name = .ok b ↔ e.connected = true ∧ e.blocks.get? name = some b := by
  rw [block, connection]
  cases e.connected with
  | false =>
    constructor
    · intro h
      cases h
    · rintro ⟨h, -⟩
      contradiction
  | true =>
    cases e.blocks.get? name with
    | none =>
      constructor
      · intro h
        cases h
      · rintro ⟨-, h⟩
        contradiction
    | some c =>
      constructor
      · intro h
        cases h
        exact ⟨rfl, rfl⟩
      · rintro ⟨-, h⟩
        exact congrArg Except.ok (Option.some.inj h)

/-- A block may be put back where it was found. -/
theorem setBlock_eq_self (hb : e.blocks.get? name = some b) : e.setBlock name b = e := by
  rw [setBlock, Table.insert_of_get? hb]

theorem atomicAt_withBlock {α : Type} {m : Action Block α} (hm : ∀ b, m.AtomicAt b)
    (name : String) (e : Exchange) : (withBlock name m).AtomicAt e :=
  .focus (fun _ hb => setBlock_eq_self (block_eq_ok_iff.mp hb).2) fun b _ => hm b

theorem looksAt_readBlock {α : Type} (name : String) (f : Block → Except Status α)
    (e : Exchange) : (readBlock name f).LooksAt e :=
  .get_bind <| .lift_bind fun b _ => .lift (f b)

theorem atomicAt_createBlock (draw : String) (size : Nat) (stamped : Bool) (timeout : Nat)
    (e : Exchange) : (createBlock draw size stamped timeout).AtomicAt e := by
  refine .lift_bind fun _ _ => .get_bind <| .lift_bind fun _ _ => ?_
  split
  · exact .of_looksAt rfl
  split
  · exact .of_looksAt rfl
  · exact .of_start_eq_ok rfl

/-- The exchange misses a block only after it was taken out, but then there was none to take
out. -/
theorem atomicAt_closeBlock (name : String) (e : Exchange) : (closeBlock name).AtomicAt e := by
  refine .get_bind <| .lift_bind fun _ _ => ?_
  cases hname : e.blocks.contains name with
  | true => exact .of_start_eq_ok rfl
  | false =>
    rw [Table.erase_of_contains_eq_false hname]
    exact .of_looksAt rfl

/-- **A request that is refused changes nothing**, in whatever state the exchange is. -/
theorem atomicAt_serve (draw : String) (q : Query) (e : Exchange) : (serve draw q).AtomicAt e := by
  cases q with
  | createBlock size stamped timeout => exact atomicAt_createBlock draw size stamped timeout e
  | closeBlock name => exact atomicAt_closeBlock name e
  | resizeBlock name size =>
    exact .lift_bind fun _ _ => atomicAt_withBlock (fun _ => .of_start_eq_ok rfl) name e
  | addMember name axis member =>
    exact .lift_bind fun _ _ => atomicAt_withBlock (fun _ => .of_start_eq_ok rfl) name e
  | removeMember name axis member =>
    exact atomicAt_withBlock (Block.atomicAt_removeMember axis member) name e
  | sinceMarker a first room kind stamped =>
    exact atomicAt_withBlock (Block.atomicAt_sinceMarker (pair a) first room kind stamped) _ e
  | topicKind topic => exact .of_looksAt (.lift _)
  | blockNames => exact .of_looksAt <| .get_bind <| .lift_bind fun _ _ => .pure _
  | _ => exact .of_looksAt (looksAt_readBlock ..)

end Exchange

end TickerTape.Engine
