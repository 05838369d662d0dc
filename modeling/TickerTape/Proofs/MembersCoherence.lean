import TickerTape.Proofs.ExchangeSound

/-!
# Remembered names are the engine's

An accessor whose block gets and loses names only through it, and is not closed by someone else,
remembers the names that the engine tells, through every call, whether it fails or not. What it
remembers may also be out of date. Then a change of names that succeeds leaves the changed set as
the engine's, and the other one empty exactly when the engine's is; and a set that is not the
engine's is never changed.

## Main definitions

* `TickerTape.Accessor.Coherent` — the remembered names are those that the engine tells.
* `TickerTape.Engine.Event.Spares` — what others may do to a block without changing its names.
* `TickerTape.Accessor.Client` — an accessor and its engine.

## Main results

* `TickerTape.Accessor.changeMembers_outcome` — what a change of names does.
* `TickerTape.Accessor.Client.members_coherent` — whole sequences of calls, and single changes.
-/

namespace TickerTape

/-! ### Names that the engine tells -/

namespace Engine

theorem Block.isEmpty_live (b : Block) (axis : Axis) :
    (b.live axis).isEmpty = ((b.names axis).isEmpty || (b.names axis.other).isEmpty) := by
  rw [Block.live]
  cases h : (b.names axis.other).isEmpty <;> simp

theorem Block.isLive_eq (b : Block) (axis : Axis) :
    b.isLive = (!(b.names axis).isEmpty && !(b.names axis.other).isEmpty) := by
  cases axis with
  | item => rfl
  | topic => exact Bool.and_comm _ _

/-- A block streams the names that it has, if it has some of the other kind. -/
theorem Block.contains_live_iff {b : Block} {axis : Axis} {name : String} :
    (b.live axis).contains name = true ↔
      (b.names axis.other).isEmpty = false ∧ (b.names axis).contains name = true := by
  rw [Block.live]
  cases (b.names axis.other).isEmpty <;> simp

/-- When a block streams names of one kind, it streams all that it has of the other kind. -/
theorem Block.live_other_of_isEmpty_live {b : Block} {axis : Axis}
    (h : (b.live axis).isEmpty = false) : b.live axis.other = b.names axis.other := by
  rw [Block.isEmpty_live, Bool.or_eq_false_iff] at h
  rw [Block.live, Axis.other_other, h.1]
  rfl

theorem Block.live_congr {b b' : Block} (h : ∀ axis, b'.names axis = b.names axis) (axis : Axis) :
    b'.live axis = b.live axis := by
  rw [Block.live, Block.live, h, h]

namespace Exchange

variable {e e' : Exchange} {name : String} {b : Block}

theorem perform_members (draw : String) (hb : e.block name = .ok b) (axis : Axis) :
    e.perform draw (.members name axis) = .ok (b.live axis, e) :=
  outcome_readBlock_eq_ok_iff.mpr ⟨b, hb, rfl, rfl⟩

theorem perform_members_of_error {draw : String} {status : Status}
    (hb : e.block name = .error status) (axis : Axis) :
    e.perform draw (.members name axis) = .error status :=
  outcome_readBlock_of_error hb

theorem block_setBlock_of_ne {other : String} (h : name ≠ other) (c : Block) :
    (e.setBlock other c).block name = e.block name := by
  unfold block setBlock
  rw [Table.get?_insert, if_neg h]
  rfl

theorem connected_move {draw : String} {r : Request} (h : Move draw e r e') :
    e'.connected = e.connected := by
  cases h
  all_goals rfl

end Exchange

/-- A request that neither closes a block nor changes its names. -/
def Request.Spares (block : String) (r : Request) : Prop :=
  r ≠ .query (.closeBlock block) ∧ ∀ axis name,
    r ≠ .query (.addMember block axis name) ∧ r ≠ .query (.removeMember block axis name)

/-- An event that neither closes a block nor changes its names, nor cuts the connection. -/
def Event.Spares (block : String) : Event → Prop
  | .connect connected => connected = true
  | .publish .. => True
  | .request _ r => r.Spares block

namespace Exchange

variable {e e' : Exchange} {name : String} {b : Block}

/-- What holds of a block, and of the block resized or with another marker, holds after a request
that spares it. -/
theorem block_move {draw : String} {r : Request} (h : Move draw e r e') (hr : r.Spares name)
    (hb : e.block name = .ok b) {Q : Block → Prop} (hQ : Q b)
    (hresize : ∀ size, r = .query (.resizeBlock name size) → Q (b.resize size))
    (hmarker : ∀ p s s', b.stream p = .ok s → s'.records = s.records →
      Q { b with streams := b.streams.insert p s' }) :
    ∃ b', e'.block name = .ok b' ∧ Q b' := by
  have hconn := (block_eq_ok_iff.mp hb).1
  have hset {other : String} {c c' : Block} (hc : e.block other = .ok c)
      (hQ' : name = other → b = c → Q c') :
      ∃ b', (e.setBlock other c').block name = .ok b' ∧ Q b' := by
    by_cases ho : name = other
    · subst ho
      exact ⟨c', block_setBlock_self hconn, hQ' rfl (Except.ok.inj (hb.symm.trans hc))⟩
    · exact ⟨b, by rw [block_setBlock_of_ne ho, hb], hQ⟩
  cases h with
  | still => exact ⟨b, hb, hQ⟩
  | setLimit limit => exact ⟨b, hb, hQ⟩
  | createBlock hsize hlimit hnew =>
    have hne : name ≠ draw := by
      rintro rfl
      rw [Table.contains, (block_eq_ok_iff.mp hb).2] at hnew
      contradiction
    exact ⟨b, by rw [block_setBlock_of_ne hne, hb], hQ⟩
  | closeBlock other =>
    have hne : name ≠ other := by
      rintro rfl
      exact hr.1 rfl
    refine ⟨b, block_eq_ok_iff.mpr ⟨hconn, ?_⟩, hQ⟩
    rw [Table.get?_erase, if_neg hne]
    exact (block_eq_ok_iff.mp hb).2
  | resizeBlock hsize hc =>
    refine hset hc ?_
    rintro rfl rfl
    exact hresize _ rfl
  | @addMember other member axis c hmember hc =>
    refine hset hc ?_
    rintro rfl rfl
    exact absurd rfl (hr.2 axis member).1
  | @removeMember other member axis c c' hc hremove =>
    refine hset hc ?_
    rintro rfl rfl
    exact absurd rfl (hr.2 axis member).2
  | sinceMarker hc hfetch =>
    obtain ⟨-, s, s', hs, hread, rfl⟩ := Block.fetch_eq_ok_iff.mp hfetch
    refine hset hc ?_
    rintro rfl rfl
    exact hmarker _ s s' hs (Stream.of_fetch_eq_ok hread).1

/-- A request that spares a block leaves its names. -/
theorem names_move {draw : String} {r : Request} (h : Move draw e r e') (hr : r.Spares name)
    (hb : e.block name = .ok b) :
    ∃ b', e'.block name = .ok b' ∧ ∀ axis, b'.names axis = b.names axis :=
  block_move h hr hb (fun _ => rfl) (fun size _ axis => Block.names_resize b size axis)
    fun _ _ _ _ _ axis => Block.names_streams b _ axis

theorem connected_step {event : Event} (h : event.Spares name) (he : e.connected = true) :
    (e.step event).connected = true := by
  cases event with
  | connect connected => exact h
  | publish p r => exact he
  | request draw r => exact (connected_move (move_handler draw r e)).trans he

theorem names_step {event : Event} (h : event.Spares name) (hb : e.block name = .ok b) :
    ∃ b', (e.step event).block name = .ok b' ∧ ∀ axis, b'.names axis = b.names axis := by
  cases event with
  | connect connected =>
    have hget := (block_eq_ok_iff.mp hb).2
    exact ⟨b, block_eq_ok_iff.mpr ⟨h, hget⟩, fun _ => rfl⟩
  | publish p r =>
    exact ⟨b.write p r, block_publish hb p r, fun axis => Block.names_write b p r axis⟩
  | request draw r => exact names_move (move_handler draw r e) h hb

end Exchange

end Engine

open Engine Exchange Inquiry

/-! ### Inquiries on the remembered names -/

namespace Members

theorem eitherEmpty_eq (m : Members) (axis : Axis) :
    m.eitherEmpty = ((m.names axis).isEmpty || (m.names axis.other).isEmpty) := by
  cases axis with
  | item => rfl
  | topic => exact Bool.or_comm _ _

variable {draw : String} {e : Exchange} {name : String} {b : Block} {axis : Axis}

theorem handler_members (draw : String) (hb : e.block name = .ok b) (axis : Axis) :
    handler draw (.query (.members name axis)) e =
      ((.ok (b.live axis) : Except Status NameSet), e) :=
  handler_of_perform_eq_ok (perform_members draw hb axis)

theorem run_refresh (hb : e.block name = .ok b) (m : Members) :
    ((refresh name axis).start m).run (handler draw) e =
      ((.ok (), m.setNames axis (b.live axis)), e) := by
  rw [refresh, run_query_bind (handler_members draw hb axis)]
  rfl

theorem run_verify (hb : e.block name = .ok b) (m : Members) :
    ((verify name axis).start m).run (handler draw) e =
      ((if b.live axis = m.names axis then .ok ()
        else .error (.fault (divergence axis (m.names axis) (b.live axis))), m), e) := by
  rw [verify, run_query_bind (handler_members draw hb axis), start_get_bind]
  by_cases h : b.live axis = m.names axis
  · rw [if_pos h, if_pos h]
    rfl
  · rw [if_neg h, if_neg h]
    rfl

/-- A remembered name is accepted without asking. -/
theorem start_validate_of_contains {m : Members} {member : String}
    (h : (m.names axis).contains member = true) :
    (validate name axis member).start m = .done (.ok (), m) := by
  rw [validate, start_get_bind, Table.isEmpty_of_contains h, if_neg Bool.false_ne_true,
    start_get_bind, if_pos h, start_pure]

/-- After a change the changed set is the engine's, and the other one too if it was read. -/
theorem run_afterChange (hb : e.block name = .ok b) (m : Members) (wasEmpty : Bool) :
    ∃ m', ((afterChange name axis wasEmpty).start m).run (handler draw) e = ((.ok (), m'), e) ∧
      m'.names axis = b.live axis ∧
      m'.names axis.other =
        if wasEmpty || (b.live axis).isEmpty then b.live axis.other else m.names axis.other := by
  rw [afterChange, start_bind, Program.run_bind, run_refresh hb, andThen_ok, start_get_bind,
    names_setNames]
  split
  · refine ⟨_, run_refresh hb _, ?_, ?_⟩
    · have hkept := names_other_setNames (m.setNames axis (b.live axis)) axis.other
        (b.live axis.other)
      rwa [Axis.other_other, names_setNames] at hkept
    · exact names_setNames _ _ _
  · exact ⟨_, rfl, names_setNames _ _ _, names_other_setNames _ _ _⟩

/-- What a change leaves of the other kind is the engine's, also when only the changed set was read
anew. -/
theorem names_other_of_read {m m' : Members} {b' : Block}
    (hnames : ∀ axis, m.names axis = b.live axis)
    (hother : b'.names axis.other = b.names axis.other)
    (hread : m'.names axis.other =
      if m.eitherEmpty || (b'.live axis).isEmpty then b'.live axis.other
      else m.names axis.other) :
    m'.names axis.other = b'.live axis.other := by
  split at hread
  · exact hread
  next hempty =>
    -- No set was empty before or after, so no name waits and the other set is as it was.
    rw [Bool.not_eq_true, Bool.or_eq_false_iff, eitherEmpty_eq _ axis,
      Bool.or_eq_false_iff] at hempty
    obtain ⟨⟨hbefore, -⟩, hafter⟩ := hempty
    rw [hnames] at hbefore
    rw [hread, hnames, Block.live_other_of_isEmpty_live hbefore,
      Block.live_other_of_isEmpty_live hafter, hother]

end Members

/-- No status code means that a remembered set is not the engine's. -/
theorem Fault.ofStatus_ne_diverged (status : Status) (detail : String) :
    ofStatus status ≠ diverged detail := by
  rw [ofStatus]
  split
  all_goals nofun

/-! ### Changes of names -/

namespace Accessor

section Change

variable {draw : String} {e e' : Exchange} {b : Block} {a : Accessor} {axis : Axis}
  {request : String → Operation Unit} {made : Block → Prop}

theorem start_ensureOpen_bind {α : Type} (f : Unit → Operation α) (a : Accessor) :
    (ensureOpen >>= f).start a =
      if a.closed = true then .done (.error (.fault (.closed a.name)), a) else (f ()).start a := by
  rw [ensureOpen, bind_assoc, start_get_bind]
  split
  all_goals rfl

theorem run_onMembers {α σ : Type} {h : Handler wire σ} {m : Inquiry Members α}
    {result : Except Failure α} {members : Members} {s s' : σ}
    (hm : (m.start a.members).run h s = ((result, members), s')) :
    ((onMembers m).start a).run h s = ((result, { a with members }), s') := by
  rw [onMembers, start_focus, Program.run_bind, hm]
  rfl

/-- A request that the engine refuses, or that changes the names of one kind in a block. What it
makes of the block satisfies `made`. -/
def Changes (request : Operation Unit) (draw : String) (a : Accessor) (axis : Axis) (b : Block)
    (made : Block → Prop) (e : Exchange) : Prop :=
  (∃ status, (request.start a).run (handler draw) e =
    ((.error (.fault (.ofStatus status)), a), e)) ∨
  ∃ b', made b' ∧ b'.names axis.other = b.names axis.other ∧
    (request.start a).run (handler draw) e = ((.ok (), a), e.setBlock a.name b')

/-- A change of names on an open block: the remembered set is not the engine's; or the engine
refuses; or the change is made, and then both sets were read anew, or only the changed one. -/
inductive ChangeOutcome (axis : Axis) (a : Accessor) (b : Block) (made : Block → Prop)
    (e : Exchange) : Except Failure Unit × Accessor → Exchange → Prop
  | diverged (h : a.members.names axis ≠ b.live axis) :
      ChangeOutcome axis a b made e
        (.error (.fault (Members.divergence axis (a.members.names axis) (b.live axis))), a) e
  | refused (h : a.members.names axis = b.live axis) (status : Status) :
      ChangeOutcome axis a b made e (.error (.fault (.ofStatus status)), a) e
  | changed {b' : Block} {members : Members} (h : a.members.names axis = b.live axis)
      (hmade : made b') (hother : b'.names axis.other = b.names axis.other)
      (hnames : members.names axis = b'.live axis)
      (hread : members.names axis.other =
        if a.members.eitherEmpty || (b'.live axis).isEmpty then b'.live axis.other
        else a.members.names axis.other) :
      ChangeOutcome axis a b made e (.ok (), { a with members }) (e.setBlock a.name b')

theorem ChangeOutcome.mono {out : Except Failure Unit × Accessor}
    (h : ChangeOutcome axis a b made e out e') :
    ChangeOutcome axis a b (fun _ => True) e out e' := by
  cases h with
  | diverged h => exact .diverged h
  | refused h status => exact .refused h status
  | changed h _ hother hnames hread => exact .changed h trivial hother hnames hread

theorem changeMembers_outcome (hopen : a.closed = false) (hb : e.block a.name = .ok b)
    (hrequest : Changes (request a.name) draw a axis b made e)
    {out : (Except Failure Unit × Accessor) × Exchange}
    (hout : ((changeMembers axis request).start a).run (handler draw) e = out) :
    ChangeOutcome axis a b made e out.1 out.2 := by
  rw [changeMembers] at hout
  rw [start_ensureOpen_bind, hopen, if_neg Bool.false_ne_true, start_get_bind, start_bind,
    Program.run_bind, run_onMembers (Members.run_verify hb a.members)] at hout
  by_cases hverify : b.live axis = a.members.names axis
  · rw [if_pos hverify, andThen_ok, start_get_bind] at hout
    dsimp only at hout
    rw [start_bind, Program.run_bind] at hout
    rcases hrequest with ⟨status, hrefused⟩ | ⟨b', hmade, hother, hchanged⟩
    · rw [hrefused] at hout
      subst hout
      exact .refused hverify.symm status
    · rw [hchanged, andThen_ok] at hout
      have hb' : (e.setBlock a.name b').block a.name = .ok b' :=
        block_setBlock_self (block_eq_ok_iff.mp hb).1
      obtain ⟨members, hrun, hnames, hread⟩ :=
        Members.run_afterChange hb' a.members a.members.eitherEmpty
      rw [run_onMembers hrun] at hout
      subst hout
      exact .changed hverify.symm hmade hother hnames hread
  · rw [if_neg hverify] at hout
    subst hout
    exact .diverged (Ne.symm hverify)

theorem changes_addMember (hb : e.block a.name = .ok b) (name : String) :
    Changes (Inquiry.query (.addMember a.name axis name)) draw a axis b
      (fun b' => b' = b.add axis name) e := by
  cases hperform : e.perform draw (.addMember a.name axis name) with
  | error status => exact .inl ⟨status, run_query_of_error (handler_of_perform_eq_error hperform)⟩
  | ok reply =>
    obtain ⟨⟨⟩, e'⟩ := reply
    refine .inr ⟨b.add axis name, rfl, (Block.names_add b axis name).2, ?_⟩
    obtain ⟨-, c, hc, rfl⟩ := of_perform_addMember hperform
    obtain rfl : b = c := Except.ok.inj (hb.symm.trans hc)
    exact run_query_of_ok (handler_of_perform_eq_ok hperform)

theorem changes_removeMember (hb : e.block a.name = .ok b) (name : String) :
    Changes (Inquiry.query (.removeMember a.name axis name)) draw a axis b
      (fun b' => b.remove axis name = .ok b') e := by
  cases hperform : e.perform draw (.removeMember a.name axis name) with
  | error status => exact .inl ⟨status, run_query_of_error (handler_of_perform_eq_error hperform)⟩
  | ok reply =>
    obtain ⟨⟨⟩, e'⟩ := reply
    obtain ⟨c, b', hc, hremove, rfl⟩ := of_perform_removeMember hperform
    obtain rfl : b = c := Except.ok.inj (hb.symm.trans hc)
    exact .inr ⟨b', hremove, (Block.of_remove_eq_ok hremove).2.1,
      run_query_of_ok (handler_of_perform_eq_ok hperform)⟩

/-- Without its block the engine refuses the first request of a change. -/
theorem run_changeMembers_of_error (hopen : a.closed = false) {status : Status}
    (hb : e.block a.name = .error status) :
    ((changeMembers axis request).start a).run (handler draw) e =
      ((.error (.fault (.ofStatus status)), a), e) := by
  have hverify : ((Members.verify a.name axis).start a.members).run (handler draw) e =
      ((.error (.fault (.ofStatus status)), a.members), e) :=
    run_query_bind_of_error (handler_of_perform_eq_error (perform_members_of_error hb axis))
  rw [changeMembers, start_ensureOpen_bind, hopen, if_neg Bool.false_ne_true, start_get_bind,
    start_bind, Program.run_bind, run_onMembers hverify]
  rfl

/-- The remembered names are those that the engine tells. -/
def Coherent (a : Accessor) (e : Exchange) : Prop :=
  ∃ b, e.block a.name = .ok b ∧ ∀ axis, a.members.names axis = b.live axis

/-- A change of remembered names that are the engine's leaves them so. -/
theorem ChangeOutcome.coherent {out : Except Failure Unit × Accessor}
    (h : ChangeOutcome axis a b made e out e') (hb : e.block a.name = .ok b)
    (hnames : ∀ axis, a.members.names axis = b.live axis) : Coherent out.2 e' := by
  cases h with
  | diverged h => exact absurd (hnames axis) h
  | refused h status => exact ⟨b, hb, hnames⟩
  | @changed b' members h hmade hother haxis hread =>
    have hconn := (block_eq_ok_iff.mp hb).1
    refine ⟨b', block_setBlock_self hconn, fun other => ?_⟩
    rcases axis.eq_or_eq_other other with rfl | rfl
    · exact haxis
    · exact Members.names_other_of_read hnames hother hread

/-- A change that succeeds leaves the changed set as the engine's. The other one may be out of date,
but it is empty exactly when the engine's is. -/
theorem ChangeOutcome.of_ok {a' : Accessor} (h : ChangeOutcome axis a b made e (.ok (), a') e')
    (hb : e.block a.name = .ok b) :
    ∃ b', e'.block a.name = .ok b' ∧ a'.members.names axis = b'.live axis ∧
      (a'.members.names axis.other).isEmpty = (b'.live axis.other).isEmpty := by
  cases h with
  | @changed b' members h hmade hother haxis hread =>
    have hconn := (block_eq_ok_iff.mp hb).1
    refine ⟨b', block_setBlock_self hconn, haxis, ?_⟩
    dsimp only
    split at hread
    · rw [hread]
    next hempty =>
      -- The remembered set may be old, but neither it nor the engine's is empty.
      rw [Bool.not_eq_true, Bool.or_eq_false_iff, Members.eitherEmpty_eq _ axis,
        Bool.or_eq_false_iff] at hempty
      obtain ⟨⟨-, hbefore⟩, hafter⟩ := hempty
      rw [Block.isEmpty_live, Bool.or_comm] at hafter
      rw [hread, hbefore, Block.isEmpty_live, Axis.other_other, hafter]

theorem ChangeOutcome.of_ne {out : Except Failure Unit × Accessor}
    (h : ChangeOutcome axis a b made e out e') (hne : a.members.names axis ≠ b.live axis) :
    out = (.error (.fault (Members.divergence axis (a.members.names axis) (b.live axis))), a) ∧
      e' = e := by
  cases h with
  | diverged => exact ⟨rfl, rfl⟩
  | refused h | changed h => exact absurd h hne

/-- A change of a set that is the engine's is not refused as one of a set that is not. -/
theorem ChangeOutcome.ne_diverged {out : Except Failure Unit × Accessor}
    (h : ChangeOutcome axis a b made e out e') (hnames : a.members.names axis = b.live axis)
    (detail : String) : out.1 ≠ .error (.fault (.diverged detail)) := by
  cases h with
  | diverged h => exact absurd hnames h
  | refused h status =>
    intro hstatus
    injection hstatus with hfailure
    injection hfailure with hfault
    exact Fault.ofStatus_ne_diverged status detail hfault
  | changed => nofun

/-- The two changes of names of a kind. -/
def IsChange (axis : Axis) (name : String) (op : Operation Unit) : Prop :=
  op = addMember axis name ∨ op = removeMember axis name

variable {name : String} {op : Operation Unit} {out : (Except Failure Unit × Accessor) × Exchange}

theorem IsChange.start_of_closed (h : IsChange axis name op) (ha : a.closed = true) :
    op.start a = .done (.error (.fault (.closed a.name)), a) := by
  rcases h with rfl | rfl
  all_goals exact (start_ensureOpen_bind _ _).trans (if_pos ha)

theorem IsChange.outcome (h : IsChange axis name op) (hopen : a.closed = false)
    (hb : e.block a.name = .ok b) (hout : (op.start a).run (handler draw) e = out) :
    ChangeOutcome axis a b (fun _ => True) e out.1 out.2 := by
  rcases h with rfl | rfl
  · exact (changeMembers_outcome hopen hb (changes_addMember hb name) hout).mono
  · exact (changeMembers_outcome hopen hb (changes_removeMember hb name) hout).mono

theorem IsChange.run_of_error (h : IsChange axis name op) (hopen : a.closed = false)
    {status : Status} (hb : e.block a.name = .error status) :
    (op.start a).run (handler draw) e = ((.error (.fault (.ofStatus status)), a), e) := by
  rcases h with rfl | rfl
  all_goals exact run_changeMembers_of_error hopen hb

/-- A change that succeeds was made on an open block of the engine. -/
theorem IsChange.exists_block (h : IsChange axis name op)
    (hout : (op.start a).run (handler draw) e = out) (hok : out.1.1 = .ok ()) :
    a.closed = false ∧ ∃ b, e.block a.name = .ok b := by
  cases hopen : a.closed with
  | true =>
    rw [h.start_of_closed hopen] at hout
    subst hout
    contradiction
  | false =>
    refine ⟨rfl, ?_⟩
    cases hb : e.block a.name with
    | ok b => exact ⟨b, rfl⟩
    | error status =>
      rw [h.run_of_error hopen hb] at hout
      subst hout
      contradiction

end Change

/-! ### Calls -/

section Calls

variable {draw : String} {e : Exchange} {b : Block} {a : Accessor} {c : Call}

/-- Whether a call ends the block or changes its names. -/
def Call.changesNames : Call → Bool
  | .close | .addMember .. | .removeMember .. => true
  | _ => false

theorem Call.spares_of_mayAsk (hc : c.changesNames = false) {block : String} {r : Request}
    (hr : c.MayAsk block r) : r.Spares block := by
  rcases hr with hr | hr
  · refine ⟨?_, fun axis name => ⟨?_, ?_⟩⟩
    all_goals
      rintro rfl
      contradiction
  · cases c with
    | resize size =>
      subst hr
      exact ⟨nofun, fun _ _ => ⟨nofun, nofun⟩⟩
    | sinceMarker form item topic index policy =>
      obtain ⟨_, _, _, rfl⟩ := hr
      exact ⟨nofun, fun _ _ => ⟨nofun, nofun⟩⟩
    | _ => contradiction

/-- The replies of an engine whose block streams the names `live`. -/
def Tells (block : String) (live : Axis → NameSet) : (r : Request) → r.Reply → Prop
  | .query (.members name axis), (reply : Except Status NameSet) =>
    name = block → ∀ names, reply = .ok names → names = live axis
  | _, _ => True

theorem tells_handler {block : String} (hb : e.block block = .ok b) (r : Request) :
    Tells block b.live r (handler draw r e).1 := by
  cases r with
  | query q =>
    cases q with
    | members name axis =>
      rintro rfl names hnames
      rw [Members.handler_members draw hb axis] at hnames
      exact (Except.ok.inj hnames).symm
    | _ => trivial
  | _ => trivial

/-- A call that leaves the names of the block keeps the remembered ones. -/
theorem Call.coherent_of_spares (hc : c.changesNames = false) (ha : Coherent a e) :
    Coherent ((c.operation.start a).run (handler draw) e).1.2
      ((c.operation.start a).run (handler draw) e).2 := by
  obtain ⟨b, hb, hnames⟩ := ha
  have htold : Told (Tells a.name b.live) (c.MayAsk a.name)
      (fun x => x.name = a.name ∧ ∀ axis, x.members.names axis = b.live axis) a.name := by
    refine ⟨fun _ hq => .inl hq, fun _ hx => hx.1, fun x axis names hx htell => ?_,
      fun _ _ hx _ => hx⟩
    refine ⟨hx.1, fun other => ?_⟩
    rcases axis.eq_or_eq_other other with rfl | rfl
    · exact (Members.names_setNames _ _ _).trans (htell rfl names rfl)
    · exact (Members.names_other_setNames _ _ _).trans (hx.2 _)
  have hkeeps := c.keeps_operation htold (fun hclose => by subst hclose; contradiction) a
    ⟨rfl, hnames⟩
  -- The block keeps its names, so that all replies of the run tell the same sets.
  have hsame (r : Request) (x : Exchange) (hr : c.MayAsk a.name r)
      (hx : ∃ b', x.block a.name = .ok b' ∧ ∀ axis, b'.names axis = b.names axis) :
      Tells a.name b.live r (handler draw r x).1 ∧
        ∃ b', (handler draw r x).2.block a.name = .ok b' ∧
          ∀ axis, b'.names axis = b.names axis := by
    obtain ⟨b', hb', hb'names⟩ := hx
    obtain ⟨b'', hb'', hb''names⟩ :=
      names_move (move_handler draw r x) (Call.spares_of_mayAsk hc hr) hb'
    refine ⟨?_, b'', hb'', fun axis => (hb''names axis).trans (hb'names axis)⟩
    rw [← funext (Block.live_congr hb'names)]
    exact tells_handler hb' r
  obtain ⟨⟨hname, hmembers⟩, b', hb', hb'names⟩ := hkeeps.run hsame ⟨b, hb, fun _ => rfl⟩
  refine ⟨b', hname ▸ hb', fun axis => ?_⟩
  rw [hmembers axis, Block.live_congr hb'names]

/-- A call other than closing leaves a closed accessor closed. -/
theorem Call.closed_of_closed (hc : c ≠ .close) (ha : a.closed = true) :
    ((c.operation.start a).run (handler draw) e).1.2.closed = true :=
  c.run_frame (handler draw) (P := fun x => x.closed = true) (fun _ _ hx => hx) (fun _ _ hx => hx)
    (fun hclose => absurd hclose hc) ha e

theorem noBlock_of_closeBlock (hconn : e.connected = true) {name : String} {status : Status}
    (h : e.perform draw (.closeBlock name) = .error status) : status = .noBlock := by
  rw [perform_closeBlock_eq] at h
  cases hget : e.blocks.get? name with
  | some b =>
    rw [block_eq_ok_iff.mpr ⟨hconn, hget⟩] at h
    contradiction
  | none =>
    have hblock : e.block name = .error .noBlock := by
      unfold block connection
      rw [hconn, if_pos rfl, hget]
      rfl
    rw [hblock] at h
    exact (Except.error.inj h).symm

/-- On a connected engine an accessor is closed once it was asked to. -/
theorem closed_of_run_close (hconn : e.connected = true) :
    ((close.start a).run (handler draw) e).1.2.closed = true := by
  rw [close, start_get_bind]
  split
  next hclosed => exact hclosed
  next =>
    rw [start_bind, start_set, Program.done_bind, andThen_ok, start_bind, Program.run_bind,
      start_request, Program.run_ask]
    cases hperform : e.perform draw (.closeBlock a.name) with
    | ok reply =>
      rw [handler_of_perform_eq_ok hperform]
      rfl
    | error status =>
      obtain rfl := noBlock_of_closeBlock hconn hperform
      rw [handler_of_perform_eq_error hperform]
      rfl

end Calls

/-! ### Whole sequences of calls -/

/-- An accessor with its engine. -/
structure Client where
  accessor : Accessor
  exchange : Exchange

namespace Client

/-- What may happen while an accessor is used: it is called, or others do something that spares its
block. A new block would get the name `draw`. -/
inductive Turn (block : String) where
  | call (draw : String) (c : Call)
  | event (event : Event) (h : event.Spares block)

/-- The client after a turn. -/
def step {block : String} (w : Client) : Turn block → Client
  | .call draw c =>
    let out := (c.operation.start w.accessor).run (handler draw) w.exchange
    ⟨out.1.2, out.2⟩
  | .event event _ => { w with exchange := w.exchange.step event }

/-- The client after a sequence of turns. -/
def after {block : String} (w : Client) (turns : List (Turn block)) : Client := turns.foldl step w

/-- While it is open the accessor remembers the names that the engine tells. -/
structure Faithful (block : String) (w : Client) : Prop where
  name_eq : w.accessor.name = block
  connected : w.exchange.connected = true
  coherent : w.accessor.closed = false → Coherent w.accessor w.exchange

variable {block : String} {w : Client}

theorem Faithful.call (h : w.Faithful block) (draw : String) (c : Call) :
    (w.step (.call draw c : Turn block)).Faithful block := by
  obtain ⟨hname, hconn⟩ := c.run_keeps draw w.accessor (J := fun x => x.connected = true)
    (fun r x _ hx => (connected_move (move_handler draw r x)).trans hx) h.connected
  refine ⟨hname.trans h.name_eq, hconn, fun hopen => ?_⟩
  rw [Client.step] at hopen ⊢
  dsimp only at hopen ⊢
  have hclose : c ≠ .close := by
    rintro rfl
    exact Bool.eq_false_iff.mp hopen (closed_of_run_close h.connected)
  have hbefore : w.accessor.closed = false := by
    refine Bool.eq_false_iff.mpr fun hclosed => ?_
    exact Bool.eq_false_iff.mp hopen (Call.closed_of_closed hclose hclosed)
  have hcoherent := h.coherent hbefore
  cases c with
  | close => contradiction
  | addMember axis name =>
    obtain ⟨b, hb, hnames⟩ := hcoherent
    have hop : IsChange axis name (Call.addMember axis name).operation := .inl rfl
    exact (hop.outcome hbefore hb rfl).coherent hb hnames
  | removeMember axis name =>
    obtain ⟨b, hb, hnames⟩ := hcoherent
    have hop : IsChange axis name (Call.removeMember axis name).operation := .inr rfl
    exact (hop.outcome hbefore hb rfl).coherent hb hnames
  | _ => exact Call.coherent_of_spares rfl hcoherent

theorem Faithful.step (h : w.Faithful block) (turn : Turn block) :
    (w.step turn).Faithful block := by
  cases turn with
  | call draw c => exact h.call draw c
  | event event hevent =>
    refine ⟨h.name_eq, connected_step hevent h.connected, fun hopen => ?_⟩
    obtain ⟨b, hb, hnames⟩ := h.coherent hopen
    rw [h.name_eq] at hb
    obtain ⟨b', hb', hb'names⟩ := names_step hevent hb
    refine ⟨b', h.name_eq ▸ hb', fun axis => ?_⟩
    rw [Block.live_congr hb'names]
    exact hnames axis

theorem Faithful.after (h : w.Faithful block) (turns : List (Turn block)) :
    (w.after turns).Faithful block := by
  induction turns generalizing w with
  | nil => exact h
  | cons turn turns ih => exact ih (h.step turn)

/-- A creation that succeeds made a block, under the drawn name, on a connected exchange. -/
theorem of_create_eq_ok {draw : String} {s : Settings} {e e' : Exchange} {a : Accessor}
    (h : (create s).run (handler draw) e = (.ok a, e')) :
    a = ofSettings draw s ∧ e.connected = true ∧
      e' = e.setBlock draw (.new s.size s.stamped s.timeout) ∧
      Move draw e (.query (.createBlock s.size s.stamped s.timeout)) e' := by
  rw [create] at h
  split at h
  · cases h
  rw [Program.run_ask] at h
  change Program.run _ (if e.connected = true then _ else _) e = _ at h
  split at h
  next hconn =>
    rw [Program.run_ask] at h
    cases hperform : e.perform draw (.createBlock s.size s.stamped s.timeout) with
    | error status =>
      rw [handler_of_perform_eq_error hperform] at h
      cases h
    | ok reply =>
      rw [handler_of_perform_eq_ok hperform] at h
      have hmove := move_of_perform hperform
      obtain ⟨name, e''⟩ := reply
      cases h
      obtain ⟨-, -, -, -, rfl, rfl⟩ := of_perform_createBlock hperform
      exact ⟨rfl, hconn, rfl, hmove⟩
  next => cases h

/-- An accessor that was just created and its block have no names. -/
theorem faithful_create {draw : String} {s : Settings} {e e' : Exchange} {a : Accessor}
    (h : (create s).run (handler draw) e = (.ok a, e')) : Faithful a.name ⟨a, e'⟩ := by
  obtain ⟨rfl, hconn, rfl, -⟩ := of_create_eq_ok h
  refine ⟨rfl, hconn, fun _ => ⟨_, block_setBlock_self hconn, fun axis => ?_⟩⟩
  cases axis <;> rfl

/-- In no client a change of names is refused because the remembered set is not the engine's. -/
theorem Faithful.change_ne_diverged (h : w.Faithful block) (draw : String) {axis : Axis}
    {name : String} {op : Operation Unit} (hop : IsChange axis name op) (detail : String) :
    ((op.start w.accessor).run (handler draw) w.exchange).1.1 ≠
      .error (.fault (.diverged detail)) := by
  cases hclosed : w.accessor.closed with
  | true =>
    rw [hop.start_of_closed hclosed]
    nofun
  | false =>
    obtain ⟨b, hb, hnames⟩ := h.coherent hclosed
    exact (hop.outcome hclosed hb rfl).ne_diverged (hnames axis) detail

/-- **The remembered names are the engine's.** A block is created through an accessor, and its names
change only through it. After any turns, while the accessor is open, each remembered set is the one
that the engine tells, and a change of names never finds another one.

An accessor may also remember anything. A change that succeeds then leaves the changed set as the
engine's, and the other one empty exactly when the engine's is. If the set that it is to change is
not the engine's, it fails and changes nothing. -/
theorem members_coherent :
    (∀ draw (s : Settings) e a e', (create s).run (handler draw) e = (.ok a, e') →
      ∀ turns : List (Turn a.name),
        let w := (Client.mk a e').after turns
        (w.accessor.closed = false → ∀ draw axis, w.exchange.perform draw (.members a.name axis) =
          .ok (w.accessor.members.names axis, w.exchange)) ∧
        ∀ draw axis name op detail, IsChange axis name op →
          ((op.start w.accessor).run (handler draw) w.exchange).1.1 ≠
            .error (.fault (.diverged detail))) ∧
    ∀ draw a e axis name op, IsChange axis name op →
      let out := (op.start a).run (handler draw) e
      (out.1.1 = .ok () → ∃ changed other : NameSet,
        out.2.perform draw (.members a.name axis) = .ok (changed, out.2) ∧
        out.2.perform draw (.members a.name axis.other) = .ok (other, out.2) ∧
        out.1.2.members.names axis = changed ∧
        (out.1.2.members.names axis.other).isEmpty = other.isEmpty) ∧
      (a.closed = false → ∀ told : NameSet,
        e.perform draw (.members a.name axis) = .ok (told, e) → a.members.names axis ≠ told →
          out =
            ((.error (.fault (Members.divergence axis (a.members.names axis) told)), a), e)) := by
  refine ⟨fun draw s e a e' hcreate turns => ?_, fun draw a e axis name op hop => ⟨?_, ?_⟩⟩
  · have hfaithful := (faithful_create hcreate).after turns
    refine ⟨fun hopen draw axis => ?_, fun draw axis name op detail hop => ?_⟩
    · obtain ⟨b, hb, hnames⟩ := hfaithful.coherent hopen
      rw [hfaithful.name_eq] at hb
      rw [hnames axis]
      exact perform_members draw hb axis
    · exact hfaithful.change_ne_diverged draw hop detail
  · intro hok
    obtain ⟨hopen, b, hb⟩ := hop.exists_block rfl hok
    generalize hout : (op.start a).run (handler draw) e = out at hok ⊢
    have houtcome := hop.outcome hopen hb hout
    obtain ⟨⟨result, a'⟩, e'⟩ := out
    obtain rfl : result = .ok () := hok
    obtain ⟨b', hb', hnames, hother⟩ := houtcome.of_ok hb
    exact ⟨b'.live axis, b'.live axis.other, perform_members draw hb' axis,
      perform_members draw hb' axis.other, hnames, hother⟩
  · intro hopen told htold hne
    obtain ⟨b, hb, hlive, -⟩ := outcome_readBlock_eq_ok_iff.mp htold
    cases hlive
    obtain ⟨hout, he⟩ := (hop.outcome hopen hb rfl).of_ne hne
    exact Prod.ext hout he

/-- A block gets an item and a topic through its accessor. Another accessor, which remembers no
names of such a block, cannot add an item. -/
theorem members_coherent_oneStream :
    let s : Settings := { size := 2, stamped := true }
    let a := ofSettings "B" s
    let e := ((create s).run (handler "B") Exchange.start).2
    let turns : List (Turn a.name) :=
      [.call "" (.addMember .item "X"), .call "" (.addMember .topic "VOLUME")]
    let w := (Client.mk a e).after turns
    (w.accessor.members.names .item = NameSet.ofNames ["X"] ∧
      w.exchange.perform "" (.members a.name .item) =
        .ok (w.accessor.members.names .item, w.exchange)) ∧
    ((addMember .item "Y").start a).run (handler "") oneStream =
      ((.error (.fault (Members.divergence .item ∅ (NameSet.ofNames ["X"]))), a), oneStream) := by
  intro s a e turns w
  have hcreate : (create s).run (handler "B") Exchange.start = (.ok a, e) := rfl
  have hopen : w.accessor.closed = false := by decide +kernel
  have hitems : w.accessor.members.names .item = NameSet.ofNames ["X"] := by decide +kernel
  have htold : oneStream.perform "" (.members a.name .item) =
    .ok (NameSet.ofNames ["X"], oneStream) := rfl
  have hne : a.members.names .item ≠ NameSet.ofNames ["X"] := by decide +kernel
  obtain ⟨hruns, hchanges⟩ := members_coherent
  refine ⟨⟨hitems, ?_⟩, ?_⟩
  · exact (hruns "B" s _ a e hcreate turns).1 hopen "" .item
  · exact (hchanges "" a oneStream .item "Y" _ (.inl rfl)).2 rfl _ htold hne

end Client

end Accessor

end TickerTape
