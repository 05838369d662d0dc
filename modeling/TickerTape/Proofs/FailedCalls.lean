import TickerTape.Proofs.Interruptions
import TickerTape.Proofs.MarkerDelivery

/-!
# Calls that fail

A request that fails leaves the exchange as it is. Nothing brings an old state of the exchange back;
each request stops before it has changed anything, or where its change made no difference
(`TickerTape.Engine.Exchange.atomicAt_serve`). A call of an accessor that fails leaves the exchange,
too, though it makes several requests: none of those that follow a change can fail. The accessor
itself stays as it is, save for sets of names that were empty and had to be read before a name could
be accepted.

## Main definitions

* `TickerTape.Accessor.SameButFilled` — what a failed call may leave of an accessor.

## Main results

* `TickerTape.Accessor.run_resize` — a change of the capacity is refused or made.
* `TickerTape.Accessor.resize_of_error`, `TickerTape.Accessor.IsChange.of_error`,
  `TickerTape.Accessor.close_of_error` — changes that fail were not made.
* `TickerTape.Accessor.sinceMarker_of_error` — a marker read that fails has not fetched.
* `TickerTape.Accessor.failed_changes_nothing` — all requests and calls in all reachable states.
-/

namespace TickerTape

open Engine Exchange Inquiry

namespace Accessor

section

variable {draw : String} {e e' : Exchange} {a a' : Accessor} {x : Failure}

/-! ### Changes -/

theorem close_of_error (hout : (close.start a).run (handler draw) e = ((.error x, a'), e')) :
    a' = a ∧ e' = e := by
  cases hclosed : a.closed with
  | true =>
    have hstart : close.start a = .done (.ok (), a) := Call.start_of_closed hclosed .close
    rw [hstart] at hout
    cases hout
  | false =>
    rw [start_close_of_open hclosed, Program.run_ask] at hout
    cases hq : handler draw (.query (.closeBlock a.name)) e with
    | mk reply s =>
      rw [hq, Program.run_done] at hout
      obtain status | ⟨⟨⟩⟩ := reply
      · rw [closeOutcome] at hout
        split at hout
        · cases hout
        · cases hout
          exact ⟨rfl, (eq_of_handler_eq_error hq).2⟩
      · cases hout

/-- A change of the capacity is refused, or the accessor remembers the new one: a capacity that the
exchange has taken is the one that it tells. -/
theorem run_resize (draw : String) (e : Exchange) (a : Accessor) (size : Nat) :
    (∃ x, ((resize size).start a).run (handler draw) e = ((.error x, a), e)) ∨
      ∃ b, e.block a.name = .ok b ∧ ((resize size).start a).run (handler draw) e =
        ((.ok (), { a with size }), e.setBlock a.name (b.resize size)) := by
  rw [resize, start_ensureOpen_bind]
  split
  · exact .inl ⟨_, rfl⟩
  split
  · exact .inl ⟨_, rfl⟩
  rw [start_get_bind]
  cases hperform : e.perform draw (.resizeBlock a.name size) with
  | error status =>
    exact .inl ⟨_, run_query_bind_of_error (handler_of_perform_eq_error hperform)⟩
  | ok reply =>
    obtain ⟨⟨⟩, e₁⟩ := reply
    rw [run_query_bind (handler_of_perform_eq_ok hperform)]
    obtain ⟨-, b, hb, rfl⟩ := of_perform_resizeBlock hperform
    have htold : (e.setBlock a.name (b.resize size)).perform draw (.blockSize a.name) =
        .ok (size, e.setBlock a.name (b.resize size)) :=
      perform_blockSize draw (block_setBlock_self (block_eq_ok_iff.mp hb).1)
    rw [run_query_bind (handler_of_perform_eq_ok htold), start_bind, start_modify,
      Program.done_bind, andThen_ok, if_pos rfl]
    exact .inr ⟨b, hb, rfl⟩

theorem resize_of_error {size : Nat}
    (hout : ((resize size).start a).run (handler draw) e = ((.error x, a'), e')) :
    a' = a ∧ e' = e := by
  obtain ⟨y, hrun⟩ | ⟨b, -, hrun⟩ := run_resize draw e a size
  all_goals
    rw [hrun] at hout
    cases hout
  exact ⟨rfl, rfl⟩

theorem IsChange.of_error {axis : Axis} {name : String} {op : Operation Unit}
    (hop : IsChange axis name op)
    (hout : (op.start a).run (handler draw) e = ((.error x, a'), e')) : a' = a ∧ e' = e := by
  cases hclosed : a.closed with
  | true =>
    rw [hop.start_of_closed hclosed] at hout
    cases hout
    exact ⟨rfl, rfl⟩
  | false =>
    cases hb : e.block a.name with
    | error status =>
      rw [hop.run_of_error hclosed hb] at hout
      cases hout
      exact ⟨rfl, rfl⟩
    | ok b =>
      cases hop.outcome hclosed hb hout with
      | diverged | refused => exact ⟨rfl, rfl⟩

/-! ### Marker reads -/

/-- What the accessor makes of a fetch of the exchange is no failure: a strict read asks for a loss
beforehand, and the records come as the kind that was asked for. -/
theorem Outcome.eq_of_error {b : Block} {s : Stream} (hs : s.Sound b.size) {block : String}
    {stamped : Bool} {form : Form} {item topic : String} {policy : LossPolicy}
    {result : Except Failure (List (Point form.Carrier))}
    (hout : Outcome e b s block stamped form item topic policy result e')
    (hx : result = .error x) : e' = e := by
  cases hout with
  | still => rfl
  | fetched hfetch hresult hstrict =>
    obtain ⟨points, -, hok⟩ := markerAnswer_eq_ok hs.unread_le hfetch item topic hstrict
    rw [hx, hok] at hresult
    contradiction

theorem sinceMarker_of_error (he : e.Sound) {form : Form} {item topic : String} {index : Int}
    {policy : LossPolicy}
    (hout : ((sinceMarker form item topic index policy).start a).run (handler draw) e =
      ((.error x, a'), e')) : e' = e := by
  by_cases hstream : ∃ b s, e.block a.name = .ok b ∧ b.stream ⟨item, topic⟩ = .ok s
  · obtain ⟨b, s, hb, hs⟩ := hstream
    have hsound := (he.of_block_eq_ok hb).of_stream_eq_ok hs
    exact (sinceMarker_outcome hb hs hout).2.eq_of_error hsound rfl
  · -- Without the stream the exchange refuses to fetch.
    have hstill (r : Request) (y : Exchange)
        (hr : (Call.sinceMarker form item topic index policy).MayAsk a.name r) (hy : y = e) :
        (handler draw r y).2 = e := by
      subst hy
      rcases hr with hr | ⟨slot, room, stamped, rfl⟩
      · exact handler_of_isRead draw hr y
      · cases hperform : y.perform draw
            (.sinceMarker ⟨a.name, item, topic⟩ slot room form.kind stamped) with
        | error status => rw [handler_of_perform_eq_error hperform]
        | ok reply =>
          obtain ⟨b, b', hb, hfetch, -⟩ := exists_of_perform_sinceMarker hperform
          obtain ⟨-, s, -, hs, -⟩ := Block.fetch_eq_ok_iff.mp hfetch
          exact absurd ⟨b, s, hb, hs⟩ hstream
    have hrun := ((Call.sinceMarker form item topic index policy).run_keeps draw a hstill rfl).2
    rw [Call.operation, hout] at hrun
    exact hrun

/-! ### Frames -/

/-- A block gives the frame of a name that it streams, and a frame of text has cells of text. -/
theorem exists_frame_eq_ok {b : Block} (hb : b.Sound) (axis : Axis) {name : String}
    (hname : (b.live axis.other).contains name = true) (stamped : Bool) :
    ∃ cells, b.frame axis name .text stamped = .ok cells ∧
      ∀ cell ∈ cells, ∃ text, cell.2.value = .text text := by
  obtain ⟨hempty, hname⟩ := Block.contains_live_iff.mp hname
  rw [Axis.other_other] at hempty
  have hrefused : (!b.isLive || !(b.names axis.other).contains name) = false := by
    rw [Block.isLive_eq b axis, hempty, Table.isEmpty_of_contains hname, hname]
    rfl
  rw [Block.frame, hrefused, if_neg Bool.false_ne_true]
  refine exists_mapM_bind_eq_ok
    (Q := fun cell => ∀ named, cell = some named → ∃ text, named.2.value = .text text)
    (fun other hother => ?_) fun cells hcells => ⟨cells.filterMap id, rfl, fun cell hcell => ?_⟩
  · have hpair : (b.names axis).contains ((Pair.along axis other name).get axis) = true ∧
        (b.names axis.other).contains ((Pair.along axis other name).get axis.other) = true := by
      rw [Pair.get_along, Pair.get_other_along]
      exact ⟨Table.contains_iff.mpr hother, hname⟩
    obtain ⟨hitem, htopic⟩ := (Block.contains_pair_iff b axis _).mpr hpair
    obtain ⟨s, hs, -⟩ := hb.exists_stream hitem htopic
    cases hr : s.record? 0 with
    | none => exact ⟨none, bind_eq_ok_iff.mpr ⟨s, hs, by rw [hr]; rfl⟩, nofun⟩
    | some r =>
      refine ⟨some (other, ⟨.text r.value.render, if stamped && b.stamped then some r.stamp
        else none⟩), bind_eq_ok_iff.mpr ⟨s, hs, by rw [hr]; rfl⟩, fun named hnamed => ?_⟩
      obtain rfl := Option.some.inj hnamed
      exact ⟨_, rfl⟩
  · obtain ⟨named, hnamed, hcell⟩ := List.mem_filterMap.mp hcell
    exact hcells named hnamed cell hcell

theorem exists_frameOf_eq_ok {cells : List (String × Sample)}
    (hcells : ∀ cell ∈ cells, ∃ text, cell.2.value = .text text) :
    ∃ frame, frameOf .text cells = .ok frame := by
  refine (exists_mapM_bind_eq_ok (Q := fun _ => True) (R := fun _ => True)
    (fun cell hcell => ?_) fun points _ => ⟨_, rfl, trivial⟩).imp fun frame h => h.1
  obtain ⟨text, htext⟩ := hcells cell hcell
  refine ⟨(cell.1, ⟨text, cell.2.stamp⟩), ?_, trivial⟩
  simp [convert, Form.readPoint, htext, Form.read]
  rfl

/-- The topic frame of an item that a block streams is no failure. -/
theorem run_topicFrame (draw : String) (he : e.Sound) (hopen : a.closed = false) {b : Block}
    (hb : e.block a.name = .ok b) (hitems : a.members.names .item = b.live .item) {item : String}
    (hitem : (b.live .item).contains item = true) :
    ∃ frame, ((topicFrame item).start a).run (handler draw) e = ((.ok frame, a), e) := by
  obtain ⟨cells, hcells, htext⟩ :=
    exists_frame_eq_ok (he.of_block_eq_ok hb) .topic hitem a.stamped
  obtain ⟨frame, hframe⟩ := exists_frameOf_eq_ok htext
  have hperform : e.perform draw (.topicFrame a.name item a.stamped) = .ok (cells, e) :=
    outcome_readBlock_eq_ok_iff.mpr ⟨b, hb, hcells, rfl⟩
  have hvalidate : ((Members.validate a.name .item item).start a.members).run (handler draw) e =
      ((.ok (), a.members), e) := by
    rw [Members.start_validate_of_contains (hitems ▸ hitem), Program.run_done]
  refine ⟨frame, ?_⟩
  rw [topicFrame, start_ensureOpen_bind, hopen, if_neg Bool.false_ne_true, start_get_bind,
    start_bind, Program.run_bind, run_onMembers hvalidate, andThen_ok,
    run_query_bind (handler_of_perform_eq_ok hperform), start_lift, Program.run_done, hframe]

theorem run_framesOf (draw : String) (he : e.Sound) (hopen : a.closed = false) {b : Block}
    (hb : e.block a.name = .ok b) (hitems : a.members.names .item = b.live .item)
    {items : List String} (hlive : ∀ item ∈ items, (b.live .item).contains item = true) :
    ∃ frames, ((framesOf items).start a).run (handler draw) e = ((.ok frames, a), e) := by
  induction items with
  | nil => exact ⟨[], rfl⟩
  | cons item items ih =>
    obtain ⟨frame, hframe⟩ := run_topicFrame draw he hopen hb hitems (hlive item List.mem_cons_self)
    obtain ⟨frames, hframes⟩ := ih fun item hitem => hlive item (List.mem_cons_of_mem _ hitem)
    refine ⟨(item, frame) :: frames, ?_⟩
    rw [framesOf, start_bind, Program.run_bind, hframe, andThen_ok, start_bind, Program.run_bind,
      hframes]
    rfl

/-- Reading a set of names fails at its request, or remembers what the block streams. -/
theorem run_readMembers (draw : String) (e : Exchange) (a : Accessor) (axis : Axis) :
    (∃ x, ((readMembers axis).start a).run (handler draw) e = ((.error x, a), e)) ∨
      a.closed = false ∧ ∃ b, e.block a.name = .ok b ∧
        ((readMembers axis).start a).run (handler draw) e =
          ((.ok (b.live axis), { a with members := a.members.setNames axis (b.live axis) }),
            e) := by
  rw [readMembers, start_ensureOpen_bind]
  split
  · exact .inl ⟨_, rfl⟩
  next hopen =>
    rw [start_get_bind, start_bind, Program.run_bind]
    cases hb : e.block a.name with
    | error status =>
      have hrefresh : ((Members.refresh a.name axis).start a.members).run (handler draw) e =
          ((.error (.fault (.ofStatus status)), a.members), e) :=
        run_query_bind_of_error (handler_of_perform_eq_error (perform_members_of_error hb axis))
      rw [run_onMembers hrefresh]
      exact .inl ⟨_, rfl⟩
    | ok b =>
      rw [run_onMembers (Members.run_refresh hb a.members), andThen_ok, start_get_bind,
        start_pure, Program.run_done, Members.names_setNames]
      exact .inr ⟨Bool.eq_false_iff.mpr hopen, b, rfl, rfl⟩

/-- Once the items are read, their frames are no failure. -/
theorem allFrames_of_error (he : e.Sound)
    (hout : (allFrames.start a).run (handler draw) e = ((.error x, a'), e')) :
    a' = a ∧ e' = e := by
  rw [allFrames, start_bind, Program.run_bind] at hout
  obtain ⟨y, hread⟩ | ⟨hopen, b, hb, hread⟩ := run_readMembers draw e a .item
  · rw [hread] at hout
    cases hout
    exact ⟨rfl, rfl⟩
  · obtain ⟨frames, hframes⟩ := run_framesOf draw he
      (a := { a with members := a.members.setNames .item (b.live .item) }) hopen hb
      (Members.names_setNames a.members .item _) fun item hitem => Table.contains_iff.mpr hitem
    rw [hread, andThen_ok, start_bind, Program.run_bind, hframes] at hout
    cases hout

theorem readSize_of_error
    (hout : (readSize.start a).run (handler draw) e = ((.error x, a'), e')) : a' = a ∧ e' = e := by
  rw [readSize, start_ensureOpen_bind] at hout
  split at hout
  · cases hout
    exact ⟨rfl, rfl⟩
  rw [start_get_bind] at hout
  cases hperform : e.perform draw (.blockSize a.name) with
  | error status =>
    rw [run_query_bind_of_error (handler_of_perform_eq_error hperform)] at hout
    cases hout
    exact ⟨rfl, rfl⟩
  | ok reply =>
    rw [run_query_bind (handler_of_perform_eq_ok hperform)] at hout
    cases hout

/-! ### What a failed call leaves of an accessor -/

/-- The accessor `a'` is `a`, save for sets of names that were empty and are now what the exchange
tells. -/
structure SameButFilled (draw : String) (e : Exchange) (a a' : Accessor) : Prop where
  eq_with : a' = { a with members := a'.members }
  names : ∀ axis, a'.members.names axis = a.members.names axis ∨
    (a.members.names axis).isEmpty = true ∧
      e.perform draw (.members a.name axis) = .ok (a'.members.names axis, e)

theorem SameButFilled.refl (draw : String) (e : Exchange) (a : Accessor) :
    SameButFilled draw e a a := ⟨rfl, fun _ => .inl rfl⟩

/-- An empty set of names may be filled with what the exchange tells. -/
theorem SameButFilled.fill (h : SameButFilled draw e a a') (axis : Axis) {names : NameSet}
    (hempty : (a'.members.names axis).isEmpty = true)
    (htold : e.perform draw (.members a.name axis) = .ok (names, e)) :
    SameButFilled draw e a { a' with members := a'.members.setNames axis names } := by
  refine ⟨?_, fun other => ?_⟩
  · rw [h.eq_with]
  · rcases axis.eq_or_eq_other other with rfl | rfl
    · refine .inr ⟨?_, ?_⟩
      · rcases h.names _ with hsame | ⟨hbefore, -⟩
        · rwa [← hsame]
        · exact hbefore
      · dsimp only
        rwa [Members.names_setNames]
    · dsimp only
      rw [Members.names_other_setNames]
      exact h.names _

/-- The replies of an exchange that tells the names of a block as `e` does. -/
def TellsAs (draw : String) (e : Exchange) (block : String) : (r : Request) → r.Reply → Prop
  | .query (.members name axis), (reply : Except Status NameSet) =>
    name = block → reply = (handler draw (.query (.members block axis)) e).1
  | _, _ => True

theorem reply_members (draw : String) (e : Exchange) (block : String) (axis : Axis) :
    (handler draw (.query (.members block axis)) e).1 = (e.block block).map (·.live axis) := by
  cases hb : e.block block with
  | error status =>
    rw [handler_of_perform_eq_error (perform_members_of_error hb axis)]
    rfl
  | ok b =>
    rw [Members.handler_members draw hb axis]
    rfl

/-- Marker reads leave what the exchange tells of names. -/
theorem reply_members_of_leavesShape {r : Request} (hr : r.leavesShape = true) (block : String)
    (axis : Axis) :
    (handler draw (.query (.members block axis)) (handler draw r e).2).1 =
      (handler draw (.query (.members block axis)) e).1 := by
  generalize hmove : (handler draw r e).2 = e'
  have hmove : Move draw e r e' := hmove ▸ move_handler draw r e
  rw [reply_members, reply_members]
  cases hmove with
  | still => rfl
  | @sinceMarker stream _ _ _ _ b b' _ hb hfetch =>
    by_cases hname : block = stream.block
    · obtain ⟨-, s, s', -, -, rfl⟩ := Block.fetch_eq_ok_iff.mp hfetch
      rw [hname, hb, block_setBlock_self (block_eq_ok_iff.mp hb).1]
      exact congrArg Except.ok (Block.live_congr (Block.names_streams b _) axis)
    · rw [block_setBlock_of_ne hname]
  | _ => contradiction

/-- A call that accepts names and asks writes down no names but those that the exchange tells, and
only where there were none. -/
theorem Call.sameButFilled {c : Call} (hc : c.onlyFills = true) (draw : String) (e : Exchange)
    (a : Accessor) :
    SameButFilled draw e a ((c.operation.start a).run (handler draw) e).1.2 := by
  have hshape : c.reshapes = false := by cases c <;> first | rfl | contradiction
  have hfilled : Filled (TellsAs draw e a.name) (c.MayAsk a.name)
      (SameButFilled draw e a) a.name := by
    refine ⟨fun _ hq => .inl hq, fun a' ha' => ?_, fun a' axis names ha' hempty htell => ?_⟩
    · rw [ha'.eq_with]
    · refine ha'.fill axis hempty ?_
      have htold : (handler draw (.query (.members a.name axis)) e).1 = .ok names :=
        (htell rfl).symm
      have hsame : (handler draw (.query (.members a.name axis)) e).2 = e :=
        handler_of_isRead draw rfl e
      exact handler_eq_ok_iff.mp (Prod.ext htold hsame)
  have htells (y : Exchange) (r : Request)
      (hy : ∀ axis, (handler draw (.query (.members a.name axis)) y).1 =
        (handler draw (.query (.members a.name axis)) e).1) :
      TellsAs draw e a.name r (handler draw r y).1 := by
    cases r with
    | query q =>
      cases q with
      | members name axis =>
        rintro rfl
        exact hy axis
      | _ => trivial
    | _ => trivial
  have hkeeps := hfilled.keeps_operation hc a (.refl draw e a)
  refine (hkeeps.run (J := fun y => ∀ axis, (handler draw (.query (.members a.name axis)) y).1 =
    (handler draw (.query (.members a.name axis)) e).1) (fun r y hr hy => ?_) fun _ => rfl).1
  refine ⟨htells y r hy, fun axis => ?_⟩
  have hleaves := Call.leavesShape_of_mayAsk hshape hr
  exact (reply_members_of_leavesShape hleaves a.name axis).trans (hy axis)

end

theorem create_of_error {draw : String} {s : Settings} {x : Failure} {e e' : Exchange}
    (hout : (create s).run (handler draw) e = (.error x, e')) : e' = e := by
  rw [create] at hout
  split at hout
  · cases hout
    rfl
  rw [Program.run_ask] at hout
  split at hout
  · rw [Program.run_ask] at hout
    cases hq : handler draw (.query (.createBlock s.size s.stamped s.timeout))
      (handler draw .connected e).2 with
    | mk reply e₁ =>
      rw [hq] at hout
      obtain status | name := reply
      · cases hout
        exact (eq_of_handler_eq_error hq).2
      · cases hout
  · cases hout
    rfl

/-- A call that fails leaves the exchange as it is, and the accessor save for empty sets. -/
theorem Call.of_error {draw : String} {e e' : Exchange} (he : e.Sound) {a a' : Accessor}
    {c : Call} {x : Failure}
    (hout : (c.operation.start a).run (handler draw) e = ((.error x, a'), e')) :
    e' = e ∧ SameButFilled draw e a a' := by
  have hchange (h : a' = a ∧ e' = e) : e' = e ∧ SameButFilled draw e a a' := by
    obtain ⟨rfl, rfl⟩ := h
    exact ⟨rfl, .refl _ _ _⟩
  have hfills (hc : c.onlyFills = true) : SameButFilled draw e a a' := by
    have := c.sameButFilled hc draw e a
    rwa [hout] at this
  have hreads (hc : c.isRead = true) : e' = e := by
    have hrun := (c.run_keeps draw a (J := fun y => y = e) (fun r y hr hy => by
      rw [handler_of_isRead draw (Call.isRead_of_mayAsk hc hr), hy]) rfl).2
    rwa [hout] at hrun
  cases c with
  | close => exact hchange (close_of_error hout)
  | readSize => exact hchange (readSize_of_error hout)
  | resize size => exact hchange (resize_of_error hout)
  | readMembers axis =>
    obtain ⟨y, hread⟩ | ⟨-, b, -, hread⟩ := run_readMembers draw e a axis
    all_goals
      rw [Call.operation, hread] at hout
      cases hout
    exact hchange ⟨rfl, rfl⟩
  | addMember axis name => exact hchange (IsChange.of_error (.inl rfl) hout)
  | removeMember axis name => exact hchange (IsChange.of_error (.inr rfl) hout)
  | sinceMarker => exact ⟨sinceMarker_of_error he hout, hfills rfl⟩
  | allFrames => exact hchange (allFrames_of_error he hout)
  | _ => exact ⟨hreads rfl, hfills rfl⟩

/-- **What fails changes nothing.** An exchange that began without blocks may be in any state, and
an accessor may remember anything. A request that fails stops in a state of the exchange that is the
one in which it began, with the same records, markers and losses, and so does a creation or any call
of an accessor that fails. Such a call leaves the accessor as it was, too, save for sets of names
that were empty and are now what the exchange tells. -/
theorem failed_changes_nothing {e : Exchange} (he : e.Reachable) (draw : String) :
    (∀ (q : Query) (status : Status), (handler draw (.query q) e).1 = .error status →
      (handler draw (.query q) e).2 = e) ∧
    (∀ s x, ((create s).run (handler draw) e).1 = .error x →
      ((create s).run (handler draw) e).2 = e) ∧
    ∀ a (c : Call) x,
      let out := (c.operation.start a).run (handler draw) e
      out.1.1 = .error x → out.2 = e ∧ SameButFilled draw e a out.1.2 := by
  refine ⟨fun q status hq => ?_, fun s x hout => ?_, fun a c x => ?_⟩
  · exact (eq_of_handler_eq_error (Prod.ext hq rfl)).2
  · exact create_of_error (Prod.ext hout rfl)
  · intro out hout
    exact Call.of_error he.sound (Prod.ext (Prod.ext hout rfl) rfl)

/-- Of three values two fit into a stream. A strict marker read by an accessor that remembers no
names fails and reads them; the exchange is as it was. -/
theorem failed_changes_nothing_dirty :
    let e := oneStream.after (([1, 2, 3] : List Int).map fun n =>
      .publish ⟨"X", "VOLUME"⟩ ⟨.long n, .zero⟩)
    let a := ofSettings "B" { size := 2 }
    let out := ((Call.sinceMarker .long "X" "VOLUME" 0 .fail).operation.start a).run (handler "") e
    out.1.1 = .error (.fault (.dirtyMarker "X" "VOLUME")) ∧
      out.1.2.members.names .item = NameSet.ofNames ["X"] ∧ out.2 = e ∧
      SameButFilled "" e a out.1.2 := by
  intro e a out
  have herror : out.1.1 = .error (.fault (.dirtyMarker "X" "VOLUME")) := by decide +kernel
  have hitems : out.1.2.members.names .item = NameSet.ofNames ["X"] := by decide +kernel
  have he : e.Reachable := Reachable.after ⟨_, rfl⟩ _
  obtain ⟨-, -, hcalls⟩ := failed_changes_nothing he ""
  have hcall := hcalls a (.sinceMarker .long "X" "VOLUME" 0 .fail)
    (.fault (.dirtyMarker "X" "VOLUME"))
  -- The run is not to be unfolded again.
  generalize hout : (((Call.sinceMarker .long "X" "VOLUME" 0 .fail).operation.start a).run
    (handler "") e) = run at hcall
  obtain rfl : out = run := hout
  exact ⟨herror, hitems, hcall herror⟩

end Accessor

end TickerTape
