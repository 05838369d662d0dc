import TickerTape.Proofs.MarkerReads

/-!
# Marker reads in turn

A client writes to a stream, reads it, gives its block other capacities and makes marker reads, one
after the other. Whatever the order, the marker reads return records in the order of their writing
and none twice, and if all of them are strict reads of an accessor they leave none out.

## Main definitions

* `TickerTape.Accessor.Session.Turn` — what may happen to a stream.
* `TickerTape.Accessor.Session` — an accessor, its engine, and what was written and returned.
* `TickerTape.Accessor.Session.Accounted` — the account that every turn keeps.

## Main results

* `TickerTape.Accessor.sinceMarker_outcome` — what a marker read does to the exchange.
* `TickerTape.Accessor.Session.marker_reads_in_order` — the account of a whole session.
-/

namespace TickerTape.Accessor

open Engine Exchange Inquiry

/-! ### A marker read of an exchange at rest -/

section Outcome

variable {draw : String} {e : Exchange} {b : Block} {s : Stream} {a a' : Accessor}
  {form : Form} {item topic : String} {index : Int} {policy : LossPolicy} {slot room : Nat}
  {out : (Except Failure (List (Point form.Carrier)) × Accessor) × Exchange}

/-- A marker read ends without a fetch, and then returns nothing, or with one. A strict read fetches
only when no record was lost, with room for all. -/
inductive Outcome (e : Exchange) (b : Block) (s : Stream) (block : String) (stamped : Bool)
    (form : Form) (item topic : String) (policy : LossPolicy)
    (result : Except Failure (List (Point form.Carrier))) : Exchange → Prop
  | still (h : ∀ points, result = .ok points → points = []) :
      Outcome e b s block stamped form item topic policy result e
  | fetched {slot room : Nat} {found : MarkerRead} {s' : Stream}
      (hfetch : s.fetch slot room form.kind (stamped && b.stamped) = .ok (found, s'))
      (hresult : result = markerAnswer form item topic policy found)
      (hstrict : policy = .fail → s.lost = false ∧ s.unread - slot ≤ room) :
      Outcome e b s block stamped form item topic policy result
        (e.setBlock block { b with streams := b.streams.insert ⟨item, topic⟩ s' })

theorem fetchBehind_outcome (hb : e.block a.name = .ok b) (hs : b.stream ⟨item, topic⟩ = .ok s)
    (hstrict : policy = .fail → s.lost = false ∧ s.unread - slot ≤ room)
    (hout : ((fetchBehind form item topic policy slot room a).start a').run (handler draw) e =
      out) :
    Outcome e b s a.name a.stamped form item topic policy out.1.1 out.2 := by
  rw [fetchBehind] at hout
  cases hperform : e.perform draw
      (.sinceMarker (a.address item topic) slot room form.kind a.stamped) with
  | error status =>
    rw [run_query_bind_of_error (handler_of_perform_eq_error hperform)] at hout
    subst hout
    exact .still nofun
  | ok reply =>
    rw [run_query_bind (handler_of_perform_eq_ok hperform), start_lift] at hout
    subst hout
    obtain ⟨found, e'⟩ := reply
    obtain ⟨s', hfetch, rfl⟩ := of_perform_sinceMarker hb hs hperform
    exact .fetched hfetch rfl hstrict

theorem readBehind_outcome (hb : e.block a.name = .ok b) (hs : b.stream ⟨item, topic⟩ = .ok s)
    (hslot : slot < 0x8000000000000000)
    (hout : ((readBehind form item topic policy slot a).start a').run (handler draw) e = out) :
    Outcome e b s a.name a.stamped form item topic policy out.1.1 out.2 := by
  have hdirty : handler draw (.query (.markerDirty (a.address item topic))) e =
      ((.ok s.lost : Except Status Bool), e) :=
    handler_of_perform_eq_ok (outcome_readStream_eq_ok_iff.mpr ⟨b, s, hb, hs, rfl, rfl⟩)
  have hposition : handler draw (.query (.markerPosition (a.address item topic))) e =
      ((.ok s.position : Except Status Int), e) :=
    handler_of_perform_eq_ok (outcome_readStream_eq_ok_iff.mpr ⟨b, s, hb, hs, rfl, rfl⟩)
  rw [readBehind, run_query_bind hdirty, start_refuseLoss_bind] at hout
  split at hout
  · subst hout
    exact .still nofun
  next hlost =>
    rw [run_query_bind hposition, start_lift_bind] at hout
    cases hexpected : Word.checked (pending s.position slot) with
    | error x =>
      rw [hexpected] at hout
      subst hout
      exact .still nofun
    | ok expected =>
      rw [hexpected, andThen_ok] at hout
      split at hout
      · subst hout
        exact .still fun points h => (Except.ok.inj h).symm
      · rw [start_lift_bind] at hout
        cases hroom : Word.checked (Word.addUnsigned expected.toNat a.margin) with
        | error x =>
          rw [hroom] at hout
          subst hout
          exact .still nofun
        | ok room =>
          rw [hroom, andThen_ok] at hout
          have hexpected := eq_of_pending hslot (Word.of_checked_eq_ok hexpected)
          have hroom := Word.eq_of_addUnsigned (Word.of_checked_eq_ok hroom)
          rw [Stream.position] at hexpected
          refine fetchBehind_outcome hb hs (fun hp => ⟨?_, ?_⟩) hout
          · simpa [hp] using hlost
          · omega

/-- What a marker read does to an exchange whose block has the stream. -/
theorem sinceMarker_outcome (hb : e.block a.name = .ok b)
    (hs : b.stream ⟨item, topic⟩ = .ok s)
    (hout : ((sinceMarker form item topic index policy).start a).run (handler draw) e = out) :
    out.1.2.name = a.name ∧
      Outcome e b s a.name a.stamped form item topic policy out.1.1 out.2 := by
  have hname : out.1.2.name = a.name := by
    have hkeeps := Call.run_keeps (.sinceMarker form item topic index policy) draw a
      (J := fun _ => True) (fun _ _ _ hx => hx) (e := e) trivial
    exact hout ▸ hkeeps.1
  refine ⟨hname, ?_⟩
  clear hname
  rw [sinceMarker_eq, start_bind, Program.run_bind] at hout
  have hvalid : (validate item topic |>.start a |>.run (handler draw) e).1.2.name = a.name ∧
      (validate item topic |>.start a |>.run (handler draw) e).1.2.stamped = a.stamped ∧
      (validate item topic |>.start a |>.run (handler draw) e).2 = e := by
    -- Accepting the names only reads, and keeps all that the fetch depends on.
    have htold : Told (fun _ _ => True) (fun r => r.isRead = true)
        (fun x => x.name = a.name ∧ x.stamped = a.stamped) a.name :=
      ⟨fun _ hq => hq, fun _ hx => hx.1, fun _ _ _ hx _ => hx, fun _ _ hx _ => hx⟩
    obtain ⟨⟨hname, hstamped⟩, he⟩ :=
      run_of_reads draw (htold.filled.keeps_validate item topic a ⟨rfl, rfl⟩) e
    exact ⟨hname, hstamped, he⟩
  generalize (validate item topic |>.start a |>.run (handler draw) e) = valid at hout hvalid
  obtain ⟨⟨_ | size, a'⟩, e'⟩ := valid
  all_goals obtain ⟨hname, hstamped, he⟩ := hvalid
  · subst hout he
    exact .still nofun
  · dsimp only at hname hstamped he hout
    rw [andThen_ok, start_lift_bind] at hout
    cases hslot : Slot.ofIndex index size with
    | error x =>
      rw [hslot] at hout
      subst hout he
      exact .still nofun
    | ok slot =>
      rw [hslot, andThen_ok, start_get_bind] at hout
      subst he
      rw [← hname, ← hstamped]
      refine readBehind_outcome (hname ▸ hb) hs ?_ hout
      have hlt := (Slot.of_ofIndex_eq_ok hslot).2
      have hword := (Word.isSigned_toSigned size).2
      omega

end Outcome

/-! ### Sessions -/

/-- What may happen to a stream, next to what other clients do with other streams. -/
inductive Session.Turn where
  /-- A record is written. -/
  | publish (r : Record)
  /-- A call of the accessor that only reads. -/
  | call (c : Call) (hc : c.isRead = true)
  /-- A request that only reads. -/
  | request (r : Request) (hr : r.isRead = true)
  /-- The accessor gives its block another capacity. -/
  | resize (size : Nat)
  /-- The block gets another capacity without the accessor. -/
  | resizeBlock (size : Nat)
  /-- A marker read of the accessor. -/
  | sinceMarker (form : Form) (index : Int) (policy : LossPolicy)
  /-- A marker read without the accessor. -/
  | fetch (first room : Nat) (kind : Kind) (stamped : Bool)

/-- Whether a turn makes no marker read other than a strict one of the accessor. -/
def Session.Turn.isStrict : Session.Turn → Bool
  | .sinceMarker _ _ policy => policy = .fail
  | .fetch .. => false
  | _ => true

/-- An accessor with its engine, what was written to a stream and what its marker reads returned. -/
structure Session where
  accessor : Accessor
  exchange : Exchange
  published : List Record
  handed : List Handout

namespace Session

/-- A session before its first turn. -/
def start (a : Accessor) (e : Exchange) : Session := ⟨a, e, [], []⟩

section

variable (draw item topic : String)

/-- The session after a turn. A marker read that fails returns nothing. -/
def step (w : Session) : Turn → Session
  | .publish r =>
    { w with
      exchange := (w.exchange.publish ⟨item, topic⟩ r).2
      published := w.published ++ [r] }
  | .call c _ =>
    let out := (c.operation.start w.accessor).run (handler draw) w.exchange
    { w with accessor := out.1.2, exchange := out.2 }
  | .request r _ => { w with exchange := (handler draw r w.exchange).2 }
  | .resize size =>
    let out := ((Accessor.resize size).start w.accessor).run (handler draw) w.exchange
    { w with accessor := out.1.2, exchange := out.2 }
  | .resizeBlock size =>
    { w with exchange := (handler draw (.query (.resizeBlock w.accessor.name size)) w.exchange).2 }
  | .sinceMarker form index policy =>
    let out := ((Accessor.sinceMarker form item topic index policy).start w.accessor).run
      (handler draw) w.exchange
    { w with
      accessor := out.1.2
      exchange := out.2
      handed := match out.1.1 with
        | .ok points =>
          w.handed ++ [⟨form.kind, w.accessor.stamped, points.map form.toSample⟩]
        | .error _ => w.handed }
  | .fetch first room kind stamped =>
    match w.exchange.perform draw
        (.sinceMarker (w.accessor.address item topic) first room kind stamped) with
    | .ok (found, e) =>
      { w with exchange := e, handed := w.handed ++ [⟨kind, stamped, found.samples⟩] }
    | .error _ => w

/-- The session after a sequence of turns. -/
def after (w : Session) (turns : List Turn) : Session := turns.foldl (step draw item topic) w

end

/-! ### The account of a session -/

/-- Of the records written, those that were taken precede the unread ones. Nothing else was left
out if all marker reads were strict. -/
def Kept (recorded : Bool) (strict : Prop) (published taken : List Record) (b : Block)
    (s : Stream) : Prop :=
  b.stamped = recorded ∧ s.Ledger published taken ∧ (strict → s.Exact published taken)

/-- What was returned are records, and they and the stream are accounted for. -/
structure Accounted (block item topic : String) (recorded : Bool) (strict : Prop) (w : Session) :
    Prop where
  name_eq : w.accessor.name = block
  exists_groups : ∃ groups, List.Forall₂ (Handout.Of recorded) w.handed groups ∧
    w.exchange.HasStream block ⟨item, topic⟩ (Kept recorded strict w.published groups.flatten)

section Accounted

variable {draw block item topic : String} {recorded : Bool} {strict : Prop} {w : Session}
  {published taken : List Record}

theorem Kept.push {b : Block} {s : Stream} (h : Kept recorded strict published taken b s)
    (p : Pair) (r : Record) :
    Kept recorded strict (published ++ [r]) taken (b.write p r) (s.push b.size r) := by
  obtain ⟨hstamped, hledger, hexact⟩ := h
  refine ⟨?_, hledger.push b.size r, fun h => (hexact h).push b.size r⟩
  rw [Block.stamped_write, hstamped]

theorem Kept.truncate {b : Block} {s : Stream} (h : Kept recorded strict published taken b s)
    (size : Nat) : Kept recorded strict published taken (b.resize size) (s.truncate size) := by
  obtain ⟨hstamped, hledger, hexact⟩ := h
  exact ⟨hstamped, hledger.truncate size, fun h => (hexact h).truncate size⟩

theorem Kept.mono {b : Block} {s : Stream} (h : Kept recorded strict published taken b s)
    {strict' : Prop} (hstrict : strict' → strict) : Kept recorded strict' published taken b s :=
  ⟨h.1, h.2.1, fun hs => h.2.2 (hstrict hs)⟩

/-- A fetch takes a group of records; it leaves none out if it has room for all and none was
lost. -/
theorem Kept.fetch {b : Block} {s s' : Stream} (h : Kept recorded strict published taken b s)
    {slot room : Nat} {kind : Kind} {stamped : Bool} {found : MarkerRead}
    (hfetch : s.fetch slot room kind (stamped && b.stamped) = .ok (found, s')) {strict' : Prop}
    (hstrict : strict' → strict ∧ s.lost = false ∧ s.unread - slot ≤ room)
    (streams : Table Pair Stream) :
    ∃ group, Handout.Of recorded ⟨kind, stamped, found.samples⟩ group ∧
      Kept recorded strict' published (taken ++ group) { b with streams } s' := by
  obtain ⟨rfl, hledger, hexact⟩ := h
  obtain ⟨skipped, group, hpending, hgive, -, hskipped, -⟩ :=
    Stream.pending_of_fetch hledger.unread_le hfetch
  have hle := Stream.unread_le_of_fetch hledger.unread_le hfetch
  refine ⟨group, hgive, rfl, hledger.of_pending_eq hle hpending, fun h => ?_⟩
  obtain ⟨h, hlost, hroom⟩ := hstrict h
  have hskipped : skipped = [] := by
    rw [← List.length_eq_zero_iff, hskipped]
    omega
  rw [hskipped, List.nil_append] at hpending
  exact (hexact h).of_pending_eq hlost hpending

/-- A turn that returns nothing keeps the account if it keeps that of the stream. -/
theorem Accounted.of_hasStream (h : w.Accounted block item topic recorded strict) {a : Accessor}
    {e : Exchange} (ha : a.name = block)
    (he : ∀ taken,
      w.exchange.HasStream block ⟨item, topic⟩ (Kept recorded strict w.published taken) →
      e.HasStream block ⟨item, topic⟩ (Kept recorded strict published taken)) :
    Accounted block item topic recorded strict ⟨a, e, published, w.handed⟩ := by
  obtain ⟨groups, hgroups, hstream⟩ := h.exists_groups
  exact ⟨ha, groups, hgroups, he _ hstream⟩

theorem Accounted.mono (h : w.Accounted block item topic recorded strict) {strict' : Prop}
    (hstrict : strict' → strict) : w.Accounted block item topic recorded strict' := by
  obtain ⟨groups, hgroups, hstream⟩ := h.exists_groups
  exact ⟨h.name_eq, groups, hgroups, hstream.imp fun b s hkept => hkept.mono hstrict⟩

/-- A turn that returns the samples of a group of records keeps the account. -/
theorem Accounted.hand {groups : List (List Record)}
    (hgroups : List.Forall₂ (Handout.Of recorded) w.handed groups) {a : Accessor} {e : Exchange}
    (ha : a.name = block) {handout : Handout} {group : List Record}
    (hgroup : handout.Of recorded group)
    (he : e.HasStream block ⟨item, topic⟩
      (Kept recorded strict w.published (groups.flatten ++ group))) :
    Accounted block item topic recorded strict ⟨a, e, w.published, w.handed ++ [handout]⟩ := by
  refine ⟨ha, groups ++ [group], List.rel_append hgroups (.cons hgroup .nil), ?_⟩
  rwa [List.flatten_append, List.flatten_cons, List.flatten_nil, List.append_nil]

/-- A marker read of the accessor keeps the account. -/
theorem Accounted.sinceMarker (h : w.Accounted block item topic recorded strict) (form : Form)
    (index : Int) (policy : LossPolicy) :
    (w.step draw item topic (.sinceMarker form index policy)).Accounted block item topic recorded
      (strict ∧ policy = .fail) := by
  obtain rfl := h.name_eq
  obtain ⟨groups, hgroups, b, s, hb, hs, hkept⟩ := h.exists_groups
  unfold Session.step
  dsimp only
  generalize hout : ((Accessor.sinceMarker form item topic index policy).start w.accessor).run
    (handler draw) w.exchange = out
  obtain ⟨hname, houtcome⟩ := sinceMarker_outcome hb hs hout
  obtain ⟨⟨result, a'⟩, e'⟩ := out
  dsimp only at hname houtcome ⊢
  cases houtcome with
  | still hnone =>
    have he : w.exchange.HasStream w.accessor.name ⟨item, topic⟩
        (Kept recorded (strict ∧ policy = .fail) w.published groups.flatten) :=
      ⟨b, s, hb, hs, hkept.mono And.left⟩
    cases result with
    | error x => exact ⟨hname, groups, hgroups, he⟩
    | ok points =>
      rw [hnone points rfl]
      have hempty : Handout.Of recorded ⟨form.kind, w.accessor.stamped, []⟩ [] := rfl
      exact .hand hgroups hname hempty (by rwa [List.append_nil])
  | fetched hfetch hresult hstrict =>
    obtain ⟨points, hpoints, hanswer⟩ :=
      markerAnswer_eq_ok hkept.2.1.unread_le hfetch item topic hstrict
    obtain ⟨group, hgroup, hkept⟩ := hkept.fetch hfetch
      (fun h : strict ∧ policy = .fail => ⟨h.1, hstrict h.2⟩) _
    rw [hresult, hanswer]
    dsimp only
    rw [hpoints]
    exact .hand hgroups hname hgroup (.replace hb hs hkept)

/-- A marker read without the accessor keeps the account. -/
theorem Accounted.fetch (h : w.Accounted block item topic recorded strict) (draw : String)
    (first room : Nat) (kind : Kind) (stamped : Bool) :
    (w.step draw item topic (.fetch first room kind stamped)).Accounted block item topic recorded
      False := by
  obtain rfl := h.name_eq
  obtain ⟨groups, hgroups, b, s, hb, hs, hkept⟩ := h.exists_groups
  unfold Session.step
  dsimp only
  split
  next found e' hperform =>
    obtain ⟨s', hfetch, rfl⟩ := of_perform_sinceMarker hb hs hperform
    obtain ⟨group, hgroup, hkept⟩ := hkept.fetch hfetch False.elim _
    exact .hand hgroups rfl hgroup (.replace hb hs hkept)
  next => exact ⟨rfl, groups, hgroups, b, s, hb, hs, hkept.mono False.elim⟩

/-- A call of the accessor that keeps the account of the stream keeps that of the session. -/
theorem Accounted.call (h : w.Accounted block item topic recorded strict) (c : Call)
    (hc : ∀ taken r (x : Exchange), c.MayAsk block r →
      x.HasStream block ⟨item, topic⟩ (Kept recorded strict w.published taken) →
      (handler draw r x).2.HasStream block ⟨item, topic⟩
        (Kept recorded strict w.published taken)) :
    Accounted block item topic recorded strict
      ⟨((c.operation.start w.accessor).run (handler draw) w.exchange).1.2,
        ((c.operation.start w.accessor).run (handler draw) w.exchange).2, w.published,
        w.handed⟩ := by
  obtain rfl := h.name_eq
  have hname := (c.run_keeps draw w.accessor (J := fun _ => True) (fun _ _ _ hx => hx)
    (e := w.exchange) trivial).1
  exact h.of_hasStream hname fun taken hstream => (c.run_keeps draw w.accessor (hc taken) hstream).2

/-- Every turn keeps the account. -/
theorem Accounted.step (h : w.Accounted block item topic recorded strict) (turn : Turn) :
    (w.step draw item topic turn).Accounted block item topic recorded
      (strict ∧ turn.isStrict = true) := by
  cases turn with
  | publish r =>
    refine .mono ?_ And.left
    exact h.of_hasStream h.name_eq fun taken hstream =>
      hstream.publish r fun b s hkept => hkept.push _ r
  | call c hc =>
    refine .mono ?_ And.left
    exact h.call c fun taken r x hr hx => hx.read draw (Call.isRead_of_mayAsk hc hr)
  | request r hr =>
    refine .mono ?_ And.left
    exact h.of_hasStream h.name_eq fun taken hstream => hstream.read draw hr
  | resize size =>
    refine .mono ?_ And.left
    refine h.call (.resize size) fun taken r x hr hx => ?_
    rcases hr with hr | rfl
    · exact hx.read draw hr
    · exact hx.resizeBlock draw size fun b s hkept => hkept.truncate size
  | resizeBlock size =>
    refine .mono ?_ And.left
    refine h.of_hasStream h.name_eq fun taken hstream => ?_
    rw [h.name_eq]
    exact hstream.resizeBlock draw size fun b s hkept => hkept.truncate size
  | sinceMarker form index policy =>
    exact (h.sinceMarker form index policy).mono (And.imp_right of_decide_eq_true)
  | fetch first room kind stamped =>
    exact (h.fetch draw first room kind stamped).mono fun hstrict => Bool.noConfusion hstrict.2

theorem Accounted.after (h : w.Accounted block item topic recorded strict) (draw : String)
    (turns : List Turn) :
    (w.after draw item topic turns).Accounted block item topic recorded
      (strict ∧ ∀ turn ∈ turns, turn.isStrict = true) := by
  induction turns generalizing w strict with
  | nil => exact h.mono And.left
  | cons turn turns ih =>
    refine (ih (h.step turn)).mono fun hall => ⟨⟨hall.1, ?_⟩, fun t ht => ?_⟩
    · exact hall.2 turn List.mem_cons_self
    · exact hall.2 t (List.mem_cons_of_mem _ ht)

end Accounted

/-- **Marker reads return records in order.** A session begins with an empty stream, as every
stream is that a new name begins. After any turns what the marker reads returned are groups of
records that were written, in the order of their writing and each at most once, and all of them were
written before those that are still unread. If all marker reads were strict ones of the accessor,
and no unread record is lost, the groups and the unread records are all that was written. -/
theorem marker_reads_in_order (draw item topic : String) {a : Accessor} {e : Exchange} {b : Block}
    (hb : e.block a.name = .ok b) (hs : b.stream ⟨item, topic⟩ = .ok .empty) (turns : List Turn) :
    let w := (start a e).after draw item topic turns
    ∃ b' s groups, w.exchange.block a.name = .ok b' ∧ b'.stream ⟨item, topic⟩ = .ok s ∧
      List.Forall₂ (Handout.Of b.stamped) w.handed groups ∧
      (∃ passed, w.published = passed ++ s.pending ∧ groups.flatten.Sublist passed) ∧
      ((∀ turn ∈ turns, turn.isStrict = true) → s.lost = false →
        groups.flatten ++ s.pending = w.published) := by
  have hstart : (start a e).Accounted a.name item topic b.stamped True :=
    ⟨rfl, [], .nil, b, .empty, hb, hs, rfl, .start, fun _ => .start⟩
  obtain ⟨groups, hgroups, b', s, hb', hs', -, hledger, hexact⟩ :=
    (hstart.after draw turns).exists_groups
  exact ⟨b', s, groups, hb', hs', hgroups, hledger.exists_passed,
    fun hturns => hexact ⟨trivial, hturns⟩⟩

/-- Three records are written to a stream of two slots, with a strict read after the first and one
down to the older slot at the end. -/
theorem marker_reads_in_order_oneStream :
    let a := ofSettings "B" { size := 2, stamped := true }
    let turns : List Turn :=
      [.publish ⟨.long 1, .zero⟩, .sinceMarker .long 0 .fail, .publish ⟨.long 2, .zero⟩,
        .publish ⟨.long 3, .zero⟩, .sinceMarker .long (-1) .fail]
    let w := (start a oneStream).after "" "X" "VOLUME" turns
    oneStream.block "B" = .ok (((Block.new 2 true 1000).add .item "X").add .topic "VOLUME") ∧
      w.handed = [⟨.long, true, [⟨.long 1, some .zero⟩]⟩, ⟨.long, true, [⟨.long 2, some .zero⟩]⟩] ∧
      ∃ b s groups, w.exchange.block "B" = .ok b ∧ b.stream ⟨"X", "VOLUME"⟩ = .ok s ∧
        List.Forall₂ (Handout.Of true) w.handed groups ∧
        (∃ passed, w.published = passed ++ s.pending ∧ groups.flatten.Sublist passed) ∧
        ((∀ turn ∈ turns, turn.isStrict = true) → s.lost = false →
          groups.flatten ++ s.pending = w.published) := by
  intro a turns w
  have hb : oneStream.block a.name =
    .ok (((Block.new 2 true 1000).add .item "X").add .topic "VOLUME") := rfl
  exact ⟨hb, by decide +kernel, marker_reads_in_order "" "X" "VOLUME" hb rfl turns⟩

end Session

end TickerTape.Accessor
