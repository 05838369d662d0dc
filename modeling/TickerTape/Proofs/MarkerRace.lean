import TickerTape.Proofs.MarkerDelivery

/-!
# Marker reads at the same time

Several readers make strict marker reads of one stream while it is written to. A read is three
requests after it has accepted its arguments, and what others do may come between any two of them,
so that the room of a fetch is computed from a marker that has moved since. The sign that comes with
the fetched records tells whether there was too little room or a record was lost before; a fetch
with room for at least one value cannot be silent about it.

## Main definitions

* `TickerTape.Accessor.Careful` — what a strict read may still do.
* `TickerTape.Accessor.Race` — readers, the exchange, and what was written and returned.
* `TickerTape.Accessor.Race.Safe` — what every step keeps.

## Main results

* `TickerTape.Accessor.careful_sinceMarker` — a strict read from its start.
* `TickerTape.Accessor.Race.no_silent_loss` — nothing is lost without a sign, whatever the schedule.
-/

namespace TickerTape.Accessor

open Engine Exchange Inquiry

/-! ### What a strict read may still do -/

/-- A strict read of a stream, by a reader of some form who wants times or not, either ends with
nothing, or makes a request that only reads, or fetches with room for at least one value and then
answers. -/
inductive Careful (stream : Address) (form : Form) (stamped : Bool) :
    Program wire (Except Failure (List (Point form.Carrier)) × Accessor) → Prop
  | done {result : Except Failure (List (Point form.Carrier))} (a : Accessor)
      (h : ∀ points, result = .ok points → points = []) :
      Careful stream form stamped (.done (result, a))
  | read {r : Request}
      {next : r.Reply → Program wire (Except Failure (List (Point form.Carrier)) × Accessor)}
      (hr : r.isRead = true) (hnext : ∀ reply, Careful stream form stamped (next reply)) :
      Careful stream form stamped (.ask r next)
  | fetch {room : Nat} (a : Accessor) (hroom : 0 < room) :
      Careful stream form stamped
        (.ask (.query (.sinceMarker stream 0 room form.kind stamped))
          fun (reply : Except Status MarkerRead) =>
            andThen (fun found => lift (markerAnswer form stream.item stream.topic .fail found))
              (reply.mapError (.fault <| .ofStatus ·), a))

namespace Careful

variable {stream : Address} {form : Form} {stamped : Bool} {a : Accessor}

/-- Reads in front of a careful program. -/
theorem bind {α : Type} {Q : α → Prop} {p : Program wire α}
    {f : α → Program wire (Except Failure (List (Point form.Carrier)) × Accessor)}
    (hp : p.Yields (fun _ _ => True) (fun r : Request => r.isRead = true) Q)
    (hf : ∀ x, Q x → Careful stream form stamped (f x)) :
    Careful stream form stamped (p >>= f) := by
  induction p with
  | done x => exact hf x hp
  | ask r next ih => exact .read hp.1 fun reply => ih reply (hp.2 reply trivial)

theorem query_bind {q : Query} {f : q.Answer → Operation (List (Point form.Carrier))}
    (hq : q.isRead = true) (hf : ∀ answer, Careful stream form stamped ((f answer).start a)) :
    Careful stream form stamped ((query q >>= f).start a) := by
  rw [start_bind, start_query]
  refine .read hq fun reply => ?_
  cases reply with
  | error status => exact .done a nofun
  | ok answer => exact hf answer

theorem lift_bind {α : Type} {x : Except Failure α}
    {f : α → Operation (List (Point form.Carrier))}
    (hf : ∀ y, x = .ok y → Careful stream form stamped ((f y).start a)) :
    Careful stream form stamped ((lift x >>= f).start a) := by
  rw [start_lift_bind]
  cases x with
  | error x => exact .done a nofun
  | ok y => exact hf y rfl

theorem refuseLoss_bind {item topic : String} {lost : Bool} {policy : LossPolicy}
    {f : Unit → Operation (List (Point form.Carrier))}
    (hf : Careful stream form stamped ((f ()).start a)) :
    Careful stream form stamped ((refuseLoss item topic lost policy >>= f).start a) := by
  rw [start_refuseLoss_bind]
  split
  · exact .done a nofun
  · exact hf

end Careful

theorem careful_fetchBehind (form : Form) (item topic : String) {room : Nat} (hroom : 0 < room)
    (a a' : Accessor) :
    Careful (a.address item topic) form a.stamped
      ((fetchBehind form item topic .fail 0 room a).start a') := by
  rw [fetchBehind, start_bind, start_query]
  exact .fetch a' hroom

theorem careful_readBehind (form : Form) (item topic : String) {a : Accessor}
    (hmargin : 0 < a.margin) (a' : Accessor) :
    Careful (a.address item topic) form a.stamped
      ((readBehind form item topic .fail 0 a).start a') := by
  rw [readBehind]
  refine .query_bind rfl fun dirty => .refuseLoss_bind <| .query_bind rfl fun position => ?_
  refine .lift_bind fun expected _ => ?_
  split
  · exact .done a' fun points h => by cases h; rfl
  · refine .lift_bind fun room hroom => careful_fetchBehind form item topic ?_ a a'
    have hroom := Word.eq_of_addUnsigned (Word.of_checked_eq_ok hroom)
    omega

/-- A strict read is careful from its start. -/
theorem careful_sinceMarker (form : Form) (item topic : String) {a : Accessor}
    (hmargin : 0 < a.margin) :
    Careful (a.address item topic) form a.stamped
      ((sinceMarker form item topic 0 .fail).start a) := by
  have htold : Told (fun _ _ => True) (fun r => r.isRead = true)
      (fun x => x.name = a.name ∧ x.stamped = a.stamped ∧ 0 < x.margin) a.name :=
    ⟨fun _ hq => hq, fun _ hx => hx.1, fun _ _ _ hx _ => hx, fun _ _ hx _ => hx⟩
  rw [sinceMarker_eq, start_bind]
  refine .bind (htold.filled.keeps_validate item topic a ⟨rfl, rfl, hmargin⟩) fun out hout => ?_
  obtain ⟨x | size, a'⟩ := out
  · exact .done a' nofun
  obtain ⟨hname, hstamped, hmargin⟩ := hout
  refine .lift_bind fun slot hslot => ?_
  obtain rfl : slot = 0 := Int.ofNat_eq_zero.mp (Slot.of_ofIndex_eq_ok hslot).1
  have hcareful := careful_readBehind form item topic hmargin a'
  rw [address, hname, hstamped] at hcareful
  exact hcareful

/-! ### Races -/

/-- A reader of a block. Its fetches make room for at least one value more than it expects. -/
structure Reader (block : String) where
  accessor : Accessor
  form : Form
  name_eq : accessor.name = block
  margin_pos : 0 < accessor.margin

/-- A strict read that waits for the reply to its next request. -/
structure Reading where
  form : Form
  stamped : Bool
  program : Program wire (Except Failure (List (Point form.Carrier)) × Accessor)

/-- What may happen in a race for a stream. -/
inductive Race.Turn (block : String) where
  /-- A record is written. -/
  | publish (r : Record)
  /-- A reader begins to read. -/
  | start (reader : Reader block)
  /-- One of the reads makes its next request. -/
  | advance (k : Nat)

/-- An exchange, the reads that go on, what was written, and what the reads that ended returned or
why they failed. -/
structure Race where
  exchange : Exchange
  readings : List Reading
  published : List Record
  handed : List Handout
  failures : List Failure

namespace Race

/-- A race before its first turn. -/
def start (e : Exchange) : Race := ⟨e, [], [], [], []⟩

/-- A read that has ended returns its points or fails; another one goes on. -/
def settle (w : Race) (r : Reading) : Race :=
  match r.program with
  | .done (.ok points, _) =>
    { w with handed := w.handed ++ [⟨r.form.kind, r.stamped, points.map r.form.toSample⟩] }
  | .done (.error x, _) => { w with failures := w.failures ++ [x] }
  | .ask .. => { w with readings := w.readings ++ [r] }

section

variable (draw : String) (stream : Address)

/-- A read makes its next request. -/
def advance (w : Race) (r : Reading) : Race :=
  match r.program with
  | .done _ => w
  | .ask q next =>
    let (reply, e) := handler draw q w.exchange
    { w with exchange := e }.settle { r with program := next reply }

/-- The race after a turn. -/
def step (w : Race) : Turn stream.block → Race
  | .publish r =>
    { w with
      exchange := (w.exchange.publish (pair stream) r).2
      published := w.published ++ [r] }
  | .start reader =>
    w.settle ⟨reader.form, reader.accessor.stamped,
      (sinceMarker reader.form stream.item stream.topic 0 .fail).start reader.accessor⟩
  | .advance k =>
    match w.readings[k]? with
    | some r => { w with readings := w.readings.eraseIdx k }.advance draw r
    | none => w

/-- The race after a sequence of turns. -/
def after (w : Race) (turns : List (Turn stream.block)) : Race :=
  turns.foldl (step draw stream) w

end

/-! ### What every step keeps -/

/-- The failure of a strict read that learns of a loss. -/
def dirty (stream : Address) : Failure := .fault (.dirtyMarker stream.item stream.topic)

/-- The account of a stream in a block, exact unless some read has failed because of a loss. -/
def Kept (stream : Address) (recorded : Bool) (failures : List Failure)
    (published taken : List Record) (b : Block) (s : Stream) : Prop :=
  s.Sound b.size ∧ 0 < b.size ∧
    Session.Kept recorded (dirty stream ∉ failures) published taken b s

/-- All reads are careful, what was returned are records, and they and the stream are accounted
for. -/
structure Safe (stream : Address) (recorded : Bool) (w : Race) : Prop where
  careful : ∀ r ∈ w.readings, Careful stream r.form r.stamped r.program
  exists_groups : ∃ groups, List.Forall₂ (Handout.Of recorded) w.handed groups ∧
    w.exchange.HasStream stream.block (pair stream)
      (Kept stream recorded w.failures w.published groups.flatten)

/-- A fetch with room for a value that does not tell of a loss takes all unread records, and none
was lost. -/
theorem takes_all_of_fetch {s s' : Stream} {capacity room : Nat} {kind : Kind} {stamped : Bool}
    {found : MarkerRead} (hsound : s.Sound capacity) (hroom : 0 < room)
    (hfetch : s.fetch 0 room kind stamped = .ok (found, s')) (hgot : ¬ found.got < 0) :
    s.lost = false ∧ s.unread - 0 ≤ room := by
  obtain ⟨_, _, -, -, hlength, -, hsign⟩ := Stream.pending_of_fetch hsound.unread_le hfetch
  have hpos := hsound.pos_of_lost
  split at hsign
  next hloss =>
    -- Some value was taken, so that the number of those taken is negative.
    rw [Bool.or_eq_true, decide_eq_true_eq] at hloss
    have : 0 < s.unread := by
      rcases hloss with hlost | hmore
      · exact hpos hlost
      · omega
    omega
  next hloss => simpa using hloss

section Safe

variable {draw : String} {stream : Address} {recorded : Bool} {w : Race}

theorem Kept.mono {failures failures' : List Failure} {published taken : List Record} {b : Block}
    {s : Stream} (h : Kept stream recorded failures published taken b s)
    (hfailures : dirty stream ∈ failures → dirty stream ∈ failures') :
    Kept stream recorded failures' published taken b s :=
  ⟨h.1, h.2.1, h.2.2.mono (mt hfailures)⟩

/-- A fetch takes a group of records. If it tells of a loss, the group is not returned and the read
fails. -/
theorem Kept.fetch {failures : List Failure} {published taken : List Record} {b : Block}
    {s s' : Stream} (h : Kept stream recorded failures published taken b s) {room : Nat}
    (hroom : 0 < room) {kind : Kind} {stamped : Bool} {found : MarkerRead}
    (hfetch : s.fetch 0 room kind (stamped && b.stamped) = .ok (found, s'))
    (streams : Table Pair Stream) :
    ∃ group, Handout.Of recorded ⟨kind, stamped, found.samples⟩ group ∧
      (found.got < 0 →
        Kept stream recorded (failures ++ [dirty stream]) published taken { b with streams } s') ∧
      (¬ found.got < 0 →
        Kept stream recorded failures published (taken ++ group) { b with streams } s') := by
  obtain ⟨hsound, hsize, hkept⟩ := h
  have hall (hstrict : dirty stream ∉ failures ∧ ¬ found.got < 0) :
      dirty stream ∉ failures ∧ s.lost = false ∧ s.unread - 0 ≤ room :=
    ⟨hstrict.1, takes_all_of_fetch hsound hroom hfetch hstrict.2⟩
  obtain ⟨group, hgroup, hkept⟩ := hkept.fetch hfetch hall streams
  have hsound' : s'.Sound b.size := hsound.fetch hfetch
  refine ⟨group, hgroup, fun hgot => ?_, fun hgot => ?_⟩
  · obtain ⟨hstamped, hledger, -⟩ := hkept
    refine ⟨hsound', hsize, hstamped, hledger.of_sublist (List.sublist_append_left _ _), ?_⟩
    exact fun hnone => absurd (List.mem_append_right _ List.mem_cons_self) hnone
  · exact ⟨hsound', hsize, hkept.mono fun hnone => ⟨hnone, hgot⟩⟩

/-- A read that returns the samples of a group of records keeps the account. -/
theorem Safe.hand {e : Exchange} {readings : List Reading} {published : List Record}
    {handed : List Handout} {failures : List Failure}
    (hcareful : ∀ r ∈ readings, Careful stream r.form r.stamped r.program)
    {groups : List (List Record)} (hgroups : List.Forall₂ (Handout.Of recorded) handed groups)
    {handout : Handout} {group : List Record} (hgroup : handout.Of recorded group)
    (hstream : e.HasStream stream.block (pair stream)
      (Kept stream recorded failures published (groups.flatten ++ group))) :
    Safe stream recorded ⟨e, readings, published, handed ++ [handout], failures⟩ := by
  refine ⟨hcareful, groups ++ [group], List.rel_append hgroups (.cons hgroup .nil), ?_⟩
  rwa [List.flatten_append, List.flatten_cons, List.flatten_nil, List.append_nil]

/-- A careful read may go on, or end with nothing. -/
theorem Safe.settle (h : w.Safe stream recorded) {r : Reading}
    (hr : Careful stream r.form r.stamped r.program) : (w.settle r).Safe stream recorded := by
  obtain ⟨groups, hgroups, hstream⟩ := h.exists_groups
  cases hprogram : r.program with
  | ask q next =>
    rw [Race.settle, hprogram]
    refine ⟨fun r' hr' => ?_, groups, hgroups, hstream⟩
    rcases List.mem_append.mp hr' with hr' | hr'
    · exact h.careful r' hr'
    · rw [List.mem_singleton.mp hr']
      exact hr
  | done out =>
    rw [Race.settle]
    rw [hprogram] at hr ⊢
    cases hr with
    | @done result a hnone =>
      cases result with
      | error x =>
        refine ⟨h.careful, groups, hgroups, hstream.imp fun b s hkept => ?_⟩
        exact hkept.mono (List.mem_append_left _)
      | ok points =>
        have hempty : Handout.Of recorded ⟨r.form.kind, r.stamped, []⟩ [] := rfl
        rw [hnone points rfl]
        exact .hand h.careful hgroups hempty (by rwa [List.append_nil])

/-- A fetch with room for a value keeps the account. -/
theorem Safe.fetch (h : w.Safe stream recorded) {form : Form} {stamped : Bool} {room : Nat}
    (a : Accessor) (hroom : 0 < room) :
    (w.advance draw ⟨form, stamped, .ask (.query (.sinceMarker stream 0 room form.kind stamped))
      fun (reply : Except Status MarkerRead) =>
        andThen (fun found => lift (markerAnswer form stream.item stream.topic .fail found))
          (reply.mapError (.fault <| .ofStatus ·), a)⟩).Safe stream recorded := by
  rw [Race.advance]
  dsimp only
  cases hperform : w.exchange.perform draw (.sinceMarker stream 0 room form.kind stamped) with
  | error status =>
    rw [handler_of_perform_eq_error hperform]
    exact h.settle (.done a nofun)
  | ok reply =>
    rw [handler_of_perform_eq_ok hperform]
    obtain ⟨found, e'⟩ := reply
    obtain ⟨groups, hgroups, b, s, hb, hs, hkept⟩ := h.exists_groups
    obtain ⟨s', hfetch, rfl⟩ := of_perform_sinceMarker hb hs hperform
    obtain ⟨points, hpoints, hanswer⟩ := markerAnswer_of_fetch hkept.1.unread_le hfetch
      stream.item stream.topic .fail
    obtain ⟨group, hgroup, hloss, hall⟩ := hkept.fetch hroom hfetch _
    rw [Except.mapError, andThen_ok, start_lift, hanswer]
    rw [Race.settle]
    by_cases hgot : found.got < 0
    · rw [if_pos ⟨hgot, rfl⟩]
      exact ⟨h.careful, groups, hgroups, .replace hb hs (hloss hgot)⟩
    · rw [if_neg fun hc => hgot hc.1]
      dsimp only
      rw [hpoints]
      exact .hand h.careful hgroups hgroup (.replace hb hs (hall hgot))

/-- The next request of a careful read keeps the account. -/
theorem Safe.advance (h : w.Safe stream recorded) {r : Reading}
    (hr : Careful stream r.form r.stamped r.program) : (w.advance draw r).Safe stream recorded := by
  obtain ⟨form, stamped, program⟩ := r
  dsimp only at hr
  cases hr with
  | done a hnone => exact h
  | @read q next hq hnext =>
    have he := handler_of_isRead draw hq w.exchange
    rw [Race.advance]
    dsimp only
    rw [he]
    exact h.settle (hnext _)
  | @fetch room a hroom => exact h.fetch a hroom

/-- A turn keeps the account. -/
theorem Safe.step (h : w.Safe stream recorded) (turn : Turn stream.block) :
    (w.step draw stream turn).Safe stream recorded := by
  cases turn with
  | publish r =>
    obtain ⟨groups, hgroups, hstream⟩ := h.exists_groups
    refine ⟨h.careful, groups, hgroups, hstream.publish r fun b s hkept => ?_⟩
    obtain ⟨hsound, hsize, hkept⟩ := hkept
    rw [Kept, Block.size_write]
    exact ⟨hsound.push hsize r, hsize, hkept.push _ r⟩
  | start reader =>
    have hcareful := careful_sinceMarker reader.form stream.item stream.topic reader.margin_pos
    rw [address, reader.name_eq] at hcareful
    exact h.settle hcareful
  | advance k =>
    unfold Race.step
    dsimp only
    split
    next r hr =>
      have hrest : Safe stream recorded { w with readings := w.readings.eraseIdx k } :=
        ⟨fun r' hr' => h.careful r' (List.mem_of_mem_eraseIdx hr'), h.exists_groups⟩
      exact hrest.advance (h.careful r (List.mem_of_getElem? hr))
    next => exact h

theorem Safe.after (h : w.Safe stream recorded) (draw : String)
    (turns : List (Turn stream.block)) : (w.after draw stream turns).Safe stream recorded := by
  induction turns generalizing w with
  | nil => exact h
  | cons turn turns ih => exact ih (h.step turn)

end Safe

/-- **No record is lost without a sign.** Any number of strict readers, whose fetches make room for
at least one value more than they expect, read a stream that begins empty, while records are written
to it; their requests and the writes come in any order. At every point what the readers returned are
groups of records that were written, in the order of their writing and each at most once. Either
these and the unread records are all that was written, or the stream is dirty, or some read has
failed because of a loss. -/
theorem no_silent_loss (draw : String) (stream : Address) {e : Exchange} (he : e.Reachable)
    {b : Block} (hb : e.block stream.block = .ok b) (hs : b.stream (pair stream) = .ok .empty)
    (turns : List (Turn stream.block)) :
    let w := (start e).after draw stream turns
    ∃ b' s groups, w.exchange.block stream.block = .ok b' ∧ b'.stream (pair stream) = .ok s ∧
      List.Forall₂ (Handout.Of b.stamped) w.handed groups ∧
      (∃ passed, w.published = passed ++ s.pending ∧ groups.flatten.Sublist passed) ∧
      (groups.flatten ++ s.pending = w.published ∨ s.lost = true ∨
        .fault (.dirtyMarker stream.item stream.topic) ∈ w.failures) := by
  have hblock : b.Sound := he.sound.of_block_eq_ok hb
  have hstart : (start e).Safe stream b.stamped :=
    ⟨nofun, [], .nil, b, .empty, hb, hs, Stream.sound_empty _, hblock.one_le_size, rfl, .start,
      fun _ => .start⟩
  obtain ⟨groups, hgroups, b', s, hb', hs', -, -, -, hledger, hexact⟩ :=
    (hstart.after draw turns).exists_groups
  refine ⟨b', s, groups, hb', hs', hgroups, hledger.exists_passed, ?_⟩
  by_cases hdirty : dirty stream ∈ ((start e).after draw stream turns).failures
  · exact .inr (.inr hdirty)
  · cases hlost : s.lost with
    | true => exact .inr (.inl rfl)
    | false => exact .inl (hexact hdirty hlost)

/-- The writer overtakes a read of a stream of two slots between its last two requests, and the read
fails. -/
theorem no_silent_loss_oneStream :
    let reader : Reader "B" :=
      ⟨ofSettings "B" { size := 2, stamped := true }, .long, rfl, by decide⟩
    let turns : List (Turn "B") :=
      [.publish ⟨.long 1, .zero⟩, .start reader, .advance 0, .advance 0, .advance 0, .advance 0,
        .publish ⟨.long 2, .zero⟩, .publish ⟨.long 3, .zero⟩, .advance 0]
    let w := (start oneStream).after "" ⟨"B", "X", "VOLUME"⟩ turns
    w.handed = [] ∧ w.failures = [.fault (.dirtyMarker "X" "VOLUME")] ∧ oneStream.Reachable ∧
      ∃ b s groups, w.exchange.block "B" = .ok b ∧ b.stream ⟨"X", "VOLUME"⟩ = .ok s ∧
        List.Forall₂ (Handout.Of true) w.handed groups ∧
        (∃ passed, w.published = passed ++ s.pending ∧ groups.flatten.Sublist passed) ∧
        (groups.flatten ++ s.pending = w.published ∨ s.lost = true ∨
          .fault (.dirtyMarker "X" "VOLUME") ∈ w.failures) := by
  intro reader turns w
  have he : oneStream.Reachable := ⟨_, rfl⟩
  have hb : oneStream.block "B" =
    .ok (((Block.new 2 true 1000).add .item "X").add .topic "VOLUME") := rfl
  exact ⟨by decide +kernel, by decide +kernel, he,
    no_silent_loss "" ⟨"B", "X", "VOLUME"⟩ he hb rfl turns⟩

end Race

end TickerTape.Accessor
