import TickerTape.Proofs.FeedTicks
import TickerTape.Proofs.TypedReads

/-!
# Streams that are driven by feeds

Two tables know the topics: one gives the kind of values that a topic has, the other takes the value
of a topic out of a quote. They agree, so an exchange into which all values come from feeds stays
typed, although a write checks nothing. This holds whatever else happens to the exchange, and also
while a call of an accessor is under way, since other things may happen before each of its requests.

## Main definitions

* `TickerTape.Engine.Happening` — what may happen to an exchange whose values come from feeds.
* `TickerTape.Engine.Exchange.amid` — the exchange after a history of happenings.
* `TickerTape.Engine.Exchange.shared` — the exchange as a partner that others use as well.

## Main results

* `TickerTape.Quote.topicKind_of_value` — the two tables agree.
* `TickerTape.Engine.Exchange.Typed.move` — requests keep an exchange typed.
* `TickerTape.Engine.Exchange.Typed.amid` — so does every history.
* `TickerTape.Engine.Exchange.feeds_keep_streams_typed` — typed reads never fail for a kind.
-/

namespace TickerTape

/-- The value that a quote has of a topic is of the kind that the topic has. -/
theorem Quote.topicKind_of_value {q : Quote} {topic : String} {v : Value}
    (h : q.value topic = some v) : topicKind topic = some v.kind := by
  -- One row of the table, in front of the others.
  have hrow {c : Prop} [Decidable c] {w : Value} {rows : Option Value}
      (hw : c → topicKind topic = some w.kind)
      (hrows : rows = some v → topicKind topic = some v.kind)
      (h : (if c then some w else rows) = some v) : topicKind topic = some v.kind := by
    split at h
    next hc => exact Option.some.inj h ▸ hw hc
    next => exact hrows h
  revert h
  refine hrow (fun h => h ▸ rfl) <| hrow (fun h => h ▸ rfl) <| hrow (fun h => h ▸ rfl) <|
    hrow (fun h => h ▸ rfl) <| hrow (fun h => h ▸ rfl) <| hrow (fun h => h ▸ rfl) <|
    hrow (fun h => h ▸ rfl) <| hrow (fun h => h ▸ rfl) <| hrow (fun h => ?_) <|
    hrow (fun h => h ▸ rfl) nofun
  obtain rfl | rfl := h
  all_goals rfl

theorem Feed.topicKind_of_record {quotes : Table String Quote} {p : Engine.Pair}
    {r : Engine.Record} (h : record quotes p = some r) :
    topicKind p.topic = some r.value.kind := by
  rw [record_eq] at h
  obtain ⟨q, -, h⟩ := Option.bind_eq_some_iff.mp h
  obtain ⟨v, hv, rfl⟩ := Option.map_eq_some_iff.mp h
  exact Quote.topicKind_of_value hv

namespace Engine

/-! ### What keeps streams typed -/

namespace Stream.Typed

variable {topic : String} {s s' : Stream}

theorem empty (topic : String) : Stream.empty.Typed topic := nofun

theorem truncate (h : s.Typed topic) (capacity : Nat) : (s.truncate capacity).Typed topic := by
  intro r hr
  rw [records_truncate] at hr
  exact h r (List.mem_of_mem_take hr)

theorem push (h : s.Typed topic) (capacity : Nat) {r : Record}
    (hr : topicKind topic = some r.value.kind) : (s.push capacity r).Typed topic := by
  intro r' hr'
  rw [records_push] at hr'
  obtain rfl | hr' := List.mem_cons.mp (List.mem_of_mem_take hr')
  · exact hr
  · exact h r' hr'

theorem fetch (h : s.Typed topic) {first room : Nat} {kind : Kind} {stamped : Bool}
    {found : MarkerRead} (hfetch : s.fetch first room kind stamped = .ok (found, s')) :
    s'.Typed topic := by
  rw [Typed, (of_fetch_eq_ok hfetch).1]
  exact h

end Stream.Typed

namespace Block.Typed

variable {b b' : Block}

theorem new (size : Nat) (stamped : Bool) (timeout : Nat) : (new size stamped timeout).Typed :=
  nofun

/-- A typed stream in place of another keeps a block typed. -/
theorem replace (h : b.Typed) {p : Pair} {s : Stream} (hs : s.Typed p.topic) :
    Block.Typed { b with streams := b.streams.insert p s } := by
  intro q t ht
  rw [Table.get?_insert] at ht
  split at ht
  next hq =>
    cases ht
    exact hq ▸ hs
  next => exact h q t ht

theorem resize (h : b.Typed) (size : Nat) : (b.resize size).Typed := by
  intro p s hs
  rw [Block.resize, Table.get?_mapValues] at hs
  obtain ⟨t, ht, rfl⟩ := Option.map_eq_some_iff.mp hs
  exact (h p t ht).truncate size

theorem add (h : b.Typed) (axis : Axis) (name : String) : (b.add axis name).Typed := by
  by_cases hname : (b.names axis).contains name = true
  · rwa [Block.add, if_pos hname]
  · intro p s hs
    rw [get?_streams_add (Bool.not_eq_true _ ▸ hname)] at hs
    split at hs
    · cases hs
      exact .empty _
    · exact h p s hs

theorem remove (h : b.Typed) {axis : Axis} {name : String} (hremove : b.remove axis name = .ok b') :
    b'.Typed := by
  intro p s hs
  rw [(of_remove_eq_ok hremove).2.2.2 p] at hs
  split at hs
  · contradiction
  · exact h p s hs

theorem write (h : b.Typed) {p : Pair} {r : Record} (hr : topicKind p.topic = some r.value.kind) :
    (b.write p r).Typed := by
  rw [Block.write]
  split
  next s hs => exact h.replace ((h p s hs).push b.size hr)
  next => exact h

theorem fetch (h : b.Typed) {p : Pair} {first room : Nat} {kind : Kind} {stamped : Bool}
    {found : MarkerRead} (hfetch : b.fetch p first room kind stamped = .ok (found, b')) :
    b'.Typed := by
  obtain ⟨-, s, s', hs, hstream, rfl⟩ := fetch_eq_ok_iff.mp hfetch
  exact h.replace ((h p s (stream_eq_ok_iff.mp hs).2.2).fetch hstream)

end Block.Typed

namespace Exchange

namespace Typed

variable {e e' : Exchange}

theorem start : start.Typed := nofun

theorem of_block_eq_ok (h : e.Typed) {name : String} {b : Block} (hb : e.block name = .ok b) :
    b.Typed :=
  h name b (block_eq_ok_iff.mp hb).2

/-- A typed block in place of another keeps an exchange typed. -/
theorem setBlock (h : e.Typed) {name : String} {b : Block} (hb : b.Typed) :
    (e.setBlock name b).Typed := by
  intro other c hc
  rw [Exchange.setBlock, Table.get?_insert] at hc
  split at hc
  · cases hc
    exact hb
  · exact h other c hc

/-- A request keeps an exchange typed. -/
theorem move (h : e.Typed) {draw : String} {r : Request} (hmove : Move draw e r e') :
    e'.Typed := by
  cases hmove with
  | still => exact h
  | setLimit => exact h
  | createBlock => exact h.setBlock (.new _ _ _)
  | closeBlock name =>
    intro other c hc
    rw [Table.get?_erase] at hc
    split at hc
    · contradiction
    · exact h other c hc
  | resizeBlock _ hb => exact h.setBlock ((h.of_block_eq_ok hb).resize _)
  | addMember _ hb => exact h.setBlock ((h.of_block_eq_ok hb).add _ _)
  | removeMember hb hremove => exact h.setBlock ((h.of_block_eq_ok hb).remove hremove)
  | sinceMarker hb hfetch => exact h.setBlock ((h.of_block_eq_ok hb).fetch hfetch)

theorem publish (h : e.Typed) {p : Pair} {r : Record} (hr : topicKind p.topic = some r.value.kind) :
    (e.publish p r).2.Typed := by
  intro name b hb
  rw [Exchange.publish, Table.get?_mapValues] at hb
  obtain ⟨c, hc, rfl⟩ := Option.map_eq_some_iff.mp hb
  exact (h name c hc).write hr

/-- A feed publishes values of the kinds of their topics. -/
theorem publishQuotes (h : e.Typed) (quotes : Table String Quote) (pairs : List Pair) :
    (Feed.publish quotes pairs e).2.Typed := by
  induction pairs generalizing e with
  | nil => exact h
  | cons p pairs ih =>
    rw [Feed.publish]
    split
    next r hr => exact ih (h.publish (Feed.topicKind_of_record hr))
    next => exact ih h

end Typed

end Exchange

/-! ### Histories -/

/-- What may happen to an exchange whose values come from feeds. -/
inductive Happening where
  /-- The connection is lost or regained. -/
  | connect (connected : Bool)
  /-- A client makes a request; a new block would get the name `draw`. -/
  | request (draw : String) (r : Request)
  /-- A feed ticks. -/
  | tick (draw : String → Draw) (f : Feed)
  /-- A feed publishes one pair in the midst of a tick. -/
  | update (quotes : Table String Quote) (p : Pair)

namespace Exchange

/-- The exchange after a happening. A tick that fails leaves it as it is. -/
def happen (e : Exchange) : Happening → Exchange
  | .connect connected => e.setConnected connected
  | .request draw r => (handler draw r e).2
  | .tick draw f =>
    match f.tick draw e with
    | .ok (.ok (_, _, e')) => e'
    | _ => e
  | .update quotes p => (Feed.publish quotes [p] e).2

/-- The exchange after a history of happenings. -/
def amid (e : Exchange) (history : List Happening) : Exchange := history.foldl happen e

/-- The exchange as a partner that others use as well. Before each request the next one of the given
histories takes place. -/
def shared (draw : String) : Handler wire (List (List Happening) × Exchange)
  | r, (pauses, e) =>
    let (reply, e') := handler draw r (e.amid (pauses.headD []))
    (reply, pauses.tail, e')

variable {e : Exchange}

theorem Typed.happen (h : e.Typed) (happening : Happening) : (e.happen happening).Typed := by
  cases happening with
  | connect connected => exact h
  | request draw r => exact h.move (move_handler draw r e)
  | tick draw f =>
    rw [Exchange.happen]
    split
    next n f' e' htick =>
      obtain ⟨-, -, -, hpublish⟩ := Feed.of_tick_eq_ok htick
      have hquotes := h.publishQuotes f'.quotes e.subscriptions
      rwa [← hpublish] at hquotes
    next => exact h
  | update quotes p => exact h.publishQuotes quotes [p]

/-- An exchange whose values come from feeds stays typed. -/
theorem Typed.amid (h : e.Typed) (history : List Happening) : (e.amid history).Typed := by
  induction history generalizing e with
  | nil => exact h
  | cons happening history ih => exact ih (h.happen happening)

/-- A call that shares a typed exchange does not fail for the kind of a value. -/
theorem Typed.refusesKind_run_shared (h : e.Typed) (draw : String)
    (pauses : List (List Happening)) (a : Accessor) {c : Accessor.Call} {topic : String}
    {form : Form} (hc : c.reads? = some (topic, form)) (hsuits : Suits topic form.kind)
    {failure : Failure}
    (hfailure : ((c.operation.start a).run (shared draw) (pauses, e)).1.1 = .error failure) :
    failure.refusesKind = false := by
  have hyields := c.neverRefusesKind_operation hc hsuits a
  refine (hyields.run (J := fun x => x.2.Typed) (fun r x hr hx => ?_) h).1 failure hfailure
  obtain ⟨pauses, x⟩ := x
  have hamid : (x.amid (pauses.headD [])).Typed := Typed.amid hx _
  exact ⟨hamid.answered_handler draw hr, hamid.move (move_handler draw r _)⟩

/-- **Feeds keep streams typed.** However the ticks of any feeds come between the other events, each
record in each stream of an exchange has the kind that the exchange tells for its topic. So a call
of any accessor that reads a topic in its own kind, as text, as values of any kind, or a long topic
as doubles, never fails for the kind of a value, also if the call shares the exchange with further
events of these sorts before each of its requests. -/
theorem feeds_keep_streams_typed (draw : String) (history : List Happening) :
    (∀ name b p s, (start.amid history).blocks.get? name = some b → b.streams.get? p = some s →
      ∀ r ∈ s.records, (start.amid history).perform draw (.topicKind p.topic) =
        .ok (r.value.kind, start.amid history)) ∧
    ∀ (pauses : List (List Happening)) (a : Accessor) (c : Accessor.Call) (topic : String)
      (form : Form), c.reads? = some (topic, form) →
      (∀ stored, topicKind topic = some stored →
        form = .text ∨ form = .any ∨ form.kind = stored ∨ form = .double ∧ stored = .long) →
      let result := ((c.operation.start a).run (shared draw) (pauses, start.amid history)).1.1
      result ≠ .error (.fault (.callFailed .dataType)) ∧
        ∀ expected found, result ≠ .error (.fault (.typeMismatch expected found)) := by
  have htyped : (start.amid history).Typed := Typed.start.amid history
  refine ⟨fun name b p s hb hs r hr => ?_, fun pauses a c topic form hc hform => ?_⟩
  · have hkind : checkTopic p.topic = .ok r.value.kind := by
      rw [checkTopic, htyped name b hb p s hs r hr]
    rw [perform, serve, Action.outcome_lift, hkind]
    rfl
  · have hsuits : Suits topic form.kind := fun stored hstored => by
      obtain rfl | rfl | h | ⟨rfl, h⟩ := hform stored hstored
      · exact .inl rfl
      · exact .inl rfl
      · exact .inr (.inl h)
      · exact .inr (.inr ⟨rfl, h⟩)
    constructor
    · intro h
      exact Bool.noConfusion (htyped.refusesKind_run_shared draw pauses a hc hsuits h)
    · intro expected found h
      exact Bool.noConfusion (htyped.refusesKind_run_shared draw pauses a hc hsuits h)

/-- A feed ticks, and a volume is read as a double while another client makes a block smaller. -/
theorem feeds_keep_streams_typed_volume :
    let p : Pair := ⟨"X", "VOLUME"⟩
    let f : Feed := ⟨.ofList [("X", .opening "X" 1.0 .zero)], ⟨feedVolatility⟩⟩
    let history : List Happening :=
      [.request "B" (.query (.createBlock 2 true 1000)),
        .request "" (.query (.addMember "B" .item "X")),
        .request "" (.query (.addMember "B" .topic "VOLUME")),
        .tick (fun _ => ⟨0.0, 0, ⟨7, 0⟩⟩) f]
    let e := start.amid history
    let c : Accessor.Call := .latest .double "X" "VOLUME"
    let a := Accessor.ofSettings "B" { size := 2, stamped := true }
    let pauses : List (List Happening) := [[], [.request "" (.query (.resizeBlock "B" 1))]]
    let out := (c.operation.start a).run (shared "") (pauses, e)
    (∃ b s, e.blocks.get? "B" = some b ∧ b.streams.get? p = some s ∧
      s.records = [⟨.long 100, ⟨7, 0⟩⟩]) ∧
      e.perform "" (.topicKind "VOLUME") = .ok (.long, e) ∧
      (out.1.1.isOk = true ∧ ∃ b, out.2.2.blocks.get? "B" = some b ∧ b.size = 1) ∧
      out.1.1 ≠ .error (.fault (.callFailed .dataType)) ∧
      ∀ expected found, out.1.1 ≠ .error (.fault (.typeMismatch expected found)) := by
  intro p f history e c a pauses out
  obtain ⟨htyped, hreads⟩ := feeds_keep_streams_typed "" history
  let r : Record := ⟨.long 100, ⟨7, 0⟩⟩
  let b := (((Block.new 2 true 1000).add .item "X").add .topic "VOLUME").write p r
  have hb : e.blocks.get? "B" = some b := by decide +kernel
  have hs : b.streams.get? p = some (Stream.empty.push 2 r) := by decide +kernel
  refine ⟨⟨b, _, hb, hs, rfl⟩, htyped "B" b p _ hb hs r (List.mem_singleton_self r),
    ⟨by decide +kernel, b.resize 1, by decide +kernel, rfl⟩, ?_⟩
  exact hreads pauses a c "VOLUME" .double rfl fun stored hstored => by
    cases hstored
    exact .inr (.inr (.inr ⟨rfl, rfl⟩))

end Exchange

end Engine

end TickerTape
