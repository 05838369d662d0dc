import TickerTape.Foreign.Adapter
import TickerTape.Proofs.Yields

/-!
# What an adapter calls

An adapter makes one or two calls for each request to an engine. Each call is handed names of the
request, in their order and beginning with the first, and only a marker read makes the call for one.

## Main definitions

* `TickerTape.Foreign.Adapted.Yields` — what a part of an answer calls and how it ends.
* `TickerTape.Engine.Query.names`, `TickerTape.Foreign.Call.names` — the names of a request and
  those that a call is handed.
* `TickerTape.Foreign.Call.Serves` — the calls that may be made for a request.

## Main results

* `TickerTape.Program.Yields.through` — a program behind an adapter.
* `TickerTape.Foreign.Adapter.yields_perform` — the calls for a request.
-/

namespace TickerTape

open Engine

/-! ### Programs behind an adapter -/

namespace Program

variable {I J : Interface} {α β ε : Type} {f : (r : I.Request) → Program J (Except ε (I.Reply r))}

/-- The second of two programs behind an adapter, after the first has ended. -/
theorem through_bind (p : Program I α) (g : α → Program I β) :
    through f (p >>= g) = through f p >>= fun
      | .ok a => through f (g a)
      | .error e => done (.error e) := by
  induction p with
  | done a => rfl
  | ask r next ih =>
    rw [ask_bind, through, through, bind_assoc]
    congr 1
    funext result
    cases result with
    | ok reply => exact ih reply
    | error e => rfl

/-- A program behind an adapter calls what the adapter calls for its requests. -/
theorem Yields.through {P : I.Request → Prop} {P' : J.Request → Prop} {Q : α → Prop}
    {p : Program I α} (hp : p.Yields (fun _ _ => True) P Q)
    (hf : ∀ r, P r → (f r).Yields (fun _ _ => True) P' fun _ => True) :
    (p.through f).Yields (fun _ _ => True) P' fun result => ∀ a, result = .ok a → Q a := by
  induction p with
  | done a =>
    intro b hb
    exact Except.ok.inj hb ▸ hp
  | ask r next ih =>
    rw [Program.through]
    refine (hf r hp.1).bind fun result _ => ?_
    cases result with
    | ok reply => exact ih reply (hp.2 reply trivial)
    | error e => exact fun _ h => nomatch h

end Program

/-! ### Names of requests and calls -/

/-- The names that a request holds, in the order in which they are checked. A new block gets the
drawn one. -/
def Engine.Query.names (draw : String) : Query → List String
  | .createBlock .. => [draw]
  | .closeBlock block => [block]
  | .blockSize block => [block]
  | .resizeBlock block _ => [block]
  | .members block _ => [block]
  | .waiting block _ => [block]
  | .addMember block _ name => [block, name]
  | .removeMember block _ name => [block, name]
  | .topicKind topic => [topic]
  | .occupancy a => [a.block, a.item, a.topic]
  | .value a _ _ _ => [a.block, a.item, a.topic]
  | .range a _ _ _ _ => [a.block, a.item, a.topic]
  | .markerDirty a => [a.block, a.item, a.topic]
  | .markerPosition a => [a.block, a.item, a.topic]
  | .sinceMarker a _ _ _ _ => [a.block, a.item, a.topic]
  | .itemFrame block topic _ _ => [block, topic]
  | .topicFrame block item _ => [block, item]
  | .blockNames => []

namespace Foreign

/-- The names of a stream, as a list. -/
def Stream.names (s : Stream) : List Name := [s.block, s.item, s.topic]

/-- The names that a call is handed. -/
def Call.names : Call → List Name
  | .createBlock block _ _ _ => [block]
  | .closeBlock block => [block]
  | .blockSize block => [block]
  | .resizeBlock block _ => [block]
  | .occupancy stream => stream.names
  | .memberCount block _ => [block]
  | .memberNames block _ _ => [block]
  | .waitingCount block _ => [block]
  | .waitingNames block _ _ => [block]
  | .addMember block _ name => [block, name]
  | .removeMember block _ name => [block, name]
  | .topicKind topic => [topic]
  | .value stream _ _ _ => stream.names
  | .range stream _ _ _ _ _ => stream.names
  | .markerDirty stream => stream.names
  | .markerPosition stream => stream.names
  | .sinceMarker stream _ _ _ _ => stream.names
  | .itemFrame block topic _ _ _ => [block, topic]
  | .topicFrame block item _ _ => [block, item]
  | .connected | .limit | .setLimit _ | .count | .blockNames _ => []

/-- Whether a call reads what is behind a marker. -/
def Call.isMarkerRead : Call → Bool
  | .sinceMarker .. => true
  | _ => false

/-- The calls that may be made for a request: they are handed its names, some or all, and only a
marker read takes what is behind a marker. -/
structure Call.Serves (draw : String) (q : Query) (c : Call) : Prop where
  names : c.names.map (·.text) <+: q.names draw
  isMarkerRead : c.isMarkerRead = true → ∃ a first room kind stamped,
    q = .sinceMarker a first room kind stamped

/-! ### Parts of answers -/

namespace Adapted

variable {α β : Type} {P : Call → Prop} {Q : α → Prop} {R : β → Prop}

/-- Whatever the library leaves behind, the part makes only calls that satisfy `P`, and its result,
if it has one, satisfies `Q`. -/
def Yields (P : Call → Prop) (Q : α → Prop) (m : Adapted α) : Prop :=
  Program.Yields (I := library) (fun _ _ => True) P (fun result => ∀ a, result = .ok (.ok a) → Q a)
    m.run.run

/-- The second of two parts, after the first has ended. -/
theorem run_bind (m : Adapted α) (f : α → Adapted β) :
    (m >>= f).run.run = m.run.run >>= fun
      | .ok (.ok a) => (f a).run.run
      | .ok (.error status) => .done (.ok (.error status))
      | .error o => .done (.error o) := by
  change m.run.run >>= _ = _
  congr 1
  funext result
  obtain o | status | a := result
  · rfl
  · rfl
  · rfl

theorem yields_pure {a : α} (ha : Q a) : Yields P Q (pure a) := by
  intro b hb
  cases hb
  exact ha

theorem yields_lift {x : Except Status α} (hx : ∀ a, x = .ok a → Q a) :
    Yields P Q (Adapter.lift x) := by
  cases x with
  | ok a => exact yields_pure (hx a rfl)
  | error status => exact fun _ h => nomatch h

theorem yields_throw (status : Status) : Yields P Q (throw status : Adapted α) :=
  fun _ h => nomatch h

theorem Yields.bind {m : Adapted α} {f : α → Adapted β} (hm : m.Yields P Q)
    (hf : ∀ a, Q a → (f a).Yields P R) : (m >>= f).Yields P R := by
  rw [Yields, run_bind]
  refine Program.Yields.bind hm fun result hresult => ?_
  obtain o | status | a := result
  · exact fun _ h => nomatch h
  · exact fun _ h => nomatch h
  · exact hf a (hresult a rfl)

theorem yields_ite {p : Prop} [Decidable p] {m n : Adapted α} (hm : Yields P Q m)
    (hn : Yields P Q n) : Yields P Q (if p then m else n) := by
  split
  · exact hm
  · exact hn

/-- A call that may be made. -/
theorem yields_call_bind {c : Call} {f : c.Reply → Adapted α} (hc : P c)
    (hf : ∀ reply, (f reply).Yields P Q) : (Adapter.call c >>= f).Yields P Q := by
  refine Yields.bind (Q := fun _ => True) ⟨hc, fun reply _ => ?_⟩ fun reply _ => hf reply
  exact fun _ _ => trivial

theorem yields_result (o : Outcome α) : Yields P (fun _ => True) (Adapter.result o) :=
  yields_lift fun _ _ => trivial

theorem yields_name (s : String) : Yields P (fun n : Name => n.text = s) (Adapter.name s) :=
  yields_lift fun _ => Name.text_of_ofString

theorem yields_stream (a : Address) :
    Yields P (fun s : Stream => s.names.map (·.text) = [a.block, a.item, a.topic])
      (Adapter.stream a) := by
  refine (yields_name a.block).bind fun block hblock => ?_
  refine (yields_name a.item).bind fun item hitem => ?_
  refine (yields_name a.topic).bind fun topic htopic => yields_pure ?_
  simp [Stream.names, hblock, hitem, htopic]

theorem yields_span (first last : Nat) : Yields P (fun _ => True) (Adapter.span first last) :=
  yields_ite (yields_throw _) fun _ _ => trivial

end Adapted

/-! ### The calls for a request -/

namespace Adapter

open Adapted

/-- A stream of which all names can be handed over is handed over, any other is refused. -/
theorem stream_cases (a : Address) :
    (∃ names : Stream, names.names.map (·.text) = [a.block, a.item, a.topic] ∧
      stream a = pure names) ∨ stream a = throw .badInput := by
  obtain ⟨block, hblock⟩ | hblock := Name.ofString_cases a.block
  · obtain ⟨item, hitem⟩ | hitem := Name.ofString_cases a.item
    · obtain ⟨topic, htopic⟩ | htopic := Name.ofString_cases a.topic
      · refine .inl ⟨⟨block, item, topic⟩, ?_, ?_⟩
        · simp [Stream.names, Name.text_of_ofString hblock, Name.text_of_ofString hitem,
            Name.text_of_ofString htopic]
        · rw [stream, name, name, name, hblock, hitem, htopic]
          rfl
      · right
        rw [stream, name, name, name, hblock, hitem, htopic]
        rfl
    · right
      rw [stream, name, name, hblock, hitem]
      rfl
  · right
    rw [stream, name, hblock]
    rfl

variable {draw : String} {q : Query}

theorem yields_members (block : String) (axis : Axis) (hq : [block] <+: q.names draw) :
    Yields (Call.Serves draw q) (fun _ => True) (members block axis) := by
  refine (yields_name block).bind fun n hn => ?_
  subst hn
  refine yields_call_bind ⟨hq, nofun⟩ fun reply => (yields_result _).bind fun count _ => ?_
  refine yields_ite (yields_pure trivial) (yields_call_bind ⟨hq, nofun⟩ fun reply => ?_)
  exact (yields_result _).bind fun _ _ => yields_pure trivial

theorem yields_waiting (block : String) (axis : Axis) (hq : [block] <+: q.names draw) :
    Yields (Call.Serves draw q) (fun _ => True) (waiting block axis) := by
  refine (yields_name block).bind fun n hn => ?_
  subst hn
  refine yields_call_bind ⟨hq, nofun⟩ fun reply => (yields_result _).bind fun count _ => ?_
  refine yields_ite (yields_pure trivial) (yields_call_bind ⟨hq, nofun⟩ fun reply => ?_)
  exact (yields_result _).bind fun _ _ => yields_pure trivial

theorem yields_itemFrame (block topic : String) (kind : Kind) (stamped : Bool) :
    Yields (Call.Serves draw (.itemFrame block topic kind stamped)) (fun _ => True)
      (itemFrame block topic kind stamped) := by
  have hq : [block] <+: Query.names draw (.itemFrame block topic kind stamped) :=
    List.prefix_append [block] [topic]
  refine (yields_members block .item hq).bind fun names _ => ?_
  refine yields_ite (yields_pure trivial) ((yields_name block).bind fun b hb => ?_)
  refine (yields_name topic).bind fun t ht => ?_
  subst hb ht
  refine yields_call_bind ⟨List.prefix_rfl, nofun⟩ fun reply => ?_
  exact (yields_result _).bind fun _ _ => yields_pure trivial

theorem yields_topicFrame (block item : String) (stamped : Bool) :
    Yields (Call.Serves draw (.topicFrame block item stamped)) (fun _ => True)
      (topicFrame block item stamped) := by
  have hq : [block] <+: Query.names draw (.topicFrame block item stamped) :=
    List.prefix_append [block] [item]
  refine (yields_members block .topic hq).bind fun names _ => ?_
  refine yields_ite (yields_pure trivial) ((yields_name block).bind fun b hb => ?_)
  refine (yields_name item).bind fun i hi => ?_
  subst hb hi
  refine yields_call_bind ⟨List.prefix_rfl, nofun⟩ fun reply => ?_
  exact (yields_result _).bind fun _ _ => yields_pure trivial

/-- Each call for a request is one that may be made for it. -/
theorem yields_perform (draw : String) (q : Query) :
    (perform draw q).Yields (Call.Serves draw q) fun _ => True := by
  cases q with
  | createBlock size stamped timeout =>
    refine (yields_name draw).bind fun n hn => ?_
    subst hn
    refine yields_call_bind ⟨List.prefix_rfl, nofun⟩ fun reply => ?_
    exact (yields_result _).bind fun _ _ => yields_pure trivial
  | closeBlock block | blockSize block | resizeBlock block size =>
    refine (yields_name block).bind fun n hn => ?_
    subst hn
    exact yields_call_bind ⟨List.prefix_rfl, nofun⟩ fun reply => yields_result _
  | members block axis => exact yields_members block axis List.prefix_rfl
  | waiting block axis => exact yields_waiting block axis List.prefix_rfl
  | addMember block axis name | removeMember block axis name =>
    refine (yields_name block).bind fun b hb => (yields_name name).bind fun n hn => ?_
    subst hb hn
    exact yields_call_bind ⟨List.prefix_rfl, nofun⟩ fun reply => yields_result _
  | topicKind topic =>
    refine (yields_name topic).bind fun t ht => ?_
    subst ht
    refine yields_call_bind ⟨List.prefix_rfl, nofun⟩ fun reply => ?_
    exact (yields_result _).bind fun _ _ => yields_lift fun _ _ => trivial
  | occupancy a | markerPosition a =>
    refine (yields_stream a).bind fun s hs => ?_
    exact yields_call_bind ⟨hs ▸ List.prefix_rfl, nofun⟩ fun reply => yields_result _
  | markerDirty a =>
    refine (yields_stream a).bind fun s hs => ?_
    refine yields_call_bind ⟨hs ▸ List.prefix_rfl, nofun⟩ fun reply => ?_
    exact (yields_result _).bind fun _ _ => yields_pure trivial
  | value a slot kind stamped =>
    refine (yields_stream a).bind fun s hs => ?_
    refine yields_call_bind ⟨hs ▸ List.prefix_rfl, nofun⟩ fun reply => ?_
    refine (yields_result _).bind fun filled _ => ?_
    split
    · exact yields_pure trivial
    · exact yields_throw _
  | range a first last kind stamped =>
    refine (yields_stream a).bind fun s hs => (yields_span first last).bind fun n _ => ?_
    refine yields_call_bind ⟨hs ▸ List.prefix_rfl, nofun⟩ fun reply => ?_
    exact (yields_result _).bind fun _ _ => yields_pure trivial
  | sinceMarker a first room kind stamped =>
    refine (yields_stream a).bind fun s hs => ?_
    refine yields_call_bind ⟨hs ▸ List.prefix_rfl, fun _ => ⟨a, first, room, kind, stamped, rfl⟩⟩
      fun reply => ?_
    exact (yields_result _).bind fun _ _ => yields_pure trivial
  | itemFrame block topic kind stamped => exact yields_itemFrame block topic kind stamped
  | topicFrame block item stamped => exact yields_topicFrame block item stamped
  | blockNames =>
    refine yields_call_bind ⟨List.prefix_rfl, nofun⟩ fun (n : Nat) => ?_
    refine yields_ite (yields_pure trivial)
      (yields_call_bind ⟨List.prefix_rfl, nofun⟩ fun reply => ?_)
    exact (yields_result _).bind fun _ _ => yields_pure trivial

end Adapter

end Foreign

end TickerTape
