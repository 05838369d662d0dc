import TickerTape.Proofs.Failures

/-!
# Reads of a typed exchange

An exchange is *typed* when each stream holds only values of the kind of its topic. Such an exchange
never refuses a request for the kind of a value, if the kind that is asked for is one in which the
values of the topic can be given, and all values that it then gives are of this kind. An accessor
that reads in such a form therefore gets what it can take, whatever it remembers and whatever else
makes it fail.

## Main definitions

* `TickerTape.Kind.Gives` — the kinds in which values of a kind can be given.
* `TickerTape.Engine.Exchange.Typed` — typed exchanges.
* `TickerTape.Engine.Answered` — replies that a typed exchange may give.
* `TickerTape.Inquiry.NeverRefusesKind` — inquiries that do not fail for the kind of a value.

## Main results

* `TickerTape.Engine.Exchange.Typed.answered_handler` — the replies of a typed exchange.
* `TickerTape.Accessor.Call.neverRefusesKind_operation` — reads in a form that suits the topic.
-/

namespace TickerTape

/-! ### Kinds -/

/-- A value of the kind `stored` can be given as the kind `asked`: any value as text, each as what
it is, and a long value as a double. -/
def Kind.Gives (stored asked : Kind) : Prop :=
  asked = .text ∨ asked = stored ∨ asked = .double ∧ stored = .long

instance (stored asked : Kind) : Decidable (stored.Gives asked) :=
  inferInstanceAs (Decidable (_ ∨ _ ∨ _ ∧ _))

/-- A request that is not refused for the kind of a value, and whose answer has a property. -/
def Served {α : Type} (Q : α → Prop) : Except Status α → Prop
  | .ok a => Q a
  | .error status => status ≠ .dataType

namespace Served

variable {α β : Type} {Q : α → Prop} {S : β → Prop} {x : Except Status α}

theorem error {status : Status} (h : status ≠ .dataType) : Served Q (.error status) := h

theorem bind {f : α → Except Status β} (hx : Served Q x) (hf : ∀ a, Q a → Served S (f a)) :
    Served S (x >>= f) := by
  cases x with
  | ok a => exact hf a hx
  | error status => exact hx

theorem ite {c : Prop} [Decidable c] {y : Except Status α} (hx : Served Q x) (hy : Served Q y) :
    Served Q (if c then x else y) := by
  split
  · exact hx
  · exact hy

theorem mapM {f : α → Except Status β} {as : List α} (hf : ∀ a ∈ as, Served S (f a)) :
    Served (fun bs => ∀ b ∈ bs, S b) (as.mapM f) := by
  induction as with
  | nil => exact fun _ => nofun
  | cons a as ih =>
    obtain ⟨ha, has⟩ := List.forall_mem_cons.mp hf
    rw [List.mapM_cons]
    exact ha.bind fun b hb => (ih has).bind fun bs hbs => List.forall_mem_cons.mpr ⟨hb, hbs⟩

end Served

theorem Value.served_giveAs {kind : Kind} {v : Value} (h : v.kind.Gives kind) :
    Served (·.kind = kind) (v.giveAs kind) := by
  obtain rfl | rfl | ⟨rfl, hv⟩ := h
  · cases v
    all_goals rfl
  · cases v
    all_goals rfl
  · cases v with
    | long n => rfl
    | double x => contradiction
    | text s => contradiction

namespace Engine

theorem Record.served_give {kind : Kind} {r : Record} (h : r.value.kind.Gives kind)
    (stamped : Bool) : Served (·.value.kind = kind) (r.give kind stamped) :=
  (Value.served_giveAs h).bind fun _ hv => hv

/-! ### Typed blocks -/

/-- The stream holds values of the kind of a topic. -/
def Stream.Typed (topic : String) (s : Stream) : Prop :=
  ∀ r ∈ s.records, topicKind topic = some r.value.kind

/-- The streams of the block hold values of the kinds of their topics. -/
def Block.Typed (b : Block) : Prop := ∀ p s, b.streams.get? p = some s → s.Typed p.topic

/-- Values of a topic can be given as a kind. -/
def Suits (topic : String) (kind : Kind) : Prop :=
  ∀ stored, topicKind topic = some stored → stored.Gives kind

namespace Block

variable {b : Block} {p : Pair} {kind : Kind} {stamped : Bool}

theorem Typed.served_stream (hb : b.Typed) (p : Pair) :
    Served (·.Typed p.topic) (b.stream p) := by
  refine .ite (.error (by decide)) (.ite (.error (by decide)) ?_)
  split
  next s hs => exact hb p s hs
  next => exact .error (by decide)

theorem served_give (hkind : Suits p.topic kind) {s : Stream} (hs : s.Typed p.topic) {r : Record}
    (hr : r ∈ s.records) : Served (·.value.kind = kind) (b.give kind stamped r) :=
  Record.served_give (hkind _ (hs r hr)) _

theorem Typed.served_value (hb : b.Typed) (hkind : Suits p.topic kind) (slot : Nat) :
    Served (·.value.kind = kind) (b.value p slot kind stamped) := by
  refine .ite (.error (by decide)) ((hb.served_stream p).bind fun s hs => ?_)
  split
  next r hr => exact served_give hkind hs (List.mem_of_getElem? (s.record?_eq slot ▸ hr))
  next => exact .error (by decide)

theorem mem_of_mem_window {s : Stream} {first count : Nat} {r : Record}
    (hr : r ∈ s.window first count) : r ∈ s.records := by
  rw [s.window_eq] at hr
  exact List.mem_of_mem_drop (List.mem_of_mem_take hr)

theorem Typed.served_range (hb : b.Typed) (hkind : Suits p.topic kind) (first last : Nat) :
    Served (fun samples => ∀ sample ∈ samples, sample.value.kind = kind)
      (b.range p first last kind stamped) := by
  refine .ite (.error (by decide)) (.ite (.error (by decide))
    ((hb.served_stream p).bind fun s hs => ?_))
  exact .mapM fun r hr => served_give hkind hs (mem_of_mem_window hr)

theorem Typed.served_fetch (hb : b.Typed) (hkind : Suits p.topic kind) (first room : Nat) :
    Served (fun out => ∀ sample ∈ out.1.samples, sample.value.kind = kind)
      (b.fetch p first room kind stamped) := by
  rw [fetch_eq]
  refine .ite (.error (by decide)) ((hb.served_stream p).bind fun s hs => ?_)
  have hsamples : Served (fun samples => ∀ sample ∈ samples, sample.value.kind = kind)
      ((s.window first (min (s.unread - first) room)).reverse.mapM
        (Record.give kind (stamped && b.stamped))) := by
    refine .mapM fun r hr => Record.served_give (hkind _ (hs r ?_)) _
    exact mem_of_mem_window (List.mem_reverse.mp hr)
  have hfetch : Served (fun out => ∀ sample ∈ out.1.samples, sample.value.kind = kind)
      (s.fetch first room kind (stamped && b.stamped)) := by
    rw [Stream.fetch_eq]
    exact hsamples.bind fun samples hall => hall
  exact hfetch.bind fun out hout => hout

theorem Typed.served_frame (hb : b.Typed) (axis : Axis) (name : String)
    (hkind : ∀ other, Suits (Pair.along axis other name).topic kind) :
    Served (fun cells => ∀ cell ∈ cells, cell.2.value.kind = kind)
      (b.frame axis name kind stamped) := by
  refine .ite (.error (by cases axis <;> decide)) (Served.bind
    (.mapM (S := fun cell => ∀ named ∈ cell, named.2.value.kind = kind) fun other _ =>
      (hb.served_stream _).bind fun s hs => ?_) fun cells hcells cell hcell => ?_)
  · split
    next r hr =>
      have hmem : r ∈ s.records := List.mem_of_getElem? (s.record?_eq 0 ▸ hr)
      refine (served_give (hkind other) hs hmem).bind fun sample hsample named hnamed => ?_
      obtain rfl := Option.some.inj hnamed
      exact hsample
    next => exact nofun
  · obtain ⟨named, hnamed, hcell⟩ := List.mem_filterMap.mp hcell
    exact hcells named hnamed cell hcell

end Block

/-! ### Typed exchanges -/

/-- The topic and the kind of the values that a request asks for, if it names both. -/
def Query.asked? : Query → Option (String × Kind)
  | .value a _ kind _ | .range a _ _ kind _ | .sinceMarker a _ _ kind _ => some (a.topic, kind)
  | .itemFrame _ topic kind _ => some (topic, kind)
  | _ => none

/-- The values in an answer to such a request. -/
def Query.samples : (q : Query) → q.Answer → List Sample
  | .value .., sample => [sample]
  | .range .., samples => samples
  | .sinceMarker .., found => found.samples
  | .itemFrame .., cells => cells.map (·.2)
  | _, _ => []

/-- The kind that the request asks for suits the topic. -/
def Query.Suits (q : Query) : Prop :=
  ∀ topic kind, q.asked? = some (topic, kind) → Engine.Suits topic kind

theorem Query.suits_of_asked? {q : Query} {topic : String} {kind : Kind}
    (hq : q.asked? = some (topic, kind)) (h : Engine.Suits topic kind) : q.Suits := by
  intro topic' kind' hq'
  cases hq.symm.trans hq'
  exact h

theorem Query.suits_of_asked?_eq_none {q : Query} (hq : q.asked? = none) : q.Suits := by
  intro topic kind hq'
  cases hq.symm.trans hq'

/-- The values of the answer are of the kind that was asked for. -/
def Query.IsTyped (q : Query) (answer : q.Answer) : Prop :=
  ∀ topic kind, q.asked? = some (topic, kind) →
    ∀ sample ∈ q.samples answer, sample.value.kind = kind

/-- A request that suits the topic that it names. -/
def Request.Suits : Request → Prop
  | .query q => q.Suits
  | _ => True

/-- A reply that is no refusal for the kind of a value, and holds values of the kind that was asked
for. -/
def Answered : (r : Request) → r.Reply → Prop
  | .query q, (reply : Except Status q.Answer) => Served q.IsTyped reply
  | _, _ => True

namespace Exchange

/-- The blocks of the exchange are typed. -/
def Typed (e : Exchange) : Prop := ∀ name b, e.blocks.get? name = some b → b.Typed

variable {e : Exchange}

theorem served_connection (e : Exchange) : Served (fun _ => True) e.connection :=
  .ite trivial (.error (by decide))

theorem Typed.served_block (he : e.Typed) (name : String) : Served Block.Typed (e.block name) := by
  refine (served_connection e).bind fun _ _ => ?_
  split
  next b hb => exact he name b hb
  next => exact .error (by decide)

theorem served_checkTopic (topic : String) : Served (fun _ => True) (checkTopic topic) := by
  rw [checkTopic]
  split
  · trivial
  · exact .error (by decide)

theorem served_checkSize (size : Nat) : Served (fun _ => True) (checkSize size) :=
  .ite (.error (by decide)) trivial

theorem served_checkMember (axis : Axis) (name : String) :
    Served (fun _ => True) (checkMember axis name) := by
  have hname : Served (fun _ => True) (checkName name) := .ite (.error (by decide)) trivial
  refine hname.bind fun _ _ => ?_
  cases axis with
  | item => trivial
  | topic => exact (served_checkTopic name).bind fun _ _ => trivial

theorem served_remove (b : Block) (axis : Axis) (name : String) :
    Served (fun _ => True) (b.remove axis name) := by
  rw [Block.remove_eq]
  exact .ite trivial (.error (by cases axis <;> decide))

theorem Typed.served_readBlock {α : Type} {P S : α → Prop} (he : e.Typed) (name : String)
    {f : Block → Except Status α} (hf : ∀ b : Block, b.Typed → Served S (f b))
    (hP : ∀ answer, S answer → P answer) :
    Served (fun out => P out.1) ((readBlock name f).outcome e) := by
  rw [outcome_readBlock]
  exact (he.served_block name).bind fun b hb =>
    (hf b hb).bind fun answer hanswer => hP answer hanswer

theorem Typed.served_readStream {α : Type} {P : α → Prop} (he : e.Typed) (a : Address)
    {f : Stream → α} (hP : ∀ answer, P answer) :
    Served (fun out => P out.1) ((readStream a f).outcome e) :=
  he.served_readBlock (S := fun _ => True) a.block
    (fun _ hb => (hb.served_stream (pair a)).bind fun _ _ => trivial) fun answer _ => hP answer

/-- A typed exchange serves a request that suits the topic. -/
theorem Typed.served_perform (he : e.Typed) (draw : String) {q : Query} (hq : q.Suits) :
    Served (fun out => q.IsTyped out.1) (e.perform draw q) := by
  have hnone {answer : q.Answer} (h : q.asked? = none) : q.IsTyped answer :=
    fun topic kind hasked => by rw [h] at hasked; contradiction
  cases q with
  | createBlock size stamped timeout =>
    rw [perform_createBlock_eq]
    refine (served_checkSize size).bind fun _ _ => (served_connection e).bind fun _ _ => ?_
    exact .ite (.error (by decide)) (.ite (.error (by decide)) (hnone rfl))
  | closeBlock name =>
    rw [perform_closeBlock_eq]
    exact (he.served_block name).bind fun _ _ => hnone rfl
  | blockSize name =>
    exact he.served_readBlock (S := fun _ => True) name (fun _ _ => trivial) fun _ _ => hnone rfl
  | resizeBlock name size =>
    rw [perform_resizeBlock_eq]
    exact (served_checkSize size).bind fun _ _ => (he.served_block name).bind fun _ _ => hnone rfl
  | members name axis =>
    exact he.served_readBlock (S := fun _ => True) name (fun _ _ => trivial) fun _ _ => hnone rfl
  | waiting name axis =>
    exact he.served_readBlock (S := fun _ => True) name (fun _ _ => trivial) fun _ _ => hnone rfl
  | addMember name axis member =>
    rw [perform_addMember_eq]
    exact (served_checkMember axis member).bind fun _ _ =>
      (he.served_block name).bind fun _ _ => hnone rfl
  | removeMember name axis member =>
    rw [perform_removeMember_eq]
    exact (he.served_block name).bind fun b _ =>
      (served_remove b axis member).bind fun _ _ => hnone rfl
  | topicKind topic =>
    rw [perform, serve, Action.outcome_lift]
    exact (served_checkTopic topic).bind fun _ _ => hnone rfl
  | occupancy a => exact he.served_readStream a fun _ => hnone rfl
  | markerDirty a => exact he.served_readStream a fun _ => hnone rfl
  | markerPosition a => exact he.served_readStream a fun _ => hnone rfl
  | value a slot kind stamped =>
    refine he.served_readBlock a.block
      (fun b hb => hb.served_value (p := pair a) (hq _ _ rfl) slot) fun sample hsample => ?_
    rintro topic kind ⟨⟩ _ hmem
    exact List.mem_singleton.mp hmem ▸ hsample
  | range a first last kind stamped =>
    refine he.served_readBlock a.block
      (fun b hb => hb.served_range (p := pair a) (hq _ _ rfl) first last) fun samples hsamples => ?_
    rintro topic kind ⟨⟩
    exact hsamples
  | sinceMarker a first room kind stamped =>
    rw [perform_sinceMarker_eq]
    refine (he.served_block a.block).bind fun b hb =>
      (hb.served_fetch (p := pair a) (hq _ _ rfl) first room).bind fun out hout => ?_
    rintro topic kind ⟨⟩
    exact hout
  | itemFrame name topic kind stamped =>
    refine he.served_readBlock name
      (fun b hb => hb.served_frame .item topic fun _ => hq _ _ rfl) fun cells hcells => ?_
    rintro topic kind ⟨⟩ sample hmem
    obtain ⟨cell, hcell, rfl⟩ := List.mem_map.mp hmem
    exact hcells cell hcell
  | topicFrame name item stamped =>
    have htext (topic : String) : Engine.Suits topic .text := fun _ _ => .inl rfl
    exact he.served_readBlock name
      (fun b hb => hb.served_frame .topic item fun _ => htext _) fun _ _ => hnone rfl
  | blockNames =>
    rw [perform, serve, blockNames, Action.outcome_get_bind, Action.outcome_lift_bind]
    exact (served_connection e).bind fun _ _ => hnone rfl

/-- The replies of a typed exchange. -/
theorem Typed.answered_handler (he : e.Typed) (draw : String) {r : Request} (hr : r.Suits) :
    Answered r (handler draw r e).1 := by
  cases r with
  | connected | limit | setLimit | count => trivial
  | query q =>
    have hq := he.served_perform draw hr
    cases hperform : e.perform draw q with
    | ok reply =>
      rw [handler_of_perform_eq_ok hperform]
      rwa [hperform] at hq
    | error status =>
      rw [handler_of_perform_eq_error hperform]
      rwa [hperform] at hq

end Exchange

end Engine

/-! ### Reads of an accessor -/

/-- Whether a failure says that a value has another kind than was asked for. -/
def Failure.refusesKind : Failure → Bool
  | .fault (.callFailed status) => status = .dataType
  | .fault (.typeMismatch _ _) => true
  | _ => false

theorem Failure.refusesKind_ofStatus {status : Status} (h : status ≠ .dataType) :
    (Failure.fault (.ofStatus status)).refusesKind = false := by
  rw [Fault.ofStatus]
  split
  · rfl
  · exact decide_eq_false h

/-- Against replies without such a refusal the inquiry does not fail for the kind of a value. -/
abbrev Inquiry.NeverRefusesKind {σ α : Type} (m : Inquiry σ α) : Prop :=
  m.FailsOnly Engine.Answered Engine.Request.Suits (·.refusesKind = false)

open Engine Inquiry

theorem Inquiry.neverRefusesKind_query_bind {σ β : Type} {q : Query} {f : q.Answer → Inquiry σ β}
    (hq : q.Suits) (hf : ∀ answer, q.IsTyped answer → NeverRefusesKind (f answer)) :
    NeverRefusesKind (query q >>= f) :=
  .query_bind hq (fun _ => Failure.refusesKind_ofStatus) hf

namespace Accessor

variable {form : Form} {topic : String}

theorem failsOnly_convert {sample : Sample} (h : sample.value.kind = form.kind) :
    FailsOnly (·.refusesKind = false) (convert form sample) := by
  have hread : (form.read sample.value).isSome = true := by
    rw [form.isSome_read, h, beq_self_eq_true, Bool.or_true]
  obtain ⟨a, ha⟩ := Option.isSome_iff_exists.mp hread
  rw [convert, Form.readPoint, ha]
  exact .ok _

theorem neverRefusesKind_refresh (block : String) (axis : Axis) :
    NeverRefusesKind (Members.refresh block axis) :=
  neverRefusesKind_query_bind (Query.suits_of_asked?_eq_none rfl) fun _ _ => .modify _

theorem neverRefusesKind_validateName (block : String) (axis : Axis) (name : String) :
    NeverRefusesKind (Members.validate block axis name) := by
  have hcheck : NeverRefusesKind (do
      if ((← get).names axis).contains name then pure ()
      else Inquiry.fail (Members.unknown axis name) : Inquiry Members Unit) :=
    .bind .get fun _ => .ite (.pure _) (.fail (by cases axis <;> rfl))
  exact .bind .get fun _ =>
    .ite (.bind (neverRefusesKind_refresh block axis) fun _ => hcheck) hcheck

theorem neverRefusesKind_ensureOpen : NeverRefusesKind ensureOpen :=
  .bind .get fun _ => .ite (.fail rfl) (.pure _)

theorem neverRefusesKind_validate (item topic : String) :
    NeverRefusesKind (validate item topic) :=
  .bind neverRefusesKind_ensureOpen fun _ => .bind .get fun _ =>
    .bind (.focus (neverRefusesKind_validateName _ _ _)) fun _ =>
      .bind (.focus (neverRefusesKind_validateName _ _ _)) fun _ => .bind .get fun _ => .pure _

variable (hsuits : Suits topic form.kind)
include hsuits

theorem neverRefusesKind_value (item : String) (index : Int) :
    NeverRefusesKind (value form item topic index) := by
  refine .bind (neverRefusesKind_validate item topic) fun size => .bind (.lift ?_) fun slot =>
    .bind .get fun a => ?_
  · exact Slot.failsOnly_ofIndex (fun _ _ => rfl) (fun _ => rfl) index size
  exact neverRefusesKind_query_bind (Query.suits_of_asked? rfl hsuits) fun sample htyped =>
    .lift (failsOnly_convert (htyped _ _ rfl sample (List.mem_singleton_self sample)))

theorem neverRefusesKind_range (item : String) (first last : Int) (smart : Bool) :
    NeverRefusesKind (range form item topic first last smart) := by
  refine .bind (neverRefusesKind_validate item topic) fun size => .bind (.lift ?_) fun r =>
    .bind .get fun a => ?_
  · exact Slot.Range.failsOnly_ofIndices (fun _ _ => rfl) (fun _ => rfl) first last size
  extract_lets read
  have hread (asked : Option Slot.Range) : NeverRefusesKind (read asked) := by
    cases asked with
    | none => exact .pure _
    | some r =>
      exact neverRefusesKind_query_bind (Query.suits_of_asked? rfl hsuits) fun samples htyped =>
        .lift (.mapM fun sample hsample => failsOnly_convert (htyped _ _ rfl sample hsample))
  refine .ite ?_ (.bind (.pure _) hread)
  exact neverRefusesKind_query_bind (Query.suits_of_asked?_eq_none rfl) fun _ _ =>
    .bind (.lift (.checked (fun _ => rfl) _)) hread

theorem neverRefusesKind_sinceMarker (item : String) (index : Int) (policy : LossPolicy) :
    NeverRefusesKind (sinceMarker form item topic index policy) := by
  have hrefuse (lost : Bool) : NeverRefusesKind (refuseLoss item topic lost policy) :=
    .ite (.fail rfl) (.pure _)
  refine .bind (neverRefusesKind_validate item topic) fun size => .bind (.lift ?_) fun slot =>
    .bind .get fun a => ?_
  · exact Slot.failsOnly_ofIndex (fun _ _ => rfl) (fun _ => rfl) index size
  refine neverRefusesKind_query_bind (Query.suits_of_asked?_eq_none rfl) fun dirty _ => ?_
  refine .bind (hrefuse dirty) fun _ => ?_
  refine neverRefusesKind_query_bind (Query.suits_of_asked?_eq_none rfl) fun position _ => ?_
  refine .bind (.lift (.checked (fun _ => rfl) _)) fun expected => .ite (.pure _) ?_
  refine .bind (.lift (.checked (fun _ => rfl) _)) fun room => ?_
  refine neverRefusesKind_query_bind (Query.suits_of_asked? rfl hsuits) fun found htyped => ?_
  refine .bind (hrefuse _) fun _ => .lift (.mapM fun sample hsample => ?_)
  exact failsOnly_convert (htyped _ _ rfl sample (List.mem_of_mem_take hsample))

theorem neverRefusesKind_itemFrame : NeverRefusesKind (itemFrame form topic) := by
  refine .bind neverRefusesKind_ensureOpen fun _ => .bind .get fun a => ?_
  refine .bind (.focus (neverRefusesKind_validateName _ _ _)) fun _ => ?_
  exact neverRefusesKind_query_bind (Query.suits_of_asked? rfl hsuits) fun cells htyped =>
    .lift (failsOnly_frameOf fun cell hcell =>
      failsOnly_convert (htyped _ _ rfl cell.2 (List.mem_map_of_mem hcell)))

omit hsuits

/-- The topic and the form of a call that reads values in a form of its own. -/
def Call.reads? : Call → Option (String × Form)
  | .value form _ topic _ | .latest form _ topic | .range form _ topic _ _ _
  | .sinceMarker form _ topic _ _ | .itemFrame form topic => some (topic, form)
  | _ => none

/-- A call that reads in a form that suits the topic does not fail for the kind of a value. -/
theorem Call.neverRefusesKind_operation {c : Call} (hc : c.reads? = some (topic, form))
    (hsuits : Suits topic form.kind) : NeverRefusesKind c.operation := by
  cases c with
  | value form item topic index =>
    cases hc
    exact neverRefusesKind_value hsuits item index
  | latest form item topic =>
    cases hc
    exact neverRefusesKind_value hsuits item 0
  | range form item topic first last smart =>
    cases hc
    exact neverRefusesKind_range hsuits item first last smart
  | sinceMarker form item topic index policy =>
    cases hc
    exact neverRefusesKind_sinceMarker hsuits item index policy
  | itemFrame form topic =>
    cases hc
    exact neverRefusesKind_itemFrame hsuits
  | _ => contradiction

end Accessor

end TickerTape
