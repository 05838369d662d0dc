import TickerTape.Accessor.Frames
import TickerTape.Proofs.Yields

/-!
# The calls of an accessor

The operations of an accessor, each with its arguments, as one type. Statements about all
operations, and about sequences of them, are statements about calls.

## Main definitions

* `TickerTape.Engine.Request.isRead` — the requests that only read.
* `TickerTape.Accessor.Call` — an operation with its arguments.
* `TickerTape.Accessor.Call.operation` — what a call does.
* `TickerTape.Accessor.Call.MayAsk` — the requests that a call may make.
* `TickerTape.Accessor.Told` — properties that survive what an engine tells, and
  `TickerTape.Accessor.Filled` — those that survive names told where none were remembered.

## Main results

* `TickerTape.Accessor.Call.keeps_operation` — a call asks only what it may ask, and what it
  remembers was told by the engine.
* `TickerTape.Accessor.Call.run_frame` — what a call keeps whatever the engine says.
-/

namespace TickerTape

namespace Engine

/-- Whether a request that may fail only reads. -/
def Query.isRead : Query → Bool
  | .createBlock .. | .closeBlock _ | .resizeBlock .. | .addMember .. | .removeMember ..
  | .sinceMarker .. => false
  | _ => true

/-- Whether a request only reads. -/
def Request.isRead : Request → Bool
  | .setLimit _ => false
  | .query q => q.isRead
  | _ => true

end Engine

open Engine

namespace Accessor

/-- An operation of an accessor with its arguments. -/
inductive Call where
  | close
  | readSize
  | resize (size : Nat)
  | readMembers (axis : Axis)
  | readWaiting (axis : Axis)
  | addMember (axis : Axis) (name : String)
  | removeMember (axis : Axis) (name : String)
  | topicKind (topic : String)
  | occupancy (item topic : String)
  | isDirty (item topic : String)
  | position (item topic : String)
  | value (form : Form) (item topic : String) (index : Int)
  | latest (form : Form) (item topic : String)
  | range (form : Form) (item topic : String) (first last : Int) (smart : Bool)
  | sinceMarker (form : Form) (item topic : String) (index : Int) (policy : LossPolicy)
  | itemFrame (form : Form) (topic : String)
  | topicFrame (item : String)
  | allFrames
  deriving DecidableEq

namespace Call

/-- What a call returns when it does not fail. -/
@[reducible] def Answer : Call → Type
  | close | resize _ | addMember .. | removeMember .. => Unit
  | readSize | occupancy .. => Nat
  | readMembers _ | readWaiting _ => NameSet
  | topicKind _ => Kind
  | isDirty .. => Bool
  | position .. => Int
  | value form .. | latest form .. => Point form.Carrier
  | range form .. | sinceMarker form .. => List (Point form.Carrier)
  | itemFrame form _ => Frame form
  | topicFrame _ => Frame .text
  | allFrames => Table String (Frame .text)

/-- What a call does. -/
def operation : (c : Call) → Operation c.Answer
  | close => Accessor.close
  | readSize => Accessor.readSize
  | resize size => Accessor.resize size
  | readMembers axis => Accessor.readMembers axis
  | readWaiting axis => Accessor.readWaiting axis
  | addMember axis name => Accessor.addMember axis name
  | removeMember axis name => Accessor.removeMember axis name
  | topicKind topic => Accessor.topicKind topic
  | occupancy item topic => Accessor.occupancy item topic
  | isDirty item topic => Accessor.isDirty item topic
  | position item topic => Accessor.position item topic
  | value form item topic index => Accessor.value form item topic index
  | latest form item topic => Accessor.latest form item topic
  | range form item topic first last smart => Accessor.range form item topic first last smart
  | sinceMarker form item topic index policy => Accessor.sinceMarker form item topic index policy
  | itemFrame form topic => Accessor.itemFrame form topic
  | topicFrame item => Accessor.topicFrame item
  | allFrames => Accessor.allFrames

/-- Whether a call only reads: it neither changes the block nor moves a marker. -/
def isRead : Call → Bool
  | close | resize _ | addMember .. | removeMember .. | sinceMarker .. => false
  | _ => true

/-- The requests that a call may make on a block: reads, and the one change that it is for. -/
def MayAsk (block : String) (c : Call) (r : Request) : Prop :=
  r.isRead = true ∨
    match c with
    | close => r = .query (.closeBlock block)
    | resize size => r = .query (.resizeBlock block size)
    | addMember axis name => r = .query (.addMember block axis name)
    | removeMember axis name => r = .query (.removeMember block axis name)
    | sinceMarker form item topic _ _ =>
      ∃ slot room stamped,
        r = .query (.sinceMarker ⟨block, item, topic⟩ slot room form.kind stamped)
    | _ => False

end Call

/-! ### What the calls keep

A property of accessors is kept by all calls if it survives what a call writes down: names and a
capacity that the engine told, and the end of the block. -/

section Keeps

open Inquiry (Keeps start_bind start_query start_get_bind)

variable {A : (r : Request) → r.Reply → Prop} {P : Request → Prop} {Inv : Accessor → Prop}
  {block : String}

variable (A P Inv block) in
/-- A property of the accessors of a block that survives what an engine with admitted replies tells
them of names while they remember none. Reading requests are admitted. -/
structure Filled : Prop where
  reads : ∀ q : Query, q.isRead = true → P (.query q)
  name_eq : ∀ a, Inv a → a.name = block
  fill : ∀ a axis names, Inv a → (a.members.names axis).isEmpty = true →
    A (.query (.members block axis)) (.ok names : Except Status NameSet) →
    Inv { a with members := a.members.setNames axis names }

variable (A P Inv block) in
/-- A property of the accessors of a block that survives what an engine with admitted replies tells
them. Reading requests are admitted. -/
structure Told : Prop where
  reads : ∀ q : Query, q.isRead = true → P (.query q)
  name_eq : ∀ a, Inv a → a.name = block
  members : ∀ a axis names, Inv a →
    A (.query (.members block axis)) (.ok names : Except Status NameSet) →
    Inv { a with members := a.members.setNames axis names }
  size : ∀ a size, Inv a → A (.query (.blockSize block)) (.ok size : Except Status Nat) →
    Inv { a with size }

theorem Told.filled (h : Told A P Inv block) : Filled A P Inv block :=
  ⟨h.reads, h.name_eq, fun a axis names ha _ => h.members a axis names ha⟩

theorem keeps_ensureOpen : Keeps A P Inv ensureOpen :=
  .get_bind fun _ _ => .ite (.fail _) (.pure _)

theorem keeps_onMembers {α : Type} {m : Inquiry Members α}
    (hm : ∀ a, Inv a → Keeps A P (fun members => Inv { a with members }) m) :
    Keeps A P Inv (onMembers m) :=
  .focus (fun _ => rfl) hm

/-! The calls that accept names and then ask write down only names where there were none. -/

namespace Filled

variable (h : Filled A P Inv block)
include h

theorem keeps_validateName (axis : Axis) (name : String) (a : Accessor) :
    Keeps A P (fun members => Inv { a with members }) (Members.validate block axis name) := by
  have hcheck : Keeps A P (fun members => Inv { a with members }) (do
      if ((← get).names axis).contains name then pure ()
      else Inquiry.fail (Members.unknown axis name)) :=
    .get_bind fun _ _ => .ite (.pure _) (.fail _)
  intro m hm
  rw [Members.validate, start_get_bind]
  split
  next hempty =>
    refine Keeps.start_bind ?_ fun _ => hcheck
    rw [Members.refresh, start_bind, start_query]
    refine ⟨h.reads _ rfl, fun reply hreply => ?_⟩
    obtain status | names := reply
    · exact hm
    · exact h.fill { a with members := m } axis names hm hempty hreply
  next => exact hcheck m hm

theorem keeps_validate (item topic : String) : Keeps A P Inv (validate item topic) := by
  refine .bind keeps_ensureOpen fun _ => .get_bind fun a ha => ?_
  rw [h.name_eq a ha]
  refine .bind (keeps_onMembers fun a _ => h.keeps_validateName .item item a) fun _ => ?_
  refine .bind (keeps_onMembers fun a _ => h.keeps_validateName .topic topic a) fun _ => ?_
  exact .get_bind fun _ _ => .pure _

theorem keeps_value (form : Form) (item topic : String) (index : Int) :
    Keeps A P Inv (value form item topic index) := by
  refine .bind (h.keeps_validate item topic) fun _ => .bind (.lift _) fun _ => ?_
  exact .get_bind fun _ _ => .bind (.query (h.reads _ rfl)) fun _ => .lift _

theorem keeps_range (form : Form) (item topic : String) (first last : Int) (smart : Bool) :
    Keeps A P Inv (range form item topic first last smart) := by
  refine .bind (h.keeps_validate item topic) fun _ => .bind (.lift _) fun r => ?_
  refine .get_bind fun a _ => ?_
  extract_lets read
  have hread : ∀ asked, Keeps A P Inv (read asked) := by
    intro asked
    cases asked with
    | none => exact .pure _
    | some r => exact .bind (.query (h.reads _ rfl)) fun _ => .lift _
  refine .ite ?_ (.bind (.pure _) hread)
  exact .bind (.query (h.reads _ rfl)) fun _ => .bind (.lift _) hread

theorem keeps_sinceMarker {form : Form} {item topic : String}
    (hP : ∀ slot room stamped,
      P (.query (.sinceMarker ⟨block, item, topic⟩ slot room form.kind stamped)))
    (index : Int) (policy : LossPolicy) :
    Keeps A P Inv (sinceMarker form item topic index policy) := by
  have hrefuse (lost : Bool) : Keeps A P Inv (refuseLoss item topic lost policy) :=
    .ite (.fail _) (.pure _)
  refine .bind (h.keeps_validate item topic) fun _ => .bind (.lift _) fun slot => ?_
  refine .get_bind fun a ha => .bind (.query (h.reads _ rfl)) fun dirty => ?_
  refine .bind (hrefuse dirty) fun _ => .bind (.query (h.reads _ rfl)) fun position => ?_
  refine .bind (.lift _) fun expected => .ite (.pure _) (.bind (.lift _) fun room => ?_)
  rw [address, h.name_eq a ha]
  exact .bind (.query (hP ..)) fun found => .bind (hrefuse _) fun _ => .lift _

theorem keeps_itemFrame (form : Form) (topic : String) :
    Keeps A P Inv (itemFrame form topic) := by
  refine .bind keeps_ensureOpen fun _ => .get_bind fun a ha => ?_
  rw [h.name_eq a ha]
  refine .bind (keeps_onMembers fun a _ => h.keeps_validateName .topic topic a) fun _ => ?_
  exact .bind (.query (h.reads _ rfl)) fun _ => .lift _

theorem keeps_topicFrame (item : String) : Keeps A P Inv (topicFrame item) := by
  refine .bind keeps_ensureOpen fun _ => .get_bind fun a ha => ?_
  rw [h.name_eq a ha]
  refine .bind (keeps_onMembers fun a _ => h.keeps_validateName .item item a) fun _ => ?_
  exact .bind (.query (h.reads _ rfl)) fun _ => .lift _

theorem keeps_framesOf (items : List String) : Keeps A P Inv (framesOf items) := by
  induction items with
  | nil => exact .pure _
  | cons item items ih => exact .bind (h.keeps_topicFrame item) fun _ => .bind ih fun _ => .pure _

end Filled

/-- Whether a call accepts names and asks, and writes down nothing but the names that it needs. -/
def Call.onlyFills : Call → Bool
  | .close | .readSize | .resize _ | .readMembers _ | .addMember .. | .removeMember ..
  | .allFrames => false
  | _ => true

theorem Filled.keeps_operation {c : Call} (h : Filled A (c.MayAsk block) Inv block)
    (hc : c.onlyFills = true) : Keeps A (c.MayAsk block) Inv c.operation := by
  cases c with
  | readWaiting axis =>
    exact .bind keeps_ensureOpen fun _ => .get_bind fun _ _ => .query (h.reads _ rfl)
  | topicKind topic => exact .bind keeps_ensureOpen fun _ => .query (h.reads _ rfl)
  | occupancy item topic | isDirty item topic | position item topic =>
    refine .bind (h.keeps_validate item topic) fun _ => .get_bind fun _ _ => ?_
    exact .query (h.reads _ rfl)
  | value form item topic index => exact h.keeps_value form item topic index
  | latest form item topic => exact h.keeps_value form item topic 0
  | range form item topic first last smart => exact h.keeps_range form item topic first last smart
  | sinceMarker form item topic index policy =>
    exact h.keeps_sinceMarker (fun _ _ _ => .inr ⟨_, _, _, rfl⟩) index policy
  | itemFrame form topic => exact h.keeps_itemFrame form topic
  | topicFrame item => exact h.keeps_topicFrame item
  | _ => contradiction

namespace Told

variable (h : Told A P Inv block)
include h

theorem keeps_refresh (axis : Axis) (a : Accessor) :
    Keeps A P (fun members => Inv { a with members }) (Members.refresh block axis) :=
  .query_bind (h.reads _ rfl) fun names hnames =>
    .modify fun members hm => h.members { a with members } axis names hm hnames

theorem keeps_readSize : Keeps A P Inv readSize := by
  refine .bind keeps_ensureOpen fun _ => .get_bind fun a ha => ?_
  rw [h.name_eq a ha]
  refine .query_bind (h.reads _ rfl) fun size hsize => ?_
  exact .bind (.modify fun a ha => h.size a size ha hsize) fun _ => .pure _

theorem keeps_resize {size : Nat} (hP : P (.query (.resizeBlock block size))) :
    Keeps A P Inv (resize size) := by
  refine .bind keeps_ensureOpen fun _ => .ite (.fail _) (.get_bind fun a ha => ?_)
  rw [h.name_eq a ha]
  refine .bind (.query hP) fun _ => .query_bind (h.reads _ rfl) fun told htold => ?_
  refine .bind (.modify fun a ha => h.size a told ha htold) fun _ => ?_
  exact .ite (.pure _) (.fail _)

theorem keeps_readMembers (axis : Axis) : Keeps A P Inv (readMembers axis) := by
  refine .bind keeps_ensureOpen fun _ => .get_bind fun a ha => ?_
  rw [h.name_eq a ha]
  refine .bind (keeps_onMembers fun a _ => h.keeps_refresh axis a) fun _ => ?_
  exact .get_bind fun _ _ => .pure _

theorem keeps_verify (axis : Axis) (a : Accessor) :
    Keeps A P (fun members => Inv { a with members }) (Members.verify block axis) :=
  .query_bind (h.reads _ rfl) fun _ _ => .get_bind fun _ _ => .ite (.pure _) (.fail _)

theorem keeps_afterChange (axis : Axis) (wasEmpty : Bool) (a : Accessor) :
    Keeps A P (fun members => Inv { a with members }) (Members.afterChange block axis wasEmpty) :=
  .bind (h.keeps_refresh axis a) fun _ =>
    .get_bind fun _ _ => .ite (h.keeps_refresh axis.other a) (.pure _)

theorem keeps_changeMembers (axis : Axis) (request : String → Operation Unit)
    (hr : Keeps A P Inv (request block)) : Keeps A P Inv (changeMembers axis request) := by
  refine .bind keeps_ensureOpen fun _ => .get_bind fun a ha => ?_
  rw [h.name_eq a ha]
  refine .bind (keeps_onMembers fun a _ => h.keeps_verify axis a) fun _ => ?_
  refine .get_bind fun _ _ => .bind hr fun _ => ?_
  exact keeps_onMembers fun a _ => h.keeps_afterChange axis _ a

end Told

theorem keeps_close (hname : ∀ a, Inv a → a.name = block)
    (hclosed : ∀ a closed, Inv a → Inv { a with closed }) (hP : P (.query (.closeBlock block))) :
    Keeps A P Inv close := by
  refine .get_bind fun a ha => .ite (.pure _) (.bind (.set (hclosed a true ha)) fun _ => ?_)
  refine .bind (fun s hs => ⟨hname a ha ▸ hP, fun _ _ => hs⟩) fun reply => ?_
  cases reply with
  | ok => exact .pure _
  | error status => exact .ite (.pure _) (.bind (.set (hclosed a false ha)) fun _ => .fail _)

/-- A call makes only requests that it may make. What holds of the accessor and survives what the
engine tells, and for an end of the block that it is marked closed, holds after the call, failed or
not. -/
theorem Call.keeps_operation (c : Call) (h : Told A (c.MayAsk block) Inv block)
    (hclosed : c = .close → ∀ a closed, Inv a → Inv { a with closed }) :
    Keeps A (c.MayAsk block) Inv c.operation := by
  cases c with
  | close => exact keeps_close h.name_eq (hclosed rfl) (.inr rfl)
  | readSize => exact h.keeps_readSize
  | resize size => exact h.keeps_resize (.inr rfl)
  | readMembers axis => exact h.keeps_readMembers axis
  | addMember axis name =>
    exact h.keeps_changeMembers axis (fun block => Inquiry.query (.addMember block axis name))
      (.query (.inr rfl))
  | removeMember axis name =>
    exact h.keeps_changeMembers axis (fun block => Inquiry.query (.removeMember block axis name))
      (.query (.inr rfl))
  | allFrames =>
    exact .bind (h.keeps_readMembers .item) fun items =>
      .bind (h.filled.keeps_framesOf items.keys) fun _ => .pure _
  | _ => exact h.filled.keeps_operation rfl

/-- What neither the names nor the capacity bear upon is kept by a call against any engine. -/
theorem Call.run_frame {σ : Type} (h : Handler wire σ) (c : Call) {P : Accessor → Prop}
    (hmembers : ∀ a members, P a → P { a with members }) (hsize : ∀ a size, P a → P { a with size })
    (hclosed : c = .close → ∀ a closed, P a → P { a with closed }) {a : Accessor} (ha : P a)
    (s : σ) : P ((c.operation.start a).run h s).1.2 := by
  have htold : Told (fun _ _ => True) (c.MayAsk a.name) (fun x => x.name = a.name ∧ P x) a.name :=
    ⟨fun _ hq => .inl hq, fun _ hx => hx.1, fun x _ _ hx _ => ⟨hx.1, hmembers x _ hx.2⟩,
      fun x _ hx _ => ⟨hx.1, hsize x _ hx.2⟩⟩
  have hkeeps := c.keeps_operation htold
    (fun hc x closed hx => ⟨hx.1, hclosed hc x closed hx.2⟩) a ⟨rfl, ha⟩
  exact (hkeeps.run (J := fun _ => True) (fun _ _ _ _ => ⟨trivial, trivial⟩) trivial).1.2

end Keeps

end Accessor

end TickerTape
