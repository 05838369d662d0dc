import Mathlib.Data.List.Induction
import Mathlib.Logic.Function.Basic
import Mathlib.Logic.Function.Iterate
import TickerTape.Proofs.Lifetime

/-!
# Attempts to close at the same time

An attempt to close an accessor is up to three steps: it looks at the mark of the accessor and sets
it, asks the engine, and takes the mark back if the engine refuses. Several attempts may be under
way, and the steps of one may come between those of another.

The mark is set before the engine has answered. So only one attempt at a time gets as far as the
engine; and once the engine has granted the end of the block, the mark stays. But an attempt that
finds the mark set succeeds at once, whether the end was granted or another attempt is still under
way, which the engine may refuse. Success by itself is therefore no sign that the block has ended.

## Main definitions

* `TickerTape.Accessor.Closing` — how far an attempt has come, with
  `TickerTape.Accessor.Closing.step`, its next step.
* `TickerTape.Accessor.Contest` — an accessor, its engine, and any number of attempts.
* `TickerTape.Accessor.Contest.Stage` — what the mark and the attempts under way tell of the block.

## Main results

* `TickerTape.Accessor.Closing.iterate_step` — the steps of an attempt with nothing between them.
* `TickerTape.Accessor.Contest.stage_after` — the stages of a contest.
* `TickerTape.Accessor.Contest.exists_unfounded_success` — an attempt succeeds and the block is
  open.
* `TickerTape.Accessor.Contest.granted_end_is_final` — what does hold in every order of the steps.
-/

namespace TickerTape.Accessor

open Engine

/-! ### The steps of an attempt -/

namespace Lifetime

variable {σ : Type} (h : Handler wire σ) (w : Lifetime σ)

/-- The lifetime with its accessor marked as closed or as open. -/
def mark (closed : Bool) : Lifetime σ := { w with accessor := { w.accessor with closed } }

/-- The lifetime after the engine was asked for the end of the block. -/
def askEnd : Lifetime σ where
  accessor := w.accessor
  engine := (h (.query (.closeBlock w.accessor.name)) w.engine).2
  log := w.log ++ [w.closeEntry h]

/-- How often the engine has granted the end of the block. -/
def grants : Nat := w.log.countP (·.endsBlock)

theorem grants_askEnd :
    (w.askEnd h).grants = w.grants + if (w.closeEntry h).endsBlock then 1 else 0 := by
  rw [grants, askEnd, List.countP_append, List.countP_singleton]
  rfl

end Lifetime

/-- How far an attempt to close has come. -/
inductive Closing where
  /-- It has not looked at the mark yet. -/
  | waiting
  /-- It has set the mark and will ask the engine. -/
  | asking
  /-- The engine has refused, and it will take the mark back. -/
  | refused (status : Status)
  /-- It has returned. -/
  | returned (result : Except Failure Unit)

namespace Closing

/-- Whether an attempt has set the mark and not returned since. -/
def holds : Closing → Bool
  | asking | refused _ => true
  | waiting | returned _ => false

/-- How an attempt goes on after the engine's reply. -/
def afterReply : Except Status Unit → Closing
  | .ok () => returned (.ok ())
  | .error status => if status = .noBlock then returned (.ok ()) else refused status

section

variable {σ : Type} (h : Handler wire σ)

/-- The next step of an attempt. One that has returned does nothing more. -/
def step : Closing × Lifetime σ → Closing × Lifetime σ
  | (waiting, w) =>
    if w.accessor.closed then (returned (.ok ()), w) else (asking, w.mark true)
  | (asking, w) => (afterReply (w.closeReply h), w.askEnd h)
  | (refused status, w) => (returned (.error (.fault (.ofStatus status))), w.mark false)
  | (returned result, w) => (returned result, w)

theorem afterReply_of_endsBlock {w : Lifetime σ} (hw : (w.closeEntry h).endsBlock = true) :
    afterReply (w.closeReply h) = returned (.ok ()) := by
  rw [Lifetime.closeEntry] at hw
  cases hreply : w.closeReply h with
  | ok => rfl
  | error status =>
    rw [hreply] at hw
    exact if_pos (of_decide_eq_true hw)

theorem afterReply_of_not_endsBlock {w : Lifetime σ} (hw : (w.closeEntry h).endsBlock = false) :
    ∃ status, afterReply (w.closeReply h) = refused status := by
  rw [Lifetime.closeEntry] at hw
  cases hreply : w.closeReply h with
  | ok =>
    rw [hreply] at hw
    contradiction
  | error status =>
    rw [hreply] at hw
    exact ⟨status, if_neg (of_decide_eq_false hw)⟩

theorem step_of_closed {w : Lifetime σ} (hclosed : w.accessor.closed = true) :
    step h (waiting, w) = (returned (.ok ()), w) := if_pos hclosed

theorem step_of_open {w : Lifetime σ} (hopen : w.accessor.closed = false) :
    step h (waiting, w) = (asking, w.mark true) := if_neg (Bool.eq_false_iff.mp hopen)

/-- The steps of an attempt with nothing between them are a call that closes. -/
theorem iterate_step (w : Lifetime σ) :
    (step h)^[3] (waiting, w) = (returned (w.result h .close), w.call h .close) := by
  change step h (step h (step h (waiting, w))) = _
  cases hclosed : w.accessor.closed with
  | true =>
    obtain ⟨hcall, hresult⟩ := Lifetime.call_of_closed (h := h) hclosed .close
    rw [hcall, hresult, step_of_closed h hclosed]
    rfl
  | false =>
    have hback : (w.askEnd h).mark false = w.askEnd h := by
      rw [Lifetime.mark, Lifetime.askEnd, ← hclosed]
    have hcall : (returned (w.result h .close), w.call h .close) =
        (returned (w.accessor.closeOutcome (w.closeReply h)).1,
          { w.askEnd h with accessor := (w.accessor.closeOutcome (w.closeReply h)).2 }) := by
      simp only [Lifetime.result, Lifetime.call, Call.operation, start_close_of_open hclosed]
      rfl
    rw [hcall, step_of_open h hclosed]
    -- The engine is asked the same whether the mark is set or not.
    change step h (afterReply (w.closeReply h), (w.askEnd h).mark true) = _
    cases w.closeReply h with
    | ok => rfl
    | error status =>
      rw [afterReply, closeOutcome]
      split
      · rfl
      · exact congrArg (Prod.mk _) hback

end

end Closing

/-! ### Contests -/

/-- An accessor with its engine, and how far each of some attempts to close it has come. -/
structure Contest (ι σ : Type) where
  lifetime : Lifetime σ
  attempts : ι → Closing

namespace Contest

variable {ι σ : Type}

/-- A contest before its first step. -/
def start (a : Accessor) (s : σ) : Contest ι σ := ⟨.start a s, fun _ => .waiting⟩

section

variable [DecidableEq ι] (h : Handler wire σ)

/-- The contest after the next step of an attempt. -/
def step (w : Contest ι σ) (i : ι) : Contest ι σ where
  lifetime := (Closing.step h (w.attempts i, w.lifetime)).2
  attempts := Function.update w.attempts i (Closing.step h (w.attempts i, w.lifetime)).1

/-- The contest after steps of attempts in some order. -/
def after (w : Contest ι σ) (order : List ι) : Contest ι σ := order.foldl (step h) w

theorem after_append (w : Contest ι σ) (order more : List ι) :
    w.after h (order ++ more) = (w.after h order).after h more := List.foldl_append

theorem after_concat (w : Contest ι σ) (order : List ι) (i : ι) :
    w.after h (order ++ [i]) = (w.after h order).step h i := after_append ..

/-- What a step may do. -/
inductive Move (w : Contest ι σ) (i : ι) : Contest ι σ → Prop
  /-- The attempt finds the mark set. -/
  | finds (hi : w.attempts i = .waiting) (hclosed : w.lifetime.accessor.closed = true) :
      Move w i ⟨w.lifetime, Function.update w.attempts i (.returned (.ok ()))⟩
  /-- It sets the mark. -/
  | marks (hi : w.attempts i = .waiting) (hopen : w.lifetime.accessor.closed = false) :
      Move w i ⟨w.lifetime.mark true, Function.update w.attempts i .asking⟩
  /-- The engine grants the end. -/
  | granted (hi : w.attempts i = .asking) (hends : (w.lifetime.closeEntry h).endsBlock = true) :
      Move w i ⟨w.lifetime.askEnd h, Function.update w.attempts i (.returned (.ok ()))⟩
  /-- The engine refuses. -/
  | refused (status : Status) (hi : w.attempts i = .asking)
      (hends : (w.lifetime.closeEntry h).endsBlock = false) :
      Move w i ⟨w.lifetime.askEnd h, Function.update w.attempts i (.refused status)⟩
  /-- The attempt takes the mark back. -/
  | unmarks (status : Status) (hi : w.attempts i = .refused status) :
      Move w i ⟨w.lifetime.mark false,
        Function.update w.attempts i (.returned (.error (.fault (.ofStatus status))))⟩
  /-- The attempt has returned before. -/
  | rests (result : Except Failure Unit) (hi : w.attempts i = .returned result) : Move w i w

theorem move_step (w : Contest ι σ) (i : ι) : Move h w i (w.step h i) := by
  rw [step]
  cases hi : w.attempts i with
  | waiting =>
    cases hclosed : w.lifetime.accessor.closed with
    | true =>
      rw [Closing.step_of_closed h hclosed]
      exact .finds hi hclosed
    | false =>
      rw [Closing.step_of_open h hclosed]
      exact .marks hi hclosed
  | asking =>
    rw [Closing.step]
    cases hends : (w.lifetime.closeEntry h).endsBlock with
    | true =>
      rw [Closing.afterReply_of_endsBlock h hends]
      exact .granted hi hends
    | false =>
      obtain ⟨status, hreply⟩ := Closing.afterReply_of_not_endsBlock h hends
      rw [hreply]
      exact .refused status hi hends
  | refused status => exact .unmarks status hi
  | returned result =>
    rw [Closing.step, ← hi, Function.update_eq_self]
    exact .rests result hi

end

/-! ### Stages -/

/-- What the mark and the attempts under way tell of the block. While nothing is under way and the
end was not granted, the accessor is open; one attempt at a time takes hold of the mark; and after
the end was granted, which happens once, the mark is set for good. -/
inductive Stage (w : Contest ι σ) : Prop
  | opened (hclosed : w.lifetime.accessor.closed = false) (hgrants : w.lifetime.grants = 0)
      (hholds : ∀ i, (w.attempts i).holds = false)
  | held (j : ι) (hclosed : w.lifetime.accessor.closed = true) (hgrants : w.lifetime.grants = 0)
      (hholds : ∀ i, (w.attempts i).holds = true ↔ i = j)
  | ended (hclosed : w.lifetime.accessor.closed = true) (hgrants : w.lifetime.grants = 1)
      (hholds : ∀ i, (w.attempts i).holds = false)

theorem stage_start {a : Accessor} (ha : a.closed = false) (s : σ) :
    (start a s : Contest ι σ).Stage := .opened ha rfl fun _ => rfl

namespace Stage

variable {w w' : Contest ι σ} {i j : ι} {h : Handler wire σ}

theorem of_open (hw : w.Stage) (hopen : w.lifetime.accessor.closed = false) :
    w.lifetime.grants = 0 ∧ ∀ k, (w.attempts k).holds = false := by
  cases hw with
  | opened _ hgrants hholds => exact ⟨hgrants, hholds⟩
  | held _ hclosed | ended hclosed => exact absurd (hclosed.symm.trans hopen) (by decide)

theorem of_holds (hw : w.Stage) (hi : (w.attempts i).holds = true) :
    w.lifetime.accessor.closed = true ∧ w.lifetime.grants = 0 ∧
      ∀ k, (w.attempts k).holds = true ↔ k = i := by
  cases hw with
  | held j hclosed hgrants hholds =>
    obtain rfl := (hholds i).mp hi
    exact ⟨hclosed, hgrants, hholds⟩
  | opened _ _ hholds | ended _ _ hholds => exact absurd (hi.symm.trans (hholds i)) (by decide)

theorem closed_iff (hw : w.Stage) : w.lifetime.accessor.closed = true ↔
    w.lifetime.grants = 1 ∨ ∃ i, (w.attempts i).holds = true := by
  cases hw with
  | opened hclosed hgrants hholds => simp [hclosed, hgrants, hholds]
  | held j hclosed _ hholds => exact iff_of_true hclosed (.inr ⟨j, (hholds j).mpr rfl⟩)
  | ended hclosed hgrants => exact iff_of_true hclosed (.inl hgrants)

theorem grants_le_one (hw : w.Stage) : w.lifetime.grants ≤ 1 := by
  cases hw with
  | opened _ hgrants | held _ _ hgrants => rw [hgrants]; exact Nat.zero_le 1
  | ended _ hgrants => exact Nat.le_of_eq hgrants

variable [DecidableEq ι]

/-- An attempt that goes on without taking hold of the mark or giving it up changes no holder. -/
theorem holds_update {c : Closing} (hc : c.holds = (w.attempts i).holds) (k : ι) :
    (Function.update w.attempts i c k).holds = (w.attempts k).holds := by
  rw [Function.update_apply]
  split
  next hk => rw [hk, hc]
  next => rfl

/-- The only attempt that holds the mark gives it up. -/
theorem holds_update_of_holder {c : Closing} (hc : c.holds = false)
    (hholds : ∀ k, (w.attempts k).holds = true ↔ k = i) (k : ι) :
    (Function.update w.attempts i c k).holds = false := by
  rw [Function.update_apply]
  split
  next => exact hc
  next hk => exact Bool.eq_false_iff.mpr fun hholds' => hk ((hholds k).mp hholds')

/-- A step leads from stage to stage. -/
theorem move (hw : w.Stage) (hmove : Move h w i w') : w'.Stage := by
  cases hmove with
  | finds hi hclosed =>
    have hsame := holds_update (w := w) (i := i) (c := .returned (.ok ())) (by rw [hi]; rfl)
    cases hw with
    | opened hopen => exact absurd (hclosed.symm.trans hopen) (by decide)
    | held j _ hgrants hholds =>
      exact .held j hclosed hgrants fun k => by rw [hsame]; exact hholds k
    | ended _ hgrants hholds => exact .ended hclosed hgrants fun k => by rw [hsame]; exact hholds k
  | marks hi hopen =>
    obtain ⟨hgrants, hholds⟩ := hw.of_open hopen
    refine .held i rfl hgrants fun k => ?_
    dsimp only
    rw [Function.update_apply]
    split
    next hk => exact iff_of_true rfl hk
    next hk => exact iff_of_false (Bool.eq_false_iff.mp (hholds k)) hk
  -- An attempt that asks or was refused is the one that holds the mark.
  | granted hi hends =>
    obtain ⟨hclosed, hgrants, hholds⟩ := hw.of_holds (i := i) (by rw [hi]; rfl)
    refine .ended hclosed ?_ (holds_update_of_holder rfl hholds)
    rw [Lifetime.grants_askEnd, hgrants, if_pos hends]
  | refused status hi hends =>
    have hholds : (w.attempts i).holds = true := by rw [hi]; rfl
    obtain ⟨hclosed, hgrants, hiff⟩ := hw.of_holds hholds
    refine .held i hclosed ?_ fun k => ?_
    · rw [Lifetime.grants_askEnd, hgrants, if_neg (Bool.eq_false_iff.mp hends)]
    · dsimp only
      rw [holds_update (by rw [hholds]; rfl)]
      exact hiff k
  | unmarks status hi =>
    obtain ⟨-, hgrants, hholds⟩ := hw.of_holds (i := i) (by rw [hi]; rfl)
    exact .opened rfl hgrants (holds_update_of_holder rfl hholds)
  | rests => exact hw

theorem after (hw : w.Stage) (order : List ι) : (w.after h order).Stage := by
  induction order generalizing w with
  | nil => exact hw
  | cons i order ih => exact ih (hw.move (move_step h w i))

end Stage

/-- The stage of a contest for an open accessor, whatever the order of the steps. -/
theorem stage_after [DecidableEq ι] (h : Handler wire σ) {a : Accessor} (ha : a.closed = false)
    (s : σ) (order : List ι) : ((start a s : Contest ι σ).after h order).Stage :=
  (stage_start ha s).after order

/-! ### What an attempt that has returned tells -/

section

variable [DecidableEq ι] {h : Handler wire σ} {w w' : Contest ι σ} {i : ι}

/-- A step of one attempt leaves the others where they are. -/
theorem Move.attempts_of_ne (hmove : Move h w i w') {k : ι} (hk : k ≠ i) :
    w'.attempts k = w.attempts k := by
  cases hmove with
  | rests => rfl
  | _ => exact Function.update_of_ne hk ..

theorem Move.grants_le (hmove : Move h w i w') : w.lifetime.grants ≤ w'.lifetime.grants := by
  cases hmove with
  | granted | refused => rw [Lifetime.grants_askEnd]; exact Nat.le_add_right ..
  | _ => exact Nat.le_refl _

theorem Move.returned (hmove : Move h w i w') {k : ι} {result : Except Failure Unit}
    (hk : w.attempts k = .returned result) : w'.attempts k = .returned result := by
  by_cases hki : k = i
  · subst hki
    cases hmove with
    | rests => exact hk
    | finds hi | marks hi | granted hi | refused _ hi | unmarks _ hi =>
      rw [hk] at hi
      contradiction
  · rw [hmove.attempts_of_ne hki, hk]

theorem returned_after {k : ι} {result : Except Failure Unit}
    (hk : w.attempts k = .returned result) (order : List ι) :
    (w.after h order).attempts k = .returned result := by
  induction order generalizing w with
  | nil => exact hk
  | cons i order ih => exact ih ((move_step h w i).returned hk)

/-- After the end was granted, a step only lets an attempt succeed. -/
theorem Move.of_granted (hmove : Move h w i w') (hw : w.Stage) (hgrants : w.lifetime.grants = 1) :
    w'.lifetime = w.lifetime ∧ ∀ k result, w'.attempts k = .returned result →
      w.attempts k = .returned result ∨ result = .ok () := by
  have hnone (hi : (w.attempts i).holds = true) : False := by
    have := (hw.of_holds hi).2.1
    omega
  cases hmove with
  | finds hi hclosed =>
    refine ⟨rfl, fun k result hk => ?_⟩
    dsimp only at hk
    rw [Function.update_apply] at hk
    split at hk
    · exact .inr (Closing.returned.inj hk).symm
    · exact .inl hk
  | marks hi hopen =>
    have := (hw.of_open hopen).1
    omega
  | granted hi | refused _ hi | unmarks _ hi => exact (hnone (by rw [hi]; rfl)).elim
  | rests => exact ⟨rfl, fun k result hk => .inl hk⟩

theorem after_of_granted (hw : w.Stage) (hgrants : w.lifetime.grants = 1) (order : List ι) :
    (w.after h order).lifetime = w.lifetime ∧
      ∀ k result, (w.after h order).attempts k = .returned result →
        w.attempts k = .returned result ∨ result = .ok () := by
  induction order generalizing w with
  | nil => exact ⟨rfl, fun k result hk => .inl hk⟩
  | cons i order ih =>
    have hmove := move_step h w i
    obtain ⟨hsame, hnew⟩ := hmove.of_granted hw hgrants
    obtain ⟨hlater, hnewer⟩ := ih (hw.move hmove) (by rw [hsame]; exact hgrants)
    refine ⟨hlater.trans hsame, fun k result hk => ?_⟩
    rcases hnewer k result hk with hk | hk
    · exact hnew k result hk
    · exact .inr hk

/-- After a step that changes anything, the mark is set or an attempt has failed. -/
theorem Move.closed_or_failed (hmove : Move h w i w') (hw : w.Stage) :
    w' = w ∨ w'.lifetime.accessor.closed = true ∨
      ∃ j status, w'.attempts j = .returned (.error (.fault (.ofStatus status))) := by
  cases hmove with
  | finds hi hclosed => exact .inr (.inl hclosed)
  | marks => exact .inr (.inl rfl)
  | granted hi | refused _ hi =>
    exact .inr (.inl (hw.of_holds (i := i) (by rw [hi]; rfl)).1)
  | unmarks status hi => exact .inr (.inr ⟨i, status, Function.update_self ..⟩)
  | rests => exact .inl rfl

variable (h) in
/-- Where the mark is not set and an attempt has succeeded, another one has failed. -/
theorem closed_or_failed {a : Accessor} (ha : a.closed = false) (s : σ) (order : List ι) {k : ι}
    (hk : ((start a s).after h order).attempts k = .returned (.ok ())) :
    ((start a s).after h order).lifetime.accessor.closed = true ∨
      ∃ j status, ((start a s).after h order).attempts j =
        .returned (.error (.fault (.ofStatus status))) := by
  induction order using List.reverseRecOn with
  | nil => contradiction
  | append_singleton order i ih =>
    rw [after_concat] at hk ⊢
    have hmove := move_step h ((start a s).after h order) i
    rcases hmove.closed_or_failed (stage_after h ha s order) with hsame | hnew
    · rw [hsame] at hk ⊢
      exact ih hk
    · exact hnew

/-- An attempt that looks at the mark while another one holds it succeeds. -/
theorem step_of_holds (hw : w.Stage) (hi : w.attempts i = .waiting) {j : ι}
    (hj : (w.attempts j).holds = true) : (w.step h i).attempts i = .returned (.ok ()) := by
  rw [step, hi, Closing.step_of_closed h (hw.of_holds hj).1]
  exact Function.update_self ..

/-- A step by which an attempt succeeds, though the engine has not granted the end, is one that
finds the mark set by another attempt. -/
theorem Move.succeeds (hmove : Move h w i w') (hw : w.Stage) (hgrants : w'.lifetime.grants = 0)
    {k : ι} (hk : w'.attempts k = .returned (.ok ())) :
    w.attempts k = .returned (.ok ()) ∨
      k = i ∧ w.attempts i = .waiting ∧ ∃ j, (w.attempts j).holds = true := by
  have hbefore : w.lifetime.grants = 0 := Nat.le_zero.mp (hgrants ▸ hmove.grants_le)
  by_cases hki : k = i
  · subst hki
    cases hmove with
    | finds hi hclosed =>
      rcases hw.closed_iff.mp hclosed with hgranted | hholds
      · omega
      · exact .inr ⟨rfl, hi, hholds⟩
    | granted hi hends =>
      rw [Lifetime.grants_askEnd, if_pos hends] at hgrants
      omega
    | marks | refused | unmarks =>
      dsimp only at hk
      rw [Function.update_self] at hk
      cases hk
    | rests => exact .inl hk
  · rw [hmove.attempts_of_ne hki] at hk
    exact .inl hk

variable (h) in
/-- While the engine has not granted the end, the attempts that have succeeded are those that looked
at the mark while another one held it. -/
theorem succeeded_iff {a : Accessor} (ha : a.closed = false) (s : σ) (order : List ι)
    (hgrants : ((start a s).after h order).lifetime.grants = 0) (k : ι) :
    ((start a s).after h order).attempts k = .returned (.ok ()) ↔
      ∃ before later, order = before ++ k :: later ∧
        ((start a s).after h before).attempts k = .waiting ∧
        ∃ j, (((start a s).after h before).attempts j).holds = true := by
  constructor
  · intro hk
    -- The last step is the one by which the attempt succeeded, or it had succeeded before.
    induction order using List.reverseRecOn with
    | nil => contradiction
    | append_singleton order i ih =>
      rw [after_concat] at hk hgrants
      have hmove := move_step h ((start a s).after h order) i
      rcases hmove.succeeds (stage_after h ha s order) hgrants hk with hk | ⟨rfl, hi, hholds⟩
      · obtain ⟨before, later, rfl, hlook⟩ := ih (Nat.le_zero.mp (hgrants ▸ hmove.grants_le)) hk
        exact ⟨before, later ++ [i], by simp, hlook⟩
      · exact ⟨order, [], rfl, hi, hholds⟩
  · rintro ⟨before, later, rfl, hk, j, hj⟩
    rw [after_append]
    exact returned_after (step_of_holds (stage_after h ha s before) hk hj) later

end

/-- Three steps of an attempt with none of another between them are a call that closes. -/
theorem after_alone [DecidableEq ι] (h : Handler wire σ) {w : Contest ι σ} {i : ι}
    (hi : w.attempts i = .waiting) : w.after h [i, i, i] =
      ⟨w.lifetime.call h .close,
        Function.update w.attempts i (.returned (w.lifetime.result h .close))⟩ := by
  have hcall := Closing.iterate_step h w.lifetime
  rw [← hi] at hcall
  change (step h (step h (step h w i) i) i) = _
  change Closing.step h (Closing.step h (Closing.step h (w.attempts i, w.lifetime))) = _ at hcall
  simp only [step, Function.update_self, Function.update_idem, hcall]

/-- **A granted end is final; success alone is not a grant.** Any number of attempts to close an
accessor take their steps in any order, and the engine may answer anything.

An attempt whose steps nothing interrupts is a call that closes. The mark is set exactly while the
engine has granted the end or an attempt holds the mark, and one attempt at most holds it. The
engine grants the end at most once, and then the mark stays, nothing more is asked, and no attempt
fails. If an attempt has succeeded and the mark is not set, another one has failed. While the end is
not granted, exactly those attempts have succeeded that looked at the mark while another held it. -/
theorem granted_end_is_final [DecidableEq ι] (h : Handler wire σ) (s : σ) {a : Accessor}
    (ha : a.closed = false) (order : List ι) :
    let w : Contest ι σ := (start a s).after h order
    (∀ i, w.attempts i = .waiting → w.after h [i, i, i] =
      ⟨w.lifetime.call h .close,
        Function.update w.attempts i (.returned (w.lifetime.result h .close))⟩) ∧
    (w.lifetime.accessor.closed = true ↔
      w.lifetime.grants = 1 ∨ ∃ i, (w.attempts i).holds = true) ∧
    (∀ i j, (w.attempts i).holds = true → (w.attempts j).holds = true → i = j) ∧
    w.lifetime.grants ≤ 1 ∧
    (w.lifetime.grants = 1 → ∀ more, (w.after h more).lifetime = w.lifetime ∧
      ∀ i result, (w.after h more).attempts i = .returned result →
        w.attempts i = .returned result ∨ result = .ok ()) ∧
    (∀ i, w.attempts i = .returned (.ok ()) → w.lifetime.accessor.closed = true ∨
      ∃ j status, w.attempts j = .returned (.error (.fault (.ofStatus status)))) ∧
    (w.lifetime.grants = 0 → ∀ i, w.attempts i = .returned (.ok ()) ↔
      ∃ before later, order = before ++ i :: later ∧
        ((start a s).after h before).attempts i = .waiting ∧
        ∃ j, (((start a s).after h before).attempts j).holds = true) := by
  intro w
  have hw : w.Stage := stage_after h ha s order
  refine ⟨fun i => after_alone h, hw.closed_iff, fun i j hi hj => ?_, hw.grants_le_one,
    after_of_granted hw, fun i => closed_or_failed h ha s order, succeeded_iff h ha s order⟩
  exact ((hw.of_holds hj).2.2 i).mp hi

/-- The first attempt is refused, and the second, which looks at the mark meanwhile, succeeds all
the same; a third one is granted the end. -/
theorem granted_end_is_final_refusedOnce :
    let a := ofSettings "MOCK" {}
    let h := Scripted.handler fun
      | .query (.closeBlock _) => "close"
      | _ => ""
    let plan : Plan wire := { codes := Table.insert ∅ "close" [-4] }
    let order : List (Fin 3) := [0, 1, 0, 0]
    let w := (start a (plan, ({} : Scripted))).after h order
    let w' := (start a (plan, ({} : Scripted))).after h (order ++ [2, 2])
    (w.lifetime.accessor.closed = false ∧ w.attempts 1 = .returned (.ok ()) ∧
      ∃ j status, w.attempts j = .returned (.error (.fault (.ofStatus status)))) ∧
      w'.lifetime.grants = 1 ∧ ∀ more, (w'.after h more).lifetime = w'.lifetime := by
  intro a h plan order w w'
  obtain ⟨-, -, -, -, -, hsuccess, hmark⟩ :=
    granted_end_is_final h (plan, ({} : Scripted)) (a := a) rfl order
  obtain ⟨-, -, -, -, hfinal, -, -⟩ :=
    granted_end_is_final h (plan, ({} : Scripted)) (a := a) rfl (order ++ [2, 2])
  have hclosed : w.lifetime.accessor.closed = false := by decide +kernel
  have hgrants : w.lifetime.grants = 0 := by decide +kernel
  have hgrants' : w'.lifetime.grants = 1 := by decide +kernel
  have hone : w.attempts 1 = .returned (.ok ()) :=
    (hmark hgrants 1).mpr ⟨[0], [0, 0], rfl, rfl, 0, rfl⟩
  refine ⟨⟨hclosed, hone, ?_⟩, hgrants', fun more => (hfinal hgrants' more).1⟩
  exact (hsuccess 1 hone).resolve_left (Bool.eq_false_iff.mp hclosed)

/-- An attempt may succeed although the engine has refused every request to end the block. All
attempts have then returned, and the accessor is open. -/
theorem exists_unfounded_success : ∃ (h : Handler wire Unit) (order : List (Fin 2)),
    let w := (start (ofSettings "MOCK" {}) ()).after h order
    w.attempts 1 = .returned (.ok ()) ∧ w.lifetime.grants = 0 ∧
      w.lifetime.accessor.closed = false ∧ ∀ i, ∃ result, w.attempts i = .returned result := by
  refine ⟨fun r s => (Scripted.refusal r (-4), s), [0, 1, 0, 0], rfl, by decide +kernel, rfl,
    fun i => ?_⟩
  match i with
  | 0 => exact ⟨_, rfl⟩
  | 1 => exact ⟨_, rfl⟩

end Contest

end TickerTape.Accessor
