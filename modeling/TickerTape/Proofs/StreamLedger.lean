import Mathlib.Data.List.Forall2
import TickerTape.Proofs.ExchangeSound

/-!
# Accounts of a stream

A stream forgets what it has written and what it has given. An account keeps both: all records that
were written to the stream, in order, and those that marker reads gave. What is given comes, in
order and at most once, from the part of the history that precedes the unread records. While no
unread record is lost, and no marker read skips one, given and unread records together are the
whole history.

## Main definitions

* `TickerTape.Engine.Stream.pending` — the unread records.
* `TickerTape.Engine.Stream.Ledger` — what was given comes from what was written.
* `TickerTape.Engine.Stream.Exact` — what was given is all that was written and is not unread.

## Main results

* `TickerTape.Engine.Stream.pending_of_fetch` — a marker read divides the unread records into those
  that it skips, gives and leaves.
-/

namespace TickerTape.Engine

/-- Steps of a list succeed together when each does. -/
theorem mapM_eq_ok_iff {ε α β : Type} {f : α → Except ε β} {as : List α} {bs : List β} :
    as.mapM f = .ok bs ↔ List.Forall₂ (fun a b => f a = .ok b) as bs := by
  induction as generalizing bs with
  | nil =>
    rw [List.mapM_nil, List.forall₂_nil_left_iff]
    exact ⟨fun h => by cases h; rfl, fun h => by rw [h]; rfl⟩
  | cons a as ih =>
    rw [List.mapM_cons, List.forall₂_cons_left_iff]
    simp only [bind_eq_ok_iff]
    constructor
    · rintro ⟨b, hb, bs, hbs, h⟩
      cases h
      exact ⟨b, bs, hb, ih.mp hbs, rfl⟩
    · rintro ⟨b, bs, hb, hbs, rfl⟩
      exact ⟨b, hb, bs, ih.mpr hbs, rfl⟩

/-- A list of steps fails as one of them does. -/
theorem exists_of_mapM_eq_error {ε α β : Type} {f : α → Except ε β} {as : List α} {x : ε}
    (h : as.mapM f = .error x) : ∃ a ∈ as, f a = .error x := by
  induction as with
  | nil => contradiction
  | cons a as ih =>
    rw [List.mapM_cons] at h
    rcases bind_eq_error_iff.mp h with ha | ⟨b, -, h⟩
    · exact ⟨a, List.mem_cons_self, ha⟩
    · rcases bind_eq_error_iff.mp h with has | ⟨bs, -, h⟩
      · obtain ⟨a', hmem, ha'⟩ := ih has
        exact ⟨a', List.mem_cons_of_mem _ hmem, ha'⟩
      · contradiction

/-- Steps of a list that cannot fail, and one on their results. -/
theorem exists_mapM_bind_eq_ok {ε α β γ : Type} {f : α → Except ε β} {g : List β → Except ε γ}
    {Q : β → Prop} {R : γ → Prop} {as : List α} (hf : ∀ a ∈ as, ∃ b, f a = .ok b ∧ Q b)
    (hg : ∀ bs, (∀ b ∈ bs, Q b) → ∃ c, g bs = .ok c ∧ R c) :
    ∃ c, as.mapM f >>= g = .ok c ∧ R c := by
  obtain ⟨bs, hbs, hQ⟩ : ∃ bs, as.mapM f = .ok bs ∧ ∀ b ∈ bs, Q b := by
    clear hg
    induction as with
    | nil => exact ⟨[], rfl, fun _ hb => absurd hb List.not_mem_nil⟩
    | cons a as ih =>
      obtain ⟨b, hb, hQ⟩ := hf a List.mem_cons_self
      obtain ⟨bs, hbs, hQs⟩ := ih fun a' ha' => hf a' (List.mem_cons_of_mem _ ha')
      refine ⟨b :: bs, ?_, List.forall_mem_cons.mpr ⟨hQ, hQs⟩⟩
      rw [List.mapM_cons, hb, hbs]
      rfl
  obtain ⟨c, hc, hR⟩ := hg bs hQ
  exact ⟨c, bind_eq_ok_iff.mpr ⟨bs, hbs, hc⟩, hR⟩

namespace Stream

variable {s s' : Stream} {published taken : List Record}

/-! ### Unread records -/

/-- The records that no marker read has taken, oldest first. -/
def pending (s : Stream) : List Record := (s.records.take s.unread).reverse

@[simp] theorem pending_empty : empty.pending = [] := rfl

theorem pending_cons (s : Stream) (r : Record) :
    pending ⟨s.held.cons r, s.unread + 1, s.lost⟩ = s.pending ++ [r] := by
  simp [pending, records]

/-- Of the unread records those that a cut leaves are the most recent. -/
theorem pending_truncate (s : Stream) (capacity : Nat) :
    (s.truncate capacity).pending = ((s.records.take s.unread).take capacity).reverse := by
  rw [pending, records_truncate, unread_truncate, List.take_take, List.take_take, List.length_take]
  congr 1
  rw [List.take_eq_take_iff]
  omega

theorem pending_truncate_suffix (s : Stream) (capacity : Nat) :
    (s.truncate capacity).pending <:+ s.pending := by
  rw [pending_truncate, pending, List.reverse_suffix]
  exact List.take_prefix _ _

/-- A cut that loses no unread record leaves them all. -/
theorem pending_truncate_of_lost {capacity : Nat} (h : (s.truncate capacity).lost = false) :
    s.lost = false ∧ (s.truncate capacity).pending = s.pending := by
  rw [lost_truncate, Bool.or_eq_false_iff, decide_eq_false_iff_not, List.length_take] at h
  refine ⟨h.1, ?_⟩
  rw [pending_truncate, pending, List.take_take]
  congr 2
  omega

/-- A list up to place `n`, divided at place `first` and `count` places after it. -/
theorem take_eq_append {α : Type} (l : List α) {n first count : Nat} (h : count ≤ n - first) :
    l.take n = l.take (min n first) ++ (l.drop first).take count ++
      (l.drop (first + count)).take (n - first - count) := by
  by_cases hn : n ≤ first
  · obtain rfl : count = 0 := by omega
    simp [Nat.min_eq_left hn, Nat.sub_eq_zero_of_le hn]
  · have hsum : n = first + count + (n - first - count) := by omega
    rw [Nat.min_eq_right (by omega), ← List.take_add, ← List.take_add, ← hsum]

/-- A marker read divides the unread records. It skips the oldest ones if there is no room for all,
gives the next ones and leaves those that are more recent than it went. The sign of their number
tells whether records were lost before it or are skipped. -/
theorem pending_of_fetch (hle : s.unread ≤ s.records.length) {first room : Nat} {kind : Kind}
    {stamped : Bool} {found : MarkerRead} (h : s.fetch first room kind stamped = .ok (found, s')) :
    ∃ skipped given, s.pending = skipped ++ given ++ s'.pending ∧
      given.mapM (Record.give kind stamped) = .ok found.samples ∧
      found.samples.length = min (s.unread - first) room ∧
      skipped.length = s.unread - first - room ∧
      found.got = if s.lost || room < s.unread - first then -(found.samples.length : Int)
        else found.samples.length := by
  obtain ⟨hrecords, hunread, -⟩ := of_fetch_eq_ok h
  rw [fetch_eq] at h
  obtain ⟨samples, hgive, h⟩ := bind_eq_ok_iff.mp h
  cases h
  rw [window_eq] at hgive
  generalize hcount : min (s.unread - first) room = count at *
  have hsplit := take_eq_append s.records (show count ≤ s.unread - first by omega)
  have hlen : samples.length = count := by
    rw [← (mapM_eq_ok_iff.mp hgive).length_eq, List.length_reverse, List.length_take,
      List.length_drop]
    omega
  refine ⟨((s.records.drop (first + count)).take (s.unread - first - count)).reverse, _, ?_, hgive,
    hlen, ?_, ?_⟩
  · rw [pending, hsplit, pending, hrecords, hunread]
    simp
  · rw [List.length_reverse, List.length_take, List.length_drop]
    omega
  · simp only [hlen]

/-! ### What was given comes from what was written -/

/-- The records `taken` come, in order and each at most once, from the `published` ones that precede
the unread ones. -/
structure Ledger (s : Stream) (published taken : List Record) : Prop where
  unread_le : s.unread ≤ s.records.length
  exists_passed : ∃ passed, published = passed ++ s.pending ∧ taken.Sublist passed

namespace Ledger

theorem start : empty.Ledger [] [] := ⟨Nat.le_refl _, [], rfl, .slnil⟩

/-- Records that are taken or lost leave the unread ones at their recent end. -/
theorem of_pending_eq (h : s.Ledger published taken) (hle : s'.unread ≤ s'.records.length)
    {skipped given : List Record} (hpending : s.pending = skipped ++ given ++ s'.pending) :
    s'.Ledger published (taken ++ given) := by
  obtain ⟨passed, rfl, hsub⟩ := h.exists_passed
  refine ⟨hle, passed ++ skipped ++ given, by simp [hpending], ?_⟩
  exact (hsub.trans (List.sublist_append_left _ _)).append (.refl given)

/-- Records that were taken may be left out of the account. -/
theorem of_sublist (h : s.Ledger published taken) {kept : List Record}
    (hkept : kept.Sublist taken) : s.Ledger published kept := by
  obtain ⟨passed, hpassed, hsub⟩ := h.exists_passed
  exact ⟨h.unread_le, passed, hpassed, hkept.trans hsub⟩

theorem truncate (h : s.Ledger published taken) (capacity : Nat) :
    (s.truncate capacity).Ledger published taken := by
  obtain ⟨lost, hlost⟩ := s.pending_truncate_suffix capacity
  have hle : (s.truncate capacity).unread ≤ (s.truncate capacity).records.length := by
    rw [unread_truncate, records_truncate]
    exact Nat.min_le_right _ _
  simpa using h.of_pending_eq hle (show s.pending = lost ++ [] ++ _ by simp [hlost])

theorem push (h : s.Ledger published taken) (capacity : Nat) (r : Record) :
    (s.push capacity r).Ledger (published ++ [r]) taken := by
  refine truncate ⟨Nat.succ_le_succ h.unread_le, ?_⟩ capacity
  obtain ⟨passed, rfl, hsub⟩ := h.exists_passed
  exact ⟨passed, by rw [pending_cons, List.append_assoc], hsub⟩

end Ledger

/-! ### Nothing was left out -/

/-- If the stream has lost no unread record, the records `taken` are the `published` ones that
precede the unread ones. -/
def Exact (s : Stream) (published taken : List Record) : Prop :=
  s.lost = false → taken ++ s.pending = published

namespace Exact

theorem start : empty.Exact [] [] := fun _ => rfl

theorem truncate (h : s.Exact published taken) (capacity : Nat) :
    (s.truncate capacity).Exact published taken := fun hlost => by
  obtain ⟨hlost, hpending⟩ := pending_truncate_of_lost hlost
  rw [hpending]
  exact h hlost

theorem push (h : s.Exact published taken) (capacity : Nat) (r : Record) :
    (s.push capacity r).Exact (published ++ [r]) taken := by
  refine truncate (fun hlost => ?_) capacity
  rw [pending_cons, ← List.append_assoc, h hlost]

/-- Taking unread records and skipping none keeps the account exact. -/
theorem of_pending_eq (h : s.Exact published taken) (hlost : s.lost = false)
    {given : List Record} (hpending : s.pending = given ++ s'.pending) :
    s'.Exact published (taken ++ given) := fun _ => by
  rw [List.append_assoc, ← hpending]
  exact h hlost

end Exact

end Stream

end TickerTape.Engine
