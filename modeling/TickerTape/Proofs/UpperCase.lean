import Mathlib.Data.List.Basic
import Mathlib.Data.List.Induction
import TickerTape.Text.Blank
import TickerTape.Text.Upper

/-!
# The upper case of trimmed texts

What the table of upper case gives for a character is final: none of these characters has another
upper case, none is blank and none is `#`. So the upper case of a text is its own upper case, and a
text without blanks at its ends keeps this form. The table has more than a thousand characters. It
is checked with sets of code points that are kept as bits of one number.

## Main definitions

* `TickerTape.Text.codeSet` — a set of code points as a number.
* `TickerTape.Text.Trimmed` — texts without blanks at their ends.
* `TickerTape.Text.Casing` — mappings that turn a name into a name.

## Main results

* `TickerTape.Text.upperChar_of_mem` — the characters of an upper case are their own upper case.
* `TickerTape.Text.trimmed_trim`, `TickerTape.Text.Trimmed.trim_eq` — trimming makes a trimmed text.
* `TickerTape.Text.casing_upper` — upper case is such a mapping.
-/

namespace TickerTape.Text

/-! ### Sets of code points -/

/-- The number whose bits are the code points. -/
def codeSet (ns : List Nat) : Nat := ns.foldr (fun n set => 1 <<< n ||| set) 0

theorem testBit_codeSet {ns : List Nat} {n : Nat} : (codeSet ns).testBit n = decide (n ∈ ns) := by
  induction ns with
  | nil => rw [codeSet, List.foldr_nil, Nat.zero_testBit, decide_eq_false List.not_mem_nil]
  | cons m ns ih =>
    rw [codeSet, List.foldr_cons, ← codeSet, Nat.testBit_or, ih, Nat.one_shiftLeft,
      Nat.testBit_two_pow, ← Bool.decide_or]
    simp only [List.mem_cons, eq_comm]

theorem notMem_of_codeSet {ms ns : List Nat} (h : codeSet ms &&& codeSet ns = 0) {n : Nat}
    (hn : n ∈ ms) : n ∉ ns := by
  have hbit := congrArg (·.testBit n) h
  simpa only [Nat.testBit_and, testBit_codeSet, hn, decide_true, Bool.true_and, Nat.zero_testBit,
    decide_eq_false_iff_not] using hbit

/-! ### The table -/

/-- The code points of a run. -/
def CaseRun.points (r : CaseRun) : List Nat :=
  (List.range' r.first (r.last + 1 - r.first)).filter r.holds

theorem CaseRun.mem_points {r : CaseRun} {n : Nat} : n ∈ r.points ↔ r.holds n := by
  rw [points, List.mem_filter, List.mem_range'_1, and_iff_right_iff_imp]
  intro h
  simp only [holds, Bool.and_eq_true, decide_eq_true_eq] at h
  omega

/-- The code points that have another upper case. -/
def casedPoints : List Nat := caseRuns.flatMap CaseRun.points ++ caseExpansions.map Prod.fst

/-- The characters of these upper cases. -/
def uppers : List Char :=
  caseRuns.flatMap (fun r => r.points.map fun (n : Nat) => Char.ofNat (n + r.shift).toNat) ++
    caseExpansions.flatMap fun e => e.2.map Char.ofNat

/-- The code points of blanks and of `#`. -/
def markPoints : List Nat :=
  0x23 :: blankRanges.flatMap fun r => List.range' r.1 (r.2 + 1 - r.1)

theorem mem_markPoints {c : Char} (h : isBlank c = true ∨ c = '#') : c.toNat ∈ markPoints := by
  obtain h | rfl := h
  · obtain ⟨r, hr, hfirst, hlast⟩ := exists_of_inRanges h
    refine List.mem_cons_of_mem _ (List.mem_flatMap.mpr ⟨r, hr, List.mem_range'_1.mpr ?_⟩)
    omega
  · exact List.mem_cons_self

theorem uppers_disjoint :
    codeSet (uppers.map Char.toNat) &&& codeSet (casedPoints ++ markPoints) = 0 := by
  decide +kernel

theorem expansion_ne_nil : ∀ e ∈ caseExpansions, e.2 ≠ [] := by decide +kernel

variable {c d : Char} {cs : List Char}

theorem notMem_of_mem_uppers (h : d ∈ uppers) :
    d.toNat ∉ casedPoints ∧ d.toNat ∉ markPoints := by
  rw [← not_or, ← List.mem_append]
  exact notMem_of_codeSet uppers_disjoint (List.mem_map_of_mem h)

theorem upperChar_of_notMem (h : c.toNat ∉ casedPoints) : upperChar c = [c] := by
  have hrun : caseRuns.find? (·.holds c.toNat) = none := by
    refine List.find?_eq_none.mpr fun r hr hholds => h (List.mem_append_left _ ?_)
    exact List.mem_flatMap.mpr ⟨r, hr, CaseRun.mem_points.mpr hholds⟩
  have hexpansion : caseExpansions.lookup c.toNat = none := by
    refine List.lookup_eq_none_iff.mpr fun e he => bne_iff_ne.mpr fun heq => h ?_
    exact List.mem_append_right _ (List.mem_map.mpr ⟨e, he, heq.symm⟩)
  rw [upperChar, hrun, hexpansion]

/-- A character is its own upper case, or its upper case is one of the table. -/
theorem upperChar_cases (c : Char) :
    upperChar c = [c] ∨ upperChar c ≠ [] ∧ ∀ d ∈ upperChar c, d ∈ uppers := by
  unfold upperChar
  dsimp only
  split
  next r hr =>
    refine .inr ⟨List.cons_ne_nil _ _, List.forall_mem_singleton.mpr (List.mem_append_left _ ?_)⟩
    have hholds := List.find?_some hr
    exact List.mem_flatMap.mpr
      ⟨r, List.mem_of_find?_eq_some hr, List.mem_map.mpr ⟨_, CaseRun.mem_points.mpr hholds, rfl⟩⟩
  next =>
    split
    next ns hns =>
      obtain ⟨before, after, heq, -⟩ := List.lookup_eq_some_iff.mp hns
      have he : (c.toNat, ns) ∈ caseExpansions := heq ▸ List.mem_append_right _ List.mem_cons_self
      refine .inr ⟨mt List.map_eq_nil_iff.mp (expansion_ne_nil _ he), fun d hd => ?_⟩
      exact List.mem_append_right _ (List.mem_flatMap.mpr ⟨_, he, hd⟩)
    next => exact .inl rfl

theorem upperChar_ne_nil (c : Char) : upperChar c ≠ [] := by
  obtain h | h := upperChar_cases c
  · exact h ▸ List.cons_ne_nil c []
  · exact h.1

/-- The characters of an upper case are their own upper case. -/
theorem upperChar_of_mem (h : d ∈ upperChar c) : upperChar d = [d] := by
  obtain hc | ⟨-, hc⟩ := upperChar_cases c
  · rw [hc, List.mem_singleton] at h
    exact h ▸ hc
  · exact upperChar_of_notMem (notMem_of_mem_uppers (hc d h)).1

/-- Blanks and `#` come only from themselves. -/
theorem eq_of_mem_upperChar (h : d ∈ upperChar c) (hd : isBlank d = true ∨ d = '#') : d = c := by
  obtain hc | ⟨-, hc⟩ := upperChar_cases c
  · rwa [hc, List.mem_singleton] at h
  · exact absurd (mem_markPoints hd) (notMem_of_mem_uppers (hc d h)).2

/-! ### Trimmed texts -/

/-- A text without blanks at its ends. -/
structure Trimmed (cs : List Char) : Prop where
  head : ∀ c ∈ cs.head?, isBlank c = false
  last : ∀ c ∈ cs.getLast?, isBlank c = false

theorem trimStart_of_head (h : ∀ c ∈ cs.head?, isBlank c = false) : trimStart cs = cs := by
  cases cs with
  | nil => rfl
  | cons c cs => exact List.dropWhile_cons_of_neg (Bool.eq_false_iff.mp (h c rfl))

theorem trimEnd_eq_reverse (cs : List Char) : trimEnd cs = (trimStart cs.reverse).reverse := rfl

theorem trimEnd_prefix_self (cs : List Char) : trimEnd cs <+: cs := by
  rw [trimEnd_eq_reverse, ← List.reverse_suffix, List.reverse_reverse]
  exact List.dropWhile_suffix isBlank

theorem Trimmed.trim_eq (h : Trimmed cs) : trim cs = cs := by
  rw [trim, trimStart_of_head h.head, trimEnd_eq_reverse, trimStart_of_head, List.reverse_reverse]
  rw [List.head?_reverse]
  exact h.last

theorem trimmed_trim (cs : List Char) : Trimmed (trim cs) where
  head c hc := by
    obtain ⟨rest, hrest⟩ := trimEnd_prefix_self (trimStart cs)
    refine isBlank_head?_trimStart cs c ?_
    rw [← hrest, List.head?_append, ← trim, Option.mem_def.mp hc, Option.some_or]
    rfl
  last c hc := by
    rw [trim, trimEnd_eq_reverse, List.getLast?_reverse] at hc
    exact isBlank_head?_trimStart _ c hc

theorem trim_subset (cs : List Char) : trim cs ⊆ cs :=
  List.Subset.trans (trimEnd_prefix_self _).subset (List.dropWhile_suffix isBlank).subset

/-! ### Upper case -/

/-- A mapping of texts that turns a name into a name: what it gives is final, and stays trimmed and
on one line without a leading `#`. -/
structure Casing (upper : List Char → List Char) : Prop where
  idempotent : ∀ cs, upper (upper cs) = upper cs
  ne_nil : ∀ {cs}, cs ≠ [] → upper cs ≠ []
  trimmed : ∀ {cs}, Trimmed cs → Trimmed (upper cs)
  head_ne : ∀ {cs}, cs.head? ≠ some '#' → (upper cs).head? ≠ some '#'
  notMem : ∀ {cs}, '\n' ∉ cs → '\n' ∉ upper cs

theorem exists_of_mem_head?_upper (h : d ∈ (upper cs).head?) : ∃ c ∈ cs.head?, d ∈ upperChar c := by
  cases cs with
  | nil => contradiction
  | cons c cs =>
    obtain ⟨e, es, hes⟩ := List.exists_cons_of_ne_nil (upperChar_ne_nil c)
    rw [upper, List.flatMap_cons, hes, List.cons_append, List.head?_cons, Option.mem_some_iff] at h
    exact ⟨c, rfl, hes ▸ h ▸ List.mem_cons_self⟩

theorem exists_of_mem_getLast?_upper (h : d ∈ (upper cs).getLast?) :
    ∃ c ∈ cs.getLast?, d ∈ upperChar c := by
  cases cs using List.reverseRecOn with
  | nil => contradiction
  | append_singleton cs c =>
    have hupper : upper (cs ++ [c]) = upper cs ++ upperChar c := by
      rw [upper_append, upper, upper, List.flatMap_singleton]
    rw [hupper, List.getLast?_append_of_ne_nil _ (upperChar_ne_nil c)] at h
    exact ⟨c, List.getLast?_concat, List.mem_of_getLast? h⟩

theorem isBlank_of_mem_upperChar (hc : isBlank c = false) (h : d ∈ upperChar c) :
    isBlank d = false := by
  refine Bool.eq_false_iff.mpr fun hd => Bool.eq_false_iff.mp hc ?_
  exact eq_of_mem_upperChar h (.inl hd) ▸ hd

theorem casing_upper : Casing upper where
  idempotent cs := by
    unfold upper
    rw [List.flatMap_assoc]
    refine List.flatMap_congr fun c _ => ?_
    calc (upperChar c).flatMap upperChar
      _ = (upperChar c).flatMap fun d => [d] := List.flatMap_congr fun d => upperChar_of_mem
      _ = upperChar c := List.flatMap_singleton' _
  ne_nil {cs} hcs := by
    obtain ⟨c, cs, rfl⟩ := List.exists_cons_of_ne_nil hcs
    exact List.append_ne_nil_of_left_ne_nil (upperChar_ne_nil c) _
  trimmed h := by
    constructor
    · intro d hd
      obtain ⟨c, hc, hmem⟩ := exists_of_mem_head?_upper hd
      exact isBlank_of_mem_upperChar (h.head c hc) hmem
    · intro d hd
      obtain ⟨c, hc, hmem⟩ := exists_of_mem_getLast?_upper hd
      exact isBlank_of_mem_upperChar (h.last c hc) hmem
  head_ne h hhead := by
    obtain ⟨c, hc, hmem⟩ := exists_of_mem_head?_upper hhead
    exact h (eq_of_mem_upperChar hmem (.inr rfl) ▸ hc)
  notMem h hmem := by
    obtain ⟨c, hc, hmem⟩ := List.mem_flatMap.mp hmem
    exact h (eq_of_mem_upperChar hmem (.inl (by decide)) ▸ hc)

end TickerTape.Text
