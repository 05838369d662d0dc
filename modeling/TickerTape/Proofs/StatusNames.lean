import TickerTape.Status
import TickerTape.Word

/-!
# Names of status codes

No two status codes have the same name. A code from zero down to the last named one has a text of a
table, and the table names nothing twice. Every code below these, down to the lowest one that is
named by its distance, has a hyphen and digits in its name, and every other code stands in
parentheses in its own name. No text of the table has a hyphen, and no name but one of the last kind
has a parenthesis, so that a name tells of which kind it is.

## Main definitions

* `TickerTape.Status.nameInWords` — the name as words of thirty-two bits give it.

## Main results

* `TickerTape.Status.nameInWords_eq` — the arithmetic on words is exact.
* `TickerTape.Status.paren_mem_name`, `TickerTape.Status.hyphen_mem_name` — what a name tells of its
  kind.
* `TickerTape.Status.names_unambiguous` — the names of all codes.
-/

namespace TickerTape.Status

/-! ### Names worked out in words -/

/-- A signed word of thirty-two bits; nothing if the number is none. -/
def word32? (i : Int) : Option Int :=
  if -0x80000000 ≤ i ∧ i < 0x80000000 then some i else none

/-- The name of a code with all arithmetic in words. A place of the table is the unsigned reading of
a word, and there is no name where a result is no word or a place lies past the end of the table. -/
def nameInWords (s : Status) : Option String :=
  if s.code = 0 then some "SUCCESS"
  else if lastNamed ≤ s.code ∧ s.code < 0 then do
    let opposite ← word32? (-s.code)
    let place ← word32? (opposite - 1)
    names[Word.toUnsigned place]?
  else if floor ≤ s.code ∧ s.code < lastNamed then do
    let distance ← word32? (lastNamed - s.code)
    some ("UNKNOWN-" ++ toString distance)
  else some ("unrecognized error code (" ++ toString s.code ++ ")")

theorem word32?_eq_some {i : Int} (h : -0x80000000 ≤ i ∧ i < 0x80000000) : word32? i = some i :=
  if_pos h

/-- The arithmetic on words is exact, and every place is one of the table. -/
theorem nameInWords_eq (s : Status) : s.nameInWords = some s.name := by
  have hlength := length_names
  rw [nameInWords, name]
  split
  · rfl
  split
  next hnamed =>
    have hlow : -22 ≤ s.code := hnamed.1
    rw [word32?_eq_some (by omega), Option.bind_eq_bind, Option.bind_some,
      word32?_eq_some (by omega), Option.bind_some,
      Word.toUnsigned_of_nonneg (by omega) (by omega)]
    exact List.getElem?_eq_getElem (by unfold lastNamed at hlength; omega)
  split
  next hdistant =>
    have hlow : -1000 ≤ s.code := hdistant.1
    have hhigh : s.code < -22 := hdistant.2
    rw [word32?_eq_some (by unfold lastNamed; omega)]
    rfl
  · rfl

/-! ### The three kinds of names -/

/-- The names of the codes from zero downward. -/
def plainNames : List String := "SUCCESS" :: names

theorem nodup_plainNames : plainNames.Nodup := by decide

theorem length_plainNames : (plainNames.length : Int) = 1 - lastNamed := rfl

/-- No plain name has a parenthesis or a hyphen. -/
theorem notMem_of_mem_plainNames {text : String} (h : text ∈ plainNames) :
    '(' ∉ text.toList ∧ '-' ∉ text.toList := by
  have hall : ∀ text ∈ plainNames, '(' ∉ text.toList ∧ '-' ∉ text.toList := by decide
  exact hall text h

section

variable {s t : Status}

theorem name_of_plain (h : lastNamed ≤ s.code ∧ s.code ≤ 0) :
    plainNames[(-s.code).toNat]? = some s.name := by
  rw [name]
  split
  next hzero => rw [hzero]; rfl
  next hzero =>
    have hnamed : lastNamed ≤ s.code ∧ s.code < 0 := by omega
    rw [dif_pos hnamed, plainNames, show (-s.code).toNat = (-s.code - 1).toNat + 1 by omega,
      List.getElem?_cons_succ]
    exact List.getElem?_eq_getElem _

theorem name_of_distant (h : floor ≤ s.code ∧ s.code < lastNamed) :
    s.name = "UNKNOWN-" ++ toString (lastNamed - s.code) := by
  have hzero : s.code ≠ 0 := fun hzero => absurd (hzero ▸ h.2) (by decide)
  rw [name, if_neg hzero, dif_neg fun hnamed => absurd h.2 (Int.not_lt.mpr hnamed.1), if_pos h]

theorem name_of_other (h : s.code < floor ∨ 0 < s.code) :
    s.name = "unrecognized error code (" ++ toString s.code ++ ")" := by
  unfold floor at h
  unfold name lastNamed floor
  rw [if_neg (by omega), dif_neg (by omega), if_neg (by omega)]

theorem kind_cases (s : Status) : (lastNamed ≤ s.code ∧ s.code ≤ 0) ∨
    (floor ≤ s.code ∧ s.code < lastNamed) ∨ (s.code < floor ∨ 0 < s.code) := by
  omega

/-! ### What a name tells of its kind -/

/-- A natural number is written in digits. -/
theorem notMem_repr {c : Char} (hc : c.isDigit = false) (n : Nat) : c ∉ n.repr.toList := by
  intro hmem
  rw [Nat.toList_repr] at hmem
  have hdigit := Nat.isDigit_of_mem_toDigits (by decide) (by decide) hmem
  rw [hc] at hdigit
  contradiction

/-- A number is written without a parenthesis. -/
theorem paren_notMem_toString (i : Int) : '(' ∉ (toString i).toList := by
  rw [Int.toString_eq_repr, Int.repr_eq_if]
  split
  · exact notMem_repr (by decide) _
  · rw [String.toList_append, List.mem_append, not_or]
    exact ⟨by decide, notMem_repr (by decide) _⟩

theorem paren_mem_name : '(' ∈ s.name.toList ↔ s.code < floor ∨ 0 < s.code := by
  rcases kind_cases s with h | h | h
  · have hplain := notMem_of_mem_plainNames (List.mem_of_getElem? (name_of_plain h))
    exact iff_of_false hplain.1 (by unfold lastNamed at h; unfold floor; omega)
  · refine iff_of_false ?_ (by unfold lastNamed at h; omega)
    rw [name_of_distant h, String.toList_append, List.mem_append, not_or]
    exact ⟨by decide, paren_notMem_toString _⟩
  · refine iff_of_true ?_ h
    rw [name_of_other h, String.toList_append, String.toList_append]
    exact List.mem_append_left _ (List.mem_append_left _ (by decide))

/-- Among the codes down to the lowest that is named by its distance, those below the last named one
have a hyphen. -/
theorem hyphen_mem_name (h : ¬(s.code < floor ∨ 0 < s.code)) :
    '-' ∈ s.name.toList ↔ s.code < lastNamed := by
  rcases kind_cases s with h' | h' | h'
  · have hplain := notMem_of_mem_plainNames (List.mem_of_getElem? (name_of_plain h'))
    exact iff_of_false hplain.2 (Int.not_lt.mpr h'.1)
  · refine iff_of_true ?_ h'.2
    rw [name_of_distant h', String.toList_append]
    exact List.mem_append_left _ (by decide)
  · exact absurd h' h

/-! ### Names and texts are unambiguous -/

theorem repr_injective {m n : Nat} (h : m.repr = n.repr) : m = n := by
  have hdigits : Nat.toDigits 10 m = Nat.toDigits 10 n := by
    rw [← Nat.toList_repr, ← Nat.toList_repr, h]
  rw [← Nat.ofDigitChars_ten_toDigits (n := m), hdigits, Nat.ofDigitChars_ten_toDigits]

/-- The text of a number tells its sign, since digits have no hyphen, and then its size. -/
theorem toString_injective {i j : Int} (h : toString i = toString j) : i = j := by
  have hsign (m n : Nat) : m.repr ≠ "-" ++ n.repr := fun heq => by
    refine notMem_repr (c := '-') (by decide) m ?_
    rw [heq, String.toList_append]
    exact List.mem_append_left _ (by decide)
  rw [Int.toString_eq_repr, Int.toString_eq_repr, Int.repr_eq_if, Int.repr_eq_if] at h
  split at h
  · split at h
    · have := repr_injective h
      omega
    · exact absurd h (hsign _ _)
  · split at h
    · exact absurd h.symm (hsign _ _)
    · have := repr_injective ((String.append_right_inj _).mp h)
      omega

theorem code_eq_of_plain (hs : lastNamed ≤ s.code ∧ s.code ≤ 0)
    (ht : lastNamed ≤ t.code ∧ t.code ≤ 0) (h : s.name = t.name) : s.code = t.code := by
  have hlength := length_plainNames
  have hnames : plainNames[(-s.code).toNat]? = plainNames[(-t.code).toNat]? := by
    rw [name_of_plain hs, name_of_plain ht, h]
  have hplaces : (-s.code).toNat = (-t.code).toNat :=
    (List.getElem?_inj (by omega) nodup_plainNames).mp hnames
  omega

theorem code_eq_of_distant (hs : floor ≤ s.code ∧ s.code < lastNamed)
    (ht : floor ≤ t.code ∧ t.code < lastNamed) (h : s.name = t.name) : s.code = t.code := by
  rw [name_of_distant hs, name_of_distant ht, String.append_right_inj] at h
  have := toString_injective h
  omega

theorem code_eq_of_other (hs : s.code < floor ∨ 0 < s.code) (ht : t.code < floor ∨ 0 < t.code)
    (h : s.name = t.name) : s.code = t.code := by
  rw [name_of_other hs, name_of_other ht, String.append_left_inj, String.append_right_inj] at h
  exact toString_injective h

theorem eq_of_code_eq (h : s.code = t.code) : s = t := by
  cases s
  cases t
  exact congrArg mk h

/-- Two codes with one name are of one kind, and within a kind the name gives the code. -/
theorem eq_of_name_eq (h : s.name = t.name) : s = t := by
  have hother : (s.code < floor ∨ 0 < s.code) ↔ (t.code < floor ∨ 0 < t.code) := by
    rw [← paren_mem_name, ← paren_mem_name, h]
  apply eq_of_code_eq
  by_cases hs : s.code < floor ∨ 0 < s.code
  · exact code_eq_of_other hs (hother.mp hs) h
  have ht := mt hother.mpr hs
  have hdistant : s.code < lastNamed ↔ t.code < lastNamed := by
    rw [← hyphen_mem_name hs, ← hyphen_mem_name ht, h]
  by_cases hlow : s.code < lastNamed
  · have := hdistant.mp hlow
    exact code_eq_of_distant (by omega) (by omega) h
  · have := mt hdistant.mpr hlow
    exact code_eq_of_plain (by omega) (by omega) h

/-- What follows the last `x` of a list. -/
theorem eq_of_append_cons_eq {α : Type} {x : α} {pre pre' post post' : List α} (h : x ∉ post)
    (h' : x ∉ post') (heq : pre ++ x :: post = pre' ++ x :: post') : post = post' := by
  rcases List.append_eq_append_iff.mp heq with ⟨mid, -, hmid⟩ | ⟨mid, -, hmid⟩
  all_goals cases mid with
  | nil => simp_all
  | cons y mid => simp_all

/-- The code is what follows the last parenthesis that opens in a text. -/
theorem eq_of_render_eq (h : s.render = t.render) : s = t := by
  have htext (s : Status) : s.render.toList =
      (s.name.toList ++ [' ']) ++ '(' :: ((toString s.code).toList ++ [')']) := by
    rw [render]
    simp only [String.toList_append, List.append_assoc]
    rfl
  have hparen (s : Status) : '(' ∉ (toString s.code).toList ++ [')'] := by
    rw [List.mem_append, not_or]
    exact ⟨paren_notMem_toString _, by decide⟩
  have hcodes : (toString s.code).toList ++ [')'] = (toString t.code).toList ++ [')'] :=
    eq_of_append_cons_eq (hparen s) (hparen t) (by rw [← htext, ← htext, h])
  exact eq_of_code_eq (toString_injective (String.toList_inj.mp (List.append_cancel_right hcodes)))

end

/-- **The names of status codes are unambiguous.** The arithmetic that leads to a name stays in
words of thirty-two bits and reads the table only at its places, whatever the code. Zero and the
codes after it have the names of the table; the next ones, down to the lowest that is named so, are
named by their distance from the last of these; all others stand in parentheses in their names. No
two codes have the same name, and no two the same text. -/
theorem names_unambiguous :
    (∀ s : Status, s.nameInWords = some s.name) ∧
    names.length = 22 ∧ name ⟨0⟩ = "SUCCESS" ∧
    (∀ (k : Nat) (hk : k < names.length), name ⟨-(k + 1 : Nat)⟩ = names[k]) ∧
    (∀ k : Nat, 0 < k → floor ≤ lastNamed - k →
      name ⟨lastNamed - k⟩ = "UNKNOWN-" ++ toString k) ∧
    (∀ i : Int, i < floor ∨ 0 < i →
      name ⟨i⟩ = "unrecognized error code (" ++ toString i ++ ")") ∧
    (∀ s t : Status, s.name = t.name → s = t) ∧
    (∀ s t : Status, s.render = t.render → s = t) := by
  have hlength := length_names
  refine ⟨nameInWords_eq, rfl, rfl, fun k hk => ?_, fun k hpos hk => ?_, fun i => name_of_other,
    fun s t => eq_of_name_eq, fun s t => eq_of_render_eq⟩
  · have hplain := name_of_plain (s := ⟨-(k + 1 : Nat)⟩)
      ⟨by dsimp only; omega, by dsimp only; omega⟩
    rw [Int.neg_neg, Int.toNat_natCast, plainNames, List.getElem?_cons_succ,
      List.getElem?_eq_getElem hk] at hplain
    exact (Option.some.inj hplain).symm
  · rw [name_of_distant ⟨hk, by dsimp only; omega⟩, show lastNamed - (lastNamed - k) = k by omega]
    rfl

/-- The codes on both sides of each border between two kinds of names, and the lowest word. -/
theorem names_unambiguous_borders :
    name ⟨-1⟩ = "BAD_INPUT" ∧ name ⟨-22⟩ = "UNKNOWN" ∧ name ⟨-23⟩ = "UNKNOWN-1" ∧
      name ⟨-1000⟩ = "UNKNOWN-978" ∧ name ⟨-1001⟩ = "unrecognized error code (-1001)" ∧
      nameInWords ⟨-2147483648⟩ = some "unrecognized error code (-2147483648)" ∧
      name ⟨1⟩ = "unrecognized error code (1)" ∧ name ⟨-22⟩ ≠ name ⟨-23⟩ ∧
      render ⟨-22⟩ ≠ render ⟨22⟩ := by
  obtain ⟨hwords, -, -, hnamed, hdistant, hother, hname, hrender⟩ := names_unambiguous
  refine ⟨hnamed 0 (by decide), hnamed 21 (by decide), hdistant 1 (by decide) (by decide),
    hdistant 978 (by decide) (by decide), hother (-1001) (by decide), ?_, hother 1 (by decide),
    fun h => absurd (hname _ _ h) (by decide), fun h => absurd (hrender _ _ h) (by decide)⟩
  rw [hwords, hother (-2147483648) (by decide)]
  rfl

end TickerTape.Status
