import TickerTape.Text.Utf8

/-!
# Lenient reading of UTF-8

What a lenient reading makes of bytes is fixed by the encodings of characters alone. Where a
character is encoded, it is read. Elsewhere there is a fault: the longest start of an encoding that
is there, or a single byte if there is none, and U+FFFD stands for it. The reader finds these
characters and faults with the ranges of its table of first bytes, without trying encodings.

## Main definitions

* `TickerTape.Text.Utf8.Begins` — bytes with which an encoding starts.
* `TickerTape.Text.Utf8.IsFault` — bytes that are one fault.
* `TickerTape.Text.Utf8.Reads` — the readings of bytes, by encodings.

## Main results

* `TickerTape.Text.Utf8.reads_iff` — the lenient reading is the only one.
* `TickerTape.Text.Utf8.lenient_encode` — the lenient reading of an encoded text is the text.
-/

namespace TickerTape.Text.Utf8

/-! ### Readings -/

/-- The encoding of some character starts with these bytes. -/
def Begins (bytes : List UInt8) : Prop := ∃ c, bytes <+: String.utf8EncodeChar c

/-- The bytes `bad`, followed by the bytes `rest`, are one fault: no character is encoded where they
stand, and they are the longest start of an encoding there, or a single byte if there is none. -/
structure IsFault (bad rest : List UInt8) : Prop where
  unreadable : ∀ c, ¬String.utf8EncodeChar c <+: bad ++ rest
  start : bad ≠ [] ∧ Begins bad ∨ bad.length = 1
  longest : ∀ b, [b] <+: rest → ¬Begins (bad ++ [b])

/-- The characters as which bytes are read, with U+FFFD for each fault. -/
inductive Reads : List UInt8 → List Char → Prop
  | nil : Reads [] []
  | char {bytes : List UInt8} {chars : List Char} (c : Char) (h : Reads bytes chars) :
    Reads (String.utf8EncodeChar c ++ bytes) (c :: chars)
  | fault {bad bytes : List UInt8} {chars : List Char} (hbad : IsFault bad bytes)
    (h : Reads bytes chars) : Reads (bad ++ bytes) ('\ufffd' :: chars)

theorem Begins.of_prefix {bad bytes : List UInt8} (h : Begins bytes) (hbad : bad <+: bytes) :
    Begins bad :=
  h.imp fun _ => hbad.trans

namespace IsFault

variable {bad bad' rest rest' : List UInt8}

theorem ne_nil (h : IsFault bad rest) : bad ≠ [] := by
  obtain ⟨hne, -⟩ | hone := h.start
  · exact hne
  · exact List.ne_nil_of_length_eq_add_one hone

/-- A fault cannot be made longer. -/
theorem eq_nil_of_append {more : List UInt8} (h : IsFault bad (more ++ rest))
    (h' : IsFault (bad ++ more) rest) : more = [] := by
  cases more with
  | nil => rfl
  | cons b more =>
    obtain ⟨-, hbegins⟩ | hone := h'.start
    · refine absurd (hbegins.of_prefix ?_) (h.longest b ⟨more ++ rest, rfl⟩)
      exact ⟨more, by simp⟩
    · have hpos := List.length_pos_iff.mpr h.ne_nil
      simp at hone
      omega

/-- There is at most one fault at the start of bytes. -/
theorem unique (h : IsFault bad rest) (h' : IsFault bad' rest')
    (heq : bad ++ rest = bad' ++ rest') : rest = rest' := by
  obtain ⟨more, rfl, rfl⟩ | ⟨more, rfl, rfl⟩ := List.append_eq_append_iff.mp heq
  · rw [h.eq_nil_of_append h', List.nil_append]
  · rw [h'.eq_nil_of_append h, List.nil_append]

end IsFault

/-! ### Code points and their last bytes -/

/-- The code point `v` without its last `n` groups of six bits. -/
def leading : Nat → Nat → Nat
  | 0, v => v
  | n + 1, v => leading n v / 64

@[simp] theorem leading_zero (v : Nat) : leading 0 v = v := rfl

@[simp] theorem leading_one (v : Nat) : leading 1 v = v / 64 := rfl

@[simp] theorem leading_two (v : Nat) : leading 2 v = v / 4096 := Nat.div_div_eq_div_mul ..

@[simp] theorem leading_three (v : Nat) : leading 3 v = v / 262144 := by
  rw [leading, leading_two, Nat.div_div_eq_div_mul]

/-- The last `n` bytes of an encoding of the code point `v`, six bits in each. -/
def trailing : Nat → Nat → List UInt8
  | 0, _ => []
  | n + 1, v => UInt8.ofNat (leading n v % 64 + 0x80) :: trailing n v

/-- The first of the last `n` bytes of the code point `v` is between `low` and `high`. -/
def Opens (low high : UInt8) (n v : Nat) : Prop :=
  ∀ b ∈ (trailing n v).head?, low ≤ b ∧ b ≤ high

theorem toNat_ofNat_of_lt {k : Nat} (h : k < 256) : (UInt8.ofNat k).toNat = k := by
  rw [UInt8.toNat_ofNat', Nat.mod_eq_of_lt h]

theorem toNat_ofNat_add (v : Nat) : (UInt8.ofNat (v % 64 + 0x80)).toNat = v % 64 + 0x80 :=
  toNat_ofNat_of_lt (by omega)

theorem opens_zero (low high : UInt8) (v : Nat) : Opens low high 0 v := by
  intro b hb
  contradiction

theorem opens_succ_iff {low high : UInt8} {n v : Nat} :
    Opens low high (n + 1) v ↔
      low.toNat ≤ leading n v % 64 + 0x80 ∧ leading n v % 64 + 0x80 ≤ high.toNat := by
  simp only [Opens, trailing, List.head?_cons, Option.mem_some_iff, forall_eq',
    UInt8.le_iff_toNat_le, toNat_ofNat_add]

theorem opens_all (n v : Nat) : Opens 0x80 0xbf n v := by
  cases n with
  | zero => exact opens_zero _ _ v
  | succ n =>
    rw [opens_succ_iff]
    change 128 ≤ _ ∧ _ ≤ 191
    omega

section Continuation

variable {low high : UInt8}

/-- The last bytes of a code point are read as it is. -/
theorem continuation_trailing {n v : Nat} (h : Opens low high n v) (rest : List UInt8) :
    continuation low high n (leading n v) (trailing n v ++ rest) = (some (Char.ofNat v), rest) := by
  induction n generalizing low high with
  | zero => rfl
  | succ n ih =>
    rw [trailing, List.cons_append, continuation, if_pos (h _ rfl), toNat_ofNat_add]
    have hbits : leading n v / 64 * 64 + (leading n v % 64 + 0x80 - 0x80) = leading n v := by
      omega
    rw [leading, hbits, ih (opens_all n v)]

/-- What is read as a character are the last bytes of a code point. -/
theorem eq_trailing_of_continuation {n bits : Nat} {bytes rest : List UInt8} {c : Char}
    (hlow : 0x80 ≤ low) (hhigh : high ≤ 0xbf)
    (h : continuation low high n bits bytes = (some c, rest)) :
    ∃ v, leading n v = bits ∧ Opens low high n v ∧ c = Char.ofNat v ∧
      bytes = trailing n v ++ rest := by
  induction n generalizing low high bits bytes with
  | zero =>
    obtain ⟨hc, rfl⟩ := Prod.mk.inj h
    exact ⟨bits, rfl, opens_zero _ _ bits, (Option.some.inj hc).symm, rfl⟩
  | succ n ih =>
    cases bytes with
    | nil => simp [continuation] at h
    | cons b bytes =>
      rw [continuation] at h
      split at h
      next hb =>
        obtain ⟨v, hv, -, hc, rfl⟩ := ih (UInt8.le_refl _) (UInt8.le_refl _) h
        have hrange : 128 ≤ b.toNat ∧ b.toNat ≤ 191 :=
          ⟨UInt8.le_iff_toNat_le.mp (UInt8.le_trans hlow hb.1),
            UInt8.le_iff_toNat_le.mp (UInt8.le_trans hb.2 hhigh)⟩
        have hfirst : UInt8.ofNat (leading n v % 64 + 0x80) = b := by
          rw [← UInt8.toNat_inj, toNat_ofNat_add, hv]
          omega
        refine ⟨v, ?_, ?_, hc, ?_⟩
        · rw [leading, hv]
          omega
        · intro b' hb'
          obtain rfl := Option.mem_some.mp hb'
          rwa [hfirst]
        · rw [trailing, hfirst, List.cons_append]
      next => simp at h

/-- There always are bytes that complete a character. -/
theorem exists_continuation (hle : low ≤ high) (n bits : Nat) :
    ∃ more c, continuation low high n bits more = (some c, []) := by
  induction n generalizing low high bits with
  | zero => exact ⟨[], _, rfl⟩
  | succ n ih =>
    obtain ⟨more, c, h⟩ := ih (by decide : (0x80 : UInt8) ≤ 0xbf) (bits * 64 + (low.toNat - 0x80))
    refine ⟨low :: more, c, ?_⟩
    rw [continuation, if_pos ⟨UInt8.le_refl _, hle⟩, h]

/-- Where the reader stops at a fault, what it has read can be completed, but not with the next
byte. -/
theorem of_continuation_eq_none {n bits : Nat} {bytes rest : List UInt8} (hle : low ≤ high)
    (h : continuation low high n bits bytes = (none, rest)) :
    ∃ bad, bytes = bad ++ rest ∧
      (∃ more c, continuation low high n bits (bad ++ more) = (some c, [])) ∧
      ∀ b, [b] <+: rest → ∀ more,
        continuation low high n bits (bad ++ b :: more) = (none, b :: more) := by
  induction n generalizing low high bits bytes with
  | zero => simp [continuation] at h
  | succ n ih =>
    cases bytes with
    | nil =>
      obtain rfl := (Prod.mk.inj h).2
      exact ⟨[], rfl, exists_continuation hle _ _, fun b hb => absurd hb (by simp)⟩
    | cons a bytes =>
      rw [continuation] at h
      split at h
      next ha =>
        obtain ⟨bad, rfl, ⟨more, c, hmore⟩, hstop⟩ := ih (by decide) h
        refine ⟨a :: bad, rfl, ⟨more, c, ?_⟩, fun b hb more => ?_⟩
        · rw [List.cons_append, continuation, if_pos ha, hmore]
        · rw [List.cons_append, continuation, if_pos ha, hstop b hb]
      next ha =>
        obtain rfl := (Prod.mk.inj h).2
        refine ⟨[], rfl, exists_continuation hle _ _, fun b hb more => ?_⟩
        obtain rfl : b = a := by simpa using hb
        rw [List.nil_append, continuation, if_neg ha]

end Continuation

/-! ### First bytes -/

/-- A first byte with this announcement starts the encoding of the code point `v`. -/
def Lead.Covers (l : Lead) (v : Nat) : Prop :=
  leading l.follow v = l.bits ∧ Opens l.low l.high l.follow v

/-- The announcement depends on the number that the byte is. -/
theorem lead_eq (b : UInt8) :
    lead b =
      if b.toNat < 0xc2 then none
      else if b.toNat ≤ 0xdf then some ⟨1, 0x80, 0xbf, b.toNat - 0xc0⟩
      else if b.toNat = 0xe0 then some ⟨2, 0xa0, 0xbf, 0⟩
      else if b.toNat = 0xed then some ⟨2, 0x80, 0x9f, 0xd⟩
      else if b.toNat ≤ 0xef then some ⟨2, 0x80, 0xbf, b.toNat - 0xe0⟩
      else if b.toNat = 0xf0 then some ⟨3, 0x90, 0xbf, 0⟩
      else if b.toNat ≤ 0xf3 then some ⟨3, 0x80, 0xbf, b.toNat - 0xf0⟩
      else if b.toNat = 0xf4 then some ⟨3, 0x80, 0x8f, 4⟩
      else none := by
  simp only [lead, UInt8.lt_iff_toNat_lt, UInt8.le_iff_toNat_le, ← UInt8.toNat_inj]
  rfl

theorem not_lt_of_lead {b : UInt8} {l : Lead} (h : lead b = some l) : ¬b < 0x80 := by
  rw [lead_eq] at h
  split at h
  · contradiction
  · rw [UInt8.lt_iff_toNat_lt]
    change ¬b.toNat < 0x80
    omega

theorem bounds_of_lead {b : UInt8} {l : Lead} (h : lead b = some l) :
    0x80 ≤ l.low ∧ l.low ≤ l.high ∧ l.high ≤ 0xbf := by
  unfold lead at h
  repeat' split at h
  all_goals first
    | contradiction
    | obtain rfl := Option.some.inj h
      simp

/-- The code points that a first byte announces are characters, as many as its number of bytes can
encode. -/
theorem range_of_covers {b : UInt8} {l : Lead} {v : Nat} (h : lead b = some l) (hv : l.Covers v) :
    (l.follow = 1 ∧ b.toNat = v / 64 + 0xc0 ∧ 0x80 ≤ v ∧ v < 0x800) ∨
      (l.follow = 2 ∧ b.toNat = v / 4096 + 0xe0 ∧ 0x800 ≤ v ∧ v < 0x10000 ∧ v.isValidChar) ∨
      (l.follow = 3 ∧ b.toNat = v / 262144 + 0xf0 ∧ 0x10000 ≤ v ∧ v < 0x110000) := by
  obtain ⟨hbits, hopens⟩ := hv
  rw [lead_eq] at h
  repeat' split at h
  all_goals first
    | contradiction
    | obtain rfl := Option.some.inj h
      rw [opens_succ_iff] at hopens
      simp at hbits hopens
      simp [Nat.isValidChar]
      omega

theorem exists_covers_two {v : Nat} (hlow : 0x80 ≤ v) (hhigh : v < 0x800) :
    ∃ b l, lead b = some l ∧ l.Covers v := by
  refine ⟨UInt8.ofNat (v / 64 + 0xc0), ⟨1, 0x80, 0xbf, v / 64⟩, ?_, rfl, opens_all _ _⟩
  rw [lead_eq, toNat_ofNat_of_lt (by omega), if_neg (by omega), if_pos (by omega),
    Nat.add_sub_cancel]

/-- Where a first byte could also start a longer form than is needed or a surrogate, the range of
the second byte leaves these out. -/
theorem exists_covers_three {v : Nat} (hvalid : v.isValidChar) (hlow : 0x800 ≤ v)
    (hhigh : v < 0x10000) : ∃ b l, lead b = some l ∧ l.Covers v := by
  have hcases : v / 4096 = 0 ∨ v / 4096 = 0xd ∨ v / 4096 ≠ 0 ∧ v / 4096 ≠ 0xd := by omega
  refine ⟨UInt8.ofNat (v / 4096 + 0xe0), ?_⟩
  rw [lead_eq, toNat_ofNat_of_lt (by omega), if_neg (by omega), if_neg (by omega)]
  obtain hq | hq | ⟨hq, hq'⟩ := hcases
  · refine ⟨_, if_pos (by omega), (leading_two v).trans hq, opens_succ_iff.mpr ?_⟩
    simp
    omega
  · refine ⟨_, (if_neg (by omega)).trans (if_pos (by omega)), (leading_two v).trans hq,
      opens_succ_iff.mpr ?_⟩
    simp [Nat.isValidChar] at hvalid ⊢
    omega
  · refine ⟨_, (if_neg (by omega)).trans ((if_neg (by omega)).trans (if_pos (by omega))), ?_,
      opens_all _ _⟩
    simp

/-- Where a first byte could also start a longer form than is needed or a number that is too large,
the range of the second byte leaves these out. -/
theorem exists_covers_four {v : Nat} (hlow : 0x10000 ≤ v) (hhigh : v < 0x110000) :
    ∃ b l, lead b = some l ∧ l.Covers v := by
  have hcases : v / 262144 = 0 ∨ v / 262144 = 4 ∨ v / 262144 ≠ 0 ∧ v / 262144 < 4 := by omega
  refine ⟨UInt8.ofNat (v / 262144 + 0xf0), ?_⟩
  rw [lead_eq, toNat_ofNat_of_lt (by omega), if_neg (by omega), if_neg (by omega),
    if_neg (by omega), if_neg (by omega), if_neg (by omega)]
  obtain hq | hq | ⟨hq, hq'⟩ := hcases
  · refine ⟨_, if_pos (by omega), (leading_three v).trans hq, opens_succ_iff.mpr ?_⟩
    simp
    omega
  · refine ⟨_, (if_neg (by omega)).trans ((if_neg (by omega)).trans (if_pos (by omega))),
      (leading_three v).trans hq, opens_succ_iff.mpr ?_⟩
    simp
    omega
  · refine ⟨_, (if_neg (by omega)).trans (if_pos (by omega)), ?_, opens_all _ _⟩
    simp

/-- The code points of characters beyond the first 128 are announced by their first bytes. -/
theorem exists_covers {c : Char} (hc : 0x80 ≤ c.toNat) :
    ∃ b l, lead b = some l ∧ l.Covers c.toNat := by
  have hvalid : c.toNat.isValidChar := c.valid
  by_cases htwo : c.toNat < 0x800
  · exact exists_covers_two hc htwo
  by_cases hthree : c.toNat < 0x10000
  · exact exists_covers_three hvalid (Nat.not_lt.mp htwo) hthree
  refine exists_covers_four (Nat.not_lt.mp hthree) ?_
  simp [Nat.isValidChar] at hvalid
  omega

/-! ### Encodings -/

theorem toNat_ofNat {v : Nat} (hv : v.isValidChar) : (Char.ofNat v).toNat = v := by
  rw [Char.ofNat, dif_pos hv]
  rfl

theorem ofNat_eq {b : UInt8} {k : Nat} (h : b.toNat = k) : UInt8.ofNat k = b := by
  rw [← h, UInt8.ofNat_toNat]

/-- The encoding of a character in an announced range is the first byte with the last bytes. -/
theorem encode_of_covers {b : UInt8} {l : Lead} {c : Char} (h : lead b = some l)
    (hc : l.Covers c.toNat) : String.utf8EncodeChar c = b :: trailing l.follow c.toNat := by
  have hval : c.val.toNat = c.toNat := rfl
  unfold String.utf8EncodeChar
  rw [hval]
  obtain ⟨hn, hb, hlow, hhigh⟩ | ⟨hn, hb, hlow, hhigh, -⟩ | ⟨hn, hb, hlow, hhigh⟩ :=
    range_of_covers h hc
  · rw [hn, if_neg (by omega), if_pos (by omega), Nat.mod_eq_of_lt (by omega), ofNat_eq hb]
    simp [trailing]
  · rw [hn, if_neg (by omega), if_neg (by omega), if_pos (by omega),
      Nat.mod_eq_of_lt (by omega), ofNat_eq hb]
    simp [trailing]
  · rw [hn, if_neg (by omega), if_neg (by omega), if_neg (by omega),
      Nat.mod_eq_of_lt (by omega), ofNat_eq hb]
    simp [trailing]

theorem isValidChar_of_covers {b : UInt8} {l : Lead} {v : Nat} (h : lead b = some l)
    (hv : l.Covers v) : v.isValidChar := by
  rcases range_of_covers h hv with ⟨-, -, hrange⟩ | ⟨-, -, -, -, hvalid⟩ | ⟨-, -, hrange⟩
  · exact .inl (by omega)
  · exact hvalid
  · exact .inr (by omega)

/-- The encoding of one of the first 128 characters is its number. -/
theorem encode_of_lt {c : Char} (hc : c.toNat < 0x80) :
    String.utf8EncodeChar c = [UInt8.ofNat c.toNat] := by
  have hval : c.val.toNat = c.toNat := rfl
  rw [String.utf8EncodeChar, hval, if_pos (by omega)]

/-! ### One step of the reader -/

/-- Where a character is encoded, the reader finds it. -/
theorem next_encode (c : Char) (rest : List UInt8) :
    ∃ b bytes, String.utf8EncodeChar c = b :: bytes ∧ next b (bytes ++ rest) = (some c, rest) := by
  by_cases hc : c.toNat < 0x80
  · refine ⟨_, [], encode_of_lt hc, ?_⟩
    have hnat := toNat_ofNat_of_lt (Nat.lt_trans hc (by decide))
    rw [next, if_pos (UInt8.lt_iff_toNat_lt.mpr (by rwa [hnat])), hnat, Char.ofNat_toNat]
    rfl
  · obtain ⟨b, l, hlead, hcovers⟩ := exists_covers (Nat.not_lt.mp hc)
    refine ⟨b, _, encode_of_covers hlead hcovers, ?_⟩
    rw [next, if_neg (not_lt_of_lead hlead), hlead]
    change continuation l.low l.high l.follow l.bits _ = _
    rw [← hcovers.1, continuation_trailing hcovers.2, Char.ofNat_toNat]

/-- What the reader reads as a character is its encoding. -/
theorem encode_of_next {b : UInt8} {bytes rest : List UInt8} {c : Char}
    (h : next b bytes = (some c, rest)) : b :: bytes = String.utf8EncodeChar c ++ rest := by
  rw [next] at h
  split at h
  next hb =>
    obtain ⟨hc, rfl⟩ := Prod.mk.inj h
    obtain rfl := Option.some.inj hc
    have hlt : b.toNat < 0x80 := UInt8.lt_iff_toNat_lt.mp hb
    have hnat := toNat_ofNat (.inl (by omega) : b.toNat.isValidChar)
    rw [encode_of_lt (by rwa [hnat]), hnat, UInt8.ofNat_toNat, List.singleton_append]
  next hb =>
    cases hlead : lead b with
    | none => simp [hlead] at h
    | some l =>
      rw [hlead] at h
      obtain ⟨hlow, -, hhigh⟩ := bounds_of_lead hlead
      obtain ⟨v, hbits, hopens, rfl, rfl⟩ := eq_trailing_of_continuation hlow hhigh h
      have hnat := toNat_ofNat (isValidChar_of_covers hlead ⟨hbits, hopens⟩)
      rw [encode_of_covers hlead (by rw [hnat]; exact ⟨hbits, hopens⟩), hnat, List.cons_append]

/-- The reader reads a character wherever an encoding is a start of the bytes. -/
theorem next_of_prefix {b : UInt8} {bytes : List UInt8} {c : Char}
    (h : String.utf8EncodeChar c <+: b :: bytes) : (next b bytes).1 = some c := by
  obtain ⟨rest, hrest⟩ := h
  obtain ⟨b', bytes', hc, hnext⟩ := next_encode c rest
  rw [hc, List.cons_append] at hrest
  obtain ⟨rfl, rfl⟩ := List.cons.inj hrest
  rw [hnext]

/-- Where the reader finds a fault, there is one. -/
theorem isFault_of_next {b : UInt8} {bytes rest : List UInt8} (h : next b bytes = (none, rest)) :
    ∃ bad, b :: bytes = bad ++ rest ∧ IsFault bad rest := by
  have hunreadable (c : Char) : ¬String.utf8EncodeChar c <+: b :: bytes := by
    intro hprefix
    have hsome := next_of_prefix hprefix
    rw [h] at hsome
    contradiction
  rw [next] at h
  split at h
  next => simp at h
  next hge =>
    cases hlead : lead b with
    | none =>
      obtain rfl : bytes = rest := by simpa [hlead] using h
      refine ⟨[b], rfl, hunreadable, .inr rfl, fun x _ hbegins => ?_⟩
      obtain ⟨c, more, hmore⟩ := hbegins
      have hprefix : String.utf8EncodeChar c <+: b :: x :: more := ⟨[], by simp [← hmore]⟩
      have hsome := next_of_prefix hprefix
      simp [next, hge, hlead] at hsome
    | some l =>
      rw [hlead] at h
      obtain ⟨bad, rfl, ⟨more, c, hmore⟩, hstop⟩ :=
        of_continuation_eq_none (bounds_of_lead hlead).2.1 h
      have hnext (t : List UInt8) :
          next b t = continuation l.low l.high l.follow l.bits t := by
        rw [next, if_neg hge, hlead]
      refine ⟨b :: bad, rfl, hunreadable, .inl ⟨List.cons_ne_nil _ _, c, more, ?_⟩, ?_⟩
      · have hencode := encode_of_next ((hnext _).trans hmore)
        simpa using hencode
      · -- An encoding with the next byte would be read, but the reader stops there, whatever
        -- follows.
        rintro x hx ⟨c, more, hmore⟩
        have hprefix : String.utf8EncodeChar c <+: b :: (bad ++ x :: more) :=
          ⟨[], by simp [← hmore]⟩
        have hsome := next_of_prefix hprefix
        rw [hnext, hstop x hx] at hsome
        contradiction

/-! ### The reading of bytes -/

theorem toList_lenient_nil : (lenient []).toList = [] := by
  rw [lenient, characters_nil, List.map_nil, String.toList_ofList]

theorem toList_lenient_cons (b : UInt8) (bytes : List UInt8) :
    (lenient (b :: bytes)).toList =
      (next b bytes).1.getD '\ufffd' :: (lenient (next b bytes).2).toList := by
  rw [lenient, lenient, String.toList_ofList, String.toList_ofList, characters_cons, List.map_cons]

/-- The lenient reading is a reading by encodings. -/
theorem reads_lenient (bytes : List UInt8) : Reads bytes (lenient bytes).toList := by
  induction bytes using characters.induct with
  | case1 =>
    rw [toList_lenient_nil]
    exact .nil
  | case2 b bytes ih =>
    rw [toList_lenient_cons]
    rcases hnext : next b bytes with ⟨o, rest⟩
    rw [hnext] at ih
    cases o with
    | some c =>
      rw [encode_of_next hnext]
      exact .char c ih
    | none =>
      obtain ⟨bad, heq, hbad⟩ := isFault_of_next hnext
      rw [heq]
      exact .fault hbad ih

/-- There is no other reading by encodings: a character or fault is where the reader finds it. -/
theorem Reads.toList_lenient {bytes : List UInt8} {chars : List Char} (h : Reads bytes chars) :
    (lenient bytes).toList = chars := by
  induction h with
  | nil => exact toList_lenient_nil
  | @char bytes chars c _ ih =>
    obtain ⟨b, more, hc, hnext⟩ := next_encode c bytes
    rw [hc, List.cons_append, toList_lenient_cons, hnext, ih]
    rfl
  | @fault bad bytes chars hbad _ ih =>
    obtain ⟨b, more, rfl⟩ := List.exists_cons_of_ne_nil hbad.ne_nil
    rw [List.cons_append, toList_lenient_cons]
    rcases hnext : next b (more ++ bytes) with ⟨o, rest⟩
    cases o with
    | some c => exact absurd ⟨rest, (encode_of_next hnext).symm⟩ (hbad.unreadable c)
    | none =>
      obtain ⟨bad', heq, hbad'⟩ := isFault_of_next hnext
      rw [← hbad.unique hbad' heq, ih]
      rfl

/-- **Lenient reading.** The lenient reading of bytes is their one reading by encodings. -/
theorem reads_iff {bytes : List UInt8} {s : String} : Reads bytes s.toList ↔ lenient bytes = s := by
  constructor
  · exact fun h => String.toList_inj.mp h.toList_lenient
  · rintro rfl
    exact reads_lenient bytes

/-! ### Encoded texts -/

theorem encode_eq_flatMap (s : String) : encode s = s.toList.flatMap String.utf8EncodeChar := by
  rw [encode, String.toUTF8_eq_toByteArray, ← String.utf8Encode_toList, List.utf8Encode,
    List.toList_data_toByteArray]

theorem reads_flatMap (chars : List Char) :
    Reads (chars.flatMap String.utf8EncodeChar) chars := by
  induction chars with
  | nil => exact .nil
  | cons c chars ih => exact .char c ih

/-- The lenient reading of an encoded text is the text. -/
theorem lenient_encode (s : String) : lenient (encode s) = s := by
  rw [← reads_iff, encode_eq_flatMap]
  exact reads_flatMap s.toList

theorem characters_flatMap (chars : List Char) :
    characters (chars.flatMap String.utf8EncodeChar) = chars.map some := by
  induction chars with
  | nil => exact characters_nil
  | cons c chars ih =>
    obtain ⟨b, bytes, hencode, hnext⟩ := next_encode c (chars.flatMap String.utf8EncodeChar)
    rw [List.flatMap_cons, hencode, List.cons_append, characters_cons, hnext, ih, List.map_cons]

/-- So is the strict reading. -/
theorem strict_encode (s : String) : strict (encode s) = some s := by
  have hall (chars : List Char) : (chars.map some).mapM id = some chars := by
    induction chars with
    | nil => rfl
    | cons c chars ih => rw [List.map_cons, List.mapM_cons, ih]; rfl
  rw [strict, encode_eq_flatMap, characters_flatMap, hall, Option.map_some, String.ofList_toList]

theorem length_encode (s : String) : (encode s).length = s.utf8ByteSize := by
  rw [encode, Array.length_toList, String.toUTF8_eq_toByteArray]
  rfl

theorem zero_notMem_trailing (n v : Nat) : 0 ∉ trailing n v := by
  induction n with
  | zero => exact List.not_mem_nil
  | succ n ih =>
    refine List.not_mem_cons_of_ne_of_not_mem (fun h => ?_) ih
    have hzero := congrArg UInt8.toNat h
    rw [toNat_ofNat_add] at hzero
    change 0 = _ at hzero
    omega

/-- A zero byte encodes the character zero and is part of no other encoding. -/
theorem zero_mem_encodeChar {c : Char} : 0 ∈ String.utf8EncodeChar c ↔ c = '\x00' := by
  by_cases hc : c.toNat < 0x80
  · rw [encode_of_lt hc, List.mem_singleton, ← UInt8.toNat_inj, UInt8.toNat_ofNat',
      Nat.mod_eq_of_lt (by omega), ← Char.toNat_inj]
    exact eq_comm
  · obtain ⟨b, l, hlead, hcovers⟩ := exists_covers (Nat.not_lt.mp hc)
    rw [encode_of_covers hlead hcovers]
    refine ⟨fun hmem => ?_, fun heq => absurd (heq ▸ by decide) hc⟩
    obtain rfl | hmem := List.mem_cons.mp hmem
    · exact absurd (by decide) (not_lt_of_lead hlead)
    · exact absurd hmem (zero_notMem_trailing _ _)

theorem zero_mem_encode {s : String} : 0 ∈ encode s ↔ '\x00' ∈ s.toList := by
  simp [encode_eq_flatMap, zero_mem_encodeChar]

end TickerTape.Text.Utf8
