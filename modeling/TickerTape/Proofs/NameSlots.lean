import TickerTape.Foreign.Scripted
import TickerTape.Proofs.LenientReading

/-!
# Names in slots

A name is handed over as its encoding with a zero byte at the end, and read back from the slots of a
buffer. Of a slot, only the bytes before its first zero byte count, and its last byte is taken as
zero whatever it is. The bytes that count are read leniently, so that every slot gives a text, and a
slot that starts with the bytes of a name gives this name, whatever else it or any other slot holds.

## Main definitions

* `TickerTape.Foreign.Name.bytes` — the bytes of a name.
* `TickerTape.Foreign.TextSlot.held` — the bytes that count in a slot.

## Main results

* `TickerTape.Foreign.TextSlot.text_eq_lenient` — the text in a slot.
* `TickerTape.Foreign.names_survive` — names and slots for text.
-/

namespace TickerTape.Foreign

open Engine Text.Utf8

/-! ### Names -/

/-- The bytes of a name: its encoding, and the zero byte at which it ends. -/
def Name.bytes (name : Name) : List UInt8 := encode name.text ++ [0]

/-- A text can be handed over exactly if its encoding is short enough and has no zero byte. -/
theorem Name.exists_ofString_iff {s : String} :
    (∃ name, Name.ofString s = .ok name) ↔ (encode s).length < nameRoom ∧ 0 ∉ encode s := by
  rw [length_encode, zero_mem_encode]
  constructor
  · rintro ⟨name, hname⟩
    rw [← Name.text_of_ofString hname]
    exact ⟨name.fits, name.unbroken⟩
  · exact fun h => ⟨_, Name.ofString_text ⟨s, h.1, h.2⟩⟩

/-- There is room for the bytes of a name in a slot, and before the last byte for its encoding. -/
theorem Name.length_encode_lt (name : Name) : (encode name.text).length < nameRoom := by
  rw [length_encode]
  exact name.fits

theorem Name.zero_notMem_encode (name : Name) : 0 ∉ encode name.text := by
  rw [zero_mem_encode]
  exact name.unbroken

theorem Name.length_bytes_le (name : Name) : name.bytes.length ≤ nameRoom := by
  rw [Name.bytes, List.length_append]
  exact name.length_encode_lt

/-! ### Slots -/

namespace TextSlot

variable {slot : TextSlot}

/-- The bytes that count in a slot: those before its first zero byte, where the last byte is taken
as zero. -/
def held (slot : TextSlot) : List UInt8 :=
  (Vector.set slot (nameRoom - 1) 0).toList.takeWhile (· ≠ 0)

theorem takeWhile_append_zero (xs ys : List UInt8) :
    (xs ++ 0 :: ys).takeWhile (· ≠ 0) = xs.takeWhile (· ≠ 0) := by
  rw [List.takeWhile_append]
  split
  next hall =>
    rw [List.takeWhile_cons_of_neg (by decide), List.append_nil,
      (List.takeWhile_sublist _).eq_of_length hall]
  next => rfl

/-- The text in a slot is the lenient reading of the bytes that count. -/
theorem text_eq_lenient (slot : TextSlot) : text slot = lenient (held slot) := by
  have hlength : nameRoom - 1 < slot.toList.length := by
    rw [Vector.length_toList]
    decide
  rw [text, held, Vector.toList_set, List.set_eq_take_append_cons_drop, if_pos hlength,
    takeWhile_append_zero]

-- The last byte of the slot is cut off, so that the character before it is a fault.
example : text (Scripted.textSlot (List.replicate 38 0x41 ++ [0xc3, 0x84])) =
    String.ofList (List.replicate 38 'A' ++ ['\ufffd']) := by decide +kernel

/-- After the bytes of a name nothing counts. -/
theorem held_of_prefix {name : Name} (h : name.bytes <+: slot.toList) :
    held slot = encode name.text := by
  obtain ⟨rest, hrest⟩ := h
  have hfits : (encode name.text).length ≤ nameRoom - 1 := Nat.le_pred_of_lt name.length_encode_lt
  have hpos : ∀ b ∈ encode name.text, decide (b ≠ 0) = true := fun b hb =>
    decide_eq_true fun hzero => name.zero_notMem_encode (hzero ▸ hb)
  rw [held, Vector.toList_set, ← hrest, Name.bytes, List.append_assoc, List.singleton_append,
    List.set_append_right _ _ hfits]
  -- The last byte of the slot is the end of the name or a byte after it.
  cases nameRoom - 1 - (encode name.text).length with
  | zero => rw [List.set_cons_zero, List.takeWhile_append_of_pos hpos]; simp
  | succ i => rw [List.set_cons_succ, List.takeWhile_append_of_pos hpos]; simp

/-- A slot that starts with the bytes of a name holds the name. -/
theorem text_of_prefix {name : Name} (h : name.bytes <+: slot.toList) : text slot = name.text := by
  rw [text_eq_lenient, held_of_prefix h, lenient_encode]

end TextSlot

/-! ### Buffers -/

theorem length_texts (count : Nat) {n : Nat} (slots : Vector TextSlot n) :
    (texts count slots).length = min count n := by
  rw [texts, List.length_map, List.length_take, Vector.length_toList]

theorem getElem?_texts {count k n : Nat} (slots : Vector TextSlot n) (hk : k < n)
    (hcount : k < count) : (texts count slots)[k]? = some (TextSlot.text slots[k]) := by
  rw [texts, List.getElem?_map, List.getElem?_take_of_lt hcount, Vector.getElem?_toList,
    Vector.getElem?_eq_getElem hk, Option.map_some]

/-- **Names and slots for text.** A text can be handed over exactly if its encoding has less than
forty bytes and no zero byte. A slot that starts with the bytes of a name gives the name, whatever
it holds after them, and no slot starts with the bytes of two names. What any slot gives is the
lenient reading of its bytes before the first zero byte, with its last byte taken as zero; the other
slots have no part in it. -/
theorem names_survive :
    (∀ s, (∃ name, Name.ofString s = .ok name) ↔ (encode s).length < nameRoom ∧ 0 ∉ encode s) ∧
    (∀ s name, Name.ofString s = .ok name → name.bytes.length ≤ nameRoom ∧
      ∀ count {n} (slots : Vector TextSlot n) k (hk : k < n), k < count →
        name.bytes <+: slots[k].toList → (texts count slots)[k]? = some s) ∧
    (∀ s t name other, Name.ofString s = .ok name → Name.ofString t = .ok other → s ≠ t →
      ∀ slot : TextSlot, name.bytes <+: slot.toList → ¬other.bytes <+: slot.toList) ∧
    ∀ count {n} (slots : Vector TextSlot n), (texts count slots).length = min count n ∧
      ∀ k (hk : k < n), k < count →
        (∀ s, (texts count slots)[k]? = some s ↔ Reads (TextSlot.held slots[k]) s.toList) ∧
        ∀ {m} (others : Vector TextSlot m) (hm : k < m), others[k] = slots[k] →
          (texts count others)[k]? = (texts count slots)[k]? := by
  refine ⟨fun s => Name.exists_ofString_iff, fun s name hname => ?_,
    fun s t name other hname hother hne slot hslot hslot' => ?_, fun count n slots => ?_⟩
  · refine ⟨name.length_bytes_le, fun count n slots k hk hcount hprefix => ?_⟩
    rw [getElem?_texts slots hk hcount, TextSlot.text_of_prefix hprefix,
      Name.text_of_ofString hname]
  · refine hne ?_
    rw [← Name.text_of_ofString hname, ← Name.text_of_ofString hother,
      ← TextSlot.text_of_prefix hslot, ← TextSlot.text_of_prefix hslot']
  · refine ⟨length_texts count slots, fun k hk hcount => ⟨fun s => ?_, fun others hm heq => ?_⟩⟩
    · rw [getElem?_texts slots hk hcount, Option.some_inj, TextSlot.text_eq_lenient, reads_iff]
    · rw [getElem?_texts slots hk hcount, getElem?_texts others hm hcount, heq]

/-- A slot with bytes after a name, and one that is filled to its last byte. -/
theorem names_survive_garbage :
    let name : Name := ⟨"Ä1", by decide, by decide⟩
    let other : Name := ⟨"QQQ", by decide, by decide⟩
    let full : TextSlot := Vector.replicate nameRoom 0x41
    let slots := #v[Scripted.textSlot (name.bytes ++ [0x41, 0xff]), full]
    name.bytes = [0xc3, 0x84, 0x31, 0] ∧ Name.ofString name.text = .ok name ∧
      (texts 5 slots)[0]? = some "Ä1" ∧ ¬other.bytes <+: slots[0].toList ∧
      Reads (TextSlot.held slots[1]) (String.ofList (List.replicate 39 'A')).toList ∧
      (texts 5 #v[full, full])[1]? = (texts 5 slots)[1]? := by
  intro name other full slots
  obtain ⟨-, hread, hdistinct, hslots⟩ := names_survive
  have hprefix : name.bytes <+: slots[0].toList := by decide +kernel
  refine ⟨by decide +kernel, name.ofString_text, ?_, ?_, ?_, ?_⟩
  · exact (hread _ _ name.ofString_text).2 5 slots 0 (by decide) (by decide) hprefix
  · exact hdistinct _ _ _ _ name.ofString_text other.ofString_text (by decide) _ hprefix
  · exact (((hslots 5 slots).2 1 (by decide) (by decide)).1 _).mp (by decide +kernel)
  · exact ((hslots 5 slots).2 1 (by decide) (by decide)).2 #v[full, full] (by decide)
      (by decide +kernel)

end TickerTape.Foreign
