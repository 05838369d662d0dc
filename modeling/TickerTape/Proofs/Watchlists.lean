import Mathlib.Data.List.Forall2
import TickerTape.Proofs.LenientReading
import TickerTape.Proofs.UpperCase
import TickerTape.Watchlist

/-!
# Reading watchlists

The items of a watchlist are read off the lines of its text, one by one: what a line holds without
the blanks at its ends, if it is a name, in upper case. So texts put one after the other hold the
items of both, the blank at the end of a line does not count, and a list that was read can be
written line by line and read again.

## Main definitions

* `TickerTape.Watchlist.entries` — the items on the lines of a text, with repetitions.
* `TickerTape.Watchlist.load` — what a file with a text comes to.
* `TickerTape.Watchlist.SameLines` — texts that differ in the ends of their lines.

## Main results

* `TickerTape.Watchlist.load_eq` — a file in terms of its entries.
* `TickerTape.Watchlist.entries_append`, `TickerTape.Watchlist.SameLines.entries_eq`,
  `TickerTape.Watchlist.entries_unlines` — entries of texts that are put together, broken into lines
  in other ways, or written from a list.
* `TickerTape.Watchlist.load_laws` — the laws of watchlists.
-/

namespace TickerTape

open Text

/-! ### Pieces -/

namespace Text

variable {sep c : Char} {cs piece : List Char} {rest : List (List Char)}

theorem split_cons_self (sep : Char) (cs : List Char) :
    split sep (sep :: cs) = [] :: split sep cs := by
  rw [split, if_pos rfl]

theorem split_cons_of_ne (hc : c ≠ sep) (h : split sep cs = piece :: rest) :
    split sep (c :: cs) = (c :: piece) :: rest := by
  rw [split, if_neg hc, h]

theorem split_append (sep : Char) (cs ds : List Char) :
    split sep (cs ++ sep :: ds) = split sep cs ++ split sep ds := by
  induction cs with
  | nil => exact split_cons_self sep ds
  | cons c cs ih =>
    by_cases hc : c = sep
    · rw [hc, List.cons_append, split_cons_self, split_cons_self, ih, List.cons_append]
    · obtain ⟨piece, rest, h⟩ := List.exists_cons_of_ne_nil (split_ne_nil sep cs)
      rw [h, List.cons_append] at ih
      rw [List.cons_append, split_cons_of_ne hc ih, split_cons_of_ne hc h, List.cons_append]

theorem split_of_notMem (h : sep ∉ cs) : split sep cs = [cs] := by
  induction cs with
  | nil => rfl
  | cons c cs ih =>
    obtain ⟨hc, hcs⟩ := not_or.mp (mt List.mem_cons.mpr h)
    exact split_cons_of_ne (Ne.symm hc) (ih hcs)

/-- A blank at the end of a text is trimmed. -/
theorem trim_append_of_isBlank (cs : List Char) (hc : isBlank c = true) :
    trim (cs ++ [c]) = trim cs := by
  have hend (ds : List Char) : trimEnd (ds ++ [c]) = trimEnd ds := by
    rw [trimEnd_eq_reverse, List.reverse_append, List.reverse_singleton, List.singleton_append,
      trimStart, List.dropWhile_cons_of_pos hc]
    rfl
  rw [trim, trimStart, List.dropWhile_append]
  split
  next hnil =>
    rw [trim, trimStart, List.isEmpty_iff.mp hnil, List.dropWhile_cons_of_pos hc]
    rfl
  next => exact hend _

end Text

/-! ### First occurrences -/

section FirstOccurrences

variable {α : Type} [DecidableEq α]

theorem eraseDups_concat (as : List α) (a : α) :
    (as ++ [a]).eraseDups = as.eraseDups ++ if a ∈ as then [] else [a] := by
  rw [List.eraseDups_append, List.removeAll]
  split
  next h => simp [h]
  next h => simp [h, List.eraseDups_cons]

theorem eraseDups_filter (as : List α) (p : α → Bool) :
    (as.filter p).eraseDups = as.eraseDups.filter p := by
  induction as using List.reverseRecOn with
  | nil => rfl
  | append_singleton as a ih =>
    rw [eraseDups_concat, List.filter_append, List.filter_append, ← ih]
    by_cases hp : p a = true
    · rw [List.filter_cons_of_pos hp, List.filter_nil, eraseDups_concat]
      by_cases ha : a ∈ as
      · simp [ha, hp]
      · simp [ha, hp]
    · rw [List.filter_cons_of_neg hp, List.filter_nil, List.append_nil]
      by_cases ha : a ∈ as
      · simp [ha]
      · simp [ha, hp]

/-- What is left stands in the order of its first occurrences. -/
theorem pairwise_eraseDups (as : List α) :
    as.eraseDups.Pairwise fun a b => as.idxOf a < as.idxOf b := by
  induction as using List.reverseRecOn with
  | nil => exact List.Pairwise.nil
  | append_singleton as a ih =>
    rw [eraseDups_concat, List.pairwise_append]
    refine ⟨ih.imp_of_mem fun hb hc hlt => ?_, by split <;> simp, fun b hb c hc => ?_⟩
    · rwa [List.idxOf_append_of_mem (List.mem_eraseDups.mp hb),
        List.idxOf_append_of_mem (List.mem_eraseDups.mp hc)]
    · split at hc
      · contradiction
      next ha =>
        obtain rfl := List.mem_singleton.mp hc
        rw [List.idxOf_append_of_mem (List.mem_eraseDups.mp hb), List.idxOf_append, if_neg ha]
        have hlt := List.idxOf_lt_length_iff.mpr (List.mem_eraseDups.mp hb)
        omega

theorem nodup_eraseDups (as : List α) : as.eraseDups.Nodup :=
  (pairwise_eraseDups as).imp fun hlt heq => Nat.ne_of_lt hlt (congrArg as.idxOf heq)

theorem eraseDups_of_nodup {as : List α} (h : as.Nodup) : as.eraseDups = as := by
  induction as using List.reverseRecOn with
  | nil => rfl
  | append_singleton as a ih =>
    obtain ⟨has, -, hne⟩ := List.nodup_append.mp h
    have ha : a ∉ as := fun hmem => hne a hmem a List.mem_cons_self rfl
    rw [eraseDups_concat, ih has, if_neg ha]

end FirstOccurrences

namespace Watchlist

/-! ### Entries -/

/-- A text that is not empty and no comment. -/
def IsName (name : List Char) : Prop := name ≠ [] ∧ name.head? ≠ some '#'

instance (name : List Char) : Decidable (IsName name) := inferInstanceAs (Decidable (_ ∧ _))

/-- The names on the lines of a text, in the letters that `upper` gives. -/
def entries (upper : List Char → List Char) (cs : List Char) : List String :=
  (((lines cs).map trim).filter (IsName ·)).map fun name => String.ofList (upper name)

variable {upper : List Char → List Char} {cs ds : List Char}

theorem symbol_eq (upper : List Char → List Char) (line : List Char) :
    symbol upper line =
      if IsName (trim line) then some (String.ofList (upper (trim line))) else none := by
  rw [symbol]
  split
  next hnil => rw [if_neg fun h => h.1 hnil]
  next hcomment => rw [if_neg fun h => h.2 (by rw [hcomment]; rfl)]
  next hnil hcomment =>
    have hhead : (trim line).head? ≠ some '#' := by
      intro h
      obtain ⟨rest, hrest⟩ := List.head?_eq_some_iff.mp h
      exact hcomment rest hrest
    rw [if_pos ⟨hnil, hhead⟩]

theorem symbols_eq (upper : List Char → List Char) (cs : List Char) :
    symbols upper (lines cs) = (entries upper cs).eraseDups := by
  rw [symbols, entries]
  congr 1
  induction lines cs with
  | nil => rfl
  | cons line rest ih =>
    rw [List.filterMap_cons, symbol_eq, List.map_cons, List.filter_cons, ih]
    by_cases h : IsName (trim line)
    · simp [h]
    · simp [h]

theorem mem_entries {item : String} :
    item ∈ entries upper cs ↔
      ∃ line ∈ lines cs, IsName (trim line) ∧ item = String.ofList (upper (trim line)) := by
  simp only [entries, List.mem_map, List.mem_filter, decide_eq_true_eq]
  constructor
  · rintro ⟨name, ⟨⟨line, hline, rfl⟩, hname⟩, rfl⟩
    exact ⟨line, hline, hname, rfl⟩
  · rintro ⟨line, hline, hname, rfl⟩
    exact ⟨_, ⟨⟨line, hline, rfl⟩, hname⟩, rfl⟩

theorem entries_append (upper : List Char → List Char) (cs ds : List Char) :
    entries upper (cs ++ '\n' :: ds) = entries upper cs ++ entries upper ds := by
  rw [entries, lines, split_append, List.map_append, List.filter_append, List.map_append]
  rfl

/-! ### Ends of lines -/

/-- Texts that are the same, apart from carriage returns before the ends of lines in the first. -/
inductive SameLines : List Char → List Char → Prop
  | nil : SameLines [] []
  | char {cs ds : List Char} (c : Char) (h : SameLines cs ds) : SameLines (c :: cs) (c :: ds)
  | carriage {cs ds : List Char} (h : SameLines ('\n' :: cs) ds) :
    SameLines ('\r' :: '\n' :: cs) ds

/-- A line of the first text may have one more character, a carriage return at its end. -/
theorem SameLines.forall₂_lines (h : SameLines cs ds) :
    List.Forall₂ (fun x y => x = y ∨ x = y ++ ['\r']) (lines cs) (lines ds) := by
  induction h with
  | nil => exact .cons (.inl rfl) .nil
  | @char cs ds c h ih =>
    unfold lines at ih ⊢
    by_cases hc : c = '\n'
    · rw [hc, split_cons_self, split_cons_self]
      exact .cons (.inl rfl) ih
    · obtain ⟨x, xs, hx⟩ := List.exists_cons_of_ne_nil (split_ne_nil '\n' cs)
      obtain ⟨y, ys, hy⟩ := List.exists_cons_of_ne_nil (split_ne_nil '\n' ds)
      rw [hx, hy, List.forall₂_cons] at ih
      rw [split_cons_of_ne hc hx, split_cons_of_ne hc hy, List.forall₂_cons]
      refine ⟨?_, ih.2⟩
      obtain rfl | rfl := ih.1
      · exact .inl rfl
      · exact .inr rfl
  | @carriage cs ds h ih =>
    unfold lines at ih ⊢
    rw [split_cons_of_ne (by decide) (split_cons_self '\n' cs)]
    obtain ⟨y, ys, hy⟩ := List.exists_cons_of_ne_nil (split_ne_nil '\n' ds)
    rw [hy, split_cons_self, List.forall₂_cons] at ih
    rw [hy, List.forall₂_cons]
    obtain ⟨rfl | hnil, hrest⟩ := ih
    · exact ⟨.inr rfl, hrest⟩
    · exact absurd hnil.symm (List.append_ne_nil_of_right_ne_nil _ (List.cons_ne_nil _ _))

theorem SameLines.entries_eq (h : SameLines cs ds) (upper : List Char → List Char) :
    entries upper cs = entries upper ds := by
  have htrim : (lines cs).map trim = (lines ds).map trim := by
    refine List.forall₂_eq_eq_eq ▸ List.forall₂_map_left_iff.mpr (List.forall₂_map_right_iff.mpr ?_)
    refine h.forall₂_lines.imp fun x y hxy => ?_
    obtain rfl | rfl := hxy
    · rfl
    · exact trim_append_of_isBlank y (by decide)
  rw [entries, htrim, entries]

theorem SameLines.refl (cs : List Char) : SameLines cs cs := by
  induction cs with
  | nil => exact .nil
  | cons c cs ih => exact .char c ih

theorem SameLines.append_left (h : SameLines cs ds) (es : List Char) :
    SameLines (es ++ cs) (es ++ ds) := by
  induction es with
  | nil => exact h
  | cons c es ih => exact .char c ih

/-- A text with a carriage return in front of each line feed. -/
def withCarriages : List Char → List Char
  | '\r' :: '\n' :: cs => '\r' :: '\n' :: withCarriages cs
  | '\n' :: cs => '\r' :: '\n' :: withCarriages cs
  | c :: cs => c :: withCarriages cs
  | [] => []

theorem sameLines_withCarriages (cs : List Char) : SameLines (withCarriages cs) cs := by
  induction cs using withCarriages.induct with
  | case1 cs ih => exact .char _ (.char _ ih)
  | case2 cs ih => exact .carriage (.char _ ih)
  | case3 c cs _ _ ih =>
    rw [withCarriages]
    · exact .char c ih
    all_goals assumption
  | case4 => exact .nil

/-! ### Written lists -/

/-- Items one on each line. -/
def unlines (items : List String) : List Char := items.flatMap fun item => item.toList ++ ['\n']

theorem lines_unlines {items : List String} (h : ∀ item ∈ items, '\n' ∉ item.toList) :
    lines (unlines items) = items.map String.toList ++ [[]] := by
  induction items with
  | nil => rfl
  | cons item items ih =>
    obtain ⟨hitem, hitems⟩ := List.forall_mem_cons.mp h
    have hcons : unlines (item :: items) = item.toList ++ '\n' :: unlines items := by
      rw [unlines, List.flatMap_cons, List.append_assoc]
      rfl
    rw [hcons, lines, split_append, split_of_notMem hitem, ← lines, ih hitems]
    rfl

/-- A name as it stands in a list: trimmed, on one line, and in upper case. -/
structure IsItem (upper : List Char → List Char) (name : List Char) : Prop where
  isName : IsName name
  trimmed : Trimmed name
  notMem : '\n' ∉ name
  upper_eq : upper name = name

theorem isItem_of_mem_entries (hcasing : Casing upper) {item : String}
    (h : item ∈ entries upper cs) : IsItem upper item.toList := by
  obtain ⟨line, hline, ⟨hne, hhead⟩, rfl⟩ := mem_entries.mp h
  rw [String.toList_ofList]
  have hnotMem : '\n' ∉ trim line := fun hmem =>
    notMem_of_mem_split line hline (trim_subset line hmem)
  exact ⟨⟨hcasing.ne_nil hne, hcasing.head_ne hhead⟩, hcasing.trimmed (trimmed_trim line),
    hcasing.notMem hnotMem, hcasing.idempotent _⟩

theorem entries_unlines {items : List String} (h : ∀ item ∈ items, IsItem upper item.toList) :
    entries upper (unlines items) = items := by
  have htrim : (items.map String.toList).map trim = items.map String.toList := by
    rw [List.map_map]
    exact List.map_congr_left fun item hitem => (h item hitem).trimmed.trim_eq
  have hnames : (items.map String.toList).filter (IsName ·) = items.map String.toList := by
    refine List.filter_eq_self.mpr fun name hname => ?_
    obtain ⟨item, hitem, rfl⟩ := List.mem_map.mp hname
    exact decide_eq_true (h item hitem).isName
  rw [entries, lines_unlines fun item hitem => (h item hitem).notMem, List.map_append, htrim,
    List.filter_append, hnames, List.map_append, List.map_map]
  have hitem (item : String) (hitem : item ∈ items) :
      ((fun name => String.ofList (upper name)) ∘ String.toList) item = id item := by
    rw [Function.comp_apply, (h item hitem).upper_eq, String.ofList_toList, id]
  rw [List.map_congr_left hitem, List.map_id]
  exact List.append_nil items

/-! ### Files -/

/-- What a file that holds the text comes to. -/
def load (path text : String) : Except Fault (List String) := ofFile path (.ok (Utf8.encode text))

/-- The items of a watchlist; there are none without one. -/
def items : Except Fault (List String) → List String
  | .ok items => items
  | .error _ => []

theorem load_eq (path text : String) :
    load path text =
      if entries Text.upper text.toList = [] then .error (.empty path)
      else .ok (entries Text.upper text.toList).eraseDups := by
  rw [load, ofFile, Utf8.strict_encode]
  change ofText path text = _
  rw [ofText, symbols_eq]
  cases entries Text.upper text.toList with
  | nil => rfl
  | cons item rest => rw [List.eraseDups_cons, if_neg (List.cons_ne_nil item rest)]

theorem items_load (path text : String) :
    items (load path text) = (entries Text.upper text.toList).eraseDups := by
  rw [load_eq]
  split
  next h => rw [h]; rfl
  next => rfl

theorem load_eq_error_iff {path text : String} :
    load path text = .error (.empty path) ↔ entries Text.upper text.toList = [] := by
  rw [load_eq]
  split
  next h => simp [h]
  next h => simp [h]

theorem load_eq_ok_iff {path text : String} {found : List String} :
    load path text = .ok found ↔
      entries Text.upper text.toList ≠ [] ∧ (entries Text.upper text.toList).eraseDups = found := by
  rw [load_eq]
  split
  next h => simp [h]
  next h => simp [h]

theorem load_append (path a b : String) {ending : String} (h : ending ∈ ["\n", "\r\n"]) :
    (load path (a ++ ending ++ b) = .error (.empty path) ↔
      load path a = .error (.empty path) ∧ load path b = .error (.empty path)) ∧
    items (load path (a ++ ending ++ b)) =
      items (load path a) ++ (items (load path b)).filter (· ∉ items (load path a)) := by
  have hentries : entries Text.upper (a ++ ending ++ b).toList =
      entries Text.upper a.toList ++ entries Text.upper b.toList := by
    rw [← entries_append, String.toList_append, String.toList_append, List.append_assoc]
    obtain rfl | h := List.mem_cons.mp h
    · rfl
    · obtain rfl := List.mem_singleton.mp h
      exact (SameLines.append_left (.carriage (.refl _)) _).entries_eq _
  rw [load_eq_error_iff, load_eq_error_iff, load_eq_error_iff, items_load, items_load, items_load,
    hentries, List.append_eq_nil_iff, List.eraseDups_append, List.removeAll, eraseDups_filter]
  refine ⟨Iff.rfl, ?_⟩
  simp only [List.mem_eraseDups, List.elem_eq_mem, decide_not]

/-- **Laws of watchlists.** A file that holds a text gives a watchlist exactly when a line, without
the blanks at its ends, is neither empty nor a comment; it is empty otherwise. The items are what
these lines hold, in upper case, each item once, in the order in which they first occur. Carriage
returns at the ends of lines do not count. Of two texts with a line end between them, the items are
those of the first and then those of the second that are not in the first. A list that was read can
be written, one item on each line, and read again. -/
theorem load_laws (path : String) :
    (∀ text,
      ((∃ found, load path text = .ok found) ↔
        ∃ line ∈ lines text.toList, IsName (trim line)) ∧
      ((¬∃ line ∈ lines text.toList, IsName (trim line)) →
        load path text = .error (.empty path)) ∧
      ∀ found, load path text = .ok found →
        (∀ item, item ∈ found ↔ ∃ line ∈ lines text.toList,
          IsName (trim line) ∧ item = String.ofList (Text.upper (trim line))) ∧
        found.Nodup ∧
        found.Pairwise fun item later =>
          (entries Text.upper text.toList).idxOf item <
            (entries Text.upper text.toList).idxOf later) ∧
    (∀ text, load path (String.ofList (withCarriages text.toList)) = load path text) ∧
    (∀ a b, ∀ ending ∈ ["\n", "\r\n"],
      (load path (a ++ ending ++ b) = .error (.empty path) ↔
        load path a = .error (.empty path) ∧ load path b = .error (.empty path)) ∧
      items (load path (a ++ ending ++ b)) =
        items (load path a) ++ (items (load path b)).filter (· ∉ items (load path a))) ∧
    ∀ text found, load path text = .ok found →
      load path (String.ofList (unlines found)) = .ok found := by
  have hnone (text : String) : entries Text.upper text.toList = [] ↔
      ¬∃ line ∈ lines text.toList, IsName (trim line) := by
    rw [List.eq_nil_iff_forall_not_mem]
    simp only [mem_entries]
    constructor
    · rintro h ⟨line, hline, hname⟩
      exact h _ ⟨line, hline, hname, rfl⟩
    · rintro h item ⟨line, hline, hname, -⟩
      exact h ⟨line, hline, hname⟩
  refine ⟨fun text => ⟨?_, fun h => load_eq_error_iff.mpr ((hnone text).mpr h), fun found h => ?_⟩,
    fun text => ?_, fun a b ending => load_append path a b, fun text found h => ?_⟩
  · simp only [load_eq_ok_iff, exists_and_left, exists_eq', and_true]
    exact (not_congr (hnone text)).trans not_not
  · obtain ⟨-, rfl⟩ := load_eq_ok_iff.mp h
    exact ⟨fun item => List.mem_eraseDups.trans mem_entries, nodup_eraseDups _,
      pairwise_eraseDups _⟩
  · rw [load_eq, load_eq, String.toList_ofList, (sameLines_withCarriages _).entries_eq]
  · obtain ⟨hne, rfl⟩ := load_eq_ok_iff.mp h
    have hitems : ∀ item ∈ (entries Text.upper text.toList).eraseDups,
        IsItem Text.upper item.toList := fun item hitem =>
      isItem_of_mem_entries casing_upper (List.mem_eraseDups.mp hitem)
    rw [load_eq_ok_iff, String.toList_ofList, entries_unlines hitems]
    refine ⟨fun hnil => hne ?_, eraseDups_of_nodup (nodup_eraseDups _)⟩
    exact List.eq_nil_iff_forall_not_mem.mpr fun item hitem =>
      List.not_mem_nil (hnil ▸ List.mem_eraseDups.mpr hitem)

/-- A file with a comment, blanks, an item that comes twice and no line end after the last line, to
which a text with one more item is added. -/
theorem load_laws_five_lines :
    let text := "# held\r\n\tspy \n\nQqq\nSPY"
    load "w" text = .ok ["SPY", "QQQ"] ∧ ["SPY", "QQQ"].Nodup ∧
      items (load "w" (text ++ "\r\n" ++ "qqq\nstraße\n")) = ["SPY", "QQQ", "STRASSE"] ∧
      load "w" (String.ofList (unlines ["SPY", "QQQ"])) = .ok ["SPY", "QQQ"] ∧
      load "w" "#spy\n" = .error (.empty "w") := by
  intro text
  obtain ⟨hread, -, happend, hwritten⟩ := load_laws "w"
  have htext : load "w" text = .ok ["SPY", "QQQ"] := by decide +kernel
  have hmore : items (load "w" "qqq\nstraße\n") = ["QQQ", "STRASSE"] := by decide +kernel
  refine ⟨htext, ((hread text).2.2 _ htext).2.1, ?_, hwritten text _ htext,
    (hread "#spy\n").2.1 (by decide +kernel)⟩
  rw [(happend text _ "\r\n" (.tail _ (.head _))).2, htext, hmore]
  decide

end Watchlist

end TickerTape
