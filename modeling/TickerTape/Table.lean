/-!
# Tables in key order

A table holds at most one value for each key, as a list of entries in strictly ascending key order.
The order makes a table determined by its look-ups, so that equality of tables is equality of
functions on keys.

## Main definitions

* `TickerTape.Table` — a table.
* `TickerTape.Table.get?`, `TickerTape.Table.insert`, `TickerTape.Table.filter`,
  `TickerTape.Table.mapValues`, `TickerTape.Table.traverse` — its operations.

## Main results

* `TickerTape.Table.ext_get?` — tables with the same look-ups are equal.
* `TickerTape.Table.get?_insert`, `TickerTape.Table.get?_filter`, `TickerTape.Table.get?_mapValues`
  — what each operation does to a look-up.
* `TickerTape.Table.get?_ofList` — look-ups in the table of a list.
-/

namespace TickerTape

variable {κ : Type} [Ord κ] {β γ : Type}

/-- Entries in strictly ascending key order. -/
def Ascending (entries : List (κ × β)) : Prop :=
  entries.Pairwise fun a b => compare a.1 b.1 = .lt

variable (κ β) in
/-- A finite map from keys to values. -/
structure Table where
  entries : List (κ × β)
  ascending : Ascending entries

namespace Table

/-! ### Operations -/

/-- The table without entries. -/
def empty : Table κ β := ⟨[], List.Pairwise.nil⟩

instance : EmptyCollection (Table κ β) := ⟨empty⟩

instance : Inhabited (Table κ β) := ⟨empty⟩

instance [DecidableEq κ] [DecidableEq β] : DecidableEq (Table κ β) := fun t u =>
  if h : t.entries = u.entries then
    .isTrue (by cases t; cases u; cases h; rfl)
  else .isFalse fun e => h (e ▸ rfl)

/-- The keys, ascending. -/
def keys (t : Table κ β) : List κ := t.entries.map (·.1)

/-- The values, in the order of their keys. -/
def values (t : Table κ β) : List β := t.entries.map (·.2)

/-- The number of entries. -/
def size (t : Table κ β) : Nat := t.entries.length

/-- Whether there is no entry. -/
def isEmpty (t : Table κ β) : Bool := t.entries.isEmpty

/-- The value of key `k` in a list of entries. -/
def lookup {κ : Type} [DecidableEq κ] (k : κ) : List (κ × β) → Option β
  | [] => none
  | (k', b) :: entries => if k = k' then some b else lookup k entries

/-- The value of a key. -/
def get? [DecidableEq κ] (t : Table κ β) (k : κ) : Option β := lookup k t.entries

/-- Whether a key has a value. -/
def contains [DecidableEq κ] (t : Table κ β) (k : κ) : Bool := (t.get? k).isSome

/-- Entries with a value put in at its key. -/
def put (k : κ) (b : β) : List (κ × β) → List (κ × β)
  | [] => [(k, b)]
  | (k', b') :: entries =>
    match compare k k' with
    | .lt => (k, b) :: (k', b') :: entries
    | .eq => (k, b) :: entries
    | .gt => (k', b') :: put k b entries

theorem mem_put {k : κ} {b : β} {entries : List (κ × β)} {e : κ × β} (h : e ∈ put k b entries) :
    e = (k, b) ∨ e ∈ entries := by
  induction entries with
  | nil => simpa [put] using h
  | cons e' entries ih =>
    obtain ⟨k', b'⟩ := e'
    rw [put] at h
    split at h
    · simpa using h
    · rcases List.mem_cons.mp h with h | h
      · exact .inl h
      · exact .inr (List.mem_cons_of_mem _ h)
    · rcases List.mem_cons.mp h with h | h
      · exact .inr (h ▸ List.mem_cons_self)
      · exact (ih h).imp_right (List.mem_cons_of_mem _)

theorem length_put_le (k : κ) (b : β) (entries : List (κ × β)) :
    (put k b entries).length ≤ entries.length + 1 := by
  induction entries with
  | nil => exact Nat.le_refl 1
  | cons e entries ih =>
    rw [put]
    split
    · exact Nat.le_refl _
    · exact Nat.le_succ _
    · exact Nat.succ_le_succ ih

section Lawful

variable [Std.TransOrd κ] [Std.LawfulEqOrd κ]

theorem ascending_put (k : κ) (b : β) {entries : List (κ × β)} (h : Ascending entries) :
    Ascending (put k b entries) := by
  induction entries with
  | nil => exact List.pairwise_singleton _ _
  | cons e entries ih =>
    obtain ⟨k', b'⟩ := e
    obtain ⟨hhead, htail⟩ := List.pairwise_cons.mp h
    rw [put]
    split
    next hlt =>
      refine List.pairwise_cons.mpr ⟨fun e he => ?_, h⟩
      rcases List.mem_cons.mp he with rfl | he
      · exact hlt
      · exact Std.TransCmp.lt_trans hlt (hhead e he)
    next heq =>
      obtain rfl := Std.LawfulEqCmp.eq_of_compare heq
      exact List.pairwise_cons.mpr ⟨hhead, htail⟩
    next hgt =>
      refine List.pairwise_cons.mpr ⟨fun e he => ?_, ih htail⟩
      rcases mem_put he with rfl | he
      · exact Std.OrientedCmp.gt_iff_lt.mp hgt
      · exact hhead e he

/-- The table in which key `k` has value `b`, in place of any value it had. -/
def insert (t : Table κ β) (k : κ) (b : β) : Table κ β :=
  ⟨put k b t.entries, ascending_put k b t.ascending⟩

/-- The table of a list of entries, later ones in place of earlier ones with the same key. -/
def ofList (entries : List (κ × β)) : Table κ β := entries.foldl (fun t e => t.insert e.1 e.2) ∅

end Lawful

/-- The entries whose key passes a test. -/
def filter (p : κ → Bool) (t : Table κ β) : Table κ β :=
  ⟨t.entries.filter (p ·.1), t.ascending.filter _⟩

/-- The table without key `k`. -/
def erase [DecidableEq κ] (t : Table κ β) (k : κ) : Table κ β := t.filter (· ≠ k)

/-- The table with a function applied to each key and value. -/
def mapValues (f : κ → β → γ) (t : Table κ β) : Table κ γ where
  entries := t.entries.map fun e => (e.1, f e.1 e.2)
  ascending := by
    rw [Ascending, List.pairwise_map]
    exact t.ascending

/-- Entries with a function applied to each that may fail. -/
def traverseEntries {ε : Type} (f : κ → β → Except ε γ) :
    List (κ × β) → Except ε (List (κ × γ))
  | [] => .ok []
  | (k, b) :: entries => do
    let c ← f k b
    let cs ← traverseEntries f entries
    return (k, c) :: cs

omit [Ord κ] in
theorem keys_traverseEntries {ε : Type} {f : κ → β → Except ε γ} {entries : List (κ × β)}
    {cs : List (κ × γ)} (h : traverseEntries f entries = .ok cs) :
    cs.map (·.1) = entries.map (·.1) := by
  induction entries generalizing cs with
  | nil => cases h; rfl
  | cons e entries ih =>
    obtain ⟨k, b⟩ := e
    rw [traverseEntries] at h
    cases hc : f k b with
    | error => rw [hc] at h; contradiction
    | ok c =>
      cases hcs : traverseEntries f entries with
      | error => rw [hc, hcs] at h; contradiction
      | ok ds =>
        rw [hc, hcs] at h
        cases h
        simp [ih hcs]

theorem ascending_iff {entries : List (κ × β)} :
    Ascending entries ↔ (entries.map (·.1)).Pairwise fun a b => compare a b = .lt := by
  rw [Ascending, List.pairwise_map]

/-- The table with a function applied to each key and value, unless it fails for one. -/
def traverse {ε : Type} (f : κ → β → Except ε γ) (t : Table κ β) : Except ε (Table κ γ) :=
  match h : traverseEntries f t.entries with
  | .ok cs =>
    .ok ⟨cs, ascending_iff.mpr (keys_traverseEntries h ▸ ascending_iff.mp t.ascending)⟩
  | .error e => .error e

/-! ### Look-ups -/

@[simp] theorem entries_empty : (∅ : Table κ β).entries = [] := rfl

@[simp] theorem size_empty : (∅ : Table κ β).size = 0 := rfl

@[simp] theorem size_mapValues (f : κ → β → γ) (t : Table κ β) :
    (t.mapValues f).size = t.size := List.length_map _

theorem size_filter_le (p : κ → Bool) (t : Table κ β) : (t.filter p).size ≤ t.size :=
  List.length_filter_le _ _

@[simp] theorem isEmpty_empty : (∅ : Table κ β).isEmpty = true := rfl

theorem isEmpty_iff {t : Table κ β} : t.isEmpty = true ↔ t = ∅ := by
  obtain ⟨entries, h⟩ := t
  cases entries with
  | nil => exact ⟨fun _ => rfl, fun _ => rfl⟩
  | cons e entries => exact ⟨nofun, nofun⟩

section Decidable

variable [DecidableEq κ]

@[simp] theorem get?_empty (k : κ) : (∅ : Table κ β).get? k = none := rfl

omit [Ord κ] in
theorem mem_of_lookup {k : κ} {b : β} {entries : List (κ × β)} (h : lookup k entries = some b) :
    (k, b) ∈ entries := by
  induction entries with
  | nil => simp [lookup] at h
  | cons e entries ih =>
    obtain ⟨k', b'⟩ := e
    rw [lookup] at h
    split at h
    · simp_all
    · exact List.mem_cons_of_mem _ (ih h)

omit [Ord κ] in
theorem lookup_append (k : κ) (entries more : List (κ × β)) :
    lookup k (entries ++ more) = (lookup k entries).or (lookup k more) := by
  induction entries with
  | nil => rfl
  | cons e entries ih =>
    obtain ⟨k', b⟩ := e
    rw [List.cons_append, lookup, ih, lookup]
    split <;> rfl

omit [Ord κ] in
/-- In a list with each key once a look-up finds all entries. -/
theorem lookup_eq_some_iff {k : κ} {b : β} {entries : List (κ × β)}
    (h : (entries.map (·.1)).Nodup) : lookup k entries = some b ↔ (k, b) ∈ entries := by
  refine ⟨mem_of_lookup, fun hmem => ?_⟩
  induction entries with
  | nil => contradiction
  | cons e entries ih =>
    obtain ⟨k', b'⟩ := e
    obtain ⟨hnew, hnodup⟩ := List.nodup_cons.mp h
    rw [lookup]
    rcases List.mem_cons.mp hmem with heq | htail
    · obtain ⟨rfl, rfl⟩ := Prod.mk.inj heq
      exact if_pos rfl
    · have hkey : k ∈ entries.map (·.1) := List.mem_map_of_mem htail
      have hne : k ≠ k' := fun heq => hnew (heq ▸ hkey)
      rw [if_neg hne, ih hnodup htail]

omit [Ord κ] in
theorem lookup_map (f : κ → β → γ) (k : κ) (entries : List (κ × β)) :
    lookup k (entries.map fun e => (e.1, f e.1 e.2)) = (lookup k entries).map (f k) := by
  induction entries with
  | nil => rfl
  | cons e entries ih =>
    obtain ⟨k', b⟩ := e
    rw [List.map_cons, lookup, ih, lookup]
    split <;> simp_all

theorem contains_eq_true_iff {t : Table κ β} {k : κ} :
    t.contains k = true ↔ ∃ b, t.get? k = some b := Option.isSome_iff_exists

theorem isEmpty_of_contains {t : Table κ β} {k : κ} (h : t.contains k = true) :
    t.isEmpty = false := by
  rw [Bool.eq_false_iff]
  intro hempty
  rw [isEmpty_iff.mp hempty] at h
  contradiction

/-- A look-up after a function was applied to all values. -/
@[simp] theorem get?_mapValues (f : κ → β → γ) (t : Table κ β) (k : κ) :
    (t.mapValues f).get? k = (t.get? k).map (f k) :=
  lookup_map f k t.entries

end Decidable

section Lawful

variable [DecidableEq κ] [Std.TransOrd κ] [Std.LawfulEqOrd κ]

omit [Std.TransOrd κ] in
theorem lookup_put [Std.OrientedOrd κ] (k k' : κ) (b : β) (entries : List (κ × β)) :
    lookup k' (put k b entries) = if k' = k then some b else lookup k' entries := by
  induction entries with
  | nil => simp [put, lookup]
  | cons e entries ih =>
    obtain ⟨k₁, b₁⟩ := e
    rw [put]
    split
    next => simp [lookup]
    next heq =>
      obtain rfl := Std.LawfulEqCmp.eq_of_compare heq
      by_cases hk : k' = k <;> simp [lookup, hk]
    next hgt =>
      rw [lookup, ih, lookup]
      by_cases hk : k' = k
      · subst hk
        rw [if_neg, if_pos rfl, if_pos rfl]
        rintro rfl
        simp at hgt
      · simp [hk]

/-- Putting a value in changes the look-up of its own key only. -/
theorem get?_insert (t : Table κ β) (k k' : κ) (b : β) :
    (t.insert k b).get? k' = if k' = k then some b else t.get? k' :=
  lookup_put k k' b t.entries

@[simp] theorem get?_insert_self (t : Table κ β) (k : κ) (b : β) :
    (t.insert k b).get? k = some b := by simp [get?_insert]

omit [Std.TransOrd κ] in
theorem lookup_of_mem [Std.OrientedOrd κ] {k : κ} {b : β} {entries : List (κ × β)}
    (hasc : Ascending entries) (h : (k, b) ∈ entries) : lookup k entries = some b := by
  induction entries with
  | nil => contradiction
  | cons e entries ih =>
    obtain ⟨k', b'⟩ := e
    obtain ⟨hhead, htail⟩ := List.pairwise_cons.mp hasc
    rw [lookup]
    rcases List.mem_cons.mp h with h | h
    · obtain ⟨rfl, rfl⟩ := Prod.mk.inj h
      simp
    · have hlt := hhead _ h
      rw [if_neg, ih htail h]
      rintro rfl
      simp at hlt

theorem length_put_of_lookup {k : κ} {b b' : β} {entries : List (κ × β)}
    (hasc : Ascending entries) (h : lookup k entries = some b') :
    (put k b entries).length = entries.length := by
  induction entries with
  | nil => contradiction
  | cons e entries ih =>
    obtain ⟨k', c⟩ := e
    obtain ⟨hhead, htail⟩ := List.pairwise_cons.mp hasc
    rw [put]
    split
    next hlt =>
      have hne : k ≠ k' := by
        rintro rfl
        simp at hlt
      rw [lookup, if_neg hne] at h
      have hgt := hhead _ (mem_of_lookup h)
      rw [Std.OrientedCmp.gt_iff_lt.mpr hgt] at hlt
      contradiction
    next => rfl
    next hgt =>
      have hne : k ≠ k' := by
        rintro rfl
        simp at hgt
      rw [lookup, if_neg hne] at h
      simp [ih htail h]

/-- A value put in at a key that had one leaves the number of entries. -/
theorem size_insert_of_get? {t : Table κ β} {k : κ} {b' : β} (h : t.get? k = some b') (b : β) :
    (t.insert k b).size = t.size :=
  length_put_of_lookup t.ascending h

omit [DecidableEq κ] in
theorem size_insert_le (t : Table κ β) (k : κ) (b : β) : (t.insert k b).size ≤ t.size + 1 :=
  length_put_le k b t.entries

/-- A look-up finds the entries. -/
theorem get?_eq_some_iff {t : Table κ β} {k : κ} {b : β} :
    t.get? k = some b ↔ (k, b) ∈ t.entries :=
  ⟨mem_of_lookup, lookup_of_mem t.ascending⟩

omit [DecidableEq κ] [Std.TransOrd κ] in
theorem nodup_keys (t : Table κ β) : t.keys.Nodup := by
  refine (ascending_iff.mp t.ascending).imp fun hlt heq => ?_
  subst heq
  simp at hlt

theorem contains_iff {t : Table κ β} {k : κ} : t.contains k = true ↔ k ∈ t.keys := by
  simp only [contains, Option.isSome_iff_exists, get?_eq_some_iff, keys, List.mem_map,
    Prod.exists, exists_and_right, exists_eq_right]

/-- A look-up in the entries that pass a test. -/
theorem get?_filter (p : κ → Bool) (t : Table κ β) (k : κ) :
    (t.filter p).get? k = if p k then t.get? k else none := by
  apply Option.ext
  intro b
  rw [get?_eq_some_iff]
  by_cases hp : p k <;> simp [filter, hp, get?_eq_some_iff]

/-- Erasing a key changes its own look-up only. -/
theorem get?_erase (t : Table κ β) (k k' : κ) :
    (t.erase k).get? k' = if k' = k then none else t.get? k' := by
  rw [erase, get?_filter]
  by_cases h : k' = k <;> simp [h]

theorem eq_of_lookup_eq {es fs : List (κ × β)} (hes : Ascending es) (hfs : Ascending fs)
    (h : ∀ k, lookup k es = lookup k fs) : es = fs := by
  have nodup {l : List (κ × β)} (hl : Ascending l) : l.Nodup :=
    hl.imp fun hlt heq => by subst heq; simp at hlt
  refine List.Perm.eq_of_pairwise (fun a b _ _ hab hba => ?_) hes hfs ?_
  · rw [@Std.OrientedCmp.eq_swap κ compare _ a.1 b.1, hba] at hab
    contradiction
  · rw [List.perm_ext_iff_of_nodup (nodup hes) (nodup hfs)]
    intro e
    exact ⟨fun he => mem_of_lookup ((h e.1).symm.trans (lookup_of_mem hes he)),
      fun he => mem_of_lookup ((h e.1).trans (lookup_of_mem hfs he))⟩

/-- Of the entries of a list with one key the last one counts. -/
theorem get?_ofList (entries : List (κ × β)) (k : κ) :
    (ofList entries).get? k = lookup k entries.reverse := by
  have hfold (t : Table κ β) : (entries.foldl (fun t e => t.insert e.1 e.2) t).get? k =
      (lookup k entries.reverse).or (t.get? k) := by
    induction entries generalizing t with
    | nil => rfl
    | cons e entries ih =>
      rw [List.foldl_cons, ih, get?_insert, List.reverse_cons, lookup_append, Option.or_assoc]
      by_cases hk : k = e.1 <;> simp [lookup, hk]
  rw [ofList, hfold, get?_empty, Option.or_none]

/-- Tables with the same look-ups are equal. -/
theorem ext_get? {t u : Table κ β} (h : ∀ k, t.get? k = u.get? k) : t = u := by
  obtain ⟨es, hes⟩ := t
  obtain ⟨fs, hfs⟩ := u
  obtain rfl := eq_of_lookup_eq hes hfs h
  rfl

/-- A value put in at a key that has it changes nothing. -/
theorem insert_of_get? {t : Table κ β} {k : κ} {b : β} (h : t.get? k = some b) :
    t.insert k b = t := by
  refine ext_get? fun k' => ?_
  rw [get?_insert]
  split
  next hk => rw [hk, h]
  next => rfl

/-- A key that a table does not have can be erased without a change. -/
theorem erase_of_contains_eq_false {t : Table κ β} {k : κ} (h : t.contains k = false) :
    t.erase k = t := by
  refine ext_get? fun k' => ?_
  rw [get?_erase]
  split
  next hk => rw [hk, Option.not_isSome_iff_eq_none.mp (Bool.eq_false_iff.mp h)]
  next => rfl

end Lawful

end Table

end TickerTape
