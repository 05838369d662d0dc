import TickerTape.Proofs.Calls
import TickerTape.Proofs.StreamLedger

/-!
# Marker reads of an accessor

Once an accessor has accepted the names and the index, a marker read is three requests: whether the
stream has lost records, where its marker stands, and the fetch. This module singles these requests
out and relates what the read returns to the records that the engine gave.

## Main definitions

* `TickerTape.Form.toSample` — what a reader got, as the engine gave it.
* `TickerTape.Handout` — what one marker read returned, and the records it returned.
* `TickerTape.Accessor.readBehind` — the three requests.
* `TickerTape.Accessor.markerAnswer` — what a marker read returns for what the engine gave.

## Main results

* `TickerTape.Accessor.sinceMarker_eq` — a marker read accepts its arguments and then asks.
* `TickerTape.Accessor.markerAnswer_of_fetch` — a marker read returns all that the engine gave,
  unless it is strict and learns of a loss.
-/

namespace TickerTape

open Engine

/-! ### Words and slots -/

theorem Word.eq_of_addSigned {a b c : Int} (h : addSigned a b = .ok c) : c = a + b := by
  rw [addSigned] at h
  split at h
  · exact (Except.ok.inj h).symm
  · contradiction

theorem Word.eq_of_subSigned {a b c : Int} (h : subSigned a b = .ok c) : c = a - b := by
  rw [subSigned] at h
  split at h
  · exact (Except.ok.inj h).symm
  · contradiction

theorem Word.eq_of_addUnsigned {m n k : Nat} (h : addUnsigned m n = .ok k) : k = m + n := by
  rw [addUnsigned] at h
  split at h
  · exact (Except.ok.inj h).symm
  · contradiction

theorem Word.of_checked_eq_ok {α : Type} {x : Except Overflow α} {a : α}
    (h : checked x = .ok a) : x = .ok a := by
  cases x with
  | error o => contradiction
  | ok b => rw [Except.ok.inj h]

/-- The slot that an index names: a negative index counts from the capacity. -/
theorem Slot.of_ofIndex_eq_ok {index : Int} {capacity slot : Nat}
    (h : ofIndex index capacity = .ok slot) :
    (slot : Int) = (if index < 0 then index + Word.toSigned capacity else index) ∧
      (slot : Int) < Word.toSigned capacity := by
  have hlast {i : Int} (h : (if i < 0 ∨ Word.toSigned capacity ≤ i then
      (.error (.fault (.outOfRange index capacity)) : Except Failure Nat) else .ok i.toNat) =
        .ok slot) : (slot : Int) = i ∧ (slot : Int) < Word.toSigned capacity := by
    split at h
    · cases h
    · have hslot := Except.ok.inj h
      omega
  rw [ofIndex] at h
  dsimp only at h
  split at h
  next hneg =>
    obtain ⟨i, hi, h⟩ := bind_eq_ok_iff.mp h
    rw [if_pos hneg, ← Word.eq_of_addSigned (Word.of_checked_eq_ok hi)]
    exact hlast h
  next hneg =>
    obtain ⟨i, hi, h⟩ := bind_eq_ok_iff.mp h
    obtain rfl : index = i := Except.ok.inj hi
    rw [if_neg hneg]
    exact hlast h

/-- The part of a range of slots that holds values. -/
theorem Slot.Range.occupied_eq {first last n : Nat} (hle : first ≤ last)
    (hlt : last < 0x8000000000000000) :
    occupied first last n = .ok (if n ≤ first then none
      else some ⟨first, min last (n - 1), min last (n - 1) - first + 1⟩) := by
  rw [occupied]
  by_cases hn : n ≤ first
  · rw [if_pos (.inr hn), if_pos hn]
  · have hgap : min last (n - 1) - first + 1 < 0x10000000000000000 := by omega
    rw [if_neg (by omega), if_neg hn, Nat.min_eq_left (by omega : first ≤ n - 1)]
    dsimp only
    rw [Word.subUnsigned_of_le (by omega)]
    change (Word.addUnsigned (min last (n - 1) - first) 1 >>= fun size => _) = _
    rw [Word.addUnsigned_of_isUnsigned hgap]
    rfl

/-! ### Points and samples -/

/-- What a reader got, as the engine gave it. -/
def Form.toSample (form : Form) (p : Point form.Carrier) : Sample := ⟨form.toValue p.value, p.stamp⟩

/-- A reader takes a value given as the kind that it asks for. -/
theorem Form.exists_read_of_giveAs {form : Form} {v w : Value} (h : v.giveAs form.kind = .ok w) :
    ∃ a, form.read w = some a := by
  cases form with
  | any => exact ⟨w, rfl⟩
  | long | double | text =>
    cases v <;> cases h
    all_goals exact ⟨_, rfl⟩

namespace Accessor

theorem convert_of_give {form : Form} {stamped : Bool} {r : Record} {x : Sample}
    (h : r.give form.kind stamped = .ok x) :
    ∃ p, convert form x = .ok p ∧ form.toSample p = x := by
  obtain ⟨v, hv, h⟩ := bind_eq_ok_iff.mp h
  cases h
  obtain ⟨a, ha⟩ := Form.exists_read_of_giveAs hv
  refine ⟨⟨a, if stamped then some r.stamp else none⟩, ?_, ?_⟩
  · simp [convert, Form.readPoint, ha]
  · simp [Form.toSample, Form.toValue_of_read ha]

/-- A reader takes all samples of the kind that it asks for. -/
theorem mapM_convert_of_give {form : Form} {stamped : Bool} {rs : List Record}
    {samples : List Sample} (h : rs.mapM (Record.give form.kind stamped) = .ok samples) :
    ∃ points, samples.mapM (convert form) = .ok points ∧ points.map form.toSample = samples := by
  rw [mapM_eq_ok_iff] at h
  induction h with
  | nil => exact ⟨[], rfl, rfl⟩
  | cons hx _ ih =>
    obtain ⟨p, hp, hx⟩ := convert_of_give hx
    obtain ⟨points, hpoints, hsamples⟩ := ih
    refine ⟨p :: points, ?_, by rw [List.map_cons, hx, hsamples]⟩
    rw [List.mapM_cons, hp, hpoints]
    rfl

end Accessor

/-! ### What marker reads return -/

/-- What one marker read returned: samples, with the kind that was asked for and whether the times
were wanted. -/
structure Handout where
  kind : Kind
  stamped : Bool
  samples : List Sample
  deriving DecidableEq

/-- The samples are those of the records `rs`, from a block that records times or does not. -/
def Handout.Of (recorded : Bool) (h : Handout) (rs : List Record) : Prop :=
  rs.mapM (Record.give h.kind (h.stamped && recorded)) = .ok h.samples

namespace Accessor

/-! ### The requests of a marker read -/

/-- What a marker read returns for what the engine gave. -/
def markerAnswer (form : Form) (item topic : String) (policy : LossPolicy) (found : MarkerRead) :
    Except Failure (List (Point form.Carrier)) :=
  if found.got < 0 ∧ policy = .fail then .error (.fault (.dirtyMarker item topic))
  else (found.samples.take found.got.natAbs).mapM (convert form)

/-- The fetch of a marker read down to a slot, with room for so many values. -/
def fetchBehind (form : Form) (item topic : String) (policy : LossPolicy) (slot room : Nat)
    (a : Accessor) : Operation (List (Point form.Carrier)) := do
  let found : MarkerRead ←
    Inquiry.query (.sinceMarker (a.address item topic) slot room form.kind a.stamped)
  Inquiry.lift (markerAnswer form item topic policy found)

/-- The requests of a marker read down to a slot. -/
def readBehind (form : Form) (item topic : String) (policy : LossPolicy) (slot : Nat)
    (a : Accessor) : Operation (List (Point form.Carrier)) := do
  let dirty : Bool ← Inquiry.query (.markerDirty (a.address item topic))
  refuseLoss item topic dirty policy
  let position : Int ← Inquiry.query (.markerPosition (a.address item topic))
  let expected ← Inquiry.lift (Word.checked (pending position slot))
  if expected < 0 then return []
  else
    let room ← Inquiry.lift (Word.checked (Word.addUnsigned expected.toNat a.margin))
    fetchBehind form item topic policy slot room a

theorem refuseLoss_bind_lift (form : Form) (item topic : String) (policy : LossPolicy)
    (found : MarkerRead) :
    (do refuseLoss item topic (found.got < 0) policy
        Inquiry.lift ((found.samples.take found.got.natAbs).mapM (convert form))) =
      (Inquiry.lift (markerAnswer form item topic policy found) :
        Operation (List (Point form.Carrier))) := by
  unfold refuseLoss markerAnswer
  by_cases hlost : found.got < 0
  · cases policy with
    | fail =>
      simp only [hlost, decide_true, true_and, if_true]
      rfl
    | ignore => simp
  · simp [hlost]

/-- A marker read accepts its names and its index before it asks for data. -/
theorem sinceMarker_eq (form : Form) (item topic : String) (index : Int) (policy : LossPolicy) :
    sinceMarker form item topic index policy = (do
      let size ← validate item topic
      let slot ← Inquiry.lift (Slot.ofIndex index size)
      let a ← get
      readBehind form item topic policy slot a) := by
  unfold sinceMarker readBehind fetchBehind
  simp only [refuseLoss_bind_lift]

theorem start_refuseLoss_bind {α : Type} (item topic : String) (lost : Bool) (policy : LossPolicy)
    (f : Unit → Operation α) (a : Accessor) :
    (refuseLoss item topic lost policy >>= f).start a =
      if lost = true ∧ policy = .fail then .done (.error (.fault (.dirtyMarker item topic)), a)
      else (f ()).start a := by
  rw [refuseLoss]
  cases lost <;> cases policy <;> rfl

/-- How many values lie between the marker and a slot that is a signed word. -/
theorem eq_of_pending {position : Int} {slot : Nat} {n : Int}
    (hslot : slot < 0x8000000000000000) (h : pending position slot = .ok n) :
    n = position - slot + 1 := by
  obtain ⟨gap, hgap, h⟩ := bind_eq_ok_iff.mp h
  rw [Word.eq_of_addSigned h, Word.eq_of_subSigned hgap, Word.toSigned_of_lt hslot]

/-- A marker read returns all that the engine gave, unless it is strict and learns of a loss. -/
theorem markerAnswer_of_fetch {s s' : Stream} (hle : s.unread ≤ s.records.length) {form : Form}
    {first room : Nat} {stamped : Bool} {found : MarkerRead}
    (h : s.fetch first room form.kind stamped = .ok (found, s')) (item topic : String)
    (policy : LossPolicy) :
    ∃ points, points.map form.toSample = found.samples ∧
      markerAnswer form item topic policy found =
        if found.got < 0 ∧ policy = .fail then .error (.fault (.dirtyMarker item topic))
        else .ok points := by
  obtain ⟨_, given, -, hgive, -, -, hgot⟩ := Stream.pending_of_fetch hle h
  obtain ⟨points, hpoints, hsamples⟩ := mapM_convert_of_give hgive
  have hall : found.samples.take found.got.natAbs = found.samples := by
    apply List.take_of_length_le
    rw [hgot]
    split <;> omega
  exact ⟨points, hsamples, by rw [markerAnswer, hall, hpoints]⟩

/-- A read returns all that the engine gave if it accepts losses or there was none. -/
theorem markerAnswer_eq_ok {s s' : Stream} (hle : s.unread ≤ s.records.length) {form : Form}
    {first room : Nat} {stamped : Bool} {found : MarkerRead}
    (h : s.fetch first room form.kind stamped = .ok (found, s')) (item topic : String)
    {policy : LossPolicy} (hstrict : policy = .fail → s.lost = false ∧ s.unread - first ≤ room) :
    ∃ points, points.map form.toSample = found.samples ∧
      markerAnswer form item topic policy found = .ok points := by
  obtain ⟨points, hpoints, hanswer⟩ := markerAnswer_of_fetch hle h item topic policy
  obtain ⟨_, _, -, -, -, -, hgot⟩ := Stream.pending_of_fetch hle h
  refine ⟨points, hpoints, ?_⟩
  rw [hanswer, if_neg]
  rintro ⟨hneg, hpolicy⟩
  obtain ⟨hlost, hroom⟩ := hstrict hpolicy
  rw [hgot, if_neg (by simp [hlost, hroom])] at hneg
  omega

end Accessor

end TickerTape
