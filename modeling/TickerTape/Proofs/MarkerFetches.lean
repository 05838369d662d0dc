import TickerTape.Foreign.Scripted
import TickerTape.Proofs.Calls
import TickerTape.Proofs.ForeignCalls
import TickerTape.Proofs.MarkerReads

/-!
# Marker reads of a foreign library

For a marker read the library fills slots, the most recent value first, and reports a count, negated
when values were lost. The slots that count are the first ones, as many as the count says and there
are; the others may hold anything. The adapter gives them oldest first, each value with the time in
its own slot, and the accessor makes points of all of them, or refuses them all for the loss.

## Main definitions

* `TickerTape.Foreign.Filled.sampleAt` — what one slot holds.
* `TickerTape.Foreign.Filled.reported` — what a count makes of filled slots.

## Main results

* `TickerTape.Foreign.Adapter.run_sinceMarker` — a marker read behind the adapter.
* `TickerTape.Foreign.marker_read_of_slots` — a marker read of an accessor behind the adapter.
-/

namespace TickerTape

open Engine Program Inquiry Accessor

namespace Foreign

/-! ### Slots -/

/-- The value in a slot. -/
def Slots.value : (kind : Kind) → {n : Nat} → Slots kind n → Fin n → Value
  | .long, _, slots, i => .long (Vector.get slots i)
  | .double, _, slots, i => .double (Vector.get slots i)
  | .text, _, slots, i => .text (TextSlot.text (Vector.get slots i))

theorem map_toList_eq_ofFn {α β : Type} {n : Nat} (v : Vector α n) (g : α → β) :
    v.toList.map g = List.ofFn fun i => g (v.get i) := by
  refine List.ext_getElem (by simp) fun i hi _ => ?_
  simp [Vector.get]

/-- All slots are read. -/
theorem texts_eq {n : Nat} (slots : Vector TextSlot n) :
    texts n slots = slots.toList.map TextSlot.text := by
  rw [texts, List.take_of_length_le (Nat.le_of_eq slots.length_toList)]

/-- The values in slots, slot by slot. -/
theorem Slots.values_eq_ofFn : (kind : Kind) → {n : Nat} → (slots : Slots kind n) →
    Slots.values kind slots = List.ofFn (Slots.value kind slots)
  | .long, _, slots => map_toList_eq_ofFn slots Value.long
  | .double, _, slots => map_toList_eq_ofFn slots Value.double
  | .text, _, slots =>
    (congrArg (List.map Value.text) (texts_eq slots)).trans
      (List.map_map.trans (map_toList_eq_ofFn slots (Value.text ∘ TextSlot.text)))

theorem Slots.kind_value : (kind : Kind) → {n : Nat} → (slots : Slots kind n) → (i : Fin n) →
    (Slots.value kind slots i).kind = kind
  | .long, _, _, _ => rfl
  | .double, _, _, _ => rfl
  | .text, _, _, _ => rfl

/-- Each value stands with the time of its own slot. -/
theorem getElem?_attach (values : List Value) (stamps : List RawStamp) (i : Nat) :
    (attach values stamps)[i]? = values[i]?.map fun v => ⟨v, stamps[i]?.map RawStamp.stamp⟩ := by
  induction values generalizing stamps i with
  | nil => simp [attach]
  | cons v values ih =>
    cases stamps with
    | nil => cases i <;> simp [attach, ih]
    | cons r stamps => cases i <;> simp [attach, ih]

namespace Filled

variable {kind : Kind} {room times : Nat}

/-- What a slot holds: its value, with the time in the slot for its time if there is one. -/
def sampleAt (f : Filled kind room times) (i : Fin room) : Sample :=
  ⟨Slots.value kind f.slots i, f.stamps[i.val]?.map RawStamp.stamp⟩

/-- What a count makes of filled slots: the first of them, as many as it says and there are, the
last one first. -/
def reported (f : Filled kind room times) (got : Int) : List Sample :=
  (List.ofFn fun i : Fin (min got.natAbs room) =>
    f.sampleAt (i.castLE (Nat.min_le_right _ _))).reverse

/-- The samples in filled slots, slot by slot. -/
theorem samples_eq_ofFn (f : Filled kind room times) : f.samples = List.ofFn f.sampleAt := by
  refine List.ext_getElem? fun i => ?_
  rw [samples, getElem?_attach, Slots.values_eq_ofFn, List.getElem?_ofFn, List.getElem?_ofFn]
  split
  · simp [sampleAt]
  · rfl

/-- The slots that count are the first ones. -/
theorem reverse_take_samples (f : Filled kind room times) (got : Int) :
    (f.samples.take got.natAbs).reverse = f.reported got := by
  rw [samples_eq_ofFn, reported]
  refine congrArg List.reverse (List.ext_getElem (by simp) fun i hi _ => ?_)
  simp

theorem length_reported (f : Filled kind room times) (got : Int) :
    (f.reported got).length = min got.natAbs room := by
  simp [reported]

theorem kind_of_mem_reported {f : Filled kind room times} {got : Int} {x : Sample}
    (hx : x ∈ f.reported got) : x.value.kind = kind := by
  obtain ⟨i, rfl⟩ := List.mem_ofFn.mp (List.mem_reverse.mp hx)
  exact Slots.kind_value kind f.slots _

/-- With room for times every slot has its time, without it none has. -/
theorem isSome_stamp_sampleAt {stamped : Bool} (f : Filled kind room (stampRoom stamped room))
    (i : Fin room) : (f.sampleAt i).stamp.isSome = stamped := by
  rw [sampleAt, Option.isSome_map]
  cases stamped with
  | true => exact Option.isSome_iff_exists.mpr ⟨_, Vector.getElem?_eq_getElem i.isLt⟩
  | false =>
    have hnone : f.stamps[i.val]? = none := Vector.getElem?_eq_none_iff.mpr (Nat.zero_le _)
    rw [hnone]
    rfl

end Filled

/-! ### Points of filled slots -/

/-- A reader takes a sample of the kind that it asks for. -/
theorem convert_of_kind {form : Form} {x : Sample} (h : x.value.kind = form.kind) :
    ∃ p, convert form x = .ok p ∧ form.toSample p = x := by
  have hread : (form.read x.value).isSome = true := by
    rw [form.isSome_read, h]
    cases form <;> rfl
  obtain ⟨v, hv⟩ := Option.isSome_iff_exists.mp hread
  refine ⟨⟨v, x.stamp⟩, ?_, ?_⟩
  · simp [convert, Form.readPoint, hv]
  · simp [Form.toSample, Form.toValue_of_read hv]

theorem mapM_convert_of_kind {form : Form} {xs : List Sample}
    (h : ∀ x ∈ xs, x.value.kind = form.kind) :
    ∃ points, xs.mapM (convert form) = .ok points ∧ points.map form.toSample = xs := by
  induction xs with
  | nil => exact ⟨[], rfl, rfl⟩
  | cons x xs ih =>
    obtain ⟨p, hp, hx⟩ := convert_of_kind (h x List.mem_cons_self)
    obtain ⟨points, hpoints, hxs⟩ := ih fun y hy => h y (List.mem_cons_of_mem _ hy)
    refine ⟨p :: points, ?_, by rw [List.map_cons, hx, hxs]⟩
    rw [List.mapM_cons, hp, hpoints]
    rfl

/-- A marker read returns all slots that count, unless it is strict and the count is negative. -/
theorem markerAnswer_reported {form : Form} {room times : Nat} (f : Filled form.kind room times)
    (got : Int) (item topic : String) (policy : LossPolicy) :
    ∃ points, points.map form.toSample = f.reported got ∧
      markerAnswer form item topic policy ⟨f.reported got, got⟩ =
        if got < 0 ∧ policy = .fail then .error (.fault (.dirtyMarker item topic))
        else .ok points := by
  obtain ⟨points, hpoints, hsamples⟩ :=
    mapM_convert_of_kind fun x (hx : x ∈ f.reported got) => f.kind_of_mem_reported hx
  refine ⟨points, hsamples, ?_⟩
  have hall : (f.reported got).take got.natAbs = f.reported got := by
    refine List.take_of_length_le ?_
    rw [f.length_reported]
    exact Nat.min_le_left _ _
  rw [markerAnswer, hall, hpoints]

/-! ### The adapter -/

namespace Adapter

/-- What the adapter makes of what the library has left behind. -/
def fetched {kind : Kind} {room times : Nat} (o : Outcome (Filled kind room times × Int)) :
    Except Status MarkerRead :=
  o.result.map fun written => ⟨written.1.reported written.2, written.2⟩

/-- A marker read is one call. -/
theorem run_sinceMarker {a : Address} {names : Stream} (hnames : stream a = pure names)
    (first room : Nat) (kind : Kind) (stamped : Bool) :
    (sinceMarker a first room kind stamped).run.run =
      .ask (Call.sinceMarker names kind room (stampRoom stamped room) (Word.toSigned first))
        fun (reply : Outcome (Filled kind room (stampRoom stamped room) × Int)) =>
          .done (.ok (fetched reply)) := by
  rw [sinceMarker, hnames]
  refine congrArg (Program.ask _)
    (funext fun (o : Outcome (Filled kind room (stampRoom stamped room) × Int)) => ?_)
  change (lift o.result >>= fun written =>
    pure ⟨(written.1.samples.take written.2.natAbs).reverse, written.2⟩ :
      Adapted MarkerRead).run.run = _
  rw [fetched]
  cases o.result with
  | error status => rfl
  | ok written =>
    change _ = Program.done (Except.ok (Except.ok
      (MarkerRead.mk (written.1.reported written.2) written.2)))
    rw [← Filled.reverse_take_samples]
    rfl

/-- A request that only reads makes no call for a marker read. -/
theorem yields_answer_of_isRead (draw : String) {r : Request} (hr : r.isRead = true) :
    (answer draw r).Yields (I := library) (fun _ _ => True)
      (fun c : Call => c.isMarkerRead = false) fun _ => True := by
  cases r with
  | connected | limit | count => exact ⟨rfl, fun _ _ => trivial⟩
  | setLimit limit => contradiction
  | query q =>
    refine (yields_perform draw q).mono (fun c hc => Bool.eq_false_iff.mpr fun hread => ?_)
      fun _ _ => trivial
    obtain ⟨a, first, room, kind, stamped, rfl⟩ := hc.isMarkerRead hread
    contradiction

end Adapter

/-! ### Operations that end with a marker read -/

section MarkerRead

variable {α β : Type} {draw : String} {Inv : Accessor → Prop}
  {R : Entry library → Except Overflow (Except Failure α × Accessor) → Prop}

/-- Whenever a run of the program makes the call for a marker read, the call and its result are
related by `R`. -/
def OnMarkerRead {γ : Type} (R : Entry library → γ → Prop) (p : Program library γ) : Prop :=
  ∀ {σ : Type} (h : Handler library σ) (s : σ), ∀ x ∈ p.log h s,
    Call.isMarkerRead x.request = true → R x (p.run h s).1

theorem OnMarkerRead.done {γ : Type} {R : Entry library → γ → Prop} (c : γ) :
    OnMarkerRead R (.done c) :=
  fun _ _ _ hx => absurd hx List.not_mem_nil

theorem OnMarkerRead.bind {γ δ : Type} {R : Entry library → δ → Prop} {Q : γ → Prop}
    {p : Program library γ} {f : γ → Program library δ}
    (hp : p.Yields (fun _ _ => True) (fun c : Call => c.isMarkerRead = false) Q)
    (hf : ∀ a, Q a → OnMarkerRead R (f a)) : OnMarkerRead R (p >>= f) := by
  intro σ h s x hx hread
  rw [log_bind] at hx
  rw [run_bind]
  rcases List.mem_append.mp hx with hx | hx
  · rw [hp.of_mem_log hx] at hread
    contradiction
  · have hresult := hp.run (h := h) (J := fun _ => True) (fun _ _ _ _ => ⟨trivial, trivial⟩)
      (s := s) trivial
    exact hf _ hresult.1 h _ x hx hread

variable (draw Inv R) in
/-- An operation behind the adapter, started by an accessor that satisfies `Inv`: whenever it makes
the call for a marker read, the call and its result are related by `R`. -/
def Fetching (op : Operation α) : Prop :=
  ∀ a, Inv a → OnMarkerRead R (Adapter.through draw (op.start a))

namespace Fetching

/-- Only reading requests are made before the marker read. -/
theorem bind {m : Operation β} {f : β → Operation α}
    (hm : Inquiry.Keeps (fun _ _ => True) (fun r => r.isRead = true) Inv m)
    (hf : ∀ b, Fetching draw Inv R (f b)) : Fetching draw Inv R (m >>= f) := by
  intro a ha
  rw [start_bind, Adapter.through, through_bind]
  refine OnMarkerRead.bind ((hm a ha).through fun r hr => Adapter.yields_answer_of_isRead draw hr)
    fun result hresult => ?_
  obtain o | ⟨x | b, a'⟩ := result
  · exact OnMarkerRead.done _
  · exact OnMarkerRead.done _
  · exact hf b a' (hresult _ rfl)

theorem pure (b : α) : Fetching draw Inv R (Pure.pure b : Operation α) :=
  fun _ _ => OnMarkerRead.done _

theorem get_bind {f : Accessor → Operation α} (hf : ∀ a, Inv a → Fetching draw Inv R (f a)) :
    Fetching draw Inv R (get >>= f) := fun a ha => hf a ha a ha

theorem ite {c : Prop} [Decidable c] {m n : Operation α} (hm : Fetching draw Inv R m)
    (hn : Fetching draw Inv R n) : Fetching draw Inv R (if c then m else n) := by
  split
  · exact hm
  · exact hn

end Fetching

end MarkerRead

/-! ### Marker reads of an accessor -/

/-- The call `x` for a marker read of a stream and the result that an accessor makes of it, if the
call succeeded. -/
def Answered (a : Address) (stamped : Bool) (form : Form) (policy : LossPolicy)
    (x : Entry library)
    (result : Except Overflow (Except Failure (List (Point form.Carrier)) × Accessor)) : Prop :=
  ∀ names kind room times first (filled : Filled kind room times) got,
    x = ⟨Call.sinceMarker names kind room times first,
      (⟨⟨0⟩, filled, got⟩ : Outcome (Filled kind room times × Int))⟩ →
    names.names.map (·.text) = [a.block, a.item, a.topic] ∧ kind = form.kind ∧
      times = stampRoom stamped room ∧
      ∃ points a', points.map form.toSample = filled.reported got ∧
        result = .ok (if got < 0 ∧ policy = .fail then .error (.fault (.dirtyMarker a.item a.topic))
          else .ok points, a')

section Accessor

variable {draw block item topic : String} {stamped : Bool} {form : Form} {policy : LossPolicy}

variable (item topic form policy) in
/-- What an accessor makes of the answer to the request of a marker read. -/
def conclude (a : Accessor) : Except Overflow (Except Status MarkerRead) →
    Except Overflow (Except Failure (List (Point form.Carrier)) × Accessor)
  | .error o => .error o
  | .ok (.error status) => .ok (.error (.fault (.ofStatus status)), a)
  | .ok (.ok found) => .ok (markerAnswer form item topic policy found, a)

theorem through_fetchBehind (slot room : Nat) (a a' : Accessor) :
    Adapter.through draw ((fetchBehind form item topic policy slot room a).start a') =
      (Adapter.sinceMarker ⟨a.name, item, topic⟩ slot room form.kind a.stamped).run.run >>=
        fun result => .done (conclude item topic form policy a' result) := by
  rw [fetchBehind, start_bind, start_query, Adapter.through, ask_bind, Program.through]
  change (Adapter.sinceMarker _ _ _ _ _).run.run >>= _ = _
  congr 1
  funext result
  obtain o | status | found := result
  · rfl
  · rfl
  · change Program.through (Adapter.answer draw)
      ((lift (markerAnswer form item topic policy found) : Operation _).start a') = _
    rw [start_lift]
    rfl

theorem fetching_fetchBehind (slot room : Nat) {a : Accessor} (hname : a.name = block)
    (hstamped : a.stamped = stamped) :
    Fetching draw (fun x => x.name = block ∧ x.stamped = stamped)
      (Answered ⟨block, item, topic⟩ stamped form policy)
      (fetchBehind form item topic policy slot room a) := by
  intro a' ha' σ h s x hx hread
  subst hname hstamped
  rw [through_fetchBehind] at hx ⊢
  obtain ⟨names, htexts, hnames⟩ | hrefused := Adapter.stream_cases ⟨a.name, item, topic⟩
  · rw [Adapter.run_sinceMarker hnames] at hx ⊢
    obtain rfl := List.mem_singleton.mp hx
    intro names' kind room' times first filled got heq
    obtain ⟨hcall, hreply⟩ := Entry.mk.inj heq
    injection hcall with hstream hkind hroom htimes hfirst
    subst hstream hkind hroom htimes hfirst
    obtain ⟨points, hpoints, hanswer⟩ := markerAnswer_reported filled got item topic policy
    refine ⟨htexts, rfl, rfl, points, a', hpoints, ?_⟩
    have hresult := congrArg
      (fun o : Outcome (Filled form.kind room (stampRoom a.stamped room) × Int) =>
        conclude item topic form policy a' (.ok (Adapter.fetched o))) (eq_of_heq hreply)
    exact hresult.trans (congrArg (fun x => Except.ok (x, a')) hanswer)
  · rw [Adapter.sinceMarker, hrefused] at hx
    contradiction

theorem fetching_readBehind (slot : Nat) {a : Accessor} (hname : a.name = block)
    (hstamped : a.stamped = stamped) :
    Fetching draw (fun x => x.name = block ∧ x.stamped = stamped)
      (Answered ⟨block, item, topic⟩ stamped form policy)
      (readBehind form item topic policy slot a) := by
  refine .bind (Keeps.query rfl) fun dirty => .bind ?_ fun _ => ?_
  · exact .ite (.fail _) (.pure _)
  refine .bind (Keeps.query rfl) fun position => .bind (Keeps.lift _) fun expected => ?_
  refine .ite (.pure _) (.bind (Keeps.lift _) fun room => ?_)
  exact fetching_fetchBehind slot room hname hstamped

theorem fetching_sinceMarker (index : Int) :
    Fetching draw (fun x => x.name = block ∧ x.stamped = stamped)
      (Answered ⟨block, item, topic⟩ stamped form policy)
      (sinceMarker form item topic index policy) := by
  have htold : Told (fun _ _ => True) (fun r => r.isRead = true)
      (fun x => x.name = block ∧ x.stamped = stamped) block :=
    ⟨fun _ hq => hq, fun _ hx => hx.1, fun _ _ _ hx _ => hx, fun _ _ hx _ => hx⟩
  rw [sinceMarker_eq]
  refine .bind (htold.filled.keeps_validate item topic) fun size =>
    .bind (Keeps.lift _) fun slot => ?_
  exact .get_bind fun a ha => fetching_readBehind slot ha.1 ha.2

/-- **Marker reads behind a foreign library.** Let a call for a marker read succeed, whatever it has
left in its slots and whatever count it reports. The adapter then gives the first slots, as many as
the count says and there are, the last one first, each value with the time in its own slot if times
are wanted and with none otherwise, and the count as it is. And whenever a marker read of an
accessor makes such a call, for the kind and the times that it wants, it returns points of all these
slots and no others; a strict one does so if the count is not negative and stops at the loss
otherwise. -/
theorem marker_read_of_slots {σ : Type} (h : Handler library σ) (s : σ) :
    (∀ (a : Address) (names : Stream), Name.ofString a.block = .ok names.block →
      Name.ofString a.item = .ok names.item → Name.ofString a.topic = .ok names.topic →
      ∀ (first room : Nat) (kind : Kind) (stamped : Bool)
        (filled : Filled kind room (stampRoom stamped room)) (got : Int),
        (h (Call.sinceMarker names kind room (stampRoom stamped room) (Word.toSigned first)) s).1 =
            (⟨⟨0⟩, filled, got⟩ : Outcome (Filled kind room (stampRoom stamped room) × Int)) →
          ((Adapter.sinceMarker a first room kind stamped).run.run.run h s).1 =
              .ok (.ok ⟨filled.reported got, got⟩) ∧
            ∀ i, (filled.sampleAt i).stamp.isSome = stamped) ∧
    ∀ draw form item topic index policy a,
      let p := Adapter.through draw ((Accessor.sinceMarker form item topic index policy).start a)
      ∀ names kind room times first (filled : Filled kind room times) got,
        ⟨Call.sinceMarker names kind room times first,
            (⟨⟨0⟩, filled, got⟩ : Outcome (Filled kind room times × Int))⟩ ∈ p.log h s →
          names.names.map (·.text) = [a.name, item, topic] ∧ kind = form.kind ∧
            times = stampRoom a.stamped room ∧
            ∃ points a', points.map form.toSample = filled.reported got ∧
              (p.run h s).1 = .ok (if got < 0 ∧ policy = .fail then
                .error (.fault (.dirtyMarker item topic)) else .ok points, a') := by
  refine ⟨fun a names hblock hitem htopic first room kind stamped filled got hreply => ?_, ?_⟩
  · refine ⟨?_, filled.isSome_stamp_sampleAt⟩
    have hnames : Adapter.stream a = pure names := by
      rw [Adapter.stream, Adapter.name, Adapter.name, Adapter.name, hblock, hitem, htopic]
      rfl
    rw [Adapter.run_sinceMarker hnames]
    exact congrArg (fun o : Outcome (Filled kind room (stampRoom stamped room) × Int) =>
      Except.ok (Adapter.fetched o)) hreply
  · intro draw form item topic index policy a p names kind room times first filled got hmem
    exact fetching_sinceMarker index a ⟨rfl, rfl⟩ h s _ hmem rfl names kind room times first filled
      got rfl

/-- Three slots are filled and the library reports a loss, with a count of two. The third slot is
not read. -/
theorem marker_read_of_slots_lost :
    let stamps : List RawStamp := [⟨⟨70, 0, 1, 0, 0, 5⟩, 3⟩, ⟨⟨70, 0, 1, 0, 0, 5⟩, 2⟩]
    let s : Scripted := { position := 1, got := -2, longs := [30, 20, 10], stamps }
    let names := Stream.mk ⟨"B", by decide, by decide⟩ ⟨"X", by decide, by decide⟩
      ⟨"LAST", by decide, by decide⟩
    let a : Accessor := { ofSettings "B" { stamped := true, margin := 1 } with
      members := ⟨NameSet.ofNames ["X"], NameSet.ofNames ["LAST"]⟩ }
    let filled := s.filled .long 0 3 3
    let p := Adapter.through "" ((Accessor.sinceMarker .long "X" "LAST" 0 .ignore).start a)
    ((Adapter.sinceMarker ⟨"B", "X", "LAST"⟩ 0 3 .long true).run.run.run Scripted.reply s).1 =
        .ok (.ok ⟨filled.reported (-2), -2⟩) ∧
      filled.reported (-2) = [⟨.long 20, some ⟨5, 2⟩⟩, ⟨.long 30, some ⟨5, 3⟩⟩] ∧
      ⟨Call.sinceMarker names .long 3 3 0,
        (⟨⟨0⟩, filled, -2⟩ : Outcome (Filled .long 3 3 × Int))⟩ ∈ p.log Scripted.reply s ∧
      ∃ points a', points.map Form.long.toSample = filled.reported (-2) ∧
        (p.run Scripted.reply s).1 = .ok (.ok points, a') := by
  intro stamps s names a filled p
  obtain ⟨hadapter, haccessor⟩ := marker_read_of_slots Scripted.reply s
  have hmem : ⟨Call.sinceMarker names .long 3 3 0,
      (⟨⟨0⟩, filled, -2⟩ : Outcome (Filled .long 3 3 × Int))⟩ ∈ p.log Scripted.reply s := by
    decide +kernel
  refine ⟨?_, ?_, hmem, ?_⟩
  · exact (hadapter ⟨"B", "X", "LAST"⟩ names rfl rfl rfl 0 3 .long true filled (-2) rfl).1
  · decide +kernel
  · obtain ⟨-, -, -, points, a', hpoints, hresult⟩ := haccessor "" .long "X" "LAST" 0 .ignore a
      names .long 3 3 0 filled (-2) hmem
    exact ⟨points, a', hpoints, hresult⟩

end Accessor

end Foreign

end TickerTape
