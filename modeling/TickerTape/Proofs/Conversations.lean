import TickerTape.Proofs.MarkerReads
import TickerTape.Proofs.MembersCoherence

/-!
# What an accessor may ask

Which request an accessor makes depends on what it was told before. A program is followed here with
its past: each request must be proper after the requests and replies that precede it. For the
operations on one stream this gives the whole conversation with the engine, whatever the engine
replies: the names are accepted by the remembered sets, of which only empty ones are read, the
slots lie within the remembered capacity, and the requests of a marker read come in their order,
each at most once.

## Main definitions

* `TickerTape.Program.Follows` — a program whose requests fit its past.
* `TickerTape.Members.learn` — the remembered names after what an engine told.
* `TickerTape.Slot.Names` — the slot that an index names, in plain arithmetic.
* `TickerTape.Accessor.Proper` — the requests of a call that are proper after a past.

## Main results

* `TickerTape.Program.Follows.of_log` — the log of a run, entry by entry.
* `TickerTape.Accessor.Call.follows_operation` — a call makes proper requests only.
* `TickerTape.Accessor.Call.asks_properly` — its conversation with any engine.
-/

namespace TickerTape

/-! ### Programs with a past -/

namespace Program

variable {I : Interface} {α β σ : Type} {P : List (Entry I) → I.Request → Prop}
  {Q : List (Entry I) → α → Prop} {R : List (Entry I) → β → Prop} {past : List (Entry I)}

/-- Whatever it is told, each request of the program fits, by `P`, all that was asked and told
before, and its result fits, by `Q`, all that was asked and told. -/
def Follows (P : List (Entry I) → I.Request → Prop) (Q : List (Entry I) → α → Prop) :
    Program I α → List (Entry I) → Prop
  | done a, past => Q past a
  | ask r next, past => P past r ∧ ∀ reply, (next reply).Follows P Q (past ++ [⟨r, reply⟩])

theorem Follows.bind {p : Program I α} {f : α → Program I β} (hp : p.Follows P Q past)
    (hf : ∀ past a, Q past a → (f a).Follows P R past) : (p >>= f).Follows P R past := by
  induction p generalizing past with
  | done a => exact hf past a hp
  | ask r next ih => exact ⟨hp.1, fun reply => ih reply (hp.2 reply)⟩

theorem Follows.mono {P' : List (Entry I) → I.Request → Prop} {Q' : List (Entry I) → α → Prop}
    {p : Program I α} (hp : p.Follows P Q past) (hP : ∀ past r, P past r → P' past r)
    (hQ : ∀ past a, Q past a → Q' past a) : p.Follows P' Q' past := by
  induction p generalizing past with
  | done a => exact hQ past a hp
  | ask r next ih => exact ⟨hP past r hp.1, fun reply => ih reply (hp.2 reply)⟩

/-- What a program yields whatever it is told, it yields after any past. -/
theorem Yields.follows {P : I.Request → Prop} {Q : α → Prop} {p : Program I α}
    (hp : p.Yields (fun _ _ => True) P Q) (past : List (Entry I)) :
    p.Follows (fun _ r => P r) (fun _ a => Q a) past := by
  induction p generalizing past with
  | done a => exact hp
  | ask r next ih => exact ⟨hp.1, fun reply => ih reply (hp.2 reply trivial) _⟩

/-- In the log of a run each request fits what precedes it, and the result fits the whole log. -/
theorem Follows.of_log {p : Program I α} (hp : p.Follows P Q past) (h : Handler I σ) (s : σ) :
    (∀ before x rest, p.log h s = before ++ x :: rest → P (past ++ before) x.request) ∧
      Q (past ++ p.log h s) (p.run h s).1 := by
  induction p generalizing past s with
  | done a =>
    refine ⟨fun before x rest hlog => ?_, ?_⟩
    · simp at hlog
    · rwa [log_done, List.append_nil]
  | ask r next ih =>
    obtain ⟨hbefore, hresult⟩ := ih _ (hp.2 _) (h r s).2
    refine ⟨fun before x rest hlog => ?_, ?_⟩
    · rw [log_ask] at hlog
      cases before with
      | nil =>
        obtain ⟨hx, -⟩ := List.cons.inj hlog
        rw [← hx]
        rw [List.append_nil]
        exact hp.1
      | cons y before =>
        obtain ⟨hy, htail⟩ := List.cons.inj hlog
        rw [← hy]
        have hx := hbefore before x rest htail
        rwa [List.append_assoc] at hx
    · rwa [List.append_assoc] at hresult

end Program

open Engine Program Inquiry

/-- A request that was answered. -/
def told (q : Query) (answer : q.Answer) : Entry wire :=
  ⟨.query q, (.ok answer : Except Status q.Answer)⟩

/-- A request that failed. -/
def refused (q : Query) (status : Status) : Entry wire :=
  ⟨.query q, (.error status : Except Status q.Answer)⟩

namespace Inquiry

variable {σ α β : Type} {P : List (Entry wire) → Request → Prop} {past : List (Entry wire)} {s : σ}

theorem follows_bind {m : Inquiry σ α} {f : α → Inquiry σ β}
    {Q : List (Entry wire) → Except Failure α × σ → Prop}
    {R : List (Entry wire) → Except Failure β × σ → Prop} (hm : (m.start s).Follows P Q past)
    (hf : ∀ past out, Q past out → (andThen f out).Follows P R past) :
    ((m >>= f).start s).Follows P R past := by
  rw [start_bind]
  exact hm.bind hf

theorem follows_query_bind {q : Query} {f : q.Answer → Inquiry σ α}
    {R : List (Entry wire) → Except Failure α × σ → Prop} (hq : P past (.query q))
    (hrefused : ∀ status, R (past ++ [refused q status]) (.error (.fault (.ofStatus status)), s))
    (htold : ∀ answer, ((f answer).start s).Follows P R (past ++ [told q answer])) :
    ((query q >>= f).start s).Follows P R past := by
  rw [start_bind, start_query]
  refine ⟨hq, fun reply => ?_⟩
  obtain status | answer := reply
  · exact hrefused status
  · exact htold answer

theorem follows_query {q : Query} {R : List (Entry wire) → Except Failure q.Answer × σ → Prop}
    (hq : P past (.query q))
    (hrefused : ∀ status, R (past ++ [refused q status]) (.error (.fault (.ofStatus status)), s))
    (htold : ∀ answer, R (past ++ [told q answer]) (.ok answer, s)) :
    ((query q).start s).Follows P R past := by
  rw [start_query]
  refine ⟨hq, fun reply => ?_⟩
  obtain status | answer := reply
  · exact hrefused status
  · exact htold answer

theorem follows_lift_bind {x : Except Failure α} {f : α → Inquiry σ β}
    {R : List (Entry wire) → Except Failure β × σ → Prop}
    (herror : ∀ failure, x = .error failure → R past (.error failure, s))
    (hok : ∀ a, x = .ok a → ((f a).start s).Follows P R past) :
    ((lift x >>= f).start s).Follows P R past := by
  rw [start_lift_bind]
  cases x with
  | error failure => exact herror failure rfl
  | ok a => exact hok a rfl

end Inquiry

/-! ### Names that were told -/

namespace Members

/-- The remembered names after one request: a set that the engine tells takes the place of the old
one. -/
def note (m : Members) : Entry wire → Members
  | ⟨.query (.members _ axis), .ok names⟩ => m.setNames axis names
  | _ => m

/-- The remembered names after some requests. -/
def learn (m : Members) (past : List (Entry wire)) : Members := past.foldl note m

variable (m : Members) (past : List (Entry wire))

@[simp] theorem learn_nil : m.learn [] = m := rfl

theorem learn_append (more : List (Entry wire)) :
    m.learn (past ++ more) = (m.learn past).learn more := List.foldl_append

theorem learn_concat (x : Entry wire) : m.learn (past ++ [x]) = (m.learn past).note x := by
  rw [learn, List.foldl_append]
  rfl

theorem learn_told_members (block : String) (axis : Axis) (names : NameSet) :
    m.learn (past ++ [told (.members block axis) names]) = (m.learn past).setNames axis names :=
  learn_concat ..

theorem learn_refused (q : Query) (status : Status) :
    m.learn (past ++ [refused q status]) = m.learn past := by
  rw [learn_concat]
  cases q <;> rfl

/-- A set of which the engine tells nothing stays. -/
theorem names_learn_of_other {block : String} {axis : Axis}
    (h : ∀ x ∈ past, x.request = .query (.members block axis)) :
    (m.learn past).names axis.other = m.names axis.other := by
  induction past generalizing m with
  | nil => rfl
  | cons x past ih =>
    obtain ⟨hx, hpast⟩ := List.forall_mem_cons.mp h
    obtain ⟨r, reply⟩ := x
    obtain rfl : r = .query (.members block axis) := hx
    obtain status | names := reply
    · exact ih _ hpast
    · exact (ih _ hpast).trans (names_other_setNames m axis names)

end Members

/-! ### Slots in plain arithmetic -/

/-- An unsigned word that is positive when it is read as a signed word is the same number. -/
theorem Word.toSigned_of_pos {n : Nat} (hn : IsUnsigned n) (h : 0 < toSigned n) :
    toSigned n = n := by
  refine toSigned_of_lt ?_
  unfold toSigned at h
  unfold IsUnsigned at hn
  rw [Int.bmod_def] at h
  omega

/-- The slot that an index names: a negative index counts from the oldest slot. -/
def Slot.Names (index : Int) (capacity slot : Nat) : Prop :=
  (slot : Int) = (if index < 0 then index + capacity else index) ∧ slot < capacity

theorem Slot.names_of_ofIndex {index : Int} {capacity slot : Nat}
    (hcapacity : Word.IsUnsigned capacity) (h : ofIndex index capacity = .ok slot) :
    Names index capacity slot := by
  obtain ⟨hslot, hlt⟩ := of_ofIndex_eq_ok h
  have hsigned : Word.toSigned capacity = capacity :=
    Word.toSigned_of_pos hcapacity (Int.lt_of_le_of_lt (Int.natCast_nonneg slot) hlt)
  rw [hsigned] at hslot hlt
  exact ⟨hslot, Int.ofNat_lt.mp hlt⟩

theorem Slot.lt_of_ofIndex {index : Int} {capacity slot : Nat}
    (h : ofIndex index capacity = .ok slot) : slot < 0x8000000000000000 := by
  have hlt := (of_ofIndex_eq_ok h).2
  have hword := (Word.isSigned_toSigned capacity).2
  omega

theorem Slot.Range.names_of_ofIndices {first last : Int} {capacity : Nat} {r : Range}
    (hcapacity : Word.IsUnsigned capacity) (h : ofIndices first last capacity = .ok r) :
    Names first capacity r.first ∧ Names last capacity r.last ∧ r.first ≤ r.last ∧
      r.last < 0x8000000000000000 := by
  obtain ⟨start, hstart, h⟩ := bind_eq_ok_iff.mp h
  obtain ⟨stop, hstop, h⟩ := bind_eq_ok_iff.mp h
  split at h
  · contradiction
  next hle =>
    cases h
    exact ⟨names_of_ofIndex hcapacity hstart, names_of_ofIndex hcapacity hstop,
      Nat.not_lt.mp hle, lt_of_ofIndex hstop⟩

namespace Accessor

/-! ### Proper requests -/

/-- A request for names of which the accessor remembers none. -/
def IsFill (a : Accessor) (x : Entry wire) : Prop :=
  ∃ axis, (a.members.names axis).isEmpty = true ∧ x.request = .query (.members a.name axis)

/-- The accessor has asked for nothing but names, and by what it remembers since then it accepts
both names of a pair. -/
structure Accepts (a : Accessor) (p : Pair) (past : List (Entry wire)) : Prop where
  isFill : ∀ x ∈ past, a.IsFill x
  contains : ∀ axis, ((a.members.learn past).names axis).contains (p.get axis) = true

variable {a : Accessor}

/-- The requests that a call may make after a past. -/
inductive Proper (a : Accessor) : Call → List (Entry wire) → Request → Prop
  /-- Names of a kind of which there are none, asked for once. -/
  | fill {c past axis} (hempty : (a.members.names axis).isEmpty = true)
      (hpast : ∀ x ∈ past, x.request = .query (.members a.name axis.other)) :
      Proper a c past (.query (.members a.name axis))
  | occupancy {item topic past} (hnames : a.Accepts ⟨item, topic⟩ past) :
      Proper a (.occupancy item topic) past (.query (.occupancy (a.address item topic)))
  | isDirty {item topic past} (hnames : a.Accepts ⟨item, topic⟩ past) :
      Proper a (.isDirty item topic) past (.query (.markerDirty (a.address item topic)))
  | position {item topic past} (hnames : a.Accepts ⟨item, topic⟩ past) :
      Proper a (.position item topic) past (.query (.markerPosition (a.address item topic)))
  | value {form item topic index slot past} (hnames : a.Accepts ⟨item, topic⟩ past)
      (hslot : Slot.Names index a.size slot) :
      Proper a (.value form item topic index) past
        (.query (.value (a.address item topic) slot form.kind a.stamped))
  | latest {form item topic slot past} (hnames : a.Accepts ⟨item, topic⟩ past)
      (hslot : Slot.Names 0 a.size slot) :
      Proper a (.latest form item topic) past
        (.query (.value (a.address item topic) slot form.kind a.stamped))
  | range {form item topic first last i j past} (hnames : a.Accepts ⟨item, topic⟩ past)
      (hfirst : Slot.Names first a.size i) (hlast : Slot.Names last a.size j) (hle : i ≤ j) :
      Proper a (.range form item topic first last false) past
        (.query (.range (a.address item topic) i j form.kind a.stamped))
  /-- A smart read first asks how many values there are. -/
  | smart {form item topic first last i j past} (hnames : a.Accepts ⟨item, topic⟩ past)
      (hfirst : Slot.Names first a.size i) (hlast : Slot.Names last a.size j) (hle : i ≤ j) :
      Proper a (.range form item topic first last true) past
        (.query (.occupancy (a.address item topic)))
  /-- Then it asks for slots of its range below that number. -/
  | smartRange {form item topic first last i j k past} {n : Nat}
      (hnames : a.Accepts ⟨item, topic⟩ past)
      (hfirst : Slot.Names first a.size i) (hlast : Slot.Names last a.size j) (hle : i ≤ k)
      (hwithin : k ≤ j) (hoccupied : k < n) :
      Proper a (.range form item topic first last true)
        (past ++ [told (.occupancy (a.address item topic)) n])
        (.query (.range (a.address item topic) i k form.kind a.stamped))
  /-- A marker read first asks whether values were lost. -/
  | markerDirty {form item topic index policy slot past} (hnames : a.Accepts ⟨item, topic⟩ past)
      (hslot : Slot.Names index a.size slot) :
      Proper a (.sinceMarker form item topic index policy) past
        (.query (.markerDirty (a.address item topic)))
  /-- Then, unless it is strict and some were, where the marker stands. -/
  | markerPosition {form item topic index policy slot past} {dirty : Bool}
      (hnames : a.Accepts ⟨item, topic⟩ past) (hslot : Slot.Names index a.size slot)
      (hstrict : policy = .fail → dirty = false) :
      Proper a (.sinceMarker form item topic index policy)
        (past ++ [told (.markerDirty (a.address item topic)) dirty])
        (.query (.markerPosition (a.address item topic)))
  /-- Then for as many values as stand behind the marker, and a margin. -/
  | markerFetch {form item topic index policy slot past} {dirty : Bool} {position : Int}
      {room : Nat} (hnames : a.Accepts ⟨item, topic⟩ past)
      (hslot : Slot.Names index a.size slot) (hstrict : policy = .fail → dirty = false)
      (hpending : 0 ≤ position - slot + 1) (hroom : (room : Int) = position - slot + 1 + a.margin) :
      Proper a (.sinceMarker form item topic index policy)
        (past ++ [told (.markerDirty (a.address item topic)) dirty] ++
          [told (.markerPosition (a.address item topic)) position])
        (.query (.sinceMarker (a.address item topic) slot room form.kind a.stamped))

/-- The stream that a call is about, if it is about one. -/
def Call.stream? : Call → Option Pair
  | .occupancy item topic | .isDirty item topic | .position item topic
  | .value _ item topic _ | .latest _ item topic | .range _ item topic _ _ _
  | .sinceMarker _ item topic _ _ => some ⟨item, topic⟩
  | _ => none

/-- The indices of a call name slots, and those of a range in this order. -/
def Call.InRange (capacity : Nat) : Call → Prop
  | .value _ _ _ index | .sinceMarker _ _ _ index _ => ∃ slot, Slot.Names index capacity slot
  | .latest .. => 0 < capacity
  | .range _ _ _ first last _ =>
    ∃ i j, Slot.Names first capacity i ∧ Slot.Names last capacity j ∧ i ≤ j
  | _ => True

/-! ### Accepting names -/

/-- The accessor with the names that it was told. -/
def filled (a : Accessor) (past : List (Entry wire)) : Accessor :=
  { a with members := a.members.learn past }

@[simp] theorem address_filled (a : Accessor) (past : List (Entry wire)) :
    (a.filled past).address = a.address := rfl

variable {c : Call} {past : List (Entry wire)}

/-- After a past of requests for names, only names of one kind are asked for. -/
def Fills (a : Accessor) (axis : Axis) (past past' : List (Entry wire)) : Prop :=
  ∃ more, past' = past ++ more ∧
    ∀ x ∈ more, a.IsFill x ∧ x.request = .query (.members a.name axis)

/-- What accepting a name comes to: it is remembered in the end, or it is refused. -/
structure NameChecked (a : Accessor) (axis : Axis) (name : String) (past past' : List (Entry wire))
    (out : Except Failure Unit × Members) : Prop where
  members_eq : out.2 = a.members.learn past'
  fills : a.Fills axis past past'
  verdict : out.1 = .ok () ∧ ((a.members.learn past').names axis).contains name = true ∨
    (∃ f, out.1 = .error (.fault f)) ∧
      ((a.members.learn past').names axis).contains name = false

/-- A name is accepted after at most one request for the names of its kind. -/
theorem follows_validateName (axis : Axis) (name : String) (past : List (Entry wire))
    (hpast : ∀ x ∈ past, x.request = .query (.members a.name axis.other)) :
    ((Members.validate a.name axis name).start (a.members.learn past)).Follows (Proper a c)
      (a.NameChecked axis name past) past := by
  have hold : (a.members.learn past).names axis = a.members.names axis := by
    have hother := a.members.names_learn_of_other past hpast
    rwa [Axis.other_other] at hother
  have hcheck (past' : List (Entry wire)) (hfills : a.Fills axis past past') :
      ((do if ((← get).names axis).contains name then pure ()
           else Inquiry.fail (Members.unknown axis name) : Inquiry Members Unit).start
        (a.members.learn past')).Follows (Proper a c) (a.NameChecked axis name past) past' := by
    rw [start_get_bind]
    split
    next hname => exact ⟨rfl, hfills, .inl ⟨rfl, hname⟩⟩
    next hname => exact ⟨rfl, hfills, .inr ⟨⟨_, rfl⟩, Bool.eq_false_iff.mpr hname⟩⟩
  rw [Members.validate, start_get_bind]
  split
  next hempty =>
    -- No name is remembered: the set is asked for once and then consulted.
    have hnone : ((a.members.learn past).names axis).contains name = false := by
      rw [Table.isEmpty_iff.mp hempty]
      rfl
    rw [hold] at hempty
    have hfill (reply : Except Status NameSet) :
        a.Fills axis past (past ++ [⟨.query (.members a.name axis), reply⟩]) := by
      refine ⟨_, rfl, fun x hx => ?_⟩
      rw [List.mem_singleton.mp hx]
      exact ⟨⟨axis, hempty, rfl⟩, rfl⟩
    refine follows_bind (Q := fun past' out => (out.2 = a.members.learn past' ∧
      a.Fills axis past past') ∧ ∀ failure, out.1 = .error failure →
        (∃ f, failure = .fault f) ∧ ((a.members.learn past').names axis).contains name = false) ?_
      fun past' out hout => ?_
    · rw [Members.refresh]
      refine follows_query_bind (.fill hempty hpast) (fun status => ?_) fun names => ?_
      · have hkept := a.members.learn_refused past (.members a.name axis) status
        refine ⟨⟨hkept.symm, hfill (.error status)⟩, fun failure hfailure => ⟨?_, hkept ▸ hnone⟩⟩
        exact ⟨_, (Except.error.inj hfailure).symm⟩
      · exact ⟨⟨(Members.learn_told_members ..).symm, hfill (.ok names)⟩, fun _ h => by cases h⟩
    · obtain ⟨⟨hmembers, hfills⟩, herror⟩ := hout
      obtain ⟨failure | ⟨⟩, m⟩ := out
      · obtain ⟨⟨f, rfl⟩, hname⟩ := herror failure rfl
        exact ⟨hmembers, hfills, .inr ⟨⟨f, rfl⟩, hname⟩⟩
      · obtain rfl := hmembers
        exact hcheck past' hfills
  next => exact hcheck past ⟨[], (List.append_nil past).symm, List.forall_mem_nil _⟩

/-- The first of the two names, or the second, on an accessor that was told names. -/
theorem follows_onMembers_validate (axis : Axis) (name : String) (past : List (Entry wire))
    (hpast : ∀ x ∈ past, x.request = .query (.members a.name axis.other)) :
    ((onMembers (Members.validate a.name axis name)).start (a.filled past)).Follows (Proper a c)
      (fun past' out => out.2 = a.filled past' ∧
        a.NameChecked axis name past past' (out.1, out.2.members)) past := by
  rw [onMembers, start_focus]
  refine (follows_validateName axis name past hpast).bind fun past' out hout => ⟨?_, hout⟩
  rw [hout.members_eq]
  rfl

/-- What accepting the names of a pair comes to: both are remembered in the end, or one is
refused. -/
structure Validated (a : Accessor) (p : Pair) (past : List (Entry wire))
    (out : Except Failure Nat × Accessor) : Prop where
  accessor_eq : out.2 = a.filled past
  isFill : ∀ x ∈ past, a.IsFill x
  verdict : out.1 = .ok a.size ∧ a.Accepts p past ∨
    (∃ f, out.1 = .error (.fault f)) ∧
      ∃ axis, ((a.members.learn past).names axis).contains (p.get axis) = false

/-- The names of a pair are accepted after at most one request for the names of each kind. -/
theorem follows_validate (hopen : a.closed = false) (p : Pair) :
    ((validate p.item p.topic).start a).Follows (Proper a c) (a.Validated p) [] := by
  rw [validate, start_ensureOpen_bind, hopen, if_neg Bool.false_ne_true, start_get_bind]
  refine follows_bind (follows_onMembers_validate .item p.item [] (List.forall_mem_nil _))
    fun fills out hout => ?_
  obtain ⟨haccessor, -, ⟨_, rfl, hfills⟩, hitem⟩ := hout
  obtain ⟨result, a'⟩ := out
  obtain rfl : a' = a.filled fills := haccessor
  rcases hitem with ⟨rfl, hitem⟩ | ⟨⟨f, rfl⟩, hitem⟩
  · rw [andThen_ok]
    refine follows_bind
      (follows_onMembers_validate .topic p.topic fills fun x hx => (hfills x hx).2)
      fun past out hout => ?_
    obtain ⟨haccessor, -, ⟨more, rfl, hmore⟩, htopic⟩ := hout
    have hall : ∀ x ∈ fills ++ more, a.IsFill x := fun x hx =>
      (List.mem_append.mp hx).elim (fun hx => (hfills x hx).1) fun hx => (hmore x hx).1
    obtain ⟨result, a'⟩ := out
    obtain rfl : a' = a.filled (fills ++ more) := haccessor
    rcases htopic with ⟨rfl, htopic⟩ | ⟨⟨f, rfl⟩, htopic⟩
    · rw [andThen_ok, start_get_bind]
      refine ⟨rfl, hall, .inl ⟨rfl, hall, fun axis => ?_⟩⟩
      cases axis with
      | topic => exact htopic
      | item =>
        -- The item was accepted before the topics were asked for, which left the items alone.
        have hkept := (a.members.learn fills).names_learn_of_other more fun x hx => (hmore x hx).2
        rw [Members.learn_append]
        exact (congrArg (Table.contains · p.item) hkept).trans hitem
    · exact ⟨rfl, hall, .inr ⟨⟨f, rfl⟩, .topic, htopic⟩⟩
  · exact ⟨rfl, fun x hx => (hfills x hx).1, .inr ⟨⟨f, rfl⟩, .item, hitem⟩⟩

/-- A call that has accepted its names goes on from the accessor that remembers them. -/
theorem follows_validated {α : Type} {f : Nat → Operation α} {p : Pair}
    {P : List (Entry wire) → Request → Prop}
    {Q : List (Entry wire) → Except Failure α × Accessor → Prop} (hopen : a.closed = false)
    (hP : ∀ past r, Proper a c past r → P past r)
    (hrefused : ∀ past fault, (∀ x ∈ past, a.IsFill x) →
      (∃ axis, ((a.members.learn past).names axis).contains (p.get axis) = false) →
        Q past (.error (.fault fault), a.filled past))
    (hf : ∀ past, a.Accepts p past → ((f a.size).start (a.filled past)).Follows P Q past) :
    ((validate p.item p.topic >>= f).start a).Follows P Q [] := by
  refine follows_bind ((follows_validate hopen p).mono hP fun _ _ h => h) fun past out hout => ?_
  obtain ⟨haccessor, hfills, hverdict⟩ := hout
  obtain ⟨result, a'⟩ := out
  obtain rfl : a' = a.filled past := haccessor
  rcases hverdict with ⟨rfl, haccepts⟩ | ⟨⟨fault, rfl⟩, hnames⟩
  · exact hf past haccepts
  · exact hrefused past fault hfills hnames

/-! ### Calls on a stream -/

/-- How a call on a stream ends. It has written down the names that it was told and nothing else,
and if it has asked for more then it has accepted its names and indices. -/
structure Ending (a : Accessor) (c : Call) (p : Pair) (past : List (Entry wire)) (a' : Accessor) :
    Prop where
  accessor_eq : a' = a.filled past
  fills_or : (∀ x ∈ past, a.IsFill x) ∨
    (∀ axis, ((a.members.learn past).names axis).contains (p.get axis) = true) ∧ c.InRange a.size

variable {p : Pair}

theorem Ending.of_fills (h : ∀ x ∈ past, a.IsFill x) : a.Ending c p past (a.filled past) :=
  ⟨rfl, .inl h⟩

/-- Requests for anything but names leave what the accessor remembers. -/
theorem Ending.of_accepts {fills : List (Entry wire)} (h : a.Accepts p fills)
    (hlearn : a.members.learn past = a.members.learn fills) (hrange : c.InRange a.size) :
    a.Ending c p past (a.filled fills) := by
  refine ⟨by rw [filled, filled, hlearn], .inr ⟨fun axis => ?_, hrange⟩⟩
  rw [hlearn]
  exact h.contains axis

variable {item topic : String} {form : Form}

theorem follows_value (hopen : a.closed = false) (hsize : Word.IsUnsigned a.size) {index : Int}
    (hproper : ∀ past slot, a.Accepts ⟨item, topic⟩ past → Slot.Names index a.size slot →
      Proper a c past (.query (.value (a.address item topic) slot form.kind a.stamped)))
    (hrange : ∀ slot, Slot.Names index a.size slot → c.InRange a.size) :
    ((value form item topic index).start a).Follows (Proper a c)
      (fun past out => a.Ending c ⟨item, topic⟩ past out.2) [] := by
  refine follows_validated (p := ⟨item, topic⟩) hopen (fun _ _ h => h)
    (fun past fault h _ => Ending.of_fills h) fun past hnames => ?_
  refine follows_lift_bind (fun failure _ => Ending.of_fills hnames.isFill) fun slot hslot => ?_
  have hslot := Slot.names_of_ofIndex hsize hslot
  rw [start_get_bind]
  refine follows_query_bind (hproper past slot hnames hslot) (fun status => ?_) fun sample => ?_
  · exact .of_accepts hnames (Members.learn_refused ..) (hrange slot hslot)
  · rw [start_lift]
    exact .of_accepts hnames (Members.learn_concat ..) (hrange slot hslot)

theorem follows_range (hopen : a.closed = false) (hsize : Word.IsUnsigned a.size)
    (first last : Int) (smart : Bool) :
    ((range form item topic first last smart).start a).Follows
      (Proper a (.range form item topic first last smart))
      (fun past out => a.Ending (.range form item topic first last smart) ⟨item, topic⟩ past out.2)
      [] := by
  refine follows_validated (p := ⟨item, topic⟩) hopen (fun _ _ h => h)
    (fun past fault h _ => Ending.of_fills h) fun past hnames => ?_
  refine follows_lift_bind (fun failure _ => Ending.of_fills hnames.isFill) fun r hr => ?_
  obtain ⟨hfirst, hlast, hle, hword⟩ := Slot.Range.names_of_ofIndices hsize hr
  have hrange : (Call.range form item topic first last smart).InRange a.size :=
    ⟨r.first, r.last, hfirst, hlast, hle⟩
  rw [start_get_bind]
  cases smart with
  | false =>
    refine follows_query_bind (.range hnames hfirst hlast hle) (fun status => ?_) fun samples => ?_
    · exact .of_accepts hnames (Members.learn_refused ..) hrange
    · rw [start_lift]
      exact .of_accepts hnames (Members.learn_concat ..) hrange
  | true =>
    refine follows_query_bind (.smart hnames hfirst hlast hle) (fun status => ?_)
      fun (n : Nat) => ?_
    · exact .of_accepts hnames (Members.learn_refused ..) hrange
    have hoccupied := Slot.Range.occupied_eq (n := n) hle hword
    refine follows_lift_bind (fun failure hfailure => ?_) fun asked hasked => ?_
    · rw [hoccupied] at hfailure
      contradiction
    have hasked := Word.of_checked_eq_ok hasked
    rw [hoccupied] at hasked
    obtain rfl := Except.ok.inj hasked
    by_cases hn : n ≤ r.first
    · rw [if_pos hn]
      exact .of_accepts hnames (Members.learn_concat ..) hrange
    · have hcut : r.first ≤ min r.last (n - 1) ∧ min r.last (n - 1) < n := by omega
      rw [if_neg hn]
      refine follows_query_bind
        (.smartRange hnames hfirst hlast hcut.1 (Nat.min_le_left ..) hcut.2)
        (fun status => ?_) fun samples => ?_
      · refine .of_accepts hnames ?_ hrange
        rw [Members.learn_refused]
        exact Members.learn_concat ..
      · rw [start_lift]
        refine .of_accepts hnames ?_ hrange
        rw [Members.learn_concat]
        exact Members.learn_concat ..

/-! ### Marker reads -/

/-- A strict read was told that no values were lost, before a fetch and by it. -/
def Strict (a : Accessor) (item topic : String) (policy : LossPolicy) (past : List (Entry wire)) :
    Prop :=
  policy = .fail → told (.markerDirty (a.address item topic)) false ∈ past ∧
    ∀ slot room kind stamped found,
      told (.sinceMarker (a.address item topic) slot room kind stamped) found ∈ past → 0 ≤ found.got

variable {index : Int} {policy : LossPolicy} {slot : Nat} {dirty : Bool}

/-- An accessor that has asked for nothing but names has not fetched. -/
theorem Accepts.strict (h : a.Accepts p past) {more : List (Entry wire)}
    (hclean : policy = .fail → dirty = false)
    (hgot : policy = .fail → ∀ slot room kind stamped found,
      told (.sinceMarker (a.address item topic) slot room kind stamped) found ∈ more →
        0 ≤ found.got) :
    a.Strict item topic policy
      (past ++ [told (.markerDirty (a.address item topic)) dirty] ++ more) := by
  intro hpolicy
  refine ⟨by simp [hclean hpolicy], fun slot room kind stamped found hmem => ?_⟩
  rcases List.mem_append.mp hmem with hmem | hmem
  · rcases List.mem_append.mp hmem with hmem | hmem
    · obtain ⟨axis, -, hrequest⟩ := h.isFill _ hmem
      cases hrequest
    · cases List.mem_singleton.mp hmem
  · exact hgot hpolicy slot room kind stamped found hmem

/-- How a marker read ends. -/
def MarkerEnding (a : Accessor) (form : Form) (item topic : String) (index : Int)
    (policy : LossPolicy) (past : List (Entry wire))
    (out : Except Failure (List (Point form.Carrier)) × Accessor) : Prop :=
  a.Ending (.sinceMarker form item topic index policy) ⟨item, topic⟩ past out.2 ∧
    ∀ points, out.1 = .ok points → a.Strict item topic policy past

theorem follows_fetchBehind (hnames : a.Accepts ⟨item, topic⟩ past)
    (hslot : Slot.Names index a.size slot) (hclean : policy = .fail → dirty = false)
    {position : Int} (hpending : 0 ≤ position - slot + 1) {room : Nat}
    (hroom : (room : Int) = position - slot + 1 + a.margin) :
    ((fetchBehind form item topic policy slot room (a.filled past)).start (a.filled past)).Follows
      (Proper a (.sinceMarker form item topic index policy))
      (a.MarkerEnding form item topic index policy)
      (past ++ [told (.markerDirty (a.address item topic)) dirty] ++
        [told (.markerPosition (a.address item topic)) position]) := by
  have hrange : (Call.sinceMarker form item topic index policy).InRange a.size := ⟨slot, hslot⟩
  have hlearn : a.members.learn (past ++ [told (.markerDirty (a.address item topic)) dirty] ++
      [told (.markerPosition (a.address item topic)) position]) = a.members.learn past :=
    (Members.learn_concat ..).trans (Members.learn_concat ..)
  rw [fetchBehind]
  refine follows_query_bind (.markerFetch hnames hslot hclean hpending hroom) (fun status => ?_)
    fun (found : MarkerRead) => ?_
  · exact ⟨.of_accepts hnames ((Members.learn_refused ..).trans hlearn) hrange, nofun⟩
  · rw [start_lift]
    refine ⟨.of_accepts hnames ((Members.learn_concat ..).trans hlearn) hrange,
      fun points hpoints => ?_⟩
    rw [List.append_assoc]
    refine hnames.strict hclean fun hpolicy slot room kind stamped found' hmem => ?_
    rcases List.mem_append.mp hmem with hmem | hmem
    · cases List.mem_singleton.mp hmem
    · cases List.mem_singleton.mp hmem
      dsimp only at hpoints
      rw [markerAnswer] at hpoints
      split at hpoints
      next => cases hpoints
      next hgot => exact Int.not_lt.mp fun hneg => hgot ⟨hneg, hpolicy⟩

theorem follows_readBehind (hnames : a.Accepts ⟨item, topic⟩ past)
    (hslot : Slot.Names index a.size slot) (hword : slot < 0x8000000000000000) :
    ((readBehind form item topic policy slot (a.filled past)).start (a.filled past)).Follows
      (Proper a (.sinceMarker form item topic index policy))
      (a.MarkerEnding form item topic index policy) past := by
  have hrange : (Call.sinceMarker form item topic index policy).InRange a.size := ⟨slot, hslot⟩
  rw [readBehind, address_filled]
  refine follows_query_bind (.markerDirty hnames hslot) (fun status => ?_) fun (dirty : Bool) => ?_
  · exact ⟨.of_accepts hnames (Members.learn_refused ..) hrange, nofun⟩
  have hdirty : a.members.learn (past ++ [told (.markerDirty (a.address item topic)) dirty]) =
      a.members.learn past := Members.learn_concat ..
  rw [start_refuseLoss_bind]
  split
  next => exact ⟨.of_accepts hnames hdirty hrange, nofun⟩
  next hlost =>
    have hclean : policy = .fail → dirty = false := fun hpolicy =>
      Bool.eq_false_iff.mpr fun hdirty => hlost ⟨hdirty, hpolicy⟩
    refine follows_query_bind (.markerPosition hnames hslot hclean) (fun status => ?_)
      fun (position : Int) => ?_
    · exact ⟨.of_accepts hnames ((Members.learn_refused ..).trans hdirty) hrange, nofun⟩
    have hposition : a.members.learn (past ++ [told (.markerDirty (a.address item topic)) dirty] ++
        [told (.markerPosition (a.address item topic)) position]) = a.members.learn past :=
      (Members.learn_concat ..).trans hdirty
    refine follows_lift_bind (fun failure _ => ⟨.of_accepts hnames hposition hrange, nofun⟩)
      fun expected hexpected => ?_
    replace hexpected := eq_of_pending hword (Word.of_checked_eq_ok hexpected)
    split
    next =>
      refine ⟨.of_accepts hnames hposition hrange, fun points _ => hnames.strict hclean ?_⟩
      intro _ slot room kind stamped found hmem
      cases List.mem_singleton.mp hmem
    next hpending =>
      refine follows_lift_bind (fun failure _ => ⟨.of_accepts hnames hposition hrange, nofun⟩)
        fun room hroom => ?_
      replace hroom : room = expected.toNat + a.margin :=
        Word.eq_of_addUnsigned (Word.of_checked_eq_ok hroom)
      exact follows_fetchBehind hnames hslot hclean (by omega) (by omega)

theorem follows_sinceMarker (hopen : a.closed = false) (hsize : Word.IsUnsigned a.size)
    (index : Int) (policy : LossPolicy) :
    ((sinceMarker form item topic index policy).start a).Follows
      (Proper a (.sinceMarker form item topic index policy))
      (a.MarkerEnding form item topic index policy) [] := by
  rw [sinceMarker_eq]
  refine follows_validated (p := ⟨item, topic⟩) hopen (fun _ _ h => h)
    (fun past fault h _ => ⟨.of_fills h, nofun⟩) fun past hnames => ?_
  refine follows_lift_bind (fun failure _ => ⟨.of_fills hnames.isFill, nofun⟩) fun slot hslot => ?_
  rw [start_get_bind]
  exact follows_readBehind hnames (Slot.names_of_ofIndex hsize hslot) (Slot.lt_of_ofIndex hslot)

/-! ### Conversations -/

/-- A call on a stream makes proper requests only, whatever it is told. -/
theorem Call.follows_operation (hopen : a.closed = false) (hsize : Word.IsUnsigned a.size)
    {c : Call} (hc : c.stream? = some p) :
    (c.operation.start a).Follows (Proper a c) (fun past out => a.Ending c p past out.2 ∧
      ∀ form item topic index policy, c = .sinceMarker form item topic index policy →
        (∃ answer, out.1 = .ok answer) → a.Strict item topic policy past) [] := by
  cases c with
  | occupancy item topic | isDirty item topic | position item topic =>
    cases hc
    refine follows_validated (p := ⟨item, topic⟩) hopen (fun _ _ h => h)
      (fun past fault h _ => ⟨.of_fills h, nofun⟩) fun past hnames => ?_
    rw [start_get_bind]
    refine follows_query (by constructor; exact hnames) (fun status => ?_) fun answer => ?_
    · exact ⟨.of_accepts hnames (Members.learn_refused ..) trivial, nofun⟩
    · exact ⟨.of_accepts hnames (Members.learn_concat ..) trivial, nofun⟩
  | value form item topic index =>
    cases hc
    exact (follows_value hopen hsize (fun _ _ => .value) fun slot hslot => ⟨slot, hslot⟩).mono
      (fun _ _ h => h) fun past out hout => ⟨hout, nofun⟩
  | latest form item topic =>
    cases hc
    exact (follows_value hopen hsize (fun _ _ => .latest) fun slot hslot =>
      Nat.lt_of_le_of_lt (Nat.zero_le slot) hslot.2).mono (fun _ _ h => h)
        fun past out hout => ⟨hout, nofun⟩
  | range form item topic first last smart =>
    cases hc
    exact (follows_range hopen hsize first last smart).mono (fun _ _ h => h)
      fun past out hout => ⟨hout, nofun⟩
  | sinceMarker form item topic index policy =>
    cases hc
    refine (follows_sinceMarker hopen hsize index policy).mono (fun _ _ h => h)
      fun past out hout => ⟨hout.1, ?_⟩
    rintro _ _ _ _ _ heq ⟨points, hpoints⟩
    cases heq
    exact hout.2 points hpoints
  | _ => cases hc

/-- **What an accessor asks of an engine.** Take a call on one stream, made through an open accessor
against any engine. Each of its requests is proper after the requests and replies before it. The
call changes nothing of the accessor but the names that it was told. If afterwards one of the names
is not remembered, or an index names no slot, or the end of a range is more recent than its start,
then only names were asked for, of kinds of which none were remembered. A strict marker read gives
values only if it was told that none were lost, before the fetch and by it. -/
theorem Call.asks_properly {σ : Type} (h : Handler wire σ) (s : σ) {a : Accessor}
    (hopen : a.closed = false) (hsize : Word.IsUnsigned a.size) {c : Call} {p : Pair}
    (hc : c.stream? = some p) :
    let log := (c.operation.start a).log h s
    let out := ((c.operation.start a).run h s).1
    (∀ past x rest, log = past ++ x :: rest → a.Proper c past x.request) ∧
      out.2 = { a with members := a.members.learn log } ∧
      ((∃ axis, (out.2.members.names axis).contains (p.get axis) = false) ∨ ¬ c.InRange a.size →
        ∀ x ∈ log, a.IsFill x) ∧
      ∀ form item topic index policy, c = .sinceMarker form item topic index policy →
        (∃ answer, out.1 = .ok answer) → a.Strict item topic policy log := by
  intro log out
  -- The log of the run is one of the conversations that the call follows.
  obtain ⟨hproper, ⟨haccessor, hfills⟩, hstrict⟩ :=
    (Call.follows_operation hopen hsize hc).of_log h s
  refine ⟨hproper, haccessor, fun hrefused => ?_, hstrict⟩
  rcases hfills with hfills | ⟨hnames, hrange⟩
  · exact hfills
  · rcases hrefused with ⟨axis, haxis⟩ | hindex
    · have hname := hnames axis
      rw [haccessor] at haxis
      exact absurd (haxis.symm.trans hname) Bool.false_ne_true
    · exact absurd hrange hindex

theorem Call.asks_properly_oneStream :
    let a := ofSettings "B" { size := 2, stamped := true }
    let c : Call := .sinceMarker .long "X" "VOLUME" (-2) .fail
    let log := (c.operation.start a).log (Exchange.handler "") Exchange.oneStream
    (a.closed = false ∧ Word.IsUnsigned a.size ∧ c.stream? = some ⟨"X", "VOLUME"⟩) ∧
      log.map (·.request) = [.query (.members "B" .item), .query (.members "B" .topic),
        .query (.markerDirty ⟨"B", "X", "VOLUME"⟩), .query (.markerPosition ⟨"B", "X", "VOLUME"⟩),
        .query (.sinceMarker ⟨"B", "X", "VOLUME"⟩ 0 100 .long true)] ∧
      ∀ past x rest, log = past ++ x :: rest → a.Proper c past x.request := by
  intro a c log
  have hinput : a.closed = false ∧ Word.IsUnsigned a.size ∧ c.stream? = some ⟨"X", "VOLUME"⟩ := by
    decide
  exact ⟨hinput, by decide +kernel,
    (Call.asks_properly (Exchange.handler "") Exchange.oneStream hinput.1 hinput.2.1 hinput.2.2).1⟩

end Accessor

end TickerTape
