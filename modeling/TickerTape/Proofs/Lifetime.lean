import TickerTape.Engine.Scripted
import TickerTape.Proofs.MembersCoherence

/-!
# The end of a block

An accessor closes its block at most once. While the engine refuses, the accessor stays open and
asks again at the next attempt; from the first attempt that the engine accepts, or answers by
knowing no such block, the accessor refuses all operations and asks nothing more, not even when it
is given up. All this holds whatever the engine answers.

## Main definitions

* `TickerTape.Program.Entry.endsBlock` — the end of a block that the engine has granted.
* `TickerTape.Accessor.Call.refusal` — what a call on a closed accessor returns.
* `TickerTape.Accessor.Lifetime` — an accessor, an engine, and all that the one asked the other.

## Main results

* `TickerTape.Accessor.Call.start_of_closed` — a closed accessor asks nothing.
* `TickerTape.Accessor.start_close_of_open` — one attempt to close.
* `TickerTape.Accessor.Lifetime.closing_is_final` — whole lifetimes.
-/

namespace TickerTape

open Engine

namespace Program.Entry

/-- Whether an entry asks for the end of a block. -/
def asksEnd (x : Entry wire) : Bool :=
  match x.request with
  | .query (.closeBlock _) => true
  | _ => false

/-- Whether the end of a block was granted: the engine closed it or has no such block. -/
def endsBlock : Entry wire → Bool
  | ⟨.query (.closeBlock _), (reply : Except Status Unit)⟩ =>
    match reply with
    | .ok _ => true
    | .error status => status = .noBlock
  | _ => false

theorem asksEnd_of_endsBlock {x : Entry wire} (h : x.endsBlock = true) : x.asksEnd = true := by
  obtain ⟨r, reply⟩ := x
  cases r with
  | query q =>
    cases q with
    | closeBlock block => rfl
    | _ => contradiction
  | _ => contradiction

end Program.Entry

open Inquiry

namespace Accessor

/-! ### Calls on a closed accessor -/

/-- What a call on a closed accessor returns: closing again succeeds, all else is refused. -/
def Call.refusal (name : String) : (c : Call) → Except Failure c.Answer
  | .close => .ok ()
  | _ => .error (.fault (.closed name))

section

variable {a : Accessor}

theorem start_validate_of_closed (ha : a.closed = true) (item topic : String) :
    (validate item topic).start a = .done (.error (.fault (.closed a.name)), a) :=
  (start_ensureOpen_bind _ _).trans (if_pos ha)

/-- An operation that begins with a refused step is refused. -/
theorem start_bind_of_error {α β : Type} {m : Operation α} {x : Failure}
    (h : m.start a = .done (.error x, a)) (f : α → Operation β) :
    (m >>= f).start a = .done (.error x, a) := by
  rw [start_bind, h]
  rfl

/-- A closed accessor answers every call by itself and stays as it is. -/
theorem Call.start_of_closed (ha : a.closed = true) (c : Call) :
    c.operation.start a = .done (c.refusal a.name, a) := by
  have hopen {α : Type} (f : Unit → Operation α) :
      (ensureOpen >>= f).start a = .done (.error (.fault (.closed a.name)), a) :=
    (start_ensureOpen_bind f a).trans (if_pos ha)
  cases c with
  | close => exact (start_get_bind _ a).trans (by rw [if_pos ha]; rfl)
  | readSize | resize | readMembers | readWaiting | addMember | removeMember | topicKind
  | itemFrame | topicFrame => exact hopen _
  | occupancy item topic | isDirty item topic | position item topic | value _ item topic
  | latest _ item topic | range _ item topic | sinceMarker _ item topic =>
    exact start_bind_of_error (start_validate_of_closed ha item topic) _
  | allFrames => exact start_bind_of_error (hopen _) _

/-! ### Calls on an open accessor -/

/-- What an attempt to close an open accessor comes to, by the engine's reply. -/
def closeOutcome (a : Accessor) : Except Status Unit → Except Failure Unit × Accessor
  | .ok () => (.ok (), { a with closed := true })
  | .error status =>
    if status = .noBlock then (.ok (), { a with closed := true })
    else (.error (.fault (.ofStatus status)), a)

/-- An attempt to close an open accessor is one request. -/
theorem start_close_of_open (ha : a.closed = false) :
    close.start a = .ask (.query (.closeBlock a.name)) fun (reply : Except Status Unit) =>
      .done (a.closeOutcome reply) := by
  have hback : { a with closed := false } = a := by rw [← ha]
  rw [close, start_get_bind, ha, if_neg Bool.false_ne_true, start_bind, start_set,
    Program.done_bind, andThen_ok, start_bind, start_request, Program.ask_bind]
  congr 1
  funext reply
  cases reply with
  | ok => rfl
  | error status =>
    rw [Program.done_bind, andThen_ok, closeOutcome]
    dsimp only
    split
    · rfl
    · rw [start_bind, start_set, Program.done_bind, andThen_ok, start_fail, hback]

/-- Only closing asks for the end of a block. -/
theorem Call.asksEnd_of_mayAsk {c : Call} (hc : c ≠ .close) {block : String}
    {x : Program.Entry wire} (hx : c.MayAsk block x.request) : x.asksEnd = false := by
  obtain ⟨r, reply⟩ := x
  change c.MayAsk block r at hx
  rcases hx with hx | hx
  · cases r with
    | query q =>
      cases q with
      | closeBlock => contradiction
      | _ => rfl
    | _ => rfl
  · cases c with
    | close => contradiction
    | sinceMarker =>
      obtain ⟨_, _, _, rfl⟩ := hx
      rfl
    | resize | addMember | removeMember =>
      subst hx
      rfl
    | _ => contradiction

end

/-! ### Lifetimes -/

/-- An accessor with the engine that it asks, and the requests so far with their replies. -/
structure Lifetime (σ : Type) where
  accessor : Accessor
  engine : σ
  log : List (Program.Entry wire)

namespace Lifetime

section

variable {σ : Type} (h : Handler wire σ)

/-- A lifetime before its first call. -/
def start (a : Accessor) (s : σ) : Lifetime σ := ⟨a, s, []⟩

/-- What a call returns. -/
def result (w : Lifetime σ) (c : Call) : Except Failure c.Answer :=
  ((c.operation.start w.accessor).run h w.engine).1.1

/-- The lifetime after a call. -/
def call (w : Lifetime σ) (c : Call) : Lifetime σ where
  accessor := ((c.operation.start w.accessor).run h w.engine).1.2
  engine := ((c.operation.start w.accessor).run h w.engine).2
  log := w.log ++ (c.operation.start w.accessor).log h w.engine

/-- The lifetime after a sequence of calls. -/
def after (w : Lifetime σ) (calls : List Call) : Lifetime σ := calls.foldl (call h) w

/-- The lifetime after the accessor was given up. -/
def dropped (w : Lifetime σ) : Lifetime σ where
  accessor := w.accessor
  engine := ((drop w.accessor).run h w.engine).2
  log := w.log ++ (drop w.accessor).log h w.engine

end

variable {σ : Type} {h : Handler wire σ} {w : Lifetime σ}

theorem call_of_closed (hw : w.accessor.closed = true) (c : Call) :
    w.call h c = w ∧ w.result h c = c.refusal w.accessor.name := by
  simp [call, result, Call.start_of_closed hw]

theorem after_of_closed (hw : w.accessor.closed = true) (calls : List Call) :
    w.after h calls = w := by
  induction calls with
  | nil => rfl
  | cons c calls ih => rw [after, List.foldl_cons, (call_of_closed hw c).1]; exact ih

theorem dropped_of_closed (hw : w.accessor.closed = true) : w.dropped h = w := by
  have hclose := Call.start_of_closed hw .close
  change close.start w.accessor = _ at hclose
  simp [dropped, drop, hclose]

/-- The reply to an attempt to close. -/
def closeReply (h : Handler wire σ) (w : Lifetime σ) : Except Status Unit :=
  (h (.query (.closeBlock w.accessor.name)) w.engine).1

/-- The entry of an attempt to close. -/
def closeEntry (h : Handler wire σ) (w : Lifetime σ) : Program.Entry wire :=
  ⟨.query (.closeBlock w.accessor.name), w.closeReply h⟩

theorem call_close_of_open (hw : w.accessor.closed = false) :
    (w.result h .close, (w.call h .close).accessor) = w.accessor.closeOutcome (w.closeReply h) ∧
      (w.call h .close).log = w.log ++ [w.closeEntry h] := by
  have hclose := start_close_of_open hw
  simp only [result, call, Call.operation, hclose]
  exact ⟨rfl, rfl⟩

theorem log_dropped_of_open (hw : w.accessor.closed = false) :
    (w.dropped h).log = w.log ++ [w.closeEntry h] := by
  simp only [dropped, drop, Program.log_bind, start_close_of_open hw]
  rfl

/-- An accessor is closed by an attempt exactly when the engine grants it. -/
theorem closed_closeOutcome {a : Accessor} (ha : a.closed = false) (reply : Except Status Unit) :
    (a.closeOutcome reply).2.name = a.name ∧ (a.closeOutcome reply).2.closed =
      Program.Entry.endsBlock ⟨.query (.closeBlock a.name), reply⟩ := by
  cases reply with
  | ok => exact ⟨rfl, rfl⟩
  | error status =>
    rw [closeOutcome]
    by_cases hs : status = .noBlock
    · simp [hs, Program.Entry.endsBlock]
    · simp [hs, Program.Entry.endsBlock, ha]

/-- A call other than closing keeps an open accessor open and does not ask for the end. -/
theorem call_of_ne_close (hw : w.accessor.closed = false) {c : Call} (hc : c ≠ .close) :
    (w.call h c).accessor.name = w.accessor.name ∧ (w.call h c).accessor.closed = false ∧
      ∃ asked, (w.call h c).log = w.log ++ asked ∧ ∀ x ∈ asked, x.asksEnd = false := by
  have htold : Told (fun _ _ => True) (c.MayAsk w.accessor.name)
      (fun x => x.name = w.accessor.name ∧ x.closed = false) w.accessor.name :=
    ⟨fun _ hq => .inl hq, fun _ hx => hx.1, fun _ _ _ hx _ => hx, fun _ _ hx _ => hx⟩
  have hkeeps := c.keeps_operation htold (fun hclose => absurd hclose hc) w.accessor ⟨rfl, hw⟩
  obtain ⟨⟨hname, hopen⟩, -⟩ := hkeeps.run (J := fun _ => True) (h := h) (s := w.engine)
    (fun _ _ _ _ => ⟨trivial, trivial⟩) trivial
  exact ⟨hname, hopen, _, rfl, fun x hx => Call.asksEnd_of_mayAsk hc (hkeeps.of_mem_log hx)⟩

/-- What the log of a lifetime tells of the end of the block: nothing grants it while the accessor
is open, and the last entry alone does once the accessor is closed. -/
structure Ordered (name : String) (w : Lifetime σ) : Prop where
  name_eq : w.accessor.name = name
  of_open : w.accessor.closed = false → ∀ x ∈ w.log, x.endsBlock = false
  of_closed : w.accessor.closed = true → ∃ pre x, w.log = pre ++ [x] ∧ x.endsBlock = true ∧
    ∀ y ∈ pre, y.endsBlock = false

namespace Ordered

variable {name : String}

theorem close_of_open (hw : w.Ordered name) (hopen : w.accessor.closed = false) :
    (w.call h .close).Ordered name := by
  obtain ⟨hout, hlog⟩ := call_close_of_open (h := h) hopen
  have haccessor : (w.call h .close).accessor = (w.accessor.closeOutcome (w.closeReply h)).2 :=
    congrArg Prod.snd hout
  obtain ⟨hname, hends⟩ := closed_closeOutcome hopen (w.closeReply h)
  have hclosed : (w.call h .close).accessor.closed = (w.closeEntry h).endsBlock := by
    rw [haccessor, hends, closeEntry]
  refine ⟨?_, fun h' x hx => ?_, fun h' => ⟨w.log, _, hlog, hclosed ▸ h', hw.of_open hopen⟩⟩
  · rw [haccessor, hname, hw.name_eq]
  · rw [hlog] at hx
    rcases List.mem_append.mp hx with hx | hx
    · exact hw.of_open hopen x hx
    · rw [List.mem_singleton.mp hx, ← hclosed, h']

theorem call (hw : w.Ordered name) (c : Call) : (w.call h c).Ordered name := by
  cases hclosed : w.accessor.closed with
  | true => rwa [(call_of_closed hclosed c).1]
  | false =>
    by_cases hc : c = .close
    · subst hc
      exact hw.close_of_open hclosed
    · obtain ⟨hname, hopen, asked, hlog, hasked⟩ := call_of_ne_close (h := h) hclosed hc
      refine ⟨hname.trans hw.name_eq, fun _ x hx => ?_, fun h' => ?_⟩
      · rw [hlog] at hx
        rcases List.mem_append.mp hx with hx | hx
        · exact hw.of_open hclosed x hx
        · refine Bool.eq_false_iff.mpr fun hends => ?_
          exact Bool.eq_false_iff.mp (hasked x hx) (Program.Entry.asksEnd_of_endsBlock hends)
      · rw [hopen] at h'
        contradiction

theorem after (hw : w.Ordered name) (calls : List Call) : (w.after h calls).Ordered name := by
  induction calls generalizing w with
  | nil => exact hw
  | cons c calls ih => exact ih (hw.call c)

theorem closed_iff (hw : w.Ordered name) :
    w.accessor.closed = true ↔ ∃ x ∈ w.log, x.endsBlock = true := by
  constructor
  · intro hclosed
    obtain ⟨pre, x, hlog, hx, -⟩ := hw.of_closed hclosed
    exact ⟨x, by rw [hlog]; exact List.mem_concat_self, hx⟩
  · rintro ⟨x, hx, hends⟩
    refine Bool.of_not_eq_false fun hopen => ?_
    exact Bool.eq_false_iff.mp (hw.of_open hopen x hx) hends

/-- Nothing is asked after the end was granted. -/
theorem eq_nil_of_endsBlock (hw : w.Ordered name) {pre post : List (Program.Entry wire)}
    {x : Program.Entry wire} (hlog : w.log = pre ++ x :: post) (hx : x.endsBlock = true) :
    post = [] := by
  have hmem : x ∈ w.log := by simp [hlog]
  obtain ⟨pre', y, hlog', -, hpre'⟩ := hw.of_closed (hw.closed_iff.mpr ⟨x, hmem, hx⟩)
  rcases List.eq_nil_or_concat post with hpost | ⟨post', z, rfl⟩
  · exact hpost
  · have hsplit : pre ++ x :: post' = pre' := by
      have hlast : (pre ++ x :: post') ++ [z] = pre' ++ [y] := by
        rw [← hlog', hlog]
        simp
      exact List.append_inj_left' hlast rfl
    have := hpre' x (by simp [← hsplit])
    rw [hx] at this
    contradiction

/-- The end is granted at most once. -/
theorem countP_le_one (hw : w.Ordered name) : w.log.countP (·.endsBlock) ≤ 1 := by
  cases hclosed : w.accessor.closed with
  | false =>
    rw [List.countP_eq_zero.mpr fun x hx => Bool.eq_false_iff.mp (hw.of_open hclosed x hx)]
    exact Nat.zero_le 1
  | true =>
    obtain ⟨pre, x, hlog, hx, hpre⟩ := hw.of_closed hclosed
    refine Nat.le_of_eq ?_
    rw [hlog, List.countP_append, List.countP_singleton, if_pos hx,
      List.countP_eq_zero.mpr fun y hy => Bool.eq_false_iff.mp (hpre y hy)]

end Ordered

theorem ordered_start {a : Accessor} (ha : a.closed = false) (s : σ) :
    (start a s).Ordered a.name :=
  ⟨rfl, fun _ _ hx => absurd hx List.not_mem_nil, fun hclosed => by
    change a.closed = true at hclosed
    rw [ha] at hclosed
    contradiction⟩

/-- Giving an accessor up asks what one more attempt to close asks. -/
theorem log_dropped (w : Lifetime σ) : (w.dropped h).log = (w.call h .close).log := by
  cases hclosed : w.accessor.closed with
  | true => rw [dropped_of_closed hclosed, (call_of_closed hclosed .close).1]
  | false => rw [log_dropped_of_open hclosed, (call_close_of_open hclosed).2]

/-- **Closing is final, and only granted closing is.** The engine may answer anything. After any
calls of an accessor that was open at first, it is closed exactly when the engine has granted the
end of the block.

While it is open, calls other than closing do not ask for the end, and an attempt to close asks for
it once. If the engine refuses, the attempt fails and leaves the accessor as it was; otherwise it
closes the accessor. Giving an open accessor up is one more attempt.

Once it is closed, every call but closing is refused, and neither further calls nor giving the
accessor up asks anything or changes anything. So nothing is asked after the end was granted, and it
is granted at most once. -/
theorem closing_is_final (h : Handler wire σ) (s : σ) {a : Accessor} (ha : a.closed = false)
    (calls : List Call) :
    let w := (start a s).after h calls
    w.accessor.name = a.name ∧
      (w.accessor.closed = true ↔ ∃ x ∈ w.log, x.endsBlock = true) ∧
      (w.accessor.closed = false →
        (∀ c, c ≠ .close → (w.call h c).accessor.closed = false ∧
          ∃ asked, (w.call h c).log = w.log ++ asked ∧ ∀ x ∈ asked, x.asksEnd = false) ∧
        (w.call h .close).log = w.log ++ [w.closeEntry h] ∧
        (w.closeReply h = .ok () ∨ w.closeReply h = .error .noBlock →
          w.result h .close = .ok () ∧
            (w.call h .close).accessor = { w.accessor with closed := true }) ∧
        (∀ status, w.closeReply h = .error status → status ≠ .noBlock →
          w.result h .close = .error (.fault (.ofStatus status)) ∧
            (w.call h .close).accessor = w.accessor) ∧
        (w.dropped h).log = w.log ++ [w.closeEntry h]) ∧
      (w.accessor.closed = true →
        (∀ c, w.result h c = c.refusal a.name) ∧ (∀ more, w.after h more = w) ∧
          w.dropped h = w) ∧
      (∀ pre x post, (w.dropped h).log = pre ++ x :: post → x.endsBlock = true → post = []) ∧
      (w.dropped h).log.countP (·.endsBlock) ≤ 1 := by
  intro w
  have hw : w.Ordered a.name := (ordered_start ha s).after calls
  have hend : (w.call h .close).Ordered a.name := hw.call .close
  refine ⟨hw.name_eq, hw.closed_iff, fun hopen => ?_, fun hclosed => ⟨fun c => ?_, ?_, ?_⟩,
    fun pre x post hlog hx => ?_, ?_⟩
  · obtain ⟨hout, hlog⟩ := call_close_of_open (h := h) hopen
    refine ⟨fun c hc => (call_of_ne_close hopen hc).2, hlog, fun hreply => ?_,
      fun status hreply hstatus => ?_, log_dropped_of_open hopen⟩
    · rcases hreply with hreply | hreply
      all_goals
        rw [hreply] at hout
        exact Prod.mk.inj hout
    · rw [hreply, closeOutcome, if_neg hstatus] at hout
      exact Prod.mk.inj hout
  · rw [(call_of_closed hclosed c).2, hw.name_eq]
  · exact after_of_closed hclosed
  · exact dropped_of_closed hclosed
  · exact hend.eq_nil_of_endsBlock (by rw [← log_dropped, hlog]) hx
  · rw [log_dropped]
    exact hend.countP_le_one

/-- An engine that refuses the first end of a block and grants the second. The accessor is given up
open after a first attempt, or closed after two. -/
theorem closing_is_final_refusedOnce :
    let a := ofSettings "MOCK" {}
    let h := Scripted.handler fun
      | .query (.closeBlock _) => "close"
      | _ => ""
    let plan : Plan wire := { codes := Table.insert ∅ "close" [-4] }
    let w := (start a (plan, ({} : Scripted))).after h [.close]
    let w' := (start a (plan, ({} : Scripted))).after h [.close, .close]
    (w.accessor = a ∧ (w.dropped h).log = w.log ++ [w.closeEntry h]) ∧
      w'.accessor.closed = true ∧ w'.result h .readSize = .error (.fault (.closed "MOCK")) ∧
      w'.dropped h = w' := by
  intro a h plan w w'
  have haccessor : w.accessor = a := by decide +kernel
  have hclosed : w'.accessor.closed = true := by decide +kernel
  have hopen := closing_is_final h (plan, ({} : Scripted)) (a := a) rfl [.close]
  have hfinal := closing_is_final h (plan, ({} : Scripted)) (a := a) rfl [.close, .close]
  refine ⟨⟨haccessor, ?_⟩, hclosed, ?_, ?_⟩
  · exact (hopen.2.2.1 (congrArg Accessor.closed haccessor)).2.2.2.2
  · exact (hfinal.2.2.2.1 hclosed).1 .readSize
  · exact (hfinal.2.2.2.1 hclosed).2.2

end Lifetime

end Accessor

end TickerTape
