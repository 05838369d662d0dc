import Mathlib.Data.List.Induction
import Mathlib.Data.List.Perm.Basic
import Mathlib.Data.Set.Insert
import Mathlib.Logic.Function.Basic
import TickerTape.Proofs.MembersCoherence

/-!
# Names of a block as plain sets

A block keeps its items and topics in two sets of which the engine shows one part as streamed and
the other as waiting, and its streams in a table of pairs. Here the names of a block are compared
with plain sets in which each change that succeeds puts a name or takes one out, whatever the names
of the other kind are. The streams follow the pairs of names: a pair that stays keeps its stream,
a new pair gets an empty one, and a pair that goes leaves nothing behind. Names can be added in any
order.

## Main definitions

* `TickerTape.Engine.Edit` — a change of the names of a block.
* `TickerTape.Engine.Exchange.edited`, `TickerTape.Engine.Exchange.transcript` — a sequence of
  changes and its answers.
* `TickerTape.Engine.replay` — the changes that succeeded, made on plain sets.
* `TickerTape.Engine.Block.Carries` — what a change of names does to the streams of a block.

## Main results

* `TickerTape.Engine.Edit.outcome` — what one change does.
* `TickerTape.Engine.Exchange.names_are_plain_sets` — sequences of changes.
-/

namespace TickerTape.Engine

/-! ### Changes of names -/

/-- A change of the names of a block. -/
inductive Edit where
  | add (axis : Axis) (name : String)
  | remove (axis : Axis) (name : String)
  deriving DecidableEq

namespace Edit

/-- Whether a name is added. -/
def isAdd : Edit → Bool
  | add .. => true
  | remove .. => false

/-- The answer to a change, and the exchange after it. -/
def perform (block : String) (e : Exchange) : Edit → Except Status Unit × Exchange
  | add axis name => Exchange.handler "" (.query (.addMember block axis name)) e
  | remove axis name => Exchange.handler "" (.query (.removeMember block axis name)) e

/-- A change made on a block. -/
def change : Edit → Block → Except Status Block
  | add axis name, b => do
    checkMember axis name
    return b.add axis name
  | remove axis name, b => b.remove axis name

/-- The block after a change. -/
def accept (x : Edit) (b : Block) : Block :=
  match x.change b with
  | .ok b' => b'
  | .error _ => b

/-- A change made on plain sets. -/
def apply (sets : Axis → Set String) : Edit → Axis → Set String
  | add axis name => Function.update sets axis (insert name (sets axis))
  | remove axis name => Function.update sets axis (sets axis \ {name})

end Edit

/-- The changes that succeeded, made on plain sets. -/
def replay (sets : Axis → Set String) (transcript : List (Edit × Except Status Unit)) :
    Axis → Set String :=
  (transcript.filterMap fun x => x.2.toOption.map fun _ => x.1).foldl Edit.apply sets

namespace Exchange

/-- The exchange after changes of the names of a block. -/
def edited (block : String) (e : Exchange) (edits : List Edit) : Exchange :=
  edits.foldl (fun e x => (x.perform block e).2) e

/-- Changes of the names of a block with their answers. -/
def transcript (block : String) (e : Exchange) : List Edit → List (Edit × Except Status Unit)
  | [] => []
  | x :: edits =>
    (x, (x.perform block e).1) :: (x.perform block e).2.transcript block edits

end Exchange

/-! ### Names and streams of a block -/

namespace Block

variable {b b' : Block}

/-- The names of a kind that a block shows, streamed or waiting. -/
def shown (b : Block) (axis : Axis) : Set String :=
  {name | (b.live axis).contains name = true ∨ (b.waiting axis).contains name = true}

/-- A block has both names of a pair. -/
def Configured (b : Block) (p : Pair) : Prop := ∀ axis, p.get axis ∈ b.shown axis

theorem mem_shown_iff {axis : Axis} {name : String} :
    name ∈ b.shown axis ↔ (b.names axis).contains name = true := by
  rw [shown, Set.mem_ofPred_eq, live, waiting]
  cases (b.names axis.other).isEmpty <;> simp

theorem configured_iff (axis : Axis) {p : Pair} :
    b.Configured p ↔ (b.names axis).contains (p.get axis) = true ∧
      (b.names axis.other).contains (p.get axis.other) = true := by
  simp only [Configured, mem_shown_iff]
  refine ⟨fun h => ⟨h axis, h axis.other⟩, fun h a => ?_⟩
  rcases axis.eq_or_eq_other a with rfl | rfl
  · exact h.1
  · exact h.2

theorem Sound.contains_streams_iff_configured (h : b.Sound) {p : Pair} :
    b.streams.contains p = true ↔ b.Configured p :=
  (h.contains_streams_iff p).trans (configured_iff .item).symm

/-- How a block shows its names: of a kind all or none are streamed, and they are when it has names
of both kinds. -/
structure Tidy (b : Block) : Prop where
  not_both : ∀ axis, (b.live axis).isEmpty = true ∨ (b.waiting axis).isEmpty = true
  live_together : (b.live .item).isEmpty = (b.live .topic).isEmpty
  mem_live_iff : ∀ axis name, (b.live axis).contains name = true ↔
    name ∈ b.shown axis ∧ ∀ axis, (b.shown axis).Nonempty

theorem nonempty_shown_iff {axis : Axis} :
    (b.shown axis).Nonempty ↔ (b.names axis).isEmpty = false := by
  constructor
  · rintro ⟨name, hname⟩
    exact Table.isEmpty_of_contains (mem_shown_iff.mp hname)
  · intro h
    cases hentries : (b.names axis).entries with
    | nil =>
      rw [Table.isEmpty, hentries] at h
      contradiction
    | cons entry entries =>
      refine ⟨entry.1, mem_shown_iff.mpr (Table.contains_iff.mpr ?_)⟩
      rw [Table.keys, hentries]
      exact List.mem_cons_self

theorem tidy (b : Block) : b.Tidy where
  not_both axis := by
    rw [live, waiting]
    cases (b.names axis.other).isEmpty <;> simp
  live_together := by
    rw [isEmpty_live, isEmpty_live]
    exact Bool.or_comm _ _
  mem_live_iff axis name := by
    rw [contains_live_iff, mem_shown_iff, and_comm]
    refine and_congr_right fun hname => ⟨fun h a => ?_, fun h => nonempty_shown_iff.mp (h _)⟩
    rcases axis.eq_or_eq_other a with rfl | rfl
    · exact ⟨name, mem_shown_iff.mpr hname⟩
    · exact nonempty_shown_iff.mpr h

/-- The streams of a block whose names change: a pair that it had and has keeps its stream, a new
pair has an empty one, and there are no others. -/
structure Carries (b b' : Block) : Prop where
  kept : ∀ p, b.Configured p → b'.Configured p → b'.streams.get? p = b.streams.get? p
  fresh : ∀ p, ¬ b.Configured p → b'.Configured p → b'.streams.get? p = some .empty
  contains_iff : ∀ p, b'.streams.contains p = true ↔ b'.Configured p

theorem Sound.carries_self (h : b.Sound) : b.Carries b where
  kept _ _ _ := rfl
  fresh _ hnot hp := absurd hp hnot
  contains_iff _ := h.contains_streams_iff_configured

/-- A name that is added is shown, and all that were. -/
theorem shown_add (b : Block) (axis : Axis) (name : String) :
    (b.add axis name).shown = (Edit.add axis name).apply b.shown := by
  obtain ⟨hnames, hother⟩ := names_add b axis name
  funext a
  ext n
  rw [mem_shown_iff, Edit.apply]
  rcases axis.eq_or_eq_other a with rfl | rfl
  · rw [hnames, NameSet.contains_add, Function.update_self, Set.mem_insert_iff, mem_shown_iff]
    simp
  · rw [hother, Function.update_of_ne axis.other_ne, mem_shown_iff]

theorem shown_of_remove {axis : Axis} {name : String} (h : b.remove axis name = .ok b') :
    b'.shown = (Edit.remove axis name).apply b.shown := by
  obtain ⟨hnames, hother, -, -⟩ := of_remove_eq_ok h
  funext a
  ext n
  rw [mem_shown_iff, Edit.apply]
  rcases axis.eq_or_eq_other a with rfl | rfl
  · rw [hnames, NameSet.contains_remove, Function.update_self, Set.mem_sdiff, mem_shown_iff]
    simp [and_comm]
  · rw [hother, Function.update_of_ne axis.other_ne, mem_shown_iff]

/-- A name that the block has already changes nothing. -/
theorem add_of_mem {axis : Axis} {name : String} (h : name ∈ b.shown axis) :
    b.add axis name = b := by
  rw [add, if_pos (mem_shown_iff.mp h)]

theorem Sound.carries_add (h : b.Sound) {axis : Axis} {name : String}
    (hname : checkMember axis name = .ok ()) : b.Carries (b.add axis name) := by
  by_cases hmem : name ∈ b.shown axis
  · rw [add_of_mem hmem]
    exact h.carries_self
  have hnew : (b.names axis).contains name = false :=
    Bool.eq_false_iff.mpr fun hname => hmem (mem_shown_iff.mpr hname)
  have hother := (names_add b axis name).2
  refine ⟨fun p hp _ => ?_, fun p hp hp' => ?_, fun p => ?_⟩
  · have hne : p.get axis ≠ name := by
      rintro rfl
      exact hmem (hp axis)
    rw [get?_streams_add hnew, if_neg fun hmade => hne hmade.1]
  · rw [configured_iff axis, hother, mem_shown_iff.symm, shown_add, Edit.apply,
      Function.update_self, Set.mem_insert_iff, mem_shown_iff] at hp'
    obtain ⟨hname | hname, hp'⟩ := hp'
    · rw [get?_streams_add hnew, if_pos ⟨hname, hp'⟩]
    · exact absurd ((configured_iff axis).mpr ⟨hname, hp'⟩) hp
  · exact (h.add hname).contains_streams_iff_configured

theorem Sound.carries_remove (h : b.Sound) {axis : Axis} {name : String}
    (hremove : b.remove axis name = .ok b') : b.Carries b' := by
  obtain ⟨-, -, -, hget⟩ := of_remove_eq_ok hremove
  have hsub := contains_of_remove hremove
  have hgone {p : Pair} (hp : b'.Configured p) : p.get axis ≠ name := by
    rintro rfl
    have hmem := hp axis
    rw [shown_of_remove hremove, Edit.apply, Function.update_self] at hmem
    exact hmem.2 rfl
  refine ⟨fun p _ hp' => ?_, fun p hp hp' => ?_, fun p => ?_⟩
  · rw [hget, if_neg (hgone hp')]
  · refine absurd (fun a => ?_) hp
    exact mem_shown_iff.mpr (hsub a _ (mem_shown_iff.mp (hp' a)))
  · exact (h.remove hremove).contains_streams_iff_configured

/-- A change that succeeds is made on the names as on plain sets, and the streams follow. -/
theorem Sound.of_change_eq_ok (h : b.Sound) {x : Edit} (hx : x.change b = .ok b') :
    b'.shown = x.apply b.shown ∧ b.Carries b' := by
  cases x with
  | add axis name =>
    obtain ⟨_, hname, hx⟩ := bind_eq_ok_iff.mp hx
    cases hx
    exact ⟨shown_add b axis name, h.carries_add hname⟩
  | remove axis name => exact ⟨shown_of_remove hx, h.carries_remove hx⟩

/-! ### Names in any order -/

/-- Blocks with the same settings, names and streams are equal. -/
theorem eq_of_names (hsize : b.size = b'.size) (hstamped : b.stamped = b'.stamped)
    (htimeout : b.timeout = b'.timeout) (hnames : ∀ axis, b.names axis = b'.names axis)
    (hstreams : ∀ p, b.streams.get? p = b'.streams.get? p) : b = b' := by
  have hitems : b.items = b'.items := hnames .item
  have htopics : b.topics = b'.topics := hnames .topic
  have hstreams := Table.ext_get? hstreams
  obtain ⟨_, _, _, _, _, _⟩ := b
  obtain ⟨_, _, _, _, _, _⟩ := b'
  simp_all only

theorem timeout_add (b : Block) (axis : Axis) (name : String) :
    (b.add axis name).timeout = b.timeout := by
  rw [add]
  split
  · rfl
  · cases axis <;> rfl

/-- The names of a kind after a name of some kind is added. -/
theorem contains_names_add (b : Block) (axis : Axis) (name : String) (a : Axis) (n : String) :
    ((b.add axis name).names a).contains n = true ↔
      a = axis ∧ n = name ∨ (b.names a).contains n = true := by
  obtain ⟨hnames, hother⟩ := names_add b axis name
  rcases axis.eq_or_eq_other a with rfl | rfl
  · rw [hnames, NameSet.contains_add]
    simp
  · rw [hother]
    simp [axis.other_ne]

/-- Which of two names is added first makes no difference. -/
theorem add_comm (b : Block) (axis axis' : Axis) (name name' : String) :
    (b.add axis name).add axis' name' = (b.add axis' name').add axis name := by
  by_cases hmem : name ∈ b.shown axis
  · rw [add_of_mem hmem]
    refine (add_of_mem ?_).symm
    rw [mem_shown_iff, contains_names_add]
    exact .inr (mem_shown_iff.mp hmem)
  by_cases hmem' : name' ∈ b.shown axis'
  · rw [add_of_mem hmem']
    refine add_of_mem ?_
    rw [mem_shown_iff, contains_names_add]
    exact .inr (mem_shown_iff.mp hmem')
  by_cases hsame : axis = axis' ∧ name = name'
  · rw [hsame.1, hsame.2]
  rw [mem_shown_iff, Bool.not_eq_true] at hmem hmem'
  have hnew : ((b.add axis' name').names axis).contains name = false := by
    rw [← Bool.not_eq_true, contains_names_add, hmem]
    simpa using hsame
  have hnew' : ((b.add axis name).names axis').contains name' = false := by
    rw [← Bool.not_eq_true, contains_names_add, hmem']
    rintro (⟨rfl, rfl⟩ | h)
    · exact hsame ⟨rfl, rfl⟩
    · contradiction
  refine eq_of_names ?_ ?_ ?_ (fun a => NameSet.ext_contains fun n => ?_) fun p => ?_
  · simp only [size_add]
  · simp only [stamped_add]
  · simp only [timeout_add]
  · rw [Bool.eq_iff_iff]
    simp only [contains_names_add]
    exact or_left_comm
  · rw [get?_streams_add hnew, get?_streams_add hnew', get?_streams_add hmem,
      get?_streams_add hmem']
    simp only [contains_names_add]
    -- The pair of the two names is made by the second of them, whichever it is.
    rcases axis'.eq_or_eq_other axis with rfl | rfl
    · simp only [axis.other_ne, false_and, false_or]
      split_ifs <;> rfl
    · simp only [Axis.other_other, true_and]
      by_cases hname : p.get axis'.other = name <;> by_cases hname' : p.get axis' = name' <;>
        simp [hname, hname']

end Block

namespace Edit

theorem accept_add (axis : Axis) (name : String) (b : Block) :
    (add axis name).accept b =
      if checkMember axis name = .ok () then b.add axis name else b := by
  rw [accept, change]
  cases checkMember axis name <;> rfl

/-- Which of two additions is made first makes no difference. -/
theorem accept_accept {x y : Edit} (hx : x.isAdd = true) (hy : y.isAdd = true) (b : Block) :
    y.accept (x.accept b) = x.accept (y.accept b) := by
  cases x with
  | remove => contradiction
  | add axis name =>
    cases y with
    | remove => contradiction
    | add axis' name' =>
      simp only [accept_add]
      split_ifs
      · exact b.add_comm axis axis' name name'
      all_goals rfl

end Edit

/-! ### One change -/

namespace Exchange

variable {e : Exchange} {block : String} {b : Block}

/-- The exchange with a block changed, if it can be had. -/
def onBlock (block : String) (f : Block → Block) (e : Exchange) : Exchange :=
  match e.block block with
  | .ok b => e.setBlock block (f b)
  | .error _ => e

theorem setBlock_setBlock (e : Exchange) (block : String) (b b' : Block) :
    (e.setBlock block b).setBlock block b' = e.setBlock block b' := by
  have hblocks : (e.blocks.insert block b).insert block b' = e.blocks.insert block b' := by
    refine Table.ext_get? fun other => ?_
    rw [Table.get?_insert, Table.get?_insert, Table.get?_insert]
    split <;> rfl
  rw [setBlock, setBlock, setBlock, hblocks]

theorem onBlock_eq_self {f : Block → Block} (hb : e.blocks.get? block = some b) (hf : f b = b) :
    e.onBlock block f = e := by
  rw [onBlock]
  split
  next c hc =>
    obtain rfl : b = c := Option.some.inj (hb.symm.trans (block_eq_ok_iff.mp hc).2)
    rw [hf, setBlock_eq_self hb]
  next => rfl

theorem onBlock_onBlock (block : String) (f g : Block → Block) (e : Exchange) :
    (e.onBlock block f).onBlock block g = e.onBlock block (g ∘ f) := by
  cases hb : e.block block with
  | error status =>
    have hsame (f : Block → Block) : e.onBlock block f = e := by rw [onBlock, hb]
    rw [hsame, hsame, hsame]
  | ok b =>
    have hset (c : Block) : (e.setBlock block c).block block = .ok c :=
      block_setBlock_self (block_eq_ok_iff.mp hb).1
    simp only [onBlock, hb, hset, setBlock_setBlock, Function.comp_apply]

end Exchange

namespace Edit

open Exchange

variable {e : Exchange} {block : String} {b : Block} {x y : Edit}

/-- A change is refused, or it is made on the block. -/
theorem perform_cases (block : String) (e : Exchange) (x : Edit) :
    (∃ status, x.perform block e = (.error status, e) ∧
      ∀ b, e.block block = .ok b → x.change b = .error status) ∨
    ∃ b b', e.block block = .ok b ∧ x.change b = .ok b' ∧
      x.perform block e = (.ok (), e.setBlock block b') := by
  cases x with
  | add axis name =>
    have hperform := perform_addMember_eq "" block e axis name
    cases hname : checkMember axis name with
    | error status =>
      rw [hname] at hperform
      refine .inl ⟨status, handler_of_perform_eq_error hperform, fun b _ => ?_⟩
      rw [change, hname]
      rfl
    | ok _ =>
      rw [hname] at hperform
      cases hb : e.block block with
      | error status =>
        rw [hb] at hperform
        exact .inl ⟨status, handler_of_perform_eq_error hperform, fun _ h => by cases h⟩
      | ok b =>
        rw [hb] at hperform
        refine .inr ⟨b, b.add axis name, rfl, ?_, handler_of_perform_eq_ok hperform⟩
        rw [change, hname]
        rfl
  | remove axis name =>
    cases hb : e.block block with
    | error status =>
      have hperform : e.perform "" (.removeMember block axis name) = .error status := by
        rw [perform_removeMember_eq, hb]
        rfl
      exact .inl ⟨status, handler_of_perform_eq_error hperform, fun _ h => by cases h⟩
    | ok b =>
      have hperform : e.perform "" (.removeMember block axis name) =
          b.remove axis name >>= fun b' => .ok ((), e.setBlock block b') := by
        rw [perform_removeMember_eq, hb]
        rfl
      cases hremove : b.remove axis name with
      | error status =>
        rw [hremove] at hperform
        refine .inl ⟨status, handler_of_perform_eq_error hperform, fun c hc => ?_⟩
        rw [← Except.ok.inj hc, change, hremove]
      | ok b' =>
        rw [hremove] at hperform
        exact .inr ⟨b, b', rfl, hremove, handler_of_perform_eq_ok hperform⟩

/-- With a connection a change succeeds if the block takes it. -/
theorem perform_fst_eq_ok_iff (hb : e.blocks.get? block = some b) (x : Edit) :
    (x.perform block e).1 = .ok () ↔ e.connected = true ∧ ∃ b', x.change b = .ok b' := by
  rcases perform_cases block e x with ⟨status, h, hrefused⟩ | ⟨c, b', hc, hchange, h⟩
  · rw [h]
    constructor
    · intro hok
      contradiction
    · rintro ⟨hconn, b', hchange⟩
      rw [hrefused b (block_eq_ok_iff.mpr ⟨hconn, hb⟩)] at hchange
      contradiction
  · obtain ⟨hconn, hget⟩ := block_eq_ok_iff.mp hc
    obtain rfl : b = c := Option.some.inj (hb.symm.trans hget)
    rw [h]
    exact iff_of_true rfl ⟨hconn, b', hchange⟩

theorem exists_change_add_iff {axis : Axis} {name : String} :
    (∃ b', (add axis name).change b = .ok b') ↔ checkMember axis name = .ok () := by
  rw [change]
  cases checkMember axis name with
  | error status =>
    refine iff_of_false ?_ ?_
    · rintro ⟨_, h⟩
      cases h
    · intro h
      cases h
  | ok _ => exact iff_of_true ⟨_, rfl⟩ rfl

theorem exists_change_remove_iff {axis : Axis} {name : String} :
    (∃ b', (remove axis name).change b = .ok b') ↔ name ∈ b.shown axis := by
  rw [change, Block.remove_eq, Block.mem_shown_iff]
  split
  next h => exact iff_of_true ⟨_, rfl⟩ h
  next h =>
    refine iff_of_false ?_ h
    rintro ⟨_, hremove⟩
    cases hremove

theorem sound_perform (he : e.Sound) (block : String) (x : Edit) :
    (x.perform block e).2.Sound := by
  cases x with
  | add axis name => exact he.move (move_handler "" (.query (.addMember block axis name)) e)
  | remove axis name =>
    exact he.move (move_handler "" (.query (.removeMember block axis name)) e)

/-- **One change of names.** The block is there after it, with the names that the change makes on
plain sets if it succeeds, and with the streams that follow them. Other blocks and the connection
are as before. -/
theorem outcome (he : e.Sound) (hb : e.blocks.get? block = some b) (x : Edit) :
    ∃ b', (x.perform block e).2.blocks.get? block = some b' ∧
      b'.shown = replay b.shown [(x, (x.perform block e).1)] ∧ b.Carries b' ∧
      (∀ other, other ≠ block →
        (x.perform block e).2.blocks.get? other = e.blocks.get? other) ∧
      (x.perform block e).2.connected = e.connected := by
  have hsound := he.block_sound block b hb
  rcases perform_cases block e x with ⟨status, h, -⟩ | ⟨c, b', hc, hchange, h⟩
  · rw [h]
    exact ⟨b, hb, rfl, hsound.carries_self, fun _ _ => rfl, rfl⟩
  · obtain rfl : b = c := Option.some.inj (hb.symm.trans (block_eq_ok_iff.mp hc).2)
    obtain ⟨hshown, hcarries⟩ := hsound.of_change_eq_ok hchange
    rw [h]
    refine ⟨b', Table.get?_insert_self .., hshown, hcarries, fun other hother => ?_, rfl⟩
    exact (Table.get?_insert ..).trans (if_neg hother)

/-- A change changes the block and nothing else. -/
theorem perform_snd (block : String) (e : Exchange) (x : Edit) :
    (x.perform block e).2 = e.onBlock block x.accept := by
  rcases perform_cases block e x with ⟨status, h, hrefused⟩ | ⟨b, b', hb, hchange, h⟩
  · rw [h]
    cases hb : e.block block with
    | error status => rw [onBlock, hb]
    | ok b =>
      refine (onBlock_eq_self (block_eq_ok_iff.mp hb).2 ?_).symm
      rw [accept, hrefused b hb]
  · simp only [h, onBlock, hb, accept, hchange]

end Edit

/-! ### Sequences of changes -/

theorem replay_cons (sets : Axis → Set String) (x : Edit × Except Status Unit)
    (transcript : List (Edit × Except Status Unit)) :
    replay sets (x :: transcript) = replay (replay sets [x]) transcript := by
  rw [replay, replay, replay, List.filterMap_cons, List.filterMap_cons]
  split <;> rfl

namespace Exchange

variable {e : Exchange} {block : String} {b : Block}

/-- A block has both names of a pair. -/
def Configured (block : String) (p : Pair) (e : Exchange) : Prop :=
  ∃ b, e.blocks.get? block = some b ∧ b.Configured p

theorem configured_iff {p : Pair} (hb : e.blocks.get? block = some b) :
    e.Configured block p ↔ b.Configured p := by
  constructor
  · rintro ⟨c, hc, hp⟩
    rwa [Option.some.inj (hb.symm.trans hc)]
  · intro hp
    exact ⟨b, hb, hp⟩

theorem edited_concat (block : String) (e : Exchange) (edits : List Edit) (x : Edit) :
    e.edited block (edits ++ [x]) = (x.perform block (e.edited block edits)).2 := by
  rw [edited, List.foldl_append]
  rfl

theorem Sound.edited (he : e.Sound) (block : String) (edits : List Edit) :
    (e.edited block edits).Sound := by
  induction edits generalizing e with
  | nil => exact he
  | cons x edits ih => exact ih (Edit.sound_perform he block x)

/-- Changes of names leave the block, with the names that those of them that succeed make on plain
sets, and other blocks and the connection as they are. -/
theorem edited_outcome (he : e.Sound) (hb : e.blocks.get? block = some b) (edits : List Edit) :
    ∃ b', (e.edited block edits).blocks.get? block = some b' ∧
      b'.shown = replay b.shown (e.transcript block edits) ∧
      (∀ other, other ≠ block →
        (e.edited block edits).blocks.get? other = e.blocks.get? other) ∧
      (e.edited block edits).connected = e.connected := by
  induction edits generalizing e b with
  | nil => exact ⟨b, hb, rfl, fun _ _ => rfl, rfl⟩
  | cons x edits ih =>
    obtain ⟨c, hc, hshown, -, hother, hconn⟩ := Edit.outcome he hb x
    obtain ⟨b', hb', hshown', hother', hconn'⟩ := ih (Edit.sound_perform he block x) hc
    refine ⟨b', hb', ?_, fun other hne => ?_, hconn'.trans hconn⟩
    · rw [hshown', hshown, transcript]
      exact (replay_cons ..).symm
    · exact (hother' other hne).trans (hother other hne)

/-- After changes of names a pair that the block had all along has its stream, and a pair that it
has again, or for the first time, has an empty one. -/
theorem edited_streams (he : e.Sound) (hb : e.blocks.get? block = some b) (edits : List Edit)
    {b' : Block} (hb' : (e.edited block edits).blocks.get? block = some b') (p : Pair) :
    ((∀ before, before <+: edits → (e.edited block before).Configured block p) →
        b'.streams.get? p = b.streams.get? p) ∧
      (∀ before, before <+: edits → ¬ (e.edited block before).Configured block p →
        b'.Configured p → b'.streams.get? p = some .empty) := by
  -- From the right, since the last change decides between a stream kept and an empty one.
  induction edits using List.reverseRecOn generalizing b' with
  | nil =>
    obtain rfl : b = b' := Option.some.inj (hb.symm.trans hb')
    refine ⟨fun _ => rfl, fun before hbefore hnot hp => ?_⟩
    obtain rfl := List.prefix_nil.mp hbefore
    exact absurd ((configured_iff hb).mpr hp) hnot
  | append_singleton edits x ih =>
    obtain ⟨c, hc, -⟩ := edited_outcome he hb edits
    obtain ⟨hkept, hfresh⟩ := ih hc
    obtain ⟨c', hc', -, hcarries, -⟩ := Edit.outcome (he.edited block edits) hc x
    have hlast := hb'
    rw [edited_concat] at hlast
    obtain rfl : c' = b' := Option.some.inj (hc'.symm.trans hlast)
    refine ⟨fun hall => ?_, fun before hbefore hnot hp => ?_⟩
    · have hold := (configured_iff hc).mp (hall edits (List.prefix_append edits [x]))
      have hnew := (configured_iff hb').mp (hall (edits ++ [x]) (List.prefix_refl _))
      rw [hcarries.kept p hold hnew]
      exact hkept fun before hbefore => hall before (hbefore.trans (List.prefix_append edits [x]))
    · rcases List.prefix_concat_iff.mp hbefore with rfl | hbefore
      · exact absurd ((configured_iff hb').mpr hp) hnot
      · by_cases hold : c.Configured p
        · rw [hcarries.kept p hold hp]
          exact hfresh before hbefore hnot hold
        · exact hcarries.fresh p hold hp

/-! ### Additions in any order -/

section Additions

variable {x y : Edit}

/-- An addition is answered as it would have been before another change. -/
theorem reply_add (block : String) (e : Exchange) (x : Edit) (hy : y.isAdd = true) :
    (y.perform block (x.perform block e).2).1 = (y.perform block e).1 := by
  rcases Edit.perform_cases block e x with ⟨status, h, -⟩ | ⟨b, b', hb, -, h⟩
  · rw [h]
  · cases y with
    | remove => contradiction
    | add axis name =>
      have hset : (e.setBlock block b').block block = .ok b' :=
        block_setBlock_self (block_eq_ok_iff.mp hb).1
      rw [h, Edit.perform, Edit.perform, handler_fst, handler_fst, perform_addMember_eq,
        perform_addMember_eq, hb, hset]
      cases checkMember axis name <;> rfl

/-- Which of two additions is made first makes no difference. -/
theorem edited_add_add (block : String) (e : Exchange) (hx : x.isAdd = true)
    (hy : y.isAdd = true) :
    (y.perform block (x.perform block e).2).2 = (x.perform block (y.perform block e).2).2 := by
  have haccept : y.accept ∘ x.accept = x.accept ∘ y.accept :=
    funext (Edit.accept_accept hx hy)
  rw [Edit.perform_snd, Edit.perform_snd, Edit.perform_snd, Edit.perform_snd, onBlock_onBlock,
    onBlock_onBlock, haccept]

/-- Additions are answered as each of them would have been at first. -/
theorem transcript_adds (block : String) (e : Exchange) {edits : List Edit}
    (h : ∀ x ∈ edits, x.isAdd = true) :
    e.transcript block edits = edits.map fun x => (x, (x.perform block e).1) := by
  induction edits generalizing e with
  | nil => rfl
  | cons x edits ih =>
    replace h := (List.forall_mem_cons.mp h).2
    rw [transcript, ih _ h, List.map_cons]
    refine congrArg _ (List.map_congr_left fun y hy => ?_)
    rw [reply_add block e x (h y hy)]

/-- Additions in any order leave the same exchange and have the same answers. -/
theorem edited_perm (block : String) (e : Exchange) {edits edits' : List Edit}
    (h : ∀ x ∈ edits, x.isAdd = true) (hperm : edits.Perm edits') :
    e.edited block edits = e.edited block edits' ∧
      (e.transcript block edits).Perm (e.transcript block edits') := by
  constructor
  · refine hperm.foldl_eq' (fun x hx y hy e => ?_) e
    exact edited_add_add block e (h x hx) (h y hy)
  · rw [transcript_adds block e h,
      transcript_adds block e fun x hx => h x (hperm.mem_iff.mpr hx)]
    exact hperm.map _

end Additions

/-! ### Names as plain sets -/

/-- **Names are plain sets, and streams follow them.** Take a block of an exchange that began
without blocks. After any changes of its names the block shows the names that those changes that
succeeded make on plain sets, tidily, and a connected exchange answers with them; the other blocks
are as they were. A pair that the block had all along has its stream, and a pair that it did not
have at some time has an empty one if it has it at the end. Each single change keeps the streams of
the pairs that stay, gives every new pair an empty one and leaves no other streams, and a name that
is added again changes nothing. With a connection, and only then, an addition succeeds if the name
passes its checks, and a removal if the name is there. Additions may be made in any order: the
exchange and their answers are the same. -/
theorem names_are_plain_sets (he : e.Reachable) (hb : e.blocks.get? block = some b) :
    (∀ edits, ∃ b', (e.edited block edits).blocks.get? block = some b' ∧
      b'.shown = replay b.shown (e.transcript block edits) ∧ b'.Tidy ∧
      (e.connected = true → ∀ draw axis,
        handler draw (.query (.members block axis)) (e.edited block edits) =
          ((.ok (b'.live axis) : Except Status NameSet), e.edited block edits) ∧
        handler draw (.query (.waiting block axis)) (e.edited block edits) =
          ((.ok (b'.waiting axis) : Except Status NameSet), e.edited block edits)) ∧
      (∀ other, other ≠ block →
        (e.edited block edits).blocks.get? other = e.blocks.get? other) ∧
      ∀ p, ((∀ before, before <+: edits → (e.edited block before).Configured block p) →
          b'.streams.get? p = b.streams.get? p) ∧
        (∀ before, before <+: edits → ¬ (e.edited block before).Configured block p →
          b'.Configured p → b'.streams.get? p = some .empty)) ∧
    (∀ x : Edit, ∃ b', (x.perform block e).2.blocks.get? block = some b' ∧ b.Carries b') ∧
    (∀ axis name, name ∈ b.shown axis → ((Edit.add axis name).perform block e).2 = e) ∧
    (∀ axis name,
      (((Edit.add axis name).perform block e).1 = .ok () ↔
        e.connected = true ∧ checkMember axis name = .ok ()) ∧
      (((Edit.remove axis name).perform block e).1 = .ok () ↔
        e.connected = true ∧ name ∈ b.shown axis)) ∧
    ∀ edits edits' : List Edit, (∀ x ∈ edits, x.isAdd = true) → edits.Perm edits' →
      e.edited block edits = e.edited block edits' ∧
        (e.transcript block edits).Perm (e.transcript block edits') := by
  have hsound := he.sound
  refine ⟨fun edits => ?_, fun x => ?_, fun axis name hname => ?_, fun axis name => ?_,
    fun edits edits' => ?_⟩
  · obtain ⟨b', hb', hshown, hother, hconn⟩ := edited_outcome hsound hb edits
    refine ⟨b', hb', hshown, b'.tidy, fun hon draw axis => ?_, hother,
      edited_streams hsound hb edits hb'⟩
    have hblock := block_eq_ok_iff.mpr ⟨hconn.trans hon, hb'⟩
    exact ⟨handler_of_perform_eq_ok (perform_members draw hblock axis),
      handler_of_perform_eq_ok (outcome_readBlock_eq_ok_iff.mpr ⟨b', hblock, rfl, rfl⟩)⟩
  · obtain ⟨b', hb', -, hcarries, -⟩ := Edit.outcome hsound hb x
    exact ⟨b', hb', hcarries⟩
  · rw [Edit.perform_snd]
    refine onBlock_eq_self hb ?_
    rw [Edit.accept_add]
    split
    · exact Block.add_of_mem hname
    · rfl
  · rw [Edit.perform_fst_eq_ok_iff hb, Edit.perform_fst_eq_ok_iff hb, Edit.exists_change_add_iff,
      Edit.exists_change_remove_iff]
    exact ⟨.rfl, .rfl⟩
  · exact edited_perm block e

theorem names_are_plain_sets_oneStream :
    ∃ b, oneStream.Reachable ∧ oneStream.blocks.get? "B" = some b ∧
      (∃ b',
        (oneStream.edited "B" [.remove .topic "VOLUME", .add .topic "VOLUME"]).blocks.get? "B" =
          some b' ∧
        b'.shown = replay b.shown
          (oneStream.transcript "B" [.remove .topic "VOLUME", .add .topic "VOLUME"])) ∧
      (∃ b', ((Edit.remove .topic "VOLUME").perform "B" oneStream).2.blocks.get? "B" = some b' ∧
        b.Carries b') ∧
      ((Edit.add .item "Y").perform "B" oneStream).1 = .ok () ∧
      oneStream.edited "B" [.add .item "Y", .add .topic "LAST"] =
        oneStream.edited "B" [.add .topic "LAST", .add .item "Y"] := by
  have he : oneStream.Reachable := ⟨_, rfl⟩
  obtain ⟨b, hb⟩ : ∃ b, oneStream.blocks.get? "B" = some b := ⟨_, rfl⟩
  obtain ⟨hedits, hedit, -, hsucceeds, hperm⟩ := names_are_plain_sets he hb
  obtain ⟨b', hb', hshown, -⟩ := hedits [.remove .topic "VOLUME", .add .topic "VOLUME"]
  exact ⟨b, he, hb, ⟨b', hb', hshown⟩, hedit _, (hsucceeds .item "Y").1.mpr (by decide),
    (hperm _ _ (by decide) (.swap _ _ [])).1⟩

end Exchange

end TickerTape.Engine
