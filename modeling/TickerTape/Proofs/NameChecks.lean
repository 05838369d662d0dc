import TickerTape.Foreign.Scripted
import TickerTape.Proofs.ForeignCalls

/-!
# Names that cannot be handed over

A name that is too long or has a zero character is refused. Most requests check all their names
before they call the library, so that such a name costs no call. A frame asks the library for the
names in its block first and checks its second name only if there are any: what cannot be handed
over is then refused after the calls, or goes unnoticed where the frame is empty.

## Main definitions

* `TickerTape.Foreign.IsUnfit` — texts that cannot be handed over.
* `TickerTape.Engine.Query.checked` — the names that a request checks before it makes a call.
* `TickerTape.Foreign.Adapter.listingOnly` — what is left of a frame whose second name is refused.

## Main results

* `TickerTape.Foreign.Adapter.itemFrame_of_isUnfit`,
  `TickerTape.Foreign.Adapter.topicFrame_of_isUnfit` — frames with a second name that is refused.
* `TickerTape.Foreign.names_checked_first` — which calls are made despite a name that is refused.
* `TickerTape.Foreign.exists_call_with_unfit_name` — a frame that goes through with such a name.
-/

namespace TickerTape

open Engine Program

/-- The names of a request that are checked before the first call: all of them, but of a frame only
the block's. -/
def Engine.Query.checked (draw : String) : Query → List String
  | .itemFrame block _ _ _ => [block]
  | .topicFrame block _ _ => [block]
  | q => q.names draw

namespace Foreign

/-- A text is too long for a name, or has a zero character in it. -/
def IsUnfit (s : String) : Prop := nameRoom ≤ s.utf8ByteSize ∨ '\x00' ∈ s.toList

instance (s : String) : Decidable (IsUnfit s) := inferInstanceAs (Decidable (_ ∨ _))

theorem not_isUnfit_text (n : Name) : ¬IsUnfit n.text :=
  fun h => h.elim (Nat.not_le.mpr n.fits) n.unbroken

theorem ofString_of_isUnfit {s : String} (h : IsUnfit s) : Name.ofString s = .error .badInput := by
  obtain ⟨n, hn⟩ | herror := Name.ofString_cases s
  · rw [← Name.text_of_ofString hn] at h
    exact absurd h (not_isUnfit_text n)
  · exact herror

namespace Adapter

variable {draw s : String} {α : Type}

theorem name_of_isUnfit (h : IsUnfit s) : name s = throw .badInput := by
  rw [name, ofString_of_isUnfit h]
  rfl

/-- A name is handed over or refused, so what is refused after it is refused. -/
theorem name_bind_of_refused {f : Name → Adapted α} (hf : ∀ n, f n = throw .badInput) (t : String) :
    name t >>= f = throw .badInput := by
  obtain ⟨n, hn⟩ | herror := Name.ofString_cases t
  · rw [name, hn]
    exact hf n
  · rw [name, herror]
    rfl

theorem stream_of_isUnfit {a : Address} (hs : s ∈ [a.block, a.item, a.topic]) (h : IsUnfit s) :
    stream a = throw .badInput := by
  obtain ⟨names, htexts, -⟩ | hrefused := stream_cases a
  · rw [← htexts] at hs
    obtain ⟨n, -, rfl⟩ := List.mem_map.mp hs
    exact absurd h (not_isUnfit_text n)
  · exact hrefused

theorem members_of_isUnfit (h : IsUnfit s) (axis : Axis) : members s axis = throw .badInput := by
  rw [members, name_of_isUnfit h]
  rfl

/-- A request that checks a name which cannot be handed over stops there. -/
theorem perform_of_isUnfit {q : Query} (hs : s ∈ q.checked draw) (h : IsUnfit s) :
    perform draw q = throw .badInput := by
  cases q with
  | createBlock | closeBlock | blockSize | resizeBlock | members | waiting | topicKind =>
    obtain rfl := List.mem_singleton.mp hs
    change name s >>= _ = _
    rw [name_of_isUnfit h]
    rfl
  | addMember block axis member | removeMember block axis member =>
    obtain rfl | hmember := List.mem_cons.mp hs
    · change name s >>= _ = _
      rw [name_of_isUnfit h]
      rfl
    · -- The block's name is checked first; refused or not, the result is the same.
      obtain rfl := List.mem_singleton.mp hmember
      refine name_bind_of_refused (fun n => ?_) block
      rw [name_of_isUnfit h]
      rfl
  | occupancy a | value a | range a | markerDirty a | markerPosition a | sinceMarker a =>
    change stream a >>= _ = _
    rw [stream_of_isUnfit hs h]
    rfl
  | itemFrame | topicFrame =>
    obtain rfl := List.mem_singleton.mp hs
    change members s _ >>= _ = _
    rw [members_of_isUnfit h]
    rfl
  | blockNames => contradiction

/-- What is left of a frame whose second name is refused: it is empty if the block has no names of
the kind, and refused if it has some. -/
def listingOnly (block : String) (axis : Axis) : Adapted (List (String × Sample)) :=
  members block axis >>= fun names => if names.size = 0 then pure [] else throw .badInput

theorem listing_bind_of_refused (block : String) (axis : Axis)
    {f : NameSet → Name → Adapted (List (String × Sample))}
    (hf : ∀ names n, f names n = throw .badInput) :
    (members block axis >>= fun names =>
      if names.size = 0 then pure [] else name block >>= f names) = listingOnly block axis := by
  refine congrArg (members block axis >>= ·) (funext fun names => ?_)
  rw [name_bind_of_refused (hf names)]

theorem itemFrame_of_isUnfit {topic : String} (h : IsUnfit topic) (block : String) (kind : Kind)
    (stamped : Bool) : itemFrame block topic kind stamped = listingOnly block .item := by
  refine listing_bind_of_refused block .item fun names n => ?_
  rw [name_of_isUnfit h]
  rfl

theorem topicFrame_of_isUnfit {item : String} (h : IsUnfit item) (block : String)
    (stamped : Bool) : topicFrame block item stamped = listingOnly block .topic := by
  refine listing_bind_of_refused block .topic fun names n => ?_
  rw [name_of_isUnfit h]
  rfl

/-- The result of a listing without a frame, by the result of the listing. -/
def concludeListing : Except Overflow (Except Status NameSet) →
    Except Overflow (Except Status (List (String × Sample)))
  | .ok (.ok names) => .ok (if names.size = 0 then .ok [] else .error .badInput)
  | .ok (.error status) => .ok (.error status)
  | .error o => .error o

/-- It makes the calls of the listing. -/
theorem listingOnly_outcome {σ : Type} (h : Handler library σ) (s : σ) (block : String)
    (axis : Axis) :
    let listing := (members block axis).run.run
    (listingOnly block axis).run.run.log h s = listing.log h s ∧
      (listingOnly block axis).run.run.run h s =
        (concludeListing (listing.run h s).1, (listing.run h s).2) := by
  intro listing
  have hrun : (listingOnly block axis).run.run =
      listing >>= fun result => .done (concludeListing result) := by
    rw [listingOnly, Adapted.run_bind]
    refine congrArg (listing >>= ·) (funext fun result => ?_)
    obtain o | status | names := result
    · rfl
    · rfl
    · change (if names.size = 0 then pure [] else throw .badInput : Adapted _).run.run = _
      rw [concludeListing]
      split <;> rfl
  rw [hrun, log_bind, run_bind]
  exact ⟨List.append_nil _, rfl⟩

end Adapter

/-- **Names are checked before they are handed over.** A request with a name that cannot be handed
over is refused without a call, unless it is a frame and the name is its second one. Such a frame
makes the calls that list the names in its block, and is empty if there are none, refused if there
are some. Whatever the names, each call is handed names of the request as they are. -/
theorem names_checked_first {σ : Type} (h : Handler library σ) (s : σ) (draw : String) :
    (∀ q, ∀ name ∈ q.checked draw, IsUnfit name →
      (Adapter.perform draw q).run.run.log h s = [] ∧
        (Adapter.perform draw q).run.run.run h s = (.ok (.error .badInput), s)) ∧
    (∀ block topic kind stamped, IsUnfit topic →
      let listing := (Adapter.members block .item).run.run
      let frame := (Adapter.perform draw (.itemFrame block topic kind stamped)).run.run
      frame.log h s = listing.log h s ∧
        frame.run h s = (Adapter.concludeListing (listing.run h s).1, (listing.run h s).2)) ∧
    (∀ block item stamped, IsUnfit item →
      let listing := (Adapter.members block .topic).run.run
      let frame := (Adapter.perform draw (.topicFrame block item stamped)).run.run
      frame.log h s = listing.log h s ∧
        frame.run h s = (Adapter.concludeListing (listing.run h s).1, (listing.run h s).2)) ∧
    ∀ q, ∀ x ∈ (Adapter.perform draw q).run.run.log h s,
      (Call.names x.request).map (·.text) <+: q.names draw := by
  refine ⟨fun q name hname hunfit => ?_, fun block topic kind stamped hunfit => ?_,
    fun block item stamped hunfit => ?_, fun q x hx => ?_⟩
  · rw [Adapter.perform_of_isUnfit hname hunfit]
    exact ⟨rfl, rfl⟩
  · rw [Adapter.perform, Adapter.itemFrame_of_isUnfit hunfit]
    exact Adapter.listingOnly_outcome h s block .item
  · rw [Adapter.perform, Adapter.topicFrame_of_isUnfit hunfit]
    exact Adapter.listingOnly_outcome h s block .topic
  · exact (Program.Yields.of_mem_log (Adapter.yields_perform draw q) hx).names

/-- A name with a zero character costs no call where it is checked; a frame that needs it makes the
call for the number of names. -/
theorem names_checked_first_zero :
    let listing := (Adapter.members "BLK" .topic).run.run
    let frame := (Adapter.perform "" (.topicFrame "BLK" "A\x00" false)).run.run
    let add := (Adapter.perform "" (.addMember "BLK" .item "A\x00")).run.run
    IsUnfit "A\x00" ∧ add.log Scripted.reply {} = [] ∧
      add.run Scripted.reply {} = (.ok (.error .badInput), {}) ∧
      frame.log Scripted.reply {} = listing.log Scripted.reply {} ∧
      (listing.log Scripted.reply {}).length = 1 := by
  intro listing frame add
  obtain ⟨hchecked, -, hframe, -⟩ := names_checked_first Scripted.reply {} ""
  have hunfit : IsUnfit "A\x00" := by decide
  obtain ⟨hlog, hrun⟩ := hchecked (.addMember "BLK" .item "A\x00") _
    (List.mem_cons_of_mem _ List.mem_cons_self) hunfit
  exact ⟨hunfit, hlog, hrun, (hframe "BLK" _ false hunfit).1, by decide +kernel⟩

/-- A topic of forty characters. The frame of a block without items is empty, the frame of a block
with an item is refused after two calls. -/
theorem exists_call_with_unfit_name :
    let topic := String.ofList (List.replicate 40 'X')
    let frame := (Adapter.perform "" (.itemFrame "BLK" topic .long false)).run.run
    let filled : Scripted := { items := { texts := [[0x53]] } }
    IsUnfit topic ∧ (frame.run Scripted.reply {}).1 = .ok (.ok []) ∧
      (frame.log Scripted.reply {}).length = 1 ∧
      (frame.run Scripted.reply filled).1 = .ok (.error .badInput) ∧
      (frame.log Scripted.reply filled).length = 2 := by
  intro topic frame filled
  exact ⟨by decide +kernel, rfl, rfl, rfl, by decide +kernel⟩

end Foreign

end TickerTape
