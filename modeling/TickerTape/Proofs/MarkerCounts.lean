import TickerTape.Proofs.StreamLedger

/-!
# What the count of a marker read tells

With the samples of a marker read the engine gives their number, negated when unread records were
lost: when some were overwritten before the read, or when it skips some for want of room. But zero
has no sign. A marker read that gives samples tells of every loss, and one that gives none tells of
no loss: a dirty stream is then clean although nobody was told, or records for which there was no
room are no longer unread.

## Main definitions

* `TickerTape.Engine.Stream.behind` — the unread records from a slot on.
* `TickerTape.Engine.Stream.Loses` — the marker reads to which records are lost.

## Main results

* `TickerTape.Engine.Stream.neg_of_fetch_iff` — when the count is negative.
* `TickerTape.Engine.Exchange.count_of_sinceMarker` — the count after any events.
* `TickerTape.Engine.Exchange.exists_untold_loss` — losses of which the count does not tell.
-/

namespace TickerTape.Engine

namespace Stream

/-- The unread records in the slots from `first`, most recent first. -/
def behind (s : Stream) (first : Nat) : List Record := (s.records.take s.unread).drop first

/-- A marker read down to slot `first` with some room loses records: the stream is dirty, or there
is not enough room. -/
def Loses (s : Stream) (first room : Nat) : Prop := s.lost = true ∨ room < (s.behind first).length

variable {s s' : Stream} {first room : Nat} {kind : Kind} {stamped : Bool} {found : MarkerRead}

theorem length_behind (hle : s.unread ≤ s.records.length) (first : Nat) :
    (s.behind first).length = s.unread - first := by
  simp [behind, Nat.min_eq_left hle]

/-- The unread records are those from a slot on, and the more recent ones. -/
theorem pending_eq_behind (s : Stream) (first : Nat) :
    s.pending = (s.behind first).reverse ++ ((s.records.take s.unread).take first).reverse := by
  rw [pending, behind, ← List.reverse_append, List.take_append_drop]

/-- Of the unread records from the slot on, oldest first, a marker read skips those for which there
is no room and gives the others. It leaves the unread records that are more recent. -/
theorem given_of_fetch (hle : s.unread ≤ s.records.length)
    (h : s.fetch first room kind stamped = .ok (found, s')) :
    ∃ skipped given, (s.behind first).reverse = skipped ++ given ∧
      skipped.length = (s.behind first).length - room ∧
      given.mapM (Record.give kind stamped) = .ok found.samples ∧
      found.samples.length = min (s.behind first).length room ∧
      s'.pending = ((s.records.take s.unread).take first).reverse := by
  obtain ⟨skipped, given, hsplit, hgive, hlen, hskipped, -⟩ := pending_of_fetch hle h
  obtain ⟨hrecords, hunread, -⟩ := of_fetch_eq_ok h
  have hleft : s'.pending = ((s.records.take s.unread).take first).reverse := by
    rw [pending, hrecords, hunread, List.take_take, Nat.min_comm]
  rw [pending_eq_behind s first, hleft] at hsplit
  rw [length_behind hle]
  exact ⟨skipped, given, List.append_cancel_right hsplit, hskipped, hgive, hlen, hleft⟩

theorem count_of_fetch (hle : s.unread ≤ s.records.length)
    (h : s.fetch first room kind stamped = .ok (found, s')) :
    (s.Loses first room → found.got = -(found.samples.length : Int)) ∧
      (¬ s.Loses first room → found.got = found.samples.length) := by
  obtain ⟨_, _, -, -, -, -, hgot⟩ := pending_of_fetch hle h
  unfold Loses
  rw [length_behind hle, hgot]
  by_cases hloses : s.lost = true ∨ room < s.unread - first
  · simp [hloses]
  · simp [hloses]

/-- The count is negative when records are lost and there is a sample to be counted. -/
theorem neg_of_fetch_iff (hle : s.unread ≤ s.records.length)
    (h : s.fetch first room kind stamped = .ok (found, s')) :
    found.got < 0 ↔ s.Loses first room ∧ found.samples ≠ [] := by
  obtain ⟨hloses, hkeeps⟩ := count_of_fetch hle h
  rw [← List.length_pos_iff]
  constructor
  · intro hneg
    have hl : s.Loses first room := by
      by_contra hl
      have := hkeeps hl
      omega
    have := hloses hl
    exact ⟨hl, by omega⟩
  · rintro ⟨hl, hpos⟩
    have := hloses hl
    omega

/-- A dirty stream has nothing from a slot on when it holds nothing there: all that it holds is
unread. -/
theorem behind_eq_nil_iff_of_lost {capacity : Nat} (hs : s.Sound capacity) (hl : s.lost = true) :
    s.behind first = [] ↔ s.occupancy ≤ first := by
  rw [← List.length_eq_zero_iff, length_behind hs.unread_le, hs.unread_of_lost hl, occupancy_eq]
  omega

/-- Records are lost without a sign when a dirty stream holds nothing from the slot on, or when
there is no room at all. -/
theorem untold_iff {capacity : Nat} (hs : s.Sound capacity)
    (h : s.fetch first room kind stamped = .ok (found, s')) :
    0 ≤ found.got ∧ s.Loses first room ↔
      s.lost = true ∧ s.occupancy ≤ first ∨
        room = 0 ∧ (s.lost = true ∨ s.behind first ≠ []) := by
  obtain ⟨_, _, -, -, -, hlen, -⟩ := given_of_fetch hs.unread_le h
  have hnone : found.samples = [] ↔ s.behind first = [] ∨ room = 0 := by
    rw [← List.length_eq_zero_iff, hlen, ← List.length_eq_zero_iff]
    omega
  have hsign : 0 ≤ found.got ↔ s.Loses first room → found.samples = [] := by
    rw [← Int.not_lt, neg_of_fetch_iff hs.unread_le h]
    tauto
  rw [hsign, hnone]
  constructor
  · rintro ⟨huntold, hloses⟩
    rcases huntold hloses with hnil | rfl
    · have hl : s.lost = true := hloses.resolve_right (by simp [hnil])
      exact .inl ⟨hl, (behind_eq_nil_iff_of_lost hs hl).mp hnil⟩
    · exact .inr ⟨rfl, hloses.imp_right List.length_pos_iff.mp⟩
  · rintro (⟨hl, hocc⟩ | ⟨rfl, hloses⟩)
    · exact ⟨fun _ => .inl ((behind_eq_nil_iff_of_lost hs hl).mpr hocc), .inl hl⟩
    · exact ⟨fun _ => .inr rfl, hloses.imp_right List.length_pos_iff.mpr⟩

end Stream

namespace Exchange

/-- **What the count of a marker read tells.** Take a marker read that succeeds, in any state that
an exchange can reach. Of the unread records from its slot on, oldest first, it skips those for
which there is no room and gives the others; the more recent ones stay unread, and the stream is
clean. The count has the number of the samples. It is negative when there are samples and records
are lost, before the read or in it; when it is positive none are.

So records are lost untold in two cases: the stream is dirty and holds nothing from the slot on, or
there is no room at all. -/
theorem count_of_sinceMarker {e : Exchange} (he : e.Reachable) {draw : String} {a : Address}
    {first room : Nat} {kind : Kind} {stamped : Bool} {found : MarkerRead} {e' : Exchange}
    (h : e.perform draw (.sinceMarker a first room kind stamped) = .ok (found, e')) :
    ∃ b s b' s' skipped given, e.block a.block = .ok b ∧ b.stream (pair a) = .ok s ∧
      e'.block a.block = .ok b' ∧ b'.stream (pair a) = .ok s' ∧
      (s.behind first).reverse = skipped ++ given ∧
      skipped.length = (s.behind first).length - room ∧
      given.mapM (b.give kind stamped) = .ok found.samples ∧
      s'.pending = ((s.records.take s.unread).take first).reverse ∧ s'.lost = false ∧
      found.got.natAbs = found.samples.length ∧
      (found.got < 0 ↔ s.Loses first room ∧ found.samples ≠ []) ∧
      (0 < found.got → s.lost = false ∧ skipped = []) ∧
      (0 ≤ found.got ∧ s.Loses first room ↔
        s.lost = true ∧ s.occupancy ≤ first ∨
          room = 0 ∧ (s.lost = true ∨ s.behind first ≠ [])) := by
  obtain ⟨b, b', hb, hfetch, rfl⟩ := exists_of_perform_sinceMarker h
  obtain ⟨-, s, s', hs, hread, rfl⟩ := Block.fetch_eq_ok_iff.mp hfetch
  have hsound : s.Sound b.size := (he.sound.of_block_eq_ok hb).of_stream_eq_ok hs
  obtain ⟨hloses, hkeeps⟩ := Stream.count_of_fetch hsound.unread_le hread
  obtain ⟨skipped, given, hsplit, hskipped, hgive, -, hleft⟩ :=
    Stream.given_of_fetch hsound.unread_le hread
  refine ⟨b, s, _, s', skipped, given, hb, hs, block_setBlock_self (block_eq_ok_iff.mp hb).1,
    Block.stream_replace hs s', hsplit, hskipped, hgive, hleft, (Stream.of_fetch_eq_ok hread).2.2,
    ?_, Stream.neg_of_fetch_iff hsound.unread_le hread, fun hpos => ?_,
    Stream.untold_iff hsound hread⟩
  · by_cases hl : s.Loses first room
    · rw [hloses hl, Int.natAbs_neg, Int.natAbs_natCast]
    · rw [hkeeps hl, Int.natAbs_natCast]
  · have hnone : ¬ s.Loses first room := fun hl => by
      have := hloses hl
      omega
    obtain ⟨hclean, hroom⟩ := not_or.mp hnone
    refine ⟨Bool.eq_false_iff.mpr hclean, List.length_eq_zero_iff.mp ?_⟩
    omega

/-- A stream of two slots to which three records were written. -/
theorem count_of_sinceMarker_dirty :
    let e := oneStream.after (([1, 2, 3] : List Int).map fun n =>
      .publish ⟨"X", "VOLUME"⟩ ⟨.long n, ⟨n, 0⟩⟩)
    ∃ found e', e.Reachable ∧
      e.perform "" (.sinceMarker ⟨"B", "X", "VOLUME"⟩ 0 10 .long false) = .ok (found, e') ∧
      found = ⟨[⟨.long 2, none⟩, ⟨.long 3, none⟩], -2⟩ ∧
      ∃ b s, e.block "B" = .ok b ∧ b.stream ⟨"X", "VOLUME"⟩ = .ok s ∧ s.Loses 0 10 := by
  intro e
  have he : e.Reachable := Reachable.after ⟨_, rfl⟩ _
  obtain ⟨e', h⟩ : ∃ e', e.perform "" (.sinceMarker ⟨"B", "X", "VOLUME"⟩ 0 10 .long false) =
    .ok (⟨[⟨.long 2, none⟩, ⟨.long 3, none⟩], -2⟩, e') := ⟨_, rfl⟩
  obtain ⟨b, s, -, -, -, -, hb, hs, -, -, -, -, -, -, -, -, hneg, -, -⟩ := count_of_sinceMarker he h
  exact ⟨_, e', he, h, rfl, b, s, hb, hs, (hneg.mp (by decide)).1⟩

/-- Losses of which the count does not tell: a dirty stream that was cut to one slot is read from
the next one on and is then clean, and an unread record is dropped by a read without room. -/
theorem exists_untold_loss :
    let cut := oneStream.after [.publish ⟨"X", "VOLUME"⟩ ⟨.long 1, .zero⟩,
      .publish ⟨"X", "VOLUME"⟩ ⟨.long 2, .zero⟩, .request "" (.query (.resizeBlock "B" 1)),
      .request "" (.query (.resizeBlock "B" 2))]
    let filled := oneStream.after [.publish ⟨"X", "VOLUME"⟩ ⟨.long 1, .zero⟩]
    (∃ b s e' b' s', cut.Reachable ∧ cut.block "B" = .ok b ∧
      b.stream ⟨"X", "VOLUME"⟩ = .ok s ∧ s.lost = true ∧
      cut.perform "" (.sinceMarker ⟨"B", "X", "VOLUME"⟩ 1 10 .long false) = .ok (⟨[], 0⟩, e') ∧
      e'.block "B" = .ok b' ∧ b'.stream ⟨"X", "VOLUME"⟩ = .ok s' ∧ s'.lost = false) ∧
    ∃ b s e' b' s', filled.Reachable ∧ filled.block "B" = .ok b ∧
      b.stream ⟨"X", "VOLUME"⟩ = .ok s ∧ s.pending = [⟨.long 1, .zero⟩] ∧
      filled.perform "" (.sinceMarker ⟨"B", "X", "VOLUME"⟩ 0 0 .long false) = .ok (⟨[], 0⟩, e') ∧
      e'.block "B" = .ok b' ∧ b'.stream ⟨"X", "VOLUME"⟩ = .ok s' ∧ s'.pending = [] := by
  intro cut filled
  refine ⟨⟨_, _, _, _, _, Reachable.after ⟨_, rfl⟩ _, rfl, rfl, ?_, rfl, rfl, rfl, ?_⟩,
    _, _, _, _, _, Reachable.after ⟨_, rfl⟩ _, rfl, rfl, ?_, rfl, rfl, rfl, ?_⟩
  all_goals rfl

end Exchange

end TickerTape.Engine
