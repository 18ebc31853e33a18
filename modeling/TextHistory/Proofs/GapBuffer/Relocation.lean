import TextHistory.Proofs.GapBuffer.Canonical
import TextHistory.Proofs.GapBuffer.Checked

/-!
# Moving the gap

Moving the gap copies one stretch of slots over another and marks the slots that were left. The two
stretches overlap if the way is longer than the gap is wide, at one end when the gap goes to the
left and at the other when it goes to the right. A slot that was marked although something has just
been copied into it would be a lost character; a slot that was not marked would be a character in
the gap. `Relocated` says what the slots have to be instead: the text around the new place, with a
gap of the old width in between.

What is relocated is determined (`WellFormed.relocated_iff`), because it is what `laidOut` makes of
the text, of the capacity and of the new place, and a move keeps the first two. The old place does
not enter. So it does not matter where the gap was before: a move undoes every move that came before
it (`WellFormed.moveGap_foldl`), and the move back to where the gap started from restores the
buffer.
-/

namespace TextHistory

namespace GapBuffer

/-- The buffer `b'` is `b` with its gap at `offset`: the same text in as many slots, with all the
slots of the gap between the first `offset` characters and the others. -/
structure Relocated (b : GapBuffer) (offset : Nat) (b' : GapBuffer) : Prop where
  /-- The text is the same. -/
  toList_eq : b'.toList = b.toList
  /-- There are as many slots. -/
  capacity_eq : b'.capacity = b.capacity
  /-- The gap is as wide. -/
  gapSize_eq : b'.gapSize = b.gapSize
  /-- The slots from left to right. -/
  toList_slots : b'.slots.toList =
    b.toList.take offset ++ List.replicate b.gapSize emptySlot ++ b.toList.drop offset
  /-- The gap starts behind the first `offset` characters. -/
  gapStart_eq : b'.gapStart = offset
  /-- The gap ends before the others. -/
  gapEnd_eq : b'.gapEnd = offset + b.gapSize
  /-- The gap lies inside the array, and its slots are empty. -/
  wellFormed : b'.WellFormed

variable {b b' : GapBuffer} {offset p q : Nat}

namespace WellFormed

/-- A move leaves what can be laid out anew, without a look at where the gap was. -/
theorem moveGap_eq_laidOut (h : b.WellFormed) (hoffset : offset ≤ b.length) :
    b.moveGap offset = laidOut b.toList b.capacity offset := by
  have hs := h.shows_moveGap hoffset
  have hstart : (b.moveGap offset).gapStart = offset := by
    rw [hs.gapStart_eq, List.length_take, h.length_toList, Nat.min_eq_left hoffset]
  calc b.moveGap offset
      = laidOut (b.toList.take offset ++ b.toList.drop offset) (b.moveGap offset).capacity
          (b.moveGap offset).gapStart := hs.eq_laidOut
    _ = laidOut b.toList b.capacity offset := by
      rw [List.take_append_drop, capacity_moveGap, hstart]

theorem toList_moveGap (h : b.WellFormed) (hoffset : offset ≤ b.length) :
    (b.moveGap offset).toList = b.toList := by
  rw [(h.shows_moveGap hoffset).toList, List.take_append_drop]

theorem length_moveGap (h : b.WellFormed) (hoffset : offset ≤ b.length) :
    (b.moveGap offset).length = b.length := by
  rw [← (h.moveGap hoffset).length_toList, h.toList_moveGap hoffset, h.length_toList]

/-- **The step.** A move relocates the gap. -/
theorem relocated_moveGap (h : b.WellFormed) (hoffset : offset ≤ b.length) :
    b.Relocated offset (b.moveGap offset) := by
  have hs := h.shows_moveGap hoffset
  have hfront : (b.toList.take offset).length = offset := by
    rw [List.length_take, h.length_toList, Nat.min_eq_left hoffset]
  exact {
    toList_eq := h.toList_moveGap hoffset
    capacity_eq := capacity_moveGap b offset
    gapSize_eq := hs.gapSize
    toList_slots := hs.toList_slots
    gapStart_eq := by rw [hs.gapStart_eq, hfront]
    gapEnd_eq := by rw [hs.gapEnd_eq, hfront]
    wellFormed := hs.wellFormed }

/-- Nothing but the move relocates the gap: the slots and the two ends of the gap are all that there
is to a buffer. -/
theorem relocated_iff (h : b.WellFormed) (hoffset : offset ≤ b.length) :
    b.Relocated offset b' ↔ b' = b.moveGap offset := by
  have hmoved := h.relocated_moveGap hoffset
  refine ⟨fun hb ↦ ?_, fun heq ↦ heq ▸ hmoved⟩
  exact hb.wellFormed.eq_of_toList hmoved.wellFormed (hb.toList_eq.trans hmoved.toList_eq.symm)
    (hb.capacity_eq.trans hmoved.capacity_eq.symm) (hb.gapStart_eq.trans hmoved.gapStart_eq.symm)

/-- **Path independence.** A move forgets the move before it. -/
theorem moveGap_moveGap (h : b.WellFormed) (hp : p ≤ b.length) (hq : q ≤ b.length) :
    (b.moveGap p).moveGap q = b.moveGap q := by
  have hq' : q ≤ (b.moveGap p).length := by rwa [h.length_moveGap hp]
  calc (b.moveGap p).moveGap q
      = laidOut (b.moveGap p).toList (b.moveGap p).capacity q :=
        (h.moveGap hp).moveGap_eq_laidOut hq'
    _ = laidOut b.toList b.capacity q := by rw [h.toList_moveGap hp, capacity_moveGap]
    _ = b.moveGap q := (h.moveGap_eq_laidOut hq).symm

/-- **The run.** A move forgets all the moves before it. -/
theorem moveGap_foldl (h : b.WellFormed) {ps : List Nat} (hps : ∀ p ∈ ps, p ≤ b.length)
    (hq : q ≤ b.length) : (ps.foldl GapBuffer.moveGap b).moveGap q = b.moveGap q := by
  induction ps generalizing b with
  | nil => rfl
  | cons p ps ih =>
    obtain ⟨hp, hps⟩ := List.forall_mem_cons.1 hps
    have hlen := h.length_moveGap hp
    rw [List.foldl_cons, ih (h.moveGap hp) (by rwa [hlen]) (by rwa [hlen]),
      h.moveGap_moveGap hp hq]

theorem gapStart_le_length (h : b.WellFormed) : b.gapStart ≤ b.length :=
  h.canonical.gapStart_le_length

end WellFormed

/-- The gap can be moved to where it is. -/
@[simp] theorem moveGap_gapStart (b : GapBuffer) : b.moveGap b.gapStart = b := by
  rw [moveGap, if_neg (Nat.lt_irrefl _), if_neg (Nat.lt_irrefl _)]

/-- **Moving the gap is pure relocation.** Take any buffer whose gap lies inside its slots and is
empty, however wide the gap is. Moving the gap to any offset of the text goes through in machine
words and relocates the gap, and no other buffer would be right. Moves on the way make no
difference: after any moves the gap comes to the same buffer as if it went straight to the last
place, and moving it back to the first place gives the first buffer. -/
theorem relocation (h : b.WellFormed) :
    (∀ p ≤ b.length, b.Relocated p (b.moveGap p) ∧ (∀ b', b.Relocated p b' → b' = b.moveGap p) ∧
      (b.capacity < maxWord → b.moveGapChecked p = .ok (b.moveGap p))) ∧
    (∀ p ≤ b.length, ∀ q ≤ b.length, (b.moveGap p).moveGap q = b.moveGap q) ∧
    ∀ ps : List Nat, (∀ p ∈ ps, p ≤ b.length) →
      (∀ q ≤ b.length, (ps.foldl moveGap b).moveGap q = b.moveGap q) ∧
      (ps.foldl moveGap b).moveGap b.gapStart = b := by
  refine ⟨fun p hp ↦ ⟨h.relocated_moveGap hp, fun b' ↦ (h.relocated_iff hp).1, fun hcap ↦ ?_⟩,
    fun p hp q hq ↦ h.moveGap_moveGap hp hq,
    fun ps hps ↦ ⟨fun q hq ↦ h.moveGap_foldl hps hq, ?_⟩⟩
  · exact Addressable.moveGapChecked_eq ⟨h, hcap⟩ hp
  · rw [h.moveGap_foldl hps h.gapStart_le_length, moveGap_gapStart]

/-- A gap of one slot goes over four characters, to the right and then to the left, so that nearly
all of what is copied is copied over itself. -/
theorem relocation_narrow :
    let b : GapBuffer := ⟨#['a', emptySlot, 'b', 'c', 'd', 'e'], 1, 2⟩
    b.WellFormed ∧ (b.moveGap 5).slots.toList = ['a', 'b', 'c', 'd', 'e', emptySlot] ∧
      (b.moveGap 5).moveGap 0 = b.moveGap 0 ∧
      (b.moveGap 0).slots.toList = [emptySlot, 'a', 'b', 'c', 'd', 'e'] ∧
      ((b.moveGap 5).moveGap 0).moveGap 1 = b ∧ b.moveGapChecked 5 = .ok (b.moveGap 5) := by
  intro b
  have hb : b.WellFormed := by
    refine ⟨by decide, by decide, fun i hi hi' ↦ ?_⟩
    obtain rfl : i = 1 := Nat.le_antisymm (Nat.le_of_lt_succ hi') hi
    rfl
  have hlen : 5 ≤ b.length := by decide
  obtain ⟨hmove, hpath, hrun⟩ := relocation hb
  obtain ⟨hright, -, hchecked⟩ := hmove 5 hlen
  obtain ⟨hleft, -, -⟩ := hmove 0 (Nat.zero_le _)
  obtain ⟨-, hback⟩ := hrun [5, 0] (by decide)
  exact ⟨hb, hright.toList_slots, hpath 5 hlen 0 (Nat.zero_le _), hleft.toList_slots, hback,
    hchecked (by decide)⟩

end GapBuffer

end TextHistory
