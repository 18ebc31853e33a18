import TextHistory.Proofs.GapBuffer.Equality

/-!
# The slots are canonical

A text can lie in an array in as many ways as there are places for the gap, and the slots of the gap
could hold anything. Of all these arrays a buffer only ever has one: `laidOut` makes it from the
text, the capacity and the place of the gap, and a buffer in good shape is what `laidOut` makes of
its own three (`WellFormed.eq_laidOut`).

So a buffer has no memory. Buffers that agree in the three are equal slot by slot, although one may
have come by them through a long history and the other may be new. What was deleted, or moved with
the gap, is not in the array any more: a character stands in the slots as often as in the text, and
nothing but marks of empty slots comes on top (`WellFormed.count_slots`).

The place of the gap is known from the last edit (`WellFormed.gapStart_of_apply`), which completes
the picture. The text and the capacity are what a reader can ask for anyway.
-/

namespace TextHistory

namespace GapBuffer

/-- A text in `capacity` slots, with the gap at offset `gapStart`. -/
def laidOut (cs : List Char) (capacity gapStart : Nat) : GapBuffer :=
  let gap := capacity - cs.length
  ⟨(cs.take gapStart ++ List.replicate gap emptySlot ++ cs.drop gapStart).toArray, gapStart,
    gapStart + gap⟩

/-- The gap is empty and as wide as the text leaves it, and no slot holds anything that does not
follow from the text, the capacity and the place of the gap. -/
structure Canonical (b : GapBuffer) : Prop where
  /-- The gap does not end before it starts. -/
  gapStart_le_gapEnd : b.gapStart ≤ b.gapEnd
  /-- The gap does not end past the array. -/
  gapEnd_le_capacity : b.gapEnd ≤ b.capacity
  /-- The slots of the gap are empty. -/
  empty_gap : ∀ i, b.gapStart ≤ i → i < b.gapEnd → b.slots[i]? = some emptySlot
  /-- The gap is what the text leaves of the slots. -/
  gapSize_eq : b.gapSize = b.capacity - b.length
  /-- The gap is at an offset of the text. -/
  gapStart_le_length : b.gapStart ≤ b.length
  /-- The slots are those of the text around the gap. -/
  eq_laidOut : b = laidOut b.toList b.capacity b.gapStart
  /-- A character is in the slots as often as in the text, if it is not the mark of the gap. -/
  count_slots : ∀ c, b.slots.count c = b.toList.count c + if c = emptySlot then b.gapSize else 0

variable {a b : GapBuffer} {front back : List Char} {gap : Nat}

theorem Shows.eq_laidOut (h : b.Shows front gap back) :
    b = laidOut (front ++ back) b.capacity b.gapStart := by
  obtain ⟨slots, gapStart, gapEnd⟩ := b
  have hgap : front.length + gap + back.length - (front ++ back).length = gap := by
    rw [List.length_append]
    omega
  have hslots : slots = (front ++ List.replicate gap emptySlot ++ back).toArray := by
    rw [← h.toList_slots, Array.toArray_toList]
  have hstart : gapStart = front.length := h.gapStart_eq
  have hend : gapEnd = front.length + gap := h.gapEnd_eq
  rw [laidOut, h.capacity, hgap]
  simp only [hslots, hstart, hend, List.take_left, List.drop_left]

namespace WellFormed

/-- **The slots** follow from the text, the capacity and the place of the gap. -/
theorem eq_laidOut (h : b.WellFormed) : b = laidOut b.toList b.capacity b.gapStart := by
  obtain ⟨front, gap, back, hs⟩ := wellFormed_iff_exists_shows.1 h
  rw [hs.toList]
  exact hs.eq_laidOut

/-- **Nothing survives** in the slots but the text. -/
theorem count_slots (h : b.WellFormed) (c : Char) :
    b.slots.count c = b.toList.count c + if c = emptySlot then b.gapSize else 0 := by
  obtain ⟨front, gap, back, hs⟩ := wellFormed_iff_exists_shows.1 h
  rw [← Array.count_toList, hs.toList_slots, hs.toList, hs.gapSize, List.count_append,
    List.count_append, List.count_append, List.count_replicate]
  simp only [beq_iff_eq, eq_comm (a := c)]
  omega

theorem canonical (h : b.WellFormed) : b.Canonical where
  gapStart_le_gapEnd := h.gapStart_le_gapEnd
  gapEnd_le_capacity := h.gapEnd_le_capacity
  empty_gap := h.empty_gap
  gapSize_eq := by
    obtain ⟨front, gap, back, hs⟩ := wellFormed_iff_exists_shows.1 h
    rw [hs.gapSize, hs.length, hs.capacity]
    omega
  gapStart_le_length := by
    obtain ⟨front, gap, back, hs⟩ := wellFormed_iff_exists_shows.1 h
    rw [hs.gapStart_eq, hs.length]
    exact Nat.le_add_right _ _
  eq_laidOut := h.eq_laidOut
  count_slots := h.count_slots

/-- Buffers that agree in text, capacity and place of the gap are the same. -/
theorem eq_of_toList (ha : a.WellFormed) (hb : b.WellFormed) (htext : a.toList = b.toList)
    (hcapacity : a.capacity = b.capacity) (hgap : a.gapStart = b.gapStart) : a = b := by
  calc a = laidOut a.toList a.capacity a.gapStart := ha.eq_laidOut
    _ = laidOut b.toList b.capacity b.gapStart := by rw [htext, hcapacity, hgap]
    _ = b := hb.eq_laidOut.symm

end WellFormed

/-- A run of edits leads to buffers that can be made. -/
theorem Reachable.run (h : b.Reachable) (es : List Edit) : (b.run es).Reachable :=
  run_induction (fun _ _ _ hb h ↦ h.edit hb) h es

/-- **A gap buffer keeps no deleted text.** Every buffer that can be made is canonical. Its gap is
where the last edit left it, or behind the text if there was none; and two buffers with the same
text, capacity and place of the gap have the same slots, whatever edits they went through. -/
theorem canonical_of_reachable :
    (∀ b : GapBuffer, b.Reachable → b.Canonical ∧
      ∀ (e : Edit) (b' : GapBuffer), b.apply e = .ok b' →
        b'.gapStart = match e with
          | .insert offset text => offset + text.length
          | .delete offset count => if count = 0 then b.gapStart else offset) ∧
      (∀ capacity, (empty capacity).gapStart = 0) ∧
      (∀ text capacity, (ofString text capacity).gapStart = text.length) ∧
      ∀ a b : GapBuffer, a.Reachable → b.Reachable → a.text = b.text → a.capacity = b.capacity →
        a.gapStart = b.gapStart → a.slots = b.slots ∧ a = b := by
  refine ⟨fun b h ↦ ⟨h.wellFormed.canonical, fun e b' hb ↦ ?_⟩, fun _ ↦ rfl, fun text _ ↦ ?_,
    fun a b ha hb htext hcapacity hgap ↦ ?_⟩
  · rw [h.wellFormed.gapStart_of_apply hb]
    cases e <;> rfl
  · rw [(shows_ofString text _).gapStart_eq, String.length_toList]
  · have heq : a = b :=
      ha.wellFormed.eq_of_toList hb.wellFormed (text_eq_iff.1 htext) hcapacity hgap
    exact ⟨congrArg slots heq, heq⟩

/-- A buffer that has grown for a longer text, and lost it, is a buffer that never held it. -/
theorem canonical_of_reachable_deleted :
    let a := (empty 4).run
      [.insert 0 "password", .delete 2 9, .insert 1 "c", .delete 0 1, .insert 1 "b"]
    let b := (ofString "ca" 12).run [.insert 1 "b"]
    a.Reachable ∧ b.Reachable ∧ a.text = b.text ∧ a.capacity = b.capacity ∧
      a.gapStart = b.gapStart ∧ a.slots = b.slots ∧ a.slots.count 'p' = 0 ∧ a.gapSize = 9 ∧
      ∃ a', a.apply (.delete 0 2) = .ok a' ∧ a'.gapStart = 0 := by
  intro a b
  have ha : a.Reachable := (Reachable.empty 4).run _
  have hb : b.Reachable := (Reachable.ofString "ca" 12).run _
  have htext : a.text = b.text := text_eq_iff.2 (by decide)
  have hcapacity : a.capacity = b.capacity := by decide
  have hgap : a.gapStart = b.gapStart := by decide
  obtain ⟨hcanonical, -, -, hslots⟩ := canonical_of_reachable
  have hnone : a.toList.count 'p' = 0 := by decide
  have hcount : a.slots.count 'p' = 0 := by
    rw [(hcanonical a ha).1.count_slots, hnone, if_neg (by decide)]
  have hdelete : ∃ a', a.apply (.delete 0 2) = .ok a' := ⟨_, rfl⟩
  obtain ⟨a', ha'⟩ := hdelete
  exact ⟨ha, hb, htext, hcapacity, hgap, (hslots a b ha hb htext hcapacity hgap).1, hcount,
    by decide, a', ha', (hcanonical a ha).2 _ a' ha'⟩

end GapBuffer

end TextHistory
