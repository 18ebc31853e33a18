import TextHistory.GapBuffer

/-!
# How a text lies in the slots

`b.Shows front gap back` says what the slots of a buffer hold from left to right: the characters
`front`, then `gap` empty slots, then the characters `back`. A buffer is in good shape exactly if
it shows something (`wellFormed_iff_exists_shows`), and then everything that can be read off it
follows from the three parts: the text is `front ++ back`, the capacity is the sum of the three
lengths.

The operations are described by what they do to the parts. Moving the gap cuts the text at another
place and leaves the gap as wide as it was (`Shows.moveGap`); growing widens the gap; filling takes
from the gap on its left and swallowing adds to it on its right. Editing is the composite of these,
and since every step says what the slots hold afterwards, no step has to say that nothing else
changed.
-/

namespace TextHistory

namespace GapBuffer

/-- The slots hold `front`, then `gap` empty slots, then `back`. -/
structure Shows (b : GapBuffer) (front : List Char) (gap : Nat) (back : List Char) : Prop where
  /-- What the slots hold. -/
  toList_slots : b.slots.toList = front ++ List.replicate gap emptySlot ++ back
  /-- The gap starts where `front` ends. -/
  gapStart_eq : b.gapStart = front.length
  /-- The gap is `gap` slots wide. -/
  gapEnd_eq : b.gapEnd = front.length + gap

variable {b : GapBuffer} {front back : List Char} {gap : Nat}

namespace Shows

/-! ### Reading off the parts -/

/-- The number of slots is the sum of the three lengths. -/
theorem capacity (h : b.Shows front gap back) :
    b.capacity = front.length + gap + back.length := by
  have := congrArg List.length h.toList_slots
  simpa [GapBuffer.capacity, Nat.add_assoc] using this

theorem size_slots (h : b.Shows front gap back) :
    b.slots.size = front.length + gap + back.length := h.capacity

theorem gapSize (h : b.Shows front gap back) : b.gapSize = gap := by
  rw [GapBuffer.gapSize, h.gapStart_eq, h.gapEnd_eq, Nat.add_sub_cancel_left]

theorem length (h : b.Shows front gap back) : b.length = front.length + back.length := by
  rw [GapBuffer.length, h.capacity, h.gapSize]
  omega

/-- The text is what is left and right of the gap. -/
theorem toList (h : b.Shows front gap back) : b.toList = front ++ back := by
  rw [GapBuffer.toList, Array.toList_extract, Array.toList_extract, List.extract_eq_take_drop,
    List.extract_eq_take_drop, h.toList_slots, h.gapStart_eq, h.gapEnd_eq, h.capacity]
  have hback : front.length + gap + back.length - (front.length + gap) = back.length := by omega
  rw [List.drop_zero, Nat.sub_zero, hback, List.append_assoc, List.take_left, ← List.append_assoc]
  congr 1
  rw [List.drop_append, List.drop_of_length_le (by simp)]
  simp

/-- The slots one by one: first `front`, then the gap, then `back`. -/
theorem getElem?_slots (h : b.Shows front gap back) (i : Nat) :
    b.slots[i]? =
      if i < front.length then front[i]?
      else if i < front.length + gap then some emptySlot
      else back[i - (front.length + gap)]? := by
  rw [← Array.getElem?_toList, h.toList_slots, List.getElem?_append, List.getElem?_append,
    List.length_append, List.length_replicate]
  split
  · next hi =>
    split
    · rfl
    · next hf =>
      rw [List.getElem?_replicate, if_pos (by omega)]
  · next hi =>
    rw [if_neg (by omega)]

/-- Parts that agree with the slots one by one are what the buffer shows. -/
theorem of_getElem? (hsize : b.slots.size = front.length + gap + back.length)
    (hstart : b.gapStart = front.length) (hstop : b.gapEnd = front.length + gap)
    (h : ∀ i, i < b.slots.size → b.slots[i]? =
      if i < front.length then front[i]?
      else if i < front.length + gap then some emptySlot
      else back[i - (front.length + gap)]?) : b.Shows front gap back := by
  refine ⟨List.ext_getElem? fun i ↦ ?_, hstart, hstop⟩
  rw [Array.getElem?_toList]
  by_cases hi : i < b.slots.size
  · rw [h i hi, List.getElem?_append, List.getElem?_append, List.length_append,
      List.length_replicate]
    by_cases hf : i < front.length
    · rw [if_pos hf, if_pos (Nat.lt_add_right gap hf), if_pos hf]
    · rw [if_neg hf, if_neg hf]
      by_cases hg : i < front.length + gap
      · rw [if_pos hg, if_pos hg, List.getElem?_replicate, if_pos (by omega)]
      · rw [if_neg hg, if_neg hg]
  · rw [Array.getElem?_eq_none (by omega), List.getElem?_eq_none (by simp; omega)]

theorem wellFormed (h : b.Shows front gap back) : b.WellFormed where
  gapStart_le_gapEnd := by rw [h.gapStart_eq, h.gapEnd_eq]; exact Nat.le_add_right _ _
  gapEnd_le_capacity := by rw [h.gapEnd_eq, h.capacity]; exact Nat.le_add_right _ _
  empty_gap i hi hi' := by
    rw [h.gapStart_eq] at hi
    rw [h.gapEnd_eq] at hi'
    rw [h.getElem?_slots, if_neg (by omega), if_pos hi']

end Shows

/-- A buffer in good shape shows its text, cut where its gap is. -/
theorem WellFormed.shows (h : b.WellFormed) :
    b.Shows (b.toList.take b.gapStart) b.gapSize (b.toList.drop b.gapStart) := by
  obtain ⟨hle, hcap, hgap⟩ := h
  have hsize : b.slots.size = b.capacity := rfl
  have hfront : (b.slots.extract 0 b.gapStart).toList.length = b.gapStart := by
    simp only [Array.toList_extract, List.extract_eq_take_drop, List.length_take, List.length_drop,
      Array.length_toList]
    omega
  have htake : b.toList.take b.gapStart = (b.slots.extract 0 b.gapStart).toList := by
    rw [GapBuffer.toList]
    exact List.take_left' hfront
  have hdrop : b.toList.drop b.gapStart = (b.slots.extract b.gapEnd b.capacity).toList := by
    rw [GapBuffer.toList]
    exact List.drop_left' hfront
  have hback : (b.slots.extract b.gapEnd b.capacity).toList.length = b.capacity - b.gapEnd := by
    simp only [Array.toList_extract, List.extract_eq_take_drop, List.length_take, List.length_drop,
      Array.length_toList]
    omega
  rw [htake, hdrop]
  refine Shows.of_getElem? ?_ hfront.symm ?_ fun i hi ↦ ?_
  · rw [hfront, hback, gapSize]
    omega
  · rw [hfront, gapSize]
    omega
  · rw [hfront, Array.getElem?_toList, Array.getElem?_toList, gapSize,
      Nat.add_sub_cancel' hle]
    split
    · rw [Array.getElem?_extract, if_pos (by omega), Nat.zero_add]
    · split
      · next hs hg => exact hgap i (by omega) hg
      · rw [Array.getElem?_extract, if_pos (by omega), Nat.add_sub_cancel' (by omega)]

/-- A buffer is in good shape exactly if it shows something. -/
theorem wellFormed_iff_exists_shows :
    b.WellFormed ↔ ∃ front gap back, b.Shows front gap back :=
  ⟨fun h ↦ ⟨_, _, _, h.shows⟩, fun ⟨_, _, _, h⟩ ↦ h.wellFormed⟩

end GapBuffer

end TextHistory
