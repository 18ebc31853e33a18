import TextHistory.GapBuffer.Layout

/-!
# What edits do to a gap buffer

For each operation, what the buffer shows afterwards if it showed something before. From this
follow the two facts that the rest of the library builds on: inserting and deleting do to the text
what they do to a list (`toList_of_insert`, `toList_of_delete`), and they fail exactly for the
offsets that the list does not have (`insert_eq_error_iff`, `delete_eq_error_iff`).

A new buffer is in good shape, and edits keep it so; so every buffer that is ever made has the
shape that these facts ask for.
-/

namespace TextHistory

namespace GapBuffer

variable {b : GapBuffer} {front back : List Char} {gap : Nat}

/-! ### New buffers -/

theorem shows_empty (capacity : Nat) : (empty capacity).Shows [] capacity [] :=
  ⟨by simp [empty], rfl, (Nat.zero_add _).symm⟩

theorem shows_ofString (text : String) (capacity : Nat) :
    (ofString text capacity).Shows text.toList (capacity - text.toList.length) [] := by
  refine ⟨by simp [ofString], by simp [ofString], ?_⟩
  simp only [ofString, List.size_toArray]
  omega

theorem wellFormed_empty (capacity : Nat) : (empty capacity).WellFormed :=
  (shows_empty capacity).wellFormed

theorem wellFormed_ofString (text : String) (capacity : Nat) :
    (ofString text capacity).WellFormed := (shows_ofString text capacity).wellFormed

@[simp] theorem toList_ofString (text : String) (capacity : Nat) :
    (ofString text capacity).toList = text.toList := by
  rw [(shows_ofString text capacity).toList, List.append_nil]

/-! ### The gap -/

namespace Shows

/-- Moving the gap cuts the text at another place. -/
theorem moveGap (h : b.Shows front gap back) {offset : Nat}
    (hoffset : offset ≤ front.length + back.length) :
    (b.moveGap offset).Shows ((front ++ back).take offset) gap ((front ++ back).drop offset) := by
  have hsize := h.size_slots
  have hstart := h.gapStart_eq
  have hstop := h.gapEnd_eq
  have hlen : ((front ++ back).take offset).length = offset := by
    rw [List.length_take, List.length_append]
    omega
  have hrest : ((front ++ back).drop offset).length = front.length + back.length - offset := by
    rw [List.length_drop, List.length_append]
  rw [GapBuffer.moveGap]
  split
  · next hlt =>
    -- the gap moves to the left, over the end of `front`
    refine of_getElem? (by simp [hsize, hlen, hrest]; omega) hlen.symm
      (by rw [hlen]; dsimp only; omega) fun i hi ↦ ?_
    simp only [Slots.size_clear, Slots.size_copyWithin] at hi
    rw [hlen, Slots.getElem?_clear _ _ (by simpa using hi), Slots.getElem?_copyWithin _ _ hi,
      List.getElem?_take, List.getElem?_drop, List.getElem?_append, List.getElem?_append]
    by_cases hi₁ : i < offset
    · rw [if_neg (by omega), if_neg (by omega), if_pos hi₁, if_pos hi₁, if_pos (by omega),
        h.getElem?_slots, if_pos (by omega)]
    · rw [if_neg hi₁]
      by_cases hi₂ : i < offset + gap
      · rw [if_pos (by omega), if_pos hi₂]
      · rw [if_neg (by omega), if_neg hi₂]
        by_cases hi₃ : i < front.length + gap
        · rw [if_pos (by omega), if_pos (by omega), Array.getD_eq_getD_getElem?,
            h.getElem?_slots, if_pos (by omega),
            List.getElem?_eq_getElem (show offset + (i - (b.gapEnd - (b.gapStart - offset))) <
              front.length by omega), Option.getD_some,
            List.getElem?_eq_getElem (show offset + (i - (offset + gap)) < front.length by omega)]
          congr 2
          omega
        · rw [if_neg (by omega), if_neg (by omega), h.getElem?_slots, if_neg (by omega),
            if_neg hi₃]
          congr 1
          omega
  · split
    · next hge hgt =>
      -- the gap moves to the right, over the start of `back`
      refine of_getElem? (by simp [hsize, hlen, hrest]; omega) hlen.symm
        (by rw [hlen]; dsimp only; omega) fun i hi ↦ ?_
      simp only [Slots.size_clear, Slots.size_copyWithin] at hi
      rw [hlen, Slots.getElem?_clear _ _ (by simpa using hi), Slots.getElem?_copyWithin _ _ hi,
        List.getElem?_take, List.getElem?_drop, List.getElem?_append, List.getElem?_append]
      by_cases hi₁ : i < front.length
      · rw [if_neg (by omega), if_neg (by omega), if_pos (by omega), if_pos (by omega),
          if_pos hi₁, h.getElem?_slots, if_pos hi₁]
      · by_cases hi₂ : i < offset
        · rw [if_neg (by omega), if_pos (by omega), if_pos hi₂, if_pos hi₂, if_neg hi₁,
            Array.getD_eq_getD_getElem?, h.getElem?_slots, if_neg (by omega), if_neg (by omega),
            List.getElem?_eq_getElem
              (show b.gapEnd + (i - b.gapStart) - (front.length + gap) < back.length by omega),
            Option.getD_some,
            List.getElem?_eq_getElem (show i - front.length < back.length by omega)]
          congr 2
          omega
        · rw [if_neg hi₂]
          by_cases hi₃ : i < offset + gap
          · rw [if_pos (by omega), if_pos hi₃]
          · rw [if_neg (by omega), if_neg (by omega), if_neg hi₃, if_neg (by omega),
              h.getElem?_slots, if_neg (by omega), if_neg (by omega)]
            congr 1
            omega
    · next hge hle =>
      -- the gap is there already
      have hoff : offset = front.length := by omega
      rw [hoff, List.take_left, List.drop_left]
      exact h

/-- Growing widens the gap to what the grown capacity leaves. -/
theorem grow (h : b.Shows front gap back) (needed : Nat) :
    (b.grow needed).Shows front
      (grownCapacity b.capacity needed - (front.length + back.length)) back := by
  have hcap := h.capacity
  have hge : b.capacity ≤ grownCapacity b.capacity needed :=
    Nat.le_trans (Nat.le_add_right _ _) (Nat.le_max_right _ _)
  have hsuffix : b.capacity - b.gapEnd = back.length := by rw [h.gapEnd_eq, hcap]; omega
  refine ⟨?_, h.gapStart_eq, ?_⟩
  · simp only [GapBuffer.grow, Array.toList_append, Array.toList_extract, Array.toList_replicate,
      List.extract_eq_take_drop, h.toList_slots, h.gapStart_eq, hsuffix, Nat.sub_zero,
      List.drop_zero]
    congr 1
    · congr 1
      · rw [List.append_assoc, List.take_left]
      · congr 1
        omega
    · rw [List.drop_left' (by simp [h.gapEnd_eq])]
      exact List.take_of_length_le (by omega)
  · simp only [GapBuffer.grow, hsuffix]
    omega

/-- Making room widens the gap, if it is too narrow. -/
theorem reserve (h : b.Shows front gap back) (needed : Nat) :
    (b.reserve needed).Shows front
      (if gap < needed then grownCapacity b.capacity needed - (front.length + back.length)
        else gap) back := by
  rw [GapBuffer.reserve, h.gapSize]
  split
  · exact h.grow needed
  · exact h

theorem capacity_reserve (h : b.Shows front gap back) (needed : Nat) :
    (b.reserve needed).capacity =
      if gap < needed then grownCapacity b.capacity needed else b.capacity := by
  have hcap := h.capacity
  have hge : b.capacity ≤ grownCapacity b.capacity needed :=
    Nat.le_trans (Nat.le_add_right _ _) (Nat.le_max_right _ _)
  rw [(h.reserve needed).capacity]
  split <;> omega

/-- There is room after making room. -/
theorem le_gapSize_reserve (h : b.Shows front gap back) (needed : Nat) :
    needed ≤ (b.reserve needed).gapSize := by
  have hcap := h.capacity
  rw [(h.reserve needed).gapSize]
  split
  · have : b.capacity + needed ≤ grownCapacity b.capacity needed := Nat.le_max_right _ _
    omega
  · omega

/-- Filling takes the gap's first slots. -/
theorem fill (h : b.Shows front gap back) {chars : Array Char} (hroom : chars.size ≤ gap) :
    (b.fill chars).Shows (front ++ chars.toList) (gap - chars.size) back := by
  have hsize := h.size_slots
  have hlen : (front ++ chars.toList).length = front.length + chars.size := by simp
  refine of_getElem? (by simp [GapBuffer.fill, hsize]; omega)
    (by simp [GapBuffer.fill, h.gapStart_eq])
    (by simp [GapBuffer.fill, h.gapEnd_eq]; omega) fun i hi ↦ ?_
  simp only [GapBuffer.fill, Slots.size_writeAt] at hi ⊢
  rw [Slots.getElem?_writeAt _ _ hi, h.gapStart_eq, hlen, List.getElem?_append, h.getElem?_slots]
  by_cases hi₁ : i < front.length
  · rw [if_neg (by omega), if_pos hi₁, if_pos (by omega), if_pos hi₁]
  · by_cases hi₂ : i < front.length + chars.size
    · rw [if_pos (by omega), if_pos hi₂, if_neg hi₁, Array.getElem?_toList,
        Array.getD_eq_getD_getElem?,
        Array.getElem?_eq_getElem (show i - front.length < chars.size by omega), Option.getD_some]
    · rw [if_neg (by omega), if_neg hi₁, if_neg hi₂]
      by_cases hi₃ : i < front.length + gap
      · rw [if_pos hi₃, if_pos (by omega)]
      · rw [if_neg hi₃, if_neg (by omega)]
        congr 1
        omega

/-- Swallowing adds the first slots of `back` to the gap. -/
theorem swallow (h : b.Shows front gap back) {count : Nat} (hcount : count ≤ back.length) :
    (b.swallow count).Shows front (gap + count) (back.drop count) := by
  have hsize := h.size_slots
  have hstop := h.gapEnd_eq
  have hcap := h.capacity
  have hnew : min (b.gapEnd + count) b.capacity = front.length + (gap + count) := by omega
  refine of_getElem? (by simp [GapBuffer.swallow, hsize]; omega) h.gapStart_eq hnew
    fun i hi ↦ ?_
  simp only [GapBuffer.swallow, Slots.size_clear] at hi ⊢
  rw [Slots.getElem?_clear _ _ hi, hnew, h.getElem?_slots, List.getElem?_drop]
  by_cases hi₁ : i < front.length
  · rw [if_neg (by omega), if_pos hi₁, if_pos hi₁]
  · rw [if_neg hi₁, if_neg hi₁]
    by_cases hi₂ : i < front.length + gap
    · rw [if_neg (by omega), if_pos hi₂, if_pos (by omega)]
    · by_cases hi₃ : i < front.length + (gap + count)
      · rw [if_pos (by omega), if_pos hi₃]
      · rw [if_neg (by omega), if_neg hi₂, if_neg hi₃]
        congr 1
        omega

end Shows

/-! ### Inserting and deleting -/

/-- Dropping more than there is drops what there is. -/
theorem drop_add_min (cs : List Char) (offset count : Nat) :
    cs.drop (offset + min count (cs.length - offset)) = cs.drop (offset + count) := by
  by_cases hc : count ≤ cs.length - offset
  · rw [Nat.min_eq_left hc]
  · rw [List.drop_of_length_le (by omega), List.drop_of_length_le (by omega)]

/-- The number of characters is the length of the text. -/
theorem WellFormed.length_toList (h : b.WellFormed) : b.toList.length = b.length := by
  obtain ⟨_, _, _, hs⟩ := wellFormed_iff_exists_shows.1 h
  rw [hs.toList, hs.length, List.length_append]

/-- What a buffer shows after inserting: the gap stands behind the new characters. -/
theorem WellFormed.shows_of_insert (h : b.WellFormed) {offset : Nat} {text : String}
    {b' : GapBuffer} (hb : b.insert offset text = .ok b') :
    b'.Shows (b.toList.take offset ++ text.toList)
      ((if b.gapSize < text.toList.length then
          grownCapacity b.capacity text.toList.length - b.length
        else b.gapSize) - text.toList.length)
      (b.toList.drop offset) := by
  obtain ⟨front, gap, back, hs⟩ := wellFormed_iff_exists_shows.1 h
  rw [GapBuffer.insert] at hb
  split at hb
  · simp at hb
  · next hle =>
    simp only [Except.ok.injEq] at hb
    subst hb
    rw [hs.length] at hle
    have hm := hs.moveGap (Nat.le_of_not_lt hle)
    have hr := hm.reserve text.toList.toArray.size
    have hroom := hm.le_gapSize_reserve text.toList.toArray.size
    rw [hr.gapSize] at hroom
    have hf := hr.fill hroom
    have hlen : ((front ++ back).take offset).length + ((front ++ back).drop offset).length =
        b.length := by
      rw [← List.length_append, List.take_append_drop, List.length_append, hs.length]
    have hcap : (b.moveGap offset).capacity = b.capacity := by
      rw [hm.capacity, hs.capacity]
      rw [hs.length] at hlen
      omega
    rw [hlen, hcap, ← hs.gapSize, ← hs.toList] at hf
    simpa using hf

/-- What a buffer shows after deleting: the gap stands where the characters stood. -/
theorem WellFormed.shows_of_delete (h : b.WellFormed) {offset count : Nat} (hcount : 0 < count)
    {b' : GapBuffer} (hb : b.delete offset count = .ok b') :
    b'.Shows (b.toList.take offset) (b.gapSize + min count (b.length - offset))
      (b.toList.drop (offset + count)) := by
  obtain ⟨front, gap, back, hs⟩ := wellFormed_iff_exists_shows.1 h
  rw [GapBuffer.delete, if_neg (by omega)] at hb
  split at hb
  · simp at hb
  · next hlt =>
    simp only [Except.ok.injEq] at hb
    subst hb
    rw [hs.length] at hlt
    have hm := hs.moveGap (Nat.le_of_lt (Nat.lt_of_not_le hlt))
    have hback : min count (b.length - offset) ≤ ((front ++ back).drop offset).length := by
      rw [List.length_drop, List.length_append, hs.length]
      omega
    have hsw := hm.swallow hback
    rwa [List.drop_drop, ← hs.toList, ← hs.gapSize, ← h.length_toList, drop_add_min,
      h.length_toList] at hsw

/-- Inserting fails exactly for an offset past the end. -/
theorem insert_eq_error_iff {offset : Nat} {text : String} {e : AddressError} :
    b.insert offset text = .error e ↔ b.length < offset ∧ e = b.outOfBounds offset := by
  rw [GapBuffer.insert]
  split
  · next h => simp [h, eq_comm]
  · next h => simp [h]

/-- Inserting succeeds exactly for an offset up to the end. -/
theorem exists_insert_iff {offset : Nat} {text : String} :
    (∃ b', b.insert offset text = .ok b') ↔ offset ≤ b.length := by
  rw [GapBuffer.insert]
  split
  · next h => simp [h]
  · next h => simp [Nat.le_of_not_lt h]

/-- Deleting fails exactly for an offset that has nothing to delete, the end counting as one if
nothing is to be deleted. -/
theorem delete_eq_error_iff {offset count : Nat} {e : AddressError} :
    b.delete offset count = .error e ↔
      (b.length < offset ∨ 0 < count ∧ b.length = offset) ∧ e = b.outOfBounds offset := by
  rw [GapBuffer.delete]
  split
  · next h =>
    subst h
    split
    · next h => simp [h, eq_comm]
    · next h => simp [h]
  · next h =>
    split
    · next hle =>
      exact ⟨fun h' ↦ ⟨by omega, (Except.error.inj h').symm⟩, fun h' ↦ congrArg _ h'.2.symm⟩
    · next hle =>
      have : ¬(b.length < offset ∨ 0 < count ∧ b.length = offset) := by omega
      simp [this]

theorem WellFormed.insert (h : b.WellFormed) {offset : Nat} {text : String} {b' : GapBuffer}
    (hb : b.insert offset text = .ok b') : b'.WellFormed := (h.shows_of_insert hb).wellFormed

theorem delete_zero {offset : Nat} {b' : GapBuffer} (hb : b.delete offset 0 = .ok b') :
    b' = b := by
  rw [GapBuffer.delete, if_pos rfl] at hb
  split at hb
  · simp at hb
  · exact (Except.ok.inj hb).symm

theorem WellFormed.delete (h : b.WellFormed) {offset count : Nat} {b' : GapBuffer}
    (hb : b.delete offset count = .ok b') : b'.WellFormed := by
  rcases Nat.eq_zero_or_pos count with rfl | hcount
  · exact delete_zero hb ▸ h
  · exact (h.shows_of_delete hcount hb).wellFormed

/-- Inserting into the buffer inserts into the text. -/
theorem WellFormed.toList_of_insert (h : b.WellFormed) {offset : Nat} {text : String}
    {b' : GapBuffer} (hb : b.insert offset text = .ok b') :
    b'.toList = b.toList.take offset ++ text.toList ++ b.toList.drop offset :=
  (h.shows_of_insert hb).toList

/-- Deleting from the buffer deletes from the text. -/
theorem WellFormed.toList_of_delete (h : b.WellFormed) {offset count : Nat} {b' : GapBuffer}
    (hb : b.delete offset count = .ok b') :
    b'.toList = b.toList.take offset ++ b.toList.drop (offset + count) := by
  rcases Nat.eq_zero_or_pos count with rfl | hcount
  · rw [delete_zero hb, Nat.add_zero, List.take_append_drop]
  · exact (h.shows_of_delete hcount hb).toList

theorem WellFormed.apply (h : b.WellFormed) {e : Edit} {b' : GapBuffer}
    (hb : b.apply e = .ok b') : b'.WellFormed := by
  cases e with
  | insert offset text => exact h.insert hb
  | delete offset count => exact h.delete hb

/-- What every edit that goes through keeps, a run of edits keeps, since an edit that fails changes
nothing. -/
theorem run_induction {P : GapBuffer → Prop}
    (hstep : ∀ b e b', b.apply e = .ok b' → P b → P b') (h : P b) (es : List Edit) :
    P (b.run es) := by
  induction es generalizing b with
  | nil => exact h
  | cons e es ih =>
    refine ih ?_
    cases hb : b.apply e with
    | error => exact h
    | ok b' => exact hstep b e b' hb h

/-- A run of edits keeps a buffer in good shape. -/
theorem WellFormed.run (h : b.WellFormed) (es : List Edit) : (b.run es).WellFormed :=
  run_induction (fun _ _ _ hb h ↦ h.apply hb) h es

/-! ### Reading -/

/-- The character at an offset is that of the text. -/
theorem WellFormed.charAt_eq_ok_iff (h : b.WellFormed) {offset : Nat} {c : Char} :
    b.charAt offset = .ok c ↔ b.toList[offset]? = some c := by
  obtain ⟨front, gap, back, hs⟩ := wellFormed_iff_exists_shows.1 h
  rw [charAt, hs.toList, hs.length]
  split
  · next hle =>
    rw [List.getElem?_eq_none (by rw [List.length_append]; exact hle)]
    simp
  · next hlt =>
    rw [slotOf, hs.gapStart_eq, hs.gapSize, Array.getD_eq_getD_getElem?, hs.getElem?_slots,
      List.getElem?_append]
    by_cases hf : offset < front.length
    · rw [if_pos hf, if_pos hf, if_pos hf, List.getElem?_eq_getElem hf]
      simp
    · rw [if_neg hf, if_neg (by omega), if_neg (by omega), if_neg hf,
        show offset + gap - (front.length + gap) = offset - front.length by omega,
        List.getElem?_eq_getElem (show offset - front.length < back.length by omega)]
      simp

/-- Reading a stretch that the text has gives that stretch. -/
theorem WellFormed.read_eq (h : b.WellFormed) {offset count : Nat}
    (hle : offset + count ≤ b.length) :
    b.read offset count = .ok ((b.toList.drop offset).take count) := by
  induction count generalizing offset with
  | zero => simp [read]
  | succ count ih =>
    have hlt : offset < b.toList.length := by
      rw [h.length_toList]
      omega
    have hc := h.charAt_eq_ok_iff.2 (List.getElem?_eq_getElem hlt)
    rw [read, hc, List.drop_eq_getElem_cons hlt, List.take_succ_cons]
    simp only [bind, Except.bind, ih (show offset + 1 + count ≤ b.length by omega)]
    rfl

end GapBuffer

end TextHistory
