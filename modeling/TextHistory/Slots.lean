/-!
# Slots

The backing array of a gap buffer, seen as slots. A slot that holds no character is marked by
`emptySlot`; a text may contain that character too, so the mark is tidiness and never a test.

Three bulk operations suffice: copy a stretch of slots to another place of the same array,
overwrite a stretch with characters, and clear a stretch. Each keeps the number of slots and is
described slot by slot (`getElem?_copyWithin`, `getElem?_writeAt`, `getElem?_clear`). A copy
reads every slot as it was before the copy, so overlapping stretches need no care.
-/

namespace TextHistory

/-- The mark of a slot that holds no character. -/
def emptySlot : Char := '\x00'

namespace Slots

variable (slots : Array Char)

/-- Copies the `count` slots from `source` on to the slots from `target` on. -/
def copyWithin (source count target : Nat) : Array Char :=
  Array.ofFn fun i : Fin slots.size ↦
    if target ≤ i.val ∧ i.val < target + count then
      slots.getD (source + (i.val - target)) emptySlot
    else slots[i]

/-- Writes characters into the slots from `start` on. -/
def writeAt (start : Nat) (chars : Array Char) : Array Char :=
  Array.ofFn fun i : Fin slots.size ↦
    if start ≤ i.val ∧ i.val < start + chars.size then chars.getD (i.val - start) emptySlot
    else slots[i]

/-- Marks the slots from `start` up to `stop` as empty. -/
def clear (start stop : Nat) : Array Char :=
  Array.ofFn fun i : Fin slots.size ↦
    if start ≤ i.val ∧ i.val < stop then emptySlot else slots[i]

/-! ### Slot by slot -/

@[simp] theorem size_copyWithin (source count target : Nat) :
    (copyWithin slots source count target).size = slots.size := by
  simp [copyWithin]

@[simp] theorem size_writeAt (start : Nat) (chars : Array Char) :
    (writeAt slots start chars).size = slots.size := by
  simp [writeAt]

@[simp] theorem size_clear (start stop : Nat) : (clear slots start stop).size = slots.size := by
  simp [clear]

theorem getElem?_copyWithin {source count target : Nat} (i : Nat) (hi : i < slots.size) :
    (copyWithin slots source count target)[i]? =
      if target ≤ i ∧ i < target + count then some (slots.getD (source + (i - target)) emptySlot)
      else slots[i]? := by
  rw [copyWithin, Array.getElem?_ofFn, dif_pos hi]
  split <;> simp [hi]

theorem getElem?_writeAt {start : Nat} {chars : Array Char} (i : Nat) (hi : i < slots.size) :
    (writeAt slots start chars)[i]? =
      if start ≤ i ∧ i < start + chars.size then some (chars.getD (i - start) emptySlot)
      else slots[i]? := by
  rw [writeAt, Array.getElem?_ofFn, dif_pos hi]
  split <;> simp [hi]

theorem getElem?_clear {start stop : Nat} (i : Nat) (hi : i < slots.size) :
    (clear slots start stop)[i]? =
      if start ≤ i ∧ i < stop then some emptySlot else slots[i]? := by
  rw [clear, Array.getElem?_ofFn, dif_pos hi]
  split <;> simp [hi]

end Slots

end TextHistory
