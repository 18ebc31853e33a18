import TextHistory.GapBuffer.Editing
import TextHistory.Proofs.Checked

/-!
# Gap buffers in machine words

Each operation of a gap buffer, written out once more as a checked program: one machine operation
after the other, in the order in which a machine takes them. A buffer is `Safe` if the checked
programs come to what the operations come to. So no sum is too large for a word, no difference is
negative, every slot and stretch that is named exists, and what the operations say is not something
that an unchecked step made up.

A buffer is `Bounded` if it was made by a constructor and by edits, and if at every insertion the
capacity and the text together stayed below half of a word. Every such buffer is safe
(`Bounded.safe`), whatever offsets and counts it is asked for. Two invariants are behind this
(`Addressable`): the gap lies inside the slots, and the slots can be counted. An offset from outside
is compared with the length before anything is added to it, and a count is cut off at what is left
of the text before it is added to anything. So it does not matter how large they are, and the cut at
the last slot that a deletion makes once more never finds anything to cut (`Safe.swallow_uncut`).
-/

namespace TextHistory

/-! ### Slots -/

namespace Slots

open Checked

variable (slots : Array Char)

/-- Copies the slots from `start` up to `stop` to the slots from `target` on. -/
def copyWithinChecked (start stop target : Nat) : Checked (Array Char) := do
  stretch start stop slots.size
  stretch target (target + (stop - start)) slots.size
  return copyWithin slots start (stop - start) target

/-- Marks the slots from `start` up to `stop` as empty. -/
def clearChecked (start stop : Nat) : Checked (Array Char) := do
  stretch start stop slots.size
  return clear slots start stop

theorem copyWithinChecked_eq {slots : Array Char} {start stop target : Nat} (h : start ≤ stop)
    (hsource : stop ≤ slots.size) (htarget : target + (stop - start) ≤ slots.size) :
    copyWithinChecked slots start stop target =
      .ok (copyWithin slots start (stop - start) target) := by
  rw [copyWithinChecked, stretch_eq h hsource, ok_bind,
    stretch_eq (Nat.le_add_right _ _) htarget]
  rfl

theorem clearChecked_eq {slots : Array Char} {start stop : Nat} (h : start ≤ stop)
    (hstop : stop ≤ slots.size) : clearChecked slots start stop = .ok (clear slots start stop) := by
  rw [clearChecked, stretch_eq h hstop]
  rfl

end Slots

namespace GapBuffer

open Checked

variable (b : GapBuffer)

/-! ### Reading -/

/-- The number of slots in the gap. -/
def gapSizeChecked : Checked Nat := sub b.gapEnd b.gapStart

/-- The number of characters. -/
def lengthChecked : Checked Nat := do sub b.capacity (← b.gapSizeChecked)

/-- Refuses an offset. The length is part of the reason. -/
def refuseChecked {α : Type} (offset : Nat) : Checked α := do
  refuse (.outOfBounds offset (← b.lengthChecked))

/-- The slot that holds the character at an offset. -/
def slotOfChecked (offset : Nat) : Checked Nat :=
  if offset < b.gapStart then return offset else do add offset (← b.gapSizeChecked)

/-- The character at an offset. -/
def charAtChecked (offset : Nat) : Checked Char := do
  if (← b.lengthChecked) ≤ offset then b.refuseChecked offset
  else element b.slots (← b.slotOfChecked offset)

/-- The `count` characters from an offset on. The next offset is made before the character is
read. -/
def readChecked (offset : Nat) : Nat → Checked (List Char)
  | 0 => return []
  | count + 1 => do
    let next ← add offset 1
    let c ← b.charAtChecked offset
    let rest ← readChecked next count
    return c :: rest

/-- The text from offset `start` up to, not including, offset `stop`. -/
def substringChecked (start stop : Nat) : Checked String := do
  if stop < start then refuse (.invertedRange start stop)
  else
    let chars ← b.readChecked start (stop - start)
    return String.ofList chars

/-! ### The gap -/

/-- The buffer with its gap at an offset. -/
def moveGapChecked (offset : Nat) : Checked GapBuffer := do
  if offset = b.gapStart then return b
  else if offset < b.gapStart then
    let count ← sub b.gapStart offset
    let newEnd ← sub b.gapEnd count
    let slots ← Slots.copyWithinChecked b.slots offset b.gapStart newEnd
    let slots ← Slots.clearChecked slots offset newEnd
    return ⟨slots, offset, newEnd⟩
  else
    let count ← sub offset b.gapStart
    let newEnd ← add b.gapEnd count
    let slots ← Slots.copyWithinChecked b.slots b.gapEnd newEnd b.gapStart
    let slots ← Slots.clearChecked slots offset newEnd
    return ⟨slots, offset, newEnd⟩

/-- The buffer with its gap widened for `needed` characters. Doubling saturates. -/
def growChecked (needed : Nat) : Checked GapBuffer := do
  let wider ← add b.capacity needed
  let suffix ← sub b.capacity b.gapEnd
  stretch 0 b.gapStart b.capacity
  let newEnd ← sub (max (min (2 * b.capacity) maxWord) wider) suffix
  let added ← sub newEnd b.gapStart
  stretch b.gapEnd b.capacity b.capacity
  return ⟨b.slots.extract 0 b.gapStart ++ Array.replicate added emptySlot ++
      b.slots.extract b.gapEnd b.capacity,
    b.gapStart, newEnd⟩

/-- The buffer with room in its gap for `needed` characters. -/
def reserveChecked (needed : Nat) : Checked GapBuffer := do
  if (← b.gapSizeChecked) < needed then b.growChecked needed else return b

/-- Writes characters into the gap. -/
def fillChecked (chars : Array Char) : Checked GapBuffer := do
  let stop ← add b.gapStart chars.size
  stretch b.gapStart stop b.slots.size
  let slots := Slots.writeAt b.slots b.gapStart chars
  let newStart ← add b.gapStart chars.size
  return { b with slots := slots, gapStart := newStart }

/-- Lets the gap swallow the `count` characters after it, up to the last slot. -/
def swallowChecked (count : Nat) : Checked GapBuffer := do
  let stop ← add b.gapEnd count
  let slots ← Slots.clearChecked b.slots b.gapEnd (min stop b.capacity)
  return { b with slots := slots, gapEnd := min stop b.capacity }

/-! ### Editing -/

/-- The buffer with `text` inserted before the character at an offset. -/
def insertChecked (offset : Nat) (text : String) : Checked GapBuffer := do
  if (← b.lengthChecked) < offset then b.refuseChecked offset
  else
    let chars := text.toList.toArray
    let moved ← b.moveGapChecked offset
    let wide ← moved.reserveChecked chars.size
    wide.fillChecked chars

/-- The buffer without the `count` characters from an offset on. -/
def deleteChecked (offset count : Nat) : Checked GapBuffer := do
  if count = 0 then
    if (← b.lengthChecked) < offset then b.refuseChecked offset else return b
  else if (← b.lengthChecked) ≤ offset then b.refuseChecked offset
  else
    let rest ← sub (← b.lengthChecked) offset
    let moved ← b.moveGapChecked offset
    moved.swallowChecked (min count rest)

/-- No operation ends in a fault, and the checked ones come to the same as the others. -/
structure Safe : Prop where
  /-- Measuring the gap. -/
  gapSize : b.gapSizeChecked = .ok b.gapSize
  /-- Measuring the text. -/
  length : b.lengthChecked = .ok b.length
  /-- Reading at any offset. -/
  charAt : ∀ offset, b.charAtChecked offset = faultless (b.charAt offset)
  /-- Reading from any offset up to any other that is a machine word. -/
  substring : ∀ start stop, stop ≤ maxWord →
    b.substringChecked start stop = faultless (b.substring start stop)
  /-- Moving the gap to any place of the text. -/
  moveGap : ∀ offset, offset ≤ b.length → b.moveGapChecked offset = .ok (b.moveGap offset)
  /-- Growing for any number of characters that the bound allows. -/
  grow : ∀ needed, b.capacity + needed < halfWord → b.growChecked needed = .ok (b.grow needed)
  /-- Inserting at any offset a text that the bound allows. -/
  insert : ∀ offset text, b.capacity + text.length < halfWord →
    b.insertChecked offset text = faultless (b.insert offset text)
  /-- Deleting any number of characters from any offset on. -/
  delete : ∀ offset count, b.deleteChecked offset count = faultless (b.delete offset count)
  /-- What the gap swallows in a deletion ends at the last slot at most, so it is never cut off
  there. -/
  swallow_uncut : ∀ offset count, offset ≤ b.length →
    (b.moveGap offset).gapEnd + min count (b.length - offset) ≤ (b.moveGap offset).capacity

/-- At an insertion, the capacity and the text stay below half of a word. -/
def Edit.Fits (b : GapBuffer) : Edit → Prop
  | .insert _ text => b.capacity + text.length < halfWord
  | .delete _ _ => True

instance (b : GapBuffer) : (e : Edit) → Decidable (e.Fits b)
  | .insert _ text => inferInstanceAs (Decidable (b.capacity + text.length < halfWord))
  | .delete _ _ => inferInstanceAs (Decidable True)

/-- The buffer can be made, by a constructor or by an edit that goes through, with the capacity and
the inserted text always below half of a word. -/
inductive Bounded : GapBuffer → Prop
  /-- A buffer without text. -/
  | empty (capacity : Nat) (h : capacity < halfWord) : Bounded (.empty capacity)
  /-- A buffer with a text. -/
  | ofString (text : String) (capacity : Nat) (h : max capacity text.length < halfWord) :
      Bounded (.ofString text capacity)
  /-- The buffer that an edit makes. -/
  | edit {b b' : GapBuffer} {e : Edit} (h : Bounded b) (he : e.Fits b) (hb : b.apply e = .ok b') :
      Bounded b'

/-- The gap lies inside the slots, and the slots can be counted with one number to spare. -/
structure Addressable : Prop where
  /-- The buffer is in good shape. -/
  wellFormed : b.WellFormed
  /-- The number of slots is not the largest word. So one more than the number of characters, which
  is as many lines as there can be, is a word. -/
  capacity_lt : b.capacity < maxWord

variable {b}

/-! ### Capacities -/

@[simp] theorem capacity_moveGap (b : GapBuffer) (offset : Nat) :
    (b.moveGap offset).capacity = b.capacity := by
  rw [GapBuffer.moveGap]
  split
  · simp [capacity]
  · split <;> simp [capacity]

@[simp] theorem capacity_fill (b : GapBuffer) (chars : Array Char) :
    (b.fill chars).capacity = b.capacity := Slots.size_writeAt _ _ _

@[simp] theorem capacity_swallow (b : GapBuffer) (count : Nat) :
    (b.swallow count).capacity = b.capacity := Slots.size_clear _ _ _

/-- Deleting keeps the slots. -/
theorem capacity_of_delete {offset count : Nat} {b' : GapBuffer}
    (hb : b.delete offset count = .ok b') : b'.capacity = b.capacity := by
  rw [GapBuffer.delete] at hb
  split at hb
  · split at hb
    · exact absurd hb (by simp)
    · exact Except.ok.inj hb ▸ rfl
  · split at hb
    · exact absurd hb (by simp)
    · obtain rfl := Except.ok.inj hb
      rw [capacity_swallow, capacity_moveGap]

/-- What an insertion needs is the same before and after the gap is moved. -/
theorem capacity_moveGap_add_size (b : GapBuffer) (offset : Nat) (text : String) :
    (b.moveGap offset).capacity + text.toList.toArray.size = b.capacity + text.length := by
  rw [capacity_moveGap, List.size_toArray, String.length_toList]

theorem gapSize_add_length (h : b.WellFormed) : b.gapSize + b.length = b.capacity := by
  have hle := h.gapStart_le_gapEnd
  have hcap := h.gapEnd_le_capacity
  rw [GapBuffer.length, GapBuffer.gapSize]
  omega

namespace WellFormed

/-- Moving the gap cuts the text at another place. -/
theorem shows_moveGap (h : b.WellFormed) {offset : Nat} (hoffset : offset ≤ b.length) :
    (b.moveGap offset).Shows (b.toList.take offset) b.gapSize (b.toList.drop offset) := by
  have hs := h.shows
  rw [hs.length] at hoffset
  have hmoved := hs.moveGap hoffset
  rwa [List.take_append_drop] at hmoved

theorem moveGap (h : b.WellFormed) {offset : Nat} (hoffset : offset ≤ b.length) :
    (b.moveGap offset).WellFormed := (h.shows_moveGap hoffset).wellFormed

theorem reserve (h : b.WellFormed) (needed : Nat) : (b.reserve needed).WellFormed :=
  (h.shows.reserve needed).wellFormed

/-- Behind the gap there is as much text as behind the offset that it was moved to. -/
theorem gapEnd_moveGap_add (h : b.WellFormed) {offset : Nat} (hoffset : offset ≤ b.length) :
    (b.moveGap offset).gapEnd + (b.length - offset) = (b.moveGap offset).capacity := by
  have hs := h.shows_moveGap hoffset
  rw [hs.gapEnd_eq, hs.capacity, List.length_drop, h.length_toList]

/-- What is swallowed in a deletion is there. -/
theorem swallow_uncut (h : b.WellFormed) {offset : Nat} (hoffset : offset ≤ b.length)
    (count : Nat) :
    (b.moveGap offset).gapEnd + min count (b.length - offset) ≤ (b.moveGap offset).capacity := by
  have hrest := h.gapEnd_moveGap_add hoffset
  omega

end WellFormed

/-- A capacity that grows within the bound does not reach the largest word, since what is doubled
is less than half of it. -/
theorem grownCapacity_lt {capacity needed : Nat} (h : capacity + needed < halfWord) :
    grownCapacity capacity needed < maxWord := by
  have hword := two_mul_halfWord
  rw [grownCapacity]
  omega

/-! ### No faults -/

namespace WellFormed

theorem gapSizeChecked_eq (h : b.WellFormed) : b.gapSizeChecked = .ok b.gapSize :=
  sub_eq h.gapStart_le_gapEnd

theorem lengthChecked_eq (h : b.WellFormed) : b.lengthChecked = .ok b.length := by
  have hle : b.gapSize ≤ b.capacity := by
    rw [← gapSize_add_length h]
    exact Nat.le_add_right _ _
  rw [lengthChecked, h.gapSizeChecked_eq, ok_bind]
  exact sub_eq hle

theorem refuseChecked_eq {α : Type} (h : b.WellFormed) (offset : Nat) :
    b.refuseChecked offset = faultless (.error (b.outOfBounds offset) : Except _ α) := by
  rw [refuseChecked, h.lengthChecked_eq]
  rfl

theorem growChecked_eq (h : b.WellFormed) {needed : Nat}
    (hneeded : b.capacity + needed < halfWord) : b.growChecked needed = .ok (b.grow needed) := by
  have hword := two_mul_halfWord
  have hstart := h.gapStart_le_gapEnd
  have hend := h.gapEnd_le_capacity
  rw [growChecked, add_eq (by omega), ok_bind, sub_eq hend, ok_bind,
    stretch_eq (Nat.zero_le _) (by omega), ok_bind, sub_eq (by omega), ok_bind, sub_eq (by omega),
    ok_bind, stretch_eq hend (Nat.le_refl _)]
  rfl

theorem reserveChecked_eq (h : b.WellFormed) {needed : Nat}
    (hneeded : b.capacity + needed < halfWord) :
    b.reserveChecked needed = .ok (b.reserve needed) := by
  rw [reserveChecked, h.gapSizeChecked_eq, ok_bind, GapBuffer.reserve]
  split
  · exact h.growChecked_eq hneeded
  · rfl

theorem addressable_reserve (h : b.WellFormed) {needed : Nat}
    (hneeded : b.capacity + needed < halfWord) : (b.reserve needed).Addressable := by
  refine ⟨h.reserve needed, ?_⟩
  rw [h.shows.capacity_reserve]
  split
  · exact grownCapacity_lt hneeded
  · have hword := two_mul_halfWord
    omega

end WellFormed

namespace Addressable

/-- Every character has a slot, and its number is a word. -/
theorem slotOfChecked_eq (h : b.Addressable) {offset : Nat} (hoffset : offset < b.length) :
    b.slotOfChecked offset = .ok (b.slotOf offset) ∧ b.slotOf offset < b.slots.size := by
  have htotal := gapSize_add_length h.wellFormed
  have hsize : b.slots.size = b.capacity := rfl
  have hcap := h.capacity_lt
  have hstart := h.wellFormed.gapStart_le_gapEnd
  have hend := h.wellFormed.gapEnd_le_capacity
  rw [slotOfChecked, slotOf]
  split
  · exact ⟨rfl, by omega⟩
  · rw [h.wellFormed.gapSizeChecked_eq, ok_bind]
    exact ⟨add_eq (by omega), by omega⟩

theorem charAtChecked_eq (h : b.Addressable) (offset : Nat) :
    b.charAtChecked offset = faultless (b.charAt offset) := by
  rw [charAtChecked, h.wellFormed.lengthChecked_eq, ok_bind, charAt]
  split
  · exact h.wellFormed.refuseChecked_eq offset
  · next hlt =>
    obtain ⟨hslot, hlt'⟩ := h.slotOfChecked_eq (Nat.lt_of_not_le hlt)
    have helement := Array.getElem?_eq_getElem hlt'
    rw [hslot, ok_bind, element_eq helement, Array.getD_eq_getD_getElem?, helement]
    rfl

theorem readChecked_eq (h : b.Addressable) {offset count : Nat}
    (hle : offset + count ≤ maxWord) :
    b.readChecked offset count = faultless (b.read offset count) := by
  induction count generalizing offset with
  | zero => rfl
  | succ count ih =>
    rw [readChecked, add_eq (by omega), ok_bind, h.charAtChecked_eq, read]
    refine faultless_bind fun c _ ↦ ?_
    rw [ih (by omega)]
    exact faultless_bind fun _ _ ↦ rfl

theorem substringChecked_eq (h : b.Addressable) {start stop : Nat} (hstop : stop ≤ maxWord) :
    b.substringChecked start stop = faultless (b.substring start stop) := by
  rw [substringChecked, substring]
  split
  · rfl
  · rw [h.readChecked_eq (by omega)]
    cases b.read start (stop - start) <;> rfl

/-- **Moving the gap** stays inside the slots, to the left and to the right. -/
theorem moveGapChecked_eq (h : b.Addressable) {offset : Nat} (hoffset : offset ≤ b.length) :
    b.moveGapChecked offset = .ok (b.moveGap offset) := by
  have htotal := gapSize_add_length h.wellFormed
  have hstart := h.wellFormed.gapStart_le_gapEnd
  have hend := h.wellFormed.gapEnd_le_capacity
  have hcap := h.capacity_lt
  have hgap : b.gapSize = b.gapEnd - b.gapStart := rfl
  have hsize : b.slots.size = b.capacity := rfl
  rw [moveGapChecked, GapBuffer.moveGap]
  rcases Nat.lt_trichotomy offset b.gapStart with hlt | heq | hgt
  · have hcopy : Slots.copyWithinChecked b.slots offset b.gapStart
        (b.gapEnd - (b.gapStart - offset)) = _ :=
      Slots.copyWithinChecked_eq (Nat.le_of_lt hlt) (by omega) (by omega)
    rw [if_neg (Nat.ne_of_lt hlt), if_pos hlt, if_pos hlt, sub_eq (Nat.le_of_lt hlt), ok_bind,
      sub_eq (by omega), ok_bind, hcopy, ok_bind, Slots.clearChecked_eq (by omega)
        (by rw [Slots.size_copyWithin]; omega)]
    rfl
  · rw [if_pos heq, if_neg (Nat.not_lt.2 (Nat.le_of_eq heq.symm)),
      if_neg (Nat.not_lt.2 (Nat.le_of_eq heq))]
    rfl
  · have hcount : b.gapEnd + (offset - b.gapStart) - b.gapEnd = offset - b.gapStart :=
      Nat.add_sub_cancel_left _ _
    have hcopy : Slots.copyWithinChecked b.slots b.gapEnd (b.gapEnd + (offset - b.gapStart))
        b.gapStart = _ :=
      Slots.copyWithinChecked_eq (Nat.le_add_right _ _) (by omega) (by omega)
    rw [if_neg (Nat.ne_of_gt hgt), if_neg (Nat.lt_asymm hgt), if_neg (Nat.lt_asymm hgt),
      if_pos hgt, sub_eq (Nat.le_of_lt hgt), ok_bind, add_eq (by omega), ok_bind, hcopy, ok_bind,
      hcount, Slots.clearChecked_eq (by omega) (by rw [Slots.size_copyWithin]; omega)]
    rfl

theorem fillChecked_eq (h : b.Addressable) {chars : Array Char} (hroom : chars.size ≤ b.gapSize) :
    b.fillChecked chars = .ok (b.fill chars) := by
  have hstart := h.wellFormed.gapStart_le_gapEnd
  have hend := h.wellFormed.gapEnd_le_capacity
  have hcap := h.capacity_lt
  have hsize : b.slots.size = b.capacity := rfl
  rw [GapBuffer.gapSize] at hroom
  have hadd : add b.gapStart chars.size = .ok (b.gapStart + chars.size) := add_eq (by omega)
  rw [fillChecked, hadd, ok_bind, stretch_eq (Nat.le_add_right _ _) (by omega)]
  rfl

theorem swallowChecked_eq (h : b.Addressable) {count : Nat}
    (hcount : b.gapEnd + count ≤ b.capacity) :
    b.swallowChecked count = .ok (b.swallow count) := by
  have hcap := h.capacity_lt
  have hsize : b.slots.size = b.capacity := rfl
  rw [swallowChecked, add_eq (by omega), ok_bind,
    Slots.clearChecked_eq (by omega) (by omega)]
  rfl

theorem moveGap (h : b.Addressable) {offset : Nat} (hoffset : offset ≤ b.length) :
    (b.moveGap offset).Addressable :=
  ⟨h.wellFormed.moveGap hoffset, by rw [capacity_moveGap]; exact h.capacity_lt⟩

/-- **Inserting** has no faults, within the bound. -/
theorem insertChecked_eq (h : b.Addressable) {offset : Nat} {text : String}
    (htext : b.capacity + text.length < halfWord) :
    b.insertChecked offset text = faultless (b.insert offset text) := by
  rw [insertChecked, h.wellFormed.lengthChecked_eq, ok_bind, GapBuffer.insert]
  split
  · exact h.wellFormed.refuseChecked_eq offset
  · next hoffset =>
    have hle : offset ≤ b.length := Nat.le_of_not_lt hoffset
    have hmoved := h.wellFormed.moveGap hle
    have hneeded : (b.moveGap offset).capacity + text.toList.toArray.size < halfWord := by
      rw [capacity_moveGap_add_size]
      exact htext
    have hroom := hmoved.shows.le_gapSize_reserve text.toList.toArray.size
    have haddressable := hmoved.addressable_reserve hneeded
    simp only [h.moveGapChecked_eq hle, ok_bind, hmoved.reserveChecked_eq hneeded,
      haddressable.fillChecked_eq hroom]
    rfl

/-- **Deleting** has no faults. -/
theorem deleteChecked_eq (h : b.Addressable) (offset count : Nat) :
    b.deleteChecked offset count = faultless (b.delete offset count) := by
  rw [deleteChecked, GapBuffer.delete]
  simp only [h.wellFormed.lengthChecked_eq, ok_bind]
  split
  · split
    · exact h.wellFormed.refuseChecked_eq offset
    · rfl
  · split
    · exact h.wellFormed.refuseChecked_eq offset
    · next hoffset =>
      have hle : offset ≤ b.length := Nat.le_of_lt (Nat.lt_of_not_le hoffset)
      rw [sub_eq hle, ok_bind, h.moveGapChecked_eq hle, ok_bind,
        (h.moveGap hle).swallowChecked_eq (h.wellFormed.swallow_uncut hle count)]
      rfl

theorem safe (h : b.Addressable) : b.Safe where
  gapSize := h.wellFormed.gapSizeChecked_eq
  length := h.wellFormed.lengthChecked_eq
  charAt := h.charAtChecked_eq
  substring _ _ hstop := h.substringChecked_eq hstop
  moveGap _ hoffset := h.moveGapChecked_eq hoffset
  grow _ hneeded := h.wellFormed.growChecked_eq hneeded
  insert _ _ htext := h.insertChecked_eq htext
  delete := h.deleteChecked_eq
  swallow_uncut _ count hoffset := h.wellFormed.swallow_uncut hoffset count

/-! ### Every buffer -/

/-- **The step.** An edit within the bound leaves a number of slots that can be counted. -/
theorem apply (h : b.Addressable) {e : Edit} (he : e.Fits b) {b' : GapBuffer}
    (hb : b.apply e = .ok b') : b'.Addressable := by
  refine ⟨h.wellFormed.apply hb, ?_⟩
  cases e with
  | insert offset text =>
    have hneeded : (b.moveGap offset).capacity + text.toList.toArray.size < halfWord := by
      rw [capacity_moveGap_add_size]
      exact he
    rw [GapBuffer.apply, GapBuffer.insert] at hb
    split at hb
    · exact absurd hb (by simp)
    · next hoffset =>
      obtain rfl := Except.ok.inj hb
      have hmoved := h.wellFormed.moveGap (Nat.le_of_not_lt hoffset)
      rw [capacity_fill]
      exact (hmoved.addressable_reserve hneeded).capacity_lt
  | delete offset count =>
    rw [capacity_of_delete hb]
    exact h.capacity_lt

end Addressable

/-- **The run.** Every buffer within the bound has its gap inside its slots, and these can be
counted. -/
theorem Bounded.addressable (h : b.Bounded) : b.Addressable := by
  have hword := two_mul_halfWord
  induction h with
  | empty capacity h =>
    refine ⟨wellFormed_empty capacity, ?_⟩
    rw [(shows_empty capacity).capacity, List.length_nil]
    omega
  | ofString text capacity h =>
    refine ⟨wellFormed_ofString text capacity, ?_⟩
    rw [(shows_ofString text capacity).capacity, List.length_nil, String.length_toList]
    omega
  | edit _ he hb ih => exact ih.apply he hb

theorem Bounded.safe (h : b.Bounded) : b.Safe := h.addressable.safe

/-- A gap that ends before it starts would be noticed. -/
example : lengthChecked ⟨#['a', 'b'], 2, 1⟩ = .error (.fault (.underflow 1 2)) := rfl

end GapBuffer

end TextHistory
