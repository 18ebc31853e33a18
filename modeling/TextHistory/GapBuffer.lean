import TextHistory.Error
import TextHistory.Slots

/-!
# Gap buffers

A text kept in an array of slots with one gap in it. The text is what stands before the gap
followed by what stands after it (`GapBuffer.toList`), so inserting and deleting at the gap
moves nothing, and an edit elsewhere first moves the gap there.

Buffers are values: an edit gives a new buffer and leaves the old one as it was.

## What the gap is, and what it is not

The gap is the slots from `gapStart` up to `gapEnd`, and nothing else decides what belongs to
the text. Its slots are kept empty (`GapBuffer.WellFormed`), so no deleted character survives
in the array, but no operation looks at them.

## Growth

A buffer grows only when an insertion does not fit into the gap, and then to twice its
capacity or to its capacity plus the whole insertion, whichever is more. Capacities are
machine words, so doubling saturates at `maxWord`.
-/

namespace TextHistory

/-- The capacity of a buffer that nothing else was asked for. -/
def defaultCapacity : Nat := 64

/-- The largest machine word. -/
def maxWord : Nat := 0xFFFF_FFFF_FFFF_FFFF

/-- A text in an array of slots, with a gap. -/
structure GapBuffer where
  /-- The slots. -/
  slots : Array Char
  /-- The first slot of the gap. -/
  gapStart : Nat
  /-- The slot just past the gap. -/
  gapEnd : Nat
deriving DecidableEq

namespace GapBuffer

/-! ### Making a buffer -/

/-- An empty buffer with `capacity` slots. -/
def empty (capacity : Nat) : GapBuffer := ⟨Array.replicate capacity emptySlot, 0, capacity⟩

/-- A buffer that holds `text` at the front of at least `capacity` slots. -/
def ofString (text : String) (capacity : Nat) : GapBuffer :=
  let chars := text.toList.toArray
  ⟨chars ++ Array.replicate (capacity - chars.size) emptySlot, chars.size,
    max capacity chars.size⟩

instance : Inhabited GapBuffer := ⟨empty defaultCapacity⟩

variable (b : GapBuffer)

/-! ### Reading -/

/-- The number of slots. -/
def capacity : Nat := b.slots.size

/-- The number of slots in the gap. -/
def gapSize : Nat := b.gapEnd - b.gapStart

/-- The number of characters. -/
def length : Nat := b.capacity - b.gapSize

/-- Whether there are no characters. -/
def isEmpty : Bool := b.length == 0

/-- The text as a list: what stands before the gap, then what stands after it. -/
def toList : List Char :=
  (b.slots.extract 0 b.gapStart).toList ++ (b.slots.extract b.gapEnd b.capacity).toList

/-- The text. -/
def text : String := String.ofList b.toList

instance : ToString GapBuffer := ⟨text⟩

/-- Buffers compare by their texts alone, whatever their capacities and gaps are. -/
instance : BEq GapBuffer := ⟨fun a b ↦ a.length == b.length && a.toList == b.toList⟩

/-- The error for an offset that the buffer does not have. -/
def outOfBounds (offset : Nat) : AddressError := .outOfBounds offset b.length

/-- The slot that holds the character at an offset. -/
def slotOf (offset : Nat) : Nat := if offset < b.gapStart then offset else offset + b.gapSize

/-- The character at an offset. -/
def charAt (offset : Nat) : Except AddressError Char :=
  if b.length ≤ offset then .error (b.outOfBounds offset)
  else .ok (b.slots.getD (b.slotOf offset) emptySlot)

/-- The `count` characters from an offset on, read one by one; the first that is missing
decides the error. -/
def read (offset : Nat) : Nat → Except AddressError (List Char)
  | 0 => .ok []
  | count + 1 => do
    let c ← b.charAt offset
    let rest ← read (offset + 1) count
    return c :: rest

/-- The text from offset `start` up to, not including, offset `stop`. -/
def substring (start stop : Nat) : Except AddressError String :=
  if stop < start then .error (.invertedRange start stop)
  else String.ofList <$> b.read start (stop - start)

/-! ### The gap -/

/-- The buffer with its gap at offset `offset`. The characters between the two places of the
gap change sides, and the slots that they leave are marked empty. -/
def moveGap (offset : Nat) : GapBuffer :=
  if offset < b.gapStart then
    let newEnd := b.gapEnd - (b.gapStart - offset)
    ⟨Slots.clear (Slots.copyWithin b.slots offset (b.gapStart - offset) newEnd) offset newEnd,
      offset, newEnd⟩
  else if b.gapStart < offset then
    let newEnd := b.gapEnd + (offset - b.gapStart)
    ⟨Slots.clear (Slots.copyWithin b.slots b.gapEnd (offset - b.gapStart) b.gapStart) offset newEnd,
      offset, newEnd⟩
  else b

/-- The capacity after growing for `needed` characters. -/
def grownCapacity (capacity needed : Nat) : Nat :=
  max (min (2 * capacity) maxWord) (capacity + needed)

/-- The buffer with its gap widened, as growing for `needed` characters demands. -/
def grow (needed : Nat) : GapBuffer :=
  let capacity := grownCapacity b.capacity needed
  let newEnd := capacity - (b.capacity - b.gapEnd)
  ⟨b.slots.extract 0 b.gapStart ++ Array.replicate (newEnd - b.gapStart) emptySlot ++
      b.slots.extract b.gapEnd b.capacity,
    b.gapStart, newEnd⟩

/-- The buffer with room in its gap for `needed` characters. -/
def reserve (needed : Nat) : GapBuffer := if b.gapSize < needed then b.grow needed else b

/-- Writes characters into the gap, which has room for them. -/
def fill (chars : Array Char) : GapBuffer :=
  { b with slots := Slots.writeAt b.slots b.gapStart chars, gapStart := b.gapStart + chars.size }

/-- Lets the gap swallow the `count` characters after it. -/
def swallow (count : Nat) : GapBuffer :=
  let newEnd := min (b.gapEnd + count) b.capacity
  { b with slots := Slots.clear b.slots b.gapEnd newEnd, gapEnd := newEnd }

/-! ### Editing -/

/-- The buffer with `text` inserted before the character at `offset`. -/
def insert (offset : Nat) (text : String) : Except AddressError GapBuffer :=
  if b.length < offset then .error (b.outOfBounds offset)
  else
    let chars := text.toList.toArray
    .ok (((b.moveGap offset).reserve chars.size).fill chars)

/-- The buffer without the `count` characters from `offset` on, or without as many of them as
there are. Deleting no characters is allowed at the end of the text too. -/
def delete (offset count : Nat) : Except AddressError GapBuffer :=
  if count = 0 then
    if b.length < offset then .error (b.outOfBounds offset) else .ok b
  else if b.length ≤ offset then .error (b.outOfBounds offset)
  else .ok ((b.moveGap offset).swallow (min count (b.length - offset)))

/-- An edit of a buffer. -/
inductive Edit
  /-- Insert a text at an offset. -/
  | insert (offset : Nat) (text : String)
  /-- Delete a number of characters from an offset on. -/
  | delete (offset count : Nat)
deriving DecidableEq

/-- The buffer after an edit. -/
def apply : Edit → Except AddressError GapBuffer
  | .insert offset text => b.insert offset text
  | .delete offset count => b.delete offset count

/-- The buffer after a run of edits, in which an edit that fails changes nothing. -/
def run : GapBuffer → List Edit → GapBuffer
  | b, [] => b
  | b, e :: es => run ((b.apply e).toOption.getD b) es

/-! ### Good shape -/

/-- The gap lies inside the array, and its slots are empty. -/
structure WellFormed : Prop where
  /-- The gap does not end before it starts. -/
  gapStart_le_gapEnd : b.gapStart ≤ b.gapEnd
  /-- The gap does not end past the array. -/
  gapEnd_le_capacity : b.gapEnd ≤ b.capacity
  /-- The slots of the gap are empty. -/
  empty_gap : ∀ i, b.gapStart ≤ i → i < b.gapEnd → b.slots[i]? = some emptySlot

end GapBuffer

end TextHistory
