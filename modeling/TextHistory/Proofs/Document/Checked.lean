import TextHistory.Document.LineEndings
import TextHistory.Proofs.Document.Addresses
import TextHistory.Proofs.GapBuffer.Checked

/-!
# Documents in machine words

What a document adds to its buffer is arithmetic with the offsets of its lines: the length of a line
is a difference of two starts, an offset is the start of a line with a column added to it, and a
column is what an offset leaves of the start of its line. Each of these is written out once more as
a checked program, as for buffers, and a document is `Safe` if the checked programs come to what the
operations come to.

Every document that is `Bounded` is safe, whatever lines, columns and offsets it is asked for, and
so is every bounded buffer (`safe_of_bounded`). A line is looked for before one is added to its
number, and a column is cut off at the end of its line before it is added to anything. What is left
are the differences, and they are not negative since the starts ascend and since every line but the
last one ends in a line feed.

The line of an offset is found by a search in the starts, of which no more is used than what it
promises: the index of the offset if that is a start, and else the index where it could be inserted
(`search`).
-/

namespace TextHistory

open Checked

/-- Looks for a number in an ascending array: gives its index, or fails with the index where it
could be inserted. -/
def search (xs : Array Nat) (a : Nat) : Except Nat Nat :=
  let i := xs.countP (· < a)
  if xs[i]? = some a then .ok i else .error i

/-- Scans one character. Every character is counted, whether or not a line ends there. -/
def LineScan.stepChecked (s : LineScan) (c : Char) : Checked LineScan := do
  let next ← add s.offset 1
  return if c = '\n' then ⟨s.lines.push s.current, s.starts.push next, "", next⟩
    else { s with current := s.current.push c, offset := next }

namespace Document

/-- The document over a buffer. -/
def ofBufferChecked (b : GapBuffer) : Checked Document := do
  stretch 0 b.gapStart b.capacity
  stretch b.gapEnd b.capacity b.capacity
  let s ← b.toList.foldlM LineScan.stepChecked .start
  return ⟨b, s.lines.push s.current, s.starts⟩

variable (d : Document)

/-! ### Reading -/

/-- Refuses a line that does not exist. -/
def checkLine (line : Nat) : Checked Unit :=
  if line < d.lineCount then return ⟨⟩ else refuse (d.lineOutOfRange line)

/-- The length of a line that exists. -/
def lineExtentChecked (line : Nat) : Checked Nat := do
  let next ← add line 1
  match d.lineStarts[next]? with
  | some stop => do
    let extent ← sub stop (← element d.lineStarts line)
    sub extent 1
  | none => do sub (← d.buffer.lengthChecked) (← element d.lineStarts line)

/-- The length of a line. -/
def lineLengthChecked (line : Nat) : Checked Nat := do
  d.checkLine line
  d.lineExtentChecked line

/-- The position just past the last character. -/
def endPositionChecked : Checked Position := do
  let last ← sub d.lineCount 1
  let column ← d.lineExtentChecked last
  return ⟨last, column⟩

/-! ### Addresses -/

/-- The offset of a position, with its column clamped. -/
def offsetAtChecked (p : Position) : Checked Nat := do
  d.checkLine p.line
  let extent ← d.lineExtentChecked p.line
  let start ← element d.lineStarts p.line
  add start (min p.column extent)

/-- The line of an offset: the one that begins there, or the one before the place where the offset
could be inserted. The subtraction saturates. -/
def lineOf (offset : Nat) : Nat :=
  match search d.lineStarts offset with
  | .ok line => line
  | .error line => line - 1

/-- The position of an offset. -/
def positionAtChecked (offset : Nat) : Checked Position := do
  if (← d.buffer.lengthChecked) < offset then d.buffer.refuseChecked offset
  else
    let start ← element d.lineStarts (d.lineOf offset)
    let column ← sub offset start
    return ⟨d.lineOf offset, column⟩

/-- The offsets of the two ends of a span. -/
def offsetsAtChecked (s : Span) : Checked (Nat × Nat) := do
  let start ← d.offsetAtChecked s.start
  let stop ← d.offsetAtChecked s.stop
  if stop < start then refuse (.invertedRange start stop) else return (start, stop)

/-- The text of a span. -/
def textInChecked (s : Span) : Checked String := do
  let (start, stop) ← d.offsetsAtChecked s
  d.buffer.substringChecked start stop

/-! ### Editing -/

/-- The document with `text` inserted at a position. -/
def insertChecked (p : Position) (text : String) : Checked Document := do
  let offset ← d.offsetAtChecked p
  let b ← d.buffer.insertChecked offset text
  ofBufferChecked b

/-- The document without the text of a span. -/
def deleteChecked (s : Span) : Checked Document := do
  let (start, stop) ← d.offsetsAtChecked s
  let count ← sub stop start
  let b ← d.buffer.deleteChecked start count
  ofBufferChecked b

/-- The document with the text of a span replaced. -/
def replaceChecked (s : Span) (text : String) : Checked Document := do
  let rest ← d.deleteChecked s
  rest.insertChecked s.start text

/-- No operation ends in a fault, and the checked ones come to the same as the others. -/
structure Safe : Prop where
  /-- The buffer is safe. -/
  buffer : d.buffer.Safe
  /-- Making the document over its buffer. -/
  ofBuffer : ofBufferChecked d.buffer = .ok d
  /-- Measuring any line. -/
  lineLength : ∀ line, d.lineLengthChecked line = faultless (d.lineLength line)
  /-- Looking for the end of the text. -/
  endPosition : d.endPositionChecked = .ok d.endPosition
  /-- Looking up the offset of any position. -/
  offsetAt : ∀ p, d.offsetAtChecked p = faultless (d.offsetAt p)
  /-- Looking up the position of any offset. -/
  positionAt : ∀ offset, d.positionAtChecked offset = faultless (d.positionAt offset)
  /-- Reading any span. -/
  textIn : ∀ s, d.textInChecked s = faultless (d.textIn s)
  /-- Inserting at any position a text that the bound allows. -/
  insert : ∀ p text, d.buffer.capacity + text.length < halfWord →
    d.insertChecked p text = faultless (d.insert p text)
  /-- Deleting any span. -/
  delete : ∀ s, d.deleteChecked s = faultless (d.delete s)
  /-- Replacing any span by a text that the bound allows. -/
  replace : ∀ s text, d.buffer.capacity + text.length < halfWord →
    d.replaceChecked s text = faultless (d.replace s text)

/-- At an edit that inserts a text, the capacity and the text stay below half of a word. -/
def Edit.Fits (d : Document) : Edit → Prop
  | .insert _ text => d.buffer.capacity + text.length < halfWord
  | .delete _ => True
  | .replace _ text => d.buffer.capacity + text.length < halfWord

instance (d : Document) : (e : Edit) → Decidable (e.Fits d)
  | .insert _ text | .replace _ text =>
    inferInstanceAs (Decidable (d.buffer.capacity + text.length < halfWord))
  | .delete _ => inferInstanceAs (Decidable True)

/-- The document can be made, by a constructor or by an edit that goes through, with the capacity
and the inserted text always below half of a word. -/
inductive Bounded : Document → Prop
  /-- The document of the empty text. -/
  | empty : Bounded .empty
  /-- The document of a text. -/
  | ofString (text : String) (capacity : Nat) (h : max capacity text.length < halfWord) :
      Bounded (.ofString text capacity)
  /-- The document of the content of a file. -/
  | ofFileContent (content : String)
      (h : max defaultCapacity (normalizeLineEndings content).length < halfWord) :
      Bounded (.ofFileContent content)
  /-- The document that an edit makes. -/
  | edit {d d' : Document} {e : Edit} (h : Bounded d) (he : e.Fits d) (hd : d.apply e = .ok d') :
      Bounded d'

/-- The document is in good shape, over a buffer whose slots can be counted. -/
structure Addressable : Prop where
  /-- The document is in good shape. -/
  wellFormed : d.WellFormed
  /-- The gap lies inside the slots, and these can be counted. -/
  buffer : d.buffer.Addressable

end Document

/-! ### Scanning and searching -/

/-- A scan that does not count further than a word has no faults. -/
theorem LineScan.foldlM_stepChecked (s : LineScan) (cs : List Char)
    (h : s.offset + cs.length ≤ maxWord) :
    cs.foldlM LineScan.stepChecked s = (.ok (cs.foldl LineScan.step s) : Checked LineScan) := by
  induction cs generalizing s with
  | nil => rfl
  | cons c cs ih =>
    rw [List.length_cons] at h
    have hstep : s.stepChecked c = .ok (s.step c) := by
      rw [stepChecked, add_eq (by omega), ok_bind, LineScan.step]
      split <;> rfl
    have hoffset : (s.step c).offset = s.offset + 1 := by
      rw [LineScan.step]
      split <;> rfl
    rw [List.foldlM_cons, hstep, ok_bind, List.foldl_cons]
    exact ih _ (by omega)

/-- The starts up to an offset are those before it, and the offset itself if it is a start. -/
theorem countP_le_eq {starts : List Nat} (h : starts.Pairwise (· < ·)) (offset : Nat) :
    starts.countP (fun s ↦ decide (s ≤ offset)) =
      if starts[starts.countP (fun s ↦ decide (s < offset))]? = some offset then
        starts.countP (fun s ↦ decide (s < offset)) + 1
      else starts.countP fun s ↦ decide (s < offset) := by
  induction starts with
  | nil => rfl
  | cons s ss ih =>
    obtain ⟨hs, hss⟩ := List.pairwise_cons.1 h
    by_cases hlt : s < offset
    · have hle : s ≤ offset := Nat.le_of_lt hlt
      rw [List.countP_cons_of_pos (by simpa using hle),
        List.countP_cons_of_pos (by simpa using hlt), List.getElem?_cons_succ, ih hss]
      split <;> rfl
    · -- none of the starts is before the offset, and only the first one can be the offset
      have hzero : (s :: ss).countP (fun s ↦ decide (s < offset)) = 0 := by
        refine List.countP_eq_zero.2 fun a ha ↦ ?_
        simp only [decide_eq_true_eq]
        rcases List.mem_cons.1 ha with rfl | ha
        · exact hlt
        · have hlater := hs a ha
          omega
      have hrest : ss.countP (fun s ↦ decide (s ≤ offset)) = 0 := by
        refine List.countP_eq_zero.2 fun a ha ↦ ?_
        have hlater := hs a ha
        simp only [decide_eq_true_eq]
        omega
      rw [hzero, List.getElem?_cons_zero]
      by_cases heq : s = offset
      · rw [List.countP_cons_of_pos (by simp [heq]), hrest, if_pos (congrArg some heq)]
      · have hgt : ¬s ≤ offset := by omega
        rw [List.countP_cons_of_neg (by simpa using hgt), hrest,
          if_neg fun hsome ↦ heq (Option.some.inj hsome)]

namespace Document

variable {d d' : Document}

/-! ### No faults -/

/-- Making a document has no faults. -/
theorem ofBufferChecked_eq {b : GapBuffer} (h : b.Addressable) :
    ofBufferChecked b = .ok (ofBuffer b) := by
  have hstart := h.wellFormed.gapStart_le_gapEnd
  have hend := h.wellFormed.gapEnd_le_capacity
  have hlength : b.toList.length ≤ maxWord := by
    have htotal := GapBuffer.gapSize_add_length h.wellFormed
    have hcap := h.capacity_lt
    rw [h.wellFormed.length_toList]
    omega
  have hscan := LineScan.foldlM_stepChecked .start b.toList (by
    rw [LineScan.start, Nat.zero_add]
    exact hlength)
  rw [ofBufferChecked, stretch_eq (Nat.zero_le _) (Nat.le_trans hstart hend), ok_bind,
    stretch_eq hend (Nat.le_refl _), ok_bind, hscan]
  rfl

namespace WellFormed

theorem ascending_lineStarts (h : d.WellFormed) : d.lineStarts.toList.Pairwise (· < ·) := by
  rw [h.toList_lineStarts]
  exact ascending_startsFrom 0 _

theorem element_lineStarts (h : d.WellFormed) {line : Nat} (hline : line < d.lineCount) :
    element d.lineStarts line = .ok (d.lineStart line) := by
  refine element_eq ?_
  rw [h.getElem?_lineStarts hline, h.lineStart_eq hline]

/-- There are at most as many lines as characters, and one more. -/
theorem lineCount_le (h : d.WellFormed) : d.lineCount ≤ d.length + 1 := by
  have hcount : d.buffer.toList.count '\n' ≤ d.buffer.toList.length := List.count_le_length
  rw [h.length_toList] at hcount
  rw [h.lineCount_eq]
  exact Nat.succ_le_succ hcount

/-- The search finds the line that the starts up to the offset tell. -/
theorem lineOf_eq (h : d.WellFormed) (offset : Nat) :
    d.lineOf offset = d.lineStarts.countP (fun s ↦ decide (s ≤ offset)) - 1 := by
  have hcount := countP_le_eq h.ascending_lineStarts offset
  simp only [Array.countP_toList, Array.getElem?_toList] at hcount
  rw [hcount, lineOf, search]
  by_cases hfound : d.lineStarts[d.lineStarts.countP (fun s ↦ decide (s < offset))]? = some offset
  · simp only [if_pos hfound, Nat.add_sub_cancel]
  · simp only [if_neg hfound]

/-- An offset is not before its line, and its line exists. -/
theorem lineOf_spec (h : d.WellFormed) (offset : Nat) :
    d.lineOf offset < d.lineCount ∧ d.lineStart (d.lineOf offset) ≤ offset := by
  have hfirst : 0 < d.lineStarts.countP (fun s ↦ decide (s ≤ offset)) := by
    rw [h.lt_countP_lineStarts_iff h.lineCount_pos, h.lineStart_zero]
    exact Nat.zero_le _
  have hsize : d.lineStarts.countP (fun s ↦ decide (s ≤ offset)) ≤ d.lineCount := by
    rw [← h.size_lineStarts]
    exact Array.countP_le_size
  have hline : d.lineOf offset < d.lineStarts.countP (fun s ↦ decide (s ≤ offset)) := by
    rw [h.lineOf_eq]
    omega
  have hlt : d.lineOf offset < d.lineCount := Nat.lt_of_lt_of_le hline hsize
  exact ⟨hlt, (h.lt_countP_lineStarts_iff hlt).1 hline⟩

end WellFormed

theorem checkLine_eq_ok {line : Nat} (hline : line < d.lineCount) :
    d.checkLine line = .ok ⟨⟩ := if_pos hline

theorem checkLine_eq_error {line : Nat} (hline : ¬line < d.lineCount) :
    d.checkLine line = refuse (d.lineOutOfRange line) := if_neg hline

namespace Addressable

/-- The text is shorter than what a word can count. -/
theorem length_lt (h : d.Addressable) : d.length < maxWord := by
  have htotal := GapBuffer.gapSize_add_length h.buffer.wellFormed
  have hcap := h.buffer.capacity_lt
  rw [Document.length]
  omega

/-- **Measuring a line** that exists: a next line begins behind the line feed that ends this one,
and a last line ends where the text does. -/
theorem lineExtentChecked_eq (h : d.Addressable) {line : Nat} (hline : line < d.lineCount) :
    d.lineExtentChecked line = .ok (d.lineExtent line) := by
  have hcount := h.wellFormed.lineCount_le
  have hlength := h.length_lt
  have hstart := h.wellFormed.element_lineStarts hline
  rw [lineExtentChecked, add_eq (by omega), ok_bind, lineExtent]
  by_cases hnext : line + 1 < d.lineCount
  · have hsucc := h.wellFormed.lineStart_succ hnext
    rw [h.wellFormed.getElem?_lineStarts hnext, ← h.wellFormed.lineStart_eq hnext]
    simp only [hstart, ok_bind]
    rw [sub_eq (by omega), ok_bind, sub_eq (by omega)]
  · have hlast := h.wellFormed.lineStart_last (i := line) (by omega)
    have hnone : d.lineStarts[line + 1]? = none :=
      Array.getElem?_eq_none (by rw [h.wellFormed.size_lineStarts]; omega)
    rw [hnone]
    simp only [h.buffer.wellFormed.lengthChecked_eq, hstart, ok_bind]
    exact sub_eq (by rw [← Document.length]; omega)

theorem lineLengthChecked_eq (h : d.Addressable) (line : Nat) :
    d.lineLengthChecked line = faultless (d.lineLength line) := by
  rw [lineLengthChecked, lineLength]
  split
  · next hline =>
    rw [checkLine_eq_ok hline, ok_bind, h.lineExtentChecked_eq hline]
    rfl
  · next hline =>
    rw [checkLine_eq_error hline]
    rfl

theorem endPositionChecked_eq (h : d.Addressable) : d.endPositionChecked = .ok d.endPosition := by
  have hpos := h.wellFormed.lineCount_pos
  rw [endPositionChecked, sub_eq hpos, ok_bind,
    h.lineExtentChecked_eq (Nat.sub_lt hpos Nat.one_pos)]
  rfl

/-- **The offset of a position** is in the text, so it is a word, however large the column was. -/
theorem offsetAtChecked_eq (h : d.Addressable) (p : Position) :
    d.offsetAtChecked p = faultless (d.offsetAt p) := by
  rw [offsetAtChecked, offsetAt]
  split
  · next hline =>
    have hle := h.wellFormed.offset_le_length (hasPosition_clampColumn hline)
    have hlength := h.length_lt
    have hadd : add (d.lineStart p.line) (min p.column (d.lineExtent p.line)) =
        .ok (d.lineStart p.line + d.clampColumn p) :=
      add_eq (Nat.le_trans hle (Nat.le_of_lt hlength))
    rw [checkLine_eq_ok hline, ok_bind, h.lineExtentChecked_eq hline, ok_bind,
      h.wellFormed.element_lineStarts hline, ok_bind, hadd]
    rfl
  · next hline =>
    rw [checkLine_eq_error hline]
    rfl

theorem positionAtChecked_eq (h : d.Addressable) (offset : Nat) :
    d.positionAtChecked offset = faultless (d.positionAt offset) := by
  obtain ⟨hline, hle⟩ := h.wellFormed.lineOf_spec offset
  rw [positionAtChecked, h.buffer.wellFormed.lengthChecked_eq, ok_bind, positionAt,
    ← Document.length]
  split
  · exact h.buffer.wellFormed.refuseChecked_eq offset
  · rw [h.wellFormed.element_lineStarts hline, ok_bind, sub_eq hle, ok_bind,
      h.wellFormed.lineOf_eq]
    rfl

theorem offsetsAtChecked_eq (h : d.Addressable) (s : Span) :
    d.offsetsAtChecked s = faultless (d.offsetsAt s) := by
  rw [offsetsAtChecked, h.offsetAtChecked_eq, offsetsAt]
  refine faultless_bind fun start _ ↦ ?_
  rw [h.offsetAtChecked_eq]
  refine faultless_bind fun stop _ ↦ ?_
  split <;> rfl

/-- The ends of a span are in order, and the second one is in the text. -/
theorem le_of_offsetsAt (h : d.Addressable) {s : Span} {start stop : Nat}
    (hs : d.offsetsAt s = .ok (start, stop)) : start ≤ stop ∧ stop ≤ maxWord := by
  rw [offsetsAt] at hs
  obtain ⟨a, -, hs⟩ := bind_eq_ok_iff.1 hs
  obtain ⟨b, hb, hs⟩ := bind_eq_ok_iff.1 hs
  rw [offsetAt] at hb
  split at hb
  · next hline =>
    have hoffset := h.wellFormed.offset_le_length (hasPosition_clampColumn hline)
    have hlength := h.length_lt
    obtain rfl := Except.ok.inj hb
    split at hs
    · exact absurd hs (by simp)
    · next hle =>
      obtain ⟨rfl, rfl⟩ := Prod.mk.inj (Except.ok.inj hs)
      exact ⟨Nat.le_of_not_lt hle, Nat.le_trans hoffset (Nat.le_of_lt hlength)⟩
  · exact absurd hb (by simp)

theorem textInChecked_eq (h : d.Addressable) (s : Span) :
    d.textInChecked s = faultless (d.textIn s) := by
  rw [textInChecked, h.offsetsAtChecked_eq, textIn]
  refine faultless_bind fun ends hs ↦ ?_
  exact h.buffer.substringChecked_eq (h.le_of_offsetsAt hs).2

/-! ### Editing -/

/-- An edit of the buffer that is within its bound, and the new index over it. -/
theorem bind_ofBufferChecked (h : d.Addressable) {e : GapBuffer.Edit} (he : e.Fits d.buffer) :
    faultless (d.buffer.apply e) >>= ofBufferChecked =
      faultless (d.buffer.apply e >>= fun b ↦ return ofBuffer b) :=
  faultless_bind fun _ hb ↦ ofBufferChecked_eq (h.buffer.apply he hb)

theorem insertChecked_eq (h : d.Addressable) {p : Position} {text : String}
    (htext : d.buffer.capacity + text.length < halfWord) :
    d.insertChecked p text = faultless (d.insert p text) := by
  rw [insertChecked, h.offsetAtChecked_eq, Document.insert]
  refine faultless_bind fun offset _ ↦ ?_
  rw [h.buffer.insertChecked_eq htext]
  exact h.bind_ofBufferChecked (e := .insert offset text) htext

theorem deleteChecked_eq (h : d.Addressable) (s : Span) :
    d.deleteChecked s = faultless (d.delete s) := by
  rw [deleteChecked, h.offsetsAtChecked_eq, Document.delete]
  refine faultless_bind fun ends hs ↦ ?_
  obtain ⟨start, stop⟩ := ends
  dsimp only
  rw [sub_eq (h.le_of_offsetsAt hs).1, ok_bind, h.buffer.deleteChecked_eq]
  exact h.bind_ofBufferChecked (e := .delete start (stop - start)) trivial

/-- Deleting leaves the slots, so what fitted before fits into the rest. -/
theorem delete (h : d.Addressable) {s : Span} (hd : d.delete s = .ok d') :
    d'.Addressable ∧ d'.buffer.capacity = d.buffer.capacity := by
  have hwf := h.wellFormed.delete hd
  rw [Document.delete] at hd
  obtain ⟨ends, -, hd⟩ := bind_eq_ok_iff.1 hd
  obtain ⟨b, hb, hd⟩ := bind_eq_ok_iff.1 hd
  obtain rfl := Except.ok.inj hd
  have hbuffer : b.Addressable :=
    h.buffer.apply (e := .delete ends.1 (ends.2 - ends.1)) trivial hb
  exact ⟨⟨hwf, hbuffer⟩, GapBuffer.capacity_of_delete hb⟩

theorem replaceChecked_eq (h : d.Addressable) {s : Span} {text : String}
    (htext : d.buffer.capacity + text.length < halfWord) :
    d.replaceChecked s text = faultless (d.replace s text) := by
  rw [replaceChecked, h.deleteChecked_eq, Document.replace]
  refine faultless_bind fun rest hrest ↦ ?_
  obtain ⟨haddressable, hcapacity⟩ := h.delete hrest
  exact haddressable.insertChecked_eq (hcapacity ▸ htext)

theorem safe (h : d.Addressable) : d.Safe where
  buffer := h.buffer.safe
  ofBuffer := (ofBufferChecked_eq h.buffer).trans (congrArg _ h.wellFormed.eq_ofBuffer.symm)
  lineLength := h.lineLengthChecked_eq
  endPosition := h.endPositionChecked_eq
  offsetAt := h.offsetAtChecked_eq
  positionAt := h.positionAtChecked_eq
  textIn := h.textInChecked_eq
  insert _ _ htext := h.insertChecked_eq htext
  delete := h.deleteChecked_eq
  replace _ _ htext := h.replaceChecked_eq htext

/-! ### Every document -/

theorem insert (h : d.Addressable) {p : Position} {text : String}
    (htext : d.buffer.capacity + text.length < halfWord) (hd : d.insert p text = .ok d') :
    d'.Addressable := by
  have hwf := h.wellFormed.insert hd
  rw [Document.insert] at hd
  obtain ⟨offset, -, hd⟩ := bind_eq_ok_iff.1 hd
  obtain ⟨b, hb, hd⟩ := bind_eq_ok_iff.1 hd
  obtain rfl := Except.ok.inj hd
  exact ⟨hwf, h.buffer.apply (e := .insert offset text) htext hb⟩

/-- **The step.** An edit within the bound leaves a document that can be calculated with. -/
theorem apply (h : d.Addressable) {e : Edit} (he : e.Fits d) (hd : d.apply e = .ok d') :
    d'.Addressable := by
  cases e with
  | insert p text => exact h.insert he hd
  | delete s => exact (h.delete hd).1
  | replace s text =>
    rw [Document.apply, Document.replace] at hd
    obtain ⟨rest, hrest, hd⟩ := bind_eq_ok_iff.1 hd
    obtain ⟨haddressable, hcapacity⟩ := h.delete hrest
    have hfits : d.buffer.capacity + text.length < halfWord := he
    exact haddressable.insert (hcapacity ▸ hfits) hd

end Addressable

theorem addressable_ofString {text : String} {capacity : Nat}
    (h : max capacity text.length < halfWord) : (ofString text capacity).Addressable :=
  ⟨wellFormed_ofString text capacity, (GapBuffer.Bounded.ofString text capacity h).addressable⟩

/-- **The run.** Every document within the bound can be calculated with. -/
theorem Bounded.addressable (h : d.Bounded) : d.Addressable := by
  induction h with
  | empty => exact ⟨wellFormed_empty, (GapBuffer.Bounded.empty _ (by decide)).addressable⟩
  | ofString _ _ h => exact addressable_ofString h
  | ofFileContent _ h => exact addressable_ofString h
  | edit _ he hd ih => exact ih.apply he hd

theorem Bounded.safe (h : d.Bounded) : d.Safe := h.addressable.safe

end Document

/-- **No operation has a fault.** For every buffer and every document that can be made with the
capacity and any inserted text below half of a word, and for all offsets, counts, lines and columns:
no sum is too large for a word, no difference is negative, and every slot, every stretch and every
line start that is named exists. -/
theorem safe_of_bounded :
    (∀ b : GapBuffer, b.Bounded → b.Safe) ∧ ∀ d : Document, d.Bounded → d.Safe :=
  ⟨fun _ h ↦ h.safe, fun _ h ↦ h.safe⟩

/-- A buffer that had to grow, and a document after an edit, asked for the largest words there
are. -/
theorem safe_of_bounded_grown :
    let b := (GapBuffer.empty 4).run [.insert 0 "ab\ncde"]
    let d := (Document.ofFileContent "a\r\nb").run [.replace ⟨⟨0, 1⟩, ⟨1, maxWord⟩⟩ "\n\nxyz"]
    b.Bounded ∧ d.Bounded ∧ b.Safe ∧ d.Safe ∧
      (b.deleteChecked 2 maxWord).toOption.map GapBuffer.text = some "ab" ∧
      (d.offsetAtChecked ⟨2, maxWord⟩).toOption = some 6 := by
  intro b d
  have hb : b.Bounded := .edit (e := .insert 0 "ab\ncde") (.empty 4 (by decide)) (by decide) rfl
  have hd : d.Bounded := .edit (e := .replace ⟨⟨0, 1⟩, ⟨1, maxWord⟩⟩ "\n\nxyz")
    (.ofFileContent "a\r\nb" (by decide)) (by decide) rfl
  exact ⟨hb, hd, safe_of_bounded.1 b hb, safe_of_bounded.2 d hd, by decide +kernel,
    by decide +kernel⟩

end TextHistory
