import TextHistory.Document.Index
import TextHistory.Proofs.Document.LineOffsets

/-!
# Positions and offsets

A document `HasPosition` of a line and a column if the line exists and the column is not past its
end. Such a position has an offset, and no two have the same one: looking up the offset of a
position and the position of an offset undo each other (`WellFormed.positionAt_offset`,
`WellFormed.exists_positionAt`).

The two look-ups work on different data. An offset is made from the start of the line; a position is
found by counting the starts up to the offset. They fit because a line extends up to the line feed
before the next start (`WellFormed.lineStart_succ`) and the last one up to the end of the text
(`WellFormed.lineStart_last`), and these two equations are all that is used of the index.

Clamping gives the nearest position that the document has (`nearest`), which for a position that it
has is that position.
-/

namespace TextHistory

namespace Document

/-- The document has such a place: the line exists, and the column is not past its end. -/
structure HasPosition (d : Document) (p : Position) : Prop where
  /-- The line exists. -/
  line_lt : p.line < d.lineCount
  /-- The column is not past the end of the line. -/
  column_le : p.column ≤ d.lineExtent p.line

instance (d : Document) (p : Position) : Decidable (d.HasPosition p) :=
  decidable_of_iff (p.line < d.lineCount ∧ p.column ≤ d.lineExtent p.line)
    ⟨fun h ↦ ⟨h.1, h.2⟩, fun h ↦ ⟨h.1, h.2⟩⟩

/-- The offset of a position that the document has. -/
def offset (d : Document) (p : Position) : Nat := d.lineStart p.line + p.column

/-- The position nearest to a wished one. -/
def nearest (d : Document) (p : Position) : Position :=
  let line := min p.line (d.lineCount - 1)
  ⟨line, min p.column (d.lineExtent line)⟩

variable {d : Document} {p q : Position} {o : Nat}

theorem offsetAt_of_hasPosition (hp : d.HasPosition p) : d.offsetAt p = .ok (d.offset p) := by
  rw [offsetAt, if_pos hp.line_lt, clampColumn, Nat.min_eq_left hp.column_le, offset]

/-- Looking up an offset fails only for a missing line, and clamps the column else. -/
theorem offsetAt_eq (d : Document) (p : Position) :
    d.offsetAt p = if p.line < d.lineCount then .ok (d.offset ⟨p.line, d.clampColumn p⟩)
      else .error (d.lineOutOfRange p.line) := rfl

theorem hasPosition_clampColumn (hp : p.line < d.lineCount) :
    d.HasPosition ⟨p.line, d.clampColumn p⟩ :=
  ⟨hp, Nat.min_le_right _ _⟩

theorem nearest_eq_self (hp : d.HasPosition p) : d.nearest p = p := by
  have hline : min p.line (d.lineCount - 1) = p.line :=
    Nat.min_eq_left (Nat.le_sub_one_of_lt hp.line_lt)
  rw [nearest, hline, Nat.min_eq_left hp.column_le]

namespace WellFormed

/-! ### The index -/

theorem lineCount_pos (h : d.WellFormed) : 0 < d.lineCount := by
  rw [h.lineCount_eq]
  exact Nat.succ_pos _

theorem length_lines (h : d.WellFormed) : (splitLines d.buffer.toList).length = d.lineCount := by
  rw [length_splitLines, h.lineCount_eq]

theorem size_lineStarts (h : d.WellFormed) : d.lineStarts.size = d.lineCount := by
  rw [← Array.length_toList, h.toList_lineStarts, length_startsFrom, h.length_lines]

/-- The text of a line that exists. -/
theorem exists_line (h : d.WellFormed) {i : Nat} (hi : i < d.lineCount) :
    ∃ l, (splitLines d.buffer.toList)[i]? = some l := by
  rw [← h.length_lines] at hi
  exact ⟨_, List.getElem?_eq_getElem hi⟩

theorem getElem?_lineStarts (h : d.WellFormed) {i : Nat} (hi : i < d.lineCount) :
    d.lineStarts[i]? = some (offsetOfLine (splitLines d.buffer.toList) i) := by
  rw [← h.length_lines] at hi
  rw [← Array.getElem?_toList, h.toList_lineStarts, getElem?_startsFrom 0 hi, Nat.zero_add]

theorem lineStart_eq (h : d.WellFormed) {i : Nat} (hi : i < d.lineCount) :
    d.lineStart i = offsetOfLine (splitLines d.buffer.toList) i := by
  rw [lineStart, Array.getD_eq_getD_getElem?, h.getElem?_lineStarts hi, Option.getD_some]

/-- Behind the last line the text has ended. -/
theorem offsetOfLine_lineCount (h : d.WellFormed) :
    offsetOfLine (splitLines d.buffer.toList) d.lineCount = d.length + 1 := by
  rw [← h.length_lines, offsetOfLine_length (splitLines_ne_nil _), joinLines_splitLines,
    h.length_toList]

/-- The length of a line, found from the offsets, is the length of its text. -/
theorem lineExtent_eq (h : d.WellFormed) {i : Nat} {l : List Char}
    (hl : (splitLines d.buffer.toList)[i]? = some l) : d.lineExtent i = l.length := by
  have hi : i < d.lineCount := by
    rw [← h.length_lines]
    exact (List.getElem?_eq_some_iff.1 hl).1
  have hsucc := offsetOfLine_succ hl
  rw [lineExtent, h.lineStart_eq hi]
  by_cases hlast : i + 1 < d.lineCount
  · rw [h.getElem?_lineStarts hlast]
    show offsetOfLine _ (i + 1) - _ - 1 = _
    omega
  · have hend := h.offsetOfLine_lineCount
    have hcount : d.lineCount = i + 1 := by omega
    rw [Array.getElem?_eq_none (by rw [h.size_lineStarts]; omega)]
    show d.length - _ = _
    rw [hcount] at hend
    omega

@[simp] theorem lineStart_zero (h : d.WellFormed) : d.lineStart 0 = 0 := by
  rw [h.lineStart_eq h.lineCount_pos, offsetOfLine_zero]

/-- A line extends up to the line feed before the next one. -/
theorem lineStart_succ (h : d.WellFormed) {i : Nat} (hi : i + 1 < d.lineCount) :
    d.lineStart (i + 1) = d.lineStart i + d.lineExtent i + 1 := by
  obtain ⟨l, hl⟩ := h.exists_line (Nat.lt_of_succ_lt hi)
  rw [h.lineStart_eq hi, h.lineStart_eq (Nat.lt_of_succ_lt hi), h.lineExtent_eq hl,
    offsetOfLine_succ hl]

/-- The last line extends up to the end of the text. -/
theorem lineStart_last (h : d.WellFormed) {i : Nat} (hi : i + 1 = d.lineCount) :
    d.lineStart i + d.lineExtent i = d.length := by
  have hlt : i < d.lineCount := hi ▸ Nat.lt_succ_self i
  obtain ⟨l, hl⟩ := h.exists_line hlt
  have hend := h.offsetOfLine_lineCount
  rw [← hi, offsetOfLine_succ hl] at hend
  rw [h.lineStart_eq hlt, h.lineExtent_eq hl]
  omega

/-- Counting the starts up to an offset tells which lines begin there or before. -/
theorem lt_countP_lineStarts_iff (h : d.WellFormed) {i : Nat} (hi : i < d.lineCount) :
    i < d.lineStarts.countP (fun s ↦ decide (s ≤ o)) ↔ d.lineStart i ≤ o := by
  have hstart : d.lineStarts.toList[i]? = some (d.lineStart i) := by
    rw [Array.getElem?_toList, h.getElem?_lineStarts hi, h.lineStart_eq hi]
  have hasc : d.lineStarts.toList.Pairwise (· < ·) := by
    rw [h.toList_lineStarts]
    exact ascending_startsFrom 0 _
  rw [← Array.countP_toList]
  exact lt_countP_iff hasc hstart

/-! ### Looking up -/

/-- No position lies past the end of the text. -/
theorem offset_le_length (h : d.WellFormed) (hp : d.HasPosition p) : d.offset p ≤ d.length := by
  obtain ⟨l, hl⟩ := h.exists_line hp.line_lt
  have hmono : offsetOfLine (splitLines d.buffer.toList) (p.line + 1) ≤
      offsetOfLine (splitLines d.buffer.toList) d.lineCount := offsetOfLine_mono hp.line_lt
  have hcolumn := hp.column_le
  rw [offsetOfLine_succ hl, h.offsetOfLine_lineCount, ← h.lineStart_eq hp.line_lt] at hmono
  rw [h.lineExtent_eq hl] at hcolumn
  rw [offset]
  omega

/-- The lines up to that of a position are those that begin at its offset or before. -/
theorem countP_lineStarts_offset (h : d.WellFormed) (hp : d.HasPosition p) :
    d.lineStarts.countP (fun s ↦ decide (s ≤ d.offset p)) = p.line + 1 := by
  have hcolumn := hp.column_le
  have hle : d.lineStarts.countP (fun s ↦ decide (s ≤ d.offset p)) ≤ d.lineCount :=
    h.size_lineStarts ▸ Array.countP_le_size
  have hline : p.line < d.lineStarts.countP (fun s ↦ decide (s ≤ d.offset p)) :=
    (h.lt_countP_lineStarts_iff hp.line_lt).2 (Nat.le_add_right _ _)
  by_cases hnext : p.line + 1 < d.lineCount
  · have hafter : ¬p.line + 1 < d.lineStarts.countP (fun s ↦ decide (s ≤ d.offset p)) := by
      rw [h.lt_countP_lineStarts_iff hnext, h.lineStart_succ hnext, offset]
      omega
    omega
  · omega

/-- **The position of an offset** is the position that the offset was made from. -/
theorem positionAt_offset (h : d.WellFormed) (hp : d.HasPosition p) :
    d.positionAt (d.offset p) = .ok p := by
  have hcolumn : d.offset p - d.lineStart p.line = p.column := Nat.add_sub_cancel_left _ _
  rw [positionAt, if_neg (Nat.not_lt.2 (h.offset_le_length hp)), h.countP_lineStarts_offset hp]
  exact congrArg Except.ok (Position.ext rfl hcolumn)

/-- No two positions have the same offset. -/
theorem offset_inj (h : d.WellFormed) (hp : d.HasPosition p) (hq : d.HasPosition q)
    (hpq : d.offset p = d.offset q) : p = q := by
  have hpos := h.positionAt_offset hp
  rw [hpq, h.positionAt_offset hq] at hpos
  exact (Except.ok.inj hpos).symm

/-- **Every offset** up to the length of the text is that of a position. -/
theorem exists_positionAt (h : d.WellFormed) (ho : o ≤ d.length) :
    ∃ p, d.positionAt o = .ok p ∧ d.HasPosition p ∧ d.offset p = o := by
  have hfirst : 0 < d.lineStarts.countP (fun s ↦ decide (s ≤ o)) :=
    (h.lt_countP_lineStarts_iff h.lineCount_pos).2 (by rw [h.lineStart_zero]; exact Nat.zero_le o)
  obtain ⟨line, hline⟩ := Nat.exists_eq_succ_of_ne_zero (Nat.ne_of_gt hfirst)
  have hcount : line < d.lineCount := by
    have hle : d.lineStarts.countP (fun s ↦ decide (s ≤ o)) ≤ d.lineCount :=
      h.size_lineStarts ▸ Array.countP_le_size
    omega
  have hstart : d.lineStart line ≤ o := (h.lt_countP_lineStarts_iff hcount).1 (by omega)
  refine ⟨⟨line, o - d.lineStart line⟩, ?_, ⟨hcount, ?_⟩, Nat.add_sub_cancel' hstart⟩
  · rw [positionAt, if_neg (Nat.not_lt.2 ho), hline]
    rfl
  · show o - d.lineStart line ≤ d.lineExtent line
    by_cases hnext : line + 1 < d.lineCount
    · -- the next line begins behind the offset
      have hafter : ¬d.lineStart (line + 1) ≤ o := by
        rw [← h.lt_countP_lineStarts_iff hnext]
        omega
      rw [h.lineStart_succ hnext] at hafter
      omega
    · have hlast := h.lineStart_last (show line + 1 = d.lineCount by omega)
      omega

/-- The line of a position is the number of line feeds before it. -/
theorem count_take_offset (h : d.WellFormed) (hp : d.HasPosition p) :
    (d.buffer.toList.take (d.offset p)).count '\n' = p.line := by
  obtain ⟨l, hl⟩ := h.exists_line hp.line_lt
  rw [offset, h.lineStart_eq hp.line_lt]
  exact count_take_offsetOfLine hl (h.lineExtent_eq hl ▸ hp.column_le)

/-! ### Clamping -/

theorem hasPosition_nearest (h : d.WellFormed) (p : Position) : d.HasPosition (d.nearest p) := by
  refine ⟨?_, Nat.min_le_right _ _⟩
  have hpos := h.lineCount_pos
  show min p.line (d.lineCount - 1) < d.lineCount
  omega

/-- **Clamping** never fails, and gives the nearest position. -/
theorem clampPosition_eq (h : d.WellFormed) (p : Position) :
    d.clampPosition p = .ok (d.nearest p) := by
  have hnear := h.hasPosition_nearest p
  have hoffset : d.offsetAt ⟨min p.line (d.lineCount - 1), p.column⟩ =
      .ok (d.offset (d.nearest p)) := if_pos hnear.line_lt
  rw [clampPosition, hoffset]
  exact h.positionAt_offset hnear

theorem clampPosition_of_hasPosition (h : d.WellFormed) (hp : d.HasPosition p) :
    d.clampPosition p = .ok p := by
  rw [h.clampPosition_eq, nearest_eq_self hp]

theorem hasPosition_origin (h : d.WellFormed) : d.HasPosition .origin :=
  ⟨h.lineCount_pos, Nat.zero_le _⟩

end WellFormed

end Document

end TextHistory
