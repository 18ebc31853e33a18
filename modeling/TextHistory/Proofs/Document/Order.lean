import TextHistory.Proofs.Document.LineIndex
import TextHistory.Proofs.Document.Replacement

/-!
# The order of positions is the order of offsets

Among the positions that a document has, a position comes before another exactly if its offset does
(`WellFormed.offset_lt_offset_iff`). Within a line this is plain. From one line to the next it holds
because of the line feed between them: it makes the end of a line and the start of the next one two
places, so their offsets differ.

Positions that are looked up need not be of this kind, since a column may be past the end of its
line. Cutting it off there keeps the order but can make two positions one. So a span that is in
order is never refused for its order (`WellFormed.le_of_offsetAt`), and a span that is not may still
be accepted, if neither of its ends is before the end of the one line that they are on. Where the
frontier is exactly is told by `WellFormed.lt_iff_of_offsetAt`.

All that can be done with a span asks for its offsets first, and nothing goes wrong afterwards. So a
span is refused by all of it with one error (`Rejects`) or by none of it (`Accepts`).
-/

namespace TextHistory

namespace Position

variable {a b : Position}

theorem le_total (a b : Position) : a ≤ b ∨ b ≤ a := by
  rw [le_def, le_def]
  omega

theorem le_antisymm (hab : a ≤ b) (hba : b ≤ a) : a = b := by
  rw [le_def] at hab hba
  exact Position.ext (by omega) (by omega)

theorem not_lt : ¬b < a ↔ a ≤ b := by
  rw [lt_def, le_def]
  omega

end Position

namespace Span

/-- The order in which two positions are given makes no difference. -/
theorem ordered_comm (a b : Position) : ordered a b = ordered b a := by
  rw [ordered, ordered]
  by_cases hab : a ≤ b
  · by_cases hba : b ≤ a
    · rw [Position.le_antisymm hab hba]
    · rw [if_pos hab, if_neg hba]
  · rw [if_neg hab, if_pos ((Position.le_total a b).resolve_left hab)]

theorem start_le_stop_ordered (a b : Position) : (ordered a b).start ≤ (ordered a b).stop := by
  rw [ordered]
  split
  · next hab => exact hab
  · next hab => exact (Position.le_total a b).resolve_left hab

theorem isOrdered_ordered (a b : Position) : (ordered a b).isOrdered = true :=
  decide_eq_true (start_le_stop_ordered a b)

/-- What is true of two positions is true of the ends of their span. -/
theorem ends_ordered {P : Position → Prop} {a b : Position} (ha : P a) (hb : P b) :
    P (ordered a b).start ∧ P (ordered a b).stop := by
  rw [ordered]
  split
  · exact ⟨ha, hb⟩
  · exact ⟨hb, ha⟩

end Span

namespace Document

/-- Everything that can be done with a span fails with an error. -/
structure Rejects (d : Document) (s : Span) (cause : AddressError) : Prop where
  /-- The span cannot be deleted, -/
  delete : d.delete s = .error cause
  /-- its text cannot be read, -/
  textIn : d.textIn s = .error cause
  /-- and it cannot be replaced. -/
  replace : ∀ text, d.replace s text = .error cause

/-- Everything that can be done with a span goes through. -/
structure Accepts (d : Document) (s : Span) : Prop where
  /-- The span can be deleted, -/
  delete : ∃ d', d.delete s = .ok d'
  /-- its text can be read, -/
  textIn : ∃ text, d.textIn s = .ok text
  /-- and it can be replaced. -/
  replace : ∀ text, ∃ d', d.replace s text = .ok d'

variable {d : Document} {a b p q : Position} {s : Span} {start stop : Nat} {cause : AddressError}

/-- A position on a line that exists has an offset. -/
theorem exists_offsetAt (hp : p.line < d.lineCount) : ∃ o, d.offsetAt p = .ok o := ⟨_, if_pos hp⟩

/-- Clamping the columns keeps the order. -/
theorem clampColumn_mono (hab : a ≤ b) :
    (⟨a.line, d.clampColumn a⟩ : Position) ≤ ⟨b.line, d.clampColumn b⟩ := by
  rw [Position.le_def] at hab ⊢
  rcases hab with hline | ⟨hline, hcolumn⟩
  · exact Or.inl hline
  · refine Or.inr ⟨hline, ?_⟩
    show min a.column (d.lineExtent a.line) ≤ min b.column (d.lineExtent b.line)
    rw [hline]
    exact Nat.le_min.2 ⟨Nat.le_trans (Nat.min_le_left _ _) hcolumn, Nat.min_le_right _ _⟩

/-- Once both ends are looked up, only their order counts. -/
theorem offsetsAt_eq (hstart : d.offsetAt s.start = .ok start)
    (hstop : d.offsetAt s.stop = .ok stop) :
    d.offsetsAt s =
      if stop < start then .error (.invertedRange start stop) else .ok (start, stop) := by
  rw [offsetsAt, hstart, hstop]
  rfl

/-- A missing line is found out at the start first, -/
theorem offsetsAt_of_start (hstart : d.lineCount ≤ s.start.line) :
    d.offsetsAt s = .error (.lineOutOfRange s.start.line d.lineCount) := by
  rw [offsetsAt, offsetAt_eq, if_neg (Nat.not_lt.2 hstart)]
  rfl

/-- and then at the stop. -/
theorem offsetsAt_of_stop (hstart : s.start.line < d.lineCount)
    (hstop : d.lineCount ≤ s.stop.line) :
    d.offsetsAt s = .error (.lineOutOfRange s.stop.line d.lineCount) := by
  rw [offsetsAt, offsetAt_eq, offsetAt_eq, if_pos hstart, if_neg (Nat.not_lt.2 hstop)]
  rfl

/-- A span that was not looked up is refused. -/
theorem rejects_of_offsetsAt (hs : d.offsetsAt s = .error cause) : d.Rejects s cause where
  delete := delete_of_offsetsAt_eq_error hs
  textIn := textIn_of_offsetsAt_eq_error hs
  replace := replace_of_delete_eq_error (delete_of_offsetsAt_eq_error hs)

namespace WellFormed

/-- A span that was looked up is accepted. -/
theorem accepts_of_offsetsAt (h : d.WellFormed) (hs : d.offsetsAt s = .ok (start, stop)) :
    d.Accepts s := by
  obtain ⟨rest, hrest, -⟩ := h.exists_delete hs
  refine ⟨⟨rest, hrest⟩, ⟨_, h.textIn_of_offsetsAt hs⟩, fun text ↦ ?_⟩
  obtain ⟨d', hd', -⟩ := h.exists_replace hs hrest text
  exact ⟨d', hd'⟩

/-- Later lines begin later. -/
theorem lineStart_mono (h : d.WellFormed) {i j : Nat} (hij : i ≤ j) (hj : j < d.lineCount) :
    d.lineStart i ≤ d.lineStart j := by
  rw [h.lineStart_eq (Nat.lt_of_le_of_lt hij hj), h.lineStart_eq hj]
  exact offsetOfLine_mono hij

/-- A position on an earlier line has a smaller offset: there is a line feed between the two. -/
theorem offset_lt_of_line_lt (h : d.WellFormed) (hp : d.HasPosition p) (hq : d.HasPosition q)
    (hline : p.line < q.line) : d.offset p < d.offset q := by
  have hnext : p.line + 1 < d.lineCount := Nat.lt_of_le_of_lt hline hq.line_lt
  calc d.offset p ≤ d.lineStart p.line + d.lineExtent p.line :=
        Nat.add_le_add_left hp.column_le _
    _ < d.lineStart (p.line + 1) := by
        rw [h.lineStart_succ hnext]
        exact Nat.lt_succ_self _
    _ ≤ d.lineStart q.line := h.lineStart_mono hline hq.line_lt
    _ ≤ d.offset q := Nat.le_add_right _ _

/-- **The order of positions is the order of offsets.** -/
theorem offset_lt_offset_iff (h : d.WellFormed) (hp : d.HasPosition p) (hq : d.HasPosition q) :
    d.offset p < d.offset q ↔ p < q := by
  rw [Position.lt_def]
  rcases Nat.lt_trichotomy p.line q.line with hline | hline | hline
  · exact iff_of_true (h.offset_lt_of_line_lt hp hq hline) (Or.inl hline)
  · rw [offset, offset, hline]
    omega
  · have hlt := h.offset_lt_of_line_lt hq hp hline
    omega

theorem offset_le_offset_iff (h : d.WellFormed) (hp : d.HasPosition p) (hq : d.HasPosition q) :
    d.offset p ≤ d.offset q ↔ p ≤ q := by
  rw [← Nat.not_lt, h.offset_lt_offset_iff hq hp, Position.not_lt]

/-- Looked up in order, ends give offsets in order. -/
theorem le_of_offsetAt (h : d.WellFormed) (hab : a ≤ b) (ha : d.offsetAt a = .ok start)
    (hb : d.offsetAt b = .ok stop) : start ≤ stop := by
  rw [eq_offset_of_offsetAt ha, eq_offset_of_offsetAt hb,
    h.offset_le_offset_iff (hasPosition_clampColumn (line_lt_of_offsetAt ha))
      (hasPosition_clampColumn (line_lt_of_offsetAt hb))]
  exact clampColumn_mono hab

/-- Ends are in the wrong order if their lines are, or within a line their clamped columns. -/
theorem lt_iff_of_offsetAt (h : d.WellFormed) (ha : d.offsetAt a = .ok start)
    (hb : d.offsetAt b = .ok stop) :
    stop < start ↔ b.line < a.line ∨ a.line = b.line ∧
      min b.column (d.lineExtent a.line) < min a.column (d.lineExtent a.line) := by
  rw [eq_offset_of_offsetAt ha, eq_offset_of_offsetAt hb,
    h.offset_lt_offset_iff (hasPosition_clampColumn (line_lt_of_offsetAt hb))
      (hasPosition_clampColumn (line_lt_of_offsetAt ha)), Position.lt_def]
  refine or_congr_right ?_
  rw [eq_comm]
  refine and_congr_right fun hline ↦ ?_
  rw [clampColumn, clampColumn, hline]

/-- A span that was looked up goes down the lines. -/
theorem line_le_of_offsetsAt (h : d.WellFormed) (hs : d.offsetsAt s = .ok (start, stop)) :
    s.start.line ≤ s.stop.line := by
  obtain ⟨hstart, hstop, hle⟩ := offsetsAt_eq_ok hs
  refine Nat.le_of_not_lt fun hlt ↦ ?_
  have hinverted := (h.lt_iff_of_offsetAt hstart hstop).2 (Or.inl hlt)
  exact Nat.not_le.2 hinverted hle

end WellFormed

/-- **Positions and offsets are in the same order**, and a span is refused exactly if it is inverted
after clamping. Of two positions on lines that exist, the later one does not have the smaller
offset, and it has the greater one if its line is later; the offsets are equal exactly if the lines
are and the columns are once they are cut off at the end of the line. Deleting, reading and
replacing a span fail for a start on a missing line, else for a stop on a missing line, else for
offsets in the wrong order, which they are if the stop is on an earlier line, or on the same line
with a smaller column after clamping; and else all three go through. A span made of two positions in
their order is not refused. -/
theorem order_of_reachable (h : d.Reachable) :
    (∀ a b : Position, a.line < d.lineCount → b.line < d.lineCount → ∃ x y n m,
        d.offsetAt a = .ok x ∧ d.offsetAt b = .ok y ∧
        d.lineLength a.line = .ok n ∧ d.lineLength b.line = .ok m ∧
        (a ≤ b → x ≤ y) ∧ (a.line < b.line → x < y) ∧
        (x = y ↔ a.line = b.line ∧ min a.column n = min b.column m)) ∧
      (∀ s : Span, d.lineCount ≤ s.start.line →
        d.Rejects s (.lineOutOfRange s.start.line d.lineCount)) ∧
      (∀ s : Span, s.start.line < d.lineCount → d.lineCount ≤ s.stop.line →
        d.Rejects s (.lineOutOfRange s.stop.line d.lineCount)) ∧
      (∀ s : Span, s.start.line < d.lineCount → s.stop.line < d.lineCount → ∃ start stop n,
        d.offsetAt s.start = .ok start ∧ d.offsetAt s.stop = .ok stop ∧
        d.lineLength s.start.line = .ok n ∧
        let inverted := s.stop.line < s.start.line ∨
          s.start.line = s.stop.line ∧ min s.stop.column n < min s.start.column n
        (inverted → d.Rejects s (.invertedRange start stop)) ∧ (¬inverted → d.Accepts s)) ∧
      ∀ a b : Position, a.line < d.lineCount → b.line < d.lineCount →
        Span.ordered a b = Span.ordered b a ∧ (Span.ordered a b).isOrdered = true ∧
        d.Accepts (Span.ordered a b) := by
  have hd := h.wellFormed
  refine ⟨fun a b ha hb ↦ ?_, fun s hstart ↦ rejects_of_offsetsAt (offsetsAt_of_start hstart),
    fun s hstart hstop ↦ rejects_of_offsetsAt (offsetsAt_of_stop hstart hstop),
    fun s hstart hstop ↦ ?_, fun a b ha hb ↦ ?_⟩
  · have hp := hasPosition_clampColumn ha
    have hq := hasPosition_clampColumn hb
    refine ⟨_, _, d.lineExtent a.line, d.lineExtent b.line, if_pos ha, if_pos hb, if_pos ha,
      if_pos hb, fun hab ↦ hd.le_of_offsetAt hab (if_pos ha) (if_pos hb),
      hd.offset_lt_of_line_lt hp hq, ?_⟩
    rw [← Position.mk.injEq]
    exact ⟨hd.offset_inj hp hq, congrArg d.offset⟩
  · obtain ⟨start, hstart'⟩ := exists_offsetAt hstart
    obtain ⟨stop, hstop'⟩ := exists_offsetAt hstop
    have hspan := offsetsAt_eq hstart' hstop'
    refine ⟨start, stop, d.lineExtent s.start.line, hstart', hstop', if_pos hstart, ?_⟩
    rw [← hd.lt_iff_of_offsetAt hstart' hstop']
    exact ⟨fun hlt ↦ rejects_of_offsetsAt (hspan.trans (if_pos hlt)),
      fun hle ↦ hd.accepts_of_offsetsAt (hspan.trans (if_neg hle))⟩
  · obtain ⟨hstart, hstop⟩ := Span.ends_ordered (P := fun p ↦ p.line < d.lineCount) ha hb
    obtain ⟨start, hstart⟩ := exists_offsetAt hstart
    obtain ⟨stop, hstop⟩ := exists_offsetAt hstop
    have hle := hd.le_of_offsetAt (Span.start_le_stop_ordered a b) hstart hstop
    have hspan := (offsetsAt_eq hstart hstop).trans (if_neg (Nat.not_lt.2 hle))
    exact ⟨Span.ordered_comm a b, Span.isOrdered_ordered a b, hd.accepts_of_offsetsAt hspan⟩

/-- Two columns past the end of a line, the greater one first, make a span that is accepted. The end
of the line and the start of the next one make a span that is refused, if given in this order. -/
theorem order_of_reachable_clamped :
    let d := ofString "ab\nc" 0
    d.Reachable ∧ d.Accepts ⟨⟨0, 9⟩, ⟨0, 5⟩⟩ ∧
      d.Rejects ⟨⟨1, 0⟩, ⟨0, 2⟩⟩ (.invertedRange 3 2) ∧
      d.Rejects ⟨⟨2, 0⟩, ⟨7, 0⟩⟩ (.lineOutOfRange 2 2) ∧
      d.Accepts (Span.ordered ⟨1, 0⟩ ⟨0, 2⟩) := by
  intro d
  have hd : d.Reachable := .ofString _ _
  obtain ⟨-, hmissing, -, hspan, hordered⟩ := order_of_reachable hd
  obtain ⟨x, y, n, -, -, hn, -, haccepts⟩ := hspan ⟨⟨0, 9⟩, ⟨0, 5⟩⟩ (by decide) (by decide)
  obtain rfl : n = 2 := Except.ok.inj (hn.symm.trans rfl)
  obtain ⟨start, stop, m, hstart, hstop, -, hrejects, -⟩ :=
    hspan ⟨⟨1, 0⟩, ⟨0, 2⟩⟩ (by decide) (by decide)
  obtain rfl : start = 3 := Except.ok.inj (hstart.symm.trans rfl)
  obtain rfl : stop = 2 := Except.ok.inj (hstop.symm.trans rfl)
  exact ⟨hd, haccepts (by decide), hrejects (Or.inl (by decide)), hmissing _ (by decide),
    (hordered _ _ (by decide) (by decide)).2.2⟩

end Document

end TextHistory
