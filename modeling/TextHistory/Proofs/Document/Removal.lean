import TextHistory.Proofs.Document.Outcomes

/-!
# What a deletion leaves

Deleting a span takes out the text between two offsets, and so it joins two lines: what stands left
of the span on its first line goes on with what stands right of it on its last line. All other lines
that are left are as they were (`WellFormed.splitLines_of_delete`).

This settles where the start of the span is, if it is looked up again in what is left
(`WellFormed.offsetAt_of_delete`). It need not be the place of the span. A column past the end of
its line was clamped when the span was looked up; the joined line may be longer, and then less is
clamped away. By how much the place is missed is the `overshoot`, which is zero if the start was not
past the end of its line, or if nothing of the last line is left (`overshoot_eq_zero_iff`).
-/

namespace TextHistory

namespace Document

/-- How far behind the place of a span its start is found when the span is deleted. -/
def overshoot (d : Document) (s : Span) : Nat :=
  min (s.start.column - d.clampColumn s.start) (d.lineExtent s.stop.line - d.clampColumn s.stop)

variable {d rest : Document} {p : Position} {s : Span} {o start stop : Nat} {l k : List Char}

theorem overshoot_eq_zero_iff : d.overshoot s = 0 ↔
    s.start.column ≤ d.lineExtent s.start.line ∨ d.lineExtent s.stop.line ≤ s.stop.column := by
  rw [overshoot, clampColumn, clampColumn]
  omega

/-- A span within one line is not missed: if its start was past the end of the line, so was its
stop. -/
theorem overshoot_of_line_eq (hs : d.offsetsAt s = .ok (start, stop))
    (hline : s.start.line = s.stop.line) : d.overshoot s = 0 := by
  obtain ⟨hstart, hstop, hle⟩ := offsetsAt_eq_ok hs
  rw [eq_offset_of_offsetAt hstart, eq_offset_of_offsetAt hstop, offset, offset, hline] at hle
  have hclamped : d.clampColumn s.start = min s.start.column (d.lineExtent s.stop.line) := by
    rw [clampColumn, hline]
  have hclamped' : d.clampColumn s.stop = min s.stop.column (d.lineExtent s.stop.line) := rfl
  dsimp only at hle
  rw [overshoot]
  omega

/-- A deletion goes through only if the span was looked up. -/
theorem exists_offsetsAt_of_delete (hd : d.delete s = .ok rest) :
    ∃ start stop, d.offsetsAt s = .ok (start, stop) := by
  rw [delete] at hd
  obtain ⟨offsets, hs, -⟩ := bind_eq_ok_iff.1 hd
  exact ⟨offsets.1, offsets.2, hs⟩

namespace WellFormed

/-- The offset of a position, from the lines of the text. -/
theorem eq_offsetOfLine_of_offsetAt (h : d.WellFormed) (hp : d.offsetAt p = .ok o) :
    o = offsetOfLine (splitLines d.buffer.toList) p.line + d.clampColumn p := by
  rw [eq_offset_of_offsetAt hp, offset, h.lineStart_eq (line_lt_of_offsetAt hp)]

theorem clampColumn_le (h : d.WellFormed) (hl : (splitLines d.buffer.toList)[p.line]? = some l) :
    d.clampColumn p ≤ l.length := h.lineExtent_eq hl ▸ Nat.min_le_right _ _

/-- **The lines that a deletion leaves.** The first line of the span goes on with the last one. -/
theorem splitLines_of_delete (h : d.WellFormed) (hs : d.offsetsAt s = .ok (start, stop))
    (hd : d.delete s = .ok rest) (hl : (splitLines d.buffer.toList)[s.start.line]? = some l)
    (hk : (splitLines d.buffer.toList)[s.stop.line]? = some k) :
    splitLines rest.buffer.toList =
      (splitLines d.buffer.toList).take s.start.line ++
        (l.take (d.clampColumn s.start) ++ k.drop (d.clampColumn s.stop)) ::
          (splitLines d.buffer.toList).drop (s.stop.line + 1) := by
  obtain ⟨hstart, hstop, -⟩ := offsetsAt_eq_ok hs
  rw [h.toList_of_delete hs hd, h.eq_offsetOfLine_of_offsetAt hstart,
    h.eq_offsetOfLine_of_offsetAt hstop]
  exact splitLines_append (splitLines_take hl (h.clampColumn_le hl))
    (splitLines_drop hk (h.clampColumn_le hk))

/-- **The start of a span in what is left of the document** without it. -/
theorem offsetAt_of_delete (h : d.WellFormed) (hs : d.offsetsAt s = .ok (start, stop))
    (hd : d.delete s = .ok rest) : rest.offsetAt s.start = .ok (start + d.overshoot s) := by
  obtain ⟨hstart, hstop, -⟩ := offsetsAt_eq_ok hs
  have hrest := h.delete hd
  have hline : s.start.line < rest.lineCount := h.line_lt_of_delete hs hd
  obtain ⟨l, hl⟩ := h.exists_line (line_lt_of_offsetAt hstart)
  obtain ⟨k, hk⟩ := h.exists_line (line_lt_of_offsetAt hstop)
  have hlines := h.splitLines_of_delete hs hd hl hk
  have hbefore : s.start.line ≤ (splitLines d.buffer.toList).length :=
    Nat.le_of_lt (List.getElem?_eq_some_iff.1 hl).1
  -- the lines before the joined one are as they were, so it begins where the first line began
  have hlineStart : rest.lineStart s.start.line =
      offsetOfLine (splitLines d.buffer.toList) s.start.line := by
    rw [hrest.lineStart_eq hline, hlines, offsetOfLine_take_append hbefore]
  have hjoined : (splitLines rest.buffer.toList)[s.start.line]? =
      some (l.take (d.clampColumn s.start) ++ k.drop (d.clampColumn s.stop)) := by
    have htake := List.length_take_of_le hbefore
    rw [hlines, List.getElem?_append_right (Nat.le_of_eq htake), htake, Nat.sub_self]
    rfl
  have hlineExtent : rest.lineExtent s.start.line =
      d.clampColumn s.start + (d.lineExtent s.stop.line - d.clampColumn s.stop) := by
    rw [hrest.lineExtent_eq hjoined, List.length_append, List.length_drop,
      List.length_take_of_le (h.clampColumn_le hl), h.lineExtent_eq hk]
  have hclamped : d.clampColumn s.start ≤ s.start.column := Nat.min_le_left _ _
  rw [offsetAt, if_pos hline, clampColumn, hlineStart, hlineExtent,
    h.eq_offsetOfLine_of_offsetAt hstart, overshoot]
  congr 1
  omega

/-- **An insertion at the start of a deleted span** goes through, and puts the text behind as much
of the last line as the overshoot tells. -/
theorem exists_insert_of_delete (h : d.WellFormed) (hs : d.offsetsAt s = .ok (start, stop))
    (hd : d.delete s = .ok rest) (text : String) :
    ∃ d', rest.insert s.start text = .ok d' ∧
      d'.buffer.toList = d.buffer.toList.take start ++
        (d.buffer.toList.drop stop).take (d.overshoot s) ++ text.toList ++
          d.buffer.toList.drop (stop + d.overshoot s) := by
  obtain ⟨hstart, -, -⟩ := offsetsAt_eq_ok hs
  obtain ⟨d', -, hd', -, htext, -⟩ := (h.delete hd).exists_insert (h.offsetAt_of_delete hs hd) text
  have hlength := h.length_take_of_offsetAt hstart
  have hfront : (d.buffer.toList.take start).length ≤ start + d.overshoot s :=
    hlength.symm ▸ Nat.le_add_right _ _
  refine ⟨d', hd', htext.trans ?_⟩
  rw [h.toList_of_delete hs hd, List.take_append, List.take_of_length_le hfront, List.drop_append,
    List.drop_of_length_le hfront, hlength, Nat.add_sub_cancel_left, List.drop_drop,
    List.nil_append]

end WellFormed

end Document

end TextHistory
