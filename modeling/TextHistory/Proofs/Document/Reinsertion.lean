import TextHistory.Proofs.Document.LineIndex
import TextHistory.Proofs.Document.Removal
import TextHistory.Proofs.GapBuffer.Equality

/-!
# Deleting and inserting again

What a deletion takes out is the text of its span, and inserting this text where it was taken out
gives the old text back. The place is that of the offset of the span, in what is left of the
document (`WellFormed.exists_insert_of_positionAt`).

The start of the span names this place too, unless it was past the end of its line. Then the text
goes in behind some characters of the last line of the span, as many as the overshoot tells, and it
does not give the old text back if there are any. For the span was taken from the end of a line on,
so its text begins with the line feed there, and none of the characters passed is a line feed; text
and characters cannot change places (`WellFormed.append_comm_iff`). So the round trip goes wrong
exactly if there is an overshoot.
-/

namespace TextHistory

namespace Document

variable {d d' rest : Document} {p : Position} {s : Span} {start stop : Nat}
  {cause : AddressError} {text : String}

namespace WellFormed

/-! ### The text behind a position -/

/-- Behind the end of a line that is not the last one comes a line feed. -/
theorem exists_drop_lineEnd (h : d.WellFormed) {i : Nat} (hi : i + 1 < d.lineCount) :
    ∃ cs, d.buffer.toList.drop (d.lineStart i + d.lineExtent i) = '\n' :: cs := by
  obtain ⟨l, hl⟩ := h.exists_line (Nat.lt_of_succ_lt hi)
  have hlines := splitLines_drop hl (Nat.le_refl l.length)
  have hnext : (splitLines d.buffer.toList).drop (i + 1) ≠ [] := by
    rw [List.ne_nil_iff_length_pos, List.length_drop, h.length_lines]
    omega
  refine ⟨joinLines ((splitLines d.buffer.toList).drop (i + 1)), ?_⟩
  rw [h.lineStart_eq (Nat.lt_of_succ_lt hi), h.lineExtent_eq hl,
    ← joinLines_splitLines (List.drop _ _), hlines, joinLines_cons _ hnext, List.drop_length,
    List.nil_append]

/-- Behind a position that is not the end of its line comes a character of the line. -/
theorem exists_drop_offset (h : d.WellFormed) (hp : d.HasPosition p)
    (hlt : p.column < d.lineExtent p.line) :
    ∃ c cs, d.buffer.toList.drop (d.offset p) = c :: cs ∧ c ≠ '\n' := by
  obtain ⟨l, hl⟩ := h.exists_line hp.line_lt
  rw [h.lineExtent_eq hl] at hlt
  have hlines := splitLines_drop hl (Nat.le_of_lt hlt)
  rw [List.drop_eq_getElem_cons hlt] at hlines
  refine ⟨l[p.column], joinLines (l.drop (p.column + 1) :: (splitLines d.buffer.toList).drop
    (p.line + 1)), ?_, ?_⟩
  · rw [offset, h.lineStart_eq hp.line_lt, ← joinLines_splitLines (List.drop _ _), hlines,
      ← joinLines_consFirst]
    rfl
  · intro hnewline
    exact newline_not_mem_of_mem_splitLines (List.mem_of_getElem? hl)
      (hnewline ▸ List.getElem_mem hlt)

/-! ### The round trip -/

/-- The text of a span can be read exactly if the span can be deleted. -/
theorem textIn_eq_error_iff (h : d.WellFormed) :
    d.textIn s = .error cause ↔ d.delete s = .error cause := by
  cases hs : d.offsetsAt s with
  | error c =>
    rw [textIn_of_offsetsAt_eq_error hs, delete_of_offsetsAt_eq_error hs]
    simp only [Except.error.injEq]
  | ok offsets =>
    obtain ⟨rest, hrest, -⟩ := h.exists_delete hs
    rw [h.textIn_of_offsetsAt hs, hrest]
    simp

theorem toList_of_textIn (h : d.WellFormed) (hs : d.offsetsAt s = .ok (start, stop))
    (ht : d.textIn s = .ok text) :
    text.toList = (d.buffer.toList.drop start).take (stop - start) := by
  obtain rfl := Except.ok.inj ((h.textIn_of_offsetsAt hs).symm.trans ht)
  exact String.toList_ofList

/-- A text is what stands before a span, the text of the span, and what stands behind it. -/
theorem eq_append_textIn (h : d.WellFormed) (hs : d.offsetsAt s = .ok (start, stop))
    (ht : d.textIn s = .ok text) :
    d.buffer.toList = d.buffer.toList.take start ++ text.toList ++ d.buffer.toList.drop stop := by
  obtain ⟨-, -, hle⟩ := offsetsAt_eq_ok hs
  have hdrop : d.buffer.toList.drop stop = (d.buffer.toList.drop start).drop (stop - start) := by
    rw [List.drop_drop, Nat.add_sub_cancel' hle]
  rw [h.toList_of_textIn hs ht, hdrop, List.append_assoc, List.take_append_drop,
    List.take_append_drop]

/-- **Inserting the text of a deleted span where it was** gives the old text back. -/
theorem exists_insert_of_positionAt (h : d.WellFormed) (hs : d.offsetsAt s = .ok (start, stop))
    (ht : d.textIn s = .ok text) (hd : d.delete s = .ok rest) :
    ∃ p d', rest.positionAt start = .ok p ∧ rest.insert p text = .ok d' ∧
      d'.buffer.toList = d.buffer.toList := by
  obtain ⟨hstart, -, -⟩ := offsetsAt_eq_ok hs
  have hrest := h.delete hd
  have htext := h.toList_of_delete hs hd
  have hlength := h.length_take_of_offsetAt hstart
  have hle : start ≤ rest.length := by
    rw [← hrest.length_toList, htext, List.length_append, hlength]
    exact Nat.le_add_right _ _
  obtain ⟨p, hpos, hp, rfl⟩ := hrest.exists_positionAt hle
  obtain ⟨d', -, hd', -, htext', -⟩ := hrest.exists_insert (offsetAt_of_hasPosition hp) text
  refine ⟨p, d', hpos, hd', ?_⟩
  rw [htext', htext, List.take_left' hlength, List.drop_left' hlength, ← h.eq_append_textIn hs ht]

/-- A span with an overshoot begins at the end of a line, and its last line goes on behind it with
a character of its own. -/
theorem exists_drop_of_overshoot (h : d.WellFormed) (hs : d.offsetsAt s = .ok (start, stop))
    (hover : d.overshoot s ≠ 0) :
    start < stop ∧ (∃ cs, d.buffer.toList.drop start = '\n' :: cs) ∧
      ∃ c cs, d.buffer.toList.drop stop = c :: cs ∧ c ≠ '\n' := by
  obtain ⟨hstart, hstop, hle⟩ := offsetsAt_eq_ok hs
  have hp := hasPosition_clampColumn (line_lt_of_offsetAt hstart)
  have hq := hasPosition_clampColumn (line_lt_of_offsetAt hstop)
  have hlength := h.le_length_of_offsetAt hstop
  obtain rfl := eq_offset_of_offsetAt hstart
  obtain rfl := eq_offset_of_offsetAt hstop
  have hpast := mt overshoot_eq_zero_iff.2 hover
  rw [not_or] at hpast
  have hend : d.clampColumn s.start = d.lineExtent s.start.line :=
    Nat.min_eq_right (Nat.le_of_not_le hpast.1)
  have hlt : d.offset ⟨s.start.line, d.clampColumn s.start⟩ <
      d.offset ⟨s.stop.line, d.clampColumn s.stop⟩ := by
    refine Nat.lt_of_le_of_ne hle fun heq ↦ ?_
    obtain ⟨hline, -⟩ := Position.mk.inj (h.offset_inj hp hq heq)
    exact hover (overshoot_of_line_eq hs hline)
  have hnext : s.start.line + 1 < d.lineCount := by
    refine Nat.lt_of_not_le fun hlast ↦ ?_
    have hline := line_lt_of_offsetAt hstart
    have hwhole := h.lineStart_last (show s.start.line + 1 = d.lineCount by omega)
    rw [offset] at hlt
    dsimp only at hlt
    omega
  refine ⟨hlt, ?_, h.exists_drop_offset hq ?_⟩
  · rw [offset, hend]
    exact h.exists_drop_lineEnd hnext
  · show min s.stop.column (d.lineExtent s.stop.line) < d.lineExtent s.stop.line
    omega

/-- **The text of a span and the characters passed** change places only if there are none. -/
theorem append_comm_iff (h : d.WellFormed) (hs : d.offsetsAt s = .ok (start, stop))
    (ht : d.textIn s = .ok text) :
    (d.buffer.toList.drop stop).take (d.overshoot s) ++ text.toList =
        text.toList ++ (d.buffer.toList.drop stop).take (d.overshoot s) ↔
      d.overshoot s = 0 := by
  refine ⟨fun hcomm ↦ Decidable.byContradiction fun hover ↦ ?_, fun hzero ↦ by
    rw [hzero, List.take_zero, List.append_nil, List.nil_append]⟩
  obtain ⟨hlt, ⟨cs, hcs⟩, c, ds, hds, hc⟩ := h.exists_drop_of_overshoot hs hover
  obtain ⟨k, hk⟩ := Nat.exists_eq_succ_of_ne_zero hover
  obtain ⟨m, hm⟩ := Nat.exists_eq_succ_of_ne_zero (Nat.sub_ne_zero_of_lt hlt)
  -- the first characters of the two sides differ
  rw [h.toList_of_textIn hs ht, hcs, hds, hk, hm, List.take_succ_cons, List.take_succ_cons,
    List.cons_append, List.cons_append] at hcomm
  exact hc (List.cons_eq_cons.1 hcomm).1

/-- **Inserting the text of a deleted span at its start** gives the old text back exactly if there
is no overshoot. -/
theorem toList_eq_iff_of_insert (h : d.WellFormed) (hs : d.offsetsAt s = .ok (start, stop))
    (ht : d.textIn s = .ok text) (hd : d.delete s = .ok rest)
    (hd' : rest.insert s.start text = .ok d') :
    d'.buffer.toList = d.buffer.toList ↔ d.overshoot s = 0 := by
  obtain ⟨d'', hd'', htext⟩ := h.exists_insert_of_delete hs hd text
  obtain rfl : d' = d'' := Except.ok.inj (hd'.symm.trans hd'')
  have hwhole : d.buffer.toList = d.buffer.toList.take start ++
      (text.toList ++ (d.buffer.toList.drop stop).take (d.overshoot s) ++
        d.buffer.toList.drop (stop + d.overshoot s)) := by
    rw [← List.drop_drop, List.append_assoc, List.take_append_drop, ← List.append_assoc]
    exact h.eq_append_textIn hs ht
  have hinserted : d'.buffer.toList = d.buffer.toList.take start ++
      ((d.buffer.toList.drop stop).take (d.overshoot s) ++ text.toList ++
        d.buffer.toList.drop (stop + d.overshoot s)) := by
    rw [htext, List.append_assoc, List.append_assoc, List.append_assoc]
  rw [← h.append_comm_iff hs ht]
  refine ⟨fun heq ↦ ?_, fun hcomm ↦ ?_⟩
  · rw [hinserted] at heq
    exact List.append_cancel_right (List.append_cancel_left (heq.trans hwhole))
  · rw [hinserted, hcomm]
    exact hwhole.symm

end WellFormed

/-- **Deleting a span and inserting its text again** gives the old text back, exactly as far as it
does. Reading and deleting a span go through together, or fail with the same error. The text read is
the stretch of the old text between the offsets of the span, and the deletion leaves the rest. With
the text inserted at the position of the first offset all is as it was; with the text inserted at
the start of the span, which always goes through, it is so exactly if the start was not past the end
of its line or the stop not before the end of its own. -/
theorem reinsert_of_reachable (h : d.Reachable) (s : Span) :
    (∀ cause, d.textIn s = .error cause ↔ d.delete s = .error cause) ∧
      ∀ text rest, d.textIn s = .ok text → d.delete s = .ok rest → ∃ start stop n m,
        d.offsetAt s.start = .ok start ∧ d.offsetAt s.stop = .ok stop ∧ start ≤ stop ∧
        d.lineLength s.start.line = .ok n ∧ d.lineLength s.stop.line = .ok m ∧
        text.toList = (d.content.toList.take stop).drop start ∧
        rest.content.toList = d.content.toList.take start ++ d.content.toList.drop stop ∧
        (∃ p d', rest.positionAt start = .ok p ∧ rest.insert p text = .ok d' ∧
          d'.content = d.content) ∧
        ∃ d', rest.insert s.start text = .ok d' ∧
          (d'.content = d.content ↔ s.start.column ≤ n ∨ m ≤ s.stop.column) := by
  have hd := h.wellFormed
  refine ⟨fun cause ↦ hd.textIn_eq_error_iff, fun text rest ht hrest ↦ ?_⟩
  obtain ⟨start, stop, hs⟩ := exists_offsetsAt_of_delete hrest
  obtain ⟨hstart, hstop, hle⟩ := offsetsAt_eq_ok hs
  obtain ⟨p, dp, hp, hdp, hback⟩ := hd.exists_insert_of_positionAt hs ht hrest
  obtain ⟨ds, hds, -⟩ := hd.exists_insert_of_delete hs hrest text
  refine ⟨start, stop, d.lineExtent s.start.line, d.lineExtent s.stop.line, hstart, hstop, hle,
    if_pos (line_lt_of_offsetAt hstart), if_pos (line_lt_of_offsetAt hstop), ?_, ?_,
    ⟨p, dp, hp, hdp, GapBuffer.text_eq_iff.2 hback⟩, ds, hds, ?_⟩
  · rw [toList_content, hd.toList_of_textIn hs ht, List.drop_take]
  · rw [toList_content, toList_content]
    exact hd.toList_of_delete hs hrest
  · rw [← overshoot_eq_zero_iff, ← hd.toList_eq_iff_of_insert hs ht hrest hds]
    exact GapBuffer.text_eq_iff

/-- A start two columns past the end of its line, and a stop inside the next one. The text of the
span goes back to where it was, and not to where the span says that it starts. -/
theorem reinsert_of_reachable_overshoot :
    let d := ofString "ab\ncdef" 0
    let s : Span := ⟨⟨0, 4⟩, ⟨1, 1⟩⟩
    d.Reachable ∧ ∃ text rest, d.textIn s = .ok text ∧ d.delete s = .ok rest ∧
      text.toList = ['\n', 'c'] ∧
      (∃ p d', rest.positionAt 2 = .ok p ∧ rest.insert p text = .ok d' ∧
        d'.content = d.content) ∧
      ∃ d', rest.insert ⟨0, 4⟩ text = .ok d' ∧ d'.content ≠ d.content := by
  intro d s
  have hd : d.Reachable := .ofString _ _
  have htext : ∃ text, d.textIn s = .ok text := ⟨_, rfl⟩
  have hrest : ∃ rest, d.delete s = .ok rest := ⟨_, rfl⟩
  obtain ⟨text, htext⟩ := htext
  obtain ⟨rest, hrest⟩ := hrest
  obtain ⟨start, stop, n, m, hstart, hstop, -, hn, hm, hslice, -, hback, d', hd', hiff⟩ :=
    (reinsert_of_reachable hd s).2 text rest htext hrest
  obtain rfl : start = 2 := Except.ok.inj (hstart.symm.trans rfl)
  obtain rfl : stop = 4 := Except.ok.inj (hstop.symm.trans rfl)
  obtain rfl : n = 2 := Except.ok.inj (hn.symm.trans rfl)
  obtain rfl : m = 4 := Except.ok.inj (hm.symm.trans rfl)
  exact ⟨hd, text, rest, htext, hrest, hslice.trans (by decide), hback, d', hd',
    mt hiff.1 (by decide)⟩

end Document

end TextHistory
