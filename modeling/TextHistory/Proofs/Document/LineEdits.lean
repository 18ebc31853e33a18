import TextHistory.Proofs.Document.Order

/-!
# Edits seen from the lines

An edit goes by offsets: it cuts the text in two places, puts it together again, and has all lines
found anew. Seen from the lines it is a local matter. An insertion cuts one line in two and sets the
new text between the halves, and what comes of this is cut into lines in place of the one line
(`WellFormed.splitLines_of_insert`). A deletion joins the front of its first line to the rear of its
last one, and this is one line, whatever was between them (`WellFormed.splitLines_of_delete`). All
lines before and behind are those that there were.

So the number of lines grows by the line feeds of the text that is inserted, and shrinks by as many
lines as the span goes down.
-/

namespace TextHistory

namespace Document

/-- The lines, as lists of characters. -/
def rows (d : Document) : List (List Char) := d.lines.toList.map String.toList

variable {d d' : Document} {p : Position} {s : Span} {o start stop : Nat} {text : String}
  {l k : List Char}

theorem length_rows (d : Document) : d.rows.length = d.lineCount := by
  rw [rows, List.length_map, Array.length_toList]
  rfl

theorem line_lt_of_rows (hl : d.rows[p.line]? = some l) : p.line < d.lineCount := by
  rw [← length_rows]
  exact (List.getElem?_eq_some_iff.1 hl).1

namespace WellFormed

theorem rows_eq (h : d.WellFormed) : d.rows = splitLines d.buffer.toList := h.map_toList_lines

theorem clampColumn_eq (h : d.WellFormed) (hl : d.rows[p.line]? = some l) :
    d.clampColumn p = min p.column l.length := by
  rw [h.rows_eq] at hl
  rw [clampColumn, h.lineExtent_eq hl]

/-- **The lines that an insertion makes.** The text goes into one line, and what comes of it is cut
into lines. -/
theorem splitLines_of_insert (h : d.WellFormed) (hp : d.offsetAt p = .ok o)
    (htext : d'.buffer.toList =
      d.buffer.toList.take o ++ text.toList ++ d.buffer.toList.drop o)
    (hl : (splitLines d.buffer.toList)[p.line]? = some l) :
    splitLines d'.buffer.toList =
      (splitLines d.buffer.toList).take p.line ++
        splitLines (l.take (d.clampColumn p) ++ text.toList ++ l.drop (d.clampColumn p)) ++
          (splitLines d.buffer.toList).drop (p.line + 1) := by
  have hcolumn := h.clampColumn_le hl
  rw [htext, h.eq_offsetOfLine_of_offsetAt hp, List.append_assoc,
    splitLines_append_left (splitLines_take hl hcolumn), ← List.append_assoc,
    splitLines_append_right (splitLines_drop hl hcolumn), ← List.append_assoc]

/-- The lines that a deletion leaves, told by the old lines alone. -/
theorem rows_of_delete (h : d.WellFormed) (hs : d.offsetsAt s = .ok (start, stop))
    (hd : d.delete s = .ok d') (hl : d.rows[s.start.line]? = some l)
    (hk : d.rows[s.stop.line]? = some k) :
    d'.rows = d.rows.take s.start.line ++
      [l.take (min s.start.column l.length) ++ k.drop (min s.stop.column k.length)] ++
        d.rows.drop (s.stop.line + 1) := by
  have hlines := h.splitLines_of_delete hs hd (h.rows_eq ▸ hl) (h.rows_eq ▸ hk)
  rw [(h.delete hd).rows_eq, hlines, h.clampColumn_eq hl, h.clampColumn_eq hk, ← h.rows_eq,
    List.append_assoc]
  rfl

/-- An insertion goes through exactly if its line exists. -/
theorem insert_eq_error_iff (h : d.WellFormed) {cause : AddressError} :
    d.insert p text = .error cause ↔
      d.lineCount ≤ p.line ∧ cause = .lineOutOfRange p.line d.lineCount := by
  constructor
  · intro he
    cases hp : d.offsetAt p with
    | error c =>
      have hinsert := insert_of_offsetAt_eq_error hp text
      obtain rfl : c = cause := Except.error.inj (hinsert.symm.trans he)
      exact eq_of_offsetAt_eq_error hp
    | ok o =>
      obtain ⟨d', -, hd', -⟩ := h.exists_insert hp text
      exact absurd (he.symm.trans hd') (by simp)
  · rintro ⟨hline, rfl⟩
    exact insert_of_offsetAt_eq_error (if_neg (Nat.not_lt.2 hline)) text

end WellFormed

/-- A text put between the halves of another is added to its characters. -/
theorem perm_take_append_drop (cs ts : List Char) (o : Nat) :
    (cs.take o ++ ts ++ cs.drop o).Perm (ts ++ cs) := by
  have hfront := List.perm_append_comm_assoc (cs.take o) ts (cs.drop o)
  rwa [List.take_append_drop, ← List.append_assoc] at hfront

/-- **Edits change only the lines that they touch.** An insertion on a line that exists goes
through: in place of the line come the lines of what it becomes, with its column clamped; there is
one line more for every line feed of the text, and one character more for each of its characters. A
deletion that goes through puts one line in the place of those from the start to the stop of the
span, made of what is left of the first and of the last of them, with both columns clamped; there
are as many lines less as the span goes down. An insertion fails exactly if its line does not
exist. -/
theorem lineEdits_of_reachable (h : d.Reachable) :
    (∀ (p : Position) (l : List Char) (text : String), d.rows[p.line]? = some l →
      ∃ d', d.insert p text = .ok d' ∧
        let c := min p.column l.length
        d'.rows = d.rows.take p.line ++ splitLines (l.take c ++ text.toList ++ l.drop c) ++
          d.rows.drop (p.line + 1) ∧
        d'.lineCount = d.lineCount + text.toList.count '\n' ∧
        d'.length = d.length + text.length) ∧
      (∀ (s : Span) (d' : Document), d.delete s = .ok d' → ∃ l k,
        d.rows[s.start.line]? = some l ∧ d.rows[s.stop.line]? = some k ∧
        d'.rows = d.rows.take s.start.line ++
          [l.take (min s.start.column l.length) ++ k.drop (min s.stop.column k.length)] ++
          d.rows.drop (s.stop.line + 1) ∧
        s.start.line ≤ s.stop.line ∧
        d'.lineCount + (s.stop.line - s.start.line) = d.lineCount) ∧
      ∀ (p : Position) (text : String) (cause : AddressError),
        d.insert p text = .error cause ↔
          d.rows.length ≤ p.line ∧ cause = .lineOutOfRange p.line d.rows.length := by
  have hd := h.wellFormed
  refine ⟨fun p l text hl ↦ ?_, fun s d' hd' ↦ ?_, fun p text cause ↦ ?_⟩
  · obtain ⟨o, ho⟩ := exists_offsetAt (line_lt_of_rows hl)
    obtain ⟨d', -, hd', hwf, htext, -⟩ := hd.exists_insert ho text
    have hperm := perm_take_append_drop d.buffer.toList text.toList o
    rw [← htext] at hperm
    refine ⟨d', hd', ?_, ?_, ?_⟩
    · rw [hwf.rows_eq, hd.rows_eq, ← hd.clampColumn_eq hl]
      exact hd.splitLines_of_insert ho htext (hd.rows_eq ▸ hl)
    · rw [hwf.lineCount_eq, hd.lineCount_eq, hperm.count_eq, List.count_append]
      omega
    · rw [← hwf.length_toList, ← hd.length_toList, hperm.length_eq, List.length_append,
        String.length_toList, Nat.add_comm]
  · obtain ⟨start, stop, hs⟩ := exists_offsetsAt_of_delete hd'
    obtain ⟨hstart, hstop, -⟩ := offsetsAt_eq_ok hs
    obtain ⟨l, hl⟩ := hd.exists_line (line_lt_of_offsetAt hstart)
    obtain ⟨k, hk⟩ := hd.exists_line (line_lt_of_offsetAt hstop)
    rw [← hd.rows_eq] at hl hk
    have hrows := hd.rows_of_delete hs hd' hl hk
    have hdown := hd.line_le_of_offsetsAt hs
    refine ⟨l, k, hl, hk, hrows, hdown, ?_⟩
    have hlast : s.stop.line < d.rows.length := (List.getElem?_eq_some_iff.1 hk).1
    rw [← length_rows, ← length_rows, hrows, List.length_append, List.length_append,
      List.length_take, List.length_singleton, List.length_drop]
    omega
  · rw [length_rows]
    exact hd.insert_eq_error_iff

/-- A text with line feeds at both ends goes into the middle of a line; a span from behind the end
of a line into a later one is deleted; and there is no line to insert at. -/
theorem lineEdits_of_reachable_newlines :
    let d := ofString "ab\n\ncd" 0
    d.Reachable ∧
      (∃ d', d.insert ⟨0, 1⟩ "\nx\n" = .ok d' ∧
        d'.rows = [['a'], ['x'], ['b'], [], ['c', 'd']] ∧ d'.lineCount = 5 ∧ d'.length = 9) ∧
      (∃ d', d.delete ⟨⟨0, 9⟩, ⟨2, 1⟩⟩ = .ok d' ∧ d'.rows = [['a', 'b', 'd']] ∧
        d'.lineCount = 1) ∧
      d.insert ⟨3, 0⟩ "x" = .error (.lineOutOfRange 3 3) := by
  intro d
  have hd : d.Reachable := .ofString _ _
  obtain ⟨hinsert, hdelete, hmissing⟩ := lineEdits_of_reachable hd
  have hgone : ∃ d', d.delete ⟨⟨0, 9⟩, ⟨2, 1⟩⟩ = .ok d' := ⟨_, rfl⟩
  obtain ⟨d₁, hd₁, hrows₁, hcount₁, hlength₁⟩ := hinsert ⟨0, 1⟩ ['a', 'b'] "\nx\n" (by decide)
  obtain ⟨d₂, hd₂⟩ := hgone
  obtain ⟨l, k, hl, hk, hrows₂, -, hcount₂⟩ := hdelete _ d₂ hd₂
  obtain rfl : ['a', 'b'] = l := Option.some.inj (Eq.trans (by decide) hl)
  obtain rfl : ['c', 'd'] = k := Option.some.inj (Eq.trans (by decide) hk)
  have hlines : d.lineCount = 3 := by decide
  refine ⟨hd, ⟨d₁, hd₁, hrows₁.trans (by decide), hcount₁.trans (by decide),
    hlength₁.trans (by decide)⟩, ⟨d₂, hd₂, hrows₂.trans (by decide), ?_⟩,
    (hmissing ⟨3, 0⟩ "x" _).2 (by decide)⟩
  rw [hlines] at hcount₂
  exact Nat.add_right_cancel hcount₂

end Document

end TextHistory
