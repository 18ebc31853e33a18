import TextHistory.Proofs.Document.Correspondence
import TextHistory.Proofs.Document.Removal

/-!
# The position behind a text

A text that stands at a position leads to another one, and which one can be told from the text
alone: a text without a line feed leads so many columns further on the line, and any other so many
lines down, to the column that its last line is long (`Position.behind`). The texts act on the
positions in this way (`Position.behind_append`), and a position of a document is what the text
before it leads to from the origin (`WellFormed.eq_behind_take`).

So a position behind a text that an edit puts in needs no look-up. The edit makes one all the same:
it adds the length of the text to an offset, and looks up the position of the sum in the document
that came out. Both are the same, since the characters before the text are the old ones
(`WellFormed.positionAt_behind`); and so an edit leads behind its text, which for a deletion is
empty (`WellFormed.cursor_of_outcome`). All that has to be said is where the text starts
(`editStart`): at a column that has been clamped, by the document before an insertion or a deletion,
but by what is left of the document after the deletion if a span is replaced.
-/

namespace TextHistory

/-- Behind the last line feed nothing is cut off. -/
theorem rtakeWhile_append_of_not_mem (cs : List Char) {ds : List Char} (hds : '\n' ∉ ds) :
    (cs ++ ds).rtakeWhile (· != '\n') = cs.rtakeWhile (· != '\n') ++ ds := by
  have hall : ∀ c ∈ ds.reverse, (c != '\n') = true := fun c hc ↦
    bne_iff_ne.2 fun heq ↦ hds (heq ▸ List.mem_reverse.1 hc)
  rw [List.rtakeWhile, List.reverse_append, List.takeWhile_append_of_pos hall, List.reverse_append,
    List.reverse_reverse, List.rtakeWhile]

namespace Position

/-- Where a text leads that stands at a position. -/
def behind (p : Position) (cs : List Char) : Position :=
  if '\n' ∈ cs then ⟨p.line + cs.count '\n', (cs.rtakeWhile (· != '\n')).length⟩
  else ⟨p.line, p.column + cs.length⟩

variable (p : Position) {cs : List Char}

theorem behind_of_mem (h : '\n' ∈ cs) :
    p.behind cs = ⟨p.line + cs.count '\n', (cs.rtakeWhile (· != '\n')).length⟩ := if_pos h

theorem behind_of_not_mem (h : '\n' ∉ cs) : p.behind cs = ⟨p.line, p.column + cs.length⟩ := if_neg h

@[simp] theorem behind_nil : p.behind [] = p := p.behind_of_not_mem List.not_mem_nil

/-- Every line feed leads down by a line. -/
@[simp] theorem line_behind (cs : List Char) : (p.behind cs).line = p.line + cs.count '\n' := by
  by_cases h : '\n' ∈ cs
  · rw [behind_of_mem p h]
  · rw [behind_of_not_mem p h, List.count_eq_zero.2 h, Nat.add_zero]

/-- From the start of a line, a text leads to the column that its last line is long. -/
theorem behind_start (line : Nat) (cs : List Char) :
    behind ⟨line, 0⟩ cs = ⟨line + cs.count '\n', (cs.rtakeWhile (· != '\n')).length⟩ := by
  by_cases h : '\n' ∈ cs
  · exact behind_of_mem _ h
  · have hall : ∀ c ∈ cs, (c != '\n') = true := fun c hc ↦ bne_iff_ne.2 fun heq ↦ h (heq ▸ hc)
    rw [behind_of_not_mem _ h, List.count_eq_zero.2 h, List.rtakeWhile_eq_self_iff.2 hall,
      Nat.zero_add, Nat.add_zero]

/-- **Two texts in a row** lead where the second leads from behind the first. -/
theorem behind_append (cs ds : List Char) : p.behind (cs ++ ds) = (p.behind cs).behind ds := by
  by_cases hds : '\n' ∈ ds
  · have hlast : (cs ++ ds).rtakeWhile (· != '\n') = ds.rtakeWhile (· != '\n') := by
      obtain ⟨es, fs, rfl⟩ := List.append_of_mem hds
      rw [← List.append_assoc, rtakeWhile_append_newline, rtakeWhile_append_newline]
    rw [behind_of_mem p (List.mem_append_right cs hds), behind_of_mem _ hds, hlast, line_behind,
      List.count_append, Nat.add_assoc]
  · rw [behind_of_not_mem _ hds]
    by_cases hcs : '\n' ∈ cs
    · rw [behind_of_mem p (List.mem_append_left ds hcs), behind_of_mem p hcs, List.count_append,
        List.count_eq_zero.2 hds, rtakeWhile_append_of_not_mem cs hds, List.length_append,
        Nat.add_zero]
    · have hboth : '\n' ∉ cs ++ ds := fun hmem ↦ (List.mem_append.1 hmem).elim hcs hds
      rw [behind_of_not_mem p hboth, behind_of_not_mem p hcs, List.length_append, Nat.add_assoc]

end Position

namespace Document

variable {d d' rest : Document} {p : Position} {s : Span} {o : Nat}

namespace WellFormed

/-! ### Positions of a document -/

/-- The position of an offset is behind the text before it. -/
theorem positionAt_eq_behind (h : d.WellFormed) (ho : o ≤ d.length) :
    d.positionAt o = .ok (Position.origin.behind (d.buffer.toList.take o)) := by
  rw [h.positionAt_eq ho, Position.origin, Position.behind_start, Nat.zero_add]

/-- **A position** is behind the text before it. -/
theorem eq_behind_take (h : d.WellFormed) (hp : d.HasPosition p) :
    p = Position.origin.behind (d.buffer.toList.take (d.offset p)) :=
  Except.ok.inj ((h.positionAt_offset hp).symm.trans
    (h.positionAt_eq_behind (h.offset_le_length hp)))

/-- Behind the first part of its text a document has a position, and its offset is the length of
the part. -/
theorem offset_behind (h : d.WellFormed) {front back : List Char}
    (htext : d.buffer.toList = front ++ back) :
    d.HasPosition (Position.origin.behind front) ∧
      d.offset (Position.origin.behind front) = front.length := by
  have hlength : front.length ≤ d.length := by
    rw [← h.length_toList, htext]
    exact (List.sublist_append_left _ back).length_le
  obtain ⟨p, hpos, hp, hoffset⟩ := h.exists_positionAt hlength
  rw [h.positionAt_eq_behind hlength, htext, List.take_left] at hpos
  obtain rfl := Except.ok.inj hpos
  exact ⟨hp, hoffset⟩

/-- **Behind a text** that stands where another document has a position, with the same text before
it in both. -/
theorem positionAt_behind (h : d.WellFormed) (h' : d'.WellFormed) (hp : d.HasPosition p)
    {cs back : List Char}
    (htext : d'.buffer.toList = d.buffer.toList.take (d.offset p) ++ cs ++ back) :
    d'.positionAt (d.offset p + cs.length) = .ok (p.behind cs) := by
  have hfront : (d.buffer.toList.take (d.offset p) ++ cs).length = d.offset p + cs.length := by
    rw [List.length_append, h.length_take_of_offsetAt (offsetAt_of_hasPosition hp)]
  obtain ⟨hq, hoffset⟩ := h'.offset_behind htext
  rw [← hfront, ← hoffset, h'.positionAt_offset hq, Position.behind_append, ← h.eq_behind_take hp]

end WellFormed

/-! ### Where an edit leads -/

/-- A position with its column clamped to its line, which has to exist. -/
def clampOnLine (d : Document) (p : Position) : Except AddressError Position := do
  let length ← d.lineLength p.line
  return ⟨p.line, min p.column length⟩

/-- Where the text of an edit starts. The text that replaces a span starts in what is left without
the span. -/
def editStart (d : Document) : Edit → Except AddressError Position
  | .insert p _ => d.clampOnLine p
  | .delete s => d.clampOnLine s.start
  | .replace s _ => do
    let rest ← d.delete s
    rest.clampOnLine s.start

/-- The text that an edit puts in. -/
def Edit.text : Edit → List Char
  | .insert _ text => text.toList
  | .delete _ => []
  | .replace _ text => text.toList

theorem clampOnLine_eq_ok_iff {q : Position} :
    d.clampOnLine p = .ok q ↔
      ∃ n, d.lineLength p.line = .ok n ∧ q = ⟨p.line, min p.column n⟩ := by
  rw [clampOnLine, bind_eq_ok_iff]
  refine exists_congr fun n ↦ and_congr_right fun _ ↦ ⟨fun h ↦ (Except.ok.inj h).symm, ?_⟩
  rintro rfl
  rfl

theorem clampOnLine_of_hasPosition (hp : d.HasPosition p) : d.clampOnLine p = .ok p := by
  refine clampOnLine_eq_ok_iff.2 ⟨_, if_pos hp.line_lt, ?_⟩
  rw [Nat.min_eq_left hp.column_le]

theorem clampOnLine_of_offsetAt (hp : d.offsetAt p = .ok o) :
    d.clampOnLine p = .ok ⟨p.line, d.clampColumn p⟩ :=
  clampOnLine_eq_ok_iff.2 ⟨_, if_pos (line_lt_of_offsetAt hp), rfl⟩

namespace WellFormed

/-- An insertion leads behind its text. -/
theorem positionAt_of_insert (h : d.WellFormed) (hp : d.offsetAt p = .ok o) {text : String}
    (hd : d.insert p text = .ok d') :
    d'.positionAt (o + text.length) =
      .ok (Position.behind ⟨p.line, d.clampColumn p⟩ text.toList) := by
  obtain ⟨next, -, hnext, hwf, htext, -⟩ := h.exists_insert hp text
  obtain rfl : d' = next := Except.ok.inj (hd.symm.trans hnext)
  obtain rfl := eq_offset_of_offsetAt hp
  rw [← String.length_toList]
  exact h.positionAt_behind hwf (hasPosition_clampColumn (line_lt_of_offsetAt hp)) htext

/-- A deletion leads to where it started. -/
theorem positionAt_of_delete (h : d.WellFormed) (hstart : d.offsetAt s.start = .ok o)
    (hd : d.delete s = .ok rest) :
    rest.positionAt o = .ok ⟨s.start.line, d.clampColumn s.start⟩ := by
  obtain ⟨start, stop, hs⟩ := exists_offsetsAt_of_delete hd
  obtain ⟨hstart', -, -⟩ := offsetsAt_eq_ok hs
  obtain rfl : o = start := Except.ok.inj (hstart.symm.trans hstart')
  have htext := h.toList_of_delete hs hd
  obtain rfl := eq_offset_of_offsetAt hstart
  rw [← List.append_nil (List.take _ _)] at htext
  exact h.positionAt_behind (h.delete hd) (hasPosition_clampColumn (line_lt_of_offsetAt hstart))
    htext

/-- **An edit leads behind its text.** -/
theorem cursor_of_outcome (h : d.WellFormed) {e : Edit} {r : Outcome} (hr : d.outcome e = .ok r) :
    ∃ p, d.editStart e = .ok p ∧ r.cursor = p.behind e.text := by
  cases e with
  | insert p text =>
    obtain ⟨next, hnext, hr⟩ := bind_eq_ok_iff.1 hr
    obtain ⟨o, ho, hr⟩ := bind_eq_ok_iff.1 hr
    obtain ⟨cursor, hcursor, hr⟩ := bind_eq_ok_iff.1 hr
    obtain rfl := Except.ok.inj hr
    exact ⟨_, clampOnLine_of_offsetAt ho,
      Except.ok.inj (hcursor.symm.trans (h.positionAt_of_insert ho hnext))⟩
  | delete s =>
    obtain ⟨_, -, hr⟩ := bind_eq_ok_iff.1 hr
    obtain ⟨start, hstart, hr⟩ := bind_eq_ok_iff.1 hr
    obtain ⟨next, hnext, hr⟩ := bind_eq_ok_iff.1 hr
    obtain ⟨cursor, hcursor, hr⟩ := bind_eq_ok_iff.1 hr
    obtain rfl := Except.ok.inj hr
    refine ⟨_, clampOnLine_of_offsetAt hstart, ?_⟩
    rw [Edit.text, Position.behind_nil]
    exact Except.ok.inj (hcursor.symm.trans (h.positionAt_of_delete hstart hnext))
  | replace s text =>
    obtain ⟨rest, hrest, hr⟩ := bind_eq_ok_iff.1 hr
    obtain ⟨o, ho, hr⟩ := bind_eq_ok_iff.1 hr
    obtain ⟨next, hnext, hr⟩ := bind_eq_ok_iff.1 hr
    obtain ⟨cursor, hcursor, hr⟩ := bind_eq_ok_iff.1 hr
    obtain rfl := Except.ok.inj hr
    exact ⟨_, bind_eq_ok_iff.2 ⟨rest, hrest, clampOnLine_of_offsetAt ho⟩,
      Except.ok.inj (hcursor.symm.trans ((h.delete hrest).positionAt_of_insert ho hnext))⟩

end WellFormed

end Document

end TextHistory
