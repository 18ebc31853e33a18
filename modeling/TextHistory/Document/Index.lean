import TextHistory.Document
import TextHistory.GapBuffer.Editing
import TextHistory.Lines

/-!
# The line index of a document

The index that a document is made with is right: its lines are the lines of the text
(`map_toList_lines_ofBuffer`), and its offsets are where they begin (`toList_lineStarts_ofBuffer`).
A document whose index is that of its buffer, over a buffer in good shape, is *in good shape*
itself; every new document is, and every edit gives such a document (`WellFormed.apply`).
-/

namespace TextHistory

/-- What a scan adds to what it had found: the rest of the current line and all lines after it, and
the offsets at which the lines after it begin. -/
theorem LineScan.foldl_step (s : LineScan) (cs l : List Char) (ls : List (List Char))
    (h : splitLines cs = l :: ls) :
    let r := cs.foldl LineScan.step s
    ((r.lines.push r.current).toList.map String.toList =
        s.lines.toList.map String.toList ++ (s.current.toList ++ l) :: ls) ∧
      r.starts.toList = s.starts.toList ++ startsFrom (s.offset + l.length + 1) ls := by
  induction cs generalizing s l ls with
  | nil =>
    obtain ⟨rfl, rfl⟩ := List.cons_eq_cons.1 h
    simp [startsFrom]
  | cons c cs ih =>
    rw [List.foldl_cons]
    by_cases hc : c = '\n'
    · subst hc
      obtain ⟨k, ks, hk⟩ := exists_splitLines_eq_cons cs
      rw [splitLines_newline, hk] at h
      obtain ⟨rfl, rfl⟩ := List.cons_eq_cons.1 h
      have := ih (s.step '\n') k ks hk
      simpa [LineScan.step, startsFrom] using this
    · obtain ⟨k, ks, hk⟩ := exists_splitLines_eq_cons cs
      rw [splitLines_cons hc, hk] at h
      obtain ⟨rfl, rfl⟩ := List.cons_eq_cons.1 h
      have := ih (s.step c) k ks hk
      simpa [LineScan.step, hc, Nat.add_assoc, Nat.add_comm, Nat.add_left_comm] using this

namespace Document

/-! ### The index of a new document -/

/-- The lines of a document are the lines of its text. -/
theorem map_toList_lines_ofBuffer (b : GapBuffer) :
    (ofBuffer b).lines.toList.map String.toList = splitLines b.toList := by
  obtain ⟨l, ls, h⟩ := exists_splitLines_eq_cons b.toList
  rw [h]
  simpa [ofBuffer, LineScan.start] using (LineScan.foldl_step .start b.toList l ls h).1

/-- The offsets of a document are where the lines of its text begin. -/
theorem toList_lineStarts_ofBuffer (b : GapBuffer) :
    (ofBuffer b).lineStarts.toList = startsFrom 0 (splitLines b.toList) := by
  obtain ⟨l, ls, h⟩ := exists_splitLines_eq_cons b.toList
  rw [h]
  simpa [ofBuffer, LineScan.start, startsFrom] using (LineScan.foldl_step .start b.toList l ls h).2

@[simp] theorem buffer_ofBuffer (b : GapBuffer) : (ofBuffer b).buffer = b := rfl

/-! ### Good shape -/

/-- The buffer is in good shape, and the index is that of the buffer. -/
structure WellFormed (d : Document) : Prop where
  /-- The buffer is in good shape. -/
  buffer : d.buffer.WellFormed
  /-- The index is that of the buffer. -/
  eq_ofBuffer : d = ofBuffer d.buffer

theorem wellFormed_ofBuffer {b : GapBuffer} (h : b.WellFormed) : (ofBuffer b).WellFormed :=
  ⟨h, rfl⟩

theorem wellFormed_ofString (text : String) (capacity : Nat) :
    (ofString text capacity).WellFormed :=
  wellFormed_ofBuffer (GapBuffer.wellFormed_ofString text capacity)

theorem wellFormed_empty : empty.WellFormed :=
  wellFormed_ofBuffer (GapBuffer.wellFormed_empty defaultCapacity)

namespace WellFormed

variable {d d' : Document}

/-- The lines are the lines of the text. -/
theorem map_toList_lines (h : d.WellFormed) :
    d.lines.toList.map String.toList = splitLines d.buffer.toList := by
  rw [h.eq_ofBuffer]
  exact map_toList_lines_ofBuffer d.buffer

/-- The offsets are where the lines begin. -/
theorem toList_lineStarts (h : d.WellFormed) :
    d.lineStarts.toList = startsFrom 0 (splitLines d.buffer.toList) := by
  rw [h.eq_ofBuffer]
  exact toList_lineStarts_ofBuffer d.buffer

/-- There is one line more than there are line feeds. -/
theorem lineCount_eq (h : d.WellFormed) : d.lineCount = d.buffer.toList.count '\n' + 1 := by
  rw [← length_splitLines, ← h.map_toList_lines, List.length_map, Array.length_toList]
  rfl

theorem length_toList (h : d.WellFormed) : d.buffer.toList.length = d.length :=
  h.buffer.length_toList

theorem insert (h : d.WellFormed) {p : Position} {text : String}
    (hd : d.insert p text = .ok d') : d'.WellFormed := by
  rw [Document.insert] at hd
  obtain ⟨offset, -, hd⟩ := bind_eq_ok_iff.1 hd
  obtain ⟨b, hb, hd⟩ := bind_eq_ok_iff.1 hd
  obtain rfl := Except.ok.inj hd
  exact wellFormed_ofBuffer (h.buffer.insert hb)

theorem delete (h : d.WellFormed) {s : Span} (hd : d.delete s = .ok d') : d'.WellFormed := by
  rw [Document.delete] at hd
  obtain ⟨o, -, hd⟩ := bind_eq_ok_iff.1 hd
  obtain ⟨b, hb, hd⟩ := bind_eq_ok_iff.1 hd
  obtain rfl := Except.ok.inj hd
  exact wellFormed_ofBuffer (h.buffer.delete hb)

theorem replace (h : d.WellFormed) {s : Span} {text : String}
    (hd : d.replace s text = .ok d') : d'.WellFormed := by
  rw [Document.replace] at hd
  obtain ⟨rest, hr, hd⟩ := bind_eq_ok_iff.1 hd
  exact (h.delete hr).insert hd

theorem apply (h : d.WellFormed) {e : Edit} (hd : d.apply e = .ok d') : d'.WellFormed := by
  cases e with
  | insert p text => exact h.insert hd
  | delete s => exact h.delete hd
  | replace s text => exact h.replace hd

end WellFormed

end Document

end TextHistory
