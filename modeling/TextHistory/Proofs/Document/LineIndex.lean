import Mathlib.Algebra.GroupWithZero.Nat
import TextHistory.Document.LineEndings
import TextHistory.Document.Query
import TextHistory.Proofs.Document.Addresses

/-!
# The line index tells what the text tells

A document keeps its text three times: in the slots of its buffer, as a list of lines, and as the
offsets at which the lines begin. Queries mix the three. The length of a line, for one, is worked
out from the offsets and the length of the buffer, and the lines are not looked at.

`Indexed` says that the three tell the same. The lines are the text cut at its line feeds, and
nothing is lost in cutting; line `i` begins behind the lines before it and the line feed behind each
of them; and whatever is asked about a line is answered as its text would answer it, the last line
and empty lines included. Only a line that does not exist is refused.

A document is `Reachable` if it was made by one of the constructors and by edits that went through.
There is no other way to come by one, and each of them is `Indexed` (`indexed_of_reachable`): an
edit does not mend the index but has the scan make a new one, so the scan is all that has to be
right.
-/

namespace TextHistory

variable {ls : List (List Char)}

/-- Joining lines is putting line feeds between them. -/
theorem joinLines_eq_intercalate (ls : List (List Char)) :
    joinLines ls = ['\n'].intercalate ls := by
  induction ls with
  | nil => rfl
  | cons l ls ih =>
    match ls with
    | [] => simp [joinLines, List.intercalate]
    | k :: ks =>
      rw [joinLines_cons l (List.cons_ne_nil k ks), ih, List.intercalate_cons_cons,
        List.append_assoc]
      rfl

/-- A line begins behind the lines before it and their line ends. -/
theorem offsetOfLine_eq_sum (ls : List (List Char)) (i : Nat) :
    offsetOfLine ls i = ((ls.take i).map fun l ↦ l.length + 1).sum := by
  induction ls generalizing i with
  | nil => cases i <;> rfl
  | cons l ls ih =>
    cases i with
    | zero => rfl
    | succ i => rw [offsetOfLine_cons_succ, ih, List.take_succ_cons, List.map_cons, List.sum_cons]

namespace Document

/-- The document can be made: by a constructor, or by an edit that goes through. -/
inductive Reachable : Document → Prop
  /-- The document of the empty text. -/
  | empty : Reachable .empty
  /-- The document of a text, in a buffer of any capacity. -/
  | ofString (text : String) (capacity : Nat) : Reachable (.ofString text capacity)
  /-- The document of the content of a file. -/
  | ofFileContent (content : String) : Reachable (.ofFileContent content)
  /-- The document that an edit makes. -/
  | edit {d d' : Document} {e : Edit} (h : Reachable d) (hd : d.apply e = .ok d') : Reachable d'

/-- The lines and the offsets tell what the text tells. -/
structure Indexed (d : Document) : Prop where
  /-- The lines are the text, cut at every line feed. -/
  map_toList_lines : d.lines.toList.map String.toList = splitLines d.content.toList
  /-- No line holds a line feed. -/
  newline_not_mem : ∀ l ∈ d.lines, '\n' ∉ l.toList
  /-- With line feeds between them, the lines are the text. -/
  intercalate_lines : "\n".intercalate d.lines.toList = d.content
  /-- There is one line more than there are line feeds. -/
  lineCount : d.lineCount = d.content.toList.count '\n' + 1
  /-- An offset is kept for every line, -/
  size_lineStarts : d.lineStarts.size = d.lineCount
  /-- and it is that of the lines before it, with one character more for the end of each. -/
  lineStart : ∀ i < d.lineCount,
    d.lineStarts[i]? = some (((d.lines.toList.take i).map fun l ↦ l.length + 1).sum)
  /-- What is asked about a line is answered from its text. -/
  line : ∀ (i : Nat) (hi : i < d.lines.size),
    d.line i = .ok d.lines[i] ∧ d.lineLength i = .ok d.lines[i].length ∧
      d.lineDisplayWidth i = .ok (displayWidth d.lines[i])
  /-- A line that does not exist is refused. -/
  lineOutOfRange : ∀ i, d.lineCount ≤ i →
    d.line i = .error (.lineOutOfRange i d.lineCount) ∧
      d.lineLength i = .error (.lineOutOfRange i d.lineCount) ∧
      d.lineDisplayWidth i = .error (.lineOutOfRange i d.lineCount)
  /-- The last position is that behind the last character. -/
  offsetAt_endPosition : d.offsetAt d.endPosition = .ok d.length

variable {d : Document}

theorem Reachable.wellFormed (h : d.Reachable) : d.WellFormed := by
  induction h with
  | empty => exact wellFormed_empty
  | ofString text capacity => exact wellFormed_ofString text capacity
  | ofFileContent content => exact wellFormed_ofString _ _
  | edit _ hd ih => exact ih.apply hd

/-- A run of edits leads to documents that can be made, since an edit that fails changes nothing. -/
theorem Reachable.run (h : d.Reachable) (es : List Edit) : (d.run es).Reachable := by
  induction es generalizing d with
  | nil => exact h
  | cons e es ih =>
    refine ih ?_
    cases hd : d.apply e with
    | error => exact h
    | ok d' => exact h.edit hd

theorem toList_content (d : Document) : d.content.toList = d.buffer.toList := String.toList_ofList

namespace WellFormed

/-- The lines, one by one. -/
theorem getElem?_splitLines (h : d.WellFormed) {i : Nat} (hi : i < d.lines.size) :
    (splitLines d.buffer.toList)[i]? = some d.lines[i].toList := by
  rw [← h.map_toList_lines, List.getElem?_map, Array.getElem?_toList, Array.getElem?_eq_getElem hi]
  rfl

/-- With line feeds between them, the lines are the text. -/
theorem intercalate_lines (h : d.WellFormed) : "\n".intercalate d.lines.toList = d.content := by
  refine String.toList_inj.1 ?_
  rw [String.toList_intercalate, h.map_toList_lines, toList_content]
  show ['\n'].intercalate _ = _
  rw [← joinLines_eq_intercalate, joinLines_splitLines]

/-- A line begins behind the lines before it and their line ends. -/
theorem lineStart_eq_sum (h : d.WellFormed) {i : Nat} (hi : i < d.lineCount) :
    d.lineStarts[i]? = some (((d.lines.toList.take i).map fun l ↦ l.length + 1).sum) := by
  rw [h.getElem?_lineStarts hi, offsetOfLine_eq_sum, ← h.map_toList_lines, ← List.map_take,
    List.map_map]
  simp only [Function.comp_def, String.length_toList]

/-- The length that the offsets give a line is that of its text. -/
theorem lineExtent_eq_length (h : d.WellFormed) {i : Nat} (hi : i < d.lines.size) :
    d.lineExtent i = d.lines[i].length := by
  rw [h.lineExtent_eq (h.getElem?_splitLines hi), String.length_toList]

/-- The last position is that behind the last character. -/
theorem offsetAt_endPosition (h : d.WellFormed) : d.offsetAt d.endPosition = .ok d.length := by
  have hlast : d.lineCount - 1 + 1 = d.lineCount := Nat.sub_add_cancel h.lineCount_pos
  have hend : d.HasPosition d.endPosition :=
    ⟨Nat.sub_lt h.lineCount_pos Nat.one_pos, Nat.le_refl _⟩
  rw [offsetAt_of_hasPosition hend]
  exact congrArg Except.ok (h.lineStart_last hlast)

/-- A document in good shape is indexed. -/
theorem indexed (h : d.WellFormed) : d.Indexed where
  map_toList_lines := by rw [toList_content, h.map_toList_lines]
  newline_not_mem l hl := by
    have hmem : l.toList ∈ splitLines d.buffer.toList := by
      rw [← h.map_toList_lines]
      exact List.mem_map_of_mem (Array.mem_toList_iff.2 hl)
    exact newline_not_mem_of_mem_splitLines hmem
  intercalate_lines := h.intercalate_lines
  lineCount := by rw [toList_content, h.lineCount_eq]
  size_lineStarts := h.size_lineStarts
  lineStart _ hi := h.lineStart_eq_sum hi
  line i hi := by
    have hline : d.line i = .ok d.lines[i] := by
      rw [Document.line, Array.getElem?_eq_getElem hi]
    have hlength : d.lineLength i = .ok (d.lineExtent i) := if_pos hi
    refine ⟨hline, ?_, ?_⟩
    · rw [hlength, h.lineExtent_eq_length hi]
    · rw [lineDisplayWidth, hline]
      rfl
  lineOutOfRange i hi := by
    have hline : d.line i = .error (.lineOutOfRange i d.lineCount) := by
      rw [Document.line, Array.getElem?_eq_none hi]
      rfl
    refine ⟨hline, if_neg (Nat.not_lt.2 hi), ?_⟩
    rw [lineDisplayWidth, hline]
    rfl
  offsetAt_endPosition := h.offsetAt_endPosition

end WellFormed

/-- **The line index never diverges from the text**, however a document was made and edited. -/
theorem indexed_of_reachable (h : d.Reachable) : d.Indexed := h.wellFormed.indexed

/-- A deletion over an empty line, a refused edit, and an insertion behind the last line feed. -/
theorem indexed_of_reachable_run :
    let es : List Edit :=
      [.delete ⟨⟨0, 1⟩, ⟨1, 0⟩⟩, .delete ⟨⟨1, 0⟩, ⟨0, 0⟩⟩, .replace ⟨⟨2, 0⟩, ⟨2, 9⟩⟩ "c\n"]
    let d := (ofFileContent "a\r\n\rb\n").run es
    d.Reachable ∧ d.lines = #["a", "b", "c", ""] ∧ d.lineStarts = #[0, 2, 4, 6] ∧ d.Indexed := by
  intro es d
  have hd : d.Reachable := (Reachable.ofFileContent _).run es
  exact ⟨hd, by decide, by decide, indexed_of_reachable hd⟩

end Document

end TextHistory
