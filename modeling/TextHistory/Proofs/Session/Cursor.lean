import TextHistory.Proofs.Document.Outcomes
import TextHistory.Proofs.Session.History

/-!
# The cursor is a position of the document

A session is in good shape if its document is, its history is and holds only documents in good
shape, and the cursor is a position of the document. Every call keeps a session so
(`WellFormed.apply`), if the documents that it brings into the history are in good shape, as all
documents are that can be made.

The cursor is set in three ways, and none of them trusts what was there before. An edit places it by
an offset of the new document; a restored state gets the position nearest to the recorded one, or to
where the cursor was, in the restored document (`placed_restore`); and a reload puts it
at the origin. So it makes no difference which cursor a revision was recorded with, if any.
-/

namespace TextHistory

namespace Session

/-- The documents that a call brings into the history from outside. -/
def Call.documents : Call → List Document
  | .history c => c.documents
  | _ => []

/-- The document and the history are in good shape, and the cursor is in the document. -/
structure WellFormed (s : Session) : Prop where
  /-- The document is in good shape. -/
  document : s.document.WellFormed
  /-- The history is in good shape. -/
  history : s.history.WellFormed
  /-- The documents in the history are in good shape. -/
  holds : s.history.Holds Document.WellFormed
  /-- The cursor is a position of the document. -/
  cursor : s.document.HasPosition s.cursor

variable {s : Session}

/-- A session that starts with a document in good shape is in good shape. -/
theorem Started.wellFormed (hs : s.Started) (hd : s.document.WellFormed) : s.WellFormed where
  document := hd
  history := hs.wellFormed_history
  holds := by
    obtain ⟨mode, hmode⟩ := hs.history
    rw [hmode]
    exact ⟨hd, fun {k} {n} hn ↦ absurd ⟨n, hn⟩ (UndoTree.not_hasPlace_clear s.history s.document k)⟩
  cursor := by
    cases hs with
    | ofDocument d mode => exact hd.hasPosition_origin
    | ofContent content settings => exact hd.hasPosition_origin

/-! ### Placing the cursor -/

/-- The document is in good shape, and the cursor is a position of it. -/
def Placed (s : Session) : Prop := s.document.WellFormed ∧ s.document.HasPosition s.cursor

/-- Whatever was recorded, the cursor is restored to a position of the restored document. -/
theorem placed_restore (s : Session) {c : Checkpoint} (hc : c.snapshot.WellFormed) :
    (s.restore c).Placed := by
  refine ⟨hc, ?_⟩
  show c.snapshot.HasPosition ((c.snapshot.clampPosition (s.cursorFor c)).toOption.getD .origin)
  rw [hc.clampPosition_eq]
  exact hc.hasPosition_nearest _

theorem placed_edit (h : s.Placed) (e : Document.Edit) :
    (s.settle (fun r ↦ (Answer.edited r.1, r.2)) (s.edit e)).2.Placed := by
  rw [edit]
  cases ho : s.document.outcome e with
  | error cause => exact h
  | ok o =>
    have hwf := h.1.wellFormed_of_outcome ho
    exact ⟨hwf.document, hwf.cursor⟩

namespace WellFormed

theorem placed (h : s.WellFormed) : s.Placed := ⟨h.document, h.cursor⟩

/-! ### The step -/

/-- All documents that get into the history are in good shape. -/
theorem documents_onHistory (h : s.WellFormed) {c : Call} (hc : ∀ d ∈ c.documents, d.WellFormed) :
    ∀ c' ∈ s.onHistory c, ∀ d ∈ c'.documents, d.WellFormed := by
  intro c' hc' d hd
  rcases onHistory_cases hc' with ⟨e, o, ho, rfl⟩ | (rfl | rfl | ⟨id, rfl⟩) | ⟨content, rfl⟩ | rfl
  · obtain rfl := List.mem_singleton.1 hd
    exact (h.document.wellFormed_of_outcome ho).document
  · exact absurd hd List.not_mem_nil
  · exact absurd hd List.not_mem_nil
  · exact absurd hd List.not_mem_nil
  · obtain rfl := List.mem_singleton.1 hd
    exact Document.wellFormed_ofString _ _
  · exact hc d hd

/-- A call leaves the cursor in the document. -/
theorem placed_apply (h : s.WellFormed) (c : Call) : (s.apply c).2.Placed := by
  cases c with
  | edit e => exact placed_edit h.placed e
  | type text => exact placed_edit h.placed (.insert s.cursor text)
  | setCursor p =>
    rw [Session.apply, setCursor, h.document.clampPosition_eq]
    exact ⟨h.document, h.document.hasPosition_nearest p⟩
  | undo =>
    rw [Session.apply, undo]
    rcases h.history.undo_cases with ⟨-, hu⟩ | ⟨k, n, c, -, -, hc, hu⟩
    · rw [hu]
      exact h.placed
    · rw [hu]
      exact s.placed_restore (h.holds.checkpointAt hc)
  | redo =>
    rw [Session.apply, redo]
    rcases h.history.redo_cases with ⟨-, hr⟩ | ⟨k, ks, c, -, hc, hr⟩
    · rw [hr]
      exact h.placed
    · rw [hr]
      exact s.placed_restore (h.holds.checkpointAt hc)
  | goto id =>
    rw [Session.apply, goto, UndoTree.goto]
    cases hn : s.history.node? id with
    | none => exact h.placed
    | some n => exact s.placed_restore (c := n.checkpoint) (h.holds.node hn)
  | reload content =>
    have hd : (Document.ofFileContent content).WellFormed := Document.wellFormed_ofString _ _
    exact ⟨hd, hd.hasPosition_origin⟩
  | ask q => exact h.placed
  | history c => exact h.placed

/-- **The step.** A call keeps a session in good shape. -/
theorem apply (h : s.WellFormed) {c : Call} (hc : ∀ d ∈ c.documents, d.WellFormed) :
    (s.apply c).2.WellFormed where
  document := (h.placed_apply c).1
  history := wellFormed_history_apply h.history c
  holds := by
    rw [history_apply]
    exact h.history.holds_after h.holds (h.documents_onHistory hc)
  cursor := (h.placed_apply c).2

/-! ### The run -/

/-- **The run.** A session stays in good shape. -/
theorem run (h : s.WellFormed) {cs : List Call}
    (hcs : ∀ c ∈ cs, ∀ d ∈ c.documents, d.WellFormed) : (after Session.apply s cs).WellFormed :=
  after_induction_of_mem Session.apply (fun _ _ hc h ↦ h.apply hc) h hcs

end WellFormed

/-- Typing at the cursor goes through. -/
theorem WellFormed.exists_type (h : s.WellFormed) (text : String) :
    ∃ s', s.type text = .ok (s.history.nextId, s') := by
  have hinsert : s.document.refusal (.insert s.cursor text) = none := if_pos h.cursor.line_lt
  rw [type, edit]
  rcases h.document.outcome_cases (.insert s.cursor text) with ⟨o, ho, -⟩ | ⟨cause, -, hno⟩
  · rw [ho]
    exact ⟨_, rfl⟩
  · exact absurd (hinsert.symm.trans hno) (by simp)

theorem WellFormed.edited_type (h : s.WellFormed) (text : String) :
    (s.apply (.type text)).1 = .edited s.history.nextId := by
  obtain ⟨s', htype⟩ := h.exists_type text
  rw [Session.apply, htype]
  rfl

/-- **The cursor is a place of the document**, whatever calls the session has taken and whatever was
recorded behind its back. Its line exists, and its column is not past the end of the line; so
looking up its offset clamps nothing, the position at that offset is the cursor again, and a text
can always be inserted there. -/
theorem cursor_after_calls {s₀ : Session} (hs : s₀.Started) (hd : s₀.document.WellFormed)
    (cs : List Call) (hcs : ∀ c ∈ cs, ∀ d ∈ c.documents, d.WellFormed) :
    let s := after Session.apply s₀ cs
    s.cursor.line < s.document.lineCount ∧
      (∃ n, s.document.lineLength s.cursor.line = .ok n ∧ s.cursor.column ≤ n) ∧
      s.document.offsetAt s.cursor =
        .ok (s.document.lineStart s.cursor.line + s.cursor.column) ∧
      s.document.positionAt (s.document.lineStart s.cursor.line + s.cursor.column) =
        .ok s.cursor ∧
      ∀ text, ∃ id s', s.edit (.insert s.cursor text) = .ok (id, s') := by
  intro s
  have h : s.WellFormed := (hs.wellFormed hd).run hcs
  refine ⟨h.cursor.line_lt, ⟨_, if_pos h.cursor.line_lt, h.cursor.column_le⟩,
    Document.offsetAt_of_hasPosition h.cursor, h.document.positionAt_offset h.cursor,
    fun text ↦ ⟨_, h.exists_type text⟩⟩

/-- Revisions that were recorded behind the back of the session, one with half a cursor and one with
a cursor far outside, are restored with a cursor in the document. -/
theorem cursor_after_calls_history_push :
    let s₀ := Session.ofDocument (.ofString "ab\ncd" 0) .branching
    let half : Revision := ⟨"paste", .ofString "z" 0, some 7, none⟩
    let outside : Revision := ⟨"paste", .ofString "y\n" 0, some 5, some 5⟩
    let cs : List Call := [.setCursor ⟨1, 9⟩, .history (.push half), .goto 0,
      .history (.push outside), .goto 1]
    let s := after Session.apply s₀ cs
    s₀.Started ∧ s₀.document.WellFormed ∧ (∀ c ∈ cs, ∀ d ∈ c.documents, d.WellFormed) ∧
      s.cursor = ⟨1, 0⟩ ∧
      (∃ n, s.document.lineLength s.cursor.line = .ok n ∧ s.cursor.column ≤ n) ∧
      s.document.offsetAt s.cursor =
        .ok (s.document.lineStart s.cursor.line + s.cursor.column) ∧
      ∃ id s', s.edit (.insert s.cursor "x") = .ok (id, s') := by
  intro s₀ half outside cs
  have hs : s₀.Started := .ofDocument _ _
  have hd : s₀.document.WellFormed := Document.wellFormed_ofString _ _
  have hcs : ∀ c ∈ cs, ∀ d ∈ c.documents, d.WellFormed := by
    simp [cs, half, outside, Call.documents, UndoTree.Call.documents, Document.wellFormed_ofString]
  have hcursor : (after Session.apply s₀ cs).cursor = ⟨1, 0⟩ := by decide
  have hplaced := cursor_after_calls hs hd cs hcs
  -- the rest is true of any such session, and nothing of the run has to be worked out for it
  generalize after Session.apply s₀ cs = s at hcursor hplaced ⊢
  obtain ⟨-, hcolumn, hoffset, -, htype⟩ := hplaced
  exact ⟨hs, hd, hcs, hcursor, hcolumn, hoffset, htype "x"⟩

end Session

end TextHistory
