import TextHistory.Proofs.Session.Cursor

/-!
# Going back to a revision

An edit answers with an id, and going to that id brings back what the edit left: the document, down
to the layout of its buffer, and the cursor. It does not matter what happens in between, in which
mode and behind whose back, as long as the revision is not dropped; and which calls drop it is known
(`UndoTree.DroppedBy`). Once it is dropped it stays so, and going there is refused.

Three facts make this up. What is recorded under an id never changes (`UndoTree.Grew`). What is
recorded of an edit is all of what it leaves (`Outcome.revision`). And the cursor that is recorded
is a position of the document that is recorded with it, so that restoring it clamps nothing
(`restore_checkpoint`).
-/

namespace TextHistory.Session

variable {s : Session} {c : Call} {id : Nat} {o : Outcome} {n : Node}

/-! ### Edits that went through -/

theorem settle_edit_of_edited {e : Document.Edit}
    (h : (s.settle (fun r ↦ (Answer.edited r.1, r.2)) (s.edit e)).1 = .edited id) :
    ∃ o, s.document.outcome e = .ok o ∧ s.history.nextId = id ∧
      s.settle (fun r ↦ (Answer.edited r.1, r.2)) (s.edit e) = (.edited id, (s.commit o).2) := by
  rw [edit] at h ⊢
  cases ho : s.document.outcome e with
  | error cause =>
    rw [ho] at h
    exact absurd h (by simp [settle])
  | ok o =>
    rw [ho] at h
    obtain rfl := Answer.edited.inj h
    exact ⟨o, rfl, rfl, rfl⟩

/-- A call that answers with an id has committed what an edit comes to. -/
theorem exists_commit_of_edited (h : (s.apply c).1 = .edited id) :
    ∃ e o, s.document.outcome e = .ok o ∧ s.history.nextId = id ∧
      s.apply c = (.edited id, (s.commit o).2) := by
  cases c with
  | edit e => exact ⟨e, settle_edit_of_edited h⟩
  | type text => exact ⟨_, settle_edit_of_edited h⟩
  | setCursor p => cases hx : s.setCursor p <;> simp [apply, settle, hx] at h
  | undo => cases hx : s.undo <;> simp [apply, settle, hx] at h
  | redo => cases hx : s.redo <;> simp [apply, settle, hx] at h
  | goto k => cases hx : s.goto k <;> simp [apply, settle, hx] at h
  | reload content => exact absurd h (by simp [apply])
  | ask q => exact absurd h (by simp [apply])
  | history c => exact absurd h (by simp [apply])

theorem nextId_lt_commit (s : Session) (o : Outcome) :
    s.history.nextId < (s.commit o).2.history.nextId := by
  show _ < (s.history.push o.revision).2.nextId
  rw [UndoTree.nextId_push]
  exact Nat.lt_succ_self _

/-- What is recorded of an edit is there to be found, unless it was dropped. -/
theorem exists_node?_after_commit (h : s.history.WellFormed) (o : Outcome) (ds : List Call)
    (hplace : (after Session.apply (s.commit o).2 ds).history.HasPlace (some s.history.nextId)) :
    ∃ ks, (after Session.apply (s.commit o).2 ds).history.node? s.history.nextId =
      some ⟨s.history.nextId, s.history.current, ks, o.revision⟩ := by
  have htree : (s.commit o).2.history.WellFormed := h.push o.revision
  have hlt : s.history.nextId < (s.commit o).2.history.nextId := s.nextId_lt_commit o
  obtain ⟨m, hm⟩ := hplace
  obtain ⟨n, ks, hn, rfl⟩ := (grew_history_after htree ds).node hlt hm
  obtain ⟨ks', hnode⟩ := h.exists_node?_push o.revision
  obtain rfl : _ = n := Option.some.inj (hnode.symm.trans hn)
  exact ⟨ks, hm⟩

/-! ### Restoring what an edit left -/

/-- Restoring what was recorded of an edit gives all of it back. -/
theorem restore_checkpoint (s : Session) (ho : o.WellFormed) (hn : n.revision = o.revision) :
    s.restore n.checkpoint = { s with document := o.document, cursor := o.cursor } := by
  rw [restore, Node.checkpoint, hn]
  show Session.mk o.document s.history
    ((o.document.clampPosition o.cursor).toOption.getD .origin) = _
  rw [ho.document.clampPosition_of_hasPosition ho.cursor]
  rfl

/-- Going to a revision, while it is there. -/
theorem apply_goto_of_node? (ho : o.WellFormed) (hid : s.history.node? id = some n)
    (hn : n.revision = o.revision) :
    s.apply (.goto id) =
      (.done, ⟨o.document, { s.history with current := some id }, o.cursor⟩) := by
  rw [apply, goto, UndoTree.goto, hid]
  show (Answer.done, { s.restore n.checkpoint with
    history := { s.history with current := some id } }) = _
  rw [s.restore_checkpoint ho hn]

/-- Going to a revision, when it is gone. -/
theorem apply_goto_of_not_hasPlace (h : ¬s.history.HasPlace (some id)) :
    s.apply (.goto id) = (.failed (.history (.nodeNotFound id)), s) := by
  rw [apply, goto, UndoTree.goto]
  cases hn : s.history.node? id with
  | none => rfl
  | some n => exact absurd ⟨n, hn⟩ h

/-- **Going to a revision is exact.** An edit answered with an id. If no later call drops the
revision, going to the id brings back the document and the cursor that the edit left, whatever else
was done; and if one does, going there fails, changes nothing, and will do so for good. -/
theorem goto_after_edit {s₀ : Session} (hs : s₀.Started) (hd : s₀.document.WellFormed)
    (cs : List Call) (hcs : ∀ c ∈ cs, ∀ d ∈ c.documents, d.WellFormed) (c : Call) (id : Nat)
    (hc : ((after Session.apply s₀ cs).apply c).1 = .edited id) (ds : List Call) :
    let s₁ := ((after Session.apply s₀ cs).apply c).2
    let s₂ := after Session.apply s₁ ds
    (¬s₁.history.DroppedBy id (s₁.historyCalls ds) →
      s₂.apply (.goto id) =
        (.done, ⟨s₁.document, { s₂.history with current := some id }, s₁.cursor⟩)) ∧
      (s₁.history.DroppedBy id (s₁.historyCalls ds) →
        ∀ es, let s₃ := after Session.apply s₂ es
          s₃.apply (.goto id) = (.failed (.history (.nodeNotFound id)), s₃)) := by
  generalize hs' : after Session.apply s₀ cs = s at hc ⊢
  have h : s.WellFormed := hs' ▸ (hs.wellFormed hd).run hcs
  obtain ⟨e, o, ho, rfl, happly⟩ := exists_commit_of_edited hc
  have hout := h.document.wellFormed_of_outcome ho
  rw [happly]
  intro s₁ s₂
  have htree : s₁.history.WellFormed := h.history.push o.revision
  have hlt : s.history.nextId < s₁.history.nextId := s.nextId_lt_commit o
  -- the revision is there right after the edit
  have hplace : s₁.history.HasPlace (some s.history.nextId) := by
    obtain ⟨ks, hnode⟩ := h.history.exists_node?_push o.revision
    exact ⟨_, hnode⟩
  have hthere : s₂.history.HasPlace (some s.history.nextId) ↔
      ¬s₁.history.DroppedBy s.history.nextId (s₁.historyCalls ds) :=
    (hasPlace_history_after_iff htree hlt ds).trans (and_iff_right hplace)
  constructor
  · intro hkept
    obtain ⟨ks, hnode⟩ := exists_node?_after_commit h.history o ds (hthere.2 hkept)
    exact apply_goto_of_node? hout hnode rfl
  · intro hdropped es s₃
    have htree' : s₂.history.WellFormed := wellFormed_history_after htree ds
    have hgone : ¬s₂.history.HasPlace (some s.history.nextId) := fun hplace ↦
      hthere.1 hplace hdropped
    have hlt' := Nat.lt_of_lt_of_le hlt (grew_history_after htree ds).nextId_le
    -- the id is not handed out again, so it shows nothing for good
    exact apply_goto_of_not_hasPlace ((grew_history_after htree' es).not_hasPlace hlt' hgone)

/-- What was typed can be gone back to after it was undone. Starting again drops it. -/
theorem goto_after_edit_type :
    let s₀ := Session.ofDocument (.ofString "ab" 0) .branching
    let cs : List Call := [.setCursor ⟨0, 9⟩]
    let ds : List Call := [.setCursor .origin, .undo, .history (.setMode .linear)]
    let es : List Call := [.reload "z"]
    let s₁ := ((after Session.apply s₀ cs).apply (.type "x")).2
    let s₂ := after Session.apply s₁ ds
    let s₃ := after Session.apply s₁ es
    s₀.Started ∧ s₀.document.WellFormed ∧ (∀ c ∈ cs, ∀ d ∈ c.documents, d.WellFormed) ∧
      ((after Session.apply s₀ cs).apply (.type "x")).1 = .edited 0 ∧
      ¬s₁.history.DroppedBy 0 (s₁.historyCalls ds) ∧
      s₂.apply (.goto 0) =
        (.done, ⟨s₁.document, { s₂.history with current := some 0 }, s₁.cursor⟩) ∧
      s₁.history.DroppedBy 0 (s₁.historyCalls es) ∧
      s₃.apply (.goto 0) = (.failed (.history (.nodeNotFound 0)), s₃) := by
  intro s₀ cs ds es
  have hs : s₀.Started := .ofDocument _ _
  have hd : s₀.document.WellFormed := Document.wellFormed_ofString _ _
  have hcs : ∀ c ∈ cs, ∀ d ∈ c.documents, d.WellFormed := by simp [cs, Call.documents]
  have hedit : ((after Session.apply s₀ cs).apply (.type "x")).1 = .edited 0 :=
    ((hs.wellFormed hd).run hcs).edited_type "x"
  obtain ⟨hgoto, -⟩ := goto_after_edit hs hd cs hcs (.type "x") 0 hedit ds
  obtain ⟨-, hgone⟩ := goto_after_edit hs hd cs hcs (.type "x") 0 hedit es
  generalize ((after Session.apply s₀ cs).apply (.type "x")).2 = s₁ at hgoto hgone ⊢
  have hkept : ¬s₁.history.DroppedBy 0 (s₁.historyCalls ds) := by
    simp [ds, historyCalls, onHistory, UndoTree.DroppedBy, UndoTree.Drops]
  have hdropped : s₁.history.DroppedBy 0 (s₁.historyCalls es) := by
    simp [es, historyCalls, onHistory, UndoTree.DroppedBy, UndoTree.Drops]
  have hfail := hgone hdropped []
  rw [after_nil] at hfail
  exact ⟨hs, hd, hcs, hedit, hkept, hgoto hkept, hdropped, hfail⟩

end TextHistory.Session
