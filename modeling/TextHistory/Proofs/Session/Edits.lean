import TextHistory.Proofs.Session.Return
import TextHistory.Proofs.UndoTree.Lineage

/-!
# Edits in a row

A session that nobody has tampered with records what its edits leave, and nothing else (`Own`). Some
edits in a row, with the cursor moved in between (`Edits`), record a path down the tree of the
history: each revision goes below the one before (`up_after_commit`), and the place that the first
of them goes below stays as it is (`Edits.checkpointAt_current`).

Each revision is found in the tree that is there after the last edit, with what its edit left
(`checkpointAt_after_commit`). If it was an oldest child when it was recorded, it is one there too
(`isFirstChild_after_commit`); in a linear history it always is (`Edits.atFirstChild_of_linear`).
-/

namespace TextHistory

namespace Session

variable {s : Session} {c : Call} {cs es : List Call} {id : Nat}

/-! ### Sessions that nobody has tampered with -/

/-- The session is in good shape, and its revisions were recorded by edits. -/
structure Own (s : Session) : Prop extends s.WellFormed where
  /-- A revision is what an edit left. -/
  recorded : s.history.Records fun r ↦ ∃ o : Outcome, o.WellFormed ∧ r = o.revision

theorem Started.own (hs : s.Started) (hd : s.document.WellFormed) : s.Own where
  toWellFormed := hs.wellFormed hd
  recorded k n hn := by
    obtain ⟨mode, hmode⟩ := hs.history
    rw [hmode] at hn
    exact absurd ⟨n, hn⟩ (UndoTree.not_hasPlace_clear s.history s.document k)

theorem documents_eq_nil (hc : c.isHistory = false) : c.documents = [] := by
  cases c with
  | history c => exact absurd hc (by simp [Call.isHistory])
  | _ => rfl

/-- A session records only what its edits leave. -/
theorem WellFormed.revisions_onHistory (h : s.WellFormed) (hc : c.isHistory = false) :
    ∀ c' ∈ s.onHistory c, ∀ r ∈ c'.revisions, ∃ o : Outcome, o.WellFormed ∧ r = o.revision := by
  intro c' hc' r hr
  rcases onHistory_cases hc' with ⟨e, o, ho, rfl⟩ | (rfl | rfl | ⟨id, rfl⟩) | ⟨content, rfl⟩ | rfl
  · obtain rfl := List.mem_singleton.1 hr
    exact ⟨o, h.document.wellFormed_of_outcome ho, rfl⟩
  · exact absurd hr List.not_mem_nil
  · exact absurd hr List.not_mem_nil
  · exact absurd hr List.not_mem_nil
  · exact absurd hr List.not_mem_nil
  · exact absurd hc (by simp [Call.isHistory])

namespace Own

theorem apply (h : s.Own) (hc : c.isHistory = false) : (s.apply c).2.Own where
  toWellFormed := h.toWellFormed.apply (by simp [documents_eq_nil hc])
  recorded := by
    rw [history_apply]
    exact h.history.records_after h.recorded (h.toWellFormed.revisions_onHistory hc)

theorem run (h : s.Own) (hcs : ∀ c ∈ cs, c.isHistory = false) : (after Session.apply s cs).Own :=
  after_induction_of_mem Session.apply (fun _ _ hc h ↦ h.apply hc) h hcs

end Own

/-! ### Edits in a row -/

/-- Calls that edit the document, all of which go through, or move the cursor. -/
inductive Edits : Session → List Call → Prop
  /-- Nothing was done. -/
  | nil (s : Session) : Edits s []
  /-- The cursor was moved before the rest. -/
  | setCursor {s : Session} (p : Position) {cs : List Call} :
    Edits (s.apply (.setCursor p)).2 cs → Edits s (.setCursor p :: cs)
  /-- An edit went through before the rest. -/
  | edit {s : Session} {c : Call} {id : Nat} {cs : List Call} :
    (s.apply c).1 = .edited id → Edits (s.apply c).2 cs → Edits s (c :: cs)

/-- The session right after each of the edits of a run that went through. -/
def afterEdits : Session → List Call → List Session
  | _, [] => []
  | s, c :: cs =>
    match (s.apply c).1 with
    | .edited _ => (s.apply c).2 :: (s.apply c).2.afterEdits cs
    | _ => (s.apply c).2.afterEdits cs

theorem afterEdits_of_edited (h : (s.apply c).1 = .edited id) :
    s.afterEdits (c :: cs) = (s.apply c).2 :: (s.apply c).2.afterEdits cs := by
  simp only [afterEdits, h]

/-- Moving the cursor is no edit and changes nothing else. -/
theorem exists_setCursor_eq (s : Session) (p : Position) :
    ∃ q, (s.apply (.setCursor p)).2 = { s with cursor := q } ∧
      ∀ cs, s.afterEdits (.setCursor p :: cs) = (s.apply (.setCursor p)).2.afterEdits cs := by
  simp only [afterEdits]
  rw [Session.apply, setCursor]
  cases s.document.clampPosition p with
  | ok cursor => exact ⟨cursor, rfl, fun _ ↦ rfl⟩
  | error cause => exact ⟨s.cursor, rfl, fun _ ↦ rfl⟩

theorem exists_eq_commit (h : (s.apply c).1 = .edited id) :
    ∃ o, (s.apply c).2 = (s.commit o).2 := by
  obtain ⟨e, o, -, -, happly⟩ := exists_commit_of_edited h
  exact ⟨o, congrArg Prod.snd happly⟩

theorem isHistory_of_edited (h : (s.apply c).1 = .edited id) : c.isHistory = false := by
  cases c with
  | history c => exact absurd h (by simp [apply])
  | _ => rfl

theorem current_commit (s : Session) (o : Outcome) :
    (s.commit o).2.history.current = some s.history.nextId :=
  UndoTree.current_push _ _

/-- An edit goes down by one step. -/
theorem up_after_commit (h : s.history.WellFormed) (o : Outcome) (ds : List Call)
    (hplace : (after Session.apply (s.commit o).2 ds).history.HasPlace
      (s.commit o).2.history.current) :
    (after Session.apply (s.commit o).2 ds).history.Up (s.commit o).2.history.current
      s.history.current := by
  rw [current_commit] at hplace ⊢
  obtain ⟨ks, hnode⟩ := exists_node?_after_commit h o ds hplace
  exact ⟨_, _, rfl, hnode, rfl⟩

theorem checkpointAt_after_commit (h : s.history.WellFormed) (o : Outcome) (ds : List Call)
    (hplace : (after Session.apply (s.commit o).2 ds).history.HasPlace
      (some s.history.nextId)) :
    (after Session.apply (s.commit o).2 ds).history.checkpointAt (some s.history.nextId) =
      .ok ⟨some s.history.nextId, o.document, some o.cursor.line, some o.cursor.column⟩ := by
  obtain ⟨ks, hnode⟩ := exists_node?_after_commit h o ds hplace
  exact UndoTree.checkpointAt_some hnode

/-- An edit that recorded an oldest child has recorded the one that redo goes to. -/
theorem isFirstChild_after_commit (h : s.history.WellFormed) (o : Outcome) (ds : List Call)
    (hplace : (after Session.apply (s.commit o).2 ds).history.HasPlace
      (s.commit o).2.history.current)
    (hfirst : (s.commit o).2.history.AtFirstChild) :
    (after Session.apply (s.commit o).2 ds).history.IsFirstChild s.history.current
      s.history.nextId := by
  have htree : (s.commit o).2.history.WellFormed := h.push o.revision
  -- it was the oldest when it was recorded, and no older one has come since
  obtain ⟨k, n, hk, hn, hchild⟩ := hfirst
  obtain rfl : s.history.nextId = k := Option.some.inj ((s.current_commit o).symm.trans hk)
  obtain ⟨ks, hnode⟩ := h.exists_node?_push o.revision
  obtain rfl : _ = n := Option.some.inj (hnode.symm.trans hn)
  rw [current_commit] at hplace
  exact htree.isFirstChild_of_grew (wellFormed_history_after htree ds)
    (grew_history_after htree ds) hchild hplace

namespace Edits

theorem isHistory (hes : s.Edits es) : ∀ c ∈ es, c.isHistory = false := by
  induction hes with
  | nil s => exact fun _ hc ↦ absurd hc List.not_mem_nil
  | setCursor p _ ih => exact List.forall_mem_cons.2 ⟨rfl, ih⟩
  | edit hc _ ih => exact List.forall_mem_cons.2 ⟨isHistory_of_edited hc, ih⟩

theorem rootSnapshot_eq (hes : s.Edits es) :
    (after Session.apply s es).history.rootSnapshot = s.history.rootSnapshot := by
  induction hes with
  | nil s => rfl
  | @setCursor s p cs _ ih =>
    obtain ⟨q, happly, -⟩ := s.exists_setCursor_eq p
    rw [after_cons, ih, happly]
  | @edit s c id cs hc _ ih =>
    obtain ⟨o, happly⟩ := exists_eq_commit hc
    rw [after_cons, ih, happly]
    exact UndoTree.rootSnapshot_push s.history o.revision

/-- No edit drops the place that the edits begin at. -/
theorem hasPlace_current (hes : s.Edits es) (h : s.history.WellFormed) :
    (after Session.apply s es).history.HasPlace s.history.current := by
  induction hes with
  | nil s => exact h.hasPlace_current
  | @setCursor s p cs _ ih =>
    obtain ⟨q, happly, -⟩ := s.exists_setCursor_eq p
    rw [happly] at ih
    rw [after_cons, happly]
    exact ih h
  | @edit s c id cs hc hes ih =>
    obtain ⟨o, happly⟩ := exists_eq_commit hc
    rw [happly] at ih
    rw [after_cons, happly]
    have htree : (s.commit o).2.history.WellFormed := h.push o.revision
    -- the place before an edit is the parent of the one behind it
    obtain ⟨k, n, -, hn, hparent⟩ := up_after_commit h o cs (ih htree)
    rw [← hparent]
    exact (wellFormed_history_after htree cs).hasPlace_parent hn

/-- The state at the place that the edits begin at does not change. -/
theorem checkpointAt_current (hes : s.Edits es) (h : s.history.WellFormed) :
    (after Session.apply s es).history.checkpointAt s.history.current =
      s.history.checkpointAt s.history.current := by
  refine (grew_history_after h es).checkpointAt_eq hes.rootSnapshot_eq (hes.hasPlace_current h) ?_
  intro k hk
  obtain ⟨n, hn⟩ : s.history.HasPlace (some k) := hk ▸ h.hasPlace_current
  exact h.lt_nextId hn

end Edits

/-! ### Linear histories -/

/-- A session never changes the mode of its history. -/
theorem mode_apply (h : s.history.WellFormed) (hc : c.isHistory = false) :
    (s.apply c).2.history.mode = s.history.mode := by
  rw [history_apply]
  refine h.mode_after fun c' hc' mode ↦ ?_
  rcases onHistory_cases hc' with ⟨e, o, -, rfl⟩ | (rfl | rfl | ⟨id, rfl⟩) | ⟨content, rfl⟩ | rfl
  · simp
  · simp
  · simp
  · simp
  · simp
  · exact absurd hc (by simp [Call.isHistory])

theorem mode_after (h : s.history.WellFormed) (hcs : ∀ c ∈ cs, c.isHistory = false) :
    (after Session.apply s cs).history.mode = s.history.mode :=
  (after_induction_of_mem
    (P := fun x : Session ↦ x.history.WellFormed ∧ x.history.mode = s.history.mode) Session.apply
    (fun _ c hc h ↦ ⟨wellFormed_history_apply h.1 c, (mode_apply h.1 hc).trans h.2⟩)
    ⟨h, rfl⟩ hcs).2

/-- In a linear history every edit records an oldest child. -/
theorem Edits.atFirstChild_of_linear (hes : s.Edits es) (h : s.history.WellFormed)
    (hmode : s.history.mode = .linear) : ∀ s₁ ∈ s.afterEdits es, s₁.history.AtFirstChild := by
  induction hes with
  | nil s => exact fun _ hs₁ ↦ absurd hs₁ List.not_mem_nil
  | @setCursor s p cs _ ih =>
    obtain ⟨q, happly, hsame⟩ := s.exists_setCursor_eq p
    rw [hsame]
    rw [happly] at ih ⊢
    exact ih h hmode
  | @edit s c id cs hc _ ih =>
    obtain ⟨o, happly⟩ := exists_eq_commit hc
    rw [afterEdits_of_edited hc]
    rw [happly] at ih ⊢
    have hmode' : (s.commit o).2.history.mode = .linear := (UndoTree.mode_push _ _).trans hmode
    obtain ⟨ks, hnode⟩ := h.exists_node?_push o.revision
    have hfirst : (s.commit o).2.history.AtFirstChild :=
      ⟨_, _, s.current_commit o, hnode, h.isFirstChild_push_of_linear hmode o.revision⟩
    exact List.forall_mem_cons.2 ⟨hfirst, ih (h.push o.revision) hmode'⟩

end Session

end TextHistory
