import TextHistory.Proofs.Session.Edits

/-!
# Undo takes edits back, and redo does them again

After some edits, as many undos lead back to where the first of them began, and the cursor is where
it was recorded there; moving the cursor between the edits makes no difference. As many redos after
that lead through the states that the edits left, one by one, if every edit recorded an oldest
child: so it is in a linear history, and so it is in a branching one as long as nothing was recorded
there before.

The tree that is there after the last edit is kept fixed, since undo and redo only move about in it,
and the state at a place is known from the tree (`atCheckpoint`). Both directions are inductions on
the edits, from the first to the last: undo comes to the first edit in its last step (`Edits.undo`),
redo in its first (`Edits.redo`).
-/

namespace TextHistory

namespace Session

variable {s x : Session} {cs es : List Call}

/-! ### Moves in a fixed tree -/

/-- The session at a place of a tree, as a move leads there. -/
def atCheckpoint (t : UndoTree) (place : Option Nat) (c : Checkpoint) : Session :=
  ⟨c.snapshot, { t with current := place }, c.cursor.getD .origin⟩

/-- The answer is that a move went through. -/
def Answer.isMoved : Answer → Bool
  | .moved m => m.isMoved
  | _ => false

namespace Own

variable {a b : Option Nat} {ck : Checkpoint}

/-- Restoring a state gives what is recorded of it, and the origin for the root. -/
theorem restore_eq (h : s.Own) (hc : s.history.checkpointAt b = .ok ck) (x : Session) :
    x.restore ck = { x with document := ck.snapshot, cursor := ck.cursor.getD .origin } := by
  cases b with
  | none =>
    obtain rfl : s.history.rootCheckpoint = ck := Except.ok.inj hc
    have hroot := h.holds.root
    show Session.mk s.history.rootSnapshot x.history
      ((s.history.rootSnapshot.clampPosition .origin).toOption.getD .origin) = _
    rw [hroot.clampPosition_of_hasPosition hroot.hasPosition_origin]
    rfl
  | some k =>
    obtain ⟨n, hn, rfl⟩ := UndoTree.exists_node?_of_checkpointAt hc
    obtain ⟨o, ho, hrev⟩ := h.recorded hn
    rw [x.restore_checkpoint ho hrev, Node.checkpoint, hrev]
    rfl

/-- Every revision was recorded with its cursor, and the root has none. -/
theorem cursor_cases (h : s.Own) (hc : s.history.checkpointAt s.history.current = .ok ck) :
    (s.history.current = none → ck.cursor.getD .origin = .origin) ∧
      ∀ k, s.history.current = some k →
        s.history.currentCursor = .ok (some (ck.cursor.getD .origin)) := by
  constructor
  · intro hroot
    rw [hroot] at hc
    obtain rfl : s.history.rootCheckpoint = ck := Except.ok.inj hc
    rfl
  · intro k hk
    rw [UndoTree.currentCursor, hc]
    rw [hk] at hc
    obtain ⟨n, hn, rfl⟩ := UndoTree.exists_node?_of_checkpointAt hc
    obtain ⟨o, -, hrev⟩ := h.recorded hn
    rw [Node.checkpoint, hrev]
    rfl

/-- Undo goes up to a state of the tree, -/
theorem undo_of_up (h : s.Own) (hup : s.history.Up a b)
    (hx : x.history = { s.history with current := a }) :
    ∃ ck, s.history.checkpointAt b = .ok ck ∧
      x.apply .undo = (.moved (.moved ck), atCheckpoint s.history b ck) := by
  obtain ⟨ck, hck, hundo⟩ := h.history.undo_of_up hup
  refine ⟨ck, hck, ?_⟩
  rw [Session.apply, undo, hx, hundo]
  show (Answer.moved (.moved ck), { x.restore ck with
    history := { s.history with current := b } }) = _
  rw [h.restore_eq hck]
  rfl

/-- and redo down to one. -/
theorem redo_of_isFirstChild (h : s.Own) {k : Nat} (hfirst : s.history.IsFirstChild a k)
    (hx : x.history = { s.history with current := a }) :
    ∃ ck, s.history.checkpointAt (some k) = .ok ck ∧
      x.apply .redo = (.moved (.moved ck), atCheckpoint s.history (some k) ck) := by
  obtain ⟨ck, hck, hredo⟩ := h.history.redo_of_isFirstChild hfirst
  refine ⟨ck, hck, ?_⟩
  rw [Session.apply, redo, hx, hredo]
  show (Answer.moved (.moved ck), { x.restore ck with
    history := { s.history with current := some k } }) = _
  rw [h.restore_eq hck]
  rfl

end Own

/-! ### Back and forth -/

namespace Edits

/-- **Undo** takes the edits back, from the last to the first. -/
theorem undo (hes : s.Edits es) (h : s.history.WellFormed)
    (hown : (after Session.apply s es).Own) :
    let s' := after Session.apply s es
    let undos := List.replicate (s.afterEdits es).length Call.undo
    (∀ a ∈ answers Session.apply s' undos, a.isMoved = true) ∧
      (after Session.apply s' undos).history = { s'.history with current := s.history.current } ∧
      (0 < (s.afterEdits es).length → ∃ ck, s'.history.checkpointAt s.history.current = .ok ck ∧
        (after Session.apply s' undos).cursor = ck.cursor.getD .origin) := by
  induction hes with
  | nil s =>
    exact ⟨fun _ ha ↦ absurd ha List.not_mem_nil, rfl, fun hpos ↦ absurd hpos (Nat.lt_irrefl 0)⟩
  | @setCursor s p cs _ ih =>
    obtain ⟨q, happly, hsame⟩ := s.exists_setCursor_eq p
    rw [after_cons, hsame]
    rw [after_cons] at hown
    rw [happly] at ih hown ⊢
    exact ih h hown
  | @edit s c id cs hc hes ih =>
    obtain ⟨o, happly⟩ := exists_eq_commit hc
    rw [after_cons, afterEdits_of_edited hc, List.length_cons, List.replicate_succ']
    rw [after_cons] at hown
    rw [happly] at ih hes hown ⊢
    have htree : (s.commit o).2.history.WellFormed := h.push o.revision
    obtain ⟨hmoved, hback, -⟩ := ih htree hown
    have hup := up_after_commit h o cs (hes.hasPlace_current htree)
    -- the last undo is the one of the first edit
    obtain ⟨ck, hck, hundo⟩ := hown.undo_of_up hup hback
    intro s' undos
    have hlast : after Session.apply s' undos = atCheckpoint s'.history s.history.current ck := by
      rw [after_append, after_cons, hundo]
      rfl
    refine ⟨?_, by rw [hlast]; rfl, fun _ ↦ ⟨ck, hck, by rw [hlast]; rfl⟩⟩
    rw [answers_append, answers_cons, hundo]
    exact List.forall_mem_append.2 ⟨hmoved, List.forall_mem_singleton.2 rfl⟩

/-- **Redo** does them again, from the first to the last, if each recorded an oldest child. -/
theorem redo (hes : s.Edits es) (h : s.history.WellFormed)
    (hown : (after Session.apply s es).Own)
    (hfirst : ∀ s₁ ∈ s.afterEdits es, s₁.history.AtFirstChild)
    (hx : x.history =
      { (after Session.apply s es).history with current := s.history.current }) :
    (∀ a ∈ answers Session.apply x (List.replicate (s.afterEdits es).length .redo),
        a.isMoved = true) ∧
      ∀ i s₁, (s.afterEdits es)[i]? = some s₁ →
        (after Session.apply x (List.replicate (i + 1) .redo)).document = s₁.document ∧
        (after Session.apply x (List.replicate (i + 1) .redo)).cursor = s₁.cursor := by
  induction hes generalizing x with
  | nil s =>
    exact ⟨fun _ ha ↦ absurd ha List.not_mem_nil, fun i s₁ hi ↦ absurd hi (by simp [afterEdits])⟩
  | @setCursor s p cs _ ih =>
    obtain ⟨q, happly, hsame⟩ := s.exists_setCursor_eq p
    rw [after_cons] at hown hx
    rw [hsame] at hfirst ⊢
    rw [happly] at ih hown hfirst hx ⊢
    exact ih h hown hfirst hx
  | @edit s c id cs hc hes ih =>
    obtain ⟨o, happly⟩ := exists_eq_commit hc
    rw [after_cons] at hown hx
    rw [afterEdits_of_edited hc] at hfirst ⊢
    rw [happly] at ih hes hown hfirst hx ⊢
    have htree : (s.commit o).2.history.WellFormed := h.push o.revision
    obtain ⟨hhead, htail⟩ := List.forall_mem_cons.1 hfirst
    have hplace := hes.hasPlace_current htree
    have hchild := isFirstChild_after_commit h o cs hplace hhead
    -- the first redo is the one of the first edit
    obtain ⟨ck, hck, hredo⟩ := hown.redo_of_isFirstChild hchild hx
    have hstate := checkpointAt_after_commit h o cs (s.current_commit o ▸ hplace)
    obtain rfl : _ = ck := Except.ok.inj (hstate.symm.trans hck)
    have hcur : { (after Session.apply (s.commit o).2 cs).history with
        current := some s.history.nextId } =
        { (after Session.apply (s.commit o).2 cs).history with
          current := (s.commit o).2.history.current } := by
      rw [current_commit]
    obtain ⟨hmoved, hstates⟩ := ih (x := atCheckpoint _ _ _) htree hown htail hcur
    rw [List.length_cons, List.replicate_succ, answers_cons, hredo]
    refine ⟨List.forall_mem_cons.2 ⟨rfl, hmoved⟩, fun i s₁ hi ↦ ?_⟩
    rw [List.replicate_succ, after_cons, hredo]
    cases i with
    | zero =>
      obtain rfl : (s.commit o).2 = s₁ := Option.some.inj hi
      exact ⟨rfl, rfl⟩
    | succ i => exact hstates i s₁ hi

end Edits

/-- The document of a session is what its history shows at the current place. -/
theorem Synced.document_eq (h : s.Synced) {ck : Checkpoint}
    (hc : s.history.checkpointAt s.history.current = .ok ck) : s.document = ck.snapshot := by
  rw [Synced, UndoTree.currentSnapshot, hc] at h
  exact (Except.ok.inj h).symm

/-- **Undo takes edits back, and redo does them again.** After `n` edits, with the cursor moved at
will in between, `n` undos go through and lead back to the document and the place in the history
where the edits began, with the cursor that is recorded there. If the history is linear, or if each
edit recorded an oldest child, then `n` redos go through after that, and lead through the documents
and the cursors that the edits left. -/
theorem undo_redo_after_edits {s₀ : Session} (hs : s₀.Started) (hd : s₀.document.WellFormed)
    (cs : List Call) (hcs : ∀ c ∈ cs, c.isHistory = false) (es : List Call)
    (hes : (after Session.apply s₀ cs).Edits es) :
    let s := after Session.apply s₀ cs
    let s' := after Session.apply s es
    let n := (s.afterEdits es).length
    let back := after Session.apply s' (List.replicate n .undo)
    ((∀ a ∈ answers Session.apply s' (List.replicate n .undo), a.isMoved = true) ∧
        back.document = s.document ∧ back.history.current = s.history.current ∧
        (0 < n → (s.history.current = none → back.cursor = .origin) ∧
          ∀ k, s.history.current = some k → s.history.currentCursor = .ok (some back.cursor))) ∧
      (s₀.history.mode = .linear ∨ (∀ s₁ ∈ s.afterEdits es, s₁.history.AtFirstChild) →
        (∀ a ∈ answers Session.apply back (List.replicate n .redo), a.isMoved = true) ∧
          ∀ i s₁, (s.afterEdits es)[i]? = some s₁ →
            (after Session.apply back (List.replicate (i + 1) .redo)).document = s₁.document ∧
            (after Session.apply back (List.replicate (i + 1) .redo)).cursor = s₁.cursor) := by
  intro s s' n back
  have hown : s.Own := (hs.own hd).run hcs
  have hown' : s'.Own := hown.run hes.isHistory
  obtain ⟨hmoved, hback, hcursor⟩ := hes.undo hown.history hown'
  have hundos : ∀ c ∈ List.replicate n Call.undo, c.isHistory = false := fun c hc ↦ by
    rw [List.eq_of_mem_replicate hc]
    rfl
  -- what is recorded where the edits began, before them and after them
  obtain ⟨ck, hck, -⟩ := hown.history.exists_checkpointAt hown.history.hasPlace_current
  have hck' : s'.history.checkpointAt s.history.current = .ok ck :=
    (hes.checkpointAt_current hown.history).trans hck
  have hsync : s.Synced := hs.synced.run hcs
  have hsync' : back.Synced := (hsync.run hes.isHistory).run hundos
  constructor
  · replace hback : back.history = { s'.history with current := s.history.current } := hback
    have hcur : back.history.current = s.history.current := by rw [hback]
    have hsame : back.history.checkpointAt back.history.current = .ok ck := by
      rw [hcur, hback, UndoTree.checkpointAt_moveTo]
      exact hck'
    refine ⟨hmoved, (hsync'.document_eq hsame).trans (hsync.document_eq hck).symm, hcur,
      fun hpos ↦ ?_⟩
    obtain ⟨ck', hck'', hcursor⟩ := hcursor hpos
    obtain rfl : ck = ck' := Except.ok.inj (hck'.symm.trans hck'')
    replace hcursor : back.cursor = ck.cursor.getD .origin := hcursor
    rw [hcursor]
    exact hown.cursor_cases hck
  · intro hmode
    refine hes.redo hown.history hown' ?_ hback
    rcases hmode with hlinear | hfirst
    · exact hes.atFirstChild_of_linear hown.history
        ((mode_after hs.wellFormed_history hcs).trans hlinear)
    · exact hfirst

/-- Two edits with the cursor moved in between, in a linear history in which an edit was undone. -/
theorem undo_redo_after_edits_type :
    let s₀ := Session.ofDocument (.ofString "ab" 0) .linear
    let cs : List Call := [.type "z", .undo]
    let es : List Call := [.type "x", .setCursor ⟨0, 9⟩, .type "y"]
    let s := after Session.apply s₀ cs
    let s' := after Session.apply s es
    let back := after Session.apply s' [.undo, .undo]
    s₀.Started ∧ s₀.document.WellFormed ∧ (∀ c ∈ cs, c.isHistory = false) ∧ s.Edits es ∧
      (s.afterEdits es).length = 2 ∧ s₀.history.mode = .linear ∧
      back.document = s.document ∧ back.history.current = s.history.current ∧
      ∀ a ∈ answers Session.apply back [.redo, .redo], a.isMoved = true := by
  intro s₀ cs es
  have hs : s₀.Started := .ofDocument _ _
  have hd : s₀.document.WellFormed := Document.wellFormed_ofString _ _
  have hcs : ∀ c ∈ cs, c.isHistory = false := by decide
  have hmain := undo_redo_after_edits hs hd cs hcs es
  have hwf : (after Session.apply s₀ cs).WellFormed := ((hs.own hd).run hcs).toWellFormed
  generalize after Session.apply s₀ cs = s at hwf hmain ⊢
  have hx := hwf.edited_type "x"
  have hwf' := (hwf.apply (c := .type "x") (by simp [Call.documents])).apply
    (c := .setCursor ⟨0, 9⟩) (by simp [Call.documents])
  have hy := hwf'.edited_type "y"
  have hes : s.Edits es := .edit hx (.setCursor _ (.edit hy (.nil _)))
  have hlength : (s.afterEdits es).length = 2 := by
    obtain ⟨q, -, hsame⟩ := (s.apply (.type "x")).2.exists_setCursor_eq ⟨0, 9⟩
    rw [afterEdits_of_edited hx, hsame, afterEdits_of_edited hy]
    rfl
  obtain ⟨⟨-, hdoc, hcur, -⟩, hredo⟩ := hmain hes
  rw [hlength] at hdoc hcur hredo
  obtain ⟨hmoved, -⟩ := hredo (Or.inl rfl)
  exact ⟨hs, hd, hcs, hes, hlength, rfl, hdoc, hcur, hmoved⟩

end Session

end TextHistory
