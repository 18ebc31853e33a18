import TextHistory.Proofs.Session.Return
import TextHistory.Proofs.UndoTree.Renumbering

/-!
# A reloaded session is a new one

Reloading drops everything but the mode and the counter of ids. So a session that was reloaded is a
new session with the same content and mode, except that its ids begin where the old ones ended
(`reload_eq_renumber`). The session leaves ids to its history, and the history does not calculate
with them, so the two stay the same but for the numbering through any run of calls
(`renumber_run`).

The ids from before the reload are not among the new ones. They show nothing and never will
(`apply_goto_after_reload`).
-/

namespace TextHistory

variable (k : Nat)

/-- The error with `k` added to the id of a revision. -/
def EditError.renumber : EditError → EditError
  | .history cause => .history (cause.renumber k)
  | e => e

namespace Session

/-- The session with `k` added to the ids of all revisions. -/
def renumber (s : Session) : Session := { s with history := s.history.renumber k }

/-- The call with `k` added to the id of a revision. -/
def Call.renumber : Call → Call
  | .goto id => .goto (id + k)
  | .history c => .history (c.renumber k)
  | c => c

/-- The answer with `k` added to the id of a revision. -/
def Answer.renumber : Answer → Answer
  | .edited id => .edited (id + k)
  | .moved m => .moved (m.renumber k)
  | .done => .done
  | .asked r => .asked r
  | .history a => .history (a.renumber k)
  | .failed e => .failed (e.renumber k)

@[simp] theorem document_renumber (s : Session) : (s.renumber k).document = s.document := rfl

@[simp] theorem history_renumber (s : Session) :
    (s.renumber k).history = s.history.renumber k := rfl

variable {s : Session}

/-! ### The step -/

theorem commit_renumber (h : s.history.WellFormed) (o : Outcome) :
    (s.renumber k).commit o = ((s.commit o).1 + k, (s.commit o).2.renumber k) := by
  have hpush := h.push_renumber k o.revision
  show (((s.history.renumber k).push o.revision).1,
    (⟨o.document, ((s.history.renumber k).push o.revision).2, o.cursor⟩ : Session)) = _
  rw [hpush]
  rfl

/-- An edit is recorded under the renumbered id, or refused for the same reason. -/
theorem settle_edit_renumber (h : s.history.WellFormed) (e : Document.Edit) :
    (s.renumber k).settle (fun r ↦ (Answer.edited r.1, r.2)) ((s.renumber k).edit e) =
      ((s.settle (fun r ↦ (Answer.edited r.1, r.2)) (s.edit e)).1.renumber k,
        (s.settle (fun r ↦ (Answer.edited r.1, r.2)) (s.edit e)).2.renumber k) := by
  rw [edit, edit, document_renumber]
  cases s.document.outcome e with
  | error cause => rfl
  | ok o =>
    simp only [settle, commit_renumber k h]
    rfl

/-- The cursor goes to the same position: whether a place is the root is not a matter of its id. -/
theorem cursorFor_renumber (s : Session) (c : Checkpoint) :
    (s.renumber k).cursorFor (c.renumber k) = s.cursorFor c := by
  have hcursor : (c.renumber k).cursor = c.cursor := rfl
  rw [cursorFor, cursorFor, hcursor, Checkpoint.renumber, Option.isSome_map]
  rfl

theorem restore_renumber (s : Session) (c : Checkpoint) :
    (s.renumber k).restore (c.renumber k) = (s.restore c).renumber k := by
  rw [restore, cursorFor_renumber]
  rfl

theorem follow_renumber (s : Session) (m : Move) (t : UndoTree) :
    (s.renumber k).follow (m.renumber k, t.renumber k) =
      ((s.follow (m, t)).1.renumber k, (s.follow (m, t)).2.renumber k) := by
  cases m with
  | moved c =>
    show (Move.moved (c.renumber k),
      ({ (s.renumber k).restore (c.renumber k) with history := t.renumber k } : Session)) = _
    rw [restore_renumber]
    rfl
  | atOldest => rfl
  | atNewest => rfl

/-- **The step.** A call comes to the same whether the ids are renumbered before it or after it. -/
theorem apply_renumber (h : s.history.WellFormed) (c : Call) :
    (s.renumber k).apply (c.renumber k) =
      ((s.apply c).1.renumber k, (s.apply c).2.renumber k) := by
  cases c with
  | edit e => exact settle_edit_renumber k h e
  | type text => exact settle_edit_renumber k h (.insert s.cursor text)
  | setCursor p =>
    show (s.renumber k).apply (.setCursor p) = _
    rw [apply, apply, setCursor, setCursor, document_renumber]
    cases s.document.clampPosition p <;> rfl
  | undo =>
    show (s.renumber k).apply .undo = _
    obtain ⟨m, t, hu, hu'⟩ := h.undo_renumber k
    rw [apply, apply, undo, undo, history_renumber, hu, hu']
    simp only [settle, follow_renumber]
    rfl
  | redo =>
    show (s.renumber k).apply .redo = _
    obtain ⟨m, t, hr, hr'⟩ := h.redo_renumber k
    rw [apply, apply, redo, redo, history_renumber, hr, hr']
    simp only [settle, follow_renumber]
    rfl
  | goto id =>
    show (s.renumber k).apply (.goto (id + k)) = _
    rw [apply, apply, goto, goto, history_renumber, UndoTree.goto_renumber]
    cases s.history.goto id with
    | error cause => rfl
    | ok r =>
      simp only [settle, restore_renumber]
      rfl
  | reload content => rfl
  | ask q => rfl
  | history c =>
    show (Answer.history ((s.history.renumber k).apply (c.renumber k)).1,
      { s with history := ((s.history.renumber k).apply (c.renumber k)).2 }) = _
    rw [h.apply_renumber]
    rfl

/-! ### The run -/

/-- **The run.** Sessions that are the same but for the numbering take the same course. -/
theorem renumber_run (h : s.history.WellFormed) (cs : List Call) :
    answers apply (s.renumber k) (cs.map (Call.renumber k)) =
        (answers apply s cs).map (Answer.renumber k) ∧
      after apply (s.renumber k) (cs.map (Call.renumber k)) = (after apply s cs).renumber k := by
  induction cs generalizing s with
  | nil => exact ⟨rfl, rfl⟩
  | cons c cs ih =>
    obtain ⟨hanswers, hafter⟩ := ih (wellFormed_history_apply h c)
    simp only [List.map_cons, answers_cons, after_cons, apply_renumber k h c]
    exact ⟨congrArg _ hanswers, hafter⟩

/-! ### Reloading -/

/-- **A reloaded session** is a new one, up to the numbering. -/
theorem reload_eq_renumber (s : Session) (content : String) :
    s.reload content =
      (ofDocument (.ofFileContent content) s.history.mode).renumber s.history.nextId := by
  rw [reload, UndoTree.clear_eq_renumber]
  rfl

/-- Reloading puts the history into good shape, whatever shape it was in. -/
theorem wellFormed_history_reload (s : Session) (content : String) :
    (s.reload content).history.WellFormed :=
  (UndoTree.wellFormed_ofDocument (.ofFileContent content) s.history.mode).of_nodes_eq rfl rfl
    (Nat.zero_le _) trivial

/-- **The ids from before** a reload are refused for good. -/
theorem apply_goto_after_reload (s : Session) (content : String) (cs : List Call) {id : Nat}
    (hid : id < s.history.nextId) :
    (after apply (s.reload content) cs).apply (.goto id) =
      (.failed (.history (.nodeNotFound id)), after apply (s.reload content) cs) := by
  have hgone : ¬(s.reload content).history.HasPlace (some id) :=
    UndoTree.not_hasPlace_clear _ _ id
  have hgrew := grew_history_after (s.wellFormed_history_reload content) cs
  exact apply_goto_of_not_hasPlace (hgrew.not_hasPlace hid hgone)

/-- **Reloading starts a new session, up to the numbering of revisions.** Let `k` be the next id of
a session that is reloaded. From then on the session answers every run of calls as a new session
with the same content and mode would, and is afterwards what that would be, with `k` added to every
id in the calls, in the answers and in the session. And going to an id below `k` is refused and
changes nothing, whatever was done in between. -/
theorem renumber_after_reload (s : Session) (content : String) (cs : List Call) :
    let k := s.history.nextId
    let reloaded := s.reload content
    let started := ofDocument (.ofFileContent content) s.history.mode
    answers apply reloaded (cs.map (Call.renumber k)) =
        (answers apply started cs).map (Answer.renumber k) ∧
      after apply reloaded (cs.map (Call.renumber k)) = (after apply started cs).renumber k ∧
      ∀ (ds : List Call) (id : Nat), id < k → (after apply reloaded ds).apply (.goto id) =
        (.failed (.history (.nodeNotFound id)), after apply reloaded ds) := by
  intro k reloaded started
  have hreload : reloaded = started.renumber k := s.reload_eq_renumber content
  have hstarted : started.history.WellFormed := UndoTree.wellFormed_ofDocument _ _
  obtain ⟨hanswers, hafter⟩ := renumber_run k hstarted cs
  rw [← hreload] at hanswers hafter
  exact ⟨hanswers, hafter, fun ds _ hid ↦ s.apply_goto_after_reload content ds hid⟩

/-- The first revision after a reload has the id after the last one before it. The calls that a new
session would get are renumbered. -/
example :
    let s := after apply (.ofDocument (.ofString "a" 0) .branching) [.type "x", .type "y"]
    let cs : List Call := [.type "z", .undo, .goto 0]
    let t := after apply (s.reload "b") (cs.map (Call.renumber s.history.nextId))
    let t' := after apply (.ofDocument (.ofFileContent "b") .branching) cs
    (t.history.nodes.ids, t.history.current, t'.history.nodes.ids, t'.history.current) =
      ([2], some 2, [0], some 0) := by
  decide +kernel

end Session

end TextHistory
