import TextHistory.Proofs.Session.Sync
import TextHistory.Proofs.UndoTree.Permanence

/-!
# What a session does to its history

Every call of a session comes down to at most one call of its history (`onHistory`): an edit that
goes through records a revision, the moves are the moves of the history, a reload starts the history
again, and all else leaves it alone. So the history of a session after a run of calls is that
history after a run of its own calls (`history_after`), and what holds of all undo trees holds of
the histories of sessions.
-/

namespace TextHistory

/-- What is recorded of an edit. -/
def Outcome.revision (o : Outcome) : Revision :=
  ⟨o.description, o.document, some o.cursor.line, some o.cursor.column⟩

/-- The calls by which an edit is recorded, if it goes through. -/
def recorded : Except AddressError Outcome → List UndoTree.Call
  | .ok o => [.push o.revision]
  | .error _ => []

namespace Session

/-- What a call does to the history of the session. -/
def onHistory (s : Session) : Call → List UndoTree.Call
  | .edit e => recorded (s.document.outcome e)
  | .type text => recorded (s.document.outcome (.insert s.cursor text))
  | .undo => [.undo]
  | .redo => [.redo]
  | .goto id => [.goto id]
  | .reload content => [.clear (.ofFileContent content)]
  | .history c => [c]
  | .setCursor _ | .ask _ => []

/-- What a run of calls does to the history of the session. -/
def historyCalls : Session → List Call → List UndoTree.Call
  | _, [] => []
  | s, c :: cs => s.onHistory c ++ (s.apply c).2.historyCalls cs

variable {s : Session}

/-- A call of the session records what an edit comes to, moves, or starts again with a file. The
rest was done behind its back. -/
theorem onHistory_cases {c : Call} {c' : UndoTree.Call} (hc' : c' ∈ s.onHistory c) :
    (∃ e o, s.document.outcome e = .ok o ∧ c' = .push o.revision) ∨
      (c' = .undo ∨ c' = .redo ∨ ∃ id, c' = .goto id) ∨
      (∃ content, c' = .clear (.ofFileContent content)) ∨ c = .history c' := by
  have hedit : ∀ e, c' ∈ recorded (s.document.outcome e) →
      ∃ e o, s.document.outcome e = .ok o ∧ c' = .push o.revision := fun e he ↦ by
    cases ho : s.document.outcome e with
    | error cause =>
      rw [ho] at he
      exact absurd he List.not_mem_nil
    | ok o =>
      rw [ho] at he
      exact ⟨e, o, ho, List.mem_singleton.1 he⟩
  cases c with
  | edit e => exact Or.inl (hedit e hc')
  | type text => exact Or.inl (hedit _ hc')
  | setCursor p => exact absurd hc' List.not_mem_nil
  | undo => exact Or.inr (Or.inl (Or.inl (List.mem_singleton.1 hc')))
  | redo => exact Or.inr (Or.inl (Or.inr (Or.inl (List.mem_singleton.1 hc'))))
  | goto id => exact Or.inr (Or.inl (Or.inr (Or.inr ⟨id, List.mem_singleton.1 hc'⟩)))
  | reload content => exact Or.inr (Or.inr (Or.inl ⟨content, List.mem_singleton.1 hc'⟩))
  | ask q => exact absurd hc' List.not_mem_nil
  | history c => exact Or.inr (Or.inr (Or.inr (congrArg _ (List.mem_singleton.1 hc').symm)))

theorem history_edit (s : Session) (e : Document.Edit) :
    (s.settle (fun r ↦ (Answer.edited r.1, r.2)) (s.edit e)).2.history =
      after UndoTree.apply s.history (recorded (s.document.outcome e)) := by
  rw [edit]
  cases s.document.outcome e <;> rfl

theorem history_follow (s : Session) (r : Move × UndoTree) : (s.follow r).2.history = r.2 := by
  obtain ⟨m, t⟩ := r
  cases m <;> rfl

/-- A call of the session is a call of its history, or none. -/
theorem history_apply (s : Session) (c : Call) :
    (s.apply c).2.history = after UndoTree.apply s.history (s.onHistory c) := by
  cases c with
  | edit e => exact s.history_edit e
  | type text => exact s.history_edit (.insert s.cursor text)
  | setCursor p =>
    rw [apply, setCursor]
    cases s.document.clampPosition p <;> rfl
  | undo =>
    show _ = (s.history.apply .undo).2
    rw [apply, undo, UndoTree.apply]
    cases s.history.undo with
    | error cause => rfl
    | ok r => exact s.history_follow r
  | redo =>
    show _ = (s.history.apply .redo).2
    rw [apply, redo, UndoTree.apply]
    cases s.history.redo with
    | error cause => rfl
    | ok r => exact s.history_follow r
  | goto id =>
    show _ = (s.history.apply (.goto id)).2
    rw [apply, goto, UndoTree.apply]
    cases s.history.goto id <;> rfl
  | _ => rfl

/-- A run of calls of the session is a run of calls of its history. -/
theorem history_after (s : Session) (cs : List Call) :
    (after Session.apply s cs).history = after UndoTree.apply s.history (s.historyCalls cs) := by
  induction cs generalizing s with
  | nil => rfl
  | cons c cs ih => rw [after_cons, ih, history_apply, historyCalls, after_append]

/-! ### Every history -/

/-- The history of a session at its start is a new tree. -/
theorem Started.history (h : s.Started) : ∃ mode, s.history = .ofDocument s.document mode := by
  cases h with
  | ofDocument d mode => exact ⟨mode, rfl⟩
  | ofContent content settings => exact ⟨settings.historyMode, rfl⟩

theorem Started.wellFormed_history (h : s.Started) : s.history.WellFormed := by
  obtain ⟨mode, hmode⟩ := h.history
  rw [hmode]
  exact UndoTree.wellFormed_ofDocument _ _

theorem wellFormed_history_apply (h : s.history.WellFormed) (c : Call) :
    (s.apply c).2.history.WellFormed := by
  rw [history_apply]
  exact after_induction _ (fun _ c h ↦ h.apply c) h _

theorem wellFormed_history_after (h : s.history.WellFormed) (cs : List Call) :
    (after Session.apply s cs).history.WellFormed :=
  after_induction (P := fun s : Session ↦ s.history.WellFormed) Session.apply
    (fun _ c h ↦ wellFormed_history_apply h c) h cs

/-- The history grows, whatever the session does. -/
theorem grew_history_after (h : s.history.WellFormed) (cs : List Call) :
    s.history.Grew (after Session.apply s cs).history := by
  rw [history_after]
  exact h.grew_after _

/-- What a run drops from the history is known from the calls that it makes there. -/
theorem hasPlace_history_after_iff (h : s.history.WellFormed) {k : Nat}
    (hk : k < s.history.nextId) (cs : List Call) :
    (after Session.apply s cs).history.HasPlace (some k) ↔
      s.history.HasPlace (some k) ∧ ¬s.history.DroppedBy k (s.historyCalls cs) := by
  rw [history_after]
  exact h.hasPlace_after_iff hk _

end Session

end TextHistory
