import TextHistory.Proofs.Session.Cursor
import TextHistory.Proofs.Session.InPlace

/-!
# Calls that fail

Which calls of a session fail, and with what, is told by the session before the call (`refusal`): an
edit is refused by the document, going to a revision is refused if there is none of that id, and all
other calls go through. So no call ever finds an offset out of bounds or the history damaged,
although the steps of a call check for both; and typing goes through since the cursor is always a
position of the document.

A refused call changes nothing, and this is so also if the steps of the call change the session in
place (`inPlace`).
-/

namespace TextHistory

/-- A line that the document does not have, a span that ends before it starts, or a revision that
the history does not have. -/
inductive EditError.IsMiss (d : Document) (t : UndoTree) : EditError → Prop
  /-- The document has no such line. -/
  | line {line : Nat} (h : d.lineCount ≤ line) :
    IsMiss d t (.address (.lineOutOfRange line d.lineCount))
  /-- The span ends before it starts. -/
  | span {start stop : Nat} (h : stop < start) : IsMiss d t (.address (.invertedRange start stop))
  /-- The history has no such revision. -/
  | revision {id : Nat} (h : ¬t.HasPlace (some id)) : IsMiss d t (.history (.nodeNotFound id))

namespace Session

/-- The error that a call fails with, if it fails. -/
def refusal (s : Session) : Call → Option EditError
  | .edit e => (s.document.refusal e).map .address
  | .goto id => if (s.history.node? id).isSome then none else some (.history (.nodeNotFound id))
  | _ => none

/-- The error that an answer tells of, if it tells of one. -/
def Answer.error? : Answer → Option EditError
  | .failed e => some e
  | _ => none

variable {s : Session}

/-- An edit that goes through is not refused, and one that does not is. -/
theorem error?_edit (h : s.document.WellFormed) (e : Document.Edit) :
    (s.settle (fun r ↦ (Answer.edited r.1, r.2)) (s.edit e)).1.error? =
      (s.document.refusal e).map .address := by
  rw [edit]
  rcases h.outcome_cases e with ⟨o, ho, -, hno⟩ | ⟨cause, ho, hcause⟩
  · rw [ho, hno]
    rfl
  · rw [ho, hcause]
    rfl

/-- **The step.** A call fails if it is refused, and with that error. -/
theorem WellFormed.error?_apply (h : s.WellFormed) (c : Call) :
    (s.apply c).1.error? = s.refusal c := by
  cases c with
  | edit e => exact error?_edit h.document e
  | type text =>
    have hline : s.document.refusal (.insert s.cursor text) = none := if_pos h.cursor.line_lt
    exact (error?_edit h.document _).trans (congrArg _ hline)
  | setCursor p =>
    rw [Session.apply, setCursor, h.document.clampPosition_eq]
    rfl
  | undo =>
    rw [Session.apply, undo]
    rcases h.history.undo_cases with ⟨-, hu⟩ | ⟨k, n, c, -, -, -, hu⟩ <;> (rw [hu]; rfl)
  | redo =>
    rw [Session.apply, redo]
    rcases h.history.redo_cases with ⟨-, hr⟩ | ⟨k, ks, c, -, -, hr⟩ <;> (rw [hr]; rfl)
  | goto id =>
    rw [Session.apply, goto, UndoTree.goto, refusal]
    cases s.history.node? id <;> rfl
  | _ => rfl

/-- A call that fails ends with the session as it was. -/
theorem apply_eq_of_error? {c : Call} {e : EditError} (he : (s.apply c).1.error? = some e) :
    s.apply c = (.failed e, s) := by
  -- all calls that may fail are settled in one way, whatever they do if they go through
  have hsettle : ∀ {α : Type} (f : α → Answer × Session) (x : Except EditError α),
      (∀ a, (f a).1.error? = none) → (s.settle f x).1.error? = some e →
        s.settle f x = (.failed e, s) := fun f x hf hx ↦ by
    cases x with
    | ok a => exact absurd ((hf a).symm.trans hx) (by simp)
    | error e' => rw [Option.some.inj hx]; rfl
  cases c with
  | reload content => exact absurd he (by simp [apply, Answer.error?])
  | ask q => exact absurd he (by simp [apply, Answer.error?])
  | history c => exact absurd he (by simp [apply, Answer.error?])
  | _ => exact hsettle _ _ (fun _ ↦ rfl) he

/-- Nothing but addresses and ids can be missed. -/
theorem isMiss_of_refusal (h : s.document.WellFormed) {c : Call} {e : EditError}
    (he : s.refusal c = some e) : e.IsMiss s.document s.history := by
  cases c with
  | edit ed =>
    obtain ⟨cause, hcause, rfl⟩ := Option.map_eq_some_iff.1 he
    rcases Document.eq_of_refusal h hcause with ⟨line, hline, rfl⟩ | ⟨start, stop, hlt, rfl⟩
    · exact .line hline
    · exact .span hlt
  | goto id =>
    rw [refusal] at he
    split at he
    · exact absurd he (by simp)
    · next hnone =>
      obtain rfl := Option.some.inj he
      exact .revision fun ⟨n, hn⟩ ↦ hnone (by rw [hn]; rfl)
  | _ => exact absurd he (by simp [refusal])

/-- **Calls fail exactly when they should, and leave no trace.** Whatever a session has been
through, an insertion fails for a missing line, a deletion or a replacement fails as the deletion of
the span does, and going to a revision fails if there is none; nothing else fails. If a call fails,
taking its steps in place ends with the session as it was: document, cursor and the whole history.
-/
theorem refused_after_calls {s₀ : Session} (hs : s₀.Started) (hd : s₀.document.WellFormed)
    (cs : List Call) (hcs : ∀ c ∈ cs, ∀ d ∈ c.documents, d.WellFormed) (c : Call) :
    let s := after Session.apply s₀ cs
    s.inPlace c = s.apply c ∧ (s.apply c).1.error? = s.refusal c ∧
      ∀ e, s.refusal c = some e →
        s.inPlace c = (.failed e, s) ∧ e.IsMiss s.document s.history := by
  intro s
  have h : s.WellFormed := (hs.wellFormed hd).run hcs
  refine ⟨s.inPlace_eq_apply c, h.error?_apply c, fun e he ↦ ⟨?_, isMiss_of_refusal h.document he⟩⟩
  rw [s.inPlace_eq_apply]
  exact apply_eq_of_error? ((h.error?_apply c).trans he)

/-- A span that ends before it starts cannot be replaced. The history has become linear after an
undo, and still nothing that could be redone is dropped. -/
theorem refused_after_calls_inverted :
    let s₀ := Session.ofDocument (.ofString "ab\ncd" 0) .branching
    let cs : List Call := [.type "x", .undo, .history (.setMode .linear)]
    let s := after Session.apply s₀ cs
    let c : Call := .edit (.replace ⟨⟨1, 1⟩, ⟨0, 0⟩⟩ "y")
    s₀.Started ∧ s₀.document.WellFormed ∧ (∀ c ∈ cs, ∀ d ∈ c.documents, d.WellFormed) ∧
      s.inPlace c = (.failed (.address (.invertedRange 4 0)), s) ∧
      s.history.mode = .linear ∧ s.history.canRedo = true := by
  intro s₀ cs s c
  have hs : s₀.Started := .ofDocument _ _
  have hd : s₀.document.WellFormed := Document.wellFormed_ofString _ _
  have hcs : ∀ c ∈ cs, ∀ d ∈ c.documents, d.WellFormed := by
    simp [cs, Call.documents, UndoTree.Call.documents]
  have hrefusal : s.refusal c = some (.address (.invertedRange 4 0)) := by decide
  obtain ⟨-, -, hfailed⟩ := refused_after_calls hs hd cs hcs c
  exact ⟨hs, hd, hcs, (hfailed _ hrefusal).1, by decide, by decide⟩

end Session

end TextHistory
