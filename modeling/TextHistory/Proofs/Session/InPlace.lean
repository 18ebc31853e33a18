import TextHistory.Proofs.Session.History
import TextHistory.Proofs.UndoTree.InPlace

/-!
# Sessions that are changed in place

`Session.apply` makes a new session out of an old one, so there a call that fails cannot have
changed anything. Here the same calls are written as steps that change one session in place, in the
order in which they are taken: looking up addresses, asking the history to move, recording, and
setting the document and the cursor. A step that fails ends the call and leaves the session as the
steps before it have made it.

The two agree (`inPlace_eq_apply`). So no call takes a step that changes something before a step
that may fail: edits work out everything before they commit, and a move looks up where it leads
before the current place is set.
-/

namespace TextHistory

namespace Session

/-- Work on a session in place. A step that fails leaves the session as the steps before it have
made it. -/
abbrev Work (α : Type) := EStateM EditError Session α

/-- Looks up something about a document. -/
def lookUp {α : Type} (x : Except AddressError α) : Work α := ofExcept (x.mapError .address)

/-- Works on the history of the session. -/
def onTree {α : Type} (w : EStateM HistoryError UndoTree α) : Work α := fun s ↦
  match w s.history with
  | .ok a t => .ok a { s with history := t }
  | .error e t => .error (.history e) { s with history := t }

/-! ### Calls -/

/-- Records what an edit came to, and makes it the document. -/
def commitInPlace (o : Outcome) : Work Answer := do
  let id ← onTree (modifyGet fun t ↦ t.push o.revision)
  modify fun s ↦ { s with document := o.document }
  modify fun s ↦ { s with cursor := o.cursor }
  return .edited id

/-- Inserts a text. -/
def insertInPlace (p : Position) (text : String) : Work Answer := do
  let next ← lookUp ((← get).document.insert p text)
  let offset ← lookUp ((← get).document.offsetAt p)
  let cursor ← lookUp (next.positionAt (offset + text.length))
  commitInPlace ⟨s!"insert {quoted text}", next, cursor⟩

/-- Deletes a span. -/
def deleteInPlace (r : Span) : Work Answer := do
  let removed ← lookUp ((← get).document.textIn r)
  let start ← lookUp ((← get).document.offsetAt r.start)
  let next ← lookUp ((← get).document.delete r)
  let cursor ← lookUp (next.positionAt start)
  commitInPlace ⟨s!"delete {quoted removed}", next, cursor⟩

/-- Replaces a span by a text. -/
def replaceInPlace (r : Span) (text : String) : Work Answer := do
  let rest ← lookUp ((← get).document.delete r)
  let offset ← lookUp (rest.offsetAt r.start)
  let next ← lookUp (rest.insert r.start text)
  let cursor ← lookUp (next.positionAt (offset + text.length))
  commitInPlace ⟨s!"replace {r} with {quoted text}", next, cursor⟩

/-- Moves the cursor. -/
def setCursorInPlace (p : Position) : Work Answer := do
  let cursor ← lookUp ((← get).document.clampPosition p)
  modify fun s ↦ { s with cursor := cursor }
  return .done

/-- Restores a state: the document first, and then the cursor as far as that has it. -/
def restoreInPlace (c : Checkpoint) : Work Unit := do
  modify fun s ↦ { s with document := c.snapshot }
  modify fun s ↦
    { s with cursor := (s.document.clampPosition (s.cursorFor c)).toOption.getD .origin }

/-- Restores the state that a move led to, if anything moved. -/
def followInPlace (m : Move) : Work Answer := do
  match m with
  | .moved c => restoreInPlace c
  | _ => pure ⟨⟩
  return .moved m

/-- Starts again with the content of a file. -/
def reloadInPlace (content : String) : Work Answer := do
  let d := Document.ofFileContent content
  onTree (modify fun t ↦ t.clear d)
  modify fun s ↦ { s with document := d }
  modify fun s ↦ { s with cursor := .origin }
  return .done

/-- Carries out a call in steps. -/
def steps : Call → Work Answer
  | .edit (.insert p text) => insertInPlace p text
  | .edit (.delete r) => deleteInPlace r
  | .edit (.replace r text) => replaceInPlace r text
  | .type text => do insertInPlace (← get).cursor text
  | .setCursor p => setCursorInPlace p
  | .undo => do followInPlace (← onTree UndoTree.undoInPlace)
  | .redo => do followInPlace (← onTree UndoTree.redoInPlace)
  | .goto id => do
    restoreInPlace (← onTree (UndoTree.gotoInPlace id))
    return .done
  | .reload content => reloadInPlace content
  | .ask q => do return .asked ((← get).document.ask q)
  | .history c => onTree (modifyGet fun t ↦ (t.apply c).map .history id)

/-- The answer of a call and what its steps have made of the session, whether or not it failed. -/
def ended : EStateM.Result EditError Session Answer → Answer × Session
  | .ok a s => (a, s)
  | .error e s => (.failed e, s)

/-- Carries out a call in place. -/
def inPlace (s : Session) (c : Call) : Answer × Session := ended (steps c s)

/-! ### Agreement -/

variable (s : Session)

/-- A look-up changes nothing, and ends the call if it fails. -/
theorem run_lookUp_bind {α : Type} (x : Except AddressError α) (f : α → Work Answer) :
    (lookUp x >>= f) s =
      match x with
      | .ok a => f a s
      | .error e => .error (.address e) s := by
  cases x <;> rfl

/-- A call of the history goes on with what that has made of the history. -/
theorem run_onTree_bind {α : Type} (w : EStateM HistoryError UndoTree α) (f : α → Work Answer) :
    (onTree w >>= f) s =
      match w s.history with
      | .ok a t => f a { s with history := t }
      | .error e t => .error (.history e) { s with history := t } := by
  show EStateM.bind (onTree w) f s = _
  rw [EStateM.bind, onTree]
  cases w s.history <;> rfl

/-- An edit that was worked out beforehand. If it fails, the session is as it was. -/
def settleEdit : Except AddressError Outcome → EStateM.Result EditError Session Answer
  | .ok o => .ok (.edited (s.commit o).1) (s.commit o).2
  | .error e => .error (.address e) s

theorem insertInPlace_eq (p : Position) (text : String) :
    insertInPlace p text s = s.settleEdit (s.document.insertOutcome p text) := by
  rw [insertInPlace, Document.insertOutcome]
  simp only [run_get_bind, run_lookUp_bind]
  -- one case split a look-up; the first that fails ends both sides, with the session untouched
  cases s.document.insert p text with
  | error e => rfl
  | ok next =>
    cases s.document.offsetAt p with
    | error e => rfl
    | ok offset =>
      cases hq : next.positionAt (offset + text.length) <;>
        simp only [bind, Except.bind, hq] <;> rfl

theorem deleteInPlace_eq (r : Span) :
    deleteInPlace r s = s.settleEdit (s.document.deleteOutcome r) := by
  rw [deleteInPlace, Document.deleteOutcome]
  simp only [run_get_bind, run_lookUp_bind]
  cases s.document.textIn r with
  | error e => rfl
  | ok removed =>
    cases s.document.offsetAt r.start with
    | error e => rfl
    | ok start =>
      cases s.document.delete r with
      | error e => rfl
      | ok next =>
        cases hq : next.positionAt start <;> simp only [bind, Except.bind, hq] <;> rfl

theorem replaceInPlace_eq (r : Span) (text : String) :
    replaceInPlace r text s = s.settleEdit (s.document.replaceOutcome r text) := by
  rw [replaceInPlace, Document.replaceOutcome]
  simp only [run_get_bind, run_lookUp_bind]
  cases s.document.delete r with
  | error e => rfl
  | ok rest =>
    cases hstart : rest.offsetAt r.start with
    | error e => simp only [bind, Except.bind, hstart]; rfl
    | ok offset =>
      cases hnext : rest.insert r.start text with
      | error e => simp only [bind, Except.bind, hstart, hnext]; rfl
      | ok next =>
        cases hq : next.positionAt (offset + text.length) <;>
          simp only [bind, Except.bind, hstart, hnext, hq] <;> rfl

/-- An edit is committed after the last step that may fail. -/
theorem ended_settleEdit (e : Document.Edit) :
    ended (s.settleEdit (s.document.outcome e)) =
      s.settle (fun r ↦ (.edited r.1, r.2)) (s.edit e) := by
  rw [edit]
  cases s.document.outcome e <;> rfl

theorem followInPlace_eq (m : Move) (t : UndoTree) :
    followInPlace m { s with history := t } =
      .ok (.moved (s.follow (m, t)).1) (s.follow (m, t)).2 := by
  cases m <;> rfl

/-- **Changing a session in place** makes the session that the call makes, also if the call
fails. -/
theorem inPlace_eq_apply (c : Call) : s.inPlace c = s.apply c := by
  cases c with
  | edit e =>
    rw [apply, ← ended_settleEdit]
    cases e with
    | insert p text => exact congrArg ended (s.insertInPlace_eq p text)
    | delete r => exact congrArg ended (s.deleteInPlace_eq r)
    | replace r text => exact congrArg ended (s.replaceInPlace_eq r text)
  | type text =>
    rw [apply, type, ← ended_settleEdit]
    exact congrArg ended (s.insertInPlace_eq s.cursor text)
  | setCursor p =>
    rw [inPlace, steps, setCursorInPlace, run_get_bind, run_lookUp_bind, apply, setCursor]
    cases s.document.clampPosition p <;> rfl
  | undo =>
    rw [inPlace, steps, run_onTree_bind, UndoTree.undoInPlace_eq, apply, undo]
    cases s.history.undo with
    | error e => rfl
    | ok r => exact congrArg ended (s.followInPlace_eq r.1 r.2)
  | redo =>
    rw [inPlace, steps, run_onTree_bind, UndoTree.redoInPlace_eq, apply, redo]
    cases s.history.redo with
    | error e => rfl
    | ok r => exact congrArg ended (s.followInPlace_eq r.1 r.2)
  | goto id =>
    rw [inPlace, steps, run_onTree_bind, UndoTree.gotoInPlace_eq, apply, goto]
    cases s.history.goto id <;> rfl
  | reload content => rfl
  | ask q => rfl
  | history c => rfl

end Session

end TextHistory
