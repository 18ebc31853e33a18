import TextHistory.Document.LineEndings
import TextHistory.Document.Query
import TextHistory.Quoted
import TextHistory.Settings

/-!
# Sessions

A document that is being edited: the document as it is, its history, and a cursor. Every edit is
recorded in the history with the cursor it leaves, and undo, redo and going to a revision bring
back both.

An edit is worked out on the document alone, as an `Outcome`, and only an outcome is committed.
So an edit that fails has not touched anything.

## The cursor

The cursor is always a place of the document. Edits put it where the edit ended; moves in the
history put it where it was recorded, or at the start for the root; and where nothing was recorded
it stays, as near as the document allows (`restore`).
-/

namespace TextHistory

/-- What an edit of a document comes to. -/
structure Outcome where
  /-- What was done. -/
  description : String
  /-- The document afterwards. -/
  document : Document
  /-- Where the edit ended. -/
  cursor : Position
deriving DecidableEq

namespace Document

variable (d : Document)

/-- Inserting a text, with the cursor behind it. -/
def insertOutcome (p : Position) (text : String) : Except AddressError Outcome := do
  let next ← d.insert p text
  let offset ← d.offsetAt p
  let cursor ← next.positionAt (offset + text.length)
  return ⟨s!"insert {quoted text}", next, cursor⟩

/-- Deleting a span, with the cursor where it started. -/
def deleteOutcome (s : Span) : Except AddressError Outcome := do
  let removed ← d.textIn s
  let start ← d.offsetAt s.start
  let next ← d.delete s
  let cursor ← next.positionAt start
  return ⟨s!"delete {quoted removed}", next, cursor⟩

/-- Replacing a span by a text, with the cursor behind the text. -/
def replaceOutcome (s : Span) (text : String) : Except AddressError Outcome := do
  let rest ← d.delete s
  let offset ← rest.offsetAt s.start
  let next ← rest.insert s.start text
  let cursor ← next.positionAt (offset + text.length)
  return ⟨s!"replace {s} with {quoted text}", next, cursor⟩

/-- What an edit comes to. -/
def outcome : Edit → Except AddressError Outcome
  | .insert p text => d.insertOutcome p text
  | .delete s => d.deleteOutcome s
  | .replace s text => d.replaceOutcome s text

end Document

/-- A document that is being edited. -/
structure Session where
  /-- The document as it is. -/
  document : Document
  /-- Its history. -/
  history : UndoTree
  /-- The cursor. -/
  cursor : Position

namespace Session

/-! ### Starting -/

/-- A session that starts with a document. -/
def ofDocument (d : Document) (mode : HistoryMode) : Session := ⟨d, .ofDocument d mode, .origin⟩

/-- A session that starts with the content of a file, as the settings want it. -/
def ofContent (content : String) (settings : Settings) : Session :=
  ofDocument (.ofString (Document.ofFileContent content).content settings.gapCapacity)
    settings.historyMode

variable (s : Session)

/-! ### Editing -/

/-- The session after an edit that came to an outcome. -/
def commit (o : Outcome) : Nat × Session :=
  let (id, history) :=
    s.history.push ⟨o.description, o.document, some o.cursor.line, some o.cursor.column⟩
  (id, ⟨o.document, history, o.cursor⟩)

/-- Edits the document. Gives the id of the revision. -/
def edit (e : Document.Edit) : Except EditError (Nat × Session) :=
  match s.document.outcome e with
  | .ok o => .ok (s.commit o)
  | .error cause => .error (.address cause)

/-- Inserts a text at the cursor. -/
def type (text : String) : Except EditError (Nat × Session) := s.edit (.insert s.cursor text)

/-- Moves the cursor to a position, or as near to it as the document allows. -/
def setCursor (p : Position) : Except EditError Session :=
  match s.document.clampPosition p with
  | .ok cursor => .ok { s with cursor := cursor }
  | .error cause => .error (.address cause)

/-! ### Moving in the history -/

/-- Where the cursor goes in the document of a checkpoint. -/
def cursorFor (c : Checkpoint) : Position :=
  match c.cursor with
  | some p => p
  | none => if c.node.isSome then s.cursor else .origin

/-- The session with the state of a checkpoint, except for its history. -/
def restore (c : Checkpoint) : Session :=
  { s with
    document := c.snapshot
    cursor := (c.snapshot.clampPosition (s.cursorFor c)).toOption.getD .origin }

/-- The session after a move in its history. -/
def follow : Move × UndoTree → Move × Session
  | (.moved c, history) => (.moved c, { s.restore c with history := history })
  | (m, history) => (m, { s with history := history })

/-- Goes back by one revision. -/
def undo : Except EditError (Move × Session) :=
  match s.history.undo with
  | .ok r => .ok (s.follow r)
  | .error cause => .error (.history cause)

/-- Goes on to the oldest revision below. -/
def redo : Except EditError (Move × Session) :=
  match s.history.redo with
  | .ok r => .ok (s.follow r)
  | .error cause => .error (.history cause)

/-- Goes to any revision. -/
def goto (id : Nat) : Except EditError Session :=
  match s.history.goto id with
  | .ok (c, history) => .ok { s.restore c with history := history }
  | .error cause => .error (.history cause)

/-- Starts again with the content of a file. The history is dropped; its mode stays. -/
def reload (content : String) : Session :=
  let d := Document.ofFileContent content
  ⟨d, s.history.clear d, .origin⟩

/-! ### Calls -/

/-- Something that can be done to a session, or asked of it. -/
inductive Call
  /-- Edit the document. -/
  | edit (e : Document.Edit)
  /-- Insert a text at the cursor. -/
  | type (text : String)
  /-- Move the cursor. -/
  | setCursor (p : Position)
  /-- Go back by one revision. -/
  | undo
  /-- Go on by one revision. -/
  | redo
  /-- Go to a revision. -/
  | goto (id : Nat)
  /-- Start again with the content of a file. -/
  | reload (content : String)
  /-- Ask something about the document. -/
  | ask (q : Document.Query)
  /-- Do something to the history behind the back of the session. -/
  | history (c : UndoTree.Call)
deriving DecidableEq

/-- What a call answers. -/
inductive Answer
  /-- The id of a recorded revision. -/
  | edited (id : Nat)
  /-- The outcome of an undo or a redo. -/
  | moved (m : Move)
  /-- Nothing to tell. -/
  | done
  /-- What was asked about the document. -/
  | asked (r : Except AddressError Document.Reply)
  /-- What the history answered. -/
  | history (a : UndoTree.Answer)
  /-- The call failed and changed nothing. -/
  | failed (e : EditError)

/-- An answer to a call and the session after it; a call that fails changes nothing. -/
def settle {α : Type} (f : α → Answer × Session) : Except EditError α → Answer × Session
  | .ok a => f a
  | .error e => (.failed e, s)

/-- Carries out a call. -/
def apply : Call → Answer × Session
  | .edit e => s.settle (fun r ↦ (.edited r.1, r.2)) (s.edit e)
  | .type text => s.settle (fun r ↦ (.edited r.1, r.2)) (s.type text)
  | .setCursor p => s.settle (fun s' ↦ (.done, s')) (s.setCursor p)
  | .undo => s.settle (fun r ↦ (.moved r.1, r.2)) s.undo
  | .redo => s.settle (fun r ↦ (.moved r.1, r.2)) s.redo
  | .goto id => s.settle (fun s' ↦ (.done, s')) (s.goto id)
  | .reload content => (.done, s.reload content)
  | .ask q => (.asked (s.document.ask q), s)
  | .history c =>
    let (a, history) := s.history.apply c
    (.history a, { s with history := history })

end Session

end TextHistory
