import TextHistory.Log.Event
import TextHistory.Settings.Load
import TextHistory.Workspace

/-!
# Traces

What each operation reports. The operations themselves stay free of reports: an operation and its
trace are two functions of the same arguments, and the trace looks at what the operation comes to.
An operation that fails reports the parts of it that were carried out.
-/

namespace TextHistory

namespace GapBuffer

/-- What inserting a text reports: that the buffer grew, if it did. -/
def insertTrace (b : GapBuffer) (offset : Nat) (text : String) : List Event :=
  let moved := b.moveGap offset
  if b.length < offset then []
  else if moved.gapSize < text.length then
    [.grew moved.capacity (grownCapacity moved.capacity text.length) text.length]
  else []

end GapBuffer

namespace Document

variable (d : Document)

/-- What inserting a text reports. -/
def insertTrace (p : Position) (text : String) : List Event :=
  match d.offsetAt p with
  | .error _ => []
  | .ok offset =>
    d.buffer.insertTrace offset text ++
      if (d.buffer.insert offset text).toBool then [.inserted text.length p offset] else []

/-- What deleting a span reports. -/
def deleteTrace (s : Span) : List Event :=
  match d.offsetsAt s with
  | .error _ => []
  | .ok (start, stop) =>
    if (d.buffer.delete start (stop - start)).toBool then [.deleted s start stop] else []

/-- What an edit reports. A replacement reports its deletion, then its insertion. -/
def editTrace : Edit → List Event
  | .insert p text => d.insertTrace p text
  | .delete s => d.deleteTrace s
  | .replace s text =>
    d.deleteTrace s ++
      match d.delete s with
      | .ok rest => rest.insertTrace s.start text
      | .error _ => []

/-- What taking a text from a file reports. -/
def fileTrace (content : String) : List Event :=
  if hasReturns content then [.normalized] else []

end Document

namespace UndoTree

variable (t : UndoTree)

/-- What recording a revision reports: that the current revision is missing, if it is; that
revisions were dropped, if any were; and the revision with the place it was recorded below. -/
def pushTrace (r : Revision) : List Event :=
  (match t.current with
    | some id => if t.nodes.contains id then [] else [.currentMissing id]
    | none => []) ++
  (if 0 < t.prepare.2 then [.discarded t.prepare.2] else []) ++
  [.pushed t.nextId r.description t.attachPoint]

/-- What going back reports, if it moves. -/
def undoTrace : List Event :=
  match t.current, t.undo with
  | some id, .ok (.moved _, t') => [.undone id t'.current]
  | _, _ => []

/-- What going on reports, if it moves. -/
def redoTrace : List Event :=
  match t.redo with
  | .ok (.moved _, t') => t'.current.toList.map (.redone t.current)
  | _ => []

/-- What going to a revision reports, if it is there. -/
def gotoTrace (id : Nat) : List Event :=
  if (t.goto id).toBool then [.went t.current id] else []

/-- What a call reports. -/
def callTrace : Call → List Event
  | .push r => t.pushTrace r
  | .undo => t.undoTrace
  | .redo => t.redoTrace
  | .goto id => t.gotoTrace id
  | .setMode _ => []
  | .clear _ => [.cleared t.size]

end UndoTree

namespace Session

variable (s : Session)

/-- What an edit reports: the edit of the document, and the revision if there is one. -/
def editTrace (e : Document.Edit) : List Event :=
  s.document.editTrace e ++
    match s.document.outcome e with
    | .ok o =>
      s.history.pushTrace
        ⟨o.description, o.document, some o.cursor.line, some o.cursor.column⟩
    | .error _ => []

/-- What a call reports. -/
def callTrace : Call → List Event
  | .edit e => s.editTrace e
  | .type text => s.editTrace (.insert s.cursor text)
  | .setCursor _ => []
  | .undo => s.history.undoTrace
  | .redo => s.history.redoTrace
  | .goto id => s.history.gotoTrace id
  | .reload content => Document.fileTrace content ++ [.cleared s.history.size]
  | .ask _ => []
  | .history c => s.history.callTrace c

end Session

namespace Workspace

variable (w : Workspace)

/-- What a call reports. -/
def callTrace : Call → List Event
  | .create => [.opened w.nextId]
  | .openContent content => Document.fileTrace content ++ [.opened w.nextId]
  | .switchTo _ => []
  | .close id => if (w.close id).toBool then [.closed id] else []
  | .onSession id? c =>
    match (w.target id?).bind w.session? with
    | some s => s.callTrace c
    | none => []

end Workspace

namespace Settings

variable (files : FileTree)

/-- What loading settings from a path reports. -/
def loadTrace (path : String) : List Event :=
  if (load files path).toBool then [.loaded path] else []

/-- What loading settings from a path to be expanded reports. -/
def loadFromTrace (env : Environment) (path : String) : List Event :=
  match expandPath env path with
  | .ok path => loadTrace files path
  | .error _ => []

/-- What loading settings from where they are kept reports. -/
def loadOrDefaultTrace (env : Environment) : List Event :=
  match kept? files env with
  | some path => loadTrace files path
  | none => []

end Settings

end TextHistory
