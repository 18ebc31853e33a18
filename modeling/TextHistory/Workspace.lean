import TextHistory.Session

/-!
# Workspaces

Several sessions side by side, all started with the same settings. Each has an id; ids are handed
out in ascending order and are never handed out twice. One of the open sessions is the current
one, unless none is open: the first one opened becomes current, and when the current one is closed
the open one with the smallest id does.
-/

namespace TextHistory

/-- Several sessions side by side. -/
structure Workspace where
  /-- The open sessions. -/
  sessions : IdMap Session
  /-- The current session. -/
  current : Option Nat
  /-- The id of the next session. -/
  nextId : Nat
  /-- What every session starts with. -/
  settings : Settings

namespace Workspace

/-- A workspace without sessions. -/
def ofSettings (settings : Settings) : Workspace := ⟨∅, none, 0, settings⟩

variable (w : Workspace)

/-! ### Reading -/

/-- The ids of the open sessions, ascending. -/
def ids : List Nat := w.sessions.ids

/-- The number of open sessions. -/
def size : Nat := w.sessions.size

/-- Whether no session is open. -/
def isEmpty : Bool := w.sessions.isEmpty

/-- The open session of an id. -/
def session? (id : Nat) : Option Session := w.sessions.get? id

/-- The current session. -/
def currentSession? : Option Session := w.current.bind w.session?

/-! ### Opening, switching and closing -/

/-- Opens a session that starts with the content of a file. Gives its id. -/
def openContent (content : String) : Nat × Workspace :=
  (w.nextId,
    { w with
      sessions := w.sessions.insert w.nextId (.ofContent content w.settings)
      current := some (w.current.getD w.nextId)
      nextId := w.nextId + 1 })

/-- Opens a session that starts with an empty text. Gives its id. -/
def create : Nat × Workspace := w.openContent ""

/-- Makes a session the current one. -/
def switchTo (id : Nat) : Except EditError Workspace :=
  if w.sessions.contains id then .ok { w with current := some id }
  else .error (.sessionNotFound id)

/-- Closes a session. Gives it as it was. -/
def close (id : Nat) : Except EditError (Session × Workspace) :=
  match w.session? id with
  | none => .error (.sessionNotFound id)
  | some s =>
    let sessions := w.sessions.erase id
    let current := if w.current = some id then sessions.ids.head? else w.current
    .ok (s, { w with sessions := sessions, current := current })

/-! ### Working on a session -/

/-- The id of the session that a step is meant for: a given one or the current one. -/
def target (id? : Option Nat) : Option Nat := id?.or w.current

/-- Carries out a call on a session, if it is open. -/
def onSession (id? : Option Nat) (c : Session.Call) : Option Session.Answer × Workspace :=
  match w.target id? with
  | none => (none, w)
  | some id =>
    match w.session? id with
    | none => (none, w)
    | some s =>
      let (a, s') := s.apply c
      (some a, { w with sessions := w.sessions.insert id s' })

/-! ### Calls -/

/-- Something that can be done to a workspace. -/
inductive Call
  /-- Open a session with an empty text. -/
  | create
  /-- Open a session with the content of a file. -/
  | openContent (content : String)
  /-- Make a session the current one. -/
  | switchTo (id : Nat)
  /-- Close a session. -/
  | close (id : Nat)
  /-- Carry out a call on a session, or on the current one if none is named. -/
  | onSession (id? : Option Nat) (c : Session.Call)
deriving DecidableEq

/-- What a call answers. -/
inductive Answer
  /-- The id of an opened session. -/
  | opened (id : Nat)
  /-- Nothing to tell. -/
  | done
  /-- A session that was closed. -/
  | closed (s : Session)
  /-- What a session answered, if it is open. -/
  | answered (a : Option Session.Answer)
  /-- The call failed and changed nothing. -/
  | failed (e : EditError)

/-- Carries out a call. -/
def apply : Call → Answer × Workspace
  | .create => (.opened w.create.1, w.create.2)
  | .openContent content => (.opened (w.openContent content).1, (w.openContent content).2)
  | .switchTo id =>
    match w.switchTo id with
    | .ok w' => (.done, w')
    | .error e => (.failed e, w)
  | .close id =>
    match w.close id with
    | .ok (s, w') => (.closed s, w')
    | .error e => (.failed e, w)
  | .onSession id? c => (.answered (w.onSession id? c).1, (w.onSession id? c).2)

end Workspace

end TextHistory
