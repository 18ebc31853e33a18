import TextHistory.Log.Level
import TextHistory.Position
import TextHistory.Quoted

/-!
# Events

What the library has to report while it works, as data, and the log line of each event. A line
names its level, the part of the library that reports, and what happened.
-/

namespace TextHistory

/-- A line of a log, in its parts. -/
structure LogEntry where
  /-- How much it matters. -/
  level : LogLevel
  /-- Who reports. -/
  source : String
  /-- What happened. -/
  message : String
deriving DecidableEq

/-- The line. -/
def LogEntry.line (e : LogEntry) : String := s!"{e.level.tag} [{e.source}]: {e.message}"

/-- Something to report. -/
inductive Event
  /-- A gap buffer grew. -/
  | grew (old new needed : Nat)
  /-- Characters were inserted into a document. -/
  | inserted (count : Nat) (p : Position) (offset : Nat)
  /-- A span was deleted from a document. -/
  | deleted (s : Span) (start stop : Nat)
  /-- A text came with carriage returns. -/
  | normalized
  /-- A history was dropped. -/
  | cleared (count : Nat)
  /-- A history has lost its current revision. -/
  | currentMissing (id : Nat)
  /-- A linear history dropped what was left behind. -/
  | discarded (count : Nat)
  /-- A revision was recorded. -/
  | pushed (id : Nat) (description : String) (parent : Option Nat)
  /-- A history moved to the parent. -/
  | undone (id : Nat) (parent : Option Nat)
  /-- A history moved to the oldest child. -/
  | redone (current : Option Nat) (id : Nat)
  /-- A history moved to a given revision. -/
  | went (current : Option Nat) (id : Nat)
  /-- A session was opened. -/
  | opened (id : Nat)
  /-- A session was closed. -/
  | closed (id : Nat)
  /-- Settings were loaded. -/
  | loaded (path : String)
deriving DecidableEq

namespace Event

/-- A place of an undo tree, as it is shown in a log. -/
def showPlace : Option Nat → String
  | none => "None"
  | some id => s!"Some({id})"

/-- How much an event matters. -/
def level : Event → LogLevel
  | normalized => .warning
  | currentMissing _ => .warning
  | _ => .debug

/-- The part of the library that reports an event. -/
def source : Event → String
  | grew .. => "edittree::buffer::gap_store"
  | inserted .. | deleted .. | normalized => "edittree::buffer::text_buffer"
  | cleared _ | currentMissing _ | discarded _ | pushed .. | undone .. | redone .. | went .. =>
    "edittree::history::tree"
  | opened _ | closed _ => "edittree::session"
  | loaded _ => "edittree::config"

/-- What happened. -/
def message : Event → String
  | grew old new needed => s!"gap store grew from {old} to {new} slots (needed {needed})"
  | inserted count p offset => s!"insert {count} chars at {p} (offset {offset})"
  | deleted s start stop => s!"delete {s} (offsets {start}..{stop})"
  | normalized => "Non-LF line endings detected, normalizing to LF"
  | cleared count => s!"history cleared ({count} nodes dropped)"
  | currentMissing id => s!"current history node {id} is missing; attaching new edit to root"
  | discarded count => s!"linear history discarded {count} redo nodes"
  | pushed id description parent =>
    s!"history push {id} ({quoted description}) under {showPlace parent}"
  | undone id parent => s!"history undo {id} -> {showPlace parent}"
  | redone current id => s!"history redo {showPlace current} -> {id}"
  | went current id => s!"history goto {showPlace current} -> {id}"
  | opened id => s!"session {id} opened"
  | closed id => s!"session {id} closed"
  | loaded path => s!"configuration loaded from {path}"

/-- The log entry of an event. -/
def entry (e : Event) : LogEntry := ⟨e.level, e.source, e.message⟩

end Event

/-- The lines of the events that matter at a level. -/
def logLines (level : LogLevel) (events : List Event) : List String :=
  (events.map Event.entry).filterMap fun e ↦ if level ≤ e.level then some e.line else none

end TextHistory
