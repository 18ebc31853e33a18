import TextHistory.FileTree
import TextHistory.Log.Event
import TextHistory.Settings

/-!
# Loggers

A logger keeps the records of its level and above, and may write them to a file, a line each,
behind what the file holds. A file that cannot be written to is not an error: the log goes on
without it.

There is one logger for the whole program. It is installed once; installing another is refused.
-/

namespace TextHistory

/-- How much a record matters to the one who makes it. -/
inductive Severity
  | trace | debug | info | warn | error
deriving DecidableEq

/-- The level of a log that a severity belongs to. -/
def Severity.level : Severity → LogLevel
  | trace | debug => .debug
  | info => .info
  | warn => .warning
  | error => .error

/-- The severity that a logger of a level asks for: the least one of that level that is not left
to tracing. -/
def LogLevel.severity : LogLevel → Severity
  | debug => .debug
  | info => .info
  | warning => .warn
  | error => .error

/-- A logger. -/
structure Logger where
  /-- The least level that it keeps. -/
  level : LogLevel
  /-- The file that it writes to. -/
  file : Option String
deriving DecidableEq

namespace Logger

/-- A logger without a file. -/
def ofLevel (level : LogLevel) : Logger := ⟨level, none⟩

/-- A logger that keeps everything. -/
def development : Logger := ofLevel .debug

/-- The logger that settings ask for. -/
def ofSettings (env : Environment) (s : Settings) : Logger := ⟨s.logLevel, s.resolvedLogFile env⟩

variable (l : Logger)

/-- The logger at another level. -/
def withLevel (level : LogLevel) : Logger := { l with level := level }

/-- The logger with a file to write to. -/
def withFile (path : String) : Logger := { l with file := some path }

/-- Whether the logger keeps entries of a level. -/
def keeps (level : LogLevel) : Bool := l.level ≤ level

/-- The files after an entry was logged. -/
def log (files : FileTree) (e : LogEntry) : FileTree :=
  match l.file with
  | some path => if l.keeps e.level then files.append path (e.line ++ "\n") else files
  | none => files

/-- Installs a logger for the whole program, unless there is one. -/
def install (installed : Option Logger) : Except String Logger :=
  match installed with
  | none => .ok l
  | some _ =>
    .error "attempted to set a logger after the logging system was already initialized"

end Logger

end TextHistory
