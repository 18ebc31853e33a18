import TextHistory.Log.Level
import TextHistory.PathExpansion
import TextHistory.UndoTree

/-!
# Settings

What can be set about sessions and their log, with a default for everything. The one value that
is refused is a capacity of nothing.
-/

namespace TextHistory

/-- What can be set. -/
structure Settings where
  /-- The least capacity of a buffer that a session starts with. -/
  gapCapacity : Nat
  /-- The mode of the history of a session. -/
  historyMode : HistoryMode
  /-- The level of the log. -/
  logLevel : LogLevel
  /-- The file that the log is written to, as a path to be expanded. -/
  logFile : Option String
deriving DecidableEq

namespace Settings

/-- The settings where nothing is set. -/
def default : Settings := ⟨defaultCapacity, .branching, .info, none⟩

instance : Inhabited Settings := ⟨default⟩

variable (s : Settings)

/-- Refuses values that cannot be used. -/
def validate : Except SettingsError Settings :=
  if s.gapCapacity = 0 then .error (.invalidValue "gap_capacity" (toString s.gapCapacity))
  else .ok s

/-- A path from the settings with its variables and its tilde expanded. -/
def expandPath (env : Environment) (path : String) : Except SettingsError String :=
  match TextHistory.expandPath env path with
  | .ok p => .ok p
  | .error name =>
    .error (.invalidValue "path"
      s!"{path}: error looking key '{name}' up: environment variable not found")

/-- The file that the log is written to. A path that cannot be expanded is taken as it is. -/
def resolvedLogFile (env : Environment) : Option String :=
  s.logFile.map fun path ↦ (expandPath env path).toOption.getD path

/-- Where settings are kept: under the directory for settings if that is set to an absolute path,
and under the home directory otherwise. -/
def defaultPath? (env : Environment) : Option String :=
  let dir? :=
    match env.get? "XDG_CONFIG_HOME" with
    | some dir =>
      if dir.toList.head? == some '/' then some dir
      else (env.get? "HOME").map (joinPath · ".config")
    | none => (env.get? "HOME").map (joinPath · ".config")
  dir?.map fun dir ↦ joinPath (joinPath dir "edittree") "config.json"

end Settings

end TextHistory
