import TextHistory.FileTree
import TextHistory.Settings.Json

/-!
# Loading settings

Settings are loaded from a file, by its path as it is, by a path to be expanded, or from where
they are kept if there is anything there.
-/

namespace TextHistory.Settings

variable (files : FileTree)

/-- Loads the settings in the file at a path. -/
def load (path : String) : Except SettingsError Settings :=
  match files.readText path with
  | .error e => .error (.io e.message)
  | .ok text => ofText path text

/-- Loads the settings in the file at a path to be expanded. -/
def loadFrom (env : Environment) (path : String) : Except SettingsError Settings := do
  let path ← expandPath env path
  load files path

/-- The path that settings are loaded from if none is named. -/
def kept? (env : Environment) : Option String := (defaultPath? env).filter files.hasPath

/-- Loads the settings from where they are kept; if there is nothing, they are the default. -/
def loadOrDefault (env : Environment) : Except SettingsError Settings :=
  match kept? files env with
  | some path => load files path
  | none => .ok default

end TextHistory.Settings
