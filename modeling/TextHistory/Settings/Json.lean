import TextHistory.Json.Decoder
import TextHistory.Json.Value
import TextHistory.Position.Json
import TextHistory.Settings

/-!
# Settings as JSON

Settings are written as an object of four members. Reading is lenient: members may be left out,
come in any order and stand among others of unknown names; what is left out has its default.
Settings that were read are checked before they are given out.
-/

namespace TextHistory

open Json

namespace HistoryMode

/-- The name of a mode. -/
def name : HistoryMode → String
  | branching => "branching"
  | linear => "linear"

/-- The value that a mode is written as. -/
def toJson (m : HistoryMode) : Value := .string m.name

/-- The modes by name. -/
def byName : List (String × HistoryMode) := [branching, linear].map fun m ↦ (m.name, m)

/-- The decoder of modes. -/
def decoder : Decoder HistoryMode := variant byName

end HistoryMode

namespace LogLevel

/-- The name of a level. -/
def name : LogLevel → String
  | debug => "debug"
  | info => "info"
  | warning => "warning"
  | error => "error"

/-- The value that a level is written as. -/
def toJson (l : LogLevel) : Value := .string l.name

/-- The levels by name. -/
def byName : List (String × LogLevel) :=
  [debug, info, warning, error].map fun l ↦ (l.name, l)

/-- The decoder of levels. -/
def decoder : Decoder LogLevel := variant byName

end LogLevel

namespace Settings

/-- The value that settings are written as. -/
def toJson (s : Settings) : Value :=
  .object [("gap_capacity", .number s.gapCapacity), ("history_mode", s.historyMode.toJson),
    ("log_level", s.logLevel.toJson), ("log_file", .ofOption .string s.logFile)]

/-- The settings that a text gives. -/
structure Given where
  /-- The capacity, if given. -/
  gapCapacity : Option Nat
  /-- The mode, if given. -/
  historyMode : Option HistoryMode
  /-- The level, if given. -/
  logLevel : Option LogLevel
  /-- The file, if given; it may be given as missing. -/
  logFile : Option (Option String)

namespace Given

/-- Nothing given. -/
def nothing : Given := ⟨none, none, none, none⟩

variable (g : Given)

/-- The settings, with defaults for what was not given. -/
def settings : Settings :=
  ⟨g.gapCapacity.getD default.gapCapacity, g.historyMode.getD default.historyMode,
    g.logLevel.getD default.logLevel, g.logFile.getD default.logFile⟩

/-- Reads a capacity. -/
def readGapCapacity : Decoder Given := natural.map fun n ↦ { g with gapCapacity := some n }

/-- Reads a mode. -/
def readHistoryMode : Decoder Given :=
  HistoryMode.decoder.map fun m ↦ { g with historyMode := some m }

/-- Reads a level. -/
def readLogLevel : Decoder Given := LogLevel.decoder.map fun l ↦ { g with logLevel := some l }

/-- Reads a file. -/
def readLogFile : Decoder Given := optionalString.map fun f ↦ { g with logFile := some f }

end Given

/-- How settings are written. -/
def format : RecordFormat Given Settings where
  expected := "struct CoreConfig"
  start := .nothing
  member g name :=
    if name = "gap_capacity" then onlyOnce g.gapCapacity name g.readGapCapacity
    else if name = "history_mode" then onlyOnce g.historyMode name g.readHistoryMode
    else if name = "log_level" then onlyOnce g.logLevel name g.readLogLevel
    else if name = "log_file" then onlyOnce g.logFile name g.readLogFile
    else .ok (ignored g)
  items := [Given.readGapCapacity, Given.readHistoryMode, Given.readLogLevel, Given.readLogFile]
  ofObject g := .ok g.settings
  ofArray g _ := .ok g.settings

/-- Reads settings from the text of the file at `path`. -/
def ofText (path text : String) : Except SettingsError Settings :=
  match format.decoder.decode text.toList with
  | .error f => .error (.invalidFile path (f.message text.toList))
  | .ok s => s.validate

/-- Reads settings from a text that is in no file. -/
def ofJson (text : String) : Except SettingsError Settings := ofText "<inline>" text

end Settings

end TextHistory
