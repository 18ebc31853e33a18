/-!
# What can go wrong

Each layer has an inductive type of causes, and every cause carries the numbers or texts that
explain it. The wording lives in one function a type, `message`; a caller that has to decide
something looks at the cause.

* `AddressError`: a place that a text does not have.
* `HistoryError`: a revision that an undo tree does not have.
* `SettingsError`: settings that cannot be read or used.
* `EditError`: any of these, met while working on a session.

The last part is for whoever shows errors to a person: a coarse `ErrorKind`, and a
`StatusMessage` with a severity. Failing to address something is an ordinary event and only a
warning; damage to the history is an error.
-/

namespace TextHistory

/-- A place that a text does not have. -/
inductive AddressError
  /-- The offset lies past what a text of this length allows. -/
  | outOfBounds (offset length : Nat)
  /-- The text has no such line. -/
  | lineOutOfRange (line lineCount : Nat)
  /-- The first offset of a stretch is after its second. -/
  | invertedRange (start stop : Nat)
deriving DecidableEq

/-- The wording of an address error. -/
def AddressError.message : AddressError → String
  | outOfBounds offset length => s!"Position {offset} is out of bounds (length {length})"
  | lineOutOfRange line lineCount => s!"Line {line} is out of range (line count {lineCount})"
  | invertedRange start stop => s!"Range start {start} is after range end {stop}"

/-- A revision that an undo tree does not have. -/
inductive HistoryError
  /-- No revision of this id was asked for by mistake. -/
  | nodeNotFound (id : Nat)
  /-- The tree itself names a revision that it does not hold. -/
  | invalidState (reason : String)
deriving DecidableEq

/-- The wording of a history error. -/
def HistoryError.message : HistoryError → String
  | nodeNotFound id => s!"History node not found: {id}"
  | invalidState reason => s!"Invalid history state: {reason}"

/-- Settings that cannot be read or used. -/
inductive SettingsError
  /-- The text at `path` is not a settings text. -/
  | invalidFile (path reason : String)
  /-- The value given for `key` cannot be used. -/
  | invalidValue (key value : String)
  /-- The file could not be read. -/
  | io (reason : String)
deriving DecidableEq

/-- The wording of a settings error. -/
def SettingsError.message : SettingsError → String
  | invalidFile path reason => s!"Invalid configuration file: {path}: {reason}"
  | invalidValue key value => s!"Invalid value for {key}: {value}"
  | io reason => s!"IO error: {reason}"

/-- Anything that can go wrong while working on a session. -/
inductive EditError
  /-- A text was asked for a place it does not have. -/
  | address (cause : AddressError)
  /-- An undo tree was asked for a revision it does not have. -/
  | history (cause : HistoryError)
  /-- The settings cannot be read or used. -/
  | settings (cause : SettingsError)
  /-- No session of this id is open. -/
  | sessionNotFound (id : Nat)
  /-- A value could not be written as, or read from, a JSON text. -/
  | serialization (reason : String)
deriving DecidableEq

/-- How coarse a cause looks from far away. -/
inductive ErrorKind
  | outOfBounds | nodeNotFound | sessionNotFound | invalidState | config
deriving DecidableEq

/-- How much a status message matters. -/
inductive StatusLevel
  | info | warning | error
deriving DecidableEq

/-- A line for a person to read, and how much it matters. -/
structure StatusMessage where
  /-- What is shown. -/
  message : String
  /-- How much it matters. -/
  level : StatusLevel
deriving DecidableEq

namespace EditError

/-- The wording of an edit error: the layer it comes from, then that layer's wording. -/
def message : EditError → String
  | address cause => s!"Buffer operation failed: {cause.message}"
  | history cause => s!"History operation failed: {cause.message}"
  | settings cause => s!"Configuration error: {cause.message}"
  | sessionNotFound id => s!"Session not found: {id}"
  | serialization reason => s!"Serialization failed: {reason}"

/-- The coarse kind. A failed serialization counts as damage, since no caller can cause it. -/
def kind : EditError → ErrorKind
  | address _ => .outOfBounds
  | history (.nodeNotFound _) => .nodeNotFound
  | history (.invalidState _) => .invalidState
  | settings _ => .config
  | sessionNotFound _ => .sessionNotFound
  | serialization _ => .invalidState

/-- The status line of an error: short words and a warning for what a person can cause, the
full wording and an error for the rest. -/
def status : EditError → StatusMessage
  | address (.outOfBounds offset length) =>
    ⟨s!"Position {offset} is outside the buffer (length {length})", .warning⟩
  | address (.lineOutOfRange line lineCount) =>
    ⟨s!"No line {line} (buffer has {lineCount} lines)", .warning⟩
  | address (.invertedRange start stop) => ⟨s!"Invalid range: {start} is after {stop}", .warning⟩
  | history (.nodeNotFound id) => ⟨s!"No history node {id}", .warning⟩
  | history (.invalidState reason) => ⟨s!"History is corrupted: {reason}", .error⟩
  | sessionNotFound id => ⟨s!"No buffer session {id}", .warning⟩
  | e@(settings _) => ⟨s!"Error: {e.message}", .error⟩
  | e@(serialization _) => ⟨s!"Error: {e.message}", .error⟩

end EditError

/-! ### Computations that can fail -/

/-- A computation in two steps goes through if both steps do. -/
theorem bind_eq_ok_iff {ε α β : Type} {x : Except ε α} {f : α → Except ε β} {b : β} :
    x >>= f = .ok b ↔ ∃ a, x = .ok a ∧ f a = .ok b := by
  cases x <;> simp [bind, Except.bind]

end TextHistory
