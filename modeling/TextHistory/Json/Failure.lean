import TextHistory.Quoted

/-!
# Why and where a JSON text is refused

A reader that gives up says why, and what it had not read by then: the unread text and how many
bytes of it had been looked at. From these and the whole text follows the place, a line and a
column, that the message ends in. Lines are counted from one. Columns are counted in bytes of the
text in UTF-8, since that is how files are addressed; so a place can lie inside a character.
-/

namespace TextHistory.Json

/-- What was found in place of a value of another kind. -/
inductive Found
  /-- The literal `null`. -/
  | null
  /-- A truth value. -/
  | boolean (b : Bool)
  /-- A whole number. -/
  | integer (n : Int)
  /-- A number that is not a whole number in machine range, as it is shown. -/
  | floating (shown : String)
  /-- A string. -/
  | string (s : String)
  /-- The beginning of an array. -/
  | sequence
  /-- The beginning of an object. -/
  | map
deriving DecidableEq

/-- How a found value is named. -/
def Found.describe : Found → String
  | null => "null"
  | boolean b => s!"boolean `{b}`"
  | integer n => s!"integer `{n}`"
  | floating shown => s!"floating point `{shown}`"
  | string s => s!"string {quoted s}"
  | sequence => "sequence"
  | map => "map"

/-- Why a text is refused. -/
inductive Cause
  /-- The text ends where a value is due. -/
  | endInValue
  /-- The text ends inside an object. -/
  | endInObject
  /-- The text ends inside an array. -/
  | endInList
  /-- The text ends inside a string. -/
  | endInString
  /-- No value begins here. -/
  | expectedValue
  /-- A literal name is misspelt. -/
  | expectedIdent
  /-- No colon after a member's name. -/
  | expectedColon
  /-- Neither a further item nor the end of an array. -/
  | expectedCommaOrBracket
  /-- Neither a further member nor the end of an object. -/
  | expectedCommaOrBrace
  /-- A member's name is not a string. -/
  | keyMustBeString
  /-- A comma before the end of an array or object. -/
  | trailingComma
  /-- Something after the end. -/
  | trailingCharacters
  /-- A number is misspelt. -/
  | invalidNumber
  /-- A number is too large even for floating point. -/
  | numberOutOfRange
  /-- An escape is misspelt. -/
  | invalidEscape
  /-- Half of a surrogate pair. -/
  | loneSurrogate
  /-- The second half of a surrogate pair is not an escape. -/
  | unexpectedEndOfEscape
  /-- A control character inside a string. -/
  | controlCharacter
  /-- A value of another kind than the expected one. -/
  | wrongType (found : Found) (expected : String)
  /-- A value of the expected kind that is not allowed. -/
  | wrongValue (found : Found) (expected : String)
  /-- An array of another length than the expected one. -/
  | wrongLength (length : Nat) (expected : String)
  /-- A name that is none of the known ones. -/
  | unknownVariant (name : String) (known : List String)
  /-- A member that has to be there is not. -/
  | missingField (name : String)
  /-- A member that may be there once is there twice. -/
  | duplicateField (name : String)
deriving DecidableEq

namespace Cause

/-- The names that were expected: two with "or", more as a list. -/
def knownNames : List String → String
  | [a, b] => s!"expected `{a}` or `{b}`"
  | known => "expected one of " ++ ", ".intercalate (known.map fun n ↦ s!"`{n}`")

/-- The wording of a cause. -/
def message : Cause → String
  | endInValue => "EOF while parsing a value"
  | endInObject => "EOF while parsing an object"
  | endInList => "EOF while parsing a list"
  | endInString => "EOF while parsing a string"
  | expectedValue => "expected value"
  | expectedIdent => "expected ident"
  | expectedColon => "expected `:`"
  | expectedCommaOrBracket => "expected `,` or `]`"
  | expectedCommaOrBrace => "expected `,` or `\x7d`"
  | keyMustBeString => "key must be a string"
  | trailingComma => "trailing comma"
  | trailingCharacters => "trailing characters"
  | invalidNumber => "invalid number"
  | numberOutOfRange => "number out of range"
  | invalidEscape => "invalid escape"
  | loneSurrogate => "lone leading surrogate in hex escape"
  | unexpectedEndOfEscape => "unexpected end of hex escape"
  | controlCharacter => "control character (\\u0000-\\u001F) found while parsing a string"
  | wrongType found expected => s!"invalid type: {found.describe}, expected {expected}"
  | wrongValue found expected => s!"invalid value: {found.describe}, expected {expected}"
  | wrongLength length expected => s!"invalid length {length}, expected {expected}"
  | unknownVariant name known => s!"unknown variant `{name}`, {knownNames known}"
  | missingField name => s!"missing field `{name}`"
  | duplicateField name => s!"duplicate field `{name}`"

end Cause

/-- Why a text was refused, and where. -/
structure Failure where
  /-- Why. -/
  cause : Cause
  /-- The text that had not been read. -/
  unread : List Char
  /-- The number of bytes of it that had been looked at. -/
  ahead : Nat
deriving DecidableEq

/-- The number of bytes of a text in UTF-8. -/
def byteCount (cs : List Char) : Nat := cs.foldr (fun c n ↦ c.utf8Size + n) 0

/-- The line and the column that are reached after some bytes of a text, from a given line and
column on. -/
def locate : List Char → Nat → Nat → Nat → Nat × Nat
  | [], _, line, column => (line, column)
  | c :: cs, bytes, line, column =>
    if bytes < c.utf8Size then (line, column + bytes)
    else if c = '\n' then locate cs (bytes - 1) (line + 1) 0
    else locate cs (bytes - c.utf8Size) line (column + c.utf8Size)

namespace Failure

variable (f : Failure)

/-- The line and the column of a failure to read `text`. -/
def location (text : List Char) : Nat × Nat :=
  locate text (byteCount text - byteCount f.unread + f.ahead) 1 0

/-- The wording of a failure to read `text`. -/
def message (text : List Char) : String :=
  let (line, column) := f.location text
  s!"{f.cause.message} at line {line} column {column}"

end Failure

end TextHistory.Json
