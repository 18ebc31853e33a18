import TextHistory.DisplayWidth
import TextHistory.Document
import TextHistory.Words

/-!
# Questions about a document

Everything that can be asked about a document without changing it, as data: a `Query` and the
`Reply` to it. None of the replies depends on the capacity of the buffer or on where its gap is.
-/

namespace TextHistory

namespace Document

variable (d : Document)

/-- The numbers of lines, characters and words of a text. -/
structure Stats where
  /-- The number of lines. -/
  lines : Nat
  /-- The number of characters. -/
  characters : Nat
  /-- The number of words. -/
  words : Nat
deriving DecidableEq

/-- The numbers of lines, characters and words. -/
def stats : Stats := ⟨d.lineCount, d.content.length, (words d.content.toList).length⟩

/-- The number of columns that a line takes. -/
def lineDisplayWidth (line : Nat) : Except AddressError Nat := displayWidth <$> d.line line

/-- Something that can be asked about a document. -/
inductive Query
  /-- The text. -/
  | content
  /-- All lines. -/
  | lines
  /-- One line. -/
  | line (line : Nat)
  /-- The length of a line. -/
  | lineLength (line : Nat)
  /-- The display width of a line. -/
  | lineDisplayWidth (line : Nat)
  /-- The display widths of all lines. -/
  | displayWidths
  /-- The position just past the last character. -/
  | endPosition
  /-- The offset of a position. -/
  | offsetAt (p : Position)
  /-- The position of an offset. -/
  | positionAt (offset : Nat)
  /-- The text of a span. -/
  | textIn (s : Span)
  /-- The number of characters. -/
  | length
  /-- The numbers of lines, characters and words. -/
  | stats
  /-- Whether there are no characters. -/
  | isEmpty
deriving DecidableEq

/-- What can be answered. -/
inductive Reply
  /-- A text. -/
  | text (s : String)
  /-- A text for each line. -/
  | texts (ss : List String)
  /-- A number. -/
  | number (n : Nat)
  /-- A number for each line. -/
  | numbers (ns : List Nat)
  /-- A position. -/
  | position (p : Position)
  /-- The numbers of lines, characters and words. -/
  | stats (s : Stats)
  /-- Yes or no. -/
  | flag (b : Bool)
deriving DecidableEq

/-- The reply to a query. -/
def ask : Query → Except AddressError Reply
  | .content => .ok (.text d.content)
  | .lines => .ok (.texts d.lines.toList)
  | .line line => .text <$> d.line line
  | .lineLength line => .number <$> d.lineLength line
  | .lineDisplayWidth line => .number <$> d.lineDisplayWidth line
  | .displayWidths => .ok (.numbers (d.lines.toList.map displayWidth))
  | .endPosition => .ok (.position d.endPosition)
  | .offsetAt p => .number <$> d.offsetAt p
  | .positionAt offset => .position <$> d.positionAt offset
  | .textIn s => .text <$> d.textIn s
  | .length => .ok (.number d.length)
  | .stats => .ok (.stats d.stats)
  | .isEmpty => .ok (.flag d.isEmpty)

end Document

end TextHistory
