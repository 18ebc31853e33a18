import TextHistory.GapBuffer
import TextHistory.Position

/-!
# Documents

A document is a text in a gap buffer together with two indices of its lines: the lines
themselves, and the offset at which each begins. Lines end at `'\n'`, so a text has one line
more than it has line ends, and even the empty text has a line.

The indices are a cache. `Document.ofBuffer` builds both in one scan of the text, every edit
goes through it, and nothing else makes documents; so the three parts always tell the same
story. That they do is what licenses the mixed reading below: the length of a line comes from
the offsets, its text from the lines, and comparing two documents looks at the lines alone.

## Addresses

A position is turned into an offset by clamping its column to the end of its line
(`Document.offsetAt`); only a missing line is an error. A span is turned into a pair of offsets
by doing so with both ends, and is rejected if they come out in the wrong order
(`Document.offsetsAt`).
-/

namespace TextHistory

/-- The state of a scan for lines: what was found before the current line, the current line so
far, and the offset reached. -/
structure LineScan where
  /-- The lines that have ended. -/
  lines : Array String
  /-- The offsets at which lines begin, the current one included. -/
  starts : Array Nat
  /-- The current line so far. -/
  current : String
  /-- The number of characters scanned. -/
  offset : Nat

namespace LineScan

/-- Before the first character. -/
def start : LineScan := ⟨#[], #[0], "", 0⟩

/-- Scans one character. -/
def step (s : LineScan) (c : Char) : LineScan :=
  if c = '\n' then ⟨s.lines.push s.current, s.starts.push (s.offset + 1), "", s.offset + 1⟩
  else { s with current := s.current.push c, offset := s.offset + 1 }

end LineScan

/-- A text with an index of its lines. -/
structure Document where
  /-- The text. -/
  buffer : GapBuffer
  /-- The lines, without their ends. -/
  lines : Array String
  /-- The offsets at which the lines begin. -/
  lineStarts : Array Nat
deriving DecidableEq

namespace Document

/-! ### Making a document -/

/-- The document over a buffer. -/
def ofBuffer (b : GapBuffer) : Document :=
  let s := b.toList.foldl LineScan.step .start
  ⟨b, s.lines.push s.current, s.starts⟩

/-- The document of a text, in a buffer of at least `capacity` slots. -/
def ofString (text : String) (capacity : Nat) : Document := ofBuffer (.ofString text capacity)

/-- The document of the empty text. -/
def empty : Document := ofBuffer (.empty defaultCapacity)

instance : Inhabited Document := ⟨empty⟩

variable (d : Document)

/-! ### Reading -/

/-- The text. -/
def content : String := d.buffer.text

/-- The number of characters. -/
def length : Nat := d.buffer.length

/-- Whether there are no characters. -/
def isEmpty : Bool := d.buffer.isEmpty

/-- The number of lines, at least one. -/
def lineCount : Nat := d.lines.size

/-- Documents compare by their lines. -/
instance : BEq Document := ⟨fun a b ↦ a.lines == b.lines⟩

/-- The error for a line that the document does not have. -/
def lineOutOfRange (line : Nat) : AddressError := .lineOutOfRange line d.lineCount

/-- The text of a line. -/
def line (line : Nat) : Except AddressError String :=
  match d.lines[line]? with
  | some text => .ok text
  | none => .error (d.lineOutOfRange line)

/-- The offset at which a line begins. -/
def lineStart (line : Nat) : Nat := d.lineStarts.getD line 0

/-- The length of a line that exists, from the offsets: up to the line end before the next
line, or up to the end of the text. -/
def lineExtent (line : Nat) : Nat :=
  match d.lineStarts[line + 1]? with
  | some next => next - d.lineStart line - 1
  | none => d.length - d.lineStart line

/-- The length of a line. -/
def lineLength (line : Nat) : Except AddressError Nat :=
  if line < d.lineCount then .ok (d.lineExtent line) else .error (d.lineOutOfRange line)

/-- The position just past the last character. -/
def endPosition : Position := ⟨d.lineCount - 1, d.lineExtent (d.lineCount - 1)⟩

/-! ### Addresses -/

/-- A column, moved back to the end of its line if it lies past it. -/
def clampColumn (p : Position) : Nat := min p.column (d.lineExtent p.line)

/-- The offset of a position, with its column clamped. -/
def offsetAt (p : Position) : Except AddressError Nat :=
  if p.line < d.lineCount then .ok (d.lineStart p.line + d.clampColumn p)
  else .error (d.lineOutOfRange p.line)

/-- The position of an offset: the last line that begins at or before it, and the rest of the
way as a column. -/
def positionAt (offset : Nat) : Except AddressError Position :=
  if d.length < offset then .error (d.buffer.outOfBounds offset)
  else
    let line := d.lineStarts.countP (· ≤ offset) - 1
    .ok ⟨line, offset - d.lineStart line⟩

/-- The offsets of the two ends of a span. -/
def offsetsAt (s : Span) : Except AddressError (Nat × Nat) := do
  let start ← d.offsetAt s.start
  let stop ← d.offsetAt s.stop
  if stop < start then .error (.invertedRange start stop) else .ok (start, stop)

/-- The text of a span. -/
def textIn (s : Span) : Except AddressError String := do
  let (start, stop) ← d.offsetsAt s
  d.buffer.substring start stop

/-- The position nearest to a wished one: on the last line if the line is missing, and with the
column clamped. -/
def clampPosition (p : Position) : Except AddressError Position := do
  let offset ← d.offsetAt ⟨min p.line (d.lineCount - 1), p.column⟩
  d.positionAt offset

/-! ### Editing -/

/-- The document with `text` inserted at a position. -/
def insert (p : Position) (text : String) : Except AddressError Document := do
  let offset ← d.offsetAt p
  let b ← d.buffer.insert offset text
  return ofBuffer b

/-- The document without the text of a span. -/
def delete (s : Span) : Except AddressError Document := do
  let (start, stop) ← d.offsetsAt s
  let b ← d.buffer.delete start (stop - start)
  return ofBuffer b

/-- The document with the text of a span deleted and `text` inserted where the span started.
The start is looked up again in what is left, so its column is clamped to the joined line. -/
def replace (s : Span) (text : String) : Except AddressError Document := do
  let rest ← d.delete s
  rest.insert s.start text

/-- An edit of a document. -/
inductive Edit
  /-- Insert a text at a position. -/
  | insert (p : Position) (text : String)
  /-- Delete a span. -/
  | delete (s : Span)
  /-- Replace a span by a text. -/
  | replace (s : Span) (text : String)
deriving DecidableEq

/-- The document after an edit. -/
def apply : Edit → Except AddressError Document
  | .insert p text => d.insert p text
  | .delete s => d.delete s
  | .replace s text => d.replace s text

/-- The document after a run of edits, in which an edit that fails changes nothing. -/
def run : Document → List Edit → Document
  | d, [] => d
  | d, e :: es => run ((d.apply e).toOption.getD d) es

end Document

end TextHistory
