import TextHistory.Document

/-!
# Line endings

Texts from files may begin with a byte order mark and may end their lines with a carriage
return, alone or before a line feed. `normalizeLineEndings` drops the mark and writes every line
end as one line feed, so that a document only ever meets line feeds.

It does so in two passes, first the pairs and then the single carriage returns, and leaves a text
without carriage returns alone.
-/

namespace TextHistory

/-- The mark that may stand at the front of a text from a file. -/
def byteOrderMark : Char := '\uFEFF'

/-- A text without a byte order mark at its front. -/
def dropByteOrderMark : List Char → List Char
  | [] => []
  | c :: cs => if c = byteOrderMark then cs else c :: cs

/-- A text with every carriage return that precedes a line feed left out. -/
def joinPairs : List Char → List Char
  | '\r' :: '\n' :: cs => '\n' :: joinPairs cs
  | c :: cs => c :: joinPairs cs
  | [] => []

/-- A text with its carriage returns turned into line feeds. -/
def replaceReturns (cs : List Char) : List Char := cs.map fun c ↦ if c = '\r' then '\n' else c

/-- Whether a text from a file has line endings to normalize. -/
def hasReturns (s : String) : Bool := (dropByteOrderMark s.toList).contains '\r'

/-- A text from a file, without its byte order mark and with line feeds as its only line ends. -/
def normalizeLineEndings (s : String) : String :=
  let cs := dropByteOrderMark s.toList
  String.ofList (if cs.contains '\r' then replaceReturns (joinPairs cs) else cs)

/-- The document of a text from a file. -/
def Document.ofFileContent (s : String) : Document :=
  .ofString (normalizeLineEndings s) defaultCapacity

end TextHistory
