import TextHistory.Json.Value
import TextHistory.UndoTree

/-!
# Undo trees as JSON

What is shown of an undo tree, as one JSON text: an array of an object for each node, in the order
of their ids.
-/

namespace TextHistory.UndoTree

open Json

/-- The value that a summary is written as. -/
def Summary.toJson (s : Summary) : Value :=
  .object [("description", .string s.description), ("id", .number s.id),
    ("parentId", .ofOption .number s.parent), ("childIds", .array (s.children.map .number)),
    ("isCurrent", .bool s.isCurrent)]

/-- The JSON text of what is shown of a tree. -/
def jsonText (t : UndoTree) : String := (Value.array (t.summaries.map Summary.toJson)).text

end TextHistory.UndoTree
