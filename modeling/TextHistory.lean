import TextHistory.DisplayWidth
import TextHistory.Document
import TextHistory.Document.Index
import TextHistory.Document.LineEndings
import TextHistory.Document.Query
import TextHistory.Error
import TextHistory.FileTree
import TextHistory.GapBuffer
import TextHistory.GapBuffer.Editing
import TextHistory.GapBuffer.Layout
import TextHistory.IdMap
import TextHistory.Json.Decoder
import TextHistory.Json.Failure
import TextHistory.Json.Floating
import TextHistory.Json.Skip
import TextHistory.Json.Token
import TextHistory.Json.Value
import TextHistory.Lines
import TextHistory.Log.Event
import TextHistory.Log.Level
import TextHistory.Log.Logger
import TextHistory.Log.Trace
import TextHistory.PathExpansion
import TextHistory.Position
import TextHistory.Position.Json
import TextHistory.Quoted
import TextHistory.Run
import TextHistory.Session
import TextHistory.Settings
import TextHistory.Settings.Json
import TextHistory.Settings.Load
import TextHistory.Slots
import TextHistory.UndoTree
import TextHistory.UndoTree.Json
import TextHistory.Unicode.Alphanumeric
import TextHistory.Unicode.Blank
import TextHistory.Unicode.CharSet
import TextHistory.Unicode.Emoji
import TextHistory.Unicode.Extending
import TextHistory.Unicode.Joining
import TextHistory.Unicode.Unprinted
import TextHistory.Unicode.Wide
import TextHistory.Words
import TextHistory.Workspace
import TextHistory.Proofs.GapBuffer.PlainText
import TextHistory.Proofs.Document.LineOffsets
import TextHistory.Proofs.Document.Addresses
import TextHistory.Proofs.Document.Outcomes
import TextHistory.Proofs.UndoTree.Places
import TextHistory.Proofs.UndoTree.Shape
import TextHistory.Proofs.UndoTree.Permanence
import TextHistory.Proofs.UndoTree.Lineage
import TextHistory.Proofs.UndoTree.Summaries
import TextHistory.Proofs.UndoTree.Linear
import TextHistory.Proofs.Session.Sync
import TextHistory.Proofs.Session.History
import TextHistory.Proofs.Session.Cursor
import TextHistory.Proofs.Session.InPlace
import TextHistory.Proofs.Session.Refusal
import TextHistory.Proofs.Session.Return
import TextHistory.Proofs.Session.Edits
import TextHistory.Proofs.Session.UndoRedo
import TextHistory.Proofs.Document.LineIndex
import TextHistory.Proofs.GapBuffer.Equality
import TextHistory.Proofs.Document.Equality
import TextHistory.Proofs.UndoTree.Documents
import TextHistory.Proofs.Session.Capacity
import TextHistory.Proofs.Workspace.Independence
import TextHistory.Proofs.Workspace.Current
import TextHistory.Proofs.UndoTree.Naming
import TextHistory.Proofs.UndoTree.Renumbering
import TextHistory.Proofs.Session.Reload
import TextHistory.Proofs.Checked
import TextHistory.Proofs.GapBuffer.Checked
import TextHistory.Proofs.Document.Checked
import TextHistory.Proofs.Document.Correspondence
import TextHistory.Proofs.Document.Removal
import TextHistory.Proofs.GapBuffer.Canonical
import TextHistory.Proofs.GapBuffer.Relocation
import TextHistory.Proofs.Document.Replacement
import TextHistory.Proofs.Document.Reinsertion
import TextHistory.Proofs.Document.Order
import TextHistory.Proofs.Document.LineEdits
import TextHistory.Proofs.UndoTree.Recording
import TextHistory.Proofs.UndoTree.Navigation
import TextHistory.Proofs.UndoTree.Retracing
import TextHistory.Proofs.Document.Behind
import TextHistory.Proofs.Document.LineEndings
import TextHistory.Proofs.Session.Placement
import TextHistory.Proofs.Session.Typing
import TextHistory.Proofs.GapBuffer.Growth
import TextHistory.Proofs.Words
import TextHistory.Proofs.Document.Statistics
import TextHistory.Proofs.UndoTree.Clearing
import TextHistory.Proofs.UndoTree.Trail
import TextHistory.Proofs.Json.Grammar
import TextHistory.Proofs.Json.Tokens
import TextHistory.Proofs.Json.Walk
import TextHistory.Proofs.Json.Texts
import TextHistory.Proofs.Json.Decoding
import TextHistory.Proofs.Json.RoundTrip
import TextHistory.Proofs.UndoTree.Export
import TextHistory.Proofs.Settings.RoundTrip
import TextHistory.Proofs.Settings.Partial
