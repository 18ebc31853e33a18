import TextHistory.Document
import TextHistory.IdMap

/-!
# Undo trees

The history of a document as a tree of revisions. The root is the document before the first
edit and is not a revision itself; every revision has a parent, which is the root or an earlier
revision, and keeps the whole document as it was then. One place of the tree is the current one.

* `push` records a revision below the current place and moves there.
* `undo` moves to the parent, `redo` to the oldest child, `goto` anywhere.

Whether redo can still reach what an edit after an undo leaves behind is the *mode*. A branching
tree keeps it as an older branch. A linear tree drops it: before it records a revision it clears
away everything below the current place (`abandon`).

## Places and ids

A place is an `Option Nat`: `none` is the root. Ids are handed out in ascending order and are
never handed out twice, not even after `clear`. In a tree that was built by these operations the
current place and every parent exist, and `undo` and `redo` cannot fail. They look nevertheless
(`nodeAt`), since an undo tree is a plain value and a damaged one should be reported as damaged
rather than be walked on.

## Clearing away

`sweep` removes the nodes that a list of ids leads to, child lists included, until none is left.
A node is removed when it is first met, so the map is its own record of what was visited; every
step either makes the map smaller or the list shorter. Nothing is assumed of the child lists,
which may repeat ids, name missing ones or run in circles.
-/

namespace TextHistory

/-- What becomes of the revisions below the current place when a new one is recorded there. -/
inductive HistoryMode
  /-- They stay, as an older branch. -/
  | branching
  /-- They are dropped. -/
  | linear
deriving DecidableEq

/-- What is recorded of a document. -/
structure Revision where
  /-- What was done. -/
  description : String
  /-- The document then. -/
  snapshot : Document
  /-- The line of the cursor then, if known. -/
  cursorLine : Option Nat
  /-- The column of the cursor then, if known. -/
  cursorColumn : Option Nat
deriving DecidableEq

/-- The position that a line and a column make, if both are known. -/
def cursorOf : Option Nat → Option Nat → Option Position
  | some line, some column => some ⟨line, column⟩
  | _, _ => none

/-- The state at a place of an undo tree. -/
structure Checkpoint where
  /-- The place: a revision, or `none` for the root. -/
  node : Option Nat
  /-- The document there. -/
  snapshot : Document
  /-- The line of the cursor, if it was recorded. -/
  cursorLine : Option Nat
  /-- The column of the cursor, if it was recorded. -/
  cursorColumn : Option Nat
deriving DecidableEq

/-- The position of the cursor, if all of it was recorded. -/
def Checkpoint.cursor (c : Checkpoint) : Option Position := cursorOf c.cursorLine c.cursorColumn

/-- The outcome of an undo or a redo. -/
inductive Move
  /-- The current place moved. -/
  | moved (c : Checkpoint)
  /-- There is nothing left to undo. -/
  | atOldest
  /-- There is nothing left to redo. -/
  | atNewest
deriving DecidableEq

namespace Move

/-- Whether the current place moved. -/
def isMoved : Move → Bool
  | moved _ => true
  | _ => false

/-- What to tell a person when nothing moved. -/
def message : Move → Option String
  | moved _ => none
  | atOldest => some "Already at oldest change"
  | atNewest => some "Already at newest change"

/-- The status line when nothing moved. -/
def status (m : Move) : Option StatusMessage := m.message.map (⟨·, .info⟩)

end Move

/-- A revision in its place. -/
structure Node where
  /-- The id, under which the tree keeps the node. -/
  id : Nat
  /-- The place that it was recorded below. -/
  parent : Option Nat
  /-- The revisions recorded below it, the oldest first. -/
  children : List Nat
  /-- What was recorded. -/
  revision : Revision
deriving DecidableEq

/-- The state at a node. -/
def Node.checkpoint (n : Node) : Checkpoint :=
  ⟨some n.id, n.revision.snapshot, n.revision.cursorLine, n.revision.cursorColumn⟩

/-- A tree of revisions with a current place. -/
structure UndoTree where
  /-- The revisions. -/
  nodes : IdMap Node
  /-- The document before the first edit. -/
  rootSnapshot : Document
  /-- The revisions recorded below the root, the oldest first. -/
  rootChildren : List Nat
  /-- The current place. -/
  current : Option Nat
  /-- The id of the next revision. -/
  nextId : Nat
  /-- What becomes of revisions that an edit leaves behind. -/
  mode : HistoryMode

namespace UndoTree

/-- The tree of a document that was not edited yet. -/
def ofDocument (d : Document) (mode : HistoryMode) : UndoTree := ⟨∅, d, [], none, 0, mode⟩

variable (t : UndoTree)

/-! ### Reading -/

/-- The number of revisions. -/
def size : Nat := t.nodes.size

/-- Whether there are no revisions. -/
def isEmpty : Bool := t.nodes.isEmpty

/-- The node of an id. -/
def node? (id : Nat) : Option Node := t.nodes.get? id

/-- The node of an id that the tree itself names; that it is missing is damage. -/
def nodeAt (id : Nat) : Except HistoryError Node :=
  match t.node? id with
  | some n => .ok n
  | none => .error (.invalidState s!"history node {id} is referenced but missing")

/-- The state at the root. -/
def rootCheckpoint : Checkpoint := ⟨none, t.rootSnapshot, none, none⟩

/-- The state at a place that the tree itself names. -/
def checkpointAt : Option Nat → Except HistoryError Checkpoint
  | none => .ok t.rootCheckpoint
  | some id => Node.checkpoint <$> t.nodeAt id

/-- The document at the current place. -/
def currentSnapshot : Except HistoryError Document :=
  Checkpoint.snapshot <$> t.checkpointAt t.current

/-- The cursor recorded at the current place; the root has none. -/
def currentCursor : Except HistoryError (Option Position) :=
  Checkpoint.cursor <$> t.checkpointAt t.current

/-- The revisions below a place, the oldest first. A place that is missing has none. -/
def childrenOf : Option Nat → List Nat
  | none => t.rootChildren
  | some id => ((t.node? id).map Node.children).getD []

/-- Whether there is something to undo. -/
def canUndo : Bool := t.current.isSome

/-- Whether there is something to redo. -/
def canRedo : Bool := !(t.childrenOf t.current).isEmpty

/-- The revisions below a revision, the oldest first. -/
def branches (id : Nat) : Except HistoryError (List Nat) :=
  match t.node? id with
  | some n => .ok n.children
  | none => .error (.nodeNotFound id)

/-! ### Clearing away -/

/-- Removes the nodes that `pending` leads to. Gives what is left and the number removed. -/
def sweep (nodes : IdMap Node) : List Nat → IdMap Node × Nat
  | [] => (nodes, 0)
  | id :: pending =>
    match h : nodes.get? id with
    | none => sweep nodes pending
    | some n =>
      let r := sweep (nodes.erase id) (n.children ++ pending)
      (r.1, r.2 + 1)
termination_by pending => (nodes.size, pending.length)
decreasing_by
  · exact Prod.Lex.right _ (Nat.lt_succ_self _)
  · exact Prod.Lex.left _ _ (nodes.size_erase_lt (by simp [h]))

/-- The tree with the child list of a place made anew. -/
def setChildren (place : Option Nat) (f : List Nat → List Nat) : UndoTree :=
  match place with
  | none => { t with rootChildren := f t.rootChildren }
  | some id => { t with nodes := t.nodes.update id fun n ↦ { n with children := f n.children } }

/-- The tree without anything below a place, and the number of nodes dropped. -/
def abandon (place : Option Nat) : UndoTree × Nat :=
  let t' := t.setChildren place fun _ ↦ []
  let r := sweep t'.nodes (t.childrenOf place)
  ({ t' with nodes := r.1 }, r.2)

/-! ### Recording -/

/-- The place below which the next revision is recorded: the current one, or the root if that
is missing. -/
def attachPoint : Option Nat := t.current.filter fun id ↦ t.nodes.contains id

/-- The tree as it is when the next revision takes its place, and the number of nodes dropped
to that end. -/
def prepare : UndoTree × Nat :=
  match t.mode with
  | .branching => (t, 0)
  | .linear => t.abandon t.attachPoint

/-- The tree with a revision added below a place and made current. A place that is missing
counts as the root. -/
def attach (place : Option Nat) (r : Revision) : UndoTree :=
  let id := t.nextId
  let t' := { t with nodes := t.nodes.insert id ⟨id, place, [], r⟩, nextId := id + 1 }
  { t'.setChildren (place.filter fun p ↦ t'.nodes.contains p) (· ++ [id]) with current := some id }

/-- Records a revision below the current place and moves there. Gives its id. -/
def push (r : Revision) : Nat × UndoTree := (t.nextId, t.prepare.1.attach t.attachPoint r)

/-- Drops all revisions and starts again from a document. Ids go on where they were. -/
def clear (d : Document) : UndoTree :=
  { t with nodes := ∅, rootSnapshot := d, rootChildren := [], current := none }

/-- The tree in another mode, which counts from the next revision on. -/
def setMode (mode : HistoryMode) : UndoTree := { t with mode := mode }

/-! ### Moving -/

/-- Moves to the parent. -/
def undo : Except HistoryError (Move × UndoTree) :=
  match t.current with
  | none => .ok (.atOldest, t)
  | some id => do
    let n ← t.nodeAt id
    let c ← t.checkpointAt n.parent
    return (.moved c, { t with current := n.parent })

/-- The child list of a place that the tree itself names. -/
def childrenAt : Option Nat → Except HistoryError (List Nat)
  | none => .ok t.rootChildren
  | some id => Node.children <$> t.nodeAt id

/-- Moves to the oldest child. -/
def redo : Except HistoryError (Move × UndoTree) := do
  match ← t.childrenAt t.current with
  | [] => return (.atNewest, t)
  | next :: _ =>
    let c ← t.checkpointAt (some next)
    return (.moved c, { t with current := some next })

/-- Moves to any revision. -/
def goto (id : Nat) : Except HistoryError (Checkpoint × UndoTree) :=
  match t.node? id with
  | some n => .ok (n.checkpoint, { t with current := some id })
  | none => .error (.nodeNotFound id)

/-! ### Calls -/

/-- Something that can be done to an undo tree. -/
inductive Call
  /-- Record a revision. -/
  | push (r : Revision)
  /-- Move to the parent. -/
  | undo
  /-- Move to the oldest child. -/
  | redo
  /-- Move to a revision. -/
  | goto (id : Nat)
  /-- Change the mode. -/
  | setMode (mode : HistoryMode)
  /-- Start again from a document. -/
  | clear (d : Document)
deriving DecidableEq

/-- What a call answers. -/
inductive Answer
  /-- The id of a recorded revision. -/
  | pushed (id : Nat)
  /-- The outcome of an undo or a redo. -/
  | moved (m : Move)
  /-- The state that was gone to. -/
  | went (c : Checkpoint)
  /-- Nothing to tell. -/
  | done
  /-- The call failed and changed nothing. -/
  | failed (e : HistoryError)
deriving DecidableEq

/-- Carries out a call. -/
def apply : Call → Answer × UndoTree
  | .push r => (.pushed (t.push r).1, (t.push r).2)
  | .undo =>
    match t.undo with
    | .ok (m, t') => (.moved m, t')
    | .error e => (.failed e, t)
  | .redo =>
    match t.redo with
    | .ok (m, t') => (.moved m, t')
    | .error e => (.failed e, t)
  | .goto id =>
    match t.goto id with
    | .ok (c, t') => (.went c, t')
    | .error e => (.failed e, t)
  | .setMode mode => (.done, t.setMode mode)
  | .clear d => (.done, t.clear d)

/-! ### Showing the tree -/

/-- What is shown of a node. -/
structure Summary where
  /-- What was done. -/
  description : String
  /-- The id. -/
  id : Nat
  /-- The place that it was recorded below. -/
  parent : Option Nat
  /-- The revisions recorded below it. -/
  children : List Nat
  /-- Whether it is the current place. -/
  isCurrent : Bool
deriving DecidableEq

/-- What is shown of a node. -/
def summarize (n : Node) : Summary :=
  ⟨n.revision.description, n.id, n.parent, n.children, t.current == some n.id⟩

/-- What is shown of the tree: all nodes, in the order of their ids. -/
def summaries : List Summary := t.nodes.values.map t.summarize

end UndoTree

end TextHistory
