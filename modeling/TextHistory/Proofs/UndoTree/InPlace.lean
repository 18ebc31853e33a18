import TextHistory.UndoTree

/-!
# Undo trees that are changed in place

`UndoTree.undo`, `redo` and `goto` make a new tree out of an old one, so there a move that fails
cannot have changed anything. Here the same moves are written as steps that change one tree in
place, in the order in which they are taken. A step that fails ends the move and leaves the tree as
the steps before it have made it.

The two agree (`undoInPlace_eq`, `redoInPlace_eq`, `gotoInPlace_eq`): everything is looked up before
the current place is set.
-/

namespace TextHistory

/-! ### Steps -/

section Steps

variable {σ ε α β : Type} (s : σ)

theorem run_get_bind (f : σ → EStateM ε σ β) : (get >>= f) s = f s s := rfl

theorem run_modify_bind (g : σ → σ) (f : PUnit → EStateM ε σ β) :
    (modify g >>= f) s = f ⟨⟩ (g s) := rfl

/-- A look-up changes nothing, and ends the work if it fails. -/
theorem run_ofExcept_bind (x : Except ε α) (f : α → EStateM ε σ β) :
    ((ofExcept x : EStateM ε σ α) >>= f) s =
      match x with
      | .ok a => f a s
      | .error e => .error e s := by
  cases x <;> rfl

end Steps

namespace UndoTree

/-- Goes back by one revision, in place. -/
def undoInPlace : EStateM HistoryError UndoTree Move := do
  match (← get).current with
  | none => return .atOldest
  | some id =>
    let n ← ofExcept ((← get).nodeAt id)
    let c ← ofExcept ((← get).checkpointAt n.parent)
    modify fun t ↦ { t with current := n.parent }
    return .moved c

/-- Goes on to the oldest revision below, in place. -/
def redoInPlace : EStateM HistoryError UndoTree Move := do
  match ← ofExcept ((← get).childrenAt (← get).current) with
  | [] => return .atNewest
  | next :: _ =>
    let c ← ofExcept ((← get).checkpointAt (some next))
    modify fun t ↦ { t with current := some next }
    return .moved c

/-- Goes to any revision, in place. -/
def gotoInPlace (id : Nat) : EStateM HistoryError UndoTree Checkpoint := do
  match (← get).node? id with
  | none => throw (.nodeNotFound id)
  | some n =>
    modify fun t ↦ { t with current := some id }
    return n.checkpoint

/-- A move that was worked out beforehand. If it fails, the tree is as it was. -/
def settle {α : Type} (t : UndoTree) :
    Except HistoryError (α × UndoTree) → EStateM.Result HistoryError UndoTree α
  | .ok (a, t') => .ok a t'
  | .error e => .error e t

theorem undoInPlace_eq (t : UndoTree) : undoInPlace t = t.settle t.undo := by
  rw [undoInPlace, undo, run_get_bind]
  cases t.current with
  | none => rfl
  | some id =>
    simp only [run_get_bind, run_ofExcept_bind, run_modify_bind]
    cases t.nodeAt id with
    | error e => rfl
    | ok n => cases hc : t.checkpointAt n.parent <;> simp only [bind, Except.bind, hc] <;> rfl

theorem redoInPlace_eq (t : UndoTree) : redoInPlace t = t.settle t.redo := by
  rw [redoInPlace, redo, run_get_bind, run_get_bind, run_ofExcept_bind]
  cases t.childrenAt t.current with
  | error e => rfl
  | ok ks =>
    cases ks with
    | nil => rfl
    | cons k ks =>
      simp only [run_get_bind, run_ofExcept_bind, run_modify_bind]
      cases hc : t.checkpointAt (some k) <;> simp only [bind, Except.bind, hc] <;> rfl

theorem gotoInPlace_eq (t : UndoTree) (id : Nat) : gotoInPlace id t = t.settle (t.goto id) := by
  rw [gotoInPlace, goto, run_get_bind]
  cases t.node? id <;> rfl

end UndoTree

end TextHistory
