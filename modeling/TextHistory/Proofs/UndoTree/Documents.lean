import TextHistory.Proofs.UndoTree.Places
import TextHistory.Run

/-!
# An undo tree does not look into its documents

Documents are kept in an undo tree and handed out again, and that is all. To change every document
by some function `f` before a call is therefore to change it after the call, in the tree and in the
answer (`apply_mapDocuments`), whatever `f` is. In particular the course of a run does not depend on
the documents: the same ids are handed out, the same nodes dropped and the same calls refused.

Of the building blocks only clearing away needs an induction (`sweep_map`). It looks at the child
lists, and no function of the documents changes these.
-/

namespace TextHistory

namespace IdMap

variable {α β : Type} (f : α → β)

/-- The map with every value changed. -/
def map (m : IdMap α) : IdMap β :=
  ⟨m.entries.map fun e ↦ (e.1, f e.2), List.pairwise_map.2 m.sorted⟩

@[simp] theorem get?_map (m : IdMap α) (id : Nat) : (m.map f).get? id = (m.get? id).map f := by
  obtain ⟨es, h⟩ := m
  simp only [get?, map]
  clear h
  induction es with
  | nil => rfl
  | cons e es ih =>
    rw [List.map_cons, lookup, lookup, ih]
    split <;> rfl

theorem map_insert (m : IdMap α) (id : Nat) (a : α) :
    (m.insert id a).map f = (m.map f).insert id (f a) := by
  refine ext_get? fun k ↦ ?_
  rw [get?_map, get?_insert, get?_insert, get?_map]
  split <;> rfl

theorem map_erase (m : IdMap α) (id : Nat) : (m.erase id).map f = (m.map f).erase id := by
  refine ext_get? fun k ↦ ?_
  rw [get?_map, get?_erase, get?_erase, get?_map]
  split <;> rfl

/-- Values may be changed before or after an update if the two changes do not meet. -/
theorem map_update (m : IdMap α) (id : Nat) {g : α → α} {h : β → β}
    (hcomm : ∀ a, f (g a) = h (f a)) : (m.update id g).map f = (m.map f).update id h := by
  refine ext_get? fun k ↦ ?_
  rw [get?_map, get?_update, get?_update, get?_map]
  split
  · rw [Option.map_map, Option.map_map]
    exact congrArg (Option.map · _) (funext hcomm)
  · rfl

end IdMap

/-! ### Changing every document -/

section MapDocuments

variable (f : Document → Document)

/-- The revision with its document changed. -/
def Revision.mapDocuments (r : Revision) : Revision := { r with snapshot := f r.snapshot }

/-- The state with its document changed. -/
def Checkpoint.mapDocuments (c : Checkpoint) : Checkpoint := { c with snapshot := f c.snapshot }

/-- The outcome of a move with its document changed. -/
def Move.mapDocuments : Move → Move
  | .moved c => .moved (c.mapDocuments f)
  | .atOldest => .atOldest
  | .atNewest => .atNewest

/-- The node with its document changed. -/
def Node.mapDocuments (n : Node) : Node := { n with revision := n.revision.mapDocuments f }

namespace UndoTree

/-- The tree with every document changed. -/
def mapDocuments (t : UndoTree) : UndoTree :=
  { t with nodes := t.nodes.map (Node.mapDocuments f), rootSnapshot := f t.rootSnapshot }

/-- The call with its document changed. -/
def Call.mapDocuments : Call → Call
  | .push r => .push (r.mapDocuments f)
  | .clear d => .clear (f d)
  | c => c

/-- The answer with its document changed. -/
def Answer.mapDocuments : Answer → Answer
  | .moved m => .moved (m.mapDocuments f)
  | .went c => .went (c.mapDocuments f)
  | a => a

variable (t : UndoTree)

/-! ### Reading -/

theorem node?_mapDocuments (id : Nat) :
    (t.mapDocuments f).node? id = (t.node? id).map (Node.mapDocuments f) :=
  IdMap.get?_map _ _ _

theorem nodeAt_mapDocuments (id : Nat) :
    (t.mapDocuments f).nodeAt id = (t.nodeAt id).map (Node.mapDocuments f) := by
  rw [nodeAt, nodeAt, node?_mapDocuments]
  rcases t.node? id with - | n <;> rfl

theorem checkpointAt_mapDocuments (place : Option Nat) :
    (t.mapDocuments f).checkpointAt place =
      (t.checkpointAt place).map (Checkpoint.mapDocuments f) := by
  rcases place with - | id
  · rfl
  · rw [checkpointAt, checkpointAt, nodeAt_mapDocuments]
    rcases t.nodeAt id with e | n <;> rfl

theorem childrenOf_mapDocuments (place : Option Nat) :
    (t.mapDocuments f).childrenOf place = t.childrenOf place := by
  rcases place with - | id
  · rfl
  · rw [childrenOf, childrenOf, node?_mapDocuments]
    rcases t.node? id with - | n <;> rfl

theorem childrenAt_mapDocuments (place : Option Nat) :
    (t.mapDocuments f).childrenAt place = t.childrenAt place := by
  rcases place with - | id
  · rfl
  · rw [childrenAt, childrenAt, nodeAt_mapDocuments]
    rcases t.nodeAt id with e | n <;> rfl

theorem contains_mapDocuments (id : Nat) :
    (t.mapDocuments f).nodes.contains id = t.nodes.contains id := by
  rw [IdMap.contains, IdMap.contains, ← node?, node?_mapDocuments, Option.isSome_map, node?]

/-! ### Recording -/

/-- **Clearing away** looks at the child lists only. -/
theorem sweep_map {g : Node → Node} (hg : ∀ n, (g n).children = n.children) (nodes : IdMap Node)
    (pending : List Nat) :
    sweep (nodes.map g) pending = ((sweep nodes pending).1.map g, (sweep nodes pending).2) := by
  induction nodes, pending using sweep.induct with
  | case1 nodes => rw [sweep, sweep]
  | case2 nodes id pending hnone ih =>
    have hnone' : (nodes.map g).get? id = none := by rw [IdMap.get?_map, hnone]; rfl
    rw [sweep_cons_of_get?_eq_none hnone, sweep_cons_of_get?_eq_none hnone', ih]
  | case3 nodes id pending n hn ih =>
    have hn' : (nodes.map g).get? id = some (g n) := by rw [IdMap.get?_map, hn]; rfl
    rw [sweep_cons_of_get? hn, sweep_cons_of_get? hn', ← IdMap.map_erase, hg, ih]

theorem setChildren_mapDocuments (place : Option Nat) (g : List Nat → List Nat) :
    (t.mapDocuments f).setChildren place g = (t.setChildren place g).mapDocuments f := by
  rcases place with - | id
  · rfl
  · have hupdate := IdMap.map_update (Node.mapDocuments f) t.nodes id
      (g := fun n ↦ { n with children := g n.children })
      (h := fun n ↦ { n with children := g n.children }) fun _ ↦ rfl
    simp only [setChildren, mapDocuments, hupdate]

theorem abandon_mapDocuments (place : Option Nat) :
    (t.mapDocuments f).abandon place =
      ((t.abandon place).1.mapDocuments f, (t.abandon place).2) := by
  have hsweep := sweep_map (g := Node.mapDocuments f) (fun _ ↦ rfl)
    (t.setChildren place fun _ ↦ []).nodes (t.childrenOf place)
  rw [abandon, abandon, setChildren_mapDocuments, childrenOf_mapDocuments]
  simp only [mapDocuments, hsweep]

theorem attachPoint_mapDocuments : (t.mapDocuments f).attachPoint = t.attachPoint := by
  rw [attachPoint, attachPoint]
  simp only [contains_mapDocuments]
  rfl

theorem prepare_mapDocuments :
    (t.mapDocuments f).prepare.1 = t.prepare.1.mapDocuments f := by
  have hmode : (t.mapDocuments f).mode = t.mode := rfl
  rw [prepare, prepare, attachPoint_mapDocuments, abandon_mapDocuments, hmode]
  rcases t.mode with - | - <;> rfl

theorem attach_mapDocuments (place : Option Nat) (r : Revision) :
    (t.mapDocuments f).attach place (r.mapDocuments f) = (t.attach place r).mapDocuments f := by
  have hinsert : (t.mapDocuments f).withNode place (r.mapDocuments f) =
      (t.withNode place r).mapDocuments f := by
    have hnodes := IdMap.map_insert (Node.mapDocuments f) t.nodes t.nextId ⟨t.nextId, place, [], r⟩
    simp only [withNode, mapDocuments, hnodes]
    rfl
  show ({ ((t.mapDocuments f).withNode place (r.mapDocuments f)).setChildren
      (place.filter fun p ↦ ((t.mapDocuments f).withNode place (r.mapDocuments f)).nodes.contains p)
        (· ++ [t.nextId]) with current := some t.nextId } : UndoTree) = _
  simp only [hinsert, contains_mapDocuments, setChildren_mapDocuments]
  rfl

theorem push_mapDocuments (r : Revision) :
    (t.mapDocuments f).push (r.mapDocuments f) = ((t.push r).1, (t.push r).2.mapDocuments f) := by
  rw [push, push, prepare_mapDocuments, attachPoint_mapDocuments, attach_mapDocuments]
  rfl

/-! ### Moving -/

theorem undo_mapDocuments :
    (t.mapDocuments f).undo = t.undo.map fun r ↦ (r.1.mapDocuments f, r.2.mapDocuments f) := by
  have hcurrent : (t.mapDocuments f).current = t.current := rfl
  rw [undo, undo, hcurrent]
  rcases t.current with - | id
  · rfl
  · show (do let n ← (t.mapDocuments f).nodeAt id; _) = _
    rw [nodeAt_mapDocuments]
    show _ = Except.map _ (do let n ← t.nodeAt id; _)
    rcases t.nodeAt id with e | n
    · rfl
    · show (do let c ← (t.mapDocuments f).checkpointAt n.parent; _) = _
      rw [checkpointAt_mapDocuments]
      show _ = Except.map _ (do let c ← t.checkpointAt n.parent; _)
      rcases t.checkpointAt n.parent with e | c <;> rfl

theorem redo_mapDocuments :
    (t.mapDocuments f).redo = t.redo.map fun r ↦ (r.1.mapDocuments f, r.2.mapDocuments f) := by
  rw [redo, redo, childrenAt_mapDocuments]
  show (do let ks ← t.childrenAt t.current; _) = _
  rcases t.childrenAt t.current with e | (- | ⟨next, ks⟩)
  · rfl
  · rfl
  · show (do let c ← (t.mapDocuments f).checkpointAt (some next); _) = _
    rw [checkpointAt_mapDocuments]
    show _ = Except.map _ (do let c ← t.checkpointAt (some next); _)
    rcases t.checkpointAt (some next) with e | c <;> rfl

theorem goto_mapDocuments (id : Nat) :
    (t.mapDocuments f).goto id =
      (t.goto id).map fun r ↦ (r.1.mapDocuments f, r.2.mapDocuments f) := by
  rw [goto, goto, node?_mapDocuments]
  rcases t.node? id with - | n <;> rfl

/-! ### Calls -/

/-- **A call** comes to the same whether the documents are changed before it or after it. -/
theorem apply_mapDocuments (c : Call) :
    (t.mapDocuments f).apply (c.mapDocuments f) =
      ((t.apply c).1.mapDocuments f, (t.apply c).2.mapDocuments f) := by
  cases c with
  | push r =>
    show (Answer.pushed ((t.mapDocuments f).push (r.mapDocuments f)).1, _) = _
    rw [push_mapDocuments]
    rfl
  | undo =>
    show (t.mapDocuments f).apply .undo = _
    rw [apply, undo_mapDocuments, apply]
    rcases t.undo with e | ⟨m, t'⟩ <;> rfl
  | redo =>
    show (t.mapDocuments f).apply .redo = _
    rw [apply, redo_mapDocuments, apply]
    rcases t.redo with e | ⟨m, t'⟩ <;> rfl
  | goto id =>
    show (t.mapDocuments f).apply (.goto id) = _
    rw [apply, goto_mapDocuments, apply]
    rcases t.goto id with e | ⟨c, t'⟩ <;> rfl
  | setMode mode => rfl
  | clear d => rfl

end UndoTree

end MapDocuments

end TextHistory
