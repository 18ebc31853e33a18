import TextHistory.Proofs.UndoTree.Permanence

/-!
# An undo tree does not calculate with its ids

The ids of an undo tree could begin at any number. To add `k` to every id before a call is to add it
after the call, in the tree and in the answer (`WellFormed.apply_renumber`): the tree compares ids
and looks them up, and it makes new ones from its counter, which is renumbered along with the rest.

Only the report of damage would give the numbering away, since it is a text with an id in it. A tree
in good shape never makes that report.

As with any other change to all nodes, clearing away is what needs an induction (`sweep_shift`). The
rest is known from look-ups.
-/

namespace TextHistory

namespace IdMap

variable {α β : Type} (k : Nat) (f : α → β)

/-- The map with `k` added to every id and with every value changed. -/
def shift (m : IdMap α) : IdMap β :=
  ⟨m.entries.map fun e ↦ (e.1 + k, f e.2),
    List.pairwise_map.2 (m.sorted.imp fun hlt ↦ Nat.add_lt_add_right hlt k)⟩

theorem get?_shift (m : IdMap α) (id : Nat) : (m.shift k f).get? (id + k) = (m.get? id).map f := by
  obtain ⟨es, h⟩ := m
  simp only [get?, shift]
  clear h
  induction es with
  | nil => rfl
  | cons e es ih =>
    rw [List.map_cons, lookup, lookup, ih]
    simp only [Nat.add_right_cancel_iff]
    split <;> rfl

/-- The ids below `k` are free. -/
theorem get?_shift_of_lt (m : IdMap α) {id : Nat} (hid : id < k) :
    (m.shift k f).get? id = none := by
  refine lookup_eq_none fun e he ↦ ?_
  obtain ⟨e', -, rfl⟩ := List.mem_map.1 he
  exact Nat.lt_of_lt_of_le hid (Nat.le_add_left k e'.1)

/-- A map is the shifted one if it shows the same, and nothing below `k`. -/
theorem eq_shift {m : IdMap α} {m' : IdMap β} (hlow : ∀ id, id < k → m'.get? id = none)
    (h : ∀ id, m'.get? (id + k) = (m.get? id).map f) : m' = m.shift k f := by
  refine ext_get? fun id ↦ ?_
  rcases Nat.lt_or_ge id k with hlt | hge
  · rw [hlow id hlt, get?_shift_of_lt k f m hlt]
  · obtain ⟨id, rfl⟩ := Nat.exists_eq_add_of_le' hge
    rw [h, get?_shift]

theorem shift_insert (m : IdMap α) (id : Nat) (a : α) :
    (m.shift k f).insert (id + k) (f a) = (m.insert id a).shift k f := by
  refine eq_shift k f (fun j hj ↦ ?_) fun j ↦ ?_
  · have hne : j ≠ id + k := by omega
    rw [get?_insert, if_neg hne, get?_shift_of_lt k f m hj]
  · simp only [get?_insert, get?_shift, Nat.add_right_cancel_iff]
    split <;> rfl

theorem shift_erase (m : IdMap α) (id : Nat) :
    (m.shift k f).erase (id + k) = (m.erase id).shift k f := by
  refine eq_shift k f (fun j hj ↦ ?_) fun j ↦ ?_
  · rw [get?_erase, get?_shift_of_lt k f m hj, ite_self]
  · simp only [get?_erase, get?_shift, Nat.add_right_cancel_iff]
    split <;> rfl

/-- Values may be changed before or after an update if the two changes do not meet. -/
theorem shift_update (m : IdMap α) (id : Nat) {g : α → α} {h : β → β}
    (hcomm : ∀ a, h (f a) = f (g a)) :
    (m.shift k f).update (id + k) h = (m.update id g).shift k f := by
  refine eq_shift k f (fun j hj ↦ ?_) fun j ↦ ?_
  · rw [get?_update, get?_shift_of_lt k f m hj]
    exact ite_self _
  · simp only [get?_update, get?_shift, Nat.add_right_cancel_iff]
    split
    · rw [Option.map_map, Option.map_map]
      exact congrArg (Option.map · _) (funext hcomm)
    · rfl

theorem contains_shift (m : IdMap α) (id : Nat) :
    (m.shift k f).contains (id + k) = m.contains id := by
  rw [contains, contains, get?_shift, Option.isSome_map]

end IdMap

/-! ### Adding to every id -/

section Renumber

variable (k : Nat)

/-- The node with `k` added to all ids. -/
def Node.renumber (n : Node) : Node :=
  ⟨n.id + k, n.parent.map (· + k), n.children.map (· + k), n.revision⟩

/-- The state with `k` added to the id of its place. -/
def Checkpoint.renumber (c : Checkpoint) : Checkpoint := { c with node := c.node.map (· + k) }

/-- The outcome of a move with `k` added to the id of the place. -/
def Move.renumber : Move → Move
  | .moved c => .moved (c.renumber k)
  | .atOldest => .atOldest
  | .atNewest => .atNewest

/-- The error with `k` added to its id. A report of damage is a text and stays. -/
def HistoryError.renumber : HistoryError → HistoryError
  | .nodeNotFound id => .nodeNotFound (id + k)
  | .invalidState reason => .invalidState reason

namespace UndoTree

/-- The tree with `k` added to all ids. -/
def renumber (t : UndoTree) : UndoTree :=
  { t with
    nodes := t.nodes.shift k (Node.renumber k)
    rootChildren := t.rootChildren.map (· + k)
    current := t.current.map (· + k)
    nextId := t.nextId + k }

/-- The call with `k` added to its id. -/
def Call.renumber : Call → Call
  | .goto id => .goto (id + k)
  | c => c

/-- The answer with `k` added to its id. -/
def Answer.renumber : Answer → Answer
  | .pushed id => .pushed (id + k)
  | .moved m => .moved (m.renumber k)
  | .went c => .went (c.renumber k)
  | .done => .done
  | .failed e => .failed (e.renumber k)

variable {t : UndoTree}

/-! ### Reading -/

theorem node?_renumber (t : UndoTree) (id : Nat) :
    (t.renumber k).node? (id + k) = (t.node? id).map (Node.renumber k) :=
  IdMap.get?_shift _ _ _ _

theorem node?_renumber_of_eq {id : Nat} {n : Node} (hn : t.node? id = some n) :
    (t.renumber k).node? (id + k) = some (n.renumber k) := by
  rw [node?_renumber, hn]
  rfl

theorem hasPlace_renumber {place : Option Nat} (hplace : t.HasPlace place) :
    (t.renumber k).HasPlace (place.map (· + k)) := by
  cases place with
  | none => trivial
  | some id =>
    obtain ⟨n, hn⟩ := hplace
    exact ⟨_, node?_renumber_of_eq k hn⟩

theorem checkpointAt_renumber {place : Option Nat} {c : Checkpoint}
    (hc : t.checkpointAt place = .ok c) :
    (t.renumber k).checkpointAt (place.map (· + k)) = .ok (c.renumber k) := by
  cases place with
  | none =>
    obtain rfl : t.rootCheckpoint = c := Except.ok.inj hc
    rfl
  | some id =>
    cases hn : t.node? id with
    | none =>
      rw [checkpointAt, nodeAt, hn] at hc
      exact absurd hc (by simp [Functor.map, Except.map])
    | some n =>
      obtain rfl : n.checkpoint = c := Except.ok.inj ((checkpointAt_some hn).symm.trans hc)
      exact checkpointAt_some (node?_renumber_of_eq k hn)

theorem childrenOf_renumber (t : UndoTree) (place : Option Nat) :
    (t.renumber k).childrenOf (place.map (· + k)) = (t.childrenOf place).map (· + k) := by
  cases place with
  | none => rfl
  | some id =>
    show (((t.renumber k).node? (id + k)).map Node.children).getD [] = _
    rw [node?_renumber, childrenOf]
    cases t.node? id <;> rfl

/-! ### Recording -/

/-- **Clearing away** follows the child lists, whatever ids these are made of. -/
theorem sweep_shift {g : Node → Node} (hg : ∀ n, (g n).children = n.children.map (· + k))
    (nodes : IdMap Node) (pending : List Nat) :
    sweep (nodes.shift k g) (pending.map (· + k)) =
      ((sweep nodes pending).1.shift k g, (sweep nodes pending).2) := by
  induction nodes, pending using sweep.induct with
  | case1 nodes => rw [List.map_nil, sweep, sweep]
  | case2 nodes id pending hnone ih =>
    have hnone' : (nodes.shift k g).get? (id + k) = none := by rw [IdMap.get?_shift, hnone]; rfl
    rw [List.map_cons, sweep_cons_of_get?_eq_none hnone, sweep_cons_of_get?_eq_none hnone', ih]
  | case3 nodes id pending n hn ih =>
    have hn' : (nodes.shift k g).get? (id + k) = some (g n) := by rw [IdMap.get?_shift, hn]; rfl
    rw [List.map_cons, sweep_cons_of_get? hn, sweep_cons_of_get? hn', IdMap.shift_erase, hg,
      ← List.map_append, ih]

/-- A child list may be made anew before or after, if the two changes do not meet. -/
theorem setChildren_renumber (t : UndoTree) (place : Option Nat) {f g : List Nat → List Nat}
    (hcomm : ∀ ids, g (ids.map (· + k)) = (f ids).map (· + k)) :
    (t.renumber k).setChildren (place.map (· + k)) g = (t.setChildren place f).renumber k := by
  cases place with
  | none => simp only [Option.map_none, setChildren, renumber, hcomm]
  | some id =>
    have hupdate := IdMap.shift_update k (Node.renumber k) t.nodes id
      (g := fun n ↦ { n with children := f n.children })
      (h := fun n ↦ { n with children := g n.children }) fun n ↦ by
        simp only [Node.renumber, hcomm]
    simp only [Option.map_some, setChildren, renumber, hupdate]

theorem abandon_renumber (t : UndoTree) (place : Option Nat) :
    (t.renumber k).abandon (place.map (· + k)) =
      ((t.abandon place).1.renumber k, (t.abandon place).2) := by
  have hset := setChildren_renumber k t place (f := fun _ ↦ []) (g := fun _ ↦ []) fun _ ↦ rfl
  have hsweep := sweep_shift k (g := Node.renumber k) (fun _ ↦ rfl)
    (t.setChildren place fun _ ↦ []).nodes (t.childrenOf place)
  rw [abandon, abandon, hset, childrenOf_renumber]
  simp only [renumber, hsweep]

theorem attachPoint_renumber (t : UndoTree) :
    (t.renumber k).attachPoint = t.attachPoint.map (· + k) := by
  rw [attachPoint, attachPoint]
  show (t.current.map (· + k)).filter
    (fun id ↦ (t.nodes.shift k (Node.renumber k)).contains id) = _
  cases t.current with
  | none => rfl
  | some id =>
    rw [Option.map_some, Option.filter, IdMap.contains_shift, Option.filter]
    split <;> rfl

theorem prepare_renumber (t : UndoTree) : (t.renumber k).prepare.1 = t.prepare.1.renumber k := by
  have hmode : (t.renumber k).mode = t.mode := rfl
  rw [prepare, prepare, attachPoint_renumber, abandon_renumber, hmode]
  cases t.mode <;> rfl

theorem withNode_renumber (t : UndoTree) (place : Option Nat) (r : Revision) :
    (t.renumber k).withNode (place.map (· + k)) r = (t.withNode place r).renumber k := by
  have hinsert := IdMap.shift_insert k (Node.renumber k) t.nodes t.nextId ⟨t.nextId, place, [], r⟩
  have hnext : t.nextId + k + 1 = t.nextId + 1 + k := Nat.add_right_comm _ _ _
  simp only [withNode, renumber, ← hinsert, hnext]
  rfl

theorem attach_renumber {place : Option Nat} (hplace : t.HasPlace place) (r : Revision) :
    (t.renumber k).attach (place.map (· + k)) r = (t.attach place r).renumber k := by
  have hset := setChildren_renumber k (t.withNode place r) place
    (f := (· ++ [t.nextId])) (g := (· ++ [t.nextId + k])) fun ids ↦ by simp
  rw [attach_eq _ r (hasPlace_renumber k hplace), attach_eq t r hplace, withNode_renumber]
  show ({ ((t.withNode place r).renumber k).setChildren (place.map (· + k))
    (· ++ [t.nextId + k]) with current := some (t.nextId + k) } : UndoTree) = _
  rw [hset]
  rfl

namespace WellFormed

theorem push_renumber (h : t.WellFormed) (r : Revision) :
    (t.renumber k).push r = (t.nextId + k, (t.push r).2.renumber k) := by
  have hattach := attach_renumber k h.hasPlace_current_prepare r
  rw [UndoTree.push, UndoTree.push, prepare_renumber, attachPoint_renumber,
    attachPoint_eq h.hasPlace_current, hattach]
  rfl

/-! ### Moving -/

theorem undo_renumber (h : t.WellFormed) :
    ∃ m t', t.undo = .ok (m, t') ∧ (t.renumber k).undo = .ok (m.renumber k, t'.renumber k) := by
  rcases h.undo_cases with ⟨hroot, hu⟩ | ⟨id, n, c, hid, hn, hc, hu⟩
  · have hroot' : (t.renumber k).current = none := by rw [renumber, hroot]; rfl
    refine ⟨_, _, hu, ?_⟩
    rw [UndoTree.undo, hroot']
    rfl
  · have hid' : (t.renumber k).current = some (id + k) := by rw [renumber, hid]; rfl
    have hparent : (t.renumber k).checkpointAt (n.renumber k).parent = .ok (c.renumber k) :=
      checkpointAt_renumber k hc
    refine ⟨_, _, hu, ?_⟩
    rw [UndoTree.undo, hid']
    simp only [nodeAt_eq (node?_renumber_of_eq k hn), bind, Except.bind, hparent]
    rfl

theorem redo_renumber (h : t.WellFormed) :
    ∃ m t', t.redo = .ok (m, t') ∧ (t.renumber k).redo = .ok (m.renumber k, t'.renumber k) := by
  have hplace : (t.renumber k).HasPlace (t.renumber k).current :=
    hasPlace_renumber k h.hasPlace_current
  have hchildren : (t.renumber k).childrenOf (t.renumber k).current =
      (t.childrenOf t.current).map (· + k) := childrenOf_renumber k t t.current
  rcases h.redo_cases with ⟨hnone, hr⟩ | ⟨id, ids, c, hids, hc, hr⟩
  · refine ⟨_, _, hr, ?_⟩
    rw [UndoTree.redo, childrenAt_eq hplace, hchildren, hnone]
    rfl
  · have hchild : (t.renumber k).checkpointAt (some (id + k)) = .ok (c.renumber k) :=
      checkpointAt_renumber k hc
    refine ⟨_, _, hr, ?_⟩
    rw [UndoTree.redo, childrenAt_eq hplace, hchildren, hids]
    simp only [List.map_cons, bind, Except.bind, hchild]
    rfl

end WellFormed

theorem goto_renumber (t : UndoTree) (id : Nat) :
    (t.renumber k).goto (id + k) =
      match t.goto id with
      | .ok (c, t') => .ok (c.renumber k, t'.renumber k)
      | .error e => .error (e.renumber k) := by
  rw [goto, goto, node?_renumber]
  cases t.node? id <;> rfl

/-! ### Calls -/

/-- **A call** comes to the same whether the ids are renumbered before it or after it. -/
theorem WellFormed.apply_renumber (h : t.WellFormed) (c : Call) :
    (t.renumber k).apply (c.renumber k) =
      ((t.apply c).1.renumber k, (t.apply c).2.renumber k) := by
  cases c with
  | push r =>
    show (Answer.pushed ((t.renumber k).push r).1, ((t.renumber k).push r).2) = _
    rw [h.push_renumber]
    rfl
  | undo =>
    show (t.renumber k).apply .undo = _
    obtain ⟨m, t', hu, hu'⟩ := h.undo_renumber k
    rw [UndoTree.apply, hu', UndoTree.apply, hu]
    rfl
  | redo =>
    show (t.renumber k).apply .redo = _
    obtain ⟨m, t', hr, hr'⟩ := h.redo_renumber k
    rw [UndoTree.apply, hr', UndoTree.apply, hr]
    rfl
  | goto id =>
    show (t.renumber k).apply (.goto (id + k)) = _
    rw [UndoTree.apply, goto_renumber, UndoTree.apply]
    cases t.goto id <;> rfl
  | setMode mode => rfl
  | clear d => rfl

/-- Starting again gives a new tree, whose ids begin where those of the old one had come to. -/
theorem clear_eq_renumber (t : UndoTree) (d : Document) :
    t.clear d = (ofDocument d t.mode).renumber t.nextId := by
  rw [clear, renumber, ofDocument, Nat.zero_add]
  rfl

end UndoTree

end Renumber

end TextHistory
