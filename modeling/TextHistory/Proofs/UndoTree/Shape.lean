import TextHistory.Proofs.UndoTree.Places
import TextHistory.Run

/-!
# The shape of an undo tree

An undo tree records the same thing twice: every node names its parent, and every place lists its
children. Undo follows the first record and redo the second, and clearing away follows the second to
drop what the first leads up from. `WellFormed` says that the two agree, that parents are older than
their children, and that the current place exists.

The invariant is strong enough for clearing away (`WellFormed.abandon`). A node that is left cannot
have lost its parent, since whatever lies below the parent goes with it; and a child list that is
left cannot name a node that is gone, since the node is in no other list and would have been reached
through this one. Neither needs the lists to be short, so it makes no difference whether the tree
was grown with branches before it became linear.

Everything that can be done to a tree keeps the invariant (`WellFormed.apply`), and so does every
run of calls. It follows that walking up from any place ends at the root (`WellFormed.up_root`), and
that what is shown of a tree is the tree (`WellFormed.shown`).
-/

open Relation

namespace TextHistory.UndoTree

/-- Parents and child lists tell the same tree, and the current place is in it. -/
structure WellFormed (t : UndoTree) : Prop where
  /-- The current place exists. -/
  hasPlace_current : t.HasPlace t.current
  /-- Every node is kept under its own id. -/
  id_eq : ∀ {k : Nat} {n : Node}, t.node? k = some n → n.id = k
  /-- Every id was handed out. -/
  lt_nextId : ∀ {k : Nat} {n : Node}, t.node? k = some n → k < t.nextId
  /-- Parents are older than their children. -/
  parent_lt : ∀ {k : Nat} {n : Node} {p : Nat}, t.node? k = some n → n.parent = some p → p < k
  /-- A place lists the nodes whose parent it is, and no others. -/
  mem_childrenOf_iff : ∀ {place : Option Nat} {k : Nat},
    k ∈ t.childrenOf place ↔ ∃ n, t.node? k = some n ∧ n.parent = place
  /-- It lists them by age, and none twice. -/
  ascending : ∀ place, (t.childrenOf place).Pairwise (· < ·)

@[simp] theorem current_prepare (t : UndoTree) : t.prepare.1.current = t.current := by
  rw [prepare]
  split
  · rfl
  · exact current_abandon _

theorem wellFormed_ofDocument (d : Document) (mode : HistoryMode) :
    (ofDocument d mode).WellFormed where
  hasPlace_current := trivial
  id_eq h := absurd h (by simp [ofDocument, node?, EmptyCollection.emptyCollection])
  lt_nextId h := absurd h (by simp [ofDocument, node?, EmptyCollection.emptyCollection])
  parent_lt h := absurd h (by simp [ofDocument, node?, EmptyCollection.emptyCollection])
  mem_childrenOf_iff {place k} := by
    cases place <;> simp [ofDocument, childrenOf, node?, EmptyCollection.emptyCollection]
  ascending place := by
    cases place <;> simp [ofDocument, childrenOf, node?, EmptyCollection.emptyCollection]

namespace WellFormed

variable {t : UndoTree} {place q : Option Nat} {k : Nat} {n : Node}

/-- Parents exist. -/
theorem hasPlace_parent (h : t.WellFormed) (hn : t.node? k = some n) : t.HasPlace n.parent :=
  hasPlace_of_mem_childrenOf (h.mem_childrenOf_iff.2 ⟨n, hn, rfl⟩)

/-- Children exist. -/
theorem hasPlace_of_mem (h : t.WellFormed) (hk : k ∈ t.childrenOf q) : t.HasPlace (some k) := by
  obtain ⟨n, hn, -⟩ := h.mem_childrenOf_iff.1 hk
  exact ⟨n, hn⟩

/-- No node is listed under two places. -/
theorem place_unique (h : t.WellFormed) (hp : k ∈ t.childrenOf place) (hq : k ∈ t.childrenOf q) :
    place = q := by
  obtain ⟨n, hn, rfl⟩ := h.mem_childrenOf_iff.1 hp
  obtain ⟨m, hm, rfl⟩ := h.mem_childrenOf_iff.1 hq
  rw [Option.some.inj (hn.symm.trans hm)]

/-- Children are younger than the place that lists them. -/
theorem lt_of_mem_childrenOf (h : t.WellFormed) {p : Nat} (hk : k ∈ t.childrenOf (some p)) :
    p < k := by
  obtain ⟨n, hn, hp⟩ := h.mem_childrenOf_iff.1 hk
  exact h.parent_lt hn hp

/-- Everything below a node is younger than the node. -/
theorem lt_of_below (h : t.WellFormed) {p : Nat} (hk : t.Below (some p) k) : p < k := by
  obtain ⟨a, ha, hwalk⟩ := hk
  have hle : a ≤ k := by
    clear ha
    induction hwalk with
    | refl => exact Nat.le_refl _
    | tail _ hlink ih =>
      -- ids grow with every step of the walk
      have hlt := h.lt_of_mem_childrenOf (link_iff.1 hlink)
      exact Nat.le_trans ih (Nat.le_of_lt hlt)
  exact Nat.lt_of_lt_of_le (h.lt_of_mem_childrenOf ha) hle

/-! ### Recording -/

/-- The current place is never among what is cleared away. -/
theorem not_below_current (h : t.WellFormed) (hk : t.current = some k) :
    ¬t.Below t.current k := fun hbelow ↦ by
  rw [hk] at hbelow
  exact Nat.lt_irrefl _ (h.lt_of_below hbelow)

/-- What lies below the current place is in no child list any more. -/
theorem mem_childrenOf_abandon_iff (h : t.WellFormed) :
    k ∈ (t.abandon t.current).1.childrenOf q ↔ ¬t.Below t.current k ∧ k ∈ t.childrenOf q := by
  constructor
  · intro hk
    have hq := hasPlace_of_mem_childrenOf hk
    rw [childrenOf_abandon hq] at hk
    split at hk
    · exact absurd hk List.not_mem_nil
    · next hne =>
      refine ⟨fun hbelow ↦ ?_, hk⟩
      rcases below_iff.1 hbelow with hcur | ⟨a, ha, hak⟩
      · exact hne (h.place_unique hk hcur)
      · -- the place that lists it would be gone as well
        obtain rfl := h.place_unique hk hak
        exact (hasPlace_abandon_iff.1 hq).1 ha
  · rintro ⟨hbelow, hk⟩
    have hne : q ≠ t.current := fun hq ↦ hbelow (below_iff.2 (Or.inl (hq ▸ hk)))
    have hq : (t.abandon t.current).1.HasPlace q := by
      cases q with
      | none => trivial
      | some a =>
        have ha : ¬t.Below t.current a := fun ha ↦ hbelow (below_iff.2 (Or.inr ⟨a, ha, hk⟩))
        exact hasPlace_abandon_iff.2 ⟨ha, hasPlace_of_mem_childrenOf hk⟩
    rw [childrenOf_abandon hq, if_neg hne]
    exact hk

/-- **Clearing away** keeps the shape. -/
theorem abandon (h : t.WellFormed) : (t.abandon t.current).1.WellFormed where
  hasPlace_current := by
    have hcur := h.hasPlace_current
    rw [current_abandon]
    cases hk : t.current with
    | none => trivial
    | some k =>
      have hbelow := h.not_below_current hk
      rw [hk] at hcur hbelow
      exact hasPlace_abandon_iff.2 ⟨hbelow, hcur⟩
  id_eq hm := by
    obtain ⟨n, hn, -, rfl⟩ := node?_abandon_eq_some_iff.1 hm
    have hid := h.id_eq hn
    split <;> exact hid
  lt_nextId hm := by
    obtain ⟨n, hn, -, -⟩ := node?_abandon_eq_some_iff.1 hm
    rw [nextId_abandon]
    exact h.lt_nextId hn
  parent_lt hm hp := by
    obtain ⟨n, hn, -, rfl⟩ := node?_abandon_eq_some_iff.1 hm
    split at hp <;> exact h.parent_lt hn hp
  mem_childrenOf_iff {q k} := by
    rw [exists_node?_abandon_iff (P := fun n ↦ n.parent = q) fun _ _ ↦ Iff.rfl,
      ← h.mem_childrenOf_iff]
    exact h.mem_childrenOf_abandon_iff
  ascending q := by
    by_cases hq : (t.abandon t.current).1.HasPlace q
    · rw [childrenOf_abandon hq]
      split
      · exact .nil
      · exact h.ascending q
    · rw [childrenOf_of_not_hasPlace hq]
      exact .nil

theorem ne_nextId (h : t.WellFormed) (hplace : t.HasPlace place) : place ≠ some t.nextId := by
  rintro rfl
  obtain ⟨n, hn⟩ := hplace
  exact Nat.lt_irrefl _ (h.lt_nextId hn)

/-- The next id is new. -/
theorem node?_nextId (h : t.WellFormed) : t.node? t.nextId = none := by
  cases hn : t.node? t.nextId with
  | none => rfl
  | some n => exact absurd (h.lt_nextId hn) (Nat.lt_irrefl _)

theorem nextId_not_mem_childrenOf (h : t.WellFormed) : t.nextId ∉ t.childrenOf q := fun hk ↦
  h.ne_nextId (h.hasPlace_of_mem hk) rfl

/-- The new node is listed under its place only, and the old ones where they were. -/
theorem mem_childrenOf_attach_iff (h : t.WellFormed) (hplace : t.HasPlace place) (r : Revision) :
    k ∈ (t.attach place r).childrenOf q ↔ k = t.nextId ∧ q = place ∨ k ∈ t.childrenOf q := by
  have hfresh := h.ne_nextId hplace
  rw [childrenOf_attach t r hplace hfresh]
  by_cases hnext : q = some t.nextId
  · subst hnext
    have hnone : k ∉ t.childrenOf (some t.nextId) := fun hmem ↦
      h.ne_nextId (hasPlace_of_mem_childrenOf hmem) rfl
    simp [hnone, Ne.symm hfresh]
  · rw [if_neg hnext]
    by_cases hq : q = place
    · simp [hq, or_comm]
    · simp [hq]

/-- **Attaching** keeps the shape. -/
theorem attach (h : t.WellFormed) (hplace : t.HasPlace place) (r : Revision) :
    (t.attach place r).WellFormed where
  hasPlace_current := by
    rw [current_attach, HasPlace, node?_attach t r hplace, node?_withNode, if_pos rfl]
    exact ⟨_, rfl⟩
  id_eq {k m} hm := by
    obtain ⟨n, cs, rfl, ⟨rfl, rfl⟩ | hn⟩ := node?_attach_cases t r hplace hm
    · rfl
    · have hid := h.id_eq hn
      exact hid
  lt_nextId {k m} hm := by
    rw [nextId_attach]
    obtain ⟨n, cs, -, ⟨rfl, -⟩ | hn⟩ := node?_attach_cases t r hplace hm
    · exact Nat.lt_succ_self _
    · exact Nat.lt_succ_of_lt (h.lt_nextId hn)
  parent_lt {k m p} hm hp := by
    obtain ⟨n, cs, rfl, ⟨rfl, rfl⟩ | hn⟩ := node?_attach_cases t r hplace hm
    · obtain rfl : place = some p := hp
      obtain ⟨n, hn⟩ := hplace
      exact h.lt_nextId hn
    · exact h.parent_lt hn hp
  mem_childrenOf_iff {q k} := by
    rw [exists_node?_attach_iff t r hplace (P := fun n ↦ n.parent = q) fun _ _ ↦ Iff.rfl,
      h.mem_childrenOf_attach_iff hplace r, node?_withNode]
    by_cases hk : k = t.nextId
    · subst hk
      have hnew := h.nextId_not_mem_childrenOf (q := q)
      simp [hnew, eq_comm]
    · rw [if_neg hk, ← h.mem_childrenOf_iff]
      simp [hk]
  ascending q := by
    rw [childrenOf_attach t r hplace (h.ne_nextId hplace)]
    split
    · exact .nil
    · split
      · refine List.pairwise_append.2 ⟨h.ascending q, List.pairwise_singleton _ _, ?_⟩
        intro a ha b hb
        obtain rfl := List.mem_singleton.1 hb
        obtain ⟨n, hn⟩ := h.hasPlace_of_mem ha
        exact h.lt_nextId hn
      · exact h.ascending q

theorem prepare (h : t.WellFormed) : t.prepare.1.WellFormed := by
  rw [UndoTree.prepare]
  split
  · exact h
  · rw [attachPoint_eq h.hasPlace_current]
    exact h.abandon

/-- **Recording a revision** keeps the shape, in either mode. -/
theorem push (h : t.WellFormed) (r : Revision) : (t.push r).2.WellFormed := by
  have hplace := h.prepare.hasPlace_current
  rw [current_prepare] at hplace
  rw [UndoTree.push, attachPoint_eq h.hasPlace_current]
  exact h.prepare.attach hplace r

/-! ### Moving -/

/-- The shape is a matter of the nodes and the child lists. Besides them, only the current place has
to exist, and the next id to be new. -/
theorem of_nodes_eq (h : t.WellFormed) {u : UndoTree} (hnodes : u.nodes = t.nodes)
    (hroot : u.rootChildren = t.rootChildren) (hnext : t.nextId ≤ u.nextId)
    (hcur : t.HasPlace u.current) : u.WellFormed := by
  have hnode : ∀ k, u.node? k = t.node? k := fun k ↦ by rw [node?, node?, hnodes]
  have hchildren : ∀ q, u.childrenOf q = t.childrenOf q := fun q ↦ by
    cases q with
    | none => exact hroot
    | some k => rw [childrenOf, childrenOf, hnode]
  constructor
  case hasPlace_current =>
    cases hk : u.current with
    | none => trivial
    | some k =>
      rw [hk] at hcur
      obtain ⟨n, hn⟩ := hcur
      exact ⟨n, (hnode k).trans hn⟩
  case id_eq => exact fun hn ↦ h.id_eq ((hnode _).symm.trans hn)
  case lt_nextId =>
    exact fun hn ↦ Nat.lt_of_lt_of_le (h.lt_nextId ((hnode _).symm.trans hn)) hnext
  case parent_lt => exact fun hn hp ↦ h.parent_lt ((hnode _).symm.trans hn) hp
  case mem_childrenOf_iff =>
    intro q k
    rw [hchildren, hnode]
    exact h.mem_childrenOf_iff
  case ascending =>
    intro q
    rw [hchildren]
    exact h.ascending q

/-- Moving to a place that exists keeps the shape. -/
theorem moveTo (h : t.WellFormed) (hq : t.HasPlace q) :
    ({ t with current := q } : UndoTree).WellFormed :=
  h.of_nodes_eq rfl rfl (Nat.le_refl _) hq

/-- The state of a place that exists can be looked up. -/
theorem exists_checkpointAt (h : t.WellFormed) (hq : t.HasPlace q) :
    ∃ c, t.checkpointAt q = .ok c ∧ c.node = q := by
  cases q with
  | none => exact ⟨_, rfl, rfl⟩
  | some k =>
    obtain ⟨n, hn⟩ := hq
    exact ⟨n.checkpoint, checkpointAt_some hn, congrArg some (h.id_eq hn)⟩

/-- **Undo** stays at the root, and moves from a node to its parent. -/
theorem undo_cases (h : t.WellFormed) :
    (t.current = none ∧ t.undo = .ok (.atOldest, t)) ∨
      ∃ k n c, t.current = some k ∧ t.node? k = some n ∧ t.checkpointAt n.parent = .ok c ∧
        t.undo = .ok (.moved c, { t with current := n.parent }) := by
  have hcur := h.hasPlace_current
  rw [UndoTree.undo]
  cases hk : t.current with
  | none => exact Or.inl ⟨rfl, rfl⟩
  | some k =>
    rw [hk] at hcur
    obtain ⟨n, hn⟩ := hcur
    obtain ⟨c, hc, -⟩ := h.exists_checkpointAt (h.hasPlace_parent hn)
    refine Or.inr ⟨k, n, c, rfl, hn, hc, ?_⟩
    simp only [nodeAt_eq hn, bind, Except.bind, hc]
    rfl

/-- **Redo** stays where there are no children, and moves to the oldest child else. -/
theorem redo_cases (h : t.WellFormed) :
    (t.childrenOf t.current = [] ∧ t.redo = .ok (.atNewest, t)) ∨
      ∃ k ks c, t.childrenOf t.current = k :: ks ∧ t.checkpointAt (some k) = .ok c ∧
        t.redo = .ok (.moved c, { t with current := some k }) := by
  rw [UndoTree.redo, childrenAt_eq h.hasPlace_current]
  cases hks : t.childrenOf t.current with
  | nil => exact Or.inl ⟨rfl, rfl⟩
  | cons k ks =>
    have hmem : k ∈ t.childrenOf t.current := by rw [hks]; exact List.mem_cons_self
    obtain ⟨c, hc, -⟩ := h.exists_checkpointAt (h.hasPlace_of_mem hmem)
    refine Or.inr ⟨k, ks, c, rfl, hc, ?_⟩
    simp only [bind, Except.bind, hc]
    rfl

/-! ### Calls -/

/-- **The step.** Whatever is done to a tree, it keeps its shape. -/
theorem apply (h : t.WellFormed) (c : Call) : (t.apply c).2.WellFormed := by
  cases c with
  | push r => exact h.push r
  | undo =>
    rcases h.undo_cases with ⟨-, hu⟩ | ⟨k, n, c, -, hn, -, hu⟩
    · rw [UndoTree.apply, hu]
      exact h
    · rw [UndoTree.apply, hu]
      exact h.moveTo (h.hasPlace_parent hn)
  | redo =>
    rcases h.redo_cases with ⟨-, hr⟩ | ⟨k, ks, c, hks, -, hr⟩
    · rw [UndoTree.apply, hr]
      exact h
    · rw [UndoTree.apply, hr]
      exact h.moveTo (h.hasPlace_of_mem (hks ▸ List.mem_cons_self))
  | goto id =>
    rw [UndoTree.apply, UndoTree.goto]
    cases hn : t.node? id with
    | none => exact h
    | some n => exact h.moveTo ⟨n, hn⟩
  | setMode mode =>
    exact h.of_nodes_eq rfl rfl (Nat.le_refl _) h.hasPlace_current
  | clear d =>
    exact (wellFormed_ofDocument d t.mode).of_nodes_eq rfl rfl (Nat.zero_le _) trivial

end WellFormed

/-- Every run of calls on a new tree ends in a tree of this shape. -/
theorem wellFormed_after (d : Document) (mode : HistoryMode) (cs : List Call) :
    (after UndoTree.apply (ofDocument d mode) cs).WellFormed :=
  after_induction _ (fun _ c h ↦ h.apply c) (wellFormed_ofDocument d mode) cs

/-! ### Walking up -/

/-- One step up, from a node to its parent. -/
def Up (t : UndoTree) (a b : Option Nat) : Prop :=
  ∃ k n, a = some k ∧ t.node? k = some n ∧ n.parent = b

/-- How far up a place can be at most: the root is the highest, and older nodes are higher. -/
def rank (place : Option Nat) : Nat := place.elim 0 Nat.succ

namespace WellFormed

variable {t : UndoTree} {a b : Option Nat}

theorem rank_lt_of_up (h : t.WellFormed) (hup : t.Up a b) : rank b < rank a := by
  obtain ⟨k, n, rfl, hn, rfl⟩ := hup
  cases hp : n.parent with
  | none => exact Nat.succ_pos k
  | some p => exact Nat.succ_lt_succ (h.parent_lt hn hp)

/-- However far a walk goes up, it comes to places that are higher. -/
theorem rank_lt_of_transGen_up (h : t.WellFormed) (hwalk : TransGen t.Up a b) :
    rank b < rank a := by
  induction hwalk with
  | single hup => exact h.rank_lt_of_up hup
  | tail _ hup ih => exact Nat.lt_trans (h.rank_lt_of_up hup) ih

/-- Walking up never comes back. -/
theorem not_transGen_up_self (h : t.WellFormed) : ¬TransGen t.Up a a := fun hloop ↦
  Nat.lt_irrefl _ (h.rank_lt_of_transGen_up hloop)

/-- **Walking up ends at the root**, from any place that exists. -/
theorem up_root (h : t.WellFormed) (ha : t.HasPlace a) : ReflTransGen t.Up a none := by
  induction hr : rank a using Nat.strongRecOn generalizing a with
  | ind r ih =>
    cases a with
    | none => exact .refl
    | some k =>
      obtain ⟨n, hn⟩ := ha
      have hup : t.Up (some k) n.parent := ⟨k, n, rfl, hn, rfl⟩
      exact (ih _ (hr ▸ h.rank_lt_of_up hup) (h.hasPlace_parent hn) rfl).head hup

end WellFormed

end TextHistory.UndoTree
