import TextHistory.Proofs.UndoTree.Permanence

/-!
# What recording a revision does to a tree

A revision recorded in a branching tree is one node more, and one child more of the place that was
current. In a linear tree it also takes the place of all that was recorded further down: the proper
descendants of the current place go, and nothing else does (`WellFormed.hasPlace_push_iff`). What
was cleared away by following child lists is told here by following parents, which in a tree in good
shape comes to the same (`WellFormed.below_iff_transGen_up`).

Whatever is left is as it was (`Recorded`). No node has been changed but the one that the new node
is below, and that only in its child list. The way up from the current place is left in particular,
since no place is below itself, and so is every branch that parts from this way, in a tree of
whatever shape. So it makes no difference whether a linear tree has always been linear.
-/

open Relation

namespace TextHistory.UndoTree

/-- What recording a revision makes of a tree: `id` is the id that the revision gets, and `t'` is
the tree afterwards. -/
structure Recorded (t : UndoTree) (r : Revision) (id : Nat) (t' : UndoTree) : Prop where
  /-- The id was not in use. -/
  fresh : t.node? id = none
  /-- The new node is below what was the current place, -/
  node : t'.node? id = some ⟨id, t.current, [], r⟩
  /-- and is the current place now. -/
  current : t'.current = some id
  /-- The document before the first edit stays, -/
  rootSnapshot : t'.rootSnapshot = t.rootSnapshot
  /-- and so does the mode. -/
  mode : t'.mode = t.mode
  /-- In a branching tree, all nodes are left, and the place has one more child. -/
  branching : t.mode = .branching →
    (∀ k, t'.HasPlace (some k) ↔ k = id ∨ t.HasPlace (some k)) ∧
      t'.childrenOf t.current = t.childrenOf t.current ++ [id]
  /-- In a linear tree, the nodes are left that were not below the place, and the place has one
  child. -/
  linear : t.mode = .linear →
    (∀ k, t'.HasPlace (some k) ↔
      k = id ∨ t.HasPlace (some k) ∧ ¬TransGen t.Up (some k) t.current) ∧
      t'.childrenOf t.current = [id]
  /-- At the root of a linear tree, no other node is left. -/
  linear_root : t.mode = .linear → t.current = none → ∀ k, t'.HasPlace (some k) ↔ k = id
  /-- The place is left, and so is all that is above it. -/
  above : ∀ place, ReflTransGen t.Up t.current place → t'.HasPlace place
  /-- What is not below the place is left. -/
  beside : ∀ k, t.HasPlace (some k) → ¬TransGen t.Up (some k) t.current → t'.HasPlace (some k)
  /-- A node that is left shows what it showed, below the place where it was, and unless the new
  node is below it, its children are the same. -/
  kept : ∀ k n m, t.node? k = some n → t'.node? k = some m →
    m = { n with children := m.children } ∧ (t.current ≠ some k → m = n)
  /-- So are the children of the root. -/
  rootChildren : t.current ≠ none → t'.rootChildren = t.rootChildren

variable {t : UndoTree} {place q : Option Nat} {k : Nat}

namespace WellFormed

/-! ### Above and below -/

/-- Parents and child lists tell the same tree. -/
theorem up_iff (h : t.WellFormed) : t.Up (some k) q ↔ k ∈ t.childrenOf q := by
  rw [h.mem_childrenOf_iff]
  constructor
  · rintro ⟨k', n, hk, hn, hparent⟩
    obtain rfl := Option.some.inj hk
    exact ⟨n, hn, hparent⟩
  · rintro ⟨n, hn, hparent⟩
    exact ⟨k, n, rfl, hn, hparent⟩

/-- **Descendants** are found by going down the child lists as well as by going up from parent to
parent. -/
theorem below_iff_transGen_up (h : t.WellFormed) :
    t.Below place k ↔ TransGen t.Up (some k) place := by
  constructor
  · rintro ⟨a, ha, hwalk⟩
    induction hwalk with
    | refl => exact .single (h.up_iff.2 ha)
    | tail _ hlink ih => exact .head (h.up_iff.2 (link_iff.1 hlink)) ih
  · intro hwalk
    generalize hk : some k = a at hwalk
    induction hwalk using TransGen.head_induction_on generalizing k with
    | single hup =>
      subst hk
      exact below_iff.2 (Or.inl (h.up_iff.1 hup))
    | @head a c hup hrest ih =>
      subst hk
      -- what lies above a place with something above it is a node
      obtain ⟨b, hb⟩ : ∃ b, some b = c := by
        obtain ⟨c', ⟨b, _, rfl, -⟩, -⟩ := TransGen.head'_iff.1 hrest
        exact ⟨b, rfl⟩
      exact below_iff.2 (Or.inr ⟨b, ih hb, h.up_iff.1 (hb ▸ hup)⟩)

/-- Whatever is above a place that exists exists. -/
theorem hasPlace_of_above (h : t.WellFormed) (hplace : t.HasPlace place)
    (hwalk : ReflTransGen t.Up place q) : t.HasPlace q := by
  induction hwalk with
  | refl => exact hplace
  | tail _ hup _ =>
    obtain ⟨k, n, -, hn, rfl⟩ := hup
    exact h.hasPlace_parent hn

/-- No place is below what is above it. -/
theorem not_transGen_up_of_above (h : t.WellFormed) (hwalk : ReflTransGen t.Up place q) :
    ¬TransGen t.Up q place := fun hback ↦
  h.not_transGen_up_self (TransGen.trans_right hwalk hback)

/-- Every node is below the root. -/
theorem transGen_up_root (h : t.WellFormed) (hk : t.HasPlace (some k)) :
    TransGen t.Up (some k) none := by
  obtain heq | hwalk := reflTransGen_iff_eq_or_transGen.1 (h.up_root hk)
  · exact absurd heq (by simp)
  · exact hwalk

/-! ### Recording -/

/-- **What is left** when a revision is recorded. -/
theorem hasPlace_push_iff (h : t.WellFormed) (r : Revision) :
    (t.push r).2.HasPlace (some k) ↔
      k = t.nextId ∨ t.HasPlace (some k) ∧
        ¬(t.mode = .linear ∧ TransGen t.Up (some k) t.current) := by
  rw [h.push_eq, hasPlace_attach_iff h.hasPlace_current_prepare, nextId_prepare,
    h.hasPlace_prepare_iff, h.below_iff_transGen_up]

theorem childrenOf_prepare (h : t.WellFormed) (hq : t.prepare.1.HasPlace q) :
    t.prepare.1.childrenOf q =
      if t.mode = .linear ∧ q = t.current then [] else t.childrenOf q := by
  rw [UndoTree.prepare, attachPoint_eq h.hasPlace_current] at hq ⊢
  cases hmode : t.mode with
  | branching => simp
  | linear =>
    rw [hmode] at hq
    simpa using childrenOf_abandon hq

/-- **The child lists** when a revision is recorded. -/
theorem childrenOf_push (h : t.WellFormed) (r : Revision) (hq : t.prepare.1.HasPlace q) :
    (t.push r).2.childrenOf q =
      if q = t.current then
        (if t.mode = .linear then [] else t.childrenOf q) ++ [t.nextId]
      else t.childrenOf q := by
  have hfresh := h.prepare.ne_nextId h.hasPlace_current_prepare
  have hnew := h.prepare.ne_nextId hq
  rw [h.push_eq, childrenOf_attach _ r h.hasPlace_current_prepare hfresh, if_neg hnew,
    h.childrenOf_prepare hq, nextId_prepare]
  by_cases hcur : q = t.current <;> simp [hcur]

/-- The new node has no children yet. -/
theorem node?_push (h : t.WellFormed) (r : Revision) :
    (t.push r).2.node? t.nextId = some ⟨t.nextId, t.current, [], r⟩ := by
  obtain ⟨ks, hnode⟩ := h.exists_node?_push r
  have hfresh := h.prepare.ne_nextId h.hasPlace_current_prepare
  have hnone : (t.push r).2.childrenOf (some t.nextId) = [] := by
    rw [h.push_eq, childrenOf_attach _ r h.hasPlace_current_prepare hfresh, nextId_prepare,
      if_pos rfl]
  rw [childrenOf_some hnode] at hnone
  rw [hnode]
  exact congrArg (fun ks ↦ some (Node.mk t.nextId t.current ks r)) hnone

/-- A node that is left is the old one, up to the children of the place that was current. -/
theorem node?_push_of_node? (h : t.WellFormed) (r : Revision) {n m : Node}
    (hn : t.node? k = some n) (hm : (t.push r).2.node? k = some m) :
    m = { n with children := m.children } ∧ (t.current ≠ some k → m = n) := by
  have hold : k ≠ t.nextId := Nat.ne_of_lt (h.lt_nextId hn)
  obtain ⟨n', ks, rfl, ⟨hnew, -⟩ | hn'⟩ := h.node?_push_cases r hm
  · exact absurd hnew hold
  · obtain rfl := Option.some.inj (hn.symm.trans hn')
    refine ⟨rfl, fun hcur ↦ ?_⟩
    have hplace : t.prepare.1.HasPlace (some k) := by
      have hleft : (t.push r).2.HasPlace (some k) := ⟨_, hm⟩
      rw [h.push_eq, hasPlace_attach_iff h.hasPlace_current_prepare, nextId_prepare] at hleft
      exact hleft.resolve_left hold
    have hchildren := h.childrenOf_push r hplace
    rw [if_neg (Ne.symm hcur), childrenOf_some hm, childrenOf_some hn] at hchildren
    exact congrArg (fun ks ↦ { n with children := ks }) hchildren

/-- **Recording a revision** adds a node and drops what it takes the place of. -/
theorem recorded_push (h : t.WellFormed) (r : Revision) :
    t.Recorded r t.nextId (t.push r).2 where
  fresh := h.node?_nextId
  node := h.node?_push r
  current := current_push t r
  rootSnapshot := rootSnapshot_push t r
  mode := mode_push t r
  branching hmode := by
    refine ⟨fun k ↦ ?_, ?_⟩
    · simp [h.hasPlace_push_iff, hmode]
    · rw [h.childrenOf_push r h.hasPlace_current_prepare, if_pos rfl, hmode]
      rfl
  linear hmode := by
    refine ⟨fun k ↦ ?_, ?_⟩
    · simp [h.hasPlace_push_iff, hmode]
    · rw [h.childrenOf_push r h.hasPlace_current_prepare, if_pos rfl, if_pos hmode]
      rfl
  linear_root hmode hroot k := by
    rw [h.hasPlace_push_iff, hmode, hroot]
    refine or_iff_left fun hleft ↦ hleft.2 ⟨rfl, h.transGen_up_root hleft.1⟩
  above place hwalk := by
    cases place with
    | none => trivial
    | some k =>
      have hplace := h.hasPlace_of_above h.hasPlace_current hwalk
      exact (h.hasPlace_push_iff r).2
        (Or.inr ⟨hplace, fun hbelow ↦ h.not_transGen_up_of_above hwalk hbelow.2⟩)
  beside k hk hbelow := (h.hasPlace_push_iff r).2 (Or.inr ⟨hk, fun hlin ↦ hbelow hlin.2⟩)
  kept _ _ _ hn hm := h.node?_push_of_node? r hn hm
  rootChildren hcur := (h.childrenOf_push r (q := none) trivial).trans (if_neg (Ne.symm hcur))

end WellFormed

/-- **Recording keeps everything but the abandoned branch.** After any run of calls on a new tree,
in whatever modes, recording a revision gives it a new id and makes of the tree what `Recorded`
says; and moving about or changing the mode leaves all nodes, all child lists and the document at
the root as they are. -/
theorem recorded_after_calls (d : Document) (mode : HistoryMode) (cs : List Call) :
    let t := after apply (ofDocument d mode) cs
    (∀ r, ∃ id t', t.apply (.push r) = (.pushed id, t') ∧ t.Recorded r id t') ∧
      ∀ (id : Nat) (mode' : HistoryMode), ∀ c ∈ [.undo, .redo, .goto id, .setMode mode'],
        (t.apply c).2.nodes = t.nodes ∧ (t.apply c).2.rootChildren = t.rootChildren ∧
          (t.apply c).2.rootSnapshot = t.rootSnapshot := by
  intro t
  have h : t.WellFormed := wellFormed_after d mode cs
  refine ⟨fun r ↦ ⟨t.nextId, (t.push r).2, rfl, h.recorded_push r⟩, fun id mode' c hc ↦ ?_⟩
  rcases h.apply_cases c with ⟨r, rfl⟩ | ⟨d, rfl⟩ | ⟨-, place, mode'', happly⟩
  · exact absurd hc (by simp)
  · exact absurd hc (by simp)
  · rw [happly]
    exact ⟨rfl, rfl, rfl⟩

/-- A branched tree becomes linear; what is recorded next takes the place of one branch, and the
other one stays. -/
example :
    let r : Revision := ⟨"edit", .empty, none, none⟩
    let t := after apply (ofDocument .empty .branching)
      [.push r, .push r, .push r, .goto 0, .push r, .push r, .goto 1, .setMode .linear, .push r]
    t.summaries.map (fun s ↦ (s.id, s.parent, s.children)) =
      [(0, none, [1, 3]), (1, some 0, [5]), (3, some 0, [4]), (4, some 3, []),
        (5, some 1, [])] := by
  cbv

end TextHistory.UndoTree
