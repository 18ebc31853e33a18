import TextHistory.Proofs.UndoTree.Permanence

/-!
# Up and down the tree

Undo follows a parent and redo an oldest child, so redo takes an undo back where the node is the
oldest child of its parent (`IsFirstChild`). Once a node is that, it remains so while it is there
(`WellFormed.isFirstChild_of_grew`): children that come later are younger, and no older id is handed
out again. In a linear tree every new node is the only child of its parent
(`WellFormed.isFirstChild_push_of_linear`).

The tree stays fixed here while the current place moves about, since undo and redo change nothing
else.
-/

namespace TextHistory.UndoTree

variable {t t' : UndoTree} {a b : Option Nat} {k : Nat}

/-- The node is the oldest child of a place. -/
def IsFirstChild (t : UndoTree) (place : Option Nat) (k : Nat) : Prop :=
  (t.childrenOf place).head? = some k

/-- The current place is a node that is the oldest child of its parent. -/
def AtFirstChild (t : UndoTree) : Prop :=
  ∃ k n, t.current = some k ∧ t.node? k = some n ∧ t.IsFirstChild n.parent k

theorem checkpointAt_moveTo (t : UndoTree) (a b : Option Nat) :
    ({ t with current := a } : UndoTree).checkpointAt b = t.checkpointAt b := by
  cases b <;> rfl

theorem childrenOf_moveTo (t : UndoTree) (a b : Option Nat) :
    ({ t with current := a } : UndoTree).childrenOf b = t.childrenOf b := by
  cases b <;> rfl

namespace WellFormed

/-! ### One step up or down -/

/-- Undo goes up. -/
theorem undo_of_up (h : t.WellFormed) (hup : t.Up a b) :
    ∃ c, t.checkpointAt b = .ok c ∧
      ({ t with current := a } : UndoTree).undo = .ok (.moved c, { t with current := b }) := by
  obtain ⟨k, n, rfl, hn, rfl⟩ := hup
  have hk : t.HasPlace (some k) := ⟨n, hn⟩
  rcases (h.moveTo hk).undo_cases with ⟨hroot, -⟩ | ⟨k', n', c, hk', hn', hc, hu⟩
  · exact absurd hroot (by simp)
  · obtain rfl : k = k' := Option.some.inj hk'
    obtain rfl : n = n' := Option.some.inj (hn.symm.trans hn')
    exact ⟨c, (checkpointAt_moveTo t _ _).symm.trans hc, hu⟩

/-- Redo goes down to the oldest child. -/
theorem redo_of_isFirstChild (h : t.WellFormed) (hfirst : t.IsFirstChild a k) :
    ∃ c, t.checkpointAt (some k) = .ok c ∧
      ({ t with current := a } : UndoTree).redo = .ok (.moved c, { t with current := some k }) := by
  have ha : t.HasPlace a := hasPlace_of_mem_childrenOf (List.mem_of_mem_head? hfirst)
  rcases (h.moveTo ha).redo_cases with ⟨hnone, -⟩ | ⟨k', ks, c, hks, hc, hr⟩
  · rw [childrenOf_moveTo] at hnone
    rw [IsFirstChild, hnone] at hfirst
    exact absurd hfirst (by simp)
  · rw [childrenOf_moveTo] at hks
    rw [IsFirstChild, hks] at hfirst
    obtain rfl : k' = k := Option.some.inj hfirst
    exact ⟨c, (checkpointAt_moveTo t _ _).symm.trans hc, hr⟩

/-! ### Oldest children -/

/-- A child is the oldest if no other is older. -/
theorem isFirstChild_of_le (h : t.WellFormed) (hk : k ∈ t.childrenOf a)
    (hle : ∀ x ∈ t.childrenOf a, k ≤ x) : t.IsFirstChild a k := by
  have hasc := h.ascending a
  rw [IsFirstChild]
  cases hks : t.childrenOf a with
  | nil => exact absurd (hks ▸ hk) List.not_mem_nil
  | cons x xs =>
    rw [hks] at hk hle hasc
    rcases List.mem_cons.1 hk with rfl | hxs
    · rfl
    · have hlt := List.rel_of_pairwise_cons hasc hxs
      exact absurd (hle x List.mem_cons_self) (Nat.not_le.2 hlt)

/-- The oldest child is older than the others. -/
theorem le_of_isFirstChild (h : t.WellFormed) (hfirst : t.IsFirstChild a k) {x : Nat}
    (hx : x ∈ t.childrenOf a) : k ≤ x := by
  have hasc := h.ascending a
  rw [IsFirstChild] at hfirst
  cases hks : t.childrenOf a with
  | nil => exact absurd (hks ▸ hx) List.not_mem_nil
  | cons y ys =>
    rw [hks] at hfirst hx hasc
    obtain rfl : y = k := Option.some.inj hfirst
    rcases List.mem_cons.1 hx with rfl | hys
    · exact Nat.le_refl _
    · exact Nat.le_of_lt (List.rel_of_pairwise_cons hasc hys)

/-- **An oldest child stays the oldest**, while it is there. -/
theorem isFirstChild_of_grew (h : t.WellFormed) (h' : t'.WellFormed) (hgrew : t.Grew t')
    (hfirst : t.IsFirstChild a k) (hk : t'.HasPlace (some k)) : t'.IsFirstChild a k := by
  have hmem : k ∈ t.childrenOf a := List.mem_of_mem_head? hfirst
  obtain ⟨n, hn, hparent⟩ := h.mem_childrenOf_iff.1 hmem
  have hmem' : k ∈ t'.childrenOf a := by
    obtain ⟨m, hm⟩ := hk
    obtain ⟨n', cs, hn', rfl⟩ := hgrew.node (h.lt_nextId hn) hm
    obtain rfl : n = n' := Option.some.inj (hn.symm.trans hn')
    exact h'.mem_childrenOf_iff.2 ⟨_, hm, hparent⟩
  refine h'.isFirstChild_of_le hmem' fun x hx ↦ Nat.le_of_not_lt fun hlt ↦ ?_
  -- an older child has been there before, under the same parent
  obtain ⟨m, hm, rfl⟩ := h'.mem_childrenOf_iff.1 hx
  obtain ⟨n', cs, hn', rfl⟩ := hgrew.node (Nat.lt_trans hlt (h.lt_nextId hn)) hm
  exact Nat.not_le.2 hlt (h.le_of_isFirstChild hfirst (h.mem_childrenOf_iff.2 ⟨n', hn', rfl⟩))

/-- What is recorded in a linear tree is the only child of its place. -/
theorem isFirstChild_push_of_linear (h : t.WellFormed) (hmode : t.mode = .linear) (r : Revision) :
    (t.push r).2.IsFirstChild t.current t.nextId := by
  have hplace := h.hasPlace_current_prepare
  have hcleared : t.prepare.1.childrenOf t.current = [] := by
    rw [UndoTree.prepare, hmode, attachPoint_eq h.hasPlace_current]
    have hleft := h.abandon.hasPlace_current
    rw [current_abandon] at hleft
    exact (childrenOf_abandon hleft).trans (if_pos rfl)
  have hchild : ∀ {x}, x ∈ (t.push r).2.childrenOf t.current ↔ x = t.nextId := fun {x} ↦ by
    rw [h.push_eq, h.prepare.mem_childrenOf_attach_iff hplace, hcleared, nextId_prepare]
    simp
  exact (h.push r).isFirstChild_of_le (hchild.2 rfl) fun x hx ↦ Nat.le_of_eq (hchild.1 hx).symm

end WellFormed

/-! ### The mode -/

/-- The mode is what it was set to. -/
theorem WellFormed.mode_apply (h : t.WellFormed) {c : Call} (hc : ∀ mode, c ≠ .setMode mode) :
    (t.apply c).2.mode = t.mode := by
  cases c with
  | push r => exact mode_push t r
  | undo =>
    rw [UndoTree.apply]
    rcases h.undo_cases with ⟨-, hu⟩ | ⟨k, n, c, -, -, -, hu⟩ <;> rw [hu]
  | redo =>
    rw [UndoTree.apply]
    rcases h.redo_cases with ⟨-, hr⟩ | ⟨k, ks, c, -, -, hr⟩ <;> rw [hr]
  | goto id =>
    rw [UndoTree.apply, UndoTree.goto]
    cases t.node? id <;> rfl
  | setMode mode => exact absurd rfl (hc mode)
  | clear d => rfl

theorem WellFormed.mode_after (h : t.WellFormed) {cs : List Call}
    (hcs : ∀ c ∈ cs, ∀ mode, c ≠ .setMode mode) : (after UndoTree.apply t cs).mode = t.mode :=
  (after_induction_of_mem (P := fun u : UndoTree ↦ u.WellFormed ∧ u.mode = t.mode) UndoTree.apply
    (fun _ c hc h ↦ ⟨h.1.apply c, (h.1.mode_apply hc).trans h.2⟩) ⟨h, rfl⟩ hcs).2

end TextHistory.UndoTree
