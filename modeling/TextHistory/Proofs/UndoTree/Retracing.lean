import TextHistory.Proofs.UndoTree.Linear
import TextHistory.Proofs.UndoTree.Navigation

/-!
# Undo and redo retrace each other

Undo and redo read different data. Undo follows the parent that a node names, redo the child list of
a place. In a tree in good shape the two tell the same, so undo always takes a redo back
(`WellFormed.undo_of_redo`). The other way round there is a choice: redo after undo leads to the
oldest child of the parent, which may be an older sibling of the node that was left
(`WellFormed.redo_of_undo`).

Of many undos and as many redos the same is true (`WellFormed.current_retraced_iff`). They return if
each node that was left is the oldest child of its parent. If one of them is not, the redos go down
into another branch at that node, and there is no way back: branches that part do not meet again
below (`WellFormed.eq_of_above`), and redo never leaves what is below a place
(`WellFormed.exists_redone`). The induction is on the number of undos, and takes the last undo
together with the first redo.

In a linear tree every node is the oldest child, since it is the only one
(`Represents.atFirstChild`).
-/

open Relation

namespace TextHistory.UndoTree

/-- The answer is that a move went through. -/
def Answer.isMoved : Answer → Bool
  | .moved m => m.isMoved
  | _ => false

/-- The tree after `n` undos. -/
def undone (t : UndoTree) (n : Nat) : UndoTree := after apply t (List.replicate n .undo)

/-- The tree after `n` redos. -/
def redone (t : UndoTree) (n : Nat) : UndoTree := after apply t (List.replicate n .redo)

variable {t t' : UndoTree} {state : Checkpoint} {a q : Option Nat} {j k : Nat}

theorem undone_succ (t : UndoTree) (n : Nat) : t.undone (n + 1) = ((t.undone n).apply .undo).2 := by
  rw [undone, List.replicate_succ', after_append]
  rfl

theorem redone_succ (t : UndoTree) (n : Nat) : t.redone (n + 1) = (t.apply .redo).2.redone n := rfl

/-- An undo that answers with a move has made one. -/
theorem exists_undo_of_isMoved (hmoved : (t.apply .undo).1.isMoved = true) :
    ∃ state t', t.undo = .ok (.moved state, t') ∧ (t.apply .undo).2 = t' := by
  rw [apply] at hmoved ⊢
  cases hundo : t.undo with
  | error e =>
    rw [hundo] at hmoved
    exact absurd hmoved Bool.false_ne_true
  | ok r =>
    obtain ⟨m, t'⟩ := r
    rw [hundo] at hmoved
    cases m with
    | moved state => exact ⟨state, t', rfl, rfl⟩
    | atOldest => exact absurd hmoved Bool.false_ne_true
    | atNewest => exact absurd hmoved Bool.false_ne_true

/-- A place has one oldest child. -/
theorem isFirstChild_iff_eq {m : Nat} (hfirst : t.IsFirstChild q m) :
    t.IsFirstChild q k ↔ m = k := by
  rw [IsFirstChild] at hfirst ⊢
  rw [hfirst, Option.some.injEq]

theorem atFirstChild_iff {n : Node} (hk : t.current = some k) (hn : t.node? k = some n) :
    t.AtFirstChild ↔ t.IsFirstChild n.parent k := by
  refine ⟨fun hat ↦ ?_, fun hfirst ↦ ⟨k, n, hk, hn, hfirst⟩⟩
  obtain ⟨k', n', hk', hn', hfirst⟩ := hat
  obtain rfl : k = k' := Option.some.inj (hk.symm.trans hk')
  obtain rfl : n = n' := Option.some.inj (hn.symm.trans hn')
  exact hfirst

namespace WellFormed

/-! ### One step forth and back -/

/-- **Undo takes a redo back.** -/
theorem undo_of_redo (h : t.WellFormed) (hredo : t.redo = .ok (.moved state, t')) :
    ∃ state', t'.undo = .ok (.moved state', t) := by
  rcases h.redo_cases with ⟨-, hstop⟩ | ⟨k, ks, c, hks, -, hmove⟩
  · rw [hstop] at hredo
    exact absurd hredo (by simp)
  · obtain ⟨-, rfl⟩ := Prod.mk.inj (Except.ok.inj (hmove.symm.trans hredo))
    have hup : t.Up (some k) t.current := h.up_iff.2 (hks ▸ List.mem_cons_self)
    obtain ⟨state', -, hundo⟩ := h.undo_of_up hup
    exact ⟨state', hundo⟩

/-- A place that has children has an oldest one. -/
theorem exists_isFirstChild (h : t.WellFormed) (hup : t.Up (some k) q) :
    ∃ m, t.IsFirstChild q m ∧ m ≤ k := by
  have hk : k ∈ t.childrenOf q := h.up_iff.1 hup
  obtain ⟨m, hm⟩ := Option.isSome_iff_exists.1 (List.isSome_head?.2 (List.ne_nil_of_mem hk))
  exact ⟨m, hm, h.le_of_isFirstChild hm hk⟩

/-- **Redo after undo** leads to the oldest child of the parent. -/
theorem redo_of_undo (h : t.WellFormed) (hundo : t.undo = .ok (.moved state, t')) :
    ∃ k n m state', t.current = some k ∧ t.node? k = some n ∧
      t.IsFirstChild n.parent m ∧ m ≤ k ∧
        t'.redo = .ok (.moved state', { t with current := some m }) := by
  rcases h.undo_cases with ⟨-, hstop⟩ | ⟨k, n, c, hk, hn, -, hmove⟩
  · rw [hstop] at hundo
    exact absurd hundo (by simp)
  · obtain ⟨-, rfl⟩ := Prod.mk.inj (Except.ok.inj (hmove.symm.trans hundo))
    obtain ⟨m, hfirst, hle⟩ := h.exists_isFirstChild ⟨k, n, rfl, hn, rfl⟩
    obtain ⟨state', -, hredo⟩ := h.redo_of_isFirstChild hfirst
    exact ⟨k, n, m, state', hk, hn, hfirst, hle, hredo⟩

/-! ### Many steps -/

/-- Undo goes up, however often it is made. -/
theorem exists_undone (h : t.WellFormed) (n : Nat) :
    ∃ q, t.undone n = { t with current := q } ∧ ReflTransGen t.Up t.current q := by
  obtain ⟨ids, hids⟩ := h.exists_climbs
  obtain ⟨places, hplaces, hrepeats⟩ := hids.undo
  obtain ⟨q, hq, hafter⟩ := hrepeats.after_replicate n
  refine ⟨q, hafter, ?_⟩
  rw [hplaces] at hq
  rcases List.mem_append.1 (List.mem_of_getElem? hq) with hmem | hmem
  · obtain ⟨k, hk, rfl⟩ := List.mem_map.1 hmem
    exact (hids.mem_iff k).1 hk
  · obtain rfl := List.mem_singleton.1 hmem
    exact h.up_root h.hasPlace_current

/-- Redo stays below the place where it begins, however often it is made. -/
theorem exists_redone (h : t.WellFormed) (n : Nat) :
    ∃ q, t.redone n = { t with current := q } ∧ ReflTransGen t.Up q t.current := by
  induction n generalizing t with
  | zero => exact ⟨t.current, rfl, .refl⟩
  | succ n ih =>
    rw [redone_succ]
    rcases h.apply_redo_cases with ⟨-, happly⟩ | ⟨state, k, hnode, hfirst, -, happly⟩
    · rw [happly]
      exact ih h
    · have hk : k ∈ t.childrenOf t.current := List.mem_of_mem_head? hfirst
      have hup : t.Up state.node t.current := hnode ▸ h.up_iff.2 hk
      have hplace : t.HasPlace state.node := hnode ▸ h.hasPlace_of_mem hk
      obtain ⟨q, hq, hwalk⟩ := ih (h.moveTo hplace)
      rw [happly]
      exact ⟨q, hq, hwalk.tail hup⟩

/-- **Branches that part do not meet again.** No place is below two children of one place. -/
theorem eq_of_above (h : t.WellFormed) (hj : t.Up (some j) q) (hk : t.Up (some k) q)
    (haj : ReflTransGen t.Up a (some j)) (hak : ReflTransGen t.Up a (some k)) : j = k := by
  have hunique : Relator.RightUnique t.Up := fun _ _ _ hup hup' ↦ up_unique hup hup'
  rcases ReflTransGen.total_of_right_unique hunique haj hak with hwalk | hwalk
  · rcases (above_iff_of_up hj).1 hwalk with heq | hback
    · exact Option.some.inj heq
    · exact absurd (.single hk) (h.not_transGen_up_of_above hback)
  · rcases (above_iff_of_up hk).1 hwalk with heq | hback
    · exact (Option.some.inj heq).symm
    · exact absurd (.single hj) (h.not_transGen_up_of_above hback)

theorem undone (h : t.WellFormed) (n : Nat) : (t.undone n).WellFormed :=
  after_induction _ (fun _ c h ↦ h.apply c) h _

/-- **Many undos and as many redos** return exactly if each node that was left is the oldest child
of its parent. -/
theorem current_retraced_iff (h : t.WellFormed) {n : Nat}
    (hmoved : ∀ i < n, ((t.undone i).apply .undo).1.isMoved = true) :
    ((t.undone n).redone n).current = t.current ↔ ∀ i < n, (t.undone i).AtFirstChild := by
  induction n with
  | zero => exact iff_of_true rfl fun _ hi ↦ absurd hi (Nat.not_lt_zero _)
  | succ n ih =>
    obtain ⟨hbefore, hlast⟩ := Nat.forall_lt_succ_right.1 hmoved
    rw [undone_succ, redone_succ, Nat.forall_lt_succ_right]
    have hu := h.undone n
    obtain ⟨state, u, hundo, happly⟩ := exists_undo_of_isMoved hlast
    obtain ⟨k, node, m, state', hk, hnode, hchild, -, hredo⟩ := hu.redo_of_undo hundo
    rw [happly, UndoTree.apply, hredo, atFirstChild_iff hk hnode, isFirstChild_iff_eq hchild]
    by_cases hmk : m = k
    · -- the first redo takes the last undo back
      subst hmk
      have hback : ({ t.undone n with current := some m } : UndoTree) = t.undone n := by rw [← hk]
      rw [hback, ih hbefore]
      exact (and_iff_left rfl).symm
    · refine iff_of_false (fun hreturn ↦ hmk ?_) fun hall ↦ hmk hall.2
      have hm : m ∈ (t.undone n).childrenOf node.parent := List.mem_of_mem_head? hchild
      obtain ⟨p, hp, hclimb⟩ := h.exists_undone n
      obtain ⟨r, hr, hdown⟩ := (hu.moveTo (hu.hasPlace_of_mem hm)).exists_redone n
      rw [hr] at hreturn
      -- the start is below the node that was left last and below its sibling
      obtain rfl : r = t.current := hreturn
      have hup : (t.undone n).Up (some k) node.parent := ⟨k, node, rfl, hnode, rfl⟩
      have hup' : (t.undone n).Up (some m) node.parent := hu.up_iff.2 hm
      rw [hp] at hup hup' hk hdown
      obtain rfl : p = some k := hk
      exact h.eq_of_above hup' hup hdown hclimb

/-- If they return, all is as it was. -/
theorem retraced_eq (h : t.WellFormed) {n : Nat}
    (hcur : ((t.undone n).redone n).current = t.current) : (t.undone n).redone n = t := by
  obtain ⟨p, hp, -⟩ := h.exists_undone n
  obtain ⟨q, hq, -⟩ := (h.undone n).exists_redone n
  rw [hq] at hcur ⊢
  obtain rfl : q = t.current := hcur
  rw [hp]

end WellFormed

/-! ### Linear trees -/

/-- In a tree that represents a list, a node is the only child of the one before. -/
theorem Represents.atFirstChild {l : UndoList} (h : t.Represents l) (hk : t.current = some k) :
    t.AtFirstChild := by
  obtain ⟨n, hn⟩ : t.HasPlace (some k) := hk ▸ h.hasPlace_current
  obtain ⟨i, r, hr, rfl⟩ := h.node?_eq_some_iff.1 hn
  have hi : i ≤ l.entries.length := Nat.le_of_succ_le (UndoList.le_of_entryAt hr).2
  have hfirst : t.IsFirstChild (l.placeAt i) k := by
    rw [IsFirstChild, h.childrenOf_placeAt hi, UndoList.placeAt_of_entryAt hr]
    rfl
  exact ⟨k, _, hk, hn, hfirst⟩

/-- **Undo and redo undo each other, up to the choice of a branch.** After any run of calls on a new
tree, in whatever modes, undo takes a redo back. Redo after undo always moves; it gives the tree
back exactly if the node that was left is the oldest child of its parent, and goes to an older
sibling else. If `n` undos move, `n` redos after them lead back to the start exactly if each of the
`n` nodes that were left is the oldest child of its parent. In a tree that has been linear all
along they always do. -/
theorem inverse_after_calls (d : Document) (mode : HistoryMode) (cs : List Call) :
    let t := after apply (ofDocument d mode) cs
    (∀ state t', t.redo = .ok (.moved state, t') →
        ∃ state', t'.undo = .ok (.moved state', t)) ∧
      (∀ state t', t.undo = .ok (.moved state, t') → ∃ k n state' t'',
        t.current = some k ∧ t.node? k = some n ∧ t'.redo = .ok (.moved state', t'') ∧
        (t'' = t ↔ (t.childrenOf n.parent).head? = some k) ∧
        ((t.childrenOf n.parent).head? ≠ some k →
          ∃ m ∈ t.childrenOf n.parent, m < k ∧ t''.current = some m)) ∧
      ∀ n, (∀ i < n, ((t.undone i).apply .undo).1.isMoved = true) →
        (((t.undone n).redone n).current = t.current ↔ ∀ i < n, (t.undone i).AtFirstChild) ∧
        (((t.undone n).redone n).current = t.current → (t.undone n).redone n = t) ∧
        (mode = .linear → (∀ c ∈ cs, c ≠ .setMode .branching) → (t.undone n).redone n = t) := by
  intro t
  have h : t.WellFormed := wellFormed_after d mode cs
  refine ⟨fun state t' hredo ↦ h.undo_of_redo hredo, fun state t' hundo ↦ ?_, fun n hmoved ↦
    ⟨h.current_retraced_iff hmoved, h.retraced_eq, fun hmode hcs ↦ ?_⟩⟩
  · obtain ⟨k, n, m, state', hk, hn, hfirst, hle, hredo⟩ := h.redo_of_undo hundo
    have hhead : (t.childrenOf n.parent).head? = some k ↔ m = k := isFirstChild_iff_eq hfirst
    refine ⟨k, n, state', _, hk, hn, hredo, ⟨fun heq ↦ ?_, fun hhead' ↦ ?_⟩, fun hother ↦ ?_⟩
    · exact hhead.2 (Option.some.inj ((congrArg current heq).trans hk))
    · rw [hhead.1 hhead', ← hk]
    · exact ⟨m, List.mem_of_mem_head? hfirst,
        Nat.lt_of_le_of_ne hle fun heq ↦ hother (hhead.2 heq), rfl⟩
  · refine h.retraced_eq ((h.current_retraced_iff hmoved).2 fun i hi ↦ ?_)
    have hlinear : ∀ c ∈ cs ++ List.replicate i .undo, c ≠ Call.setMode .branching := by
      refine List.forall_mem_append.2 ⟨hcs, fun c hc ↦ ?_⟩
      rw [List.eq_of_mem_replicate hc]
      simp
    have hlist := ((represents_ofDocument d).run hlinear).2
    rw [after_append, ← hmode] at hlist
    obtain ⟨state, u, hundo, -⟩ := exists_undo_of_isMoved (hmoved i hi)
    obtain ⟨k, -, -, -, hk, -⟩ := (h.undone i).redo_of_undo hundo
    exact hlist.atFirstChild hk

/-- From the younger of two children, one undo or two lead to places from where redo goes to the
older one. -/
theorem inverse_after_calls_fork :
    let r : Revision := ⟨"edit", .empty, none, none⟩
    let t := after apply (ofDocument .empty .branching) [.push r, .push r, .undo, .push r]
    t.current = some 2 ∧ (∀ i < 2, ((t.undone i).apply .undo).1.isMoved = true) ∧
      ((t.undone 2).redone 2).current = some 1 ∧ ¬(∀ i < 2, (t.undone i).AtFirstChild) ∧
      ∃ state t', t.undo = .ok (.moved state, t') ∧
        ∃ state' t'', t'.redo = .ok (.moved state', t'') ∧ t'' ≠ t := by
  intro r
  have hmain := inverse_after_calls .empty .branching [.push r, .push r, .undo, .push r]
  generalize heq : after apply (ofDocument .empty .branching) [.push r, .push r, .undo, .push r] = t
    at hmain ⊢
  have hcur : t.current = some 2 := by rw [← heq]; decide
  have hmoved : ∀ i < 2, ((t.undone i).apply .undo).1.isMoved = true := by rw [← heq]; decide
  have hback : ((t.undone 2).redone 2).current = some 1 := by rw [← heq]; decide
  have hparent : (t.node? 2).map Node.parent = some (some 0) := by rw [← heq]; decide
  have hchild : (t.childrenOf (some 0)).head? = some 1 := by rw [← heq]; decide
  obtain ⟨-, hone, hmany⟩ := hmain
  obtain ⟨hiff, -, -⟩ := hmany 2 hmoved
  obtain ⟨state, t', hundo, -⟩ := exists_undo_of_isMoved (hmoved 0 Nat.two_pos)
  obtain ⟨k, n, state', t'', hk, hn, hredo, hsame, -⟩ := hone state t' hundo
  refine ⟨hcur, hmoved, hback, fun hall ↦ ?_, state, t', hundo, state', t'', hredo, fun heq ↦ ?_⟩
  · exact absurd (hback.symm.trans ((hiff.2 hall).trans hcur)) (by decide)
  · obtain rfl : k = 2 := Option.some.inj (hk.symm.trans hcur)
    rw [hn] at hparent
    rw [Option.some.inj hparent, hchild] at hsame
    exact absurd (hsame.1 heq) (by decide)

end TextHistory.UndoTree
