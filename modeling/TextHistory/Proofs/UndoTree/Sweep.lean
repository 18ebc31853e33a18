import Mathlib.Logic.Relation
import TextHistory.UndoTree

/-!
# What clearing away removes

`sweep` works off a list of ids: it removes the node of the first one and puts its child list in
front of the rest. What it removes in the end is what it could walk to at the start
(`get?_sweep_eq_some_iff`), each node once (`size_sweep_add`), and the order of the ids does not
matter (`sweep_congr`). Nothing is assumed of the child lists here: they may repeat ids, name
missing ones or run in circles.

The one idea is `Cut.reached_iff`. Suppose the links out of one id are cut, and where they led is
among the ids to start from anyway. Then nothing becomes unreachable: a walk that passes the id can
start behind it, at its last visit. This covers both the node that a step of `sweep` removes and
the place whose child list `abandon` takes away before it sweeps.
-/

open Relation

namespace TextHistory.UndoTree

/-! ### Walking along child lists -/

/-- There is a node under `a`, and `b` stands in its child list. -/
def Link (nodes : IdMap Node) (a b : Nat) : Prop := ∃ n, nodes.get? a = some n ∧ b ∈ n.children

/-- Walking along child lists from one of the ids of `start` leads to `k`. -/
def Reached (nodes : IdMap Node) (start : List Nat) (k : Nat) : Prop :=
  ∃ a ∈ start, ReflTransGen (Link nodes) a k

variable {nodes nodes' : IdMap Node} {start : List Nat} {id k : Nat}

theorem not_reached_nil : ¬Reached nodes [] k := fun ⟨_, ha, _⟩ ↦ List.not_mem_nil ha

theorem reached_of_mem (h : k ∈ start) : Reached nodes start k := ⟨k, h, .refl⟩

/-- The last step of a walk. -/
theorem reached_iff :
    Reached nodes start k ↔ k ∈ start ∨ ∃ a, Reached nodes start a ∧ Link nodes a k := by
  constructor
  · rintro ⟨a, ha, hwalk⟩
    rcases hwalk.cases_tail with rfl | ⟨c, hac, hck⟩
    · exact Or.inl ha
    · exact Or.inr ⟨c, ⟨a, ha, hac⟩, hck⟩
  · rintro (hk | ⟨c, ⟨a, ha, hac⟩, hck⟩)
    · exact reached_of_mem hk
    · exact ⟨a, ha, hac.tail hck⟩

/-- The first step of a walk, from an id that has a node. -/
theorem reached_cons_of_get? {n : Node} (hn : nodes.get? id = some n) :
    Reached nodes (id :: start) k ↔ k = id ∨ Reached nodes (n.children ++ start) k := by
  constructor
  · rintro ⟨a, ha, hwalk⟩
    rcases List.mem_cons.1 ha with rfl | ha
    · rcases hwalk.cases_head with rfl | ⟨c, ⟨m, hm, hc⟩, hck⟩
      · exact Or.inl rfl
      · obtain rfl := Option.some.inj (hn.symm.trans hm)
        exact Or.inr ⟨c, List.mem_append_left _ hc, hck⟩
    · exact Or.inr ⟨a, List.mem_append_right _ ha, hwalk⟩
  · rintro (rfl | ⟨a, ha, hwalk⟩)
    · exact reached_of_mem List.mem_cons_self
    · rcases List.mem_append.1 ha with ha | ha
      · exact ⟨id, List.mem_cons_self, ReflTransGen.head ⟨n, hn, ha⟩ hwalk⟩
      · exact ⟨a, List.mem_cons_of_mem _ ha, hwalk⟩

/-- From an id without a node there is nowhere to go. -/
theorem reached_cons_of_get?_eq_none (hn : nodes.get? id = none) :
    Reached nodes (id :: start) k ↔ k = id ∨ Reached nodes start k := by
  constructor
  · rintro ⟨a, ha, hwalk⟩
    rcases List.mem_cons.1 ha with rfl | ha
    · rcases hwalk.cases_head with rfl | ⟨c, ⟨m, hm, -⟩, -⟩
      · exact Or.inl rfl
      · rw [hn] at hm
        exact absurd hm (by simp)
    · exact Or.inr ⟨a, ha, hwalk⟩
  · rintro (rfl | ⟨a, ha, hwalk⟩)
    · exact reached_of_mem List.mem_cons_self
    · exact ⟨a, List.mem_cons_of_mem _ ha, hwalk⟩

/-- The links of `nodes'` are those of `nodes`, except that those out of `id` are cut. -/
def Cut (nodes nodes' : IdMap Node) (id : Nat) : Prop :=
  ∀ a b, Link nodes' a b ↔ a ≠ id ∧ Link nodes a b

/-- A walk either avoids the cut or can be replaced by one that starts behind it. -/
theorem Cut.walk (hcut : Cut nodes nodes' id) (hstart : ∀ b, Link nodes id b → b ∈ start) {a : Nat}
    (hwalk : ReflTransGen (Link nodes) a k) :
    ReflTransGen (Link nodes') a k ∨ Reached nodes' start k := by
  induction hwalk using ReflTransGen.head_induction_on with
  | refl => exact Or.inl .refl
  | @head a c hac _ ih =>
    rcases ih with hck | hk
    · by_cases ha : a = id
      · subst ha
        exact Or.inr ⟨c, hstart c hac, hck⟩
      · exact Or.inl (ReflTransGen.head ((hcut a c).2 ⟨ha, hac⟩) hck)
    · exact Or.inr hk

/-- **Cutting** the links out of an id loses nothing if one starts behind it anyway. -/
theorem Cut.reached_iff (hcut : Cut nodes nodes' id) (hstart : ∀ b, Link nodes id b → b ∈ start) :
    Reached nodes' start k ↔ Reached nodes start k := by
  constructor
  · rintro ⟨a, ha, hwalk⟩
    exact ⟨a, ha, ReflTransGen.mono (fun _ _ h ↦ ((hcut _ _).1 h).2) _ _ hwalk⟩
  · rintro ⟨a, ha, hwalk⟩
    rcases hcut.walk hstart hwalk with hak | hk
    · exact ⟨a, ha, hak⟩
    · exact hk

/-! ### Sweeping -/

theorem sweep_cons_of_get?_eq_none (hn : nodes.get? id = none) (pending : List Nat) :
    sweep nodes (id :: pending) = sweep nodes pending := by
  rw [sweep]
  split
  · rfl
  · next m hm =>
    rw [hn] at hm
    exact absurd hm (by simp)

theorem sweep_cons_of_get? {n : Node} (hn : nodes.get? id = some n) (pending : List Nat) :
    sweep nodes (id :: pending) =
      ((sweep (nodes.erase id) (n.children ++ pending)).1,
        (sweep (nodes.erase id) (n.children ++ pending)).2 + 1) := by
  rw [sweep]
  split
  · next hnone =>
    rw [hn] at hnone
    exact absurd hnone (by simp)
  · next m hm =>
    obtain rfl := Option.some.inj (hn.symm.trans hm)
    rfl

theorem cut_erase (nodes : IdMap Node) (id : Nat) : Cut nodes (nodes.erase id) id := fun a b ↦ by
  by_cases ha : a = id <;> simp [Link, ha]

/-- **Sweeping removes what can be walked to, and nothing else.** -/
theorem get?_sweep_eq_some_iff (nodes : IdMap Node) (pending : List Nat) {n : Node} :
    (sweep nodes pending).1.get? k = some n ↔
      nodes.get? k = some n ∧ ¬Reached nodes pending k := by
  induction nodes, pending using sweep.induct with
  | case1 nodes =>
    rw [sweep]
    exact ⟨fun h ↦ ⟨h, not_reached_nil⟩, And.left⟩
  | case2 nodes id pending hnone ih =>
    rw [sweep_cons_of_get?_eq_none hnone, ih, reached_cons_of_get?_eq_none hnone]
    refine and_congr_right fun hk ↦ ?_
    have hne : k ≠ id := by
      rintro rfl
      rw [hnone] at hk
      exact absurd hk (by simp)
    simp [hne]
  | case3 nodes id pending m hm ih =>
    -- the node is gone, but all that it led to is pending
    have hcut : Reached (nodes.erase id) (m.children ++ pending) k ↔
        Reached nodes (m.children ++ pending) k :=
      (cut_erase nodes id).reached_iff fun b ⟨m', hm', hb⟩ ↦
        List.mem_append_left _ (Option.some.inj (hm.symm.trans hm') ▸ hb)
    rw [sweep_cons_of_get? hm, ih, hcut, reached_cons_of_get? hm]
    by_cases hk : k = id <;> simp [hk]

/-- **Nothing is counted twice**: what is left and what was counted is what there was. -/
theorem size_sweep_add (nodes : IdMap Node) (pending : List Nat) :
    (sweep nodes pending).1.size + (sweep nodes pending).2 = nodes.size := by
  induction nodes, pending using sweep.induct with
  | case1 nodes =>
    rw [sweep]
    rfl
  | case2 nodes id pending hnone ih =>
    rw [sweep_cons_of_get?_eq_none hnone]
    exact ih
  | case3 nodes id pending n hn ih =>
    have hsome : (nodes.get? id).isSome := by simp [hn]
    rw [sweep_cons_of_get? hn, ← nodes.size_erase_add_one hsome, ← ih, Nat.add_assoc]

/-- Neither the order of the ids nor how often they occur makes a difference. -/
theorem sweep_congr {pending pending' : List Nat} (h : ∀ a, a ∈ pending ↔ a ∈ pending') :
    sweep nodes pending = sweep nodes pending' := by
  have hleft : (sweep nodes pending).1 = (sweep nodes pending').1 :=
    IdMap.ext_get? fun k ↦ Option.ext fun n ↦ by
      simp only [get?_sweep_eq_some_iff, Reached, h]
  refine Prod.ext hleft ?_
  have hsize := size_sweep_add nodes pending
  have hsize' := size_sweep_add nodes pending'
  rw [hleft] at hsize
  omega

end TextHistory.UndoTree
