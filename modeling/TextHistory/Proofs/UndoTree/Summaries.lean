import Mathlib.Data.List.Sort
import Mathlib.Logic.ExistsUnique
import TextHistory.Proofs.UndoTree.Shape

/-!
# What is shown of an undo tree

The summaries of a tree list its nodes by age, each with its parent, its children and a mark on the
current one. Of a tree in good shape they show all there is (`WellFormed.shown`): whoever has only
the list finds no parent or child in it that is not listed, no child that does not name its parent,
and no second current place.
-/

open Relation

namespace TextHistory.UndoTree

/-- The list of summaries shows the tree. -/
structure Shown (t : UndoTree) (ss : List Summary) : Prop where
  /-- The nodes stand in the order of their ids, so none is shown twice. -/
  ascending : (ss.map Summary.id).Pairwise (· < ·)
  /-- Every summary is that of a node, -/
  faithful : ∀ s ∈ ss, ∃ n, t.node? s.id = some n ∧
    s.description = n.revision.description ∧ s.parent = n.parent ∧ s.children = n.children
  /-- and every node has one. -/
  complete : ∀ k n, t.node? k = some n → k ∈ ss.map Summary.id
  /-- Whom a summary names as a child has a summary, which names it as the parent. -/
  children : ∀ s ∈ ss, ∀ k, k ∈ s.children ↔ ∃ s' ∈ ss, s'.id = k ∧ s'.parent = some s.id
  /-- Whom a summary names as the parent has a summary. -/
  parent : ∀ s ∈ ss, ∀ p, s.parent = some p → p ∈ ss.map Summary.id
  /-- The current place is marked, if it is a node, and nothing else is. -/
  current : (ss.filter Summary.isCurrent).map Summary.id = t.current.toList

namespace WellFormed

variable {t : UndoTree}

theorem mem_summaries_iff (h : t.WellFormed) {s : Summary} :
    s ∈ t.summaries ↔ ∃ n, t.node? s.id = some n ∧ s = t.summarize n := by
  rw [summaries, List.mem_map]
  simp only [IdMap.mem_values_iff]
  constructor
  · rintro ⟨n, ⟨k, hn⟩, rfl⟩
    obtain rfl : n.id = k := h.id_eq hn
    exact ⟨n, hn, rfl⟩
  · rintro ⟨n, hn, hs⟩
    exact ⟨n, ⟨_, hn⟩, hs.symm⟩

/-- The summaries are listed in the order of the map. -/
theorem map_id_summaries (h : t.WellFormed) : t.summaries.map Summary.id = t.nodes.ids := by
  rw [summaries, IdMap.values, IdMap.ids, List.map_map, List.map_map]
  exact List.map_congr_left fun e he ↦ h.id_eq (t.nodes.mem_entries_iff.1 he)

theorem mem_map_id_summaries_iff (h : t.WellFormed) {k : Nat} :
    k ∈ t.summaries.map Summary.id ↔ t.HasPlace (some k) := by
  rw [h.map_id_summaries, IdMap.mem_ids_iff, Option.isSome_iff_exists]
  rfl

/-- The marks are on the current place. -/
theorem map_id_filter_summaries (h : t.WellFormed) :
    (t.summaries.filter Summary.isCurrent).map Summary.id = t.current.toList := by
  have hmark : t.summaries.filter Summary.isCurrent =
      t.summaries.filter ((t.current == some ·) ∘ Summary.id) :=
    List.filter_congr fun s hs ↦ by
      obtain ⟨n, -, rfl⟩ := h.mem_summaries_iff.1 hs
      rfl
  rw [hmark, ← List.filter_map, h.map_id_summaries]
  -- both lists ascend, so it is enough that they have the same members
  refine (t.nodes.ascending_ids.filter _).eq_of_mem_iff ?_ fun k ↦ ?_
  · cases t.current <;> simp
  · rw [List.mem_filter, Option.mem_toList, beq_iff_eq, IdMap.mem_ids_iff]
    refine ⟨And.right, fun hk ↦ ⟨?_, hk⟩⟩
    have hcur := h.hasPlace_current
    rw [hk] at hcur
    exact Option.isSome_iff_exists.2 hcur

/-- **The summaries show the tree.** -/
theorem shown (h : t.WellFormed) : t.Shown t.summaries where
  ascending := by
    rw [h.map_id_summaries]
    exact t.nodes.ascending_ids
  faithful s hs := by
    obtain ⟨n, hn, hsum⟩ := h.mem_summaries_iff.1 hs
    refine ⟨n, hn, ?_⟩
    rw [hsum]
    exact ⟨rfl, rfl, rfl⟩
  complete k n hn := h.mem_map_id_summaries_iff.2 ⟨n, hn⟩
  children s hs k := by
    obtain ⟨n, hn, hsum⟩ := h.mem_summaries_iff.1 hs
    have hchildren : s.children = t.childrenOf (some s.id) := by
      rw [childrenOf_some hn, hsum]
      rfl
    rw [hchildren, h.mem_childrenOf_iff]
    constructor
    · rintro ⟨m, hm, hp⟩
      obtain rfl : m.id = k := h.id_eq hm
      exact ⟨t.summarize m, h.mem_summaries_iff.2 ⟨m, hm, rfl⟩, rfl, hp⟩
    · rintro ⟨s', hs', rfl, hp⟩
      obtain ⟨m, hm, hsum'⟩ := h.mem_summaries_iff.1 hs'
      refine ⟨m, hm, ?_⟩
      rw [← hp, hsum']
      rfl
  parent s hs p hp := by
    obtain ⟨n, hn, hsum⟩ := h.mem_summaries_iff.1 hs
    rw [h.mem_map_id_summaries_iff]
    have hplace := h.hasPlace_parent hn
    rw [hsum] at hp
    exact hp ▸ hplace
  current := h.map_id_filter_summaries

end WellFormed

/-- **Undo trees are trees.** After any run of calls on a new tree, in whatever modes, parents and
child lists agree; every node has a parent that exists, and is listed under exactly one place;
walking up leads to the root and never in a circle; and the summaries show all of it. -/
theorem isTree_after (d : Document) (mode : HistoryMode) (cs : List Call) :
    let t := after UndoTree.apply (ofDocument d mode) cs
    t.WellFormed ∧
      (∀ k n, t.node? k = some n → t.HasPlace n.parent) ∧
      (∀ k, t.HasPlace (some k) → ∃! place, t.HasPlace place ∧ k ∈ t.childrenOf place) ∧
      (∀ place, t.HasPlace place → ReflTransGen t.Up place none) ∧
      (∀ place, ¬TransGen t.Up place place) ∧
      t.Shown t.summaries := by
  intro t
  have h : t.WellFormed := wellFormed_after d mode cs
  refine ⟨h, fun _ _ ↦ h.hasPlace_parent, fun k hk ↦ ?_, fun _ hplace ↦ h.up_root hplace,
    fun _ ↦ h.not_transGen_up_self, h.shown⟩
  obtain ⟨n, hn⟩ := hk
  have hmem : k ∈ t.childrenOf n.parent := h.mem_childrenOf_iff.2 ⟨n, hn, rfl⟩
  exact ⟨n.parent, ⟨h.hasPlace_parent hn, hmem⟩, fun q hq ↦ h.place_unique hq.2 hmem⟩

/-- An edit after an undo begins a second branch. -/
example :
    let d := Document.ofString "" 0
    let r : Revision := ⟨"insert", d, none, none⟩
    let t := after UndoTree.apply (ofDocument d .branching) [.push r, .push r, .undo, .push r]
    t.summaries.map (fun s ↦ (s.id, s.parent, s.children, s.isCurrent)) =
      [(0, none, [1, 2], false), (1, some 0, [], false), (2, some 0, [], true)] := by
  decide

end TextHistory.UndoTree
