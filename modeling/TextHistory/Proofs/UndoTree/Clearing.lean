import Mathlib.Data.List.Chain
import TextHistory.Proofs.UndoTree.Places

/-!
# Clearing away ends, in whatever order

`sweep` works off its ids from the front of the list and puts child lists in front of the rest. Here
the order is left open. A `Step` looks at any pending id, wherever it stands: it passes over an id
without a node, and otherwise removes the node, counts it and lets its child list join what is
pending, anywhere. A stack and a queue of ids are both among the orders that this allows.

Two facts carry everything, and neither asks anything of the child lists, which may repeat ids, name
missing ones or run in circles.

* **It ends.** The ids that stand in some list, pending or a child list of a node that is left, are
  used up one a step (`Step.listed_perm`): an id that becomes pending has stood in a child list
  before, and that list goes with its node. So no order of the steps can take more of them than ids
  stand in lists at the start.
* **It ends in one result.** What `sweep` makes of the nodes and the pending ids, on top of what has
  been counted, is the same after a step as before it (`Step.outcome_eq`), since `sweep` does not
  mind the order either. Where nothing is pending any more, this is what has come out.

So `abandon` is what clearing away comes to, however it is done, and what it does to the nodes can
be said for a tree of whatever shape (`Cleared`).
-/

open Relation

namespace TextHistory.UndoTree

/-- Clearing away under way. -/
structure Clearing where
  /-- The nodes that are left. -/
  nodes : IdMap Node
  /-- The ids that were met in a child list, and not looked at yet. -/
  pending : List Nat
  /-- The number of nodes removed. -/
  dropped : Nat

namespace Clearing

/-- One of the pending ids is looked at. Where it stands among the others, and where a child list
joins them, is left open. -/
inductive Step : Clearing → Clearing → Prop
  /-- There is nothing under the id. -/
  | pass {nodes : IdMap Node} {pending rest : List Nat} {dropped id : Nat}
      (hid : pending.Perm (id :: rest)) (hnone : nodes.get? id = none) :
      Step ⟨nodes, pending, dropped⟩ ⟨nodes, rest, dropped⟩
  /-- The node under the id is removed. -/
  | remove {nodes : IdMap Node} {pending pending' rest : List Nat} {dropped id : Nat} {n : Node}
      (hid : pending.Perm (id :: rest)) (hn : nodes.get? id = some n)
      (hjoin : pending'.Perm (n.children ++ rest)) :
      Step ⟨nodes, pending, dropped⟩ ⟨nodes.erase id, pending', dropped + 1⟩

variable {c c' : Clearing}

/-- As long as an id is pending, there is a step. -/
theorem exists_step (h : c.pending ≠ []) : ∃ c', Step c c' := by
  obtain ⟨nodes, pending, dropped⟩ := c
  obtain ⟨id, rest, rfl⟩ := List.exists_cons_of_ne_nil h
  cases hn : nodes.get? id with
  | none => exact ⟨_, .pass (.refl _) hn⟩
  | some n => exact ⟨_, .remove (.refl _) hn (.refl _)⟩

/-! ### It ends -/

/-- The ids that stand in a list: the pending ones and those in the child lists that are left. -/
def listed (c : Clearing) : List Nat := c.pending ++ c.nodes.values.flatMap Node.children

/-- **A step uses up one listed id**, and moves others at most. -/
theorem Step.listed_perm (h : Step c c') : ∃ id, c.listed.Perm (id :: c'.listed) := by
  cases h with
  | @pass nodes pending rest dropped id hid hnone => exact ⟨id, hid.append_right _⟩
  | @remove nodes pending pending' rest dropped id n hid hn hjoin =>
    refine ⟨id, ?_⟩
    have hvalues : nodes.values.Perm (n :: (nodes.erase id).values) :=
      (nodes.entries_perm_erase hn).map Prod.snd
    have hused : (pending ++ nodes.values.flatMap Node.children).Perm
        (id :: rest ++ (n.children ++ (nodes.erase id).values.flatMap Node.children)) :=
      hid.append (hvalues.flatMap_right _)
    -- the child list stood behind the pending ids, and is among them now
    have hmoved : (rest ++ (n.children ++ (nodes.erase id).values.flatMap Node.children)).Perm
        (pending' ++ (nodes.erase id).values.flatMap Node.children) := by
      rw [← List.append_assoc]
      exact (List.perm_append_comm.trans hjoin.symm).append_right _
    exact hused.trans (hmoved.cons id)

theorem Step.length_listed (h : Step c c') : c'.listed.length + 1 = c.listed.length := by
  obtain ⟨id, hperm⟩ := h.listed_perm
  exact hperm.length_eq.symm

/-- No run of steps is longer than the ids that are listed at its start. -/
theorem length_le_of_isChain {cs : List Clearing} (h : (c :: cs).IsChain Step) :
    cs.length ≤ c.listed.length := by
  induction cs generalizing c with
  | nil => exact Nat.zero_le _
  | cons c' cs ih =>
    obtain ⟨hstep, hrest⟩ := List.isChain_cons_cons.1 h
    have hle := ih hrest
    have hone := hstep.length_listed
    rw [List.length_cons]
    omega

/-- From wherever it is, clearing away can come to an end. -/
theorem exists_end (c : Clearing) : ∃ e, ReflTransGen Step c e ∧ e.pending = [] := by
  induction hk : c.listed.length using Nat.strongRecOn generalizing c with
  | ind k ih =>
    by_cases hpending : c.pending = []
    · exact ⟨c, .refl, hpending⟩
    · obtain ⟨c', hstep⟩ := exists_step hpending
      have hlt : c'.listed.length < k := by
        have hone := hstep.length_listed
        omega
      obtain ⟨e, hrun, he⟩ := ih _ hlt c' rfl
      exact ⟨e, hrun.head hstep, he⟩

/-! ### It ends in one result -/

/-- The nodes that will be left in the end, and the number removed by then. -/
def outcome (c : Clearing) : IdMap Node × Nat :=
  ((sweep c.nodes c.pending).1, c.dropped + (sweep c.nodes c.pending).2)

/-- **A step leaves the outcome** as it is. -/
theorem Step.outcome_eq (h : Step c c') : c'.outcome = c.outcome := by
  cases h with
  | @pass nodes pending rest dropped id hid hnone =>
    have hfront : sweep nodes pending = sweep nodes (id :: rest) := sweep_congr fun _ ↦ hid.mem_iff
    simp only [outcome, hfront, sweep_cons_of_get?_eq_none hnone]
  | @remove nodes pending pending' rest dropped id n hid hn hjoin =>
    have hfront : sweep nodes pending = sweep nodes (id :: rest) := sweep_congr fun _ ↦ hid.mem_iff
    have hback : sweep (nodes.erase id) pending' = sweep (nodes.erase id) (n.children ++ rest) :=
      sweep_congr fun _ ↦ hjoin.mem_iff
    simp only [outcome, hfront, hback, sweep_cons_of_get? hn, Prod.mk.injEq, true_and]
    omega

theorem outcome_eq_of_run (h : ReflTransGen Step c c') : c'.outcome = c.outcome := by
  induction h with
  | refl => rfl
  | tail _ hstep ih => exact hstep.outcome_eq.trans ih

theorem outcome_of_pending_eq_nil (h : c.pending = []) : c.outcome = (c.nodes, c.dropped) := by
  rw [outcome, h, sweep]
  rfl

end Clearing

/-! ### What has come out -/

variable {t : UndoTree} {place : Option Nat}

/-- The start of clearing away what lies below a place: the place has lost its child list, and the
ids of this list are pending. -/
def clearing (t : UndoTree) (place : Option Nat) : Clearing :=
  ⟨(t.setChildren place fun _ ↦ []).nodes, t.childrenOf place, 0⟩

/-- What is left of a tree when all below a place was cleared away, and how many nodes went. -/
structure Cleared (t : UndoTree) (place : Option Nat) (left : UndoTree) (dropped : Nat) : Prop where
  /-- Clearing away takes no more steps than there are ids in lists. -/
  length_le : ∀ cs, (t.clearing place :: cs).IsChain Clearing.Step →
    cs.length ≤ (t.clearing place).listed.length
  /-- As long as an id is pending it goes on, -/
  exists_step : ∀ c, ReflTransGen Clearing.Step (t.clearing place) c → c.pending ≠ [] →
    ∃ c', Clearing.Step c c'
  /-- it can be brought to an end from wherever it is, -/
  exists_end : ∀ c, ReflTransGen Clearing.Step (t.clearing place) c →
    ∃ e, ReflTransGen Clearing.Step c e ∧ e.pending = []
  /-- and whatever order it took, this is what has come out in the end. -/
  eq_of_end : ∀ e, ReflTransGen Clearing.Step (t.clearing place) e → e.pending = [] →
    e.nodes = left.nodes ∧ e.dropped = dropped
  /-- Each node below the place was counted once, and nothing else was. -/
  counted : ∃ ks : List Nat, ks.Nodup ∧
    (∀ k, k ∈ ks ↔ t.HasPlace (some k) ∧ t.Below place k) ∧ ks.length = dropped
  /-- The nodes that are left are those not below the place, as they were, except that the place
  itself has no children. -/
  node : ∀ k m, left.node? k = some m ↔ ∃ n, t.node? k = some n ∧ ¬t.Below place k ∧
    m = if place = some k then { n with children := [] } else n
  /-- The same goes for the root. -/
  rootChildren : left.rootChildren = if place = none then [] else t.rootChildren
  /-- All the rest is as it was. -/
  rest : left.rootSnapshot = t.rootSnapshot ∧ left.current = t.current ∧
    left.nextId = t.nextId ∧ left.mode = t.mode

theorem outcome_clearing :
    (t.clearing place).outcome = ((t.abandon place).1.nodes, (t.abandon place).2) := by
  rw [Clearing.outcome, clearing, Nat.zero_add]
  rfl

/-- What is removed is what was there and is not left. -/
theorem exists_dropped (t : UndoTree) (place : Option Nat) :
    ∃ ks : List Nat, ks.Nodup ∧ (∀ k, k ∈ ks ↔ t.HasPlace (some k) ∧ t.Below place k) ∧
      ks.length = (t.abandon place).2 := by
  let left : IdMap Node := (t.abandon place).1.nodes
  have hleft (k : Nat) : left.contains k = true ↔ ¬t.Below place k ∧ t.HasPlace (some k) := by
    rw [← hasPlace_abandon_iff, IdMap.contains, Option.isSome_iff_exists]
    rfl
  have hthere (k : Nat) : k ∈ t.nodes.ids ↔ t.HasPlace (some k) := by
    rw [IdMap.mem_ids_iff, Option.isSome_iff_exists]
    rfl
  have hnodup : t.nodes.ids.Nodup := t.nodes.ascending_ids.imp Nat.ne_of_lt
  refine ⟨t.nodes.ids.filter fun k ↦ !left.contains k, hnodup.filter _, fun k ↦ ?_, ?_⟩
  · rw [List.mem_filter, Bool.not_eq_true', ← Bool.not_eq_true, hleft, hthere]
    tauto
  · have hkept : (t.nodes.ids.filter left.contains).Perm left.ids := by
      refine (List.perm_ext_iff_of_nodup (hnodup.filter _)
        (left.ascending_ids.imp Nat.ne_of_lt)).2 fun k ↦ ?_
      rw [List.mem_filter, hthere, IdMap.mem_ids_iff, ← IdMap.contains, hleft]
      tauto
    have hsplit := List.length_eq_length_filter_add left.contains (l := t.nodes.ids)
    have hall : t.nodes.ids.length = t.size := List.length_map _
    have hsize : left.ids.length = (t.abandon place).1.size := List.length_map _
    have hsum := t.size_abandon_add place
    rw [hkept.length_eq] at hsplit
    omega

/-- **Clearing away removes exactly what can be walked to**, in a tree of whatever shape. It ends,
in whatever order it takes the ids, and `abandon` is what it comes to: the nodes are gone that the
child list of the place leads to, each counted once, and nothing else has changed but that the
place has no children. -/
theorem cleared_abandon (t : UndoTree) (place : Option Nat) :
    t.Cleared place (t.abandon place).1 (t.abandon place).2 where
  length_le _ h := Clearing.length_le_of_isChain h
  exists_step _ _ h := Clearing.exists_step h
  exists_end c _ := c.exists_end
  eq_of_end e hrun he := by
    have hout := Clearing.outcome_eq_of_run hrun
    rw [Clearing.outcome_of_pending_eq_nil he, outcome_clearing, Prod.mk.injEq] at hout
    exact hout
  counted := exists_dropped t place
  node k m := node?_abandon_eq_some_iff
  rootChildren := by cases place <;> rfl
  rest := ⟨rootSnapshot_abandon place, current_abandon place, nextId_abandon place,
    mode_abandon place⟩

/-- A node that is listed twice beside a missing one, and from which a circle leads back to the
place itself. The node that is left names one that is gone. -/
example :
    let node (id : Nat) (children : List Nat) : Node :=
      ⟨id, none, children, ⟨"edit", .empty, none, none⟩⟩
    let nodes := [node 0 [1, 1, 7], node 1 [0, 2], node 2 [2], node 3 [1]].foldl
      (fun nodes n ↦ nodes.insert n.id n) ∅
    let t : UndoTree := ⟨nodes, .empty, [3], some 3, 4, .linear⟩
    (t.abandon (some 0)).2 = 3 ∧
      (t.abandon (some 0)).1.summaries.map (fun s ↦ (s.id, s.children)) = [(3, [1])] := by
  cbv

end TextHistory.UndoTree
