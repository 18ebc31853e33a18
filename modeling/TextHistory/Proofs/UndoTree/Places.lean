import TextHistory.Proofs.UndoTree.Sweep

/-!
# What the building blocks of an undo tree do to its places

A place is the root or an id. An undo tree is known by the nodes that it has (`node?`) and by the
child lists of its places (`childrenOf`), and each building block of recording a revision is
described here by what it does to these two: making a child list anew, attaching a node below a
place, and clearing away what lies below one.

The tree may be damaged in all of this, with child lists that name anything. What is asked for is at
most that the place in question exists (`HasPlace`), since a place that is missing has no child list
to change.
-/

open Relation

namespace TextHistory.UndoTree

variable (t : UndoTree)

/-- The place exists. The root always does. -/
def HasPlace : Option Nat → Prop
  | none => True
  | some id => ∃ n, t.node? id = some n

/-- Going down from a place leads to `k`. -/
def Below (place : Option Nat) (k : Nat) : Prop := Reached t.nodes (t.childrenOf place) k

variable {t} {place q : Option Nat} {k : Nat}

theorem childrenOf_some {n : Node} (h : t.node? k = some n) :
    t.childrenOf (some k) = n.children := by
  rw [childrenOf, h]
  rfl

/-- Only a place that exists has children. -/
theorem hasPlace_of_mem_childrenOf (h : k ∈ t.childrenOf q) : t.HasPlace q := by
  cases q with
  | none => trivial
  | some id =>
    cases hn : t.node? id with
    | none =>
      rw [childrenOf, hn] at h
      exact absurd h List.not_mem_nil
    | some n => exact ⟨n, hn⟩

theorem childrenOf_of_not_hasPlace (h : ¬t.HasPlace q) : t.childrenOf q = [] :=
  List.eq_nil_iff_forall_not_mem.2 fun _ hk ↦ h (hasPlace_of_mem_childrenOf hk)

theorem nodeAt_eq {n : Node} (h : t.node? k = some n) : t.nodeAt k = .ok n := by
  rw [nodeAt, h]

theorem checkpointAt_some {n : Node} (h : t.node? k = some n) :
    t.checkpointAt (some k) = .ok n.checkpoint := by
  rw [checkpointAt, nodeAt_eq h]
  rfl

theorem childrenAt_eq (h : t.HasPlace q) : t.childrenAt q = .ok (t.childrenOf q) := by
  cases q with
  | none => rfl
  | some k =>
    obtain ⟨n, hn⟩ := h
    rw [childrenAt, nodeAt_eq hn, childrenOf_some hn]
    rfl

/-- The next revision goes below the current place if that exists. -/
theorem attachPoint_eq (h : t.HasPlace t.current) : t.attachPoint = t.current := by
  rw [attachPoint]
  cases hk : t.current with
  | none => rfl
  | some k =>
    rw [hk] at h
    obtain ⟨n, hn⟩ := h
    rw [node?] at hn
    simp [Option.filter, IdMap.contains, hn]

theorem link_iff {a b : Nat} : Link t.nodes a b ↔ b ∈ t.childrenOf (some a) := by
  constructor
  · rintro ⟨n, hn, hb⟩
    rw [childrenOf_some hn]
    exact hb
  · intro hb
    obtain ⟨n, hn⟩ := hasPlace_of_mem_childrenOf hb
    exact ⟨n, hn, childrenOf_some hn ▸ hb⟩

/-- What lies below a place is its children and what lies below them, seen from the end. -/
theorem below_iff :
    t.Below place k ↔
      k ∈ t.childrenOf place ∨ ∃ a, t.Below place a ∧ k ∈ t.childrenOf (some a) := by
  simp only [Below, ← link_iff]
  exact reached_iff

/-! ### Making a child list anew -/

section SetChildren

variable (t place) (f : List Nat → List Nat)

@[simp] theorem current_setChildren : (t.setChildren place f).current = t.current := by
  cases place <;> rfl

@[simp] theorem nextId_setChildren : (t.setChildren place f).nextId = t.nextId := by
  cases place <;> rfl

@[simp] theorem mode_setChildren : (t.setChildren place f).mode = t.mode := by
  cases place <;> rfl

@[simp] theorem rootSnapshot_setChildren :
    (t.setChildren place f).rootSnapshot = t.rootSnapshot := by
  cases place <;> rfl

@[simp] theorem size_setChildren : (t.setChildren place f).size = t.size := by
  cases place with
  | none => rfl
  | some id => exact IdMap.size_update ..

theorem node?_setChildren (k : Nat) :
    (t.setChildren place f).node? k =
      (t.node? k).map fun n ↦
        if place = some k then { n with children := f n.children } else n := by
  cases place with
  | none => simp [setChildren, node?]
  | some id =>
    by_cases hk : k = id
    · subst hk
      simp [setChildren, node?]
    · simp [setChildren, node?, hk, Ne.symm hk]

/-- Whoever does not look at the children of a node does not notice. -/
theorem exists_node?_setChildren_iff {P : Node → Prop}
    (hP : ∀ n cs, P { n with children := cs } ↔ P n) :
    (∃ m, (t.setChildren place f).node? k = some m ∧ P m) ↔ ∃ n, t.node? k = some n ∧ P n := by
  rw [node?_setChildren]
  constructor
  · rintro ⟨m, hm, hPm⟩
    obtain ⟨n, hn, rfl⟩ := Option.map_eq_some_iff.1 hm
    split at hPm
    · exact ⟨n, hn, (hP n _).1 hPm⟩
    · exact ⟨n, hn, hPm⟩
  · rintro ⟨n, hn, hPn⟩
    refine ⟨_, Option.map_eq_some_iff.2 ⟨n, hn, rfl⟩, ?_⟩
    split
    · exact (hP n _).2 hPn
    · exact hPn

theorem childrenOf_setChildren (h : t.HasPlace place) :
    (t.setChildren place f).childrenOf q =
      if q = place then f (t.childrenOf q) else t.childrenOf q := by
  cases q with
  | none => cases place <;> rfl
  | some k =>
    rw [childrenOf, node?_setChildren, Option.map_map]
    by_cases hq : some k = place
    · subst hq
      obtain ⟨n, hn⟩ := h
      rw [if_pos rfl, childrenOf_some hn, hn]
      simp
    · rw [if_neg hq, childrenOf]
      congr 2
      funext n
      exact congrArg Node.children (if_neg fun hp ↦ hq hp.symm)

end SetChildren

/-! ### Clearing away -/

@[simp] theorem current_abandon (place : Option Nat) :
    (t.abandon place).1.current = t.current := current_setChildren t place _

@[simp] theorem nextId_abandon (place : Option Nat) :
    (t.abandon place).1.nextId = t.nextId := nextId_setChildren t place _

@[simp] theorem mode_abandon (place : Option Nat) :
    (t.abandon place).1.mode = t.mode := mode_setChildren t place _

@[simp] theorem rootSnapshot_abandon (place : Option Nat) :
    (t.abandon place).1.rootSnapshot = t.rootSnapshot := rootSnapshot_setChildren t place _

/-- What is left and what was dropped is what there was. -/
theorem size_abandon_add (place : Option Nat) :
    (t.abandon place).1.size + (t.abandon place).2 = t.size :=
  (size_sweep_add _ _).trans (size_setChildren t place _)

/-- Taking the child list of a place away does not change what lies below the place. -/
theorem reached_setChildren :
    Reached (t.setChildren place fun _ ↦ []).nodes (t.childrenOf place) k ↔ t.Below place k := by
  cases place with
  | none => exact Iff.rfl
  | some id =>
    -- the place loses its links, but the walk starts at its children
    have hcut : Cut t.nodes (t.setChildren (some id) fun _ ↦ []).nodes id := fun a b ↦ by
      simp only [Link, setChildren, IdMap.get?_update]
      by_cases ha : a = id <;> simp [ha]
    exact hcut.reached_iff fun b hb ↦ link_iff.1 hb

/-- **Clearing away** removes what lies below a place. Of what is left, only the place itself
changes: it loses its children. -/
theorem node?_abandon_eq_some_iff {m : Node} :
    (t.abandon place).1.node? k = some m ↔
      ∃ n, t.node? k = some n ∧ ¬t.Below place k ∧
        m = if place = some k then { n with children := [] } else n := by
  have hnode := node?_setChildren t place (fun _ ↦ []) k
  rw [abandon, node?, get?_sweep_eq_some_iff, reached_setChildren, ← node?, hnode]
  constructor
  · rintro ⟨hm, hbelow⟩
    obtain ⟨n, hn, rfl⟩ := Option.map_eq_some_iff.1 hm
    exact ⟨n, hn, hbelow, rfl⟩
  · rintro ⟨n, hn, hbelow, rfl⟩
    exact ⟨Option.map_eq_some_iff.2 ⟨n, hn, rfl⟩, hbelow⟩

/-- Whoever does not look at the children of a node notices only whether it is left. -/
theorem exists_node?_abandon_iff {P : Node → Prop}
    (hP : ∀ n cs, P { n with children := cs } ↔ P n) :
    (∃ m, (t.abandon place).1.node? k = some m ∧ P m) ↔
      ¬t.Below place k ∧ ∃ n, t.node? k = some n ∧ P n := by
  rw [← exists_node?_setChildren_iff t place (fun _ ↦ []) hP, node?_setChildren]
  simp only [node?_abandon_eq_some_iff, Option.map_eq_some_iff]
  constructor
  · rintro ⟨m, ⟨n, hn, hbelow, rfl⟩, hPm⟩
    exact ⟨hbelow, _, ⟨n, hn, rfl⟩, hPm⟩
  · rintro ⟨hbelow, m, ⟨n, hn, rfl⟩, hPm⟩
    exact ⟨_, ⟨n, hn, hbelow, rfl⟩, hPm⟩

theorem hasPlace_abandon_iff :
    (t.abandon place).1.HasPlace (some k) ↔ ¬t.Below place k ∧ t.HasPlace (some k) := by
  have hleft : (∃ m, (t.abandon place).1.node? k = some m ∧ True) ↔
      ¬t.Below place k ∧ ∃ n, t.node? k = some n ∧ True :=
    exists_node?_abandon_iff fun _ _ ↦ Iff.rfl
  simpa [HasPlace] using hleft

/-- The place itself is left without children, and the other places that are left keep theirs. -/
theorem childrenOf_abandon (h : (t.abandon place).1.HasPlace q) :
    (t.abandon place).1.childrenOf q = if q = place then [] else t.childrenOf q := by
  cases q with
  | none => cases place <;> rfl
  | some k =>
    obtain ⟨m, hm⟩ := h
    obtain ⟨n, hn, -, rfl⟩ := node?_abandon_eq_some_iff.1 hm
    rw [childrenOf_some hm, childrenOf_some hn]
    by_cases hq : place = some k
    · simp [hq]
    · simp [hq, Ne.symm hq]

/-! ### Attaching -/

section Attach

variable (t place) (r : Revision)

@[simp] theorem current_attach : (t.attach place r).current = some t.nextId := rfl

@[simp] theorem nextId_attach : (t.attach place r).nextId = t.nextId + 1 :=
  nextId_setChildren _ _ _

@[simp] theorem mode_attach : (t.attach place r).mode = t.mode := mode_setChildren _ _ _

@[simp] theorem rootSnapshot_attach : (t.attach place r).rootSnapshot = t.rootSnapshot :=
  rootSnapshot_setChildren _ _ _

/-- Attaching under a new id adds a node. -/
theorem size_attach (hfresh : t.node? t.nextId = none) :
    (t.attach place r).size = t.size + 1 :=
  (size_setChildren _ _ _).trans (IdMap.size_insert _ _ hfresh)

/-- The tree with the new node in it, before the place of the node learns of it. -/
def withNode : UndoTree :=
  { t with nodes := t.nodes.insert t.nextId ⟨t.nextId, place, [], r⟩, nextId := t.nextId + 1 }

theorem node?_withNode (k : Nat) :
    (t.withNode place r).node? k =
      if k = t.nextId then some ⟨t.nextId, place, [], r⟩ else t.node? k := by
  simp [withNode, node?]

theorem childrenOf_withNode :
    (t.withNode place r).childrenOf q = if q = some t.nextId then [] else t.childrenOf q := by
  cases q with
  | none => rfl
  | some k =>
    rw [childrenOf, node?_withNode]
    by_cases hk : k = t.nextId
    · simp [hk]
    · simp [hk, childrenOf]

variable {place}

theorem hasPlace_withNode (h : t.HasPlace q) : (t.withNode place r).HasPlace q := by
  cases q with
  | none => trivial
  | some id =>
    obtain ⟨n, hn⟩ := h
    simp only [HasPlace, node?_withNode]
    split
    · exact ⟨_, rfl⟩
    · exact ⟨n, hn⟩

theorem attach_eq (h : t.HasPlace place) :
    t.attach place r =
      { (t.withNode place r).setChildren place (· ++ [t.nextId]) with
        current := some t.nextId } := by
  have hfilter : (place.filter fun p ↦ (t.withNode place r).nodes.contains p) = place := by
    cases place with
    | none => rfl
    | some id =>
      have hplace : (t.withNode (some id) r).HasPlace (some id) := hasPlace_withNode t r h
      obtain ⟨n, hn⟩ := hplace
      rw [node?] at hn
      simp [Option.filter, IdMap.contains, hn]
  show { (t.withNode place r).setChildren
      (place.filter fun p ↦ (t.withNode place r).nodes.contains p) (· ++ [t.nextId]) with
        current := some t.nextId } = _
  rw [hfilter]

theorem node?_attach (h : t.HasPlace place) (k : Nat) :
    (t.attach place r).node? k =
      ((t.withNode place r).node? k).map fun n ↦
        if place = some k then { n with children := n.children ++ [t.nextId] } else n := by
  rw [attach_eq t r h]
  exact node?_setChildren _ _ _ _

/-- Every node is the new one or an old one, except for its children. -/
theorem node?_attach_cases (h : t.HasPlace place) {m : Node}
    (hm : (t.attach place r).node? k = some m) :
    ∃ n cs, m = { n with children := cs } ∧
      (k = t.nextId ∧ n = ⟨t.nextId, place, [], r⟩ ∨ t.node? k = some n) := by
  rw [node?_attach t r h, node?_withNode] at hm
  obtain ⟨n, hn, rfl⟩ := Option.map_eq_some_iff.1 hm
  have hcases : k = t.nextId ∧ n = ⟨t.nextId, place, [], r⟩ ∨ t.node? k = some n := by
    split at hn
    · next hk => exact Or.inl ⟨hk, (Option.some.inj hn).symm⟩
    · exact Or.inr hn
  split
  · exact ⟨n, _, rfl, hcases⟩
  · exact ⟨n, n.children, rfl, hcases⟩

/-- Whoever does not look at the children of a node notices only the new one. -/
theorem exists_node?_attach_iff (h : t.HasPlace place) {P : Node → Prop}
    (hP : ∀ n cs, P { n with children := cs } ↔ P n) :
    (∃ m, (t.attach place r).node? k = some m ∧ P m) ↔
      ∃ n, (t.withNode place r).node? k = some n ∧ P n := by
  rw [attach_eq t r h]
  exact exists_node?_setChildren_iff _ _ _ hP

/-- **Attaching** gives the place one more child, the youngest. The new node has none yet. -/
theorem childrenOf_attach (h : t.HasPlace place) (hfresh : place ≠ some t.nextId) :
    (t.attach place r).childrenOf q =
      if q = some t.nextId then []
      else if q = place then t.childrenOf q ++ [t.nextId] else t.childrenOf q := by
  have hset : (t.attach place r).childrenOf q =
      ((t.withNode place r).setChildren place (· ++ [t.nextId])).childrenOf q := by
    rw [attach_eq t r h]
    cases q <;> rfl
  rw [hset, childrenOf_setChildren _ _ _ (hasPlace_withNode t r h), childrenOf_withNode]
  by_cases hq : q = some t.nextId
  · subst hq
    rw [if_pos rfl, if_pos rfl, if_neg (Ne.symm hfresh)]
  · rw [if_neg hq, if_neg hq]

end Attach

end TextHistory.UndoTree
