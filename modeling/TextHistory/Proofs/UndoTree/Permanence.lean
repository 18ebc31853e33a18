import TextHistory.Proofs.UndoTree.Shape

/-!
# Ids are names for good

What a tree shows under an id that was handed out never changes, except that children come and go
and that the node may be dropped: a tree `Grew` out of an earlier one if every id of the earlier one
shows what it showed, or nothing. Every call makes a tree grow (`WellFormed.grew_apply`), since new
nodes have new ids only, so an id that has lost its node never gets another one.

Which calls drop a node is said by `Drops`, in terms of the tree before the call: a revision
recorded in a linear tree drops what lies below the current place, and starting again drops
everything. This is exact, for one call (`WellFormed.hasPlace_apply_iff`) and for a run of them
(`WellFormed.hasPlace_after_iff`).

The documents in a tree are the ones that were brought in (`WellFormed.holds_apply`).
-/

namespace TextHistory.UndoTree

/-- The later tree shows under every id of the earlier one what that showed, or nothing. Only the
children may have changed. -/
structure Grew (t t' : UndoTree) : Prop where
  /-- Ids are not handed out again. -/
  nextId_le : t.nextId ≤ t'.nextId
  /-- Nodes keep what was recorded, and where. -/
  node : ∀ {k : Nat} {m : Node}, k < t.nextId → t'.node? k = some m →
    ∃ n cs, t.node? k = some n ∧ m = { n with children := cs }

/-- The call drops the node of an id, if there is one. -/
def Drops (t : UndoTree) (k : Nat) : Call → Prop
  | .push _ => t.mode = .linear ∧ t.Below t.current k
  | .clear _ => True
  | _ => False

/-- All revisions in the tree have a property. -/
def Records (t : UndoTree) (R : Revision → Prop) : Prop :=
  ∀ ⦃k : Nat⦄ ⦃n : Node⦄, t.node? k = some n → R n.revision

/-- All documents in the tree have a property. -/
structure Holds (t : UndoTree) (P : Document → Prop) : Prop where
  /-- The document at the root has it, -/
  root : P t.rootSnapshot
  /-- and so does that of every revision. -/
  node : t.Records fun r ↦ P r.snapshot

/-- The revisions that a call brings in. -/
def Call.revisions : Call → List Revision
  | .push r => [r]
  | _ => []

/-- The documents that a call brings in. -/
def Call.documents : Call → List Document
  | .push r => [r.snapshot]
  | .clear d => [d]
  | _ => []

/-- One of the calls of a run drops the node of an id. -/
def DroppedBy (t : UndoTree) (k : Nat) : List Call → Prop
  | [] => False
  | c :: cs => t.Drops k c ∨ (t.apply c).2.DroppedBy k cs

namespace Grew

variable {t t' t'' : UndoTree}

theorem refl (t : UndoTree) : t.Grew t :=
  ⟨Nat.le_refl _, fun {_} {m} _ hm ↦ ⟨m, m.children, hm, rfl⟩⟩

theorem trans (h : t.Grew t') (h' : t'.Grew t'') : t.Grew t'' where
  nextId_le := Nat.le_trans h.nextId_le h'.nextId_le
  node hk hm := by
    obtain ⟨n', cs, hn', rfl⟩ := h'.node (Nat.lt_of_lt_of_le hk h.nextId_le) hm
    obtain ⟨n, cs', hn, rfl⟩ := h.node hk hn'
    exact ⟨n, cs, hn, rfl⟩

/-- An id that shows nothing will show nothing. -/
theorem not_hasPlace (h : t.Grew t') {k : Nat} (hk : k < t.nextId) (hnot : ¬t.HasPlace (some k)) :
    ¬t'.HasPlace (some k) := by
  rintro ⟨m, hm⟩
  obtain ⟨n, -, hn, -⟩ := h.node hk hm
  exact hnot ⟨n, hn⟩

/-- What a place that is left shows, it has always shown. -/
theorem checkpointAt_eq (h : t.Grew t') (hroot : t'.rootSnapshot = t.rootSnapshot)
    {q : Option Nat} (hq : t'.HasPlace q) (hlt : ∀ k ∈ q, k < t.nextId) :
    t'.checkpointAt q = t.checkpointAt q := by
  cases q with
  | none =>
    show Except.ok t'.rootCheckpoint = _
    rw [rootCheckpoint, hroot]
    rfl
  | some k =>
    obtain ⟨m, hm⟩ := hq
    obtain ⟨n, cs, hn, rfl⟩ := h.node (hlt k rfl) hm
    rw [checkpointAt_some hm, checkpointAt_some hn]
    rfl

/-- Moving changes no node. -/
theorem of_nodes_eq (hnodes : t'.nodes = t.nodes) (hnext : t'.nextId = t.nextId) : t.Grew t' := by
  refine ⟨Nat.le_of_eq hnext.symm, fun {k} {m} _ hm ↦ ⟨m, m.children, ?_, rfl⟩⟩
  rw [node?, hnodes] at hm
  exact hm

end Grew

variable {t : UndoTree} {place : Option Nat} {k : Nat}

/-- The state at a node is that of the node. -/
theorem exists_node?_of_checkpointAt {c : Checkpoint} (hc : t.checkpointAt (some k) = .ok c) :
    ∃ n, t.node? k = some n ∧ n.checkpoint = c := by
  cases hn : t.node? k with
  | none =>
    rw [checkpointAt, nodeAt, hn] at hc
    exact absurd hc (by simp [Functor.map, Except.map])
  | some n => exact ⟨n, rfl, Except.ok.inj ((checkpointAt_some hn).symm.trans hc)⟩

theorem Holds.checkpointAt {P : Document → Prop} (h : t.Holds P) {c : Checkpoint}
    (hc : t.checkpointAt place = .ok c) : P c.snapshot := by
  cases place with
  | none =>
    obtain rfl : t.rootCheckpoint = c := Except.ok.inj hc
    exact h.root
  | some k =>
    obtain ⟨n, hn, rfl⟩ := exists_node?_of_checkpointAt hc
    exact h.node hn

/-! ### Recording and starting again -/

@[simp] theorem nextId_prepare (t : UndoTree) : t.prepare.1.nextId = t.nextId := by
  rw [prepare]
  split
  · rfl
  · exact nextId_abandon _

@[simp] theorem mode_prepare (t : UndoTree) : t.prepare.1.mode = t.mode := by
  rw [prepare]
  split
  · rfl
  · exact mode_abandon _

@[simp] theorem rootSnapshot_prepare (t : UndoTree) :
    t.prepare.1.rootSnapshot = t.rootSnapshot := by
  rw [prepare]
  split
  · rfl
  · exact rootSnapshot_abandon _

@[simp] theorem nextId_push (t : UndoTree) (r : Revision) :
    (t.push r).2.nextId = t.nextId + 1 := by
  rw [push, nextId_attach, nextId_prepare]

@[simp] theorem mode_push (t : UndoTree) (r : Revision) : (t.push r).2.mode = t.mode := by
  rw [push, mode_attach, mode_prepare]

@[simp] theorem rootSnapshot_push (t : UndoTree) (r : Revision) :
    (t.push r).2.rootSnapshot = t.rootSnapshot := by
  rw [push, rootSnapshot_attach, rootSnapshot_prepare]

@[simp] theorem current_push (t : UndoTree) (r : Revision) :
    (t.push r).2.current = some t.nextId := by
  rw [push, current_attach, nextId_prepare]

theorem not_hasPlace_clear (t : UndoTree) (d : Document) (k : Nat) :
    ¬(t.clear d).HasPlace (some k) := by
  rintro ⟨n, hn⟩
  exact absurd hn (by simp [clear, node?, EmptyCollection.emptyCollection])

theorem grew_abandon (t : UndoTree) (place : Option Nat) : t.Grew (t.abandon place).1 := by
  refine ⟨Nat.le_of_eq (nextId_abandon place).symm, fun {k} {m} _ hm ↦ ?_⟩
  obtain ⟨n, hn, -, rfl⟩ := node?_abandon_eq_some_iff.1 hm
  split
  · exact ⟨n, [], hn, rfl⟩
  · exact ⟨n, n.children, hn, rfl⟩

theorem grew_prepare (t : UndoTree) : t.Grew t.prepare.1 := by
  rw [prepare]
  split
  · exact Grew.refl t
  · exact grew_abandon t _

theorem hasPlace_attach_iff (hplace : t.HasPlace place) (r : Revision) :
    (t.attach place r).HasPlace (some k) ↔ k = t.nextId ∨ t.HasPlace (some k) := by
  have hattach : (∃ m, (t.attach place r).node? k = some m ∧ True) ↔
      ∃ n, (t.withNode place r).node? k = some n ∧ True :=
    exists_node?_attach_iff t r hplace fun _ _ ↦ Iff.rfl
  simp only [and_true, node?_withNode] at hattach
  rw [HasPlace, hattach, HasPlace]
  by_cases hk : k = t.nextId
  · simp [hk]
  · simp [hk]

namespace WellFormed

/-- In a tree in good shape, a revision goes below the current place. -/
theorem push_eq (h : t.WellFormed) (r : Revision) :
    (t.push r).2 = t.prepare.1.attach t.current r := by
  rw [UndoTree.push, attachPoint_eq h.hasPlace_current]

theorem hasPlace_current_prepare (h : t.WellFormed) : t.prepare.1.HasPlace t.current := by
  have hplace := h.prepare.hasPlace_current
  rwa [current_prepare] at hplace

theorem hasPlace_prepare_iff (h : t.WellFormed) :
    t.prepare.1.HasPlace (some k) ↔
      t.HasPlace (some k) ∧ ¬(t.mode = .linear ∧ t.Below t.current k) := by
  rw [UndoTree.prepare, attachPoint_eq h.hasPlace_current]
  split
  · next hmode => simp [hmode]
  · next hmode => rw [hasPlace_abandon_iff, and_comm]; simp [hmode]

/-- **After recording**, every node is the new one or an old one, except for its children. -/
theorem node?_push_cases (h : t.WellFormed) (r : Revision) {m : Node}
    (hm : (t.push r).2.node? k = some m) :
    ∃ n cs, m = { n with children := cs } ∧
      (k = t.nextId ∧ n = ⟨t.nextId, t.current, [], r⟩ ∨ t.node? k = some n) := by
  rw [h.push_eq] at hm
  obtain ⟨n, cs, rfl, hn⟩ := node?_attach_cases t.prepare.1 r h.hasPlace_current_prepare hm
  rw [nextId_prepare] at hn
  rcases hn with hn | hn
  · exact ⟨n, cs, rfl, Or.inl hn⟩
  · have hlt := h.prepare.lt_nextId hn
    rw [nextId_prepare] at hlt
    -- an old node may have lost its children on the way, but nothing else
    obtain ⟨n', cs', hn', rfl⟩ := (grew_prepare t).node hlt hn
    exact ⟨n', cs, rfl, Or.inr hn'⟩

/-- What is recorded is there afterwards. -/
theorem exists_node?_push (h : t.WellFormed) (r : Revision) :
    ∃ cs, (t.push r).2.node? t.nextId = some ⟨t.nextId, t.current, cs, r⟩ := by
  have hplace : (t.push r).2.HasPlace (some t.nextId) := by
    rw [h.push_eq, hasPlace_attach_iff h.hasPlace_current_prepare, nextId_prepare]
    exact Or.inl rfl
  obtain ⟨m, hm⟩ := hplace
  obtain ⟨n, cs, rfl, ⟨-, rfl⟩ | hn⟩ := h.node?_push_cases r hm
  · exact ⟨cs, hm⟩
  · exact absurd (h.lt_nextId hn) (Nat.lt_irrefl _)

/-! ### The step -/

/-- A call records a revision, or starts again, or drops nothing and changes nothing but the current
place and the mode. -/
theorem apply_cases (h : t.WellFormed) (c : Call) :
    (∃ r, c = .push r) ∨ (∃ d, c = .clear d) ∨ (∀ k, ¬t.Drops k c) ∧
      ∃ place mode, (t.apply c).2 = { t with current := place, mode := mode } := by
  cases c with
  | push r => exact Or.inl ⟨r, rfl⟩
  | clear d => exact Or.inr (Or.inl ⟨d, rfl⟩)
  | undo =>
    refine Or.inr (Or.inr ⟨fun _ ↦ not_false, ?_⟩)
    rcases h.undo_cases with ⟨-, hu⟩ | ⟨k, n, c, -, -, -, hu⟩
    · exact ⟨t.current, t.mode, by rw [UndoTree.apply, hu]⟩
    · exact ⟨n.parent, t.mode, by rw [UndoTree.apply, hu]⟩
  | redo =>
    refine Or.inr (Or.inr ⟨fun _ ↦ not_false, ?_⟩)
    rcases h.redo_cases with ⟨-, hr⟩ | ⟨k, ks, c, -, -, hr⟩
    · exact ⟨t.current, t.mode, by rw [UndoTree.apply, hr]⟩
    · exact ⟨some k, t.mode, by rw [UndoTree.apply, hr]⟩
  | goto id =>
    refine Or.inr (Or.inr ⟨fun _ ↦ not_false, ?_⟩)
    rw [UndoTree.apply, UndoTree.goto]
    cases hn : t.node? id with
    | none => exact ⟨t.current, t.mode, rfl⟩
    | some n => exact ⟨some id, t.mode, rfl⟩
  | setMode mode => exact Or.inr (Or.inr ⟨fun _ ↦ not_false, t.current, mode, rfl⟩)

/-- **The step.** Whatever is done to a tree, it grows. -/
theorem grew_apply (h : t.WellFormed) (c : Call) : t.Grew (t.apply c).2 := by
  rcases h.apply_cases c with ⟨r, rfl⟩ | ⟨d, rfl⟩ | ⟨-, place, mode, happly⟩
  · refine ⟨?_, fun {k} {m} hk hm ↦ ?_⟩
    · show t.nextId ≤ (t.push r).2.nextId
      rw [nextId_push]
      exact Nat.le_succ _
    · obtain ⟨n, cs, rfl, ⟨rfl, -⟩ | hn⟩ := h.node?_push_cases r hm
      · exact absurd hk (Nat.lt_irrefl _)
      · exact ⟨n, cs, hn, rfl⟩
  · refine ⟨Nat.le_refl _, fun {k} {m} _ hm ↦ ?_⟩
    exact absurd ⟨m, hm⟩ (not_hasPlace_clear t d k)
  · rw [happly]
    exact Grew.of_nodes_eq rfl rfl

/-- **What a call drops** is told by the tree before it. -/
theorem hasPlace_apply_iff (h : t.WellFormed) (hk : k < t.nextId) (c : Call) :
    (t.apply c).2.HasPlace (some k) ↔ t.HasPlace (some k) ∧ ¬t.Drops k c := by
  rcases h.apply_cases c with ⟨r, rfl⟩ | ⟨d, rfl⟩ | ⟨hdrops, place, mode, happly⟩
  · show (t.push r).2.HasPlace (some k) ↔ _
    rw [h.push_eq, hasPlace_attach_iff h.hasPlace_current_prepare, nextId_prepare,
      h.hasPlace_prepare_iff]
    exact or_iff_right (Nat.ne_of_lt hk)
  · exact iff_of_false (not_hasPlace_clear t d k) fun hplace ↦ hplace.2 trivial
  · rw [happly]
    exact (and_iff_left (hdrops k)).symm

/-! ### What a tree holds -/

/-- What is true of all revisions stays true, if it is true of those that a call brings in. -/
theorem records_apply (h : t.WellFormed) {R : Revision → Prop} (hR : t.Records R) {c : Call}
    (hc : ∀ r ∈ c.revisions, R r) : (t.apply c).2.Records R := by
  intro k m hm
  rcases h.apply_cases c with ⟨r, rfl⟩ | ⟨d, rfl⟩ | ⟨-, place, mode, happly⟩
  · obtain ⟨n, cs, rfl, ⟨-, rfl⟩ | hn⟩ := h.node?_push_cases r hm
    · exact hc r List.mem_cons_self
    · have hold := hR hn
      exact hold
  · exact absurd ⟨m, hm⟩ (not_hasPlace_clear t d k)
  · rw [happly] at hm
    exact hR hm

theorem rootSnapshot_apply (h : t.WellFormed) {c : Call} (hc : ∀ d, c ≠ .clear d) :
    (t.apply c).2.rootSnapshot = t.rootSnapshot := by
  rcases h.apply_cases c with ⟨r, rfl⟩ | ⟨d, rfl⟩ | ⟨-, place, mode, happly⟩
  · exact rootSnapshot_push t r
  · exact absurd rfl (hc d)
  · rw [happly]

/-- What is true of all documents in the tree stays true, if it is true of those that a call brings
in. -/
theorem holds_apply (h : t.WellFormed) {P : Document → Prop} (hP : t.Holds P) {c : Call}
    (hc : ∀ d ∈ c.documents, P d) : (t.apply c).2.Holds P where
  root := by
    cases c with
    | clear d => exact hc d List.mem_cons_self
    | _ =>
      rw [h.rootSnapshot_apply (by simp)]
      exact hP.root
  node := by
    refine h.records_apply (R := fun r ↦ P r.snapshot) hP.node fun r hr ↦ ?_
    cases c with
    | push r' =>
      obtain rfl := List.mem_singleton.1 hr
      exact hc r.snapshot List.mem_cons_self
    | _ => exact absurd hr List.not_mem_nil

/-! ### The run -/

/-- **The run.** A tree grows from call to call. -/
theorem grew_after (h : t.WellFormed) (cs : List Call) : t.Grew (after UndoTree.apply t cs) := by
  induction cs generalizing t with
  | nil => exact Grew.refl t
  | cons c cs ih => exact (h.grew_apply c).trans (ih (h.apply c))

theorem records_after (h : t.WellFormed) {R : Revision → Prop} (hR : t.Records R) {cs : List Call}
    (hcs : ∀ c ∈ cs, ∀ r ∈ c.revisions, R r) : (after UndoTree.apply t cs).Records R :=
  (after_induction_of_mem (P := fun t : UndoTree ↦ t.WellFormed ∧ t.Records R) UndoTree.apply
    (fun _ c hc h ↦ ⟨h.1.apply c, h.1.records_apply h.2 hc⟩) ⟨h, hR⟩ hcs).2

theorem holds_after (h : t.WellFormed) {P : Document → Prop} (hP : t.Holds P) {cs : List Call}
    (hcs : ∀ c ∈ cs, ∀ d ∈ c.documents, P d) : (after UndoTree.apply t cs).Holds P :=
  (after_induction_of_mem (P := fun t : UndoTree ↦ t.WellFormed ∧ t.Holds P) UndoTree.apply
    (fun _ c hc h ↦ ⟨h.1.apply c, h.1.holds_apply h.2 hc⟩) ⟨h, hP⟩ hcs).2

/-- **What a run drops** is dropped by one of its calls, and stays so. -/
theorem hasPlace_after_iff (h : t.WellFormed) (hk : k < t.nextId) (cs : List Call) :
    (after UndoTree.apply t cs).HasPlace (some k) ↔
      t.HasPlace (some k) ∧ ¬t.DroppedBy k cs := by
  induction cs generalizing t with
  | nil => simp [DroppedBy]
  | cons c cs ih =>
    have hnext : k < (t.apply c).2.nextId := Nat.lt_of_lt_of_le hk (h.grew_apply c).nextId_le
    rw [after_cons, ih (h.apply c) hnext, h.hasPlace_apply_iff hk, DroppedBy, not_or, and_assoc]

end WellFormed

end TextHistory.UndoTree
