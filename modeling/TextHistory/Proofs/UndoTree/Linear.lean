import Mathlib.Data.List.Sort
import TextHistory.Proofs.UndoTree.Places
import TextHistory.Proofs.UndoTree.UndoList
import TextHistory.Run

/-!
# Linear undo trees are undo lists

A tree `Represents` a list if its nodes are the revisions of the list and each is linked to its two
neighbours. Two of the building blocks of recording then match: clearing away is cutting off
(`Represents.abandon`), since what lies below a place is what comes later in the list, and attaching
at the end is adding at the end (`Represents.attach`). From there on all calls match, answers
included (`Represents.apply`), as long as nobody makes the tree branching.
-/

open Relation

namespace TextHistory

namespace UndoTree

open UndoList (placeAt_append placeAt_truncate placeAt_of_entryAt)

/-! ### Trees and lists -/

/-- The tree is linear, and its nodes are the revisions of the list, each linked to its two
neighbours. -/
structure Represents (t : UndoTree) (l : UndoList) : Prop where
  /-- The tree is linear. -/
  mode : t.mode = .linear
  /-- Both started with the same document. -/
  rootSnapshot : t.rootSnapshot = l.start
  /-- Both go on with the same id. -/
  nextId : t.nextId = l.nextId
  /-- The current place is the last revision in effect. -/
  current : t.current = l.placeAt l.index
  /-- The first revision is below the root. -/
  rootChildren : t.rootChildren = (l.placeAt 1).toList
  /-- Every other one is below the one before. -/
  node?_eq_some_iff : ∀ {k n}, t.node? k = some n ↔
    ∃ i r, l.entryAt (i + 1) = some (k, r) ∧ n = l.nodeAfter i k r

theorem represents_ofDocument (d : Document) :
    (ofDocument d .linear).Represents (.ofDocument d) where
  mode := rfl
  rootSnapshot := rfl
  nextId := rfl
  current := rfl
  rootChildren := rfl
  node?_eq_some_iff := by
    simp [ofDocument, UndoList.ofDocument, UndoList.entryAt, node?,
      EmptyCollection.emptyCollection]

namespace Represents

variable {t : UndoTree} {l : UndoList} {i k : Nat} {r : Revision}

/-- The node of a revision. -/
theorem node?_eq (h : t.Represents l) (hr : l.entryAt (i + 1) = some (k, r)) :
    t.node? k = some (l.nodeAfter i k r) :=
  h.node?_eq_some_iff.2 ⟨i, r, hr, rfl⟩

/-- The places of the list are places of the tree. -/
theorem hasPlace_placeAt (h : t.Represents l) : t.HasPlace (l.placeAt i) := by
  cases hi : l.placeAt i with
  | none => trivial
  | some k =>
    obtain ⟨r, hr⟩ := UndoList.placeAt_eq_some_iff.1 hi
    obtain ⟨i, rfl, -⟩ := UndoList.exists_eq_succ_of_entryAt hr
    exact ⟨_, h.node?_eq hr⟩

theorem hasPlace_current (h : t.Represents l) : t.HasPlace t.current :=
  h.current ▸ h.hasPlace_placeAt

/-- What comes next in the list is the only child. -/
theorem childrenOf_placeAt (h : t.Represents l) (hi : i ≤ l.entries.length) :
    t.childrenOf (l.placeAt i) = (l.placeAt (i + 1)).toList := by
  cases i with
  | zero => exact h.rootChildren
  | succ i =>
    obtain ⟨k, r, hr⟩ := UndoList.exists_entryAt (Nat.succ_pos i) hi
    rw [placeAt_of_entryAt hr, childrenOf_some (h.node?_eq hr)]
    rfl

/-- The state at a place of the tree is the state in the list. -/
theorem checkpointAt_placeAt (h : t.Represents l) (hi : i ≤ l.entries.length) :
    t.checkpointAt (l.placeAt i) = .ok (l.checkpointAt i) := by
  cases i with
  | zero =>
    show Except.ok t.rootCheckpoint = _
    rw [rootCheckpoint, h.rootSnapshot]
    rfl
  | succ i =>
    obtain ⟨k, r, hr⟩ := UndoList.exists_entryAt (Nat.succ_pos i) hi
    rw [placeAt_of_entryAt hr, checkpointAt_some (h.node?_eq hr), UndoList.checkpointAt, hr]
    rfl

/-- **What lies below a place** is what comes later in the list. -/
theorem below_placeAt_iff (h : t.Represents l) (hi : i ≤ l.entries.length) :
    t.Below (l.placeAt i) k ↔ ∃ j r, i < j ∧ l.entryAt j = some (k, r) := by
  constructor
  · rintro ⟨a, ha, hwalk⟩
    induction hwalk with
    | refl =>
      rw [h.childrenOf_placeAt hi, Option.mem_toList, UndoList.placeAt_eq_some_iff] at ha
      obtain ⟨r, hr⟩ := ha
      exact ⟨i + 1, r, Nat.lt_succ_self i, hr⟩
    | tail _ hlink ih =>
      -- every step of the walk goes on by one in the list
      obtain ⟨j, r, hij, hr⟩ := ih
      rw [link_iff, ← placeAt_of_entryAt hr, h.childrenOf_placeAt (UndoList.le_of_entryAt hr).2,
        Option.mem_toList, UndoList.placeAt_eq_some_iff] at hlink
      obtain ⟨r', hr'⟩ := hlink
      exact ⟨j + 1, r', Nat.lt_succ_of_lt hij, hr'⟩
  · rintro ⟨j, r, hij, hr⟩
    induction j generalizing k r with
    | zero => exact absurd hij (Nat.not_lt_zero i)
    | succ j ih =>
      have hj : j ≤ l.entries.length := Nat.le_of_succ_le (UndoList.le_of_entryAt hr).2
      have hmem : k ∈ t.childrenOf (l.placeAt j) := by
        rw [h.childrenOf_placeAt hj, placeAt_of_entryAt hr]
        exact List.mem_cons_self
      rcases Nat.eq_or_lt_of_le (Nat.le_of_lt_succ hij) with rfl | hlt
      · exact below_iff.2 (Or.inl hmem)
      · obtain ⟨a, ra, hra⟩ := UndoList.exists_entryAt (Nat.lt_of_le_of_lt (Nat.zero_le i) hlt) hj
        rw [placeAt_of_entryAt hra] at hmem
        exact below_iff.2 (Or.inr ⟨a, ih _ hlt hra, hmem⟩)

theorem placeAt_eq_current_iff (h : t.Represents l) (hi : i ≤ l.entries.length) :
    l.placeAt i = t.current ↔ i = l.index := by
  rw [h.current]
  refine ⟨UndoList.placeAt_inj hi l.index_le, ?_⟩
  rintro rfl
  rfl

theorem current_eq_some_iff (h : t.Represents l) (hr : l.entryAt i = some (k, r)) :
    t.current = some k ↔ i = l.index := by
  rw [← placeAt_of_entryAt hr, eq_comm]
  exact h.placeAt_eq_current_iff (UndoList.le_of_entryAt hr).2

/-! ### Recording -/

/-- What lies below the current place is what is not in effect. -/
theorem below_current_iff (h : t.Represents l) :
    t.Below t.current k ↔ ∃ j r, l.index < j ∧ l.entryAt j = some (k, r) := by
  rw [h.current]
  exact h.below_placeAt_iff l.index_le

/-- A revision that stays loses its successor if it is the last in effect. -/
theorem nodeAfter_truncate (h : t.Represents l) (hr : l.entryAt (i + 1) = some (k, r))
    (hi : i + 1 ≤ l.index) :
    l.truncate.nodeAfter i k r =
      if t.current = some k then { l.nodeAfter i k r with children := [] }
      else l.nodeAfter i k r := by
  rw [UndoList.nodeAfter_truncate hi]
  simp only [h.current_eq_some_iff hr]

theorem rootChildren_abandon (h : t.Represents l) :
    (t.abandon t.current).1.rootChildren = (l.truncate.placeAt 1).toList := by
  have hcur : none = t.current ↔ 0 = l.index := h.placeAt_eq_current_iff (Nat.zero_le _)
  have hroot : (t.abandon t.current).1.childrenOf none =
      if none = t.current then [] else t.childrenOf none := childrenOf_abandon trivial
  refine hroot.trans ?_
  rw [placeAt_truncate]
  by_cases hzero : 0 = l.index
  · rw [if_pos (hcur.2 hzero), if_neg (by omega)]
    rfl
  · rw [if_neg (mt hcur.1 hzero), if_pos (by omega)]
    exact h.rootChildren

theorem node?_abandon_iff (h : t.Represents l) {m : Node} :
    (t.abandon t.current).1.node? k = some m ↔
      ∃ i r, l.truncate.entryAt (i + 1) = some (k, r) ∧ m = l.truncate.nodeAfter i k r := by
  rw [node?_abandon_eq_some_iff]
  constructor
  · rintro ⟨n, hn, hleft, rfl⟩
    obtain ⟨i, r, hr, rfl⟩ := h.node?_eq_some_iff.1 hn
    have hi : i + 1 ≤ l.index :=
      Nat.le_of_not_lt fun hlt ↦ hleft (h.below_current_iff.2 ⟨i + 1, r, hlt, hr⟩)
    refine ⟨i, r, ?_, (h.nodeAfter_truncate hr hi).symm⟩
    rw [UndoList.entryAt_truncate, if_pos hi]
    exact hr
  · rintro ⟨i, r, hr, rfl⟩
    rw [UndoList.entryAt_truncate] at hr
    split at hr
    · next hi =>
      refine ⟨_, h.node?_eq hr, fun hgone ↦ ?_, h.nodeAfter_truncate hr hi⟩
      -- its id is given to no revision behind the cut
      obtain ⟨j, r', hj, hr'⟩ := h.below_current_iff.1 hgone
      obtain rfl := UndoList.index_unique hr hr'
      exact Nat.not_le.2 hj hi
    · exact absurd hr (by simp)

/-- **Clearing away** what lies below the current place cuts the list off. -/
theorem abandon (h : t.Represents l) : (t.abandon t.current).1.Represents l.truncate where
  mode := (mode_abandon _).trans h.mode
  rootSnapshot := (rootSnapshot_abandon _).trans h.rootSnapshot
  nextId := (nextId_abandon _).trans h.nextId
  current := by
    have hcur : l.truncate.placeAt l.index = l.placeAt l.index := by
      rw [placeAt_truncate, if_pos (Nat.le_refl _)]
    exact (current_abandon _).trans (h.current.trans hcur.symm)
  rootChildren := h.rootChildren_abandon
  node?_eq_some_iff := h.node?_abandon_iff

theorem ne_nextId (h : t.Represents l) (hr : l.entryAt i = some (k, r)) : k ≠ t.nextId := by
  rw [h.nextId]
  exact Nat.ne_of_lt (UndoList.lt_nextId_of_entryAt hr)

theorem current_ne_nextId (h : t.Represents l) : t.current ≠ some t.nextId := by
  rw [h.current]
  intro hnext
  obtain ⟨r, hr⟩ := UndoList.placeAt_eq_some_iff.1 hnext
  exact h.ne_nextId hr rfl

/-- The last revision gains a successor. -/
theorem nodeAfter_append (h : t.Represents l) (hend : l.index = l.entries.length)
    {r' : Revision} (hr : l.entryAt (i + 1) = some (k, r)) :
    (l.append r').nodeAfter i k r =
      if t.current = some k then
        { l.nodeAfter i k r with children := (l.nodeAfter i k r).children ++ [t.nextId] }
      else l.nodeAfter i k r := by
  rw [UndoList.nodeAfter_append (UndoList.le_of_entryAt hr).2, h.nextId]
  simp only [h.current_eq_some_iff hr, hend]

/-- The new revision has none yet. -/
theorem nodeAfter_append_length (h : t.Represents l) (hend : l.index = l.entries.length)
    (r : Revision) :
    (l.append r).nodeAfter l.entries.length t.nextId r = ⟨t.nextId, t.current, [], r⟩ := by
  rw [h.nextId, UndoList.nodeAfter_append_length, h.current, hend]

theorem rootChildren_attach (h : t.Represents l) (hend : l.index = l.entries.length)
    (r : Revision) :
    (t.attach t.current r).rootChildren = ((l.append r).placeAt 1).toList := by
  have hcur : none = t.current ↔ 0 = l.index := h.placeAt_eq_current_iff (Nat.zero_le _)
  have hroot : (t.attach t.current r).childrenOf none = if none = some t.nextId then []
      else if none = t.current then t.childrenOf none ++ [t.nextId] else t.childrenOf none :=
    childrenOf_attach t r h.hasPlace_current h.current_ne_nextId
  refine hroot.trans ?_
  rw [if_neg (Option.some_ne_none _).symm, placeAt_append]
  show (if none = t.current then t.rootChildren ++ [t.nextId] else t.rootChildren) = _
  rw [h.rootChildren]
  by_cases hzero : 0 = l.index
  · have hnone : l.placeAt 1 = none := UndoList.placeAt_of_length_lt (by omega)
    rw [if_pos (hcur.2 hzero), if_pos (by omega), hnone, h.nextId]
    rfl
  · rw [if_neg (mt hcur.1 hzero), if_neg (by omega)]

theorem node?_attach_iff (h : t.Represents l) (hend : l.index = l.entries.length)
    (r : Revision) {m : Node} :
    (t.attach t.current r).node? k = some m ↔
      ∃ i r', (l.append r).entryAt (i + 1) = some (k, r') ∧
        m = (l.append r).nodeAfter i k r' := by
  have hcur := h.current_ne_nextId
  have hnew := (h.nodeAfter_append_length hend r).symm
  rw [node?_attach t r h.hasPlace_current, node?_withNode, Option.map_eq_some_iff]
  constructor
  · rintro ⟨n, hn, rfl⟩
    split at hn
    · next hk =>
      obtain rfl := Option.some.inj hn
      subst hk
      refine ⟨l.entries.length, r, ?_, (if_neg hcur).trans hnew⟩
      rw [UndoList.entryAt_append, if_pos rfl, h.nextId]
    · obtain ⟨i, r', hr', rfl⟩ := h.node?_eq_some_iff.1 hn
      have hi := (UndoList.le_of_entryAt hr').2
      refine ⟨i, r', ?_, (h.nodeAfter_append hend hr').symm⟩
      rw [UndoList.entryAt_append, if_neg (by omega)]
      exact hr'
  · rintro ⟨i, r', hr', rfl⟩
    rw [UndoList.entryAt_append] at hr'
    split at hr'
    · next hi =>
      obtain rfl : i = l.entries.length := Nat.succ.inj hi
      obtain ⟨rfl, rfl⟩ := Prod.mk.inj (Option.some.inj hr')
      rw [← h.nextId]
      exact ⟨_, if_pos rfl, (if_neg hcur).trans hnew⟩
    · exact ⟨_, (if_neg (h.ne_nextId hr')).trans (h.node?_eq hr'),
        (h.nodeAfter_append hend hr').symm⟩

/-- **Attaching** at the end of the list adds to the list. -/
theorem attach (h : t.Represents l) (hend : l.index = l.entries.length) (r : Revision) :
    (t.attach t.current r).Represents (l.append r) where
  mode := (mode_attach _ _ _).trans h.mode
  rootSnapshot := (rootSnapshot_attach _ _ _).trans h.rootSnapshot
  nextId := (nextId_attach _ _ _).trans (congrArg (· + 1) h.nextId)
  current := by
    rw [current_attach, placeAt_append, h.nextId]
    exact (if_pos List.length_append).symm
  rootChildren := h.rootChildren_attach hend r
  node?_eq_some_iff := h.node?_attach_iff hend r

/-- **Recording a revision** is the same in the tree and in the list. -/
theorem push (h : t.Represents l) (r : Revision) :
    (t.push r).2.Represents (l.truncate.append r) := by
  have hprepare : t.prepare.1 = (t.abandon t.current).1 := by
    rw [prepare, h.mode, attachPoint_eq h.hasPlace_current]
  rw [UndoTree.push, hprepare, attachPoint_eq h.hasPlace_current]
  have hattach := h.abandon.attach (List.length_take_of_le l.index_le).symm r
  rw [current_abandon] at hattach
  exact hattach

/-! ### Moving -/

/-- Only the current place moves. -/
theorem moveTo (h : t.Represents l) (hi : i ≤ l.entries.length) :
    ({ t with current := l.placeAt i } : UndoTree).Represents (l.moveTo i hi) where
  mode := h.mode
  rootSnapshot := h.rootSnapshot
  nextId := h.nextId
  current := rfl
  rootChildren := h.rootChildren
  node?_eq_some_iff := h.node?_eq_some_iff

/-- **Undo** goes back by one in the list. -/
theorem undo (h : t.Represents l) :
    ∃ t', t.undo = .ok (l.undo.1, t') ∧ t'.Represents l.undo.2 := by
  rw [UndoTree.undo, UndoList.undo, h.current]
  by_cases hpos : 0 < l.index
  · obtain ⟨i, hi⟩ := Nat.exists_eq_succ_of_ne_zero (Nat.ne_of_gt hpos)
    obtain ⟨k, r, hr⟩ := UndoList.exists_entryAt hpos l.index_le
    rw [if_pos hpos, placeAt_of_entryAt hr]
    rw [hi] at hr
    have hle : i ≤ l.entries.length := Nat.le_of_succ_le (hi ▸ l.index_le)
    have hparent : t.checkpointAt (l.nodeAfter i k r).parent = .ok (l.checkpointAt i) :=
      h.checkpointAt_placeAt hle
    refine ⟨{ t with current := l.placeAt i }, ?_, ?_⟩
    · simp only [nodeAt_eq (h.node?_eq hr), bind, Except.bind, hparent, hi]
      rfl
    · simp only [hi]
      exact h.moveTo hle
  · have hzero : l.index = 0 := Nat.eq_zero_of_not_pos hpos
    rw [if_neg hpos, hzero]
    exact ⟨t, rfl, h⟩

/-- **Redo** goes on by one in the list. -/
theorem redo (h : t.Represents l) :
    ∃ t', t.redo = .ok (l.redo.1, t') ∧ t'.Represents l.redo.2 := by
  rw [UndoTree.redo, UndoList.redo, childrenAt_eq h.hasPlace_current, h.current,
    h.childrenOf_placeAt l.index_le]
  by_cases hlt : l.index < l.entries.length
  · obtain ⟨k, r, hr⟩ := UndoList.exists_entryAt (Nat.succ_pos l.index) hlt
    have hnext := h.checkpointAt_placeAt hlt
    have hmove := h.moveTo hlt
    rw [placeAt_of_entryAt hr] at hnext hmove
    rw [dif_pos hlt, placeAt_of_entryAt hr]
    refine ⟨_, ?_, hmove⟩
    simp only [bind, Except.bind, Option.toList_some, hnext]
    rfl
  · rw [dif_neg hlt, UndoList.placeAt_of_length_lt (Nat.lt_succ_of_le (Nat.le_of_not_lt hlt))]
    exact ⟨t, rfl, h⟩

/-- **Going to a revision** goes to it in the list, and fails if it is not there. -/
theorem goto (h : t.Represents l) (id : Nat) :
    (∃ c t' l', t.goto id = .ok (c, t') ∧ l.goto id = .ok (c, l') ∧ t'.Represents l') ∨
      t.goto id = .error (.nodeNotFound id) ∧ l.goto id = .error (.nodeNotFound id) := by
  cases hi : l.find? id with
  | some i =>
    obtain ⟨r, hr⟩ := UndoList.find?_eq_some_iff.1 hi
    have hmove := h.moveTo (UndoList.le_of_entryAt hr).2
    have hc := h.checkpointAt_placeAt (UndoList.le_of_entryAt hr).2
    rw [placeAt_of_entryAt hr] at hmove hc
    rw [checkpointAt_some (h.node?_eq hr)] at hc
    refine Or.inl ⟨l.checkpointAt (i + 1), _, _, ?_, UndoList.goto_of_find? hi, hmove⟩
    rw [UndoTree.goto, h.node?_eq hr, ← Except.ok.inj hc]
  | none =>
    refine Or.inr ⟨?_, UndoList.goto_of_find?_eq_none hi⟩
    cases hn : t.node? id with
    | none => rw [UndoTree.goto, hn]
    | some n =>
      obtain ⟨i, r, hr, -⟩ := h.node?_eq_some_iff.1 hn
      rw [UndoList.find?_eq_some_iff.2 ⟨r, hr⟩] at hi
      exact absurd hi (by simp)

/-! ### Calls -/

/-- **The step.** A call that leaves the tree linear has the same answer and the same effect in the
list. -/
theorem apply (h : t.Represents l) {c : Call} (hc : c ≠ .setMode .branching) :
    (t.apply c).1 = (l.apply c).1 ∧ (t.apply c).2.Represents (l.apply c).2 := by
  cases c with
  | push r => exact ⟨congrArg Answer.pushed h.nextId, h.push r⟩
  | undo =>
    obtain ⟨t', ht, hrep⟩ := h.undo
    rw [UndoTree.apply, ht]
    exact ⟨rfl, hrep⟩
  | redo =>
    obtain ⟨t', ht, hrep⟩ := h.redo
    rw [UndoTree.apply, ht]
    exact ⟨rfl, hrep⟩
  | goto id =>
    rw [UndoTree.apply, UndoList.apply]
    rcases h.goto id with ⟨c, t', l', ht, hl, hrep⟩ | ⟨ht, hl⟩
    · rw [ht, hl]
      exact ⟨rfl, hrep⟩
    · rw [ht, hl]
      exact ⟨rfl, h⟩
  | setMode mode =>
    cases mode with
    | branching => exact absurd rfl hc
    | linear =>
      have hsame : t.setMode .linear = t := by rw [setMode, ← h.mode]
      rw [UndoTree.apply, hsame]
      exact ⟨rfl, h⟩
  | clear d =>
    -- all is as in a new tree, except for the mode and the ids
    have hnew := represents_ofDocument d
    exact ⟨rfl, h.mode, hnew.rootSnapshot, h.nextId, hnew.current, hnew.rootChildren,
      hnew.node?_eq_some_iff⟩

/-- **The run.** Tree and list stay together. -/
theorem run (h : t.Represents l) {cs : List Call} (hcs : ∀ c ∈ cs, c ≠ .setMode .branching) :
    answers UndoTree.apply t cs = answers UndoList.apply l cs ∧
      (after UndoTree.apply t cs).Represents (after UndoList.apply l cs) := by
  induction cs generalizing t l with
  | nil => exact ⟨rfl, h⟩
  | cons c cs ih =>
    obtain ⟨hc, hcs⟩ := List.forall_mem_cons.1 hcs
    obtain ⟨hanswer, hstep⟩ := h.apply hc
    obtain ⟨hanswers, hrun⟩ := ih hstep hcs
    refine ⟨?_, hrun⟩
    rw [answers_cons, answers_cons, hanswer, hanswers]

end Represents

/-! ### Reading -/

/-- Reading the tree is reading the list. -/
structure ReadsAs (t : UndoTree) (l : UndoList) : Prop where
  /-- The current place is the last revision in effect, or the root. -/
  current : t.current = l.placeAt l.index
  /-- The number of revisions. -/
  size : t.size = l.entries.length
  /-- There is something to undo if a revision is in effect. -/
  canUndo : t.canUndo = true ↔ 0 < l.index
  /-- There is something to redo if a revision is not in effect. -/
  canRedo : t.canRedo = true ↔ l.index < l.entries.length
  /-- The document at the current place. -/
  currentSnapshot : t.currentSnapshot = .ok (l.checkpointAt l.index).snapshot
  /-- The cursor at the current place. -/
  currentCursor : t.currentCursor = .ok (l.checkpointAt l.index).cursor
  /-- Only the first revision is below the root. -/
  rootChildren : t.rootChildren = (l.placeAt 1).toList
  /-- Only the next revision is below another. -/
  branches : ∀ i k r, l.entryAt i = some (k, r) → t.branches k = .ok (l.placeAt (i + 1)).toList

namespace Represents

variable {t : UndoTree} {l : UndoList}

/-- The ids of the tree are those of the list. -/
theorem ids_eq (h : t.Represents l) : t.nodes.ids = l.entries.map Prod.fst := by
  refine t.nodes.ascending_ids.eq_of_mem_iff (List.pairwise_map.2 l.ascending) fun k ↦ ?_
  rw [IdMap.mem_ids_iff, Option.isSome_iff_exists, List.mem_map]
  constructor
  · rintro ⟨n, hn⟩
    obtain ⟨i, r, hr, -⟩ := h.node?_eq_some_iff.1 hn
    exact ⟨(k, r), List.mem_of_getElem? hr, rfl⟩
  · rintro ⟨⟨k', r⟩, hmem, rfl⟩
    obtain ⟨i, hi⟩ := List.getElem?_of_mem hmem
    exact ⟨_, h.node?_eq hi⟩

/-- A tree that represents a list reads as the list. -/
theorem readsAs (h : t.Represents l) : t.ReadsAs l where
  current := h.current
  size := by
    have hlen : t.nodes.ids.length = (l.entries.map Prod.fst).length := congrArg _ h.ids_eq
    rw [IdMap.ids, List.length_map, List.length_map] at hlen
    exact hlen
  canUndo := by
    rw [canUndo, h.current]
    constructor
    · intro hsome
      obtain ⟨k, hk⟩ := Option.isSome_iff_exists.1 hsome
      obtain ⟨r, hr⟩ := UndoList.placeAt_eq_some_iff.1 hk
      exact (UndoList.le_of_entryAt hr).1
    · intro hpos
      obtain ⟨k, r, hr⟩ := UndoList.exists_entryAt hpos l.index_le
      rw [placeAt_of_entryAt hr]
      rfl
  canRedo := by
    rw [canRedo, h.current, h.childrenOf_placeAt l.index_le]
    constructor
    · intro hsome
      by_contra hge
      rw [UndoList.placeAt_of_length_lt (Nat.lt_succ_of_le (Nat.le_of_not_lt hge))] at hsome
      exact absurd hsome (by decide)
    · intro hlt
      obtain ⟨k, r, hr⟩ := UndoList.exists_entryAt (Nat.succ_pos l.index) hlt
      rw [placeAt_of_entryAt hr]
      rfl
  currentSnapshot := by
    rw [currentSnapshot, h.current, h.checkpointAt_placeAt l.index_le]
    rfl
  currentCursor := by
    rw [currentCursor, h.current, h.checkpointAt_placeAt l.index_le]
    rfl
  rootChildren := h.rootChildren
  branches i k r hr := by
    obtain ⟨i, rfl, -⟩ := UndoList.exists_eq_succ_of_entryAt hr
    rw [branches, h.node?_eq hr]
    rfl

end Represents

/-- **A linear undo tree is an undo list.** As long as nobody makes it branching, a tree that was
linear from the start answers every call as the list does, and represents and reads as the list. -/
theorem isUndoList_after (d : Document) (cs : List Call)
    (hcs : ∀ c ∈ cs, c ≠ .setMode .branching) :
    let t := ofDocument d .linear
    let l := UndoList.ofDocument d
    answers UndoTree.apply t cs = answers UndoList.apply l cs ∧
      (after UndoTree.apply t cs).Represents (after UndoList.apply l cs) ∧
      (after UndoTree.apply t cs).ReadsAs (after UndoList.apply l cs) := by
  intro t l
  obtain ⟨hanswers, hrun⟩ := (represents_ofDocument d).run hcs
  exact ⟨hanswers, hrun, hrun.readsAs⟩

/-- Going back to the first of three revisions and recording another drops the other two. -/
theorem isUndoList_after_goto_push :
    let d := Document.ofString "" 0
    let r : Revision := ⟨"insert", d, some 0, none⟩
    let cs : List Call := [.push r, .push r, .push r, .goto 0, .push r, .redo, .goto 2]
    (∀ c ∈ cs, c ≠ .setMode .branching) ∧
      answers UndoTree.apply (ofDocument d .linear) cs =
        [.pushed 0, .pushed 1, .pushed 2, .went ⟨some 0, d, some 0, none⟩, .pushed 3,
          .moved .atNewest, .failed (.nodeNotFound 2)] ∧
      (after UndoTree.apply (ofDocument d .linear) cs).size = 2 ∧
      (after UndoTree.apply (ofDocument d .linear) cs).branches 0 = .ok [3] := by
  intro d r cs
  have hcs : ∀ c ∈ cs, c ≠ .setMode .branching := by decide
  obtain ⟨hanswers, -, hreads⟩ := isUndoList_after d cs hcs
  have hlist : answers UndoList.apply (.ofDocument d) cs =
      [.pushed 0, .pushed 1, .pushed 2, .went ⟨some 0, d, some 0, none⟩, .pushed 3,
        .moved .atNewest, .failed (.nodeNotFound 2)] := by decide
  have hlength : (after UndoList.apply (.ofDocument d) cs).entries.length = 2 := by decide
  have hfirst : (after UndoList.apply (.ofDocument d) cs).entryAt 1 = some (0, r) := by decide
  have hsecond : (after UndoList.apply (.ofDocument d) cs).placeAt 2 = some 3 := by decide
  refine ⟨hcs, hanswers.trans hlist, hreads.size.trans hlength, ?_⟩
  rw [hreads.branches 1 0 r hfirst, hsecond]
  rfl

end UndoTree

end TextHistory
