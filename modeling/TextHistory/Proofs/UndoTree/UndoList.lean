import TextHistory.UndoTree

/-!
# Undo lists

A history without branches: the revisions in a row, the oldest first, and the number of them that is
in effect. Recording cuts the list off behind what is in effect and adds one revision at the end
(`truncate`, `append`); moving sets the number (`moveTo`).

An undo list is counted from one, with the root at zero, so that `i` is the place where `i`
revisions are in effect. It takes the calls that an undo tree takes and gives the answers of one.
-/

namespace TextHistory

/-- A history in which every revision follows the one before. -/
structure UndoList where
  /-- The document before the first edit. -/
  start : Document
  /-- The revisions with their ids, the oldest first. -/
  entries : List (Nat × Revision)
  /-- How many of them are in effect. -/
  index : Nat
  /-- The id of the next revision. -/
  nextId : Nat
  /-- Younger revisions have greater ids. -/
  ascending : entries.Pairwise (·.1 < ·.1)
  /-- Every id was handed out. -/
  lt_nextId : ∀ e ∈ entries, e.1 < nextId
  /-- No more revisions are in effect than there are. -/
  index_le : index ≤ entries.length

namespace UndoList

/-- The history of a document that was not edited yet. -/
def ofDocument (d : Document) : UndoList where
  start := d
  entries := []
  index := 0
  nextId := 0
  ascending := .nil
  lt_nextId _ he := absurd he List.not_mem_nil
  index_le := Nat.le_refl 0

variable (l : UndoList)

/-! ### Reading -/

/-- The last of the first `i` revisions. -/
def entryAt : Nat → Option (Nat × Revision)
  | 0 => none
  | i + 1 => l.entries[i]?

/-- The place where `i` revisions are in effect: the last of them, or the root. -/
def placeAt (i : Nat) : Option Nat := (l.entryAt i).map Prod.fst

/-- The state where `i` revisions are in effect. -/
def checkpointAt (i : Nat) : Checkpoint :=
  match l.entryAt i with
  | some (id, r) => ⟨some id, r.snapshot, r.cursorLine, r.cursorColumn⟩
  | none => ⟨none, l.start, none, none⟩

/-- The node that a revision with `i` revisions before it has in a tree: it stands between its two
neighbours. -/
def nodeAfter (i k : Nat) (r : Revision) : Node := ⟨k, l.placeAt i, (l.placeAt (i + 2)).toList, r⟩

/-! ### Calls -/

/-- The list cut off behind the revisions in effect. -/
def truncate : UndoList where
  start := l.start
  entries := l.entries.take l.index
  index := l.index
  nextId := l.nextId
  ascending := l.ascending.sublist (List.take_sublist _ _)
  lt_nextId e he := l.lt_nextId e (List.mem_of_mem_take he)
  index_le := by
    rw [List.length_take]
    exact Nat.le_min.2 ⟨Nat.le_refl _, l.index_le⟩

/-- The list with one more revision at the end, in which all are in effect. -/
def append (r : Revision) : UndoList where
  start := l.start
  entries := l.entries ++ [(l.nextId, r)]
  index := (l.entries ++ [(l.nextId, r)]).length
  nextId := l.nextId + 1
  ascending := by
    refine List.pairwise_append.2 ⟨l.ascending, List.pairwise_singleton _ _, ?_⟩
    intro a ha b hb
    obtain rfl := List.mem_singleton.1 hb
    exact l.lt_nextId a ha
  lt_nextId e he := by
    rcases List.mem_append.1 he with he | he
    · exact Nat.lt_succ_of_lt (l.lt_nextId e he)
    · obtain rfl := List.mem_singleton.1 he
      exact Nat.lt_succ_self _
  index_le := Nat.le_refl _

/-- The list with another number of revisions in effect. -/
def moveTo (i : Nat) (hi : i ≤ l.entries.length) : UndoList :=
  { l with index := i, index_le := hi }

/-- Goes back by one revision. -/
def undo : Move × UndoList :=
  if 0 < l.index then
    (.moved (l.checkpointAt (l.index - 1)),
      l.moveTo (l.index - 1) (Nat.le_trans (Nat.sub_le _ _) l.index_le))
  else (.atOldest, l)

/-- Goes on by one revision. -/
def redo : Move × UndoList :=
  if h : l.index < l.entries.length then
    (.moved (l.checkpointAt (l.index + 1)), l.moveTo (l.index + 1) h)
  else (.atNewest, l)

/-- How many revisions come before the one with a given id. -/
def find? (id : Nat) : Option Nat := l.entries.findIdx? (·.1 == id)

theorem lt_of_find? {id i : Nat} (h : l.find? id = some i) : i < l.entries.length :=
  (List.findIdx?_eq_some_iff_getElem.1 h).1

/-- Goes to any revision. -/
def goto (id : Nat) : Except HistoryError (Checkpoint × UndoList) :=
  match h : l.find? id with
  | some i => .ok (l.checkpointAt (i + 1), l.moveTo (i + 1) (l.lt_of_find? h))
  | none => .error (.nodeNotFound id)

/-- Drops all revisions and starts again from a document. Ids go on where they were. -/
def clear (d : Document) : UndoList := { ofDocument d with nextId := l.nextId, lt_nextId := nofun }

/-- Carries out a call on an undo tree, in a list. A list is always linear. -/
def apply : UndoTree.Call → UndoTree.Answer × UndoList
  | .push r => (.pushed l.nextId, l.truncate.append r)
  | .undo => (.moved l.undo.1, l.undo.2)
  | .redo => (.moved l.redo.1, l.redo.2)
  | .goto id =>
    match l.goto id with
    | .ok (c, l') => (.went c, l')
    | .error e => (.failed e, l)
  | .setMode _ => (.done, l)
  | .clear d => (.done, l.clear d)

/-! ### Where the revisions are -/

variable {l} {i j k : Nat} {r r' : Revision}

@[simp] theorem placeAt_zero : l.placeAt 0 = none := rfl

/-- There is no revision at the root. -/
theorem exists_eq_succ_of_entryAt {e : Nat × Revision} (h : l.entryAt i = some e) :
    ∃ j, i = j + 1 ∧ l.entries[j]? = some e := by
  cases i with
  | zero => exact absurd h (by simp [entryAt])
  | succ j => exact ⟨j, rfl, h⟩

theorem le_of_entryAt {e : Nat × Revision} (h : l.entryAt i = some e) :
    0 < i ∧ i ≤ l.entries.length := by
  obtain ⟨j, rfl, hj⟩ := exists_eq_succ_of_entryAt h
  exact ⟨Nat.succ_pos j, (List.getElem?_eq_some_iff.1 hj).1⟩

theorem exists_entryAt (hpos : 0 < i) (hi : i ≤ l.entries.length) :
    ∃ k r, l.entryAt i = some (k, r) := by
  obtain ⟨i, rfl⟩ := Nat.exists_eq_succ_of_ne_zero (Nat.ne_of_gt hpos)
  exact ⟨_, _, List.getElem?_eq_getElem hi⟩

theorem placeAt_of_entryAt (h : l.entryAt i = some (k, r)) : l.placeAt i = some k := by
  rw [placeAt, h]
  rfl

theorem placeAt_eq_some_iff : l.placeAt i = some k ↔ ∃ r, l.entryAt i = some (k, r) := by
  simp [placeAt]

/-- Behind the end there is nothing. -/
theorem placeAt_of_length_lt (h : l.entries.length < i) : l.placeAt i = none := by
  cases hi : l.entryAt i with
  | none => rw [placeAt, hi]; rfl
  | some e => exact absurd (le_of_entryAt hi).2 (Nat.not_le.2 h)

/-- Ids grow along the list. -/
theorem id_lt_of_lt {e e' : Nat × Revision} (hi : l.entryAt i = some e)
    (hj : l.entryAt j = some e') (hij : i < j) : e.1 < e'.1 := by
  obtain ⟨i, rfl, hi⟩ := exists_eq_succ_of_entryAt hi
  obtain ⟨j, rfl, hj⟩ := exists_eq_succ_of_entryAt hj
  obtain ⟨hilt, rfl⟩ := List.getElem?_eq_some_iff.1 hi
  obtain ⟨hjlt, rfl⟩ := List.getElem?_eq_some_iff.1 hj
  exact List.pairwise_iff_getElem.1 l.ascending i j hilt hjlt (Nat.lt_of_succ_lt_succ hij)

/-- No id is given to two revisions. -/
theorem index_unique (hi : l.entryAt i = some (k, r)) (hj : l.entryAt j = some (k, r')) :
    i = j := by
  rcases Nat.lt_trichotomy i j with hlt | heq | hgt
  · exact absurd (id_lt_of_lt hi hj hlt) (Nat.lt_irrefl _)
  · exact heq
  · exact absurd (id_lt_of_lt hj hi hgt) (Nat.lt_irrefl _)

theorem placeAt_inj (hi : i ≤ l.entries.length) (hj : j ≤ l.entries.length)
    (h : l.placeAt i = l.placeAt j) : i = j := by
  rcases Nat.eq_zero_or_pos i with rfl | hi'
  · rcases Nat.eq_zero_or_pos j with rfl | hj'
    · rfl
    · obtain ⟨k, r, hr⟩ := exists_entryAt hj' hj
      rw [placeAt_of_entryAt hr] at h
      exact absurd h (by simp)
  · obtain ⟨k, r, hr⟩ := exists_entryAt hi' hi
    rw [placeAt_of_entryAt hr] at h
    obtain ⟨r', hr'⟩ := placeAt_eq_some_iff.1 h.symm
    exact index_unique hr hr'

theorem lt_nextId_of_entryAt (h : l.entryAt i = some (k, r)) : k < l.nextId := by
  obtain ⟨j, rfl, hj⟩ := exists_eq_succ_of_entryAt h
  exact l.lt_nextId _ (List.mem_of_getElem? hj)

theorem find?_eq_some_iff : l.find? k = some i ↔ ∃ r, l.entryAt (i + 1) = some (k, r) := by
  constructor
  · intro h
    obtain ⟨hi, hk, -⟩ := List.findIdx?_eq_some_iff_getElem.1 h
    exact ⟨l.entries[i].2, List.getElem?_eq_some_iff.2 ⟨hi, Prod.ext (beq_iff_eq.1 hk) rfl⟩⟩
  · rintro ⟨r, hr⟩
    obtain ⟨hi, hk⟩ := List.getElem?_eq_some_iff.1 hr
    refine List.findIdx?_eq_some_iff_getElem.2 ⟨hi, by simp [hk], fun j hj hjk ↦ ?_⟩
    -- no revision before this one has the id, since ids grow
    have hentry : l.entryAt (j + 1) = some l.entries[j] := List.getElem?_eq_getElem _
    have hlt := id_lt_of_lt hentry hr (Nat.succ_lt_succ hj)
    rw [beq_iff_eq.1 hjk] at hlt
    exact Nat.lt_irrefl _ hlt

theorem goto_of_find? (h : l.find? k = some i) :
    l.goto k = .ok (l.checkpointAt (i + 1), l.moveTo (i + 1) (l.lt_of_find? h)) := by
  rw [goto]
  split
  · next j hj =>
    obtain rfl := Option.some.inj (h.symm.trans hj)
    rfl
  · next hnone =>
    rw [h] at hnone
    exact absurd hnone (by simp)

theorem goto_of_find?_eq_none (h : l.find? k = none) : l.goto k = .error (.nodeNotFound k) := by
  rw [goto]
  split
  · next j hj =>
    rw [h] at hj
    exact absurd hj (by simp)
  · rfl

theorem entryAt_truncate (l : UndoList) (i : Nat) :
    l.truncate.entryAt i = if i ≤ l.index then l.entryAt i else none := by
  cases i with
  | zero => rfl
  | succ i => exact List.getElem?_take

theorem placeAt_truncate (l : UndoList) (i : Nat) :
    l.truncate.placeAt i = if i ≤ l.index then l.placeAt i else none := by
  rw [placeAt, entryAt_truncate]
  split <;> rfl

/-- Cutting off takes the successor of the last revision in effect. -/
theorem nodeAfter_truncate (hi : i + 1 ≤ l.index) :
    l.truncate.nodeAfter i k r =
      if i + 1 = l.index then { l.nodeAfter i k r with children := [] } else l.nodeAfter i k r := by
  rw [nodeAfter, placeAt_truncate, placeAt_truncate, if_pos (Nat.le_of_succ_le hi)]
  by_cases hlast : i + 1 = l.index
  · rw [if_pos hlast, if_neg (by omega)]
    rfl
  · rw [if_neg hlast, if_pos (by omega)]
    rfl

theorem entryAt_append (l : UndoList) (r : Revision) (i : Nat) :
    (l.append r).entryAt i =
      if i = l.entries.length + 1 then some (l.nextId, r) else l.entryAt i := by
  cases i with
  | zero => rfl
  | succ i =>
    show (l.entries ++ [(l.nextId, r)])[i]? =
      if i + 1 = l.entries.length + 1 then some (l.nextId, r) else l.entries[i]?
    rcases Nat.lt_trichotomy i l.entries.length with hlt | heq | hgt
    · rw [List.getElem?_append_left hlt, if_neg (by omega)]
    · rw [heq, List.getElem?_concat_length, if_pos rfl]
    · have hpast : (l.entries ++ [(l.nextId, r)]).length ≤ i := by
        rw [List.length_append, List.length_singleton]
        exact hgt
      rw [List.getElem?_eq_none hpast, if_neg (by omega), List.getElem?_eq_none (by omega)]

theorem placeAt_append (l : UndoList) (r : Revision) (i : Nat) :
    (l.append r).placeAt i = if i = l.entries.length + 1 then some l.nextId else l.placeAt i := by
  rw [placeAt, entryAt_append]
  split <;> rfl

/-- Adding at the end gives the last revision a successor. -/
theorem nodeAfter_append (hi : i < l.entries.length) :
    (l.append r').nodeAfter i k r =
      if i + 1 = l.entries.length then
        { l.nodeAfter i k r with children := (l.nodeAfter i k r).children ++ [l.nextId] }
      else l.nodeAfter i k r := by
  rw [nodeAfter, placeAt_append, placeAt_append, if_neg (by omega)]
  by_cases hlast : i + 1 = l.entries.length
  · have hnone : l.placeAt (i + 2) = none := placeAt_of_length_lt (by omega)
    rw [if_pos hlast, if_pos (by omega), nodeAfter, hnone]
    rfl
  · rw [if_neg hlast, if_neg (by omega)]
    rfl

theorem nodeAfter_append_length (l : UndoList) (r : Revision) :
    (l.append r).nodeAfter l.entries.length l.nextId r =
      ⟨l.nextId, l.placeAt l.entries.length, [], r⟩ := by
  rw [nodeAfter, placeAt_append, placeAt_append, if_neg (by omega), if_neg (by omega),
    placeAt_of_length_lt (Nat.lt_add_of_pos_right Nat.two_pos)]
  rfl

end UndoList

end TextHistory
