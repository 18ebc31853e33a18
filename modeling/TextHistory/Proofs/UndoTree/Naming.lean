import TextHistory.Proofs.UndoTree.Permanence

/-!
# What an id names

A revision gets its id when it is recorded, and from then on the id `Names` that revision: it shows
it, with the place that it was recorded below, until the node is dropped, and nothing ever after.
The children are not part of the name, since they come and go.

Three things make this so. The ids of a run ascend, since they come from a counter that not even
starting again sets back (`handsOut`). A tree grows from call to call, so no id changes its node
(`WellFormed.names_push`). And recording is the only call that adds a node, so whatever a tree shows
was recorded in the run (`WellFormed.hasPlace_or_mem_handedOut`).
-/

namespace TextHistory.UndoTree

/-- The id that an answer hands out. -/
def Answer.pushedId? : Answer → Option Nat
  | .pushed id => some id
  | _ => none

/-- The id shows a revision below a place, or nothing. -/
def ShowsOrDropped (t : UndoTree) (id : Nat) (place : Option Nat) (r : Revision) : Prop :=
  t.node? id = none ∨ ∃ ks, t.node? id = some ⟨id, place, ks, r⟩

/-- Whatever is done to the tree, the id shows a revision below a place until it shows nothing. -/
structure Names (t : UndoTree) (id : Nat) (place : Option Nat) (r : Revision) : Prop where
  /-- The id shows nothing else. -/
  showsOrDropped : ∀ cs, (after apply t cs).ShowsOrDropped id place r
  /-- What was dropped does not come back. -/
  stays_dropped : ∀ cs ds, (after apply t cs).node? id = none →
    (after apply t (cs ++ ds)).node? id = none

variable {t t' : UndoTree} {place : Option Nat} {k : Nat} {r : Revision}

/-! ### The ids of a run -/

/-- A tree takes its ids from a counter. -/
theorem handsOut : HandsOut apply WellFormed nextId Answer.pushedId? where
  keeps _ c h := h.apply c
  next_le _ c h := (h.grew_apply c).nextId_le
  eq_next t c id _ hid := by
    cases c with
    | push r =>
      obtain rfl : t.nextId = id := Option.some.inj hid
      refine ⟨rfl, ?_⟩
      show t.nextId < (t.push r).2.nextId
      rw [nextId_push]
      exact Nat.lt_succ_self _
    | setMode | clear => exact absurd hid (by simp [apply, Answer.pushedId?])
    | undo | redo | goto =>
      rw [apply] at hid
      split at hid <;> exact absurd hid (by simp [Answer.pushedId?])

/-! ### What an id shows -/

theorem Grew.node?_eq_none (h : t.Grew t') (hk : k < t.nextId) (hnone : t.node? k = none) :
    t'.node? k = none := by
  cases hm : t'.node? k with
  | none => rfl
  | some m =>
    obtain ⟨n, -, hn, -⟩ := h.node hk hm
    exact absurd (hn.symm.trans hnone) (by simp)

/-- In a tree that grew, an id shows what it showed, or nothing. -/
theorem Grew.showsOrDropped (h : t.Grew t') (hk : k < t.nextId)
    (hshows : t.ShowsOrDropped k place r) : t'.ShowsOrDropped k place r := by
  cases hm : t'.node? k with
  | none => exact Or.inl hm
  | some m =>
    obtain ⟨n, ks, hn, rfl⟩ := h.node hk hm
    rcases hshows with hnone | ⟨ks', hn'⟩
    · exact absurd (hn.symm.trans hnone) (by simp)
    · obtain rfl := Option.some.inj (hn.symm.trans hn')
      exact Or.inr ⟨ks, hm⟩

namespace WellFormed

/-- What an id shows, it names. -/
theorem names (h : t.WellFormed) (hk : k < t.nextId) (hshows : t.ShowsOrDropped k place r) :
    t.Names k place r where
  showsOrDropped cs := (h.grew_after cs).showsOrDropped hk hshows
  stays_dropped cs ds hnone := by
    have hlt : k < (after UndoTree.apply t cs).nextId :=
      Nat.lt_of_lt_of_le hk (h.grew_after cs).nextId_le
    have hthere : (after UndoTree.apply t cs).WellFormed :=
      after_induction UndoTree.apply (fun _ c h ↦ h.apply c) h cs
    rw [after_append]
    exact (hthere.grew_after ds).node?_eq_none hlt hnone

/-- **A new id** names what is recorded. -/
theorem names_push (h : t.WellFormed) (r : Revision) :
    (t.push r).2.Names t.nextId t.current r := by
  have hpush : (t.push r).2.WellFormed := h.apply (.push r)
  refine hpush.names ?_ (Or.inr (h.exists_node?_push r))
  rw [nextId_push]
  exact Nat.lt_succ_self _

/-! ### Where nodes come from -/

/-- A call adds no node but that of the id which it hands out. -/
theorem hasPlace_or_pushedId? (h : t.WellFormed) (c : Call)
    (hk : (t.apply c).2.HasPlace (some k)) :
    t.HasPlace (some k) ∨ (t.apply c).1.pushedId? = some k := by
  rcases h.apply_cases c with ⟨r, rfl⟩ | ⟨d, rfl⟩ | ⟨-, place, mode, happly⟩
  · obtain ⟨m, hm⟩ := hk
    obtain ⟨n, ks, rfl, ⟨rfl, -⟩ | hn⟩ := h.node?_push_cases r hm
    · exact Or.inr rfl
    · exact Or.inl ⟨n, hn⟩
  · exact absurd hk (not_hasPlace_clear t d k)
  · rw [happly] at hk
    exact Or.inl hk

/-- **What a run adds** is recorded in it. -/
theorem hasPlace_or_mem_handedOut (h : t.WellFormed) (cs : List Call)
    (hk : (after UndoTree.apply t cs).HasPlace (some k)) :
    t.HasPlace (some k) ∨ k ∈ handedOut UndoTree.apply Answer.pushedId? t cs := by
  induction cs generalizing t with
  | nil => exact Or.inl hk
  | cons c cs ih =>
    rw [handedOut_cons, List.mem_append, Option.mem_toList]
    rcases ih (h.apply c) hk with hplace | hrest
    · exact (h.hasPlace_or_pushedId? c hplace).imp_right Or.inl
    · exact Or.inr (Or.inr hrest)

end WellFormed

/-- **Ids are names for good.** After any calls, the next revision gets an id that is greater than
all that were handed out. The id shows it, below the place that was current, and names it from then
on: later it shows this revision or nothing, and nothing once it was dropped. Nothing is shown that
was not recorded. -/
theorem names_after_calls (d : Document) (mode : HistoryMode) (cs : List Call) :
    let t := after apply (ofDocument d mode) cs
    let ids := handedOut apply Answer.pushedId? (ofDocument d mode) cs
    (∀ r, ∃ id t', t.apply (.push r) = (.pushed id, t') ∧ (∀ i ∈ ids, i < id) ∧
      (∃ ks, t'.node? id = some ⟨id, t.current, ks, r⟩) ∧ t'.Names id t.current r) ∧
    ∀ id n, t.node? id = some n → id ∈ ids := by
  intro t ids
  have hstart : (ofDocument d mode).WellFormed := wellFormed_ofDocument d mode
  have h : t.WellFormed := wellFormed_after d mode cs
  refine ⟨fun r ↦ ⟨t.nextId, (t.push r).2, rfl, fun i hi ↦ ?_, h.exists_node?_push r,
    h.names_push r⟩, fun id n hn ↦ ?_⟩
  · exact (handsOut.bounds_of_mem hstart hi).2
  · rcases hstart.hasPlace_or_mem_handedOut cs ⟨n, hn⟩ with ⟨m, hm⟩ | hmem
    · exact absurd hm (by simp [ofDocument, node?, EmptyCollection.emptyCollection])
    · exact hmem

/-- In a linear tree, an edit after an undo drops a revision, and starting again drops all. The ids
go on. -/
example :
    let r : Revision := ⟨"edit", .empty, none, none⟩
    let t₀ := ofDocument .empty .linear
    let cs : List Call := [.push r, .push r, .undo, .push r]
    (handedOut apply Answer.pushedId? t₀ (cs ++ [.clear .empty, .push r]),
      (after apply t₀ cs).nodes.ids, (after apply t₀ (cs ++ [.clear .empty, .push r])).nodes.ids) =
        ([0, 1, 2, 3], [0, 2], [3]) := by
  cbv

end TextHistory.UndoTree
