import Mathlib.Data.List.Chain
import Mathlib.Data.List.Perm.Subperm
import TextHistory.Proofs.UndoTree.InPlace
import TextHistory.Proofs.UndoTree.Lineage
import TextHistory.Proofs.UndoTree.Recording

/-!
# Moving about in an undo tree

In a tree in good shape a move cannot find it damaged. Undo fails to move at the root only, and redo
where there are no children; then they say so and change nothing (`WellFormed.apply_undo_cases`,
`WellFormed.apply_redo_cases`). Wherever a move leads, the state that it answers with is what the
tree shows there (`IsAt`).

Made again and again, either call comes to an end (`Repeats`). Undo goes up through the current node
and its ancestors, each once, from the youngest to the oldest, and ends at the root
(`WellFormed.exists_climbs`). Redo goes down through oldest children, which are younger than what
they are below (`WellFormed.exists_descends`). No node is met twice on either way, so there are no
more moves than nodes. Both are inductions on the place where the repetition starts: for undo on its
rank, which says how far up it can be, and for redo on how far the rank is from the ids that are not
handed out yet.
-/

open Relation

namespace TextHistory.UndoTree

/-- The state is what the tree shows at its current place. -/
structure IsAt (t : UndoTree) (c : Checkpoint) : Prop where
  /-- It is the state of the current place, -/
  node : c.node = t.current
  /-- with the document there -/
  snapshot : t.currentSnapshot = .ok c.snapshot
  /-- and the cursor there. -/
  cursor : t.currentCursor = .ok c.cursor

/-- What an undo or a redo comes to: it moves if it `can`, and has to `stop` else. -/
structure Moves (t : UndoTree) (can : Bool) (stop : Move) (r : Answer × UndoTree) : Prop where
  /-- If it moves, it answers with the state where it has moved to. Nothing else changes. -/
  moved : can = true →
    ∃ c, r = (.moved (.moved c), { t with current := c.node }) ∧ r.2.IsAt c
  /-- If it does not, it says so and changes nothing. -/
  stopped : can = false → r = (.moved stop, t)

/-- What going to a revision comes to. -/
structure Goes (t : UndoTree) (id : Nat) : Prop where
  /-- If it is there, it becomes the current place, and the answer is the state there. -/
  went : t.HasPlace (some id) →
    ∃ c, t.apply (.goto id) = (.went c, { t with current := some id }) ∧
      ({ t with current := some id } : UndoTree).IsAt c
  /-- If it is not, nothing changes, also when the tree is changed in place. -/
  failed : ¬t.HasPlace (some id) →
    t.apply (.goto id) = (.failed (.nodeNotFound id), t) ∧
      gotoInPlace id t = .error (.nodeNotFound id) t

/-- A call that is made again and again moves through some places, one after the other, and from
then on it has to `stop`. -/
structure Repeats (t : UndoTree) (c : Call) (stop : Move) (places : List (Option Nat)) : Prop where
  /-- It comes through the places and stays at the last one, and nothing else changes. -/
  after_replicate : ∀ n, ∃ place, (t.current :: places)[min n places.length]? = some place ∧
    after apply t (List.replicate n c) = { t with current := place }
  /-- Each time it answers with the state there, or that it had to stop. -/
  answers_replicate : ∃ states : List Checkpoint, states.map Checkpoint.node = places ∧
    ∀ n, answers apply t (List.replicate n c) =
      (states.map fun s ↦ .moved (.moved s)).take n ++
        List.replicate (n - places.length) (.moved stop)

/-- Undo goes up through `ids` to the root. -/
structure Climbs (t : UndoTree) (ids : List Nat) : Prop where
  /-- They are the ids of the current node and its ancestors, -/
  mem_iff : ∀ k, k ∈ ids ↔ ReflTransGen t.Up t.current (some k)
  /-- from the youngest to the oldest. -/
  descending : ids.Pairwise (· > ·)
  /-- The tree has no fewer nodes. -/
  length_le : ids.length ≤ t.size
  /-- One undo is made for each of them. The last one leads to the root. -/
  undo : ∃ places, t.current :: places = ids.map some ++ [none] ∧
    t.Repeats .undo .atOldest places

/-- Redo goes down through `ids`. -/
structure Descends (t : UndoTree) (ids : List Nat) : Prop where
  /-- Each is the oldest child of the place before, -/
  firstChild : (t.current :: ids.map some).IsChain fun a b ↦ (t.childrenOf a).head? = b
  /-- and younger than all before. -/
  ascending : (t.current.toList ++ ids).Pairwise (· < ·)
  /-- The tree has no fewer nodes. -/
  length_le : ids.length ≤ t.size
  /-- One redo leads to each of them. -/
  redo : t.Repeats .redo .atNewest (ids.map some)

/-- The document that a tree starts from: the first one, or that of the last time it was cleared. -/
def startedFrom (d : Document) : List Call → Document
  | [] => d
  | .clear d' :: cs => startedFrom d' cs
  | _ :: cs => startedFrom d cs

variable {t : UndoTree} {c : Call} {stop : Move} {state : Checkpoint} {q : Option Nat}

/-! ### Making a call again and again -/

namespace Repeats

theorem nil (h : t.apply c = (.moved stop, t)) : t.Repeats c stop [] where
  after_replicate n := by
    refine ⟨t.current, by simp, ?_⟩
    show after apply t (List.replicate n c) = t
    induction n with
    | zero => rfl
    | succ n ih => rwa [List.replicate_succ, after_cons, h]
  answers_replicate := by
    refine ⟨[], rfl, fun n ↦ ?_⟩
    show answers apply t (List.replicate n c) = [].take n ++ List.replicate n (.moved stop)
    rw [List.take_nil, List.nil_append]
    induction n with
    | zero => rfl
    | succ n ih => rw [List.replicate_succ, answers_cons, h, ih, List.replicate_succ]

theorem cons {places : List (Option Nat)}
    (h : t.apply c = (.moved (.moved state), { t with current := state.node }))
    (hrest : ({ t with current := state.node } : UndoTree).Repeats c stop places) :
    t.Repeats c stop (state.node :: places) where
  after_replicate n := by
    cases n with
    | zero => exact ⟨t.current, by simp, rfl⟩
    | succ n =>
      obtain ⟨place, hplace, hafter⟩ := hrest.after_replicate n
      refine ⟨place, ?_, ?_⟩
      · rw [List.length_cons, Nat.add_min_add_right, List.getElem?_cons_succ]
        exact hplace
      · rw [List.replicate_succ, after_cons, h]
        exact hafter
  answers_replicate := by
    obtain ⟨states, hnodes, hanswers⟩ := hrest.answers_replicate
    refine ⟨state :: states, by rw [List.map_cons, hnodes], fun n ↦ ?_⟩
    cases n with
    | zero => simp
    | succ n =>
      rw [List.replicate_succ, answers_cons, h, hanswers n, List.map_cons, List.take_succ_cons,
        List.length_cons, Nat.add_sub_add_right, List.cons_append]

end Repeats

/-! ### One move -/

namespace Moves

theorem of_true {can : Bool} (hcan : can = true)
    (hat : ({ t with current := state.node } : UndoTree).IsAt state) :
    t.Moves can stop (.moved (.moved state), { t with current := state.node }) where
  moved _ := ⟨state, rfl, hat⟩
  stopped hcan' := absurd (hcan.symm.trans hcan') (by simp)

theorem of_false {can : Bool} (hcan : can = false) : t.Moves can stop (.moved stop, t) where
  moved hcan' := absurd (hcan.symm.trans hcan') (by simp)
  stopped _ := rfl

end Moves

namespace WellFormed

/-- What is looked up at a place is what the tree shows there. -/
theorem isAt_moveTo (h : t.WellFormed) (hstate : t.checkpointAt q = .ok state) :
    ({ t with current := q } : UndoTree).IsAt state := by
  have hmoved := (checkpointAt_moveTo t q q).trans hstate
  constructor
  case node =>
    cases q with
    | none =>
      obtain rfl := Except.ok.inj hstate
      rfl
    | some k =>
      obtain ⟨n, hn, rfl⟩ := exists_node?_of_checkpointAt hstate
      exact congrArg some (h.id_eq hn)
  case snapshot =>
    show Checkpoint.snapshot <$> ({ t with current := q } : UndoTree).checkpointAt q = _
    rw [hmoved]
    rfl
  case cursor =>
    show Checkpoint.cursor <$> ({ t with current := q } : UndoTree).checkpointAt q = _
    rw [hmoved]
    rfl

/-- **Undo** moves up, unless the root is the current place. -/
theorem apply_undo_cases (h : t.WellFormed) :
    (t.current = none ∧ t.apply .undo = (.moved .atOldest, t)) ∨
      ∃ (state : Checkpoint) (k : Nat), t.current = some k ∧ t.Up (some k) state.node ∧
        ({ t with current := state.node } : UndoTree).IsAt state ∧
        t.apply .undo = (.moved (.moved state), { t with current := state.node }) := by
  rw [UndoTree.apply]
  rcases h.undo_cases with ⟨hroot, hundo⟩ | ⟨k, n, state, hk, hn, hstate, hundo⟩
  · exact Or.inl ⟨hroot, by rw [hundo]⟩
  · have hat := h.isAt_moveTo hstate
    have hnode : state.node = n.parent := hat.node
    rw [← hnode] at hat hundo
    exact Or.inr ⟨state, k, hk, ⟨k, n, rfl, hn, hnode.symm⟩, hat, by rw [hundo]⟩

/-- **Redo** moves down to the oldest child, unless there is none. -/
theorem apply_redo_cases (h : t.WellFormed) :
    (t.childrenOf t.current = [] ∧ t.apply .redo = (.moved .atNewest, t)) ∨
      ∃ (state : Checkpoint) (k : Nat), state.node = some k ∧ t.IsFirstChild t.current k ∧
        ({ t with current := state.node } : UndoTree).IsAt state ∧
        t.apply .redo = (.moved (.moved state), { t with current := state.node }) := by
  rw [UndoTree.apply]
  rcases h.redo_cases with ⟨hnone, hredo⟩ | ⟨k, ks, state, hks, hstate, hredo⟩
  · exact Or.inl ⟨hnone, by rw [hredo]⟩
  · have hat := h.isAt_moveTo hstate
    have hnode : state.node = some k := hat.node
    have hfirst : t.IsFirstChild t.current k := by rw [IsFirstChild, hks, List.head?_cons]
    rw [← hnode] at hat hredo
    exact Or.inr ⟨state, k, hnode, hfirst, hat, by rw [hredo]⟩

theorem moves_undo (h : t.WellFormed) : t.Moves t.canUndo .atOldest (t.apply .undo) := by
  rcases h.apply_undo_cases with ⟨hroot, happly⟩ | ⟨state, k, hk, -, hat, happly⟩
  · have hcan : t.canUndo = false := by rw [canUndo, hroot]; rfl
    rw [happly]
    exact .of_false hcan
  · have hcan : t.canUndo = true := by rw [canUndo, hk]; rfl
    rw [happly]
    exact .of_true hcan hat

theorem moves_redo (h : t.WellFormed) : t.Moves t.canRedo .atNewest (t.apply .redo) := by
  rcases h.apply_redo_cases with ⟨hnone, happly⟩ | ⟨state, k, -, hfirst, hat, happly⟩
  · have hcan : t.canRedo = false := by rw [canRedo, hnone]; rfl
    rw [happly]
    exact .of_false hcan
  · have hcan : t.canRedo = true := by
      obtain ⟨ks, hks⟩ := List.head?_eq_some_iff.1 hfirst
      rw [canRedo, hks]
      rfl
    rw [happly]
    exact .of_true hcan hat

/-- **Going to a revision** fails only if it is not there. -/
theorem goes (h : t.WellFormed) (id : Nat) : t.Goes id where
  went hid := by
    obtain ⟨n, hn⟩ := hid
    refine ⟨n.checkpoint, ?_, h.isAt_moveTo (checkpointAt_some hn)⟩
    rw [UndoTree.apply, UndoTree.goto, hn]
  failed hid := by
    have hnone : t.node? id = none := Option.eq_none_iff_forall_ne_some.2 fun n hn ↦ hid ⟨n, hn⟩
    refine ⟨?_, ?_⟩
    · rw [UndoTree.apply, UndoTree.goto, hnone]
    · rw [gotoInPlace_eq, UndoTree.goto, hnone]
      rfl

end WellFormed

/-! ### All the way up -/

/-- A node has one parent. -/
theorem up_unique {a b b' : Option Nat} (hb : t.Up a b) (hb' : t.Up a b') : b = b' := by
  obtain ⟨k, n, rfl, hn, rfl⟩ := hb
  obtain ⟨k', n', hk, hn', rfl⟩ := hb'
  obtain rfl := Option.some.inj hk
  rw [Option.some.inj (hn.symm.trans hn')]

/-- Nothing is above the root. -/
theorem not_above_root (k : Nat) : ¬ReflTransGen t.Up none (some k) := fun hwalk ↦ by
  obtain heq | ⟨_, ⟨_, _, hk, -⟩, -⟩ := hwalk.cases_head
  · exact absurd heq (by simp)
  · exact absurd hk (by simp)

/-- Above a place are the place and what is above its parent. -/
theorem above_iff_of_up {a b : Option Nat} (hup : t.Up a b) :
    ReflTransGen t.Up a q ↔ a = q ∨ ReflTransGen t.Up b q := by
  rw [ReflTransGen.cases_head_iff]
  refine or_congr_right ⟨fun ⟨b', hup', hwalk⟩ ↦ up_unique hup hup' ▸ hwalk, fun hwalk ↦ ?_⟩
  exact ⟨b, hup, hwalk⟩

/-- There are no fewer nodes than ids that lead to one. -/
theorem length_le_size {ids : List Nat} (hids : ids.Nodup)
    (hplaces : ∀ k ∈ ids, t.HasPlace (some k)) : ids.length ≤ t.size := by
  have hsub : ids ⊆ t.nodes.ids := fun k hk ↦ by
    obtain ⟨n, hn⟩ := hplaces k hk
    exact t.nodes.mem_ids_iff.2 (Option.isSome_iff_exists.2 ⟨n, hn⟩)
  calc ids.length
      ≤ t.nodes.ids.length := (List.subperm_of_subset hids hsub).length_le
    _ = t.size := List.length_map _

namespace Climbs

theorem nil (hroot : t.current = none) (happly : t.apply .undo = (.moved .atOldest, t)) :
    t.Climbs [] where
  mem_iff k := by
    rw [hroot]
    exact iff_of_false List.not_mem_nil (not_above_root k)
  descending := .nil
  length_le := Nat.zero_le _
  undo := ⟨[], by rw [hroot]; rfl, .nil happly⟩

theorem cons (h : t.WellFormed) {k : Nat} {ids : List Nat} (hk : t.current = some k)
    (hup : t.Up (some k) state.node)
    (happly : t.apply .undo = (.moved (.moved state), { t with current := state.node }))
    (hrest : ({ t with current := state.node } : UndoTree).Climbs ids) : t.Climbs (k :: ids) := by
  have hmem : ∀ x, x ∈ k :: ids ↔ ReflTransGen t.Up t.current (some x) := fun x ↦ by
    rw [hk, above_iff_of_up hup, List.mem_cons, Option.some.injEq, eq_comm]
    exact or_congr_right (hrest.mem_iff x)
  have hdesc : (k :: ids).Pairwise (· > ·) := by
    refine List.pairwise_cons.2 ⟨fun x hx ↦ ?_, hrest.descending⟩
    have hwalk : TransGen t.Up (some k) (some x) := .head' hup ((hrest.mem_iff x).1 hx)
    exact Nat.lt_of_succ_lt_succ (h.rank_lt_of_transGen_up hwalk)
  obtain ⟨places, hplaces, hrepeats⟩ := hrest.undo
  exact
    { mem_iff := hmem
      descending := hdesc
      length_le := length_le_size (hdesc.imp Nat.ne_of_gt) fun x hx ↦
        h.hasPlace_of_above h.hasPlace_current ((hmem x).1 hx)
      undo := ⟨state.node :: places, by rw [hk, List.map_cons, List.cons_append, ← hplaces],
        hrepeats.cons happly⟩ }

/-- Whoever has undone enough is at the root. -/
theorem after_replicate_undo {ids : List Nat} (h : t.Climbs ids) {n : Nat} (hn : ids.length ≤ n) :
    after apply t (List.replicate n .undo) = { t with current := none } := by
  obtain ⟨places, hplaces, hrepeats⟩ := h.undo
  obtain ⟨place, hplace, hafter⟩ := hrepeats.after_replicate n
  have hlength : places.length = ids.length := by simpa using congrArg List.length hplaces
  have hlast : (ids.map some ++ [none])[ids.length]? = some place := by
    rwa [hplaces, hlength, Nat.min_eq_right hn] at hplace
  obtain rfl : none = place := by simpa using hlast
  exact hafter

end Climbs

/-- **Undo**, made again and again, goes up to the root. -/
theorem WellFormed.exists_climbs (h : t.WellFormed) : ∃ ids, t.Climbs ids := by
  induction hr : rank t.current using Nat.strongRecOn generalizing t with
  | ind r ih =>
    rcases h.apply_undo_cases with ⟨hroot, happly⟩ | ⟨state, k, hk, hup, -, happly⟩
    · exact ⟨[], .nil hroot happly⟩
    · have hplace := h.hasPlace_of_above h.hasPlace_current (.single (hk ▸ hup))
      have hless : rank state.node < r := by
        rw [← hr, hk]
        exact h.rank_lt_of_up hup
      obtain ⟨ids, hids⟩ := ih _ hless (h.moveTo hplace) rfl
      exact ⟨k :: ids, .cons h hk hup happly hids⟩

/-! ### All the way down -/

namespace WellFormed

/-- A way down through oldest children leads from node to younger node. -/
theorem ascending_of_isChain (h : t.WellFormed) {ids : List Nat}
    (hchain : (q :: ids.map some).IsChain fun a b ↦ (t.childrenOf a).head? = b) :
    (q.toList ++ ids).Pairwise (· < ·) ∧ ∀ k ∈ ids, t.HasPlace (some k) := by
  induction ids generalizing q with
  | nil => cases q <;> simp
  | cons k ids ih =>
    obtain ⟨hfirst, hrest⟩ := List.isChain_cons_cons.1 hchain
    have hk : k ∈ t.childrenOf q := List.mem_of_mem_head? hfirst
    obtain ⟨hasc, hplaces⟩ := ih hrest
    refine ⟨?_, List.forall_mem_cons.2 ⟨h.hasPlace_of_mem hk, hplaces⟩⟩
    cases q with
    | none => exact hasc
    | some p =>
      have hlt := h.lt_of_mem_childrenOf hk
      refine List.pairwise_cons.2 ⟨List.forall_mem_cons.2 ⟨hlt, fun x hx ↦ ?_⟩, hasc⟩
      exact Nat.lt_trans hlt (List.rel_of_pairwise_cons hasc hx)

/-- **Redo**, made again and again, goes down through oldest children. -/
theorem exists_repeats_redo (h : t.WellFormed) :
    ∃ ids : List Nat,
      (t.current :: ids.map some).IsChain (fun a b ↦ (t.childrenOf a).head? = b) ∧
        t.Repeats .redo .atNewest (ids.map some) := by
  induction hr : t.nextId - rank t.current using Nat.strongRecOn generalizing t with
  | ind r ih =>
    rcases h.apply_redo_cases with ⟨-, happly⟩ | ⟨state, k, hnode, hfirst, -, happly⟩
    · exact ⟨[], .singleton _, .nil happly⟩
    · have hk : k ∈ t.childrenOf t.current := List.mem_of_mem_head? hfirst
      have hplace := h.hasPlace_of_mem hk
      -- the child is nearer to the ids that are not handed out yet
      have hless : t.nextId - rank (some k) < r := by
        obtain ⟨n, hn⟩ := hplace
        have hdown : rank t.current < rank (some k) := h.rank_lt_of_up (h.up_iff.2 hk)
        have hnext : rank (some k) ≤ t.nextId := h.lt_nextId hn
        omega
      rw [← hnode] at hless hplace
      obtain ⟨ids, hchain, hrepeats⟩ := ih _ hless (h.moveTo hplace) rfl
      refine ⟨k :: ids, List.isChain_cons_cons.2 ⟨hfirst, ?_⟩, ?_⟩
      · simp only [childrenOf_moveTo, hnode] at hchain
        exact hchain
      · rw [List.map_cons, ← hnode]
        exact hrepeats.cons happly

theorem exists_descends (h : t.WellFormed) : ∃ ids, t.Descends ids := by
  obtain ⟨ids, hchain, hrepeats⟩ := h.exists_repeats_redo
  obtain ⟨hasc, hplaces⟩ := h.ascending_of_isChain hchain
  have hids : ids.Nodup := (List.pairwise_append.1 hasc).2.1.imp Nat.ne_of_lt
  exact ⟨ids, hchain, hasc, length_le_size hids hplaces, hrepeats⟩

/-! ### Where it all started -/

/-- Only clearing changes the document at the root. -/
theorem rootSnapshot_after (h : t.WellFormed) (cs : List Call) :
    (after UndoTree.apply t cs).rootSnapshot = startedFrom t.rootSnapshot cs := by
  induction cs generalizing t with
  | nil => rfl
  | cons c cs ih =>
    rw [after_cons, ih (h.apply c)]
    cases c with
    | clear d => rfl
    | _ =>
      rw [h.rootSnapshot_apply (by simp)]
      rfl

end WellFormed

/-- **Moving about always works and always comes to an end.** After any run of calls on a new tree,
undo and redo move exactly if there is something to undo or redo, going to a revision succeeds
exactly if it is there, and a move answers with what the tree shows at the place where it has led.
Undo, made as often as the current node has ancestors, itself included, leads to the root, where the
document is the one that the tree started from; and redo, made again and again, goes down through
oldest children to a place that has none. -/
theorem navigation_after_calls (d : Document) (mode : HistoryMode) (cs : List Call) :
    let t := after apply (ofDocument d mode) cs
    t.Moves t.canUndo .atOldest (t.apply .undo) ∧ t.Moves t.canRedo .atNewest (t.apply .redo) ∧
      (∀ id, t.Goes id) ∧
      (∃ ids, t.Climbs ids ∧ ∀ n, ids.length ≤ n →
        (after apply t (List.replicate n .undo)).current = none ∧
          (after apply t (List.replicate n .undo)).currentSnapshot = .ok (startedFrom d cs)) ∧
      ∃ ids, t.Descends ids := by
  intro t
  have h : t.WellFormed := wellFormed_after d mode cs
  have hroot : t.rootSnapshot = startedFrom d cs :=
    (wellFormed_ofDocument d mode).rootSnapshot_after cs
  obtain ⟨ids, hids⟩ := h.exists_climbs
  refine ⟨h.moves_undo, h.moves_redo, h.goes, ⟨ids, hids, fun n hn ↦ ?_⟩, h.exists_descends⟩
  rw [hids.after_replicate_undo hn, ← hroot]
  exact ⟨rfl, rfl⟩

/-- Undo comes back from the younger branch through the fork, and redo goes on into the older
one. -/
example :
    let r : Revision := ⟨"edit", .empty, none, none⟩
    let t := after apply (ofDocument .empty .branching) [.push r, .push r, .goto 0, .push r]
    let u := after apply t [.undo, .undo]
    (List.range 4).map (fun n ↦ (after apply t (List.replicate n .undo)).current) =
        [some 2, some 0, none, none] ∧
      (List.range 4).map (fun n ↦ (after apply u (List.replicate n .redo)).current) =
        [none, some 0, some 1, some 1] := by
  decide

end TextHistory.UndoTree
