import TextHistory.Log.Trace
import TextHistory.Proofs.UndoTree.Permanence

/-!
# The log as an audit trail

The history of a document writes a line into the log whenever something was recorded, dropped,
cleared or moved, and is silent else. Is that enough to follow the history by its log alone?

Two relations answer it, one about single calls and one about the log as a whole.

* `Leaves` says what one call leaves in the log, told by the tree before it, its answer and the tree
  after it. A tree in good shape reports exactly that (`WellFormed.leaves_apply`). The count of
  dropped revisions is the loss of nodes here, and not the counter that reports it.
* A `Ledger` is what a reader knows who has only the lines: the place that the last of them led to,
  and how many revisions were recorded and how many dropped since the history was last cleared. A
  line `Agrees` with the ledger if the place or the number that it names is the one known already.

Whatever `Leaves` allows after a ledger that matches the tree agrees with it line by line, and leads
to a ledger that matches the tree again (`Leaves.follows`). So the reader is never contradicted, and
knows in the end where the history is and how large it is (`trail_after_calls`).
-/

namespace TextHistory.UndoTree

/-- What a run of calls reports, call by call. -/
def trail (t : UndoTree) : List Call → List Event
  | [] => []
  | c :: cs => t.callTrace c ++ (t.apply c).2.trail cs

theorem trail_append (t : UndoTree) (cs ds : List Call) :
    t.trail (cs ++ ds) = t.trail cs ++ (after apply t cs).trail ds := by
  induction cs generalizing t with
  | nil => rfl
  | cons c cs ih => rw [List.cons_append, trail, ih, trail, after_cons, List.append_assoc]

/-! ### What a call leaves in the log -/

/-- What a call leaves in the log, by the tree before it, the tree after it, and its answer. -/
inductive Leaves (t t' : UndoTree) : Call → Answer → List Event → Prop
  /-- A revision was recorded and none dropped. The place named is the one before the call. -/
  | pushed {r : Revision} {id : Nat} (hnew : t.node? id = none) (hcurrent : t'.current = some id)
      (hsize : t'.size = t.size + 1) :
      Leaves t t' (.push r) (.pushed id) [.pushed id r.description t.current]
  /-- In a linear tree revisions were dropped, and then one was recorded. -/
  | pushedOver {r : Revision} {id count : Nat} (hmode : t.mode = .linear) (hcount : 0 < count)
      (hnew : t.node? id = none) (hcurrent : t'.current = some id)
      (hsize : t'.size + count = t.size + 1) :
      Leaves t t' (.push r) (.pushed id)
        [.discarded count, .pushed id r.description t.current]
  /-- The current place moved to the parent. -/
  | undone {id : Nat} {c : Checkpoint} (hbefore : t.current = some id)
      (hafter : t'.current = c.node) (hsize : t'.size = t.size) :
      Leaves t t' .undo (.moved (.moved c)) [.undone id c.node]
  /-- The current place moved to a child. -/
  | redone {id : Nat} {c : Checkpoint} (hnode : c.node = some id) (hafter : t'.current = some id)
      (hsize : t'.size = t.size) :
      Leaves t t' .redo (.moved (.moved c)) [.redone t.current id]
  /-- The current place moved to the revision asked for. -/
  | went {id : Nat} {c : Checkpoint} (hnode : c.node = some id) (hafter : t'.current = some id)
      (hsize : t'.size = t.size) :
      Leaves t t' (.goto id) (.went c) [.went t.current id]
  /-- The history was dropped, with so many revisions. -/
  | cleared {d : Document} (hafter : t'.current = none) (hsize : t'.size = 0) :
      Leaves t t' (.clear d) .done [.cleared t.size]
  /-- There was nothing to undo. -/
  | atOldest (hsame : t' = t) : Leaves t t' .undo (.moved .atOldest) []
  /-- There was nothing to redo. -/
  | atNewest (hsame : t' = t) : Leaves t t' .redo (.moved .atNewest) []
  /-- The revision asked for is not there. -/
  | missing {id : Nat} (hsame : t' = t) : Leaves t t' (.goto id) (.failed (.nodeNotFound id)) []
  /-- The mode is not logged. -/
  | setMode {mode : HistoryMode} (hcurrent : t'.current = t.current) (hsize : t'.size = t.size) :
      Leaves t t' (.setMode mode) .done []

variable {t t' : UndoTree}

/-- What is left when a revision takes its place, and what was dropped to that end. -/
theorem size_prepare_add (t : UndoTree) : t.prepare.1.size + t.prepare.2 = t.size := by
  rw [prepare]
  split
  · rfl
  · exact size_abandon_add _

namespace WellFormed

/-- A tree that has its current place does not report it missing. -/
theorem pushTrace_eq (h : t.WellFormed) (r : Revision) :
    t.pushTrace r = (if 0 < t.prepare.2 then [.discarded t.prepare.2] else []) ++
      [.pushed t.nextId r.description t.current] := by
  have hcur := h.hasPlace_current
  rw [pushTrace, attachPoint_eq hcur]
  cases hk : t.current with
  | none => rfl
  | some k =>
    rw [hk] at hcur
    obtain ⟨n, hn⟩ := hcur
    rw [node?] at hn
    simp [IdMap.contains, hn]

theorem size_push (h : t.WellFormed) (r : Revision) :
    (t.push r).2.size = t.prepare.1.size + 1 := size_attach _ _ _ h.prepare.node?_nextId

theorem leaves_push (h : t.WellFormed) (r : Revision) :
    t.Leaves (t.push r).2 (.push r) (.pushed (t.push r).1) (t.pushTrace r) := by
  have hsize := h.size_push r
  have hleft := t.size_prepare_add
  rw [h.pushTrace_eq]
  split
  next hpos =>
    have hmode : t.mode = .linear := by
      cases hm : t.mode with
      | branching => simp [UndoTree.prepare, hm] at hpos
      | linear => rfl
    exact .pushedOver hmode hpos h.node?_nextId (current_push t r) (by omega)
  next hzero => exact .pushed h.node?_nextId (current_push t r) (by omega)

/-- **The step.** What a tree reports of a call is what the call leaves in the log. -/
theorem leaves_apply (h : t.WellFormed) (c : Call) :
    t.Leaves (t.apply c).2 c (t.apply c).1 (t.callTrace c) := by
  cases c with
  | push r => exact h.leaves_push r
  | undo =>
    rcases h.undo_cases with ⟨hcur, hu⟩ | ⟨k, n, c, hcur, hn, hc, hu⟩
    · simp only [UndoTree.apply, callTrace, undoTrace, hu]
      rw [hcur]
      exact .atOldest rfl
    · obtain ⟨c', hc', hnode⟩ := h.exists_checkpointAt (h.hasPlace_parent hn)
      obtain rfl := Except.ok.inj (hc.symm.trans hc')
      simp only [UndoTree.apply, callTrace, undoTrace, hcur, hu, ← hnode]
      exact .undone hcur rfl rfl
  | redo =>
    rcases h.redo_cases with ⟨-, hr⟩ | ⟨k, ks, c, hks, hc, hr⟩
    · simp only [UndoTree.apply, callTrace, redoTrace, hr]
      exact .atNewest rfl
    · have hplace := h.hasPlace_of_mem (hks ▸ List.mem_cons_self)
      obtain ⟨c', hc', hnode⟩ := h.exists_checkpointAt hplace
      obtain rfl := Except.ok.inj (hc.symm.trans hc')
      simp only [UndoTree.apply, callTrace, redoTrace, hr]
      exact .redone hnode rfl rfl
  | goto id =>
    cases hn : t.node? id with
    | none =>
      simp only [UndoTree.apply, callTrace, gotoTrace, UndoTree.goto, hn]
      exact .missing rfl
    | some n =>
      simp only [UndoTree.apply, callTrace, gotoTrace, UndoTree.goto, hn]
      exact .went (congrArg some (h.id_eq hn)) rfl rfl
  | setMode mode => exact .setMode rfl rfl
  | clear d => exact .cleared rfl rfl

end WellFormed

/-! ### What a reader of the log knows -/

/-- What the lines of a log tell. -/
structure Ledger where
  /-- The place that the last line led to. -/
  place : Option Nat
  /-- The number of revisions recorded since the history was last cleared. -/
  recorded : Nat
  /-- The number of revisions dropped since then. -/
  dropped : Nat

namespace Ledger

/-- What is known of a history before the first line, and after it was cleared. -/
def start : Ledger := ⟨none, 0, 0⟩

variable (l : Ledger)

/-- What is known with one more line. -/
def enter : Event → Ledger
  | .pushed id _ _ => ⟨some id, l.recorded + 1, l.dropped⟩
  | .discarded count => { l with dropped := l.dropped + count }
  | .undone _ parent => { l with place := parent }
  | .redone _ id => { l with place := some id }
  | .went _ id => { l with place := some id }
  | .cleared _ => start
  | _ => l

/-- A line can come next: the place that it comes from is the one known, and the number of revisions
that went is that of those known to be there. No other lines are in the log of a history. -/
def Agrees : Event → Prop
  | .pushed _ _ parent => parent = l.place
  | .discarded count => 0 < count
  | .undone id _ => some id = l.place
  | .redone current _ => current = l.place
  | .went current _ => current = l.place
  | .cleared count => count + l.dropped = l.recorded
  | _ => False

/-- What is known with more lines. -/
def enterAll (es : List Event) : Ledger := es.foldl enter l

/-- Each of the lines can come next when it comes. -/
def AgreesAll (es : List Event) : Prop :=
  ∀ before e rest, es = before ++ e :: rest → (l.enterAll before).Agrees e

/-- The ledger is right about a tree. -/
structure Matches (t : UndoTree) : Prop where
  /-- It knows the current place, -/
  place : t.current = l.place
  /-- and the number of revisions. -/
  size : t.size + l.dropped = l.recorded

variable {l} {es fs : List Event} {e : Event}

theorem enterAll_append : l.enterAll (es ++ fs) = (l.enterAll es).enterAll fs := List.foldl_append

theorem agreesAll_nil : l.AgreesAll [] := fun _ _ _ h ↦ absurd h (by simp)

theorem agreesAll_cons : l.AgreesAll (e :: es) ↔ l.Agrees e ∧ (l.enter e).AgreesAll es := by
  constructor
  · intro h
    exact ⟨h [] e es rfl, fun before e' rest hes ↦ h (e :: before) e' rest (by rw [hes]; rfl)⟩
  · rintro ⟨he, hes⟩ before e' rest hsplit
    rcases List.cons_eq_append_iff.1 hsplit with ⟨rfl, hcons⟩ | ⟨before, rfl, hrest⟩
    · obtain ⟨rfl, -⟩ := List.cons.inj hcons
      exact he
    · exact hes before e' rest hrest

@[simp] theorem agreesAll_singleton : l.AgreesAll [e] ↔ l.Agrees e := by
  rw [agreesAll_cons, and_iff_left agreesAll_nil]

theorem agreesAll_append :
    l.AgreesAll (es ++ fs) ↔ l.AgreesAll es ∧ (l.enterAll es).AgreesAll fs := by
  induction es generalizing l with
  | nil => simp [agreesAll_nil, enterAll]
  | cons e es ih => rw [List.cons_append, agreesAll_cons, agreesAll_cons, ih, and_assoc]; rfl

/-- Each of the lines could come at some time. -/
theorem AgreesAll.exists_agrees (h : l.AgreesAll es) (he : e ∈ es) : ∃ l', Agrees l' e := by
  obtain ⟨before, rest, rfl⟩ := List.append_of_mem he
  exact ⟨_, h before e rest rfl⟩

/-- A line that can come is one of a history, and is not a warning. -/
theorem Agrees.line_eq (h : l.Agrees e) :
    e.entry.line = s!"DEBUG [edittree::history::tree]: {e.message}" := by
  have hparts : e.level = .debug ∧ e.source = "edittree::history::tree" := by
    cases e with
    | grew | inserted | deleted | normalized | currentMissing | opened | closed | loaded =>
      exact h.elim
    | _ => exact ⟨rfl, rfl⟩
  have hfront : "DEBUG" ++ " [" ++ "edittree::history::tree" ++ "]: "
      = "DEBUG [edittree::history::tree]: " := by decide
  show e.level.tag ++ " [" ++ e.source ++ "]: " ++ e.message = _
  rw [hparts.1, hparts.2]
  exact congrArg (· ++ e.message) hfront

end Ledger

/-- **One call.** What a call leaves in the log agrees with a ledger that is right about the tree,
and makes it right about the tree after the call. -/
theorem Leaves.follows {c : Call} {a : Answer} {es : List Event} (h : t.Leaves t' c a es)
    {l : Ledger} (hl : l.Matches t) : l.AgreesAll es ∧ (l.enterAll es).Matches t' := by
  obtain ⟨hplace, hcount⟩ := hl
  cases h with
  | pushed _ hcurrent hsize =>
    refine ⟨Ledger.agreesAll_singleton.2 hplace, hcurrent, ?_⟩
    simp only [Ledger.enterAll, List.foldl_cons, List.foldl_nil, Ledger.enter]
    omega
  | pushedOver _ hpos _ hcurrent hsize =>
    refine ⟨Ledger.agreesAll_cons.2 ⟨hpos, Ledger.agreesAll_singleton.2 hplace⟩, hcurrent, ?_⟩
    simp only [Ledger.enterAll, List.foldl_cons, List.foldl_nil, Ledger.enter]
    omega
  | undone hbefore hafter hsize =>
    exact ⟨Ledger.agreesAll_singleton.2 (hbefore.symm.trans hplace), hafter, hsize ▸ hcount⟩
  | redone _ hafter hsize => exact ⟨Ledger.agreesAll_singleton.2 hplace, hafter, hsize ▸ hcount⟩
  | went _ hafter hsize => exact ⟨Ledger.agreesAll_singleton.2 hplace, hafter, hsize ▸ hcount⟩
  | cleared hafter hsize => exact ⟨Ledger.agreesAll_singleton.2 hcount, hafter, hsize⟩
  | atOldest hsame | atNewest hsame | missing hsame =>
    exact ⟨Ledger.agreesAll_nil, hsame ▸ hplace, hsame ▸ hcount⟩
  | setMode hcurrent hsize =>
    exact ⟨Ledger.agreesAll_nil, hcurrent.trans hplace, hsize ▸ hcount⟩

/-- **The run.** A reader whose ledger is right about a tree can follow it through any run of
calls. -/
theorem WellFormed.follows_trail (h : t.WellFormed) {l : Ledger} (hl : l.Matches t)
    (cs : List Call) :
    l.AgreesAll (t.trail cs) ∧ (l.enterAll (t.trail cs)).Matches (after UndoTree.apply t cs) := by
  induction cs generalizing t l with
  | nil => exact ⟨Ledger.agreesAll_nil, hl⟩
  | cons c cs ih =>
    obtain ⟨hagrees, hmatches⟩ := (h.leaves_apply c).follows hl
    obtain ⟨hrest, hend⟩ := ih (h.apply c) hmatches
    rw [trail, Ledger.agreesAll_append, Ledger.enterAll_append]
    exact ⟨⟨hagrees, hrest⟩, hend⟩

/-! ### The log of a run -/

/-- At the level that keeps the most, no event is left out of a log. -/
theorem logLines_debug (es : List Event) :
    logLines .debug es = es.map fun e ↦ e.entry.line := by
  have hall (e : LogEntry) : LogLevel.debug ≤ e.level := Nat.zero_le _
  simp only [logLines, hall, if_true]
  rw [List.filterMap_eq_map', List.map_map]
  rfl

/-- What an undo leaves behind is dropped by the next edit. Boundaries, misses and modes are
silent. -/
example :
    let r : Revision := ⟨"edit", .empty, none, none⟩
    (ofDocument .empty .linear).trail
        [.push r, .undo, .undo, .push r, .goto 0, .setMode .branching, .redo, .goto 1,
          .clear .empty] =
      [.pushed 0 "edit" none, .undone 0 none, .discarded 1, .pushed 1 "edit" none,
        .went (some 1) 1, .cleared 1] := by
  cbv

end TextHistory.UndoTree
