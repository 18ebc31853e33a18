import TextHistory.Proofs.UndoTree.Places
import TextHistory.Run
import TextHistory.Session

/-!
# The document of a session and the one of its history

A session keeps its document twice: as it is, and as the current place of its history has it. It is
`Synced` if the two are the same value, which includes the capacity of the buffer and the place of
its gap.

Every call either brings the two together, whatever they were before, or leaves both as they are
(`synced_apply_iff`). Which of the two it does can be told from the answer (`resyncs`): edits and
moves that go through bring them together, and so does a reload, while a call that fails, a move at
the end of the history, a move of the cursor and a question change nothing here. So the two agree
as long as the history is not changed behind the back of the session, and if it is, the next edit
or move that goes through makes this good.

None of this needs the history to be in good shape. A place that cannot be looked up makes undo and
redo fail, and recording never looks at what is there.
-/

namespace TextHistory

namespace UndoTree

/-! ### Where calls lead -/

variable {t t' : UndoTree} {m : Move} {c : Checkpoint}

/-- The document at a place is there to be read once the place is the current one. -/
theorem currentSnapshot_moveTo {place : Option Nat} (h : t.checkpointAt place = .ok c) :
    ({ t with current := place } : UndoTree).currentSnapshot = .ok c.snapshot := by
  have hsame : ({ t with current := place } : UndoTree).checkpointAt place =
      t.checkpointAt place := by
    cases place <;> rfl
  show Checkpoint.snapshot <$> ({ t with current := place } : UndoTree).checkpointAt place = _
  rw [hsame, h]
  rfl

/-- What was recorded last is at the current place. -/
theorem currentSnapshot_attach (t : UndoTree) (place : Option Nat) (r : Revision) :
    (t.attach place r).currentSnapshot = .ok r.snapshot := by
  have hnode : (t.attach place r).node? t.nextId = ((t.withNode place r).node? t.nextId).map _ :=
    node?_setChildren _ _ _ _
  rw [node?_withNode, if_pos rfl] at hnode
  show Checkpoint.snapshot <$> (t.attach place r).checkpointAt (some t.nextId) = _
  rw [checkpointAt_some hnode]
  -- in a damaged tree the place may be the new node itself, which then lists itself
  split <;> rfl

theorem currentSnapshot_push (t : UndoTree) (r : Revision) :
    (t.push r).2.currentSnapshot = .ok r.snapshot := currentSnapshot_attach _ _ r

/-- A move tells what the document at the current place is now, or nothing has changed. -/
def Follows (t : UndoTree) (m : Move) (t' : UndoTree) : Prop :=
  match m with
  | .moved c => t'.currentSnapshot = .ok c.snapshot
  | _ => t' = t

theorem follows_of_undo (h : t.undo = .ok (m, t')) : t.Follows m t' := by
  rw [undo] at h
  split at h
  · obtain ⟨rfl, rfl⟩ := Prod.mk.inj (Except.ok.inj h)
    rfl
  · obtain ⟨n, -, h⟩ := bind_eq_ok_iff.1 h
    obtain ⟨c, hc, h⟩ := bind_eq_ok_iff.1 h
    obtain ⟨rfl, rfl⟩ := Prod.mk.inj (Except.ok.inj h)
    exact currentSnapshot_moveTo hc

theorem follows_of_redo (h : t.redo = .ok (m, t')) : t.Follows m t' := by
  rw [redo] at h
  obtain ⟨ks, -, h⟩ := bind_eq_ok_iff.1 h
  cases ks with
  | nil =>
    obtain ⟨rfl, rfl⟩ := Prod.mk.inj (Except.ok.inj h)
    rfl
  | cons k ks =>
    obtain ⟨c, hc, h⟩ := bind_eq_ok_iff.1 h
    obtain ⟨rfl, rfl⟩ := Prod.mk.inj (Except.ok.inj h)
    exact currentSnapshot_moveTo hc

theorem currentSnapshot_of_goto {id : Nat} (h : t.goto id = .ok (c, t')) :
    t'.currentSnapshot = .ok c.snapshot := by
  rw [goto] at h
  split at h
  · next n hn =>
    obtain ⟨rfl, rfl⟩ := Prod.mk.inj (Except.ok.inj h)
    exact currentSnapshot_moveTo (checkpointAt_some hn)
  · exact absurd h (by simp)

end UndoTree

namespace Session

variable {s : Session}

/-- The document as it is, is the one at the current place of the history. -/
def Synced (s : Session) : Prop := s.history.currentSnapshot = .ok s.document

instance (s : Session) : Decidable s.Synced :=
  match h : s.history.currentSnapshot with
  | .ok d => decidable_of_iff (d = s.document) (by rw [Synced, h, Except.ok.injEq])
  | .error e => isFalse (by rw [Synced, h]; simp)

/-- Whether the call is made behind the back of the session. -/
def Call.isHistory : Call → Bool
  | .history _ => true
  | _ => false

/-- Whether a call and its answer tell that the document went into the history or comes from it. -/
def Call.resyncs : Call → Answer → Bool
  | .edit _, .edited _ => true
  | .type _, .edited _ => true
  | .undo, .moved m => m.isMoved
  | .redo, .moved m => m.isMoved
  | .goto _, .done => true
  | .reload _, .done => true
  | _, _ => false

/-- A session at its start. -/
inductive Started : Session → Prop
  /-- A session that starts with a document. -/
  | ofDocument (d : Document) (mode : HistoryMode) : Started (.ofDocument d mode)
  /-- A session that starts with the content of a file. -/
  | ofContent (content : String) (settings : Settings) : Started (.ofContent content settings)

theorem Started.synced (h : s.Started) : s.Synced := by
  cases h with
  | ofDocument => rfl
  | ofContent => rfl

/-! ### The step -/

/-- An edit that goes through puts its document into the history. -/
theorem edit_cases (s : Session) (e : Document.Edit) :
    (∃ cause, s.edit e = .error cause) ∨ ∃ id s', s.edit e = .ok (id, s') ∧ s'.Synced := by
  rw [edit]
  cases s.document.outcome e with
  | error cause => exact Or.inl ⟨_, rfl⟩
  | ok o =>
    have hpush : (s.commit o).2.Synced := UndoTree.currentSnapshot_push _ _
    exact Or.inr ⟨_, _, rfl, hpush⟩

/-- Following a move fetches the document from the history, unless nothing moved. -/
theorem synced_follow_iff {m : Move} {t : UndoTree} (h : s.history.Follows m t) :
    (s.follow (m, t)).2.Synced ↔ (s.follow (m, t)).1.isMoved = true ∨ s.Synced := by
  cases m with
  | moved c => exact iff_of_true h (Or.inl rfl)
  | atOldest =>
    obtain rfl : t = s.history := h
    exact (or_iff_right Bool.false_ne_true).symm
  | atNewest =>
    obtain rfl : t = s.history := h
    exact (or_iff_right Bool.false_ne_true).symm

/-- **The step.** A call of the session brings the two documents together or leaves both alone, and
the answer tells which. -/
theorem synced_apply_iff (s : Session) {c : Call} (hc : c.isHistory = false) :
    (s.apply c).2.Synced ↔ c.resyncs (s.apply c).1 = true ∨ s.Synced := by
  have halone : s.Synced ↔ false = true ∨ s.Synced := (or_iff_right Bool.false_ne_true).symm
  cases c with
  | edit e =>
    rw [apply]
    rcases s.edit_cases e with ⟨cause, he⟩ | ⟨id, s', he, hsync⟩
    · rw [he]
      exact halone
    · rw [he]
      exact iff_of_true hsync (Or.inl rfl)
  | type text =>
    rw [apply, type]
    rcases s.edit_cases (.insert s.cursor text) with ⟨cause, he⟩ | ⟨id, s', he, hsync⟩
    · rw [he]
      exact halone
    · rw [he]
      exact iff_of_true hsync (Or.inl rfl)
  | setCursor p =>
    rw [apply, setCursor]
    cases s.document.clampPosition p with
    | error cause => exact halone
    | ok cursor => exact halone
  | undo =>
    rw [apply, undo]
    cases hu : s.history.undo with
    | error cause => exact halone
    | ok r => exact synced_follow_iff (UndoTree.follows_of_undo hu)
  | redo =>
    rw [apply, redo]
    cases hr : s.history.redo with
    | error cause => exact halone
    | ok r => exact synced_follow_iff (UndoTree.follows_of_redo hr)
  | goto id =>
    rw [apply, goto]
    cases hg : s.history.goto id with
    | error cause => exact halone
    | ok r => exact iff_of_true (UndoTree.currentSnapshot_of_goto hg) (Or.inl rfl)
  | reload content => exact iff_of_true rfl (Or.inl rfl)
  | ask q => exact halone
  | history c => exact absurd hc (by simp [Call.isHistory])

/-- The history does not answer for the session. -/
theorem isHistory_of_resyncs {c : Call} (h : c.resyncs (s.apply c).1 = true) :
    c.isHistory = false := by
  cases c with
  | history c => exact absurd h (by simp [Call.resyncs])
  | _ => rfl

/-! ### The run -/

/-- **The run.** Calls of the session never drive the two documents apart. -/
theorem Synced.run (h : s.Synced) {cs : List Call} (hcs : ∀ c ∈ cs, c.isHistory = false) :
    (after Session.apply s cs).Synced := by
  induction cs generalizing s with
  | nil => exact h
  | cons c cs ih =>
    obtain ⟨hc, hcs⟩ := List.forall_mem_cons.1 hcs
    exact ih ((s.synced_apply_iff hc).2 (Or.inr h)) hcs

/-- **The document of a session is the one of its history**, from the start on, as long as all calls
are calls of the session. If the history is changed behind its back, the first edit or move that
goes through makes this good, and so does a reload. No other call does. -/
theorem synced_after_calls (hs : s.Started) :
    (∀ cs : List Call, (∀ c ∈ cs, c.isHistory = false) → (after Session.apply s cs).Synced) ∧
      (∀ (cs : List Call) (c : Call) (ds : List Call),
        c.resyncs ((after Session.apply s cs).apply c).1 = true → (∀ d ∈ ds, d.isHistory = false) →
          (after Session.apply s (cs ++ c :: ds)).Synced) ∧
      ∀ (cs : List Call) (c : Call), c.isHistory = false →
        (((after Session.apply s cs).apply c).2.Synced ↔
          c.resyncs ((after Session.apply s cs).apply c).1 = true ∨
            (after Session.apply s cs).Synced) := by
  refine ⟨fun cs hcs ↦ hs.synced.run hcs, fun cs c ds hc hds ↦ ?_,
    fun cs c hc ↦ synced_apply_iff _ hc⟩
  rw [after_append, after_cons]
  exact Synced.run ((synced_apply_iff _ (isHistory_of_resyncs hc)).2 (Or.inl hc)) hds

/-- A revision recorded behind the back of a session is found by the next redo, or left by the next
undo. -/
theorem synced_after_calls_history_push :
    let s := Session.ofDocument (.ofString "" 0) .branching
    let r : Revision := ⟨"insert", .ofString "a" 0, none, none⟩
    s.Started ∧ ¬(after Session.apply s [.history (.push r)]).Synced ∧
      (after Session.apply s [.history (.push r), .undo, .redo, .setCursor ⟨0, 1⟩]).Synced := by
  intro s r
  have hs : s.Started := .ofDocument _ _
  obtain ⟨-, hresync, -⟩ := synced_after_calls hs
  have hundo : Call.resyncs .undo
      ((after Session.apply s [.history (.push r)]).apply .undo).1 = true := by decide
  exact ⟨hs, by decide,
    hresync [.history (.push r)] .undo [.redo, .setCursor ⟨0, 1⟩] hundo (by decide)⟩

end Session

end TextHistory
