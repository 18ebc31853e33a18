import TextHistory.Proofs.Workspace.Independence

/-!
# The current session and the ids of a workspace

The sessions of a workspace are kept in a map, and beside the map stands the id of the current one.
Nothing ties the two together but the calls: opening into an empty workspace makes the new session
current, switching asks whether the session is open, and closing the current session lets the
smallest id that is left take over. `Coherent` is what they keep up between them: the current
session is open, and there is one as long as any session is. It is proved from `Effect`, one case an
effect.

Ids come from a counter. So those of a run ascend (`handsOut`), and an id that was closed is
behind the counter and cannot come back (`session?_eq_none_of_closed`).
-/

namespace TextHistory

namespace Workspace

/-- The id that an answer hands out. -/
def Answer.openedId? : Answer → Option Nat
  | .opened id => some id
  | _ => none

/-- The current session is open, and there is one unless no session is. -/
structure Coherent (w : Workspace) : Prop where
  /-- The ids of all open sessions were handed out. -/
  issued : w.Issued
  /-- The current session is open. -/
  exists_session : ∀ {id : Nat}, w.current = some id → ∃ s, w.session? id = some s
  /-- Without a current session, none is open. -/
  session?_eq_none : w.current = none → ∀ id, w.session? id = none

/-- What the list of open sessions and the current one look like from outside. -/
structure Overview (w : Workspace) : Prop where
  /-- There is no current session exactly if none is open, -/
  current_eq_none_iff : w.current = none ↔ w.isEmpty
  /-- and the same holds if the session itself is asked for. -/
  currentSession?_eq_none_iff : w.currentSession? = none ↔ w.isEmpty
  /-- The current session is one of the open ones. -/
  exists_currentSession? : ∀ id, w.current = some id →
    ∃ s, w.session? id = some s ∧ w.currentSession? = some s
  /-- The ids are listed in ascending order, and none twice. -/
  ascending_ids : w.ids.Pairwise (· < ·)
  /-- They are those of the open sessions. -/
  mem_ids_iff : ∀ id, id ∈ w.ids ↔ ∃ s, w.session? id = some s
  /-- There are as many sessions as ids. -/
  size_eq : w.size = w.ids.length

/-- What a call makes of the current session, and when it is refused. -/
structure Succession (w : Workspace) : Prop where
  /-- A new session gets the next id, and the others stay. It becomes current exactly if none was
  open; else the current one does not change. -/
  opens : ∀ (c : Call) (content : String), c.content? = some content →
    (w.apply c).1 = .opened w.nextId ∧
      (∀ k, (w.apply c).2.session? k =
        if k = w.nextId then some (.ofContent content w.settings) else w.session? k) ∧
      ((w.apply c).2.current = some w.nextId ↔ w.isEmpty) ∧
      (¬w.isEmpty → (w.apply c).2.current = w.current)
  /-- An open session can be made the current one. -/
  switches : ∀ (id : Nat) (s : Session), w.session? id = some s →
    w.apply (.switchTo id) = (.done, { w with current := some id })
  /-- An open session can be closed, which closes no other. If it was the current one, the smallest
  id that is left takes over, if any is; else the current session stays. -/
  closes : ∀ (id : Nat) (s : Session), w.session? id = some s →
    (w.apply (.close id)).1 = .closed s ∧
      (∀ k, (w.apply (.close id)).2.session? k = if k = id then none else w.session? k) ∧
      (w.apply (.close id)).2.current =
        if w.current = some id then (w.apply (.close id)).2.ids.min? else w.current
  /-- Switching and closing are refused for a session that is not open, and then change nothing.
  They are not refused for any other reason. -/
  refuses : ∀ (id : Nat) (c : Call), c = .switchTo id ∨ c = .close id →
    ((∃ e, (w.apply c).1 = .failed e) ↔ w.session? id = none) ∧
      (w.session? id = none → w.apply c = (.failed (.sessionNotFound id), w))

variable {w w' : Workspace} {c : Call} {a : Answer} {i : Nat} {s : Session}

/-! ### Listing the sessions -/

theorem mem_ids_iff {id : Nat} : id ∈ w.ids ↔ ∃ s, w.session? id = some s := by
  rw [ids, IdMap.mem_ids_iff, Option.isSome_iff_exists]
  exact Iff.rfl

/-- The first id of the list is the smallest. -/
theorem head?_ids (w : Workspace) : w.ids.head? = w.ids.min? := by
  refine (List.min?_eq_head? ?_).symm
  exact w.sessions.ascending_ids.imp fun hlt ↦ Nat.min_eq_left (Nat.le_of_lt hlt)

/-- A workspace is empty if no session is open. -/
theorem isEmpty_iff : w.isEmpty ↔ ∀ id, w.session? id = none := by
  have hids : w.isEmpty ↔ w.ids = [] := by
    rw [isEmpty, IdMap.isEmpty, List.isEmpty_iff, ids, IdMap.ids, List.map_eq_nil_iff]
  rw [hids, List.eq_nil_iff_forall_not_mem]
  simp only [mem_ids_iff, not_exists, Option.eq_none_iff_forall_ne_some]

/-! ### The step -/

/-- The current session is open afterwards. -/
theorem Effect.exists_session (h : w.Effect c a w') (hw : w.Coherent) {id : Nat}
    (hid : w'.current = some id) : ∃ s, w'.session? id = some s := by
  cases h with
  | opens hc =>
    simp only [openContent, session?, IdMap.get?_insert] at hid ⊢
    split
    · exact ⟨_, rfl⟩
    · next hne =>
      -- the new session is not the current one, so the current one was there before
      cases hcurrent : w.current with
      | none => exact absurd (by simpa [hcurrent] using hid.symm) hne
      | some k =>
        obtain rfl : k = id := by simpa [hcurrent] using hid
        exact hw.exists_session hcurrent
  | switches hs =>
    obtain rfl := Option.some.inj hid
    exact ⟨_, hs⟩
  | @closes k s hs =>
    dsimp only at hid
    split at hid
    · exact mem_ids_iff.1 (List.mem_of_mem_head? hid)
    · next hne =>
      have hk : id ≠ k := fun heq ↦ hne (heq ▸ hid)
      rw [session?, IdMap.get?_erase, if_neg hk]
      exact hw.exists_session hid
  | reaches c hk hs =>
    rw [session?, IdMap.get?_insert]
    split
    · exact ⟨_, rfl⟩
    · exact hw.exists_session hid
  | refuses | misses => exact hw.exists_session hid

/-- Where there is no current session afterwards, none is open. -/
theorem Effect.session?_eq_none (h : w.Effect c a w') (hw : w.Coherent) (hnone : w'.current = none)
    (id : Nat) : w'.session? id = none := by
  cases h with
  | opens hc => exact absurd hnone (by simp [openContent])
  | switches hs => exact absurd hnone (by simp)
  | @closes k s hs =>
    dsimp only at hnone
    split at hnone
    · have hnil := List.head?_eq_none_iff.1 hnone
      refine Option.eq_none_iff_forall_ne_some.2 fun s hs ↦ ?_
      have hmem := (w.sessions.erase k).mem_ids_iff.2 (Option.isSome_iff_exists.2 ⟨s, hs⟩)
      exact absurd (hnil ▸ hmem) List.not_mem_nil
    · rw [session?, IdMap.get?_erase]
      split
      · rfl
      · exact hw.session?_eq_none hnone id
  | reaches c hk hs => exact absurd (hs.symm.trans (hw.session?_eq_none hnone _)) (by simp)
  | refuses | misses => exact hw.session?_eq_none hnone id

/-- **The step.** Every effect keeps the current session open. -/
theorem Effect.coherent (h : w.Effect c a w') (hw : w.Coherent) : w'.Coherent where
  issued := h.issued hw.issued
  exists_session hid := h.exists_session hw hid
  session?_eq_none hnone id := h.session?_eq_none hw hnone id

/-- Only a session that is not open is refused. -/
theorem Effect.session?_of_failed {e : EditError} {id : Nat} (h : w.Effect c (.failed e) w')
    (hc : c = .switchTo id ∨ c = .close id) : w.session? id = none := by
  cases h with
  | refuses hc' hs =>
    rcases hc with rfl | rfl
    · rcases hc' with hid | hid
      · exact Call.switchTo.inj hid ▸ hs
      · exact absurd hid (by simp)
    · rcases hc' with hid | hid
      · exact absurd hid (by simp)
      · exact Call.close.inj hid ▸ hs

theorem coherent_ofSettings (settings : Settings) : (ofSettings settings).Coherent where
  issued := issued_ofSettings settings
  exists_session h := absurd h (by simp [ofSettings])
  session?_eq_none _ _ := rfl

/-! ### What follows -/

namespace Coherent

theorem current_eq_none_iff (h : w.Coherent) : w.current = none ↔ w.isEmpty := by
  rw [isEmpty_iff]
  refine ⟨h.session?_eq_none, fun hnone ↦ ?_⟩
  cases hcurrent : w.current with
  | none => rfl
  | some id =>
    obtain ⟨s, hs⟩ := h.exists_session hcurrent
    exact absurd (hs.symm.trans (hnone id)) (by simp)

theorem exists_currentSession? (h : w.Coherent) {id : Nat} (hid : w.current = some id) :
    ∃ s, w.session? id = some s ∧ w.currentSession? = some s := by
  obtain ⟨s, hs⟩ := h.exists_session hid
  refine ⟨s, hs, ?_⟩
  rw [currentSession?, hid]
  exact hs

theorem overview (h : w.Coherent) : w.Overview where
  current_eq_none_iff := h.current_eq_none_iff
  currentSession?_eq_none_iff := by
    rw [← h.current_eq_none_iff]
    cases hcurrent : w.current with
    | none => simp [currentSession?, hcurrent]
    | some id =>
      obtain ⟨s, -, hs⟩ := h.exists_currentSession? hcurrent
      simp [hs]
  exists_currentSession? _ hid := h.exists_currentSession? hid
  ascending_ids := w.sessions.ascending_ids
  mem_ids_iff _ := mem_ids_iff
  size_eq := (List.length_map _).symm

/-- The session that is opened becomes current if there was none. -/
theorem current_openContent_iff (h : w.Coherent) (content : String) :
    (w.openContent content).2.current = some w.nextId ↔ w.isEmpty := by
  rw [← h.current_eq_none_iff, openContent]
  cases hcurrent : w.current with
  | none => simp
  | some id =>
    obtain ⟨s, hs⟩ := h.exists_session hcurrent
    simp [Nat.ne_of_lt (h.issued hs)]

theorem current_openContent (h : w.Coherent) (content : String) (hne : ¬w.isEmpty) :
    (w.openContent content).2.current = w.current := by
  rw [← h.current_eq_none_iff] at hne
  obtain ⟨id, hid⟩ := Option.ne_none_iff_exists'.1 hne
  simp [openContent, hid]

theorem succession (h : w.Coherent) : w.Succession where
  opens c content hc := by
    have hopen : w.apply c = (.opened w.nextId, (w.openContent content).2) := by
      cases c with
      | create => exact Option.some.inj hc ▸ rfl
      | openContent content' => exact Option.some.inj hc ▸ rfl
      | _ => exact absurd hc (by simp [Call.content?])
    rw [hopen]
    exact ⟨rfl, fun k ↦ IdMap.get?_insert _ _ _ _, h.current_openContent_iff content,
      h.current_openContent content⟩
  switches id s hs := by
    rw [apply, switchTo, IdMap.contains, ← session?, hs]
    rfl
  closes id s hs := by
    have hclose : w.apply (.close id) = (.closed s,
        { w with
          sessions := w.sessions.erase id
          current := if w.current = some id then (w.sessions.erase id).ids.head?
            else w.current }) := by
      rw [apply, close, hs]
    rw [hclose]
    refine ⟨rfl, fun k ↦ IdMap.get?_erase _ _ _, ?_⟩
    rw [← head?_ids]
    rfl
  refuses id c hc := by
    have hfail (hnone : w.session? id = none) :
        w.apply c = (.failed (.sessionNotFound id), w) := by
      rcases hc with rfl | rfl
      · rw [apply, switchTo, IdMap.contains, ← session?, hnone]
        rfl
      · rw [apply, close, hnone]
    refine ⟨⟨?_, fun hnone ↦ ⟨_, congrArg Prod.fst (hfail hnone)⟩⟩, hfail⟩
    rintro ⟨e, he⟩
    exact (he ▸ w.effect_apply c).session?_of_failed hc

end Coherent

/-! ### The run -/

/-- A workspace takes its ids from a counter. -/
theorem handsOut : HandsOut apply (fun _ ↦ True) nextId Answer.openedId? where
  keeps _ _ _ := trivial
  next_le w c _ := (w.effect_apply c).nextId_le
  eq_next w c id _ hid := by
    have heffect := w.effect_apply c
    cases ha : (w.apply c).1 with
    | opened k =>
      rw [ha] at hid heffect
      obtain rfl : k = id := Option.some.inj hid
      obtain ⟨rfl, content, -, hw'⟩ := heffect.opened
      rw [hw']
      exact ⟨rfl, Nat.lt_succ_self _⟩
    | _ =>
      rw [ha] at hid
      exact absurd hid (by simp [Answer.openedId?])

/-- **A session that was closed** is never open again. -/
theorem session?_eq_none_of_closed (cs : List Call) (hw : w.Issued)
    (hclosed : (Call.close i, Answer.closed s) ∈ cs.zip (answers apply w cs)) :
    (after apply w cs).session? i = none := by
  induction cs generalizing w with
  | nil => exact absurd hclosed List.not_mem_nil
  | cons c cs ih =>
    have heffect := w.effect_apply c
    rw [answers_cons, List.zip_cons_cons] at hclosed
    rcases List.mem_cons.1 hclosed with hfirst | hrest
    · obtain ⟨rfl, ha⟩ := Prod.mk.inj hfirst
      rcases heffect.close_cases with ⟨s', hs', -, hnone⟩ | ⟨-, hne⟩
      · have hlt := Nat.lt_of_lt_of_le (hw hs') heffect.nextId_le
        -- the id is behind the counter, so no later call opens it
        obtain ⟨-, hleaves⟩ := exchanges_of_gone cs hnone hlt
        exact Option.eq_none_iff_forall_ne_some.2 fun s'' hs'' ↦ hleaves s'' (Or.inl hs'')
      · exact absurd ha.symm (hne s)
    · exact ih (heffect.issued hw) hrest

/-- **The current session and the ids.** Whatever calls a workspace has taken, there is a current
session exactly if one is open, and it is open; the ids are listed in ascending order. Ids were
handed out in ascending order, and none that was closed is open. And the next call opens, switches,
closes and refuses as it should: an empty workspace gets a current session by opening one, and when
the current session is closed the smallest id takes over. -/
theorem succession_after_calls (settings : Settings) (cs : List Call) :
    let w₀ := ofSettings settings
    let w := after apply w₀ cs
    w.Overview ∧ w.Succession ∧ (handedOut apply Answer.openedId? w₀ cs).Pairwise (· < ·) ∧
      ∀ (i : Nat) (s : Session),
        (Call.close i, Answer.closed s) ∈ cs.zip (answers apply w₀ cs) → w.session? i = none := by
  intro w₀ w
  have h : w.Coherent :=
    after_induction apply (fun w c h ↦ (w.effect_apply c).coherent h) (coherent_ofSettings settings)
      cs
  exact ⟨h.overview, h.succession, handsOut.ascending trivial cs,
    fun _ _ hclosed ↦ session?_eq_none_of_closed cs (issued_ofSettings settings) hclosed⟩

/-- The current session is closed in the middle of the ids, and at last the only one that is
open. -/
example :
    let cs : List Call := [.create, .create, .create, .switchTo 1, .close 1]
    let w := after apply (ofSettings .default) cs
    let w' := after apply w [.close 0, .close 2, .create]
    (w.current, w.ids) = (some 0, [0, 2]) ∧ (w'.current, w'.ids) = (some 3, [3]) := by
  decide

end Workspace

end TextHistory
