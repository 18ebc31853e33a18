import TextHistory.Run
import TextHistory.Workspace

/-!
# Sessions of a workspace do not interfere

Seen from one session, a run of calls of a workspace is a run of calls of its own. `exchanges`
collects, for one id, the calls that were meant for the session of that id while it was open, by
name or because it was the current one, each with the answer that came back. All that the session
went through is in there: the answers are those that a session on its own would have given to the
same calls, and it is left, open or closed, in the state in which they would have left that session
(`standsAlone_after_calls`). What the others did, and when sessions were opened, switched to and
closed, matters only as far as it decides which calls are meant for which session.

`Effect` says once what a call can do, and under which condition it does so. From this the proof
follows the life of an id. Before its session is opened, nothing reaches it
(`standsAlone_of_opens`). A session that is open takes the calls that reach it and no others
(`standsAlone_of_some`). And once it is closed, the id is out of use for good
(`exchanges_of_gone`), since ids are handed out in ascending order.
-/

namespace TextHistory

namespace Workspace

/-! ### What a call can do -/

/-- The content that a call opens a session with. -/
def Call.content? : Call → Option String
  | .create => some ""
  | .openContent content => some content
  | _ => none

/-- What a call can do: the answer to it, and the workspace afterwards. -/
inductive Effect (w : Workspace) : Call → Answer → Workspace → Prop
  /-- A session is opened under the next id. -/
  | opens {c : Call} {content : String} (hc : c.content? = some content) :
    Effect w c (.opened w.nextId) (w.openContent content).2
  /-- An open session is made the current one. -/
  | switches {id : Nat} {s : Session} (hs : w.session? id = some s) :
    Effect w (.switchTo id) .done { w with current := some id }
  /-- An open session is closed. If it was the current one, the first that is left takes over. -/
  | closes {id : Nat} {s : Session} (hs : w.session? id = some s) :
    Effect w (.close id) (.closed s)
      { w with
        sessions := w.sessions.erase id
        current := if w.current = some id then (w.sessions.erase id).ids.head? else w.current }
  /-- A session that is not open is refused. -/
  | refuses {c : Call} {id : Nat} (hc : c = .switchTo id ∨ c = .close id)
      (hs : w.session? id = none) : Effect w c (.failed (.sessionNotFound id)) w
  /-- An open session is reached. -/
  | reaches {id? : Option Nat} {id : Nat} {s : Session} (c : Session.Call)
      (hid : w.target id? = some id) (hs : w.session? id = some s) :
    Effect w (.onSession id? c) (.answered (some (s.apply c).1))
      { w with sessions := w.sessions.insert id (s.apply c).2 }
  /-- No open session is reached. -/
  | misses {id? : Option Nat} (c : Session.Call)
      (hid : ∀ id, w.target id? = some id → w.session? id = none) :
    Effect w (.onSession id? c) (.answered none) w

variable {w w' : Workspace} {c : Call} {a : Answer} {i : Nat} {s : Session} {content : String}

/-- A call on an open session is carried out there. -/
theorem onSession_of_some {id? : Option Nat} {id : Nat} (c : Session.Call)
    (hid : w.target id? = some id) (hs : w.session? id = some s) :
    w.onSession id? c =
      (some (s.apply c).1, { w with sessions := w.sessions.insert id (s.apply c).2 }) := by
  rw [onSession, hid]
  simp only [hs]

/-- A call on a session that is not open is not carried out. -/
theorem onSession_of_none {id? : Option Nat} (c : Session.Call)
    (hid : ∀ id, w.target id? = some id → w.session? id = none) :
    w.onSession id? c = (none, w) := by
  rw [onSession]
  rcases ht : w.target id? with - | id
  · rfl
  · simp only [hid id ht]

theorem effect_apply (w : Workspace) (c : Call) : w.Effect c (w.apply c).1 (w.apply c).2 := by
  cases c with
  | create => exact .opens rfl
  | openContent content => exact .opens rfl
  | switchTo id =>
    rw [apply, switchTo, IdMap.contains, ← session?]
    rcases hs : w.session? id with - | s
    · exact .refuses (Or.inl rfl) hs
    · exact .switches hs
  | close id =>
    rw [apply, close]
    rcases hs : w.session? id with - | s
    · exact .refuses (Or.inr rfl) hs
    · exact .closes hs
  | onSession id? c =>
    rw [apply]
    rcases htarget : w.target id? with - | id
    · have hid : ∀ id, w.target id? = some id → w.session? id = none := by simp [htarget]
      rw [onSession_of_none c hid]
      exact .misses c hid
    · rcases hs : w.session? id with - | s
      · have hid : ∀ id, w.target id? = some id → w.session? id = none := by simp [htarget, hs]
        rw [onSession_of_none c hid]
        exact .misses c hid
      · rw [onSession_of_some c htarget hs]
        exact .reaches c htarget hs

/-! ### What a session sees of it -/

/-- What passes between a call and session `i`, given the answer to the call. A call is meant for a
session that it names and for the current one if it names none, and it comes through if the session
is open. -/
def exchange (w : Workspace) (i : Nat) (c : Call) (a : Answer) : List (Session.Call × Answer) :=
  match c with
  | .onSession id? c => if w.target id? = some i ∧ (w.session? i).isSome then [(c, a)] else []
  | _ => []

/-- What passes between a run of calls and session `i`. -/
def exchanges (w : Workspace) (i : Nat) : List Call → List (Session.Call × Answer)
  | [] => []
  | c :: cs => w.exchange i c (w.apply c).1 ++ exchanges (w.apply c).2 i cs

/-- A run of calls opens session `i` with a content. -/
def Opens (w : Workspace) (cs : List Call) (i : Nat) (content : String) : Prop :=
  ∃ c : Call, c.content? = some content ∧ (c, Answer.opened i) ∈ cs.zip (answers apply w cs)

/-- A run of calls leaves session `i` in a state: open at the end, or closed on the way. -/
def Leaves (w : Workspace) (cs : List Call) (i : Nat) (s : Session) : Prop :=
  (after apply w cs).session? i = some s ∨
    (Call.close i, Answer.closed s) ∈ cs.zip (answers apply w cs)

/-- The ids of all open sessions were handed out. -/
def Issued (w : Workspace) : Prop := ∀ {k : Nat} {s : Session}, w.session? k = some s → k < w.nextId

/-- Nothing passes between a session and a call that is not meant for it. -/
theorem exchange_eq_nil (hc : ∀ id? c', c = .onSession id? c' → w.target id? = some i →
    w.session? i = none) : w.exchange i c a = [] := by
  cases c with
  | onSession id? c =>
    refine if_neg ?_
    rintro ⟨hid, hsome⟩
    rw [hc id? c rfl hid] at hsome
    exact absurd hsome (by simp)
  | _ => rfl

theorem exchanges_cons (cs : List Call) :
    w.exchanges i (c :: cs) = w.exchange i c (w.apply c).1 ++ (w.apply c).2.exchanges i cs := rfl

theorem not_opens_nil : ¬w.Opens [] i content := by simp [Opens]

theorem opens_cons (cs : List Call) :
    w.Opens (c :: cs) i content ↔
      c.content? = some content ∧ (w.apply c).1 = .opened i ∨
        (w.apply c).2.Opens cs i content := by
  simp only [Opens, answers_cons, List.zip_cons_cons, List.mem_cons, Prod.mk.injEq]
  constructor
  · rintro ⟨c', hc', ⟨rfl, ha⟩ | hmem⟩
    · exact Or.inl ⟨hc', ha.symm⟩
    · exact Or.inr ⟨c', hc', hmem⟩
  · rintro (⟨hc, ha⟩ | ⟨c', hc', hmem⟩)
    · exact ⟨c, hc, Or.inl ⟨rfl, ha.symm⟩⟩
    · exact ⟨c', hc', Or.inr hmem⟩

theorem leaves_nil : w.Leaves [] i s ↔ w.session? i = some s := by simp [Leaves]

theorem leaves_cons (cs : List Call) :
    w.Leaves (c :: cs) i s ↔
      c = .close i ∧ (w.apply c).1 = .closed s ∨ (w.apply c).2.Leaves cs i s := by
  simp only [Leaves, after_cons, answers_cons, List.zip_cons_cons, List.mem_cons, Prod.mk.injEq]
  constructor
  · rintro (hopen | ⟨hc, ha⟩ | hmem)
    · exact Or.inr (Or.inl hopen)
    · exact Or.inl ⟨hc.symm, ha.symm⟩
    · exact Or.inr (Or.inr hmem)
  · rintro (⟨hc, ha⟩ | hopen | hmem)
    · exact Or.inr (Or.inl ⟨hc.symm, ha.symm⟩)
    · exact Or.inl hopen
    · exact Or.inr (Or.inr hmem)

/-! ### One call -/

namespace Effect

theorem settings_eq (h : w.Effect c a w') : w'.settings = w.settings := by
  cases h <;> rfl

theorem nextId_le (h : w.Effect c a w') : w.nextId ≤ w'.nextId := by
  cases h with
  | opens hc => exact Nat.le_succ _
  | _ => exact Nat.le_refl _

/-- The session opened by a call gets the next id. -/
theorem opened (h : w.Effect c (.opened i) w') :
    i = w.nextId ∧ ∃ content, c.content? = some content ∧ w' = (w.openContent content).2 := by
  cases h with
  | opens hc => exact ⟨rfl, _, hc, rfl⟩

/-- An id that was handed out is not the next one. -/
theorem ne_opened_of_lt (h : w.Effect c a w') (hi : i < w.nextId) : a ≠ .opened i := by
  rintro rfl
  exact absurd h.opened.1 (Nat.ne_of_lt hi)

/-- Closing takes a session that is open, and leaves none under its id. -/
theorem close_cases (h : w.Effect (.close i) a w') :
    (∃ s, w.session? i = some s ∧ a = .closed s ∧ w'.session? i = none) ∨
      w.session? i = none ∧ ∀ s, a ≠ .closed s := by
  cases h with
  | closes hs => exact Or.inl ⟨_, hs, rfl, by simp [session?]⟩
  | refuses hc hs =>
    obtain hc | hc := hc
    · exact absurd hc (by simp)
    · obtain rfl := Call.close.inj hc
      exact Or.inr ⟨hs, by simp⟩
  | opens hc => simp [Call.content?] at hc

/-- A session that is not open is not closed. -/
theorem not_closed_of_none (h : w.Effect c a w') (hi : w.session? i = none) :
    ¬(c = .close i ∧ a = .closed s) := by
  rintro ⟨rfl, ha⟩
  rcases h.close_cases with ⟨s', hs', -⟩ | ⟨-, hne⟩
  · exact absurd (hi.symm.trans hs') (by simp)
  · exact hne s ha

/-- A session that is open after a call was open before, or is the one that was opened. -/
theorem issued (h : w.Effect c a w') (hw : w.Issued) : w'.Issued := by
  intro k s hs
  cases h with
  | opens hc =>
    rw [openContent, session?, IdMap.get?_insert] at hs
    split at hs
    · next hk => exact hk ▸ Nat.lt_succ_self _
    · exact Nat.lt_succ_of_lt (hw hs)
  | closes hs' =>
    rw [session?, IdMap.get?_erase] at hs
    split at hs
    · exact absurd hs (by simp)
    · exact hw hs
  | reaches c hid hs' =>
    rw [session?, IdMap.get?_insert] at hs
    split at hs
    · next hk => exact hw (hk ▸ hs')
    · exact hw hs
  | switches | refuses | misses => exact hw hs

/-- A session that is not open stays so, unless the call opens it. -/
theorem session?_of_none (h : w.Effect c a w') (hi : w.session? i = none) (ha : a ≠ .opened i) :
    w'.session? i = none := by
  cases h with
  | opens hc =>
    have hne : i ≠ w.nextId := fun hid ↦ ha (hid ▸ rfl)
    rw [openContent, session?, IdMap.get?_insert, if_neg hne]
    exact hi
  | closes hs =>
    rw [session?, IdMap.get?_erase]
    split
    · rfl
    · exact hi
  | reaches c hid hs =>
    rw [session?, IdMap.get?_insert, if_neg]
    · exact hi
    · rintro rfl
      exact absurd (hs.symm.trans hi) (by simp)
  | switches | refuses | misses => exact hi

/-- **An open session** that is not closed takes what is meant for it, and answers as it would on
its own. -/
theorem of_some (h : w.Effect c a w') (hw : w.Issued) (hi : w.session? i = some s)
    (hc : c ≠ .close i) :
    (w.exchange i c a).map Prod.snd =
        (answers Session.apply s ((w.exchange i c a).map Prod.fst)).map (.answered ∘ some) ∧
      w'.session? i = some (after Session.apply s ((w.exchange i c a).map Prod.fst)) := by
  have hsome : (w.session? i).isSome := by rw [hi]; rfl
  -- all effects but one let nothing through to the session and leave it alone
  have halone (hnil : w.exchange i c a = []) (hs : w'.session? i = some s) :
      (w.exchange i c a).map Prod.snd =
          (answers Session.apply s ((w.exchange i c a).map Prod.fst)).map (.answered ∘ some) ∧
        w'.session? i = some (after Session.apply s ((w.exchange i c a).map Prod.fst)) := by
    rw [hnil]
    exact ⟨rfl, hs⟩
  cases h with
  | opens hopens =>
    have hne : i ≠ w.nextId := Nat.ne_of_lt (hw hi)
    refine halone (exchange_eq_nil fun id? c' hc' ↦ ?_) ?_
    · exact absurd hopens (by simp [hc', Call.content?])
    · rw [openContent, session?, IdMap.get?_insert, if_neg hne]
      exact hi
  | switches => exact halone rfl hi
  | @closes id s' =>
    have hne : i ≠ id := fun hid ↦ hc (hid ▸ rfl)
    refine halone rfl ?_
    rw [session?, IdMap.get?_erase, if_neg hne]
    exact hi
  | refuses hrefused =>
    rcases hrefused with rfl | rfl
    · exact halone rfl hi
    · exact halone rfl hi
  | @reaches id? id s' c hid hs =>
    rcases Decidable.em (i = id) with rfl | hne
    · obtain rfl : s = s' := Option.some.inj (hi.symm.trans hs)
      have hexchange : w.exchange i (.onSession id? c) (.answered (some (s.apply c).1)) =
          [(c, .answered (some (s.apply c).1))] := if_pos ⟨hid, hsome⟩
      rw [hexchange, session?, IdMap.get?_insert, if_pos rfl]
      exact ⟨rfl, rfl⟩
    · refine halone (exchange_eq_nil fun _ _ heq htarget ↦ ?_) ?_
      · obtain ⟨rfl, -⟩ := Call.onSession.inj heq
        exact absurd (Option.some.inj (htarget.symm.trans hid)) hne
      · rw [session?, IdMap.get?_insert, if_neg hne]
        exact hi
  | misses c hmiss =>
    refine halone (exchange_eq_nil fun _ _ heq htarget ↦ ?_) hi
    obtain ⟨rfl, -⟩ := Call.onSession.inj heq
    exact hmiss i htarget

end Effect

/-! ### A run of calls -/

theorem issued_ofSettings (settings : Settings) : (ofSettings settings).Issued := by
  intro k s hs
  have hnone : (ofSettings settings).session? k = none := rfl
  exact absurd (hnone.symm.trans hs) (by simp)

/-- An id that was handed out is not handed out again. -/
theorem not_opens_of_lt (cs : List Call) (hi : i < w.nextId) : ¬w.Opens cs i content := by
  induction cs generalizing w with
  | nil => exact not_opens_nil
  | cons c cs ih =>
    have heffect := w.effect_apply c
    rw [opens_cons]
    rintro (⟨-, ha⟩ | hopens)
    · exact heffect.ne_opened_of_lt hi ha
    · exact ih (Nat.lt_of_lt_of_le hi heffect.nextId_le) hopens

/-- A session is opened before it is left. -/
theorem exists_opens_of_leaves (cs : List Call) (hi : w.session? i = none)
    (hleaves : w.Leaves cs i s) : ∃ content, w.Opens cs i content := by
  induction cs generalizing w with
  | nil => exact absurd (hi.symm.trans (leaves_nil.1 hleaves)) (by simp)
  | cons c cs ih =>
    have heffect := w.effect_apply c
    rcases (leaves_cons cs).1 hleaves with hclosed | hleaves
    · exact absurd hclosed (heffect.not_closed_of_none hi)
    · by_cases ha : (w.apply c).1 = .opened i
      · rw [ha] at heffect
        obtain ⟨-, content, hc, -⟩ := heffect.opened
        exact ⟨content, (opens_cons cs).2 (Or.inl ⟨hc, ha⟩)⟩
      · obtain ⟨content, hopens⟩ := ih (heffect.session?_of_none hi ha) hleaves
        exact ⟨content, (opens_cons cs).2 (Or.inr hopens)⟩

/-- **A session that was closed** takes nothing any more, and is not left again. -/
theorem exchanges_of_gone (cs : List Call) (hi : w.session? i = none) (hlt : i < w.nextId) :
    w.exchanges i cs = [] ∧ ∀ s, ¬w.Leaves cs i s := by
  constructor
  · induction cs generalizing w with
    | nil => rfl
    | cons c cs ih =>
      have heffect := w.effect_apply c
      have ha : (w.apply c).1 ≠ .opened i := heffect.ne_opened_of_lt hlt
      rw [exchanges_cons, exchange_eq_nil fun _ _ _ _ ↦ hi,
        ih (heffect.session?_of_none hi ha) (Nat.lt_of_lt_of_le hlt heffect.nextId_le)]
      rfl
  · intro s hleaves
    obtain ⟨content, hopens⟩ := exists_opens_of_leaves cs hi hleaves
    exact not_opens_of_lt cs hlt hopens

/-- A session that starts in a state stands alone through a run of calls: what it says is what a
session in this state says on its own, and it is left as such a session is. -/
def StandsAlone (w : Workspace) (cs : List Call) (i : Nat) (s : Session) : Prop :=
  (w.exchanges i cs).map Prod.snd =
      (answers Session.apply s ((w.exchanges i cs).map Prod.fst)).map (.answered ∘ some) ∧
    ∀ s', w.Leaves cs i s' → s' = after Session.apply s ((w.exchanges i cs).map Prod.fst)

/-- **An open session** stands alone: call by call, until it is closed. -/
theorem standsAlone_of_some (cs : List Call) (hw : w.Issued) (hi : w.session? i = some s) :
    w.StandsAlone cs i s := by
  induction cs generalizing w s with
  | nil =>
    refine ⟨rfl, fun s' hleaves ↦ ?_⟩
    exact Option.some.inj ((leaves_nil.1 hleaves).symm.trans hi)
  | cons c cs ih =>
    have heffect := w.effect_apply c
    have hw' : (w.apply c).2.Issued := heffect.issued hw
    rcases Decidable.em (c = .close i) with rfl | hc
    · obtain ⟨s', hs', ha, hnone⟩ | ⟨hnone, -⟩ := heffect.close_cases
      · obtain rfl : s = s' := Option.some.inj (hi.symm.trans hs')
        have hlt : i < (w.apply (.close i)).2.nextId := Nat.lt_of_lt_of_le (hw hi) heffect.nextId_le
        obtain ⟨hnil, hleaves⟩ := exchanges_of_gone cs hnone hlt
        have hexchange : w.exchange i (.close i) (w.apply (.close i)).1 = [] := rfl
        rw [StandsAlone, exchanges_cons, hexchange, hnil]
        refine ⟨rfl, fun s' hs' ↦ ?_⟩
        rcases (leaves_cons cs).1 hs' with ⟨-, ha'⟩ | hs'
        · exact (Answer.closed.inj (ha.symm.trans ha')).symm
        · exact absurd hs' (hleaves s')
      · exact absurd (hnone.symm.trans hi) (by simp)
    · obtain ⟨hanswers, hs'⟩ := heffect.of_some hw hi hc
      obtain ⟨hrest, hleft⟩ := ih hw' hs'
      rw [StandsAlone, exchanges_cons, List.map_append, List.map_append, answers_append,
        List.map_append, after_append]
      refine ⟨by rw [← hanswers, ← hrest], fun s'' hleaves ↦ ?_⟩
      rcases (leaves_cons cs).1 hleaves with ⟨hc', -⟩ | hleaves
      · exact absurd hc' hc
      · exact hleft s'' hleaves

/-- **A session that is opened on the way** stands alone from its content on. -/
theorem standsAlone_of_opens (cs : List Call) (hw : w.Issued) (hi : w.session? i = none)
    (hopens : w.Opens cs i content) : w.StandsAlone cs i (.ofContent content w.settings) := by
  induction cs generalizing w with
  | nil => exact absurd hopens not_opens_nil
  | cons c cs ih =>
    have heffect := w.effect_apply c
    have hw' : (w.apply c).2.Issued := heffect.issued hw
    have hrest : (w.apply c).2.StandsAlone cs i (.ofContent content w.settings) := by
      rcases (opens_cons cs).1 hopens with ⟨hc, ha⟩ | hopens
      · rw [ha] at heffect
        obtain ⟨rfl, content', hc', hopened⟩ := heffect.opened
        obtain rfl : content = content' := Option.some.inj (hc.symm.trans hc')
        exact standsAlone_of_some cs hw' (by simp [hopened, openContent, session?])
      · have ha : (w.apply c).1 ≠ .opened i := by
          intro ha
          rw [ha] at heffect
          obtain ⟨rfl, content', -, hopened⟩ := heffect.opened
          exact not_opens_of_lt cs (by simp [hopened, openContent]) hopens
        rw [← heffect.settings_eq]
        exact ih hw' (heffect.session?_of_none hi ha) hopens
    obtain ⟨hanswers, hleft⟩ := hrest
    rw [StandsAlone, exchanges_cons, exchange_eq_nil fun _ _ _ _ ↦ hi, List.nil_append]
    refine ⟨hanswers, fun s hleaves ↦ ?_⟩
    rcases (leaves_cons cs).1 hleaves with hclosed | hleaves
    · exact absurd hclosed (heffect.not_closed_of_none hi)
    · exact hleft s hleaves

/-- **Sessions of a workspace do not interfere.** A session that a run of calls leaves, open at the
end or closed on the way, was opened with a content. The answers to the calls that were meant for
it, and the state it is left in, are what these calls alone bring about in a session that starts
with this content. -/
theorem standsAlone_after_calls (settings : Settings) (cs : List Call) (i : Nat) (s : Session)
    (hleaves : (ofSettings settings).Leaves cs i s) :
    (∃ content, (ofSettings settings).Opens cs i content) ∧
      ∀ content, (ofSettings settings).Opens cs i content →
        let alone := Session.ofContent content settings
        let reached := (ofSettings settings).exchanges i cs
        reached.map Prod.snd =
            (answers Session.apply alone (reached.map Prod.fst)).map (.answered ∘ some) ∧
          s = after Session.apply alone (reached.map Prod.fst) := by
  have hnone : (ofSettings settings).session? i = none := rfl
  refine ⟨exists_opens_of_leaves cs hnone hleaves, fun content hopens ↦ ?_⟩
  obtain ⟨hanswers, hleft⟩ := standsAlone_of_opens cs (issued_ofSettings settings) hnone hopens
  exact ⟨hanswers, hleft s hleaves⟩

/-- The second session is reached by its id, and as the current one after a switch and once the
first session is closed. -/
theorem standsAlone_after_calls_second :
    let w := ofSettings .default
    let cs : List Call := [.openContent "ab", .openContent "cd", .onSession none (.type "x"),
      .onSession (some 1) (.type "y"), .switchTo 1, .onSession none (.setCursor ⟨0, 2⟩),
      .switchTo 0, .onSession none .undo, .close 0, .onSession none (.type "z")]
    ∃ s, w.Leaves cs 1 s ∧ s.document.content = "yczd" ∧
      s = after Session.apply (.ofContent "cd" .default)
        [.type "y", .setCursor ⟨0, 2⟩, .type "z"] := by
  intro w cs
  have hsome : ((after apply w cs).session? 1).isSome := by decide +kernel
  obtain ⟨s, hs⟩ := Option.isSome_iff_exists.1 hsome
  have hopens : w.Opens cs 1 "cd" := ⟨.openContent "cd", rfl, List.mem_of_getElem? (i := 1) rfl⟩
  have hreached : (w.exchanges 1 cs).map Prod.fst = [.type "y", .setCursor ⟨0, 2⟩, .type "z"] := by
    decide +kernel
  obtain ⟨-, halone⟩ := (standsAlone_after_calls .default cs 1 s (Or.inl hs)).2 "cd" hopens
  rw [hreached] at halone
  exact ⟨s, Or.inl hs, halone ▸ by decide +kernel, halone⟩

end Workspace

end TextHistory
