import TextHistory.Proofs.Session.Placement
import TextHistory.Proofs.Session.UndoRedo

/-!
# Typing in pieces

A text may be typed at once or piece by piece; what the session shows in the end is the same. The
pieces meet at the cursor: each is put in where the one before has left it. So the text before the
cursor is all that has to be kept track of (`Stands`). Typing appends to it and leaves the text
behind the cursor alone (`Stands.type`), and as the cursor itself is where the text before it leads
to, nothing else can come out (`Stands.typeAll`).

Each piece is an edit of its own, and as many undos as there are pieces take them back. They lead to
where the first one began, and restore the cursor that is recorded there, which need not be the one
with which the typing began. But it is the same for one edit as for many (`Own.undo_edits`), if only
there is one.
-/

namespace TextHistory

namespace Session

variable {s s' : Session} {front back : List Char} {id : Nat} {texts : List String}

/-! ### The text on both sides of the cursor -/

/-- The text of a session is `front` before its cursor and `back` behind it. -/
structure Stands (s : Session) (front back : List Char) : Prop where
  /-- This is all of the text. -/
  toList_eq : s.document.buffer.toList = front ++ back
  /-- The cursor is between the two. -/
  cursor_eq : s.cursor = Position.origin.behind front

theorem WellFormed.exists_stands (h : s.WellFormed) : ∃ front back, s.Stands front back :=
  ⟨_, _, (List.take_append_drop _ _).symm, h.document.eq_behind_take h.cursor⟩

namespace Stands

/-- **Typing** appends to the text before the cursor. -/
theorem type (hst : s.Stands front back) (h : s.WellFormed) {text : String}
    (htype : s.type text = .ok (id, s')) : s'.Stands (front ++ text.toList) back where
  toList_eq := by
    obtain ⟨o, ho, rfl⟩ := exists_outcome_of_edit htype
    obtain ⟨d, -, hd, -, htext, -⟩ :=
      h.document.exists_insert (Document.offsetAt_of_hasPosition h.cursor) text
    have hinsert : s.document.insert s.cursor text = .ok o.document := Document.apply_of_outcome ho
    have hoffset : front.length = s.document.offset s.cursor := by
      rw [hst.cursor_eq, (h.document.offset_behind hst.toList_eq).2]
    obtain rfl : o.document = d := Except.ok.inj (hinsert.symm.trans hd)
    rw [hst.toList_eq, List.take_left' hoffset, List.drop_left' hoffset] at htext
    exact htext
  cursor_eq := by
    obtain ⟨p, hp, hcursor⟩ := h.cursor_of_edit htype
    obtain rfl : s.cursor = p :=
      Except.ok.inj ((Document.clampOnLine_of_hasPosition h.cursor).symm.trans hp)
    rw [hcursor, Position.behind_append, ← hst.cursor_eq]
    rfl

/-- **Typing in pieces** appends all of them. -/
theorem typeAll (hst : s.Stands front back) (h : s.WellFormed) (texts : List String) :
    (after Session.apply s (texts.map .type)).Stands
      (front ++ texts.flatMap String.toList) back := by
  induction texts generalizing s front with
  | nil => rwa [List.flatMap_nil, List.append_nil]
  | cons text texts ih =>
    obtain ⟨s', htype⟩ := h.exists_type text
    have happly : s.apply (.type text) = (.edited s.history.nextId, s') := by
      rw [Session.apply, htype]
      rfl
    have hwf : (s.apply (.type text)).2.WellFormed := h.apply (by simp [Call.documents])
    rw [List.map_cons, after_cons, List.flatMap_cons, ← List.append_assoc]
    rw [happly] at hwf ⊢
    exact ih (hst.type h htype) hwf

/-- Two sessions with the same text on both sides of the cursor show the same. -/
theorem content_eq (hst : s.Stands front back) (hst' : s'.Stands front back) :
    s.document.content = s'.document.content ∧ s.cursor = s'.cursor :=
  ⟨String.toList_inj.1 (by rw [Document.toList_content, Document.toList_content, hst.toList_eq,
    hst'.toList_eq]), hst.cursor_eq.trans hst'.cursor_eq.symm⟩

end Stands

/-! ### Typing is editing -/

/-- Typing always goes through. -/
theorem WellFormed.edits_type (h : s.WellFormed) (texts : List String) :
    s.Edits (texts.map .type) ∧ (s.afterEdits (texts.map .type)).length = texts.length ∧
      ∀ a ∈ answers Session.apply s (texts.map .type), ∃ id, a = .edited id := by
  induction texts generalizing s with
  | nil => exact ⟨.nil s, rfl, fun _ ha ↦ absurd ha List.not_mem_nil⟩
  | cons text texts ih =>
    have hedit := h.edited_type text
    obtain ⟨hedits, hlength, hanswers⟩ := ih (h.apply (c := .type text) (by simp [Call.documents]))
    rw [List.map_cons, afterEdits_of_edited hedit, answers_cons, List.length_cons, hlength]
    exact ⟨.edit hedit hedits, rfl, List.forall_mem_cons.2 ⟨⟨_, hedit⟩, hanswers⟩⟩

/-- **Undoing edits** leads back to the document where they began, and to the cursor that is
recorded there. -/
theorem Own.undo_edits (h : s.Own) (hsync : s.Synced) {es : List Call} (hes : s.Edits es) {n : Nat}
    (hn : (s.afterEdits es).length = n) (hpos : 0 < n) {ck : Checkpoint}
    (hck : s.history.checkpointAt s.history.current = .ok ck) :
    let s' := after Session.apply s es
    let back := after Session.apply s' (List.replicate n .undo)
    (∀ a ∈ answers Session.apply s' (List.replicate n .undo), a.isMoved = true) ∧
      back.document = s.document ∧ back.cursor = ck.cursor.getD .origin := by
  subst hn
  intro s' back
  obtain ⟨hmoved, hback, hcursor⟩ := hes.undo h.history (h.run hes.isHistory)
  replace hback : back.history = { s'.history with current := s.history.current } := hback
  obtain ⟨ck', hck', hcursor⟩ := hcursor hpos
  have hkept := hes.checkpointAt_current h.history
  obtain rfl : ck = ck' := Except.ok.inj (hck.symm.trans (hkept.symm.trans hck'))
  -- the document is the one that is shown there
  have hundos : ∀ c ∈ List.replicate (s.afterEdits es).length Call.undo, c.isHistory = false :=
    fun c hc ↦ by
      rw [List.eq_of_mem_replicate hc]
      rfl
  have hsync' : back.Synced := (hsync.run hes.isHistory).run hundos
  have hshown : back.history.checkpointAt back.history.current = .ok ck := by
    rw [hback, UndoTree.checkpointAt_moveTo]
    exact hck'
  exact ⟨hmoved, (hsync'.document_eq hshown).trans (hsync.document_eq hck).symm, hcursor⟩

/-- **Typing in pieces is typing at once.** In a session that nobody has tampered with, texts typed
one after the other always go in, and lead to the same content and the same cursor as if all of them
were typed at once. If there are any, as many undos take the pieces back as one undo takes back the
whole: both lead to the document before the typing, and to the same cursor. -/
theorem typing_after_calls {s₀ : Session} (hs : s₀.Started) (hd : s₀.document.WellFormed)
    (cs : List Call) (hcs : ∀ c ∈ cs, c.isHistory = false) (texts : List String)
    (hne : texts ≠ []) :
    let s := after Session.apply s₀ cs
    let pieces := after Session.apply s (texts.map .type)
    let whole := (s.apply (.type (String.join texts))).2
    let undos := List.replicate texts.length Call.undo
    let back := after Session.apply pieces undos
    let back' := (whole.apply .undo).2
    (∀ a ∈ answers Session.apply s (texts.map .type), ∃ id, a = .edited id) ∧
      (∃ id, (s.apply (.type (String.join texts))).1 = .edited id) ∧
      pieces.document.content = whole.document.content ∧ pieces.cursor = whole.cursor ∧
      (∀ a ∈ answers Session.apply pieces undos, a.isMoved = true) ∧
      (whole.apply .undo).1.isMoved = true ∧
      back.document = s.document ∧ back'.document = s.document ∧ back.cursor = back'.cursor := by
  intro s pieces whole undos back back'
  have hown : s.Own := (hs.own hd).run hcs
  have hsync : s.Synced := hs.synced.run hcs
  obtain ⟨ck, hck, -⟩ := hown.history.exists_checkpointAt hown.history.hasPlace_current
  obtain ⟨front, back₀, hst⟩ := hown.exists_stands
  obtain ⟨hedits, hlength, hanswers⟩ := hown.edits_type texts
  obtain ⟨hedits', hlength', -⟩ := hown.edits_type [String.join texts]
  obtain ⟨hmoved, hdoc, hcursor⟩ :=
    hown.undo_edits hsync hedits hlength (List.length_pos_iff.2 hne) hck
  obtain ⟨hmoved', hdoc', hcursor'⟩ := hown.undo_edits hsync hedits' hlength' Nat.one_pos hck
  -- typing at once is typing a single piece
  have hpieces := hst.typeAll hown.toWellFormed texts
  have hwhole := hst.typeAll hown.toWellFormed [String.join texts]
  rw [List.flatMap_singleton, String.toList_join] at hwhole
  obtain ⟨hcontent, hplace⟩ := hpieces.content_eq hwhole
  exact ⟨hanswers, ⟨_, hown.edited_type _⟩, hcontent, hplace, hmoved,
    hmoved' _ (List.mem_singleton_self _), hdoc, hdoc', hcursor.trans hcursor'.symm⟩

/-- Three pieces, one of them empty and one with a line feed at its end, typed where an edit was
undone and the cursor was moved. The undos lead to the cursor of the start. -/
theorem typing_after_calls_pieces :
    let s₀ := Session.ofDocument (.ofString "ab" 0) .branching
    let cs : List Call := [.type "z", .undo, .setCursor ⟨0, 1⟩]
    let texts := ["x\n", "", "y"]
    let s := after Session.apply s₀ cs
    let pieces := after Session.apply s (texts.map .type)
    let whole := (s.apply (.type "x\ny")).2
    s₀.Started ∧ s₀.document.WellFormed ∧ (∀ c ∈ cs, c.isHistory = false) ∧ texts ≠ [] ∧
      pieces.document.content = whole.document.content ∧ pieces.cursor = whole.cursor ∧
      (after Session.apply pieces [.undo, .undo, .undo]).cursor = (whole.apply .undo).2.cursor := by
  intro s₀ cs texts
  have hs : s₀.Started := .ofDocument _ _
  have hd : s₀.document.WellFormed := Document.wellFormed_ofString _ _
  have hcs : ∀ c ∈ cs, c.isHistory = false := by decide
  have hne : texts ≠ [] := List.cons_ne_nil _ _
  obtain ⟨-, -, hcontent, hcursor, -, -, -, -, hback⟩ := typing_after_calls hs hd cs hcs texts hne
  have hjoin : String.join texts = "x\ny" := by decide
  rw [hjoin] at hcontent hcursor hback
  exact ⟨hs, hd, hcs, hne, hcontent, hcursor, hback⟩

end Session

end TextHistory
