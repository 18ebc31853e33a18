import Mathlib.Data.List.Forall2
import TextHistory.Proofs.Document.Equality
import TextHistory.Proofs.Session.Cursor
import TextHistory.Proofs.UndoTree.Documents

/-!
# The capacity of a buffer does not show

Two sessions that start with the same content take the same course, with whatever capacity their
buffers are made. The buffers grow at different times, and every document of either history keeps
the capacity that it was recorded with; but neither an answer nor a later call depends on it.

To say that two sessions are the same except for this, every document is taken with its gap closed
(`closeGap`): the slots of the gap are left out, and the text, the lines and the place where the gap
was are all that remains (`closeGap_eq_iff`). Sessions that are the same with all gaps closed stay
so, and give the same answers with all gaps closed (`SameButGaps.run`). The calls need not be the
same either. A document that a call hands to the history may come from the session itself, and then
it has the capacity that it has there.

Two facts meet in the proof. Edits keep the text and the place of the gap together, since that is a
congruence; and the history neither looks into its documents nor cares whether their gaps are closed
(`UndoTree.apply_mapDocuments`).
-/

namespace TextHistory

open GapBuffer (Congruence SameGap congruence_sameGap)

/-- The buffer with its gap closed. The text and the place of the gap are left. -/
def GapBuffer.closeGap (b : GapBuffer) : GapBuffer := ⟨b.toList.toArray, b.gapStart, b.gapStart⟩

namespace Document

/-- The document with the gap of its buffer closed. -/
def closeGap (d : Document) : Document := { d with buffer := d.buffer.closeGap }

variable {d d' : Document}

/-- With their gaps closed, documents are the same if the lines, the offsets, the texts and the
places of the gaps are. The capacities and the widths of the gaps do not count. -/
theorem closeGap_eq_iff :
    d.closeGap = d'.closeGap ↔
      d.lines = d'.lines ∧ d.lineStarts = d'.lineStarts ∧
        d.buffer.toList = d'.buffer.toList ∧ d.buffer.gapStart = d'.buffer.gapStart := by
  simp only [closeGap, GapBuffer.closeGap, Document.mk.injEq, GapBuffer.mk.injEq]
  constructor
  · rintro ⟨⟨hslots, hgap, -⟩, hlines, hstarts⟩
    exact ⟨hlines, hstarts, congrArg Array.toList hslots, hgap⟩
  · rintro ⟨hlines, hstarts, htext, hgap⟩
    exact ⟨⟨congrArg List.toArray htext, hgap, hgap⟩, hlines, hstarts⟩

/-- For documents in good shape this is to have the same text and the gap at the same place. -/
theorem closeGap_eq_iff_alike (h : d.WellFormed) (h' : d'.WellFormed) :
    d.closeGap = d'.closeGap ↔ d.Alike SameGap d' := by
  rw [closeGap_eq_iff]
  constructor
  · rintro ⟨-, -, htext, hgap⟩
    exact ⟨h, h', ⟨h.buffer, h'.buffer, htext⟩, hgap⟩
  · intro halike
    have hsame := halike.sameText congruence_sameGap
    exact ⟨hsame.lines_eq, hsame.lineStarts_eq, hsame.toList_eq, halike.buffer.gapStart_eq⟩

theorem Alike.closeGap_eq (h : d.Alike SameGap d') : d.closeGap = d'.closeGap :=
  (closeGap_eq_iff_alike h.left h.right).2 h

/-! ### Outcomes -/

/-- Two outcomes that differ at most in their documents, and these are alike. -/
structure AlikeOutcome (R : GapBuffer → GapBuffer → Prop) (o o' : Outcome) : Prop where
  /-- The same was done. -/
  description_eq : o.description = o'.description
  /-- The documents are alike. -/
  document : o.document.Alike R o'.document
  /-- The cursors are the same. -/
  cursor_eq : o.cursor = o'.cursor

section

variable {R : GapBuffer → GapBuffer → Prop} (hR : Congruence R) (h : d.Alike R d')
include hR h

/-- Placing the cursor by an offset comes to the same in documents that are alike. -/
theorem Alike.place (description : String) (offset : Nat) :
    Agree (AlikeOutcome R)
      (do let cursor ← d.positionAt offset; return ⟨description, d, cursor⟩)
      (do let cursor ← d'.positionAt offset; return ⟨description, d', cursor⟩) :=
  .bind_of_eq ((h.sameText hR).positionAt_eq offset) fun _ ↦ .ok ⟨rfl, h, rfl⟩

/-- **An edit** comes to the same in documents that are alike, or is refused for both. -/
theorem Alike.outcome (e : Edit) : Agree (AlikeOutcome R) (d.outcome e) (d'.outcome e) := by
  have hsame := h.sameText hR
  cases e with
  | insert p text =>
    exact (h.insert hR p text).bind fun _ _ hnext ↦
      .bind_of_eq (hsame.offsetAt_eq p) fun offset ↦ hnext.place hR _ _
  | delete s =>
    exact .bind_of_eq (hsame.textIn_eq s) fun removed ↦
      .bind_of_eq (hsame.offsetAt_eq s.start) fun start ↦
        (h.delete hR s).bind fun _ _ hnext ↦ hnext.place hR _ _
  | replace s text =>
    exact (h.delete hR s).bind fun _ _ hrest ↦
      .bind_of_eq ((hrest.sameText hR).offsetAt_eq s.start) fun offset ↦
        (hrest.insert hR s.start text).bind fun _ _ hnext ↦ hnext.place hR _ _

end

end Document

namespace Session

/-- The session with every document changed. -/
def mapDocuments (f : Document → Document) (s : Session) : Session :=
  ⟨f s.document, s.history.mapDocuments f, s.cursor⟩

/-- The answer with every document changed. -/
def Answer.mapDocuments (f : Document → Document) : Answer → Answer
  | .moved m => .moved (m.mapDocuments f)
  | .history a => .history (a.mapDocuments f)
  | a => a

/-- The session with all gaps closed. -/
def closeGaps (s : Session) : Session := s.mapDocuments .closeGap

/-- The answer with all gaps closed. -/
def Answer.closeGaps (a : Answer) : Answer := a.mapDocuments .closeGap

/-- Two calls with documents in good shape that are the same with all gaps closed. -/
inductive Call.SameButGaps : Call → Call → Prop
  /-- They are the same. -/
  | same {c : Call} (hc : ∀ d ∈ c.documents, d.WellFormed) : SameButGaps c c
  /-- They hand documents to the history, and these are the same with their gaps closed. -/
  | history {u u' : UndoTree.Call} (hu : ∀ d ∈ u.documents, d.WellFormed)
      (hu' : ∀ d ∈ u'.documents, d.WellFormed)
      (heq : u.mapDocuments .closeGap = u'.mapDocuments .closeGap) :
      SameButGaps (.history u) (.history u')

/-- Two sessions in good shape that are the same with all gaps closed. -/
structure SameButGaps (s s' : Session) : Prop where
  /-- The first is in good shape. -/
  left : s.WellFormed
  /-- The second is in good shape. -/
  right : s'.WellFormed
  /-- They are the same with all gaps closed. -/
  closeGaps_eq : s.closeGaps = s'.closeGaps

variable {s s' : Session} {c c' : Call}

theorem Call.SameButGaps.wellFormed (h : c.SameButGaps c') :
    (∀ d ∈ c.documents, d.WellFormed) ∧ ∀ d ∈ c'.documents, d.WellFormed := by
  rcases h with hc | ⟨hu, hu'⟩
  · exact ⟨hc, hc⟩
  · exact ⟨hu, hu'⟩

/-- Closing all gaps is a matter of the parts of a session. -/
theorem closeGaps_congr (hdocument : s.document.closeGap = s'.document.closeGap)
    (hhistory : s.history.mapDocuments .closeGap = s'.history.mapDocuments .closeGap)
    (hcursor : s.cursor = s'.cursor) : s.closeGaps = s'.closeGaps := by
  rw [closeGaps, closeGaps, mapDocuments, mapDocuments, hdocument, hhistory, hcursor]

namespace SameButGaps

theorem closeGap_document (h : s.SameButGaps s') :
    s.document.closeGap = s'.document.closeGap :=
  congrArg Session.document h.closeGaps_eq

theorem document (h : s.SameButGaps s') : s.document.Alike SameGap s'.document :=
  (Document.closeGap_eq_iff_alike h.left.document h.right.document).1 h.closeGap_document

theorem sameText (h : s.SameButGaps s') : s.document.Alike GapBuffer.SameText s'.document :=
  h.document.sameText congruence_sameGap

theorem history (h : s.SameButGaps s') :
    s.history.mapDocuments .closeGap = s'.history.mapDocuments .closeGap :=
  congrArg Session.history h.closeGaps_eq

theorem cursor (h : s.SameButGaps s') : s.cursor = s'.cursor := by
  show s.closeGaps.cursor = s'.closeGaps.cursor
  rw [h.closeGaps_eq]

/-! ### The step -/

/-- Two answers with the sessions after them, the same with all gaps closed. -/
def SameAfter (r r' : Answer × Session) : Prop :=
  r.1.closeGaps = r'.1.closeGaps ∧ r.2.closeGaps = r'.2.closeGaps

/-- Computations that agree are settled alike. -/
theorem settle {α : Type} {R : α → α → Prop} {x y : Except EditError α}
    {f g : α → Answer × Session} (h : s.SameButGaps s') (hxy : Agree R x y)
    (hfg : ∀ a b, x = .ok a → y = .ok b → R a b → SameAfter (f a) (g b)) :
    SameAfter (s.settle f x) (s'.settle g y) := by
  rcases hxy.cases with ⟨a, b, rfl, rfl, hab⟩ | ⟨e, rfl, rfl⟩
  · exact hfg a b rfl rfl hab
  · exact ⟨rfl, h.closeGaps_eq⟩

/-- What is recorded of outcomes that are alike is the same with the gaps closed. -/
theorem revision_eq {o o' : Outcome} (ho : Document.AlikeOutcome SameGap o o') :
    o.revision.mapDocuments .closeGap = o'.revision.mapDocuments .closeGap := by
  simp only [Outcome.revision, Revision.mapDocuments, ho.description_eq, ho.cursor_eq,
    ho.document.closeGap_eq]

theorem commit (h : s.SameButGaps s') {o o' : Outcome} (ho : Document.AlikeOutcome SameGap o o') :
    (s.commit o).1 = (s'.commit o').1 ∧ (s.commit o).2.closeGaps = (s'.commit o').2.closeGaps := by
  have hid : (s.history.mapDocuments .closeGap).nextId =
      (s'.history.mapDocuments .closeGap).nextId := congrArg UndoTree.nextId h.history
  have hpush := UndoTree.push_mapDocuments Document.closeGap s.history o.revision
  rw [h.history, revision_eq ho, UndoTree.push_mapDocuments] at hpush
  exact ⟨hid, closeGaps_congr ho.document.closeGap_eq (congrArg Prod.snd hpush.symm) ho.cursor_eq⟩

/-- **An edit** is recorded under the same id, or refused for both. -/
theorem edit (h : s.SameButGaps s') (e : Document.Edit) :
    Agree (fun r r' ↦ r.1 = r'.1 ∧ r.2.closeGaps = r'.2.closeGaps) (s.edit e) (s'.edit e) := by
  rw [Session.edit, Session.edit]
  have houtcome := h.document.outcome congruence_sameGap e
  rcases houtcome.cases with ⟨o, o', ho, ho', hoo⟩ | ⟨cause, ho, ho'⟩
  · rw [ho, ho']
    exact .ok (h.commit hoo)
  · rw [ho, ho']
    exact .error _

theorem edited (h : s.SameButGaps s') (e : Document.Edit) :
    SameAfter (s.settle (fun r ↦ (Answer.edited r.1, r.2)) (s.edit e))
      (s'.settle (fun r ↦ (Answer.edited r.1, r.2)) (s'.edit e)) :=
  h.settle (h.edit e) fun _ _ _ _ hr ↦ ⟨congrArg (fun id ↦ (Answer.edited id).closeGaps) hr.1, hr.2⟩

/-- A state is restored alike if the two documents that were recorded are in good shape. -/
theorem restore (h : s.SameButGaps s') {c c' : Checkpoint} (hc : c.snapshot.WellFormed)
    (hc' : c'.snapshot.WellFormed) (heq : c.mapDocuments .closeGap = c'.mapDocuments .closeGap)
    {t t' : UndoTree} (ht : t.mapDocuments .closeGap = t'.mapDocuments .closeGap) :
    ({ s.restore c with history := t } : Session).closeGaps =
      ({ s'.restore c' with history := t' } : Session).closeGaps := by
  have hsnapshot : c.snapshot.closeGap = c'.snapshot.closeGap := congrArg Checkpoint.snapshot heq
  have halike := (Document.closeGap_eq_iff_alike hc hc').1 hsnapshot
  have hplace : s.cursorFor c = s'.cursorFor c' := by
    have hfor : s.cursorFor (c.mapDocuments .closeGap) = s.cursorFor (c'.mapDocuments .closeGap) :=
      congrArg s.cursorFor heq
    refine hfor.trans ?_
    rw [cursorFor, cursorFor, h.cursor]
    rfl
  refine closeGaps_congr hsnapshot ht ?_
  show (c.snapshot.clampPosition (s.cursorFor c)).toOption.getD _ =
    (c'.snapshot.clampPosition (s'.cursorFor c')).toOption.getD _
  rw [(halike.sameText congruence_sameGap).clampPosition_eq, hplace]

/-- A move that both histories make is followed alike. -/
theorem follow (h : s.SameButGaps s') {x y : Except HistoryError (Move × UndoTree)}
    (hxy : x.map (fun r ↦ (r.1.mapDocuments Document.closeGap, r.2.mapDocuments .closeGap)) =
      y.map fun r ↦ (r.1.mapDocuments Document.closeGap, r.2.mapDocuments .closeGap))
    (hx : ∀ r, x = .ok r → (s.follow r).2.document.WellFormed)
    (hy : ∀ r, y = .ok r → (s'.follow r).2.document.WellFormed) :
    SameAfter
      (s.settle (fun r ↦ (Answer.moved r.1, r.2))
        (match x with | .ok r => .ok (s.follow r) | .error cause => .error (.history cause)))
      (s'.settle (fun r ↦ (Answer.moved r.1, r.2))
        (match y with | .ok r => .ok (s'.follow r) | .error cause => .error (.history cause))) := by
  rcases (Agree.of_map_eq hxy).cases with ⟨⟨m, t⟩, ⟨m', t'⟩, rfl, rfl, hr⟩ | ⟨cause, rfl, rfl⟩
  · obtain ⟨hm, ht⟩ := Prod.mk.inj hr
    have hstay : (⟨s.document, t, s.cursor⟩ : Session).closeGaps =
        (⟨s'.document, t', s'.cursor⟩ : Session).closeGaps :=
      closeGaps_congr h.closeGap_document ht h.cursor
    match m, m', hm, hx _ rfl, hy _ rfl with
    | .moved c, .moved c', hm, hc, hc' =>
      have hmoved : Answer.closeGaps (.moved (.moved c)) = Answer.closeGaps (.moved (.moved c')) :=
        congrArg Answer.moved hm
      exact ⟨hmoved, h.restore hc hc' (Move.moved.inj hm) ht⟩
    | .atOldest, .atOldest, _, _, _ => exact ⟨rfl, hstay⟩
    | .atNewest, .atNewest, _, _, _ => exact ⟨rfl, hstay⟩
  · exact ⟨rfl, h.closeGaps_eq⟩

/-- Calls of the history that are the same but for the gaps come to the same but for the gaps. -/
theorem historyCall (h : s.SameButGaps s') {u u' : UndoTree.Call}
    (hu : u.mapDocuments .closeGap = u'.mapDocuments .closeGap) :
    (s.history.apply u).1.mapDocuments .closeGap = (s'.history.apply u').1.mapDocuments .closeGap ∧
      (s.history.apply u).2.mapDocuments .closeGap =
        (s'.history.apply u').2.mapDocuments .closeGap := by
  have happly := UndoTree.apply_mapDocuments Document.closeGap s.history u
  rw [h.history, hu, UndoTree.apply_mapDocuments] at happly
  exact Prod.mk.inj happly.symm

theorem historyCalls (h : s.SameButGaps s') {u u' : UndoTree.Call}
    (hu : u.mapDocuments .closeGap = u'.mapDocuments .closeGap) :
    SameAfter (s.apply (.history u)) (s'.apply (.history u')) := by
  obtain ⟨hanswer, htree⟩ := h.historyCall hu
  exact ⟨congrArg Answer.history hanswer, closeGaps_congr h.closeGap_document htree h.cursor⟩

/-- **The step.** Calls that are the same but for the gaps give the same answer and the same session
after it, but for the gaps. -/
theorem sameAfter_apply (h : s.SameButGaps s') (hc : c.SameButGaps c') :
    SameAfter (s.apply c) (s'.apply c') := by
  have hleft := (h.left.apply hc.wellFormed.1).document
  have hright := (h.right.apply hc.wellFormed.2).document
  rcases hc with hc | ⟨hu, hu', heq⟩
  case history => exact h.historyCalls heq
  cases c with
  | edit e => exact h.edited e
  | type text =>
    rw [Session.apply, Session.apply, type, type, h.cursor]
    exact h.edited _
  | setCursor p =>
    rw [Session.apply, Session.apply, setCursor, setCursor, h.sameText.clampPosition_eq]
    rcases s'.document.clampPosition p with cause | cursor
    · exact ⟨rfl, h.closeGaps_eq⟩
    · exact ⟨rfl, closeGaps_congr h.closeGap_document h.history rfl⟩
  | undo =>
    rw [Session.apply, undo] at hleft hright
    refine h.follow ?_ (fun r hr ↦ ?_) fun r hr ↦ ?_
    · rw [← UndoTree.undo_mapDocuments, ← UndoTree.undo_mapDocuments, h.history]
    · rw [hr] at hleft
      exact hleft
    · rw [hr] at hright
      exact hright
  | redo =>
    rw [Session.apply, redo] at hleft hright
    refine h.follow ?_ (fun r hr ↦ ?_) fun r hr ↦ ?_
    · rw [← UndoTree.redo_mapDocuments, ← UndoTree.redo_mapDocuments, h.history]
    · rw [hr] at hleft
      exact hleft
    · rw [hr] at hright
      exact hright
  | goto id =>
    have hgoto := UndoTree.goto_mapDocuments Document.closeGap s.history id
    rw [h.history, UndoTree.goto_mapDocuments] at hgoto
    rw [Session.apply, goto] at hleft hright ⊢
    rw [Session.apply, goto]
    have hagree := Agree.of_map_eq hgoto.symm
    rcases hagree.cases with ⟨⟨d, t⟩, ⟨d', t'⟩, ht, ht', hr⟩ | ⟨cause, ht, ht'⟩
    · rw [ht] at hleft ⊢
      rw [ht'] at hright ⊢
      obtain ⟨hd, htree⟩ := Prod.mk.inj hr
      exact ⟨rfl, h.restore hleft hright hd htree⟩
    · rw [ht, ht']
      exact ⟨rfl, h.closeGaps_eq⟩
  | reload content =>
    have hclear := (h.historyCall (u := .clear (.ofFileContent content)) rfl).2
    exact ⟨rfl, closeGaps_congr rfl hclear rfl⟩
  | ask q =>
    rw [Session.apply, Session.apply, h.sameText.ask_eq]
    exact ⟨rfl, h.closeGaps_eq⟩
  | history u => exact h.historyCalls rfl

/-! ### The run -/

/-- The document that each session has come to may be handed to its history. -/
theorem push_document (h : s.SameButGaps s') (description : String) (line column : Option Nat) :
    Call.SameButGaps (.history (.push ⟨description, s.document, line, column⟩))
      (.history (.push ⟨description, s'.document, line, column⟩)) := by
  refine .history ?_ ?_ ?_
  · simpa [UndoTree.Call.documents] using h.left.document
  · simpa [UndoTree.Call.documents] using h.right.document
  · simp only [UndoTree.Call.mapDocuments, Revision.mapDocuments, h.closeGap_document]

/-- **The run.** Sessions that are the same but for the gaps give the same answers, call by call,
and are so afterwards. -/
theorem run (h : s.SameButGaps s') {cs cs' : List Call}
    (hcs : List.Forall₂ Call.SameButGaps cs cs') :
    (answers Session.apply s cs).map Answer.closeGaps =
        (answers Session.apply s' cs').map Answer.closeGaps ∧
      (after Session.apply s cs).SameButGaps (after Session.apply s' cs') := by
  induction hcs generalizing s s' with
  | nil => exact ⟨rfl, h⟩
  | cons hc _ ih =>
    obtain ⟨hanswer, hsession⟩ := h.sameAfter_apply hc
    obtain ⟨hleft, hright⟩ := hc.wellFormed
    obtain ⟨hanswers, hafter⟩ := ih ⟨h.left.apply hleft, h.right.apply hright, hsession⟩
    refine ⟨?_, hafter⟩
    rw [answers_cons, answers_cons, List.map_cons, List.map_cons, hanswer, hanswers]

end SameButGaps

theorem wellFormed_ofContent (content : String) (settings : Settings) :
    (ofContent content settings).WellFormed :=
  (Started.ofContent content settings).wellFormed
    (Document.wellFormed_ofString (Document.ofFileContent content).content settings.gapCapacity)

/-- Documents of the same text are the same but for the gaps. -/
theorem closeGap_ofString (text : String) (capacity capacity' : Nat) :
    (Document.ofString text capacity).closeGap = (Document.ofString text capacity').closeGap := by
  have hwf := Document.wellFormed_ofString text
  have hgap : (GapBuffer.ofString text capacity).SameGap (.ofString text capacity') :=
    ⟨⟨(hwf capacity).buffer, (hwf capacity').buffer, by simp⟩,
      (GapBuffer.shows_ofString text capacity).gapStart_eq.trans
        (GapBuffer.shows_ofString text capacity').gapStart_eq.symm⟩
  exact Document.Alike.closeGap_eq ⟨hwf capacity, hwf capacity', hgap⟩

/-- Sessions that start with the same content and mode are the same but for the gaps. -/
theorem sameButGaps_ofContent (content : String) (settings : Settings) (capacity : Nat) :
    (ofContent content settings).SameButGaps
      (ofContent content { settings with gapCapacity := capacity }) := by
  have hdocument := closeGap_ofString (Document.ofFileContent content).content
    settings.gapCapacity capacity
  have hhistory := congrArg (UndoTree.ofDocument · settings.historyMode) hdocument
  have hcursor : ∀ settings, (ofContent content settings).cursor = .origin := fun _ ↦ rfl
  exact ⟨wellFormed_ofContent _ _, wellFormed_ofContent _ _,
    closeGaps_congr hdocument hhistory ((hcursor _).trans (hcursor _).symm)⟩

/-- **The capacity that is set never shows.** Two sessions that start with the same content and with
settings that differ in the capacity alone go through any run of calls with the same answers, errors
and ids included, and end with the same text, lines, cursor and history and with every gap at the
same place. Only the capacities, and with them the widths of the gaps, can be different. This may be
so already in the documents that the calls hand to the two histories. -/
theorem closeGaps_after_calls (content : String) (settings : Settings) (capacity : Nat)
    (cs cs' : List Call) (hcs : List.Forall₂ Call.SameButGaps cs cs') :
    let s := ofContent content settings
    let s' := ofContent content { settings with gapCapacity := capacity }
    (answers Session.apply s cs).map Answer.closeGaps =
        (answers Session.apply s' cs').map Answer.closeGaps ∧
      (after Session.apply s cs).closeGaps = (after Session.apply s' cs').closeGaps := by
  obtain ⟨hanswers, hafter⟩ := (sameButGaps_ofContent content settings capacity).run hcs
  exact ⟨hanswers, hafter.closeGaps_eq⟩

/-- A full buffer has to grow where a wide one has room, and the two documents that come of it are
handed to the histories. -/
theorem closeGaps_after_calls_grown :
    let start (capacity : Nat) : Session :=
      ofContent "ab\r\ncd" { Settings.default with gapCapacity := capacity }
    let grow : Call := .edit (.insert ⟨1, 0⟩ "xyz")
    let own (capacity : Nat) : Document := (after Session.apply (start capacity) [grow]).document
    let calls (capacity : Nat) : List Call :=
      [grow, .history (.push ⟨"again", own capacity, some 7, none⟩), .undo, .goto 1,
        .edit (.delete ⟨⟨1, 0⟩, ⟨0, 0⟩⟩)]
    let left (capacity : Nat) : Session := after Session.apply (start capacity) (calls capacity)
    List.Forall₂ Call.SameButGaps (calls 64) (calls 0) ∧
      (left 64).document.buffer.capacity = 64 ∧ (left 0).document.buffer.capacity = 10 ∧
      (left 64).closeGaps = (left 0).closeGaps := by
  intro start grow own calls left
  have hgrow : grow.SameButGaps grow := .same (by simp [grow, Call.documents])
  have hstart : (start 64).SameButGaps (start 0) := sameButGaps_ofContent _ (.default) 0
  obtain ⟨-, hown⟩ := hstart.run (.cons hgrow .nil)
  have hcalls : List.Forall₂ Call.SameButGaps (calls 64) (calls 0) := by
    refine .cons hgrow (.cons (hown.push_document _ _ _) (.cons ?_ (.cons ?_ (.cons ?_ .nil))))
    all_goals exact .same (by simp [Call.documents])
  obtain ⟨-, hleft⟩ := closeGaps_after_calls "ab\r\ncd" .default 0 (calls 64) (calls 0) hcalls
  exact ⟨hcalls, by decide +kernel, by decide +kernel, hleft⟩

end Session

end TextHistory
