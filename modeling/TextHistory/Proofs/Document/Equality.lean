import TextHistory.Proofs.Document.LineIndex
import TextHistory.Proofs.GapBuffer.Equality

/-!
# Equal documents

Documents are compared by their lines alone. For documents in good shape that is as good as
comparing their texts, since the lines say what the text is and the text says what the lines are.

Two documents are `Alike` under a relation of buffers if their buffers are related. If the relation
is a congruence, documents that are alike give the same reply to every question (`Alike.ask_eq`),
and an edit leaves them alike or is refused for both (`Alike.apply`). The proofs follow the
functions step by step. Every look-up that a function makes is the same in both documents, so the
offsets are, and from there on the congruence takes over.
-/

namespace TextHistory

namespace Document

open GapBuffer (Congruence SameText)

/-- Two documents in good shape whose buffers are related. -/
structure Alike (R : GapBuffer → GapBuffer → Prop) (d d' : Document) : Prop where
  /-- The first is in good shape. -/
  left : d.WellFormed
  /-- The second is in good shape. -/
  right : d'.WellFormed
  /-- Their buffers are related. -/
  buffer : R d.buffer d'.buffer

variable {R : GapBuffer → GapBuffer → Prop} {a b d d' : Document}

/-- The index is made of the text and of nothing else. -/
theorem index_ofBuffer {b b' : GapBuffer} (h : b.toList = b'.toList) :
    (ofBuffer b).lines = (ofBuffer b').lines ∧
      (ofBuffer b).lineStarts = (ofBuffer b').lineStarts := by
  rw [ofBuffer, ofBuffer, h]
  exact ⟨rfl, rfl⟩

namespace Alike

/-! ### The same reply to every question -/

section Ask

variable (h : d.Alike SameText d')
include h

theorem toList_eq : d.buffer.toList = d'.buffer.toList := h.buffer.toList_eq

theorem content_eq : d.content = d'.content := GapBuffer.text_eq_iff.2 h.toList_eq

theorem length_eq : d.length = d'.length := h.buffer.length_eq

theorem lines_eq : d.lines = d'.lines := by
  rw [h.left.eq_ofBuffer, h.right.eq_ofBuffer]
  exact (index_ofBuffer h.toList_eq).1

theorem lineStarts_eq : d.lineStarts = d'.lineStarts := by
  rw [h.left.eq_ofBuffer, h.right.eq_ofBuffer]
  exact (index_ofBuffer h.toList_eq).2

theorem lineCount_eq : d.lineCount = d'.lineCount := congrArg Array.size h.lines_eq

theorem line_eq (i : Nat) : d.line i = d'.line i := by
  rw [line, line, lineOutOfRange, lineOutOfRange, h.lines_eq, h.lineCount_eq]

theorem lineStart_eq (i : Nat) : d.lineStart i = d'.lineStart i := by
  rw [lineStart, lineStart, h.lineStarts_eq]

theorem lineExtent_eq (i : Nat) : d.lineExtent i = d'.lineExtent i := by
  rw [lineExtent, lineExtent, h.lineStarts_eq, h.lineStart_eq, h.length_eq]

theorem lineLength_eq (i : Nat) : d.lineLength i = d'.lineLength i := by
  rw [lineLength, lineLength, lineOutOfRange, lineOutOfRange, h.lineCount_eq, h.lineExtent_eq]

theorem lineDisplayWidth_eq (i : Nat) : d.lineDisplayWidth i = d'.lineDisplayWidth i := by
  rw [lineDisplayWidth, lineDisplayWidth, h.line_eq]

theorem endPosition_eq : d.endPosition = d'.endPosition := by
  rw [endPosition, endPosition, h.lineCount_eq, h.lineExtent_eq]

theorem offsetAt_eq (p : Position) : d.offsetAt p = d'.offsetAt p := by
  rw [offsetAt, offsetAt, clampColumn, clampColumn, lineOutOfRange, lineOutOfRange, h.lineCount_eq,
    h.lineStart_eq, h.lineExtent_eq]

theorem positionAt_eq (offset : Nat) : d.positionAt offset = d'.positionAt offset := by
  simp only [positionAt, h.length_eq, h.buffer.outOfBounds_eq, h.lineStarts_eq, h.lineStart_eq]

theorem clampPosition_eq (p : Position) : d.clampPosition p = d'.clampPosition p := by
  simp only [clampPosition, h.lineCount_eq, h.offsetAt_eq, h.positionAt_eq]

theorem offsetsAt_eq (s : Span) : d.offsetsAt s = d'.offsetsAt s := by
  simp only [offsetsAt, h.offsetAt_eq]

theorem textIn_eq (s : Span) : d.textIn s = d'.textIn s := by
  simp only [textIn, h.offsetsAt_eq, h.buffer.substring_eq]

theorem stats_eq : d.stats = d'.stats := by
  rw [stats, stats, h.lineCount_eq, h.content_eq]

theorem isEmpty_eq : d.isEmpty = d'.isEmpty := congrArg (· == 0) h.length_eq

/-- **The same reply** to every question, or the same error. -/
theorem ask_eq (q : Query) : d.ask q = d'.ask q := by
  cases q with
  | content => rw [ask, ask, h.content_eq]
  | lines => rw [ask, ask, h.lines_eq]
  | line line => rw [ask, ask, h.line_eq]
  | lineLength line => rw [ask, ask, h.lineLength_eq]
  | lineDisplayWidth line => rw [ask, ask, h.lineDisplayWidth_eq]
  | displayWidths => rw [ask, ask, h.lines_eq]
  | endPosition => rw [ask, ask, h.endPosition_eq]
  | offsetAt p => rw [ask, ask, h.offsetAt_eq]
  | positionAt offset => rw [ask, ask, h.positionAt_eq]
  | textIn s => rw [ask, ask, h.textIn_eq]
  | length => rw [ask, ask, h.length_eq]
  | stats => rw [ask, ask, h.stats_eq]
  | isEmpty => rw [ask, ask, h.isEmpty_eq]

end Ask

/-! ### The same outcome of every edit -/

section Edit

variable (hR : Congruence R) (h : d.Alike R d')
include hR h

theorem sameText : d.Alike SameText d' := ⟨h.left, h.right, hR.sameText h.buffer⟩

/-- An edit of the buffers, seen on documents over what comes out. -/
theorem applyBuffer (e : GapBuffer.Edit) :
    Agree (Alike R) (do let b ← d.buffer.apply e; return ofBuffer b)
      (do let b ← d'.buffer.apply e; return ofBuffer b) :=
  (hR.apply h.buffer e).bind fun _ _ hb ↦ .ok
    ⟨wellFormed_ofBuffer (hR.sameText hb).left, wellFormed_ofBuffer (hR.sameText hb).right, hb⟩

theorem insert (p : Position) (text : String) :
    Agree (Alike R) (d.insert p text) (d'.insert p text) :=
  .bind_of_eq ((h.sameText hR).offsetAt_eq p) fun offset ↦ h.applyBuffer hR (.insert offset text)

theorem delete (s : Span) : Agree (Alike R) (d.delete s) (d'.delete s) :=
  .bind_of_eq ((h.sameText hR).offsetsAt_eq s) fun (start, stop) ↦
    h.applyBuffer hR (.delete start (stop - start))

theorem replace (s : Span) (text : String) :
    Agree (Alike R) (d.replace s text) (d'.replace s text) :=
  (h.delete hR s).bind fun _ _ hrest ↦ hrest.insert hR s.start text

/-- **An edit** goes through on both and leaves them alike, or is refused for both. -/
theorem apply (e : Edit) : Agree (Alike R) (d.apply e) (d'.apply e) := by
  cases e with
  | insert p text => exact h.insert hR p text
  | delete s => exact h.delete hR s
  | replace s text => exact h.replace hR s text

end Edit

end Alike

/-! ### Equality -/

/-- **Documents are equal** if they hold the same text. -/
theorem beq_iff_alike (ha : a.WellFormed) (hb : b.WellFormed) :
    (a == b) = true ↔ a.Alike SameText b := by
  show (a.lines == b.lines) = true ↔ a.Alike SameText b
  rw [beq_iff_eq]
  refine ⟨fun hlines ↦ ⟨ha, hb, ha.buffer, hb.buffer, splitLines_inj.1 ?_⟩, Alike.lines_eq⟩
  rw [← ha.map_toList_lines, ← hb.map_toList_lines, hlines]

theorem alike_sameText_iff (ha : a.WellFormed) (hb : b.WellFormed) :
    a.Alike SameText b ↔ a.buffer.toList = b.buffer.toList :=
  ⟨Alike.toList_eq, fun h ↦ ⟨ha, hb, ha.buffer, hb.buffer, h⟩⟩

/-- The buffer of a document that can be made can be made. -/
theorem Reachable.buffer (h : d.Reachable) : d.buffer.Reachable := by
  have hinsert : ∀ {d d' : Document} {p : Position} {text : String}, d.buffer.Reachable →
      d.insert p text = .ok d' → d'.buffer.Reachable := fun h hd ↦ by
    obtain ⟨offset, -, hd⟩ := bind_eq_ok_iff.1 hd
    obtain ⟨b, hb, hd⟩ := bind_eq_ok_iff.1 hd
    obtain rfl := Except.ok.inj hd
    exact h.edit (e := .insert offset _) hb
  have hdelete : ∀ {d d' : Document} {s : Span}, d.buffer.Reachable →
      d.delete s = .ok d' → d'.buffer.Reachable := fun h hd ↦ by
    obtain ⟨⟨start, stop⟩, -, hd⟩ := bind_eq_ok_iff.1 hd
    obtain ⟨b, hb, hd⟩ := bind_eq_ok_iff.1 hd
    obtain rfl := Except.ok.inj hd
    exact h.edit (e := .delete start (stop - start)) hb
  induction h with
  | empty => exact .empty _
  | ofString text capacity => exact .ofString _ _
  | ofFileContent content => exact .ofString _ _
  | @edit d d' e _ hd ih =>
    cases e with
    | insert p text => exact hinsert ih hd
    | delete s => exact hdelete ih hd
    | replace s text =>
      obtain ⟨rest, hrest, hd⟩ := bind_eq_ok_iff.1 hd
      exact hinsert (hdelete ih hrest) hd

/-- **Equality is a congruence that ignores the representation.** Buffers are equal if their texts
are, and so are documents, although only their lines are compared; the buffers of equal documents
are equal. Equal documents cannot be told apart: every question has the same reply or the same
error, and every edit gives equal documents or is refused by both for the same reason. Nor can equal
buffers. -/
theorem beq_congruence :
    (∀ a b : GapBuffer, a.Reachable → b.Reachable →
      ((a == b) = true ↔ a.text = b.text) ∧
        ((a == b) = true → (∀ offset, a.charAt offset = b.charAt offset) ∧
          (∀ start stop, a.substring start stop = b.substring start stop) ∧
          ∀ e, Agree (fun a' b' ↦ (a' == b') = true) (a.apply e) (b.apply e))) ∧
      ∀ a b : Document, a.Reachable → b.Reachable →
        ((a == b) = true ↔ a.content = b.content) ∧
          ((a == b) = true ↔ (a.buffer == b.buffer) = true) ∧
          ((a == b) = true → (∀ q, a.ask q = b.ask q) ∧
            ∀ e, Agree (fun a' b' ↦ (a' == b') = true) (a.apply e) (b.apply e)) := by
  have hcongr := GapBuffer.congruence_sameText
  refine ⟨fun a b ha hb ↦ ?_, fun a b ha hb ↦ ?_⟩
  · have hsame := GapBuffer.beq_iff_sameText ha.wellFormed hb.wellFormed
    refine ⟨?_, fun hbeq ↦ ⟨(hsame.1 hbeq).charAt_eq, (hsame.1 hbeq).substring_eq, fun e ↦ ?_⟩⟩
    · rw [ha.wellFormed.beq_iff hb.wellFormed, GapBuffer.text_eq_iff]
    · exact (hcongr.apply (hsame.1 hbeq) e).imp fun _ _ _ _ htext ↦
        (GapBuffer.beq_iff_sameText htext.left htext.right).2 htext
  · have hdoc := beq_iff_alike ha.wellFormed hb.wellFormed
    have htext := alike_sameText_iff ha.wellFormed hb.wellFormed
    refine ⟨?_, ?_, fun hbeq ↦ ⟨(hdoc.1 hbeq).ask_eq, fun e ↦ ?_⟩⟩
    · rw [hdoc, htext, ← GapBuffer.text_eq_iff]
      rfl
    · rw [hdoc, htext, ha.buffer.wellFormed.beq_iff hb.buffer.wellFormed]
    · exact ((hdoc.1 hbeq).apply hcongr e).imp fun _ _ _ _ halike ↦
        (beq_iff_alike halike.left halike.right).2 halike

/-- A full buffer with its gap at the end and a wide one with its gap at the front hold the same
text. They are equal, and stay so when a text is inserted for which one of them has to grow. -/
theorem beq_congruence_grown :
    let a : Document := .ofString "ab\nc" 0
    let b : Document := run (.ofString "ab\nc" 64) [.insert ⟨0, 0⟩ "z", .delete ⟨⟨0, 0⟩, ⟨0, 1⟩⟩]
    a.Reachable ∧ b.Reachable ∧ a.buffer ≠ b.buffer ∧ (a == b) = true ∧
      a.buffer.text = b.buffer.text ∧
      a.ask (.textIn ⟨⟨0, 1⟩, ⟨1, 1⟩⟩) = b.ask (.textIn ⟨⟨0, 1⟩, ⟨1, 1⟩⟩) ∧
      Agree (fun a' b' ↦ (a' == b') = true) (a.insert ⟨1, 0⟩ "xyz") (b.insert ⟨1, 0⟩ "xyz") := by
  intro a b
  have ha : a.Reachable := .ofString _ _
  have hb : b.Reachable := (Reachable.ofString _ _).run _
  have hbeq : (a == b) = true := by decide
  obtain ⟨hbuffer, hdocument⟩ := beq_congruence
  obtain ⟨-, hiff, hcongr⟩ := hdocument a b ha hb
  have htext := (hbuffer _ _ ha.buffer hb.buffer).1.1 (hiff.1 hbeq)
  obtain ⟨hask, hedit⟩ := hcongr hbeq
  exact ⟨ha, hb, by decide, hbeq, htext, hask _, hedit (.insert ⟨1, 0⟩ "xyz")⟩

end Document

end TextHistory
