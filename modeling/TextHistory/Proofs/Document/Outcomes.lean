import TextHistory.Proofs.Document.Addresses
import TextHistory.Session

/-!
# What an edit comes to

An edit looks up addresses several times: in the document, in what is left of it after a deletion,
and in the new document to place the cursor. Only the first look-up can fail
(`WellFormed.outcome_cases`): with its offsets in hand all that follows goes through. The store
takes every offset that a look-up gives; a deletion leaves the lines before it alone, so the start
of a replaced span is still there; and where an edit ends lies in the new document.

So what an edit comes to is decided by one look-up, and its failure is named by `refusal`. If it
goes through, the new document is in good shape, and the cursor is a position of it. The document is
that of the edit itself, which does the same without a cursor (`WellFormed.map_document_outcome`).
-/

namespace TextHistory

/-- The document is in good shape, and the cursor is a position of it. -/
structure Outcome.WellFormed (o : Outcome) : Prop where
  /-- The document is in good shape. -/
  document : o.document.WellFormed
  /-- The cursor is a position of the document. -/
  cursor : o.document.HasPosition o.cursor

namespace Document

/-- The error that an edit is refused with, if it is refused. An insertion needs its line; a
replacement needs what the deletion of its span needs. -/
def refusal (d : Document) : Edit → Option AddressError
  | .insert p _ => if p.line < d.lineCount then none else some (.lineOutOfRange p.line d.lineCount)
  | .delete s | .replace s _ =>
    match d.delete s with
    | .ok _ => none
    | .error cause => some cause

variable {d d' : Document} {p : Position} {s : Span} {o start stop : Nat} {cause : AddressError}

/-! ### The look-up -/

/-- The offsets of a span are in order. -/
theorem offsetsAt_eq_ok (hs : d.offsetsAt s = .ok (start, stop)) :
    d.offsetAt s.start = .ok start ∧ d.offsetAt s.stop = .ok stop ∧ start ≤ stop := by
  rw [offsetsAt] at hs
  obtain ⟨a, ha, hs⟩ := bind_eq_ok_iff.1 hs
  obtain ⟨b, hb, hs⟩ := bind_eq_ok_iff.1 hs
  split at hs
  · exact absurd hs (by simp)
  · next hle =>
    obtain ⟨rfl, rfl⟩ := Prod.mk.inj (Except.ok.inj hs)
    exact ⟨ha, hb, Nat.le_of_not_lt hle⟩

theorem line_lt_of_offsetAt (hp : d.offsetAt p = .ok o) : p.line < d.lineCount := by
  rw [offsetAt_eq] at hp
  split at hp
  · next hline => exact hline
  · exact absurd hp (by simp)

/-- An offset that was looked up is that of the position with its column clamped. -/
theorem eq_offset_of_offsetAt (hp : d.offsetAt p = .ok o) :
    o = d.offset ⟨p.line, d.clampColumn p⟩ := by
  rw [offsetAt_eq, if_pos (line_lt_of_offsetAt hp)] at hp
  exact (Except.ok.inj hp).symm

theorem WellFormed.le_length_of_offsetAt (h : d.WellFormed) (hp : d.offsetAt p = .ok o) :
    o ≤ d.length := by
  rw [eq_offset_of_offsetAt hp]
  exact h.offset_le_length (hasPosition_clampColumn (line_lt_of_offsetAt hp))

/-- As many characters stand before an offset as the offset tells. -/
theorem WellFormed.length_take_of_offsetAt (h : d.WellFormed) (hp : d.offsetAt p = .ok o) :
    (d.buffer.toList.take o).length = o :=
  List.length_take_of_le (h.length_toList ▸ h.le_length_of_offsetAt hp)

/-- A look-up fails for a missing line only, -/
theorem eq_of_offsetAt_eq_error (hp : d.offsetAt p = .error cause) :
    d.lineCount ≤ p.line ∧ cause = .lineOutOfRange p.line d.lineCount := by
  rw [offsetAt_eq] at hp
  split at hp
  · exact absurd hp (by simp)
  · next hline => exact ⟨Nat.le_of_not_lt hline, (Except.error.inj hp).symm⟩

/-- and that of a span for a missing line, or if the offsets are in the wrong order. -/
theorem eq_of_offsetsAt_eq_error (hs : d.offsetsAt s = .error cause) :
    (∃ line, d.lineCount ≤ line ∧ cause = .lineOutOfRange line d.lineCount) ∨
      ∃ start stop, stop < start ∧ cause = .invertedRange start stop := by
  rw [offsetsAt] at hs
  cases hstart : d.offsetAt s.start with
  | error c =>
    rw [hstart] at hs
    obtain rfl : c = cause := Except.error.inj hs
    exact Or.inl ⟨_, eq_of_offsetAt_eq_error hstart⟩
  | ok start =>
    rw [hstart] at hs
    cases hstop : d.offsetAt s.stop with
    | error c =>
      rw [hstop] at hs
      obtain rfl : c = cause := Except.error.inj hs
      exact Or.inl ⟨_, eq_of_offsetAt_eq_error hstop⟩
    | ok stop =>
      rw [hstop] at hs
      replace hs : (if stop < start then Except.error (.invertedRange start stop)
        else Except.ok (start, stop)) = Except.error cause := hs
      split at hs
      · next hlt => exact Or.inr ⟨_, _, hlt, (Except.error.inj hs).symm⟩
      · exact absurd hs (by simp)

/-! ### What follows the look-up -/

namespace WellFormed

/-- **An insertion** goes through once its offset is found, and there is a position behind the new
characters. -/
theorem exists_insert (h : d.WellFormed) (hp : d.offsetAt p = .ok o) (text : String) :
    ∃ d' q, d.insert p text = .ok d' ∧ d'.WellFormed ∧
      d'.buffer.toList = d.buffer.toList.take o ++ text.toList ++ d.buffer.toList.drop o ∧
      d'.positionAt (o + text.length) = .ok q ∧ d'.HasPosition q := by
  have ho := h.le_length_of_offsetAt hp
  have hinsert : ∃ b, d.buffer.insert o text = .ok b := GapBuffer.exists_insert_iff.2 ho
  obtain ⟨b, hb⟩ := hinsert
  have hd' : (ofBuffer b).WellFormed := wellFormed_ofBuffer (h.buffer.insert hb)
  have htext := h.buffer.toList_of_insert hb
  have hend : o + text.length ≤ (ofBuffer b).length := by
    rw [← hd'.length_toList, buffer_ofBuffer, htext, List.length_append, List.length_append,
      h.length_take_of_offsetAt hp, String.length_toList]
    exact Nat.le_add_right _ _
  obtain ⟨q, hq, hcursor, -⟩ := hd'.exists_positionAt hend
  refine ⟨ofBuffer b, q, ?_, hd', htext, hq, hcursor⟩
  rw [Document.insert, hp]
  show (do let b ← d.buffer.insert o text; return ofBuffer b) = _
  rw [hb]
  rfl

/-- **A deletion** goes through once its offsets are found. -/
theorem exists_delete (h : d.WellFormed) (hs : d.offsetsAt s = .ok (start, stop)) :
    ∃ d', d.delete s = .ok d' ∧ d'.WellFormed ∧
      d'.buffer.toList = d.buffer.toList.take start ++ d.buffer.toList.drop stop := by
  obtain ⟨-, hstop, hle⟩ := offsetsAt_eq_ok hs
  have hlen := h.le_length_of_offsetAt hstop
  cases hb : d.buffer.delete start (stop - start) with
  | error c =>
    obtain ⟨hbad, -⟩ := GapBuffer.delete_eq_error_iff.1 hb
    have hbuffer : d.buffer.length = d.length := rfl
    omega
  | ok b =>
    have htext := h.buffer.toList_of_delete hb
    rw [Nat.add_sub_cancel' hle] at htext
    refine ⟨ofBuffer b, ?_, wellFormed_ofBuffer (h.buffer.delete hb), htext⟩
    rw [Document.delete, hs]
    show (do let b ← d.buffer.delete start (stop - start); return ofBuffer b) = _
    rw [hb]
    rfl

/-- The text that a deletion leaves. -/
theorem toList_of_delete (h : d.WellFormed) (hs : d.offsetsAt s = .ok (start, stop))
    (hd : d.delete s = .ok d') :
    d'.buffer.toList = d.buffer.toList.take start ++ d.buffer.toList.drop stop := by
  obtain ⟨rest, hrest, -, htext⟩ := h.exists_delete hs
  obtain rfl : d' = rest := Except.ok.inj (hd.symm.trans hrest)
  exact htext

/-- The text of a span is there once its offsets are found. -/
theorem textIn_of_offsetsAt (h : d.WellFormed) (hs : d.offsetsAt s = .ok (start, stop)) :
    d.textIn s = .ok (String.ofList ((d.buffer.toList.drop start).take (stop - start))) := by
  obtain ⟨-, hstop, hle⟩ := offsetsAt_eq_ok hs
  have hlen : start + (stop - start) ≤ d.buffer.length := by
    rw [Nat.add_sub_cancel' hle]
    exact h.le_length_of_offsetAt hstop
  rw [textIn, hs]
  show d.buffer.substring start stop = _
  rw [GapBuffer.substring, if_neg (Nat.not_lt.2 hle), h.buffer.read_eq hlen]
  rfl

/-- A deletion leaves the lines before it, so the line where it began is still there. -/
theorem line_lt_of_delete (h : d.WellFormed) (hs : d.offsetsAt s = .ok (start, stop))
    (hd : d.delete s = .ok d') : s.start.line < d'.lineCount := by
  obtain ⟨hstart, -, -⟩ := offsetsAt_eq_ok hs
  have hline : (d.buffer.toList.take start).count '\n' = s.start.line := by
    rw [eq_offset_of_offsetAt hstart]
    exact h.count_take_offset (hasPosition_clampColumn (line_lt_of_offsetAt hstart))
  rw [(h.delete hd).lineCount_eq, h.toList_of_delete hs hd, List.count_append, hline]
  omega

end WellFormed

/-! ### Outcomes -/

theorem insert_of_offsetAt_eq_error (hp : d.offsetAt p = .error cause) (text : String) :
    d.insert p text = .error cause := by
  rw [insert, hp]
  rfl

theorem delete_of_offsetsAt_eq_error (hs : d.offsetsAt s = .error cause) :
    d.delete s = .error cause := by
  rw [delete, hs]
  rfl

theorem textIn_of_offsetsAt_eq_error (hs : d.offsetsAt s = .error cause) :
    d.textIn s = .error cause := by
  rw [textIn, hs]
  rfl

theorem replace_of_delete_eq_error (hd : d.delete s = .error cause) (text : String) :
    d.replace s text = .error cause := by
  rw [replace, hd]
  rfl

namespace WellFormed

theorem insertOutcome_cases (h : d.WellFormed) (p : Position) (text : String) :
    (∃ o, d.insertOutcome p text = .ok o ∧ o.WellFormed ∧ d.refusal (.insert p text) = none) ∨
      ∃ cause, d.insertOutcome p text = .error cause ∧
        d.refusal (.insert p text) = some cause := by
  rw [insertOutcome, refusal]
  cases hp : d.offsetAt p with
  | error cause =>
    refine Or.inr ⟨cause, ?_, ?_⟩
    · rw [insert_of_offsetAt_eq_error hp]
      rfl
    · obtain ⟨hline, rfl⟩ := eq_of_offsetAt_eq_error hp
      exact if_neg (Nat.not_lt.2 hline)
  | ok o =>
    obtain ⟨d', q, hd, hwf, -, hq, hcursor⟩ := h.exists_insert hp text
    refine Or.inl ⟨⟨s!"insert {quoted text}", d', q⟩, ?_, ⟨hwf, hcursor⟩,
      if_pos (line_lt_of_offsetAt hp)⟩
    simp only [hd, bind, Except.bind, hq]
    rfl

theorem deleteOutcome_cases (h : d.WellFormed) (s : Span) :
    (∃ o, d.deleteOutcome s = .ok o ∧ o.WellFormed ∧ d.refusal (.delete s) = none) ∨
      ∃ cause, d.deleteOutcome s = .error cause ∧ d.refusal (.delete s) = some cause := by
  rw [deleteOutcome, refusal]
  cases hs : d.offsetsAt s with
  | error cause =>
    refine Or.inr ⟨cause, ?_, ?_⟩
    · rw [textIn_of_offsetsAt_eq_error hs]
      rfl
    · rw [delete_of_offsetsAt_eq_error hs]
  | ok offsets =>
    obtain ⟨start, stop⟩ := offsets
    have hread : ∃ removed, d.textIn s = .ok removed := ⟨_, h.textIn_of_offsetsAt hs⟩
    obtain ⟨removed, hremoved⟩ := hread
    obtain ⟨d', hd, hwf, htext⟩ := h.exists_delete hs
    obtain ⟨hstart, -, -⟩ := offsetsAt_eq_ok hs
    have hend : start ≤ d'.length := by
      rw [← hwf.length_toList, htext, List.length_append, h.length_take_of_offsetAt hstart]
      exact Nat.le_add_right _ _
    obtain ⟨q, hq, hcursor, -⟩ := hwf.exists_positionAt hend
    refine Or.inl ⟨⟨s!"delete {quoted removed}", d', q⟩, ?_, ⟨hwf, hcursor⟩, by rw [hd]⟩
    simp only [hremoved, hstart, hd, bind, Except.bind, hq]
    rfl

theorem replaceOutcome_cases (h : d.WellFormed) (s : Span) (text : String) :
    (∃ o, d.replaceOutcome s text = .ok o ∧ o.WellFormed ∧ d.refusal (.replace s text) = none) ∨
      ∃ cause, d.replaceOutcome s text = .error cause ∧
        d.refusal (.replace s text) = some cause := by
  rw [replaceOutcome, refusal]
  cases hs : d.offsetsAt s with
  | error cause =>
    rw [delete_of_offsetsAt_eq_error hs]
    exact Or.inr ⟨cause, rfl, rfl⟩
  | ok offsets =>
    obtain ⟨start, stop⟩ := offsets
    obtain ⟨rest, hrest, hwf, -⟩ := h.exists_delete hs
    have hline := h.line_lt_of_delete hs hrest
    have hstart : rest.offsetAt s.start = .ok (rest.offset ⟨_, rest.clampColumn s.start⟩) :=
      if_pos hline
    obtain ⟨d', q, hd, hwf', -, hq, hcursor⟩ := hwf.exists_insert hstart text
    refine Or.inl ⟨⟨s!"replace {s} with {quoted text}", d', q⟩, ?_, ⟨hwf', hcursor⟩,
      by rw [hrest]⟩
    simp only [hrest, hstart, hd, bind, Except.bind, hq]
    rfl

/-- **An edit** goes through, and then leaves a document in good shape and the cursor in it, or it
is refused. -/
theorem outcome_cases (h : d.WellFormed) (e : Edit) :
    (∃ o, d.outcome e = .ok o ∧ o.WellFormed ∧ d.refusal e = none) ∨
      ∃ cause, d.outcome e = .error cause ∧ d.refusal e = some cause := by
  cases e with
  | insert p text => exact h.insertOutcome_cases p text
  | delete s => exact h.deleteOutcome_cases s
  | replace s text => exact h.replaceOutcome_cases s text

theorem wellFormed_of_outcome (h : d.WellFormed) {e : Edit} {o : Outcome}
    (ho : d.outcome e = .ok o) : o.WellFormed := by
  rcases h.outcome_cases e with ⟨o', ho', hwf, -⟩ | ⟨cause, he, -⟩
  · obtain rfl : o = o' := Except.ok.inj (ho.symm.trans ho')
    exact hwf
  · exact absurd (ho.symm.trans he) (by simp)

end WellFormed

/-- The document that an edit comes to is the edited document. -/
theorem apply_of_outcome {e : Edit} {o : Outcome} (ho : d.outcome e = .ok o) :
    d.apply e = .ok o.document := by
  cases e with
  | insert p text =>
    obtain ⟨next, hnext, ho⟩ := bind_eq_ok_iff.1 ho
    obtain ⟨_, -, ho⟩ := bind_eq_ok_iff.1 ho
    obtain ⟨_, -, ho⟩ := bind_eq_ok_iff.1 ho
    obtain rfl := Except.ok.inj ho
    exact hnext
  | delete s =>
    obtain ⟨_, -, ho⟩ := bind_eq_ok_iff.1 ho
    obtain ⟨_, -, ho⟩ := bind_eq_ok_iff.1 ho
    obtain ⟨next, hnext, ho⟩ := bind_eq_ok_iff.1 ho
    obtain ⟨_, -, ho⟩ := bind_eq_ok_iff.1 ho
    obtain rfl := Except.ok.inj ho
    exact hnext
  | replace s text =>
    obtain ⟨rest, hrest, ho⟩ := bind_eq_ok_iff.1 ho
    obtain ⟨_, -, ho⟩ := bind_eq_ok_iff.1 ho
    obtain ⟨next, hnext, ho⟩ := bind_eq_ok_iff.1 ho
    obtain ⟨_, -, ho⟩ := bind_eq_ok_iff.1 ho
    obtain rfl := Except.ok.inj ho
    exact bind_eq_ok_iff.2 ⟨rest, hrest, hnext⟩

/-- A deletion that is refused fails. So is a replacement refused, since its deletion fails. -/
theorem delete_of_refusal (hs : d.refusal (.delete s) = some cause) :
    d.delete s = .error cause := by
  rw [refusal] at hs
  split at hs
  · exact absurd hs (by simp)
  · next c hc => rw [hc, Option.some.inj hs]

/-- An edit that is refused fails on the document too. -/
theorem apply_of_refusal {e : Edit} (he : d.refusal e = some cause) : d.apply e = .error cause := by
  cases e with
  | insert p text =>
    rw [refusal] at he
    split at he
    · exact absurd he (by simp)
    · next hline =>
      obtain rfl := Option.some.inj he
      exact insert_of_offsetAt_eq_error (if_neg hline) text
  | delete s => exact delete_of_refusal he
  | replace s text => exact replace_of_delete_eq_error (delete_of_refusal he) text

/-- **An edit comes to the edited document**, or fails as it fails on the document. -/
theorem WellFormed.map_document_outcome (h : d.WellFormed) (e : Edit) :
    (d.outcome e).map Outcome.document = d.apply e := by
  rcases h.outcome_cases e with ⟨o, ho, -, -⟩ | ⟨cause, ho, hcause⟩
  · rw [ho, apply_of_outcome ho]
    rfl
  · rw [ho, apply_of_refusal hcause]
    rfl

/-- A deletion is refused for a missing line or for offsets in the wrong order. -/
theorem eq_of_delete_eq_error (h : d.WellFormed) (hd : d.delete s = .error cause) :
    (∃ line, d.lineCount ≤ line ∧ cause = .lineOutOfRange line d.lineCount) ∨
      ∃ start stop, stop < start ∧ cause = .invertedRange start stop := by
  cases hs : d.offsetsAt s with
  | error c =>
    obtain rfl : c = cause :=
      Except.error.inj ((delete_of_offsetsAt_eq_error hs).symm.trans hd)
    exact eq_of_offsetsAt_eq_error hs
  | ok offsets =>
    obtain ⟨d', hd', -⟩ := h.exists_delete hs
    exact absurd (hd.symm.trans hd') (by simp)

/-- No edit is refused for an offset. -/
theorem eq_of_refusal (h : d.WellFormed) {e : Edit} (he : d.refusal e = some cause) :
    (∃ line, d.lineCount ≤ line ∧ cause = .lineOutOfRange line d.lineCount) ∨
      ∃ start stop, stop < start ∧ cause = .invertedRange start stop := by
  cases e with
  | insert p text =>
    rw [refusal] at he
    split at he
    · exact absurd he (by simp)
    · next hline => exact Or.inl ⟨_, Nat.le_of_not_lt hline, (Option.some.inj he).symm⟩
  | delete s => exact eq_of_delete_eq_error h (delete_of_refusal he)
  | replace s text => exact eq_of_delete_eq_error h (delete_of_refusal he)

end Document

/-- An edit of a session is the edit of its document. -/
theorem Session.map_document_edit {σ : Session} (h : σ.document.WellFormed) (e : Document.Edit) :
    (σ.edit e).map (fun r ↦ r.2.document) = (σ.document.apply e).mapError .address := by
  rw [← h.map_document_outcome, edit]
  cases σ.document.outcome e <;> rfl

end TextHistory
