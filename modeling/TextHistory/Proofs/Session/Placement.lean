import TextHistory.Proofs.Document.Behind
import TextHistory.Proofs.Session.Cursor

/-!
# Where the cursor goes

After an edit the cursor is behind the text that the edit put in, and where that is can be told
without looking at the document that came out (`WellFormed.cursor_of_edit`). The only thing that the
document has a say in is where the text starts, since a column past the end of its line is clamped.
Moving the cursor clamps the line too (`WellFormed.setCursor_eq`).
-/

namespace TextHistory.Session

variable {s s' : Session} {id : Nat} {p : Position}

/-- An edit that goes through commits what it comes to. -/
theorem exists_outcome_of_edit {e : Document.Edit} (he : s.edit e = .ok (id, s')) :
    ∃ o, s.document.outcome e = .ok o ∧ (s.commit o).2 = s' := by
  rw [edit] at he
  cases ho : s.document.outcome e with
  | error cause =>
    rw [ho] at he
    exact absurd he (by simp)
  | ok o =>
    rw [ho] at he
    exact ⟨o, rfl, congrArg Prod.snd (Except.ok.inj he)⟩

namespace WellFormed

/-- **An edit** leaves the cursor behind its text. -/
theorem cursor_of_edit (h : s.WellFormed) {e : Document.Edit} (he : s.edit e = .ok (id, s')) :
    ∃ p, s.document.editStart e = .ok p ∧ s'.cursor = p.behind e.text := by
  obtain ⟨o, ho, rfl⟩ := exists_outcome_of_edit he
  exact h.document.cursor_of_outcome ho

/-- An edit that is not refused goes through. -/
theorem exists_edit_of_refusal_eq_none (h : s.WellFormed) {e : Document.Edit}
    (he : s.document.refusal e = none) : ∃ id s', s.edit e = .ok (id, s') := by
  rw [edit]
  rcases h.document.outcome_cases e with ⟨o, ho, -, -⟩ | ⟨cause, -, hcause⟩
  · rw [ho]
    exact ⟨_, _, rfl⟩
  · exact absurd (he.symm.trans hcause) (by simp)

/-- **Moving the cursor** never fails, and leads to the nearest position. -/
theorem setCursor_eq (h : s.WellFormed) (p : Position) :
    s.setCursor p = .ok { s with cursor := s.document.nearest p } := by
  rw [setCursor, h.document.clampPosition_eq]

/-- Moving the cursor to where it is changes nothing. -/
theorem setCursor_self (h : s.WellFormed) : s.setCursor s.cursor = .ok s := by
  rw [h.setCursor_eq, Document.nearest_eq_self h.cursor]

end WellFormed

/-- **The cursor is placed exactly**, in every session and by every call that goes through. An
insertion leaves it behind the text, which starts at the column that was asked for or at the end of
the line; a deletion leaves it where the span starts; and a replacement leaves it behind the text,
as if the text were inserted at the start of the span into what is left without it. The cursor can
be moved to any position, of which the line is clamped and then the column. Moving it to where it is
changes nothing. -/
theorem placement_after_calls {s₀ : Session} (hs : s₀.Started) (hd : s₀.document.WellFormed)
    (cs : List Call) (hcs : ∀ c ∈ cs, ∀ d ∈ c.documents, d.WellFormed) :
    let s := after Session.apply s₀ cs
    let d := s.document
    (∀ p text id s', s.edit (.insert p text) = .ok (id, s') → ∃ n, d.lineLength p.line = .ok n ∧
        s'.cursor = Position.behind ⟨p.line, min p.column n⟩ text.toList) ∧
      (∀ r id s', s.edit (.delete r) = .ok (id, s') → ∃ n, d.lineLength r.start.line = .ok n ∧
        s'.cursor = ⟨r.start.line, min r.start.column n⟩) ∧
      (∀ r text id s', s.edit (.replace r text) = .ok (id, s') →
        ∃ rest n, d.delete r = .ok rest ∧ rest.lineLength r.start.line = .ok n ∧
          s'.cursor = Position.behind ⟨r.start.line, min r.start.column n⟩ text.toList) ∧
      (∀ p, let line := min p.line (d.lineCount - 1)
        ∃ n, d.lineLength line = .ok n ∧
          s.setCursor p = .ok { s with cursor := ⟨line, min p.column n⟩ }) ∧
      s.setCursor s.cursor = .ok s := by
  intro s d
  have h : s.WellFormed := (hs.wellFormed hd).run hcs
  refine ⟨fun p text id s' he ↦ ?_, fun r id s' he ↦ ?_, fun r text id s' he ↦ ?_, fun p ↦ ?_,
    h.setCursor_self⟩
  · obtain ⟨q, hq, hcursor⟩ := h.cursor_of_edit he
    obtain ⟨n, hn, rfl⟩ := Document.clampOnLine_eq_ok_iff.1 hq
    exact ⟨n, hn, hcursor⟩
  · obtain ⟨q, hq, hcursor⟩ := h.cursor_of_edit he
    obtain ⟨n, hn, rfl⟩ := Document.clampOnLine_eq_ok_iff.1 hq
    exact ⟨n, hn, hcursor.trans (Position.behind_nil _)⟩
  · obtain ⟨q, hq, hcursor⟩ := h.cursor_of_edit he
    obtain ⟨rest, hrest, hq⟩ := bind_eq_ok_iff.1 hq
    obtain ⟨n, hn, rfl⟩ := Document.clampOnLine_eq_ok_iff.1 hq
    exact ⟨rest, n, hrest, hn, hcursor⟩
  · exact ⟨_, if_pos (h.document.hasPosition_nearest p).line_lt, h.setCursor_eq p⟩

/-- A text with a line feed put in at the end of a line, a deletion and a replacement of a span that
starts past the end of its line, and the cursor moved to where no line is. -/
theorem placement_after_calls_clamped :
    let s₀ := Session.ofDocument (.ofString "ab\ncdef" 0) .branching
    let cs : List Call := [.setCursor ⟨0, 9⟩, .type "x"]
    let s := after Session.apply s₀ cs
    let r : Span := ⟨⟨0, 5⟩, ⟨1, 1⟩⟩
    s₀.Started ∧ s₀.document.WellFormed ∧ (∀ c ∈ cs, ∀ d ∈ c.documents, d.WellFormed) ∧
      (∃ id s', s.edit (.insert ⟨0, 9⟩ "y\nzz") = .ok (id, s') ∧ s'.cursor = ⟨1, 2⟩) ∧
      (∃ id s', s.edit (.delete r) = .ok (id, s') ∧ s'.cursor = ⟨0, 3⟩) ∧
      (∃ id s', s.edit (.replace r "y") = .ok (id, s') ∧ s'.cursor = ⟨0, 6⟩) ∧
      s.setCursor ⟨7, 2⟩ = .ok { s with cursor := ⟨1, 2⟩ } := by
  intro s₀ cs
  have hs : s₀.Started := .ofDocument _ _
  have hd : s₀.document.WellFormed := Document.wellFormed_ofString _ _
  have hcs : ∀ c ∈ cs, ∀ d ∈ c.documents, d.WellFormed := by simp [cs, Call.documents]
  have hmain := placement_after_calls hs hd cs hcs
  have h : (after Session.apply s₀ cs).WellFormed := (hs.wellFormed hd).run hcs
  generalize heq : after Session.apply s₀ cs = s at hmain h ⊢
  intro _ r
  obtain ⟨hinsert, hdelete, hreplace, hset, -⟩ := hmain
  have hfirst : s.document.lineLength 0 = .ok 3 := by rw [← heq]; decide
  have hlast : s.document.lineLength 1 = .ok 4 := by rw [← heq]; decide
  have hcount : s.document.lineCount = 2 := by rw [← heq]; decide
  obtain ⟨hputIn, hcutOut, hputFor⟩ : s.document.refusal (.insert ⟨0, 9⟩ "y\nzz") = none ∧
      s.document.refusal (.delete r) = none ∧ s.document.refusal (.replace r "y") = none := by
    rw [← heq]
    decide
  refine ⟨hs, hd, hcs, ?_, ?_, ?_, ?_⟩
  · obtain ⟨id, s', he⟩ := h.exists_edit_of_refusal_eq_none hputIn
    obtain ⟨n, hn, hcursor⟩ := hinsert _ _ id s' he
    obtain rfl : n = 3 := Except.ok.inj (hn.symm.trans hfirst)
    exact ⟨id, s', he, hcursor⟩
  · obtain ⟨id, s', he⟩ := h.exists_edit_of_refusal_eq_none hcutOut
    obtain ⟨n, hn, hcursor⟩ := hdelete _ id s' he
    obtain rfl : n = 3 := Except.ok.inj (hn.symm.trans hfirst)
    exact ⟨id, s', he, hcursor⟩
  · obtain ⟨id, s', he⟩ := h.exists_edit_of_refusal_eq_none hputFor
    obtain ⟨rest, n, hrest, hn, hcursor⟩ := hreplace _ _ id s' he
    have hjoined : (s.document.delete r >>= fun rest ↦ rest.lineLength 0) = .ok 6 := by
      rw [← heq]
      decide
    rw [hrest] at hjoined
    obtain rfl : n = 6 := Except.ok.inj (hn.symm.trans hjoined)
    exact ⟨id, s', he, hcursor⟩
  · obtain ⟨n, hn, hmoved⟩ := hset ⟨7, 2⟩
    rw [hcount] at hn hmoved
    obtain rfl : n = 4 := Except.ok.inj (hn.symm.trans hlast)
    exact hmoved

end TextHistory.Session
