import TextHistory.Proofs.Document.LineIndex
import TextHistory.Proofs.Document.Removal

/-!
# Replacing a span

A replacement deletes its span and inserts its text at the start of the span, which is looked up a
second time. Once the span is deleted nothing can go wrong any more, so a replacement is refused
exactly if the deletion is. But the second look-up may lead behind the place of the span, and then
the text stands behind that much of what followed the span (`WellFormed.exists_replace`).

It is a plain splice as long as this `overshoot` is zero, which takes a start that is not past the
end of its line, a span within one line, or a span that takes the last of its lines up to the end.

A session does the same steps on its own, with two look-ups more to place the cursor. What comes out
is the replaced document, or the same refusal (`Session.map_document_edit`).
-/

namespace TextHistory

namespace Document

variable {d rest : Document} {s : Span} {start stop : Nat} {cause : AddressError}

namespace WellFormed

/-- **A replacement** goes through once its span is deleted, and splices the text in behind as much
of the last line of the span as the overshoot tells. -/
theorem exists_replace (h : d.WellFormed) (hs : d.offsetsAt s = .ok (start, stop))
    (hd : d.delete s = .ok rest) (text : String) :
    ∃ d', d.replace s text = .ok d' ∧
      d'.buffer.toList = d.buffer.toList.take start ++
        (d.buffer.toList.drop stop).take (d.overshoot s) ++ text.toList ++
          d.buffer.toList.drop (stop + d.overshoot s) := by
  obtain ⟨d', hd', htext⟩ := h.exists_insert_of_delete hs hd text
  exact ⟨d', bind_eq_ok_iff.2 ⟨rest, hd, hd'⟩, htext⟩

/-- A replacement is refused exactly if the deletion is. -/
theorem replace_eq_error_iff (h : d.WellFormed) (text : String) :
    d.replace s text = .error cause ↔ d.delete s = .error cause := by
  refine ⟨fun he ↦ ?_, fun he ↦ replace_of_delete_eq_error he text⟩
  cases hd : d.delete s with
  | error c => exact (replace_of_delete_eq_error hd text).symm.trans he
  | ok rest =>
    obtain ⟨start, stop, hs⟩ := exists_offsetsAt_of_delete hd
    obtain ⟨d', hd', -⟩ := h.exists_replace hs hd text
    exact absurd (he.symm.trans hd') (by simp)

end WellFormed

/-- **A replacement is an exact splice**, displaced by a stated number of characters. It goes
through if the deletion of its span does, and fails with the same error else. If `start` and `stop`
are the offsets of the span, and `n` and `m` the lengths of its first and of its last line, the text
is put behind the first `k` characters that followed the span. None of them are passed if the start
is not past the end of its line, if the span is within one line, or if it ends where its last line
ends. A session that holds the document comes to the same document or the same error. -/
theorem replace_of_reachable (h : d.Reachable) (s : Span) (text : String) :
    (∀ cause, d.replace s text = .error cause ↔ d.delete s = .error cause) ∧
      (∀ rest, d.delete s = .ok rest → ∃ start stop n m d',
        d.offsetAt s.start = .ok start ∧ d.offsetAt s.stop = .ok stop ∧
        d.lineLength s.start.line = .ok n ∧ d.lineLength s.stop.line = .ok m ∧
        d.replace s text = .ok d' ∧
        let cs := d.content.toList
        let k := min (s.start.column - min s.start.column n) (m - min s.stop.column m)
        d'.content.toList =
            cs.take start ++ (cs.drop stop).take k ++ text.toList ++ cs.drop (stop + k) ∧
          (s.start.column ≤ n ∨ s.start.line = s.stop.line ∨ m ≤ s.stop.column →
            d'.content.toList = cs.take start ++ text.toList ++ cs.drop stop)) ∧
      ∀ σ : Session, σ.document = d →
        (σ.edit (.replace s text)).map (fun r ↦ r.2.document) =
          (d.replace s text).mapError .address := by
  have hd := h.wellFormed
  refine ⟨fun cause ↦ hd.replace_eq_error_iff text, fun rest hrest ↦ ?_, ?_⟩
  · obtain ⟨start, stop, hs⟩ := exists_offsetsAt_of_delete hrest
    obtain ⟨hstart, hstop, -⟩ := offsetsAt_eq_ok hs
    obtain ⟨d', hd', htext⟩ := hd.exists_replace hs hrest text
    refine ⟨start, stop, d.lineExtent s.start.line, d.lineExtent s.stop.line, d', hstart, hstop,
      if_pos (line_lt_of_offsetAt hstart), if_pos (line_lt_of_offsetAt hstop), hd', ?_⟩
    simp only [toList_content]
    refine ⟨htext, fun hplain ↦ ?_⟩
    have hzero : d.overshoot s = 0 := by
      rcases hplain with hstart | hline | hstop
      · exact overshoot_eq_zero_iff.2 (Or.inl hstart)
      · exact overshoot_of_line_eq hs hline
      · exact overshoot_eq_zero_iff.2 (Or.inr hstop)
    rw [htext, hzero, List.take_zero, List.append_nil, Nat.add_zero]
  · rintro σ rfl
    exact Session.map_document_edit hd _

/-- A start two columns past the end of its line: the text goes behind two of the three characters
that are left of the last line. -/
theorem replace_of_reachable_overshoot :
    let d := ofString "ab\ncdef" 0
    let s : Span := ⟨⟨0, 4⟩, ⟨1, 1⟩⟩
    let σ := Session.ofDocument d .linear
    d.Reachable ∧ (∃ rest, d.delete s = .ok rest) ∧
      (∃ d', d.replace s "X\n" = .ok d' ∧ d'.content.toList = "abdeX\nf".toList) ∧
      ∃ r, σ.edit (.replace s "X\n") = .ok r ∧ r.2.document.content.toList = "abdeX\nf".toList := by
  intro d s σ
  have hd : d.Reachable := .ofString _ _
  have hdelete : ∃ rest, d.delete s = .ok rest := ⟨_, rfl⟩
  obtain ⟨rest, hrest⟩ := hdelete
  obtain ⟨-, hsplice, hsession⟩ := replace_of_reachable hd s "X\n"
  obtain ⟨start, stop, n, m, d', hstart, hstop, hn, hm, hreplace, htext, -⟩ := hsplice rest hrest
  obtain rfl : start = 2 := Except.ok.inj (hstart.symm.trans rfl)
  obtain rfl : stop = 4 := Except.ok.inj (hstop.symm.trans rfl)
  obtain rfl : n = 2 := Except.ok.inj (hn.symm.trans rfl)
  obtain rfl : m = 4 := Except.ok.inj (hm.symm.trans rfl)
  have hcontent : d'.content.toList = "abdeX\nf".toList := htext.trans (by decide)
  have hedit := hsession σ rfl
  rw [hreplace] at hedit
  refine ⟨hd, ⟨rest, hrest⟩, ⟨d', hreplace, hcontent⟩, ?_⟩
  cases hr : σ.edit (.replace s "X\n") with
  | error e =>
    rw [hr] at hedit
    have hfails : (Except.error e : Except EditError Document) = .ok d' := hedit
    exact absurd hfails (by simp)
  | ok r =>
    rw [hr] at hedit
    have hdocument : r.2.document = d' := Except.ok.inj hedit
    exact ⟨r, rfl, hdocument ▸ hcontent⟩

end Document

end TextHistory
