import Mathlib.Data.List.DropRight
import Mathlib.Logic.Equiv.Basic
import TextHistory.Proofs.Document.LineIndex

/-!
# Offsets and positions correspond

An offset and a position are two names of a place between characters, and each can be read off the
text before the place. The offset is how long this text is; the line is how many line feeds are in
it; and the column is how much of it comes behind the last of them (`WellFormed.positionAt_eq`).

So the two kinds of names correspond one to one (`WellFormed.offsetEquiv`), if only those positions
count that the document has. Looking up goes further than that on one side: a column past the end of
its line is taken for the end of the line, so every position of an existing line has an offset, and
the position of this offset is the one that was meant.

The line of an offset is looked for among the starts of the lines. Nothing hangs on how this is
done. Whatever finds the offset there, or the index where it could be inserted, has found the line
(`WellFormed.lineFound_eq`), since every line begins behind the end of the one before.
-/

namespace TextHistory

/-! ### The text behind the last line feed -/

theorem rtakeWhile_append_newline (cs ds : List Char) :
    (cs ++ '\n' :: ds).rtakeWhile (· != '\n') = ds.rtakeWhile (· != '\n') := by
  induction ds using List.reverseRecOn with
  | nil => exact List.rtakeWhile_concat_neg _ _ _ (by decide)
  | append_singleton ds d ih =>
    rw [← List.cons_append, ← List.append_assoc, List.rtakeWhile_concat, List.rtakeWhile_concat, ih]

theorem rtakeWhile_joinLines {l : List Char} (hl : '\n' ∉ l) (ls : List (List Char)) :
    (joinLines (ls ++ [l])).rtakeWhile (· != '\n') = l := by
  induction ls with
  | nil =>
    refine List.rtakeWhile_eq_self_iff.2 fun c hc ↦ bne_iff_ne.2 ?_
    rintro rfl
    exact hl hc
  | cons k ks ih => rw [List.cons_append, joinLines_cons k (by simp), rtakeWhile_append_newline, ih]

/-- Behind the last line feed comes the last line. -/
theorem rtakeWhile_of_splitLines {cs l : List Char} {ls : List (List Char)}
    (h : splitLines cs = ls ++ [l]) : cs.rtakeWhile (· != '\n') = l := by
  have hmem : l ∈ splitLines cs := h ▸ List.mem_append_right _ (List.mem_singleton_self l)
  rw [← joinLines_splitLines cs, h, rtakeWhile_joinLines (newline_not_mem_of_mem_splitLines hmem)]

/-! ### Searching for a line -/

/-- What is promised of a search in ascending numbers: the index of the number, or if it is not
there, the index where it could be inserted. -/
def IsFound (xs : Array Nat) (a : Nat) : Except Nat Nat → Prop
  | .ok i => xs[i]? = some a
  | .error i => i ≤ xs.size ∧ (∀ x ∈ xs.toList.take i, x < a) ∧ ∀ x ∈ xs.toList.drop i, a < x

/-- The line that a search in the starts of the lines comes to: the one that begins there, or the
one before the place where the offset could be inserted. -/
def lineFound : Except Nat Nat → Nat
  | .ok i => i
  | .error i => i - 1

namespace Document

variable {d : Document} {p q : Position} {o : Nat}

namespace WellFormed

/-- **The line of an offset** is found by any search. -/
theorem lineFound_eq (h : d.WellFormed) (hp : d.HasPosition p) {r : Except Nat Nat}
    (hr : IsFound d.lineStarts (d.offset p) r) : lineFound r = p.line := by
  have hstart : ∀ {i}, i < d.lineCount → d.lineStarts.toList[i]? = some (d.lineStart i) :=
    fun hi ↦ by rw [Array.getElem?_toList, h.getElem?_lineStarts hi, h.lineStart_eq hi]
  have hcolumn := hp.column_le
  cases r with
  | ok i =>
    -- the offset is that of the first column of line `i`, and of no other position
    have hi : i < d.lineCount := h.size_lineStarts ▸ (Array.getElem?_eq_some_iff.1 hr).1
    have hoffset : d.offset ⟨i, 0⟩ = d.offset p :=
      Option.some.inj ((hstart hi).symm.trans (Array.getElem?_toList.trans hr))
    exact congrArg Position.line (h.offset_inj ⟨hi, Nat.zero_le _⟩ hp hoffset)
  | error i =>
    obtain ⟨hsize, hbefore, hbehind⟩ := hr
    have hline : p.line < i := by
      by_contra hge
      have hmem : d.lineStart p.line ∈ d.lineStarts.toList.drop i := by
        refine List.mem_of_getElem? (i := p.line - i) ?_
        rw [List.getElem?_drop, Nat.add_sub_cancel' (Nat.le_of_not_lt hge), hstart hp.line_lt]
      have hlt := hbehind _ hmem
      rw [offset] at hlt
      omega
    have hnext : i ≤ p.line + 1 := by
      by_contra hlt
      have hexists : p.line + 1 < d.lineCount := by
        rw [← h.size_lineStarts]
        omega
      have hmem : d.lineStart (p.line + 1) ∈ d.lineStarts.toList.take i := by
        refine List.mem_of_getElem? (i := p.line + 1) ?_
        rw [List.getElem?_take_of_lt (Nat.lt_of_not_le hlt), hstart hexists]
      have hle := hbefore _ hmem
      rw [h.lineStart_succ hexists, offset] at hle
      omega
    show i - 1 = p.line
    omega

/-- The column of a position is the length of the text behind the last line feed before it. -/
theorem rtakeWhile_take_offset (h : d.WellFormed) (hp : d.HasPosition p) :
    ((d.buffer.toList.take (d.offset p)).rtakeWhile (· != '\n')).length = p.column := by
  obtain ⟨l, hl⟩ := h.exists_line hp.line_lt
  have hcolumn : p.column ≤ l.length := h.lineExtent_eq hl ▸ hp.column_le
  rw [offset, h.lineStart_eq hp.line_lt, rtakeWhile_of_splitLines (splitLines_take hl hcolumn),
    List.length_take_of_le hcolumn]

/-- **The position of an offset** is read off the text before it. -/
theorem positionAt_eq (h : d.WellFormed) (ho : o ≤ d.length) :
    d.positionAt o = .ok ⟨(d.buffer.toList.take o).count '\n',
      ((d.buffer.toList.take o).rtakeWhile (· != '\n')).length⟩ := by
  obtain ⟨p, hpos, hp, rfl⟩ := h.exists_positionAt ho
  rw [hpos, h.count_take_offset hp, h.rtakeWhile_take_offset hp]

/-- **Positions and offsets** correspond one to one. -/
noncomputable def offsetEquiv (h : d.WellFormed) : {p // d.HasPosition p} ≃ {o // o ≤ d.length} :=
  Equiv.ofBijective (fun p ↦ ⟨d.offset p, h.offset_le_length p.2⟩)
    ⟨fun p q hpq ↦ Subtype.ext (h.offset_inj p.2 q.2 (congrArg Subtype.val hpq)), fun o ↦ by
      obtain ⟨p, -, hp, ho⟩ := h.exists_positionAt o.2
      exact ⟨⟨p, hp⟩, Subtype.ext ho⟩⟩

theorem offsetAt_offsetEquiv (h : d.WellFormed) (p : {p // d.HasPosition p}) :
    d.offsetAt p = .ok (h.offsetEquiv p).1 := offsetAt_of_hasPosition p.2

theorem positionAt_offsetEquiv (h : d.WellFormed) (o : {o // o ≤ d.length}) :
    d.positionAt o = .ok (h.offsetEquiv.symm o).1 := by
  obtain ⟨p, rfl⟩ := h.offsetEquiv.surjective o
  rw [Equiv.symm_apply_apply]
  exact h.positionAt_offset p.2

end WellFormed

/-- **Offsets and positions are in exact correspondence** in every document that can be made. Every
offset up to the length of the text has a position, which is told by the line feeds before it and
gives the offset back; every position of an existing line has an offset, which gives the position
back with its column clamped. Nothing else has one. So looking up offsets and looking up positions
are bijections, and each is the inverse of the other. -/
theorem correspondence_of_reachable (h : d.Reachable) :
    (∀ o ≤ d.length, ∃ p n, d.positionAt o = .ok p ∧
        p.line = (d.content.toList.take o).count '\n' ∧
        p.column = ((d.content.toList.take o).rtakeWhile (· != '\n')).length ∧
        d.lineLength p.line = .ok n ∧ p.column ≤ n ∧ d.offsetAt p = .ok o ∧
        ∀ r, IsFound d.lineStarts o r → lineFound r = p.line) ∧
      (∀ o, d.length < o → d.positionAt o = .error (.outOfBounds o d.length)) ∧
      (∀ p e, d.offsetAt p = .error e ↔
        d.lineCount ≤ p.line ∧ e = .lineOutOfRange p.line d.lineCount) ∧
      (∀ p : Position, p.line < d.lineCount → ∃ o n, d.offsetAt p = .ok o ∧ o ≤ d.length ∧
        d.lineLength p.line = .ok n ∧ d.positionAt o = .ok ⟨p.line, min p.column n⟩) ∧
      ∃ f : {p // d.HasPosition p} ≃ {o // o ≤ d.length},
        (∀ p : {p // d.HasPosition p}, d.offsetAt p = .ok (f p).1) ∧
          ∀ o : {o // o ≤ d.length}, d.positionAt o = .ok (f.symm o).1 := by
  have hd := h.wellFormed
  rw [toList_content]
  refine ⟨fun o ho ↦ ?_, fun o ho ↦ if_pos ho, fun p e ↦ ?_, fun p hline ↦ ?_,
    hd.offsetEquiv, hd.offsetAt_offsetEquiv, hd.positionAt_offsetEquiv⟩
  · obtain ⟨p, hpos, hp, rfl⟩ := hd.exists_positionAt ho
    have hread : p = ⟨_, _⟩ := Except.ok.inj (hpos.symm.trans (hd.positionAt_eq ho))
    exact ⟨p, d.lineExtent p.line, hpos, congrArg Position.line hread,
      congrArg Position.column hread, if_pos hp.line_lt, hp.column_le, offsetAt_of_hasPosition hp,
      fun r hr ↦ hd.lineFound_eq hp hr⟩
  · rw [offsetAt_eq]
    by_cases hline : p.line < d.lineCount
    · simp [hline]
    · simp [hline, Nat.le_of_not_lt hline, lineOutOfRange, eq_comm]
  · have hp := hasPosition_clampColumn hline
    exact ⟨d.offset ⟨p.line, d.clampColumn p⟩, d.lineExtent p.line, if_pos hline,
      hd.offset_le_length hp, if_pos hline, hd.positionAt_offset hp⟩

/-- A place on the third line, which a search does not find among the starts, and a column past the
end of an empty line. -/
theorem correspondence_of_reachable_run :
    let d := (ofString "ab\n\nc" 0).run [.insert ⟨2, 1⟩ "d\n"]
    d.Reachable ∧ d.lineStarts = #[0, 3, 4, 7] ∧ IsFound d.lineStarts 5 (.error 3) ∧
      (∃ p, d.positionAt 5 = .ok p ∧ p.line = 2 ∧ p.column = 1 ∧ d.offsetAt p = .ok 5) ∧
      ∃ o, d.offsetAt ⟨1, maxWord⟩ = .ok o ∧ d.positionAt o = .ok ⟨1, 0⟩ := by
  intro d
  have hd : d.Reachable := (Reachable.ofString _ _).run _
  have hstarts : d.lineStarts = #[0, 3, 4, 7] := by decide
  have hfound : IsFound d.lineStarts 5 (.error 3) := by
    rw [hstarts]
    exact ⟨by decide, by decide, by decide⟩
  obtain ⟨hoffset, -, -, hposition, -⟩ := correspondence_of_reachable hd
  obtain ⟨p, n, hpos, -, hcolumn, -, -, hback, hline⟩ := hoffset 5 (by decide)
  obtain ⟨o, m, ho, -, hm, hclamped⟩ := hposition ⟨1, maxWord⟩ (by decide)
  have hzero : d.lineLength 1 = .ok 0 := by decide
  obtain rfl : m = 0 := Except.ok.inj (hm.symm.trans hzero)
  exact ⟨hd, hstarts, hfound,
    ⟨p, hpos, (hline _ hfound).symm, hcolumn.trans (by decide), hback⟩, o, ho, hclamped⟩

end Document

end TextHistory
