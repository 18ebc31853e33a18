import TextHistory.GapBuffer.Editing

/-!
# A gap buffer is a way to keep a list of characters

A plain text is a list of characters. `Edit.onText` says what an edit does to one, without slots and
without a gap: which offsets it takes, what comes out, and with which error it fails. The gap buffer
does the same (`WellFormed.map_toList_apply`), so a run of edits on the buffer and the same run on
its text stay together (`WellFormed.toList_run`).

What can be read off a buffer is collected in `ReadsAs`. A buffer in good shape reads as its text,
and this is all that a reader can find out: the capacity, the place of the gap and what the slots of
the gap hold appear nowhere in it. In particular a text may hold the mark of an empty slot like any
other character.
-/

namespace TextHistory

namespace GapBuffer

/-! ### Plain texts -/

/-- What an edit does to a plain text. -/
def Edit.onText (cs : List Char) : Edit → Except AddressError (List Char)
  | .insert offset text =>
    if offset ≤ cs.length then .ok (cs.take offset ++ text.toList ++ cs.drop offset)
    else .error (.outOfBounds offset cs.length)
  | .delete offset 0 =>
    if offset ≤ cs.length then .ok cs else .error (.outOfBounds offset cs.length)
  | .delete offset (count + 1) =>
    if offset < cs.length then
      .ok (cs.take offset ++ cs.drop (offset + min (count + 1) (cs.length - offset)))
    else .error (.outOfBounds offset cs.length)

/-- A plain text after a run of edits, in which an edit that fails changes nothing. -/
def textAfter : List Char → List Edit → List Char
  | cs, [] => cs
  | cs, e :: es => textAfter ((e.onText cs).toOption.getD cs) es

/-- Reading a buffer is reading the text `cs`. -/
structure ReadsAs (b : GapBuffer) (cs : List Char) : Prop where
  /-- The characters in order. -/
  toList : b.toList = cs
  /-- The text as a string. -/
  text : b.text = String.ofList cs
  /-- The text as it is shown. -/
  toString : ToString.toString b = String.ofList cs
  /-- The number of characters. -/
  length : b.length = cs.length
  /-- Only the empty text is empty. -/
  isEmpty : b.isEmpty = true ↔ cs.length = 0
  /-- The character at an offset. -/
  charAt : ∀ offset, b.charAt offset =
    if h : offset < cs.length then .ok cs[offset] else .error (.outOfBounds offset cs.length)
  /-- The characters from an offset up to another. -/
  substring : ∀ start stop, b.substring start stop =
    if stop < start then .error (.invertedRange start stop)
    else if start = stop ∨ stop ≤ cs.length then
      .ok (String.ofList ((cs.drop start).take (stop - start)))
    else .error (.outOfBounds (max start cs.length) cs.length)

variable {b : GapBuffer}

namespace WellFormed

/-! ### Editing -/

/-- **The step.** An edit of the buffer is that edit of its text, failures included. -/
theorem map_toList_apply (h : b.WellFormed) (e : Edit) :
    (b.apply e).map GapBuffer.toList = e.onText b.toList := by
  have hlen := h.length_toList
  cases e with
  | insert offset text =>
    rw [Edit.onText, hlen]
    by_cases hoffset : offset ≤ b.length
    · have hsome : ∃ b', b.insert offset text = .ok b' := exists_insert_iff.2 hoffset
      obtain ⟨b', hb⟩ := hsome
      rw [if_pos hoffset, GapBuffer.apply, hb, ← h.toList_of_insert hb]
      rfl
    · have hb : b.insert offset text = .error (b.outOfBounds offset) :=
        insert_eq_error_iff.2 ⟨Nat.lt_of_not_le hoffset, rfl⟩
      rw [if_neg hoffset, GapBuffer.apply, hb]
      rfl
  | delete offset count =>
    cases hb : b.delete offset count with
    | error err =>
      obtain ⟨hbad, rfl⟩ := delete_eq_error_iff.1 hb
      rw [GapBuffer.apply, hb]
      cases count with
      | zero => rw [Edit.onText, hlen, if_neg (by omega)]; rfl
      | succ count => rw [Edit.onText, hlen, if_neg (by omega)]; rfl
    | ok b' =>
      have hgood : ¬(b.length < offset ∨ 0 < count ∧ b.length = offset) := fun hbad ↦ by
        rw [delete_eq_error_iff.2 ⟨hbad, rfl⟩] at hb
        exact absurd hb (by simp)
      rw [GapBuffer.apply, hb]
      cases count with
      | zero =>
        rw [Edit.onText, hlen, if_pos (by omega), delete_zero hb]
        rfl
      | succ count =>
        rw [Edit.onText, hlen, if_pos (by omega), ← hlen, drop_add_min, ← h.toList_of_delete hb]
        rfl

/-- **The run.** Buffer and text stay together. -/
theorem toList_run (h : b.WellFormed) (es : List Edit) :
    (b.run es).toList = textAfter b.toList es := by
  induction es generalizing b with
  | nil => rfl
  | cons e es ih =>
    have hstep := h.map_toList_apply e
    rw [GapBuffer.run, textAfter, ← hstep]
    -- an edit that fails leaves both as they are
    cases hb : b.apply e with
    | error => exact ih h
    | ok b' => exact ih (h.apply hb)

/-! ### Reading -/

theorem charAt_eq (h : b.WellFormed) (offset : Nat) :
    b.charAt offset =
      if hlt : offset < b.toList.length then .ok b.toList[offset]
      else .error (.outOfBounds offset b.toList.length) := by
  split
  · next hlt => exact h.charAt_eq_ok_iff.2 (List.getElem?_eq_getElem hlt)
  · next hge =>
    rw [h.length_toList] at hge ⊢
    rw [GapBuffer.charAt, if_pos (Nat.le_of_not_lt hge), outOfBounds]

/-- Reading past the end fails at the first character that is missing. -/
theorem read_eq_error (h : b.WellFormed) {offset count : Nat} (hcount : 0 < count)
    (hlt : b.toList.length < offset + count) :
    b.read offset count =
      .error (.outOfBounds (max offset b.toList.length) b.toList.length) := by
  induction count generalizing offset with
  | zero => omega
  | succ count ih =>
    rw [read, h.charAt_eq]
    by_cases hoffset : offset < b.toList.length
    · -- this character is there, so a later one is missing
      rw [dif_pos hoffset]
      simp only [bind, Except.bind, ih (show 0 < count by omega)
        (show b.toList.length < offset + 1 + count by omega)]
      congr 2
      omega
    · rw [dif_neg hoffset, Nat.max_eq_left (Nat.le_of_not_lt hoffset)]
      rfl

theorem substring_eq (h : b.WellFormed) (start stop : Nat) :
    b.substring start stop =
      if stop < start then .error (.invertedRange start stop)
      else if start = stop ∨ stop ≤ b.toList.length then
        .ok (String.ofList ((b.toList.drop start).take (stop - start)))
      else .error (.outOfBounds (max start b.toList.length) b.toList.length) := by
  rw [GapBuffer.substring]
  split
  · rfl
  · next hle =>
    split
    · next hread =>
      rcases hread with rfl | hstop
      · rw [Nat.sub_self, read, List.take_zero]
        rfl
      · rw [h.length_toList] at hstop
        rw [h.read_eq (show start + (stop - start) ≤ b.length by omega)]
        rfl
    · next hread =>
      rw [h.read_eq_error (show 0 < stop - start by omega)
        (show b.toList.length < start + (stop - start) by omega)]
      rfl

/-- A buffer in good shape reads as its text. -/
theorem readsAs (h : b.WellFormed) : b.ReadsAs b.toList where
  toList := rfl
  text := rfl
  toString := rfl
  length := h.length_toList.symm
  isEmpty := by rw [GapBuffer.isEmpty, beq_iff_eq, h.length_toList]
  charAt := h.charAt_eq
  substring := h.substring_eq

end WellFormed

/-! ### Every buffer -/

/-- **A gap buffer is a plain text.** Whatever edits a new buffer went through, it reads as the text
that the same edits make of the initial one, and it takes or refuses the next edit as that text
does. -/
theorem readsAs_run_ofString (text : String) (capacity : Nat) (es : List Edit) :
    ((ofString text capacity).run es).ReadsAs (textAfter text.toList es) ∧
      ∀ e : Edit, (((ofString text capacity).run es).apply e).map toList =
        e.onText (textAfter text.toList es) := by
  have hnew := wellFormed_ofString text capacity
  have hrun := hnew.run es
  have htext : ((ofString text capacity).run es).toList = textAfter text.toList es := by
    rw [hnew.toList_run, toList_ofString]
  rw [← htext]
  exact ⟨hrun.readsAs, hrun.map_toList_apply⟩

/-- A character that looks like an empty slot is a character. -/
example :
    let es : List Edit := [.insert 1 "\u0000\u0000", .delete 0 2, .insert 5 "c", .delete 1 9]
    ((ofString "ab" 2).run es).text = "\u0000" := by
  decide

end GapBuffer

end TextHistory
