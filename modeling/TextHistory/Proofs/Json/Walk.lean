import TextHistory.Proofs.Json.Tokens

/-!
# Passing over a value

The walk over a value that is not wanted, against the grammar of JSON texts. Whatever a text says,
however deeply it is nested and wherever it has blanks, the walk passes over exactly that text, with
any brackets open around it (`Spells.skipValue_append`).

The walk has a flag that tells whether the bracket that it is in was opened just now, and the
grammar has a flag that tells whether an item or a member is the first one. They are the same: what
the walk does between two values is to pass over a separator (`Separator.skipRest_append`).
-/

namespace TextHistory.Json

/-! ### Blanks -/

variable {c : Char} {s t w r : List Char}

theorem skipSpace_cons (hc : isSpace c = false) : skipSpace (c :: s) = c :: s := by
  rw [skipSpace, List.dropWhile_cons, hc]
  rfl

namespace Blank

theorem isSpace_of_mem (hw : Blank w) (hc : c ∈ w) : isSpace c = true := by
  rcases hw c hc with rfl | rfl | rfl | rfl <;> rfl

theorem skipSpace_append (hw : Blank w) (s : List Char) : skipSpace (w ++ s) = skipSpace s :=
  List.dropWhile_append_of_pos fun _ hc ↦ hw.isSpace_of_mem hc

theorem skipSpace_eq (hw : Blank w) : skipSpace w = [] := by
  have h := hw.skipSpace_append []
  rwa [List.append_nil] at h

/-- Blanks end a number, like whatever ends one behind them. -/
theorem endsNumber_append (hw : Blank w) (hr : EndsNumber r) : EndsNumber (w ++ r) := by
  rcases w with - | ⟨c, w⟩
  · exact hr
  · refine endsNumber_cons.2 ?_
    rcases hw c List.mem_cons_self with rfl | rfl | rfl | rfl <;> decide

end Blank

/-! ### Steps of the walk -/

section Steps

variable {b : Bracket} {stack : List Bracket}

theorem skipValue_eq (stack : List Bracket) (s : List Char) :
    skipValue stack s =
      match skipSpace s with
      | [] => failNext .endInValue []
      | c :: r =>
        if c = '[' then skipRest (.list :: stack) true r
        else if c = '\x7b' then skipRest (.object :: stack) true r
        else
          match skipScalar (c :: r) with
          | .error e => .error e
          | .ok r => skipRest stack false r := by
  rw [skipValue]
  split
  next h => simp only [h]
  next h =>
    simp only [h]
    split
    · rfl
    split
    · rfl
    · split <;> simp_all

theorem skipRest_eq (b : Bracket) (stack : List Bracket) (fresh : Bool) (s : List Char) :
    skipRest (b :: stack) fresh s =
      match skipSpace s with
      | [] => failNext b.ended []
      | c :: r =>
        if c = b.closing then skipRest stack false r
        else if c = ',' && !fresh then
          match skipToValue b r with
          | .error e => .error e
          | .ok r => skipValue (b :: stack) r
        else if fresh then
          match skipToValue b (c :: r) with
          | .error e => .error e
          | .ok r => skipValue (b :: stack) r
        else failNext b.unclosed (c :: r) := by
  rw [skipRest]
  split
  next h => simp only [h]
  next h =>
    simp only [h]
    split
    · rfl
    split
    · split <;> simp_all
    split
    · split <;> simp_all
    · rfl

theorem skipValue_cons (hc : isSpace c = false) :
    skipValue stack (c :: s) =
      if c = '[' then skipRest (.list :: stack) true s
      else if c = '\x7b' then skipRest (.object :: stack) true s
      else
        match skipScalar (c :: s) with
        | .error e => .error e
        | .ok r => skipRest stack false r := by
  rw [skipValue_eq, skipSpace_cons hc]

theorem Blank.skipValue_append (hw : Blank w) (s : List Char) :
    skipValue stack (w ++ s) = skipValue stack s := by
  rw [skipValue_eq, hw.skipSpace_append, ← skipValue_eq]

theorem Blank.skipRest_append (hw : Blank w) (fresh : Bool) (s : List Char) :
    skipRest (b :: stack) fresh (w ++ s) = skipRest (b :: stack) fresh s := by
  rw [skipRest_eq, hw.skipSpace_append, ← skipRest_eq]

theorem skipRest_closing (fresh : Bool) (s : List Char) :
    skipRest (b :: stack) fresh (b.closing :: s) = skipRest stack false s := by
  have hspace : isSpace b.closing = false := by cases b <;> decide
  rw [skipRest_eq, skipSpace_cons hspace]
  exact if_pos rfl

theorem skipRest_fresh (hc : isSpace c = false) (hclosing : c ≠ b.closing)
    (h : skipToValue b (c :: s) = .ok r) :
    skipRest (b :: stack) true (c :: s) = skipValue (b :: stack) r := by
  rw [skipRest_eq, skipSpace_cons hc]
  simp [hclosing, h]

theorem skipRest_comma (h : skipToValue b s = .ok r) :
    skipRest (b :: stack) false (',' :: s) = skipValue (b :: stack) r := by
  have hclosing : ',' ≠ b.closing := by cases b <;> decide
  rw [skipRest_eq, skipSpace_cons rfl]
  simp [hclosing, h]

/-- Behind a separator the walk goes on to the next value, if it finds the way there from the
blanks at the end of the separator. -/
theorem Separator.skipRest_append {first : Bool} (hs : Separator first s) (hc : isSpace c = false)
    (hclosing : c ≠ b.closing)
    (h : ∀ w, Blank w → ∃ r', skipToValue b (w ++ c :: t) = .ok r' ∧
      skipValue (b :: stack) r' = skipValue (b :: stack) r) :
    skipRest (b :: stack) first (s ++ c :: t) = skipValue (b :: stack) r := by
  cases hs with
  | first hw =>
    obtain ⟨r', hr', hvalue⟩ := h [] blank_nil
    rw [hw.skipRest_append, skipRest_fresh hc hclosing hr', hvalue]
  | comma hw hw' =>
    obtain ⟨r', hr', hvalue⟩ := h _ hw'
    rw [List.append_assoc, hw.skipRest_append, List.cons_append, skipRest_comma hr', hvalue]

end Steps

/-! ### Names -/

theorem Blank.skipColon_append (hw : Blank w) (s : List Char) :
    skipColon (w ++ ':' :: s) = .ok s := by
  rw [skipColon, hw.skipSpace_append, skipSpace_cons rfl]
  rfl

/-- A name is passed over together with its colon. -/
theorem SpellsString.skipName_append {name : String} {n w' : List Char}
    (hn : SpellsString name n) (hw : Blank w) (hw' : Blank w') (s : List Char) :
    skipName (w ++ (n ++ (w' ++ ':' :: s))) = .ok s := by
  obtain ⟨hn⟩ := hn
  rw [skipName, hw.skipSpace_append, List.cons_append, List.append_assoc, skipSpace_cons rfl]
  simp [hn.skipString_append, hw'.skipColon_append]

/-! ### The walk -/

theorem ne_of_number (h : c = '-' ∨ isDigit c = true) :
    isSpace c = false ∧ c ≠ '[' ∧ c ≠ '\x7b' ∧ c ≠ ']' := by
  have hne {d : Char} (hd : (d == '-' || isDigit d) = false) : c ≠ d := by
    rintro rfl
    rcases h with rfl | h
    · cases hd
    · simp [h] at hd
  refine ⟨?_, hne rfl, hne rfl, hne rfl⟩
  simp [isSpace, hne (d := ' ') rfl, hne (d := '\n') rfl, hne (d := '\t') rfl, hne (d := '\r') rfl]

theorem SpellsString.exists_cons {name : String} {n : List Char} (h : SpellsString name n) :
    ∃ n', n = '"' :: n' := by
  obtain ⟨-⟩ := h
  exact ⟨_, rfl⟩

/-- A text of a value begins with none of the characters that stand between values. -/
theorem Spells.exists_cons {v : Datum} (h : Spells v t) :
    ∃ c s, t = c :: s ∧ isSpace c = false ∧ c ≠ ']' := by
  cases h with
  | number h =>
    obtain ⟨c, s, rfl, hc⟩ := h.exists_cons
    obtain ⟨hspace, -, -, hclosing⟩ := ne_of_number hc
    exact ⟨c, s, rfl, hspace, hclosing⟩
  | string h =>
    obtain ⟨n, rfl⟩ := h.exists_cons
    exact ⟨_, n, rfl, by decide, by decide⟩
  | _ => exact ⟨_, _, rfl, by decide, by decide⟩

theorem SpellsItems.endsNumber_append {vs : List Datum} (h : SpellsItems false vs t)
    (r : List Char) : EndsNumber (t ++ r) := by
  cases h with
  | nil hw =>
    rw [List.append_assoc]
    exact hw.endsNumber_append (endsNumber_cons.2 (by decide))
  | cons hs _ _ =>
    cases hs with
    | comma hw _ =>
      simp only [List.append_assoc]
      exact hw.endsNumber_append (endsNumber_cons.2 (by decide))

theorem SpellsMembers.endsNumber_append {ms : List (String × Datum)} (h : SpellsMembers false ms t)
    (r : List Char) : EndsNumber (t ++ r) := by
  cases h with
  | nil hw =>
    rw [List.append_assoc]
    exact hw.endsNumber_append (endsNumber_cons.2 (by decide))
  | cons hs _ _ _ _ _ =>
    cases hs with
    | comma hw _ =>
      simp only [List.append_assoc]
      exact hw.endsNumber_append (endsNumber_cons.2 (by decide))

mutual

/-- A value is passed over, and what stands behind it is left to the innermost open bracket. -/
theorem Spells.skipValue_append : ∀ {v : Datum} {t : List Char}, Spells v t →
    ∀ {stack : List Bracket} {r : List Char}, EndsNumber r →
      skipValue stack (t ++ r) = skipRest stack false r
  | .null, _, .null, _, _, _ => by simp [skipValue_cons, skipScalar, readIdent, isSpace]
  | .bool true, _, .truth, _, _, _ => by simp [skipValue_cons, skipScalar, readIdent, isSpace]
  | .bool false, _, .falsity, _, _, _ => by simp [skipValue_cons, skipScalar, readIdent, isSpace]
  | .number _, _, .number h, stack, r, hr => by
    have hscalar := h.skipScalar_append hr
    obtain ⟨c, s, rfl, hc⟩ := h.exists_cons
    obtain ⟨hspace, harray, hobject, -⟩ := ne_of_number hc
    rw [List.cons_append] at hscalar ⊢
    rw [skipValue_cons hspace, if_neg harray, if_neg hobject, hscalar]
  | .string _, _, .string h, stack, r, _ => by
    obtain ⟨h⟩ := h
    rw [List.cons_append, List.append_assoc, skipValue_cons rfl]
    simp [skipScalar, isDigit, h.skipString_append]
  | .array vs, _, .array h, stack, r, _ => by
    rw [List.cons_append, skipValue_cons rfl, if_pos rfl]
    exact h.skipRest_append
  | .object ms, _, .object h, stack, r, _ => by
    rw [List.cons_append, skipValue_cons rfl, if_neg (by decide), if_pos rfl]
    exact h.skipRest_append

/-- Items are passed over up to the bracket that closes their array. -/
theorem SpellsItems.skipRest_append : ∀ {vs : List Datum} {first : Bool} {t : List Char},
    SpellsItems first vs t → ∀ {stack : List Bracket} {r : List Char},
      skipRest (.list :: stack) first (t ++ r) = skipRest stack false r
  | [], first, _, .nil hw, stack, r => by
    rw [List.append_assoc, hw.skipRest_append]
    exact skipRest_closing first r
  | v :: vs, first, _, @SpellsItems.cons _ _ _ s t u hs hv hvs, stack, r => by
    obtain ⟨c, t', rfl, hc, hclosing⟩ := hv.exists_cons
    calc skipRest (.list :: stack) first (s ++ (c :: t' ++ u) ++ r)
        = skipValue (.list :: stack) (c :: t' ++ (u ++ r)) := by
          rw [List.append_assoc, List.append_assoc, List.cons_append]
          exact hs.skipRest_append hc hclosing fun w hw ↦ ⟨_, rfl, hw.skipValue_append _⟩
      _ = skipRest (.list :: stack) false (u ++ r) := hv.skipValue_append (hvs.endsNumber_append r)
      _ = skipRest stack false r := hvs.skipRest_append

/-- Members are passed over up to the brace that closes their object. -/
theorem SpellsMembers.skipRest_append : ∀ {ms : List (String × Datum)} {first : Bool}
    {t : List Char}, SpellsMembers first ms t → ∀ {stack : List Bracket} {r : List Char},
      skipRest (.object :: stack) first (t ++ r) = skipRest stack false r
  | [], first, _, .nil hw, stack, r => by
    rw [List.append_assoc, hw.skipRest_append]
    exact skipRest_closing first r
  | (name, v) :: ms, first, _, @SpellsMembers.cons _ _ _ _ s n w w' t u hs hn hw hw' hv hms,
      stack, r => by
    have hname (w₀ : List Char) (hw₀ : Blank w₀) :=
      hn.skipName_append hw₀ hw (w' ++ (t ++ (u ++ r)))
    obtain ⟨n', rfl⟩ := hn.exists_cons
    calc skipRest (.object :: stack) first
          (s ++ ('"' :: n' ++ (w ++ ':' :: (w' ++ (t ++ u)))) ++ r)
        = skipValue (.object :: stack) (t ++ (u ++ r)) := by
          simp only [List.append_assoc, List.cons_append] at hname ⊢
          exact hs.skipRest_append rfl (by decide) fun w₀ hw₀ ↦
            ⟨_, hname w₀ hw₀, hw'.skipValue_append _⟩
      _ = skipRest (.object :: stack) false (u ++ r) :=
          hv.skipValue_append (hms.endsNumber_append r)
      _ = skipRest stack false r := hms.skipRest_append

end

end TextHistory.Json
