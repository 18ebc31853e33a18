/-!
# Lines

A text is cut at its line feeds: `splitLines` gives the stretches between them. There is always
one more of them than there are line feeds, so the empty text has one line, and a text that ends
in a line feed has an empty last line.

Cutting and joining undo each other: joining the lines of a text gives the text back
(`joinLines_splitLines`), and lines that hold no line feeds are the lines of what they join to
(`splitLines_joinLines`). So a text and its lines say the same.
-/

namespace TextHistory

/-- Puts a character at the front of the first line. -/
def consFirst (c : Char) : List (List Char) → List (List Char)
  | [] => [[c]]
  | l :: ls => (c :: l) :: ls

/-- The lines of a text, without their ends. -/
def splitLines : List Char → List (List Char)
  | [] => [[]]
  | c :: cs => if c = '\n' then [] :: splitLines cs else consFirst c (splitLines cs)

/-- The text of some lines, with a line feed between each two. -/
def joinLines : List (List Char) → List Char
  | [] => []
  | [l] => l
  | l :: ls => l ++ '\n' :: joinLines ls

/-- The offsets at which lines begin, given the offset of the first. -/
def startsFrom (offset : Nat) : List (List Char) → List Nat
  | [] => []
  | l :: ls => offset :: startsFrom (offset + l.length + 1) ls

@[simp] theorem length_startsFrom (offset : Nat) (ls : List (List Char)) :
    (startsFrom offset ls).length = ls.length := by
  induction ls generalizing offset with
  | nil => rfl
  | cons l ls ih => rw [startsFrom, List.length_cons, ih, List.length_cons]

/-! ### Cutting -/

@[simp] theorem splitLines_nil : splitLines [] = [[]] := rfl

@[simp] theorem splitLines_newline (cs : List Char) :
    splitLines ('\n' :: cs) = [] :: splitLines cs := rfl

theorem splitLines_cons {c : Char} (hc : c ≠ '\n') (cs : List Char) :
    splitLines (c :: cs) = consFirst c (splitLines cs) := if_neg hc

theorem splitLines_ne_nil (cs : List Char) : splitLines cs ≠ [] := by
  cases cs with
  | nil => exact List.cons_ne_nil _ _
  | cons c cs =>
    rw [splitLines]
    split
    · exact List.cons_ne_nil _ _
    · cases splitLines cs <;> exact List.cons_ne_nil _ _

/-- A text has a first line. -/
theorem exists_splitLines_eq_cons (cs : List Char) : ∃ l ls, splitLines cs = l :: ls :=
  List.exists_cons_of_ne_nil (splitLines_ne_nil cs)

/-- There is one line more than there are line feeds. -/
theorem length_splitLines (cs : List Char) : (splitLines cs).length = cs.count '\n' + 1 := by
  induction cs with
  | nil => rfl
  | cons c cs ih =>
    by_cases hc : c = '\n'
    · subst hc
      rw [splitLines_newline, List.length_cons, ih, List.count_cons_self]
    · obtain ⟨l, ls, hl⟩ := exists_splitLines_eq_cons cs
      rw [splitLines_cons hc, List.count_cons_of_ne hc, ← ih, hl]
      rfl

/-- No line holds a line feed. -/
theorem newline_not_mem_of_mem_splitLines {cs l : List Char} (h : l ∈ splitLines cs) :
    '\n' ∉ l := by
  induction cs generalizing l with
  | nil =>
    rw [splitLines_nil, List.mem_singleton] at h
    exact h ▸ List.not_mem_nil
  | cons c cs ih =>
    by_cases hc : c = '\n'
    · subst hc
      rcases List.mem_cons.1 h with rfl | h
      · exact List.not_mem_nil
      · exact ih h
    · obtain ⟨k, ks, hk⟩ := exists_splitLines_eq_cons cs
      rw [splitLines_cons hc, hk] at h
      rcases List.mem_cons.1 h with rfl | h
      · intro hmem
        rcases List.mem_cons.1 hmem with hmem | hmem
        · exact hc hmem.symm
        · exact ih (hk ▸ List.mem_cons_self) hmem
      · exact ih (hk ▸ List.mem_cons_of_mem _ h)

/-- A text cut at one of its line feeds is cut on both sides of it. -/
theorem splitLines_append_newline (cs ds : List Char) :
    splitLines (cs ++ '\n' :: ds) = splitLines cs ++ splitLines ds := by
  induction cs with
  | nil => rfl
  | cons c cs ih =>
    by_cases hc : c = '\n'
    · subst hc
      rw [List.cons_append, splitLines_newline, splitLines_newline, ih, List.cons_append]
    · obtain ⟨l, ls, hl⟩ := exists_splitLines_eq_cons cs
      rw [List.cons_append, splitLines_cons hc, splitLines_cons hc, ih, hl]
      rfl

/-- A text without line feeds is its only line. -/
theorem splitLines_of_not_mem {cs : List Char} (h : '\n' ∉ cs) : splitLines cs = [cs] := by
  induction cs with
  | nil => rfl
  | cons c cs ih =>
    have hc : c ≠ '\n' := fun heq ↦ h (heq ▸ List.mem_cons_self)
    rw [splitLines_cons hc, ih fun hmem ↦ h (List.mem_cons_of_mem _ hmem)]
    rfl

/-! ### Joining -/

theorem joinLines_cons (l : List Char) {ls : List (List Char)} (h : ls ≠ []) :
    joinLines (l :: ls) = l ++ '\n' :: joinLines ls := by
  cases ls with
  | nil => exact absurd rfl h
  | cons k ks => rfl

theorem joinLines_consFirst (c : Char) (ls : List (List Char)) :
    joinLines (consFirst c ls) = c :: joinLines ls := by
  match ls with
  | [] => rfl
  | [_] => rfl
  | _ :: _ :: _ => rfl

/-- Joining the lines of a text gives the text back. -/
@[simp] theorem joinLines_splitLines (cs : List Char) : joinLines (splitLines cs) = cs := by
  induction cs with
  | nil => rfl
  | cons c cs ih =>
    by_cases hc : c = '\n'
    · subst hc
      rw [splitLines_newline, joinLines_cons _ (splitLines_ne_nil cs), ih, List.nil_append]
    · rw [splitLines_cons hc, joinLines_consFirst, ih]

/-- Lines without line feeds are the lines of the text that they join to. -/
theorem splitLines_joinLines {ls : List (List Char)} (hne : ls ≠ [])
    (h : ∀ l ∈ ls, '\n' ∉ l) : splitLines (joinLines ls) = ls := by
  induction ls with
  | nil => exact absurd rfl hne
  | cons l ls ih =>
    have hl := h l List.mem_cons_self
    by_cases hls : ls = []
    · subst hls
      exact splitLines_of_not_mem hl
    · rw [joinLines_cons l hls, splitLines_append_newline, splitLines_of_not_mem hl,
        ih hls fun k hk ↦ h k (List.mem_cons_of_mem _ hk)]
      rfl

/-- Texts with the same lines are the same. -/
theorem splitLines_inj {cs ds : List Char} : splitLines cs = splitLines ds ↔ cs = ds :=
  ⟨fun h ↦ by rw [← joinLines_splitLines cs, h, joinLines_splitLines], fun h ↦ h ▸ rfl⟩

end TextHistory
