import TextHistory.Unicode.Blank

/-!
# Words

A word is a maximal run of characters that are not blank. `words` lists the words of a text in
order; blanks at either end, and runs of blanks, make no words of their own.
-/

namespace TextHistory

/-- Whether a character separates words. -/
def isBlank (c : Char) : Bool := CharSet.blank.contains c

/-- What follows the first word of a text is shorter than the text. -/
theorem length_afterWord {cs rest : List Char} {c : Char}
    (h : cs.dropWhile isBlank = c :: rest) :
    (rest.dropWhile (!isBlank ·)).length < cs.length := by
  have h₁ := (List.dropWhile_sublist isBlank (l := cs)).length_le
  have h₂ := (List.dropWhile_sublist (!isBlank ·) (l := rest)).length_le
  rw [h, List.length_cons] at h₁
  omega

/-- The words of a text, in order. -/
def words (cs : List Char) : List (List Char) :=
  match h : cs.dropWhile isBlank with
  | [] => []
  | c :: rest =>
    have := length_afterWord h
    (c :: rest.takeWhile (!isBlank ·)) :: words (rest.dropWhile (!isBlank ·))
termination_by cs.length
decreasing_by assumption

end TextHistory
