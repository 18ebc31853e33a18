import TextHistory.Proofs.Document.LineIndex
import TextHistory.Proofs.Words

/-!
# What is counted in a document

The numbers of lines, characters and words are counted in three places. Lines are counted in the
index, and characters and words in the text. They agree with each other, and with what is asked line
by line. The lengths of the lines, together with a line feed between each two, are the length of the
text (`length_joinLines_add_one`); and since a line feed is blank, the words of the lines are the
words of the text.

A word is a maximal run of characters that are not blank, and this is meant of the whole text. That
it can be looked for in each line on its own is what has to be shown.
-/

namespace TextHistory

/-- Lines are joined by one line feed fewer than there are lines. -/
theorem length_joinLines_add_one {ls : List (List Char)} (hne : ls ≠ []) :
    (joinLines ls).length + 1 = (ls.map List.length).sum + ls.length := by
  induction ls with
  | nil => exact absurd rfl hne
  | cons l ls ih =>
    cases ls with
    | nil => simp [joinLines]
    | cons k ks =>
      have hrest := ih (List.cons_ne_nil k ks)
      rw [joinLines_cons l (List.cons_ne_nil k ks), List.length_append, List.length_cons,
        List.map_cons, List.sum_cons, List.length_cons]
      omega

/-- A computation made for each element of a list goes through if each of them does. -/
theorem mapM_eq_ok {ε α β : Type} {f : α → Except ε β} {g : α → β} {xs : List α}
    (h : ∀ x ∈ xs, f x = .ok (g x)) : xs.mapM f = .ok (xs.map g) := by
  induction xs with
  | nil => rfl
  | cons x xs ih =>
    obtain ⟨hx, hxs⟩ := List.forall_mem_cons.1 h
    rw [List.mapM_cons, hx, ih hxs]
    rfl

namespace Document

variable {d : Document}

namespace WellFormed

/-- The lengths of the lines, asked for one by one, are those of their texts. -/
theorem mapM_lineLength (h : d.WellFormed) :
    (List.range d.lineCount).mapM d.lineLength =
      .ok ((splitLines d.buffer.toList).map List.length) := by
  have hall : ∀ i ∈ List.range d.lineCount, d.lineLength i = .ok (d.lineExtent i) := fun i hi ↦
    if_pos (List.mem_range.1 hi)
  rw [mapM_eq_ok hall]
  refine congrArg Except.ok (List.ext_getElem ?_ fun i hi hi' ↦ ?_)
  · rw [List.length_map, List.length_range, List.length_map, h.length_lines]
  · rw [List.length_map] at hi'
    rw [List.getElem_map, List.getElem_map, List.getElem_range,
      h.lineExtent_eq (List.getElem?_eq_getElem hi')]

/-- The words of the text are those of the lines. -/
theorem words_content (h : d.WellFormed) :
    words d.content.toList = d.lines.toList.flatMap fun l ↦ words l.toList := by
  rw [toList_content, ← joinLines_splitLines d.buffer.toList, words_joinLines,
    ← h.map_toList_lines, List.flatMap_map]

end WellFormed

/-- **The statistics agree with the lines.** Of every document that can be made, they tell as many
lines as there are, and as many characters as the text has, which are those of the lines and a line
feed between each two. They tell as many words as the text has maximal runs of characters that are
not blank, and these are as many as the lines have, each taken on its own. There are none exactly if
all of the text is blank. -/
theorem stats_of_reachable (h : d.Reachable) :
    let cs := d.content.toList
    d.stats.lines = d.lineCount ∧
      d.stats.characters = d.length ∧
      (∃ lengths, (List.range d.lineCount).mapM d.lineLength = .ok lengths ∧
        d.length + 1 = lengths.sum + d.lineCount) ∧
      (∃ runs, IsWords cs runs (words cs) ∧ d.stats.words = runs.length) ∧
      d.stats.words = (d.lines.toList.map fun l ↦ (words l.toList).length).sum ∧
      (d.stats.words = 0 ↔ ∀ c ∈ cs, isBlank c = true) := by
  intro cs
  have hd := h.wellFormed
  have hlength : d.stats.characters = d.length := by
    show d.content.length = d.length
    rw [← String.length_toList, toList_content, hd.length_toList]
  have hsum : d.length + 1 = ((splitLines d.buffer.toList).map List.length).sum + d.lineCount := by
    rw [← hd.length_lines, ← length_joinLines_add_one (splitLines_ne_nil _), joinLines_splitLines,
      hd.length_toList]
  obtain ⟨runs, hruns⟩ := exists_isWords cs
  have hcount : (words cs).length = runs.length := by rw [hruns.texts, List.length_map]
  have hlines : (words cs).length = (d.lines.toList.map fun l ↦ (words l.toList).length).sum := by
    rw [hd.words_content, List.length_flatMap]
  refine ⟨rfl, hlength, ⟨_, hd.mapM_lineLength, hsum⟩, ⟨runs, hruns, hcount⟩, hlines, ?_⟩
  show (words cs).length = 0 ↔ _
  rw [List.length_eq_zero_iff, words_eq_nil_iff]

/-- Words at both ends of lines, a line of one wide blank, and a line that begins with a blank. -/
theorem stats_of_reachable_blanks :
    let d := (ofString "a b\n\u3000\n" 0).run
      [.insert ⟨2, 0⟩ "\u0085c\nd", .delete ⟨⟨9, 0⟩, ⟨0, 0⟩⟩]
    let cs := d.content.toList
    d.Reachable ∧ d.stats = ⟨4, 10, 4⟩ ∧ d.lines = #["a b", "\u3000", "\u0085c", "d"] ∧
      (∃ lengths, (List.range d.lineCount).mapM d.lineLength = .ok lengths ∧
        d.length + 1 = lengths.sum + d.lineCount) ∧
      ∃ runs, IsWords cs runs (words cs) ∧ d.stats.words = runs.length := by
  intro d cs
  have hd : d.Reachable := (Reachable.ofString _ _).run _
  obtain ⟨-, -, hlengths, hruns, -, -⟩ := stats_of_reachable hd
  exact ⟨hd, by decide +kernel, by decide +kernel, hlengths, hruns⟩

end Document

end TextHistory
