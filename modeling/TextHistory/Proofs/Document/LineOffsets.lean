import TextHistory.Lines

/-!
# Where lines begin

`offsetOfLine ls i` is the number of characters before line `i` of the text that the lines `ls` join
to: the lines before it, and the line feed behind each of them. Scanning for starts finds these
offsets (`getElem?_startsFrom`), and the offset behind the last line is one past the end of the text
(`offsetOfLine_length`), since no line feed follows the last line.

A text cut somewhere in a line is cut into texts whose lines are known: the lines before that one
and what stands left of the cut (`splitLines_take`), and what stands right of it and the lines
behind (`splitLines_drop`). So the line that an offset lies in is the number of line feeds before
the offset (`count_take_offsetOfLine`). Two texts set one behind the other have the lines of both,
except that the last line of the first goes on with the first line of the second
(`splitLines_append`). So whatever is set at an end of a text is cut into lines together with the
line at that end, and the other lines stay (`splitLines_append_left`, `splitLines_append_right`).

The last part is about any list of starts in ascending order. Counting the starts up to an offset
tells, for each start, on which side of the offset it lies (`lt_countP_iff`).
-/

namespace TextHistory

/-- The number of characters before a line, line ends included. -/
def offsetOfLine : List (List Char) → Nat → Nat
  | _, 0 => 0
  | [], _ + 1 => 0
  | l :: ls, i + 1 => l.length + 1 + offsetOfLine ls i

variable {ls : List (List Char)} {l : List Char} {i j c : Nat}

@[simp] theorem offsetOfLine_zero (ls : List (List Char)) : offsetOfLine ls 0 = 0 := by
  cases ls <;> rfl

@[simp] theorem offsetOfLine_cons_succ (l : List Char) (ls : List (List Char)) (i : Nat) :
    offsetOfLine (l :: ls) (i + 1) = l.length + 1 + offsetOfLine ls i := rfl

/-- The next line begins behind the line feed that ends this one. -/
theorem offsetOfLine_succ (hl : ls[i]? = some l) :
    offsetOfLine ls (i + 1) = offsetOfLine ls i + l.length + 1 := by
  induction i generalizing ls with
  | zero =>
    cases ls with
    | nil => exact absurd hl (by simp)
    | cons k ks =>
      obtain rfl : k = l := by simpa using hl
      simp
  | succ i ih =>
    cases ls with
    | nil => exact absurd hl (by simp)
    | cons k ks =>
      rw [offsetOfLine_cons_succ, offsetOfLine_cons_succ, ih (by simpa using hl)]
      omega

/-- Later lines begin later. -/
theorem offsetOfLine_mono (hij : i ≤ j) : offsetOfLine ls i ≤ offsetOfLine ls j := by
  induction i generalizing ls j with
  | zero => simp
  | succ i ih =>
    obtain ⟨j, rfl⟩ := Nat.exists_eq_add_of_lt hij
    cases ls with
    | nil => exact Nat.le_refl 0
    | cons k ks =>
      have hle : offsetOfLine ks i ≤ offsetOfLine ks _ := ih (Nat.le_of_succ_le_succ hij)
      rw [offsetOfLine_cons_succ, offsetOfLine_cons_succ]
      omega

/-- Scanning for starts finds where the lines begin. -/
theorem getElem?_startsFrom (offset : Nat) (hi : i < ls.length) :
    (startsFrom offset ls)[i]? = some (offset + offsetOfLine ls i) := by
  induction ls generalizing offset i with
  | nil => exact absurd hi (Nat.not_lt_zero i)
  | cons l ls ih =>
    cases i with
    | zero => rfl
    | succ i =>
      rw [startsFrom, List.getElem?_cons_succ, ih _ (Nat.lt_of_succ_lt_succ hi),
        offsetOfLine_cons_succ]
      congr 1
      omega

/-- Starts are found in ascending order. -/
theorem ascending_startsFrom (offset : Nat) (ls : List (List Char)) :
    (startsFrom offset ls).Pairwise (· < ·) := by
  refine List.pairwise_iff_getElem.2 fun i j hi hj hij ↦ ?_
  rw [length_startsFrom] at hi hj
  have hstart := List.getElem?_eq_some_iff.1 (getElem?_startsFrom offset hi)
  have hstart' := List.getElem?_eq_some_iff.1 (getElem?_startsFrom offset hj)
  have hsucc := offsetOfLine_succ (List.getElem?_eq_getElem hi)
  have hmono : offsetOfLine ls (i + 1) ≤ offsetOfLine ls j := offsetOfLine_mono hij
  rw [hstart.2, hstart'.2]
  omega

/-- Behind the last line the text has ended, and no line feed follows it. -/
theorem offsetOfLine_length (hne : ls ≠ []) :
    offsetOfLine ls ls.length = (joinLines ls).length + 1 := by
  induction ls with
  | nil => exact absurd rfl hne
  | cons l ls ih =>
    rw [List.length_cons, offsetOfLine_cons_succ]
    by_cases hls : ls = []
    · subst hls
      rfl
    · rw [ih hls, joinLines_cons l hls, List.length_append, List.length_cons]
      omega

/-- **Cutting a text** in a line leaves the lines before it, and what stands left of the cut. -/
theorem take_joinLines (hl : ls[i]? = some l) (hc : c ≤ l.length) :
    (joinLines ls).take (offsetOfLine ls i + c) = joinLines (ls.take i ++ [l.take c]) := by
  induction i generalizing ls with
  | zero =>
    cases ls with
    | nil => exact absurd hl (by simp)
    | cons k ks =>
      obtain rfl : k = l := by simpa using hl
      show (joinLines (k :: ks)).take (offsetOfLine (k :: ks) 0 + c) = k.take c
      rw [offsetOfLine_zero, Nat.zero_add]
      by_cases hks : ks = []
      · subst hks
        rfl
      · rw [joinLines_cons k hks, List.take_append_of_le_length hc]
  | succ i ih =>
    cases ls with
    | nil => exact absurd hl (by simp)
    | cons k ks =>
      have hks : ks ≠ [] := by
        rintro rfl
        exact absurd hl (by simp)
      have hoffset : offsetOfLine (k :: ks) (i + 1) + c =
          k.length + (offsetOfLine ks i + c + 1) := by
        rw [offsetOfLine_cons_succ]
        omega
      rw [joinLines_cons k hks, hoffset, List.take_length_add_append, List.take_succ_cons,
        ih (by simpa using hl), List.take_succ_cons, List.cons_append, joinLines_cons k (by simp)]

/-- The lines of what stands left of a cut. -/
theorem splitLines_take {cs : List Char} (hl : (splitLines cs)[i]? = some l) (hc : c ≤ l.length) :
    splitLines (cs.take (offsetOfLine (splitLines cs) i + c)) =
      (splitLines cs).take i ++ [l.take c] := by
  have htake := take_joinLines hl hc
  rw [joinLines_splitLines] at htake
  rw [htake]
  refine splitLines_joinLines (by simp) fun k hk ↦ ?_
  rcases List.mem_append.1 hk with hk | hk
  · exact newline_not_mem_of_mem_splitLines (List.mem_of_mem_take hk)
  · obtain rfl := List.mem_singleton.1 hk
    intro hmem
    exact newline_not_mem_of_mem_splitLines (List.mem_of_getElem? hl) (List.mem_of_mem_take hmem)

/-- **The line of an offset** is the number of line feeds before the offset. -/
theorem count_take_offsetOfLine {cs : List Char} (hl : (splitLines cs)[i]? = some l)
    (hc : c ≤ l.length) : (cs.take (offsetOfLine (splitLines cs) i + c)).count '\n' = i := by
  have hi : i < (splitLines cs).length := (List.getElem?_eq_some_iff.1 hl).1
  have hlength := length_splitLines (cs.take (offsetOfLine (splitLines cs) i + c))
  rw [splitLines_take hl hc, List.length_append, List.length_take, List.length_singleton] at hlength
  omega

/-- Two texts set one behind the other: the last line of the first goes on with the first line of
the second. -/
theorem joinLines_append (ls : List (List Char)) (l k : List Char) (ks : List (List Char)) :
    joinLines (ls ++ [l]) ++ joinLines (k :: ks) = joinLines (ls ++ (l ++ k) :: ks) := by
  induction ls with
  | nil =>
    by_cases hks : ks = []
    · subst hks
      rfl
    · rw [List.nil_append, List.nil_append, joinLines_cons k hks, joinLines_cons (l ++ k) hks,
        List.append_assoc]
      rfl
  | cons m ms ih =>
    rw [List.cons_append, List.cons_append, joinLines_cons m (by simp), joinLines_cons m (by simp),
      ← ih, List.append_assoc, List.cons_append]

/-- **The lines of two texts** set one behind the other. Only where they meet is a line that neither
of them has. -/
theorem splitLines_append {cs ds : List Char} {ks : List (List Char)} {k : List Char}
    (hcs : splitLines cs = ls ++ [l]) (hds : splitLines ds = k :: ks) :
    splitLines (cs ++ ds) = ls ++ (l ++ k) :: ks := by
  have hjoin : cs ++ ds = joinLines (ls ++ (l ++ k) :: ks) := by
    rw [← joinLines_append, ← hcs, ← hds, joinLines_splitLines, joinLines_splitLines]
  have hnot : ∀ {es m}, m ∈ splitLines es → '\n' ∉ m := newline_not_mem_of_mem_splitLines
  rw [hjoin]
  refine splitLines_joinLines (by simp) fun m hm ↦ ?_
  rcases List.mem_append.1 hm with hm | hm
  · exact hnot (hcs ▸ List.mem_append_left _ hm)
  · rcases List.mem_cons.1 hm with rfl | hm
    · rw [List.mem_append, not_or]
      exact ⟨hnot (hcs ▸ List.mem_append_right _ (List.mem_singleton_self l)),
        hnot (hds ▸ List.mem_cons_self)⟩
    · exact hnot (hds ▸ List.mem_cons_of_mem _ hm)

/-- A text behind another one changes its last line only. -/
theorem splitLines_append_left {cs : List Char} (hcs : splitLines cs = ls ++ [l])
    (ds : List Char) : splitLines (cs ++ ds) = ls ++ splitLines (l ++ ds) := by
  obtain ⟨k, ks, hds⟩ := exists_splitLines_eq_cons ds
  have hmem : l ∈ splitLines cs := hcs ▸ List.mem_append_right _ (List.mem_singleton_self l)
  have hl : splitLines l = [] ++ [l] :=
    splitLines_of_not_mem (newline_not_mem_of_mem_splitLines hmem)
  rw [splitLines_append hcs hds, splitLines_append hl hds, List.nil_append]

/-- A text before another one changes its first line only. -/
theorem splitLines_append_right {ds k : List Char} {ks : List (List Char)}
    (hds : splitLines ds = k :: ks) (cs : List Char) :
    splitLines (cs ++ ds) = splitLines (cs ++ k) ++ ks := by
  have hcs := (List.dropLast_concat_getLast (splitLines_ne_nil cs)).symm
  have hmem : k ∈ splitLines ds := hds ▸ List.mem_cons_self
  have hk : splitLines k = [k] := splitLines_of_not_mem (newline_not_mem_of_mem_splitLines hmem)
  rw [splitLines_append hcs hds, splitLines_append hcs hk, List.append_assoc]
  rfl

/-- The lines of what stands right of a cut. -/
theorem splitLines_drop {cs : List Char} (hl : (splitLines cs)[i]? = some l) (hc : c ≤ l.length) :
    splitLines (cs.drop (offsetOfLine (splitLines cs) i + c)) =
      l.drop c :: (splitLines cs).drop (i + 1) := by
  obtain ⟨hi, hget⟩ := List.getElem?_eq_some_iff.1 hl
  obtain ⟨k, ks, hk⟩ := exists_splitLines_eq_cons (cs.drop (offsetOfLine (splitLines cs) i + c))
  have hwhole := splitLines_append (splitLines_take hl hc) hk
  rw [List.take_append_drop] at hwhole
  -- both sides of the cut make up the text, so its lines are known in two ways
  have hlines : (splitLines cs).take i ++ l :: (splitLines cs).drop (i + 1) =
      (splitLines cs).take i ++ (l.take c ++ k) :: ks := by
    calc (splitLines cs).take i ++ l :: (splitLines cs).drop (i + 1) = splitLines cs := by
          rw [← hget, List.getElem_cons_drop, List.take_append_drop]
      _ = (splitLines cs).take i ++ (l.take c ++ k) :: ks := hwhole
  obtain ⟨hfirst, hrest⟩ := List.cons_eq_cons.1 (List.append_cancel_left hlines)
  have hk' : l.drop c = k := by
    rw [hfirst, List.drop_left' (List.length_take_of_le hc)]
  rw [hk, hk', hrest]

/-- Where a line begins is known from the lines before it. -/
theorem offsetOfLine_take_append (hi : i ≤ ls.length) (ks : List (List Char)) :
    offsetOfLine (ls.take i ++ ks) i = offsetOfLine ls i := by
  induction i generalizing ls with
  | zero => simp
  | succ i ih =>
    cases ls with
    | nil => exact absurd hi (Nat.not_succ_le_zero i)
    | cons l ls =>
      rw [List.take_succ_cons, List.cons_append, offsetOfLine_cons_succ, offsetOfLine_cons_succ,
        ih (Nat.le_of_succ_le_succ hi)]

/-- Starts in ascending order: the ones up to an offset are the first ones. -/
theorem lt_countP_iff {starts : List Nat} (h : starts.Pairwise (· < ·)) {start offset : Nat}
    (hi : starts[i]? = some start) :
    i < starts.countP (fun s ↦ decide (s ≤ offset)) ↔ start ≤ offset := by
  induction starts generalizing i with
  | nil => exact absurd hi (by simp)
  | cons s ss ih =>
    obtain ⟨hs, hss⟩ := List.pairwise_cons.1 h
    by_cases hle : s ≤ offset
    · rw [List.countP_cons_of_pos (by simpa using hle)]
      cases i with
      | zero =>
        obtain rfl : s = start := by simpa using hi
        simp [hle]
      | succ i => rw [Nat.add_lt_add_iff_right, ih hss (by simpa using hi)]
    · have hzero : (s :: ss).countP (fun s ↦ decide (s ≤ offset)) = 0 := by
        refine List.countP_eq_zero.2 fun a ha ↦ ?_
        rcases List.mem_cons.1 ha with rfl | ha
        · simpa using hle
        · have hlt := hs a ha
          simp only [decide_eq_true_eq]
          omega
      have hge : s ≤ start := by
        rcases List.mem_cons.1 (List.mem_of_getElem? hi) with rfl | hmem
        · exact Nat.le_refl _
        · exact Nat.le_of_lt (hs start hmem)
      rw [hzero]
      omega

end TextHistory
