import Mathlib.Data.List.Sort
import Mathlib.Data.List.TakeWhile
import TextHistory.Lines
import TextHistory.Words

/-!
# Words are maximal runs

A stretch of a text is a run if all its characters are part of words and neither of its neighbours
is (`IsRun`). Where the runs are is said by the text alone, without reading it in any order.

Reading from left to right finds them all, each once, and nothing else (`exists_isWords`). All that
is known of words follows from where they are. Two texts that are put together, one behind the
other, have the words of both, provided that no word goes on across the joint (`IsWords.append`);
and since runs can be listed from left to right in one way only, so has what is read
(`words_append`). Lines are joined by a blank, so no word is in two lines and none is lost: the
words of a text are those of its lines (`words_joinLines`).
-/

namespace TextHistory

/-- Whether the character at an offset is part of a word. There is none behind the end. -/
def inWord (cs : List Char) (i : Nat) : Bool := cs[i]?.any (!isBlank ·)

/-- The characters from offset `a` up to, not including, offset `b`. -/
def between (cs : List Char) (a b : Nat) : List Char := (cs.take b).drop a

/-- The characters from `a` up to `b` are a maximal run of characters that are not blank. -/
structure IsRun (cs : List Char) (a b : Nat) : Prop where
  /-- There are some, -/
  lt : a < b
  /-- and none of them is blank. -/
  all : ∀ i, a ≤ i → i < b → inWord cs i = true
  /-- The run does not go on to the left, -/
  left : ∀ i, i + 1 = a → inWord cs i = false
  /-- nor to the right. -/
  right : inWord cs b = false

/-- The texts `ws` are those of all maximal runs, at the places `rs`, from left to right. -/
structure IsWords (cs : List Char) (rs : List (Nat × Nat)) (ws : List (List Char)) : Prop where
  /-- Every run is listed, and nothing else. -/
  mem_iff : ∀ a b, (a, b) ∈ rs ↔ IsRun cs a b
  /-- Each is listed once, behind those that begin before it. -/
  ascending : rs.Pairwise fun r s ↦ r.1 < s.1
  /-- The texts are what stands there. -/
  texts : ws = rs.map fun r ↦ between cs r.1 r.2

variable {c : Char} {cs ds : List Char} {a b : Nat} {rs ss : List (Nat × Nat)}
  {vs ws : List (List Char)}

theorem inWord_of_length_le {i : Nat} (h : cs.length ≤ i) : inWord cs i = false := by
  rw [inWord, List.getElem?_eq_none h]
  rfl

theorem inWord_append (cs ds : List Char) (i : Nat) :
    inWord (cs ++ ds) i = if i < cs.length then inWord cs i else inWord ds (i - cs.length) := by
  rw [inWord, List.getElem?_append]
  split <;> rfl

theorem inWord_append_add (cs ds : List Char) (i : Nat) :
    inWord (cs ++ ds) (i + cs.length) = inWord ds i := by
  rw [inWord_append, if_neg (by omega), Nat.add_sub_cancel]

/-! ### Texts put together -/

/-- No word goes on from the end of one text to the beginning of another. -/
def Separate (cs ds : List Char) : Prop :=
  ∀ i, i + 1 = cs.length → inWord cs i = true → inWord ds 0 = false

namespace IsRun

theorem le_length (h : IsRun cs a b) : b ≤ cs.length := by
  by_contra hlt
  have hlast := h.all (b - 1) (by have := h.lt; omega) (by have := h.lt; omega)
  rw [inWord_of_length_le (by omega)] at hlast
  exact absurd hlast (by simp)

/-- A run that ends where the text ends is that of its last character. -/
theorem inWord_last (h : IsRun cs a cs.length) {i : Nat} (hi : i + 1 = cs.length) :
    inWord cs i = true :=
  h.all i (by have := h.lt; omega) (by omega)

/-- A run of the first text is one of both. -/
theorem append_right (h : IsRun cs a b) (hsep : Separate cs ds) : IsRun (cs ++ ds) a b where
  lt := h.lt
  all i ha hb := by
    have hle := h.le_length
    rw [inWord_append, if_pos (by omega)]
    exact h.all i ha hb
  left i hi := by
    have hle := h.le_length
    have hlt := h.lt
    rw [inWord_append, if_pos (by omega)]
    exact h.left i hi
  right := by
    rw [inWord_append]
    split
    · exact h.right
    · next hge =>
      -- the run ends where the first text ends
      obtain rfl : b = cs.length := Nat.le_antisymm h.le_length (Nat.le_of_not_lt hge)
      have hlast : cs.length - 1 + 1 = cs.length := by have := h.lt; omega
      rw [Nat.sub_self]
      exact hsep _ hlast (h.inWord_last hlast)

/-- A run of the second text is one of both, further to the right. -/
theorem append_left (h : IsRun ds a b) (hsep : Separate cs ds) :
    IsRun (cs ++ ds) (a + cs.length) (b + cs.length) where
  lt := Nat.add_lt_add_right h.lt _
  all i ha hb := by
    rw [inWord_append, if_neg (by omega)]
    exact h.all _ (by omega) (by omega)
  left i hi := by
    rw [inWord_append]
    split
    · -- before the run is the end of the first text
      rw [← Bool.not_eq_true]
      intro hlast
      have hfirst := h.all 0 (by omega) (by have := h.lt; omega)
      rw [hsep i (by omega) hlast] at hfirst
      exact absurd hfirst (by simp)
    · exact h.left _ (by omega)
  right := by
    rw [inWord_append_add]
    exact h.right

/-- A run of both texts is one of the first or one of the second. -/
theorem of_append (h : IsRun (cs ++ ds) a b) (hsep : Separate cs ds) :
    IsRun cs a b ∨ ∃ a' b', IsRun ds a' b' ∧ a = a' + cs.length ∧ b = b' + cs.length := by
  obtain ⟨hlt, hall, hleft, hright⟩ := h
  simp only [inWord_append] at hall hleft hright
  by_cases hb : b ≤ cs.length
  · refine Or.inl ⟨hlt, fun i hai hib ↦ ?_, fun i hi ↦ ?_, ?_⟩
    · have := hall i hai hib
      rwa [if_pos (by omega)] at this
    · have := hleft i hi
      rwa [if_pos (by omega)] at this
    · rcases Nat.lt_or_eq_of_le hb with hb | rfl
      · rwa [if_pos hb] at hright
      · exact inWord_of_length_le (Nat.le_refl _)
  · rw [if_neg (by omega)] at hright
    by_cases ha : cs.length ≤ a
    · refine Or.inr ⟨a - cs.length, b - cs.length, ⟨by omega, fun i hai hib ↦ ?_, fun i hi ↦ ?_,
        hright⟩, by omega, by omega⟩
      · have := hall (i + cs.length) (by omega) (by omega)
        rwa [if_neg (by omega), Nat.add_sub_cancel] at this
      · have := hleft (i + cs.length) (by omega)
        rwa [if_neg (by omega), Nat.add_sub_cancel] at this
    · -- it would go on across the joint
      have hlast := hall (cs.length - 1) (by omega) (by omega)
      have hfirst := hall cs.length (by omega) (by omega)
      rw [if_pos (by omega)] at hlast
      rw [if_neg (by omega), Nat.sub_self, hsep _ (by omega) hlast] at hfirst
      exact absurd hfirst (by simp)

end IsRun

theorem isRun_append_iff (hsep : Separate cs ds) :
    IsRun (cs ++ ds) a b ↔
      IsRun cs a b ∨ ∃ a' b', IsRun ds a' b' ∧ a = a' + cs.length ∧ b = b' + cs.length := by
  refine ⟨fun h ↦ h.of_append hsep, ?_⟩
  rintro (h | ⟨a', b', h, rfl, rfl⟩)
  · exact h.append_right hsep
  · exact h.append_left hsep

theorem between_append_of_le (hb : b ≤ cs.length) : between (cs ++ ds) a b = between cs a b := by
  rw [between, between, List.take_append_of_le_length hb]

theorem between_append_add (cs ds : List Char) (a b : Nat) :
    between (cs ++ ds) (a + cs.length) (b + cs.length) = between ds a b := by
  rw [between, Nat.add_comm b, List.take_length_add_append, Nat.add_comm a,
    List.drop_length_add_append, between]

namespace IsWords

/-- **Two texts put together** have the words of both. -/
theorem append (h : IsWords cs rs vs) (h' : IsWords ds ss ws) (hsep : Separate cs ds) :
    IsWords (cs ++ ds) (rs ++ ss.map fun s ↦ (s.1 + cs.length, s.2 + cs.length)) (vs ++ ws) where
  mem_iff a b := by
    rw [isRun_append_iff hsep, List.mem_append, h.mem_iff, List.mem_map]
    refine or_congr_right ⟨?_, ?_⟩
    · rintro ⟨⟨a', b'⟩, hs, heq⟩
      obtain ⟨rfl, rfl⟩ := Prod.mk.inj heq
      exact ⟨a', b', (h'.mem_iff a' b').1 hs, rfl, rfl⟩
    · rintro ⟨a', b', hrun, rfl, rfl⟩
      exact ⟨(a', b'), (h'.mem_iff a' b').2 hrun, rfl⟩
  ascending := by
    refine List.pairwise_append.2 ⟨h.ascending,
      List.pairwise_map.2 (h'.ascending.imp fun hlt ↦ Nat.add_lt_add_right hlt _),
      fun r hr s hs ↦ ?_⟩
    have hrun : IsRun cs r.1 r.2 := (h.mem_iff _ _).1 hr
    obtain ⟨s, -, rfl⟩ := List.mem_map.1 hs
    calc r.1 < r.2 := hrun.lt
      _ ≤ cs.length := hrun.le_length
      _ ≤ s.1 + cs.length := Nat.le_add_left _ _
  texts := by
    rw [List.map_append, List.map_map, h.texts, h'.texts]
    congr 1
    · refine List.map_congr_left fun r hr ↦ ?_
      rw [between_append_of_le ((h.mem_iff _ _).1 hr).le_length]
    · exact List.map_congr_left fun s _ ↦ (between_append_add cs ds s.1 s.2).symm

/-- Runs can be listed from left to right in one way only. -/
theorem unique (h : IsWords cs rs vs) (h' : IsWords cs ss ws) : rs = ss ∧ vs = ws := by
  have : Std.Irrefl fun r s : Nat × Nat ↦ r.1 < s.1 := ⟨fun _ ↦ Nat.lt_irrefl _⟩
  have : Std.Antisymm fun r s : Nat × Nat ↦ r.1 < s.1 :=
    ⟨fun _ _ hlt hgt ↦ absurd hlt (Nat.lt_asymm hgt)⟩
  have hplaces : rs = ss := h.ascending.eq_of_mem_iff h'.ascending fun r ↦
    (h.mem_iff r.1 r.2).trans (h'.mem_iff r.1 r.2).symm
  exact ⟨hplaces, by rw [h.texts, h'.texts, hplaces]⟩

end IsWords

/-! ### Reading -/

theorem inWord_eq_false (h : ∀ c ∈ cs, isBlank c = true) (i : Nat) : inWord cs i = false := by
  cases hc : cs[i]? with
  | none => rw [inWord, hc, Option.any_none]
  | some c => rw [inWord, hc, Option.any_some, h c (List.mem_of_getElem? hc), Bool.not_true]

theorem inWord_eq_true (h : ∀ c ∈ cs, isBlank c = false) {i : Nat} (hi : i < cs.length) :
    inWord cs i = true := by
  rw [inWord, List.getElem?_eq_getElem hi, Option.any_some, h _ (List.getElem_mem hi),
    Bool.not_false]

theorem separate_of_blank (h : ∀ c ∈ cs, isBlank c = true) (ds : List Char) : Separate cs ds :=
  fun i _ hi ↦ absurd hi (by rw [inWord_eq_false h]; simp)

theorem separate_of_head (cs : List Char) (h : ∀ c ∈ ds.head?, isBlank c = true) :
    Separate cs ds := by
  intro _ _ _
  rw [inWord, ← List.head?_eq_getElem?]
  cases hd : ds.head? with
  | none => rfl
  | some d => rw [Option.any_some, h d hd, Bool.not_true]

/-- There is no word among blanks. -/
theorem isWords_of_blank (h : ∀ c ∈ cs, isBlank c = true) : IsWords cs [] [] where
  mem_iff a b := by
    refine ⟨fun hmem ↦ absurd hmem List.not_mem_nil, fun hrun ↦ ?_⟩
    have hfirst := hrun.all a (Nat.le_refl _) hrun.lt
    rw [inWord_eq_false h] at hfirst
    exact absurd hfirst (by simp)
  ascending := .nil
  texts := rfl

/-- Characters that are not blank are one word. -/
theorem isWords_of_not_blank (hne : cs ≠ []) (h : ∀ c ∈ cs, isBlank c = false) :
    IsWords cs [(0, cs.length)] [cs] where
  mem_iff a b := by
    rw [List.mem_singleton, Prod.mk.injEq]
    constructor
    · rintro ⟨rfl, rfl⟩
      exact ⟨List.length_pos_iff.2 hne, fun i _ hi ↦ inWord_eq_true h hi,
        fun i hi ↦ absurd hi (Nat.succ_ne_zero i), inWord_of_length_le (Nat.le_refl _)⟩
    · intro hrun
      have hle := hrun.le_length
      have hlt := hrun.lt
      constructor
      · by_contra ha
        have hleft := hrun.left (a - 1) (by omega)
        rw [inWord_eq_true h (by omega)] at hleft
        exact absurd hleft (by simp)
      · by_contra hb
        have hright := hrun.right
        rw [inWord_eq_true h (by omega)] at hright
        exact absurd hright (by simp)
  ascending := List.pairwise_singleton _ _
  texts := by
    rw [List.map_singleton, between, List.take_length, List.drop_zero]

/-- **Words are maximal runs**, in order. -/
theorem exists_isWords (cs : List Char) : ∃ rs, IsWords cs rs (words cs) := by
  fun_induction words cs with
  | case1 cs h => exact ⟨[], isWords_of_blank (List.dropWhile_eq_nil_iff.1 h)⟩
  | case2 cs c rest h _ ih =>
    obtain ⟨rs, hrest⟩ := ih
    have hc : isBlank c = false := by
      have := List.head?_dropWhile_not isBlank cs
      rw [h] at this
      simpa using this
    have hblanks : ∀ d ∈ cs.takeWhile isBlank, isBlank d = true := fun d hd ↦
      List.mem_takeWhile_imp hd
    have hword : ∀ d ∈ c :: rest.takeWhile (!isBlank ·), isBlank d = false :=
      List.forall_mem_cons.2 ⟨hc, fun d hd ↦ by simpa using List.mem_takeWhile_imp hd⟩
    have hhead : ∀ d ∈ (rest.dropWhile (!isBlank ·)).head?, isBlank d = true := fun d hd ↦ by
      have := List.head?_dropWhile_not (!isBlank ·) rest
      rw [Option.mem_def.1 hd] at this
      simpa using this
    -- blanks, then the word, then the rest
    have hsplit : cs =
        cs.takeWhile isBlank ++
          ((c :: rest.takeWhile (!isBlank ·)) ++ rest.dropWhile (!isBlank ·)) := by
      rw [List.cons_append, List.takeWhile_append_dropWhile, ← h, List.takeWhile_append_dropWhile]
    have hfirst := (isWords_of_not_blank (List.cons_ne_nil _ _) hword).append hrest
      (separate_of_head _ hhead)
    have hall := (isWords_of_blank hblanks).append hfirst (separate_of_blank hblanks _)
    rw [← hsplit] at hall
    exact ⟨_, hall⟩

/-- Texts that are put together without joining words have the words of both. -/
theorem words_append (hsep : Separate cs ds) : words (cs ++ ds) = words cs ++ words ds := by
  obtain ⟨rs, hcs⟩ := exists_isWords cs
  obtain ⟨ss, hds⟩ := exists_isWords ds
  obtain ⟨ts, hboth⟩ := exists_isWords (cs ++ ds)
  exact (hboth.unique (hcs.append hds hsep)).2

theorem words_eq_nil_iff : words cs = [] ↔ ∀ c ∈ cs, isBlank c = true := by
  rw [words, ← List.dropWhile_eq_nil_iff]
  split
  · next h => simp [h]
  · next h => simp [h]

/-! ### Lines -/

theorem isBlank_newline : isBlank '\n' = true := by decide +kernel

/-- **A line feed ends a word**, and begins none. -/
theorem words_append_newline (cs ds : List Char) :
    words (cs ++ '\n' :: ds) = words cs ++ words ds := by
  have hblank : ∀ c ∈ ['\n'], isBlank c = true := by simp [isBlank_newline]
  have hhead : ∀ c ∈ ('\n' :: ds).head?, isBlank c = true := by simp [isBlank_newline]
  rw [words_append (separate_of_head cs hhead), ← List.singleton_append,
    words_append (separate_of_blank hblank ds), words_eq_nil_iff.2 hblank, List.nil_append]

/-- **The words of a text** are those of its lines. -/
theorem words_joinLines (ls : List (List Char)) : words (joinLines ls) = ls.flatMap words := by
  induction ls with
  | nil => exact words_eq_nil_iff.2 fun _ h ↦ absurd h List.not_mem_nil
  | cons l ls ih =>
    cases ls with
    | nil => rw [joinLines, List.flatMap_singleton]
    | cons k ks =>
      rw [joinLines_cons l (List.cons_ne_nil _ _), words_append_newline, ih]
      rfl

end TextHistory
