import Mathlib.Order.Bounds.Defs
import TextHistory.Proofs.GapBuffer.Canonical
import TextHistory.Proofs.GapBuffer.Checked

/-!
# How buffers grow

Only an insertion can change the number of slots, and it does so exactly if the text is longer than
the gap is wide. Then the slots become at least twice as many, and enough for the text even if no
slot of the old gap were of use; so there is room for it, and nothing else is written over
(`WellFormed.enlarges_of_insert`).

The room is never given back, but it is never too much either. A buffer that grows is about to hold
more characters than it had slots, so what it grows to is less than twice what it will hold. Over a
run of edits this bounds the slots by twice the greatest length that the run led through
(`WellFormed.capacity_run_le`), or by the slots that there were before, if these are more.

That bound, and that nothing shrinks, hold whatever the numbers are. Doubling is exact as long as
the slots are fewer than half of what a word can count, and saturates beyond.
-/

namespace TextHistory

namespace GapBuffer

/-! ### Capacities -/

theorem grownCapacity_le (capacity needed : Nat) :
    grownCapacity capacity needed ≤ max (2 * capacity) (capacity + needed) := by
  rw [grownCapacity]
  omega

/-- Less than half of what a word can count can be doubled. -/
theorem grownCapacity_eq {capacity : Nat} (h : capacity < halfWord) (needed : Nat) :
    grownCapacity capacity needed = max (2 * capacity) (capacity + needed) := by
  have hword := two_mul_halfWord
  rw [grownCapacity, Nat.min_eq_left (by omega)]

theorem le_grownCapacity (capacity needed : Nat) :
    capacity + needed ≤ grownCapacity capacity needed := Nat.le_max_right _ _

theorem capacity_ofString (text : String) (capacity : Nat) :
    (ofString text capacity).capacity = max capacity text.length := by
  rw [(shows_ofString text capacity).capacity, List.length_nil, String.length_toList]
  omega

/-- A buffer without a text is one that holds the empty text. -/
theorem empty_eq_ofString (capacity : Nat) : empty capacity = ofString "" capacity := by
  simp [empty, ofString]

variable {b b' : GapBuffer} {offset : Nat} {text : String} {e : Edit}

/-! ### The step -/

/-- What an insertion that goes through does to the slots. -/
structure Enlarges (b : GapBuffer) (offset : Nat) (text : String) (b' : GapBuffer) : Prop where
  /-- The gap that the text is written into has room for it, -/
  room : text.length ≤ ((b.moveGap offset).reserve text.length).gapSize
  /-- so nothing else is written over. -/
  toList_eq : b'.toList = b.toList.take offset ++ text.toList ++ b.toList.drop offset
  /-- All characters are counted, -/
  length_eq : b'.length = b.length + text.length
  /-- and all have a slot. -/
  length_le_capacity : b'.length ≤ b'.capacity
  /-- There are no new slots exactly if the text fits into the gap. -/
  capacity_eq_iff : b'.capacity = b.capacity ↔ text.length ≤ b.capacity - b.length
  /-- If it does not, there are twice as many, or as many as without the old gap are enough. -/
  capacity_eq : b.capacity < halfWord → b.capacity - b.length < text.length →
    b'.capacity = max (2 * b.capacity) (b.capacity + text.length)

namespace WellFormed

/-- An insertion makes new slots if the gap is too narrow. -/
theorem capacity_of_insert (h : b.WellFormed) (hb : b.insert offset text = .ok b') :
    b'.capacity =
      if b.capacity - b.length < text.length then grownCapacity b.capacity text.length
      else b.capacity := by
  have hoffset : offset ≤ b.length := exists_insert_iff.1 ⟨b', hb⟩
  have hgap : b.gapSize = b.capacity - b.length := h.canonical.gapSize_eq
  rw [GapBuffer.insert, if_neg (Nat.not_lt.2 hoffset)] at hb
  obtain rfl := Except.ok.inj hb
  rw [capacity_fill, (h.shows_moveGap hoffset).capacity_reserve, capacity_moveGap, hgap,
    List.size_toArray, String.length_toList]

theorem length_of_insert (h : b.WellFormed) (hb : b.insert offset text = .ok b') :
    b'.length = b.length + text.length := by
  have hoffset : offset ≤ b.length := exists_insert_iff.1 ⟨b', hb⟩
  rw [(h.shows_of_insert hb).length, List.length_append, List.length_take, List.length_drop,
    h.length_toList, String.length_toList]
  omega

theorem length_le_capacity (h : b.WellFormed) : b.length ≤ b.capacity := by
  rw [← gapSize_add_length h]
  exact Nat.le_add_left _ _

/-- **Inserting** finds room, and makes it if need be. -/
theorem enlarges_of_insert (h : b.WellFormed) (hb : b.insert offset text = .ok b') :
    b.Enlarges offset text b' where
  room := (h.shows_moveGap (exists_insert_iff.1 ⟨b', hb⟩)).le_gapSize_reserve _
  toList_eq := h.toList_of_insert hb
  length_eq := h.length_of_insert hb
  length_le_capacity := (h.insert hb).length_le_capacity
  capacity_eq_iff := by
    rw [h.capacity_of_insert hb]
    have hge := le_grownCapacity b.capacity text.length
    split <;> omega
  capacity_eq hsmall htext := by
    rw [h.capacity_of_insert hb, if_pos htext, grownCapacity_eq hsmall]

/-- Slots are never given back. -/
theorem capacity_le_of_apply (h : b.WellFormed) (hb : b.apply e = .ok b') :
    b.capacity ≤ b'.capacity := by
  cases e with
  | insert offset text =>
    have hge := le_grownCapacity b.capacity text.length
    rw [h.capacity_of_insert hb]
    split <;> omega
  | delete offset count => exact Nat.le_of_eq (capacity_of_delete hb).symm

/-- An edit that makes new slots at least doubles them. -/
theorem capacity_double_of_apply (h : b.WellFormed) (hsmall : b.capacity < halfWord)
    (hb : b.apply e = .ok b') : b'.capacity = b.capacity ∨ 2 * b.capacity ≤ b'.capacity := by
  cases e with
  | insert offset text =>
    rw [h.capacity_of_insert hb]
    split
    · rw [grownCapacity_eq hsmall]
      exact Or.inr (Nat.le_max_left _ _)
    · exact Or.inl rfl
  | delete offset count => exact Or.inl (capacity_of_delete hb)

/-- New slots are made for a text that has more characters than there were slots. -/
theorem capacity_of_apply_le (h : b.WellFormed) (hb : b.apply e = .ok b') :
    b'.capacity ≤ max b.capacity (2 * b'.length) := by
  cases e with
  | insert offset text =>
    have hle := grownCapacity_le b.capacity text.length
    rw [h.capacity_of_insert hb, h.length_of_insert hb]
    split <;> omega
  | delete offset count =>
    rw [capacity_of_delete hb]
    exact Nat.le_max_left _ _

end WellFormed

/-! ### The run -/

/-- The greatest length that a run of edits leads through. -/
def peak : GapBuffer → List Edit → Nat
  | b, [] => b.length
  | b, e :: es => max b.length (peak ((b.apply e).toOption.getD b) es)

theorem length_le_peak (b : GapBuffer) (es : List Edit) : b.length ≤ b.peak es := by
  cases es with
  | nil => exact Nat.le_refl _
  | cons e es => exact Nat.le_max_left _ _

/-- The peak is the greatest of the lengths that the edits made so far led to. -/
theorem isGreatest_peak (b : GapBuffer) (es : List Edit) :
    IsGreatest {n | ∃ ds, ds <+: es ∧ (b.run ds).length = n} (b.peak es) := by
  induction es generalizing b with
  | nil =>
    refine ⟨⟨[], List.prefix_refl _, rfl⟩, ?_⟩
    rintro n ⟨ds, hds, rfl⟩
    rw [List.prefix_nil.1 hds]
    exact Nat.le_refl _
  | cons e es ih =>
    obtain ⟨⟨ds, hds, hlength⟩, hgreatest⟩ := ih ((b.apply e).toOption.getD b)
    constructor
    · -- the peak is here, or where the rest of the run has it
      rcases Nat.le_total (((b.apply e).toOption.getD b).peak es) b.length with hle | hle
      · exact ⟨[], List.nil_prefix, (Nat.max_eq_left hle).symm⟩
      · exact ⟨e :: ds, (List.prefix_cons_inj e).2 hds,
          hlength.trans (Nat.max_eq_right hle).symm⟩
    · rintro n ⟨ds, hds, rfl⟩
      cases ds with
      | nil => exact Nat.le_max_left _ _
      | cons d ds =>
        obtain ⟨rfl, hrest⟩ := List.cons_prefix_cons.1 hds
        exact Nat.le_trans (hgreatest ⟨ds, hrest, rfl⟩) (Nat.le_max_right _ _)

namespace WellFormed

/-- **Slots are never given back** in a run. -/
theorem capacity_le_run (h : b.WellFormed) (es : List Edit) :
    b.capacity ≤ (b.run es).capacity := by
  have hkept : (b.run es).WellFormed ∧ b.capacity ≤ (b.run es).capacity := by
    refine run_induction (P := fun c ↦ c.WellFormed ∧ b.capacity ≤ c.capacity) ?_
      ⟨h, Nat.le_refl _⟩ es
    rintro c e c' hc' ⟨hc, hle⟩
    exact ⟨hc.apply hc', Nat.le_trans hle (hc.capacity_le_of_apply hc')⟩
  exact hkept.2

/-- **Slots at least double** in a run that makes new ones. -/
theorem capacity_double_run (h : b.WellFormed) (hsmall : b.capacity < halfWord) (es : List Edit) :
    (b.run es).capacity = b.capacity ∨ 2 * b.capacity ≤ (b.run es).capacity := by
  have hkept : (b.run es).WellFormed ∧
      ((b.run es).capacity = b.capacity ∨ 2 * b.capacity ≤ (b.run es).capacity) := by
    refine run_induction
      (P := fun c ↦ c.WellFormed ∧ (c.capacity = b.capacity ∨ 2 * b.capacity ≤ c.capacity)) ?_
      ⟨h, Or.inl rfl⟩ es
    rintro c e c' hc' ⟨hc, hsame | hdouble⟩
    · rw [← hsame] at hsmall ⊢
      exact ⟨hc.apply hc', hc.capacity_double_of_apply hsmall hc'⟩
    · exact ⟨hc.apply hc', Or.inr (Nat.le_trans hdouble (hc.capacity_le_of_apply hc'))⟩
  exact hkept.2

/-- **Slots are bounded** by twice the peak of a run, or by those that there were before it. -/
theorem capacity_run_le (h : b.WellFormed) (es : List Edit) :
    (b.run es).capacity ≤ max b.capacity (2 * b.peak es) := by
  induction es generalizing b with
  | nil => exact Nat.le_max_left _ _
  | cons e es ih =>
    rw [GapBuffer.run, peak]
    cases hb : b.apply e with
    | error =>
      have hrest : (b.run es).capacity ≤ max b.capacity (2 * b.peak es) := ih h
      show (b.run es).capacity ≤ max b.capacity (2 * max b.length (b.peak es))
      omega
    | ok b' =>
      have hstep := h.capacity_of_apply_le hb
      have hrest := ih (h.apply hb)
      have hlength := length_le_peak b' es
      show (b'.run es).capacity ≤ max b.capacity (2 * max b.length (b'.peak es))
      omega

end WellFormed

/-- **How buffers grow.** A new buffer has the slots that were asked for, or as many as its text
needs. After any run of edits, an insertion goes through wherever the text is, and finds the room
that it needs: it keeps the slots if the text fits into the gap, and else makes them twice as many,
or more if that is not enough. Deletions, and edits that are refused, keep the slots. So there are
never fewer than before, if there are more they are at least twice as many, and in the end they are
at most twice the greatest number of characters that there ever were, or those of the beginning. -/
theorem capacity_of_run (text : String) (capacity : Nat) (es : List Edit) :
    let b₀ := ofString text capacity
    let b := b₀.run es
    b₀.capacity = max capacity text.length ∧
      empty capacity = ofString "" capacity ∧
      (∀ offset t, (∃ b', b.insert offset t = .ok b') ↔ offset ≤ b.length) ∧
      (∀ offset t b', b.insert offset t = .ok b' → b.Enlarges offset t b') ∧
      (∀ offset count b', b.delete offset count = .ok b' → b'.capacity = b.capacity) ∧
      (∀ e error, b.apply e = .error error → b.run [e] = b) ∧
      (∀ ds, b.capacity ≤ (b.run ds).capacity) ∧
      (b.capacity < halfWord → ∀ ds,
        (b.run ds).capacity = b.capacity ∨ 2 * b.capacity ≤ (b.run ds).capacity) ∧
      IsGreatest {n | ∃ ds, ds <+: es ∧ (b₀.run ds).length = n} (b₀.peak es) ∧
      b.capacity ≤ max b₀.capacity (2 * b₀.peak es) := by
  intro b₀ b
  have hnew : b₀.WellFormed := wellFormed_ofString text capacity
  have h : b.WellFormed := hnew.run es
  refine ⟨capacity_ofString text capacity, empty_eq_ofString capacity,
    fun _ _ ↦ exists_insert_iff, fun _ _ _ hb ↦ h.enlarges_of_insert hb,
    fun _ _ _ hb ↦ capacity_of_delete hb, fun e error hb ↦ ?_, h.capacity_le_run,
    h.capacity_double_run, isGreatest_peak b₀ es, hnew.capacity_run_le es⟩
  rw [GapBuffer.run, hb]
  rfl

/-- From no slots to two, to four, which are kept although one would do, and to ten for a long text.
The peak is that of the last buffer. -/
theorem capacity_of_run_grown :
    let es : List Edit :=
      [.insert 0 "ab", .insert 1 "c", .delete 0 2, .delete 5 1, .insert 1 "", .insert 0 "uvwxyz"]
    let b := (ofString "" 0).run (es.take 5)
    b.text = "b" ∧ b.capacity = 4 ∧ b.capacity < halfWord ∧
      (∃ b', b.insert 0 "uvwxyz" = .ok b' ∧ b.Enlarges 0 "uvwxyz" b' ∧ b'.capacity = 10) ∧
      (∃ b', b.delete 0 1 = .ok b' ∧ b'.capacity = b.capacity) ∧
      b.run [.delete 5 1] = b ∧
      2 * b.capacity ≤ (b.run (es.drop 5)).capacity ∧
      (ofString "" 0).peak es = 7 ∧ ((ofString "" 0).run es).capacity ≤ 14 := by
  intro es b
  obtain ⟨-, -, haccepted, hinsert, hdelete, hrefused, -, hdouble, -, -⟩ :=
    capacity_of_run "" 0 (es.take 5)
  obtain ⟨-, -, -, -, -, -, -, -, -, hbound⟩ := capacity_of_run "" 0 es
  have hsmall : b.capacity < halfWord := by decide
  have hpeak : (ofString "" 0).peak es = 7 := by decide
  obtain ⟨b₁, hb₁⟩ : ∃ b', b.insert 0 "uvwxyz" = .ok b' := (haccepted 0 _).2 (Nat.zero_le _)
  obtain ⟨b₂, hb₂⟩ : ∃ b', b.delete 0 1 = .ok b' := ⟨_, rfl⟩
  have hgrown := hinsert 0 "uvwxyz" b₁ hb₁
  have hcapacity : b₁.capacity = 10 := hgrown.capacity_eq hsmall (by decide)
  have hmore := hdouble hsmall (es.drop 5)
  rw [hpeak] at hbound
  exact ⟨by decide, by decide, hsmall, ⟨b₁, hb₁, hgrown, hcapacity⟩,
    ⟨b₂, hb₂, hdelete 0 1 b₂ hb₂⟩, hrefused (.delete 5 1) _ rfl,
    hmore.resolve_left (by decide), hpeak, hbound⟩

end GapBuffer

end TextHistory
