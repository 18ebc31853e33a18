import TextHistory.Proofs.GapBuffer.PlainText

/-!
# Equal gap buffers

Two gap buffers are equal if they hold the same text. Their slots may differ all the same: one may
be larger than the other, and the gaps may stand at different places. Nothing that a buffer is asked
or told can bring this out. Reading gives the same characters or the same error, and an edit goes
through on both, with equal results, or is refused by both for the same reason.

The second half is said by `Agree`, which compares two computations that can fail, and it is proved
for whole relations at once. A relation between buffers with the same text is a `Congruence` if
edits keep it. Holding the same text is one (`congruence_sameText`). To have the gap at the same
place as well is another (`congruence_sameGap`), since the place of the gap after an edit is decided
by the edit and by where the gap was, and never by how much room there is
(`WellFormed.gapStart_of_apply`). Whatever is built from reading and editing buffers inherits both.
-/

namespace TextHistory

/-! ### Two computations that can fail -/

section Agree

variable {ε α β γ δ : Type} {R S : α → β → Prop}

/-- Both computations go through, with related results, or both fail with the same error. -/
inductive Agree (R : α → β → Prop) : Except ε α → Except ε β → Prop
  /-- Both go through. -/
  | ok {a : α} {b : β} (h : R a b) : Agree R (.ok a) (.ok b)
  /-- Both fail. -/
  | error (e : ε) : Agree R (.error e) (.error e)

namespace Agree

variable {x : Except ε α} {y : Except ε β}

/-- Computations that agree go on to agree if their continuations do on related results. -/
theorem bind {T : γ → δ → Prop} {f : α → Except ε γ} {g : β → Except ε δ} (h : Agree R x y)
    (hfg : ∀ a b, R a b → Agree T (f a) (g b)) : Agree T (x >>= f) (y >>= g) := by
  rcases h with ⟨hab⟩ | ⟨e⟩
  · exact hfg _ _ hab
  · exact .error e

/-- After the same first step, continuations that agree do so altogether. -/
theorem bind_of_eq {T : γ → δ → Prop} {x x' : Except ε α} {f : α → Except ε γ} {g : α → Except ε δ}
    (h : x = x') (hfg : ∀ a, Agree T (f a) (g a)) : Agree T (x >>= f) (x' >>= g) := by
  subst h
  rcases x with e | a
  · exact .error e
  · exact hfg a

theorem cases (h : Agree R x y) :
    (∃ a b, x = .ok a ∧ y = .ok b ∧ R a b) ∨ ∃ e, x = .error e ∧ y = .error e := by
  rcases h with ⟨hab⟩ | ⟨e⟩
  · exact Or.inl ⟨_, _, rfl, rfl, hab⟩
  · exact Or.inr ⟨e, rfl, rfl⟩

/-- What is known of the results may be used to relate them more closely. -/
theorem imp (h : Agree R x y) (hRS : ∀ a b, x = .ok a → y = .ok b → R a b → S a b) :
    Agree S x y := by
  rcases h with ⟨hab⟩ | ⟨e⟩
  · exact .ok (hRS _ _ rfl rfl hab)
  · exact .error e

/-- Computations that come to the same after a function agree on what it gives. -/
theorem of_map_eq {f : α → γ} {g : β → γ} (h : x.map f = y.map g) :
    Agree (fun a b ↦ f a = g b) x y := by
  rcases x with e | a <;> rcases y with e' | b
  · obtain rfl : e = e' := Except.error.inj h
    exact .error e
  · exact absurd h (by simp [Except.map])
  · exact absurd h (by simp [Except.map])
  · exact .ok (Except.ok.inj h)

end Agree

end Agree

namespace GapBuffer

/-- The buffer can be made: by a constructor, or by an edit that goes through. -/
inductive Reachable : GapBuffer → Prop
  /-- A buffer without characters. -/
  | empty (capacity : Nat) : Reachable (.empty capacity)
  /-- A buffer that holds a text, of at least some capacity. -/
  | ofString (text : String) (capacity : Nat) : Reachable (.ofString text capacity)
  /-- The buffer that an edit makes. -/
  | edit {b b' : GapBuffer} {e : Edit} (h : Reachable b) (hb : b.apply e = .ok b') : Reachable b'

variable {a b b' : GapBuffer}

theorem Reachable.wellFormed (h : b.Reachable) : b.WellFormed := by
  induction h with
  | empty capacity => exact wellFormed_empty capacity
  | ofString text capacity => exact wellFormed_ofString text capacity
  | edit _ hb ih => exact ih.apply hb

/-! ### The same text -/

/-- Two buffers in good shape that hold the same text. -/
structure SameText (a b : GapBuffer) : Prop where
  /-- The first is in good shape. -/
  left : a.WellFormed
  /-- The second is in good shape. -/
  right : b.WellFormed
  /-- They hold the same text. -/
  toList_eq : a.toList = b.toList

/-- **Buffers are equal** if they hold the same text. -/
theorem WellFormed.beq_iff (ha : a.WellFormed) (hb : b.WellFormed) :
    (a == b) = true ↔ a.toList = b.toList := by
  show (a.length == b.length && a.toList == b.toList) = true ↔ a.toList = b.toList
  rw [Bool.and_eq_true, beq_iff_eq, beq_iff_eq, ← ha.length_toList, ← hb.length_toList]
  exact and_iff_right_of_imp (congrArg List.length)

theorem beq_iff_sameText (ha : a.WellFormed) (hb : b.WellFormed) :
    (a == b) = true ↔ a.SameText b := by
  rw [ha.beq_iff hb]
  exact ⟨fun h ↦ ⟨ha, hb, h⟩, SameText.toList_eq⟩

theorem text_eq_iff : a.text = b.text ↔ a.toList = b.toList := String.ofList_inj

namespace SameText

theorem length_eq (h : a.SameText b) : a.length = b.length := by
  rw [← h.left.length_toList, ← h.right.length_toList, h.toList_eq]

theorem outOfBounds_eq (h : a.SameText b) (offset : Nat) :
    a.outOfBounds offset = b.outOfBounds offset :=
  congrArg (AddressError.outOfBounds offset) h.length_eq

theorem charAt_eq (h : a.SameText b) (offset : Nat) : a.charAt offset = b.charAt offset := by
  rw [h.left.charAt_eq, h.right.charAt_eq]
  simp only [h.toList_eq]

theorem substring_eq (h : a.SameText b) (start stop : Nat) :
    a.substring start stop = b.substring start stop := by
  rw [h.left.substring_eq, h.right.substring_eq, h.toList_eq]

end SameText

/-! ### Relations that edits keep -/

/-- A relation between buffers that hold the same text, which edits keep. -/
structure Congruence (R : GapBuffer → GapBuffer → Prop) : Prop where
  /-- Related buffers hold the same text. -/
  sameText : ∀ {a b : GapBuffer}, R a b → a.SameText b
  /-- An edit goes through on both and keeps them related, or both refuse it. -/
  apply : ∀ {a b : GapBuffer}, R a b → ∀ e : Edit, Agree R (a.apply e) (b.apply e)

/-- **Holding the same text** is kept by edits. -/
theorem congruence_sameText : Congruence SameText where
  sameText h := h
  apply {a b} h e := by
    have hmap : (a.apply e).map toList = (b.apply e).map toList := by
      rw [h.left.map_toList_apply, h.right.map_toList_apply, h.toList_eq]
    exact (Agree.of_map_eq hmap).imp fun _ _ ha hb htext ↦
      ⟨h.left.apply ha, h.right.apply hb, htext⟩

/-- The place of the gap after an edit that goes through, known from the place before it. -/
def Edit.gapAfter (gapStart : Nat) : Edit → Nat
  | .insert offset text => offset + text.length
  | .delete offset count => if count = 0 then gapStart else offset

/-- **An edit leaves the gap where it took place.** An insertion has it behind the new characters,
and a deletion of nothing does not touch it. -/
theorem WellFormed.gapStart_of_apply (h : b.WellFormed) {e : Edit} (hb : b.apply e = .ok b') :
    b'.gapStart = e.gapAfter b.gapStart := by
  rcases e with ⟨offset, text⟩ | ⟨offset, count⟩
  · have hle : offset ≤ b.toList.length := by
      rw [h.length_toList]
      exact exists_insert_iff.1 ⟨b', hb⟩
    rw [(h.shows_of_insert hb).gapStart_eq, List.length_append, List.length_take_of_le hle,
      String.length_toList, Edit.gapAfter]
  · rw [Edit.gapAfter]
    split
    · next hzero =>
      subst hzero
      rw [delete_zero hb]
    · next hpos =>
      have hlt : ¬(b.length < offset ∨ 0 < count ∧ b.length = offset) := fun hbad ↦ by
        have herror := delete_eq_error_iff.2 ⟨hbad, rfl⟩
        exact absurd (hb.symm.trans herror) (by simp)
      have hle : offset ≤ b.toList.length := by
        rw [h.length_toList]
        omega
      rw [(h.shows_of_delete (Nat.pos_of_ne_zero hpos) hb).gapStart_eq, List.length_take_of_le hle]

/-- Two buffers that hold the same text and have their gaps at the same place. Their capacities may
differ, and with them the widths of the gaps. -/
structure SameGap (a b : GapBuffer) : Prop extends SameText a b where
  /-- The gaps are at the same place. -/
  gapStart_eq : a.gapStart = b.gapStart

/-- **The same text and the same place of the gap** are kept by edits. -/
theorem congruence_sameGap : Congruence SameGap where
  sameText h := h.toSameText
  apply h e := (congruence_sameText.apply h.toSameText e).imp fun _ _ ha hb htext ↦
    ⟨htext, by rw [h.left.gapStart_of_apply ha, h.right.gapStart_of_apply hb, h.gapStart_eq]⟩

end GapBuffer

end TextHistory
