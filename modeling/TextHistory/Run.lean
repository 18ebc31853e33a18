/-!
# Runs

A machine takes calls one after the other: each call gives an answer and a new state. `answers`
and `after` are the two halves of a run of calls, and both are known from the first call and the
rest of the run.

Some machines hand out ids, and answer with the id when they do. If they take their ids from a
counter (`HandsOut`), the ids of a run come in ascending order, so no id is handed out twice.
-/

namespace TextHistory

section

variable {σ κ α : Type} (step : σ → κ → α × σ)

/-- The state after a run of calls. -/
def after (s : σ) : List κ → σ
  | [] => s
  | c :: cs => after (step s c).2 cs

/-- The answers of a run of calls, one a call. -/
def answers (s : σ) : List κ → List α
  | [] => []
  | c :: cs => (step s c).1 :: answers (step s c).2 cs

@[simp] theorem after_nil (s : σ) : after step s [] = s := rfl

@[simp] theorem after_cons (s : σ) (c : κ) (cs : List κ) :
    after step s (c :: cs) = after step (step s c).2 cs := rfl

@[simp] theorem answers_nil (s : σ) : answers step s [] = [] := rfl

@[simp] theorem answers_cons (s : σ) (c : κ) (cs : List κ) :
    answers step s (c :: cs) = (step s c).1 :: answers step (step s c).2 cs := rfl

@[simp] theorem after_append (s : σ) (cs ds : List κ) :
    after step s (cs ++ ds) = after step (after step s cs) ds := by
  induction cs generalizing s with
  | nil => rfl
  | cons c cs ih => exact ih _

theorem answers_append (s : σ) (cs ds : List κ) :
    answers step s (cs ++ ds) = answers step s cs ++ answers step (after step s cs) ds := by
  induction cs generalizing s with
  | nil => rfl
  | cons c cs ih => simp [ih]

/-- What every call keeps, a run keeps. -/
theorem after_induction {P : σ → Prop} (hstep : ∀ s c, P s → P (step s c).2) {s : σ} (h : P s)
    (cs : List κ) : P (after step s cs) := by
  induction cs generalizing s with
  | nil => exact h
  | cons c cs ih => exact ih (hstep s c h)

/-- What every call of a kind keeps, a run of calls of this kind keeps. -/
theorem after_induction_of_mem {P : σ → Prop} {Q : κ → Prop}
    (hstep : ∀ s c, Q c → P s → P (step s c).2) {s : σ} (h : P s) {cs : List κ}
    (hcs : ∀ c ∈ cs, Q c) : P (after step s cs) := by
  induction cs generalizing s with
  | nil => exact h
  | cons c cs ih =>
    obtain ⟨hc, hcs⟩ := List.forall_mem_cons.1 hcs
    exact ih (hstep s c hc h) hcs

/-! ### Handing out ids -/

/-- The ids that the answers of a run give, in the order of the calls. -/
def handedOut (id? : α → Option Nat) (s : σ) (cs : List κ) : List Nat :=
  (answers step s cs).filterMap id?

theorem handedOut_cons (id? : α → Option Nat) (s : σ) (c : κ) (cs : List κ) :
    handedOut step id? s (c :: cs) =
      (id? (step s c).1).toList ++ handedOut step id? (step s c).2 cs := by
  rw [handedOut, answers_cons, List.filterMap_cons]
  cases id? (step s c).1 <;> rfl

/-- In states with the property `P`, the machine takes its ids from the counter `next`. -/
structure HandsOut (P : σ → Prop) (next : σ → Nat) (id? : α → Option Nat) : Prop where
  /-- The property is kept. -/
  keeps : ∀ s c, P s → P (step s c).2
  /-- The counter does not go back. -/
  next_le : ∀ s c, P s → next s ≤ next (step s c).2
  /-- The id given is that of the counter, which moves on. -/
  eq_next : ∀ s c id, P s → id? (step s c).1 = some id → id = next s ∧ id < next (step s c).2

namespace HandsOut

variable {step} {P : σ → Prop} {next : σ → Nat} {id? : α → Option Nat}

/-- The counter does not go back in a run. -/
theorem next_le_after (h : HandsOut step P next id?) {s : σ} (hs : P s) (cs : List κ) :
    next s ≤ next (after step s cs) := by
  induction cs generalizing s with
  | nil => exact Nat.le_refl _
  | cons c cs ih => exact Nat.le_trans (h.next_le s c hs) (ih (h.keeps s c hs))

/-- The ids of a run are between the counter before it and the counter after it. -/
theorem bounds_of_mem (h : HandsOut step P next id?) {s : σ} (hs : P s) {cs : List κ} {id : Nat}
    (hid : id ∈ handedOut step id? s cs) : next s ≤ id ∧ id < next (after step s cs) := by
  induction cs generalizing s with
  | nil => exact absurd hid List.not_mem_nil
  | cons c cs ih =>
    have hs' : P (step s c).2 := h.keeps s c hs
    rw [handedOut_cons] at hid
    rcases List.mem_append.1 hid with hfirst | hrest
    · obtain ⟨rfl, hlt⟩ := h.eq_next s c id hs (Option.mem_toList.1 hfirst)
      exact ⟨Nat.le_refl _, Nat.lt_of_lt_of_le hlt (h.next_le_after hs' cs)⟩
    · obtain ⟨hle, hlt⟩ := ih hs' hrest
      exact ⟨Nat.le_trans (h.next_le s c hs) hle, hlt⟩

/-- **Ids are handed out in ascending order.** -/
theorem ascending (h : HandsOut step P next id?) {s : σ} (hs : P s) (cs : List κ) :
    (handedOut step id? s cs).Pairwise (· < ·) := by
  induction cs generalizing s with
  | nil => exact .nil
  | cons c cs ih =>
    have hs' : P (step s c).2 := h.keeps s c hs
    rw [handedOut_cons]
    refine List.pairwise_append.2 ⟨?_, ih hs', fun a ha b hb ↦ ?_⟩
    · cases id? (step s c).1 with
      | none => exact .nil
      | some id => exact List.pairwise_singleton _ _
    · obtain ⟨-, hlt⟩ := h.eq_next s c a hs (Option.mem_toList.1 ha)
      exact Nat.lt_of_lt_of_le hlt (h.bounds_of_mem hs' hb).1

end HandsOut

end

end TextHistory
