import TextHistory.GapBuffer

/-!
# Programs with every machine operation checked

Numbers are natural numbers in this library, and operations on them cannot fail: a sum may be as
large as it likes, a difference that would be negative is zero, and an element that an array does
not have is replaced by another. A machine is less patient. There a sum has to fit into a word, a
difference must not be negative, and elements and stretches of arrays have to exist; else the
program ends in a `Fault`.

A `Checked` program looks before every such operation. It ends in one of three ways: with a result,
with a refusal, which is an ordinary answer, or with a fault, which should never happen. That it
does not is said by an equation: a program that equals `faultless x` does what the computation `x`
says, and `x` can refuse but has no faults.

Memory is taken to suffice.
-/

namespace TextHistory

/-- Half of what a machine word can count. -/
def halfWord : Nat := 0x8000_0000_0000_0000

theorem two_mul_halfWord : 2 * halfWord = maxWord + 1 := rfl

/-- What a machine cannot do. -/
inductive Fault
  /-- A sum does not fit into a word. -/
  | overflow (a b : Nat)
  /-- A difference would be negative. -/
  | underflow (a b : Nat)
  /-- An array has no such element. -/
  | noElement (index size : Nat)
  /-- An array has no such stretch. -/
  | noStretch (start stop size : Nat)
deriving DecidableEq

/-- How a checked program ends if it does not come to its end. -/
inductive Halt
  /-- The machine cannot go on. -/
  | fault (f : Fault)
  /-- The program does not do what was asked for, and says why. -/
  | refused (cause : AddressError)
deriving DecidableEq

/-- A program with every machine operation checked. -/
abbrev Checked (α : Type) := Except Halt α

/-! ### Machine operations -/

namespace Checked

variable {α β : Type}

/-- The sum of two numbers. -/
def add (a b : Nat) : Checked Nat :=
  if a + b ≤ maxWord then .ok (a + b) else .error (.fault (.overflow a b))

/-- The difference of two numbers. -/
def sub (a b : Nat) : Checked Nat :=
  if b ≤ a then .ok (a - b) else .error (.fault (.underflow a b))

/-- An element of an array. -/
def element (xs : Array α) (index : Nat) : Checked α :=
  match xs[index]? with
  | some a => .ok a
  | none => .error (.fault (.noElement index xs.size))

/-- Looks whether an array of this size has the stretch from `start` up to `stop`. -/
def stretch (start stop size : Nat) : Checked Unit :=
  if start ≤ stop ∧ stop ≤ size then .ok ⟨⟩ else .error (.fault (.noStretch start stop size))

/-- Ends with a refusal. -/
def refuse (cause : AddressError) : Checked α := .error (.refused cause)

/-- A program that may refuse, but has no faults. -/
def faultless (x : Except AddressError α) : Checked α := x.mapError .refused

theorem ok_bind (a : α) (f : α → Checked β) : (Except.ok a >>= f : Checked β) = f a := rfl

/-- What follows after a program without faults. -/
theorem faultless_bind {x : Except AddressError α} {f : α → Checked β}
    {g : α → Except AddressError β} (h : ∀ a, x = .ok a → f a = faultless (g a)) :
    faultless x >>= f = faultless (x >>= g) := by
  cases x with
  | error cause => rfl
  | ok a => exact h a rfl

theorem add_eq {a b : Nat} (h : a + b ≤ maxWord) : add a b = .ok (a + b) := if_pos h

theorem sub_eq {a b : Nat} (h : b ≤ a) : sub a b = .ok (a - b) := if_pos h

theorem element_eq {xs : Array α} {i : Nat} {a : α} (h : xs[i]? = some a) :
    element xs i = .ok a := by
  rw [element, h]

theorem stretch_eq {start stop size : Nat} (h : start ≤ stop) (h' : stop ≤ size) :
    stretch start stop size = .ok ⟨⟩ := if_pos ⟨h, h'⟩

end Checked

end TextHistory
