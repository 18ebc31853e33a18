/-!
# Positions and spans

A place in a text is named by its line and its column, both counted from zero, the column in
characters. Positions are ordered line first, column second, which is the order of the places
in a text; a position says nothing about whether the text has such a place.

A span is the stretch from one position up to, not including, another. It may be *inverted*,
with its stop before its start: a span only records what was asked for, and whether a text can
serve it is decided by the text.
-/

namespace TextHistory

/-- A line and a column, both counted from zero. -/
@[ext] structure Position where
  /-- The line. -/
  line : Nat
  /-- The column, in characters. -/
  column : Nat
deriving DecidableEq

namespace Position

/-- The start of every text. -/
def origin : Position := ⟨0, 0⟩

instance : Inhabited Position := ⟨origin⟩

/-- Line first, column second. -/
instance : Ord Position := ⟨fun a b ↦ (compare a.line b.line).then (compare a.column b.column)⟩

instance : LE Position := ⟨fun a b ↦ a.line < b.line ∨ a.line = b.line ∧ a.column ≤ b.column⟩

instance : LT Position := ⟨fun a b ↦ a.line < b.line ∨ a.line = b.line ∧ a.column < b.column⟩

theorem le_def {a b : Position} :
    a ≤ b ↔ a.line < b.line ∨ a.line = b.line ∧ a.column ≤ b.column := Iff.rfl

theorem lt_def {a b : Position} :
    a < b ↔ a.line < b.line ∨ a.line = b.line ∧ a.column < b.column := Iff.rfl

instance (a b : Position) : Decidable (a ≤ b) := decidable_of_iff _ le_def.symm

instance (a b : Position) : Decidable (a < b) := decidable_of_iff _ lt_def.symm

/-- A position is written `line:column`. -/
protected def toString (p : Position) : String := s!"{p.line}:{p.column}"

instance : ToString Position := ⟨Position.toString⟩

end Position

/-- The stretch from `start` up to, not including, `stop`. -/
@[ext] structure Span where
  /-- Where the span begins. -/
  start : Position
  /-- The position just past the span. -/
  stop : Position
deriving DecidableEq

namespace Span

/-- The span between two positions given in either order. -/
def ordered (a b : Position) : Span := if a ≤ b then ⟨a, b⟩ else ⟨b, a⟩

/-- The span of no length at a position. -/
def emptyAt (p : Position) : Span := ⟨p, p⟩

instance : Inhabited Span := ⟨emptyAt .origin⟩

variable (s : Span)

/-- Whether the span has no length. -/
def isEmpty : Bool := s.start == s.stop

/-- Whether the span is not inverted. -/
def isOrdered : Bool := s.start ≤ s.stop

/-- A span is written `start..stop`. -/
protected def toString : String := s!"{s.start}..{s.stop}"

instance : ToString Span := ⟨Span.toString⟩

end Span

end TextHistory
