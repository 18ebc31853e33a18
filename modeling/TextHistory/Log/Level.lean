/-!
# Levels of a log

How much a log line matters. A log that is set to a level keeps the lines of that level and of
the levels that matter more.
-/

namespace TextHistory

/-- How much a log line matters, the least first. -/
inductive LogLevel
  | debug | info | warning | error
deriving DecidableEq

namespace LogLevel

/-- The place of a level in the order. -/
def rank : LogLevel → Nat
  | debug => 0
  | info => 1
  | warning => 2
  | error => 3

instance : LE LogLevel := ⟨fun a b ↦ a.rank ≤ b.rank⟩

theorem le_def {a b : LogLevel} : a ≤ b ↔ a.rank ≤ b.rank := Iff.rfl

instance (a b : LogLevel) : Decidable (a ≤ b) := decidable_of_iff _ le_def.symm

/-- The word that opens a log line of this level. -/
def tag : LogLevel → String
  | debug => "DEBUG"
  | info => "INFO"
  | warning => "WARNING"
  | error => "ERROR"

end LogLevel

end TextHistory
