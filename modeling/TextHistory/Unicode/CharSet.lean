/-!
# Sets of characters

A set of characters given by ranges of code points, as the tables of Unicode properties are. A
range names its first and its last code point; a range may run across code points that are not
characters, which makes no difference.
-/

namespace TextHistory

/-- A set of characters, as ranges of code points. -/
structure CharSet where
  /-- The first and the last code point of each range. -/
  ranges : Array (Nat × Nat)

namespace CharSet

/-- Whether a character lies in one of the ranges. -/
def contains (s : CharSet) (c : Char) : Bool :=
  s.ranges.any fun r ↦ r.1 ≤ c.toNat && c.toNat ≤ r.2

end CharSet

end TextHistory
