/-!
# Ranges of code points

A property of characters is given by the ranges of the code points that have it.
-/

namespace StepEngine

/-- Ranges of code points, each with its first and its last one. -/
abbrev CodeRanges := List (Nat × Nat)

namespace CodeRanges

/-- A character is in one of the ranges. -/
def contains (ranges : CodeRanges) (c : Char) : Bool := ranges.any fun r => r.1 ≤ c.toNat && c.toNat ≤ r.2

end CodeRanges

end StepEngine
