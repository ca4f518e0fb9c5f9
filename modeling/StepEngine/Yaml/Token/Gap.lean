import StepEngine.Yaml.Cursor

/-!
# Gaps between the words of a scalar

A plain or quoted scalar may go on over several lines. Blanks inside a line are kept. Blanks around line breaks are dropped; a single line
break becomes a space, and of several the first is dropped.
-/

namespace StepEngine

namespace Yaml

/-- What stands between two words of a scalar: blanks on one line, or a first line break, unless it was escaped, and more breaks. The
characters are listed with the last one first. -/
inductive Gap where
  | inline (blanks : List Char)
  | lines (first : Option Char) (more : List Char)

namespace Gap

/-- The characters that a gap contributes to its scalar. -/
def chars : Gap → List Char
  | inline blanks => blanks.reverse
  | lines none more => more.reverse
  | lines (some first) more =>
    if first = '\n' then if more.isEmpty then [' '] else more.reverse else first :: more.reverse

/-- The gap holds a line break. -/
def isBroken : Gap → Bool
  | inline _ => false
  | lines _ _ => true

/-- One more blank or line break, with the column where it stands. Behind a line break a tab left of the given column is refused. -/
def add (tabsFrom : Nat) : Gap × Nat → Char → Option (Gap × Nat)
  | (inline blanks, column), c =>
    if isBreak c then some (lines (some c) [], 0) else some (inline (c :: blanks), column + 1)
  | (lines first more, column), c =>
    if isBreak c then some (lines first (c :: more), 0)
    else if c = '\t' && column < tabsFrom then none
    else some (lines first more, column + 1)

/-- The gap that goes on here behind what is already read of it, and the place behind it. -/
def read? (gap : Gap) (tabsFrom : Nat) (c : Cursor) : Option (Gap × Cursor) :=
  let (taken, next) := c.span isGap
  (taken.foldlM (add tabsFrom) (gap, c.column)).map fun p => (p.1, next)

end Gap

end Yaml

end StepEngine
