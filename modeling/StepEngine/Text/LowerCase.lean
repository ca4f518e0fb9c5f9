import StepEngine.Text.CaseTable

/-!
# The lower case form of a text

Letters of every script with two cases are lowered. Two letters are special: the dotted capital I becomes two characters, and the capital
sigma takes its final form at the end of a word, which is where a character with a case precedes it and none follows.
-/

namespace StepEngine

namespace LetterCase

/-- The code point belongs to a run. -/
def Run.contains (r : Run) (n : Nat) : Bool := r.first ≤ n && n ≤ r.last && (n - r.first) % r.step = 0

/-- The lower case form of a letter out of its context. -/
def lowerChar (c : Char) : Char :=
  match lowerRuns.find? (·.contains c.toNat) with
  | some r => Char.ofNat (c.toNat + r.shift).toNat
  | none => c

/-- The first character that is not passed over has a case. -/
def meetsCased (cs : List Char) : Bool :=
  (cs.dropWhile ignorableRanges.contains).head?.any casedRanges.contains

/-- The lower case form of a letter behind the characters `before`, the last one first, and in front of `after`. -/
def lowerInContext (before : List Char) (c : Char) (after : List Char) : List Char :=
  if c = '\u03a3' then [if meetsCased before && !meetsCased after then '\u03c2' else '\u03c3']
  else if c = '\u0130' then ['i', '\u0307']
  else [lowerChar c]

/-- The lower case form of the characters behind `before`, the last one first. -/
def lowerChars (before : List Char) : List Char → List Char
  | [] => []
  | c :: rest => lowerInContext before c rest ++ lowerChars (c :: before) rest

/-- The lower case form of a text. -/
def lower (s : String) : String := String.ofList (lowerChars [] s.toList)

end LetterCase

end StepEngine
