/-!
# Digits: numbers written in a positional system

Digits are the ASCII ones: the decimal digits, and the letters from `a` to `f` in either case for the values from ten.
-/

namespace StepEngine

namespace Digits

/-- The value of a digit. -/
def value? (c : Char) : Option Nat :=
  if '0' ≤ c ∧ c ≤ '9' then some (c.toNat - '0'.toNat)
  else if 'a' ≤ c ∧ c ≤ 'f' then some (c.toNat - 'a'.toNat + 10)
  else if 'A' ≤ c ∧ c ≤ 'F' then some (c.toNat - 'A'.toNat + 10)
  else none

/-- The value of a digit of the system with the given radix. -/
def below? (radix : Nat) (c : Char) : Option Nat := (value? c).filter (· < radix)

/-- The value of a decimal digit. -/
def decimal? (c : Char) : Option Nat := below? 10 c

/-- The value of a hexadecimal digit. -/
def hex? (c : Char) : Option Nat := below? 16 c

/-- The number written by a text that has digits of one system only, and at least one. -/
def number? (radix : Nat) (cs : List Char) : Option Nat :=
  if cs.isEmpty then none else cs.foldlM (fun n c => (below? radix c).map (n * radix + ·)) 0

/-- The number that a list of decimal digits writes. -/
def ofDecimals (ds : List Nat) : Nat := ds.foldl (fun n d => n * 10 + d) 0

/-- The leading decimal digits of a text, most significant first, and the rest. -/
def leading (cs : List Char) : List Nat × List Char :=
  let taken := cs.takeWhile fun c => (decimal? c).isSome
  (taken.filterMap decimal?, cs.drop taken.length)

end Digits

end StepEngine
