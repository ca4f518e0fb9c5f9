import StepEngine.Digits
import StepEngine.Json

/-!
# Numbers of a JSON text

An integer that fits 64 bits, signed or unsigned, is exact. Any other number is a double, found in steps that each round: the leading digits that
fit 64 bits are the significand, the digits that do not fit are dropped, the point and the exponent and the dropped digits make a power of ten,
and the double nearest to the significand is multiplied or divided by the double nearest to that power. So the result may be a
neighbour of the nearest double. A number too large for a finite double is refused. Minus zero is a double, because integers have one zero.
-/

namespace StepEngine

namespace Json

/-- The exponent part of a number, if one starts here: a sign may precede its digits, and there is at least one. -/
def exponent? : List Char → Option (Option Int × List Char)
  | e :: rest =>
    if e = 'e' ∨ e = 'E' then
      let (negative, rest) :=
        match rest with
        | '-' :: r => (true, r)
        | '+' :: r => (false, r)
        | r => (false, r)
      match Digits.leading rest with
      | ([], _) => none
      | (ds, rest) => some (some (if negative then -(Digits.ofDecimals ds : Int) else Digits.ofDecimals ds), rest)
    else some (none, e :: rest)
  | [] => some (none, [])

/-- The fraction part of a number, if one starts here: a point and at least one digit. -/
def fraction? : List Char → Option (Option (List Nat) × List Char)
  | '.' :: rest =>
    match Digits.leading rest with
    | ([], _) => none
    | (ds, rest) => some (some ds, rest)
  | rest => some (none, rest)

/-- A significand with digits behind it, as long as it fits 64 bits, and how many digits are left over. -/
def extend (significand : Nat) : List Nat → Nat × Nat
  | [] => (significand, 0)
  | d :: ds =>
    if significand * 10 + d < UInt64.size then extend (significand * 10 + d) ds else (significand, ds.length + 1)

/-- The greatest power of ten that is a finite double. -/
def greatestPower : Nat := 308

/-- The double nearest to a power of ten. -/
def powerOfTen (n : Nat) : Binary64 := Binary64.ofDecimal false 1 n

/-- A 64-bit significand times a power of ten. A power that is no double is divided by in two steps; behind two steps of the greatest power
nothing is left of any significand. -/
def scaled? (significand : Nat) (exponent : Int) : Option Binary64 :=
  let x := Binary64.ofRatio false significand 1
  let n := exponent.natAbs
  if significand = 0 then some x
  else if 0 ≤ exponent then
    if n ≤ greatestPower then
      let y := x.mul (powerOfTen n)
      if y.isFinite then some y else none
    else none
  else if n ≤ greatestPower then some (x.div (powerOfTen n))
  else if n ≤ 2 * greatestPower then some ((x.div (powerOfTen greatestPower)).div (powerOfTen (n - greatestPower)))
  else some ⟨false, 0⟩

/-- A double with a sign before it. -/
def signed (negative : Bool) (x : Binary64) : Json := .float ⟨negative, x.magnitude⟩

/-- The value of an integer below `2 ^ 64`. -/
def integer (negative : Bool) (n : Nat) : Json :=
  if negative then
    if 0 < n ∧ n ≤ 0x8000000000000000 then .int (-(n : Int)) else signed true (Binary64.ofRatio false n 1)
  else .int n

/-- The value of the digits before and behind the point and of an exponent. -/
def numberOf? (negative : Bool) (whole : List Nat) (places : Option (List Nat)) (exponent : Option Int) : Option Json :=
  let (significand, dropped) := extend 0 whole
  if dropped = 0 ∧ places.isNone ∧ exponent.isNone then some (integer negative significand)
  else
    let digits := places.getD []
    let (significand, left) := extend significand digits
    (scaled? significand (exponent.getD 0 + dropped - (digits.length - left))).map (signed negative)

/-- A number at the start of a text, behind its sign. The integer part is one zero or starts with another digit. -/
def number? (negative : Bool) (cs : List Char) : Option (Json × List Char) :=
  match Digits.leading cs with
  | ([], _) => none
  | (0 :: _ :: _, _) => none
  | (whole, rest) => do
    let (places, rest) ← fraction? rest
    let (exponent, rest) ← exponent? rest
    return (← numberOf? negative whole places exponent, rest)

end Json

end StepEngine
