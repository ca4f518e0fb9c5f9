/-!
# Binary64: the double-precision numbers of a data document, by exact arithmetic

A decimal is read as the nearest double, ties to the even significand, and a double is written with the fewest digits that
read back as the same double. Both directions, and products and quotients, are computed with natural numbers only, so nothing
here depends on the arithmetic of a machine.

A double is a sign and a magnitude below `2 ^ 63`: the exponent field times `2 ^ 52`, plus the fraction field. Magnitudes in
this form are ordered as the values are, which makes the successor of a double the successor of its magnitude.
-/

namespace StepEngine

/-- A double: its sign, and the exponent field and the fraction field as one number. -/
structure Binary64 where
  negative : Bool
  magnitude : Nat
  deriving DecidableEq, Repr

namespace Binary64

/-- The weight of one unit of the exponent field in a magnitude. -/
def unitExponent : Nat := 1 <<< 52

/-- The magnitude of the infinities; every finite magnitude is below it. -/
def infinite : Nat := 2047 * unitExponent

/-- An infinity. -/
def infinity (negative : Bool) : Binary64 := ⟨negative, infinite⟩

/-- The value that is no number. -/
def notANumber : Binary64 := ⟨false, infinite + unitExponent / 2⟩

/-- The value is a number and not an infinity. -/
def isFinite (x : Binary64) : Bool := x.magnitude < infinite

/-- The integer significand of a magnitude: the implicit leading bit is there except for the subnormal numbers. -/
def significand (x : Binary64) : Nat :=
  if x.magnitude < unitExponent then x.magnitude else unitExponent + x.magnitude % unitExponent

/-- The power of two that the significand counts, shifted by 1074 so that it is a natural number. -/
def scale (x : Binary64) : Nat :=
  x.magnitude / unitExponent - 1

/-- Two doubles are equal: the two zeros are one number. -/
def same (x y : Binary64) : Bool :=
  x == y || (x.magnitude == 0 && y.magnitude == 0)

/-! ## Reading: the nearest double to a decimal -/

/-- The quotient rounded to the nearest integer, a tie to the even one. -/
def roundQuotient (num den : Nat) : Nat :=
  let q := num / den
  let twice := 2 * (num % den)
  if twice < den then q
  else if den < twice then q + 1
  else q + q % 2

/-- The magnitude nearest to the positive ratio `num / den`. The shift is chosen so that the rounded quotient has 53 bits,
and never below the shift of the subnormal numbers; a quotient that rounds up to 54 bits carries into the exponent field. -/
def ratioMagnitude (num den : Nat) : Nat :=
  let guess : Int := (num.log2 : Int) - den.log2 - 53
  let scaled (s : Int) : Nat × Nat :=
    if s < 0 then (num <<< s.natAbs, den) else (num, den <<< s.natAbs)
  let shift : Int :=
    let s := max (-1074) guess
    let (n, d) := scaled s
    if 2 * unitExponent ≤ n / d then s + 1 else s
  let (n, d) := scaled shift
  (shift + 1074).toNat * unitExponent + roundQuotient n d

/-- The nearest double to `digits * 10 ^ exponent`, or an infinite one when the number is out of range. Exponents beyond the
range of the doubles are decided without computing the power. -/
def ofDecimal (negative : Bool) (digits : Nat) (exponent : Int) : Binary64 :=
  if digits = 0 then ⟨negative, 0⟩
  else
    let width : Int := (Nat.toDigits 10 digits).length
    if 320 < width + exponent then ⟨negative, infinite⟩
    else if width + exponent < -340 then ⟨negative, 0⟩
    else
      let m :=
        if exponent < 0 then ratioMagnitude digits (Nat.pow 10 exponent.natAbs)
        else ratioMagnitude (digits * Nat.pow 10 exponent.natAbs) 1
      ⟨negative, min m infinite⟩

/-! ## Arithmetic: the nearest double to an exact result -/

/-- The size of a finite double as a ratio of integers. -/
def ratio (x : Binary64) : Nat × Nat :=
  if x.scale < 1074 then (x.significand, 1 <<< (1074 - x.scale)) else (x.significand <<< (x.scale - 1074), 1)

/-- The nearest double to the ratio `num / den`, or an infinite one when it is out of range. -/
def ofRatio (negative : Bool) (num den : Nat) : Binary64 :=
  ⟨negative, if num = 0 then 0 else min (ratioMagnitude num den) infinite⟩

/-- The product of two finite doubles. -/
def mul (x y : Binary64) : Binary64 :=
  ofRatio (x.negative != y.negative) (x.ratio.1 * y.ratio.1) (x.ratio.2 * y.ratio.2)

/-- The quotient of two finite doubles, of which the second one is not zero. -/
def div (x y : Binary64) : Binary64 :=
  ofRatio (x.negative != y.negative) (x.ratio.1 * y.ratio.2) (x.ratio.2 * y.ratio.1)

/-! ## Writing: the fewest digits that read back -/

/-- The reals that read back as a double, and the double itself, in units of a quarter of its scale: lower end, value, upper
end, and whether the ends belong to it. Below a power of two the lower neighbour is at half the distance. -/
structure Neighbourhood where
  lower : Nat
  value : Nat
  upper : Nat
  closed : Bool

/-- The neighbourhood of a finite double. -/
def neighbourhood (x : Binary64) : Neighbourhood where
  lower :=
    if x.magnitude % unitExponent = 0 ∧ 1 < x.magnitude / unitExponent then 4 * x.significand - 1
    else 4 * x.significand - 2
  value := 4 * x.significand
  upper := 4 * x.significand + 2
  closed := x.significand % 2 = 0

/-- A decimal: `digits * 10 ^ exponent`. -/
structure Decimal where
  digits : Nat
  exponent : Int
  deriving DecidableEq, Repr

/-- A count of quarters of a double's scale as a ratio of integers: the unit is `2 ^ (scale - 1076)`. -/
def quarters (x : Binary64) (n : Nat) : Nat × Nat :=
  if x.scale < 1076 then (n, 1 <<< (1076 - x.scale)) else (n <<< (x.scale - 1076), 1)

/-- The decimal on the grid of `10 ^ exponent` that is in the neighbourhood and nearest to the double, if the grid has one.
Only the two grid points around the double need a look; of two at one distance the even one is taken. -/
def onGrid? (x : Binary64) (exponent : Int) : Option Decimal :=
  let h := x.neighbourhood
  let up := if exponent < 0 then Nat.pow 10 exponent.natAbs else 1
  let down := if exponent < 0 then 1 else Nat.pow 10 exponent.natAbs
  let (v, d) := x.quarters h.value
  let (lo, _) := x.quarters h.lower
  let (hi, _) := x.quarters h.upper
  let unit := d * down
  let k := v * up / unit
  let inside (n : Nat) : Bool :=
    if h.closed then lo * up ≤ n * unit && n * unit ≤ hi * up else lo * up < n * unit && n * unit < hi * up
  let toLower := v * up - k * unit
  let toUpper := (k + 1) * unit - v * up
  match inside k, inside (k + 1) with
  | true, true =>
    if toLower < toUpper then some ⟨k, exponent⟩
    else if toUpper < toLower then some ⟨k + 1, exponent⟩
    else some ⟨k + k % 2, exponent⟩
  | true, false => some ⟨k, exponent⟩
  | false, true => some ⟨k + 1, exponent⟩
  | false, false => none

/-- The exponent of the decimal point of a positive ratio: the least `p` with `num / den < 10 ^ p`, found by counting digits
and correcting by one. -/
def pointOf (num den : Nat) : Int :=
  let guess : Int := ((Nat.toDigits 10 num).length : Int) - (Nat.toDigits 10 den).length
  let below (p : Int) : Bool :=
    if p < 0 then num * Nat.pow 10 p.natAbs < den else num < den * Nat.pow 10 p.natAbs
  if below guess then guess else guess + 1

/-- The shortest decimal of a positive finite double: the first grid, from one digit to seventeen, that has a point in the
neighbourhood. -/
def shortest (x : Binary64) : Decimal :=
  let (v, d) := x.quarters x.neighbourhood.value
  let point := pointOf v d
  let grids := (List.range 17).map fun (n : Nat) => point - 1 - Int.ofNat n
  (grids.findSome? x.onGrid?).getD ⟨v / d, 0⟩

/-- Trailing zeros of the digits moved into the exponent. The fuel is a bound on the number of digits. -/
def Decimal.trim : Nat → Decimal → Decimal
  | 0, d => d
  | fuel + 1, d =>
    if d.digits ≠ 0 ∧ d.digits % 10 = 0 then Decimal.trim fuel ⟨d.digits / 10, d.exponent + 1⟩ else d

/-- A run of zeros. -/
def zeros (n : Nat) : List Char := List.replicate n '0'

/-- The text of a shortest decimal: positional with at least one digit after the point when the point falls among or near the
digits, with an exponent otherwise. -/
def Decimal.chars (d : Decimal) : List Char :=
  let digits := Nat.toDigits 10 d.digits
  let width : Int := digits.length
  let point := width + d.exponent
  if 0 ≤ d.exponent ∧ point ≤ 16 then
    digits ++ zeros d.exponent.toNat ++ ['.', '0']
  else if 0 < point ∧ point ≤ 16 then
    digits.take point.toNat ++ ['.'] ++ digits.drop point.toNat
  else if -5 < point ∧ point ≤ 0 then
    ['0', '.'] ++ zeros (-point).toNat ++ digits
  else
    let sign := if 0 < point then '+' else '-'
    let tail := 'e' :: sign :: Nat.toDigits 10 (point - 1).natAbs
    match digits with
    | [one] => one :: tail
    | first :: rest => first :: '.' :: rest ++ tail
    | [] => tail

/-- The text of a finite double. -/
def chars (x : Binary64) : List Char :=
  let body := if x.magnitude = 0 then ['0', '.', '0'] else (x.shortest.trim 20).chars
  if x.negative then '-' :: body else body

/-- The text of a finite double as a string. -/
def text (x : Binary64) : String := String.ofList x.chars

end Binary64

end StepEngine
