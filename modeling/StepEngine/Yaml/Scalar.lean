import StepEngine.Digits
import StepEngine.Yaml
import StepEngine.Yaml.Tag

/-!
# The values of scalars

A tag may ask for a value of a certain kind. Without one, a scalar that is written without quotes is nothing, a truth value or a number when it
has the form of one, and a text otherwise. Integers are decimal, or behind `0x`, `0o` and `0b` hexadecimal, octal and binary, and may have a
sign. Decimal digits that start with a zero which is not alone are a text. An integer has to fit 64 bits, signed or unsigned; up to 128 bits a
larger one is refused, and beyond that it is read as a double. Doubles have a fraction or an exponent or name an infinity or the value that is
no number; a decimal too large for a finite double is a text.
-/

namespace StepEngine

namespace Yaml

/-- The nothing that a scalar may write. -/
def isNullText (s : String) : Bool := ["", "null", "Null", "NULL", "~"].contains s

/-- The truth value that a scalar writes. -/
def boolText? (s : String) : Option Bool :=
  if ["true", "True", "TRUE"].contains s then some true
  else if ["false", "False", "FALSE"].contains s then some false
  else none

/-- Decimal digits that start with a zero which is not alone, behind a sign or not. -/
def isPaddedDigits (cs : List Char) : Bool :=
  let digits := match cs with
    | '-' :: rest => rest
    | '+' :: rest => rest
    | _ => cs
  match digits with
  | '0' :: first :: rest => (first :: rest).all fun c => (Digits.decimal? c).isSome
  | _ => false

/-- The natural number that unsigned characters write in the system that their first two name, or else in the decimal one. -/
def magnitude? : List Char → Option Nat
  | '0' :: 'x' :: rest => Digits.number? 16 rest
  | '0' :: 'o' :: rest => Digits.number? 8 rest
  | '0' :: 'b' :: rest => Digits.number? 2 rest
  | cs => Digits.number? 10 cs

/-- The integer that a scalar writes, of at most 128 bits. -/
def integerText? (cs : List Char) : Option Int :=
  if isPaddedDigits cs then none
  else
    match cs with
    | '-' :: rest => ((magnitude? rest).filter (· ≤ Nat.pow 2 127)).map fun n => -(n : Int)
    | '+' :: rest => ((magnitude? rest).filter (· < Nat.pow 2 128)).map Int.ofNat
    | _ => ((magnitude? cs).filter (· < Nat.pow 2 128)).map Int.ofNat

/-- The exponent part of a decimal that ends the text: a sign may precede its digits. -/
def exponentText? : List Char → Option Int
  | [] => some 0
  | e :: rest =>
    if e = 'e' ∨ e = 'E' then
      match rest with
      | '-' :: digits => (Digits.number? 10 digits).map fun n => -(n : Int)
      | '+' :: digits => (Digits.number? 10 digits).map Int.ofNat
      | digits => (Digits.number? 10 digits).map Int.ofNat
    else none

/-- The double that an unsigned decimal writes: digits before the point or behind it, and perhaps an exponent. -/
def decimalText? (negative : Bool) (cs : List Char) : Option Binary64 := do
  let (whole, rest) := Digits.leading cs
  let (places, rest) := match rest with
    | '.' :: rest => Digits.leading rest
    | _ => ([], rest)
  if whole.isEmpty && places.isEmpty then none
  let exponent ← exponentText? rest
  let x := Binary64.ofDecimal negative (Digits.ofDecimals (whole ++ places)) (exponent - places.length)
  if x.isFinite then some x else none

/-- The double that a scalar writes, in any spelling of a number. -/
def floatText? (s : String) : Option Binary64 :=
  if [".inf", ".Inf", ".INF", "+.inf", "+.Inf", "+.INF"].contains s then some (Binary64.infinity false)
  else if ["-.inf", "-.Inf", "-.INF"].contains s then some (Binary64.infinity true)
  else if [".nan", ".NaN", ".NAN"].contains s then some Binary64.notANumber
  else
    match s.toList with
    | '-' :: rest => decimalText? true rest
    | '+' :: rest => decimalText? false rest
    | cs => decimalText? false cs

/-- The value of an integer, if it fits 64 bits. -/
def ofInteger? (n : Int) : Option Yaml :=
  if -0x8000000000000000 ≤ n ∧ n < UInt64.size then some (.int n) else none

/-- The value of a plain scalar without a tag; none when it is an integer that is too large. -/
def ofPlain? (s : String) : Option Yaml :=
  if isNullText s then some .null
  else
    match boolText? s with
    | some b => some (.bool b)
    | none =>
      match integerText? s.toList with
      | some n => ofInteger? n
      | none =>
        if isPaddedDigits s.toList then some (.text s)
        else
          match floatText? s with
          | some x => some (.float x)
          | none => some (.text s)

/-- The value of a scalar. A tag of the core schema asks for a value of its kind, in quotes or not. -/
def ofScalar? (tag : Option Tag) (content : String) (plain : Bool) : Option Yaml :=
  let untagged : Option Yaml := if plain then ofPlain? content else some (.text content)
  match tag with
  | none => untagged
  | some (.named name) => untagged.map (.tagged name)
  | some .bool => (boolText? content).map .bool
  | some .int => (integerText? content.toList).bind ofInteger?
  | some .float => (floatText? content).map .float
  | some .null => if content ≠ "" ∧ isNullText content then some .null else none
  | some .text => some (.text content)

end Yaml

end StepEngine
