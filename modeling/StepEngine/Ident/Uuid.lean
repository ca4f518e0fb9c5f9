import StepEngine.Digits

/-!
# Uuid: 128-bit identifiers and their text

An identifier is a number of 128 bits, written as 32 hexadecimal digits in lower case, in groups of 8, 4, 4, 4 and 12 with hyphens
between them. Reading takes either case and also the plain digits without hyphens, a text in braces, and one behind the name-space
mark. The order of the numbers is the order of their texts.
-/

namespace StepEngine

/-- A 128-bit identifier. -/
structure Uuid where
  value : BitVec 128
  deriving DecidableEq, Repr

namespace Uuid

/-- The identifier whose number is `n`, modulo `2 ^ 128`. -/
def ofNat (n : Nat) : Uuid := ⟨BitVec.ofNat 128 n⟩

instance : Inhabited Uuid := ⟨ofNat 0⟩

/-- The hexadecimal digits of the last `count` places of a number, the most significant first. -/
def hexDigits : Nat → Nat → List Char
  | 0, _ => []
  | count + 1, n => hexDigits count (n / 16) ++ [Nat.digitChar (n % 16)]

/-- The 32 hexadecimal digits. -/
def plainChars (u : Uuid) : List Char := hexDigits 32 u.value.toNat

/-- The digits in their groups, with hyphens between them. -/
def chars (u : Uuid) : List Char :=
  let d := u.plainChars
  d.take 8 ++ '-' :: (d.drop 8).take 4 ++ '-' :: (d.drop 12).take 4 ++ '-' :: (d.drop 16).take 4 ++ '-' :: d.drop 20

/-- The 32 hexadecimal digits as a text. -/
def plainText (u : Uuid) : String := String.ofList u.plainChars

/-- The text with hyphens. -/
def text (u : Uuid) : String := String.ofList u.chars

/-- The identifier written by 32 digits. -/
def ofPlain? (cs : List Char) : Option Uuid :=
  if cs.length = 32 then (Digits.number? 16 cs).map ofNat else none

/-- The identifier written by digits in their groups. -/
def ofGrouped? (cs : List Char) : Option Uuid :=
  if cs.length = 36 ∧ cs[8]? = some '-' ∧ cs[13]? = some '-' ∧ cs[18]? = some '-' ∧ cs[23]? = some '-' then
    ofPlain? (cs.take 8 ++ (cs.drop 9).take 4 ++ (cs.drop 14).take 4 ++ (cs.drop 19).take 4 ++ cs.drop 24)
  else none

/-- The name-space mark of identifiers, in either case. -/
def isMark (cs : List Char) : Bool := cs.map Char.toLower = "urn:uuid:".toList

/-- The identifier that a list of characters writes. -/
def ofChars? (cs : List Char) : Option Uuid :=
  if isMark (cs.take 9) then ofGrouped? (cs.drop 9)
  else
    match cs with
    | '\x7b' :: rest => if rest.getLast? = some '\x7d' then ofGrouped? rest.dropLast else ofPlain? cs
    | _ => if cs.length = 32 then ofPlain? cs else ofGrouped? cs

/-- The identifier that a text writes. -/
def ofText? (s : String) : Option Uuid := ofChars? s.toList

end Uuid

end StepEngine
