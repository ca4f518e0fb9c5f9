import StepEngine.Json.Number

/-!
# Tokens of a JSON text

The text of a value is cut into brackets, separators, literals, numbers and strings; blanks between them are dropped. Numbers and
strings are decoded. A text that is no sequence of tokens has none.
-/

namespace StepEngine

namespace Json

/-- A token. -/
inductive Token where
  | openArray
  | closeArray
  | openObject
  | closeObject
  | comma
  | colon
  | scalar (value : Json)
  | text (value : String)

namespace Token

/-- The number written by four hexadecimal digits. -/
def hex4? (a b c d : Char) : Option Nat := do
  return (((← Digits.hex? a) * 16 + (← Digits.hex? b)) * 16 + (← Digits.hex? c)) * 16 + (← Digits.hex? d)

/-- The character that a letter stands for behind a backslash. -/
def unescape? (c : Char) : Option Char :=
  match c with
  | '"' => some '"'
  | '\\' => some '\\'
  | '/' => some '/'
  | 'b' => some (Char.ofNat 8)
  | 'f' => some (Char.ofNat 12)
  | 'n' => some '\n'
  | 'r' => some '\r'
  | 't' => some '\t'
  | _ => none

/-- The rest of a string behind its opening quotation mark: its characters and what follows the closing mark. Two escapes
that are a surrogate pair are one character; a surrogate alone, and a control character that is not escaped, are refused. -/
def string? (acc : List Char) : List Char → Option (String × List Char)
  | [] => none
  | '"' :: rest => some (String.ofList acc.reverse, rest)
  | '\\' :: 'u' :: a :: b :: c :: d :: rest =>
    match hex4? a b c d with
    | none => none
    | some n =>
      if n < 0xD800 ∨ 0xE000 ≤ n then string? (Char.ofNat n :: acc) rest
      else if 0xDC00 ≤ n then none
      else
        match rest with
        | '\\' :: 'u' :: e :: f :: g :: h :: rest =>
          match hex4? e f g h with
          | none => none
          | some m =>
            if 0xDC00 ≤ m ∧ m < 0xE000 then
              string? (Char.ofNat (0x10000 + (n - 0xD800) * 0x400 + (m - 0xDC00)) :: acc) rest
            else none
        | _ => none
  | '\\' :: c :: rest =>
    match unescape? c with
    | some d => string? (d :: acc) rest
    | none => none
  | c :: rest => if c.toNat < 32 ∨ c = '\\' then none else string? (c :: acc) rest

/-- The blanks between tokens. -/
def isBlank (c : Char) : Bool := c = ' ' || c = '\n' || c = '\t' || c = '\r'

/-- The first token of a text that does not start with a blank, and the rest. -/
def first? : List Char → Option (Token × List Char)
  | '[' :: rest => some (.openArray, rest)
  | ']' :: rest => some (.closeArray, rest)
  | '\x7b' :: rest => some (.openObject, rest)
  | '\x7d' :: rest => some (.closeObject, rest)
  | ',' :: rest => some (.comma, rest)
  | ':' :: rest => some (.colon, rest)
  | 'n' :: 'u' :: 'l' :: 'l' :: rest => some (.scalar .null, rest)
  | 't' :: 'r' :: 'u' :: 'e' :: rest => some (.scalar (.bool true), rest)
  | 'f' :: 'a' :: 'l' :: 's' :: 'e' :: rest => some (.scalar (.bool false), rest)
  | '"' :: rest => (string? [] rest).map fun (s, rest) => (.text s, rest)
  | '-' :: rest => (number? true rest).map fun (j, rest) => (.scalar j, rest)
  | cs => (number? false cs).map fun (j, rest) => (.scalar j, rest)

/-- The tokens of a text, behind those already found. Each token takes at least one character, so the length of the text
is fuel enough. -/
def scan (fuel : Nat) (acc : List Token) (cs : List Char) : Option (List Token) :=
  match fuel, cs.dropWhile isBlank with
  | _, [] => some acc.reverse
  | 0, _ => none
  | fuel + 1, cs => (first? cs).bind fun (t, rest) => scan fuel (t :: acc) rest

/-- The tokens of a text. -/
def ofText? (s : String) : Option (List Token) := scan s.length [] s.toList

end Token

end Json

end StepEngine
