import StepEngine.Digits
import StepEngine.Yaml.Token.Gap

/-!
# Quoted scalars

Between single quotes a quote is written twice and all else once. Between double quotes a backslash starts an escape; before a line break it
keeps the break from becoming a space. A mark of a document's start or end may not start a line inside quotes.
-/

namespace StepEngine

namespace Yaml

/-- The next word of a quoted scalar: its characters, the last one first, how many characters of the text it takes, and whether an
escaped line break ends it. -/
structure QuotedWord where
  chars : List Char
  count : Nat
  escapedBreak : Bool

/-- A word between single quotes. -/
def singleWord (acc : List Char) (count : Nat) : List Char → QuotedWord
  | '\'' :: '\'' :: rest => singleWord ('\'' :: acc) (count + 2) rest
  | c :: rest => if c = '\'' || isGap c then ⟨acc, count, false⟩ else singleWord (c :: acc) (count + 1) rest
  | [] => ⟨acc, count, false⟩

/-- The character that a letter stands for behind a backslash. -/
def escaped? (c : Char) : Option Char :=
  match c with
  | '0' => some (Char.ofNat 0)
  | 'a' => some (Char.ofNat 7)
  | 'b' => some (Char.ofNat 8)
  | 't' => some '\t'
  | '\t' => some '\t'
  | 'n' => some '\n'
  | 'v' => some (Char.ofNat 11)
  | 'f' => some (Char.ofNat 12)
  | 'r' => some '\r'
  | 'e' => some (Char.ofNat 27)
  | ' ' => some ' '
  | '"' => some '"'
  | '/' => some '/'
  | '\\' => some '\\'
  | 'N' => some nextLine
  | '_' => some '\u00a0'
  | 'L' => some '\u2028'
  | 'P' => some '\u2029'
  | _ => none

/-- The character whose number hexadecimal digits write. -/
def hexChar? (digits : List Char) : Option Char := do
  let n ← Digits.number? 16 digits
  if (0xD800 ≤ n && n ≤ 0xDFFF) || 0x10FFFF < n then none else some (Char.ofNat n)

/-- A word between double quotes. -/
def doubleWord? (acc : List Char) (count : Nat) : List Char → Option QuotedWord
  | [] => some ⟨acc, count, false⟩
  | '\\' :: 'x' :: a :: b :: rest => (hexChar? [a, b]).bind fun c => doubleWord? (c :: acc) (count + 4) rest
  | '\\' :: 'u' :: a :: b :: c :: d :: rest =>
    (hexChar? [a, b, c, d]).bind fun c => doubleWord? (c :: acc) (count + 6) rest
  | '\\' :: 'U' :: a :: b :: c :: d :: e :: f :: g :: h :: rest =>
    (hexChar? [a, b, c, d, e, f, g, h]).bind fun c => doubleWord? (c :: acc) (count + 10) rest
  | '\\' :: e :: rest =>
    if isBreak e then some ⟨acc, count + 2, true⟩
    else (escaped? e).bind fun c => doubleWord? (c :: acc) (count + 2) rest
  | c :: rest =>
    if c = '\\' then none
    else if c = '"' || isGap c then some ⟨acc, count, false⟩
    else doubleWord? (c :: acc) (count + 1) rest

/-- The words up to the closing quote, behind the parts that are already read; the last part comes first. Every round but the last
reads a character, so the length of the text is fuel enough. -/
def quotedWords? (quote : Char) (word? : List Char → Option QuotedWord) :
    Nat → List (List Char) → Cursor → Option (String × Cursor)
  | 0, _, _ => none
  | fuel + 1, parts, c =>
    if c.atDocumentMark then none
    else
      match word? c.rest with
      | none => none
      | some word =>
        let parts := word.chars.reverse :: parts
        let c := c.skip word.count
        match c.rest with
        | [] => none
        | x :: _ =>
          if x = quote then some (String.ofList parts.reverse.flatten, c.next)
          else
            match (if word.escapedBreak then Gap.lines none [] else Gap.inline []).read? 0 c with
            | none => none
            | some (gap, c) => quotedWords? quote word? fuel (gap.chars :: parts) c

/-- The scalar between single quotes that starts here. -/
def singleQuoted? (c : Cursor) : Option (String × Cursor) :=
  quotedWords? '\'' (fun cs => some (singleWord [] 0 cs)) c.size [] c.next

/-- The scalar between double quotes that starts here. -/
def doubleQuoted? (c : Cursor) : Option (String × Cursor) :=
  quotedWords? '"' (doubleWord? [] 0) c.size [] c.next

end Yaml

end StepEngine
