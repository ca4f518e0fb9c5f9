import StepEngine.Text.HiddenTable

/-!
# Quoted texts

A text stands between quotation marks so that every character of it can be told: quotation marks, backslashes, line breaks, tabs and zeros are
written by a letter behind a backslash, and other hidden characters by their hexadecimal numbers.
-/

namespace StepEngine

namespace Quoted

/-- A hidden character by its number. -/
def numbered (c : Char) : List Char := ['\\', 'u', '\x7b'] ++ Nat.toDigits 16 c.toNat ++ ['\x7d']

/-- A character inside quotation marks. -/
def escape (c : Char) : List Char :=
  match c with
  | '"' => ['\\', '"']
  | '\\' => ['\\', '\\']
  | '\n' => ['\\', 'n']
  | '\r' => ['\\', 'r']
  | '\t' => ['\\', 't']
  | '\x00' => ['\\', '0']
  | c => if hiddenRanges.contains c then numbered c else [c]

/-- A text between quotation marks. -/
def quote (s : String) : String := String.ofList ('"' :: s.toList.flatMap escape ++ ['"'])

end Quoted

end StepEngine
