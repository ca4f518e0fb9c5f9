import StepEngine.Json

/-!
# The text of a JSON value

Values are written compactly: no blanks, the fields of an object in key order. In a string the quotation mark, the backslash and
the characters below the space are escaped, the common ones by a letter and the rest by four hexadecimal digits; every other
character stands for itself.
-/

namespace StepEngine

namespace Json

/-- A digit of base sixteen, in lower case. -/
def hexDigit (n : Nat) : Char := Nat.digitChar (n % 16)

/-- A character as it is written inside a string. -/
def escapeChar (c : Char) : List Char :=
  if c = '"' then ['\\', '"']
  else if c = '\\' then ['\\', '\\']
  else if c = '\n' then ['\\', 'n']
  else if c = '\r' then ['\\', 'r']
  else if c = '\t' then ['\\', 't']
  else if c.toNat = 8 then ['\\', 'b']
  else if c.toNat = 12 then ['\\', 'f']
  else if c.toNat < 32 then ['\\', 'u', '0', '0', hexDigit (c.toNat / 16), hexDigit c.toNat]
  else [c]

/-- A string between quotation marks. -/
def quote (s : String) : String :=
  "\"" ++ String.ofList (s.toList.flatMap escapeChar) ++ "\""

mutual

/-- The compact text of a value, behind the text that is already written. -/
def write (out : String) : Json → String
  | .null => out ++ "null"
  | .bool true => out ++ "true"
  | .bool false => out ++ "false"
  | .int n => out ++ toString n
  | .float x => out ++ x.text
  | .text s => out ++ quote s
  | .array [] => out ++ "[]"
  | .array (first :: rest) => writeItems (write (out ++ "[") first) rest ++ "]"
  | .object [] => out ++ "\x7b\x7d"
  | .object ((key, value) :: rest) => writeFields (write (out ++ "\x7b" ++ quote key ++ ":") value) rest ++ "\x7d"

/-- The items after the first, each behind a comma. -/
def writeItems (out : String) : List Json → String
  | [] => out
  | item :: rest => writeItems (write (out ++ ",") item) rest

/-- The fields after the first, each behind a comma. -/
def writeFields (out : String) : List (String × Json) → String
  | [] => out
  | (key, value) :: rest => writeFields (write (out ++ "," ++ quote key ++ ":") value) rest

end

/-- The compact text of a value. -/
def render (j : Json) : String := write "" j

end Json

end StepEngine
