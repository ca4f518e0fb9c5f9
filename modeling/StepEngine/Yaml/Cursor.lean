/-!
# Places in a YAML text

The structure of a YAML text depends on lines and columns, so a reader keeps its place. All line breaks but two are read as a line feed; the
line separator and the paragraph separator end a line too but stay what they are.
-/

namespace StepEngine

namespace Yaml

/-- The characters that a text may hold. -/
def isAllowed (c : Char) : Bool :=
  let n := c.toNat
  n = 0x9 || n = 0xA || n = 0xD || (0x20 ≤ n && n ≤ 0x7E) || n = 0x85 || (0xA0 ≤ n && n ≤ 0xD7FF)
    || (0xE000 ≤ n && n ≤ 0xFFFD) || 0x10000 ≤ n

/-- The next-line character. -/
def nextLine : Char := '\u0085'

/-- The mark that may stand at the start of a line. It says nothing, but it takes a column. -/
def byteOrderMark : Char := '\ufeff'

/-- The text with a line feed in the place of every carriage return, of every carriage return with its line feed, and of every
next-line character. -/
def unifyBreaks (acc : List Char) : List Char → List Char
  | [] => acc.reverse
  | '\r' :: '\n' :: rest => unifyBreaks ('\n' :: acc) rest
  | c :: rest => unifyBreaks ((if c = '\r' || c = nextLine then '\n' else c) :: acc) rest

/-- The character ends a line. -/
def isBreak (c : Char) : Bool := c = '\n' || c = '\u2028' || c = '\u2029'

/-- A space or a tab. -/
def isBlank (c : Char) : Bool := c = ' ' || c = '\t'

/-- A space, a tab or the end of a line. -/
def isGap (c : Char) : Bool := isBlank c || isBreak c

/-- A character of a name: an ASCII letter or digit, the low line or the hyphen. -/
def isNameChar (c : Char) : Bool := c.isAlphanum || c = '_' || c = '-'

/-- A word ends here: the text does, or a space, a tab or the end of a line follows. -/
def endsWord : List Char → Bool
  | [] => true
  | c :: _ => isGap c

/-- A line ends here, or the text does. -/
def endsLine : List Char → Bool
  | [] => true
  | c :: _ => isBreak c

/-- A place in a text: what is left of it, how many octets, lines and columns precede, and how many characters the whole text has. A line break
counts as the character it is read as. -/
structure Cursor where
  rest : List Char
  size : Nat
  index : Nat
  line : Nat
  column : Nat

namespace Cursor

/-- The start of a text. -/
def start (cs : List Char) : Cursor := ⟨cs, cs.length, 0, 0, 0⟩

/-- The place behind the next character. -/
def next : Cursor → Cursor
  | ⟨[], size, index, line, column⟩ => ⟨[], size, index, line, column⟩
  | ⟨c :: rest, size, index, line, column⟩ =>
    if isBreak c then ⟨rest, size, index + c.utf8Size, line + 1, 0⟩ else ⟨rest, size, index + c.utf8Size, line, column + 1⟩

/-- The place behind a number of characters. -/
def skip : Nat → Cursor → Cursor
  | 0, c => c
  | n + 1, c => skip n c.next

/-- The longest run of characters of a class, and the place behind it. -/
def span (p : Char → Bool) (c : Cursor) : List Char × Cursor :=
  let taken := c.rest.takeWhile p
  (taken, c.skip taken.length)

/-- The place behind the longest run of characters of a class. -/
def skipWhile (p : Char → Bool) (c : Cursor) : Cursor := (c.span p).2

/-- The place behind a comment, if one starts here. -/
def skipComment (c : Cursor) : Cursor :=
  match c.rest with
  | '#' :: _ => c.skipWhile fun x => !isBreak x
  | _ => c

/-- Three equal characters start the line here and are a word: they mark a document's start or end. -/
def atMark (mark : Char) (c : Cursor) : Bool :=
  c.column = 0 &&
    match c.rest with
    | x :: y :: z :: rest => x = mark && y = mark && z = mark && endsWord rest
    | _ => false

/-- The line starts with a mark of a document's start or end. -/
def atDocumentMark (c : Cursor) : Bool := c.atMark '-' || c.atMark '.'

/-- The end of a line behind blanks and perhaps a comment, if nothing else is on it. -/
def endOfLine? (c : Cursor) : Option Cursor :=
  let c := (c.skipWhile isBlank).skipComment
  if endsLine c.rest then some c.next else none

end Cursor

end Yaml

end StepEngine
