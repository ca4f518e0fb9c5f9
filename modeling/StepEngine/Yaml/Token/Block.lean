import StepEngine.Digits
import StepEngine.Yaml.Cursor

/-!
# Block scalars

A block scalar is written on lines of its own below its header. The header says whether line breaks are kept or folded, what becomes of the
breaks at the end, and perhaps by how much the lines are indented; otherwise the first line that is not empty decides. Folding makes a
single break between two lines that start without a blank a space.
-/

namespace StepEngine

namespace Yaml

/-- What becomes of the line breaks at the end of a block scalar. -/
inductive Chomping where
  /-- None is kept. -/
  | strip
  /-- One is kept. -/
  | clip
  /-- All are kept. -/
  | keep

/-- The chomping that a character of the header asks for. -/
def Chomping.ofChar? (c : Char) : Option Chomping :=
  if c = '+' then some keep else if c = '-' then some strip else none

/-- The header of a block scalar behind its first character: the chomping, the extra indentation if it is given, and how many characters
this takes. An indentation of zero is refused. -/
def blockHeader? (cs : List Char) : Option (Chomping × Option Nat × Nat) :=
  let digit? (c : Char) : Option Nat := Digits.decimal? c
  match cs with
  | [] => some (.clip, none, 0)
  | a :: rest =>
    match Chomping.ofChar? a with
    | some chomping =>
      match rest.head?.bind digit? with
      | some 0 => none
      | some n => some (chomping, some n, 2)
      | none => some (chomping, none, 1)
    | none =>
      match digit? a with
      | some 0 => none
      | some n =>
        match rest.head?.bind Chomping.ofChar? with
        | some chomping => some (chomping, some n, 2)
        | none => some (.clip, some n, 1)
      | none => some (.clip, none, 0)

/-- What stands before a line of a block scalar: the breaks of empty lines, the last one first, the widest indentation seen, and the
place behind it. -/
structure BlockMargin where
  breaks : List Char
  widest : Nat
  next : Cursor

/-- The indentation and the empty lines from here on; without a known indentation all leading spaces belong to it. A tab in the place of
the indentation is refused. The length of the text is fuel enough. -/
def blockMargin? (indent : Option Nat) : Nat → List Char → Nat → Cursor → Option BlockMargin
  | 0, _, _, _ => none
  | fuel + 1, breaks, widest, c =>
    let spaces := (c.rest.takeWhile (· = ' ')).length
    let c := c.skip (match indent with
      | some n => min spaces (n - c.column)
      | none => spaces)
    let widest := max widest c.column
    let open_ := indent.all (c.column < ·)
    match c.rest with
    | [] => some ⟨breaks, widest, c⟩
    | x :: _ =>
      if open_ && x = '\t' then none
      else if isBreak x then blockMargin? indent fuel (x :: breaks) widest c.next
      else some ⟨breaks, widest, c⟩

/-- A block scalar in the middle: the parts that are read, the last one first, the break behind the last line, the empty lines behind it, the
last one first, and whether the last line starts with a blank. -/
structure BlockText where
  parts : List (List Char)
  lastBreak : Option Char
  breaks : List Char
  blankStart : Bool

/-- The text with another line behind it. -/
def BlockText.add (literal : Bool) (t : BlockText) (line : List Char) (lineBreak : Option Char) (breaks : List Char) :
    BlockText :=
  let blankStart := line.head?.any isBlank
  let joint :=
    if !literal && t.lastBreak == some '\n' && !t.blankStart && !blankStart then
      if t.breaks.isEmpty then [' '] else []
    else t.lastBreak.toList
  ⟨line :: t.breaks.reverse :: joint :: t.parts, lineBreak, breaks, blankStart⟩

/-- The characters of a block scalar that is complete. -/
def BlockText.chars (chomping : Chomping) (t : BlockText) : List Char :=
  let tail := match chomping with
    | .strip => []
    | .clip => t.lastBreak.toList
    | .keep => t.lastBreak.toList ++ t.breaks.reverse
  t.parts.reverse.flatten ++ tail

/-- The lines from here on. Every line has a character or a break, so the length of the text is fuel enough. -/
def blockLines? (literal : Bool) (indent : Nat) : Nat → BlockText → Cursor → Option (BlockText × Cursor)
  | 0, _, _ => none
  | fuel + 1, t, c =>
    if c.column ≠ indent || c.rest.isEmpty then some (t, c)
    else
      let (line, c) := c.span fun x => !isBreak x
      match blockMargin? (some indent) (c.size + 1) [] 0 c.next with
      | none => none
      | some margin => blockLines? literal indent fuel (t.add literal line c.rest.head? margin.breaks) margin.next

/-- The block scalar whose header starts here. Its lines are indented to the given column at least. -/
def blockScalar? (literal : Bool) (floor : Nat) (c : Cursor) : Option (String × Cursor) := do
  let c := c.next
  let (chomping, extra, count) ← blockHeader? c.rest
  let c ← (c.skip count).endOfLine?
  let given := extra.map fun n => floor - 1 + n
  let margin ← blockMargin? given (c.size + 1) [] 0 c
  let indent := given.getD (max (max margin.widest floor) 1)
  let (t, c) ← blockLines? literal indent (c.size + 1) ⟨[], none, margin.breaks, false⟩ margin.next
  return (String.ofList (t.chars chomping), c)

end Yaml

end StepEngine
