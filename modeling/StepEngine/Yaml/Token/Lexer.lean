import StepEngine.Yaml.Token.Block
import StepEngine.Yaml.Token.Plain
import StepEngine.Yaml.Token.Property
import StepEngine.Yaml.Token.Quoted

/-!
# The tokens of a YAML text

The indentation of a text opens and closes block collections. A key of a mapping is recognised only at the colon behind it: every place where
a key may start is remembered, and when the colon comes on the same line and not too far behind, the key and perhaps a block mapping are said
to start there. Inside brackets indentation does not count.
-/

namespace StepEngine

namespace Yaml

/-- A place where a key may start: how many tokens precede it, and whether it has to be a key because nothing else may stand there. -/
structure Candidate where
  number : Nat
  required : Bool
  start : Cursor

/-- A reader in the middle of a text. -/
structure Lexer where
  cursor : Cursor
  /-- The tokens so far, the last one first. -/
  tokens : List Token
  count : Nat
  /-- The columns of the open block collections, the innermost one first. -/
  indents : List Nat
  /-- A key may start here. -/
  keyAllowed : Bool
  /-- The last place inside the innermost brackets where a key may start. -/
  candidate : Option Candidate
  /-- The same for the brackets around them, and last for the text outside of all brackets. -/
  outer : List (Option Candidate)

namespace Lexer

/-- A key and its colon are at most this many octets apart. -/
def keySpan : Nat := 1024

/-- The start of a text. -/
def start (cs : List Char) : Lexer := ⟨Cursor.start cs, [], 0, [], true, none, []⟩

/-- The reader is inside brackets. -/
def inFlow (l : Lexer) : Bool := !l.outer.isEmpty

/-- The least column that is deeper than the innermost block collection. -/
def floor (l : Lexer) : Nat :=
  match l.indents with
  | [] => 0
  | column :: _ => column + 1

/-- One more token, and the place behind it. -/
def emit (l : Lexer) (t : Token) (c : Cursor) : Lexer := { l with cursor := c, tokens := t :: l.tokens, count := l.count + 1 }

/-- A token put behind the first `number` ones. -/
def insertAt (l : Lexer) (number : Nat) (t : Token) : Lexer :=
  let later := l.count - number
  { l with tokens := l.tokens.take later ++ t :: l.tokens.drop later, count := l.count + 1 }

/-- A block collection starts at a column, if that is deeper than the innermost one; its token is put behind the first `number` ones. -/
def openBlock (l : Lexer) (column number : Nat) (t : Token) : Lexer :=
  if l.inFlow || column < l.floor then l else { l with indents := column :: l.indents }.insertAt number t

/-- The innermost block collection ends. -/
def endBlock (l : Lexer) : Lexer := { l with indents := l.indents.tail }.emit .blockEnd l.cursor

/-- The block collections deeper than a column end, or all of them. -/
def closeBlocks (l : Lexer) (column : Option Nat) : Lexer :=
  if l.inFlow then l
  else (l.indents.takeWhile fun n => column.all (· < n)).foldl (fun l _ => l.endBlock) l

/-- What may have been a key is none; one that has to be a key is refused. -/
def dropCandidate? (l : Lexer) : Option Lexer :=
  if l.candidate.any (·.required) then none else some { l with candidate := none }

/-- What may have been a key is none when its line has ended or it is too far away. -/
def dropStale? (l : Lexer) : Option Lexer :=
  match l.candidate with
  | none => some l
  | some k =>
    if k.start.line < l.cursor.line || k.start.index + keySpan < l.cursor.index then l.dropCandidate? else some l

/-- A key may start here, if one is allowed. -/
def noteCandidate? (l : Lexer) : Option Lexer :=
  if l.keyAllowed then
    l.dropCandidate?.map fun l =>
      let required := !l.inFlow && l.indents.head? == some l.cursor.column
      { l with candidate := some ⟨l.count, required, l.cursor⟩ }
  else some l

/-- Blanks, comments and line breaks are passed over. A tab is a blank only where indentation does not count. The length of the text is fuel
enough. -/
def toToken : Nat → Lexer → Lexer
  | 0, l => l
  | fuel + 1, l =>
    let c := if l.cursor.column = 0 && l.cursor.rest.head? == some byteOrderMark then l.cursor.next else l.cursor
    let c := c.skipWhile fun x => x = ' ' || ((l.inFlow || !l.keyAllowed) && x = '\t')
    let c := c.skipComment
    if c.rest.head?.any isBreak then
      toToken fuel { l with cursor := c.next, keyAllowed := l.keyAllowed || !l.inFlow }
    else { l with cursor := c }

/-! ## The tokens by their first characters -/

/-- A directive. -/
def directive? (l : Lexer) : Option Lexer := do
  let l ← (l.closeBlocks none).dropCandidate?
  let (t, c) ← Yaml.directive? l.cursor
  return { l with keyAllowed := false }.emit t c

/-- A mark of a document's start or end. -/
def documentMark? (l : Lexer) (t : Token) : Option Lexer :=
  (l.closeBlocks none).dropCandidate?.map fun l => { l with keyAllowed := false }.emit t (l.cursor.skip 3)

/-- An opening bracket. -/
def openFlow? (l : Lexer) (t : Token) : Option Lexer :=
  l.noteCandidate?.map fun l =>
    { l with keyAllowed := true, candidate := none, outer := l.candidate :: l.outer }.emit t l.cursor.next

/-- A closing bracket. -/
def closeFlow? (l : Lexer) (t : Token) : Option Lexer :=
  l.dropCandidate?.map fun l =>
    { l with keyAllowed := false, candidate := l.outer.head?.join, outer := l.outer.tail }.emit t l.cursor.next

/-- A comma. -/
def flowEntry? (l : Lexer) : Option Lexer :=
  l.dropCandidate?.map fun l => { l with keyAllowed := true }.emit .flowEntry l.cursor.next

/-- A hyphen before an item of a block sequence. -/
def blockEntry? (l : Lexer) : Option Lexer :=
  if !l.inFlow && !l.keyAllowed then none
  else
    (l.openBlock l.cursor.column l.count .blockSequenceStart).dropCandidate?.map fun l =>
      { l with keyAllowed := true }.emit .blockEntry l.cursor.next

/-- A question mark before a key. -/
def key? (l : Lexer) : Option Lexer :=
  if !l.inFlow && !l.keyAllowed then none
  else
    (l.openBlock l.cursor.column l.count .blockMappingStart).dropCandidate?.map fun l =>
      { l with keyAllowed := !l.inFlow }.emit .key l.cursor.next

/-- A colon before a value. What may have been a key is one. -/
def value? (l : Lexer) : Option Lexer :=
  match l.candidate with
  | some k =>
    let l := (l.insertAt k.number .key).openBlock k.start.column k.number .blockMappingStart
    some ({ l with candidate := none, keyAllowed := false }.emit .value l.cursor.next)
  | none =>
    if !l.inFlow && !l.keyAllowed then none
    else
      let l := l.openBlock l.cursor.column l.count .blockMappingStart
      some ({ l with keyAllowed := !l.inFlow }.emit .value l.cursor.next)

/-- An anchor or an alias. -/
def anchor? (l : Lexer) (token : String → Token) : Option Lexer := do
  let l ← l.noteCandidate?
  let (name, c) ← anchorName? l.cursor
  return { l with keyAllowed := false }.emit (token name) c

/-- A tag, which has to end as a word, or inside brackets before a comma. -/
def tag? (l : Lexer) : Option Lexer := do
  let l ← l.noteCandidate?
  let (t, c) ← Yaml.tag? l.cursor
  if endsWord c.rest || (l.inFlow && c.rest.head? == some ',') then
    return { l with keyAllowed := false }.emit t c
  else none

/-- A block scalar, which is no key. -/
def block? (l : Lexer) (literal : Bool) : Option Lexer := do
  let l ← l.dropCandidate?
  let (content, c) ← blockScalar? literal l.floor l.cursor
  return { l with keyAllowed := true }.emit (.scalar content false) c

/-- A quoted scalar. -/
def quoted? (l : Lexer) (scalar? : Cursor → Option (String × Cursor)) : Option Lexer := do
  let l ← l.noteCandidate?
  let (content, c) ← scalar? l.cursor
  return { l with keyAllowed := false }.emit (.scalar content false) c

/-- A plain scalar. Behind a line break a key may start again. -/
def plain? (l : Lexer) : Option Lexer := do
  let l ← l.noteCandidate?
  let s ← plainScalar? l.inFlow l.floor l.cursor
  return { l with keyAllowed := s.broken }.emit (.scalar s.text true) s.next

/-- The token that starts with the next character. -/
def token? (l : Lexer) : Option Lexer :=
  let c := l.cursor
  if c.column = 0 && c.rest.head? == some '%' then l.directive?
  else if c.atMark '-' then l.documentMark? .documentStart
  else if c.atMark '.' then l.documentMark? .documentEnd
  else
    match c.rest with
    | [] => none
    | x :: rest =>
      match x with
      | '[' => l.openFlow? .flowSequenceStart
      | '\x7b' => l.openFlow? .flowMappingStart
      | ']' => l.closeFlow? .flowSequenceEnd
      | '\x7d' => l.closeFlow? .flowMappingEnd
      | ',' => l.flowEntry?
      | '-' => if endsWord rest then l.blockEntry? else l.plain?
      | '?' => if l.inFlow || endsWord rest then l.key? else l.plain?
      | ':' => if l.inFlow || endsWord rest then l.value? else l.plain?
      | '*' => l.anchor? .alias
      | '&' => l.anchor? .anchor
      | '!' => l.tag?
      | '|' => if l.inFlow then none else l.block? true
      | '>' => if l.inFlow then none else l.block? false
      | '\'' => l.quoted? singleQuoted?
      | '"' => l.quoted? doubleQuoted?
      | '%' => none
      | '@' => none
      | '\x60' => none
      | _ => if isBlank x then none else l.plain?

/-- The rest of the text. Every round but the last reads a character, so the length of the text is fuel enough. -/
def run? : Nat → Lexer → Option Lexer
  | 0, _ => none
  | fuel + 1, l =>
    match (toToken (l.cursor.size + 1) l).dropStale? with
    | none => none
    | some l =>
      let l := l.closeBlocks (some l.cursor.column)
      if l.cursor.rest.isEmpty then (l.closeBlocks none).dropCandidate? else l.token?.bind (run? fuel)

end Lexer

/-- The tokens of a text. -/
def Token.ofText? (s : String) : Option (List Token) :=
  let cs := unifyBreaks [] s.toList
  if cs.all isAllowed then ((Lexer.start cs).run? (cs.length + 1)).map fun l => l.tokens.reverse else none

end Yaml

end StepEngine
