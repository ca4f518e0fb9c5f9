import StepEngine.Yaml.Token.Gap

/-!
# Plain scalars

A plain scalar goes on to a colon before a gap, to a comment behind a gap, to a line that is indented less than it has to be, or to
a mark of a document's start or end. Inside brackets a comma or a bracket ends it too, and a colon directly before one of them is refused.
-/

namespace StepEngine

namespace Yaml

/-- How many characters the next word of a plain scalar has. -/
def plainWord? (flow : Bool) (count : Nat) : List Char → Option Nat
  | [] => some count
  | c :: rest =>
    if isGap c then some count
    else if c = ':' && flow && rest.head?.any [',', '?', '[', ']', '\x7b', '\x7d'].contains then none
    else if c = ':' && endsWord rest then some count
    else if flow && [',', '[', ']', '\x7b', '\x7d'].contains c then some count
    else plainWord? flow (count + 1) rest

/-- A plain scalar that is read: its text, whether a line break follows its last word, and the place behind it. -/
structure PlainScalar where
  text : String
  broken : Bool
  next : Cursor

/-- The words from here on, behind the parts that are already read and the gap behind them; the last part comes first. Every word but the
last has a character, so the length of the text is fuel enough. -/
def plainWords? (flow : Bool) (indent : Nat) : Nat → List (List Char) → Gap → Cursor → Option PlainScalar
  | 0, _, _, _ => none
  | fuel + 1, parts, gap, c =>
    let done (parts : List (List Char)) (broken : Bool) (c : Cursor) : Option PlainScalar :=
      some ⟨String.ofList parts.reverse.flatten, broken, c⟩
    if c.atDocumentMark || c.rest.head? == some '#' then done parts gap.isBroken c
    else
      match plainWord? flow 0 c.rest with
      | none => none
      | some 0 => done parts gap.isBroken c
      | some count =>
        let parts := c.rest.take count :: gap.chars :: parts
        let c := c.skip count
        if c.rest.isEmpty || !endsWord c.rest then done parts false c
        else
          match (Gap.inline []).read? indent c with
          | none => none
          | some (gap, c) =>
            if !flow && c.column < indent then done parts gap.isBroken c else plainWords? flow indent fuel parts gap c

/-- The plain scalar that starts here. Its lines have to be indented to the given column. -/
def plainScalar? (flow : Bool) (indent : Nat) (c : Cursor) : Option PlainScalar :=
  plainWords? flow indent (c.size + 1) [] (.inline []) c

end Yaml

end StepEngine
