import StepEngine.Digits
import StepEngine.Yaml.Cursor
import StepEngine.Yaml.Tag
import StepEngine.Yaml.Token

/-!
# Anchors, aliases, tags and directives

The properties of a node are an anchor and a tag. A tag is written in full between angle brackets, or as a handle and a suffix, where
directives say what a handle stands for. Octets of a tag may be written by hexadecimal digits.
-/

namespace StepEngine

namespace Yaml

/-- The name of an anchor or an alias behind its first character, and the place behind it. -/
def anchorName? (c : Cursor) : Option (String × Cursor) :=
  let (name, c) := c.next.span isNameChar
  let ended := endsWord c.rest || c.rest.head?.any ['?', ':', ',', ']', '\x7d', '%', '@', '\x60'].contains
  if name.isEmpty || !ended then none else some (String.ofList name, c)

/-- A character that stands for itself in a tag; between angle brackets some more do. -/
def isTagChar (verbatim : Bool) (c : Char) : Bool :=
  isNameChar c
    || [';', '/', '?', ':', '@', '&', '=', '+', '$', '.', '!', '~', '*', '\'', '(', ')'].contains c
    || (verbatim && [',', '[', ']'].contains c)

/-- How many octets have to follow this one, when `missing` octets are still to come of the character before. Only the first bits of an octet
are looked at, so the octets need not be UTF-8. -/
def octetsAfter? (missing octet : Nat) : Option Nat :=
  if missing ≠ 0 then if 0x80 ≤ octet && octet < 0xC0 then some (missing - 1) else none
  else if octet < 0x80 then some 0
  else if octet < 0xC0 then none
  else if octet < 0xE0 then some 1
  else if octet < 0xF0 then some 2
  else if octet < 0xF8 then some 3
  else none

/-- The octets of a tag from here on, the last one first, and how many characters of the text they take, when `missing` octets are still to come
of an escaped character. -/
def tagOctets? (verbatim : Bool) (acc : List UInt8) (count missing : Nat) : List Char → Option (List UInt8 × Nat)
  | '%' :: a :: b :: rest =>
    match Digits.number? 16 [a, b] with
    | none => none
    | some octet =>
      match octetsAfter? missing octet with
      | none => none
      | some missing => tagOctets? verbatim (UInt8.ofNat octet :: acc) (count + 3) missing rest
  | c :: rest =>
    if c = '%' || missing ≠ 0 then none
    else if isTagChar verbatim c then tagOctets? verbatim (UInt8.ofNat c.toNat :: acc) (count + 1) 0 rest
    else some (acc, count)
  | [] => if missing = 0 then some (acc, count) else none

/-- The octets of a tag from here on, and the place behind them. -/
def tagText? (verbatim : Bool) (c : Cursor) : Option (List UInt8 × Cursor) :=
  (tagOctets? verbatim [] 0 0 c.rest).map fun p => (p.1.reverse, c.skip p.2)

/-- A tag ends at its first zero octet, whatever is written behind it. -/
def untilZero (os : List UInt8) : List UInt8 := os.takeWhile (· ≠ 0)

/-- The handle of a tag: a mark, a name, and whether a second mark closes it. -/
structure Handle where
  name : List Char
  closed : Bool
  next : Cursor

/-- The text of a handle. -/
def Handle.text (h : Handle) : String := String.ofList ('!' :: h.name ++ if h.closed then ['!'] else [])

/-- The handle that starts here, if one does. -/
def handle? (c : Cursor) : Option Handle :=
  match c.rest with
  | '!' :: _ =>
    let (name, c) := c.next.span isNameChar
    match c.rest with
    | '!' :: _ => some ⟨name, true, c.next⟩
    | _ => some ⟨name, false, c⟩
  | _ => none

/-- The tag that starts here, and the place behind it. -/
def tag? (c : Cursor) : Option (Token × Cursor) :=
  match c.rest with
  | '!' :: '<' :: _ =>
    match tagText? true (c.skip 2) with
    | some (first :: rest, c) =>
      if c.rest.head? == some '>' then some (.tag "" (untilZero (first :: rest)), c.next) else none
    | _ => none
  | _ =>
    match handle? c with
    | none => none
    | some handle =>
      match tagText? false handle.next with
      | none => none
      | some (suffix, c) =>
        if handle.closed then
          if suffix.isEmpty then none else some (.tag handle.text (untilZero suffix), c)
        else
          match octets (String.ofList handle.name) ++ untilZero suffix with
          | [] => some (.tag "" [Tag.mark], c)
          | whole => some (.tag "!" whole, c)

/-- A version number that starts here, of nine digits at most, and the place behind it. -/
def versionNumber? (c : Cursor) : Option (Nat × Cursor) :=
  let (digits, next) := c.span fun x => (Digits.decimal? x).isSome
  if 9 < digits.length then none else (Digits.number? 10 digits).map fun n => (n, next)

/-- The version that a directive names from here on, and the place behind it. -/
def versionDirective? (c : Cursor) : Option (Token × Cursor) := do
  let (major, c) ← versionNumber? c
  if c.rest.head? ≠ some '.' then none
  let (minor, c) ← versionNumber? c.next
  return (.versionDirective major minor, c)

/-- The handle that a directive defines from here on, and the place behind it. -/
def tagDirective? (c : Cursor) : Option (Token × Cursor) := do
  let handle ← handle? c
  if !handle.closed && !handle.name.isEmpty then none
  if !handle.next.rest.head?.any isBlank then none
  let (lead, c) ← tagText? true (handle.next.skipWhile isBlank)
  if lead.isEmpty || !endsWord c.rest then none
  return (.tagDirective handle.text (untilZero lead), c)

/-- The directive that starts here, and the place behind its line. -/
def directive? (c : Cursor) : Option (Token × Cursor) := do
  let (name, c) := c.next.span isNameChar
  if !endsWord c.rest then none
  let c := c.skipWhile isBlank
  let (token, c) ←
    if name = "YAML".toList then versionDirective? c
    else if name = "TAG".toList then tagDirective? c
    else none
  return (token, ← c.endOfLine?)

end Yaml

end StepEngine
