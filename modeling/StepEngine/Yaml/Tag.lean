/-!
# Tags of YAML nodes

A text writes the tag of a node as octets, which need not be UTF-8. A tag that starts with a mark is local: it becomes a part of the value. The
tags of the core schema ask for a scalar of their kind, and any other tag makes a scalar a text.

Two local tags are the same when they differ only in a mark before a name, so the name is kept without it.
-/

namespace StepEngine

namespace Yaml

/-- The octets of a text. -/
def octets (s : String) : List UInt8 := s.toUTF8.toList

/-- The text that octets write, if they are UTF-8. -/
def textOf? (os : List UInt8) : Option String := String.fromUTF8? ⟨os.toArray⟩

/-- What a tag says about its node. -/
inductive Tag where
  /-- The value is marked with a name. -/
  | named (name : String)
  | bool
  | int
  | float
  | null
  /-- A scalar is a text, in whatever form it is written. -/
  | text
  deriving DecidableEq, Repr

namespace Tag

/-- The octet of the mark that starts a local tag. -/
def mark : UInt8 := 0x21

/-- The octets behind a mark, if any are there; else all of them. -/
def withoutMark (os : List UInt8) : List UInt8 :=
  match os with
  | first :: second :: rest => if first = mark then second :: rest else os
  | _ => os

/-- The octets of the tag that marks a value of a kind of the core schema. -/
def core (kind : String) : List UInt8 := octets ("tag:yaml.org,2002:" ++ kind)

/-- What the octets of a tag say. A local tag that is not UTF-8 says nothing. -/
def ofOctets? (os : List UInt8) : Option Tag :=
  if os.head? == some mark then (textOf? (withoutMark (withoutMark os))).map named
  else if os = core "bool" then some bool
  else if os = core "int" then some int
  else if os = core "float" then some float
  else if os = core "null" then some null
  else some text

end Tag

end Yaml

end StepEngine
