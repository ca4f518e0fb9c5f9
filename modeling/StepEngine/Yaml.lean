import StepEngine.Json

/-!
# Yaml: the values of a YAML document

A document holds scalars, sequences and mappings. A mapping lists its entries in the order of the document, and its keys are values of
any kind. A value may carry a tag; where a value of a certain shape is asked for, the tag is passed over.

Two values are equal when they are of one kind and have equal parts; the order of the entries of a mapping does not count. The number
that is not a number equals itself, so that it can be found as a key.
-/

namespace StepEngine

/-- A value of a YAML document. -/
inductive Yaml where
  | null
  | bool (value : Bool)
  | int (value : Int)
  | float (value : Binary64)
  | text (value : String)
  | sequence (items : List Yaml)
  | mapping (entries : List (Yaml × Yaml))
  | tagged (tag : String) (value : Yaml)
  deriving Repr, Inhabited

namespace Yaml

mutual

/-- Two values are equal. -/
def same : Yaml → Yaml → Bool
  | .null, .null => true
  | .bool a, .bool b => a == b
  | .int a, .int b => a == b
  | .float a, .float b => a.same b
  | .text a, .text b => a == b
  | .sequence a, .sequence b => sameItems a b
  | .mapping a, .mapping b => a.length == b.length && sameEntries a b
  | .tagged t a, .tagged u b => t == u && same a b
  | _, _ => false

/-- Two sequences have equal values at every position. -/
def sameItems : List Yaml → List Yaml → Bool
  | [], [] => true
  | a :: as, b :: bs => same a b && sameItems as bs
  | _, _ => false

/-- Every entry of the first mapping is one of the second. -/
def sameEntries : List (Yaml × Yaml) → List (Yaml × Yaml) → Bool
  | [], _ => true
  | (key, value) :: rest, entries => (entries.any fun e => same key e.1 && same value e.2) && sameEntries rest entries

end

/-- The value without its tags. -/
def untag : Yaml → Yaml
  | .tagged _ value => untag value
  | value => value

/-- The value at a key of a mapping. -/
def find? (key : Yaml) : List (Yaml × Yaml) → Option Yaml
  | [] => none
  | (k, value) :: rest => if same key k then some value else find? key rest

/-- The entries of a mapping without the one at a key. -/
def remove (key : Yaml) (entries : List (Yaml × Yaml)) : List (Yaml × Yaml) :=
  entries.filter fun e => !same key e.1

/-- The value of a field: a text key of a mapping. A value that is no mapping has no fields. -/
def field? (y : Yaml) (name : String) : Option Yaml :=
  match y.untag with
  | .mapping entries => find? (.text name) entries
  | _ => none

/-- The characters of a text value. -/
def asText? (y : Yaml) : Option String :=
  match y.untag with
  | .text s => some s
  | _ => none

end Yaml

end StepEngine
