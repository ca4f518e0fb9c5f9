import StepEngine.Json

/-!
# Records and variants inside JSON values

A record is read from an object, by the names of its fields, or from an array, by their order; fields that nobody asks for are
passed over in an object, and an array has no more items than the record has fields. A variant without content is read from its name, or
from an object whose only key is the name and whose value is `null`.
-/

namespace StepEngine

namespace Json

/-- The fields of a record that are there, in the order of the given names. -/
def parts? (names : List String) : Json → Option (List (Option Json))
  | .object fields => some (names.map fun name => Entries.get? name fields)
  | .array items =>
    if items.length ≤ names.length then
      some (items.map some ++ List.replicate (names.length - items.length) none)
    else none
  | _ => none

/-- The name of a variant without content. -/
def variantName? : Json → Option String
  | .text name => some name
  | .object [(name, .null)] => some name
  | _ => none

/-- A field that may be missing, with its default; when it is there it must be readable. -/
def withDefault {α : Type} (default : α) (decode : Json → Option α) : Option Json → Option α
  | none => some default
  | some j => decode j

/-- A value that may be `null`. -/
def nullable? {α : Type} (decode : Json → Option α) : Json → Option (Option α)
  | .null => some none
  | j => (decode j).map some

/-- A natural number below a bound. A double is no integer. -/
def natBelow? (bound : Nat) : Json → Option Nat
  | .int n => if 0 ≤ n ∧ n < bound then some n.toNat else none
  | _ => none

/-- A 64-bit natural number. -/
def uint64? (j : Json) : Option UInt64 := (natBelow? UInt64.size j).map UInt64.ofNat

/-- A 64-bit integer. -/
def int64? : Json → Option Int64
  | .int n => if Int64.minValue.toInt ≤ n ∧ n ≤ Int64.maxValue.toInt then some (Int64.ofInt n) else none
  | _ => none

/-- A 32-bit natural number. -/
def uint32? (j : Json) : Option UInt32 := (natBelow? UInt32.size j).map UInt32.ofNat

/-- The content of a tagged union: the name of the variant and its content, if it is there. In the array form the name is a text
and the content is there. -/
def tagged? (tag content : String) : Json → Option (String × Option Json)
  | .object fields => do
    let name ← (Entries.get? tag fields).bind variantName?
    return (name, Entries.get? content fields)
  | .array [.text name, value] => some (name, some value)
  | _ => none

/-- A variant without content has none written, or `null`. -/
def noContent {α : Type} (value : α) : Option Json → Option α
  | none => some value
  | some .null => some value
  | some _ => none

end Json

end StepEngine
