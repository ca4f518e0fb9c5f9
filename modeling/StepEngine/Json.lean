import StepEngine.Binary64
import StepEngine.Dict

/-!
# Json: the values that payloads, records and step data are made of

A value is a JSON value whose numbers keep how they were written: an integer is exact, and a number with a fraction or an
exponent is a double and stays one, so that `2` and `2.0` are different values. The fields of an object are listed by
increasing key, as in a `Dict`; every function of this library that makes an object keeps them so.
-/

namespace StepEngine

/-- A JSON value. -/
inductive Json where
  | null
  | bool (value : Bool)
  | int (value : Int)
  | float (value : Binary64)
  | text (value : String)
  | array (items : List Json)
  | object (fields : List (String × Json))
  deriving Repr, Inhabited

namespace Json

/-- The object with the entries of a dictionary. -/
def ofDict (d : Dict Json) : Json := .object d.entries

/-- The object with the given fields: they are put in key order, and the last value of a repeated key stays. -/
def record (fields : List (String × Json)) : Json := .object (Entries.ofList fields)

/-- A natural number as a value. -/
def nat (n : Nat) : Json := .int n

/-- A value that may be missing: `null` stands for none. -/
def orNull : Option Json → Json
  | some j => j
  | none => .null

/-- A text that may be missing: `null` stands for none. -/
def textOrNull (s : Option String) : Json := orNull (s.map .text)

/-- A list of texts. -/
def texts (l : List String) : Json := .array (l.map .text)

/-- The value of a field of an object. A value that is no object has no fields. -/
def field? (j : Json) (key : String) : Option Json :=
  match j with
  | .object fields => Entries.get? key fields
  | _ => none

/-- The characters of a text value. -/
def asText? : Json → Option String
  | .text s => some s
  | _ => none

/-- The truth value of a boolean value. -/
def asBool? : Json → Option Bool
  | .bool b => some b
  | _ => none

/-- The fields of an object as a dictionary. -/
def asDict? : Json → Option (Dict Json)
  | .object fields => some (Dict.ofList fields)
  | _ => none

mutual

/-- Two values are equal: of one kind and with equal parts. An integer never equals a double; doubles are compared as
numbers. -/
def same : Json → Json → Bool
  | .null, .null => true
  | .bool a, .bool b => a == b
  | .int a, .int b => a == b
  | .float a, .float b => a.same b
  | .text a, .text b => a == b
  | .array a, .array b => sameItems a b
  | .object a, .object b => sameFields a b
  | _, _ => false

/-- Two lists have equal values at every position. -/
def sameItems : List Json → List Json → Bool
  | [], [] => true
  | a :: as, b :: bs => same a b && sameItems as bs
  | _, _ => false

/-- Two objects have the same keys with equal values. -/
def sameFields : List (String × Json) → List (String × Json) → Bool
  | [], [] => true
  | (k, a) :: as, (l, b) :: bs => k == l && same a b && sameFields as bs
  | _, _ => false

end

end Json

end StepEngine
