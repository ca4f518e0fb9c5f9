import StepEngine.Yaml

/-!
# Records inside YAML values

A record is read from a mapping whose keys are texts. Fields that nobody asks for are passed over, and nothing is a record without fields. Tags
of keys and values are passed over where a value of a certain shape is asked for.
-/

namespace StepEngine

namespace Yaml

/-- The entries of a mapping whose keys are texts, in their order. -/
def fields? (y : Yaml) : Option (List (String × Yaml)) :=
  match y.untag with
  | .null => some []
  | .mapping entries => entries.mapM fun e => e.1.asText?.map (·, e.2)
  | _ => none

/-- The fields of a record that are there, in the order of the given names; none is there twice. -/
def parts? (names : List String) (y : Yaml) : Option (List (Option Yaml)) := do
  let fields ← y.fields?
  names.mapM fun name =>
    match fields.filter (·.1 == name) with
    | [] => some none
    | [(_, value)] => some (some value)
    | _ => none

/-- A field that may be missing, with its default; when it is there it must be readable. -/
def withDefault {α : Type} (default : α) (decode : Yaml → Option α) : Option Yaml → Option α
  | none => some default
  | some y => decode y

/-- A value that may be nothing. -/
def nullable? {α : Type} (decode : Yaml → Option α) : Yaml → Option (Option α)
  | .null => some none
  | y => (decode y).map some

/-- A truth value. -/
def asBool? (y : Yaml) : Option Bool :=
  match y.untag with
  | .bool b => some b
  | _ => none

/-- A 64-bit natural number. A double is no integer. -/
def uint64? (y : Yaml) : Option UInt64 :=
  match y.untag with
  | .int n => if 0 ≤ n ∧ n < UInt64.size then some (UInt64.ofNat n.toNat) else none
  | _ => none

mutual

/-- A value as a JSON value: the keys of its mappings are texts, the last of equal keys stays, and it has no tags. A double that is not finite
becomes `null`. -/
def toJson? : Yaml → Option Json
  | .null => some .null
  | .bool b => some (.bool b)
  | .int n => some (.int n)
  | .float x => some (if x.isFinite then .float x else .null)
  | .text s => some (.text s)
  | .sequence items => (itemsToJson? [] items).map .array
  | .mapping entries => (entriesToJson? [] entries).map Json.record
  | .tagged _ _ => none

/-- Values as JSON values behind those that are done, the last one first. -/
def itemsToJson? (done : List Json) : List Yaml → Option (List Json)
  | [] => some done.reverse
  | y :: rest =>
    match toJson? y with
    | some j => itemsToJson? (j :: done) rest
    | none => none

/-- Entries as the fields of an object behind those that are done, the last one first. -/
def entriesToJson? (done : List (String × Json)) : List (Yaml × Yaml) → Option (List (String × Json))
  | [] => some done.reverse
  | (key, y) :: rest =>
    match key.asText?, toJson? y with
    | some name, some j => entriesToJson? ((name, j) :: done) rest
    | _, _ => none

end

end Yaml

end StepEngine
