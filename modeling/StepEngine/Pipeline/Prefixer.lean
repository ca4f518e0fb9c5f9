import StepEngine.Json.Printer
import StepEngine.Pipeline.Stage

/-!
# Prefixer: the processor that renames the fields of records

Every field of an object record gets a fixed text in front of its name; fields of a constant record are added as they are and win over
renamed fields of the same name. A `null` record stands for a default record, and any other value fails. A prefixer that was asked to
raise an error fails on its first submission only.
-/

namespace StepEngine

/-- The settings of a prefixer. -/
structure Prefixer where
  name : String
  /-- The text put in front of every field name. -/
  front : String
  /-- The record that stands for `null`. -/
  defaultRecord : Dict Json
  /-- The record merged into every output as it is. -/
  constants : Dict Json
  /-- The first submission fails. -/
  raises : Bool
  supportsBulk : Bool

namespace Prefixer

/-- The default record of a prefixer that is not given one. -/
def builtinDefault : Dict Json := Dict.ofList [("test1", .text "one"), ("test2", .text "two")]

/-- A prefixer without further settings. -/
def new (name front : String) : Prefixer := ⟨name, front, builtinDefault, Dict.empty, false, false⟩

/-- A parameter that is an object; it may be missing or `null`. -/
def objectParam (name : String) (config : StageConfig) (param : String) : Except ProcessorError (Option (Dict Json)) :=
  match config.param? param with
  | none | some .null => .ok none
  | some (.object fields) => .ok (some (Dict.ofList fields))
  | some other =>
    .error (.invalidConfiguration name ("parameter '" ++ param ++ "' must be an object, got " ++ other.render))

/-- The prefixer that the settings of a stage describe. -/
def ofConfig (name : String) (config : StageConfig) : Except ProcessorError Prefixer :=
  match config.paramText? "pfx" with
  | none => .error (.invalidConfiguration name "missing string parameter 'pfx'")
  | some front => do
    let defaultRecord ← objectParam name config "default_record"
    let constants ← objectParam name config "crec"
    return {
      name := name
      front := front
      defaultRecord := defaultRecord.getD builtinDefault
      constants := constants.getD Dict.empty
      raises := (config.paramBool? "raise_error").getD false
      supportsBulk := (config.paramBool? "supports_bulk").getD false }

/-- An object record with its fields renamed and the constants added. -/
def rename (p : Prefixer) (fields : Dict Json) : Dict Json := (fields.mapKeys (p.front ++ ·)).merge p.constants

/-- The output for a record, when no failure was asked for. -/
def transform (p : Prefixer) (record : Json) : Except ProcessorError (List Json) :=
  match record with
  | .null => .ok [Json.ofDict (p.rename p.defaultRecord)]
  | .object fields => .ok [Json.ofDict (p.rename (Dict.ofList fields))]
  | other => .error (.recordFailed p.name ("expected an object record, got " ++ other.render))

variable {m : Type → Type} [Monad m]

/-- The processor. `raising` says whether the failure that was asked for is still due. -/
def toProcessor (p : Prefixer) (raising : Cell m Bool) : Processor m :=
  Processor.ofSubmit p.name
    (fun record => do
      if ← raising.get then
        raising.set false
        pure (.error (.recordFailed p.name "raise_error requested a failure"))
      else pure (p.transform record))
    p.supportsBulk

end Prefixer

end StepEngine
