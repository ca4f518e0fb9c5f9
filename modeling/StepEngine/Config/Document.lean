import StepEngine.Config
import StepEngine.Yaml.Document
import StepEngine.Yaml.Overlay
import StepEngine.Yaml.Record

/-!
# Settings from a document, under an environment

A document holds the settings of all environments and, in sections named after environments, what differs in one of them. Under an environment
its section is laid over the whole document; the sections of the known environments and the one in force are then taken out, and the rest
is read as settings. The environment in force is always the one that was asked for.
-/

namespace StepEngine

namespace ExecutionConfig

/-- The settings of execution that a value writes. -/
def ofYaml? (y : Yaml) : Option ExecutionConfig :=
  match y.parts? ["environment", "max_concurrent_steps"] with
  | some [environment, steps] => do
    return ⟨← Yaml.withDefault default.environment Yaml.asText? environment,
      ← Yaml.withDefault default.maxConcurrentSteps Yaml.uint64? steps⟩
  | _ => none

end ExecutionConfig

namespace NotificationConfig

/-- The settings of the bus that a value writes. -/
def ofYaml? (y : Yaml) : Option NotificationConfig :=
  match y.parts? ["slow_handler_threshold_ms"] with
  | some [threshold] => (Yaml.withDefault none (Yaml.nullable? Yaml.uint64?) threshold).map NotificationConfig.mk
  | _ => none

end NotificationConfig

namespace StageConfig

/-- The parameters that a value writes. -/
def paramsOfYaml? (y : Yaml) : Option (Dict Json) := do
  let fields ← y.fields?
  return Dict.ofList (← fields.mapM fun p => p.2.toJson?.map (p.1, ·))

/-- The settings of a stage that a value writes. -/
def ofYaml? (y : Yaml) : Option StageConfig :=
  match y.parts? ["supports_bulk", "params"] with
  | some [bulk, params] => do
    return ⟨← Yaml.withDefault none (Yaml.nullable? Yaml.asBool?) bulk,
      ← Yaml.withDefault Dict.empty paramsOfYaml? params⟩
  | _ => none

end StageConfig

namespace EngineConfig

/-- The settings of stages by name that a value writes. -/
def processorsOfYaml? (y : Yaml) : Option (Dict StageConfig) := do
  let fields ← y.fields?
  return Dict.ofList (← fields.mapM fun p => (StageConfig.ofYaml? p.2).map (p.1, ·))

/-- The settings of the engine that a value writes. -/
def ofYaml? (y : Yaml) : Option EngineConfig :=
  match y.parts? ["execution", "notifications", "processors"] with
  | some [execution, notifications, processors] => do
    return ⟨← Yaml.withDefault ExecutionConfig.default ExecutionConfig.ofYaml? execution,
      ← Yaml.withDefault NotificationConfig.default NotificationConfig.ofYaml? notifications,
      ← Yaml.withDefault Dict.empty processorsOfYaml? processors⟩
  | _ => none

/-- The environments that have sections of their own in any document. -/
def knownEnvironments : List String := ["development", "test", "production"]

/-- The document under an environment, before the sections are taken out: the environment's section laid over the whole. A document without
content is an empty mapping. -/
def overlaid (document : Yaml) (environment : String) : Yaml :=
  let base : Yaml := match document with
    | .null => .mapping []
    | y => y
  match base.field? environment with
  | some own => base.overlay own
  | none => base

/-- The entries without the sections of the known environments and of the one in force. -/
def withoutSections (environment : String) (entries : List (Yaml × Yaml)) : List (Yaml × Yaml) :=
  (knownEnvironments ++ [environment]).foldl (fun entries name => Yaml.remove (.text name) entries) entries

/-- The settings that a document writes for an environment, as a value. -/
def underEnvironment (document : Yaml) (environment : String) : Yaml :=
  match overlaid document environment with
  | .mapping entries => .mapping (withoutSections environment entries)
  | y => y

/-- The same settings with the environment in force. -/
def withEnvironment (c : EngineConfig) (environment : String) : EngineConfig :=
  { c with execution := { c.execution with environment } }

/-- The reason why a text is refused that is no document. -/
def malformed : String := "not a document"

/-- The reason why a document is refused that does not write settings. -/
def mismatched : String := ConfigError.mismatch ++ "not the shape of a configuration"

/-- The settings that a document writes for an environment, if they are valid. -/
def ofDocument (document : Yaml) (environment source : String) : Except ConfigError EngineConfig :=
  match ofYaml? (underEnvironment document environment) with
  | none => .error (.invalidYaml source mismatched)
  | some settings =>
    let config := settings.withEnvironment environment
    match config.validate with
    | .ok () => .ok config
    | .error e => .error e

/-- The settings that a text writes for an environment; errors name the text as `source`. -/
def ofText (text environment source : String) : Except ConfigError EngineConfig :=
  match Yaml.parse? text with
  | none => .error (.invalidYaml source malformed)
  | some document => ofDocument document environment source

end EngineConfig

end StepEngine
