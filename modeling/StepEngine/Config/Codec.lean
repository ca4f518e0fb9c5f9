import StepEngine.Config
import StepEngine.Json.Record

/-!
# Settings as JSON and back

Settings are records all of whose fields have defaults. In a JSON value a field may be missing, but `null` does not stand for a
missing field, except where the setting itself may be absent.
-/

namespace StepEngine

namespace ExecutionConfig

/-- The settings of execution as a value. -/
def toJson (c : ExecutionConfig) : Json :=
  Json.record [("environment", .text c.environment), ("max_concurrent_steps", .nat c.maxConcurrentSteps.toNat)]

/-- The settings of execution that a value writes. -/
def ofJson? (j : Json) : Option ExecutionConfig :=
  match j.parts? ["environment", "max_concurrent_steps"] with
  | some [environment, steps] => do
    return ⟨← Json.withDefault default.environment Json.asText? environment,
      ← Json.withDefault default.maxConcurrentSteps Json.uint64? steps⟩
  | _ => none

end ExecutionConfig

namespace NotificationConfig

/-- The settings of the bus as a value. -/
def toJson (c : NotificationConfig) : Json :=
  Json.record [("slow_handler_threshold_ms", Json.orNull (c.slowHandlerThresholdMs.map fun ms => .nat ms.toNat))]

/-- The settings of the bus that a value writes. -/
def ofJson? (j : Json) : Option NotificationConfig :=
  match j.parts? ["slow_handler_threshold_ms"] with
  | some [threshold] => (Json.withDefault none (Json.nullable? Json.uint64?) threshold).map NotificationConfig.mk
  | _ => none

end NotificationConfig

namespace StageConfig

/-- The settings of a stage as a value. -/
def toJson (c : StageConfig) : Json :=
  Json.record [("supports_bulk", Json.orNull (c.supportsBulk.map .bool)), ("params", Json.ofDict c.params)]

/-- The settings of a stage that a value writes. -/
def ofJson? (j : Json) : Option StageConfig :=
  match j.parts? ["supports_bulk", "params"] with
  | some [bulk, params] => do
    return ⟨← Json.withDefault none (Json.nullable? Json.asBool?) bulk,
      ← Json.withDefault Dict.empty Json.asDict? params⟩
  | _ => none

end StageConfig

namespace EngineConfig

/-- The settings of the engine as a value. -/
def toJson (c : EngineConfig) : Json :=
  Json.record
    [("execution", c.execution.toJson), ("notifications", c.notifications.toJson),
      ("processors", Json.ofDict (c.processors.mapValues StageConfig.toJson))]

/-- The settings of stages by name that a value writes. -/
def processorsOfJson? (j : Json) : Option (Dict StageConfig) := do
  let fields ← j.asDict?
  let stages ← fields.entries.mapM fun p => (StageConfig.ofJson? p.2).map (p.1, ·)
  return Dict.ofList stages

/-- The settings of the engine that a value writes. -/
def ofJson? (j : Json) : Option EngineConfig :=
  match j.parts? ["execution", "notifications", "processors"] with
  | some [execution, notifications, processors] => do
    return ⟨← Json.withDefault ExecutionConfig.default ExecutionConfig.ofJson? execution,
      ← Json.withDefault NotificationConfig.default NotificationConfig.ofJson? notifications,
      ← Json.withDefault Dict.empty processorsOfJson? processors⟩
  | _ => none

end EngineConfig

end StepEngine
