import StepEngine.Error
import StepEngine.Json

/-!
# Config: the settings of the engine

Settings say how many steps may run at once, when a handler counts as slow, and which parameters each processor stage is built with.
Every setting has a default. A configuration is valid when at least one step may run and when the slow-handler threshold, if there is
one, is not zero.
-/

namespace StepEngine

/-- Settings of the execution of steps. -/
structure ExecutionConfig where
  environment : String
  /-- How many step instances may run at once in the background. -/
  maxConcurrentSteps : UInt64
  deriving DecidableEq, Repr

/-- Settings of the notification bus. -/
structure NotificationConfig where
  /-- Handlers that run longer than this are logged; without it none is. -/
  slowHandlerThresholdMs : Option UInt64
  deriving DecidableEq, Repr

/-- Settings of one processor stage. -/
structure StageConfig where
  /-- Overrides what the processor says about itself. -/
  supportsBulk : Option Bool
  /-- Parameters for the processor, in its own terms. -/
  params : Dict Json

/-- The settings of the engine. -/
structure EngineConfig where
  execution : ExecutionConfig
  notifications : NotificationConfig
  /-- The settings of processor stages by stage name. -/
  processors : Dict StageConfig

namespace ExecutionConfig

/-- The environment that nothing else is said about. -/
def defaultEnvironment : String := "development"

/-- The default settings of execution. -/
def default : ExecutionConfig := ⟨defaultEnvironment, 64⟩

instance : Inhabited ExecutionConfig := ⟨default⟩

end ExecutionConfig

namespace NotificationConfig

/-- The default settings of the bus: no handler counts as slow. -/
def default : NotificationConfig := ⟨none⟩

instance : Inhabited NotificationConfig := ⟨default⟩

end NotificationConfig

namespace StageConfig

/-- The default settings of a stage. -/
def default : StageConfig := ⟨none, Dict.empty⟩

instance : Inhabited StageConfig := ⟨default⟩

/-- A parameter. -/
def param? (c : StageConfig) (name : String) : Option Json := c.params.get? name

/-- A parameter that is a text. -/
def paramText? (c : StageConfig) (name : String) : Option String := (c.param? name).bind Json.asText?

/-- A parameter that is a truth value. -/
def paramBool? (c : StageConfig) (name : String) : Option Bool := (c.param? name).bind Json.asBool?

end StageConfig

namespace EngineConfig

/-- The default settings. -/
def default : EngineConfig := ⟨ExecutionConfig.default, NotificationConfig.default, Dict.empty⟩

instance : Inhabited EngineConfig := ⟨default⟩

/-- The settings of a stage, or the defaults when there are none for it. -/
def stage (c : EngineConfig) (name : String) : StageConfig := (c.processors.get? name).getD StageConfig.default

/-- The configuration is valid, or its first fault. -/
def validate (c : EngineConfig) : Except ConfigError Unit :=
  if c.execution.maxConcurrentSteps = 0 then
    .error (.invalidValue "execution.max_concurrent_steps" "0" "must allow at least one concurrent step")
  else if c.notifications.slowHandlerThresholdMs = some 0 then
    .error (.invalidValue "notifications.slow_handler_threshold_ms" "0"
      "omit the setting to disable slow handler warnings")
  else .ok ()

end EngineConfig

end StepEngine
