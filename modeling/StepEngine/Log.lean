import StepEngine.Json

/-!
# Log: what the engine reports about its work

A log event has a level, a message and named fields. Events are values: the engine lists them, and whoever runs it decides where they
go. A field that has no value is left out.
-/

namespace StepEngine

/-- How severe an event is. -/
inductive LogLevel where
  | error
  | warn
  | info
  | debug
  | trace
  deriving DecidableEq, Repr

namespace LogLevel

/-- The text of a level. -/
def text : LogLevel → String
  | error => "error"
  | warn => "warn"
  | info => "info"
  | debug => "debug"
  | trace => "trace"

/-- The level that a text names. -/
def ofText? (s : String) : Option LogLevel :=
  [error, warn, info, debug, trace].find? (·.text == s)

/-- The place of a level, the most severe first. -/
def rank : LogLevel → Nat
  | error => 0
  | warn => 1
  | info => 2
  | debug => 3
  | trace => 4

end LogLevel

/-- A report of the engine. -/
structure LogEvent where
  level : LogLevel
  message : String
  fields : List (String × Json)

namespace LogEvent

/-- The event is at a level or more severe. -/
def within (e : LogEvent) (level : LogLevel) : Bool := e.level.rank ≤ level.rank

/-- A field that is there only when it has a value. -/
def optional (name : String) : Option String → List (String × Json)
  | some value => [(name, .text value)]
  | none => []

/-- The report of a step's lifecycle operation. -/
def stepOperation (operation step status : String) (details : Option String) : LogEvent where
  level := .info
  message := "STEP_OPERATION"
  fields :=
    [("operation", .text operation), ("step", .text step), ("status", .text status)] ++ optional "details" details

/-- The report of an operation on an async key. -/
def keyOperation (operation key : String) (step : Option String) (status : String) : LogEvent where
  level := .info
  message := "ASYNC_KEY_OPERATION"
  fields :=
    [("operation", .text operation), ("async_key", .text key)] ++ optional "step" step ++ [("status", .text status)]

/-- The report of an operation of a processor stage. -/
def processorOperation (operation stage : String) (records : Nat) (status : String) (details : Option String) :
    LogEvent where
  level := .info
  message := "PROCESSOR_OPERATION"
  fields :=
    [("operation", .text operation), ("stage", .text stage), ("records", .nat records), ("status", .text status)] ++
      optional "details" details

/-- The report of a failure. -/
def failure (component operation error : String) (context : Option String) : LogEvent where
  level := .error
  message := "ERROR"
  fields :=
    [("component", .text component), ("operation", .text operation), ("error", .text error)] ++
      optional "context" context

end LogEvent

end StepEngine
