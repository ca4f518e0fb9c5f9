import StepEngine.Error

/-!
# The names of causes

Every cause of failure has a short name, by which reports tell causes apart. A failure that only passes on the cause of another component
has the name of that cause; a stage whose sink refused a record has a name of its own.
-/

namespace StepEngine

/-- The name of a store failure. -/
def StoreError.kind : StoreError → String
  | stepNotFound _ => "StepNotFound"
  | workflowNotFound _ => "WorkflowNotFound"

/-- The name of a misuse of a key. -/
def KeyError.kind : KeyError → String
  | unknown _ => "UnknownKey"
  | alreadyResolved _ _ => "AlreadyResolved"
  | duplicate _ => "DuplicateKey"

/-- The name of a sink's refusal. -/
def SinkError.kind : SinkError → String
  | closed => "Closed"
  | rejected _ => "Rejected"
  | store cause => cause.kind

/-- The name of a stage's failure. -/
def ProcessorError.kind : ProcessorError → String
  | recordFailed _ _ => "RecordFailed"
  | batchAbort _ _ => "BatchAbort"
  | sinkRejected _ _ => "SinkRejected"
  | invalidConfiguration _ _ => "InvalidConfiguration"

/-- The name of a step's failure. -/
def StepError.kind : StepError → String
  | raised _ _ => "Raised"
  | panicked _ => "Panicked"
  | notResumable _ _ => "NotResumable"
  | alreadyStarted _ => "AlreadyStarted"
  | store cause => cause.kind
  | key cause => cause.kind
  | processor cause => cause.kind

/-- The name of a failure to load a configuration. -/
def ConfigError.kind : ConfigError → String
  | fileNotFound _ => "ConfigFileNotFound"
  | fileRead _ _ => "FileReadError"
  | invalidYaml _ _ => "InvalidYaml"
  | invalidValue _ _ _ => "InvalidValue"

/-- The name of a refused event. -/
def LifecycleError.kind : LifecycleError → String
  | invalidTransition _ _ => "InvalidTransition"
  | keyMismatch _ _ => "KeyMismatch"

end StepEngine
