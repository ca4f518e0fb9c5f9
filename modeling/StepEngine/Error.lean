import StepEngine.Lifecycle
import StepEngine.Text.Quoted

/-!
# Error: what can go wrong, and in which words

Every component has its own causes of failure; `EngineError` joins them for callers that use several components. The wording of an
error is in one place, its `message`.
-/

namespace StepEngine

/-- Failures of the keyed data stores. There is no conflict among them: the last writer wins. -/
inductive StoreError where
  | stepNotFound (step : StepId)
  | workflowNotFound (workflow : WorkflowId)
  deriving DecidableEq, Repr

/-- Misuse of an async key. -/
inductive KeyError where
  | unknown (key : AsyncKey)
  | alreadyResolved (key : AsyncKey) (state : String)
  | duplicate (key : AsyncKey)
  deriving DecidableEq, Repr

/-- A record that a sink did not take. -/
inductive SinkError where
  | closed
  | rejected (reason : String)
  | store (cause : StoreError)
  deriving DecidableEq, Repr

/-- Failures of a processor stage. -/
inductive ProcessorError where
  /-- The transform failed for one record; the batch goes on. -/
  | recordFailed (stage reason : String)
  /-- The processor asked to stop the rest of the batch. -/
  | batchAbort (stage reason : String)
  /-- The sink refused an output record. -/
  | sinkRejected (stage : String) (cause : SinkError)
  | invalidConfiguration (stage reason : String)
  deriving DecidableEq, Repr

/-- Failures of a step's entry or resumption behaviour. -/
inductive StepError where
  /-- Step code raised an error of its own. -/
  | raised (code text : String)
  | panicked (text : String)
  | notResumable (step : StepId) (reason : String)
  | alreadyStarted (step : StepId)
  | store (cause : StoreError)
  | key (cause : KeyError)
  | processor (cause : ProcessorError)
  deriving DecidableEq, Repr

/-- Failures of loading a configuration. -/
inductive ConfigError where
  | fileNotFound (searched : List String)
  | fileRead (path reason : String)
  | invalidYaml (file reason : String)
  | invalidValue (field value reason : String)
  deriving DecidableEq, Repr

/-- A handler could not process a notification. -/
structure HandlerError where
  message : String
  deriving DecidableEq, Repr

/-- Any failure of the engine. -/
inductive EngineError where
  | store (cause : StoreError)
  | key (cause : KeyError)
  | processor (cause : ProcessorError)
  | sink (cause : SinkError)
  | step (cause : StepError)
  | config (cause : ConfigError)
  | invalidState (text : String)
  | internal (text : String)
  deriving DecidableEq, Repr

/-! ## Wording -/

/-- The wording of a store failure. -/
def StoreError.message : StoreError → String
  | stepNotFound step => "Step instance " ++ step.text ++ " not found"
  | workflowNotFound workflow => "Workflow instance " ++ workflow.text ++ " not found"

/-- The wording of a misuse of a key. -/
def KeyError.message : KeyError → String
  | unknown key => "Unknown async key " ++ key.token
  | alreadyResolved key state => "Async key " ++ key.token ++ " already resolved as " ++ state
  | duplicate key => "Async key " ++ key.token ++ " already exists"

/-- The wording of a sink's refusal. -/
def SinkError.message : SinkError → String
  | closed => "Sink is closed"
  | rejected reason => "Record rejected: " ++ reason
  | store cause => "Step data sink failed: " ++ cause.message

/-- The wording of a stage's failure. -/
def ProcessorError.message : ProcessorError → String
  | recordFailed stage reason => "Processor " ++ stage ++ " failed on record: " ++ reason
  | batchAbort stage reason => "Processor " ++ stage ++ " aborted batch: " ++ reason
  | sinkRejected stage cause => "Downstream sink rejected record from " ++ stage ++ ": " ++ cause.message
  | invalidConfiguration stage reason => "Processor " ++ stage ++ " misconfigured: " ++ reason

/-- The error asks to stop the rest of a batch. -/
def ProcessorError.isBatchAbort : ProcessorError → Bool
  | batchAbort _ _ => true
  | _ => false

/-- The wording of a step's failure; a failure of another component keeps its wording. -/
def StepError.message : StepError → String
  | raised code text => code ++ ": " ++ text
  | panicked text => "Step panicked: " ++ text
  | notResumable step reason => "Step " ++ step.text ++ " cannot be resumed: " ++ reason
  | alreadyStarted step => "Step " ++ step.text ++ " was already started"
  | store cause => cause.message
  | key cause => cause.message
  | processor cause => cause.message

/-- What the reason starts with when a document does not write settings. -/
def ConfigError.mismatch : String := "Failed to deserialize configuration: "

/-- The wording of a failure to load a configuration. -/
def ConfigError.message : ConfigError → String
  | fileNotFound searched =>
    "Configuration file not found, searched: [" ++ ", ".intercalate (searched.map Quoted.quote) ++ "]"
  | fileRead path reason => "Failed to read configuration file " ++ path ++ ": " ++ reason
  | invalidYaml file reason => "Invalid YAML in " ++ file ++ ": " ++ reason
  | invalidValue field value reason => "Invalid value for " ++ field ++ " (" ++ value ++ "): " ++ reason

/-- The wording of a refused event. -/
def LifecycleError.message : LifecycleError → String
  | invalidTransition state event => "Invalid state transition from " ++ state ++ " on " ++ event
  | keyMismatch expected actual => "Step is suspended on " ++ expected ++ " but resumption carried " ++ actual

/-- The wording of any failure: the component, then the component's own wording. -/
def EngineError.message : EngineError → String
  | store cause => "Step data error: " ++ cause.message
  | key cause => "Async key error: " ++ cause.message
  | processor cause => "Processor error: " ++ cause.message
  | sink cause => "Sink error: " ++ cause.message
  | step cause => "Step error: " ++ cause.message
  | config cause => "Configuration error: " ++ cause.message
  | invalidState text => "Invalid state: " ++ text
  | internal text => "Internal error: " ++ text

/-- The wording of the cause alone. -/
def EngineError.causeMessage : EngineError → String
  | store cause => cause.message
  | key cause => cause.message
  | processor cause => cause.message
  | sink cause => cause.message
  | step cause => cause.message
  | config cause => cause.message
  | invalidState text => text
  | internal text => text

/-- The failure as one of a step, when a step may fail of it. -/
def EngineError.asStep? : EngineError → Option StepError
  | store cause => some (.store cause)
  | key cause => some (.key cause)
  | processor cause => some (.processor cause)
  | _ => none

/-- The wording for a text that names no state. -/
def StepState.unknownMessage (text : String) : String := "Invalid step state: " ++ text

/-- The failure of reading a JSON text, in the reader's words. -/
def EngineError.ofJsonError (reason : String) : EngineError :=
  .internal ("JSON serialization error: " ++ reason)

end StepEngine
