import StepEngine.Engine.Machine
import StepEngine.Pipeline.Stage

/-!
# Context: what step code asks of the engine

Step code reaches its own state and the shared services through a context, which is bound to one step instance: every request about data
is about that instance or about its workflow. Failures come back as failures of the step, so that step code may pass them on.
-/

namespace StepEngine

instance {V : Vocabulary} : Journal (Program V) where
  note event := (Program.request (.log event)).bind fun () => .done ()

/-- A context, bound to one step instance. -/
structure Context where
  step : StepId

namespace Context

variable {V : Vocabulary}

/-- The workflow instance that the step belongs to. -/
def workflow (c : Context) : WorkflowId := c.step.workflow

/-- A failure of a store as a failure of the step. -/
def ofStore {α : Type} : Except StoreError α → Except StepError α
  | .ok a => .ok a
  | .error e => .error (.store e)

/-- The data of the step. -/
def data (c : Context) : Program V (Except StepError Data) := do
  let r : Except StoreError Data ← Program.request (.stepData (.read c.step))
  pure (ofStore r)

/-- Changes merged into the data of the step. -/
def update (c : Context) (delta : Data) : Program V (Except StepError Data) := do
  let r : Except StoreError Data ← Program.request (.stepData (.merge c.step delta))
  pure (ofStore r)

/-- The data that the steps of the workflow share. -/
def workflowData (c : Context) : Program V (Except StepError Data) := do
  let r : Except StoreError Data ← Program.request (.workflowData (.read c.workflow))
  pure (ofStore r)

/-- Changes merged into the data that the steps of the workflow share. -/
def updateWorkflow (c : Context) (delta : Data) : Program V (Except StepError Data) := do
  let r : Except StoreError Data ← Program.request (.workflowData (.merge c.workflow delta))
  pure (ofStore r)

/-- The input of the workflow. -/
def input (c : Context) : Program V (Except StepError Data) := do
  let r : Except StoreError Data ← Program.request (.input c.workflow)
  pure (ofStore r)

/-- A notification published. -/
def publish (_ : Context) (topic : String) (payload : Json) : Program V PublishReport :=
  Program.ask (.publish topic payload)

/-- A handler subscribed. -/
def subscribe (_ : Context) (topic : String) (handler : V.Handler) : Program V SubscriptionHandle :=
  Program.request (.bus (.subscribe topic handler))

/-- A fresh key bound to the step, without suspending yet. -/
def issueKey (c : Context) (source : TokenSource) : Program V AsyncKey := Program.request (.key (.issue c.step source))

/-- A fresh key bound to the step, to suspend on. -/
def suspend (c : Context) (source : TokenSource) : Program V (Except StepError Completion) := do
  let key ← c.issueKey source
  pure (.ok (.suspended key))

/-- A key of the step's choice bound to the step, to suspend on. -/
def submitKey (c : Context) (key : AsyncKey) : Program V (Except StepError Completion) := do
  let r : Except KeyError Unit ← Program.request (.key (.submit c.step key))
  match r with
  | .ok () => pure (.ok (.suspended key))
  | .error e => pure (.error (.key e))

/-- A transition of the step announced on its topic, if it has one. -/
def announce (c : Context) (t : Transition) : Program V (Option PublishReport) := do
  match t.topic? with
  | none => pure none
  | some topic =>
    let now : Instant ← Program.request .now
    let report ← Program.ask (.publish topic (Machine.announcement c.step t now))
    pure (some report)

end Context

end StepEngine
