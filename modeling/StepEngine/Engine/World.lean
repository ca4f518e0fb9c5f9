import StepEngine.Bus
import StepEngine.Config
import StepEngine.Engine.Slot
import StepEngine.KeyRegistry
import StepEngine.Store

/-!
# World: everything the engine keeps

The engine serves many workflow instances. It keeps the data of step instances and of workflows, the read-only input of every workflow,
the async keys, the notification bus, and the slots of every executor that was opened on it. Everything is keyed by workflow or by
step instance.

The code that runs on the engine is not part of the world. Handlers, step definitions and receivers of resumptions are kept by
descriptors of types that whoever uses the engine chooses (`Vocabulary`); what a descriptor does is said elsewhere.
-/

namespace StepEngine

/-- The types that the code on top of the engine brings along. -/
structure Vocabulary where
  /-- The state that the code shares among its runs. -/
  Memory : Type
  /-- Descriptors of notification handlers. -/
  Handler : Type
  /-- Descriptors of step definitions. -/
  Definition : Type
  /-- Descriptors of receivers of resumptions other than executors. -/
  Receiver : Type

/-- Who gets the resumptions of resolved keys. An executor is attached only loosely: once it is released, nobody does. -/
inductive Attachment (V : Vocabulary) where
  | none
  | executor (id : Nat)
  | receiver (descriptor : V.Receiver)

/-- Everything the engine keeps. -/
structure World (V : Vocabulary) where
  config : EngineConfig
  clock : Instant
  stepData : Store StepId
  workflowData : Store WorkflowId
  inputs : Table WorkflowId Data
  keys : KeyRegistry
  attachment : Attachment V
  bus : Bus V.Handler
  /-- For every executor that was opened, whether it is still held by its owner. -/
  executors : List Bool
  slots : Slots V.Definition

namespace World

variable {V : Vocabulary}

/-- The world before anything happened. -/
def new (config : EngineConfig) (logsFaults : Bool) : World V where
  config := config
  clock := 0
  stepData := Store.empty
  workflowData := Store.empty
  inputs := Table.empty
  keys := KeyRegistry.empty
  attachment := .none
  bus := Bus.new logsFaults
  executors := []
  slots := []

/-- Nanoseconds that it takes to bind a key. -/
def bindingTime : Nat := 2000

/-- Some nanoseconds and a moment more have passed, for no wait ends at the time at which it began. -/
def wait (w : World V) (nanoseconds : Nat) : World V := { w with clock := w.clock + nanoseconds + 1 }

/-- The input of a workflow. -/
def input (w : World V) (workflow : WorkflowId) : Except StoreError Data :=
  match w.inputs.get? workflow with
  | some data => .ok data
  | none => .error (.workflowNotFound workflow)

/-- A workflow registered with its input; its shared data starts empty. -/
def startWorkflow (w : World V) (workflow : WorkflowId) (input : Data) : World V :=
  { w with
    inputs := w.inputs.put workflow input
    workflowData := w.workflowData.seed workflow Dict.empty }

/-- The number of entries that a workflow has in the stores, among the keys and among the inputs. -/
def ownedCount (w : World V) (workflow : WorkflowId) : Nat :=
  (w.stepData.size - (w.stepData.purge workflow).size) + (w.workflowData.size - (w.workflowData.purge workflow).size) +
    (w.keys.ownedBy workflow).length + (if w.inputs.contains workflow then 1 else 0)

/-- Everything that a workflow has in the stores, among the keys and among the inputs dropped. -/
def purgeWorkflow (w : World V) (workflow : WorkflowId) : World V :=
  { w with
    stepData := w.stepData.purge workflow
    workflowData := w.workflowData.purge workflow
    keys := w.keys.purge workflow
    inputs := w.inputs.erase workflow }

/-- An executor opened and attached. -/
def openExecutor (w : World V) : World V :=
  { w with
    attachment := .executor w.executors.length
    executors := w.executors ++ [true] }

/-- An executor released by its owner. -/
def releaseExecutor (w : World V) (id : Nat) : World V := { w with executors := w.executors.set id false }

/-- The executor is held by its owner. -/
def isHeld (w : World V) (id : Nat) : Bool := (w.executors[id]?).getD false

end World

end StepEngine
