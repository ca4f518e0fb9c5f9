import StepEngine.Engine.World

/-!
# Op: what code may ask of the engine

Most requests are answered at once (`PlainOp`): they read the world or change one part of it. The others run further code before they are
answered: a publication runs handlers, resolving a key may resume a step, and executing a step runs the step.
-/

namespace StepEngine

/-- A request that is answered at once. -/
inductive PlainOp (V : Vocabulary) where
  | stepData (op : StoreOp StepId)
  | workflowData (op : StoreOp WorkflowId)
  | key (op : KeyOp)
  | bus (op : BusOp V.Handler)
  /-- A workflow registered with its input. -/
  | startWorkflow (workflow : WorkflowId) (input : Data)
  /-- The input of a workflow. -/
  | input (workflow : WorkflowId)
  /-- All state of a workflow dropped, with the number of entries it had. -/
  | purgeWorkflow (workflow : WorkflowId)
  /-- The settings of the engine. -/
  | config
  /-- The time. -/
  | now
  /-- Wait for some nanoseconds. -/
  | sleep (nanoseconds : Nat)
  /-- A report for the log. -/
  | log (event : LogEvent)
  /-- A new executor, attached as the one that carries out resumptions. -/
  | openExecutor
  /-- An executor given up by its owner. -/
  | releaseExecutor (id : Nat)
  /-- Another receiver of resumptions attached. -/
  | attach (receiver : V.Receiver)
  /-- The attached receiver, if it is not an executor, detached. -/
  | detach
  /-- The state of a step instance that an executor started. -/
  | state (executor : Nat) (step : StepId)
  /-- The latest outcome of a step instance that an executor started. -/
  | lastOutcome (executor : Nat) (step : StepId)
  /-- The slots of a workflow taken out of an executor's list, with their number. -/
  | purgeSlots (executor : Nat) (workflow : WorkflowId)

namespace PlainOp

variable {V : Vocabulary}

/-- What is answered to a request. -/
def Answer : PlainOp V → Type
  | stepData op => op.Answer
  | workflowData op => op.Answer
  | key op => op.Answer
  | bus op => op.Answer
  | startWorkflow _ _ => Unit
  | input _ => Except StoreError Data
  | purgeWorkflow _ => Nat
  | config => EngineConfig
  | now => Instant
  | sleep _ => Unit
  | log _ => Unit
  | openExecutor => Nat
  | releaseExecutor _ => Unit
  | attach _ => Unit
  | detach => Unit
  | state _ _ => Option StepState
  | lastOutcome _ _ => Option StepOutcome
  | purgeSlots _ _ => Nat

/-- A request carried out: the answer and the world afterwards. Binding a key takes a while, so that no two keys are
bound at one time or right after each other, and a wait takes a moment longer than it was asked to. -/
def run (w : World V) : (op : PlainOp V) → op.Answer × World V
  | stepData op =>
    let (a, s) := op.run w.stepData
    (a, { w with stepData := s })
  | workflowData op =>
    let (a, s) := op.run w.workflowData
    (a, { w with workflowData := s })
  | key op =>
    let (a, keys, bound) := op.run w.keys w.clock
    let w := { w with keys := keys }
    (a, if bound then w.wait World.bindingTime else w)
  | bus op =>
    let (a, b) := op.run w.bus
    (a, { w with bus := b })
  | startWorkflow workflow data => ((), w.startWorkflow workflow data)
  | input workflow => (w.input workflow, w)
  | purgeWorkflow workflow => (w.ownedCount workflow, w.purgeWorkflow workflow)
  | config => (w.config, w)
  | now => (w.clock, w)
  | sleep nanoseconds => ((), w.wait nanoseconds)
  | log _ => ((), w)
  | openExecutor => (w.executors.length, w.openExecutor)
  | releaseExecutor id => ((), w.releaseExecutor id)
  | attach receiver => ((), { w with attachment := .receiver receiver })
  | detach =>
    match w.attachment with
    | .receiver _ => ((), { w with attachment := .none })
    | _ => ((), w)
  | state executor step => ((w.slots.current? executor step).map (·.lifecycle.state), w)
  | lastOutcome executor step => ((w.slots.current? executor step).bind (·.lastOutcome), w)
  | purgeSlots executor workflow =>
    ((w.slots.listedFor executor workflow).length, { w with slots := w.slots.purge executor workflow })

/-- What a request reports. `name` gives the name of a handler. -/
def report (name : V.Handler → String) (w : World V) : PlainOp V → List LogEvent
  | stepData op => op.log w.stepData
  | workflowData op => op.log w.workflowData
  | key op => op.log w.keys
  | bus op => op.log name w.bus
  | startWorkflow workflow _ =>
    (StoreOp.seed workflow Dict.empty).log w.workflowData ++
      [⟨.info, "Started workflow instance", [("workflow_instance", .text workflow.text)]⟩]
  | purgeWorkflow workflow =>
    (StoreOp.purge workflow).log w.stepData ++ (StoreOp.purge workflow).log w.workflowData ++
      [⟨.info, "Purged workflow instance",
        [("workflow_instance", .text workflow.text), ("purged", .nat (w.ownedCount workflow))]⟩]
  | log event => [event]
  | openExecutor =>
    [⟨.info, "Step executor attached to async completion registry",
      [("max_concurrent_steps", .nat w.config.execution.maxConcurrentSteps.toNat)]⟩]
  | _ => []

end PlainOp

/-- A request to the engine. -/
inductive Op (V : Vocabulary) where
  | plain (op : PlainOp V)
  /-- A notification delivered to the subscribers of its topic. -/
  | publish (topic : String) (payload : Json)
  /-- A key resolved and its step resumed. -/
  | resolve (key : AsyncKey) (outcome : AsyncOutcome)
  /-- A step executed as an instance. In the background a panic of the execution itself is an outcome too. -/
  | execute (executor : Nat) (definition : V.Definition) (step : StepId) (background : Bool)
  /-- A resumption applied by hand: the outcome when it ran the step, none when it was deferred or rejected. -/
  | apply (executor : Nat) (resumption : Resumption)

namespace Op

variable {V : Vocabulary}

/-- What is answered to a request. -/
def Answer : Op V → Type
  | plain op => op.Answer
  | publish _ _ => PublishReport
  | resolve _ _ => Except KeyError Unit
  | execute _ _ _ _ => StepOutcome
  | apply _ _ => Option StepOutcome

end Op

end StepEngine
