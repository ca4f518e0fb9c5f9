import StepEngine.Ident.Uuid

/-!
# Ident: who a piece of state belongs to

A workflow instance is named by an identifier. A step instance is one execution of a named step within a workflow instance; its
index tells repeated executions of the same step apart. An async key is the token that a suspended step waits for.

Each has a text: logs and errors refer to a step instance as `workflow/name[index]`.
-/

namespace StepEngine

/-- One running workflow instance. -/
structure WorkflowId where
  uuid : Uuid
  deriving DecidableEq, Repr, Inhabited

/-- One execution of a named step within a workflow instance. -/
structure StepId where
  workflow : WorkflowId
  name : String
  index : UInt32
  deriving DecidableEq, Repr, Inhabited

/-- The token that a suspended step waits for. -/
structure AsyncKey where
  token : String
  deriving DecidableEq, Repr, Inhabited

namespace WorkflowId

/-- The text of a workflow instance: its identifier. -/
def text (w : WorkflowId) : String := w.uuid.text

end WorkflowId

namespace StepId

/-- The text of a step instance, `workflow/name[index]`. -/
def text (s : StepId) : String := s.workflow.text ++ "/" ++ s.name ++ "[" ++ toString s.index.toNat ++ "]"

/-- Step instances are ordered by workflow, then by name, then by index. -/
def precedes (a b : StepId) : Bool :=
  if a.workflow = b.workflow then
    if a.name = b.name then a.index ≤ b.index else a.name < b.name
  else a.workflow.uuid.value < b.workflow.uuid.value

/-- Step instances in order. -/
def sort (steps : List StepId) : List StepId := steps.mergeSort precedes

end StepId

namespace AsyncKey

/-- Keys are ordered by their tokens. -/
def precedes (a b : AsyncKey) : Bool := a.token ≤ b.token

/-- Keys in order. -/
def sort (keys : List AsyncKey) : List AsyncKey := keys.mergeSort precedes

end AsyncKey

end StepEngine
