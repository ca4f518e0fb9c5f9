import StepEngine.Data
import StepEngine.Json.Record
import StepEngine.KeyRegistry
import StepEngine.Lifecycle

/-!
# Codec: domain values as JSON and back

Identifiers and keys are written as texts, a step instance as a record, states by their names, and events and outcomes as tagged
unions. Reading undoes writing; it also accepts the other spellings that the records and variants of `Json` have.
-/

namespace StepEngine

namespace WorkflowId

/-- A workflow instance as a value: its text. -/
def toJson (w : WorkflowId) : Json := .text w.text

/-- The workflow instance that a value writes. -/
def ofJson? (j : Json) : Option WorkflowId := do
  let s ← j.asText?
  (Uuid.ofText? s).map WorkflowId.mk

end WorkflowId

namespace StepId

/-- A step instance as a value: a record of its parts. -/
def toJson (s : StepId) : Json :=
  Json.record
    [("workflow_instance_id", s.workflow.toJson), ("step_name", .text s.name), ("index", .nat s.index.toNat)]

/-- The step instance that a value writes. -/
def ofJson? (j : Json) : Option StepId :=
  match j.parts? ["workflow_instance_id", "step_name", "index"] with
  | some [some w, some n, some i] => do
    return ⟨← WorkflowId.ofJson? w, ← n.asText?, ← i.uint32?⟩
  | _ => none

end StepId

namespace AsyncKey

/-- A key as a value: its token. -/
def toJson (k : AsyncKey) : Json := .text k.token

/-- The key that a value writes. -/
def ofJson? (j : Json) : Option AsyncKey := j.asText?.map AsyncKey.mk

end AsyncKey

namespace StepState

/-- A state as a value: its text. -/
def toJson (s : StepState) : Json := .text s.text

/-- The state that a value writes. -/
def ofJson? (j : Json) : Option StepState := j.variantName?.bind ofText?

end StepState

namespace KeyState

/-- A key's state as a value: its text. -/
def toJson (s : KeyState) : Json := .text s.text

/-- The key's state that a value writes. -/
def ofJson? (j : Json) : Option KeyState :=
  j.variantName?.bind fun name => [pending, completed, expired].find? (·.text == name)

end KeyState

namespace StepEvent

/-- An event as a value: its kind, with its key or message when it has one. -/
def toJson : StepEvent → Json
  | start => Json.record [("type", .text "start")]
  | suspend key => Json.record [("type", .text "suspend"), ("data", key.toJson)]
  | resume key => Json.record [("type", .text "resume"), ("data", key.toJson)]
  | complete => Json.record [("type", .text "complete")]
  | fail message => Json.record [("type", .text "fail"), ("data", .text message)]

/-- The event that a value writes. -/
def ofJson? (j : Json) : Option StepEvent :=
  match j.tagged? "type" "data" with
  | some ("start", content) => Json.noContent start content
  | some ("suspend", some content) => (AsyncKey.ofJson? content).map suspend
  | some ("resume", some content) => (AsyncKey.ofJson? content).map resume
  | some ("complete", content) => Json.noContent complete content
  | some ("fail", some content) => content.asText?.map fail
  | _ => none

end StepEvent

namespace AsyncOutcome

/-- An outcome as a value: its kind, with the payload of a completion. -/
def toJson : AsyncOutcome → Json
  | completed payload => Json.record [("type", .text "completed"), ("payload", payload)]
  | expired => Json.record [("type", .text "expired")]

/-- The outcome that a value writes. -/
def ofJson? (j : Json) : Option AsyncOutcome :=
  match j.tagged? "type" "payload" with
  | some ("completed", some payload) => some (completed payload)
  | some ("expired", content) => Json.noContent expired content
  | _ => none

end AsyncOutcome

end StepEngine
