import StepEngine.Data
import StepEngine.Error
import StepEngine.Log
import StepEngine.Table

/-!
# Store: data kept per step instance or per workflow instance

A store keeps the data of every scope that was seeded. Seeding a scope again changes nothing, a merge writes over the data that is
there, and a scope that was never seeded, or was removed or purged since, is not found. The same store serves step instances and
workflow instances; `Scope` says what the two have in common.

The operations are also listed as values (`StoreOp`), each with the type of its answer, so that step code can ask for them.
-/

namespace StepEngine

/-- A kind of scope that data is kept for. -/
class Scope (κ : Type) where
  /-- The workflow instance that owns a scope. -/
  owner : κ → WorkflowId
  /-- The text of a scope. -/
  text : κ → String
  /-- The error when a scope is not found. -/
  notFound : κ → StoreError
  /-- The name of the store that keeps data for scopes of this kind. -/
  storeName : String

instance : Scope StepId where
  owner := (·.workflow)
  text := StepId.text
  notFound := .stepNotFound
  storeName := "step_data"

instance : Scope WorkflowId where
  owner := id
  text := WorkflowId.text
  notFound := .workflowNotFound
  storeName := "dynamic_data"

/-- The data of every scope that was seeded. -/
structure Store (κ : Type) where
  entries : Table κ Data

namespace Store

variable {κ : Type}

/-- The store without scopes. -/
def empty : Store κ := ⟨Table.empty⟩

instance : Inhabited (Store κ) := ⟨empty⟩

/-- The number of scopes. -/
def size (s : Store κ) : Nat := s.entries.size

/-- The store without the scopes that a workflow owns. -/
def purge [Scope κ] (s : Store κ) (workflow : WorkflowId) : Store κ :=
  ⟨s.entries.filter fun scope _ => Scope.owner scope ≠ workflow⟩

variable [DecidableEq κ]

/-- The scope has data. -/
def contains (s : Store κ) (scope : κ) : Bool := s.entries.contains scope

/-- Data for a scope that has none; the data of a scope that has some stays. -/
def seed (s : Store κ) (scope : κ) (defaults : Data) : Store κ :=
  if s.contains scope then s else ⟨s.entries.put scope defaults⟩

/-- The store without a scope. -/
def remove (s : Store κ) (scope : κ) : Store κ := ⟨s.entries.erase scope⟩

variable [Scope κ]

/-- The data of a scope. -/
def read (s : Store κ) (scope : κ) : Except StoreError Data :=
  match s.entries.get? scope with
  | some data => .ok data
  | none => .error (Scope.notFound scope)

/-- Changes merged into the data of a scope, with the full result. -/
def merge (s : Store κ) (scope : κ) (delta : Data) : Except StoreError (Data × Store κ) :=
  match s.entries.get? scope with
  | some data => .ok (data.merge delta, ⟨s.entries.put scope (data.merge delta)⟩)
  | none => .error (Scope.notFound scope)

end Store

/-- A request to a store. -/
inductive StoreOp (κ : Type) where
  /-- Data for a scope that has none. -/
  | seed (scope : κ) (defaults : Data)
  /-- The data of a scope. -/
  | read (scope : κ)
  /-- The data of a scope, for an observer outside the engine. -/
  | snapshot (scope : κ)
  /-- Changes merged into the data of a scope. -/
  | merge (scope : κ) (delta : Data)
  /-- Whether a scope has data. -/
  | contains (scope : κ)
  /-- A scope dropped, with its last data. -/
  | remove (scope : κ)
  /-- Every scope of a workflow dropped, with their number. -/
  | purge (workflow : WorkflowId)
  /-- The number of scopes. -/
  | size
  /-- Whether there is no scope. -/
  | isEmpty

namespace StoreOp

variable {κ : Type}

/-- What a store answers to a request. -/
def Answer : StoreOp κ → Type
  | seed _ _ => Data
  | read _ => Except StoreError Data
  | snapshot _ => Except StoreError Data
  | merge _ _ => Except StoreError Data
  | contains _ => Bool
  | remove _ => Option Data
  | purge _ => Nat
  | size => Nat
  | isEmpty => Bool

variable [DecidableEq κ] [Scope κ]

/-- A request carried out: the answer and the store afterwards. -/
def run (s : Store κ) : (op : StoreOp κ) → op.Answer × Store κ
  | seed scope defaults => (((s.entries.get? scope).getD defaults : Data), s.seed scope defaults)
  | read scope => (s.read scope, s)
  | snapshot scope => (s.read scope, s)
  | merge scope delta =>
    match s.merge scope delta with
    | .ok (data, s) => (.ok data, s)
    | .error e => (.error e, s)
  | contains scope => (s.contains scope, s)
  | remove scope => (s.entries.get? scope, s.remove scope)
  | purge workflow => ((s.size - (s.purge workflow).size : Nat), s.purge workflow)
  | size => (s.size, s)
  | isEmpty => ((s.size == 0 : Bool), s)

/-- The fields that every report of a store has: its name and the scope. -/
def logFields (scope : κ) : List (String × Json) :=
  [("store", .text (Scope.storeName κ)), ("scope", .text (Scope.text scope))]

/-- What a request reports: a new scope, a merge and a purge. -/
def log (s : Store κ) : StoreOp κ → List LogEvent
  | seed scope defaults =>
    if s.contains scope then []
    else [⟨.debug, "Initialized data", logFields scope ++ [("keys", .nat defaults.size)]⟩]
  | merge scope delta =>
    match s.merge scope delta with
    | .ok (data, _) =>
      [⟨.trace, "Merged data", logFields scope ++ [("delta_keys", .nat delta.size), ("total_keys", .nat data.size)]⟩]
    | .error _ => []
  | purge workflow =>
    [⟨.debug, "Purged workflow instance data",
      [("store", .text (Scope.storeName κ)), ("workflow_instance", .text workflow.text),
        ("purged", .nat (s.size - (s.purge workflow).size))]⟩]
  | _ => []

end StoreOp

end StepEngine
