import StepEngine.Error
import StepEngine.KeyRegistry
import StepEngine.Lifecycle

/-!
# Slot: what an executor knows about the step instances it started

An executor opens a slot for every step instance that it starts. While code of the instance runs the slot is marked as running, and
resumptions that arrive meanwhile are deferred in it, to be tried one after the other when the run has settled.

A purge takes the slots of a workflow out of the executor's list, but an activation that is still in progress finishes on the slot it
began with. A slot is therefore named by its seat: the executor, the step instance and how often that executor had opened a slot for
that instance before.
-/

namespace StepEngine

/-- How step code ended a run. -/
inductive Completion where
  | complete
  /-- Wait for this key. -/
  | suspended (key : AsyncKey)
  deriving DecidableEq, Repr

/-- What an executor reports about a step instance. -/
inductive StepOutcome where
  | complete
  | suspended (key : AsyncKey)
  | failed (error : StepError)
  deriving DecidableEq, Repr

namespace StepOutcome

/-- The event that settles a run with this outcome. -/
def event : StepOutcome → StepEvent
  | complete => .complete
  | suspended key => .suspend key
  | failed error => .fail error.message

/-- The outcome in one word. -/
def status : StepOutcome → String
  | complete => "complete"
  | suspended _ => "suspended"
  | failed _ => "error"

/-- The error of a failed run. -/
def error? : StepOutcome → Option StepError
  | failed error => some error
  | _ => none

end StepOutcome

/-- The name of a slot. -/
structure Seat where
  executor : Nat
  step : StepId
  round : Nat
  deriving DecidableEq, Repr

/-- A slot: the definition that runs in it, the lifecycle of the instance, and what is deferred. -/
structure Slot (D : Type) where
  seat : Seat
  definition : D
  lifecycle : Lifecycle
  running : Bool
  deferred : List Resumption
  lastOutcome : Option StepOutcome
  /-- The slot is in its executor's list. -/
  listed : Bool

namespace Slot

variable {D : Type}

/-- The slot is where its executor looks for a step instance. -/
def isAt (slot : Slot D) (executor : Nat) (step : StepId) : Bool :=
  slot.listed && slot.seat.executor == executor && slot.seat.step == step

/-- The transition that starts a step instance. -/
def startTransition : Transition := ⟨.pending, .inProgress, .start⟩

/-- The lifecycle of a step instance that was just started. -/
def startedLifecycle : Lifecycle := ⟨.inProgress, none⟩

/-- Starting a new lifecycle gives the started one. -/
theorem advance_new_start : Lifecycle.new.advance .start = .ok (startTransition, startedLifecycle) := rfl

end Slot

/-- Every slot that was ever opened, the oldest first. -/
abbrev Slots (D : Type) := List (Slot D)

namespace Slots

variable {D : Type}

/-- The slot that an executor lists for a step instance. -/
def current? (slots : Slots D) (executor : Nat) (step : StepId) : Option (Slot D) :=
  slots.find? (·.isAt executor step)

/-- The slot with a seat. -/
def at? (slots : Slots D) (seat : Seat) : Option (Slot D) := slots.find? fun slot => slot.seat = seat

/-- The slot with a seat changed. -/
def modify (slots : Slots D) (seat : Seat) (f : Slot D → Slot D) : Slots D :=
  slots.map fun slot => if slot.seat = seat then f slot else slot

/-- The seat of the next slot that an executor opens for a step instance. -/
def nextSeat (slots : Slots D) (executor : Nat) (step : StepId) : Seat :=
  ⟨executor, step, (slots.filter fun slot => slot.seat.executor == executor && slot.seat.step == step).length⟩

/-- A slot opened for a step instance that starts. -/
def start (slots : Slots D) (executor : Nat) (definition : D) (step : StepId) : Slots D :=
  slots ++ [⟨slots.nextSeat executor step, definition, Slot.startedLifecycle, true, [], none, true⟩]

/-- The slots that an executor lists for a workflow. -/
def listedFor (slots : Slots D) (executor : Nat) (workflow : WorkflowId) : Slots D :=
  slots.filter fun slot => slot.listed && slot.seat.executor == executor && slot.seat.step.workflow == workflow

/-- The slots of a workflow taken out of an executor's list. -/
def purge (slots : Slots D) (executor : Nat) (workflow : WorkflowId) : Slots D :=
  slots.map fun slot =>
    if slot.seat.executor == executor && slot.seat.step.workflow == workflow then { slot with listed := false } else slot

end Slots

end StepEngine
