import StepEngine.Ident

/-!
# Lifecycle: the states of a step instance

A step instance is pending until its entry behaviour starts. A run ends in one of three ways: it completes, it fails, or it suspends
on an async key; a suspended step goes back to running when it is resumed with the key it waits for. Complete and failed are final.

`StepState.next?` says which state an event leads to, and `Lifecycle.advance` also checks the key of a resumption. A refused event
leaves the lifecycle as it was.
-/

namespace StepEngine

/-- Where a step instance stands. -/
inductive StepState where
  | pending
  | inProgress
  | suspended
  | complete
  | error
  deriving DecidableEq, Repr, Inhabited

namespace StepState

/-- The text of a state. -/
def text : StepState → String
  | pending => "pending"
  | inProgress => "in_progress"
  | suspended => "suspended"
  | complete => "complete"
  | error => "error"

/-- The states. -/
def all : List StepState := [pending, inProgress, suspended, complete, error]

/-- The state that a text names. -/
def ofText? (s : String) : Option StepState := all.find? (·.text == s)

/-- No event leads out of the state. -/
def isTerminal : StepState → Bool
  | complete | error => true
  | _ => false

/-- Step code is running. -/
def isActive : StepState → Bool
  | inProgress => true
  | _ => false

/-- The step waits for a key. -/
def isSuspended : StepState → Bool
  | suspended => true
  | _ => false

end StepState

/-- What can happen to a step instance. -/
inductive StepEvent where
  /-- The entry behaviour runs. -/
  | start
  /-- A run ended by waiting for this key. -/
  | suspend (key : AsyncKey)
  /-- The key that the step waits for was resolved. -/
  | resume (key : AsyncKey)
  /-- A run finished. -/
  | complete
  /-- A run failed with this message. -/
  | fail (message : String)
  deriving DecidableEq, Repr

namespace StepEvent

/-- The name of the kind of an event. -/
def kind : StepEvent → String
  | start => "start"
  | suspend _ => "suspend"
  | resume _ => "resume"
  | complete => "complete"
  | fail _ => "fail"

/-- The message of a failure. -/
def failure? : StepEvent → Option String
  | fail message => some message
  | _ => none

/-- The key that an event is about. -/
def key? : StepEvent → Option AsyncKey
  | suspend key | resume key => some key
  | _ => none

end StepEvent

/-- Why an event is refused. -/
inductive LifecycleError where
  /-- The event does not apply in the state. -/
  | invalidTransition (state event : String)
  /-- The step waits for another key. -/
  | keyMismatch (expected actual : String)
  deriving DecidableEq, Repr

/-- An event that was accepted, with the states before and after it. -/
structure Transition where
  source : StepState
  target : StepState
  event : StepEvent
  deriving DecidableEq, Repr

/-- The state that an event leads to. -/
def StepState.next? : StepState → StepEvent → Except LifecycleError StepState
  | .pending, .start => .ok .inProgress
  | .inProgress, .complete => .ok .complete
  | .inProgress, .suspend _ => .ok .suspended
  | .inProgress, .fail _ => .ok .error
  | .suspended, .resume _ => .ok .inProgress
  | state, event => .error (.invalidTransition state.text event.kind)

/-- The lifecycle of one step instance: its state and the key it waits for. -/
structure Lifecycle where
  state : StepState
  awaiting : Option AsyncKey
  deriving DecidableEq, Repr

namespace Lifecycle

/-- The lifecycle of a step instance that has not started. -/
def new : Lifecycle := ⟨.pending, none⟩

/-- The key that the step waits for after an event. -/
def awaitedAfter : StepEvent → Option AsyncKey
  | .suspend key => some key
  | _ => none

/-- Why a resumption with this key is not for the key that the step waits for, if it is not. -/
def keyMismatch? (l : Lifecycle) : StepEvent → Option LifecycleError
  | .resume key =>
    match l.awaiting with
    | some expected => if expected = key then none else some (.keyMismatch expected.token key.token)
    | none => some (.keyMismatch "<none>" key.token)
  | _ => none

/-- The lifecycle after an event and the transition that was made, or why the event is refused. -/
def advance (l : Lifecycle) (event : StepEvent) : Except LifecycleError (Transition × Lifecycle) :=
  match l.state.next? event with
  | .error e => .error e
  | .ok target =>
    match l.keyMismatch? event with
    | some e => .error e
    | none => .ok (⟨l.state, target, event⟩, ⟨target, awaitedAfter event⟩)

end Lifecycle

/-- The topics that transitions are announced on, in the order of a lifecycle. -/
def Transition.topics : List String :=
  ["step.started", "step.suspended", "step.resumed", "step.completed", "step.failed"]

/-- The topic that a transition is announced on, if it is announced. -/
def Transition.topic? (t : Transition) : Option String :=
  match t.source, t.target with
  | .pending, .inProgress => some "step.started"
  | .suspended, .inProgress => some "step.resumed"
  | _, .suspended => some "step.suspended"
  | _, .complete => some "step.completed"
  | _, .error => some "step.failed"
  | _, _ => none

end StepEngine
