import StepEngine.Error
import StepEngine.Json
import StepEngine.Log
import StepEngine.Table
import StepEngine.TokenSource

/-!
# KeyRegistry: async keys, from their issue to their resolution

A key is bound to one step instance when it is issued or submitted, and it is pending until somebody completes it with a payload or
expires it. That happens at most once. Forgetting the keys of a workflow retires their tokens: a token that was ever bound is never
bound again.

Resolving a key yields the resumption that is owed to its step; who carries it out is not the registry's matter.
-/

namespace StepEngine

/-- Nanoseconds on the engine's clock. -/
abbrev Instant := Nat

/-- Where an async key stands. -/
inductive KeyState where
  | pending
  | completed
  | expired
  deriving DecidableEq, Repr, Inhabited

namespace KeyState

/-- The text of a state. -/
def text : KeyState → String
  | pending => "pending"
  | completed => "completed"
  | expired => "expired"

/-- The key is resolved. -/
def isTerminal : KeyState → Bool
  | pending => false
  | _ => true

end KeyState

/-- How a key was resolved, as its step learns it. -/
inductive AsyncOutcome where
  /-- Somebody completed the key with this payload. -/
  | completed (payload : Json)
  /-- The key was expired. -/
  | expired
  deriving Repr

namespace AsyncOutcome

/-- The payload that the key was completed with. -/
def payload? : AsyncOutcome → Option Json
  | completed payload => some payload
  | expired => none

/-- The key was expired. -/
def isExpired : AsyncOutcome → Bool
  | completed _ => false
  | expired => true

/-- The state of a key that was resolved so. -/
def keyState : AsyncOutcome → KeyState
  | completed _ => .completed
  | expired => .expired

end AsyncOutcome

/-- What is known about a key: its step, its state, the payload it was completed with, and the times. -/
structure KeyRecord where
  step : StepId
  state : KeyState
  payload : Option Json
  issuedAt : Instant
  resolvedAt : Option Instant

/-- A key with what is known about it. -/
structure KeyStatus extends KeyRecord where
  key : AsyncKey

/-- The request to continue a step whose key was resolved. -/
structure Resumption where
  key : AsyncKey
  step : StepId
  outcome : AsyncOutcome

/-- The keys that are bound, and the tokens of keys that are forgotten. -/
structure KeyRegistry where
  keys : Table AsyncKey KeyRecord
  retired : List AsyncKey

namespace KeyRegistry

/-- The registry in which no key was ever bound. -/
def empty : KeyRegistry := ⟨Table.empty, []⟩

instance : Inhabited KeyRegistry := ⟨empty⟩

/-- The tokens that were ever bound. -/
def used (r : KeyRegistry) : List AsyncKey := r.keys.keys ++ r.retired

/-- The token was bound before. -/
def isUsed (r : KeyRegistry) (key : AsyncKey) : Bool := r.keys.contains key || r.retired.contains key

/-- A key bound to a step and pending. -/
def bind (r : KeyRegistry) (key : AsyncKey) (step : StepId) (now : Instant) : KeyRegistry :=
  { r with keys := r.keys.put key ⟨step, .pending, none, now, none⟩ }

/-- The key that a token source gives for a fresh binding. -/
def freshKey (r : KeyRegistry) (source : TokenSource) : AsyncKey := ⟨source.pick (r.used.map (·.token))⟩

/-- A key of the caller's choice bound to a step, unless its token was bound before. -/
def submit (r : KeyRegistry) (step : StepId) (key : AsyncKey) (now : Instant) : Except KeyError KeyRegistry :=
  if r.isUsed key then .error (.duplicate key) else .ok (r.bind key step now)

/-- The record of a key after its resolution. -/
def KeyRecord.resolve (record : KeyRecord) (outcome : AsyncOutcome) (now : Instant) : KeyRecord :=
  { record with state := outcome.keyState, payload := outcome.payload?, resolvedAt := some now }

/-- A pending key resolved, and the resumption that is owed to its step. -/
def resolve (r : KeyRegistry) (key : AsyncKey) (outcome : AsyncOutcome) (now : Instant) :
    Except KeyError (Resumption × KeyRegistry) :=
  match r.keys.get? key with
  | none => .error (.unknown key)
  | some record =>
    if record.state = .pending then
      .ok (⟨key, record.step, outcome⟩, { r with keys := r.keys.modify key (KeyRecord.resolve · outcome now) })
    else .error (.alreadyResolved key record.state.text)

/-- What is known about a key. -/
def status (r : KeyRegistry) (key : AsyncKey) : Except KeyError KeyStatus :=
  match r.keys.get? key with
  | some record => .ok ⟨record, key⟩
  | none => .error (.unknown key)

/-- The keys that are pending and were issued before a time. -/
def pendingBefore (r : KeyRegistry) (cutoff : Instant) : List AsyncKey :=
  (r.keys.filter fun _ record => record.state = .pending && record.issuedAt < cutoff).keys

/-- The keys ever bound to a step, the oldest first: they are listed in the order in which they were bound. -/
def keysOf (r : KeyRegistry) (step : StepId) : List KeyStatus :=
  (r.keys.filter fun _ record => record.step = step).rows.map fun row => ⟨row.2, row.1⟩

/-- The keys that are bound to steps of a workflow. -/
def ownedBy (r : KeyRegistry) (workflow : WorkflowId) : List AsyncKey :=
  (r.keys.filter fun _ record => record.step.workflow = workflow).keys

/-- The keys of a workflow's steps forgotten and their tokens retired. -/
def purge (r : KeyRegistry) (workflow : WorkflowId) : KeyRegistry where
  keys := r.keys.filter fun _ record => record.step.workflow ≠ workflow
  retired := r.ownedBy workflow ++ r.retired

/-- The number of bound keys. -/
def size (r : KeyRegistry) : Nat := r.keys.size

end KeyRegistry

/-- A request to the registry that is answered at once. -/
inductive KeyOp where
  /-- A fresh key bound to a step. -/
  | issue (step : StepId) (source : TokenSource)
  /-- A key of the caller's choice bound to a step. -/
  | submit (step : StepId) (key : AsyncKey)
  /-- What is known about a key. -/
  | status (key : AsyncKey)
  /-- The keys ever bound to a step. -/
  | keysOf (step : StepId)
  /-- The keys pending since before a time. -/
  | pendingBefore (cutoff : Instant)
  /-- The keys of a workflow's steps forgotten, with their number. -/
  | purge (workflow : WorkflowId)
  /-- The number of bound keys. -/
  | size
  /-- Whether no key is bound. -/
  | isEmpty

namespace KeyOp

/-- What the registry answers to a request. -/
def Answer : KeyOp → Type
  | issue _ _ => AsyncKey
  | submit _ _ => Except KeyError Unit
  | status _ => Except KeyError KeyStatus
  | keysOf _ => List KeyStatus
  | pendingBefore _ => List AsyncKey
  | purge _ => Nat
  | size => Nat
  | isEmpty => Bool

/-- A request carried out: the answer, the registry afterwards, and whether a key was bound, which takes a moment of time. -/
def run (r : KeyRegistry) (now : Instant) : (op : KeyOp) → op.Answer × KeyRegistry × Bool
  | issue step source => (r.freshKey source, r.bind (r.freshKey source) step now, true)
  | submit step key =>
    match r.submit step key now with
    | .ok r => (.ok (), r, true)
    | .error e => (.error e, r, false)
  | status key => (r.status key, r, false)
  | keysOf step => (r.keysOf step, r, false)
  | pendingBefore cutoff => (r.pendingBefore cutoff, r, false)
  | purge workflow => (((r.ownedBy workflow).length : Nat), r.purge workflow, false)
  | size => (r.size, r, false)
  | isEmpty => ((r.size == 0 : Bool), r, false)

/-- What a request reports: a key that was bound. -/
def log (r : KeyRegistry) : KeyOp → List LogEvent
  | issue step source =>
    [⟨.debug, "Issued async key",
      [("async_key", .text (r.freshKey source).token), ("step_instance", .text step.text)]⟩]
  | submit step key =>
    if r.isUsed key then []
    else [⟨.debug, "Submitted async key", [("async_key", .text key.token), ("step_instance", .text step.text)]⟩]
  | _ => []

end KeyOp

end StepEngine
