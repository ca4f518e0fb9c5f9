import StepEngine.Proofs.Keys
import StepEngine.Proofs.Run
import StepEngine.Proofs.Slots

/-!
# Ledger: what one step of the engine does to keys, slots and activations

The ledger of a state holds its keys, its slots, who is attached, and the activations in progress. `Move` lists what a step can do to
it, each case with its guard, and `step_move` says that there is nothing else: whatever handlers and step code do, and however deep they
are nested, the ledger only changes by these moves. `Ledger.Coherent` is what the moves rely on, and what they keep.
-/

namespace StepEngine

/-- An activation in progress: the seat it runs on, and the phase that it goes on with; while step code runs there is none. -/
structure Activation where
  seat : Seat
  phase : Option Phase

/-- The activations in progress on a stack, the innermost first. -/
def Stack.activations {V : Vocabulary} {ρ : Type} : {e : Expects} → Stack V ρ e → List Activation
  | _, .bottom => []
  | _, .handling _ below => below.activations
  | _, .receiving _ below => below.activations
  | _, .active seat below => ⟨seat, none⟩ :: below.activations
  | _, .publishing _ below => below.activations
  | _, .announcing seat phase below => ⟨seat, some phase⟩ :: below.activations
  | _, .awaiting _ _ below => below.activations

/-- The activations in progress, the innermost first. -/
def Control.activations {V : Vocabulary} {ρ : Type} : Control V ρ → List Activation
  | .run _ stack => stack.activations
  | .report _ stack => stack.activations
  | .proceed seat phase stack => ⟨seat, some phase⟩ :: stack.activations
  | .settle seat _ stack => ⟨seat, none⟩ :: stack.activations
  | .outcome _ stack => stack.activations
  | .unwind _ stack => stack.activations
  | .finished _ => []

/-! ## Lifecycles -/

/-- The lifecycle of a step instance whose last run had an outcome. -/
def StepOutcome.lifecycle : StepOutcome → Lifecycle
  | complete => ⟨.complete, none⟩
  | suspended key => ⟨.suspended, some key⟩
  | failed _ => ⟨.error, none⟩

namespace Lifecycle

/-- A running step instance settles with every outcome. -/
theorem advance_started (outcome : StepOutcome) :
    Slot.startedLifecycle.advance outcome.event =
      .ok (⟨.inProgress, outcome.lifecycle.state, outcome.event⟩, outcome.lifecycle) := by
  cases outcome <;> rfl

/-- A step instance that is suspended on a key resumes with it. -/
theorem advance_resume (key : AsyncKey) :
    advance ⟨.suspended, some key⟩ (.resume key) = .ok (⟨.suspended, .inProgress, .resume key⟩, Slot.startedLifecycle) := by
  simp [advance, StepState.next?, keyMismatch?, Slot.startedLifecycle, awaitedAfter]

/-- Only a step instance that is suspended on a key resumes with it. -/
theorem advance_resume_eq_ok {l l' : Lifecycle} {key : AsyncKey} {t : Transition} (h : l.advance (.resume key) = .ok (t, l')) :
    l = ⟨.suspended, some key⟩ ∧ t = ⟨.suspended, .inProgress, .resume key⟩ ∧ l' = Slot.startedLifecycle := by
  obtain ⟨state, awaiting⟩ := l
  have hl : state = .suspended ∧ awaiting = some key := by
    cases state <;> cases awaiting <;> simp [advance, StepState.next?, keyMismatch?] at h ⊢
    rename_i expected
    by_cases hk : expected = key
    · exact hk
    · simp [hk] at h
  obtain ⟨rfl, rfl⟩ := hl
  rw [advance_resume] at h
  cases h
  exact ⟨rfl, rfl, rfl⟩

end Lifecycle

/-! ## Deferred resumptions -/

namespace Machine

/-- The deferred resumption that is taken is the first one for the key that the lifecycle waits for. -/
theorem nextDeferred_eq_some {lifecycle l : Lifecycle} {queue rest : List Resumption} {events : List LogEvent} {r : Resumption}
    {t : Transition} (h : nextDeferred lifecycle queue = (events, some (r, t, l, rest))) :
    lifecycle = ⟨.suspended, some r.key⟩ ∧ t = ⟨.suspended, .inProgress, .resume r.key⟩ ∧ l = Slot.startedLifecycle ∧
      ∃ skipped, queue = skipped ++ r :: rest ∧ ∀ s ∈ skipped, s.key ≠ r.key := by
  induction queue generalizing events with
  | nil => simp [nextDeferred] at h
  | cons first queue ih =>
    rw [nextDeferred] at h
    split at h
    · rename_i t' l' hadvance
      cases h
      obtain ⟨hlife, ht, hl⟩ := Lifecycle.advance_resume_eq_ok hadvance
      exact ⟨hlife, ht, hl, [], rfl, nofun⟩
    · rename_i e hadvance
      simp only [Prod.mk.injEq] at h
      obtain ⟨hlife, ht, hl, skipped, rfl, hskipped⟩ := ih (Prod.ext rfl h.2)
      refine ⟨hlife, ht, hl, first :: skipped, rfl, ?_⟩
      intro s hs
      rcases List.mem_cons.1 hs with rfl | hs
      · intro hkey
        rw [hlife, ← hkey, Lifecycle.advance_resume] at hadvance
        cases hadvance
      · exact hskipped s hs

/-- No deferred resumption is taken only if none is for the key that the lifecycle waits for. -/
theorem nextDeferred_eq_none {lifecycle : Lifecycle} {queue : List Resumption} {events : List LogEvent}
    (h : nextDeferred lifecycle queue = (events, none)) : ∀ r ∈ queue, lifecycle ≠ ⟨.suspended, some r.key⟩ := by
  induction queue generalizing events with
  | nil => exact nofun
  | cons first queue ih =>
    rw [nextDeferred] at h
    split at h
    · cases h
    · rename_i e hadvance
      simp only [Prod.mk.injEq] at h
      intro r hr
      rcases List.mem_cons.1 hr with rfl | hr
      · intro hlife
        rw [hlife, Lifecycle.advance_resume] at hadvance
        cases hadvance
      · exact ih (Prod.ext rfl h.2) r hr

end Machine

/-! ## Slots -/

namespace Slot

variable {D : Type}

/-- A resumption deferred. -/
def defer (r : Resumption) (slot : Slot D) : Slot D := { slot with deferred := slot.deferred ++ [r] }

/-- An idle slot resumed. -/
def wake (slot : Slot D) : Slot D := { slot with lifecycle := startedLifecycle, running := true }

/-- A run settled. -/
def settle (outcome : StepOutcome) (slot : Slot D) : Slot D :=
  { slot with lifecycle := outcome.lifecycle, lastOutcome := some outcome }

/-- A running slot resumed from what is deferred. -/
def take (rest : List Resumption) (slot : Slot D) : Slot D := { slot with lifecycle := startedLifecycle, deferred := rest }

/-- A slot whose activation is over. -/
def idle (slot : Slot D) : Slot D := { slot with deferred := [], running := false }

theorem keeps_defer (r : Resumption) : Keeps (defer (D := D) r) := ⟨fun _ => rfl, fun _ => rfl, fun _ => rfl⟩

theorem keeps_wake : Keeps (wake (D := D)) := ⟨fun _ => rfl, fun _ => rfl, fun _ => rfl⟩

theorem keeps_settle (outcome : StepOutcome) : Keeps (settle (D := D) outcome) := ⟨fun _ => rfl, fun _ => rfl, fun _ => rfl⟩

theorem keeps_take (rest : List Resumption) : Keeps (take (D := D) rest) := ⟨fun _ => rfl, fun _ => rfl, fun _ => rfl⟩

theorem keeps_idle : Keeps (idle (D := D)) := ⟨fun _ => rfl, fun _ => rfl, fun _ => rfl⟩

/-- The step instance is suspended on the key. -/
def Awaits (slot : Slot D) (key : AsyncKey) : Prop := slot.lifecycle = ⟨.suspended, some key⟩

/-- The last run of the step instance had the outcome, and its lifecycle stands accordingly. -/
def Reports (slot : Slot D) (outcome : StepOutcome) : Prop :=
  slot.lifecycle = outcome.lifecycle ∧ slot.lastOutcome = some outcome

/-- The slot stands as an activation in a phase needs it: settled, or running. -/
def Fits (slot : Slot D) : Option Phase → Prop
  | some (.settled outcome) => slot.Reports outcome
  | _ => slot.lifecycle = startedLifecycle

/-- The step instance may suspend on the key: the key is bound to it, and it is pending or its resumption is deferred. -/
def MayAwait (slot : Slot D) (keys : KeyRegistry) (key : AsyncKey) : Prop :=
  ∃ record, keys.keys.get? key = some record ∧ record.step = slot.seat.step ∧
    (record.state = .pending ∨ ∃ r ∈ slot.deferred, r.key = key)

end Slot

/-! ## Ledgers -/

/-- Keys, slots, attachment and activations. -/
structure Ledger (V : Vocabulary) where
  keys : KeyRegistry
  slots : Slots V.Definition
  attachment : Attachment V
  executors : List Bool
  activations : List Activation

/-- What the ledger shows of a world, with the activations in progress. -/
def World.ledger {V : Vocabulary} (w : World V) (activations : List Activation) : Ledger V :=
  ⟨w.keys, w.slots, w.attachment, w.executors, activations⟩

/-- The ledger of a state. -/
def MachineState.ledger {V : Vocabulary} {ρ : Type} (state : MachineState V ρ) : Ledger V :=
  state.scene.world.ledger state.control.activations

/-- The request drops the keys of a workflow. -/
def PlainOp.Forgets {V : Vocabulary} (workflow : WorkflowId) : PlainOp V → Prop
  | .key (.purge w) => w = workflow
  | .purgeWorkflow w => w = workflow
  | _ => False

/-- The request drops the keys of a workflow. -/
def Op.Forgets {V : Vocabulary} (workflow : WorkflowId) : Op V → Prop
  | .plain op => op.Forgets workflow
  | _ => False

namespace Ledger

variable {V : Vocabulary}

/-- What holds of the ledger of every state: slots are well-seated; no seat has two activations; the slot of an activation is marked as
running and stands as the activation needs it; an idle slot has nothing deferred and reports its last outcome. -/
structure Coherent (l : Ledger V) : Prop where
  seated : l.slots.WellSeated
  exclusive : (l.activations.map (·.seat)).Nodup
  manned : ∀ a ∈ l.activations, ∃ slot, l.slots.at? a.seat = some slot ∧ slot.running = true ∧ slot.Fits a.phase
  resting : ∀ slot ∈ l.slots, slot.running = false → slot.deferred = [] ∧ ∃ outcome, slot.Reports outcome
  standing : ∀ slot ∈ l.slots, slot.lifecycle = Slot.startedLifecycle ∨ ∃ outcome, slot.Reports outcome

/-- What a resumption does that reaches an executor. -/
inductive Handed (executor : Nat) (r : Resumption) (l : Ledger V) : Ledger V → Prop where
  /-- The executor does not know the step instance. -/
  | unknown (absent : l.slots.current? executor r.step = none) : Handed executor r l l
  /-- The step instance is idle and not suspended on the key. -/
  | refused {slot : Slot V.Definition} (current : l.slots.current? executor r.step = some slot) (idle : slot.running = false)
      (other : ¬ slot.Awaits r.key) : Handed executor r l l
  /-- The step instance is running. -/
  | deferred {slot : Slot V.Definition} (current : l.slots.current? executor r.step = some slot) (running : slot.running = true) :
      Handed executor r l { l with slots := l.slots.modify slot.seat (Slot.defer r) }
  /-- The step instance is idle and suspended on the key. -/
  | woken {slot : Slot V.Definition} (current : l.slots.current? executor r.step = some slot) (idle : slot.running = false)
      (awaits : slot.Awaits r.key) :
      Handed executor r l
        { l with
          slots := l.slots.modify slot.seat Slot.wake
          activations := ⟨slot.seat, some (.resuming r.outcome)⟩ :: l.activations }

/-- What one step does to the ledger, by the request that is made in it. -/
inductive Move : Option (Op V) → Ledger V → Ledger V → Prop where
  /-- Nothing that the ledger shows. -/
  | stay {request : Option (Op V)} (l : Ledger V) : Move request l l
  /-- An unused token is bound. -/
  | bind {op : PlainOp V} {l : Ledger V} {key : AsyncKey} (step : StepId) (now : Instant) (fresh : l.keys.isUsed key = false) :
      Move (some (.plain op)) l { l with keys := l.keys.bind key step now }
  /-- The keys of a workflow are forgotten. -/
  | forget {op : PlainOp V} {l : Ledger V} {workflow : WorkflowId} (forgets : op.Forgets workflow) :
      Move (some (.plain op)) l { l with keys := l.keys.purge workflow }
  /-- An executor is opened or released, or a receiver attached or detached. -/
  | attach {op : PlainOp V} {l : Ledger V} (attachment : Attachment V) (executors : List Bool) :
      Move (some (.plain op)) l { l with attachment := attachment, executors := executors }
  /-- The slots of a workflow are taken out of an executor's list. -/
  | unlist {l : Ledger V} (executor : Nat) (workflow : WorkflowId) :
      Move (some (.plain (.purgeSlots executor workflow))) l { l with slots := l.slots.purge executor workflow }
  /-- A step instance starts on a fresh slot. -/
  | start {l : Ledger V} {executor : Nat} {definition : V.Definition} {step : StepId} {background : Bool}
      (free : l.slots.current? executor step = none) :
      Move (some (.execute executor definition step background)) l
        { l with
          slots := l.slots.start executor definition step
          activations := ⟨l.slots.nextSeat executor step, some .starting⟩ :: l.activations }
  /-- A resumption is applied by hand. -/
  | apply {l l' : Ledger V} {executor : Nat} {r : Resumption} (handed : Handed executor r l l') :
      Move (some (.apply executor r)) l l'
  /-- A key is resolved, and the attached executor gets the resumption. -/
  | resolve {l l' : Ledger V} {key : AsyncKey} {outcome : AsyncOutcome} {now : Instant} {r : Resumption} {keys : KeyRegistry}
      {executor : Nat} (resolved : l.keys.resolve key outcome now = .ok (r, keys)) (attached : l.attachment = .executor executor)
      (handed : Handed executor r { l with keys := keys } l') : Move (some (.resolve key outcome)) l l'
  /-- A key is resolved, and no executor that is held gets the resumption. -/
  | undelivered {l : Ledger V} {key : AsyncKey} {outcome : AsyncOutcome} {now : Instant} {r : Resumption} {keys : KeyRegistry}
      (resolved : l.keys.resolve key outcome now = .ok (r, keys))
      (unserved : ∀ executor, l.attachment = .executor executor → (l.executors[executor]?).getD false = false) :
      Move (some (.resolve key outcome)) l { l with keys := keys }
  /-- Step code begins to run. -/
  | enter {l : Ledger V} {seat : Seat} {phase : Phase} {rest : List Activation}
      (top : l.activations = ⟨seat, some phase⟩ :: rest) (begins : ∀ outcome, phase ≠ .settled outcome) :
      Move none l { l with activations := ⟨seat, none⟩ :: rest }
  /-- A run settles. -/
  | settle {l : Ledger V} {seat : Seat} {rest : List Activation} {slot : Slot V.Definition} {outcome : StepOutcome}
      (top : l.activations = ⟨seat, none⟩ :: rest) (found : l.slots.at? seat = some slot)
      (checked : ∀ key, outcome = .suspended key → slot.MayAwait l.keys key) :
      Move none l
        { l with
          slots := l.slots.modify seat (Slot.settle outcome)
          activations := ⟨seat, some (.settled outcome)⟩ :: rest }
  /-- A settled step instance is resumed from what is deferred; what was deferred before the resumption is dropped. -/
  | take {l : Ledger V} {seat : Seat} {settled : StepOutcome} {rest : List Activation} {slot : Slot V.Definition}
      {r : Resumption} {skipped later : List Resumption} (top : l.activations = ⟨seat, some (.settled settled)⟩ :: rest)
      (found : l.slots.at? seat = some slot) (awaits : slot.Awaits r.key) (queue : slot.deferred = skipped ++ r :: later)
      (first : ∀ s ∈ skipped, s.key ≠ r.key) :
      Move none l
        { l with
          slots := l.slots.modify seat (Slot.take later)
          activations := ⟨seat, some (.resuming r.outcome)⟩ :: rest }
  /-- An activation is over: nothing that is deferred is for the step instance as it stands. -/
  | finish {l : Ledger V} {seat : Seat} {settled : StepOutcome} {rest : List Activation} {slot : Slot V.Definition}
      (top : l.activations = ⟨seat, some (.settled settled)⟩ :: rest) (found : l.slots.at? seat = some slot)
      (unmatched : ∀ r ∈ slot.deferred, ¬ slot.Awaits r.key) :
      Move none l { l with slots := l.slots.modify seat Slot.idle, activations := rest }
  /-- An activation is left by a panic outside its step code. -/
  | leave {l : Ledger V} {a : Activation} {rest : List Activation} (top : l.activations = a :: rest) :
      Move none l { l with activations := rest }

end Ledger

end StepEngine
