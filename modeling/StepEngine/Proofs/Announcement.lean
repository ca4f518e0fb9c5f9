import StepEngine.Proofs.Ledger.Coherence
import StepEngine.Proofs.RoundTrip
import StepEngine.Proofs.Tally

/-!
# Announcement: every accepted transition is published once

A lifecycle changes at four places: when a step instance is executed for the first time, when a resumption wakes it, when its run settles
and when it is resumed from what is deferred. Each of them publishes the transition it made, and nothing but these four and the programs
themselves publishes anything. `announces?` says which transition is made and published by the next step, if any.
-/

namespace StepEngine

open Machine

/-- The transition in which a run settles with an outcome. -/
def StepOutcome.settlement (outcome : StepOutcome) : Transition := ⟨.inProgress, outcome.lifecycle.state, outcome.event⟩

/-- The topic on which the end of a run with an outcome is announced. -/
def StepOutcome.topic : StepOutcome → String
  | complete => "step.completed"
  | suspended _ => "step.suspended"
  | failed _ => "step.failed"

/-- The transition in which a suspended step instance is resumed with its key. -/
def Transition.resumption (key : AsyncKey) : Transition := ⟨.suspended, .inProgress, .resume key⟩

/-- The end of a run is announced on the topic of its outcome. -/
theorem StepOutcome.topic?_settlement (outcome : StepOutcome) : outcome.settlement.topic? = some outcome.topic := by
  cases outcome <;> rfl

/-- A transition that a lifecycle makes changes its state. -/
theorem Lifecycle.advance_ne {l l' : Lifecycle} {event : StepEvent} {t : Transition} (h : l.advance event = .ok (t, l')) : l' ≠ l := by
  obtain ⟨state, awaiting⟩ := l
  rintro rfl
  rw [advance] at h
  split at h
  · cases h
  · rename_i target hnext
    split at h
    · cases h
    · cases h
      cases state <;> cases event <;> cases hnext

/-- The lifecycle of the step instance at a seat: the one in the slot, or a new one as long as there is no slot. -/
def Slots.lifecycleAt {D : Type} (slots : Slots D) (seat : Seat) : Lifecycle := ((slots.at? seat).map (·.lifecycle)).getD .new

/-- The lifecycle at a seat that has a slot. -/
theorem Slots.lifecycleAt_of_at? {D : Type} {slots : Slots D} {seat : Seat} {slot : Slot D} (h : slots.at? seat = some slot) :
    slots.lifecycleAt seat = slot.lifecycle := by
  rw [lifecycleAt, h]
  rfl

variable {V : Vocabulary} {ρ : Type} {c : Client V}

/-! ## What the next step announces -/

/-- The transition that a resumption makes when it reaches an executor, with the seat of the step instance, if it wakes one. -/
def World.wakes? (w : World V) (executor : Nat) (r : Resumption) : Option (Seat × Transition) :=
  match w.slots.current? executor r.step with
  | none => none
  | some slot =>
    if slot.running then none else (slot.lifecycle.advance (.resume r.key)).toOption.map fun accepted => (slot.seat, accepted.1)

namespace MachineState

/-- The transition that the next step makes and announces, with the seat of the step instance, if there is one. -/
def announces? (state : MachineState V ρ) : Option (Seat × Transition) :=
  let w := state.scene.world
  match state.control with
  | .run (.call (.execute executor _ step _) _) _ =>
    match w.slots.current? executor step with
    | none => some (w.slots.nextSeat executor step, Slot.startTransition)
    | some _ => none
  | .run (.call (.apply executor r) _) _ => w.wakes? executor r
  | .run (.call (.resolve key outcome) _) stack =>
    match w.keys.resolve key outcome w.clock, w.attachment with
    | .ok (r, _), .executor id => if w.isHeld id || stack.occupies id then w.wakes? id r else none
    | _, _ => none
  | .settle seat result _ =>
    match w.slots.at? seat with
    | none => none
    | some slot => (slot.lifecycle.advance (outcomeOf w seat result).event).toOption.map fun accepted => (seat, accepted.1)
  | .proceed seat (.settled _) _ =>
    match w.slots.at? seat with
    | none => none
    | some slot => (nextDeferred slot.lifecycle slot.deferred).2.map fun found => (seat, found.2.1)
  | _ => none

/-- A program publishes something with the next step. -/
def publishes (state : MachineState V ρ) : Bool :=
  match state.control with
  | .run (.call (.publish _ _) _) _ => true
  | _ => false

/-- The number of publications so far. -/
def published (state : MachineState V ρ) : Nat := state.scene.world.bus.published

end MachineState

/-- A resumption wakes an idle step instance that is suspended on its key. -/
theorem World.wakes?_eq_some {w : World V} {executor : Nat} {r : Resumption} {seat : Seat} {t : Transition}
    (h : w.wakes? executor r = some (seat, t)) :
    ∃ slot, w.slots.current? executor r.step = some slot ∧ slot.running = false ∧ slot.Awaits r.key ∧ seat = slot.seat ∧
      t = .resumption r.key := by
  rw [wakes?] at h
  split at h
  · cases h
  · rename_i slot current
    split at h
    · cases h
    · rename_i idle
      obtain ⟨⟨given, lifecycle⟩, hadvance, heq⟩ := Option.map_eq_some_iff.1 h
      cases heq
      cases hresult : slot.lifecycle.advance (.resume r.key) with
      | error e =>
        rw [hresult] at hadvance
        cases hadvance
      | ok accepted =>
        rw [hresult] at hadvance
        cases hadvance
        obtain ⟨awaits, rfl, -⟩ := Lifecycle.advance_resume_eq_ok hresult
        exact ⟨slot, current, by simpa using idle, awaits, rfl, rfl⟩

/-- A resumption that wakes nobody finds no idle step instance that is suspended on its key. -/
theorem World.not_awaits_of_wakes? {w : World V} {executor : Nat} {r : Resumption} (h : w.wakes? executor r = none) :
    ∀ slot, w.slots.current? executor r.step = some slot → slot.running = false → ¬ slot.Awaits r.key := by
  intro slot current idle awaits
  have hadvance : slot.lifecycle.advance (.resume r.key) = .ok (.resumption r.key, Slot.startedLifecycle) := by
    rw [awaits, Lifecycle.advance_resume, Transition.resumption]
  simp [wakes?, current, idle, hadvance, Except.toOption] at h

/-! ## Steps that announce something -/

namespace Ledger

/-- What is announced in a ledger: the seat and its transition, the slots afterwards, the phase that the activation goes on with, and the
activations below it. -/
inductive Announces (l : Ledger V) : Seat → Transition → Slots V.Definition → Phase → List Activation → Prop where
  /-- A step instance starts on a fresh slot. -/
  | start {executor : Nat} {definition : V.Definition} {step : StepId} (free : l.slots.current? executor step = none) :
      Announces l (l.slots.nextSeat executor step) Slot.startTransition (l.slots.start executor definition step) .starting l.activations
  /-- An idle step instance is resumed. -/
  | wake {slot : Slot V.Definition} {key : AsyncKey} {outcome : AsyncOutcome} (found : l.slots.at? slot.seat = some slot)
      (idle : slot.running = false) (awaits : slot.Awaits key) :
      Announces l slot.seat (.resumption key) (l.slots.modify slot.seat Slot.wake) (.resuming outcome) l.activations
  /-- A run settles. -/
  | settle {seat : Seat} {slot : Slot V.Definition} {outcome : StepOutcome} {rest : List Activation}
      (top : l.activations = ⟨seat, none⟩ :: rest) (found : l.slots.at? seat = some slot)
      (started : slot.lifecycle = Slot.startedLifecycle) :
      Announces l seat outcome.settlement (l.slots.modify seat (Slot.settle outcome)) (.settled outcome) rest
  /-- A settled step instance is resumed from what is deferred. -/
  | take {seat : Seat} {slot : Slot V.Definition} {settled : StepOutcome} {key : AsyncKey} {outcome : AsyncOutcome}
      {later : List Resumption} {rest : List Activation} (top : l.activations = ⟨seat, some (.settled settled)⟩ :: rest)
      (found : l.slots.at? seat = some slot) (awaits : slot.Awaits key) :
      Announces l seat (.resumption key) (l.slots.modify seat (Slot.take later)) (.resuming outcome) rest

namespace Announces

variable {l : Ledger V} {seat other : Seat} {t : Transition} {slots : Slots V.Definition} {phase : Phase} {rest : List Activation}

/-- What is announced has a topic. -/
theorem exists_topic (h : l.Announces seat t slots phase rest) : ∃ topic, t.topic? = some topic := by
  cases h with
  | start free => exact ⟨_, rfl⟩
  | wake found idle awaits => exact ⟨_, rfl⟩
  | settle top found started => exact ⟨_, StepOutcome.topic?_settlement _⟩
  | take top found awaits => exact ⟨_, rfl⟩

/-- The lifecycle at the seat accepts the event of the transition that is announced. -/
theorem advance (h : l.Announces seat t slots phase rest) (w : l.slots.WellSeated) :
    (l.slots.lifecycleAt seat).advance t.event = .ok (t, slots.lifecycleAt seat) := by
  cases h with
  | @start executor definition step free =>
    have hnew : l.slots.lifecycleAt (l.slots.nextSeat executor step) = .new := by
      rw [Slots.lifecycleAt, w.at?_nextSeat]
      rfl
    rw [hnew, Slots.lifecycleAt_of_at? (w.at?_start_self definition)]
    exact Slot.advance_new_start
  | wake found idle awaits =>
    rw [Slots.lifecycleAt_of_at? found, awaits, Slots.lifecycleAt_of_at? (Slots.at?_modify_self Slot.keeps_wake found)]
    exact Lifecycle.advance_resume _
  | settle top found started =>
    rw [Slots.lifecycleAt_of_at? found, started, Slots.lifecycleAt_of_at? (Slots.at?_modify_self (Slot.keeps_settle _) found)]
    exact Lifecycle.advance_started _
  | take top found awaits =>
    rw [Slots.lifecycleAt_of_at? found, awaits, Slots.lifecycleAt_of_at? (Slots.at?_modify_self (Slot.keeps_take _) found)]
    exact Lifecycle.advance_resume _

/-- What the keys are does not matter. -/
theorem congr_keys {keys : KeyRegistry} (h : Announces { l with keys := keys } seat t slots phase rest) :
    l.Announces seat t slots phase rest := by
  cases h with
  | start free => exact .start free
  | wake found idle awaits => exact .wake found idle awaits
  | settle top found started => exact .settle top found started
  | take top found awaits => exact .take top found awaits

/-- The slots at the other seats stay as they are. -/
theorem at?_other (h : l.Announces seat t slots phase rest) (hne : other ≠ seat) : slots.at? other = l.slots.at? other := by
  cases h with
  | start free => exact Slots.at?_start_other _ hne
  | wake found idle awaits => exact Slots.at?_modify_other Slot.keeps_wake hne
  | settle top found started => exact Slots.at?_modify_other (Slot.keeps_settle _) hne
  | take top found awaits => exact Slots.at?_modify_other (Slot.keeps_take _) hne

end Announces

end Ledger

/-- A payload tells which step instance made which transition, and when. -/
structure Tells (payload : Json) (step : StepId) (t : Transition) (now : Instant) : Prop where
  /-- It has a field for each of these, -/
  workflow : payload.field? "workflow_instance_id" = some step.workflow.toJson
  name : payload.field? "step_name" = some (.text step.name)
  index : payload.field? "index" = some (.nat step.index.toNat)
  source : payload.field? "from_state" = some t.source.toJson
  target : payload.field? "to_state" = some t.target.toJson
  event : payload.field? "event" = some t.event.toJson
  moment : payload.field? "transitioned_at" = some (.text (toString now))
  /-- and the states and the event, with its key or its message, are read off as they were. -/
  sourceRead : (payload.field? "from_state").bind StepState.ofJson? = some t.source
  targetRead : (payload.field? "to_state").bind StepState.ofJson? = some t.target
  eventRead : (payload.field? "event").bind StepEvent.ofJson? = some t.event

/-- What is announced about a transition tells it. -/
theorem tells_announcement (step : StepId) (t : Transition) (now : Instant) : Tells (announcement step t now) step t now := by
  have differ : ["workflow_instance_id", "step_name", "index", "from_state", "to_state", "event", "transitioned_at"].Nodup := by decide
  have source : (announcement step t now).field? "from_state" = some t.source.toJson := Json.field?_record differ (by simp)
  have target : (announcement step t now).field? "to_state" = some t.target.toJson := Json.field?_record differ (by simp)
  have event : (announcement step t now).field? "event" = some t.event.toJson := Json.field?_record differ (by simp)
  exact {
    workflow := Json.field?_record differ (by simp)
    name := Json.field?_record differ (by simp)
    index := Json.field?_record differ (by simp)
    source, target, event
    moment := Json.field?_record differ (by simp)
    sourceRead := by rw [source, Option.bind_some, StepState.restores]
    targetRead := by rw [target, Option.bind_some, StepState.restores]
    eventRead := by rw [event, Option.bind_some, StepEvent.restores] }

/-- A publication is counted. -/
theorem published_publish {sc : Scene V} (topic : String) (payload : Json) (below : Stack V ρ .report) :
    (publish c sc topic payload below).published = sc.world.bus.published + 1 :=
  congrArg Bus.Tally.published (tally_publish sc topic payload below)

/-- An announcement is a publication on the topic of the transition. -/
theorem announce_eq {sc : Scene V} {seat : Seat} {t : Transition} {topic : String} (h : t.topic? = some topic) (phase : Phase)
    (below : Stack V ρ .outcome) :
    announce c sc seat t phase below = publish c sc topic (announcement seat.step t sc.world.clock) (.announcing seat phase below) := by
  simp only [announce, h]

/-- A resumption that wakes a step instance has its transition announced. -/
theorem applyResumption_of_wakes? {k : Kind} {sc : Scene V} {executor : Nat} {r : Resumption} {seat : Seat} {t : Transition}
    {activations : List Activation} (next : Option StepOutcome → Program V (k.Result ρ)) (below : Stack V ρ (.code k))
    (h : sc.world.wakes? executor r = some (seat, t)) (coherent : (sc.world.ledger activations).Coherent) :
    ∃ (sc' : Scene V) (below' : Stack V ρ .outcome),
      applyResumption c sc executor r next below = announce c sc' seat t (.resuming r.outcome) below' ∧
        sc'.world.bus = sc.world.bus ∧ sc'.world.clock = sc.world.clock ∧ below'.activations = below.activations ∧
        (sc.world.ledger below.activations).Announces seat t sc'.world.slots (.resuming r.outcome) below.activations := by
  obtain ⟨slot, current, idle, awaits, rfl, rfl⟩ := World.wakes?_eq_some h
  obtain ⟨sc', hworld, heq⟩ := applyResumption_eq (c := c) next below current idle awaits
  refine ⟨sc', _, heq, by rw [hworld], by rw [hworld], rfl, ?_⟩
  rw [hworld]
  exact .wake (coherent.seated.at?_of_current? current) idle awaits

/-- A resolution whose resumption wakes a step instance has the transition announced. -/
theorem resolve_of_wakes? {k : Kind} {sc : Scene V} {key : AsyncKey} {outcome : AsyncOutcome} {r : Resumption} {keys : KeyRegistry}
    {id : Nat} {seat : Seat} {t : Transition} (next : Except KeyError Unit → Program V (k.Result ρ)) (below : Stack V ρ (.code k))
    (resolved : sc.world.keys.resolve key outcome sc.world.clock = .ok (r, keys)) (attached : sc.world.attachment = .executor id)
    (served : (sc.world.isHeld id || below.occupies id) = true) (h : sc.world.wakes? id r = some (seat, t))
    (coherent : (sc.world.ledger below.activations).Coherent) :
    ∃ (sc' : Scene V) (below' : Stack V ρ .outcome),
      resolve c sc key outcome next below = announce c sc' seat t (.resuming r.outcome) below' ∧
        sc'.world.bus = sc.world.bus ∧ sc'.world.clock = sc.world.clock ∧ below'.activations = below.activations ∧
        (sc.world.ledger below.activations).Announces seat t sc'.world.slots (.resuming r.outcome) below.activations := by
  obtain ⟨sc', hresolved, hworld⟩ := resolve_eq_apply (c := c) next below resolved attached served
  have hcoherent : (sc'.world.ledger below.activations).Coherent := coherent.congr (by rw [hworld]; rfl) rfl
  have hwakes : sc'.world.wakes? id r = some (seat, t) := by
    rw [hworld]
    exact h
  obtain ⟨sc'', below', heq, hbus, hclock, hbelow, hannounces⟩ :=
    applyResumption_of_wakes? (c := c) (fun _ => next (.ok ())) below hwakes hcoherent
  rw [hworld] at hbus hclock hannounces
  exact ⟨sc'', below', hresolved.trans heq, hbus, hclock, hbelow, hannounces.congr_keys⟩

/-- A settled step instance that is resumed from what is deferred has the transition announced. -/
theorem drain_eq_announce {sc : Scene V} {seat : Seat} {slot : Slot V.Definition} {r : Resumption} {t : Transition} {lifecycle : Lifecycle}
    {later : List Resumption} (settled : StepOutcome) (below : Stack V ρ .outcome) (found : sc.world.slots.at? seat = some slot)
    (h : (nextDeferred slot.lifecycle slot.deferred).2 = some (r, t, lifecycle, later)) :
    ∃ sc' : Scene V, drain c sc seat settled below = announce c sc' seat t (.resuming r.outcome) below ∧
      sc'.world = { sc.world with slots := sc.world.slots.modify seat (Slot.take later) } := by
  obtain ⟨-, -, hlifecycle, -⟩ := nextDeferred_eq_some (Prod.ext rfl h)
  simp only [drain, found]
  split
  · rename_i events hnone
    rw [hnone] at h
    cases h
  · rename_i events r' t' lifecycle' later' hsome
    rw [hsome] at h
    cases h
    exact ⟨_, rfl, by rw [hlifecycle]; rfl⟩

/-- A run that settles on a running slot announces its outcome. -/
theorem announces?_settle {sc : Scene V} {seat : Seat} {slot : Slot V.Definition} {base : Stack V ρ .outcome}
    (result : Except StepError Completion) (found : sc.world.slots.at? seat = some slot)
    (started : slot.lifecycle = Slot.startedLifecycle) :
    MachineState.announces? ⟨sc, .settle seat result base⟩ = some (seat, (outcomeOf sc.world seat result).settlement) := by
  simp only [MachineState.announces?, found, started, Lifecycle.advance_started, Except.toOption, Option.map_some]
  rfl

/-- A step that announces a transition changes the slot at the seat, publishes the transition on its topic and leaves the bus alone
otherwise. -/
theorem step_of_announces? {state : MachineState V ρ} {seat : Seat} {t : Transition} (h : state.announces? = some (seat, t))
    (coherent : state.ledger.Coherent) :
    ∃ (sc : Scene V) (phase : Phase) (below : Stack V ρ .outcome), state.step c = announce c sc seat t phase below ∧
      sc.world.bus = state.scene.world.bus ∧ sc.world.clock = state.scene.world.clock ∧
      state.ledger.Announces seat t sc.world.slots phase below.activations := by
  obtain ⟨sc, control⟩ := state
  cases control with
  | run program stack =>
    cases program with
    | call op next =>
      cases op with
      | execute executor definition step background =>
        simp only [MachineState.announces?] at h
        split at h
        · rename_i free
          cases h
          have hfree : (sc.note [logTransition step Slot.startTransition]).world.slots.current? executor step = none := free
          simp only [MachineState.step, Machine.run, execute, hfree]
          exact ⟨_, _, _, rfl, rfl, rfl, .start free⟩
        · cases h
      | apply executor r =>
        obtain ⟨sc', below', heq, hbus, hclock, hbelow, hannounces⟩ := applyResumption_of_wakes? (c := c) next stack h coherent
        exact ⟨sc', _, below', heq, hbus, hclock, hbelow ▸ hannounces⟩
      | resolve key outcome =>
        simp only [MachineState.announces?] at h
        split at h
        · rename_i r keys id hresolve hattached
          split at h
          · rename_i hlive
            obtain ⟨sc', below', heq, hbus, hclock, hbelow, hannounces⟩ :=
              resolve_of_wakes? (c := c) next stack hresolve hattached hlive h coherent
            exact ⟨sc', _, below', heq, hbus, hclock, hbelow ▸ hannounces⟩
          · cases h
        · cases h
      | plain op => cases h
      | publish topic payload => cases h
    | _ => cases h
  | settle seat' result stack =>
    obtain ⟨slot, found, -, started⟩ := coherent.manned _ List.mem_cons_self
    have heq : MachineState.step c ⟨sc, .settle seat' result stack⟩ = settle c sc seat' result stack := rfl
    rw [announces?_settle result found started] at h
    cases h
    rw [heq, settle_eq result stack found started]
    exact ⟨_, _, _, rfl, rfl, rfl, .settle rfl found started⟩
  | proceed seat' phase stack =>
    cases phase with
    | settled outcome =>
      obtain ⟨slot, found, -, -⟩ := coherent.manned _ List.mem_cons_self
      have found' : sc.world.slots.at? seat' = some slot := found
      simp only [MachineState.announces?, found'] at h
      obtain ⟨⟨r, t', lifecycle, later⟩, hnext, heq⟩ := Option.map_eq_some_iff.1 h
      cases heq
      obtain ⟨sc', heq, hworld⟩ := drain_eq_announce (c := c) outcome stack found' hnext
      obtain ⟨awaits, rfl, -⟩ := nextDeferred_eq_some (Prod.ext rfl hnext)
      refine ⟨sc', _, stack, heq, by rw [hworld], by rw [hworld], ?_⟩
      rw [hworld]
      exact .take rfl found awaits
    | starting => cases h
    | resuming outcome => cases h
  | report result stack => cases h
  | outcome result stack => cases h
  | unwind message stack => cases h
  | finished result => cases h

end StepEngine
