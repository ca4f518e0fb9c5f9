import Mathlib.Tactic.IntervalCases
import StepEngine.Proofs.Activation
import StepEngine.Proofs.Calls

/-!
# Slot coherence: state, awaited key, queue and last outcome of a slot fit together

In every state a slot is past its start, and it awaits a key exactly when its step instance is suspended. A slot that is not running has
nothing deferred, and its state says how its last run ended. A run settles without a refusal by the lifecycle. A call that has run a
step returns an outcome that the executor shows for the step instance at that moment.
-/

namespace StepEngine

open Machine

namespace Slot

variable {D : Type} {slot : Slot D}

/-- The step instance rests: it is suspended, complete or failed, and so was the end of its last run. -/
inductive Rests (slot : Slot D) : Prop where
  | suspended (key : AsyncKey) (state : slot.lifecycle.state = .suspended) (awaiting : slot.lifecycle.awaiting = some key)
      (last : slot.lastOutcome = some (.suspended key))
  | complete (state : slot.lifecycle.state = .complete) (last : slot.lastOutcome = some .complete)
  | failed (error : StepError) (state : slot.lifecycle.state = .error) (last : slot.lastOutcome = some (.failed error))

/-- What holds of every slot at any time. -/
structure Sound (slot : Slot D) : Prop where
  started : slot.lifecycle.state ≠ .pending
  awaiting : slot.lifecycle.awaiting.isSome ↔ slot.lifecycle.state = .suspended
  idle : slot.running = false → slot.deferred = [] ∧ slot.Rests

/-- A slot that reports an outcome rests accordingly. -/
theorem Reports.rests {outcome : StepOutcome} (h : slot.Reports outcome) : slot.Rests := by
  obtain ⟨hlife, hlast⟩ := h
  cases outcome with
  | complete => exact .complete (by rw [hlife]; rfl) hlast
  | suspended key => exact .suspended key (by rw [hlife]; rfl) (by rw [hlife]; rfl) hlast
  | failed error => exact .failed error (by rw [hlife]; rfl) hlast

/-- The lifecycle of a settled run is past its start and awaits a key exactly when it is suspended. -/
theorem lifecycle_sound (outcome : StepOutcome) :
    outcome.lifecycle.state ≠ .pending ∧ (outcome.lifecycle.awaiting.isSome ↔ outcome.lifecycle.state = .suspended) := by
  cases outcome <;> simp [StepOutcome.lifecycle]

end Slot

/-- Every slot of a coherent ledger is sound. -/
theorem Ledger.Coherent.sound {V : Vocabulary} {l : Ledger V} (h : l.Coherent) : ∀ slot ∈ l.slots, slot.Sound := by
  intro slot hm
  have hlife : slot.lifecycle.state ≠ .pending ∧ (slot.lifecycle.awaiting.isSome ↔ slot.lifecycle.state = .suspended) := by
    rcases h.standing slot hm with hstarted | ⟨outcome, hreports⟩
    · rw [hstarted]
      simp [Slot.startedLifecycle]
    · rw [hreports.1]
      exact Slot.lifecycle_sound outcome
  refine ⟨hlife.1, hlife.2, ?_⟩
  intro idle
  obtain ⟨empty, outcome, hreports⟩ := h.resting slot hm idle
  exact ⟨empty, hreports.rests⟩

/-- An executor shows an outcome for a step instance: it answers so to the requests for the last outcome and the state. -/
def World.Shows {V : Vocabulary} (w : World V) (executor : Nat) (step : StepId) (outcome : StepOutcome) : Prop :=
  (PlainOp.run w (.lastOutcome executor step)).1 = some outcome ∧ (PlainOp.run w (.state executor step)).1 = some outcome.lifecycle.state

variable {V : Vocabulary} {ρ : Type} {c : Client V} {k : Kind} {executor : Nat} {step : StepId} {below : Stack V ρ (.code k)}

namespace Run

variable {run : Run c ρ} {m n : Nat} {seat : Seat}

/-- A slot stays listed as long as its workflow is not purged from its executor. -/
theorem listed_of_unpurged {slot : Slot V.Definition} (found : (run n).ledger.slots.at? seat = some slot)
    (listed : slot.listed = true) (hle : n ≤ m)
    (unpurged : ∀ i, n ≤ i → i < m → (run i).request? ≠ some (.plain (.purgeSlots seat.executor seat.step.workflow))) :
    ∃ slot', (run m).ledger.slots.at? seat = some slot' ∧ slot'.listed = true := by
  induction hle with
  | refl => exact ⟨slot, found, listed⟩
  | @step m hle ih =>
    obtain ⟨slot', hat, hlisted⟩ := ih fun i hni him => unpurged i hni (Nat.lt_succ_of_lt him)
    obtain ⟨slot'', hat', -, hsame | hpurged⟩ := (run.move m).at?_keeps hat
    · exact ⟨slot'', hat', hsame.trans hlisted⟩
    · exact absurd hpurged (unpurged m hle (Nat.lt_succ_self m))

/-- When an activation has ended and its program goes on, its slot reports the outcome. -/
theorem Ends.reports {next : StepOutcome → Program V (k.Result ρ)} {background : Bool} {outcome : StepOutcome}
    (h : run.Ends n seat (.awaiting next background below) outcome) :
    ∃ slot, (run (n + 2)).ledger.slots.at? seat = some slot ∧ slot.Reports outcome := by
  obtain ⟨slot, found, -, reports⟩ := run.slot_of_proceed h.settled
  refine ⟨slot.idle, ?_, reports⟩
  have hslots : (run (n + 2)).ledger.slots = (run n).ledger.slots.modify seat Slot.idle := by
    rw [h.state_eq]
    exact h.idle
  rw [hslots]
  exact Slots.at?_modify_self Slot.keeps_idle found

/-- A call that waits for an activation returns its outcome, and the executor shows it then, unless the workflow was purged from the
executor meanwhile. -/
theorem Returns.shows {next : StepOutcome → Program V (k.Result ρ)} {background : Bool} {program : Program V (k.Result ρ)}
    {slot : Slot V.Definition} (h : run.Returns n m below program)
    (within : (run (n + 1)).control.Within c seat (.awaiting next background below))
    (found : (run (n + 1)).ledger.slots.at? seat = some slot) (listed : slot.listed = true) :
    ∃ outcome, program = next outcome ∧
      ((∀ i, n ≤ i → i < m → (run i).request? ≠ some (.plain (.purgeSlots seat.executor seat.step.workflow))) →
        (run m).scene.world.Shows seat.executor seat.step outcome) := by
  obtain ⟨i, outcome, hni, rfl, hprogram, hends, -⟩ := h.ends within
  refine ⟨outcome, hprogram, ?_⟩
  intro unpurged
  obtain ⟨last, hat, hlife, hlast⟩ := hends.reports
  obtain ⟨other, hother, hlisted⟩ := listed_of_unpurged (m := i + 2) found listed (by omega) fun j hnj hji =>
    unpurged j (by omega) hji
  cases hother.symm.trans hat
  have current : (run (i + 2)).scene.world.slots.current? seat.executor seat.step = some last :=
    (run.coherent (i + 2)).seated.current?_of_at? hat hlisted
  refine ⟨?_, ?_⟩
  · change ((run (i + 2)).scene.world.slots.current? seat.executor seat.step).bind (·.lastOutcome) = some outcome
    rw [current, Option.bind_some, hlast]
  · change ((run (i + 2)).scene.world.slots.current? seat.executor seat.step).map (·.lifecycle.state) = some outcome.lifecycle.state
    rw [current, Option.map_some, hlife]

/-- What holds of the slots in a state of a run, and of the calls that are made in it. -/
structure SlotsCoherent (run : Run c ρ) (n : Nat) : Prop where
  sound : ∀ slot ∈ (run n).scene.world.slots, slot.Sound
  /-- The lifecycle of the slot accepts the outcome of a run that settles. -/
  accepted : ∀ seat result base, (run n).control = .settle seat result base →
    ∃ slot t lifecycle, (run n).scene.world.slots.at? seat = some slot ∧
      slot.lifecycle.advance (outcomeOf (run n).scene.world seat result).event = .ok (t, lifecycle)
  /-- A step instance is executed that the executor does not know. -/
  executed : ∀ {k : Kind} {executor : Nat} {definition : V.Definition} {step : StepId} {background : Bool}
    {next : StepOutcome → Program V (k.Result ρ)} {below : Stack V ρ (.code k)} {m : Nat} {program : Program V (k.Result ρ)},
    (run n).control = .run (.call (.execute executor definition step background) next) below →
    (run n).scene.world.slots.current? executor step = none → run.Returns n m below program →
    ∃ outcome, program = next outcome ∧
      ((∀ i, n ≤ i → i < m → (run i).request? ≠ some (.plain (.purgeSlots executor step.workflow))) →
        (run m).scene.world.Shows executor step outcome)
  /-- A resumption is applied that an idle step instance is suspended for. -/
  resumed : ∀ {k : Kind} {executor : Nat} {r : Resumption} {next : Option StepOutcome → Program V (k.Result ρ)}
    {below : Stack V ρ (.code k)} {m : Nat} {program : Program V (k.Result ρ)} {slot : Slot V.Definition},
    (run n).control = .run (.call (.apply executor r) next) below →
    (run n).scene.world.slots.current? executor r.step = some slot → slot.running = false → slot.Awaits r.key →
    run.Returns n m below program →
    ∃ outcome, program = next (some outcome) ∧
      ((∀ i, n ≤ i → i < m → (run i).request? ≠ some (.plain (.purgeSlots executor r.step.workflow))) →
        (run m).scene.world.Shows executor r.step outcome)
  /-- Any other resumption is answered at once, and without an outcome. -/
  declined : ∀ {k : Kind} {executor : Nat} {r : Resumption} {next : Option StepOutcome → Program V (k.Result ρ)}
    {below : Stack V ρ (.code k)}, (run n).control = .run (.call (.apply executor r) next) below →
    (∀ slot, (run n).scene.world.slots.current? executor r.step = some slot → slot.running = false → ¬ slot.Awaits r.key) →
    (run (n + 1)).control = .run (next none) below

/-- Slot coherence: in every state of every run, provided that the data of fresh instances can be made, every slot is sound, every run
that settles is accepted, and every call that runs a step returns an outcome that its executor shows then. -/
theorem slots_coherent (run : Run c ρ) (prepared : c.Prepared) (n : Nat) : run.SlotsCoherent n where
  sound := (run.coherent n).sound
  accepted := by
    intro seat result base hcontrol
    obtain ⟨slot, found, -, started⟩ := run.slot_of_settle hcontrol
    exact ⟨slot, _, _, found, by rw [started, Lifecycle.advance_started]⟩
  executed := by
    intro k executor definition step background next below m program hcontrol free returns
    obtain ⟨sc, hslots, heq⟩ := execute_eq (c := c) definition background next below free
    have hnext := (run.next_of_call hcontrol).trans heq
    have found : (run (n + 1)).ledger.slots.at? ((run n).scene.world.slots.nextSeat executor step) =
        some ((run n).scene.world.slots.fresh executor definition step) := by
      rw [run.ledger_of_announce hnext]
      change sc.world.slots.at? _ = _
      rw [hslots]
      exact (run.coherent n).seated.at?_start_self definition
    exact returns.shows (hnext ▸ Control.Within.announce (fun _ => prepared) sc _) found rfl
  resumed := by
    intro k executor r next below m program slot hcontrol current idle awaits returns
    obtain ⟨-, listed, rfl, hstep⟩ := Slots.mem_of_current? current
    obtain ⟨sc, hworld, heq⟩ := applyResumption_eq (c := c) next below current idle awaits
    have hnext := (run.next_of_call hcontrol).trans heq
    have hslots : sc.world.slots = (run n).scene.world.slots.modify slot.seat Slot.wake := by rw [hworld]
    have found := run.at?_of_announce hnext hslots Slot.keeps_wake ((run.coherent n).seated.at?_of_current? current)
    have hshows := returns.shows (hnext ▸ Control.Within.announce (by simp) sc _) found listed
    rw [hstep] at hshows
    exact hshows
  declined := by
    intro k executor r next below hcontrol other
    obtain ⟨sc, heq, -⟩ := applyResumption_eq_none (c := c) next below other
    rw [(run.next_of_call hcontrol).trans heq]

end Run

namespace Sample

/-- When the execution of the waiting step instance returns, its executor shows that the instance is suspended. -/
theorem expiry_shows_suspended :
    waiting.Prepared ∧ ∃ program, expiry.Returns 1 10 .bottom program ∧
      (expiry 10).scene.world.Shows 0 lone (.suspended left) := by
  have prepared : waiting.Prepared := fun _ => ⟨Dict.empty, rfl⟩
  have returns : expiry.Returns 1 10 .bottom (.call (.resolve left .expired) fun _ => .done (.suspended left)) := by
    refine ⟨by omega, ?_, rfl⟩
    intro i hi hi'
    interval_cases i <;> repeat constructor
  obtain ⟨outcome, hprogram, shows⟩ := (expiry.slots_coherent prepared 1).executed rfl rfl returns
  injection hprogram with hop hnext
  injection congrFun hnext (Except.ok ()) with houtcome
  subst houtcome
  refine ⟨prepared, _, returns, shows ?_⟩
  intro i hi hi' hpurge
  interval_cases i <;> cases hpurge

end Sample

end StepEngine
