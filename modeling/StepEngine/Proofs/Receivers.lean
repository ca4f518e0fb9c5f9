import StepEngine.Proofs.Activation
import StepEngine.Proofs.Announcement

/-!
# Receivers: whose code runs for a resolution

A receiver of resumptions runs on a frame of its own, on top of the program that resolved the key. Such a frame is put on the stack at one
place only: where the registry has accepted a resolution while the receiver is attached.
-/

namespace StepEngine

open Machine

variable {V : Vocabulary} {ρ : Type} {c : Client V}

/-- The number of receivers that run on a stack. -/
def Stack.receivers : {e : Expects} → Stack V ρ e → Nat
  | _, .bottom => 0
  | _, .handling _ below => below.receivers
  | _, .receiving _ below => below.receivers + 1
  | _, .active _ below => below.receivers
  | _, .publishing _ below => below.receivers
  | _, .announcing _ _ below => below.receivers
  | _, .awaiting _ _ below => below.receivers

/-- The number of receivers that run. -/
def Control.receivers : Control V ρ → Nat
  | .run _ stack => stack.receivers
  | .report _ stack => stack.receivers
  | .proceed _ _ stack => stack.receivers
  | .settle _ _ stack => stack.receivers
  | .outcome _ stack => stack.receivers
  | .unwind _ stack => stack.receivers
  | .finished _ => 0

/-! ## Parts of the machine -/

theorem receivers_publish {sc : Scene V} (topic : String) (payload : Json) (below : Stack V ρ .report) :
    (publish c sc topic payload below).control.receivers = below.receivers := by
  simp only [publish]
  split <;> rfl

theorem receivers_handled {sc : Scene V} (d : Delivery V.Handler) (verdict : Verdict) (below : Stack V ρ .report) :
    (handled c sc d verdict below).control.receivers = below.receivers := by
  simp only [handled]
  split <;> rfl

theorem receivers_announce {sc : Scene V} (seat : Seat) (t : Transition) (phase : Phase) (below : Stack V ρ .outcome) :
    (announce c sc seat t phase below).control.receivers = below.receivers := by
  rw [announce]
  split
  · exact receivers_publish _ _ _
  · rfl

theorem receivers_execute {k : Kind} {sc : Scene V} (executor : Nat) (definition : V.Definition) (step : StepId) (background : Bool)
    (next : StepOutcome → Program V (k.Result ρ)) (below : Stack V ρ (.code k)) :
    (execute c sc executor definition step background next below).control.receivers = below.receivers := by
  simp only [execute]
  split
  · rfl
  · exact receivers_announce _ _ _ _

theorem receivers_applyResumption {k : Kind} {sc : Scene V} (executor : Nat) (r : Resumption)
    (next : Option StepOutcome → Program V (k.Result ρ)) (below : Stack V ρ (.code k)) :
    (applyResumption c sc executor r next below).control.receivers = below.receivers := by
  simp only [applyResumption]
  split
  · rfl
  · split
    · rfl
    · split
      · rfl
      · exact receivers_announce _ _ _ _

theorem receivers_settle {sc : Scene V} (seat : Seat) (result : Except StepError Completion) (below : Stack V ρ .outcome) :
    (settle c sc seat result below).control.receivers = below.receivers := by
  simp only [settle]
  split
  · rfl
  · split
    · exact receivers_announce _ _ _ _
    · rfl

theorem receivers_proceed {sc : Scene V} (seat : Seat) (phase : Phase) (below : Stack V ρ .outcome) :
    (proceed c sc seat phase below).control.receivers = below.receivers := by
  rw [proceed.eq_def]
  split
  · simp only [drain]
    split
    · rfl
    · split
      · rfl
      · exact receivers_announce _ _ _ _
  · rw [enter]
    split <;> rfl
  · rw [resume]
    split <;> rfl
  · rfl

theorem receivers_unwind {e : Expects} {sc : Scene V} (message : String) (stack : Stack V ρ e) :
    (unwind c sc message stack).control.receivers ≤ stack.receivers := by
  cases stack with
  | bottom => exact Nat.le_refl _
  | handling delivery below => exact Nat.le_of_eq (receivers_handled delivery _ below)
  | receiving next below => exact Nat.le_succ _
  | active seat below => exact Nat.le_refl _
  | publishing next below => exact Nat.le_refl _
  | announcing seat phase below => exact Nat.le_refl _
  | awaiting next background below =>
    rw [unwind]
    split <;> exact Nat.le_refl _

/-! ## Steps -/

/-- The next step begins the code of a receiver, because it resolves a key while the receiver is attached. -/
structure Receives (c : Client V) (state : MachineState V ρ) (r : Resumption) : Prop where
  requested : state.request? = some (.resolve r.key r.outcome)
  accepted : ∃ keys, state.scene.world.keys.resolve r.key r.outcome state.scene.world.clock = .ok (r, keys)
  runs : ∃ (descriptor : V.Receiver) (k : Kind) (next : Program V (k.Result ρ)) (below : Stack V ρ (.code k)),
    state.scene.world.attachment = .receiver descriptor ∧
      (state.step c).control = .run (k := .receiver) (c.receive descriptor r) (.receiving next below) ∧
      (state.step c).control.receivers = state.control.receivers + 1

/-- A program that runs on begins the code of a receiver only by a resolution that the registry accepts. -/
theorem receivers_run {k : Kind} {sc : Scene V} (program : Program V (k.Result ρ)) (stack : Stack V ρ (.code k)) :
    (Machine.run c sc program stack).control.receivers ≤ stack.receivers ∨ ∃ r, Receives c ⟨sc, .run program stack⟩ r := by
  cases program with
  | look next => exact Or.inl (Nat.le_refl _)
  | remember memory next => exact Or.inl (Nat.le_refl _)
  | crash message => exact Or.inl (Nat.le_refl _)
  | call op next =>
    cases op with
    | plain op => exact Or.inl (Nat.le_refl _)
    | publish topic payload => exact Or.inl (Nat.le_of_eq (receivers_publish topic payload _))
    | execute executor definition step background => exact Or.inl (Nat.le_of_eq (receivers_execute _ _ _ _ next stack))
    | apply executor r => exact Or.inl (Nat.le_of_eq (receivers_applyResumption executor r next stack))
    | resolve key outcome =>
      cases hresolve : sc.world.keys.resolve key outcome sc.world.clock with
      | error e =>
        left
        rw [Machine.run, resolve_eq_error next stack hresolve]
        exact Nat.le_refl _
      | ok answer =>
        obtain ⟨r, keys⟩ := answer
        obtain ⟨rfl, rfl, -, -⟩ := KeyRegistry.resolve_eq_ok hresolve
        have handsOver := handsOver_resolve (c := c) next stack hresolve
        have hstep : MachineState.step c ⟨sc, .run (.call (.resolve r.key r.outcome) next) stack⟩ =
            resolve c sc r.key r.outcome next stack := rfl
        rw [Machine.run]
        generalize resolve c sc r.key r.outcome next stack = state at handsOver hstep
        cases handsOver with
        | @receiver descriptor sc' attached world =>
          exact Or.inr ⟨r, rfl, ⟨keys, hresolve⟩, descriptor, k, next (.ok ()), stack, attached, by rw [hstep], by rw [hstep]; rfl⟩
        | executor attached served world => exact Or.inl (Nat.le_of_eq (receivers_applyResumption _ r _ stack))
        | nobody unserved world => exact Or.inl (Nat.le_refl _)
  | done result =>
    cases stack with
    | bottom => exact Or.inl (Nat.le_refl _)
    | handling delivery below => exact Or.inl (Nat.le_of_eq (receivers_handled delivery _ below))
    | receiving next below => exact Or.inl (Nat.le_succ _)
    | active seat below => exact Or.inl (Nat.le_refl _)

/-- A step begins the code of a receiver only by a resolution that the registry accepts. -/
theorem receivers_step (state : MachineState V ρ) :
    (state.step c).control.receivers ≤ state.control.receivers ∨ ∃ r, Receives c state r := by
  obtain ⟨sc, control⟩ := state
  cases control with
  | run program stack => exact receivers_run program stack
  | report result stack =>
    left
    cases stack with
    | publishing next below => exact Nat.le_refl _
    | announcing seat phase below => exact Nat.le_refl _
  | proceed seat phase stack => exact Or.inl (Nat.le_of_eq (receivers_proceed seat phase stack))
  | settle seat result stack => exact Or.inl (Nat.le_of_eq (receivers_settle seat result stack))
  | outcome result stack =>
    left
    cases stack with
    | awaiting next background below => exact Nat.le_refl _
  | unwind message stack => exact Or.inl (receivers_unwind message stack)
  | finished result => exact Or.inl (Nat.le_refl _)

end StepEngine
