import StepEngine.Proofs.Run

/-!
# Frames: what runs on top of a stack leaves the rest of it alone

Code that is called runs on top of the stack of its caller. Whatever it does, the frames below stay as they are until it returns to
them: a step from a state whose stack is strictly higher than some stack leads to a state whose stack still contains that stack
(`step_over`). A call has returned when the stack is the caller's again.
-/

namespace StepEngine

open Machine

variable {V : Vocabulary} {ρ : Type}

namespace Stack

/-- A stack lies under another one: it is that stack, or the rest of it below some frames. -/
inductive Under {b : Expects} (base : Stack V ρ b) : {e : Expects} → Stack V ρ e → Prop where
  | refl : Under base base
  | handling {delivery : Delivery V.Handler} {below : Stack V ρ .report} (h : Under base below) :
      Under base (.handling delivery below)
  | receiving {k : Kind} {next : Program V (k.Result ρ)} {below : Stack V ρ (.code k)} (h : Under base below) :
      Under base (.receiving next below)
  | active {seat : Seat} {below : Stack V ρ .outcome} (h : Under base below) : Under base (.active seat below)
  | publishing {k : Kind} {next : PublishReport → Program V (k.Result ρ)} {below : Stack V ρ (.code k)} (h : Under base below) :
      Under base (.publishing next below)
  | announcing {seat : Seat} {phase : Phase} {below : Stack V ρ .outcome} (h : Under base below) :
      Under base (.announcing seat phase below)
  | awaiting {k : Kind} {next : StepOutcome → Program V (k.Result ρ)} {background : Bool} {below : Stack V ρ (.code k)}
      (h : Under base below) : Under base (.awaiting next background below)

/-- A stack lies under the rest of another one, below its top frame. -/
def Beneath {b : Expects} (base : Stack V ρ b) : {e : Expects} → Stack V ρ e → Prop
  | _, .bottom => False
  | _, .handling _ below => base.Under below
  | _, .receiving _ below => base.Under below
  | _, .active _ below => base.Under below
  | _, .publishing _ below => base.Under below
  | _, .announcing _ _ below => base.Under below
  | _, .awaiting _ _ below => base.Under below

/-- The number of frames. -/
def depth : {e : Expects} → Stack V ρ e → Nat
  | _, .bottom => 0
  | _, .handling _ below => below.depth + 1
  | _, .receiving _ below => below.depth + 1
  | _, .active _ below => below.depth + 1
  | _, .publishing _ below => below.depth + 1
  | _, .announcing _ _ below => below.depth + 1
  | _, .awaiting _ _ below => below.depth + 1

variable {a b e : Expects} {base : Stack V ρ b} {mid : Stack V ρ a} {stack : Stack V ρ e}

theorem Under.trans (h : base.Under mid) (h' : mid.Under stack) : base.Under stack := by
  induction h' with
  | refl => exact h
  | handling _ ih => exact .handling ih
  | receiving _ ih => exact .receiving ih
  | active _ ih => exact .active ih
  | publishing _ ih => exact .publishing ih
  | announcing _ ih => exact .announcing ih
  | awaiting _ ih => exact .awaiting ih

/-- What lies under the rest of a stack lies under the stack. -/
theorem Beneath.under (h : base.Beneath stack) : base.Under stack := by
  cases stack with
  | bottom => cases h
  | handling delivery below => exact .handling h
  | receiving next below => exact .receiving h
  | active seat below => exact .active h
  | publishing next below => exact .publishing h
  | announcing seat phase below => exact .announcing h
  | awaiting next background below => exact .awaiting h

/-- A stack that lies under another one has at most as many frames. -/
theorem Under.depth_le (h : base.Under stack) : base.depth ≤ stack.depth := by
  induction h with
  | refl => exact Nat.le_refl _
  | handling _ ih => exact Nat.le_succ_of_le ih
  | receiving _ ih => exact Nat.le_succ_of_le ih
  | active _ ih => exact Nat.le_succ_of_le ih
  | publishing _ ih => exact Nat.le_succ_of_le ih
  | announcing _ ih => exact Nat.le_succ_of_le ih
  | awaiting _ ih => exact Nat.le_succ_of_le ih

/-- A stack that lies under the rest of another one has fewer frames. -/
theorem Beneath.depth_lt (h : base.Beneath stack) : base.depth < stack.depth := by
  cases stack with
  | bottom => cases h
  | handling delivery below => exact Nat.lt_succ_of_le (Under.depth_le h)
  | receiving next below => exact Nat.lt_succ_of_le (Under.depth_le h)
  | active seat below => exact Nat.lt_succ_of_le (Under.depth_le h)
  | publishing next below => exact Nat.lt_succ_of_le (Under.depth_le h)
  | announcing seat phase below => exact Nat.lt_succ_of_le (Under.depth_le h)
  | awaiting next background below => exact Nat.lt_succ_of_le (Under.depth_le h)

/-- No stack lies under the rest of itself. -/
theorem not_beneath_self : ¬ base.Beneath base := fun h => absurd h.depth_lt (Nat.lt_irrefl _)

/-- What lies under a stack that lies under the rest of another one lies under that rest, too. -/
theorem Under.trans_beneath (h : base.Under mid) (h' : mid.Beneath stack) : base.Beneath stack := by
  cases stack with
  | bottom => cases h'
  | handling delivery below => exact h.trans h'
  | receiving next below => exact h.trans h'
  | active seat below => exact h.trans h'
  | publishing next below => exact h.trans h'
  | announcing seat phase below => exact h.trans h'
  | awaiting next background below => exact h.trans h'

/-- A stack that lies under another one lies under its rest, or there is no frame between them. -/
theorem Under.beneath_or_heq (h : base.Under stack) : base.Beneath stack ∨ b = e ∧ HEq base stack := by
  cases h with
  | refl => exact Or.inr ⟨rfl, .rfl⟩
  | handling h => exact Or.inl h
  | receiving h => exact Or.inl h
  | active h => exact Or.inl h
  | publishing h => exact Or.inl h
  | announcing h => exact Or.inl h
  | awaiting h => exact Or.inl h

end Stack

namespace Control

/-- What happens next happens on a stack or higher. No panic is on its way through a delivery, for a delivery catches it. -/
def On {b : Expects} (base : Stack V ρ b) : Control V ρ → Prop
  | .run _ stack => base.Under stack
  | .report _ stack => base.Under stack
  | .proceed _ _ stack => base.Under stack
  | .settle _ _ stack => base.Under stack
  | .outcome _ stack => base.Under stack
  | @unwind _ _ e _ stack => e ≠ .report ∧ base.Under stack
  | .finished _ => False

/-- What happens next happens higher than a stack. -/
def Over {b : Expects} (base : Stack V ρ b) : Control V ρ → Prop
  | .run _ stack => base.Beneath stack
  | .report _ stack => base.Beneath stack
  | .proceed _ _ stack => base.Beneath stack
  | .settle _ _ stack => base.Beneath stack
  | .outcome _ stack => base.Beneath stack
  | @unwind _ _ e _ stack => e ≠ .report ∧ base.Beneath stack
  | .finished _ => False

variable {a b : Expects} {base : Stack V ρ b} {mid : Stack V ρ a} {control : Control V ρ}

/-- What happens on a stack happens on every stack under it. -/
theorem On.trans (h : control.On mid) (h' : base.Under mid) : control.On base := by
  cases control with
  | unwind message stack => exact ⟨h.1, h'.trans h.2⟩
  | finished result => exact h
  | _ => exact h'.trans h

/-- What happens on a stack that is higher than another one happens higher than that. -/
theorem On.isOver (h : control.On mid) (h' : base.Beneath mid) : control.Over base := by
  have under_beneath : ∀ {e : Expects} {stack : Stack V ρ e}, mid.Under stack → base.Beneath stack := by
    intro e stack hs
    rcases hs.beneath_or_heq with hs | ⟨rfl, heq⟩
    · exact h'.under.trans_beneath hs
    · exact eq_of_heq heq ▸ h'
  cases control with
  | unwind message stack => exact ⟨h.1, under_beneath h.2⟩
  | finished result => exact h
  | _ => exact under_beneath h

/-- What happens on a stack of code happens higher, or the code runs or panics. -/
theorem On.of_code {k : Kind} {base : Stack V ρ (.code k)} (h : control.On base) :
    control.Over base ∨ (∃ program, control = .run program base) ∨ ∃ message, control = .unwind message base := by
  cases control with
  | run program stack =>
    rcases Stack.Under.beneath_or_heq h with h | ⟨hk, heq⟩
    · exact Or.inl h
    · cases hk
      cases heq
      exact Or.inr (Or.inl ⟨program, rfl⟩)
  | unwind message stack =>
    rcases h.2.beneath_or_heq with h' | ⟨rfl, heq⟩
    · exact Or.inl ⟨h.1, h'⟩
    · cases heq
      exact Or.inr (Or.inr ⟨message, rfl⟩)
  | finished result => cases h
  | report result stack => exact Or.inl ((Stack.Under.beneath_or_heq h).resolve_right (by simp))
  | proceed seat phase stack => exact Or.inl ((Stack.Under.beneath_or_heq h).resolve_right (by simp))
  | settle seat result stack => exact Or.inl ((Stack.Under.beneath_or_heq h).resolve_right (by simp))
  | outcome result stack => exact Or.inl ((Stack.Under.beneath_or_heq h).resolve_right (by simp))

/-- What happens on a stack that waits for a report happens higher, or the report is there. -/
theorem On.of_report {base : Stack V ρ .report} (h : control.On base) :
    control.Over base ∨ ∃ result, control = .report result base := by
  cases control with
  | report result stack =>
    rcases Stack.Under.beneath_or_heq h with h | ⟨-, heq⟩
    · exact Or.inl h
    · cases heq
      exact Or.inr ⟨result, rfl⟩
  | unwind message stack => exact Or.inl ⟨h.1, h.2.beneath_or_heq.resolve_right fun he => h.1 he.1.symm⟩
  | finished result => cases h
  | run program stack => exact Or.inl ((Stack.Under.beneath_or_heq h).resolve_right (by simp))
  | proceed seat phase stack => exact Or.inl ((Stack.Under.beneath_or_heq h).resolve_right (by simp))
  | settle seat result stack => exact Or.inl ((Stack.Under.beneath_or_heq h).resolve_right (by simp))
  | outcome result stack => exact Or.inl ((Stack.Under.beneath_or_heq h).resolve_right (by simp))

end Control

/-! ## Parts of the machine -/

variable {c : Client V} {sc : Scene V} {b : Expects} {base : Stack V ρ b}

theorem on_publish (topic : String) (payload : Json) (below : Stack V ρ .report) :
    (publish c sc topic payload below).control.On below := by
  simp only [publish]
  split
  · exact .refl
  · exact .handling .refl

theorem on_handled (d : Delivery V.Handler) (verdict : Verdict) (below : Stack V ρ .report) :
    (handled c sc d verdict below).control.On below := by
  simp only [handled]
  split
  · exact .refl
  · exact .handling .refl

theorem on_announce (seat : Seat) (t : Transition) (phase : Phase) (below : Stack V ρ .outcome) :
    (announce c sc seat t phase below).control.On below := by
  rw [announce]
  split
  · exact (on_publish _ _ _).trans (.announcing .refl)
  · exact .refl

theorem on_execute {k : Kind} (executor : Nat) (definition : V.Definition) (step : StepId) (background : Bool)
    (next : StepOutcome → Program V (k.Result ρ)) (below : Stack V ρ (.code k)) :
    (execute c sc executor definition step background next below).control.On below := by
  simp only [execute]
  split
  · exact .refl
  · exact (on_announce _ _ _ _).trans (.awaiting .refl)

theorem on_applyResumption {k : Kind} (executor : Nat) (r : Resumption) (next : Option StepOutcome → Program V (k.Result ρ))
    (below : Stack V ρ (.code k)) : (applyResumption c sc executor r next below).control.On below := by
  simp only [applyResumption]
  split
  · exact .refl
  · split
    · exact .refl
    · split
      · exact .refl
      · exact (on_announce _ _ _ _).trans (.awaiting .refl)

theorem on_resolve {k : Kind} (key : AsyncKey) (outcome : AsyncOutcome) (next : Except KeyError Unit → Program V (k.Result ρ))
    (below : Stack V ρ (.code k)) : (resolve c sc key outcome next below).control.On below := by
  simp only [resolve]
  split
  · exact .refl
  · split
    · exact .refl
    · exact .receiving .refl
    · split
      · exact on_applyResumption _ _ _ _
      · exact .refl

theorem on_settle (seat : Seat) (result : Except StepError Completion) (below : Stack V ρ .outcome) :
    (settle c sc seat result below).control.On below := by
  simp only [settle]
  split
  · exact .refl
  · split
    · exact on_announce _ _ _ _
    · exact .refl

theorem on_drain (seat : Seat) (outcome : StepOutcome) (below : Stack V ρ .outcome) :
    (drain c sc seat outcome below).control.On below := by
  simp only [drain]
  split
  · exact .refl
  · split
    · exact .refl
    · exact on_announce _ _ _ _

theorem on_proceed (seat : Seat) (phase : Phase) (below : Stack V ρ .outcome) :
    (proceed c sc seat phase below).control.On below := by
  rw [proceed.eq_def]
  split
  · exact on_drain _ _ _
  · rw [enter]
    split
    · exact ⟨by simp, .refl⟩
    · exact .active .refl
  · rw [resume]
    split
    · exact .active .refl
    · exact .refl
  · exact ⟨by simp, .refl⟩

/-- A program that is not done runs on where it is, or calls other code from there. -/
theorem on_run {k : Kind} (program : Program V (k.Result ρ)) (stack : Stack V ρ (.code k)) (h : ∀ r, program ≠ .done r) :
    (Machine.run c sc program stack).control.On stack := by
  cases program with
  | done result => exact absurd rfl (h result)
  | crash message => exact ⟨nofun, .refl⟩
  | look next => exact .refl
  | remember memory next => exact .refl
  | call op next =>
    cases op with
    | plain op => exact .refl
    | publish topic payload => exact (on_publish _ _ _).trans (.publishing .refl)
    | resolve key outcome => exact on_resolve _ _ _ _
    | execute executor definition step background => exact on_execute _ _ _ _ _ _
    | apply executor r => exact on_applyResumption _ _ _ _

/-! ## Steps -/

/-- A step from a state that is higher than a stack leads to a state on that stack. -/
theorem step_over (state : MachineState V ρ) (h : state.control.Over base) : (state.step c).control.On base := by
  obtain ⟨sc, control⟩ := state
  cases control with
  | run program stack =>
    by_cases hp : ∃ r, program = .done r
    · obtain ⟨r, rfl⟩ := hp
      cases stack with
      | bottom => cases h
      | handling delivery below => exact (on_handled _ _ _).trans h
      | receiving next below => exact h
      | active seat below => exact h
    · exact (on_run program stack fun r hr => hp ⟨r, hr⟩).trans (Stack.Beneath.under h)
  | report result stack =>
    cases stack with
    | publishing next below => exact h
    | announcing seat phase below => exact h
  | proceed seat phase stack => exact (on_proceed seat phase stack).trans (Stack.Beneath.under h)
  | settle seat result stack => exact (on_settle seat result stack).trans (Stack.Beneath.under h)
  | outcome result stack =>
    cases stack with
    | awaiting next background below => exact h
  | unwind message stack =>
    obtain ⟨he, h⟩ := h
    cases stack with
    | bottom => cases h
    | handling delivery below => exact (on_handled _ _ _).trans h
    | receiving next below => exact ⟨nofun, h⟩
    | active seat below => exact h
    | publishing next below => exact absurd rfl he
    | announcing seat phase below => exact absurd rfl he
    | awaiting next background below =>
      simp only [MachineState.step, unwind]
      split
      · exact h
      · exact ⟨nofun, h⟩
  | finished result => cases h

/-- A step leaves the stack of some code only by a result of the code or by a panic. -/
theorem ended_of_step_off {k : Kind} {base : Stack V ρ (.code k)} {state : MachineState V ρ} (on : state.control.On base)
    (off : ¬ (state.step c).control.On base) :
    (∃ result, state.control = .run (.done result) base) ∨ ∃ message, state.control = .unwind message base := by
  obtain ⟨sc, control⟩ := state
  rcases on.of_code with hover | ⟨program, rfl⟩ | hunwind
  · exact absurd (step_over ⟨sc, control⟩ hover) off
  · by_cases hp : ∃ result, program = .done result
    · obtain ⟨result, rfl⟩ := hp
      exact Or.inl ⟨result, rfl⟩
    · exact absurd (on_run program base fun result hr => hp ⟨result, hr⟩) off
  · exact Or.inr hunwind

end StepEngine
