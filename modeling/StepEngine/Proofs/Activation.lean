import StepEngine.Proofs.Frames
import StepEngine.Proofs.Ledger.Coherence

/-!
# Activation: from its first announcement to its outcome

An activation of a seat runs on a stack. It announces transitions, runs step code, settles and goes on, and all the while it is on that
stack (`Control.Within`). It is left in one way only: a settled run finds nothing deferred for the step instance as it stands, and its
outcome is handed to the caller below. So a call that executes or resumes a step returns with that outcome (`Returns.eq_next`).
-/

namespace StepEngine

open Machine

variable {V : Vocabulary} {ρ : Type} {c : Client V} {seat : Seat} {base : Stack V ρ .outcome}

/-- The data that a fresh instance starts with can be made for every step definition. -/
def Client.Prepared (c : Client V) : Prop := ∀ definition, ∃ data, c.defaultData definition = .ok data

/-- What happens next belongs to an activation of a seat on a stack. An activation that is about to start must have its data. -/
inductive Control.Within (c : Client V) (seat : Seat) (base : Stack V ρ .outcome) : Control V ρ → Prop where
  | proceed {phase : Phase} (prepared : phase = .starting → c.Prepared) : Within c seat base (.proceed seat phase base)
  | announcing {phase : Phase} {control : Control V ρ} (prepared : phase = .starting → c.Prepared)
      (on : control.On (.announcing seat phase base)) : Within c seat base control
  | active {control : Control V ρ} (on : control.On (.active seat base)) : Within c seat base control
  | settle (result : Except StepError Completion) : Within c seat base (.settle seat result base)

/-- What happens on a stack is not the end of everything. -/
theorem Control.On.not_finished {b : Expects} {base : Stack V ρ b} {control : Control V ρ} (h : control.On base)
    (result : Except String ρ) : control ≠ .finished result := by
  rintro rfl
  exact h

namespace Control.Within

variable {control : Control V ρ}

/-- An activation happens on its stack. -/
theorem on (h : control.Within c seat base) : control.On base := by
  cases h with
  | proceed prepared => exact .refl
  | announcing prepared on => exact on.trans (.announcing .refl)
  | active on => exact on.trans (.active .refl)
  | settle result => exact .refl

/-- An activation that a program waits for happens higher than the stack of the program. -/
theorem isOver {k : Kind} {next : StepOutcome → Program V (k.Result ρ)} {background : Bool} {below : Stack V ρ (.code k)}
    (h : control.Within c seat (.awaiting next background below)) : control.Over below :=
  h.on.isOver .refl

/-- An activation whose outcome is handed down is over. -/
theorem ne_outcome {result : StepOutcome} (h : control.Within c seat base) : control ≠ .outcome result base := by
  rintro rfl
  cases h with
  | announcing prepared on => exact absurd (Stack.Under.depth_le on) (by simp [Stack.depth])
  | active on => exact absurd (Stack.Under.depth_le on) (by simp [Stack.depth])

/-- An announcement of an activation belongs to it. -/
theorem announce {phase : Phase} (prepared : phase = .starting → c.Prepared) (sc : Scene V) (t : Transition) :
    (Machine.announce c sc seat t phase base).control.Within c seat base := by
  rw [Machine.announce]
  split
  · exact .announcing prepared (on_publish _ _ _)
  · exact .proceed prepared

/-- An activation goes on with the next step, or a settled run has its outcome handed down. -/
theorem step {state : MachineState V ρ} (h : state.control.Within c seat base) (coherent : state.ledger.Coherent) :
    (state.step c).control.Within c seat base ∨
      ∃ outcome, state.control = .proceed seat (.settled outcome) base ∧ (state.step c).control = .outcome outcome base ∧
        (state.step c).scene.world.slots = state.scene.world.slots.modify seat Slot.idle := by
  obtain ⟨sc, control⟩ := state
  cases h with
  | @proceed phase prepared =>
    obtain ⟨slot, found, -, -⟩ := coherent.manned _ List.mem_cons_self
    change sc.world.slots.at? seat = some slot at found
    cases phase with
    | settled outcome =>
      simp only [MachineState.step, Machine.proceed, drain, found]
      split
      · exact Or.inr ⟨outcome, rfl, rfl, rfl⟩
      · exact Or.inl (.announce (by simp) _ _)
    | starting =>
      obtain ⟨data, hdata⟩ := prepared rfl slot.definition
      simp only [MachineState.step, Machine.proceed, found, Option.map_some, enter, hdata]
      exact Or.inl (.active .refl)
    | resuming outcome =>
      simp only [MachineState.step, Machine.proceed, found, Option.map_some, resume]
      split
      · exact Or.inl (.active .refl)
      · exact Or.inl (.settle _)
  | announcing prepared on =>
    rcases on.of_report with above | ⟨result, rfl⟩
    · exact Or.inl (.announcing prepared (step_over ⟨sc, control⟩ above))
    · exact Or.inl (.proceed prepared)
  | active on =>
    rcases on.of_code with above | ⟨program, rfl⟩ | ⟨message, rfl⟩
    · exact Or.inl (.active (step_over ⟨sc, control⟩ above))
    · by_cases hp : ∃ r, program = .done r
      · obtain ⟨r, rfl⟩ := hp
        exact Or.inl (.settle r)
      · exact Or.inl (.active (on_run program _ fun r hr => hp ⟨r, hr⟩))
    · exact Or.inl (.settle _)
  | settle result =>
    obtain ⟨slot, found, -, started⟩ := coherent.manned _ List.mem_cons_self
    have heq : MachineState.step c ⟨sc, .settle seat result base⟩ = Machine.settle c sc seat result base := rfl
    rw [heq, settle_eq result base found started]
    exact Or.inl (.announce (by simp) _ _)

end Control.Within

namespace Run

variable (run : Run c ρ) {m n : Nat}

/-- A state that is not finished is followed by the one after a step. -/
theorem next_eq (h : ∀ result, (run n).control ≠ .finished result) : run (n + 1) = (run n).step c := (run.next n).eq_step h

/-- What happens next, unless everything is over, says what the next state is. -/
theorem next_of_control {control : Control V ρ} (h : (run n).control = control) (unfinished : ∀ result, control ≠ .finished result) :
    run (n + 1) = MachineState.step c ⟨(run n).scene, control⟩ := by
  subst h
  exact run.next_eq unfinished

/-- The state after a program has made a request. -/
theorem next_of_call {k : Kind} {op : Op V} {next : op.Answer → Program V (k.Result ρ)} {below : Stack V ρ (.code k)}
    (h : (run n).control = .run (.call op next) below) : run (n + 1) = Machine.run c (run n).scene (.call op next) below :=
  run.next_of_control h (by simp)

/-- An announcement leaves the ledger as it is when the announcement is made. -/
theorem ledger_of_announce {sc : Scene V} {t : Transition} {phase : Phase} (h : run (n + 1) = Machine.announce c sc seat t phase base) :
    (run (n + 1)).ledger = sc.world.ledger (⟨seat, some phase⟩ :: base.activations) := by
  rw [h, ledger_announce]

/-- A slot that is changed before an announcement is found changed after it. -/
theorem at?_of_announce {sc : Scene V} {t : Transition} {phase : Phase} {slot : Slot V.Definition}
    {f : Slot V.Definition → Slot V.Definition} (h : run (n + 1) = Machine.announce c sc seat t phase base)
    (hslots : sc.world.slots = (run n).scene.world.slots.modify seat f) (keeps : Slot.Keeps f)
    (found : (run n).ledger.slots.at? seat = some slot) : (run (n + 1)).ledger.slots.at? seat = some (f slot) := by
  rw [run.ledger_of_announce h]
  change sc.world.slots.at? seat = some (f slot)
  rw [hslots]
  exact Slots.at?_modify_self keeps found

/-- What happens higher than a stack is followed by what happens on that stack. -/
theorem on_next {b : Expects} {base : Stack V ρ b} (h : (run n).control.Over base) : (run (n + 1)).control.On base := by
  have hstep := step_over (c := c) (run n) h
  rw [run.next_eq]
  · exact hstep
  · intro result he
    rw [he] at h
    exact h

/-- As long as not everything is over, what happens next happens on the bottom. So no panic is on its way through a delivery. -/
theorem on_bottom (n : Nat) : (run n).control.On .bottom ∨ ∃ result, (run n).control = .finished result := by
  have started : ∀ (w : World V) (memory : V.Memory) (program : Program V ρ),
      (MachineState.start w memory program).control.On .bottom := fun _ _ _ => .refl
  induction n with
  | zero =>
    obtain ⟨config, logsFaults, memory, program, hfirst⟩ := run.first
    rw [hfirst]
    exact Or.inl (started _ _ _)
  | succ n ih =>
    rcases ih with hon | ⟨result, hfinished⟩
    · rcases hon.of_code with hover | ⟨program, hrun⟩ | ⟨message, hunwind⟩
      · exact Or.inl (run.on_next hover)
      · rw [run.next_of_control hrun (by simp), MachineState.step]
        by_cases hp : ∃ result, program = .done result
        · obtain ⟨result, rfl⟩ := hp
          exact Or.inr ⟨_, rfl⟩
        · exact Or.inl (on_run program .bottom fun result hr => hp ⟨result, hr⟩)
      · rw [run.next_of_control hunwind (by simp), MachineState.step]
        exact Or.inr ⟨_, rfl⟩
    · have hnext := run.next n
      generalize run (n + 1) = next at hnext
      cases hnext with
      | step =>
        rw [MachineState.step_finished hfinished]
        exact Or.inr ⟨result, hfinished⟩
      | again finished memory program => exact Or.inl (started _ _ _)

/-- What happens on a stack and later does not leaves it at some moment in between, from the height of the stack. -/
theorem exists_leaving {b : Expects} {base : Stack V ρ b} {e : Nat} (h : (run n).control.On base) (hle : n ≤ e)
    (hnot : ¬ (run e).control.On base) :
    ∃ m, n ≤ m ∧ m < e ∧ (∀ i, n ≤ i → i ≤ m → (run i).control.On base) ∧ ¬ (run m).control.Over base ∧
      ¬ (run (m + 1)).control.On base := by
  by_contra hno
  have hall : ∀ m, n ≤ m → m ≤ e → ∀ i, n ≤ i → i ≤ m → (run i).control.On base := by
    intro m hnm
    induction hnm with
    | refl =>
      intro _ i hni hin
      rw [Nat.le_antisymm hin hni]
      exact h
    | @step m hnm ih =>
      intro hme i hni him
      have hbefore := ih (Nat.le_of_succ_le hme)
      rcases Nat.le_succ_iff.1 him with him | rfl
      · exact hbefore i hni him
      · refine Classical.byContradiction fun hoff => hno ⟨m, hnm, hme, hbefore, ?_, hoff⟩
        exact fun hover => hoff (run.on_next hover)
  exact hnot (hall e hle (Nat.le_refl e) e hle (Nat.le_refl e))

/-- An activation is over after a state: its last run settled with an outcome, which is handed down, and its slot becomes idle. -/
structure Ends (n : Nat) (seat : Seat) (base : Stack V ρ .outcome) (outcome : StepOutcome) : Prop where
  settled : (run n).control = .proceed seat (.settled outcome) base
  outcome : (run (n + 1)).control = .outcome outcome base
  idle : (run (n + 1)).scene.world.slots = (run n).scene.world.slots.modify seat Slot.idle

/-- A call returns: at first everything happens higher than the stack of the caller, then the caller runs on with a program. -/
structure Returns (n m : Nat) {k : Kind} (below : Stack V ρ (.code k)) (program : Program V (k.Result ρ)) : Prop where
  later : n < m
  inside : ∀ i, n < i → i < m → (run i).control.Over below
  back : (run m).control = .run program below

variable {run} {k : Kind} {next : StepOutcome → Program V (k.Result ρ)} {background : Bool} {below : Stack V ρ (.code k)}
  {outcome : StepOutcome}

/-- An activation goes on with the next state, or it ends. -/
theorem within_next (h : (run n).control.Within c seat base) :
    (run (n + 1)).control.Within c seat base ∨ ∃ outcome, run.Ends n seat base outcome := by
  have heq := run.next_eq h.on.not_finished
  rcases h.step (run.coherent n) with hwithin | ⟨outcome, hsettled, houtcome, hidle⟩
  · exact Or.inl (heq ▸ hwithin)
  · exact Or.inr ⟨outcome, hsettled, heq ▸ houtcome, heq ▸ hidle⟩

/-- Up to any later state, an activation is still in progress or has ended on the way. -/
theorem within_or_ends (h : (run n).control.Within c seat base) (hle : n ≤ m) :
    (∀ i, n ≤ i → i ≤ m → (run i).control.Within c seat base) ∨
      ∃ i outcome, n ≤ i ∧ i < m ∧ (∀ j, n ≤ j → j ≤ i → (run j).control.Within c seat base) ∧ run.Ends i seat base outcome := by
  induction hle with
  | refl =>
    left
    intro i hni hin
    rw [Nat.le_antisymm hin hni]
    exact h
  | @step m hle ih =>
    rcases ih with hall | ⟨i, outcome, hni, him, hall, hends⟩
    · rcases within_next (hall m hle (Nat.le_refl m)) with hm | ⟨outcome, hends⟩
      · left
        intro i hni him
        rcases Nat.le_succ_iff.1 him with him | rfl
        · exact hall i hni him
        · exact hm
      · exact Or.inr ⟨m, outcome, hle, Nat.lt_succ_self m, hall, hends⟩
    · exact Or.inr ⟨i, outcome, hni, Nat.lt_succ_of_lt him, hall, hends⟩

/-- After the end of an activation, the program that waits for it goes on with the outcome. -/
theorem Ends.state_eq (h : run.Ends n seat (.awaiting next background below) outcome) :
    run (n + 2) = ⟨(run (n + 1)).scene, .run (next outcome) below⟩ := by
  have heq : run (n + 1 + 1) = (run (n + 1)).step c := by
    refine run.next_eq fun result he => ?_
    rw [h.outcome] at he
    cases he
  rw [heq, MachineState.step, h.outcome]

/-- When an activation has ended, the call that waits for it returns with its outcome. -/
theorem Ends.returns (h : run.Ends m seat (.awaiting next background below) outcome) (hlt : n < m)
    (hwithin : ∀ i, n < i → i ≤ m → (run i).control.Within c seat (.awaiting next background below)) :
    run.Returns n (m + 2) below (next outcome) where
  later := by omega
  inside := by
    intro i hni him
    by_cases hle : i ≤ m
    · exact (hwithin i hni hle).isOver
    · obtain rfl : i = m + 1 := by omega
      rw [h.outcome]
      exact Stack.Under.refl
  back := by rw [h.state_eq]

/-- When a call returns, nothing happens higher than the stack of the caller. -/
theorem Returns.not_over {program : Program V (k.Result ρ)} (h : run.Returns n m below program) : ¬ (run m).control.Over below := by
  rw [h.back]
  exact Stack.not_beneath_self

/-- A call does not return before its activation has ended. -/
theorem Returns.not_within {program : Program V (k.Result ρ)} (h : run.Returns n m below program) :
    ¬ (run m).control.Within c seat (.awaiting next background below) := fun hwithin => h.not_over hwithin.isOver

/-- A call returns once. -/
theorem Returns.unique {m' : Nat} {program program' : Program V (k.Result ρ)} (h : run.Returns n m below program)
    (h' : run.Returns n m' below program') : m' = m ∧ program' = program := by
  rcases Nat.lt_trichotomy m m' with hlt | rfl | hlt
  · exact absurd (h'.inside m h.later hlt) h.not_over
  · have hback := h.back
    rw [h'.back] at hback
    cases hback
    exact ⟨rfl, rfl⟩
  · exact absurd (h.inside m' h'.later hlt) h'.not_over

/-- A call that is answered at once returns with the next state. -/
theorem returns_next {program : Program V (k.Result ρ)} (h : (run (n + 1)).control = .run program below) :
    run.Returns n (n + 1) below program where
  later := Nat.lt_succ_self n
  inside := fun i hni hin => by omega
  back := h

/-- A call that waits for an activation returns right after the end of the activation, with its outcome. -/
theorem Returns.ends {program : Program V (k.Result ρ)} (h : run.Returns n m below program)
    (hwithin : (run (n + 1)).control.Within c seat (.awaiting next background below)) :
    ∃ i outcome, n < i ∧ m = i + 2 ∧ program = next outcome ∧ run.Ends i seat (.awaiting next background below) outcome ∧
      ∀ j, n < j → j ≤ i → (run j).control.Within c seat (.awaiting next background below) := by
  rcases within_or_ends hwithin h.later with hall | ⟨i, outcome, hni, him, hall, hends⟩
  · exact absurd (hall m h.later (Nat.le_refl m)) h.not_within
  · have hne : m ≠ i + 1 := by
      rintro rfl
      have hback := h.back
      rw [hends.outcome] at hback
      cases hback
    have hle : m ≤ i + 2 := by
      refine Nat.le_of_not_lt fun hlt => ?_
      have hover := h.inside (i + 2) (by omega) hlt
      rw [hends.state_eq] at hover
      exact Stack.not_beneath_self hover
    obtain rfl : m = i + 2 := by omega
    have hprogram := h.back
    rw [hends.state_eq] at hprogram
    cases hprogram
    exact ⟨i, outcome, hni, rfl, rfl, hends, hall⟩

end Run

end StepEngine
