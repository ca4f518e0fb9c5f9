import StepEngine.Engine.Machine

/-!
# Run: the states that the engine passes through

A run begins in a new world with some program. The machine makes one step after the other; when a program is over, with a result or with
a panic that nobody caught, another one may go on to drive the same world. So a run stands for any sequence of requests from outside,
and between them for everything that step code, handlers and receivers request while they run.
-/

namespace StepEngine

namespace MachineState

variable {V : Vocabulary} {ρ : Type}

/-- One state comes right after another: by a step of the machine, or because a program is over and another one drives the world on. -/
inductive Follows (c : Client V) : MachineState V ρ → MachineState V ρ → Prop where
  | step (state : MachineState V ρ) : Follows c state (state.step c)
  | again {state : MachineState V ρ} {result : Except String ρ} (finished : state.control = .finished result)
      (memory : V.Memory) (program : Program V ρ) : Follows c state (start state.scene.world memory program)

/-- The request that a program makes in a state. -/
def request? (state : MachineState V ρ) : Option (Op V) :=
  match state.control with
  | .run (.call op _) _ => some op
  | _ => none

/-- A request is made by a program that runs. -/
theorem control_of_request? {state : MachineState V ρ} {op : Op V} (h : state.request? = some op) :
    ∃ (k : Kind) (next : op.Answer → Program V (k.Result ρ)) (below : Stack V ρ (.code k)),
      state.control = .run (.call op next) below := by
  rw [request?] at h
  split at h
  · rename_i k op' next below hcontrol
    cases h
    exact ⟨k, next, below, hcontrol⟩
  · cases h

/-- The step code that begins to run. -/
inductive StepCode where
  /-- The entry behaviour of the step. -/
  | entry (seat : Seat)
  /-- The resumption behaviour of the step. -/
  | resumption (seat : Seat) (outcome : AsyncOutcome)

/-- The step code that begins to run with the next step. -/
def begins? (c : Client V) (state : MachineState V ρ) : Option StepCode :=
  match state.control with
  | .proceed seat phase _ =>
    match phase, state.scene.world.slots.at? seat with
    | .starting, some slot => (c.defaultData slot.definition).toOption.map fun _ => .entry seat
    | .resuming outcome, some slot => (c.resume slot.definition).map fun _ => .resumption seat outcome
    | _, _ => none
  | _ => none

/-- The seat that step code belongs to. -/
def StepCode.seat : StepCode → Seat
  | entry seat => seat
  | resumption seat _ => seat

/-- The phase in which an activation begins step code. -/
def StepCode.phase : StepCode → Phase
  | entry _ => .starting
  | resumption _ outcome => .resuming outcome

/-- Step code begins where its activation goes on with its phase, and it runs next. -/
theorem step_of_begins? {c : Client V} {state : MachineState V ρ} {code : StepCode} (h : state.begins? c = some code) :
    ∃ below program, state.control = .proceed code.seat code.phase below ∧
      (state.step c).control = .run (k := .step) program (.active code.seat below) := by
  rw [begins?] at h
  split at h
  · rename_i seat phase below hcontrol
    rw [step, hcontrol]
    split at h
    · rename_i slot hslot
      obtain ⟨data, hdata, rfl⟩ := Option.map_eq_some_iff.1 h
      cases hdefault : c.defaultData slot.definition with
      | error message =>
        rw [hdefault] at hdata
        cases hdata
      | ok defaults =>
        refine ⟨below, c.primary slot.definition seat.step, rfl, ?_⟩
        simp only [Machine.proceed, hslot, Option.map_some, Machine.enter, hdefault]
        rfl
    · rename_i outcome slot hslot
      obtain ⟨behaviour, hresume, rfl⟩ := Option.map_eq_some_iff.1 h
      refine ⟨below, behaviour seat.step outcome, rfl, ?_⟩
      simp only [Machine.proceed, hslot, Option.map_some, Machine.resume, hresume]
      rfl
    · cases h
  · cases h

/-- When a resumption behaviour begins, the next thing that runs is the behaviour that the definition in the slot has, on the step
instance and with the outcome. -/
theorem step_of_begins?_resumption {c : Client V} {state : MachineState V ρ} {seat : Seat} {outcome : AsyncOutcome}
    (h : state.begins? c = some (.resumption seat outcome)) :
    ∃ below slot behaviour, state.control = .proceed seat (.resuming outcome) below ∧
      state.scene.world.slots.at? seat = some slot ∧ c.resume slot.definition = some behaviour ∧
      state.step c = ⟨state.scene, .run (k := .step) (behaviour seat.step outcome) (.active seat below)⟩ := by
  rw [begins?] at h
  split at h
  · rename_i other phase below hcontrol
    split at h
    · rename_i slot hslot
      cases hdefault : (c.defaultData slot.definition).toOption with
      | none => simp [hdefault] at h
      | some data => simp [hdefault] at h
    · rename_i given slot hslot
      cases hresume : c.resume slot.definition with
      | none => simp [hresume] at h
      | some behaviour =>
        simp only [hresume, Option.map_some, Option.some.injEq, StepCode.resumption.injEq] at h
        obtain ⟨rfl, rfl⟩ := h
        refine ⟨below, slot, behaviour, hcontrol, hslot, hresume, ?_⟩
        rw [step, hcontrol]
        simp only [Machine.proceed, hslot, Option.map_some, Machine.resume, hresume]
    · cases h
  · cases h

/-- A finished machine stays as it is. -/
theorem step_finished {c : Client V} {state : MachineState V ρ} {result : Except String ρ}
    (h : state.control = .finished result) : state.step c = state := by
  rw [step, h]

/-- A state that is not finished is followed by the state after a step only. -/
theorem Follows.eq_step {c : Client V} {state next : MachineState V ρ} (h : Follows c state next)
    (hr : ∀ result, state.control ≠ .finished result) : next = state.step c := by
  cases h with
  | step => rfl
  | again finished => exact absurd finished (hr _)

/-- The machine runs up to `fuel + 1` steps by running up to `fuel` steps and one more. -/
theorem run_succ (c : Client V) (fuel : Nat) (state : MachineState V ρ) :
    run c (fuel + 1) state = (run c fuel state).step c := by
  induction fuel generalizing state with
  | zero =>
    rw [run, run]
    split
    · rename_i result h
      exact (step_finished h).symm
    · rfl
  | succ fuel ih =>
    rw [run]
    split
    · rename_i result h
      have hstay : run c (fuel + 1) state = state := by
        rw [run, h]
      rw [hstay]
      exact (step_finished h).symm
    · rename_i h
      rw [ih (state.step c)]
      congr 1
      rw [run]
      split
      · rename_i result hfinished
        exact absurd hfinished (h result)
      · rfl

end MachineState

/-- A run of the engine with the code of a client, as the sequence of its states. -/
structure Run {V : Vocabulary} (c : Client V) (ρ : Type) where
  state : Nat → MachineState V ρ
  first : ∃ config logsFaults memory program, state 0 = .start (World.new config logsFaults) memory program
  next : ∀ n, (state n).Follows c (state (n + 1))

namespace Run

variable {V : Vocabulary} {c : Client V} {ρ : Type}

instance : CoeFun (Run c ρ) fun _ => Nat → MachineState V ρ := ⟨Run.state⟩

/-- The run of one program in a new world. -/
def ofProgram (c : Client V) (config : EngineConfig) (logsFaults : Bool) (memory : V.Memory) (program : Program V ρ) : Run c ρ where
  state n := MachineState.run c n (.start (World.new config logsFaults) memory program)
  first := ⟨config, logsFaults, memory, program, rfl⟩
  next n := by
    rw [MachineState.run_succ]
    exact .step _

/-- When its program is over, the run of one program stays as it is. -/
theorem ofProgram_eq_of_finished {config : EngineConfig} {logsFaults : Bool} {memory : V.Memory} {program : Program V ρ} {m n : Nat}
    {result : Except String ρ} (h : (ofProgram c config logsFaults memory program m).control = .finished result) (hle : m ≤ n) :
    ofProgram c config logsFaults memory program n = ofProgram c config logsFaults memory program m := by
  induction hle with
  | refl => rfl
  | @step n hle ih =>
    have hfinished : (ofProgram c config logsFaults memory program n).control = .finished result := by rw [ih, h]
    exact (MachineState.run_succ c n _).trans ((MachineState.step_finished hfinished).trans ih)

end Run

/-! ## A sample

One step instance without handlers and receivers around it: an executor is opened, executes it and is asked for nothing else. -/

namespace Sample

/-- One step definition, and neither memory nor handlers nor receivers. -/
def vocabulary : Vocabulary := ⟨Unit, Empty, Unit, Empty⟩

/-- The code of a step. -/
abbrev Code := Program vocabulary (Except StepError Completion)

/-- The client whose only step has this entry behaviour and this resumption behaviour. -/
def client (primary : Code) (resume : AsyncOutcome → Code) : Client vocabulary where
  handlerName := nofun
  handle := nofun
  stepName _ := "sample"
  defaultData _ := .ok Dict.empty
  primary _ _ := primary
  resume _ := some fun _ => resume
  receive := nofun

/-- The only step instance. -/
def lone : StepId := ⟨⟨.ofNat 1⟩, "sample", 0⟩

/-- Its seat at the only executor. -/
def loneSeat : Seat := ⟨0, lone, 0⟩

/-- A step instance of another workflow. -/
def neighbour : StepId := ⟨⟨.ofNat 2⟩, "sample", 0⟩

/-- The first key of the step instance. -/
def left : AsyncKey := ⟨"left"⟩

/-- The second key of the step instance. -/
def right : AsyncKey := ⟨"right"⟩

/-- A key is bound to the step instance. -/
def submit (key : AsyncKey) : Op vocabulary := .plain (.key (.submit lone key))

/-- A run that opens the executor, executes the step instance and goes on with the outcome. -/
def execution (c : Client vocabulary) (next : StepOutcome → Program vocabulary StepOutcome) : Run c StepOutcome :=
  .ofProgram c .default false () (.call (.plain .openExecutor) fun _ => .call (.execute 0 () lone false) next)

/-- The step that awaits one key and is complete when it is resumed. -/
def waiting : Client vocabulary :=
  client (.call (submit left) fun _ => .done (.ok (.suspended left))) fun _ => .done (.ok .complete)

/-- The run that executes this step and expires its key afterwards. -/
def expiry : Run waiting StepOutcome := execution waiting fun outcome => .call (.resolve left .expired) fun _ => .done outcome

end Sample

end StepEngine
