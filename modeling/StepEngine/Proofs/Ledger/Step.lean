import StepEngine.Proofs.Ledger

/-!
# Step: every step of the engine is a move

For each part of the machine, what it does to the ledger. Deliveries leave the ledger alone. Executing, resolving, settling and going on
with what is deferred are one move each. `step_move` collects them: in a coherent ledger a step of the machine is a move, by the request
that is made in the state.
-/

namespace StepEngine

open Machine

variable {V : Vocabulary} {ρ : Type} {c : Client V} {sc : Scene V}

/-! ## Deliveries -/

/-- A publication changes nothing that the ledger shows. -/
theorem ledger_publish (topic : String) (payload : Json) (below : Stack V ρ .report) :
    (publish c sc topic payload below).ledger = sc.world.ledger below.activations := by
  simp only [publish]
  split <;> rfl

/-- Counting a handler changes nothing that the ledger shows. -/
theorem ledger_account (sc : Scene V) (d : Delivery V.Handler) (verdict : Verdict) (activations : List Activation) :
    (account c sc d verdict).1.world.ledger activations = sc.world.ledger activations := by
  cases verdict <;> rfl

/-- The end of a handler changes nothing that the ledger shows. -/
theorem ledger_handled (d : Delivery V.Handler) (verdict : Verdict) (below : Stack V ρ .report) :
    (handled c sc d verdict below).ledger = sc.world.ledger below.activations := by
  have h := ledger_account (c := c) (sc.note (slowReport c sc.world d)) d verdict below.activations
  simp only [handled]
  split <;> exact h

/-- An announcement puts the activation in its phase. -/
theorem ledger_announce (seat : Seat) (t : Transition) (phase : Phase) (below : Stack V ρ .outcome) :
    (announce c sc seat t phase below).ledger = sc.world.ledger (⟨seat, some phase⟩ :: below.activations) := by
  rw [announce]
  split
  · exact ledger_publish _ _ _
  · rfl

/-- The end of a delivery changes nothing that the ledger shows. -/
theorem ledger_reported (result : PublishReport) (stack : Stack V ρ .report) :
    (reported sc result stack).ledger = sc.world.ledger stack.activations := by
  cases stack with
  | publishing next below => rfl
  | announcing seat phase below =>
    rw [reported]
    split <;> rfl

/-! ## Requests -/

/-- A request that is answered at once is a move. -/
theorem move_plain (w : World V) (op : PlainOp V) (activations : List Activation) :
    Ledger.Move (some (.plain op)) (w.ledger activations) ((op.run w).2.ledger activations) := by
  cases op with
  | key op =>
    cases op with
    | issue step source => exact .bind step w.clock (KeyRegistry.isUsed_freshKey source)
    | submit step key =>
      by_cases hused : w.keys.isUsed key = true
      · simp only [PlainOp.run, KeyOp.run, KeyRegistry.submit, hused, if_true]
        exact .stay _
      · simp only [PlainOp.run, KeyOp.run, KeyRegistry.submit, hused]
        exact .bind step w.clock (eq_false_of_ne_true hused)
    | purge workflow => exact .forget rfl
    | status key => exact .stay _
    | keysOf step => exact .stay _
    | pendingBefore cutoff => exact .stay _
    | size => exact .stay _
    | isEmpty => exact .stay _
  | purgeWorkflow workflow => exact .forget rfl
  | openExecutor => exact .attach (.executor w.executors.length) (w.executors ++ [true])
  | releaseExecutor id => exact .attach w.attachment (w.executors.set id false)
  | attach receiver => exact .attach (.receiver receiver) w.executors
  | detach =>
    simp only [PlainOp.run]
    split
    · exact .attach .none w.executors
    · exact .stay _
  | purgeSlots executor workflow => exact .unlist executor workflow
  | stepData op => exact .stay _
  | workflowData op => exact .stay _
  | bus op => exact .stay _
  | startWorkflow workflow data => exact .stay _
  | input workflow => exact .stay _
  | config => exact .stay _
  | now => exact .stay _
  | sleep nanoseconds => exact .stay _
  | log event => exact .stay _
  | state executor step => exact .stay _
  | lastOutcome executor step => exact .stay _

/-- Executing a step is a move. -/
theorem move_execute {k : Kind} (executor : Nat) (definition : V.Definition) (step : StepId) (background : Bool)
    (next : StepOutcome → Program V (k.Result ρ)) (below : Stack V ρ (.code k)) :
    Ledger.Move (some (.execute executor definition step background)) (sc.world.ledger below.activations)
      (execute c sc executor definition step background next below).ledger := by
  simp only [execute]
  split
  · exact .stay _
  · rename_i free
    rw [ledger_announce]
    exact .start free

/-- Applying a resumption does what a resumption does that reaches the executor. -/
theorem handed_applyResumption {k : Kind} (sc : Scene V) (executor : Nat) (r : Resumption)
    (next : Option StepOutcome → Program V (k.Result ρ)) (below : Stack V ρ (.code k)) :
    Ledger.Handed executor r (sc.world.ledger below.activations) (applyResumption c sc executor r next below).ledger := by
  simp only [applyResumption]
  split
  · rename_i absent
    exact .unknown absent
  · rename_i slot current
    split
    · rename_i running
      exact .deferred current running
    · rename_i idle
      split
      · rename_i e hadvance
        refine .refused current (by simpa using idle) fun awaits => ?_
        rw [awaits, Lifecycle.advance_resume] at hadvance
        cases hadvance
      · rename_i t lifecycle hadvance
        obtain ⟨awaits, rfl, rfl⟩ := Lifecycle.advance_resume_eq_ok hadvance
        rw [ledger_announce]
        exact .woken current (by simpa using idle) awaits

/-- Resolving a key is a move. -/
theorem move_resolve {k : Kind} (key : AsyncKey) (outcome : AsyncOutcome) (next : Except KeyError Unit → Program V (k.Result ρ))
    (below : Stack V ρ (.code k)) :
    Ledger.Move (some (.resolve key outcome)) (sc.world.ledger below.activations)
      (resolve c sc key outcome next below).ledger := by
  simp only [resolve]
  split
  · exact .stay _
  · rename_i r keys resolved
    split
    · rename_i hnone
      exact .undelivered resolved fun executor h => absurd (hnone.symm.trans h) nofun
    · rename_i descriptor hreceiver
      exact .undelivered resolved fun executor h => absurd (hreceiver.symm.trans h) nofun
    · rename_i id attached
      split
      · refine .resolve resolved attached ?_
        exact handed_applyResumption ((sc.update fun w => { w with keys := keys }).note _) id r _ below
      · rename_i hlive
        refine .undelivered resolved fun executor h => ?_
        cases attached.symm.trans h
        rw [Bool.or_eq_true, not_or, Bool.not_eq_true] at hlive
        exact hlive.1

/-! ## Activations -/

/-- The suspension check passes only for a key that the step instance may suspend on. -/
theorem mayAwait_of_checkSuspension {w : World V} {seat : Seat} {slot : Slot V.Definition} {key given : AsyncKey}
    (found : w.slots.at? seat = some slot) (h : checkSuspension w seat given = .suspended key) :
    slot.MayAwait w.keys key := by
  rw [checkSuspension] at h
  split at h
  · cases h
  · rename_i status hstatus
    split at h
    · cases h
    · rename_i hstep
      split at h
      · rename_i hok
        cases h
        rw [KeyRegistry.status] at hstatus
        split at hstatus
        · rename_i record hget
          cases hstatus
          refine ⟨record, hget, (Decidable.not_not.1 hstep).trans (by rw [(Slots.mem_of_at? found).2]), ?_⟩
          simpa [found] using hok
        · cases hstatus
      · cases h

/-- A run that ends suspended ends on a key that the step instance may suspend on. -/
theorem mayAwait_of_outcomeOf {w : World V} {seat : Seat} {slot : Slot V.Definition} {result : Except StepError Completion}
    (found : w.slots.at? seat = some slot) (key : AsyncKey) (h : outcomeOf w seat result = .suspended key) :
    slot.MayAwait w.keys key := by
  unfold outcomeOf at h
  split at h
  · cases h
  · exact mayAwait_of_checkSuspension found h
  · cases h

/-- The end of a run, on a slot that stands as running. -/
theorem settle_eq {seat : Seat} {slot : Slot V.Definition} (result : Except StepError Completion) (below : Stack V ρ .outcome)
    (found : sc.world.slots.at? seat = some slot) (started : slot.lifecycle = Slot.startedLifecycle) :
    settle c sc seat result below =
      announce c
        ((sc.modifySlot seat (Slot.settle (outcomeOf sc.world seat result))).note
          [logTransition seat.step
            ⟨.inProgress, (outcomeOf sc.world seat result).lifecycle.state, (outcomeOf sc.world seat result).event⟩])
        seat ⟨.inProgress, (outcomeOf sc.world seat result).lifecycle.state, (outcomeOf sc.world seat result).event⟩
        (.settled (outcomeOf sc.world seat result)) below := by
  simp only [settle, found, started, Lifecycle.advance_started]
  rfl

/-- The end of a run is a move. -/
theorem move_settle {seat : Seat} (result : Except StepError Completion) (below : Stack V ρ .outcome)
    (coherent : (sc.world.ledger (⟨seat, none⟩ :: below.activations)).Coherent) :
    Ledger.Move none (sc.world.ledger (⟨seat, none⟩ :: below.activations)) (settle c sc seat result below).ledger := by
  obtain ⟨slot, found, -, started⟩ := coherent.manned _ List.mem_cons_self
  rw [settle_eq result below found started, ledger_announce]
  exact .settle rfl found (mayAwait_of_outcomeOf found)

/-- Going on after a settled run is a move. -/
theorem move_drain {seat : Seat} {outcome : StepOutcome} (below : Stack V ρ .outcome)
    (coherent : (sc.world.ledger (⟨seat, some (.settled outcome)⟩ :: below.activations)).Coherent) :
    Ledger.Move none (sc.world.ledger (⟨seat, some (.settled outcome)⟩ :: below.activations))
      (drain c sc seat outcome below).ledger := by
  obtain ⟨slot, found, -, -⟩ := coherent.manned _ List.mem_cons_self
  change sc.world.slots.at? seat = some slot at found
  simp only [drain, found]
  split
  · rename_i events hnext
    exact .finish rfl found (nextDeferred_eq_none hnext)
  · rename_i events r t lifecycle later hnext
    obtain ⟨awaits, rfl, rfl, skipped, queue, first⟩ := nextDeferred_eq_some hnext
    rw [ledger_announce]
    exact .take rfl found awaits queue first

/-- Going on with a phase is a move. -/
theorem move_proceed {seat : Seat} (phase : Phase) (below : Stack V ρ .outcome)
    (coherent : (sc.world.ledger (⟨seat, some phase⟩ :: below.activations)).Coherent) :
    Ledger.Move none (sc.world.ledger (⟨seat, some phase⟩ :: below.activations)) (proceed c sc seat phase below).ledger := by
  obtain ⟨slot, found, -, -⟩ := coherent.manned _ List.mem_cons_self
  change sc.world.slots.at? seat = some slot at found
  cases phase with
  | settled outcome =>
    simp only [proceed]
    exact move_drain below coherent
  | starting =>
    simp only [proceed, found, Option.map_some, enter]
    split
    · exact .leave rfl
    · exact .enter rfl (by simp)
  | resuming outcome =>
    simp only [proceed, found, Option.map_some, resume]
    split
    · exact .enter rfl (by simp)
    · exact .enter rfl (by simp)

/-- Running a program on is a move. -/
theorem move_run {k : Kind} (program : Program V (k.Result ρ)) (stack : Stack V ρ (.code k)) :
    Ledger.Move (MachineState.request? ⟨sc, .run program stack⟩) (sc.world.ledger stack.activations)
      (Machine.run c sc program stack).ledger := by
  cases program with
  | look next => exact .stay _
  | remember memory next => exact .stay _
  | crash message => exact .stay _
  | call op next =>
    cases op with
    | plain op => exact move_plain sc.world op stack.activations
    | publish topic payload =>
      have h : (publish c sc topic payload (.publishing next stack)).ledger = sc.world.ledger stack.activations :=
        ledger_publish _ _ _
      rw [Machine.run, h]
      exact .stay _
    | resolve key outcome => exact move_resolve key outcome next stack
    | execute executor definition step background => exact move_execute executor definition step background next stack
    | apply executor r => exact .apply (handed_applyResumption sc executor r next stack)
  | done result =>
    cases stack with
    | bottom => exact .stay _
    | handling delivery below =>
      have h : (handled c sc delivery (.ofResult result) below).ledger = sc.world.ledger below.activations :=
        ledger_handled _ _ _
      rw [Machine.run, h]
      exact .stay _
    | receiving next below => exact .stay _
    | active seat below => exact .stay _

/-- A panic that goes one frame down is a move. -/
theorem move_unwind {e : Expects} (message : String) (stack : Stack V ρ e) :
    Ledger.Move none (sc.world.ledger stack.activations) (unwind c sc message stack).ledger := by
  cases stack with
  | bottom => exact .stay _
  | handling delivery below =>
    have h : (handled c sc delivery (.failed message true) below).ledger = sc.world.ledger below.activations :=
      ledger_handled _ _ _
    rw [unwind, h]
    exact .stay _
  | receiving next below => exact .stay _
  | active seat below => exact .stay _
  | publishing next below => exact .stay _
  | announcing seat phase below => exact .leave rfl
  | awaiting next background below =>
    rw [unwind]
    split <;> exact .stay _

/-! ## Steps -/

/-- Every step of the machine is a move. -/
theorem step_move (state : MachineState V ρ) (coherent : state.ledger.Coherent) :
    Ledger.Move state.request? state.ledger (state.step c).ledger := by
  obtain ⟨sc, control⟩ := state
  cases control with
  | run program stack => exact move_run program stack
  | report result stack =>
    have h : (reported sc result stack).ledger = sc.world.ledger stack.activations := ledger_reported _ _
    rw [MachineState.step, h]
    exact .stay _
  | proceed seat phase stack => exact move_proceed phase stack coherent
  | settle seat result stack => exact move_settle result stack coherent
  | outcome result stack =>
    cases stack with
    | awaiting next background below => exact .stay _
  | unwind message stack => exact move_unwind message stack
  | finished result => exact .stay _

/-- From one state of a run to the next there is a move. -/
theorem follows_move {state next : MachineState V ρ} (h : state.Follows c next) (coherent : state.ledger.Coherent) :
    Ledger.Move state.request? state.ledger next.ledger := by
  cases h with
  | step => exact step_move state coherent
  | again finished memory program =>
    have hledger : (MachineState.start state.scene.world memory program).ledger = state.ledger := by
      rw [MachineState.ledger, MachineState.ledger, finished]
      rfl
    rw [hledger]
    exact .stay _

end StepEngine
