import StepEngine.Engine.Machine
import StepEngine.Proofs.Share.Keys

/-!
# World: the share in what the engine keeps

Two worlds agree on a share if their stores, their inputs and their keys do (`Share.Agree`). A request that is answered at once, and names
nothing outside of the share, is answered alike in both, and they go on to agree; they do so too when a request that names nothing of the
share is made in one of them.
-/

namespace StepEngine

variable {V : Vocabulary}

/-- The request names only workflows, step instances and keys of a share. -/
def PlainOp.Within (a : Share) : PlainOp V → Prop
  | .stepData op => op.Within a.owns
  | .workflowData op => op.Within a.owns
  | .key op => op.Within a
  | .startWorkflow workflow _ => a.owns workflow = true
  | .input workflow => a.owns workflow = true
  | .purgeWorkflow workflow => a.owns workflow = true
  | .state _ step => a.owns step.workflow = true
  | .lastOutcome _ step => a.owns step.workflow = true
  | .purgeSlots _ workflow => a.owns workflow = true
  | _ => True

/-- The request names only workflows, step instances and keys of a share. -/
def Op.Within (a : Share) : Op V → Prop
  | .plain op => op.Within a
  | .publish _ _ => True
  | .resolve key _ => a.names key
  | .execute _ _ step _ => a.owns step.workflow = true
  | .apply _ r => a.owns r.step.workflow = true

/-- The request is about the stores, the inputs or the keys. -/
def PlainOp.aboutHoldings : PlainOp V → Bool
  | .stepData _ => true
  | .workflowData _ => true
  | .key _ => true
  | .startWorkflow _ _ => true
  | .input _ => true
  | .purgeWorkflow _ => true
  | _ => false

/-- An answer with what is told of times. -/
def PlainOp.told (f : Instant → Instant) : (op : PlainOp V) → op.Answer → op.Answer
  | .key op, answer => op.told f answer
  | .now, answer => f answer
  | .stepData _, answer => answer
  | .workflowData _, answer => answer
  | .bus _, answer => answer
  | .startWorkflow _ _, answer => answer
  | .input _, answer => answer
  | .purgeWorkflow _, answer => answer
  | .config, answer => answer
  | .sleep _, answer => answer
  | .log _, answer => answer
  | .openExecutor, answer => answer
  | .releaseExecutor _, answer => answer
  | .attach _, answer => answer
  | .detach, answer => answer
  | .state _ _, answer => answer
  | .lastOutcome _ _, answer => answer
  | .purgeSlots _ _, answer => answer

/-- If everything is told of times, an answer is told as it is. -/
theorem PlainOp.told_id (op : PlainOp V) (answer : op.Answer) : op.told id answer = answer := by
  cases op with
  | key op => exact op.told_id answer
  | _ => rfl

/-- Two worlds have the same stores, inputs and keys. -/
structure World.SameHoldings (w w' : World V) : Prop where
  stepData : w'.stepData = w.stepData
  workflowData : w'.workflowData = w.workflowData
  inputs : w'.inputs = w.inputs
  keys : w'.keys = w.keys

/-- A request that is about something else leaves the stores, the inputs and the keys alone. -/
theorem World.sameHoldings_run {op : PlainOp V} (other : op.aboutHoldings = false) (w : World V) : w.SameHoldings (op.run w).2 := by
  cases op with
  | detach =>
    simp only [PlainOp.run]
    split <;> exact ⟨rfl, rfl, rfl, rfl⟩
  | stepData _ => cases other
  | workflowData _ => cases other
  | key _ => cases other
  | startWorkflow _ _ => cases other
  | input _ => cases other
  | purgeWorkflow _ => cases other
  | _ => exact ⟨rfl, rfl, rfl, rfl⟩

/-- The keys after a request to the registry, which may take a moment. -/
theorem PlainOp.keys_run_key (op : KeyOp) (w : World V) :
    (PlainOp.run w (.key op)).2 =
      if (op.run w.keys w.clock).2.2 then ({ w with keys := (op.run w.keys w.clock).2.1 } : World V).wait World.bindingTime
      else { w with keys := (op.run w.keys w.clock).2.1 } := rfl

namespace Share

/-- Two worlds agree on a share: its workflows have the same data, inputs and keys in both. -/
structure Agree (a : Share) (w w' : World V) : Prop where
  stepData : w.stepData.shown a.owns = w'.stepData.shown a.owns
  workflowData : w.workflowData.shown a.owns = w'.workflowData.shown a.owns
  inputs : (⟨w.inputs⟩ : Store WorkflowId).shown a.owns = (⟨w'.inputs⟩ : Store WorkflowId).shown a.owns
  keys : a.KeysAgree w.keys w'.keys

namespace Agree

variable {a : Share} {w w' v v' : World V} {workflow : WorkflowId} {step : StepId}

/-- Agreement goes both ways. -/
theorem symm (h : a.Agree w w') : a.Agree w' w := ⟨h.stepData.symm, h.workflowData.symm, h.inputs.symm, h.keys.symm⟩

/-- Only the stores, the inputs and the keys count. -/
theorem congr (h : a.Agree w w') (same : w.SameHoldings v) (same' : w'.SameHoldings v') : a.Agree v v' where
  stepData := by rw [same.stepData, same'.stepData, h.stepData]
  workflowData := by rw [same.workflowData, same'.workflowData, h.workflowData]
  inputs := by rw [same.inputs, same'.inputs, h.inputs]
  keys := by
    rw [same.keys, same'.keys]
    exact h.keys

/-- A workflow of the share has its input in both worlds. -/
theorem input_eq (h : a.Agree w w') (own : a.owns workflow = true) : w.inputs.get? workflow = w'.inputs.get? workflow :=
  Store.get?_eq h.inputs own

/-- A workflow of the share has as many entries in both worlds. -/
theorem ownedCount_eq (h : a.Agree w w') (own : a.owns workflow = true) : w.ownedCount workflow = w'.ownedCount workflow := by
  rw [World.ownedCount, World.ownedCount, Store.size_sub_purge_eq h.stepData own, Store.size_sub_purge_eq h.workflowData own,
    h.keys.length_ownedBy_eq own, Table.contains_eq_isSome, Table.contains_eq_isSome, h.input_eq own]

/-- A workflow is purged in both worlds. -/
theorem purgeWorkflow (h : a.Agree w w') (workflow : WorkflowId) : a.Agree (w.purgeWorkflow workflow) (w'.purgeWorkflow workflow) where
  stepData := (Store.shown_filter _ _).trans (h.stepData ▸ (Store.shown_filter _ _).symm)
  workflowData := (Store.shown_filter _ _).trans (h.workflowData ▸ (Store.shown_filter _ _).symm)
  inputs := (Store.shown_filter (⟨w.inputs⟩ : Store WorkflowId) _).trans
    (h.inputs ▸ (Store.shown_filter (⟨w'.inputs⟩ : Store WorkflowId) _).symm)
  keys := h.keys.purge workflow

/-- A workflow outside of the share is purged in one world. -/
theorem purgeWorkflow_other (h : a.Agree w w') (other : a.owns workflow = false) : a.Agree (w.purgeWorkflow workflow) w' where
  stepData := (Store.shown_filter_other (not_owner_of_owns other)).trans h.stepData
  workflowData := (Store.shown_filter_other (not_owner_of_owns other)).trans h.workflowData
  inputs := (Store.shown_filter_other (s := (⟨w.inputs⟩ : Store WorkflowId)) (not_owner_of_owns other)).trans h.inputs
  keys := h.keys.purge_other other

/-- A step instance gets data in both worlds. -/
theorem seed (h : a.Agree w w') (step : StepId) (defaults : Data) :
    a.Agree { w with stepData := w.stepData.seed step defaults } { w' with stepData := w'.stepData.seed step defaults } := by
  refine ⟨?_, h.workflowData, h.inputs, h.keys⟩
  cases own : a.owns step.workflow with
  | true => exact Store.shown_seed h.stepData own defaults
  | false => exact (Store.shown_seed_other own defaults).trans (h.stepData.trans (Store.shown_seed_other own defaults).symm)

/-- Whether a step may suspend on a key of the share is the same in both worlds, if what is deferred for it is. -/
theorem checkSuspension_eq (h : a.Agree w w') {seat : Seat} {key : AsyncKey} (names : a.names key)
    (slot : w'.slots.at? seat = w.slots.at? seat) : Machine.checkSuspension w' seat key = Machine.checkSuspension w seat key := by
  have heq := h.keys.get?_eq names
  rw [Machine.checkSuspension, Machine.checkSuspension, slot, KeyRegistry.status, KeyRegistry.status]
  cases hget : w.keys.keys.get? key with
  | none =>
    rw [hget, Option.map_none, eq_comm, Option.map_eq_none_iff] at heq
    rw [heq]
  | some record =>
    rw [hget, Option.map_some, eq_comm, Option.map_eq_some_iff] at heq
    obtain ⟨record', hget', htold⟩ := heq
    have hstep : record'.step = record.step := (congrArg KeyRecord.step htold :)
    have hstate : record'.state = record.state := (congrArg KeyRecord.state htold :)
    simp only [hget', hstep, hstate]

/-- The outcome of a run is the same in both worlds, if the key that it waits for is one of the share. -/
theorem outcomeOf_eq (h : a.Agree w w') {seat : Seat} {result : Except StepError Completion}
    (names : ∀ key, result = .ok (.suspended key) → a.names key) (slot : w'.slots.at? seat = w.slots.at? seat) :
    Machine.outcomeOf w' seat result = Machine.outcomeOf w seat result := by
  cases result with
  | error e => rfl
  | ok completion =>
    cases completion with
    | complete => rfl
    | suspended key => exact h.checkSuspension_eq (names key rfl) slot

/-- A request within the share is answered alike. -/
theorem answer (h : a.Agree w w') {op : PlainOp V} (about : op.aboutHoldings = true) (within : op.Within a)
    (clock : a.tells w.clock = a.tells w'.clock) : op.told a.tells (op.run w).1 = op.told a.tells (op.run w').1 := by
  cases op with
  | stepData op => exact (StoreOp.run_agree h.stepData within).1
  | workflowData op => exact (StoreOp.run_agree h.workflowData within).1
  | key op => exact (h.keys.run within clock).1
  | startWorkflow workflow input => rfl
  | input workflow =>
    show w.input workflow = w'.input workflow
    rw [World.input, World.input, h.input_eq within]
  | purgeWorkflow workflow => exact h.ownedCount_eq within
  | _ => cases about

/-- A request within the share, made in both worlds, leaves them to agree. -/
theorem run (h : a.Agree w w') {op : PlainOp V} (within : op.Within a) (clock : a.tells w.clock = a.tells w'.clock) :
    a.Agree (op.run w).2 (op.run w').2 := by
  cases about : op.aboutHoldings with
  | false => exact h.congr (World.sameHoldings_run about w) (World.sameHoldings_run about w')
  | true =>
    cases op with
    | stepData op => exact ⟨(StoreOp.run_agree h.stepData within).2, h.workflowData, h.inputs, h.keys⟩
    | workflowData op => exact ⟨h.stepData, (StoreOp.run_agree h.workflowData within).2, h.inputs, h.keys⟩
    | key op =>
      have hkeys := (h.keys.run within clock).2.1
      rw [PlainOp.keys_run_key, PlainOp.keys_run_key]
      split <;> split <;> exact ⟨h.stepData, h.workflowData, h.inputs, hkeys⟩
    | startWorkflow workflow input =>
      refine ⟨h.stepData, Store.shown_seed h.workflowData within _, ?_, h.keys⟩
      exact (Store.shown_put (s := (⟨w.inputs⟩ : Store WorkflowId)) within input).trans
        (h.inputs ▸ (Store.shown_put (s := (⟨w'.inputs⟩ : Store WorkflowId)) within input).symm)
    | input workflow => exact h
    | purgeWorkflow workflow => exact h.purgeWorkflow workflow
    | _ => cases about

/-- A request that names nothing of the share, made in one world, leaves the worlds to agree. -/
theorem run_other (h : a.Agree w w') {op : PlainOp V} (within : op.Within a.others) : a.Agree (op.run w).2 w' := by
  cases about : op.aboutHoldings with
  | false => exact h.congr (World.sameHoldings_run about w) ⟨rfl, rfl, rfl, rfl⟩
  | true =>
    cases op with
    | stepData op => exact ⟨(StoreOp.shown_run_other within).trans h.stepData, h.workflowData, h.inputs, h.keys⟩
    | workflowData op => exact ⟨h.stepData, (StoreOp.shown_run_other within).trans h.workflowData, h.inputs, h.keys⟩
    | key op =>
      have hkeys : a.KeysAgree (op.run w.keys w.clock).2.1 w'.keys := h.keys.run_other within
      rw [PlainOp.keys_run_key]
      split <;> exact ⟨h.stepData, h.workflowData, h.inputs, hkeys⟩
    | startWorkflow workflow input =>
      have other : a.owns workflow = false := Bool.not_eq_true' _ ▸ within
      exact ⟨h.stepData, (Store.shown_seed_other other _).trans h.workflowData,
        (Store.shown_put_other (s := (⟨w.inputs⟩ : Store WorkflowId)) other input).trans h.inputs, h.keys⟩
    | input workflow => exact h
    | purgeWorkflow workflow => exact h.purgeWorkflow_other (Bool.not_eq_true' _ ▸ within)
    | _ => cases about

end Agree

end Share

end StepEngine
