import StepEngine.Proofs.Activation
import StepEngine.Proofs.Calls
import StepEngine.Proofs.Ledger.Deferred
import StepEngine.Proofs.Tokens

/-!
# History: the registry changes by calls only

Whatever runs on the engine, the registry of its keys changes only when a program makes a call on it, and exactly as the call says. So in
every state of every run the registry is one that was new and has seen a sequence of calls, and all that holds of such registries holds
of it.
-/

namespace StepEngine

open Machine

variable {V : Vocabulary} {ρ : Type} {c : Client V}

/-- The call on the registry that a request makes, if it makes one. -/
def Op.keyCall? : Op V → Option KeyCall
  | .plain (.key op) => some (.ask op)
  | .plain (.purgeWorkflow workflow) => some (.ask (.purge workflow))
  | .resolve key outcome => some (.resolve key outcome)
  | _ => none

/-- The call on the registry that a program makes with the next step, if it makes one. -/
def MachineState.keyCall? (state : MachineState V ρ) : Option KeyCall := state.request?.bind Op.keyCall?

/-- The registry after a call, if there is one. -/
def KeyRegistry.afterCall? (r : KeyRegistry) (now : Instant) (call : Option KeyCall) : KeyRegistry :=
  call.elim r fun call => call.after r now

/-- A call that resolves a key is the request to resolve it. -/
theorem MachineState.request_of_resolve {state : MachineState V ρ} {key : AsyncKey} {outcome : AsyncOutcome}
    (h : state.keyCall? = some (.resolve key outcome)) : state.request? = some (.resolve key outcome) := by
  obtain ⟨op, hrequest, hcall⟩ := Option.bind_eq_some_iff.1 h
  rw [Op.keyCall?.eq_def] at hcall
  split at hcall <;> cases hcall
  exact hrequest

/-- A call that purges a workflow is a request that drops the keys of the workflow. -/
theorem MachineState.request_of_purge {state : MachineState V ρ} {workflow : WorkflowId}
    (h : state.keyCall? = some (.ask (.purge workflow))) : ∃ op, state.request? = some op ∧ op.Forgets workflow := by
  obtain ⟨op, hrequest, hcall⟩ := Option.bind_eq_some_iff.1 h
  refine ⟨op, hrequest, ?_⟩
  rw [Op.keyCall?.eq_def] at hcall
  split at hcall <;> cases hcall <;> rfl

/-! ## What requests do to the keys -/

/-- A request that is answered at once does to the keys what its call does. -/
theorem keys_plain (w : World V) (op : PlainOp V) : (op.run w).2.keys = w.keys.afterCall? w.clock (Op.plain op).keyCall? := by
  cases op with
  | key op =>
    simp only [PlainOp.run]
    split <;> rfl
  | detach =>
    simp only [PlainOp.run]
    split <;> rfl
  | _ => rfl

/-- Moves without a request to the registry leave the keys alone. -/
theorem Ledger.Move.keys_eq {l l' : Ledger V} {request : Option (Op V)} (m : Move request l l')
    (plain : ∀ op, request ≠ some (.plain op)) (resolve : ∀ key outcome, request ≠ some (.resolve key outcome)) : l'.keys = l.keys := by
  cases m with
  | bind step now fresh => exact absurd rfl (plain _)
  | forget forgets => exact absurd rfl (plain _)
  | apply handed => exact handed.keys_eq
  | resolve resolved attached handed => exact absurd rfl (resolve _ _)
  | undelivered resolved unserved => exact absurd rfl (resolve _ _)
  | _ => rfl

/-- Applying a resumption leaves the keys alone. -/
theorem keys_applyResumption {k : Kind} {sc : Scene V} {executor : Nat} {r : Resumption}
    (next : Option StepOutcome → Program V (k.Result ρ)) (below : Stack V ρ (.code k)) :
    (applyResumption c sc executor r next below).scene.world.keys = sc.world.keys :=
  (handed_applyResumption (c := c) sc executor r next below).keys_eq

/-- Resolving a key does to the keys what the call does. -/
theorem keys_resolve {k : Kind} {sc : Scene V} {key : AsyncKey} {outcome : AsyncOutcome}
    (next : Except KeyError Unit → Program V (k.Result ρ)) (below : Stack V ρ (.code k)) :
    (resolve c sc key outcome next below).scene.world.keys = (KeyCall.resolve key outcome).after sc.world.keys sc.world.clock := by
  cases hresolve : sc.world.keys.resolve key outcome sc.world.clock with
  | error e =>
    rw [resolve_eq_error next below hresolve]
    simp only [KeyCall.after, hresolve]
  | ok answer =>
    obtain ⟨r, keys⟩ := answer
    have hafter : (KeyCall.resolve key outcome).after sc.world.keys sc.world.clock = keys := by simp only [KeyCall.after, hresolve]
    rw [hafter]
    have handsOver := handsOver_resolve (c := c) next below hresolve
    generalize Machine.resolve c sc key outcome next below = state at handsOver
    cases handsOver with
    | receiver attached world => rw [world]
    | executor attached served world => rw [keys_applyResumption, world]
    | nobody unserved world => rw [world]

namespace Run

variable (run : Run c ρ)

/-- The registry after a step: the call that a program makes with the step has changed it, and nothing else has. -/
theorem keys_succ (n : Nat) :
    (run (n + 1)).ledger.keys = (run n).ledger.keys.afterCall? (run n).scene.world.clock (run n).keyCall? := by
  rw [MachineState.keyCall?]
  cases hrequest : (run n).request? with
  | none => exact (run.move n).keys_eq (by simp [hrequest]) (by simp [hrequest])
  | some op =>
    obtain ⟨k, next, below, hcontrol⟩ := MachineState.control_of_request? hrequest
    have hnext := run.next_of_call hcontrol
    cases op with
    | plain op =>
      rw [hnext]
      exact keys_plain _ op
    | resolve key outcome =>
      rw [hnext]
      exact keys_resolve next below
    | _ => exact (run.move n).keys_eq (by simp [hrequest]) (by simp [hrequest])

/-- In every state of a run, the registry is one that was new and has seen a sequence of calls. -/
theorem registry_has_history (n : Nat) : ∃ calls, (run n).ledger.keys = .ofCalls calls := by
  induction n with
  | zero =>
    obtain ⟨config, logsFaults, memory, program, hfirst⟩ := run.first
    rw [hfirst]
    exact ⟨[], rfl⟩
  | succ n ih =>
    obtain ⟨calls, hkeys⟩ := ih
    rw [run.keys_succ n, hkeys]
    cases (run n).keyCall? with
    | none => exact ⟨calls, rfl⟩
    | some call =>
      refine ⟨calls ++ [((run n).scene.world.clock, call)], ?_⟩
      rw [KeyRegistry.ofCalls, KeyRegistry.ofCalls, KeyRegistry.afterCalls, KeyRegistry.afterCalls, List.foldl_append]
      rfl

end Run

end StepEngine
