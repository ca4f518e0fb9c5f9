import StepEngine.Engine.Context
import StepEngine.Proofs.Calls
import StepEngine.Proofs.Activation
import StepEngine.Proofs.Lifetime

/-!
# Rejection: calls that fail change nothing

Some calls ask for what cannot be had: the data of a scope that is unknown, a token that was bound before, the resolution of a key that is
resolved, a step instance started twice, a resumption that nobody waits for. `World.Rejects` lists them, each with the answer that it
gets. Whoever makes such a call goes on with the answer in the next step of the machine, in the same world: nothing is written, no
handler, step or receiver runs in between, and nothing is deferred. In the same way an event that a lifecycle rejects leaves it as it was.
-/

namespace StepEngine

open Machine

/-! ## What is rejected -/

/-- A request for the data of a scope that has none, with the answer to it. -/
inductive Store.Rejects {κ : Type} [DecidableEq κ] [Scope κ] (s : Store κ) : (op : StoreOp κ) → op.Answer → Prop where
  | read {scope : κ} (unknown : s.contains scope = false) : Rejects s (.read scope) (.error (Scope.notFound scope))
  | snapshot {scope : κ} (unknown : s.contains scope = false) : Rejects s (.snapshot scope) (.error (Scope.notFound scope))
  | merge {scope : κ} (delta : Data) (unknown : s.contains scope = false) :
      Rejects s (.merge scope delta) (.error (Scope.notFound scope))

/-- A request that is rejected in a world, with the answer to it. -/
inductive World.RejectsRequest {V : Vocabulary} (w : World V) : (op : Op V) → op.Answer → Prop where
  | stepData {op : StoreOp StepId} {answer : op.Answer} (rejects : w.stepData.Rejects op answer) :
      RejectsRequest w (.plain (.stepData op)) answer
  | workflowData {op : StoreOp WorkflowId} {answer : op.Answer} (rejects : w.workflowData.Rejects op answer) :
      RejectsRequest w (.plain (.workflowData op)) answer
  /-- The workflow was not registered, or it was purged since. -/
  | input {workflow : WorkflowId} (unknown : w.inputs.contains workflow = false) :
      RejectsRequest w (.plain (.input workflow)) (Except.error (StoreError.workflowNotFound workflow))
  /-- The token was bound before, be it to a key that is forgotten. -/
  | submit {key : AsyncKey} (step : StepId) (used : key ∈ w.keys.used) :
      RejectsRequest w (.plain (.key (.submit step key))) (Except.error (KeyError.duplicate key))
  | unknownKey {key : AsyncKey} (outcome : AsyncOutcome) (unknown : w.keys.keys.contains key = false) :
      RejectsRequest w (.resolve key outcome) (Except.error (KeyError.unknown key))
  | resolvedKey {key : AsyncKey} {record : KeyRecord} (outcome : AsyncOutcome) (found : w.keys.keys.get? key = some record)
      (resolved : record.state ≠ .pending) :
      RejectsRequest w (.resolve key outcome) (Except.error (KeyError.alreadyResolved key record.state.text))
  /-- The executor lists a slot for the step instance, whatever its state. -/
  | started {executor : Nat} {step : StepId} {slot : Slot V.Definition} (definition : V.Definition) (background : Bool)
      (current : w.slots.current? executor step = some slot) :
      RejectsRequest w (.execute executor definition step background) (StepOutcome.failed (.alreadyStarted step))
  | unknownInstance {executor : Nat} {r : Resumption} (unknown : w.slots.current? executor r.step = none) :
      RejectsRequest w (.apply executor r) (none : Option StepOutcome)
  /-- The step instance is idle, and it is not suspended on the key. -/
  | unawaited {executor : Nat} {r : Resumption} {slot : Slot V.Definition} (current : w.slots.current? executor r.step = some slot)
      (idle : slot.running = false) (other : ¬ (slot.lifecycle.state = .suspended ∧ slot.lifecycle.awaiting = some r.key)) :
      RejectsRequest w (.apply executor r) (none : Option StepOutcome)

/-- A call that is rejected in a world, with the answer to it: a request, or what step code asks for in its context. -/
inductive World.Rejects {V : Vocabulary} (w : World V) : {α : Type} → Program V α → α → Prop where
  | request {op : Op V} {answer : op.Answer} (rejects : w.RejectsRequest op answer) : Rejects w (.ask op) answer
  | data {context : Context} (unknown : w.stepData.contains context.step = false) :
      Rejects w context.data (.error (.store (.stepNotFound context.step)))
  | update {context : Context} (delta : Data) (unknown : w.stepData.contains context.step = false) :
      Rejects w (context.update delta) (.error (.store (.stepNotFound context.step)))
  | workflowData {context : Context} (unknown : w.workflowData.contains context.workflow = false) :
      Rejects w context.workflowData (.error (.store (.workflowNotFound context.workflow)))
  | updateWorkflow {context : Context} (delta : Data) (unknown : w.workflowData.contains context.workflow = false) :
      Rejects w (context.updateWorkflow delta) (.error (.store (.workflowNotFound context.workflow)))
  | input {context : Context} (unknown : w.inputs.contains context.workflow = false) :
      Rejects w context.input (.error (.store (.workflowNotFound context.workflow)))
  | submitKey {context : Context} {key : AsyncKey} (used : key ∈ w.keys.used) :
      Rejects w (context.submitKey key) (.error (.key (.duplicate key)))

/-- An event is rejected by a lifecycle: it does not apply in the state, or it is a resumption with a key that is not awaited. -/
def Lifecycle.Rejects (l : Lifecycle) (event : StepEvent) : Prop :=
  (∃ e, l.state.next? event = .error e) ∨ ∃ key, event = .resume key ∧ l.awaiting ≠ some key

/-! ## What follows -/

/-- A store that rejects a request stays as it is. -/
theorem Store.Rejects.run_eq {κ : Type} [DecidableEq κ] [Scope κ] {s : Store κ} {op : StoreOp κ} {answer : op.Answer}
    (h : s.Rejects op answer) : op.run s = (answer, s) := by
  have absent : ∀ {scope : κ}, s.contains scope = false → s.entries.get? scope = none := by
    intro scope hunknown
    rw [Store.contains, Table.contains_eq_isSome] at hunknown
    simpa using hunknown
  cases h with
  | read unknown => simp only [StoreOp.run, Store.read, absent unknown]
  | snapshot unknown => simp only [StoreOp.run, Store.read, absent unknown]
  | merge delta unknown => simp only [StoreOp.run, Store.merge, absent unknown]

variable {V : Vocabulary} {ρ : Type} {c : Client V}

/-- A request that leaves the world as it is when it is answered at once, and is answered so. -/
theorem run_plain_eq {k : Kind} {sc : Scene V} (op : PlainOp V) {answer : op.Answer} (h : op.run sc.world = (answer, sc.world))
    (next : op.Answer → Program V (k.Result ρ)) (below : Stack V ρ (.code k)) :
    ∃ sc' : Scene V, Machine.run c sc (.call (.plain op) next) below = ⟨sc', .run (next answer) below⟩ ∧ sc'.world = sc.world ∧
      sc'.memory = sc.memory := by
  simp only [Machine.run, h]
  exact ⟨_, rfl, rfl, rfl⟩

/-- A resumption that nobody waits for is answered at once. -/
theorem applyResumption_unawaited {k : Kind} {sc : Scene V} {executor : Nat} {r : Resumption}
    (next : Option StepOutcome → Program V (k.Result ρ)) (below : Stack V ρ (.code k))
    (other : ∀ slot, sc.world.slots.current? executor r.step = some slot → slot.running = false ∧ ¬ slot.Awaits r.key) :
    ∃ sc' : Scene V, applyResumption c sc executor r next below = ⟨sc', .run (next none) below⟩ ∧ sc'.world = sc.world ∧
      sc'.memory = sc.memory := by
  simp only [applyResumption]
  split
  · exact ⟨_, rfl, rfl, rfl⟩
  · rename_i slot current
    obtain ⟨idle, hother⟩ := other slot current
    rw [idle, if_neg Bool.false_ne_true]
    split
    · exact ⟨_, rfl, rfl, rfl⟩
    · rename_i t lifecycle hadvance
      exact absurd (Lifecycle.advance_resume_eq_ok hadvance).1 hother

/-- A request that is rejected is answered with the next step, and nothing changes. -/
theorem World.RejectsRequest.step {k : Kind} {sc : Scene V} {op : Op V} {answer : op.Answer} (h : sc.world.RejectsRequest op answer)
    (next : op.Answer → Program V (k.Result ρ)) (below : Stack V ρ (.code k)) :
    ∃ sc' : Scene V, Machine.run c sc (.call op next) below = ⟨sc', .run (next answer) below⟩ ∧ sc'.world = sc.world ∧
      sc'.memory = sc.memory := by
  cases h with
  | stepData rejects => exact run_plain_eq (.stepData _) (by simp only [PlainOp.run, rejects.run_eq]) next below
  | workflowData rejects => exact run_plain_eq (.workflowData _) (by simp only [PlainOp.run, rejects.run_eq]) next below
  | @input workflow unknown =>
    have absent : sc.world.inputs.get? workflow = none := by simpa [Table.contains_eq_isSome] using unknown
    exact run_plain_eq (.input workflow) (by simp only [PlainOp.run, World.input, absent]) next below
  | @submit key step used =>
    have hused : sc.world.keys.isUsed key = true := KeyRegistry.mem_used_iff.1 used
    exact run_plain_eq (.key (.submit step key)) (by simp [PlainOp.run, KeyOp.run, KeyRegistry.submit, hused]) next below
  | @unknownKey key outcome unknown =>
    have absent : sc.world.keys.keys.get? key = none := by simpa [Table.contains_eq_isSome] using unknown
    have hresolve : sc.world.keys.resolve key outcome sc.world.clock = .error (.unknown key) := by
      simp only [KeyRegistry.resolve, absent]
    exact ⟨sc, resolve_eq_error next below hresolve, rfl, rfl⟩
  | @resolvedKey key record outcome found resolved =>
    have hresolve : sc.world.keys.resolve key outcome sc.world.clock = .error (.alreadyResolved key record.state.text) := by
      simp only [KeyRegistry.resolve, found, resolved, if_false]
    exact ⟨sc, resolve_eq_error next below hresolve, rfl, rfl⟩
  | started definition background current => exact execute_refused definition background next below current
  | unknownInstance unknown =>
    refine applyResumption_unawaited next below fun slot current => ?_
    cases unknown.symm.trans current
  | unawaited current idle other =>
    refine applyResumption_unawaited next below fun slot hslot => ?_
    cases current.symm.trans hslot
    refine ⟨idle, fun hawaits => other ?_⟩
    rw [hawaits]
    exact ⟨rfl, rfl⟩

/-- A call that is rejected begins with a request that is rejected, and the caller goes on with the answer. -/
theorem World.Rejects.exists_request {w : World V} {α τ : Type} {call : Program V α} {answer : α} (h : w.Rejects call answer)
    (next : α → Program V τ) : ∃ (op : Op V) (reply : op.Answer) (rest : op.Answer → Program V τ), w.RejectsRequest op reply ∧
      call.bind next = .call op rest ∧ rest reply = next answer := by
  cases h with
  | request rejects => exact ⟨_, _, _, rejects, rfl, rfl⟩
  | data unknown => exact ⟨_, _, _, .stepData (.read unknown), rfl, rfl⟩
  | update delta unknown => exact ⟨_, _, _, .stepData (.merge delta unknown), rfl, rfl⟩
  | workflowData unknown => exact ⟨_, _, _, .workflowData (.read unknown), rfl, rfl⟩
  | updateWorkflow delta unknown => exact ⟨_, _, _, .workflowData (.merge delta unknown), rfl, rfl⟩
  | input unknown => exact ⟨_, _, _, .input unknown, rfl, rfl⟩
  | submitKey used => exact ⟨_, _, _, .submit _ used, rfl, rfl⟩

/-- The events that a lifecycle rejects are those that it refuses when they are offered, and then it stays as it was. -/
theorem Lifecycle.rejects_iff (l : Lifecycle) (event : StepEvent) : l.Rejects event ↔ ∃ e, l.offer event = (.error e, l) := by
  cases hnext : l.state.next? event with
  | error e => simp [Rejects, offer, advance, hnext]
  | ok target =>
    cases event with
    | resume key =>
      cases hawaiting : l.awaiting with
      | none => simp [Rejects, offer, advance, hnext, keyMismatch?, hawaiting]
      | some expected =>
        by_cases hkey : expected = key <;> simp [Rejects, offer, advance, hnext, keyMismatch?, hawaiting, hkey]
    | _ => simp [Rejects, offer, advance, hnext, keyMismatch?]

namespace Run

/-- The code that makes a call in a state goes on with a program in the next one, and the call has changed nothing. Since it is the caller
that runs next, no handler, no step and no receiver has run in between. -/
structure Ignores (run : Run c ρ) (n : Nat) {k : Kind} (program : Program V (k.Result ρ)) (below : Stack V ρ (.code k)) : Prop where
  returns : run.Returns n (n + 1) below program
  world : (run (n + 1)).scene.world = (run n).scene.world
  memory : (run (n + 1)).scene.memory = (run n).scene.memory

/-- Failed calls change nothing: whenever code of any kind makes a call that is rejected, it goes on with the answer in the same world, and
a lifecycle that rejects an event stays as it was. -/
theorem failed_calls_change_nothing (run : Run c ρ) :
    (∀ {n : Nat} {k : Kind} {α : Type} {call : Program V α} {answer : α} {next : α → Program V (k.Result ρ)}
      {below : Stack V ρ (.code k)}, (run n).control = .run (call.bind next) below → (run n).scene.world.Rejects call answer →
        run.Ignores n (next answer) below) ∧
      ∀ (l : Lifecycle) (event : StepEvent), l.Rejects event → ∃ e, l.offer event = (.error e, l) := by
  refine ⟨?_, fun l event h => (l.rejects_iff event).1 h⟩
  intro n k α call answer next below hcontrol hrejects
  obtain ⟨op, reply, rest, hrequest, hbind, hrest⟩ := hrejects.exists_request next
  rw [hbind] at hcontrol
  obtain ⟨sc, hstep, hworld, hmemory⟩ := hrequest.step (c := c) rest below
  have hnext : run (n + 1) = ⟨sc, .run (next answer) below⟩ := by rw [run.next_of_call hcontrol, hstep, hrest]
  refine ⟨⟨Nat.lt_succ_self n, fun i hni hin => absurd hin (by omega), ?_⟩, ?_, ?_⟩
  · rw [hnext]
  · rw [hnext]
    exact hworld
  · rw [hnext]
    exact hmemory

end Run

/-! ## A sample -/

namespace Sample

/-- A step instance that is never started. -/
def stranger : StepId := ⟨⟨.ofNat 2⟩, "sample", 0⟩

/-- The step that submits its key twice, executes itself while it runs and writes to the data of a stranger, and awaits its key then. -/
def clumsy : Client vocabulary :=
  client
    ((Program.ask (submit left)).bind fun _ => (Program.ask (submit left)).bind fun _ =>
      (Program.ask (.execute 0 () lone false)).bind fun _ => (Context.update ⟨stranger⟩ Dict.empty).bind fun _ =>
        .done (.ok (.suspended left)))
    fun _ => .done (.ok .complete)

/-- The run that executes this step, applies a resumption with another key to it and resolves a key that nobody has bound. -/
def blunders : Run clumsy StepOutcome :=
  execution clumsy fun outcome =>
    (Program.ask (.apply 0 ⟨right, lone, .expired⟩)).bind fun _ => (Program.ask (.resolve right .expired)).bind fun _ => .done outcome

/-- In a state a program makes a call that is rejected with an answer, and nothing changes. -/
def Fails (n : Nat) {α : Type} (call : Program vocabulary α) (answer : α) : Prop :=
  ∃ (k : Kind) (next : α → Program vocabulary (k.Result StepOutcome)) (below : Stack vocabulary StepOutcome (.code k)),
    (blunders n).control = .run (call.bind next) below ∧ (blunders n).scene.world.Rejects call answer ∧
      blunders.Ignores n (next answer) below

/-- Calls of a running step and of the session that executed it change nothing, and neither does a resumption with another key. -/
theorem blunders_change_nothing :
    Fails 5 (.ask (submit left)) (.error (.duplicate left)) ∧
      Fails 6 (.ask (.execute 0 () lone false)) (.failed (.alreadyStarted lone)) ∧
      Fails 7 (Context.update ⟨stranger⟩ Dict.empty) (.error (.store (.stepNotFound stranger))) ∧
      Fails 13 (.ask (.apply 0 ⟨right, lone, .expired⟩)) none ∧
      Fails 14 (.ask (.resolve right .expired)) (.error (.unknown right)) ∧
      (Lifecycle.mk .suspended (some left)).Rejects (.resume right) ∧
      ∃ e, (Lifecycle.mk .suspended (some left)).offer (.resume right) = (.error e, ⟨.suspended, some left⟩) := by
  obtain ⟨calls, events⟩ := blunders.failed_calls_change_nothing
  have fails : ∀ {n : Nat} {k : Kind} {α : Type} {call : Program vocabulary α} {answer : α}
      {next : α → Program vocabulary (k.Result StepOutcome)} {below : Stack vocabulary StepOutcome (.code k)},
      (blunders n).control = .run (call.bind next) below → (blunders n).scene.world.Rejects call answer → Fails n call answer :=
    fun hcontrol hrejects => ⟨_, _, _, hcontrol, hrejects, calls hcontrol hrejects⟩
  have used : (blunders 5).scene.world.Rejects (.ask (submit left)) (.error (.duplicate left)) :=
    .request (.submit lone (by decide))
  have started : (blunders 6).scene.world.Rejects (.ask (.execute 0 () lone false)) (.failed (.alreadyStarted lone)) :=
    .request (.started () false (rfl : (blunders 6).scene.world.slots.current? 0 lone =
      some ⟨loneSeat, (), Slot.startedLifecycle, true, [], none, true⟩))
  have absent : (blunders 7).scene.world.Rejects (Context.update ⟨stranger⟩ Dict.empty) (.error (.store (.stepNotFound stranger))) :=
    .update Dict.empty rfl
  have unawaited : (blunders 13).scene.world.Rejects (.ask (.apply 0 ⟨right, lone, .expired⟩)) none :=
    .request (.unawaited rfl rfl (by decide))
  have unknown : (blunders 14).scene.world.Rejects (.ask (.resolve right .expired)) (.error (.unknown right)) :=
    .request (.unknownKey .expired rfl)
  have mismatched : (Lifecycle.mk .suspended (some left)).Rejects (.resume right) := Or.inr ⟨right, rfl, by decide⟩
  exact ⟨fails rfl used, fails rfl started, fails rfl absent, fails rfl unawaited, fails rfl unknown, mismatched, events _ _ mismatched⟩

end Sample

end StepEngine
