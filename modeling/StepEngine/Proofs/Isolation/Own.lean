import StepEngine.Proofs.Calls
import StepEngine.Proofs.Isolation.Onlookers

/-!
# Own: the tenant's code runs alike in two engines

While code of the tenant runs, in two engines that the tenant cannot tell apart, the same happens in both: the same frames wait on the two
stacks (`Tenant.Stacks`), the same comes next (`Tenant.Controls`), and a step of both leads to where this is so again, after the handlers
of what is announced have looked on (`Tenant.States.step`).
-/

namespace StepEngine

open Machine

namespace Tenant

variable {V : Vocabulary} (T : Tenant V) {ρ : Type}

/-- What holds of the results of a kind of code. -/
def Holds (ρ : Type) : (k : Kind) → k.Result ρ → Prop
  | .step => T.Keeps
  | .main => fun _ => True
  | .handler => fun _ => True
  | .receiver => fun _ => True

/-- The stacks under the tenant's code in the two engines. -/
inductive Stacks : {e : Expects} → Stack V ρ e → Stack V ρ e → Prop where
  | bottom : Stacks .bottom .bottom
  | active {seat : Seat} {below below' : Stack V ρ .outcome} (own : T.owns seat.step.workflow = true) (h : Stacks below below') :
    Stacks (.active seat below) (.active seat below')
  | awaiting {k : Kind} {next next' : StepOutcome → Program V (k.Result ρ)} (background : Bool) {below below' : Stack V ρ (.code k)}
    (code : ∀ outcome, T.Alike (T.Holds ρ k) (next outcome) (next' outcome)) (h : Stacks below below') :
    Stacks (.awaiting next background below) (.awaiting next' background below')

/-- What happens next in the two engines. -/
inductive Controls : Control V ρ → Control V ρ → Prop where
  | run {k : Kind} {program program' : Program V (k.Result ρ)} {stack stack' : Stack V ρ (.code k)}
    (code : T.Alike (T.Holds ρ k) program program') (h : T.Stacks stack stack') : Controls (.run program stack) (.run program' stack')
  | proceed {seat : Seat} (own : T.owns seat.step.workflow = true) (phase : Phase) {stack stack' : Stack V ρ .outcome}
    (h : T.Stacks stack stack') : Controls (.proceed seat phase stack) (.proceed seat phase stack')
  | settle {seat : Seat} (own : T.owns seat.step.workflow = true) {result : Except StepError Completion} (kept : T.Keeps result)
    {stack stack' : Stack V ρ .outcome} (h : T.Stacks stack stack') : Controls (.settle seat result stack) (.settle seat result stack')
  | outcome (result : StepOutcome) {stack stack' : Stack V ρ .outcome} (h : T.Stacks stack stack') :
    Controls (.outcome result stack) (.outcome result stack')
  | unwind (message : String) {e : Expects} {stack stack' : Stack V ρ e} (h : T.Stacks stack stack') :
    Controls (.unwind message stack) (.unwind message stack')
  | finished (result : Except String ρ) : Controls (.finished result) (.finished result)

/-- Two engines in which the tenant's code runs alike. -/
structure States (a b : MachineState V ρ) : Prop where
  scenes : T.Scenes a.scene b.scene
  controls : T.Controls a.control b.control

/-- Two engines come to where the tenant's code runs alike. -/
def Meets (c : Client V) (a b : MachineState V ρ) : Prop := ∃ a' b', a.Reaches c a' ∧ b.Reaches c b' ∧ T.States a' b'

variable {T} {c : Client V} {sc sc' : Scene V}

/-- A failure waits for no key. -/
theorem keeps_error (e : StepError) : T.Keeps (.error e) := trivial

/-- The same activations are in progress. -/
theorem Stacks.seats_eq {e : Expects} {stack stack' : Stack V ρ e} (h : T.Stacks stack stack') : stack.seats = stack'.seats := by
  induction h with
  | bottom => rfl
  | active own _ ih => exact congrArg (_ :: ·) ih
  | awaiting background code _ ih => exact ih

/-- An executor can carry out resumptions in both engines or in neither. -/
theorem Scenes.serves_eq {k : Kind} {below below' : Stack V ρ (.code k)} (h : T.Scenes sc sc') (frames : T.Stacks below below') (id : Nat) :
    (sc.world.isHeld id || below.occupies id) = (sc'.world.isHeld id || below'.occupies id) := by
  rw [World.isHeld, World.isHeld, h.worlds.executors, Stack.occupies, Stack.occupies, frames.seats_eq]

/-- The engines run alike already. -/
theorem States.meets {a b : MachineState V ρ} (h : T.States a b) : T.Meets c a b := ⟨a, b, .refl a, .refl b, h⟩

/-- The tenant's slots run definitions of the tenant. -/
theorem Orderly.code_of_at? {w : World V} (h : T.Orderly w) {seat : Seat} (own : T.owns seat.step.workflow = true)
    {definition : V.Definition} (found : (w.slots.at? seat).map (·.definition) = some definition) : T.code definition := by
  obtain ⟨slot, hslot, rfl⟩ := Option.map_eq_some_iff.1 found
  obtain ⟨hmem, rfl⟩ := Slots.mem_of_at? hslot
  exact (h.hosts slot hmem).1 own

/-! ## Parts of the machine -/

section

variable (separates : T.Separates c) (h : T.Scenes sc sc')

include separates h

theorem meets_publish {k : Kind} (topic topic' : String) (payload payload' : Json) {next next' : PublishReport → Program V (k.Result ρ)}
    {below below' : Stack V ρ (.code k)} (code : ∀ report report', T.Alike (T.Holds ρ k) (next report) (next' report'))
    (frames : T.Stacks below below') :
    T.Meets c (publish c sc topic payload (.publishing next below)) (publish c sc' topic' payload' (.publishing next' below')) := by
  obtain ⟨now, report, hush, hreaches⟩ := next_of_publish separates h.worlds.orderly topic payload next below
  obtain ⟨now', report', hush', hreaches'⟩ := next_of_publish separates h.worlds.orderly' topic' payload' next' below'
  exact ⟨_, _, hreaches, hreaches', (h.hushed hush).hushed_right hush', .run (code report report') frames⟩

variable {below below' : Stack V ρ .outcome} (frames : T.Stacks below below')

include frames

theorem meets_announce {seat : Seat} (own : T.owns seat.step.workflow = true) (t : Transition) (phase : Phase) :
    T.Meets c (announce c sc seat t phase below) (announce c sc' seat t phase below') := by
  obtain ⟨now, hush, hreaches⟩ := proceed_of_announce separates h.worlds.orderly seat t phase below
  obtain ⟨now', hush', hreaches'⟩ := proceed_of_announce separates h.worlds.orderly' seat t phase below'
  exact ⟨_, _, hreaches, hreaches', (h.hushed hush).hushed_right hush', .proceed own phase frames⟩

theorem meets_settle {seat : Seat} (own : T.owns seat.step.workflow = true) {result : Except StepError Completion} (kept : T.Keeps result) :
    T.Meets c (settle c sc seat result below) (settle c sc' seat result below') := by
  have hnames : ∀ key, result = .ok (.suspended key) → T.share.names key := by
    rintro key rfl
    exact kept
  have houtcome := h.worlds.agree.outcomeOf_eq hnames (h.at?_eq own).symm
  simp only [settle, houtcome, ← h.at?_eq own]
  split
  · exact States.meets ⟨h, .proceed own _ frames⟩
  · split
    · exact meets_announce separates ((h.modifySlot seat Slot.keeps_rest).note _ _) frames own _ _
    · exact States.meets ⟨(h.modifySlot seat Slot.keeps_rest).note _ _, .proceed own _ frames⟩

theorem meets_drain {seat : Seat} (own : T.owns seat.step.workflow = true) (outcome : StepOutcome) :
    T.Meets c (drain c sc seat outcome below) (drain c sc' seat outcome below') := by
  simp only [drain, ← h.at?_eq own]
  split
  · exact States.meets ⟨h.note _ _, .outcome outcome frames⟩
  · split
    · exact States.meets ⟨((h.modifySlot seat Slot.keeps_rest).note _ _).note _ _, .outcome outcome frames⟩
    · exact meets_announce separates (((h.modifySlot seat Slot.keeps_rest).note _ _).note _ _) frames own _ _

theorem meets_proceed {seat : Seat} (own : T.owns seat.step.workflow = true) (phase : Phase) :
    T.Meets c (proceed c sc seat phase below) (proceed c sc' seat phase below') := by
  rw [proceed.eq_def, proceed.eq_def, ← h.at?_eq own]
  split
  · exact meets_drain separates h frames own _
  · rename_i definition found
    have code := h.worlds.orderly.code_of_at? own found
    rw [enter, enter]
    split
    · exact States.meets ⟨h, .unwind _ frames⟩
    · exact States.meets ⟨(h.note _ _).seed _ _, .run (separates.primary definition seat.step code own) (.active own frames)⟩
  · rename_i outcome definition found
    have code := h.worlds.orderly.code_of_at? own found
    rw [resume, resume]
    split
    · rename_i behaviour hbehaviour
      exact States.meets ⟨h, .run (separates.resume definition behaviour code hbehaviour seat.step outcome own) (.active own frames)⟩
    · exact States.meets ⟨h, .settle own (keeps_error _) frames⟩
  · exact States.meets ⟨h, .unwind _ frames⟩

end

section

variable (separates : T.Separates c) (h : T.Scenes sc sc') {k : Kind} {below below' : Stack V ρ (.code k)} (frames : T.Stacks below below')

include separates h frames

theorem meets_execute (executor : Nat) {definition : V.Definition} {step : StepId} (own : T.owns step.workflow = true)
    (code : T.code definition) (background : Bool) {next next' : StepOutcome → Program V (k.Result ρ)}
    (alike : ∀ outcome, T.Alike (T.Holds ρ k) (next outcome) (next' outcome)) :
    T.Meets c (execute c sc executor definition step background next below)
      (execute c sc' executor definition step background next' below') := by
  have hnoted := h.note [logTransition step Slot.startTransition] [logTransition step Slot.startTransition]
  have hseat : (sc.note [logTransition step Slot.startTransition]).world.slots.nextSeat executor step =
      (sc'.note [logTransition step Slot.startTransition]).world.slots.nextSeat executor step := Slots.nextSeat_eq hnoted.worlds.slots own
  simp only [execute, ← hnoted.current?_eq own, ← hseat]
  split
  · exact States.meets ⟨hnoted.note _ _, .run (alike _) frames⟩
  · exact meets_announce separates ((hnoted.start executor own code).note _ _) (.awaiting background alike frames) own _ _

theorem meets_applyResumption (executor : Nat) {r : Resumption} (own : T.owns r.step.workflow = true)
    {next next' : Option StepOutcome → Program V (k.Result ρ)} (alike : ∀ outcome, T.Alike (T.Holds ρ k) (next outcome) (next' outcome)) :
    T.Meets c (applyResumption c sc executor r next below) (applyResumption c sc' executor r next' below') := by
  simp only [applyResumption, ← h.current?_eq own]
  split
  · exact States.meets ⟨h.note _ _, .run (alike none) frames⟩
  · rename_i slot hslot
    obtain ⟨-, -, -, hstep⟩ := Slots.mem_of_current? hslot
    split
    · exact States.meets ⟨(h.modifySlot _ Slot.keeps_rest).note _ _, .run (alike none) frames⟩
    · split
      · exact States.meets ⟨h.note _ _, .run (alike none) frames⟩
      · exact meets_announce separates ((h.modifySlot _ Slot.keeps_rest).note _ _)
          (.awaiting false (fun outcome => alike (some outcome)) frames) (hstep ▸ own) _ _

theorem meets_resolve {key : AsyncKey} (named : T.tokens key) (outcome : AsyncOutcome)
    {next next' : Except KeyError Unit → Program V (k.Result ρ)} (alike : ∀ answer, T.Alike (T.Holds ρ k) (next answer) (next' answer)) :
    T.Meets c (resolve c sc key outcome next below) (resolve c sc' key outcome next' below') := by
  have hclock : T.share.tells sc.world.clock = T.share.tells sc'.world.clock := rfl
  rcases h.worlds.agree.keys.resolve named outcome hclock with ⟨e, hr, hr'⟩ | ⟨r, keys, keys', hr, hr', own, hkeys⟩
  · rw [resolve_eq_error next below hr, resolve_eq_error next' below' hr']
    exact States.meets ⟨h, .run (alike _) frames⟩
  · have hnoted := (h.keys hkeys).note [LogEvent.keyOperation "resolve" key.token (some r.step.text) outcome.keyState.text]
      [LogEvent.keyOperation "resolve" key.token (some r.step.text) outcome.keyState.text]
    simp only [resolve, hr, hr', ← hnoted.worlds.attachment, ← hnoted.serves_eq frames]
    split
    · exact States.meets ⟨hnoted.note _ _, .run (alike _) frames⟩
    · rename_i descriptor hreceiver
      exact absurd hreceiver (hnoted.worlds.orderly.receiverless descriptor)
    · split
      · exact meets_applyResumption separates hnoted frames _ own fun _ => alike _
      · exact States.meets ⟨hnoted.note _ _, .run (alike _) frames⟩

/-- A program of the tenant's takes a step. -/
theorem meets_run {p p' : Program V (k.Result ρ)} (code : T.Alike (T.Holds ρ k) p p') :
    T.Meets c (Machine.run c sc p below) (Machine.run c sc' p' below') := by
  cases code with
  | done kept =>
    cases frames with
    | bottom => exact States.meets ⟨h, .finished _⟩
    | active own frames => exact States.meets ⟨h, .settle own kept frames⟩
  | crash message => exact States.meets ⟨h, .unwind message frames⟩
  | own offBus permitted within alike =>
    have hnext := alike _ _ (h.worlds.answer offBus permitted within)
    exact States.meets ⟨⟨h.worlds.run permitted within, h.seen⟩, .run hnext frames⟩
  | bus permitted permitted' alike =>
    have hworlds := (h.worlds.run_other permitted trivial).symm.run_other permitted' trivial
    exact States.meets ⟨⟨hworlds.symm, h.seen⟩, .run (alike _ _) frames⟩
  | publish alike => exact meets_publish separates h _ _ _ _ alike frames
  | resolve named alike => exact meets_resolve separates h frames named _ alike
  | execute own code alike => exact meets_execute separates h frames _ own code _ alike
  | apply own alike => exact meets_applyResumption separates h frames _ own alike
  | look alike => exact States.meets ⟨h, .run (alike _ _ h.seen) frames⟩
  | remember seen alike => exact States.meets ⟨⟨h.worlds, seen⟩, .run alike frames⟩

end

theorem meets_unwind (h : T.Scenes sc sc') (message : String) {e : Expects} {stack stack' : Stack V ρ e} (frames : T.Stacks stack stack') :
    T.Meets c (unwind c sc message stack) (unwind c sc' message stack') := by
  cases frames with
  | bottom => exact States.meets ⟨h, .finished _⟩
  | active own frames => exact States.meets ⟨h.note _ _, .settle own (keeps_error _) frames⟩
  | awaiting background alike frames =>
    rw [unwind, unwind]
    split
    · exact States.meets ⟨h, .run (alike _) frames⟩
    · exact States.meets ⟨h, .unwind message frames⟩

/-- A step of two engines in which the tenant's code runs alike leads to where it does again. -/
theorem States.step (separates : T.Separates c) {a b : MachineState V ρ} (h : T.States a b) : T.Meets c (a.step c) (b.step c) := by
  obtain ⟨sc, control⟩ := a
  obtain ⟨sc', control'⟩ := b
  obtain ⟨scenes, controls⟩ := h
  cases controls with
  | run code frames => exact meets_run separates scenes frames code
  | proceed own phase frames => exact meets_proceed separates scenes frames own phase
  | settle own kept frames => exact meets_settle separates scenes frames own kept
  | outcome result frames =>
    cases frames with
    | awaiting background alike frames => exact States.meets ⟨scenes, .run (alike result) frames⟩
  | unwind message frames => exact meets_unwind scenes message frames
  | finished result => exact States.meets ⟨scenes, .finished result⟩

end Tenant

end StepEngine
