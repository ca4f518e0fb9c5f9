import StepEngine.Proofs.Calls
import StepEngine.Proofs.Isolation.Onlookers

/-!
# Others: code of others leaves the tenant what it has

While code of others runs in an engine, nothing changes in it for the tenant: the engine stays one that the tenant cannot tell apart from a
second one, in which nothing happens meanwhile (`Tenant.OthersRun`). This is so because whatever the code of others asks for, and what
follows from it, is about step instances and keys of others: a resolved key of theirs resumes a step instance of theirs, which runs code of
theirs (`Tenant.OthersRun.step`).
-/

namespace StepEngine

open Machine

namespace Tenant

variable {V : Vocabulary} (T : Tenant V) {ρ : Type}

/-- A stack of activations of others. -/
inductive OthersStack (seen : T.Seen) : {e : Expects} → Stack V ρ e → Prop where
  | bottom : OthersStack seen .bottom
  | active {seat : Seat} {below : Stack V ρ .outcome} (other : T.owns seat.step.workflow = false) (h : OthersStack seen below) :
    OthersStack seen (.active seat below)
  | awaiting {k : Kind} {next : StepOutcome → Program V (k.Result ρ)} (background : Bool) {below : Stack V ρ (.code k)}
    (code : ∀ outcome, T.Confined T.Elsewhere seen (next outcome)) (h : OthersStack seen below) :
    OthersStack seen (.awaiting next background below)

/-- What happens next is a matter of others. -/
inductive OthersControl (seen : T.Seen) : Control V ρ → Prop where
  | run {k : Kind} {program : Program V (k.Result ρ)} {stack : Stack V ρ (.code k)} (code : T.Confined T.Elsewhere seen program)
    (h : T.OthersStack seen stack) : OthersControl seen (.run program stack)
  | proceed {seat : Seat} (other : T.owns seat.step.workflow = false) (phase : Phase) {stack : Stack V ρ .outcome}
    (h : T.OthersStack seen stack) : OthersControl seen (.proceed seat phase stack)
  | settle {seat : Seat} (other : T.owns seat.step.workflow = false) (result : Except StepError Completion) {stack : Stack V ρ .outcome}
    (h : T.OthersStack seen stack) : OthersControl seen (.settle seat result stack)
  | outcome (result : StepOutcome) {stack : Stack V ρ .outcome} (h : T.OthersStack seen stack) : OthersControl seen (.outcome result stack)
  | unwind (message : String) {e : Expects} {stack : Stack V ρ e} (h : T.OthersStack seen stack) :
    OthersControl seen (.unwind message stack)
  | finished (result : Except String ρ) : OthersControl seen (.finished result)

/-- An engine in which code of others runs, and which the tenant cannot tell apart from a second one. -/
structure OthersRun (sc' : Scene V) (a : MachineState V ρ) : Prop where
  scenes : T.Scenes a.scene sc'
  control : T.OthersControl (T.sees sc'.memory) a.control

/-- The engine comes to where code of others runs. -/
def OthersMeet (c : Client V) (sc' : Scene V) (a : MachineState V ρ) : Prop := ∃ a', a.Reaches c a' ∧ T.OthersRun sc' a'

variable {T} {c : Client V} {sc sc' : Scene V}

/-- Code of others runs already. -/
theorem OthersRun.meet {a : MachineState V ρ} (h : T.OthersRun sc' a) : T.OthersMeet c sc' a := ⟨a, .refl a, h⟩

/-- The slots of others run definitions of others. -/
theorem Orderly.foreign_of_at? {w : World V} (h : T.Orderly w) {seat : Seat} (other : T.owns seat.step.workflow = false)
    {definition : V.Definition} (found : (w.slots.at? seat).map (·.definition) = some definition) : T.foreign definition := by
  obtain ⟨slot, hslot, rfl⟩ := Option.map_eq_some_iff.1 found
  obtain ⟨hmem, rfl⟩ := Slots.mem_of_at? hslot
  exact (h.hosts slot hmem).2 other

/-! ## Parts of the machine -/

section

variable (separates : T.Separates c) (h : T.Scenes sc sc')

include separates h

theorem othersMeet_publish {k : Kind} (topic : String) (payload : Json) {next : PublishReport → Program V (k.Result ρ)}
    {below : Stack V ρ (.code k)} (code : ∀ report, T.Confined T.Elsewhere (T.sees sc'.memory) (next report))
    (frames : T.OthersStack (T.sees sc'.memory) below) : T.OthersMeet c sc' (publish c sc topic payload (.publishing next below)) := by
  obtain ⟨now, report, hush, hreaches⟩ := next_of_publish separates h.worlds.orderly topic payload next below
  exact ⟨_, hreaches, h.hushed hush, .run (code report) frames⟩

variable {below : Stack V ρ .outcome} (frames : T.OthersStack (T.sees sc'.memory) below)

include frames

theorem othersMeet_announce {seat : Seat} (other : T.owns seat.step.workflow = false) (t : Transition) (phase : Phase) :
    T.OthersMeet c sc' (announce c sc seat t phase below) := by
  obtain ⟨now, hush, hreaches⟩ := proceed_of_announce separates h.worlds.orderly seat t phase below
  exact ⟨_, hreaches, h.hushed hush, .proceed other phase frames⟩

theorem othersMeet_settle {seat : Seat} (other : T.owns seat.step.workflow = false) (result : Except StepError Completion) :
    T.OthersMeet c sc' (settle c sc seat result below) := by
  simp only [settle]
  split
  · exact OthersRun.meet ⟨h, .proceed other _ frames⟩
  · split
    · exact othersMeet_announce separates ((h.modifySlot_other Slot.keeps_rest other).note_left _) frames other _ _
    · exact OthersRun.meet ⟨(h.modifySlot_other Slot.keeps_rest other).note_left _, .proceed other _ frames⟩

theorem othersMeet_drain {seat : Seat} (other : T.owns seat.step.workflow = false) (outcome : StepOutcome) :
    T.OthersMeet c sc' (drain c sc seat outcome below) := by
  simp only [drain]
  split
  · exact OthersRun.meet ⟨h.note_left _, .outcome outcome frames⟩
  · split
    · exact OthersRun.meet ⟨((h.modifySlot_other Slot.keeps_rest other).note_left _).note_left _, .outcome outcome frames⟩
    · exact othersMeet_announce separates (((h.modifySlot_other Slot.keeps_rest other).note_left _).note_left _) frames other _ _

theorem othersMeet_proceed {seat : Seat} (other : T.owns seat.step.workflow = false) (phase : Phase) :
    T.OthersMeet c sc' (proceed c sc seat phase below) := by
  rw [proceed.eq_def]
  split
  · exact othersMeet_drain separates h frames other _
  · rename_i definition found
    have foreign := h.worlds.orderly.foreign_of_at? other found
    rw [enter]
    split
    · exact OthersRun.meet ⟨h, .unwind _ frames⟩
    · exact OthersRun.meet ⟨(h.note_left _).seed_other other _,
        .run (separates.primary_foreign definition seat.step foreign other _) (.active other frames)⟩
  · rename_i outcome definition found
    have foreign := h.worlds.orderly.foreign_of_at? other found
    rw [resume]
    split
    · rename_i behaviour hbehaviour
      exact OthersRun.meet ⟨h,
        .run (separates.resume_foreign definition behaviour foreign hbehaviour seat.step outcome other _) (.active other frames)⟩
    · exact OthersRun.meet ⟨h, .settle other _ frames⟩
  · exact OthersRun.meet ⟨h, .unwind _ frames⟩

end

section

variable (separates : T.Separates c) (h : T.Scenes sc sc') {k : Kind} {below : Stack V ρ (.code k)}
  (frames : T.OthersStack (T.sees sc'.memory) below)

include separates h frames

theorem othersMeet_execute (executor : Nat) {definition : V.Definition} {step : StepId} (other : T.owns step.workflow = false)
    (foreign : T.foreign definition) (background : Bool) {next : StepOutcome → Program V (k.Result ρ)}
    (code : ∀ outcome, T.Confined T.Elsewhere (T.sees sc'.memory) (next outcome)) :
    T.OthersMeet c sc' (execute c sc executor definition step background next below) := by
  have hnoted := h.note_left [logTransition step Slot.startTransition]
  simp only [execute]
  split
  · exact OthersRun.meet ⟨hnoted.note_left _, .run (code _) frames⟩
  · exact othersMeet_announce separates ((hnoted.start_other executor other foreign).note_left _) (.awaiting background code frames) other
      _ _

theorem othersMeet_applyResumption (executor : Nat) {r : Resumption} (other : T.owns r.step.workflow = false)
    {next : Option StepOutcome → Program V (k.Result ρ)} (code : ∀ outcome, T.Confined T.Elsewhere (T.sees sc'.memory) (next outcome)) :
    T.OthersMeet c sc' (applyResumption c sc executor r next below) := by
  simp only [applyResumption]
  split
  · exact OthersRun.meet ⟨h.note_left _, .run (code none) frames⟩
  · rename_i slot hslot
    obtain ⟨-, -, -, hstep⟩ := Slots.mem_of_current? hslot
    have hother : T.owns slot.seat.step.workflow = false := hstep ▸ other
    split
    · exact OthersRun.meet ⟨(h.modifySlot_other Slot.keeps_rest hother).note_left _, .run (code none) frames⟩
    · split
      · exact OthersRun.meet ⟨h.note_left _, .run (code none) frames⟩
      · exact othersMeet_announce separates ((h.modifySlot_other Slot.keeps_rest hother).note_left _)
          (.awaiting false (fun outcome => code (some outcome)) frames) hother _ _

theorem othersMeet_resolve {key : AsyncKey} (unnamed : ¬ T.tokens key) (outcome : AsyncOutcome)
    {next : Except KeyError Unit → Program V (k.Result ρ)} (code : ∀ answer, T.Confined T.Elsewhere (T.sees sc'.memory) (next answer)) :
    T.OthersMeet c sc' (resolve c sc key outcome next below) := by
  cases hr : sc.world.keys.resolve key outcome sc.world.clock with
  | error e =>
    rw [resolve_eq_error next below hr]
    exact OthersRun.meet ⟨h, .run (code _) frames⟩
  | ok resolved =>
    obtain ⟨r, keys⟩ := resolved
    obtain ⟨hkeys, other⟩ := h.worlds.agree.keys.resolve_other unnamed hr
    have hnoted := (h.keys_other hkeys).note_left [LogEvent.keyOperation "resolve" key.token (some r.step.text) outcome.keyState.text]
    simp only [resolve, hr]
    split
    · exact OthersRun.meet ⟨hnoted.note_left _, .run (code _) frames⟩
    · rename_i descriptor hreceiver
      exact absurd hreceiver (hnoted.worlds.orderly.receiverless descriptor)
    · split
      · exact othersMeet_applyResumption separates hnoted frames _ other fun _ => code _
      · exact OthersRun.meet ⟨hnoted.note_left _, .run (code _) frames⟩

/-- A program of others takes a step. -/
theorem othersMeet_run {p : Program V (k.Result ρ)} (code : T.Confined T.Elsewhere (T.sees sc'.memory) p) :
    T.OthersMeet c sc' (Machine.run c sc p below) := by
  cases code with
  | done result =>
    cases frames with
    | bottom => exact OthersRun.meet ⟨h, .finished _⟩
    | active other frames => exact OthersRun.meet ⟨h, .settle other _ frames⟩
  | crash message => exact OthersRun.meet ⟨h, .unwind message frames⟩
  | @call op next allowed code =>
    cases op with
    | plain op => exact OthersRun.meet ⟨⟨h.worlds.run_other allowed.2 allowed.1, h.seen⟩, .run (code _) frames⟩
    | publish topic payload => exact othersMeet_publish separates h _ _ code frames
    | resolve key outcome => exact othersMeet_resolve separates h frames allowed _ code
    | execute executor definition step background => exact othersMeet_execute separates h frames _ allowed.1 allowed.2 _ code
    | apply executor r => exact othersMeet_applyResumption separates h frames _ allowed code
  | look code => exact OthersRun.meet ⟨h, .run (code _ h.seen) frames⟩
  | remember unseen code => exact OthersRun.meet ⟨⟨h.worlds, unseen⟩, .run code frames⟩

end

theorem othersMeet_unwind (h : T.Scenes sc sc') (message : String) {e : Expects} {stack : Stack V ρ e}
    (frames : T.OthersStack (T.sees sc'.memory) stack) : T.OthersMeet c sc' (unwind c sc message stack) := by
  cases frames with
  | bottom => exact OthersRun.meet ⟨h, .finished _⟩
  | active other frames => exact OthersRun.meet ⟨h.note_left _, .settle other _ frames⟩
  | awaiting background code frames =>
    rw [unwind]
    split
    · exact OthersRun.meet ⟨h, .run (code _) frames⟩
    · exact OthersRun.meet ⟨h, .unwind message frames⟩

/-- A step of an engine in which code of others runs leads to where it does again. -/
theorem OthersRun.step (separates : T.Separates c) {a : MachineState V ρ} (h : T.OthersRun sc' a) : T.OthersMeet c sc' (a.step c) := by
  obtain ⟨sc, control⟩ := a
  obtain ⟨scenes, controls⟩ := h
  cases controls with
  | run code frames => exact othersMeet_run separates scenes frames code
  | proceed other phase frames => exact othersMeet_proceed separates scenes frames other phase
  | settle other result frames => exact othersMeet_settle separates scenes frames other result
  | outcome result frames =>
    cases frames with
    | awaiting background code frames => exact OthersRun.meet ⟨scenes, .run (code result) frames⟩
  | unwind message frames => exact othersMeet_unwind scenes message frames
  | finished result => exact OthersRun.meet ⟨scenes, .finished result⟩

end Tenant

end StepEngine
