import StepEngine.Proofs.Bystanders.Register

/-!
# State: an engine without bystanders and the engine with them

Two states of the engine are alike when they cannot be told apart but by the bystanders: the worlds are the same except for the bus, the
code sees the same in the two memories (`Scenes`), the same frames wait on the two stacks (`Stacks`), and the same happens next
(`Controls`). The numbering of subscriptions that they are alike under grows as the code subscribes.
-/

namespace StepEngine

/-- The log is no part of the world. -/
@[simp] theorem Scene.world_note {V : Vocabulary} (sc : Scene V) (events : List LogEvent) : (sc.note events).world = sc.world := rfl

/-- The world after a change of it. -/
@[simp] theorem Scene.world_update {V : Vocabulary} (sc : Scene V) (f : World V → World V) : (sc.update f).world = f sc.world := rfl

namespace Bystanders

variable {V : Vocabulary} (B : Bystanders V) {ρ : Type}

/-! ## Scenes -/

/-- The scene without bystanders and the scene with them. -/
structure Scenes (ids : Numbering) (sc sc' : Scene V) : Prop where
  world : sc'.world = { sc.world with bus := sc'.world.bus }
  buses : B.Buses ids sc.world.bus sc'.world.bus
  memory : B.alike ids sc.memory sc'.memory

variable {B} {ids ids' : Numbering} {sc sc' : Scene V}

namespace Scenes

/-- What is reported to the log does not matter. -/
theorem note (h : B.Scenes ids sc sc') (events events' : List LogEvent) : B.Scenes ids (sc.note events) (sc'.note events') :=
  ⟨h.world, h.buses, h.memory⟩

/-- Whether something is reported to the log does not matter. -/
theorem note_unless (h : B.Scenes ids sc sc') (quiet quiet' : Bool) (events events' : List LogEvent) :
    B.Scenes ids (if quiet then sc else sc.note events) (if quiet' then sc' else sc'.note events') := by
  cases quiet <;> cases quiet' <;> exact ⟨h.world, h.buses, h.memory⟩

/-- A change that has nothing to do with the bus is made in both. -/
theorem update (h : B.Scenes ids sc sc') (f : World V → World V) (keeps : ∀ w, (f w).bus = w.bus)
    (blind : ∀ w bus, f { w with bus := bus } = { f w with bus := bus }) : B.Scenes ids (sc.update f) (sc'.update f) where
  world := by
    have hbus : (sc'.update f).world.bus = sc'.world.bus := keeps _
    rw [hbus]
    exact (congrArg f h.world).trans (blind _ _)
  buses := by
    change B.Buses ids (f sc.world).bus (f sc'.world).bus
    rw [keeps, keeps]
    exact h.buses
  memory := h.memory

/-- A slot changes in both. -/
theorem modifySlot (h : B.Scenes ids sc sc') (seat : Seat) (f : Slot V.Definition → Slot V.Definition) :
    B.Scenes ids (sc.modifySlot seat f) (sc'.modifySlot seat f) :=
  h.update _ (fun _ => rfl) fun _ _ => rfl

/-- The world with bystanders is the world without them, with another bus. -/
theorem exists_eq (h : B.Scenes ids sc sc') : ∃ bus m j, sc' = ⟨{ sc.world with bus := bus }, m, j⟩ := by
  obtain ⟨w, m, j⟩ := sc'
  exact ⟨w.bus, m, j, congrArg (Scene.mk · m j) h.world⟩

/-- The slots are the same. -/
theorem slots_eq (h : B.Scenes ids sc sc') : sc'.world.slots = sc.world.slots := by rw [h.world]

/-- It is the same time. -/
theorem clock_eq (h : B.Scenes ids sc sc') : sc'.world.clock = sc.world.clock := by rw [h.world]

/-- What is counted does not matter. -/
theorem counted {done done' : Scene V} (h : B.Scenes ids sc sc') (counted : sc.Counted done) (counted' : sc'.Counted done') :
    B.Scenes ids done done' where
  world := by rw [counted'.world, h.world, counted.world]
  buses := h.buses.congr counted.topics counted.nextId counted'.topics counted'.nextId
  memory := by
    rw [counted.memory, counted'.memory]
    exact h.memory

end Scenes

/-! ## Stacks -/

variable (B) in
/-- The stack without bystanders and the stack with them. -/
inductive Stacks (ids : Numbering) : {e : Expects} → Stack V ρ e → Stack V ρ e → Prop where
  | bottom : Stacks ids .bottom .bottom
  | handling {d d' : Delivery V.Handler} {below below' : Stack V ρ .report} (notification : d'.notification = d.notification)
    (remaining : B.Callees d.remaining d'.remaining) (h : Stacks ids below below') : Stacks ids (.handling d below) (.handling d' below')
  | receiving {k : Kind} {next next' : Program V (k.Result ρ)} {below below' : Stack V ρ (.code k)} (code : B.Alike ids next next')
    (h : Stacks ids below below') : Stacks ids (.receiving next below) (.receiving next' below')
  | active (seat : Seat) {below below' : Stack V ρ .outcome} (h : Stacks ids below below') :
    Stacks ids (.active seat below) (.active seat below')
  | publishing {k : Kind} {next next' : PublishReport → Program V (k.Result ρ)} {below below' : Stack V ρ (.code k)}
    (code : ∀ ids', ids ⊆ ids' → ∀ report report', B.Alike ids' (next report) (next' report')) (h : Stacks ids below below') :
    Stacks ids (.publishing next below) (.publishing next' below')
  | announcing (seat : Seat) (phase : Phase) {below below' : Stack V ρ .outcome} (h : Stacks ids below below') :
    Stacks ids (.announcing seat phase below) (.announcing seat phase below')
  | awaiting {k : Kind} {next next' : StepOutcome → Program V (k.Result ρ)} (background : Bool) {below below' : Stack V ρ (.code k)}
    (code : ∀ ids', ids ⊆ ids' → ∀ outcome, B.Alike ids' (next outcome) (next' outcome)) (h : Stacks ids below below') :
    Stacks ids (.awaiting next background below) (.awaiting next' background below')

namespace Stacks

variable {e : Expects} {stack stack' : Stack V ρ e}

/-- Stacks stay alike when further subscriptions are made. -/
theorem mono (h : B.Stacks ids stack stack') (hle : ids ⊆ ids') : B.Stacks ids' stack stack' := by
  induction h with
  | bottom => exact .bottom
  | handling notification remaining _ ih => exact .handling notification remaining ih
  | receiving code _ ih => exact .receiving (code.mono hle) ih
  | active seat _ ih => exact .active seat ih
  | publishing code _ ih => exact .publishing (fun _ hle' => code _ (List.Subset.trans hle hle')) ih
  | announcing seat phase _ ih => exact .announcing seat phase ih
  | awaiting background code _ ih => exact .awaiting background (fun _ hle' => code _ (List.Subset.trans hle hle')) ih

/-- The same activations are in progress. -/
theorem seats_eq (h : B.Stacks ids stack stack') : stack'.seats = stack.seats := by
  induction h with
  | bottom => rfl
  | active seat _ ih => exact congrArg (seat :: ·) ih
  | announcing seat phase _ ih => exact congrArg (seat :: ·) ih
  | _ => assumption

end Stacks

/-! ## States -/

variable (B) in
/-- What happens next without bystanders and with them. -/
inductive Controls (ids : Numbering) : Control V ρ → Control V ρ → Prop where
  | run {k : Kind} {program program' : Program V (k.Result ρ)} {stack stack' : Stack V ρ (.code k)}
    (code : B.Alike ids program program') (h : B.Stacks ids stack stack') : Controls ids (.run program stack) (.run program' stack')
  | report (report report' : PublishReport) {stack stack' : Stack V ρ .report} (h : B.Stacks ids stack stack') :
    Controls ids (.report report stack) (.report report' stack')
  | proceed (seat : Seat) (phase : Phase) {stack stack' : Stack V ρ .outcome} (h : B.Stacks ids stack stack') :
    Controls ids (.proceed seat phase stack) (.proceed seat phase stack')
  | settle (seat : Seat) (result : Except StepError Completion) {stack stack' : Stack V ρ .outcome} (h : B.Stacks ids stack stack') :
    Controls ids (.settle seat result stack) (.settle seat result stack')
  | outcome (result : StepOutcome) {stack stack' : Stack V ρ .outcome} (h : B.Stacks ids stack stack') :
    Controls ids (.outcome result stack) (.outcome result stack')
  | unwind {e : Expects} (message : String) {stack stack' : Stack V ρ e} (h : B.Stacks ids stack stack') :
    Controls ids (.unwind message stack) (.unwind message stack')
  | finished (result : Except String ρ) : Controls ids (.finished result) (.finished result)

variable (B) in
/-- The engine without bystanders and the engine with them. -/
structure States (ids : Numbering) (a b : MachineState V ρ) : Prop where
  scenes : B.Scenes ids a.scene b.scene
  controls : B.Controls ids a.control b.control

/-- Of states that are alike either both are the end, with the same result, or neither is. -/
theorem States.result?_eq {a b : MachineState V ρ} (h : B.States ids a b) : b.result? = a.result? := by
  obtain ⟨sc, control⟩ := a
  obtain ⟨sc', control'⟩ := b
  obtain ⟨-, controls⟩ := h
  cases controls <;> rfl

end Bystanders

end StepEngine
