import StepEngine.Proofs.Bystanders.State
import StepEngine.Proofs.Run

/-!
# Step: bystanders come and go between two steps

Where an engine without bystanders takes one step, the engine with them takes that step too, and some more: before it, bystanders may be
subscribed; after it, when it was one that calls subscribers, the bystanders in front of the next handler run. None of this can be seen
(`MachineState.Silent`). So whenever the two are alike, the one with bystanders gets to a state that is alike to the state after the step
(`Advances`), provided that the code is discreet.
-/

namespace StepEngine

open Machine

/-! ## What can be seen -/

namespace MachineState

/-- What can be seen of the execution of steps. -/
inductive Event where
  /-- Step code begins to run. -/
  | begun (code : StepCode)
  /-- A run of a step instance settled. -/
  | settled (seat : Seat) (outcome : StepOutcome)
  /-- An activation is over, and its outcome is handed to whoever waits for it. -/
  | ended (outcome : StepOutcome)

variable {V : Vocabulary} {ρ : Type}

/-- What can be seen with the next step. -/
def event? (c : Client V) (state : MachineState V ρ) : Option Event :=
  match state.control with
  | .proceed seat (.settled outcome) _ => some (.settled seat outcome)
  | .outcome outcome _ => some (.ended outcome)
  | _ => (state.begins? c).map .begun

/-- The next step is not the end, and nothing can be seen of it. -/
structure Silent (c : Client V) (state : MachineState V ρ) : Prop where
  unseen : state.event? c = none
  unfinished : ∀ result, state.control ≠ .finished result

/-- Nothing can be seen while a program runs. -/
theorem silent_run {c : Client V} {k : Kind} (sc : Scene V) (program : Program V (k.Result ρ)) (stack : Stack V ρ (.code k)) :
    Silent c ⟨sc, .run program stack⟩ := ⟨rfl, nofun⟩

/-- Nothing can be seen of a panic. -/
theorem silent_unwind {c : Client V} {e : Expects} (sc : Scene V) (message : String) (stack : Stack V ρ e) :
    Silent c ⟨sc, .unwind message stack⟩ := ⟨rfl, nofun⟩

end MachineState

namespace Bystanders

variable {V : Vocabulary} (B : Bystanders V) {ρ : Type}

/-- The second state leads unseen to one that is alike to the first. -/
inductive Meets (c : Client V) (a : MachineState V ρ) : MachineState V ρ → Prop where
  | here {b : MachineState V ρ} {ids : Numbering} (h : B.States ids a b) : Meets c a b
  | later {b : MachineState V ρ} (silent : b.Silent c) (h : Meets c a (b.step c)) : Meets c a b

/-- When the first state takes a step, the second one leads to a state that is alike to the state after the step, and of the two the same
is seen. -/
inductive Advances (c : Client V) (a : MachineState V ρ) : MachineState V ρ → Prop where
  | step {b : MachineState V ρ} (seen : b.event? c = a.event? c)
    (finished : ∀ result, a.control = .finished result ↔ b.control = .finished result) (h : B.Meets c (a.step c) (b.step c)) : Advances c a b
  | wait {b : MachineState V ρ} (silent : b.Silent c) (h : Advances c a (b.step c)) : Advances c a b

variable {B} {c : Client V} {ids : Numbering} {a b : MachineState V ρ} {sc sc' : Scene V}

/-- Of states that are alike the same is seen. -/
theorem States.event?_eq (h : B.States ids a b) : b.event? c = a.event? c := by
  obtain ⟨sc, control⟩ := a
  obtain ⟨sc', control'⟩ := b
  obtain ⟨bus, m, j, rfl⟩ := h.scenes.exists_eq
  obtain ⟨-, controls⟩ := h
  cases controls with
  | proceed seat phase h => cases phase <;> rfl
  | _ => rfl

/-! ## Bystanders run -/

section

variable {below below' : Stack V ρ .report}

/-- A bystander is called and is done, and nobody sees it. -/
theorem Idle.meets {p : Program V (Except HandlerError Unit)} {m : V.Memory} {d : Delivery V.Handler} (idle : B.Idle p m)
    (scenes : B.Scenes ids sc sc') (memory : sc'.memory = m)
    (goes : ∀ (now : Scene V) (verdict : Verdict), B.Scenes ids sc now → B.Meets c a (handled c now d verdict below')) :
    B.Meets c a ⟨sc', .run (k := .handler) p (.handling d below')⟩ := by
  induction idle generalizing sc' with
  | done result m => exact .later (MachineState.silent_run _ _ _) (goes _ _ scenes)
  | crash message m => exact .later (MachineState.silent_run _ _ _) (.later (MachineState.silent_unwind _ _ _)
      (goes sc' (.failed message true) scenes))
  | look h ih =>
    refine .later (MachineState.silent_run _ _ _) ?_
    have hsame := ih scenes memory
    rwa [← memory] at hsame
  | @remember m m' next unseen h ih =>
    refine .later (MachineState.silent_run _ _ _) ?_
    exact ih ⟨scenes.world, scenes.buses, unseen _ _ (memory ▸ scenes.memory)⟩ rfl
  | log h ih =>
    refine .later (MachineState.silent_run _ _ _) ?_
    exact ih (scenes.note [] _) memory

/-- Subscribers are called alike: the bystanders in front run, and then the same handler is called as without them. -/
theorem Callees.meets {l l' : List (Subscription V.Handler)} (discreet : B.Discreet c) (callees : B.Callees l l')
    (scenes : B.Scenes ids sc sc') (frames : B.Stacks ids below below') (notification : Notification) (startedAt startedAt' : Instant)
    (report report' : PublishReport) :
    B.Meets c ⟨sc, calling c notification startedAt report below l⟩ ⟨sc', calling c notification startedAt' report' below' l'⟩ := by
  induction callees generalizing sc' startedAt' report' with
  | nil => exact .here ⟨scenes, .report _ _ frames⟩
  | own own paired rest =>
    exact .here ⟨scenes, .run (discreet.handle _ own _ _) (.handling rfl rest frames)⟩
  | extra idle unpaired rest ih =>
    refine Idle.meets (discreet.idle _ idle notification sc'.memory) scenes rfl fun now verdict hnow => ?_
    obtain ⟨after, startedAt'', heq, counted⟩ := handled_eq_calling c now ⟨notification, _, startedAt', _, report'⟩ verdict below'
    rw [heq]
    exact ih (hnow.counted ⟨rfl, rfl, rfl, rfl⟩ counted) _ _

end

/-! ## Parts of the machine -/

section

variable (discreet : B.Discreet c) (scenes : B.Scenes ids sc sc')

include discreet scenes

/-- A publication calls the same handlers, and bystanders. -/
theorem meets_publish {below below' : Stack V ρ .report} (frames : B.Stacks ids below below') (topic : String) (payload : Json) :
    B.Meets c (publish c sc topic payload below) (publish c sc' topic payload below') := by
  obtain ⟨after, heq, counted⟩ := publish_eq_calling c sc topic payload below
  obtain ⟨after', heq', counted'⟩ := publish_eq_calling c sc' topic payload below'
  rw [heq, heq', scenes.clock_eq]
  exact (scenes.buses.callees topic).meets discreet (scenes.counted counted counted') frames _ _ _ _ _

/-- Handlers of the same notification that are over are followed by the same handlers, and bystanders. -/
theorem meets_handled {below below' : Stack V ρ .report} (frames : B.Stacks ids below below') {d d' : Delivery V.Handler}
    (notification : d'.notification = d.notification) (callees : B.Callees d.remaining d'.remaining) (verdict verdict' : Verdict) :
    B.Meets c (handled c sc d verdict below) (handled c sc' d' verdict' below') := by
  obtain ⟨after, startedAt, heq, counted⟩ := handled_eq_calling c sc d verdict below
  obtain ⟨after', startedAt', heq', counted'⟩ := handled_eq_calling c sc' d' verdict' below'
  rw [heq, heq', notification]
  exact callees.meets discreet (scenes.counted counted counted') frames _ _ _ _ _

variable {below below' : Stack V ρ .outcome} (frames : B.Stacks ids below below')

include frames

/-- The same transition is announced. -/
theorem meets_announce (seat : Seat) (t : Transition) (phase : Phase) :
    B.Meets c (announce c sc seat t phase below) (announce c sc' seat t phase below') := by
  rw [announce, announce, scenes.clock_eq]
  cases t.topic? with
  | none => exact .here ⟨scenes, .proceed seat phase frames⟩
  | some topic => exact meets_publish discreet scenes (.announcing seat phase frames) topic _

/-- A run settles with the same outcome. -/
theorem meets_settle (seat : Seat) (result : Except StepError Completion) :
    B.Meets c (settle c sc seat result below) (settle c sc' seat result below') := by
  have houtcome : outcomeOf sc'.world seat result = outcomeOf sc.world seat result := by
    rw [scenes.world]
    rfl
  simp only [settle, houtcome, scenes.slots_eq]
  cases sc.world.slots.at? seat with
  | none => exact .here ⟨scenes, .proceed seat _ frames⟩
  | some slot =>
    cases hadvance : slot.lifecycle.advance (outcomeOf sc.world seat result).event with
    | ok accepted =>
      simp only [hadvance]
      exact meets_announce discreet ((scenes.modifySlot seat _).note _ _) frames seat _ _
    | error e =>
      simp only [hadvance]
      exact .here ⟨(scenes.modifySlot seat _).note _ _, .proceed seat _ frames⟩

/-- An activation goes on with the same deferred resumption, or is over with the same outcome. -/
theorem meets_drain (seat : Seat) (outcome : StepOutcome) :
    B.Meets c (drain c sc seat outcome below) (drain c sc' seat outcome below') := by
  simp only [drain, scenes.slots_eq]
  cases sc.world.slots.at? seat with
  | none => exact .here ⟨scenes.note _ _, .outcome outcome frames⟩
  | some slot =>
    rcases hnext : nextDeferred slot.lifecycle slot.deferred with ⟨events, found⟩
    cases found with
    | none =>
      simp only [hnext]
      exact .here ⟨((scenes.modifySlot seat _).note _ _).note _ _, .outcome outcome frames⟩
    | some found =>
      simp only [hnext]
      exact meets_announce discreet (((scenes.modifySlot seat _).note _ _).note _ _) frames seat _ _

/-- An activation goes on with the same step code. -/
theorem meets_proceed (seat : Seat) (phase : Phase) :
    B.Meets c (proceed c sc seat phase below) (proceed c sc' seat phase below') := by
  cases phase with
  | settled outcome => exact meets_drain discreet scenes frames seat outcome
  | starting =>
    simp only [proceed, scenes.slots_eq]
    cases (sc.world.slots.at? seat).map (·.definition) with
    | none => exact .here ⟨scenes, .unwind _ frames⟩
    | some definition =>
      simp only [enter]
      cases c.defaultData definition with
      | error message => exact .here ⟨scenes, .unwind message frames⟩
      | ok defaults =>
        refine .here ⟨?_, .run (discreet.primary definition seat.step ids) (.active seat frames)⟩
        exact (scenes.note _ _).update (fun w => { w with stepData := w.stepData.seed seat.step defaults }) (fun _ => rfl) fun _ _ => rfl
  | resuming outcome =>
    simp only [proceed, scenes.slots_eq]
    cases (sc.world.slots.at? seat).map (·.definition) with
    | none => exact .here ⟨scenes, .unwind _ frames⟩
    | some definition =>
      simp only [resume]
      cases hresume : c.resume definition with
      | none => exact .here ⟨scenes, .settle seat _ frames⟩
      | some behaviour =>
        exact .here ⟨scenes, .run (discreet.resume definition behaviour hresume seat.step outcome ids) (.active seat frames)⟩

end

/-! ## Calls of programs -/

section

variable {k : Kind} {below below' : Stack V ρ (.code k)} (discreet : B.Discreet c) (scenes : B.Scenes ids sc sc')
  (frames : B.Stacks ids below below')

include discreet scenes frames

/-- The same step is executed, or refused. -/
theorem meets_execute (executor : Nat) (definition : V.Definition) (step : StepId) (background : Bool)
    {next next' : StepOutcome → Program V (k.Result ρ)}
    (code : ∀ ids', ids ⊆ ids' → ∀ outcome, B.Alike ids' (next outcome) (next' outcome)) :
    B.Meets c (execute c sc executor definition step background next below)
      (execute c sc' executor definition step background next' below') := by
  simp only [execute, Scene.world_note, scenes.slots_eq]
  cases sc.world.slots.current? executor step with
  | some slot => exact .here ⟨(scenes.note _ _).note _ _, .run (code ids (List.Subset.refl ids) _) frames⟩
  | none =>
    refine meets_announce discreet ?_ (.awaiting background code frames) _ _ _
    exact ((scenes.note _ _).update (fun w => { w with slots := w.slots.start executor definition step }) (fun _ => rfl)
      fun _ _ => rfl).note _ _

/-- The same resumption is applied, deferred or rejected. -/
theorem meets_applyResumption (executor : Nat) (r : Resumption) {next next' : Option StepOutcome → Program V (k.Result ρ)}
    (code : ∀ ids', ids ⊆ ids' → ∀ outcome, B.Alike ids' (next outcome) (next' outcome)) :
    B.Meets c (applyResumption c sc executor r next below) (applyResumption c sc' executor r next' below') := by
  have goes : ∀ {now now' : Scene V}, B.Scenes ids now now' → ∀ outcome,
      B.Meets c (ρ := ρ) ⟨now, .run (next outcome) below⟩ ⟨now', .run (next' outcome) below'⟩ :=
    fun hnow outcome => .here ⟨hnow, .run (code ids (List.Subset.refl ids) outcome) frames⟩
  simp only [applyResumption, scenes.slots_eq]
  cases sc.world.slots.current? executor r.step with
  | none => exact goes (scenes.note _ _) none
  | some slot =>
    cases hrunning : slot.running with
    | true =>
      simp only [hrunning, if_true]
      exact goes ((scenes.modifySlot _ _).note _ _) none
    | false =>
      simp only [hrunning, Bool.false_eq_true, if_false]
      cases slot.lifecycle.advance (.resume r.key) with
      | error e => exact goes (scenes.note _ _) none
      | ok accepted =>
        exact meets_announce discreet ((scenes.modifySlot _ _).note _ _)
          (.awaiting false (fun _ hle outcome => code _ hle (some outcome)) frames) _ _ _

/-- The same key is resolved, and its resumption goes the same way. -/
theorem meets_resolve (key : AsyncKey) (outcome : AsyncOutcome) {next next' : Except KeyError Unit → Program V (k.Result ρ)}
    (code : ∀ ids', ids ⊆ ids' → ∀ answer, B.Alike ids' (next answer) (next' answer)) :
    B.Meets c (resolve c sc key outcome next below) (resolve c sc' key outcome next' below') := by
  have hkeys : sc'.world.keys = sc.world.keys := by rw [scenes.world]
  have goes : ∀ {now now' : Scene V}, B.Scenes ids now now' → ∀ answer,
      B.Meets c (ρ := ρ) ⟨now, .run (next answer) below⟩ ⟨now', .run (next' answer) below'⟩ :=
    fun hnow answer => .here ⟨hnow, .run (code ids (List.Subset.refl ids) answer) frames⟩
  simp only [resolve, hkeys, scenes.clock_eq]
  cases sc.world.keys.resolve key outcome sc.world.clock with
  | error e => exact goes scenes (.error e)
  | ok resolved =>
    have hattachment : sc'.world.attachment = sc.world.attachment := by rw [scenes.world]
    have hexecutors : sc'.world.executors = sc.world.executors := by rw [scenes.world]
    have hoccupies : ∀ id, below'.occupies id = below.occupies id := fun id => by rw [Stack.occupies, Stack.occupies, frames.seats_eq]
    have hnow := scenes.update (fun w => { w with keys := resolved.2 }) (fun _ => rfl) fun _ _ => rfl
    simp only [Scene.world_note, Scene.world_update, World.isHeld, hattachment, hexecutors, hoccupies]
    cases sc.world.attachment with
    | none => exact goes ((hnow.note _ _).note _ _) (.ok ())
    | receiver descriptor =>
      exact .here ⟨hnow.note _ _, .run (discreet.receive descriptor resolved.1 ids)
        (.receiving (code ids (List.Subset.refl ids) (.ok ())) frames)⟩
    | executor id =>
      cases hserved : (sc.world.executors[id]?).getD false || below.occupies id with
      | true =>
        simp only [hserved, if_true]
        exact meets_applyResumption discreet (hnow.note _ _) frames id resolved.1 fun _ hle _ => code _ hle (.ok ())
      | false =>
        simp only [hserved, Bool.false_eq_true, if_false]
        exact goes ((hnow.note _ _).note _ _) (.ok ())

end

/-! ## Steps -/

/-- A request that has nothing to do with the bus gets the same answer whoever is subscribed, and leaves the bus alone. -/
theorem run_offBus {op : PlainOp V} (off : (Op.plain op).offBus = true) (w : World V) (bus : Bus V.Handler) :
    op.run { w with bus := bus } = ((op.run w).1, { (op.run w).2 with bus := bus }) ∧ (op.run w).2.bus = w.bus := by
  cases op with
  | bus op => cases off
  | key op =>
    simp only [PlainOp.run]
    split <;> exact ⟨rfl, rfl⟩
  | detach =>
    obtain ⟨config, clock, stepData, workflowData, inputs, keys, attachment, own, executors, slots⟩ := w
    cases attachment <;> exact ⟨rfl, rfl⟩
  | _ => exact ⟨rfl, rfl⟩

/-- A request that has nothing to do with the bus is answered alike. -/
theorem meets_plain {k : Kind} {op : PlainOp V} (off : (Op.plain op).offBus = true) {next next' : op.Answer → Program V (k.Result ρ)}
    {stack stack' : Stack V ρ (.code k)} (scenes : B.Scenes ids sc sc') (frames : B.Stacks ids stack stack')
    (code : ∀ answer, B.Alike ids (next answer) (next' answer)) :
    B.Meets c (Machine.run c sc (.call (.plain op) next) stack) (Machine.run c sc' (.call (.plain op) next') stack') := by
  obtain ⟨bus, m, j, rfl⟩ := scenes.exists_eq
  obtain ⟨hrun, hbus⟩ := run_offBus off sc.world bus
  simp only [Machine.run, hrun]
  refine .here ⟨⟨rfl, ?_, scenes.memory⟩, .run (code _) frames⟩
  change B.Buses ids (op.run sc.world).2.bus bus
  rw [hbus]
  exact scenes.buses

/-- Programs that are alike take a step alike, after bystanders were subscribed. -/
theorem Alike.advances {k : Kind} {program program' : Program V (k.Result ρ)} {stack stack' : Stack V ρ (.code k)}
    (discreet : B.Discreet c) (code : B.Alike ids program program') (scenes : B.Scenes ids sc sc') (frames : B.Stacks ids stack stack') :
    B.Advances c ⟨sc, .run program stack⟩ ⟨sc', .run program' stack'⟩ := by
  have running : ∀ {sc sc' : Scene V} {p p' : Program V (k.Result ρ)},
      B.Meets c (Machine.run c sc p stack) (Machine.run c sc' p' stack') → B.Advances c ⟨sc, .run p stack⟩ ⟨sc', .run p' stack'⟩ :=
    fun h => .step rfl (fun _ => iff_of_false nofun nofun) h
  induction code generalizing sc' with
  | done result =>
    refine running ?_
    cases frames with
    | bottom => exact .here ⟨scenes, .finished (.ok result)⟩
    | handling notification remaining below => exact meets_handled discreet scenes below notification remaining _ _
    | receiving code below => exact .here ⟨scenes, .run code below⟩
    | active seat below => exact .here ⟨scenes, .settle seat result below⟩
  | crash message => exact running (.here ⟨scenes, .unwind message frames⟩)
  | @same ids op next next' off h =>
    refine running ?_
    cases op with
    | plain op => exact meets_plain off scenes frames (h ids (List.Subset.refl ids))
    | publish topic payload => cases off
    | resolve key outcome => exact meets_resolve discreet scenes frames key outcome h
    | execute executor definition step background => exact meets_execute discreet scenes frames executor definition step background h
    | apply executor r => exact meets_applyResumption discreet scenes frames executor r h
  | @unread ids op next next' counts h =>
    refine running ?_
    have goes := h ids (List.Subset.refl ids)
    cases op with
    | publish topic payload => exact meets_publish discreet scenes (.publishing h frames) topic payload
    | plain op =>
      cases op with
      | bus op =>
        cases op with
        | subscribe topic handler => cases counts
        | unsubscribe handle => cases counts
        | _ => exact .here ⟨scenes.note [] [], .run (goes _ _) frames⟩
      | _ => cases counts
    | _ => cases counts
  | @subscribe ids topic handler next next' own h =>
    have hsubset : ids ⊆ (sc.world.bus.nextId, sc'.world.bus.nextId) :: ids := List.subset_cons_self _ _
    refine running (.here ⟨⟨?_, scenes.buses.subscribe topic own, B.grows scenes.memory hsubset⟩, ?_⟩)
    · exact congrArg (fun w : World V => { w with bus := sc'.world.bus.subscribe topic handler }) scenes.world
    · exact .run (h ids (List.Subset.refl ids) _ _) (frames.mono hsubset)
  | @unsubscribe ids topic id id' next next' mem h ih =>
    refine running (.here ⟨⟨?_, scenes.buses.unsubscribe topic mem, scenes.memory⟩, .run h frames⟩)
    exact congrArg (fun w : World V => { w with bus := sc'.world.bus.unsubscribe ⟨id', topic⟩ }) scenes.world
  | look h => exact running (.here ⟨scenes, .run (h _ (List.Subset.refl _) _ _ scenes.memory) frames⟩)
  | remember seen h ih => exact running (.here ⟨⟨scenes.world, scenes.buses, seen⟩, .run h frames⟩)
  | @extra ids topic handler program next idle h ih =>
    refine .wait (MachineState.silent_run _ _ _) (ih ⟨sc'.world.bus.nextId, topic⟩ ⟨?_, ?_, scenes.memory⟩ frames)
    · exact congrArg (fun w : World V => { w with bus := sc'.world.bus.subscribe topic handler }) scenes.world
    · exact scenes.buses.subscribe_extra topic idle

/-- An engine with bystanders keeps step with the engine without them. -/
theorem States.advances (discreet : B.Discreet c) (h : B.States ids a b) : B.Advances c a b := by
  have seen := h.event?_eq (c := c)
  obtain ⟨sc, control⟩ := a
  obtain ⟨sc', control'⟩ := b
  obtain ⟨scenes, controls⟩ := h
  cases controls with
  | run code frames => exact code.advances discreet scenes frames
  | report report report' frames =>
    refine .step seen (fun _ => iff_of_false nofun nofun) ?_
    cases frames with
    | publishing code below => exact .here ⟨scenes, .run (code _ (List.Subset.refl _) _ _) below⟩
    | announcing seat phase below =>
      exact .here ⟨scenes.note_unless _ _ _ _, .proceed seat phase below⟩
  | proceed seat phase frames => exact .step seen (fun _ => iff_of_false nofun nofun) (meets_proceed discreet scenes frames seat phase)
  | settle seat result frames => exact .step seen (fun _ => iff_of_false nofun nofun) (meets_settle discreet scenes frames seat result)
  | outcome result frames =>
    refine .step seen (fun _ => iff_of_false nofun nofun) ?_
    cases frames with
    | awaiting background code below => exact .here ⟨scenes, .run (code _ (List.Subset.refl _) _) below⟩
  | unwind message frames =>
    refine .step seen (fun _ => iff_of_false nofun nofun) ?_
    cases frames with
    | bottom => exact .here ⟨scenes, .finished (.error message)⟩
    | handling notification remaining below =>
      exact meets_handled discreet scenes below notification remaining (.failed message true) (.failed message true)
    | receiving code below => exact .here ⟨scenes, .unwind message below⟩
    | active seat below => exact .here ⟨scenes.note _ _, .settle seat _ below⟩
    | publishing code below => exact .here ⟨scenes, .unwind message below⟩
    | announcing seat phase below => exact .here ⟨scenes, .unwind message below⟩
    | awaiting background code below =>
      cases background with
      | true => exact .here ⟨scenes, .run (code _ (List.Subset.refl _) _) below⟩
      | false => exact .here ⟨scenes, .unwind message below⟩
  | finished result => exact .step seen (fun _ => Iff.rfl) (.here ⟨scenes, .finished result⟩)

end Bystanders

end StepEngine
