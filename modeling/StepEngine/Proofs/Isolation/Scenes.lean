import StepEngine.Proofs.Delivery
import StepEngine.Proofs.Isolation
import StepEngine.Proofs.Ledger
import StepEngine.Proofs.Share.Slots

/-!
# Scenes: what a tenant has in two engines

A tenant cannot tell two engines apart that keep the same for its workflows: data, inputs, keys but for their times, and slots
(`Tenant.Worlds`), and in which it sees the same of the memory (`Tenant.Scenes`). A change that is made for the tenant in both leaves it
so, and a change that is made for somebody else in one of them does too.
-/

namespace StepEngine

open Machine

namespace Tenant

variable {V : Vocabulary} (T : Tenant V)

/-- Step instances of the tenant run its definitions, and those of others run theirs. -/
def Runs (step : StepId) (definition : V.Definition) : Prop :=
  (T.owns step.workflow = true → T.code definition) ∧ (T.owns step.workflow = false → T.foreign definition)

/-- Every slot runs what it may, the subscribers only look on, and resumptions are carried out by an executor if by anybody. -/
structure Orderly (w : World V) : Prop where
  hosts : w.slots.Hosts T.Runs
  subscribed : ∀ topic, ∀ s ∈ w.bus.subscribers topic, T.handlers s.handler
  receiverless : ∀ descriptor, w.attachment ≠ .receiver descriptor

/-- Two worlds that keep the same for the tenant. -/
structure Worlds (w w' : World V) : Prop where
  agree : T.share.Agree w w'
  slots : w.slots.shown T.owns = w'.slots.shown T.owns
  config : w.config = w'.config
  attachment : w.attachment = w'.attachment
  executors : w.executors = w'.executors
  orderly : T.Orderly w
  orderly' : T.Orderly w'

/-- Two scenes that the tenant cannot tell apart. -/
structure Scenes (sc sc' : Scene V) : Prop where
  worlds : T.Worlds sc.world sc'.world
  seen : T.sees sc.memory = T.sees sc'.memory

/-- A scene in which handlers have looked on for a while: time has passed, the bus has counted, and in the memory the tenant sees what it
saw. -/
structure Hushed (sc now : Scene V) : Prop where
  world : now.world = { sc.world with bus := now.world.bus, clock := now.world.clock }
  topics : now.world.bus.topics = sc.world.bus.topics
  seen : T.sees now.memory = T.sees sc.memory

variable {T} {w w' : World V} {sc sc' now : Scene V}

/-! ## Scenes in which handlers looked on -/

namespace Hushed

theorem refl (sc : Scene V) : T.Hushed sc sc := ⟨rfl, rfl, rfl⟩

theorem trans {last : Scene V} (h : T.Hushed sc now) (h' : T.Hushed now last) : T.Hushed sc last where
  world := by
    rw [h'.world, h.world]
  topics := h'.topics.trans h.topics
  seen := h'.seen.trans h.seen

/-- Calling subscribers counts. -/
theorem of_counted (h : sc.Counted now) : T.Hushed sc now where
  world := by
    have hclock : now.world.clock = sc.world.clock := by rw [h.world]
    rw [hclock]
    exact h.world
  topics := h.topics
  seen := congrArg T.sees h.memory

/-- The scene afterwards, with its clock and its bus. -/
theorem exists_eq (h : T.Hushed sc now) : ∃ bus clock, now.world = { sc.world with bus := bus, clock := clock } ∧
    bus.topics = sc.world.bus.topics := ⟨_, _, h.world, h.topics⟩

end Hushed

/-- The same who is subscribed. -/
theorem Orderly.of_topics (h : T.Orderly w) {bus : Bus V.Handler} (topics : bus.topics = w.bus.topics) (clock : Instant) :
    T.Orderly { w with bus := bus, clock := clock } where
  hosts := h.hosts
  subscribed topic s hs := by
    refine h.subscribed topic s ?_
    rw [Bus.subscribers, ← topics]
    exact hs
  receiverless := h.receiverless

/-! ## Changes in both worlds -/

namespace Worlds

/-- It is the same the other way round. -/
theorem symm (h : T.Worlds w w') : T.Worlds w' w :=
  ⟨h.agree.symm, h.slots.symm, h.config.symm, h.attachment.symm, h.executors.symm, h.orderly', h.orderly⟩

/-- Handlers look on in the first world. -/
theorem hushed (h : T.Worlds w w') {bus : Bus V.Handler} (topics : bus.topics = w.bus.topics) (clock : Instant) :
    T.Worlds { w with bus := bus, clock := clock } w' where
  agree := h.agree.congr ⟨rfl, rfl, rfl, rfl⟩ ⟨rfl, rfl, rfl, rfl⟩
  slots := h.slots
  config := h.config
  attachment := h.attachment
  executors := h.executors
  orderly := h.orderly.of_topics topics clock
  orderly' := h.orderly'

/-- The slots change, and those of the tenant are the same. -/
theorem withSlots (h : T.Worlds w w') {slots slots' : Slots V.Definition} (shown : slots.shown T.owns = slots'.shown T.owns)
    (hosts : slots.Hosts T.Runs) (hosts' : slots'.Hosts T.Runs) : T.Worlds { w with slots := slots } { w' with slots := slots' } where
  agree := h.agree.congr ⟨rfl, rfl, rfl, rfl⟩ ⟨rfl, rfl, rfl, rfl⟩
  slots := shown
  config := h.config
  attachment := h.attachment
  executors := h.executors
  orderly := ⟨hosts, h.orderly.subscribed, h.orderly.receiverless⟩
  orderly' := ⟨hosts', h.orderly'.subscribed, h.orderly'.receiverless⟩

/-- The data of step instances and the keys change, and the share stays the same. -/
theorem withData (h : T.Worlds w w') {stepData stepData' : Store StepId} {keys keys' : KeyRegistry}
    (agree : T.share.Agree { w with stepData := stepData, keys := keys } { w' with stepData := stepData', keys := keys' }) :
    T.Worlds { w with stepData := stepData, keys := keys } { w' with stepData := stepData', keys := keys' } where
  agree := agree
  slots := h.slots
  config := h.config
  attachment := h.attachment
  executors := h.executors
  orderly := ⟨h.orderly.hosts, h.orderly.subscribed, h.orderly.receiverless⟩
  orderly' := ⟨h.orderly'.hosts, h.orderly'.subscribed, h.orderly'.receiverless⟩

end Worlds

namespace Scenes

theorem symm (h : T.Scenes sc sc') : T.Scenes sc' sc := ⟨h.worlds.symm, h.seen.symm⟩

/-- What is reported to the log does not matter. -/
theorem note (h : T.Scenes sc sc') (events events' : List LogEvent) : T.Scenes (sc.note events) (sc'.note events') := ⟨h.worlds, h.seen⟩

/-- What is reported to the first log does not matter. -/
theorem note_left (h : T.Scenes sc sc') (events : List LogEvent) : T.Scenes (sc.note events) sc' := ⟨h.worlds, h.seen⟩

/-- Handlers look on in the first scene. -/
theorem hushed (h : T.Scenes sc sc') (hush : T.Hushed sc now) : T.Scenes now sc' := by
  obtain ⟨bus, clock, hworld, topics⟩ := hush.exists_eq
  refine ⟨?_, hush.seen.trans h.seen⟩
  rw [hworld]
  exact h.worlds.hushed topics clock

/-- Handlers look on in the second scene. -/
theorem hushed_right (h : T.Scenes sc sc') (hush : T.Hushed sc' now) : T.Scenes sc now := (h.symm.hushed hush).symm

/-- A slot changes in both. -/
theorem modifySlot (h : T.Scenes sc sc') (seat : Seat) {f : Slot V.Definition → Slot V.Definition} (hf : Slot.Keeps f) :
    T.Scenes (sc.modifySlot seat f) (sc'.modifySlot seat f) := by
  have shown : (sc.world.slots.modify seat f).shown T.owns = (sc'.world.slots.modify seat f).shown T.owns := by
    rw [Slots.shown_modify hf, Slots.shown_modify hf, h.worlds.slots]
  exact ⟨h.worlds.withSlots shown (h.worlds.orderly.hosts.modify hf) (h.worlds.orderly'.hosts.modify hf), h.seen⟩

/-- A slot of somebody else changes in the first. -/
theorem modifySlot_other (h : T.Scenes sc sc') {seat : Seat} {f : Slot V.Definition → Slot V.Definition} (hf : Slot.Keeps f)
    (other : T.owns seat.step.workflow = false) : T.Scenes (sc.modifySlot seat f) sc' := by
  have shown : (sc.world.slots.modify seat f).shown T.owns = sc'.world.slots.shown T.owns := by
    rw [Slots.shown_modify_other hf other, h.worlds.slots]
  exact ⟨h.worlds.withSlots shown (h.worlds.orderly.hosts.modify hf) h.worlds.orderly'.hosts, h.seen⟩

/-- The keys change, and the share stays the same. -/
theorem keys (h : T.Scenes sc sc') {keys keys' : KeyRegistry} (agree : T.share.KeysAgree keys keys') :
    T.Scenes (sc.update fun w => { w with keys := keys }) (sc'.update fun w => { w with keys := keys' }) :=
  ⟨h.worlds.withData ⟨h.worlds.agree.stepData, h.worlds.agree.workflowData, h.worlds.agree.inputs, agree⟩, h.seen⟩

/-- Keys of others change in the first. -/
theorem keys_other (h : T.Scenes sc sc') {keys : KeyRegistry} (agree : T.share.KeysAgree keys sc'.world.keys) :
    T.Scenes (sc.update fun w => { w with keys := keys }) sc' := h.keys agree

/-- A step instance gets data in both. -/
theorem seed (h : T.Scenes sc sc') (step : StepId) (defaults : Data) :
    T.Scenes (sc.update fun w => { w with stepData := w.stepData.seed step defaults })
      (sc'.update fun w => { w with stepData := w.stepData.seed step defaults }) :=
  ⟨h.worlds.withData (h.worlds.agree.seed step defaults), h.seen⟩

/-- A step instance of somebody else gets data in the first. -/
theorem seed_other (h : T.Scenes sc sc') {step : StepId} (other : T.owns step.workflow = false) (defaults : Data) :
    T.Scenes (sc.update fun w => { w with stepData := w.stepData.seed step defaults }) sc' := by
  have shown : (sc.world.stepData.seed step defaults).shown T.owns = sc'.world.stepData.shown T.owns :=
    (Store.shown_seed_other other defaults).trans h.worlds.agree.stepData
  exact ⟨h.worlds.withData ⟨shown, h.worlds.agree.workflowData, h.worlds.agree.inputs, h.worlds.agree.keys⟩, h.seen⟩

/-- A slot is opened in both for a step instance of the tenant. -/
theorem start (h : T.Scenes sc sc') (executor : Nat) {definition : V.Definition} {step : StepId} (own : T.owns step.workflow = true)
    (code : T.code definition) :
    T.Scenes (sc.update fun w => { w with slots := w.slots.start executor definition step })
      (sc'.update fun w => { w with slots := w.slots.start executor definition step }) := by
  have runs : T.Runs step definition := ⟨fun _ => code, fun other => absurd own (by rw [other]; exact Bool.false_ne_true)⟩
  have shown : (sc.world.slots.start executor definition step).shown T.owns =
      (sc'.world.slots.start executor definition step).shown T.owns := by
    rw [Slots.shown_start definition own, Slots.shown_start definition own, Slots.fresh, Slots.fresh, Slots.nextSeat_eq h.worlds.slots own,
      h.worlds.slots]
  exact ⟨h.worlds.withSlots shown (h.worlds.orderly.hosts.start runs) (h.worlds.orderly'.hosts.start runs), h.seen⟩

/-- A slot is opened in the first for a step instance of somebody else. -/
theorem start_other (h : T.Scenes sc sc') (executor : Nat) {definition : V.Definition} {step : StepId}
    (other : T.owns step.workflow = false) (foreign : T.foreign definition) :
    T.Scenes (sc.update fun w => { w with slots := w.slots.start executor definition step }) sc' := by
  have runs : T.Runs step definition := ⟨fun own => absurd own (by rw [other]; exact Bool.false_ne_true), fun _ => foreign⟩
  have shown : (sc.world.slots.start executor definition step).shown T.owns = sc'.world.slots.shown T.owns := by
    rw [Slots.shown_start_other definition other, h.worlds.slots]
  exact ⟨h.worlds.withSlots shown (h.worlds.orderly.hosts.start runs) h.worlds.orderly'.hosts, h.seen⟩

/-- The tenant's slot with a seat is the same in both. -/
theorem at?_eq (h : T.Scenes sc sc') {seat : Seat} (own : T.owns seat.step.workflow = true) :
    sc.world.slots.at? seat = sc'.world.slots.at? seat := Slots.at?_eq h.worlds.slots own

/-- An executor lists the same slot in both for a step instance of the tenant. -/
theorem current?_eq (h : T.Scenes sc sc') {executor : Nat} {step : StepId} (own : T.owns step.workflow = true) :
    sc.world.slots.current? executor step = sc'.world.slots.current? executor step := Slots.current?_eq h.worlds.slots own

end Scenes

/-! ## Requests that are answered at once -/

/-- A permitted request leaves a world orderly. -/
theorem Orderly.run (h : T.Orderly w) {op : PlainOp V} (permitted : T.Permits op) : T.Orderly (op.run w).2 := by
  cases op with
  | bus op =>
    refine ⟨h.hosts, fun topic s hs => ?_, h.receiverless⟩
    cases op with
    | subscribe on handler =>
      change s ∈ (w.bus.subscribe on handler).subscribers topic at hs
      rw [Bus.subscribers_subscribe] at hs
      split at hs
      · rcases List.mem_append.1 hs with hs | hs
        · exact h.subscribed topic s hs
        · rw [List.mem_singleton.1 hs]
          exact permitted
      · exact h.subscribed topic s hs
    | unsubscribe handle =>
      change s ∈ (w.bus.unsubscribe handle).subscribers topic at hs
      rw [Bus.subscribers_unsubscribe] at hs
      split at hs
      · exact h.subscribed topic s (List.mem_of_mem_filter hs)
      · exact h.subscribed topic s hs
    | _ => exact h.subscribed topic s hs
  | key op =>
    rw [PlainOp.keys_run_key]
    split <;> exact ⟨h.hosts, h.subscribed, h.receiverless⟩
  | purgeSlots executor workflow => exact ⟨h.hosts.purge, h.subscribed, h.receiverless⟩
  | openExecutor => cases permitted
  | releaseExecutor id => cases permitted
  | attach descriptor => cases permitted
  | detach => cases permitted
  | _ => exact ⟨h.hosts, h.subscribed, h.receiverless⟩

/-- A permitted request leaves the settings, the executors and who carries out resumptions alone. -/
theorem setting_run {op : PlainOp V} (permitted : T.Permits op) (w : World V) :
    (op.run w).2.config = w.config ∧ (op.run w).2.attachment = w.attachment ∧ (op.run w).2.executors = w.executors := by
  cases op with
  | key op =>
    rw [PlainOp.keys_run_key]
    split <;> exact ⟨rfl, rfl, rfl⟩
  | openExecutor => cases permitted
  | releaseExecutor id => cases permitted
  | attach descriptor => cases permitted
  | detach => cases permitted
  | _ => exact ⟨rfl, rfl, rfl⟩

/-- The slots after a request are the same but for a purge of them. -/
theorem slots_run (op : PlainOp V) (w : World V) :
    (op.run w).2.slots = w.slots ∨ ∃ executor workflow, op = .purgeSlots executor workflow := by
  cases op with
  | key op =>
    rw [PlainOp.keys_run_key]
    split <;> exact Or.inl rfl
  | detach =>
    simp only [PlainOp.run]
    split <;> exact Or.inl rfl
  | purgeSlots executor workflow => exact Or.inr ⟨executor, workflow, rfl⟩
  | _ => exact Or.inl rfl

namespace Worlds

/-- The answer to a request of the tenant's is the same in both, but for times. -/
theorem answer (h : T.Worlds w w') {op : PlainOp V} (offBus : isBus op = false) (permitted : T.Permits op) (within : op.Within T.share) :
    op.told T.share.tells (op.run w).1 = op.told T.share.tells (op.run w').1 := by
  cases about : op.aboutHoldings with
  | true => exact h.agree.answer about within rfl
  | false =>
    cases op with
    | config => exact h.config
    | state executor step => exact congrArg (Option.map fun slot => slot.lifecycle.state) (Slots.current?_eq h.slots within)
    | lastOutcome executor step => exact congrArg (fun slot? => slot?.bind (·.lastOutcome)) (Slots.current?_eq h.slots within)
    | purgeSlots executor workflow => exact congrArg List.length (Slots.listedFor_eq h.slots within)
    | bus op => cases offBus
    | openExecutor => cases permitted
    | stepData op => cases about
    | workflowData op => cases about
    | key op => cases about
    | input workflow => cases about
    | purgeWorkflow workflow => cases about
    | _ => rfl

/-- A request of the tenant's is carried out in both. -/
theorem run (h : T.Worlds w w') {op : PlainOp V} (permitted : T.Permits op) (within : op.Within T.share) :
    T.Worlds (op.run w).2 (op.run w').2 := by
  obtain ⟨config, attachment, executors⟩ := setting_run permitted w
  obtain ⟨config', attachment', executors'⟩ := setting_run permitted w'
  refine ⟨h.agree.run within rfl, ?_, ?_, ?_, ?_, h.orderly.run permitted, h.orderly'.run permitted⟩
  · rcases slots_run op w with hslots | ⟨executor, workflow, rfl⟩
    · rcases slots_run op w' with hslots' | ⟨executor, workflow, rfl⟩
      · rw [hslots, hslots', h.slots]
      · exact Slots.shown_purge.trans (h.slots ▸ Slots.shown_purge.symm)
    · exact Slots.shown_purge.trans (h.slots ▸ Slots.shown_purge.symm)
  · rw [config, config', h.config]
  · rw [attachment, attachment', h.attachment]
  · rw [executors, executors', h.executors]

/-- A request of somebody else's is carried out in the first world. -/
theorem run_other (h : T.Worlds w w') {op : PlainOp V} (permitted : T.Permits op) (within : op.Within T.share.others) :
    T.Worlds (op.run w).2 w' := by
  obtain ⟨config, attachment, executors⟩ := setting_run permitted w
  refine ⟨h.agree.run_other within, ?_, config.trans h.config, attachment.trans h.attachment, executors.trans h.executors,
    h.orderly.run permitted, h.orderly'⟩
  rcases slots_run op w with hslots | ⟨executor, workflow, rfl⟩
  · rw [hslots, h.slots]
  · have other : T.owns workflow = false := Bool.not_eq_true' _ ▸ within
    exact (Slots.shown_purge_other other).trans h.slots

end Worlds

end Tenant

end StepEngine
