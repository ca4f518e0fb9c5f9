import StepEngine.Proofs.Calls
import StepEngine.Proofs.Share.World

/-!
# Twins: the engine with other data outside of a share

The machine looks at the stores, the inputs and the keys in a few places only: when a program asks for them, when step code begins and
gets its data, and when a step ends and wants to wait for a key. So two states that differ in these alone, and agree on a share, go the
same way as long as what happens keeps to the share (`Share.Twins.step`). Handlers, steps and receivers may do whatever else they want.
-/

namespace StepEngine

open Machine

variable {V : Vocabulary} {ρ : Type}

/-! ## The same but for holdings -/

/-- A world with the stores, the inputs and the keys of another. -/
def World.withHoldings (w v : World V) : World V :=
  { w with stepData := v.stepData, workflowData := v.workflowData, inputs := v.inputs, keys := v.keys }

namespace Share

/-- Two scenes that differ in the stores, the inputs and the keys at most, where they agree on a share, and in their logs. -/
structure Twin (a : Share) (sc sc' : Scene V) : Prop where
  agree : a.Agree sc.world sc'.world
  rest : sc'.world = sc.world.withHoldings sc'.world
  memory : sc'.memory = sc.memory

/-- Two states in twin scenes in which the same happens next. -/
structure Twins (a : Share) (s s' : MachineState V ρ) : Prop where
  scene : a.Twin s.scene s'.scene
  control : s'.control = s.control

variable {a : Share} {sc sc' : Scene V} {c : Client V}

namespace Twin

/-- The log does not matter. -/
theorem note (h : a.Twin sc sc') (events events' : List LogEvent) : a.Twin (sc.note events) (sc'.note events') :=
  ⟨h.agree, h.rest, h.memory⟩

/-- A change that has nothing to do with the stores, the inputs and the keys. -/
theorem update (h : a.Twin sc sc') (f : World V → World V) (keeps : ∀ w : World V, w.SameHoldings (f w))
    (blind : ∀ w v, f (w.withHoldings v) = (f w).withHoldings v) : a.Twin (sc.update f) (sc'.update f) where
  agree := h.agree.congr (keeps _) (keeps _)
  rest := by
    have hsame : (f sc.world).withHoldings (f sc'.world) = (f sc.world).withHoldings sc'.world := by
      rw [World.withHoldings, (keeps sc'.world).stepData, (keeps sc'.world).workflowData, (keeps sc'.world).inputs, (keeps sc'.world).keys]
      rfl
    exact (congrArg f h.rest).trans ((blind _ _).trans hsame.symm)
  memory := h.memory

/-- A slot changes in both. -/
theorem modifySlot (h : a.Twin sc sc') (seat : Seat) (f : Slot V.Definition → Slot V.Definition) :
    a.Twin (sc.modifySlot seat f) (sc'.modifySlot seat f) :=
  h.update _ (fun _ => ⟨rfl, rfl, rfl, rfl⟩) fun _ _ => rfl

theorem slots_eq (h : a.Twin sc sc') : sc'.world.slots = sc.world.slots := by rw [h.rest]; rfl

theorem clock_eq (h : a.Twin sc sc') : sc'.world.clock = sc.world.clock := by rw [h.rest]; rfl

theorem bus_eq (h : a.Twin sc sc') : sc'.world.bus = sc.world.bus := by rw [h.rest]; rfl

theorem attachment_eq (h : a.Twin sc sc') : sc'.world.attachment = sc.world.attachment := by rw [h.rest]; rfl

theorem isHeld_eq (h : a.Twin sc sc') (executor : Nat) : sc'.world.isHeld executor = sc.world.isHeld executor := by rw [h.rest]; rfl

/-- The keys change, and the share stays the same. -/
theorem keys (h : a.Twin sc sc') {keys keys' : KeyRegistry} (agree : a.KeysAgree keys keys') :
    a.Twin (sc.update fun w => { w with keys := keys }) (sc'.update fun w => { w with keys := keys' }) where
  agree := ⟨h.agree.stepData, h.agree.workflowData, h.agree.inputs, agree⟩
  rest := congrArg (fun w : World V => { w with keys := keys' }) h.rest
  memory := h.memory

/-- A step instance gets data in both. -/
theorem seed (h : a.Twin sc sc') (step : StepId) (defaults : Data) :
    a.Twin (sc.update fun w => { w with stepData := w.stepData.seed step defaults })
      (sc'.update fun w => { w with stepData := w.stepData.seed step defaults }) where
  agree := h.agree.seed step defaults
  rest := congrArg (fun w : World V => { w with stepData := sc'.world.stepData.seed step defaults }) h.rest
  memory := h.memory

end Twin

/-! ## Parts of the machine -/

variable (h : a.Twin sc sc')

include h

theorem twins_publish (topic : String) (payload : Json) (below : Stack V ρ .report) :
    a.Twins (publish c sc topic payload below) (publish c sc' topic payload below) := by
  have hcounted := h.update (fun w => { w with bus := w.bus.countPublished }) (fun _ => ⟨rfl, rfl, rfl, rfl⟩) fun _ _ => rfl
  simp only [publish, hcounted.bus_eq, hcounted.clock_eq]
  split
  · exact ⟨hcounted.note _ _, rfl⟩
  · exact ⟨hcounted, rfl⟩

theorem twin_account (d : Delivery V.Handler) (verdict : Verdict) :
    a.Twin (account c sc d verdict).1 (account c sc' d verdict).1 ∧ (account c sc' d verdict).2 = (account c sc d verdict).2 := by
  cases verdict with
  | ok => exact ⟨h.update (fun w => { w with bus := w.bus.countDelivered }) (fun _ => ⟨rfl, rfl, rfl, rfl⟩) fun _ _ => rfl, rfl⟩
  | failed error panicked =>
    exact ⟨(h.update (fun w => { w with bus := w.bus.countFailed (failureOf c d error panicked) }) (fun _ => ⟨rfl, rfl, rfl, rfl⟩)
      fun _ _ => rfl).note _ _, rfl⟩

theorem twins_handled (d : Delivery V.Handler) (verdict : Verdict) (below : Stack V ρ .report) :
    a.Twins (handled c sc d verdict below) (handled c sc' d verdict below) := by
  obtain ⟨haccount, hreport⟩ := twin_account (c := c) (h.note (slowReport c sc.world d) (slowReport c sc'.world d)) d verdict
  simp only [handled, hreport, haccount.clock_eq]
  split
  · exact ⟨haccount.note _ _, rfl⟩
  · exact ⟨haccount, rfl⟩

theorem twins_announce (seat : Seat) (t : Transition) (phase : Phase) (below : Stack V ρ .outcome) :
    a.Twins (announce c sc seat t phase below) (announce c sc' seat t phase below) := by
  rw [announce, announce, h.clock_eq]
  split
  · exact twins_publish h _ _ _
  · exact ⟨h, rfl⟩

theorem twins_execute {k : Kind} (executor : Nat) (definition : V.Definition) (step : StepId) (background : Bool)
    (next : StepOutcome → Program V (k.Result ρ)) (below : Stack V ρ (.code k)) :
    a.Twins (execute c sc executor definition step background next below)
      (execute c sc' executor definition step background next below) := by
  have hnoted := h.note [logTransition step Slot.startTransition] [logTransition step Slot.startTransition]
  have hstarted := hnoted.update (fun w => { w with slots := w.slots.start executor definition step }) (fun _ => ⟨rfl, rfl, rfl, rfl⟩)
    fun _ _ => rfl
  simp only [execute, hnoted.slots_eq]
  split
  · exact ⟨hnoted.note _ _, rfl⟩
  · exact twins_announce (hstarted.note _ _) _ _ _ _

theorem twins_applyResumption {k : Kind} (executor : Nat) (r : Resumption) (next : Option StepOutcome → Program V (k.Result ρ))
    (below : Stack V ρ (.code k)) : a.Twins (applyResumption c sc executor r next below) (applyResumption c sc' executor r next below) := by
  simp only [applyResumption, h.slots_eq]
  split
  · exact ⟨h.note _ _, rfl⟩
  · split
    · exact ⟨(h.modifySlot _ _).note _ _, rfl⟩
    · split
      · exact ⟨h.note _ _, rfl⟩
      · exact twins_announce ((h.modifySlot _ _).note _ _) _ _ _ _

/-- A key of the share is resolved. -/
theorem twins_resolve {k : Kind} {key : AsyncKey} (names : a.names key) (outcome : AsyncOutcome)
    (next : Except KeyError Unit → Program V (k.Result ρ)) (below : Stack V ρ (.code k)) :
    a.Twins (resolve c sc key outcome next below) (resolve c sc' key outcome next below) := by
  have hclock : a.tells sc.world.clock = a.tells sc'.world.clock := by rw [h.clock_eq]
  rcases h.agree.keys.resolve names outcome hclock with ⟨e, hr, hr'⟩ | ⟨r, keys, keys', hr, hr', -, hkeys⟩
  · rw [resolve_eq_error next below hr, resolve_eq_error next below hr']
    exact ⟨h, rfl⟩
  · have hnoted := (h.keys hkeys).note [LogEvent.keyOperation "resolve" key.token (some r.step.text) outcome.keyState.text]
      [LogEvent.keyOperation "resolve" key.token (some r.step.text) outcome.keyState.text]
    simp only [resolve, hr, hr', hnoted.attachment_eq, hnoted.isHeld_eq]
    split
    · exact ⟨hnoted.note _ _, rfl⟩
    · exact ⟨hnoted, rfl⟩
    · split
      · exact twins_applyResumption hnoted _ _ _ _
      · exact ⟨hnoted.note _ _, rfl⟩

/-- A run of a step ends, and the key that it waits for is one of the share. -/
theorem twins_settle (seat : Seat) {result : Except StepError Completion} (names : ∀ key, result = .ok (.suspended key) → a.names key)
    (below : Stack V ρ .outcome) : a.Twins (settle c sc seat result below) (settle c sc' seat result below) := by
  simp only [settle, h.agree.outcomeOf_eq names (congrArg (Slots.at? · seat) h.slots_eq), h.slots_eq]
  split
  · exact ⟨h, rfl⟩
  · split
    · exact twins_announce ((h.modifySlot _ _).note _ _) _ _ _ _
    · exact ⟨(h.modifySlot _ _).note _ _, rfl⟩

theorem twins_drain (seat : Seat) (outcome : StepOutcome) (below : Stack V ρ .outcome) :
    a.Twins (drain c sc seat outcome below) (drain c sc' seat outcome below) := by
  simp only [drain, h.slots_eq]
  split
  · exact ⟨h.note _ _, rfl⟩
  · split
    · exact ⟨((h.modifySlot _ _).note _ _).note _ _, rfl⟩
    · exact twins_announce (((h.modifySlot _ _).note _ _).note _ _) _ _ _ _

theorem twins_enter (seat : Seat) (definition : V.Definition) (below : Stack V ρ .outcome) :
    a.Twins (enter c sc seat definition below) (enter c sc' seat definition below) := by
  rw [enter, enter]
  split
  · exact ⟨h, rfl⟩
  · exact ⟨(h.note _ _).seed _ _, rfl⟩

theorem twins_proceed (seat : Seat) (phase : Phase) (below : Stack V ρ .outcome) :
    a.Twins (proceed c sc seat phase below) (proceed c sc' seat phase below) := by
  rw [proceed.eq_def, proceed.eq_def, h.slots_eq]
  split
  · exact twins_drain h _ _ _
  · exact twins_enter h _ _ _
  · rw [resume, resume]
    split <;> exact ⟨h, rfl⟩
  · exact ⟨h, rfl⟩

theorem twins_unwind {e : Expects} (message : String) (stack : Stack V ρ e) :
    a.Twins (unwind c sc message stack) (unwind c sc' message stack) := by
  cases stack with
  | handling d below =>
    rw [unwind, unwind]
    exact twins_handled h _ _ _
  | active seat below => exact ⟨h.note _ _, rfl⟩
  | awaiting next background below =>
    rw [unwind, unwind]
    split <;> exact ⟨h, rfl⟩
  | _ => exact ⟨h, rfl⟩

theorem twins_reported (result : PublishReport) (stack : Stack V ρ .report) :
    a.Twins (reported sc result stack) (reported sc' result stack) := by
  cases stack with
  | publishing next below => exact ⟨h, rfl⟩
  | announcing seat phase below =>
    rw [reported, reported]
    split
    · exact ⟨h, rfl⟩
    · exact ⟨h.note _ _, rfl⟩

omit h

/-! ## Steps -/

/-- A request that is about something else is answered the same whatever the stores, the inputs and the keys are, and leaves them alone. -/
theorem run_withHoldings {op : PlainOp V} (other : op.aboutHoldings = false) (w v : World V) :
    op.run (w.withHoldings v) = ((op.run w).1, (op.run w).2.withHoldings v) := by
  cases op with
  | detach =>
    simp only [PlainOp.run]
    cases hattached : w.attachment <;> simp [World.withHoldings, hattached]
  | stepData _ => cases other
  | workflowData _ => cases other
  | key _ => cases other
  | startWorkflow _ _ => cases other
  | input _ => cases other
  | purgeWorkflow _ => cases other
  | _ => rfl

/-- A request within the share is answered alike in twin scenes, and leaves twins. -/
theorem Twin.run (h : a.Twin sc sc') {op : PlainOp V} (within : op.Within a) (journal journal' : List LogEvent) :
    op.told a.tells (op.run sc'.world).1 = op.told a.tells (op.run sc.world).1 ∧
      a.Twin ⟨(op.run sc.world).2, sc.memory, journal⟩ ⟨(op.run sc'.world).2, sc'.memory, journal'⟩ := by
  have hclock : a.tells sc.world.clock = a.tells sc'.world.clock := by rw [h.clock_eq]
  have hrun := h.agree.run within hclock
  cases about : op.aboutHoldings with
  | false =>
    have hrest := run_withHoldings about sc.world sc'.world
    rw [← h.rest] at hrest
    rw [hrest]
    refine ⟨rfl, ?_, rfl, h.memory⟩
    rwa [hrest] at hrun
  | true =>
    -- the two worlds change in the same way but for what the request does to the stores, the inputs and the keys
    refine ⟨(h.agree.answer about within hclock).symm, hrun, ?_, h.memory⟩
    cases op with
    | stepData op => exact congrArg (fun w : World V => { w with stepData := (op.run sc'.world.stepData).2 }) h.rest
    | workflowData op => exact congrArg (fun w : World V => { w with workflowData := (op.run sc'.world.workflowData).2 }) h.rest
    | startWorkflow workflow input =>
      exact congrArg (fun w : World V =>
        { w with inputs := sc'.world.inputs.put workflow input, workflowData := sc'.world.workflowData.seed workflow Dict.empty }) h.rest
    | input workflow => exact h.rest
    | purgeWorkflow workflow =>
      exact congrArg (fun w : World V =>
        { w with
          stepData := sc'.world.stepData.purge workflow
          workflowData := sc'.world.workflowData.purge workflow
          keys := sc'.world.keys.purge workflow
          inputs := sc'.world.inputs.erase workflow }) h.rest
    | key op =>
      have hbound : (op.run sc'.world.keys sc'.world.clock).2.2 = (op.run sc.world.keys sc.world.clock).2.2 :=
        (h.agree.keys.run within hclock).2.2.symm
      show (PlainOp.run sc'.world (.key op)).2 = World.withHoldings (PlainOp.run sc.world (.key op)).2 (PlainOp.run sc'.world (.key op)).2
      rw [PlainOp.keys_run_key, PlainOp.keys_run_key, hbound]
      split
      · exact congrArg
          (fun w : World V => ({ w with keys := (op.run sc'.world.keys sc'.world.clock).2.1 } : World V).wait World.bindingTime) h.rest
      · exact congrArg (fun w : World V => { w with keys := (op.run sc'.world.keys sc'.world.clock).2.1 }) h.rest
    | _ => cases about

end Share

/-- What happens next names only workflows, step instances and keys of a share: the request that is made does, and so does a run of a step
that ends with a key to wait for. -/
structure MachineState.Within (a : Share) (s : MachineState V ρ) : Prop where
  request : ∀ op, s.request? = some op → op.Within a
  suspension : ∀ seat key below, s.control = .settle seat (.ok (.suspended key)) below → a.names key

namespace Share

/-- Twin states are followed by twin states, as long as they keep to the share, if all is told of times. -/
theorem Twins.step (exact : a.tells = id) {s s' : MachineState V ρ} (h : a.Twins s s') (within : s.Within a) :
    a.Twins (s.step c) (s'.step c) := by
  obtain ⟨sc, control⟩ := s
  obtain ⟨sc', control'⟩ := s'
  obtain ⟨h, hcontrol⟩ := h
  cases hcontrol
  have hrequest := within.request
  cases control with
  | run program stack =>
    cases program with
    | done result =>
      cases stack with
      | handling d below => exact twins_handled h _ _ _
      | _ => exact ⟨h, rfl⟩
    | crash message => exact ⟨h, rfl⟩
    | look next => exact ⟨h, congrArg (fun memory => Control.run (next memory) stack) h.memory⟩
    | remember memory next => exact ⟨⟨h.agree, h.rest, rfl⟩, rfl⟩
    | call op next =>
      have hop := hrequest op rfl
      cases op with
      | plain op =>
        obtain ⟨hanswer, htwin⟩ := h.run hop ((op.report c.handlerName sc.world).reverse ++ sc.journal)
          ((op.report c.handlerName sc'.world).reverse ++ sc'.journal)
        rw [exact, PlainOp.told_id, PlainOp.told_id] at hanswer
        exact ⟨htwin, congrArg (fun answer => Control.run (next answer) stack) hanswer⟩
      | publish topic payload => exact twins_publish h _ _ _
      | resolve key outcome => exact twins_resolve h hop _ _ _
      | execute executor definition step background => exact twins_execute h _ _ _ _ _ _
      | apply executor r => exact twins_applyResumption h _ _ _ _
  | report result stack => exact twins_reported h _ _
  | proceed seat phase stack => exact twins_proceed h _ _ _
  | settle seat result stack =>
    refine twins_settle h _ (fun key hkey => ?_) _
    subst hkey
    exact within.suspension seat key stack rfl
  | outcome result stack =>
    cases stack
    exact ⟨h, rfl⟩
  | unwind message stack => exact twins_unwind h _ _
  | finished result => exact ⟨h, rfl⟩

end Share

end StepEngine
