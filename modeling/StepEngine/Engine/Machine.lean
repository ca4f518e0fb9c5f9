import StepEngine.Codec
import StepEngine.Engine.Program

/-!
# Machine: how the engine runs programs, one step at a time

At any moment one program runs. A request that is answered at once takes one step. Any other request suspends the program that made it:
a frame on the stack keeps what the program will do with the answer, and other code runs first. So a publication puts its delivery on
the stack and runs one handler after the other; executing a step puts its activation there, announces the start, runs the step's entry
behaviour, settles the result and goes on with deferred resumptions until none is left. Handlers and steps may make the same requests
again, to any depth.

Every state in between is a `MachineState`, and `MachineState.step` leads from one to the next. A stack is indexed by what the code on top of it
is expected to give back, so that a frame always gets an answer of the kind it waits for. A panic unwinds the stack to the next frame
that catches it: a delivery notes it as a failure of the handler, an activation as a failure of the step.
-/

namespace StepEngine

/-- Whose code a program is. -/
inductive Kind where
  /-- The code that drives the engine from outside. -/
  | main
  /-- The handler of a notification. -/
  | handler
  /-- The entry or resumption behaviour of a step. -/
  | step
  /-- A receiver of resumptions. -/
  | receiver
  deriving DecidableEq

/-- What code of a kind gives back; the code that drives the engine gives back a `ρ`. -/
abbrev Kind.Result (ρ : Type) : Kind → Type
  | .main => ρ
  | .handler => Except HandlerError Unit
  | .step => Except StepError Completion
  | .receiver => Unit

/-- What the top of a stack waits for. -/
inductive Expects where
  | code (kind : Kind)
  | report
  | outcome

/-- What follows in an activation when an announcement is over. -/
inductive Phase where
  /-- The start was announced: the entry behaviour runs. -/
  | starting
  /-- A settled run was announced: deferred resumptions are tried. -/
  | settled (outcome : StepOutcome)
  /-- A resumption was announced: the resumption behaviour runs. -/
  | resuming (outcome : AsyncOutcome)

/-- The suspended code, by what its top waits for. -/
inductive Stack (V : Vocabulary) (ρ : Type) : Expects → Type where
  /-- The code that drives the engine is not called by anybody. -/
  | bottom : Stack V ρ (.code .main)
  /-- A handler runs for a delivery. -/
  | handling (delivery : Delivery V.Handler) (below : Stack V ρ .report) : Stack V ρ (.code .handler)
  /-- A receiver runs for a program that resolved a key. -/
  | receiving {k : Kind} (next : Program V (k.Result ρ)) (below : Stack V ρ (.code k)) : Stack V ρ (.code .receiver)
  /-- A step runs for an activation. -/
  | active (seat : Seat) (below : Stack V ρ .outcome) : Stack V ρ (.code .step)
  /-- A delivery is made for a program. -/
  | publishing {k : Kind} (next : PublishReport → Program V (k.Result ρ)) (below : Stack V ρ (.code k)) :
      Stack V ρ .report
  /-- A delivery is made for an activation that announces what it does. -/
  | announcing (seat : Seat) (phase : Phase) (below : Stack V ρ .outcome) : Stack V ρ .report
  /-- An activation is made for a program; `background` says that a panic is an outcome too. -/
  | awaiting {k : Kind} (next : StepOutcome → Program V (k.Result ρ)) (background : Bool)
      (below : Stack V ρ (.code k)) : Stack V ρ .outcome

namespace Stack

variable {V : Vocabulary} {ρ : Type}

/-- The seats of the activations in progress, the innermost first. -/
def seats : {e : Expects} → Stack V ρ e → List Seat
  | _, bottom => []
  | _, handling _ below => below.seats
  | _, receiving _ below => below.seats
  | _, active seat below => seat :: below.seats
  | _, publishing _ below => below.seats
  | _, announcing seat _ below => seat :: below.seats
  | _, awaiting _ _ below => below.seats

/-- An activation of an executor is in progress. -/
def occupies {e : Expects} (stack : Stack V ρ e) (executor : Nat) : Bool :=
  stack.seats.any fun seat => seat.executor == executor

end Stack

/-- What happens next. -/
inductive Control (V : Vocabulary) (ρ : Type) where
  /-- A program runs. -/
  | run {k : Kind} (program : Program V (k.Result ρ)) (stack : Stack V ρ (.code k))
  /-- A delivery is complete. -/
  | report (result : PublishReport) (stack : Stack V ρ .report)
  /-- An activation goes on after an announcement. -/
  | proceed (seat : Seat) (phase : Phase) (stack : Stack V ρ .outcome)
  /-- A run of an activation ended. -/
  | settle (seat : Seat) (result : Except StepError Completion) (stack : Stack V ρ .outcome)
  /-- An activation is over. -/
  | outcome (result : StepOutcome) (stack : Stack V ρ .outcome)
  /-- A panic is on its way down the stack. -/
  | unwind {e : Expects} (message : String) (stack : Stack V ρ e)
  /-- Everything is over: the result, or the panic that nobody caught. -/
  | finished (result : Except String ρ)

/-- Everything but the control: the world, the memory of the code, and the log, the latest event first. -/
structure Scene (V : Vocabulary) where
  world : World V
  memory : V.Memory
  journal : List LogEvent

/-- A state of the machine. -/
structure MachineState (V : Vocabulary) (ρ : Type) where
  scene : Scene V
  control : Control V ρ

namespace Scene

variable {V : Vocabulary}

/-- Events put down in the log. -/
def note (sc : Scene V) (events : List LogEvent) : Scene V := { sc with journal := events.reverse ++ sc.journal }

/-- The world changed. -/
def update (sc : Scene V) (f : World V → World V) : Scene V := { sc with world := f sc.world }

/-- A slot changed. -/
def modifySlot (sc : Scene V) (seat : Seat) (f : Slot V.Definition → Slot V.Definition) : Scene V :=
  sc.update fun w => { w with slots := w.slots.modify seat f }

end Scene

namespace Machine

/-! ## Reports -/

/-- The report of an accepted transition. -/
def logTransition (step : StepId) (t : Transition) : LogEvent where
  level := .trace
  message := "Step state transition"
  fields :=
    [("step_instance", .text step.text), ("from", .text t.source.text), ("to", .text t.target.text),
      ("event", .text t.event.kind)]

/-- The report of a handler that ran too long. -/
def logSlow (name : String) (topic : String) (id elapsedMs thresholdMs : Nat) : LogEvent where
  level := .warn
  message := "Slow notification handler delayed publisher"
  fields :=
    [("topic", .text topic), ("subscription_id", .nat id), ("handler", .text name), ("elapsed_ms", .nat elapsedMs),
      ("threshold_ms", .nat thresholdMs)]

/-- The report of a resumption about a step instance and a key. -/
def logResumption (level : LogLevel) (message : String) (r : Resumption) : LogEvent where
  level := level
  message := message
  fields := [("step_instance", .text r.step.text), ("async_key", .text r.key.token)]

/-- The report of a resumption that the lifecycle refused. -/
def logRejected (r : Resumption) (state : StepState) (e : LifecycleError) : LogEvent where
  level := .warn
  message := "Resumption rejected"
  fields :=
    [("step_instance", .text r.step.text), ("async_key", .text r.key.token), ("state", .text state.text),
      ("error", .text e.message)]

/-- The report of an announcement that some handlers failed on. -/
def logAnnouncement (step : StepId) (r : PublishReport) : LogEvent where
  level := .debug
  message := "Lifecycle notification had failing handlers"
  fields := [("step_instance", .text step.text), ("topic", .text r.topic), ("failures", .nat r.failures.length)]

/-- The wording of a panic that ended a background task. -/
def taskPanic (message : String) : String := "task panicked with message " ++ Quoted.quote message

variable {V : Vocabulary} {ρ : Type}

/-! ## Deliveries -/

/-- A publication begins: its subscribers are those of this moment. Without any the report is complete at once. -/
def publish (c : Client V) (sc : Scene V) (topic : String) (payload : Json) (below : Stack V ρ .report) :
    MachineState V ρ :=
  let sc := sc.update fun w => { w with bus := w.bus.countPublished }
  match sc.world.bus.subscribers topic with
  | [] => ⟨sc.note [PublishReport.logDropped topic], .report ⟨topic, 0, []⟩ below⟩
  | first :: rest =>
    let notification : Notification := ⟨topic, payload, sc.world.clock⟩
    let delivery : Delivery V.Handler := ⟨notification, first, sc.world.clock, rest, ⟨topic, 0, []⟩⟩
    ⟨sc, .run (k := .handler) (c.handle first.handler notification) (.handling delivery below)⟩

/-- How a handler ended: well, or with the text of an error or of a panic. -/
inductive Verdict where
  | ok
  | failed (error : String) (panicked : Bool)

/-- The verdict on what a handler gave back. -/
def Verdict.ofResult : Except HandlerError Unit → Verdict
  | .ok () => .ok
  | .error e => .failed e.message false

/-- The report of a handler that ran longer than the settings allow, if it did. A handler runs a moment longer than the clock shows, so it is
too slow as soon as the clock has reached the limit, and under a limit of zero always. -/
def slowReport (c : Client V) (w : World V) (d : Delivery V.Handler) : List LogEvent :=
  match w.config.notifications.slowHandlerThresholdMs with
  | none => []
  | some ms =>
    let elapsed := w.clock - d.startedAt
    if ms.toNat * 1000000 ≤ elapsed then
      [logSlow (c.handlerName d.current.handler) d.notification.topic d.current.id (elapsed / 1000000) ms.toNat]
    else []

/-- A handler's failure as the report has it. -/
def failureOf (c : Client V) (d : Delivery V.Handler) (error : String) (panicked : Bool) : HandlerFailure :=
  ⟨d.notification.topic, d.current.id, c.handlerName d.current.handler, error, panicked⟩

/-- A handler ended: it is counted and put down in the report, and a failure goes to the fault sink. -/
def account (c : Client V) (sc : Scene V) (d : Delivery V.Handler) : Verdict → Scene V × PublishReport
  | .ok =>
    (sc.update fun w => { w with bus := w.bus.countDelivered }, { d.report with delivered := d.report.delivered + 1 })
  | .failed error panicked =>
    let failure := failureOf c d error panicked
    ((sc.update fun w => { w with bus := w.bus.countFailed failure }).note
        (if sc.world.bus.logsFaults then [failure.log] else []),
      { d.report with failures := d.report.failures ++ [failure] })

/-- A handler ended: the next one runs, or the report is complete. -/
def handled (c : Client V) (sc : Scene V) (d : Delivery V.Handler) (verdict : Verdict) (below : Stack V ρ .report) :
    MachineState V ρ :=
  let (sc, report) := account c (sc.note (slowReport c sc.world d)) d verdict
  match d.remaining with
  | [] => ⟨sc.note [report.logPublished], .report report below⟩
  | next :: rest =>
    let delivery : Delivery V.Handler :=
      { d with current := next, startedAt := sc.world.clock, remaining := rest, report := report }
    ⟨sc, .run (k := .handler) (c.handle next.handler d.notification) (.handling delivery below)⟩

/-! ## Activations -/

/-- What is announced about a transition. -/
def announcement (step : StepId) (t : Transition) (now : Instant) : Json :=
  Json.record
    [("workflow_instance_id", step.workflow.toJson), ("step_name", .text step.name), ("index", .nat step.index.toNat),
      ("from_state", t.source.toJson), ("to_state", t.target.toJson), ("event", t.event.toJson),
      ("transitioned_at", .text (toString now))]

/-- A transition is announced, and the activation goes on with a phase afterwards. -/
def announce (c : Client V) (sc : Scene V) (seat : Seat) (t : Transition) (phase : Phase) (below : Stack V ρ .outcome) :
    MachineState V ρ :=
  match t.topic? with
  | some topic => publish c sc topic (announcement seat.step t sc.world.clock) (.announcing seat phase below)
  | none => ⟨sc, .proceed seat phase below⟩

/-- A step is executed as an instance: its slot is opened and its start announced, unless the executor has a slot for it. -/
def execute {k : Kind} (c : Client V) (sc : Scene V) (executor : Nat) (definition : V.Definition) (step : StepId)
    (background : Bool) (next : StepOutcome → Program V (k.Result ρ)) (below : Stack V ρ (.code k)) : MachineState V ρ :=
  let sc := sc.note [logTransition step Slot.startTransition]
  match sc.world.slots.current? executor step with
  | some _ =>
    ⟨sc.note [⟨.warn, "Step instance already started", [("step_instance", .text step.text)]⟩],
      .run (next (.failed (.alreadyStarted step))) below⟩
  | none =>
    let seat := sc.world.slots.nextSeat executor step
    let sc := (sc.update fun w => { w with slots := w.slots.start executor definition step }).note
      [LogEvent.stepOperation "execute" step.text "in_progress" (some (c.stepName definition))]
    announce c sc seat Slot.startTransition .starting (.awaiting next background below)

/-- A resumption reaches an executor. An instance that runs has it deferred; one that is suspended on the key is resumed; any other
rejects it. -/
def applyResumption {k : Kind} (c : Client V) (sc : Scene V) (executor : Nat) (r : Resumption)
    (next : Option StepOutcome → Program V (k.Result ρ)) (below : Stack V ρ (.code k)) : MachineState V ρ :=
  match sc.world.slots.current? executor r.step with
  | none =>
    ⟨sc.note [logResumption .warn "Resumption for unknown step instance rejected" r], .run (next none) below⟩
  | some slot =>
    if slot.running then
      let sc := sc.modifySlot slot.seat fun s => { s with deferred := s.deferred ++ [r] }
      ⟨sc.note [logResumption .debug "Step instance running, deferring resumption" r], .run (next none) below⟩
    else
      match slot.lifecycle.advance (.resume r.key) with
      | .error e => ⟨sc.note [logRejected r slot.lifecycle.state e], .run (next none) below⟩
      | .ok (t, lifecycle) =>
        let sc := (sc.modifySlot slot.seat fun s => { s with lifecycle := lifecycle, running := true }).note
          [logTransition r.step t]
        announce c sc slot.seat t (.resuming r.outcome) (.awaiting (fun o => next (some o)) false below)

/-- A key is resolved, and the resumption handed to whoever is attached. -/
def resolve {k : Kind} (c : Client V) (sc : Scene V) (key : AsyncKey) (outcome : AsyncOutcome)
    (next : Except KeyError Unit → Program V (k.Result ρ)) (below : Stack V ρ (.code k)) : MachineState V ρ :=
  match sc.world.keys.resolve key outcome sc.world.clock with
  | .error e => ⟨sc, .run (next (.error e)) below⟩
  | .ok (r, keys) =>
    let sc := (sc.update fun w => { w with keys := keys }).note
      [LogEvent.keyOperation "resolve" key.token (some r.step.text) outcome.keyState.text]
    let undelivered := LogEvent.mk .warn "No resumption handler attached, resolution recorded without resuming"
      [("async_key", .text r.key.token), ("step_instance", .text r.step.text)]
    match sc.world.attachment with
    | .none => ⟨sc.note [undelivered], .run (next (.ok ())) below⟩
    | .receiver descriptor => ⟨sc, .run (k := .receiver) (c.receive descriptor r) (.receiving (next (.ok ())) below)⟩
    | .executor id =>
      if sc.world.isHeld id || below.occupies id then applyResumption c sc id r (fun _ => next (.ok ())) below
      else ⟨sc.note [undelivered], .run (next (.ok ())) below⟩

/-- A step may suspend only on a pending key that is bound to itself. A key that is already resolved will do as long as its resumption
is deferred in the slot; otherwise nothing could ever resume the instance. -/
def checkSuspension (w : World V) (seat : Seat) (key : AsyncKey) : StepOutcome :=
  match w.keys.status key with
  | .error e => .failed (.key e)
  | .ok status =>
    if status.step ≠ seat.step then
      .failed (.raised "invalid_async_key" ("async key " ++ key.token ++ " is bound to " ++ status.step.text))
    else if status.state = .pending ∨
        ((w.slots.at? seat).any fun slot => slot.deferred.any fun r => r.key = key) then
      .suspended key
    else .failed (.raised "invalid_async_key" ("async key " ++ key.token ++ " is already " ++ status.state.text))

/-- The outcome of a run by what its code gave back. -/
def outcomeOf (w : World V) (seat : Seat) : Except StepError Completion → StepOutcome
  | .ok .complete => .complete
  | .ok (.suspended key) => checkSuspension w seat key
  | .error e => .failed e

/-- A run of an activation ended: its outcome is kept in the slot and the transition announced. -/
def settle (c : Client V) (sc : Scene V) (seat : Seat) (result : Except StepError Completion)
    (below : Stack V ρ .outcome) : MachineState V ρ :=
  let outcome := outcomeOf sc.world seat result
  match sc.world.slots.at? seat with
  | none => ⟨sc, .proceed seat (.settled outcome) below⟩
  | some slot =>
    match slot.lifecycle.advance outcome.event with
    | .ok (t, lifecycle) =>
      let sc := (sc.modifySlot seat fun s => { s with lifecycle := lifecycle, lastOutcome := some outcome }).note
        [logTransition seat.step t]
      announce c sc seat t (.settled outcome) below
    | .error e =>
      let sc := (sc.modifySlot seat fun s => { s with lastOutcome := some outcome }).note
        [LogEvent.failure "step_executor" "settle" e.message (some seat.step.text)]
      ⟨sc, .proceed seat (.settled outcome) below⟩

/-- The first deferred resumption that the lifecycle accepts, with the transition, and the rejections before it; what is deferred behind
it stays. -/
def nextDeferred (lifecycle : Lifecycle) :
    List Resumption → List LogEvent × Option (Resumption × Transition × Lifecycle × List Resumption)
  | [] => ([], none)
  | r :: rest =>
    match lifecycle.advance (.resume r.key) with
    | .ok (t, l) => ([], some (r, t, l, rest))
    | .error e =>
      let (events, found) := nextDeferred lifecycle rest
      (logRejected r lifecycle.state e :: events, found)

/-- The activation of a slot goes on after a settled run: with the next deferred resumption, or it is over and the slot idle. -/
def drain (c : Client V) (sc : Scene V) (seat : Seat) (outcome : StepOutcome) (below : Stack V ρ .outcome) :
    MachineState V ρ :=
  let finish (sc : Scene V) : MachineState V ρ :=
    ⟨sc.note [LogEvent.stepOperation "settle" seat.step.text outcome.status (outcome.error?.map StepError.message)],
      .outcome outcome below⟩
  match sc.world.slots.at? seat with
  | none => finish sc
  | some slot =>
    match nextDeferred slot.lifecycle slot.deferred with
    | (events, none) => finish ((sc.modifySlot seat fun s => { s with deferred := [], running := false }).note events)
    | (events, some (r, t, lifecycle, rest)) =>
      let sc := ((sc.modifySlot seat fun s => { s with lifecycle := lifecycle, deferred := rest }).note events).note
        [logTransition seat.step t]
      announce c sc seat t (.resuming r.outcome) below

/-- The resumption behaviour of a step runs; a step without one fails. -/
def resume (c : Client V) (sc : Scene V) (seat : Seat) (definition : V.Definition) (outcome : AsyncOutcome)
    (below : Stack V ρ .outcome) : MachineState V ρ :=
  match c.resume definition with
  | some behaviour => ⟨sc, .run (k := .step) (behaviour seat.step outcome) (.active seat below)⟩
  | none =>
    ⟨sc, .settle seat
      (.error (.notResumable seat.step ("step '" ++ c.stepName definition ++ "' has no resumption behavior"))) below⟩

/-- The entry behaviour of a step runs, on the data that the instance has or on the defaults. -/
def enter (c : Client V) (sc : Scene V) (seat : Seat) (definition : V.Definition) (below : Stack V ρ .outcome) :
    MachineState V ρ :=
  match c.defaultData definition with
  | .error message => ⟨sc, .unwind message below⟩
  | .ok defaults =>
    let op := StoreOp.seed seat.step defaults
    let sc := (sc.note (op.log sc.world.stepData)).update fun w =>
      { w with stepData := w.stepData.seed seat.step defaults }
    ⟨sc, .run (k := .step) (c.primary definition seat.step) (.active seat below)⟩

/-- An activation goes on with a phase. -/
def proceed (c : Client V) (sc : Scene V) (seat : Seat) (phase : Phase) (below : Stack V ρ .outcome) : MachineState V ρ :=
  match phase, (sc.world.slots.at? seat).map (·.definition) with
  | .settled outcome, _ => drain c sc seat outcome below
  | .starting, some definition => enter c sc seat definition below
  | .resuming outcome, some definition => resume c sc seat definition outcome below
  | _, none => ⟨sc, .unwind "no such slot" below⟩

/-! ## Steps -/

/-- A program runs on. -/
def run {k : Kind} (c : Client V) (sc : Scene V) (program : Program V (k.Result ρ)) (stack : Stack V ρ (.code k)) :
    MachineState V ρ :=
  match program with
  | .look next => ⟨sc, .run (next sc.memory) stack⟩
  | .remember memory next => ⟨{ sc with memory := memory }, .run next stack⟩
  | .crash message => ⟨sc, .unwind message stack⟩
  | .call (.plain op) next =>
    let events := op.report c.handlerName sc.world
    let (answer, world) := op.run sc.world
    ⟨({ sc with world := world } : Scene V).note events, .run (next answer) stack⟩
  | .call (.publish topic payload) next => publish c sc topic payload (.publishing next stack)
  | .call (.resolve key outcome) next => resolve c sc key outcome next stack
  | .call (.execute executor definition step background) next =>
    execute c sc executor definition step background next stack
  | .call (.apply executor r) next => applyResumption c sc executor r next stack
  | .done result =>
    match k, stack, result with
    | .main, .bottom, result => ⟨sc, .finished (.ok result)⟩
    | .handler, .handling delivery below, result => handled c sc delivery (.ofResult result) below
    | .step, .active seat below, result => ⟨sc, .settle seat result below⟩
    | .receiver, .receiving next below, () => ⟨sc, .run next below⟩

/-- A delivery is complete: whoever published goes on. -/
def reported (sc : Scene V) (result : PublishReport) : Stack V ρ .report → MachineState V ρ
  | .publishing next below => ⟨sc, .run (next result) below⟩
  | .announcing seat phase below =>
    ⟨if result.isClean then sc else sc.note [logAnnouncement seat.step result], .proceed seat phase below⟩

/-- A panic goes one frame down. -/
def unwind {e : Expects} (c : Client V) (sc : Scene V) (message : String) (stack : Stack V ρ e) : MachineState V ρ :=
  match e, stack with
  | _, .bottom => ⟨sc, .finished (.error message)⟩
  | _, .handling delivery below => handled c sc delivery (.failed message true) below
  | _, .receiving _ below => ⟨sc, .unwind message below⟩
  | _, .active seat below =>
    ⟨sc.note [LogEvent.failure "step_executor" "run_step" ("step logic panicked: " ++ message) (some seat.step.text)],
      .settle seat (.error (.panicked message)) below⟩
  | _, .publishing _ below => ⟨sc, .unwind message below⟩
  | _, .announcing _ _ below => ⟨sc, .unwind message below⟩
  | _, .awaiting next background below =>
    if background then ⟨sc, .run (next (.failed (.panicked (taskPanic message)))) below⟩
    else ⟨sc, .unwind message below⟩

end Machine

namespace MachineState

variable {V : Vocabulary} {ρ : Type}

/-- The state in which a program starts to drive the engine. -/
def start (world : World V) (memory : V.Memory) (program : Program V ρ) : MachineState V ρ :=
  ⟨⟨world, memory, []⟩, .run (k := .main) program .bottom⟩

/-- One step of the machine. A finished machine stays as it is. -/
def step (c : Client V) (state : MachineState V ρ) : MachineState V ρ :=
  match state.control with
  | .run program stack => Machine.run c state.scene program stack
  | .report result stack => Machine.reported state.scene result stack
  | .proceed seat phase stack => Machine.proceed c state.scene seat phase stack
  | .settle seat result stack => Machine.settle c state.scene seat result stack
  | .outcome result (.awaiting next _ below) => ⟨state.scene, .run (next result) below⟩
  | .unwind message stack => Machine.unwind c state.scene message stack
  | .finished _ => state

/-- The result of a finished machine. -/
def result? (state : MachineState V ρ) : Option (Except String ρ) :=
  match state.control with
  | .finished result => some result
  | _ => none

/-- Up to `fuel` steps of the machine. -/
def run (c : Client V) : Nat → MachineState V ρ → MachineState V ρ
  | 0, state => state
  | fuel + 1, state =>
    match state.control with
    | .finished _ => state
    | _ => run c fuel (state.step c)

end MachineState

end StepEngine
