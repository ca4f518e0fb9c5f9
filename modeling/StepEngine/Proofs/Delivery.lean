import Mathlib.Data.Nat.Find
import Mathlib.Logic.Function.Iterate
import StepEngine.Proofs.Table
import StepEngine.Proofs.Underway

/-!
# Delivery: a publication goes to the subscribers of the moment at which it began

A publication puts its subscribers down when it begins and calls one handler after the other (`Delivers`). While a handler runs, all that
happens belongs to it: it may publish itself, and it may subscribe and unsubscribe whomever it wants, which changes the register and not
what is still to be delivered. When it ends, well, with an error or with a panic, that is put down and the next one is called. Unless
some handler never ends, the publisher gets a report of all of them (`Machine.DeliversToSnapshot`).

Nothing is assumed about the state in which a publication begins, so all this holds at any depth.
-/

namespace StepEngine

open Machine

/-! ## The register of subscribers -/

namespace Bus

variable {H : Type} (b : Bus H)

/-- A new subscriber of a topic comes behind the others and changes no other topic. -/
theorem subscribers_subscribe (topic on : String) (handler : H) :
    (b.subscribe on handler).subscribers topic =
      if on = topic then b.subscribers topic ++ [⟨b.nextId, handler⟩] else b.subscribers topic := by
  by_cases hon : on = topic
  · subst hon
    rw [if_pos rfl, subscribers, subscribe, Table.get?_put_self, Option.getD_some]
  · rw [if_neg hon, subscribers, subscribe, Table.get?_put_other (Ne.symm hon), subscribers]

/-- Giving up a subscription gives out no number. -/
theorem nextId_unsubscribe (handle : SubscriptionHandle) : (b.unsubscribe handle).nextId = b.nextId := by
  rw [unsubscribe]
  split
  · split <;> rfl
  · rfl

/-- Whoever leaves a topic is not among its subscribers any more, and all others still are. -/
theorem subscribers_unsubscribe (topic : String) (handle : SubscriptionHandle) :
    (b.unsubscribe handle).subscribers topic =
      if handle.topic = topic then (b.subscribers topic).filter (fun s => s.id ≠ handle.id) else b.subscribers topic := by
  rw [unsubscribe]
  by_cases hon : handle.topic = topic
  · subst hon
    rw [if_pos rfl]
    change _ = b.others handle
    split
    · split
      · rename_i hempty
        rw [subscribers, Table.erase, Table.get?_filter, List.isEmpty_iff.1 hempty]
        cases b.topics.get? handle.topic <;> simp
      · rw [subscribers, Table.get?_put_self, Option.getD_some]
    · rename_i habsent
      rw [others, subscribers, Table.get?_eq_none_iff.2 (Bool.eq_false_iff.2 habsent)]
      rfl
  · rw [if_neg hon]
    split
    · split
      · rw [subscribers, Table.erase, Table.get?_filter, subscribers]
        cases b.topics.get? topic <;> simp [Ne.symm hon, Option.filter_some]
      · rw [subscribers, Table.get?_put_other (Ne.symm hon), subscribers]
    · rfl

end Bus

variable {V : Vocabulary} {ρ : Type} {c : Client V}

/-- The subscribers of a topic after a request to a bus. -/
def Op.subscribers (b : Bus V.Handler) (topic : String) : Op V → List (Subscription V.Handler)
  | .plain (.bus (.subscribe on handler)) =>
    if on = topic then b.subscribers topic ++ [⟨b.nextId, handler⟩] else b.subscribers topic
  | .plain (.bus (.unsubscribe handle)) =>
    if handle.topic = topic then (b.subscribers topic).filter (fun s => s.id ≠ handle.id) else b.subscribers topic
  | _ => b.subscribers topic

/-! ## Subscribers called one after the other -/

/-- A scene changed at most in the counters of its bus and in its log. -/
structure Scene.Counted (sc sc' : Scene V) : Prop where
  world : sc'.world = { sc.world with bus := sc'.world.bus }
  topics : sc'.world.bus.topics = sc.world.bus.topics
  nextId : sc'.world.bus.nextId = sc.world.bus.nextId
  memory : sc'.memory = sc.memory

/-- What happens next when these subscribers are still to be called: the first one's handler runs, or the report is complete. -/
def Machine.calling (c : Client V) (notification : Notification) (startedAt : Instant) (report : PublishReport) (below : Stack V ρ .report) :
    List (Subscription V.Handler) → Control V ρ
  | [] => .report report below
  | s :: rest =>
    .run (k := .handler) (c.handle s.handler notification) (.handling ⟨notification, s, startedAt, rest, report⟩ below)

/-- A publication calls those who are subscribed to its topic. -/
theorem publish_eq_calling (c : Client V) (sc : Scene V) (topic : String) (payload : Json) (below : Stack V ρ .report) :
    ∃ sc', publish c sc topic payload below =
      ⟨sc', calling c ⟨topic, payload, sc.world.clock⟩ sc.world.clock ⟨topic, 0, []⟩ below (sc.world.bus.subscribers topic)⟩ ∧
        sc.Counted sc' := by
  have hsubscribers : (sc.update fun w => { w with bus := w.bus.countPublished }).world.bus.subscribers topic =
      sc.world.bus.subscribers topic := rfl
  simp only [publish, hsubscribers]
  cases sc.world.bus.subscribers topic with
  | nil => exact ⟨_, rfl, rfl, rfl, rfl, rfl⟩
  | cons first rest => exact ⟨_, rfl, rfl, rfl, rfl, rfl⟩

/-- When a handler is over, those who remain are called with the same notification. -/
theorem handled_eq_calling (c : Client V) (sc : Scene V) (d : Delivery V.Handler) (verdict : Verdict) (below : Stack V ρ .report) :
    ∃ sc' startedAt,
      handled c sc d verdict below = ⟨sc', calling c d.notification startedAt (account c sc d verdict).2 below d.remaining⟩ ∧
        sc.Counted sc' := by
  cases verdict with
  | ok =>
    simp only [handled, account]
    cases d.remaining with
    | nil => exact ⟨_, sc.world.clock, rfl, rfl, rfl, rfl, rfl⟩
    | cons next rest => exact ⟨_, _, rfl, rfl, rfl, rfl, rfl⟩
  | failed error panicked =>
    simp only [handled, account]
    cases d.remaining with
    | nil => exact ⟨_, sc.world.clock, rfl, rfl, rfl, rfl, rfl⟩
    | cons next rest => exact ⟨_, _, rfl, rfl, rfl, rfl, rfl⟩

/-! ## Who changes the register -/

section

variable {sc : Scene V}

/-- The bus has the same subscribers on every topic, and the same number comes next. -/
structure Scene.SameRegister (sc sc' : Scene V) : Prop where
  topics : sc'.world.bus.topics = sc.world.bus.topics
  nextId : sc'.world.bus.nextId = sc.world.bus.nextId

/-- Counting and logging leave the register alone. -/
theorem Scene.Counted.sameRegister {sc sc' : Scene V} (h : sc.Counted sc') : sc.SameRegister sc' := ⟨h.topics, h.nextId⟩

theorem register_publish (topic : String) (payload : Json) (below : Stack V ρ .report) :
    sc.SameRegister (publish c sc topic payload below).scene := by
  obtain ⟨sc', heq, counted⟩ := publish_eq_calling c sc topic payload below
  rw [heq]
  exact counted.sameRegister

theorem register_handled (d : Delivery V.Handler) (verdict : Verdict) (below : Stack V ρ .report) :
    sc.SameRegister (handled c sc d verdict below).scene := by
  obtain ⟨sc', startedAt, heq, counted⟩ := handled_eq_calling c sc d verdict below
  rw [heq]
  exact counted.sameRegister

/-- Whatever goes on leaves the register alone: counting apart, it leaves the bus alone. -/
theorem Scene.SameRegister.of_goesOn {e : Expects} {stack : Stack V ρ e} {next : MachineState V ρ} (h : GoesOn c sc stack next) :
    sc.SameRegister next.scene := by
  cases h with
  | @publication sc' topic payload below bus handlings eq =>
    subst eq
    have hpublished : sc'.SameRegister (publish c sc' topic payload below).scene := register_publish topic payload below
    exact ⟨hpublished.topics.trans (congrArg Bus.topics bus), hpublished.nextId.trans (congrArg Bus.nextId bus)⟩
  | still bus handlings unreported => exact ⟨congrArg Bus.topics bus, congrArg Bus.nextId bus⟩

end

/-- Nothing but a request to the bus changes the register. -/
theorem register_other {state : MachineState V ρ} (other : ∀ op, state.request? ≠ some (.plain (.bus op))) :
    state.scene.SameRegister (state.step c).scene := by
  obtain ⟨sc, control⟩ := state
  cases control with
  | run program stack =>
    cases program with
    | call op next =>
      cases op with
      | plain op =>
        have hbus : (op.run sc.world).2.bus = sc.world.bus := bus_plain _ op fun request h => other request (congrArg (some ∘ Op.plain) h)
        exact ⟨congrArg Bus.topics hbus, congrArg Bus.nextId hbus⟩
      | publish on payload => exact register_publish _ _ _
      | resolve key outcome => exact .of_goesOn (goesOn_resolve stack key outcome next)
      | execute executor definition step background => exact .of_goesOn (goesOn_execute stack executor definition step background next)
      | apply executor r => exact .of_goesOn (goesOn_applyResumption stack executor r next)
    | done result =>
      cases stack with
      | handling d below => exact register_handled _ _ _
      | _ => exact ⟨rfl, rfl⟩
    | _ => exact ⟨rfl, rfl⟩
  | report result stack =>
    cases stack with
    | publishing next below => exact ⟨rfl, rfl⟩
    | announcing seat phase below =>
      simp only [MachineState.step, reported]
      split <;> exact ⟨rfl, rfl⟩
  | proceed seat phase stack => exact .of_goesOn (goesOn_proceed seat phase stack)
  | settle seat result stack => exact .of_goesOn (goesOn_settle seat result stack)
  | outcome result stack =>
    cases stack
    exact ⟨rfl, rfl⟩
  | unwind message stack =>
    cases stack with
    | handling d below => exact register_handled _ _ _
    | awaiting next background below =>
      simp only [MachineState.step, unwind]
      split <;> exact ⟨rfl, rfl⟩
    | _ => exact ⟨rfl, rfl⟩
  | finished result => exact ⟨rfl, rfl⟩

/-- The register changes by a request to the bus, which is carried out in one step, and in no other way. -/
theorem register_step (state : MachineState V ρ) :
    (∃ op, state.request? = some (.plain (.bus op)) ∧ (state.step c).scene.world.bus = (op.run state.scene.world.bus).2) ∨
      (∀ op, state.request? ≠ some (.plain (.bus op))) ∧ state.scene.SameRegister (state.step c).scene := by
  by_cases hrequest : ∃ op, state.request? = some (.plain (.bus op))
  · obtain ⟨op, hrequest⟩ := hrequest
    obtain ⟨k, next, below, hcontrol⟩ := MachineState.control_of_request? hrequest
    refine Or.inl ⟨op, hrequest, ?_⟩
    rw [MachineState.step, hcontrol]
    rfl
  · rw [not_exists] at hrequest
    exact Or.inr ⟨hrequest, register_other hrequest⟩

/-- The subscribers of every topic stay, but for a request to subscribe or to unsubscribe. -/
theorem subscribers_step (state : MachineState V ρ) (topic : String) :
    (state.step c).scene.world.bus.subscribers topic =
      state.request?.elim (state.scene.world.bus.subscribers topic) (Op.subscribers state.scene.world.bus topic) := by
  rcases register_step (c := c) state with ⟨op, hrequest, hbus⟩ | ⟨hother, same⟩
  · rw [hrequest, hbus]
    cases op with
    | subscribe on handler => exact Bus.subscribers_subscribe _ topic on handler
    | unsubscribe handle => exact Bus.subscribers_unsubscribe _ topic handle
    | _ => rfl
  · have hsame : (state.step c).scene.world.bus.subscribers topic = state.scene.world.bus.subscribers topic := by
      rw [Bus.subscribers, same.topics, Bus.subscribers]
    rw [hsame]
    cases hrequest : state.request? with
    | none => rfl
    | some op =>
      rw [Option.elim_some, Op.subscribers.eq_def]
      split
      · exact absurd hrequest (hother _)
      · exact absurd hrequest (hother _)
      · rfl

/-! ## Handlers that end -/

/-- A handler that a delivery called is over, and how. -/
inductive Machine.HandlerEnds (d : Delivery V.Handler) (below : Stack V ρ .report) : Control V ρ → Verdict → Prop where
  | ok : HandlerEnds d below (.run (k := .handler) (.done (.ok ())) (.handling d below)) .ok
  | error (e : HandlerError) :
    HandlerEnds d below (.run (k := .handler) (.done (.error e)) (.handling d below)) (.failed e.message false)
  | panic (message : String) : HandlerEnds d below (.unwind message (.handling d below)) (.failed message true)

variable {d : Delivery V.Handler} {below : Stack V ρ .report} {state : MachineState V ρ}

/-- The stack of a handler is left only when the handler is over. -/
theorem handler_left (on : state.control.On (.handling d below)) (off : ¬ (state.step c).control.On (.handling d below)) :
    ∃ verdict, HandlerEnds d below state.control verdict := by
  obtain ⟨sc, control⟩ := state
  obtain ⟨result, rfl⟩ | ⟨message, rfl⟩ := ended_of_step_off on off
  · cases result with
    | ok => exact ⟨_, .ok⟩
    | error e => exact ⟨_, .error e⟩
  · exact ⟨_, .panic message⟩

/-- When a handler is over, its verdict is put down. -/
theorem step_of_handlerEnds {verdict : Verdict} (h : HandlerEnds d below state.control verdict) :
    state.step c = handled c state.scene d verdict below := by
  obtain ⟨sc, control⟩ := state
  cases h <;> rfl

/-- A handler that does not run for ever ends after some steps, and up to there all that happens belongs to it. -/
theorem handler_ends (on : state.control.On (.handling d below))
    (ends : ∃ n, ¬ ((MachineState.step c)^[n] state).control.On (.handling d below)) :
    ∃ n verdict, (∀ i, i ≤ n → ((MachineState.step c)^[i] state).control.On (.handling d below)) ∧
      HandlerEnds d below ((MachineState.step c)^[n] state).control verdict := by
  classical
  have hoff := Nat.find_spec ends
  have hinside : ∀ i, i < Nat.find ends → ((MachineState.step c)^[i] state).control.On (.handling d below) :=
    fun i hi => Classical.not_not.1 (Nat.find_min ends hi)
  generalize Nat.find ends = first at hoff hinside
  cases first with
  | zero => exact absurd on hoff
  | succ n =>
    rw [Function.iterate_succ_apply'] at hoff
    obtain ⟨verdict, hends⟩ := handler_left (hinside n (Nat.lt_succ_self n)) hoff
    exact ⟨n, verdict, fun i hi => hinside i (Nat.lt_succ_of_le hi), hends⟩

/-! ## Reports -/

/-- A handler ended well. -/
def Machine.Verdict.isOk : Verdict → Bool
  | .ok => true
  | .failed _ _ => false

/-- The failure of a call of a handler, if it failed. -/
def Machine.failure? (c : Client V) (topic : String) (call : Subscription V.Handler × Verdict) : Option HandlerFailure :=
  match call.2 with
  | .ok => none
  | .failed error panicked => some ⟨topic, call.1.id, c.handlerName call.1.handler, error, panicked⟩

/-- A handler that ended well is no failure. -/
theorem filterMap_failure?_ok (topic : String) (s : Subscription V.Handler) (calls : List (Subscription V.Handler × Verdict)) :
    ((s, Verdict.ok) :: calls).filterMap (failure? c topic) = calls.filterMap (failure? c topic) :=
  List.filterMap_cons_none rfl

/-- A handler that failed is a failure. -/
theorem filterMap_failure?_failed (topic : String) (s : Subscription V.Handler) (error : String) (panicked : Bool)
    (calls : List (Subscription V.Handler × Verdict)) :
    ((s, Verdict.failed error panicked) :: calls).filterMap (failure? c topic) =
      ⟨topic, s.id, c.handlerName s.handler, error, panicked⟩ :: calls.filterMap (failure? c topic) :=
  List.filterMap_cons_some rfl

/-- A report with the calls of some more handlers put down. -/
def PublishReport.puttingDown (report : PublishReport) (c : Client V) (calls : List (Subscription V.Handler × Verdict)) :
    PublishReport where
  topic := report.topic
  delivered := report.delivered + calls.countP (·.2.isOk)
  failures := report.failures ++ calls.filterMap (failure? c report.topic)

namespace PublishReport

variable {report : PublishReport} {call : Subscription V.Handler × Verdict} {calls : List (Subscription V.Handler × Verdict)}

/-- Without further calls a report stays. -/
theorem puttingDown_nil : report.puttingDown c [] = report := by
  simp [puttingDown]

/-- Calls are put down one after the other. -/
theorem puttingDown_cons : report.puttingDown c (call :: calls) = (report.puttingDown c [call]).puttingDown c calls := by
  obtain ⟨s, verdict⟩ := call
  cases verdict with
  | ok => simp [puttingDown, filterMap_failure?_ok, Verdict.isOk, Nat.add_assoc, Nat.add_comm 1]
  | failed error panicked => simp [puttingDown, filterMap_failure?_failed, Verdict.isOk]

/-- Each call is put down once. -/
theorem invoked_puttingDown (c : Client V) (report : PublishReport) (calls : List (Subscription V.Handler × Verdict)) :
    (report.puttingDown c calls).invoked = report.invoked + calls.length := by
  induction calls generalizing report with
  | nil => rw [puttingDown_nil, List.length_nil, Nat.add_zero]
  | cons call calls ih =>
    have hone : (report.puttingDown c [call]).invoked = report.invoked + 1 := by
      obtain ⟨s, verdict⟩ := call
      cases verdict with
      | ok => simp [puttingDown, invoked, filterMap_failure?_ok, Verdict.isOk, Nat.add_right_comm]
      | failed error panicked => simp [puttingDown, invoked, filterMap_failure?_failed, Verdict.isOk, Nat.add_assoc]
    rw [puttingDown_cons, ih, hone, List.length_cons, Nat.add_assoc, Nat.add_comm 1]

end PublishReport

/-- A handler that is over is put down in the report. -/
theorem account_report (sc : Scene V) (d : Delivery V.Handler) (verdict : Verdict) (topic : d.report.topic = d.notification.topic) :
    (account c sc d verdict).2 = d.report.puttingDown c [(d.current, verdict)] := by
  cases verdict with
  | ok => simp [account, PublishReport.puttingDown, filterMap_failure?_ok, Verdict.isOk]
  | failed error panicked => simp [account, PublishReport.puttingDown, filterMap_failure?_failed, Verdict.isOk, failureOf, topic]

/-! ## Deliveries -/

/-- From a state on, handlers are called with a notification one after the other, each with a verdict, in a number of steps. All that
happens meanwhile happens while one of them runs. -/
inductive Delivers (c : Client V) (notification : Notification) (below : Stack V ρ .report) :
    List (Subscription V.Handler × Verdict) → MachineState V ρ → Nat → Prop where
  | done (state : MachineState V ρ) : Delivers c notification below [] state 0
  | next {state : MachineState V ρ} {d : Delivery V.Handler} {verdict : Verdict} {n m : Nat}
    {calls : List (Subscription V.Handler × Verdict)}
    (called : state.control = .run (k := .handler) (c.handle d.current.handler notification) (.handling d below))
    (inside : ∀ i, i ≤ n → ((MachineState.step c)^[i] state).control.On (.handling d below))
    (ended : HandlerEnds d below ((MachineState.step c)^[n] state).control verdict)
    (rest : Delivers c notification below calls ((MachineState.step c)^[n + 1] state) m) :
    Delivers c notification below ((d.current, verdict) :: calls) state (m + (n + 1))

/-- As long as what happens is higher than a stack, no handler that is called for a delivery on that stack runs for ever. -/
def MachineState.HandlersEnd (c : Client V) (state : MachineState V ρ) (below : Stack V ρ .report) : Prop :=
  ∀ n d, (∀ i, i ≤ n → ((step c)^[i] state).control.Over below) → ((step c)^[n] state).control.On (.handling d below) →
    ∃ m, n ≤ m ∧ ¬ ((step c)^[m] state).control.On (.handling d below)

/-- Whose handlers end, their handlers end from every later state of the delivery on. -/
theorem MachineState.HandlersEnd.later (h : state.HandlersEnd c below) {n : Nat}
    (higher : ∀ i, i < n → ((step c)^[i] state).control.Over below) : ((step c)^[n] state).HandlersEnd c below := by
  intro i d hhigher hon
  have hall : ∀ j, j ≤ i + n → ((step c)^[j] state).control.Over below := by
    intro j hj
    rcases Nat.lt_or_ge j n with hlt | hge
    · exact higher j hlt
    · have hlater := hhigher (j - n) (by omega)
      rwa [← Function.iterate_add_apply, Nat.sub_add_cancel hge] at hlater
  rw [← Function.iterate_add_apply] at hon
  obtain ⟨m, hle, hoff⟩ := h (i + n) d hall hon
  refine ⟨m - n, by omega, ?_⟩
  rwa [← Function.iterate_add_apply, Nat.sub_add_cancel (by omega)]

/-- When everything is over some time, all handlers have ended. -/
theorem MachineState.handlersEnd_of_result {n : Nat} (h : ((step c)^[n] state).result?.isSome = true) :
    state.HandlersEnd c below := by
  obtain ⟨result, hfinished⟩ : ∃ result, ((step c)^[n] state).control = .finished result := by
    rw [result?] at h
    split at h
    · rename_i result hcontrol
      exact ⟨result, hcontrol⟩
    · cases h
  intro i d _ _
  refine ⟨i + n, Nat.le_add_right i n, ?_⟩
  rw [Function.iterate_add_apply, Function.iterate_fixed (step_finished hfinished), hfinished]
  exact id

/-- If their handlers end, those who are still to be called are called, each once and in order, and put down in the report. -/
theorem delivers_calling {notification : Notification} {startedAt : Instant} {report : PublishReport}
    {callees : List (Subscription V.Handler)} (called : state.control = calling c notification startedAt report below callees)
    (topic : report.topic = notification.topic) (ends : state.HandlersEnd c below) :
    ∃ calls n, calls.map (·.1) = callees ∧ Delivers c notification below calls state n ∧
      ((MachineState.step c)^[n] state).control = .report (report.puttingDown c calls) below := by
  induction callees generalizing state startedAt report with
  | nil => exact ⟨[], 0, rfl, .done state, by rw [PublishReport.puttingDown_nil]; exact called⟩
  | cons s rest ih =>
    let d : Delivery V.Handler := ⟨notification, s, startedAt, rest, report⟩
    have hon : state.control.On (.handling d below) := by
      rw [called]
      exact Stack.Under.refl
    have hover : state.control.Over below := hon.isOver (.refl : below.Under below)
    obtain ⟨m, -, hoff⟩ := ends 0 d (fun i hi => by rwa [Nat.le_zero.1 hi]) hon
    obtain ⟨n, verdict, hinside, hended⟩ := handler_ends hon ⟨m, hoff⟩
    obtain ⟨sc, startedAt', hnext, -⟩ := handled_eq_calling c ((MachineState.step c)^[n] state).scene d verdict below
    have hstep : ((MachineState.step c)^[n + 1] state).control =
        calling c notification startedAt' (report.puttingDown c [(s, verdict)]) below rest := by
      rw [Function.iterate_succ_apply', step_of_handlerEnds hended, hnext, account_report _ d verdict topic]
    have hhigher : ∀ i, i < n + 1 → ((MachineState.step c)^[i] state).control.Over below := fun i hi =>
      (hinside i (Nat.le_of_lt_succ hi)).isOver (.refl : below.Under below)
    obtain ⟨calls, m, hcalls, hdelivers, hreport⟩ := ih hstep topic (ends.later hhigher)
    refine ⟨(s, verdict) :: calls, m + (n + 1), congrArg (s :: ·) hcalls, .next (d := d) called hinside hended hdelivers, ?_⟩
    rw [Function.iterate_add_apply, hreport, ← PublishReport.puttingDown_cons]

/-- What a publication does: it calls the handlers of exactly those who were subscribed when it began. -/
structure Machine.DeliversToSnapshot (c : Client V) (sc : Scene V) (topic : String) (payload : Json) (below : Stack V ρ .report)
    (calls : List (Subscription V.Handler × Verdict)) (n : Nat) : Prop where
  /-- The handlers called are those of the subscribers at the beginning, each once and in the order of their registration. -/
  snapshot : calls.map (·.1) = sc.world.bus.subscribers topic
  /-- They are called one after the other, all with the same notification, and nothing else happens in between. -/
  delivers : Delivers c ⟨topic, payload, sc.world.clock⟩ below calls (publish c sc topic payload below) n
  /-- The report counts those that ended well and lists the failures of the others in the order of the calls. -/
  reported : ((MachineState.step c)^[n] (publish c sc topic payload below)).control =
    .report ⟨topic, calls.countP (·.2.isOk), calls.filterMap (failure? c topic)⟩ below
  /-- Those that ended well and those that failed are together as many as there were subscribers. -/
  total : calls.countP (·.2.isOk) + (calls.filterMap (failure? c topic)).length = (sc.world.bus.subscribers topic).length
  /-- A program that published goes on with this report. -/
  answered {k : Kind} (next : PublishReport → Program V (k.Result ρ)) (stack : Stack V ρ (.code k)) :
    below = .publishing next stack → ((MachineState.step c)^[n + 1] (publish c sc topic payload below)).control =
      .run (next ⟨topic, calls.countP (·.2.isOk), calls.filterMap (failure? c topic)⟩) stack
  /-- Meanwhile the subscribers of a topic change by requests to subscribe and to unsubscribe, and in no other way. -/
  register (i : Nat) (on : String) :
    ((MachineState.step c)^[i + 1] (publish c sc topic payload below)).scene.world.bus.subscribers on =
      ((MachineState.step c)^[i] (publish c sc topic payload below)).request?.elim
        (((MachineState.step c)^[i] (publish c sc topic payload below)).scene.world.bus.subscribers on)
        (Op.subscribers ((MachineState.step c)^[i] (publish c sc topic payload below)).scene.world.bus on)

/-- A publication whose handlers end delivers to those who were subscribed when it began. -/
theorem publish_delivers_to_snapshot (c : Client V) (sc : Scene V) (topic : String) (payload : Json) (below : Stack V ρ .report)
    (ends : (publish c sc topic payload below).HandlersEnd c below) :
    ∃ calls n, DeliversToSnapshot c sc topic payload below calls n := by
  obtain ⟨sc', heq, -⟩ := publish_eq_calling c sc topic payload below
  have hcalled := congrArg MachineState.control heq
  obtain ⟨calls, n, hcalls, hdelivers, hcomplete⟩ := delivers_calling hcalled rfl ends
  have hreport : ((MachineState.step c)^[n] (publish c sc topic payload below)).control =
      .report ⟨topic, calls.countP (·.2.isOk), calls.filterMap (failure? c topic)⟩ below := by
    rw [hcomplete]
    simp [PublishReport.puttingDown]
  refine ⟨calls, n, hcalls, hdelivers, hreport, ?_, ?_, ?_⟩
  · have hcount := PublishReport.invoked_puttingDown c ⟨topic, 0, []⟩ calls
    rw [← hcalls, List.length_map]
    simpa [PublishReport.invoked, PublishReport.puttingDown] using hcount
  · rintro k next stack rfl
    rw [Function.iterate_succ_apply', MachineState.step, hreport]
    rfl
  · intro i on
    rw [Function.iterate_succ_apply', subscribers_step]

/-! ## A sample -/

namespace Sample

/-- Handlers that come and go, publish, fail and panic. -/
inductive Listener where
  /-- Subscribes a handler that panics and publishes on another topic. -/
  | recruits
  /-- Unsubscribes the first and the third subscriber, and fails. -/
  | dismisses
  /-- Does nothing. -/
  | listens
  /-- Panics. -/
  | panics

/-- A vocabulary with these handlers only. -/
def listening : Vocabulary := ⟨Unit, Listener, Empty, Empty⟩

/-- What the handlers do. -/
def Listener.code : Listener → Program listening (Except HandlerError Unit)
  | recruits => .call (.plain (.bus (.subscribe "news" .panics))) fun _ => .call (.publish "echo" .null) fun _ => .done (.ok ())
  | dismisses =>
    .call (.plain (.bus (.unsubscribe ⟨1, "news"⟩))) fun _ => .call (.plain (.bus (.unsubscribe ⟨3, "news"⟩))) fun _ =>
      .done (.error ⟨"no"⟩)
  | listens => .done (.ok ())
  | panics => .crash "ouch"

/-- The client with these handlers. -/
def listeners : Client listening where
  handlerName _ := "listener"
  handle listener _ := listener.code
  stepName := nofun
  defaultData := nofun
  primary := nofun
  resume := nofun
  receive := nofun

/-- A world in which all four listen to the news, and one to the echo. -/
def newsroom : Scene listening where
  world := { World.new .default false with
    bus := ((((((Bus.new false).subscribe "news" .recruits).subscribe "news" .dismisses).subscribe "news" .listens).subscribe "news"
      .panics).subscribe "echo" .panics) }
  memory := ()
  journal := []

/-- Somebody who publishes and is done with the report. -/
def editor : Stack listening PublishReport .report := .publishing (k := .main) .done .bottom

/-- The first of four subscribers recruits a fifth and publishes, the second dismisses the first and the third: nevertheless all four are
called. -/
theorem news_delivered :
    (publish listeners newsroom "news" .null editor).HandlersEnd listeners editor ∧
      ∃ calls n, DeliversToSnapshot listeners newsroom "news" .null editor calls n ∧ calls.map (·.1.id) = [1, 2, 3, 4] := by
  have ends : (publish listeners newsroom "news" .null editor).HandlersEnd listeners editor :=
    MachineState.handlersEnd_of_result (n := 14) (by decide)
  obtain ⟨calls, n, delivers⟩ := publish_delivers_to_snapshot listeners newsroom "news" .null editor ends
  refine ⟨ends, calls, n, delivers, ?_⟩
  calc calls.map (·.1.id) = (calls.map (·.1)).map (·.id) := by
        rw [List.map_map]
        rfl
    _ = (newsroom.world.bus.subscribers "news").map (·.id) := by rw [delivers.snapshot]
    _ = [1, 2, 3, 4] := by decide

end Sample

end StepEngine
