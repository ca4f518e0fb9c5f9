import StepEngine.Proofs.Delivery

/-!
# Tally: what the steps of the machine count

The bus counts a publication when it begins and a handler when it is over. In between the report of the publication is as long as the
handlers that are over, and every handler that is underway stands for a publication in progress. A step begins a publication, or puts a
handler down in the report of its publication, or hands a complete report to whoever published, or it does none of this
(`MachineState.Counts`).
-/

namespace StepEngine

open Machine

variable {V : Vocabulary} {ρ : Type} {c : Client V}

/-- The verdict on what code on top of a stack gives back, if the code is a handler. -/
def Stack.verdict? {k : Kind} (stack : Stack V ρ (.code k)) (result : k.Result ρ) : Option (Delivery V.Handler × Verdict) :=
  match k, stack, result with
  | .handler, .handling d _, result => some (d, .ofResult result)
  | _, _, _ => none

/-- The handler that is over, with its verdict. -/
def Control.ended? : Control V ρ → Option (Delivery V.Handler × Verdict)
  | .run program stack =>
    match program with
    | .done result => stack.verdict? result
    | _ => none
  | .unwind message (.handling d _) => some (d, .failed message true)
  | _ => none

/-- The counters of a bus, and what its fault sink got. -/
structure Bus.Tally where
  published : Nat
  delivered : Nat
  failed : Nat
  faults : List HandlerFailure

/-- What a bus has counted. -/
def Bus.tally {H : Type} (b : Bus H) : Bus.Tally := ⟨b.published, b.delivered, b.failed, b.faults⟩

/-! ## What one step counts -/

/-- A publication is counted. -/
theorem tally_publish (sc : Scene V) (topic : String) (payload : Json) (below : Stack V ρ .report) :
    (publish c sc topic payload below).scene.world.bus.tally = sc.world.bus.countPublished.tally := by
  simp only [publish]
  split <;> rfl

/-- The end of a handler is counted. -/
theorem tally_handled (sc : Scene V) (d : Delivery V.Handler) (verdict : Verdict) (below : Stack V ρ .report) :
    (handled c sc d verdict below).scene.world.bus.tally = (account c sc d verdict).1.world.bus.tally := by
  have haccount : (account c (sc.note (slowReport c sc.world d)) d verdict).1.world = (account c sc d verdict).1.world := by
    cases verdict <;> rfl
  simp only [handled]
  split <;> exact congrArg (fun w : World V => w.bus.tally) haccount

/-- A handler that is over counts once, as one that ended well or as a failure, with the bus and in the report of its publication. -/
theorem account_eq (c : Client V) (sc : Scene V) (d : Delivery V.Handler) (verdict : Verdict) :
    ∃ (count : Nat) (failed : List HandlerFailure), count + failed.length = 1 ∧
      failed = (failure? c d.notification.topic (d.current, verdict)).toList ∧
      (account c sc d verdict).1.world.bus.tally = ⟨sc.world.bus.published, sc.world.bus.delivered + count,
        sc.world.bus.failed + failed.length, sc.world.bus.faults ++ failed⟩ ∧
      (account c sc d verdict).2 = ⟨d.report.topic, d.report.delivered + count, d.report.failures ++ failed⟩ := by
  cases verdict with
  | ok =>
    refine ⟨1, [], rfl, rfl, ?_, ?_⟩
    · rw [List.append_nil]
      rfl
    · rw [List.append_nil]
      rfl
  | failed error panicked => exact ⟨0, [failureOf c d error panicked], rfl, rfl, rfl, rfl⟩

/-- A request that is answered at once is not counted. -/
theorem tally_plain (w : World V) (op : PlainOp V) : (op.run w).2.bus.tally = w.bus.tally := by
  by_cases hop : ∃ request, op = .bus request
  · obtain ⟨request, rfl⟩ := hop
    cases request with
    | unsubscribe handle =>
      simp only [PlainOp.run, BusOp.run, Bus.unsubscribe]
      split
      · split <;> rfl
      · rfl
    | _ => rfl
  · exact congrArg Bus.tally (bus_plain w op fun request h => hop ⟨request, h⟩)

namespace MachineState

/-- What a step does to the counters and to the reports in progress. -/
inductive Counts (c : Client V) (state next : MachineState V ρ) : Prop where
  /-- A publication begins with an empty report. -/
  | begins {notification : Notification} {startedAt : Instant} {topic : String} {below : Stack V ρ .report}
    {callees : List (Subscription V.Handler)} (unreported : state.control.report? = none) (unended : state.control.ended? = none)
    (handlings : below.handlings = state.control.handlings)
    (called : next.control = calling c notification startedAt ⟨topic, 0, []⟩ below callees)
    (tally : next.scene.world.bus.tally = state.scene.world.bus.countPublished.tally)
  /-- A handler is over and put down in the report of its publication. -/
  | ends {d : Delivery V.Handler} {verdict : Verdict} {below : Stack V ρ .report} {startedAt : Instant}
    (ended : HandlerEnds d below state.control verdict)
    (called : next.control = calling c d.notification startedAt (account c state.scene d verdict).2 below d.remaining)
    (tally : next.scene.world.bus.tally = (account c state.scene d verdict).1.world.bus.tally)
  /-- A publication is over: its report goes to whoever published. -/
  | answers {r : PublishReport} {below : Stack V ρ .report} (report : state.control = .report r below)
    (handlings : next.control.handlings = below.handlings) (unreported : next.control.report? = none)
    (tally : next.scene.world.bus.tally = state.scene.world.bus.tally)
  /-- Nothing is counted, and no report is complete. -/
  | still (unreported : state.control.report? = none) (unended : state.control.ended? = none)
    (handlings : next.control.handlings = state.control.handlings) (unreported' : next.control.report? = none)
    (tally : next.scene.world.bus.tally = state.scene.world.bus.tally)

/-- When code or an activation goes on, nothing is over. -/
theorem Counts.of_goesOn {state next : MachineState V ρ} {e : Expects} {stack : Stack V ρ e} (h : GoesOn c state.scene stack next)
    (handlings : stack.handlings = state.control.handlings) (unreported : state.control.report? = none)
    (unended : state.control.ended? = none) : state.Counts c next := by
  cases h with
  | @publication sc' topic payload below hbus hbelow heq =>
    obtain ⟨counted, hcalled, -⟩ := publish_eq_calling c sc' topic payload below
    subst heq
    have htally := tally_publish (c := c) sc' topic payload below
    rw [hbus] at htally
    exact .begins unreported unended (hbelow.trans handlings) (congrArg MachineState.control hcalled) htally
  | still hbus hnext unreported' => exact .still unreported unended (hnext.trans handlings) unreported' (congrArg Bus.tally hbus)

/-- When a handler is over, it is counted. -/
theorem Counts.of_handlerEnds {state : MachineState V ρ} {d : Delivery V.Handler} {verdict : Verdict} {below : Stack V ρ .report}
    (h : HandlerEnds d below state.control verdict) : state.Counts c (state.step c) := by
  obtain ⟨sc', startedAt, hcalled, -⟩ := handled_eq_calling c state.scene d verdict below
  rw [step_of_handlerEnds h]
  exact .ends h (congrArg MachineState.control hcalled) (tally_handled _ _ _ _)

/-- What a step counts. -/
theorem counts_step (state : MachineState V ρ) : state.Counts c (state.step c) := by
  obtain ⟨sc, control⟩ := state
  cases control with
  | run program stack =>
    cases program with
    | call op next =>
      cases op with
      | plain op => exact .still rfl rfl rfl rfl (tally_plain sc.world op)
      | publish topic payload =>
        have hgoesOn : GoesOn c sc stack (publish c sc topic payload (.publishing next stack)) := .publication rfl rfl rfl
        exact .of_goesOn hgoesOn rfl rfl rfl
      | resolve key outcome => exact .of_goesOn (goesOn_resolve stack key outcome next) rfl rfl rfl
      | execute executor definition step background =>
        exact .of_goesOn (goesOn_execute stack executor definition step background next) rfl rfl rfl
      | apply executor r => exact .of_goesOn (goesOn_applyResumption stack executor r next) rfl rfl rfl
    | done result =>
      cases stack with
      | handling d below =>
        cases result with
        | ok => exact .of_handlerEnds .ok
        | error e => exact .of_handlerEnds (.error e)
      | _ => exact .still rfl rfl rfl rfl rfl
    | _ => exact .still rfl rfl rfl rfl rfl
  | report r stack =>
    cases stack with
    | publishing next below => exact .answers rfl rfl rfl rfl
    | announcing seat phase below =>
      refine .answers rfl rfl rfl ?_
      simp only [step, reported]
      split <;> rfl
  | proceed seat phase stack => exact .of_goesOn (goesOn_proceed seat phase stack) rfl rfl rfl
  | settle seat result stack => exact .of_goesOn (goesOn_settle seat result stack) rfl rfl rfl
  | outcome result stack =>
    cases stack
    exact .still rfl rfl rfl rfl rfl
  | unwind message stack =>
    cases stack with
    | handling d below => exact .of_handlerEnds (.panic message)
    | awaiting next background below => cases background <;> exact .still rfl rfl rfl rfl rfl
    | _ => exact .still rfl rfl rfl rfl rfl
  | finished result => exact .still rfl rfl rfl rfl rfl

/-- A handler is called with the step from one state to the next: what runs next is its code, and it was not underway before. -/
def CallsHandler (c : Client V) (state next : MachineState V ρ) : Prop :=
  ∃ d below, next.control = .run (k := .handler) (c.handle d.current.handler d.notification) (.handling d below) ∧
    (d, below) ∉ state.control.handlings

/-- The failure of the handler that is over, if it has failed. -/
def failed? (c : Client V) (state : MachineState V ρ) : Option HandlerFailure :=
  state.control.ended?.bind fun ended => failure? c ended.1.notification.topic (ended.1.current, ended.2)

variable {state next : MachineState V ρ}

/-- Without a new handler underway no handler is called. -/
theorem not_callsHandler (h : ∀ entry ∈ next.control.handlings, entry ∈ state.control.handlings) : ¬ state.CallsHandler c next := by
  rintro ⟨d, below, hcontrol, hnew⟩
  refine hnew (h _ ?_)
  rw [hcontrol]
  exact List.mem_cons_self

section

variable {notification : Notification} {startedAt : Instant} {report : PublishReport} {below : Stack V ρ .report}
  {callees : List (Subscription V.Handler)}

/-- Whether somebody is still to be called or nobody is, the report of the publication is in progress. -/
theorem underway_calling (called : next.control = calling c notification startedAt report below callees) :
    next.control.underway = report :: below.handlings.map (·.1.report) := by
  rw [called]
  cases callees <;> rfl

open Classical in
/-- When somebody is still to be called, one more handler is underway, and it is called. -/
theorem length_handlings_calling (called : next.control = calling c notification startedAt report below callees)
    (kept : ∀ entry ∈ below.handlings, entry ∈ state.control.handlings)
    (fresh : ∀ d : Delivery V.Handler, d.remaining.length < callees.length → (d, below) ∉ state.control.handlings) :
    next.control.handlings.length = below.handlings.length + if state.CallsHandler c next then 1 else 0 := by
  cases callees with
  | nil =>
    have hnext : next.control.handlings = below.handlings := by
      rw [called]
      rfl
    have hnone : ¬ state.CallsHandler c next := not_callsHandler (hnext ▸ kept)
    rw [hnext, if_neg hnone, Nat.add_zero]
  | cons s rest =>
    have hcalls : state.CallsHandler c next :=
      ⟨⟨notification, s, startedAt, rest, report⟩, below, called, fresh _ (Nat.lt_succ_self _)⟩
    rw [if_pos hcalls, called]
    rfl

end

/-- The handler that is over, and what is underway below it. -/
theorem ended_of_handlerEnds {d : Delivery V.Handler} {verdict : Verdict} {below : Stack V ρ .report} {control : Control V ρ}
    (h : HandlerEnds d below control verdict) :
    control.ended? = some (d, verdict) ∧ control.report? = none ∧ control.handlings = (d, below) :: below.handlings := by
  cases h <;> exact ⟨rfl, rfl, rfl⟩

end MachineState

end StepEngine
