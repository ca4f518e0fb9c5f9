import Mathlib.Algebra.GroupWithZero.Nat
import StepEngine.Proofs.Quiet
import StepEngine.Proofs.Tally

/-!
# Balance: the counters of the bus agree with the reports

While a handler runs it may publish itself, and each of these publications has a report of its own. So at any moment the counters agree
with the reports that were made together with those that are still being made, one for each handler that is underway (`Run.InBalance`).
Where no publication is in progress the second kind is missing, and the counters agree with the reports alone (`Run.Balances`). The
failures reach the fault sink as their handlers end, which is not the order of the reports: a handler may fail after it has published.
-/

namespace StepEngine

open Machine

variable {V : Vocabulary} {ρ : Type} {c : Client V}

/-! ## What a run counts -/

namespace Run

variable (run : Run c ρ) (n : Nat)

/-- The number of publications up to a state: those that programs ask for and those that announce a transition. -/
def begun : Nat := (List.range n).countP fun i => (run i).announces?.isSome || (run i).publishes

/-- The reports that were made up to a state. -/
def reports : List PublishReport := (List.range n).filterMap fun i => (run i).control.report?

/-- The failures of handlers up to a state, in the order in which the handlers ended. -/
def failures : List HandlerFailure := (List.range n).filterMap fun i => (run i).failed? c

open Classical in
/-- The number of calls of handlers up to a state. -/
noncomputable def invocations : Nat := (List.range n).countP fun i => (run i).CallsHandler c (run (i + 1))

/-- The reports that were made up to a state, and those that are in progress there. -/
def accounts : List PublishReport := run.reports n ++ (run n).control.underway

/-- What the bus has counted up to a state. -/
def tally : Bus.Tally := (run n).scene.world.bus.tally

/-- A publication is counted when it begins, and nothing else is. -/
theorem published_succ :
    (run.tally (n + 1)).published = (run.tally n).published + if (run n).announces?.isSome || (run n).publishes then 1 else 0 := by
  show (run (n + 1)).published = (run n).published + _
  cases hannounces : (run n).announces? with
  | none => simpa using (run.next_of_unannounced hannounces).2
  | some announced =>
    obtain ⟨seat, t⟩ := announced
    obtain ⟨sc, phase, below, hnext, hbus, -, hledger⟩ := run.next_of_announces? hannounces
    obtain ⟨topic, htopic⟩ := hledger.exists_topic
    rw [hnext, announce_eq htopic, published_publish, hbus]
    rfl

/-- As many publications have begun with a step as were counted. -/
theorem begun_succ {k : Nat} (h : (run.tally (n + 1)).published = (run.tally n).published + k) :
    run.begun (n + 1) = run.begun n + k := by
  have hcounted := run.published_succ n
  rw [h] at hcounted
  rw [begun, List.range_succ, List.countP_append, List.countP_singleton, ← Nat.add_left_cancel hcounted, begun]

theorem reports_succ : run.reports (n + 1) = run.reports n ++ (run n).control.report?.toList := by
  rw [reports, List.range_succ, List.filterMap_append, reports]
  cases hreport : (run n).control.report? <;> simp [hreport]

theorem failures_succ : run.failures (n + 1) = run.failures n ++ ((run n).failed? c).toList := by
  rw [failures, List.range_succ, List.filterMap_append, failures]
  cases hfailed : (run n).failed? c <;> simp [hfailed]

/-- Where no handler is over, none has failed. -/
theorem failures_succ_of_unended (h : (run n).control.ended? = none) : run.failures (n + 1) = run.failures n := by
  have hfailed : (run n).failed? c = none := by
    rw [MachineState.failed?, h]
    rfl
  rw [failures_succ, hfailed, Option.toList_none, List.append_nil]

open Classical in
theorem invocations_succ : run.invocations (n + 1) = run.invocations n + if (run n).CallsHandler c (run (n + 1)) then 1 else 0 := by
  rw [invocations, List.range_succ, List.countP_append, List.countP_singleton, invocations]
  simp

/-- What the counters are in the midst of publications. -/
structure InBalance : Prop where
  /-- All publications are counted that have begun. -/
  published : (run.tally n).published = run.begun n
  /-- Each of them has a report that is made or in progress. -/
  accounted : run.begun n = (run.accounts n).length
  delivered : (run.tally n).delivered = ((run.accounts n).map (·.delivered)).sum
  failed : (run.tally n).failed = (run.tally n).faults.length
  /-- The fault sink got the failures as the handlers ended. -/
  faults : (run.tally n).faults = run.failures n
  listed : (run.tally n).faults.Perm ((run.accounts n).flatMap (·.failures))
  /-- Every handler that was called is counted or underway. -/
  invoked : run.invocations n = (run.tally n).delivered + (run.tally n).failed + (run n).control.handlings.length

variable {run n}

/-- What every step counts. -/
theorem counts (run : Run c ρ) (n : Nat) : (run n).Counts c (run (n + 1)) := by
  have hnext := run.next n
  generalize run (n + 1) = next at hnext
  cases hnext with
  | step => exact MachineState.counts_step _
  | again finished memory program =>
    have hnow : (run n).control.report? = none ∧ (run n).control.ended? = none ∧ (run n).control.handlings = [] := by
      rw [finished]
      exact ⟨rfl, rfl, rfl⟩
    exact .still hnow.1 hnow.2.1 hnow.2.2.symm rfl rfl

namespace InBalance

/-- At the beginning nothing has been counted. -/
theorem zero (run : Run c ρ) : run.InBalance 0 := by
  obtain ⟨config, logsFaults, memory, program, hstart⟩ := run.first
  have htally : run.tally 0 = ⟨0, 0, 0, []⟩ := by
    rw [tally, hstart]
    rfl
  have haccounts : run.accounts 0 = [] := by
    rw [accounts, hstart]
    rfl
  have hhandlings : (run 0).control.handlings = [] := by
    rw [hstart]
    rfl
  refine ⟨?_, ?_, ?_, ?_, ?_, ?_, ?_⟩
  · rw [htally]
    rfl
  · rw [haccounts]
    rfl
  · rw [htally, haccounts]
    rfl
  · rw [htally]
    rfl
  · rw [htally]
    rfl
  · rw [htally, haccounts]
    exact .nil
  · rw [htally, hhandlings]
    rfl

/-- A step that counts nothing keeps the balance; it may move a report from those in progress to those that were made. -/
theorem of_still (h : run.InBalance n) (tally : run.tally (n + 1) = run.tally n) (accounts : run.accounts (n + 1) = run.accounts n)
    (unended : (run n).control.ended? = none) (handlings : (run (n + 1)).control.handlings.length = (run n).control.handlings.length)
    (uncalled : ¬ (run n).CallsHandler c (run (n + 1))) : run.InBalance (n + 1) := by
  have hbegun : run.begun (n + 1) = run.begun n := run.begun_succ n (k := 0) (congrArg Bus.Tally.published tally)
  have hfailures : run.failures (n + 1) = run.failures n := run.failures_succ_of_unended n unended
  have hinvocations : run.invocations (n + 1) = run.invocations n := by rw [invocations_succ, if_neg uncalled, Nat.add_zero]
  refine ⟨?_, ?_, ?_, ?_, ?_, ?_, ?_⟩
  · rw [tally, hbegun, h.published]
  · rw [accounts, hbegun, h.accounted]
  · rw [tally, accounts, h.delivered]
  · rw [tally, h.failed]
  · rw [tally, hfailures, h.faults]
  · rw [tally, accounts]
    exact h.listed
  · rw [tally, hinvocations, handlings, h.invoked]

/-- No handler of a publication is underway on the stack that the publication was made on. -/
theorem not_mem_handlings_self (d : Delivery V.Handler) (below : Stack V ρ .report) : (d, below) ∉ below.handlings := fun h =>
  absurd (Stack.depth_lt_of_mem_handlings h) (Nat.lt_irrefl _)

/-- A publication that begins has an empty report, and the first of its handlers is called, if there is one. -/
theorem of_begins (h : run.InBalance n) {notification : Notification} {startedAt : Instant} {topic : String}
    {below : Stack V ρ .report} {callees : List (Subscription V.Handler)} (unreported : (run n).control.report? = none)
    (unended : (run n).control.ended? = none) (handlings : below.handlings = (run n).control.handlings)
    (called : (run (n + 1)).control = calling c notification startedAt ⟨topic, 0, []⟩ below callees)
    (tally : run.tally (n + 1) = { run.tally n with published := (run.tally n).published + 1 }) : run.InBalance (n + 1) := by
  have hbegun : run.begun (n + 1) = run.begun n + 1 := run.begun_succ n (congrArg Bus.Tally.published tally)
  have hfailures : run.failures (n + 1) = run.failures n := run.failures_succ_of_unended n unended
  have haccounts : run.accounts (n + 1) = run.reports n ++ ⟨topic, 0, []⟩ :: (run n).control.underway := by
    rw [accounts, reports_succ, unreported, MachineState.underway_calling called, Control.underway, unreported, handlings]
    simp
  have hkept : ∀ entry ∈ below.handlings, entry ∈ (run n).control.handlings := fun entry hmem => handlings ▸ hmem
  have hfresh : ∀ d, (d, below) ∉ (run n).control.handlings := fun d => handlings ▸ not_mem_handlings_self d below
  have hlength := MachineState.length_handlings_calling called hkept fun d _ => hfresh d
  refine ⟨?_, ?_, ?_, ?_, ?_, ?_, ?_⟩
  · rw [tally, hbegun, h.published]
  · rw [haccounts, hbegun, h.accounted, accounts]
    simp [Nat.add_assoc]
  · rw [tally, haccounts, h.delivered, accounts]
    simp
  · rw [tally, h.failed]
  · rw [tally, hfailures, h.faults]
  · rw [tally, haccounts]
    simpa [accounts] using h.listed
  · rw [tally, invocations_succ, hlength, handlings, h.invoked, Nat.add_assoc]

/-- A handler that is over is counted and put down in the report of its publication, and the next one is called, if there is one. -/
theorem of_ends (h : run.InBalance n) {d : Delivery V.Handler} {verdict : Verdict} {below : Stack V ρ .report} {startedAt : Instant}
    (ended : HandlerEnds d below (run n).control verdict)
    (called : (run (n + 1)).control = calling c d.notification startedAt (account c (run n).scene d verdict).2 below d.remaining)
    (tally : run.tally (n + 1) = (account c (run n).scene d verdict).1.world.bus.tally) : run.InBalance (n + 1) := by
  obtain ⟨hended, hunreported, hhandlings⟩ := MachineState.ended_of_handlerEnds ended
  obtain ⟨count, failed, hone, hfailed, haccount, hreport⟩ := account_eq c (run n).scene d verdict
  have htally : run.tally (n + 1) = ⟨(run.tally n).published, (run.tally n).delivered + count,
      (run.tally n).failed + failed.length, (run.tally n).faults ++ failed⟩ := tally.trans haccount
  have hbefore : run.accounts n = run.reports n ++ d.report :: below.handlings.map (·.1.report) := by
    rw [accounts, Control.underway, hunreported, hhandlings]
    rfl
  have hafter : run.accounts (n + 1) = run.reports n ++
      ⟨d.report.topic, d.report.delivered + count, d.report.failures ++ failed⟩ :: below.handlings.map (·.1.report) := by
    rw [accounts, reports_succ, hunreported, MachineState.underway_calling called, hreport]
    simp
  have hkept : ∀ entry ∈ below.handlings, entry ∈ (run n).control.handlings := fun entry hmem =>
    hhandlings ▸ List.mem_cons_of_mem _ hmem
  have hfresh : ∀ d' : Delivery V.Handler, d'.remaining.length < d.remaining.length → (d', below) ∉ (run n).control.handlings := by
    intro d' hlt hmem
    -- it is not the one that is over, for fewer remain to be called after it
    rcases List.mem_cons.1 (hhandlings ▸ hmem) with heq | hmem
    · cases heq
      exact Nat.lt_irrefl _ hlt
    · exact not_mem_handlings_self d' below hmem
  have hlength := MachineState.length_handlings_calling called hkept hfresh
  have hpublished : (run.tally (n + 1)).published = (run.tally n).published := by rw [htally]
  have hbegun : run.begun (n + 1) = run.begun n := run.begun_succ n (k := 0) hpublished
  have hfailures : run.failures (n + 1) = run.failures n ++ failed := by
    rw [failures_succ, MachineState.failed?, hended, hfailed]
    rfl
  refine ⟨?_, ?_, ?_, ?_, ?_, ?_, ?_⟩
  · rw [hpublished, hbegun, h.published]
  · rw [hafter, hbegun, h.accounted, hbefore]
    simp
  · rw [htally, hafter, h.delivered, hbefore]
    simp only [List.map_append, List.map_cons, List.sum_append, List.sum_cons]
    omega
  · rw [htally, h.failed, List.length_append]
  · rw [htally, hfailures, h.faults]
  · have hlisted := h.listed.append_right failed
    rw [hbefore] at hlisted
    rw [htally, hafter]
    refine hlisted.trans ?_
    simp only [List.flatMap_append, List.flatMap_cons, List.append_assoc]
    exact (List.perm_append_comm.append_left _).append_left _
  · rw [htally, invocations_succ, hlength, h.invoked, hhandlings, List.length_cons]
    dsimp only
    omega

end InBalance

/-- At any moment the counters of the bus agree with the reports that were made and those that are in progress. -/
theorem inBalance (run : Run c ρ) (n : Nat) : run.InBalance n := by
  induction n with
  | zero => exact .zero run
  | succ n ih =>
    cases run.counts n with
    | begins unreported unended handlings called tally => exact ih.of_begins unreported unended handlings called tally
    | ends ended called tally => exact ih.of_ends ended called tally
    | @answers r below report handlings unreported tally =>
      have hnow : (run n).control.report? = some r ∧ (run n).control.ended? = none ∧
          (run n).control.handlings = below.handlings := by
        rw [report]
        exact ⟨rfl, rfl, rfl⟩
      refine ih.of_still tally ?_ hnow.2.1 ?_ ?_
      · -- the report that was the innermost one in progress is the last one made
        rw [accounts, accounts, reports_succ, Control.underway, Control.underway, unreported, hnow.1, hnow.2.2, handlings]
        simp
      · rw [handlings, hnow.2.2]
      · exact MachineState.not_callsHandler fun entry hmem => hnow.2.2.symm ▸ handlings ▸ hmem
    | still unreported unended handlings unreported' tally =>
      refine ih.of_still tally ?_ unended ?_ ?_
      · rw [accounts, accounts, reports_succ, Control.underway, Control.underway, unreported, unreported', handlings]
        simp
      · rw [handlings]
      · exact MachineState.not_callsHandler fun entry hmem => handlings ▸ hmem

/-- The statistics of the bus agree with the publications, with their reports and with the calls of handlers. -/
structure Balances (run : Run c ρ) (n : Nat) : Prop where
  /-- All publications are counted. -/
  published : (run n).scene.world.bus.stats.published = run.begun n
  /-- Each of them has its report. -/
  reported : (run.reports n).length = run.begun n
  /-- The handlers that ended well are those of the reports. -/
  deliveries : (run n).scene.world.bus.stats.deliveries = ((run.reports n).map (·.delivered)).sum
  /-- The handlers that failed are those of the reports. -/
  failures : (run n).scene.world.bus.stats.failures = ((run.reports n).map (·.failures.length)).sum
  /-- The fault sink got the failures in the order in which the handlers ended. -/
  faults : (run n).scene.world.bus.faults = run.failures n
  /-- These are the failures of the reports, each once. -/
  listed : (run n).scene.world.bus.faults.Perm ((run.reports n).flatMap (·.failures))
  /-- Every call of a handler is counted, as one that ended well or as one that failed. -/
  invoked : (run n).scene.world.bus.stats.deliveries + (run n).scene.world.bus.stats.failures = run.invocations n

/-- Whenever no publication is in progress, the statistics of the bus balance, however publications were nested and handlers ended. -/
theorem statistics_balance (run : Run c ρ) (n : Nat) (idle : (run n).control.underway = []) : run.Balances n := by
  have h := run.inBalance n
  have haccounts : run.accounts n = run.reports n := by rw [accounts, idle, List.append_nil]
  have hhandlings : (run n).control.handlings = [] := List.map_eq_nil_iff.1 (List.append_eq_nil_iff.1 idle).2
  have hlisted : (run.tally n).faults.Perm ((run.reports n).flatMap (·.failures)) := haccounts ▸ h.listed
  have hinvoked := h.invoked
  rw [hhandlings, List.length_nil, Nat.add_zero] at hinvoked
  refine ⟨h.published, ?_, ?_, ?_, h.faults, hlisted, hinvoked.symm⟩
  · rw [h.accounted, haccounts]
  · rw [← haccounts]
    exact h.delivered
  · calc (run n).scene.world.bus.stats.failures = (run.tally n).faults.length := h.failed
      _ = ((run.reports n).flatMap (·.failures)).length := hlisted.length_eq
      _ = ((run.reports n).map (·.failures.length)).sum := List.length_flatMap

end Run

namespace Sample

/-- Two subscribe to the news and one to the echo, and the news are published. -/
def newsday : Program listening Unit :=
  .call (.plain (.bus (.subscribe "news" .dismisses))) fun _ => .call (.plain (.bus (.subscribe "news" .recruits))) fun _ =>
    .call (.plain (.bus (.subscribe "echo" .panics))) fun _ => .call (.publish "news" .null) fun _ => .done ()

/-- The run of this program. -/
def newsRun : Run listeners Unit := .ofProgram listeners .default false () newsday

/-- The first subscriber of the news fails, and the second publishes to one who fails in turn: the report of the inner publication is made
before that of the outer one, but its failure comes after. -/
theorem newsRun_balances :
    (newsRun 20).control.underway = [] ∧ newsRun.Balances 20 ∧ (newsRun.reports 20).map (·.topic) = ["echo", "news"] ∧
      (newsRun.failures 20).map (·.topic) = ["news", "echo"] ∧ newsRun.begun 20 = 2 ∧ newsRun.invocations 20 = 3 := by
  have idle : (newsRun 20).control.underway = [] := by decide
  have balances := newsRun.statistics_balance 20 idle
  refine ⟨idle, balances, by decide, by decide, by decide, ?_⟩
  rw [← balances.invoked]
  decide

end Sample

end StepEngine
