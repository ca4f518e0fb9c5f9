import Mathlib.Logic.Function.Iterate
import StepEngine.Proofs.Isolation.Scenes

/-!
# Onlookers: publications that nobody acts upon

When all subscribers only look on, a publication is over after some steps, and all that has happened is that time has passed and that the
bus has counted (`Tenant.report_of_publish`). So an announcement leads back to the activation that made it (`Tenant.proceed_of_announce`),
and whoever compares two engines may skip the steps in between.
-/

namespace StepEngine

open Machine

namespace MachineState

variable {V : Vocabulary} {ρ : Type} {c : Client V} {s t u : MachineState V ρ}

/-- Some steps lead from one state to another. -/
def Reaches (c : Client V) (s t : MachineState V ρ) : Prop := ∃ n, (step c)^[n] s = t

theorem Reaches.refl (s : MachineState V ρ) : s.Reaches c s := ⟨0, rfl⟩

theorem Reaches.trans (h : s.Reaches c t) (h' : t.Reaches c u) : s.Reaches c u := by
  obtain ⟨m, rfl⟩ := h
  obtain ⟨n, rfl⟩ := h'
  exact ⟨n + m, Function.iterate_add_apply _ n m s⟩

/-- One step, and what it leads to. -/
theorem Reaches.head (h : (s.step c).Reaches c t) : s.Reaches c t := by
  obtain ⟨n, rfl⟩ := h
  exact ⟨n + 1, Function.iterate_succ_apply _ n s⟩

end MachineState

namespace Tenant

variable {V : Vocabulary} {ρ : Type} {T : Tenant V} {c : Client V} {sc : Scene V}

/-- A program that only looks on comes to its end. -/
theorem Confined.ends {p : Program V (Except HandlerError Unit)} (idle : T.Confined IsIdle (T.sees sc.memory) p) (d : Delivery V.Handler)
    (below : Stack V ρ .report) :
    ∃ (now : Scene V) (verdict : Verdict), T.Hushed sc now ∧
      (⟨sc, .run (k := .handler) p (.handling d below)⟩ : MachineState V ρ).Reaches c (handled c now d verdict below) := by
  generalize hseen : T.sees sc.memory = seen at idle
  induction idle generalizing sc with
  | done result => exact ⟨sc, _, .refl sc, .head (.refl _)⟩
  | crash message => exact ⟨sc, .failed message true, .refl sc, .head (.head (.refl _))⟩
  | @call op next allowed h ih =>
    -- whatever is answered, the program goes on in a scene in which the same is seen
    have hcall : ∃ answer now, T.Hushed sc now ∧
        (⟨sc, .run (k := .handler) (.call op next) (.handling d below)⟩ : MachineState V ρ).step c =
          ⟨now, .run (k := .handler) (next answer) (.handling d below)⟩ := by
      cases op with
      | plain op =>
        cases op with
        | now =>
          refine ⟨_, _, ?_, rfl⟩
          exact ⟨rfl, rfl, rfl⟩
        | sleep nanoseconds =>
          refine ⟨_, _, ?_, rfl⟩
          exact ⟨rfl, rfl, rfl⟩
        | log event =>
          refine ⟨_, _, ?_, rfl⟩
          exact ⟨rfl, rfl, rfl⟩
        | _ => cases allowed
      | _ => cases allowed
    obtain ⟨answer, now, hush, hstep⟩ := hcall
    obtain ⟨last, verdict, hush', hreaches⟩ := ih answer (hush.seen.trans hseen)
    exact ⟨last, verdict, hush.trans hush', .head (hstep ▸ hreaches)⟩
  | look h ih =>
    obtain ⟨last, verdict, hush, hreaches⟩ := ih sc.memory hseen hseen
    exact ⟨last, verdict, hush, .head hreaches⟩
  | @remember m next unseen h ih =>
    obtain ⟨last, verdict, hush, hreaches⟩ := @ih { sc with memory := m } unseen
    have hput : T.Hushed sc { sc with memory := m } := ⟨rfl, rfl, unseen.trans hseen.symm⟩
    exact ⟨last, verdict, hput.trans hush, .head hreaches⟩

/-- Subscribers who only look on are called one after the other, and then there is a report. -/
theorem report_of_calling (separates : T.Separates c) (sc : Scene V) (notification : Notification) {l : List (Subscription V.Handler)}
    (idle : ∀ s ∈ l, T.handlers s.handler) (startedAt : Instant) (report : PublishReport) (below : Stack V ρ .report) :
    ∃ now report', T.Hushed sc now ∧
      (⟨sc, calling c notification startedAt report below l⟩ : MachineState V ρ).Reaches c ⟨now, .report report' below⟩ := by
  induction l generalizing sc startedAt report with
  | nil => exact ⟨sc, report, .refl sc, .refl _⟩
  | cons s rest ih =>
    obtain ⟨hs, hrest⟩ := List.forall_mem_cons.1 idle
    obtain ⟨now, verdict, hush, hreaches⟩ := (separates.handle _ hs notification (T.sees sc.memory)).ends (c := c)
      ⟨notification, s, startedAt, rest, report⟩ below
    obtain ⟨after, startedAt', heq, counted⟩ := handled_eq_calling c now ⟨notification, s, startedAt, rest, report⟩ verdict below
    obtain ⟨last, report', hush', hreaches'⟩ :=
      ih after hrest startedAt' (account c now ⟨notification, s, startedAt, rest, report⟩ verdict).2
    exact ⟨last, report', hush.trans ((Hushed.of_counted counted).trans hush'), hreaches.trans (heq ▸ hreaches')⟩

/-- A publication is over after some steps. -/
theorem report_of_publish (separates : T.Separates c) (orderly : T.Orderly sc.world) (topic : String) (payload : Json)
    (below : Stack V ρ .report) :
    ∃ now report, T.Hushed sc now ∧ (publish c sc topic payload below).Reaches c ⟨now, .report report below⟩ := by
  obtain ⟨after, heq, counted⟩ := publish_eq_calling c sc topic payload below
  obtain ⟨now, report, hush, hreaches⟩ := report_of_calling separates after ⟨topic, payload, sc.world.clock⟩ (orderly.subscribed topic)
    sc.world.clock ⟨topic, 0, []⟩ below
  exact ⟨now, report, (Hushed.of_counted counted).trans hush, heq ▸ hreaches⟩

/-- A program that publishes goes on after some steps. -/
theorem next_of_publish (separates : T.Separates c) (orderly : T.Orderly sc.world) (topic : String) (payload : Json) {k : Kind}
    (next : PublishReport → Program V (k.Result ρ)) (below : Stack V ρ (.code k)) :
    ∃ now report, T.Hushed sc now ∧ (publish c sc topic payload (.publishing next below)).Reaches c ⟨now, .run (next report) below⟩ := by
  obtain ⟨now, report, hush, hreaches⟩ := report_of_publish separates orderly topic payload (.publishing next below)
  exact ⟨now, report, hush, hreaches.trans (.head (.refl _))⟩

/-- An activation that makes an announcement goes on after some steps. -/
theorem proceed_of_announce (separates : T.Separates c) (orderly : T.Orderly sc.world) (seat : Seat) (t : Transition) (phase : Phase)
    (below : Stack V ρ .outcome) :
    ∃ now, T.Hushed sc now ∧ (announce c sc seat t phase below).Reaches c ⟨now, .proceed seat phase below⟩ := by
  rw [announce]
  split
  · rename_i topic htopic
    obtain ⟨now, report, hush, hreaches⟩ := report_of_publish separates orderly topic (announcement seat.step t sc.world.clock)
      (.announcing seat phase below)
    refine ⟨if report.isClean then now else now.note [logAnnouncement seat.step report], ?_, hreaches.trans (.head (.refl _))⟩
    split
    · exact hush
    · exact hush.trans ⟨rfl, rfl, rfl⟩
  · exact ⟨sc, .refl sc, .refl _⟩

end Tenant

end StepEngine
