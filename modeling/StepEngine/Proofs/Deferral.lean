import Mathlib.Tactic.IntervalCases
import StepEngine.Proofs.Ledger.Wakes
import StepEngine.Proofs.Queue
import StepEngine.Proofs.Suspension

/-!
# Deferral: when a deferred resumption is still there

A resumption that arrives while its step instance runs waits in the queue of the slot. When the instance is resumed from the queue,
everything that was deferred before the resumption that is taken is dropped. So a deferred resumption survives as long as the instance
awaits only keys that were deferred before it, and these in the order in which they were deferred; awaiting its key is refused once
it was dropped (`deferred_resumption_survives_iff`).
-/

namespace StepEngine

open Machine

variable {V : Vocabulary} {ρ : Type} {c : Client V} {seat : Seat} {base : Stack V ρ .outcome} {key : AsyncKey} {outcome : AsyncOutcome}

/-! ## The suspension check on a resolved key -/

/-- The failure of a step instance that suspends on a key which was resolved and whose resumption does not wait for it. -/
def alreadyResolved (key : AsyncKey) (outcome : AsyncOutcome) : StepError :=
  .raised "invalid_async_key" ("async key " ++ key.token ++ " is already " ++ outcome.keyState.text)

/-- A resolved key passes the suspension check as long as its resumption is deferred in the slot. -/
theorem checkSuspension_of_deferred {w : World V} {slot : Slot V.Definition} (resolved : w.keys.IsResolved key seat.step outcome)
    (found : w.slots.at? seat = some slot) (deferred : ∃ r ∈ slot.deferred, r.key = key) :
    checkSuspension w seat key = .suspended key := by
  obtain ⟨status, hstatus, hstep, -⟩ := resolved.status_eq
  have hany : ((w.slots.at? seat).any fun slot => slot.deferred.any fun r => r.key = key) = true := by
    simpa [found] using deferred
  simp only [checkSuspension, hstatus]
  rw [if_neg (by simp [hstep]), if_pos (Or.inr hany)]

/-- A resolved key fails the suspension check when no resumption for it is deferred in the slot. -/
theorem checkSuspension_of_none {w : World V} {slot : Slot V.Definition} (resolved : w.keys.IsResolved key seat.step outcome)
    (found : w.slots.at? seat = some slot) (none : ∀ r ∈ slot.deferred, r.key ≠ key) :
    checkSuspension w seat key = .failed (alreadyResolved key outcome) := by
  obtain ⟨status, hstatus, hstep, hstate⟩ := resolved.status_eq
  have hany : ¬ ((w.slots.at? seat).any fun slot => slot.deferred.any fun r => r.key = key) = true := by
    simpa [found] using none
  have hpending : status.state ≠ .pending := by
    rw [hstate]
    exact KeyRegistry.keyState_ne_pending outcome
  simp only [checkSuspension, hstatus]
  rw [if_neg (by simp [hstep]), if_neg (not_or.2 ⟨hpending, hany⟩), hstate]
  rfl

namespace Run

variable (run : Run c ρ) (n i : Nat)

/-- The key that the step instance at a seat is resumed with by the step from a state. -/
def resumedKey? (seat : Seat) : Option AsyncKey :=
  ((run n).scene.world.slots.at? seat).bind fun before =>
    ((run (n + 1)).scene.world.slots.at? seat).bind fun after => before.resumedKey? after

/-- The keys that the step instance at a seat is resumed with by the steps from one state to another, the earliest first. -/
def resumedKeys (seat : Seat) : List AsyncKey := (List.range' n (i - n)).filterMap fun m => run.resumedKey? m seat

/-- Before a state, a program applies a resumption by hand. -/
def AppliedBefore (r : Resumption) : Prop := ∃ m < n, run.Applies m r

/-- A key is resolved while the slot of its step instance is running, and a run of the same activation returns it later on, without the
instance having been resumed with it: the key is resolved by the step from state `n`, and that run settles in state `i`. The keys of
the workflow are not forgotten meanwhile. -/
structure LateSuspension (slot : Slot V.Definition) (key : AsyncKey) (outcome : AsyncOutcome) (base : Stack V ρ .outcome) : Prop where
  current : (run n).scene.world.slots.current? slot.seat.executor slot.seat.step = some slot
  attached : (run n).scene.world.attachment = .executor slot.seat.executor
  held : (run n).scene.world.isHeld slot.seat.executor = true
  resolved : run.Resolves n ⟨key, slot.seat.step, outcome⟩
  later : n < i
  running : ∀ m, n ≤ m → m ≤ i → ((run m).scene.world.slots.at? slot.seat).any (·.running) = true
  kept : ∀ m, n < m → m < i → ∀ op, (run m).request? = some op → ¬ op.Forgets slot.seat.step.workflow
  undelivered : key ∉ run.resumedKeys n i slot.seat
  returned : (run i).control = .settle slot.seat (.ok (.suspended key)) base

variable {run n i} {m : Nat} {slot : Slot V.Definition}

/-- The keys of the resumptions up to the next state. -/
theorem resumedKeys_succ (hle : n ≤ m) :
    run.resumedKeys n (m + 1) seat = run.resumedKeys n m seat ++ (run.resumedKey? m seat).toList := by
  have hlength : m + 1 - n = (m - n) + 1 := by omega
  have hend : n + (m - n) = m := by omega
  rw [resumedKeys, resumedKeys, hlength, List.range'_1_concat, List.filterMap_append, hend]
  cases h : run.resumedKey? m seat <;> simp [h]

/-- The key of a resumption, by the slot before and after the step. -/
theorem resumedKey?_eq {after : Slot V.Definition} (before : (run m).ledger.slots.at? seat = some slot)
    (found : (run (m + 1)).ledger.slots.at? seat = some after) : run.resumedKey? m seat = slot.resumedKey? after := by
  have hbefore : (run m).scene.world.slots.at? seat = some slot := before
  have hfound : (run (m + 1)).scene.world.slots.at? seat = some after := found
  rw [resumedKey?, hbefore, hfound]
  rfl

namespace LateSuspension

variable (h : run.LateSuspension n i slot key outcome base)
include h

/-- The slot is found by its seat when the key is resolved. -/
theorem found : (run n).ledger.slots.at? slot.seat = some slot := (run.coherent n).seated.at?_of_current? h.current

/-- The slot is found, and running, in every state up to the settlement. -/
theorem exists_running (hle : n ≤ m) (hmi : m ≤ i) :
    ∃ now, (run m).ledger.slots.at? slot.seat = some now ∧ now.running = true := by
  have hrunning := h.running m hle hmi
  cases hat : (run m).scene.world.slots.at? slot.seat with
  | none =>
    rw [hat] at hrunning
    cases hrunning
  | some now =>
    rw [hat] at hrunning
    exact ⟨now, hat, hrunning⟩

/-- When the key is resolved, whatever is deferred for it in the slot was applied by hand. -/
theorem fresh : ∀ r ∈ slot.deferred, r.key = key → run.AppliedBefore i r := by
  intro r hr hkey
  have hm := (Slots.mem_of_at? h.found).1
  obtain ⟨j, hj, hres | happlies⟩ := exists_origin n (Slots.mem_deferred.2 ⟨slot, hm, hr⟩)
  · exact absurd (hkey ▸ h.resolved.2.1) ((hres.isSpent hj).2 _)
  · exact ⟨j, Nat.lt_trans hj h.later, happlies⟩

/-- The resumption of the key joins the queue of the slot. -/
theorem deferred : ∃ now, (run (n + 1)).ledger.slots.at? slot.seat = some now ∧ now.lifecycle = slot.lifecycle ∧
    now.deferred = slot.deferred ++ [⟨key, slot.seat.step, outcome⟩] := by
  obtain ⟨hrequest, pending, -⟩ := h.resolved
  obtain ⟨other, hother, hrunning⟩ := h.exists_running (Nat.le_refl n) (Nat.le_of_lt h.later)
  cases hother.symm.trans h.found
  obtain ⟨k, next, below, hcontrol⟩ := MachineState.control_of_request? hrequest
  obtain ⟨sc, keys, hworld, -, hresolve⟩ := resolve_eq (c := c) outcome next below pending h.attached h.held
  have hnext := (run.next_of_call hcontrol).trans hresolve
  have hcurrent : sc.world.slots.current? slot.seat.executor slot.seat.step = some slot := by
    rw [hworld]
    exact h.current
  simp only [applyResumption, hcurrent, hrunning, if_true] at hnext
  refine ⟨slot.defer ⟨key, slot.seat.step, outcome⟩, ?_, rfl, rfl⟩
  rw [hnext]
  change (sc.world.slots.modify slot.seat (Slot.defer ⟨key, slot.seat.step, outcome⟩)).at? slot.seat = _
  rw [hworld]
  exact Slots.at?_modify_self (Slot.keeps_defer _) h.found

/-- The key stays resolved until the settlement. -/
theorem isResolved (hlt : n < m) (hmi : m ≤ i) : (run m).ledger.keys.IsResolved key slot.seat.step outcome := by
  induction hlt with
  | refl => exact h.resolved.2.2
  | @step m hlt ih => exact (run.move m).isResolved (ih (Nat.le_of_succ_le hmi)) (h.kept m hlt hmi)

/-- Until the settlement, the resumption of the key waits in the queue, or it is lost; whatever else waits for the key was applied by
hand. -/
theorem holds_or_lost (hlt : n < m) (hmi : m ≤ i) :
    ∃ now, (run m).ledger.slots.at? slot.seat = some now ∧
      (now.Holds ⟨key, slot.seat.step, outcome⟩ (run.AppliedBefore i) (slot.deferred.map (·.key))
          (run.resumedKeys n m slot.seat) ∨
        now.Lost key (run.AppliedBefore i) (slot.deferred.map (·.key)) (run.resumedKeys n m slot.seat)) := by
  induction hlt with
  | refl =>
    obtain ⟨now, hat, hlife, hqueue⟩ := h.deferred
    have hsound := (run.coherent n).sound slot (Slots.mem_of_at? h.found).1
    have hkeys : run.resumedKeys n (n + 1) slot.seat = [] := by
      rw [resumedKeys_succ (Nat.le_refl n), resumedKey?_eq h.found hat, Slot.resumedKey?_of_same hsound hlife]
      simp [resumedKeys]
    refine ⟨now, hat, Or.inl ?_⟩
    rw [hkeys]
    exact Slot.holds_of_defers hqueue h.fresh
  | @step m hlt ih =>
    obtain ⟨now, hat, hqueue⟩ := ih (Nat.le_of_succ_le hmi)
    obtain ⟨other, hother, hrunning⟩ := h.exists_running (Nat.le_of_lt hlt) (Nat.le_of_succ_le hmi)
    cases hother.symm.trans hat
    obtain ⟨after, hafter, turn⟩ := (run.move m).turn (run.coherent m) hat hrunning
    obtain ⟨same, hsame, hstill⟩ := h.exists_running (Nat.le_succ_of_le (Nat.le_of_lt hlt)) hmi
    cases hsame.symm.trans hafter
    have hkey : run.resumedKey? m slot.seat = now.resumedKey? after := resumedKey?_eq hat hafter
    refine ⟨after, hafter, ?_⟩
    rw [resumedKeys_succ (Nat.le_of_lt hlt), hkey]
    refine turn.holds_or_lost ((run.coherent m).sound now (Slots.mem_of_at? hat).1) hstill ?_ ?_ hqueue
    · intro s hs heq
      rcases hs with hres | happlies
      · exact absurd (h.resolved.unique (n := m) hres heq) (Nat.ne_of_gt hlt)
      · exact ⟨m, hmi, happlies⟩
    · intro hdelivered
      refine h.undelivered (List.mem_filterMap.2 ⟨m, ?_, hkey.trans hdelivered⟩)
      have hlast : n < m := hlt
      rw [List.mem_range'_1]
      omega

end LateSuspension

/-! ## What follows the late suspension -/

/-- While the suspension of a step instance is announced, the step instance stays suspended and a deferred resumption keeps waiting. -/
theorem queues_until_proceed {sc : Scene V} {t : Transition} {r : Resumption}
    (h : run (n + 1) = announce c sc seat t (.settled (.suspended key)) base)
    (found : (run (n + 1)).ledger.slots.at? seat = some slot) (queues : slot.Queues r) :
    run.Stuck n seat base ∨ ∃ m, n < m ∧ (run m).control = .proceed seat (.settled (.suspended key)) base ∧
      ∀ j, n < j → j ≤ m → ∃ now, (run j).ledger.slots.at? seat = some now ∧ now.Awaits key ∧ now.Queues r := by
  rcases announce_ends h with hstuck | ⟨e, hne, hproceed⟩
  · exact Or.inl hstuck
  · have hnot : ¬ (run e).control.On (.announcing seat (.settled (.suspended key)) base) := by
      rw [hproceed]
      intro hon
      exact absurd (Stack.Under.depth_le hon) (by simp [Stack.depth])
    obtain ⟨m, hnm, -, hthere, hannouncing⟩ := exists_proceed h hne hnot
    have hmanned : ∀ j, n < j → j ≤ m →
        ∃ now, (run j).ledger.slots.at? seat = some now ∧ now.running = true ∧ now.Awaits key := by
      intro j hnj hjm
      rcases Nat.lt_or_eq_of_le hjm with hjm | rfl
      · obtain ⟨now, hat, hrunning, reports⟩ := (run.coherent j).manned ⟨seat, some (.settled (.suspended key))⟩
          ((hannouncing j hnj hjm).mem_activations List.mem_cons_self)
        exact ⟨now, hat, hrunning, reports.1⟩
      · obtain ⟨now, hat, hrunning, reports⟩ := run.slot_of_proceed hthere
        exact ⟨now, hat, hrunning, reports.1⟩
    refine Or.inr ⟨m, hnm, hthere, ?_⟩
    intro j hnj
    induction hnj with
    | refl =>
      intro hle
      obtain ⟨now, hat, -, hawaits⟩ := hmanned (n + 1) (Nat.lt_succ_self n) hle
      cases hat.symm.trans found
      exact ⟨slot, found, hawaits, queues⟩
    | @step j hnj ih =>
      intro hle
      obtain ⟨now, hat, hawaits, hqueues⟩ := ih (Nat.le_of_succ_le hle)
      obtain ⟨same, hsame, hrunning, -⟩ := hmanned j hnj (Nat.le_of_succ_le hle)
      cases hsame.symm.trans hat
      obtain ⟨after, hafter, turn⟩ := (run.move j).turn (run.coherent j) hat hrunning
      obtain ⟨same', hsame', hrunning', hawaits'⟩ := hmanned (j + 1) (Nat.lt_succ_of_lt hnj) hle
      cases hsame'.symm.trans hafter
      refine ⟨after, hafter, hawaits', turn.queues hrunning' ?_ hqueues⟩
      rw [hawaits']
      simp [Slot.startedLifecycle]

/-- The run that settles in a state suspends the step instance on a key, and the instance is then resumed with an outcome: it stays
suspended until it is resumed, and goes on with the outcome. Only a handler of its announcements that runs for ever can prevent that. -/
structure SuspendsAndResumes (run : Run c ρ) (n : Nat) (seat : Seat) (key : AsyncKey) (outcome : AsyncOutcome)
    (base : Stack V ρ .outcome) : Prop where
  suspended : ∃ slot, (run (n + 1)).scene.world.slots.at? seat = some slot ∧ slot.Reports (.suspended key)
  resumed : run.Stuck n seat base ∨ ∃ t m, n < t ∧ t < m ∧ (∀ j, n < j → j ≤ t → run.Stands j seat ⟨.suspended, some key⟩) ∧
    run.Wakes t seat key outcome ∧ (run m).control = .proceed seat (.resuming outcome) base ∧
      ((run m).begins? c = some (.resumption seat outcome) ∨
        ∃ slot, (run m).ledger.slots.at? seat = some slot ∧ c.resume slot.definition = none)

/-- A step instance whose queue holds a resumption for a resolved key when it suspends on the key is resumed with the first one. -/
theorem suspendsAndResumes_of_queues {given : AsyncOutcome} (h : (run n).control = .settle seat (.ok (.suspended key)) base)
    (resolved : (run n).ledger.keys.IsResolved key seat.step outcome) (found : (run n).ledger.slots.at? seat = some slot)
    (queues : slot.Queues ⟨key, seat.step, given⟩) : run.SuspendsAndResumes n seat key given base := by
  have houtcome : outcomeOf (run n).scene.world seat (.ok (.suspended key)) = .suspended key := by
    obtain ⟨rest, later, hqueue, -⟩ := queues
    exact checkSuspension_of_deferred resolved found ⟨⟨key, seat.step, given⟩, by simp [hqueue], rfl⟩
  obtain ⟨sc, t, hannounce, hslots⟩ := settle_next h
  rw [houtcome] at hannounce hslots
  have hsettled := run.at?_of_announce hannounce hslots (Slot.keeps_settle _) found
  refine ⟨⟨_, hsettled, rfl, rfl⟩, ?_⟩
  rcases queues_until_proceed hannounce hsettled queues with hstuck | ⟨m, hnm, hproceed, hqueues⟩
  · exact Or.inl hstuck
  · obtain ⟨now, hat, hawaits, hwaiting⟩ := hqueues m hnm (Nat.le_refl m)
    obtain ⟨same, hsame, ⟨-, hunmatched⟩ | ⟨sc', t', r, skipped, later, hkey, hsplit, hfirst, hresuming⟩⟩ := settled_next hproceed
    · cases hat.symm.trans hsame
      obtain ⟨rest, later, hqueue, -⟩ := hwaiting
      exact absurd hawaits (hunmatched ⟨key, seat.step, given⟩ (by simp [hqueue]))
    · cases hat.symm.trans hsame
      have hr : r = ⟨key, seat.step, given⟩ := hwaiting.eq_of_first hsplit hfirst (StepOutcome.suspended.inj hkey).symm
      subst hr
      rcases announce_ends hresuming with hstuck | ⟨e, hme, hgoes⟩
      · exact Or.inl (hstuck.mono (Nat.le_of_lt hnm))
      · refine Or.inr ⟨m, e, hnm, hme, ?_, ⟨⟨now, hat, hawaits⟩, base.activations, ?_⟩, hgoes, ?_⟩
        · intro j hnj hjm
          obtain ⟨still, hstill, hsuspended, -⟩ := hqueues j hnj hjm
          exact ⟨still, hstill, hsuspended⟩
        · rw [run.ledger_of_announce hresuming]
          rfl
        · rcases resuming_next hgoes with ⟨hbegins, -⟩ | ⟨last, hlast, hnone, -⟩
          · exact Or.inl hbegins
          · exact Or.inr ⟨last, hlast, hnone⟩

/-- A step instance that suspends on a resolved key for which nothing waits in its slot fails. -/
theorem fails_of_none (h : (run n).control = .settle seat (.ok (.suspended key)) base)
    (resolved : (run n).ledger.keys.IsResolved key seat.step outcome) (found : (run n).ledger.slots.at? seat = some slot)
    (none : ∀ s ∈ slot.deferred, s.key ≠ key) :
    ∃ failed, (run (n + 1)).scene.world.slots.at? seat = some failed ∧ failed.Reports (.failed (alreadyResolved key outcome)) := by
  have houtcome : outcomeOf (run n).scene.world seat (.ok (.suspended key)) = .failed (alreadyResolved key outcome) :=
    checkSuspension_of_none resolved found none
  obtain ⟨sc, t, hannounce, hslots⟩ := settle_next h
  rw [houtcome] at hannounce hslots
  exact ⟨_, run.at?_of_announce hannounce hslots (Slot.keeps_settle _) found, rfl, rfl⟩

/-- A step instance that returns a resolved key for which something waits in its slot is resumed with what waits there first. -/
theorem LateSuspension.exists_resumes {now : Slot V.Definition} (late : run.LateSuspension n i slot key outcome base)
    (found : (run i).ledger.slots.at? slot.seat = some now) (waits : ∃ s ∈ now.deferred, s.key = key) :
    ∃ given, ⟨key, slot.seat.step, given⟩ ∈ now.deferred ∧ run.SuspendsAndResumes i slot.seat key given base := by
  obtain ⟨s, hs, rfl, queues⟩ := Slot.exists_queues waits
  obtain ⟨hm, hseat⟩ := Slots.mem_of_at? found
  have hstep : s.step = slot.seat.step := (run.addressed i now hm s hs).trans (congrArg Seat.step hseat)
  have hself : s = ⟨s.key, slot.seat.step, s.outcome⟩ := by rw [← hstep]
  rw [hself] at hs queues
  exact ⟨s.outcome, hs, suspendsAndResumes_of_queues late.returned (late.isResolved late.later (Nat.le_refl i)) found queues⟩

/-- When a deferred resumption survives: if a key is resolved while its step instance runs, and later in the same activation a run
returns the key, then the instance is suspended and resumed with the outcome of the key in case the keys that it was resumed with
meanwhile had been deferred before, in that order; otherwise it fails, for the resumption has been dropped. Only a resumption that was
applied for the key by hand can take its place. -/
theorem deferred_resumption_survives_iff (run : Run c ρ) {n i : Nat} {slot : Slot V.Definition}
    (late : run.LateSuspension n i slot key outcome base) :
    ((run.resumedKeys n i slot.seat).Sublist (slot.deferred.map (·.key)) →
        ∃ given, run.SuspendsAndResumes i slot.seat key given base ∧
          (given = outcome ∨ run.AppliedBefore i ⟨key, slot.seat.step, given⟩)) ∧
      (¬ (run.resumedKeys n i slot.seat).Sublist (slot.deferred.map (·.key)) →
        (∃ failed, (run (i + 1)).scene.world.slots.at? slot.seat = some failed ∧
          failed.Reports (.failed (alreadyResolved key outcome))) ∨
        ∃ given, run.SuspendsAndResumes i slot.seat key given base ∧ run.AppliedBefore i ⟨key, slot.seat.step, given⟩) := by
  obtain ⟨now, found, hqueue⟩ := late.holds_or_lost late.later (Nat.le_refl i)
  refine ⟨?_, ?_⟩
  · intro order
    rcases hqueue with holds | ⟨-, disorder⟩
    · obtain ⟨given, hm, resumes⟩ := late.exists_resumes found ⟨_, holds.mem, rfl⟩
      refine ⟨given, resumes, ?_⟩
      rcases holds.eq_or_given hm rfl with heq | happlied
      · cases heq
        exact Or.inl rfl
      · exact Or.inr happlied
    · exact absurd order disorder
  · intro disorder
    rcases hqueue with holds | ⟨given, -⟩
    · exact absurd holds.sublist disorder
    · by_cases waits : ∃ s ∈ now.deferred, s.key = key
      · obtain ⟨other, hm, resumes⟩ := late.exists_resumes found waits
        exact Or.inr ⟨other, resumes, given _ hm rfl⟩
      · have none : ∀ s ∈ now.deferred, s.key ≠ key := fun s hs hkey => waits ⟨s, hs, hkey⟩
        have resolved := late.isResolved late.later (Nat.le_refl i)
        exact Or.inl (fails_of_none late.returned resolved found none)

end Run

namespace Sample

/-- How a key is resolved: the first one is completed, the other expires. -/
def resolution (key : AsyncKey) : AsyncOutcome := if key = left then .completed .null else .expired

/-- The step that has both its keys resolved while it runs, in this order, and then awaits them one after the other. -/
def racing (first second : AsyncKey) : Client vocabulary :=
  client
    (.call (submit left) fun _ => .call (submit right) fun _ =>
      .call (.resolve first (resolution first)) fun _ => .call (.resolve second (resolution second)) fun _ =>
        .done (.ok (.suspended left)))
    fun
      | .completed _ => .done (.ok (.suspended right))
      | .expired => .done (.ok .complete)

/-- The run that executes this step. -/
def race (first second : AsyncKey) : Run (racing first second) StepOutcome := execution (racing first second) .done

/-- The slot of the step instance while its entry behaviour runs. -/
def entered (deferred : List Resumption) : Slot Unit := ⟨loneSeat, (), Slot.startedLifecycle, true, deferred, none, true⟩

/-- When the keys are resolved in the order in which they are awaited, the second one is still there: the instance has been resumed
with the first, which was deferred before. -/
theorem race_survives :
    (race left right).LateSuspension 7 15 (entered [⟨left, lone, .completed .null⟩]) right .expired
        (.awaiting (k := .main) .done false .bottom) ∧
      (race left right).resumedKeys 7 15 loneSeat = [left] ∧
      (race left right).SuspendsAndResumes 15 loneSeat right .expired (.awaiting (k := .main) .done false .bottom) := by
  have late : (race left right).LateSuspension 7 15 (entered [⟨left, lone, .completed .null⟩]) right .expired
      (.awaiting (k := .main) .done false .bottom) := by
    refine ⟨rfl, rfl, rfl, ⟨rfl, ⟨_, rfl, rfl, rfl⟩, _, rfl, rfl, rfl, rfl⟩, by omega, ?_, ?_, by decide, rfl⟩
    · intro m hm hmi
      interval_cases m <;> rfl
    · intro m hm hmi op hop
      interval_cases m <;> cases hop
  obtain ⟨given, resumes, rfl | ⟨m, hm, executor, happlies⟩⟩ := ((race left right).deferred_resumption_survives_iff late).1 (by decide)
  · exact ⟨late, rfl, resumes⟩
  · interval_cases m <;> cases happlies

/-- When the keys are resolved in the other order, the second one is dropped with the first resumption: the instance fails on it,
although its key was resolved while it ran and nobody was resumed with it. So the end of the step depends on the order. -/
theorem race_drops :
    (race right left).LateSuspension 6 15 (entered []) right .expired (.awaiting (k := .main) .done false .bottom) ∧
      ¬ (race right left).SuspendsAndResumes 15 loneSeat right .expired (.awaiting (k := .main) .done false .bottom) ∧
      (race left right 26).control = .finished (.ok .complete) ∧
      (race right left 20).control = .finished (.ok (.failed (alreadyResolved right .expired))) := by
  refine ⟨?_, ?_, rfl, rfl⟩
  · refine ⟨rfl, rfl, rfl, ⟨rfl, ⟨_, rfl, rfl, rfl⟩, _, rfl, rfl, rfl, rfl⟩, by omega, ?_, ?_, by decide, rfl⟩
    · intro m hm hmi
      interval_cases m <;> rfl
    · intro m hm hmi op hop
      interval_cases m <;> cases hop
      exact id
  · rintro ⟨⟨slot, hslot, reports⟩, -⟩
    cases hslot
    cases reports.2

end Sample

end StepEngine
