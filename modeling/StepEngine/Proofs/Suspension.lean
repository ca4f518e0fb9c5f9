import Mathlib.Tactic.IntervalCases
import StepEngine.Proofs.Ledger.Suspension
import StepEngine.Proofs.Progress
import StepEngine.Proofs.SlotCoherence

/-!
# Suspension: no suspended step instance is stranded

A step instance that rests suspended awaits a key that is pending, as long as its executor gets the resumptions and its keys are not
forgotten. Resolving that key resumes the instance before the call returns, and the call returns well: the resumption is announced, the
resumption behaviour begins once, and nothing but the code that it calls can keep the call from returning.
-/

namespace StepEngine

open Machine

variable {V : Vocabulary} {ρ : Type} {c : Client V} {k : Kind} {seat : Seat} {base : Stack V ρ .outcome} {below : Stack V ρ (.code k)}
  {key : AsyncKey} {step : StepId} {executor : Nat} {outcome : AsyncOutcome}

/-- The activations on a stack are among those on every stack above it. -/
theorem Stack.Under.mem_activations {a b : Expects} {lower : Stack V ρ a} {stack : Stack V ρ b} {activation : Activation}
    (h : lower.Under stack) (hm : activation ∈ lower.activations) : activation ∈ stack.activations := by
  induction h with
  | refl => exact hm
  | handling _ ih => exact ih
  | receiving _ ih => exact ih
  | active _ ih => exact List.mem_cons_of_mem _ ih
  | publishing _ ih => exact ih
  | announcing _ ih => exact List.mem_cons_of_mem _ ih
  | awaiting _ ih => exact ih

/-- The activations on a stack are in progress as long as everything happens on it. -/
theorem Control.On.mem_activations {b : Expects} {stack : Stack V ρ b} {control : Control V ρ} {activation : Activation}
    (h : control.On stack) (hm : activation ∈ stack.activations) : activation ∈ control.activations := by
  cases control with
  | unwind message high => exact h.2.mem_activations hm
  | finished result => cases h
  | proceed seat phase high => exact List.mem_cons_of_mem _ (Stack.Under.mem_activations h hm)
  | settle seat result high => exact List.mem_cons_of_mem _ (Stack.Under.mem_activations h hm)
  | _ => exact Stack.Under.mem_activations h hm

/-- A pending key that is resolved while an executor is attached and held has its resumption applied by the executor. -/
theorem resolve_eq {sc : Scene V} (outcome : AsyncOutcome) (next : Except KeyError Unit → Program V (k.Result ρ))
    (below : Stack V ρ (.code k)) (pending : sc.world.keys.IsPending key step)
    (attached : sc.world.attachment = .executor executor) (held : sc.world.isHeld executor = true) :
    ∃ (sc' : Scene V) (keys : KeyRegistry), sc'.world = { sc.world with keys := keys } ∧ keys.IsResolved key step outcome ∧
      resolve c sc key outcome next below = applyResumption c sc' executor ⟨key, step, outcome⟩ (fun _ => next (.ok ())) below := by
  have hresolve := pending.resolve_eq outcome sc.world.clock
  obtain ⟨sc', heq, hworld⟩ := resolve_eq_apply (c := c) next below hresolve attached (Bool.or_eq_true_iff.2 (Or.inl held))
  exact ⟨sc', _, hworld, KeyRegistry.isResolved_resolve hresolve, heq⟩

namespace Run

variable {run : Run c ρ} {m n i j e : Nat}

/-! ## One invocation -/

/-- No step code of a seat begins on top of an activation of that seat. -/
theorem begins?_seat_ne {b : Expects} {stack : Stack V ρ b} {code : MachineState.StepCode} {activation : Activation}
    (hon : (run n).control.On stack) (hm : activation ∈ stack.activations) (hb : (run n).begins? c = some code) :
    code.seat ≠ activation.seat := by
  intro hseat
  obtain ⟨low, -, hcontrol, -⟩ := MachineState.step_of_begins? hb
  have hexclusive := (run.coherent n).exclusive
  rw [MachineState.ledger, World.ledger, hcontrol] at hexclusive
  rw [hcontrol] at hon
  have hlow : activation ∈ low.activations := Stack.Under.mem_activations hon hm
  exact (List.nodup_cons.1 hexclusive).1 (hseat ▸ List.mem_map_of_mem (f := (·.seat)) hlow)

/-- Step code that runs settles its activation before step code of the seat begins again. -/
theorem settle_before_code {code : MachineState.StepCode} (hactive : (run (i + 1)).control.On (.active seat base)) (hij : i < j)
    (hcode : (run j).begins? c = some code) (hseat : code.seat = seat) :
    ∃ l result, i < l ∧ l < j ∧ (∀ t, i < t → t < l → (run t).control.On (.active seat base)) ∧
      (run l).control = .settle seat result base := by
  have hoff : ¬ (run j).control.On (.active seat base) := fun hon => absurd hseat (begins?_seat_ne hon List.mem_cons_self hcode)
  obtain ⟨l, hil, hlj, hall, -, hleft⟩ := run.exists_leaving hactive hij hoff
  obtain ⟨result, hsettle⟩ := settle_of_code_ended (code_left (hall l hil (Nat.le_refl l)) hleft)
  have hne : l + 1 ≠ j := by
    rintro rfl
    obtain ⟨low, -, hcontrol, -⟩ := MachineState.step_of_begins? hcode
    rw [hcontrol] at hsettle
    cases hsettle
  exact ⟨l + 1, result, by omega, by omega, fun t hit htl => hall t hit (by omega), hsettle⟩

/-- An announcement is followed by the phase that it is made for, before anything else happens to the activation. -/
theorem exists_proceed {phase : Phase} {sc : Scene V} {t : Transition} (h : run (n + 1) = announce c sc seat t phase base)
    (hlt : n < e) (hnot : ¬ (run e).control.On (.announcing seat phase base)) :
    ∃ i, n < i ∧ i ≤ e ∧ (run i).control = .proceed seat phase base ∧
      ∀ j, n < j → j < i → (run j).control.On (.announcing seat phase base) := by
  rw [announce] at h
  split at h
  · have hon : (run (n + 1)).control.On (.announcing seat phase base) := h ▸ on_publish _ _ _
    obtain ⟨i, hni, hie, hall, hhere, hoff⟩ := run.exists_leaving hon hlt hnot
    obtain ⟨result, hreport⟩ := (hall i hni (Nat.le_refl i)).of_report.resolve_left hhere
    exact ⟨i + 1, by omega, hie, proceed_of_report hreport, fun j hnj hji => hall j hnj (by omega)⟩
  · exact ⟨n + 1, Nat.lt_succ_self n, hlt, by rw [h], fun j hnj hji => by omega⟩

/-- Between two states, the resumption behaviour of a seat begins with an outcome, and it does not begin again before that run has
settled. -/
def InvokesOnce (run : Run c ρ) (n m : Nat) (seat : Seat) (outcome : AsyncOutcome)
    (behaviour : StepId → AsyncOutcome → Program V (Except StepError Completion)) : Prop :=
  ∃ i base, n < i ∧ i < m ∧ (run i).begins? c = some (.resumption seat outcome) ∧
    (run (i + 1)).control = .run (k := .step) (behaviour seat.step outcome) (.active seat base) ∧
    ∀ j code, n < j → j < m → (run j).begins? c = some code → code.seat = seat →
      j = i ∨ ∃ l result, i < l ∧ l < j ∧ (run l).control = .settle seat result base

/-- An activation that resumes a step instance invokes the resumption behaviour once before it settles. -/
theorem invokesOnce_of_announce {sc : Scene V} {t : Transition} {settled : StepOutcome} {slot : Slot V.Definition}
    {behaviour : StepId → AsyncOutcome → Program V (Except StepError Completion)}
    (h : run (n + 1) = announce c sc seat t (.resuming outcome) base) (hlt : n < e)
    (hends : run.Ends e seat base settled) (hem : e < m)
    (hdefinition : ∀ i, n < i → ∃ other, (run i).ledger.slots.at? seat = some other ∧ other.definition = slot.definition)
    (hresume : c.resume slot.definition = some behaviour) : run.InvokesOnce n m seat outcome behaviour := by
  have hnot : ¬ (run e).control.On (.announcing seat (.resuming outcome) base) := by
    rw [hends.settled]
    intro hon
    exact absurd (Stack.Under.depth_le hon) (by simp [Stack.depth])
  obtain ⟨i, hni, hie, hproceed, hannouncing⟩ := exists_proceed h hlt hnot
  obtain ⟨other, found, hother⟩ := hdefinition i hni
  have found' : (run i).scene.world.slots.at? seat = some other := found
  have hbegins : (run i).begins? c = some (.resumption seat outcome) := by
    simp only [MachineState.begins?, hproceed, found', hother, hresume, Option.map_some]
  have hnext : (run (i + 1)).control = .run (k := .step) (behaviour seat.step outcome) (.active seat base) := by
    rw [run.next_of_control hproceed (by simp), MachineState.step]
    simp only [proceed, found', Option.map_some, resume, hother, hresume]
  refine ⟨i, base, hni, by omega, hbegins, hnext, ?_⟩
  intro j code hnj hjm hcode hseat
  rcases Nat.lt_trichotomy j i with hji | rfl | hij
  · -- while the resumption is announced
    exact absurd hseat (begins?_seat_ne (hannouncing j hnj hji) List.mem_cons_self hcode)
  · exact Or.inl rfl
  · -- after the behaviour has begun
    right
    have hactive : (run (i + 1)).control.On (.active seat base) := by
      rw [hnext]
      exact Stack.Under.refl
    obtain ⟨l, result, hil, hlj, -, hsettle⟩ := settle_before_code hactive hij hcode hseat
    exact ⟨l, result, hil, hlj, hsettle⟩

/-- An activation that resumes a step instance without a resumption behaviour ends with a failure. -/
theorem ends_notResumable {sc : Scene V} {t : Transition} {settled : StepOutcome} {slot : Slot V.Definition}
    (h : run (n + 1) = announce c sc seat t (.resuming outcome) base) (hlt : n < e) (hends : run.Ends e seat base settled)
    (hwithin : ∀ j, n < j → j ≤ e → (run j).control.Within c seat base)
    (hdefinition : ∀ i, n < i → ∃ other, (run i).ledger.slots.at? seat = some other ∧ other.definition = slot.definition)
    (hresume : c.resume slot.definition = none) :
    settled = .failed (.notResumable seat.step ("step '" ++ c.stepName slot.definition ++ "' has no resumption behavior")) := by
  have hnot : ∀ phase, ¬ (run e).control.On (.announcing seat phase base) := by
    intro phase hon
    rw [hends.settled] at hon
    exact absurd (Stack.Under.depth_le hon) (by simp [Stack.depth])
  obtain ⟨i, hni, hie, hproceed, -⟩ := exists_proceed h hlt (hnot _)
  obtain ⟨other, found, hother⟩ := hdefinition i hni
  rcases resuming_next hproceed with ⟨hbegins, -⟩ | ⟨same, hsame, -, hsettle⟩
  · have found' : (run i).scene.world.slots.at? seat = some other := found
    simp [MachineState.begins?, hproceed, found', hother, hresume] at hbegins
  · cases hsame.symm.trans found
    rw [hother] at hsettle
    have hie' : i + 1 < e := by
      have hne : i ≠ e := by
        rintro rfl
        rw [hends.settled] at hproceed
        cases hproceed
      have hne' : i + 1 ≠ e := by
        rintro rfl
        rw [hends.settled] at hsettle
        cases hsettle
      omega
    obtain ⟨sc', t', hnext, -⟩ := settle_next hsettle
    obtain ⟨l, hil, hle, hfailed, -⟩ := exists_proceed hnext hie' (hnot _)
    have hover := ends_of_failed hfailed
    have hlast : l = e := by
      by_contra hne
      exact (hwithin (l + 1) (by omega) (by omega)).ne_outcome hover.outcome
    subst hlast
    have hcontrol := hover.settled.symm.trans hends.settled
    simpa using hcontrol.symm

/-! ## Resolving the awaited key -/

/-- What a program that resolves a key with an outcome brings about when the step instance of a slot rests suspended on it. -/
structure ResumesOn (run : Run c ρ) (n : Nat) (slot : Slot V.Definition) (key : AsyncKey) (outcome : AsyncOutcome)
    (next : Except KeyError Unit → Program V (k.Result ρ)) (below : Stack V ρ (.code k)) : Prop where
  resolved : (run (n + 1)).scene.world.keys.IsResolved key slot.seat.step outcome
  /-- The step instance is in progress at once. -/
  started : ∃ woken, (run (n + 1)).scene.world.slots.at? slot.seat = some woken ∧ woken.lifecycle.state = .inProgress ∧
    woken.running = true
  /-- If the call returns then it returns well. -/
  ok : ∀ m program, run.Returns n m below program → program = next (.ok ())
  /-- Before it returns, the resumption behaviour of the step is invoked once with the outcome. -/
  invoked : ∀ behaviour, c.resume slot.definition = some behaviour → ∀ m program, run.Returns n m below program →
    run.InvokesOnce n m slot.seat outcome behaviour
  /-- If the step has no resumption behaviour, it has failed when the call returns. -/
  refused : c.resume slot.definition = none → ∀ m program, run.Returns n m below program →
    ∃ failed, (run m).scene.world.slots.at? slot.seat = some failed ∧
      failed.Reports (.failed (.notResumable slot.seat.step
        ("step '" ++ c.stepName slot.definition ++ "' has no resumption behavior")))
  /-- The call returns, unless a handler or step code that it calls runs for ever, or the step is resumed again and again. -/
  returns : (∃ m, run.Returns n m below (next (.ok ()))) ∨
    run.Stuck (n + 1) slot.seat (.awaiting (fun _ => next (.ok ())) false below) ∨
    ∀ bound, ∃ m outcome, bound ≤ m ∧ (run m).begins? c = some (.resumption slot.seat outcome)

/-- A step instance that rests suspended on a pending key is resumed by a resolution of the key, if its executor gets it. -/
theorem resumesOn_of_resolve {slot : Slot V.Definition} {next : Except KeyError Unit → Program V (k.Result ρ)}
    (h : (run n).control = .run (.call (.resolve key outcome) next) below)
    (current : (run n).scene.world.slots.current? executor step = some slot) (idle : slot.running = false)
    (awaits : slot.Awaits key) (pending : (run n).scene.world.keys.IsPending key step)
    (attached : (run n).scene.world.attachment = .executor executor) (held : (run n).scene.world.isHeld executor = true) :
    run.ResumesOn n slot key outcome next below := by
  obtain ⟨-, -, -, rfl⟩ := Slots.mem_of_current? current
  have hat := (run.coherent n).seated.at?_of_current? current
  obtain ⟨sc, keys, hworld, hresolved, hresolve⟩ := resolve_eq (c := c) outcome next below pending attached held
  have hcurrent : sc.world.slots.current? executor slot.seat.step = some slot := by
    rw [hworld]
    exact current
  obtain ⟨sc', hworld', happly⟩ := applyResumption_eq (c := c) (r := ⟨key, slot.seat.step, outcome⟩) (fun _ => next (.ok ())) below
    hcurrent idle awaits
  have hnext := (run.next_of_call h).trans (hresolve.trans happly)
  have hslots : sc'.world.slots = (run n).scene.world.slots.modify slot.seat Slot.wake := by rw [hworld', hworld]
  have hwoken := run.at?_of_announce hnext hslots Slot.keeps_wake hat
  have hwithin : (run (n + 1)).control.Within c slot.seat (.awaiting (fun _ => next (.ok ())) false below) :=
    hnext ▸ Control.Within.announce (by simp) sc' _
  have hdefinition : ∀ i, n < i →
      ∃ other, (run i).ledger.slots.at? slot.seat = some other ∧ other.definition = slot.definition :=
    fun i hni => run.slot_stays hat (Nat.le_of_lt hni)
  constructor
  · change (run (n + 1)).ledger.keys.IsResolved key slot.seat.step outcome
    rw [run.ledger_of_announce hnext]
    change sc'.world.keys.IsResolved key slot.seat.step outcome
    rw [hworld', hworld]
    exact hresolved
  · exact ⟨slot.wake, hwoken, rfl, rfl⟩
  · intro m program returns
    obtain ⟨i, settled, -, -, hprogram, -, -⟩ := returns.ends hwithin
    exact hprogram
  · intro behaviour hresume m program returns
    obtain ⟨i, settled, hni, rfl, -, hends, -⟩ := returns.ends hwithin
    exact invokesOnce_of_announce hnext hni hends (by omega) hdefinition hresume
  · intro hresume m program returns
    obtain ⟨i, settled, hni, rfl, -, hends, hall⟩ := returns.ends hwithin
    rw [← ends_notResumable hnext hni hends hall hdefinition hresume]
    exact hends.reports
  · rcases ends_or_diverges hwithin with ⟨m, settled, hle, hall, hends⟩ | hdiverges
    · exact Or.inl ⟨m + 2, hends.returns hle fun i hni him => hall i hni him⟩
    · exact Or.inr hdiverges

/-- No stranded suspension: as long as an executor gets the resumptions of all keys, and the keys of a step instance are not forgotten,
the instance, when it rests suspended in a slot that the executor lists, awaits a key that is pending and bound to it; and whoever
resolves this key then resumes the instance. -/
theorem no_stranded_suspension (run : Run c ρ) {n executor : Nat} {step : StepId} {slot : Slot V.Definition}
    (attended : run.Attended n executor step) (current : (run n).scene.world.slots.current? executor step = some slot)
    (idle : slot.running = false) (suspended : slot.lifecycle.state = .suspended) :
    ∃ key, slot.lifecycle.awaiting = some key ∧ (run n).scene.world.keys.IsPending key step ∧
      ∀ {k : Kind} (outcome : AsyncOutcome) (next : Except KeyError Unit → Program V (k.Result ρ)) (below : Stack V ρ (.code k)),
        (run n).control = .run (.call (.resolve key outcome) next) below → run.ResumesOn n slot key outcome next below := by
  obtain ⟨key, awaits, pending⟩ := attended.isPending current idle suspended
  have hawaiting : slot.lifecycle.awaiting = some key := by rw [awaits]
  refine ⟨key, hawaiting, pending, ?_⟩
  intro k outcome next below h
  obtain ⟨hm, -, hexecutor, -⟩ := Slots.mem_of_current? current
  obtain ⟨attached, held⟩ := attended.served n (Nat.le_refl n) ⟨slot, hm, hexecutor⟩
  exact resumesOn_of_resolve h current idle awaits pending attached held

end Run

namespace Sample

/-- The slot of a step instance that rests suspended on its first key. -/
def resting : Slot Unit := ⟨loneSeat, (), ⟨.suspended, some left⟩, false, [], some (.suspended left), true⟩

/-- When its key is about to expire, the waiting step instance is not stranded. -/
theorem expiry_not_stranded :
    expiry.Attended 10 0 lone ∧ (expiry 10).scene.world.slots.current? 0 lone = some resting ∧
      (expiry 10).scene.world.keys.IsPending left lone ∧
      ∃ next, (expiry 10).control = .run (.call (.resolve left .expired) next) .bottom ∧
        expiry.ResumesOn 10 resting left .expired next .bottom := by
  have attended : expiry.Attended 10 0 lone := by
    constructor
    · intro j hj
      interval_cases j
      · rintro ⟨slot, hm, -⟩
        cases hm
      all_goals exact fun _ => ⟨rfl, rfl⟩
    · intro j hj op hop
      interval_cases j <;> cases hop <;> exact id
  have current : (expiry 10).scene.world.slots.current? 0 lone = some resting := rfl
  obtain ⟨key, hkey, pending, resumes⟩ := expiry.no_stranded_suspension attended current rfl rfl
  cases hkey
  exact ⟨attended, current, pending, _, rfl, resumes .expired _ .bottom rfl⟩

end Sample

end StepEngine
