import StepEngine.Proofs.Ledger.Instance
import StepEngine.Proofs.Resumption
import StepEngine.Proofs.Suspension

/-!
# Exclusivity: one activation of a step instance at a time

An instance that is executed is given a slot, and a slot is held by one activation at most. While its activation is in progress,
executing the instance again is refused and resumptions are deferred, whoever asks for it: handlers, other steps, or the code of the
instance itself. So the entry behaviour begins once, and no code of the instance begins before the code that began last has settled.
-/

namespace StepEngine

open Machine

namespace Ledger

variable {V : Vocabulary} {l l' : Ledger V} {seat : Seat}

/-- An activation that is about to start was so before, or it is on a fresh slot. -/
theorem Move.mem_starting {request : Option (Op V)} (m : Move request l l') (w : l.slots.WellSeated)
    (hm : ⟨seat, some .starting⟩ ∈ l'.activations) : ⟨seat, some .starting⟩ ∈ l.activations ∨ l.slots.at? seat = none := by
  have behind : ∀ {a : Activation} {rest : List Activation}, l.activations = a :: rest →
      (⟨seat, some .starting⟩ : Activation) ∈ rest → ⟨seat, some .starting⟩ ∈ l.activations :=
    fun top hm => top ▸ List.mem_cons_of_mem _ hm
  have handed : ∀ {executor : Nat} {r : Resumption} {before : Ledger V}, Handed executor r before l' →
      before.activations = l.activations → ⟨seat, some .starting⟩ ∈ l.activations := by
    intro executor r before m hsame
    rw [← hsame]
    cases m with
    | woken current idle awaits =>
      rcases List.mem_cons.1 hm with he | hm
      · cases he
      · exact hm
    | _ => exact hm
  cases m with
  | start free =>
    rcases List.mem_cons.1 hm with he | hm
    · cases he
      exact Or.inr w.at?_nextSeat
    · exact Or.inl hm
  | apply m => exact Or.inl (handed m rfl)
  | resolve resolved attached m => exact Or.inl (handed m rfl)
  | enter top begins =>
    rcases List.mem_cons.1 hm with he | hm
    · cases he
    · exact Or.inl (behind top hm)
  | settle top found checked =>
    rcases List.mem_cons.1 hm with he | hm
    · cases he
    · exact Or.inl (behind top hm)
  | take top found awaits queue first =>
    rcases List.mem_cons.1 hm with he | hm
    · cases he
    · exact Or.inl (behind top hm)
  | finish top found unmatched => exact Or.inl (behind top hm)
  | leave top => exact Or.inl (behind top hm)
  | _ => exact Or.inl hm

end Ledger

/-- Activations that are all on one seat are one at most, when no seat has two. -/
theorem length_le_one {l : List Activation} (distinct : (l.map (·.seat)).Nodup) (same : ∀ a ∈ l, ∀ b ∈ l, a.seat = b.seat) :
    l.length ≤ 1 := by
  cases l with
  | nil => exact Nat.zero_le 1
  | cons a rest =>
    cases rest with
    | nil => exact Nat.le_refl 1
    | cons b rest =>
      have heq : a.seat = b.seat := same a List.mem_cons_self b (List.mem_cons_of_mem _ List.mem_cons_self)
      have hnot : a.seat ∉ (b :: rest).map (·.seat) := (List.nodup_cons.1 distinct).1
      exact absurd (heq ▸ List.mem_cons_self) hnot

namespace Run

variable {V : Vocabulary} {c : Client V} {ρ : Type} {run : Run c ρ} {m n executor : Nat} {step : StepId} {seat : Seat}
  {code code' : MachineState.StepCode}

/-! ## The code of one instance -/

/-- The seat whose step code begins has a slot. -/
theorem slot_of_begins? (hb : (run n).begins? c = some code) : ∃ slot, (run n).ledger.slots.at? code.seat = some slot :=
  run.exists_slot (mem_of_begins? hb).1

/-- All step code of an instance that is not purged begins on one seat. -/
theorem Unpurged.code_seat_eq (unpurged : run.Unpurged executor step) (hm : (run m).begins? c = some code)
    (hn : (run n).begins? c = some code') (hfor : code.seat.IsFor executor step) (hfor' : code'.seat.IsFor executor step) :
    code.seat = code'.seat := by
  obtain ⟨slot, found⟩ := slot_of_begins? hm
  obtain ⟨slot', found'⟩ := slot_of_begins? hn
  exact unpurged.seat_eq found found' hfor hfor'

/-- Where an activation of a seat is not about to start although there is a slot, it never is again. -/
theorem not_starting {slot : Slot V.Definition} (found : (run m).ledger.slots.at? seat = some slot)
    (hnot : ⟨seat, some .starting⟩ ∉ (run m).ledger.activations) (hle : m ≤ n) :
    ⟨seat, some .starting⟩ ∉ (run n).ledger.activations := by
  induction hle with
  | refl => exact hnot
  | @step n hle ih =>
    intro hm
    rcases (run.move n).mem_starting (run.coherent n).seated hm with hm | hfree
    · exact ih hm
    · obtain ⟨other, hother, -⟩ := run.slot_stays found hle
      exact absurd (hfree.symm.trans hother) nofun

/-- The entry behaviour of a seat does not begin when step code of that seat has begun before. -/
theorem not_entry_later (hm : (run m).begins? c = some code) (hn : (run n).begins? c = some (.entry seat)) (hseat : code.seat = seat) :
    ¬ m < n := by
  intro hlt
  subst hseat
  obtain ⟨slot, found⟩ := slot_of_begins? hm
  obtain ⟨later, hlater, -⟩ := run.slot_stays found (Nat.le_succ m)
  exact not_starting hlater ((mem_of_begins? hm).2 .starting) hlt (mem_of_begins? hn).1

/-- An instance that is not purged is executed anew only if it was not executed before. -/
theorem current?_of_executed {definition : V.Definition} {background : Bool} (unpurged : run.Unpurged executor step)
    (hm : (run m).request? = some (.execute executor definition step background)) (hlt : m < n) :
    ∃ slot, (run n).scene.world.slots.current? executor step = some slot := by
  -- after the first execution there is a slot, freshly opened or not
  have hafter : ∃ seat slot, (run (m + 1)).ledger.slots.at? seat = some slot ∧ seat.IsFor executor step := by
    obtain ⟨k, next, below, hcontrol⟩ := MachineState.control_of_request? hm
    cases hcurrent : (run m).scene.world.slots.current? executor step with
    | some slot =>
      obtain ⟨-, -, hexecutor, hstep⟩ := Slots.mem_of_current? hcurrent
      obtain ⟨later, hlater, -⟩ := run.slot_stays ((run.coherent m).seated.at?_of_current? hcurrent) (Nat.le_succ m)
      exact ⟨slot.seat, later, hlater, hexecutor, hstep⟩
    | none =>
      obtain ⟨sc, hslots, heq⟩ := execute_eq (c := c) definition background next below hcurrent
      have hnext := (run.next_of_call hcontrol).trans heq
      refine ⟨(run m).scene.world.slots.nextSeat executor step, (run m).scene.world.slots.fresh executor definition step, ?_, rfl, rfl⟩
      rw [run.ledger_of_announce hnext]
      change sc.world.slots.at? _ = _
      rw [hslots]
      exact (run.coherent m).seated.at?_start_self definition
  obtain ⟨seat, slot, found, hfor⟩ := hafter
  obtain ⟨later, hlater, -⟩ := run.slot_stays found hlt
  exact ⟨later, unpurged.current? hlater hfor⟩

/-! ## Exclusive activation -/

/-- What holds of the activations of a step instance at an executor. -/
structure Exclusive (run : Run c ρ) (executor : Nat) (step : StepId) : Prop where
  /-- At no time are two activations in progress. -/
  alone : ∀ n, (run n).control.activations.countP (fun a => a.seat.IsFor executor step) ≤ 1
  /-- The entry behaviour begins at one moment at most. -/
  entered : ∀ m n seat seat', (run m).begins? c = some (.entry seat) → (run n).begins? c = some (.entry seat') →
    seat.IsFor executor step → seat'.IsFor executor step → m = n
  /-- When step code begins that is not the first, it is a resumption behaviour, and the code that began before has run without
  interruption, has given back its result or a panic, and its outcome is in the slot. -/
  settled : ∀ m n code code', m < n → (run m).begins? c = some code → (run n).begins? c = some code' →
    code.seat.IsFor executor step → code'.seat.IsFor executor step →
      (∃ outcome, code' = .resumption code.seat outcome) ∧
      ∃ base l result slot, m < l ∧ l < n ∧ (∀ i, m < i → i < l → (run i).control.On (.active code.seat base)) ∧
        (run l).control = .settle code.seat result base ∧
        (run (l + 1)).scene.world.slots.at? code.seat = some slot ∧ slot.Reports (outcomeOf (run l).scene.world code.seat result)
  /-- Every execution after the first one fails at once, and nothing happens but that the failure is put down in the log. -/
  refused : ∀ {m n : Nat} {k : Kind} {definition definition' : V.Definition} {background background' : Bool}
    {next : StepOutcome → Program V (k.Result ρ)} {below : Stack V ρ (.code k)}, m < n →
    (run m).request? = some (.execute executor definition step background) →
    (run n).control = .run (.call (.execute executor definition' step background') next) below →
      (run (n + 1)).control = .run (next (.failed (.alreadyStarted step))) below ∧
        (run (n + 1)).scene.world = (run n).scene.world ∧ (run (n + 1)).scene.memory = (run n).scene.memory

/-- Exclusive activation: in every run, an instance whose workflow is not purged from its executor has one activation at a time. -/
theorem exclusive_activation (run : Run c ρ) {executor : Nat} {step : StepId} (unpurged : run.Unpurged executor step) :
    run.Exclusive executor step where
  alone := by
    intro n
    rw [List.countP_eq_length_filter]
    have hnodup := (run.coherent n).exclusive.sublist (List.Sublist.map _ (List.filter_sublist (p := fun a => a.seat.IsFor executor step)))
    have hsame : ∀ a ∈ (run n).ledger.activations.filter (fun a => a.seat.IsFor executor step),
        ∀ b ∈ (run n).ledger.activations.filter (fun a => a.seat.IsFor executor step), a.seat = b.seat := by
      intro a ha b hb
      obtain ⟨ha, hfor⟩ := List.mem_filter.1 ha
      obtain ⟨hb, hfor'⟩ := List.mem_filter.1 hb
      obtain ⟨slot, found⟩ := run.exists_slot ha
      obtain ⟨slot', found'⟩ := run.exists_slot hb
      exact unpurged.seat_eq found found' (of_decide_eq_true hfor) (of_decide_eq_true hfor')
    exact length_le_one hnodup hsame
  entered := by
    intro m n seat seat' hm hn hfor hfor'
    have hseat : seat = seat' := unpurged.code_seat_eq hm hn hfor hfor'
    subst hseat
    exact Nat.le_antisymm (Nat.le_of_not_lt (not_entry_later hn hm rfl)) (Nat.le_of_not_lt (not_entry_later hm hn rfl))
  settled := by
    intro m n code code' hlt hm hn hfor hfor'
    have hseat : code.seat = code'.seat := unpurged.code_seat_eq hm hn hfor hfor'
    refine ⟨?_, ?_⟩
    · cases code' with
      | entry seat => exact absurd hlt (not_entry_later hm hn hseat)
      | resumption seat outcome => exact ⟨outcome, by rw [hseat]; rfl⟩
    · obtain ⟨base, program, hcontrol, hstep⟩ := MachineState.step_of_begins? hm
      have hactive : (run (m + 1)).control.On (.active code.seat base) := by
        rw [run.next_of_control hcontrol (by simp)]
        rw [MachineState.step, hcontrol] at hstep
        rw [MachineState.step, hstep]
        exact Stack.Under.refl
      obtain ⟨l, result, hml, hln, hall, hsettle⟩ := settle_before_code hactive hlt hn hseat.symm
      obtain ⟨slot, found, -, -⟩ := run.slot_of_settle hsettle
      obtain ⟨sc, t, hnext, hslots⟩ := settle_next hsettle
      exact ⟨base, l, result, slot.settle _, hml, hln, hall, hsettle,
        run.at?_of_announce hnext hslots (Slot.keeps_settle _) found, rfl, rfl⟩
  refused := by
    intro m n k definition definition' background background' next below hlt hm hn
    obtain ⟨slot, current⟩ := current?_of_executed unpurged hm hlt
    obtain ⟨sc, heq, hworld, hmemory⟩ := execute_refused (c := c) definition' background' next below current
    have hnext := (run.next_of_call hn).trans heq
    rw [hnext]
    exact ⟨rfl, hworld, hmemory⟩

end Run

namespace Sample

/-- The step that executes itself and expires its key, both while it runs, and awaits the key then. -/
def eager : Client vocabulary :=
  client
    (.call (submit left) fun _ => .call (.execute 0 () lone false) fun _ =>
      .call (.resolve left .expired) fun _ => .done (.ok (.suspended left)))
    fun _ => .done (.ok .complete)

/-- The run that executes this step. -/
def reentry : Run eager StepOutcome := execution eager .done

/-- The step that executes itself is refused, and it is resumed only after its entry behaviour has settled. -/
theorem reentry_exclusive :
    reentry.Unpurged 0 lone ∧ reentry.Exclusive 0 lone ∧ (reentry 3).begins? eager = some (.entry loneSeat) ∧
      (∃ next below, (reentry 5).control = .run (k := .step) (.call (.execute 0 () lone false) next) below ∧
        (reentry 6).control = .run (next (.failed (.alreadyStarted lone))) below) ∧
      (∃ base, (reentry 8).control = .settle loneSeat (.ok (.suspended left)) base) ∧
      (reentry 12).begins? eager = some (.resumption loneSeat .expired) := by
  have unpurged : reentry.Unpurged 0 lone := by
    intro n h
    rcases Nat.lt_or_ge n 19 with hlt | hge
    · interval_cases n <;> cases h
    · have hover : (reentry 19).control = .finished (.ok .complete) := rfl
      have hstays : reentry n = reentry 19 := Run.ofProgram_eq_of_finished hover hge
      rw [hstays] at h
      cases h
  have exclusive := reentry.exclusive_activation unpurged
  exact ⟨unpurged, exclusive, rfl, ⟨_, _, rfl, (exclusive.refused (m := 1) (n := 5) (by omega) rfl rfl).1⟩, ⟨_, rfl⟩, rfl⟩

end Sample

end StepEngine
