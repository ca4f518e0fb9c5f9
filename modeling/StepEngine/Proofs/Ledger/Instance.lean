import StepEngine.Proofs.Ledger.Coherence

/-!
# Instance: the one slot of a step instance

An executor opens another slot for a step instance only when it does not list one. So as long as the workflow of the instance is not
purged from the executor, the instance has one slot at most, on one seat, from its first execution on.
-/

namespace StepEngine

/-- The seat is one of a step instance at an executor. -/
def Seat.IsFor (seat : Seat) (executor : Nat) (step : StepId) : Prop := seat.executor = executor ∧ seat.step = step

instance (seat : Seat) (executor : Nat) (step : StepId) : Decidable (seat.IsFor executor step) := inferInstanceAs (Decidable (_ ∧ _))

namespace Ledger

variable {V : Vocabulary} {l l' : Ledger V} {executor : Nat} {step : StepId} {seat : Seat} {slot slot' : Slot V.Definition}

/-- Every slot of a step instance is listed. -/
def Lists (l : Ledger V) (executor : Nat) (step : StepId) : Prop := ∀ slot ∈ l.slots, slot.seat.IsFor executor step → slot.listed = true

/-- A change of a slot leaves it listed. -/
theorem Lists.modify {f : Slot V.Definition → Slot V.Definition} (h : l.Lists executor step) (keeps : Slot.Keeps f) :
    Lists { l with slots := l.slots.modify seat f } executor step := by
  intro new hm
  obtain ⟨old, hold, rfl⟩ := Slots.mem_modify hm
  split
  · rw [keeps.seat old, keeps.listed old]
    exact h old hold
  · exact h old hold

/-- A resumption that reaches an executor leaves the slots listed. -/
theorem Lists.handed {other : Nat} {r : Resumption} (h : l.Lists executor step) (m : Handed other r l l') : l'.Lists executor step := by
  cases m with
  | unknown absent => exact h
  | refused current idle other => exact h
  | deferred current running => exact h.modify (Slot.keeps_defer r)
  | woken current idle awaits => exact Lists.modify (l := l) h Slot.keeps_wake

/-- Only a purge of the workflow from the executor takes a slot of a step instance out of the list. -/
theorem Lists.move {request : Option (Op V)} (h : l.Lists executor step) (m : Move request l l')
    (unpurged : request ≠ some (.plain (.purgeSlots executor step.workflow))) : l'.Lists executor step := by
  cases m with
  | stay => exact h
  | bind step now fresh => exact h
  | forget forgets => exact h
  | attach attachment executors => exact h
  | unlist other workflow =>
    intro new hm hfor
    rw [Slots.purge_eq] at hm
    obtain ⟨old, hold, rfl⟩ := List.mem_map.1 hm
    rw [Slots.unlist_seat] at hfor
    rw [Slots.unlist]
    split
    · rename_i hp
      simp only [Bool.and_eq_true, beq_iff_eq] at hp
      obtain ⟨rfl, rfl⟩ := hp
      rw [hfor.1, hfor.2] at unpurged
      exact absurd rfl unpurged
    · exact h old hold hfor
  | start free =>
    intro new hm hfor
    rcases Slots.mem_start hm with hm | rfl
    · exact h new hm hfor
    · rfl
  | apply handed => exact h.handed handed
  | @resolve _ _ _ _ _ _ keys _ resolved attached handed => exact Lists.handed (l := { l with keys := keys }) h handed
  | undelivered resolved unserved => exact h
  | enter top begins => exact h
  | settle top found checked => exact Lists.modify (l := l) h (Slot.keeps_settle _)
  | take top found awaits queue first => exact Lists.modify (l := l) h (Slot.keeps_take _)
  | finish top found unmatched => exact Lists.modify (l := l) h Slot.keeps_idle
  | leave top => exact h

/-- A listed slot of a step instance is the one that the executor finds. -/
theorem Lists.current? (h : l.Lists executor step) (w : l.slots.WellSeated) (hm : slot ∈ l.slots) (hfor : slot.seat.IsFor executor step) :
    l.slots.current? executor step = some slot := by
  rw [← hfor.1, ← hfor.2]
  exact w.single slot hm (h slot hm hfor)

end Ledger

namespace Run

variable {V : Vocabulary} {c : Client V} {ρ : Type} (run : Run c ρ)

/-- The workflow of a step instance is never purged from an executor. -/
def Unpurged (executor : Nat) (step : StepId) : Prop := ∀ n, (run n).request? ≠ some (.plain (.purgeSlots executor step.workflow))

variable {run} {m n executor : Nat} {step : StepId} {seat seat' : Seat} {slot slot' : Slot V.Definition}

/-- All slots of a step instance that is not purged are listed. -/
theorem Unpurged.lists (unpurged : run.Unpurged executor step) (n : Nat) : (run n).ledger.Lists executor step := by
  induction n with
  | zero =>
    obtain ⟨config, logsFaults, memory, program, hfirst⟩ := run.first
    rw [hfirst]
    exact fun slot hm => absurd hm List.not_mem_nil
  | succ n ih => exact ih.move (run.move n) (unpurged n)

/-- The executor finds the slot of a step instance that is not purged. -/
theorem Unpurged.current? (unpurged : run.Unpurged executor step) (found : (run n).ledger.slots.at? seat = some slot)
    (hfor : seat.IsFor executor step) : (run n).ledger.slots.current? executor step = some slot := by
  obtain ⟨hm, rfl⟩ := Slots.mem_of_at? found
  exact (unpurged.lists n).current? (run.coherent n).seated hm hfor

/-- A step instance that is not purged has one seat for ever. -/
theorem Unpurged.seat_eq (unpurged : run.Unpurged executor step) (found : (run m).ledger.slots.at? seat = some slot)
    (found' : (run n).ledger.slots.at? seat' = some slot') (hfor : seat.IsFor executor step) (hfor' : seat'.IsFor executor step) :
    seat = seat' := by
  obtain ⟨later, hlater, -⟩ := run.slot_stays found (Nat.le_max_left m n)
  obtain ⟨later', hlater', -⟩ := run.slot_stays found' (Nat.le_max_right m n)
  have hsame := (unpurged.current? hlater hfor).symm.trans (unpurged.current? hlater' hfor')
  rw [← (Slots.mem_of_at? hlater).2, ← (Slots.mem_of_at? hlater').2, Option.some.inj hsame]

/-- The seat of an activation has a slot. -/
theorem exists_slot (run : Run c ρ) {a : Activation} (hm : a ∈ (run n).ledger.activations) :
    ∃ slot, (run n).ledger.slots.at? a.seat = some slot := by
  obtain ⟨slot, found, -⟩ := (run.coherent n).manned a hm
  exact ⟨slot, found⟩

end Run

end StepEngine
