import Mathlib.Tactic.Choose
import Mathlib.Tactic.IntervalCases
import StepEngine.Proofs.Ledger.Wakes

/-!
# Resumption: at most once for a key, with the outcome that the registry has

A resumption reaches a step instance when its key is resolved, or it waits in the slot and is taken from there when a run settles. Both
ways its key is spent by then, and it waits nowhere any more. So as long as nobody applies a resumption by hand, each key accounts for
one invocation of a resumption behaviour at most.
-/

namespace StepEngine

namespace Run

variable {V : Vocabulary} {c : Client V} {ρ : Type} (run : Run c ρ)

/-- Nobody applies a resumption by hand: executors get them from the registry only. -/
def Delegated : Prop := ∀ n executor r, (run n).request? ≠ some (.apply executor r)

/-- The invocation of a resumption behaviour in a state, with an outcome, is owed to a key: the key was bound to the step instance and
was resolved with the outcome, once in the whole run; and the step instance was suspended on the key and has been in progress since. -/
structure OwedTo (n : Nat) (seat : Seat) (outcome : AsyncOutcome) (key : AsyncKey) : Prop where
  resolved : ∃ j < n, run.Resolves j ⟨key, seat.step, outcome⟩ ∧ ∀ i r, run.Resolves i r → r.key = key → i = j
  awaited : ∃ t < n, run.Stands t seat ⟨.suspended, some key⟩ ∧ ∀ m, t < m → m ≤ n → run.Stands m seat Slot.startedLifecycle

variable {run} {m n : Nat} {r : Resumption} {seat seat' : Seat} {key : AsyncKey} {outcome outcome' : AsyncOutcome}

/-! ## What the deferred resumptions are owed to -/

/-- As long as nobody applies a resumption by hand, every deferred resumption is owed for the resolution of a key. -/
theorem Delegated.exists_resolves (delegated : run.Delegated) (hm : r ∈ (run n).ledger.slots.deferred) :
    ∃ j < n, run.Resolves j r := by
  obtain ⟨j, hj, hres | ⟨executor, happlies⟩⟩ := exists_origin n hm
  · exact ⟨j, hj, hres⟩
  · exact absurd happlies (delegated j executor r)

/-- What holds of deferred resumptions as long as nobody applies one by hand: no two are for one key, and none is for a key that a step
instance was resumed with. -/
structure Earned (run : Run c ρ) (n : Nat) : Prop where
  single : ((run n).ledger.slots.deferred.map (·.key)).Nodup
  past : ∀ t < n, ∀ seat key outcome, run.Wakes t seat key outcome →
    (∃ j ≤ t, run.Resolves j ⟨key, seat.step, outcome⟩) ∧ ∀ r ∈ (run n).ledger.slots.deferred, r.key ≠ key

/-- What is deferred after a step was deferred before, or it is joined by one resumption whose key the step resolves. -/
theorem Delegated.deferred_succ (delegated : run.Delegated) (n : Nat) :
    (∃ gone, (run n).ledger.slots.deferred.Perm (gone ++ (run (n + 1)).ledger.slots.deferred)) ∨
      ∃ r, run.Resolves n r ∧ (run (n + 1)).ledger.slots.deferred.Perm (r :: (run n).ledger.slots.deferred) := by
  rcases (run.move n).deferred_eq (run.coherent n) with hgone | ⟨r, hr | ⟨executor, hr⟩, hperm⟩
  · exact Or.inl hgone
  · exact Or.inr ⟨r, hr, hperm⟩
  · exact absurd hr (delegated n executor r)

/-- A step instance is resumed with the outcome of a key that was resolved and does not wait any more. -/
theorem Earned.wake (h : Earned run n) (delegated : run.Delegated) (w : run.Wakes n seat key outcome) :
    (∃ j ≤ n, run.Resolves j ⟨key, seat.step, outcome⟩) ∧ ∀ r ∈ (run (n + 1)).ledger.slots.deferred, r.key ≠ key := by
  rcases Ledger.Wakes.source w (run.move n) (run.coherent n) (run.addressed n) with
    ⟨hr | ⟨executor, hr⟩, hsame⟩ | ⟨slot, skipped, later, found, queue, -, hslots⟩
  · refine ⟨⟨n, Nat.le_refl n, hr⟩, ?_⟩
    intro r hm hkey
    rw [hsame] at hm
    obtain ⟨j, hj, hres⟩ := delegated.exists_resolves hm
    exact (hres.isSpent hj).2 _ (hkey ▸ hr.2.1)
  · exact absurd hr (delegated n executor _)
  · have hperm : (run n).ledger.slots.deferred.Perm
        ((skipped ++ [⟨key, seat.step, outcome⟩]) ++ (run (n + 1)).ledger.slots.deferred) := by
      rw [hslots]
      exact (run.coherent n).seated.deferred_drop found (by simp [Slot.take, queue])
    refine ⟨?_, ?_⟩
    · obtain ⟨j, hj, hres⟩ := delegated.exists_resolves (r := ⟨key, seat.step, outcome⟩) (hperm.mem_iff.2 (by simp))
      exact ⟨j, Nat.le_of_lt hj, hres⟩
    · intro r hm hkey
      have hnodup := (hperm.map (·.key)).nodup_iff.1 h.single
      rw [List.map_append, List.nodup_append] at hnodup
      exact hnodup.2.2 key (by simp) r.key (List.mem_map_of_mem hm) hkey.symm

/-- What was resumed before a step still waits nowhere after it: neither does it come back, nor does the step resolve its key. -/
theorem Earned.past_succ (h : Earned run n) (delegated : run.Delegated)
    (hfrom : ∀ r ∈ (run (n + 1)).ledger.slots.deferred, r ∈ (run n).ledger.slots.deferred ∨ run.Resolves n r) :
    ∀ t < n + 1, ∀ seat key outcome, run.Wakes t seat key outcome →
      (∃ j ≤ t, run.Resolves j ⟨key, seat.step, outcome⟩) ∧ ∀ r ∈ (run (n + 1)).ledger.slots.deferred, r.key ≠ key := by
  intro t ht seat key outcome w
  rcases Nat.lt_succ_iff_lt_or_eq.1 ht with ht | rfl
  · obtain ⟨⟨j, hj, hres⟩, hnone⟩ := h.past t ht seat key outcome w
    refine ⟨⟨j, hj, hres⟩, ?_⟩
    intro r hm hkey
    rcases hfrom r hm with hm | hnew
    · exact hnone r hm hkey
    · exact (hres.isSpent (Nat.lt_of_le_of_lt hj ht)).2 _ (hkey ▸ hnew.2.1)
  · exact h.wake delegated w

/-- What holds of the deferred resumptions holds after a step too. -/
theorem Earned.succ (h : Earned run n) (delegated : run.Delegated) : Earned run (n + 1) := by
  rcases delegated.deferred_succ n with ⟨gone, hperm⟩ | ⟨new, hnew, hperm⟩
  · refine ⟨?_, h.past_succ delegated fun r hm => Or.inl (hperm.mem_iff.2 (List.mem_append_right _ hm))⟩
    have hnodup := (hperm.map (·.key)).nodup_iff.1 h.single
    rw [List.map_append, List.nodup_append] at hnodup
    exact hnodup.2.1
  · refine ⟨?_, h.past_succ delegated fun r hm => ?_⟩
    · rw [(hperm.map (·.key)).nodup_iff, List.map_cons, List.nodup_cons]
      refine ⟨?_, h.single⟩
      intro hm
      obtain ⟨r, hr, hkey⟩ := List.mem_map.1 hm
      obtain ⟨j, hj, hres⟩ := delegated.exists_resolves hr
      exact (hres.isSpent hj).2 _ (hkey ▸ hnew.2.1)
    · rcases List.mem_cons.1 (hperm.mem_iff.1 hm) with rfl | hm
      · exact Or.inr hnew
      · exact Or.inl hm

/-- What holds of the deferred resumptions holds in every state, as long as nobody applies one by hand. -/
theorem earned (delegated : run.Delegated) (n : Nat) : Earned run n := by
  induction n with
  | zero =>
    obtain ⟨config, logsFaults, memory, program, hfirst⟩ := run.first
    have hnone : (run 0).ledger.slots.deferred = [] := by
      rw [hfirst]
      rfl
    refine ⟨?_, fun t ht => absurd ht (Nat.not_lt_zero t)⟩
    rw [hnone]
    exact List.nodup_nil
  | succ n ih => exact ih.succ delegated

/-- A key resumes a step instance at one moment at most. -/
theorem Wakes.unique (delegated : run.Delegated) (w : run.Wakes m seat key outcome) (w' : run.Wakes n seat' key outcome') :
    ¬ m < n := by
  intro hlt
  obtain ⟨⟨j, hj, hres⟩, hnone⟩ := (earned delegated n).past m hlt seat key outcome w
  rcases Ledger.Wakes.source w' (run.move n) (run.coherent n) (run.addressed n) with
    ⟨hr | ⟨executor, hr⟩, -⟩ | ⟨slot, skipped, later, found, queue, -, -⟩
  · exact (hres.isSpent (Nat.lt_of_le_of_lt hj hlt)).2 _ hr.2.1
  · exact delegated n executor _ hr
  · exact hnone ⟨key, seat'.step, outcome'⟩
      (Slots.mem_deferred.2 ⟨slot, (Slots.mem_of_at? found).1, by rw [queue]; simp⟩) rfl

/-! ## Invocations -/

/-- An activation that resumes a step instance was resumed at some moment and has been in progress with the outcome since. -/
theorem exists_wakes (run : Run c ρ) (n : Nat) (h : ⟨seat, some (.resuming outcome)⟩ ∈ (run n).ledger.activations) :
    ∃ t < n, ∃ key, run.Wakes t seat key outcome ∧
      ∀ m, t < m → m ≤ n → ⟨seat, some (.resuming outcome)⟩ ∈ (run m).ledger.activations := by
  induction n with
  | zero =>
    obtain ⟨config, logsFaults, memory, program, hfirst⟩ := run.first
    rw [hfirst] at h
    exact absurd h List.not_mem_nil
  | succ n ih =>
    rcases (run.move n).wakes_of_mem (run.coherent n) h with hm | ⟨key, w⟩
    · obtain ⟨t, ht, key, w, hstays⟩ := ih hm
      refine ⟨t, Nat.lt_succ_of_lt ht, key, w, ?_⟩
      intro m hlt hle
      rcases Nat.le_succ_iff.1 hle with hle | rfl
      · exact hstays m hlt hle
      · exact h
    · refine ⟨n, Nat.lt_succ_self n, key, w, ?_⟩
      intro m hlt hle
      rw [Nat.le_antisymm hle hlt]
      exact h

/-- When step code begins, its activation is the innermost one, and after the step it does not wait to begin any more. -/
theorem mem_of_begins? {code : MachineState.StepCode} (h : (run n).begins? c = some code) :
    ⟨code.seat, some code.phase⟩ ∈ (run n).ledger.activations ∧
      ∀ phase, ⟨code.seat, some phase⟩ ∉ (run (n + 1)).ledger.activations := by
  obtain ⟨below, program, hcontrol, hstep⟩ := MachineState.step_of_begins? h
  have hnow : (run n).ledger.activations = ⟨code.seat, some code.phase⟩ :: below.activations := by
    rw [MachineState.ledger, World.ledger, hcontrol]
    rfl
  have hnext : run (n + 1) = (run n).step c := by
    refine (run.next n).eq_step fun result he => ?_
    rw [hcontrol] at he
    cases he
  have hthen : (run (n + 1)).ledger.activations = ⟨code.seat, none⟩ :: below.activations := by
    rw [hnext, MachineState.ledger, World.ledger, hstep]
    rfl
  refine ⟨hnow ▸ List.mem_cons_self, ?_⟩
  intro phase hm
  rw [hthen] at hm
  have hexclusive := (run.coherent n).exclusive
  rw [hnow, List.map_cons, List.nodup_cons] at hexclusive
  rcases List.mem_cons.1 hm with he | hm
  · cases he
  · exact hexclusive.1 (List.mem_map_of_mem (f := (·.seat)) hm)

/-- Every invocation of a resumption behaviour is owed to a key. -/
theorem owedTo_of_wakes {t : Nat} (delegated : run.Delegated) (ht : t < n) (w : run.Wakes t seat key outcome)
    (hstays : ∀ m, t < m → m ≤ n → ⟨seat, some (.resuming outcome)⟩ ∈ (run m).ledger.activations) :
    run.OwedTo n seat outcome key where
  resolved := by
    obtain ⟨⟨j, hj, hres⟩, -⟩ := (earned delegated t).wake delegated w
    exact ⟨j, Nat.lt_of_le_of_lt hj ht, hres, fun i r hi hkey => hres.unique hi hkey⟩
  awaited := by
    refine ⟨t, ht, w.awaited, ?_⟩
    intro m hlt hle
    obtain ⟨slot, found, -, fits⟩ := (run.coherent m).manned _ (hstays m hlt hle)
    exact ⟨slot, found, fits⟩

/-- Resumption at most once for a key, with the registry's outcome: in a run in which nobody applies a resumption by hand, there is a
key for every invocation of a resumption behaviour, such that the invocation is owed to its key, and no two invocations have the same
one. -/
theorem resumption_owed_to_one_key (run : Run c ρ) (delegated : run.Delegated) :
    ∃ key : Nat → AsyncKey,
      (∀ n seat outcome, (run n).begins? c = some (.resumption seat outcome) → run.OwedTo n seat outcome (key n)) ∧
      ∀ m n seat seat' outcome outcome', (run m).begins? c = some (.resumption seat outcome) →
        (run n).begins? c = some (.resumption seat' outcome') → key m = key n → m = n := by
  have hkey : ∀ n, ∃ t key, ∀ seat outcome, (run n).begins? c = some (.resumption seat outcome) →
      t < n ∧ run.Wakes t seat key outcome ∧
        ∀ m, t < m → m ≤ n → ⟨seat, some (.resuming outcome)⟩ ∈ (run m).ledger.activations := by
    intro n
    by_cases hb : ∃ seat outcome, (run n).begins? c = some (.resumption seat outcome)
    · obtain ⟨seat, outcome, hb⟩ := hb
      obtain ⟨t, ht, key, w, hstays⟩ := run.exists_wakes n (mem_of_begins? hb).1
      refine ⟨t, key, ?_⟩
      intro seat' outcome' hb'
      cases hb.symm.trans hb'
      exact ⟨ht, w, hstays⟩
    · exact ⟨0, ⟨""⟩, fun seat outcome h => absurd ⟨seat, outcome, h⟩ hb⟩
  choose since key hsince using hkey
  refine ⟨key, ?_, ?_⟩
  · intro n seat outcome hb
    obtain ⟨ht, w, hstays⟩ := hsince n seat outcome hb
    exact owedTo_of_wakes delegated ht w hstays
  · intro m n seat seat' outcome outcome' hm hn heq
    obtain ⟨htm, wm, hstaysm⟩ := hsince m seat outcome hm
    obtain ⟨htn, wn, hstaysn⟩ := hsince n seat' outcome' hn
    rw [← heq] at wn
    have hsame : since m = since n :=
      Nat.le_antisymm (Nat.le_of_not_lt (wn.unique delegated wm)) (Nat.le_of_not_lt (wm.unique delegated wn))
    -- both were resumed by one step, so at one seat and with one outcome
    obtain ⟨rest, hrest⟩ := wm.resuming
    obtain ⟨rest', hrest'⟩ := wn.resuming
    rw [← hsame, hrest] at hrest'
    cases hrest'
    rcases Nat.lt_trichotomy m n with hlt | rfl | hlt
    · exact absurd (hstaysn (m + 1) (by omega) hlt) ((mem_of_begins? hm).2 _)
    · rfl
    · exact absurd (hstaysm (n + 1) (by omega) hlt) ((mem_of_begins? hn).2 _)

end Run

namespace Sample

/-- The one invocation of the waiting step's resumption behaviour is owed to its key. -/
theorem expiry_owed_to_key :
    expiry.Delegated ∧ (expiry 12).begins? waiting = some (.resumption loneSeat .expired) ∧
      ∃ key, expiry.OwedTo 12 loneSeat .expired key := by
  have delegated : expiry.Delegated := by
    intro n executor r h
    rcases Nat.lt_or_ge n 19 with hlt | hge
    · interval_cases n <;> cases h
    · have hover : (expiry 19).control = .finished (.ok (.suspended left)) := rfl
      have hstays : expiry n = expiry 19 := Run.ofProgram_eq_of_finished hover hge
      rw [hstays] at h
      cases h
  obtain ⟨key, owed, -⟩ := expiry.resumption_owed_to_one_key delegated
  exact ⟨delegated, rfl, key 12, owed 12 loneSeat .expired rfl⟩

end Sample

end StepEngine
