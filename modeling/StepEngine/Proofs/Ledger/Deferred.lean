import Mathlib.Data.List.Basic
import StepEngine.Proofs.Ledger.Coherence

/-!
# Deferred: the resumptions that wait in the slots

What is deferred in all slots together is a list that grows at one end only: when a key is resolved, or a resumption applied by hand,
while the step instance runs. Every other move leaves the list alone or drops entries from it. A resumption waits in a slot of the step
instance that it is for.
-/

namespace StepEngine

namespace Slots

variable {D : Type} {slots : Slots D} {seat : Seat} {slot : Slot D} {f : Slot D → Slot D}

/-- What is deferred in the slots. -/
def deferred (slots : Slots D) : List Resumption := slots.flatMap (·.deferred)

/-- A resumption that is deferred is deferred in some slot. -/
theorem mem_deferred {r : Resumption} : r ∈ slots.deferred ↔ ∃ slot ∈ slots, r ∈ slot.deferred := List.mem_flatMap

/-- A change of the slot at a seat is a change of one entry of the list. -/
theorem WellSeated.exists_perm_cons (w : slots.WellSeated) (found : slots.at? seat = some slot) (f : Slot D → Slot D) :
    ∃ rest, slots.Perm (slot :: rest) ∧ (slots.modify seat f).Perm (f slot :: rest) := by
  obtain ⟨hm, rfl⟩ := mem_of_at? found
  obtain ⟨front, back, rfl⟩ := List.append_of_mem hm
  have hdistinct := w.distinct
  simp only [List.map_append, List.map_cons] at hdistinct
  have hfront : ∀ other ∈ front, other.seat ≠ slot.seat := by
    intro other ho he
    exact (List.nodup_append.1 hdistinct).2.2 _ (List.mem_map_of_mem ho) _ List.mem_cons_self he
  have hback : ∀ other ∈ back, other.seat ≠ slot.seat := by
    intro other ho he
    have hnot := (List.nodup_cons.1 (List.nodup_append.1 hdistinct).2.1).1
    exact hnot (he ▸ List.mem_map_of_mem ho)
  have hsame : ∀ part : List (Slot D), (∀ other ∈ part, other.seat ≠ slot.seat) →
      part.map (fun other => if other.seat = slot.seat then f other else other) = part := by
    intro part hpart
    rw [List.map_congr_left fun other ho => if_neg (hpart other ho), List.map_id'']
    exact fun _ => rfl
  refine ⟨front ++ back, List.perm_middle, ?_⟩
  rw [Slots.modify, List.map_append, List.map_cons, hsame front hfront, hsame back hback, if_pos rfl]
  exact List.perm_middle

/-- A change that does not touch what is deferred. -/
theorem deferred_modify (hf : ∀ slot, (f slot).deferred = slot.deferred) : (slots.modify seat f).deferred = slots.deferred := by
  rw [deferred, modify, List.flatMap_map]
  refine List.flatMap_congr fun slot _ => ?_
  split
  · exact hf slot
  · rfl

/-- Deferring adds the resumption. -/
theorem WellSeated.deferred_defer (w : slots.WellSeated) (found : slots.at? seat = some slot) (r : Resumption) :
    (slots.modify seat (Slot.defer r)).deferred.Perm (r :: slots.deferred) := by
  obtain ⟨rest, hbefore, hafter⟩ := w.exists_perm_cons found (Slot.defer r)
  have hb := hbefore.flatMap_right (·.deferred)
  have ha := hafter.flatMap_right (·.deferred)
  refine ha.trans (.trans ?_ (hb.symm.cons r))
  simp only [List.flatMap_cons, Slot.defer, List.append_assoc]
  exact List.perm_middle

/-- When the slot at a seat is changed, what is deferred changes in this slot. -/
theorem WellSeated.deferred_drop (w : slots.WellSeated) (found : slots.at? seat = some slot) {gone : List Resumption}
    (hf : slot.deferred = gone ++ (f slot).deferred) : slots.deferred.Perm (gone ++ (slots.modify seat f).deferred) := by
  obtain ⟨rest, hbefore, hafter⟩ := w.exists_perm_cons found f
  have hb := hbefore.flatMap_right (·.deferred)
  have ha := hafter.flatMap_right (·.deferred)
  rw [List.flatMap_cons, hf, List.append_assoc] at hb
  rw [List.flatMap_cons] at ha
  exact hb.trans (ha.symm.append_left gone)

/-- A fresh slot has nothing deferred. -/
theorem deferred_start {executor : Nat} {definition : D} {step : StepId} :
    (slots.start executor definition step).deferred = slots.deferred := by
  rw [start_eq, deferred, List.flatMap_append]
  simp [fresh, deferred]

/-- Unlisting slots leaves what is deferred alone. -/
theorem deferred_purge (executor : Nat) (workflow : WorkflowId) : (slots.purge executor workflow).deferred = slots.deferred := by
  rw [purge_eq, deferred, List.flatMap_map]
  refine List.flatMap_congr fun slot _ => ?_
  obtain ⟨listed, h, -⟩ := unlist_eq executor workflow slot
  rw [h]

end Slots

namespace Ledger

variable {V : Vocabulary} {l l' : Ledger V} {request : Option (Op V)} {key : AsyncKey}

/-- The move resolves a key, and this is the resumption that is owed to its step. -/
def Resolves (request : Option (Op V)) (l l' : Ledger V) (r : Resumption) : Prop :=
  request = some (.resolve r.key r.outcome) ∧ l.keys.IsPending r.key r.step ∧ l'.keys.IsResolved r.key r.step r.outcome

/-- Every deferred resumption is for the step instance in whose slot it is. -/
def Addressed (l : Ledger V) : Prop := ∀ slot ∈ l.slots, ∀ r ∈ slot.deferred, r.step = slot.seat.step

/-- A change that defers nothing new keeps what is deferred addressed. -/
theorem Addressed.modify {seat : Seat} {slot : Slot V.Definition} {f : Slot V.Definition → Slot V.Definition} (h : l.Addressed)
    (w : l.slots.WellSeated) (found : l.slots.at? seat = some slot) (seats : (f slot).seat = slot.seat)
    (hf : ∀ r ∈ (f slot).deferred, r ∈ slot.deferred ∨ r.step = slot.seat.step) :
    Addressed { l with slots := l.slots.modify seat f } := by
  refine w.forall_modify found ?_ h
  intro r hr
  rw [seats]
  exact (hf r hr).elim (h slot (Slots.mem_of_at? found).1 r) id

/-- A resumption that reaches an executor is deferred where it is addressed to. -/
theorem Handed.addressed {executor : Nat} {r : Resumption} (m : Handed executor r l l') (h : l.Addressed)
    (w : l.slots.WellSeated) : l'.Addressed := by
  cases m with
  | unknown absent => exact h
  | refused current idle other => exact h
  | @deferred slot current running =>
    refine h.modify w (w.at?_of_current? current) rfl ?_
    intro s hs
    rcases List.mem_append.1 hs with hs | hs
    · exact Or.inl hs
    · rw [List.mem_singleton.1 hs]
      exact Or.inr (Slots.mem_of_current? current).2.2.2.symm
  | woken current idle awaits => exact h.modify w (w.at?_of_current? current) rfl fun s hs => Or.inl hs

/-- Every move keeps what is deferred addressed. -/
theorem Move.addressed (m : Move request l l') (h : l.Addressed) (coherent : l.Coherent) : l'.Addressed := by
  cases m with
  | stay => exact h
  | bind step now fresh => exact h
  | forget forgets => exact h
  | attach attachment executors => exact h
  | unlist executor workflow => exact Slots.forall_purge (fun _ _ _ hslot => hslot) workflow h
  | start free =>
    intro new hm
    rcases Slots.mem_start hm with hm | rfl
    · exact h new hm
    · exact nofun
  | apply handed => exact handed.addressed h coherent.seated
  | @resolve _ _ _ _ _ _ keys _ resolved attached handed =>
    exact Handed.addressed (l := { l with keys := keys }) handed h coherent.seated
  | undelivered resolved unserved => exact h
  | enter top begins => exact h
  | settle top found checked => exact h.modify coherent.seated found rfl fun s hs => Or.inl hs
  | take top found awaits queue first =>
    refine h.modify coherent.seated found rfl fun s hs => Or.inl ?_
    rw [queue]
    exact List.mem_append_right _ (List.mem_cons_of_mem _ hs)
  | finish top found unmatched => exact h.modify coherent.seated found rfl nofun
  | leave top => exact h

/-- The request hands a resumption to an executor by hand. -/
def ByHand (request : Option (Op V)) (r : Resumption) : Prop := ∃ executor, request = some (.apply executor r)

/-- A resumption that reaches an executor leaves the keys alone. -/
theorem Handed.keys_eq {executor : Nat} {r : Resumption} (m : Handed executor r l l') : l'.keys = l.keys := by
  cases m <;> rfl

/-- A resumption that reaches an executor is deferred, or nothing is. -/
theorem Handed.deferred_eq {executor : Nat} {r : Resumption} (m : Handed executor r l l') (h : l.slots.WellSeated) :
    l'.slots.deferred = l.slots.deferred ∨ l'.slots.deferred.Perm (r :: l.slots.deferred) := by
  cases m with
  | unknown absent => exact Or.inl rfl
  | refused current idle other => exact Or.inl rfl
  | deferred current running => exact Or.inr (h.deferred_defer (h.at?_of_current? current) r)
  | woken current idle awaits => exact Or.inl (Slots.deferred_modify fun _ => rfl)

/-- The resumption of a resolution is owed by the registry. -/
theorem resolves_of_resolve {key : AsyncKey} {outcome : AsyncOutcome} {now : Instant} {r : Resumption} {keys : KeyRegistry}
    (h : l.keys.resolve key outcome now = .ok (r, keys)) (hkeys : l'.keys = keys) :
    Resolves (some (.resolve key outcome)) l l' r := by
  obtain ⟨rfl, rfl, pending, -⟩ := KeyRegistry.resolve_eq_ok h
  exact ⟨rfl, pending, hkeys ▸ KeyRegistry.isResolved_resolve h⟩

/-- A move drops something of what is deferred, or it adds one resumption, of a key that it resolves or one that is applied by hand. -/
theorem Move.deferred_eq (m : Move request l l') (h : l.Coherent) :
    (∃ gone, l.slots.deferred.Perm (gone ++ l'.slots.deferred)) ∨
      ∃ r, (Resolves request l l' r ∨ ByHand request r) ∧ l'.slots.deferred.Perm (r :: l.slots.deferred) := by
  have same : ∀ {a b : List Resumption}, b = a → ∃ gone, a.Perm (gone ++ b) := fun h => ⟨[], by rw [h]; exact .refl _⟩
  cases m with
  | stay => exact Or.inl (same rfl)
  | bind step now fresh => exact Or.inl (same rfl)
  | forget forgets => exact Or.inl (same rfl)
  | attach attachment executors => exact Or.inl (same rfl)
  | unlist executor workflow => exact Or.inl (same (Slots.deferred_purge executor workflow))
  | start free => exact Or.inl (same Slots.deferred_start)
  | apply handed =>
    rcases handed.deferred_eq h.seated with heq | hperm
    · exact Or.inl (same heq)
    · exact Or.inr ⟨_, Or.inr ⟨_, rfl⟩, hperm⟩
  | resolve resolved attached handed =>
    rcases handed.deferred_eq h.seated with heq | hperm
    · exact Or.inl (same heq)
    · exact Or.inr ⟨_, Or.inl (resolves_of_resolve resolved handed.keys_eq), hperm⟩
  | undelivered resolved unserved => exact Or.inl (same rfl)
  | enter top begins => exact Or.inl (same rfl)
  | settle top found checked => exact Or.inl (same (Slots.deferred_modify fun _ => rfl))
  | @take _ _ _ _ _ r skipped later top found awaits queue first =>
    exact Or.inl ⟨skipped ++ [r], h.seated.deferred_drop found (by simp [Slot.take, queue])⟩
  | @finish _ _ _ _ slot top found unmatched =>
    exact Or.inl ⟨slot.deferred, h.seated.deferred_drop found (by simp [Slot.idle])⟩
  | leave top => exact Or.inl (same rfl)

/-- A spent token stays spent. -/
theorem Move.isSpent (m : Move request l l') (h : l.keys.IsSpent key) : l'.keys.IsSpent key := by
  cases m with
  | bind step now fresh => exact h.bind fresh
  | forget forgets => exact h.purge
  | apply handed =>
    rw [handed.keys_eq]
    exact h
  | resolve resolved attached handed =>
    rw [handed.keys_eq]
    exact (h.resolve resolved).2
  | undelivered resolved unserved => exact (h.resolve resolved).2
  | _ => exact h

end Ledger

namespace Run

variable {V : Vocabulary} {c : Client V} {ρ : Type} (run : Run c ρ)

/-- In every state of a run, every deferred resumption is for the step instance in whose slot it is. -/
theorem addressed (n : Nat) : (run n).ledger.Addressed := by
  induction n with
  | zero =>
    obtain ⟨config, logsFaults, memory, program, hfirst⟩ := run.first
    rw [hfirst]
    exact fun slot hm => absurd hm List.not_mem_nil
  | succ n ih => exact (run.move n).addressed ih (run.coherent n)

/-- The step from a state resolves a key, and this is the resumption that is owed to the step instance that the key is bound to. -/
def Resolves (n : Nat) (r : Resumption) : Prop := Ledger.Resolves (run n).request? (run n).ledger (run (n + 1)).ledger r

/-- In a state a program applies a resumption by hand. -/
def Applies (n : Nat) (r : Resumption) : Prop := Ledger.ByHand (run n).request? r

variable {run} {m n : Nat} {r s : Resumption}

/-- A key is spent ever after its resolution. -/
theorem Resolves.isSpent (h : run.Resolves m r) (hlt : m < n) : (run n).ledger.keys.IsSpent r.key := by
  induction n with
  | zero => cases hlt
  | succ n ih =>
    rcases Nat.lt_succ_iff_lt_or_eq.1 hlt with hlt | rfl
    · exact (run.move n).isSpent (ih hlt)
    · exact h.2.2.isSpent

/-- A key is resolved once. -/
theorem Resolves.unique (h : run.Resolves m r) (h' : run.Resolves n s) (hkey : s.key = r.key) : n = m := by
  rcases Nat.lt_trichotomy m n with hlt | rfl | hlt
  · exact absurd (hkey ▸ h'.2.1) ((h.isSpent hlt).2 _)
  · rfl
  · exact absurd (hkey ▸ h.2.1) ((h'.isSpent hlt).2 _)

/-- Every deferred resumption was owed for the resolution of a key, or was applied by hand. -/
theorem exists_origin (n : Nat) (hm : r ∈ (run n).ledger.slots.deferred) : ∃ j < n, run.Resolves j r ∨ run.Applies j r := by
  induction n with
  | zero =>
    obtain ⟨config, logsFaults, memory, program, hfirst⟩ := run.first
    rw [hfirst] at hm
    cases hm
  | succ n ih =>
    have before : r ∈ (run n).ledger.slots.deferred → ∃ j < n + 1, run.Resolves j r ∨ run.Applies j r := by
      intro hm
      obtain ⟨j, hj, horigin⟩ := ih hm
      exact ⟨j, Nat.lt_succ_of_lt hj, horigin⟩
    rcases (run.move n).deferred_eq (run.coherent n) with ⟨gone, hperm⟩ | ⟨new, horigin, hperm⟩
    · exact before (hperm.mem_iff.2 (List.mem_append_right _ hm))
    · rcases List.mem_cons.1 (hperm.mem_iff.1 hm) with rfl | hm
      · exact ⟨n, Nat.lt_succ_self n, horigin⟩
      · exact before hm

end Run

end StepEngine
