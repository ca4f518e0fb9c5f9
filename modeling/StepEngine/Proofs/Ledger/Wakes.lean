import StepEngine.Proofs.Ledger.Deferred

/-!
# Wakes: where a resumption comes from

A step instance that is suspended on a key is resumed by one move, `Ledger.Wakes`. The outcome that it is resumed with comes from the
move itself, which resolves the key or applies a resumption by hand, or it was deferred in the slot. From then on until its resumption
behaviour begins, the activation stays in progress with that outcome.
-/

namespace StepEngine

namespace Ledger

variable {V : Vocabulary} {l l' : Ledger V} {request : Option (Op V)} {seat : Seat} {key : AsyncKey} {outcome : AsyncOutcome}

/-- The move resumes the step instance at a seat, which was suspended on a key, with an outcome. -/
structure Wakes (l l' : Ledger V) (seat : Seat) (key : AsyncKey) (outcome : AsyncOutcome) : Prop where
  awaited : ∃ slot, l.slots.at? seat = some slot ∧ slot.Awaits key
  resuming : ∃ rest, l'.activations = ⟨seat, some (.resuming outcome)⟩ :: rest

/-- A step instance that is suspended has no activation that resumes it. -/
theorem Coherent.not_resuming {slot : Slot V.Definition} (h : l.Coherent) (found : l.slots.at? seat = some slot)
    (awaits : slot.Awaits key) : ⟨seat, some (.resuming outcome)⟩ ∉ l.activations := by
  intro hm
  obtain ⟨other, hother, -, fits⟩ := h.manned _ hm
  cases hother.symm.trans found
  exact absurd (awaits.symm.trans fits) nofun

/-- An activation that resumes a step instance did so before the resumption reached an executor, or it is the one that the resumption
began. -/
theorem Handed.wakes_of_mem {executor : Nat} {r : Resumption} (m : Handed executor r l l') (w : l.slots.WellSeated)
    (hm : ⟨seat, some (.resuming outcome)⟩ ∈ l'.activations) :
    ⟨seat, some (.resuming outcome)⟩ ∈ l.activations ∨ ∃ key, Wakes l l' seat key outcome := by
  cases m with
  | unknown absent => exact Or.inl hm
  | refused current idle other => exact Or.inl hm
  | deferred current running => exact Or.inl hm
  | woken current idle awaits =>
    rcases List.mem_cons.1 hm with he | hm
    · obtain ⟨rfl, ⟨⟩⟩ := Activation.mk.inj he
      exact Or.inr ⟨r.key, ⟨_, w.at?_of_current? current, awaits⟩, _, rfl⟩
    · exact Or.inl hm

/-- An activation that resumes a step instance did so before the move, or the move has resumed the instance. -/
theorem Move.wakes_of_mem (m : Move request l l') (h : l.Coherent)
    (hm : ⟨seat, some (.resuming outcome)⟩ ∈ l'.activations) :
    ⟨seat, some (.resuming outcome)⟩ ∈ l.activations ∨ ∃ key, Wakes l l' seat key outcome := by
  cases m with
  | stay => exact Or.inl hm
  | bind step now fresh => exact Or.inl hm
  | forget forgets => exact Or.inl hm
  | attach attachment executors => exact Or.inl hm
  | unlist executor workflow => exact Or.inl hm
  | start free =>
    rcases List.mem_cons.1 hm with he | hm
    · cases he
    · exact Or.inl hm
  | apply handed => exact handed.wakes_of_mem h.seated hm
  | resolve resolved attached handed =>
    rcases handed.wakes_of_mem h.seated hm with hm | ⟨key, hw⟩
    · exact Or.inl hm
    · exact Or.inr ⟨key, hw.awaited, hw.resuming⟩
  | undelivered resolved unserved => exact Or.inl hm
  | enter top begins =>
    rcases List.mem_cons.1 hm with he | hm
    · cases he
    · exact Or.inl (top ▸ List.mem_cons_of_mem _ hm)
  | settle top found checked =>
    rcases List.mem_cons.1 hm with he | hm
    · cases he
    · exact Or.inl (top ▸ List.mem_cons_of_mem _ hm)
  | @take _ _ _ _ _ r _ _ top found awaits queue first =>
    rcases List.mem_cons.1 hm with he | hm
    · obtain ⟨rfl, ⟨⟩⟩ := Activation.mk.inj he
      exact Or.inr ⟨r.key, ⟨_, found, awaits⟩, _, rfl⟩
    · exact Or.inl (top ▸ List.mem_cons_of_mem _ hm)
  | finish top found unmatched => exact Or.inl (top ▸ List.mem_cons_of_mem _ hm)
  | leave top => exact Or.inl (top ▸ List.mem_cons_of_mem _ hm)

/-- A resumption for the key that a step instance awaits, with its outcome, is the one that is written so. -/
theorem resumption_eq {r : Resumption} {slot : Slot V.Definition} (step : r.step = seat.step) (given : slot.Awaits r.key)
    (awaits : slot.Awaits key) (phase : some (Phase.resuming r.outcome) = some (Phase.resuming outcome)) :
    r = ⟨key, seat.step, outcome⟩ := by
  obtain ⟨rkey, rstep, routcome⟩ := r
  have hkey : rkey = key := by
    have heq := given.symm.trans awaits
    simpa using heq
  cases hkey
  cases step
  cases phase
  rfl

/-- The outcome is not deferred: the move resolves the key or applies the resumption by hand, and what is deferred stays. -/
def Direct (request : Option (Op V)) (l l' : Ledger V) (r : Resumption) : Prop :=
  (Resolves request l l' r ∨ ByHand request r) ∧ l'.slots.deferred = l.slots.deferred

/-- The resumption is taken out of what is deferred in the slot at the seat; what was deferred before it is dropped. -/
def Taken (l l' : Ledger V) (seat : Seat) (r : Resumption) : Prop :=
  ∃ slot skipped later, l.slots.at? seat = some slot ∧ slot.deferred = skipped ++ r :: later ∧
    (∀ s ∈ skipped, s.key ≠ r.key) ∧ l'.slots = l.slots.modify seat (Slot.take later)

/-- A resumption that reaches an executor and resumes a step instance is for the key that the instance awaits. -/
theorem Wakes.eq_of_handed {executor : Nat} {r : Resumption} (w : Wakes l l' seat key outcome) (m : Handed executor r l l')
    (h : l.Coherent) : r = ⟨key, seat.step, outcome⟩ ∧ l'.slots.deferred = l.slots.deferred := by
  obtain ⟨⟨slot, found, awaits⟩, rest, hrest⟩ := w
  have hnot : ⟨seat, some (.resuming outcome)⟩ ∉ l.activations := h.not_resuming found awaits
  have hmem : ⟨seat, some (.resuming outcome)⟩ ∈ l'.activations := hrest ▸ List.mem_cons_self
  cases m with
  | unknown absent => exact absurd hmem hnot
  | refused current idle other => exact absurd hmem hnot
  | deferred current running => exact absurd hmem hnot
  | woken current idle given =>
    obtain ⟨hhead, -⟩ := List.cons.inj hrest
    obtain ⟨rfl, hphase⟩ := Activation.mk.inj hhead
    cases (h.seated.at?_of_current? current).symm.trans found
    exact ⟨resumption_eq (Slots.mem_of_current? current).2.2.2.symm given awaits hphase, Slots.deferred_modify fun _ => rfl⟩

/-- What resumes a step instance comes with the move or was deferred in the slot. -/
theorem Wakes.source (w : Wakes l l' seat key outcome) (m : Move request l l') (h : l.Coherent) (addressed : l.Addressed) :
    Direct request l l' ⟨key, seat.step, outcome⟩ ∨ Taken l l' seat ⟨key, seat.step, outcome⟩ := by
  have ⟨⟨slot, found, awaits⟩, rest, hrest⟩ := w
  have hnot : ⟨seat, some (.resuming outcome)⟩ ∉ l.activations := h.not_resuming found awaits
  have hmem : ⟨seat, some (.resuming outcome)⟩ ∈ l'.activations := hrest ▸ List.mem_cons_self
  cases m with
  | stay => exact absurd hmem hnot
  | bind step now fresh => exact absurd hmem hnot
  | forget forgets => exact absurd hmem hnot
  | attach attachment executors => exact absurd hmem hnot
  | unlist executor workflow => exact absurd hmem hnot
  | start free => cases hrest
  | apply handed =>
    obtain ⟨rfl, hsame⟩ := w.eq_of_handed handed h
    exact Or.inl ⟨Or.inr ⟨_, rfl⟩, hsame⟩
  | @resolve _ _ _ _ _ _ keys _ resolved attached handed =>
    have hw : Wakes { l with keys := keys } l' seat key outcome := ⟨w.awaited, w.resuming⟩
    obtain ⟨rfl, hsame⟩ := hw.eq_of_handed handed (h.congr rfl rfl)
    exact Or.inl ⟨Or.inl (resolves_of_resolve resolved handed.keys_eq), hsame⟩
  | undelivered resolved unserved => exact absurd hmem hnot
  | enter top begins => cases hrest
  | settle top hfound checked => cases hrest
  | @take _ _ _ _ other r skipped later top hfound given queue first =>
    obtain ⟨hhead, -⟩ := List.cons.inj hrest
    obtain ⟨rfl, hphase⟩ := Activation.mk.inj hhead
    cases hfound.symm.trans found
    have hstep : r.step = _ := addressed slot (Slots.mem_of_at? found).1 r (by rw [queue]; simp)
    rw [(Slots.mem_of_at? found).2] at hstep
    obtain rfl := resumption_eq hstep given awaits hphase
    exact Or.inr ⟨slot, skipped, later, found, queue, first, rfl⟩
  | finish top hfound unmatched => exact absurd (top ▸ List.mem_cons_of_mem _ hmem) hnot
  | leave top => exact absurd (top ▸ List.mem_cons_of_mem _ hmem) hnot

end Ledger

namespace Run

variable {V : Vocabulary} {c : Client V} {ρ : Type} (run : Run c ρ)

/-- The step from a state resumes the step instance at a seat, which was suspended on a key, with an outcome. -/
def Wakes (n : Nat) (seat : Seat) (key : AsyncKey) (outcome : AsyncOutcome) : Prop :=
  Ledger.Wakes (run n).ledger (run (n + 1)).ledger seat key outcome

/-- The slot at a seat has a lifecycle in a state. -/
def Stands (n : Nat) (seat : Seat) (lifecycle : Lifecycle) : Prop :=
  ∃ slot, (run n).scene.world.slots.at? seat = some slot ∧ slot.lifecycle = lifecycle

end Run

end StepEngine
