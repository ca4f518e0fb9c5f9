import StepEngine.Proofs.Ledger.Step

/-!
# Coherence: what every move keeps

The ledger of every state of every run is coherent. Slots are changed at three places only: at the seat of the innermost activation, at
the end of the queue of a slot that is running, and at an idle slot that is resumed; each of them keeps what an activation further down
relies on. So the slot of an activation stands as the activation left it, whatever ran in between.
-/

namespace StepEngine

namespace Slot

variable {D : Type} {slot : Slot D}

/-- Deferring a resumption does not change how a slot stands. -/
theorem Fits.defer {phase : Option Phase} (h : slot.Fits phase) (r : Resumption) : (slot.defer r).Fits phase := by
  cases phase with
  | none => exact h
  | some phase => cases phase <;> exact h

/-- Taking a slot out of its executor's list does not change how it stands. -/
theorem Fits.unlist {phase : Option Phase} (h : slot.Fits phase) (executor : Nat) (workflow : WorkflowId) :
    (Slots.unlist executor workflow slot).Fits phase := by
  obtain ⟨listed, heq, -⟩ := Slots.unlist_eq executor workflow slot
  rw [heq]
  cases phase with
  | none => exact h
  | some phase => cases phase <;> exact h

end Slot

namespace Ledger

variable {V : Vocabulary} {l l' : Ledger V}

/-- A slot at the seat of the innermost activation is changed, and the activation goes on with a phase that fits. -/
theorem Coherent.modify_top {seat : Seat} {phase phase' : Option Phase} {rest : List Activation} {slot : Slot V.Definition}
    {f : Slot V.Definition → Slot V.Definition} (h : l.Coherent) (top : l.activations = ⟨seat, phase⟩ :: rest)
    (found : l.slots.at? seat = some slot) (keeps : Slot.Keeps f) (running : (f slot).running = true)
    (fits : (f slot).Fits phase')
    (standing : (f slot).lifecycle = Slot.startedLifecycle ∨ ∃ outcome, (f slot).Reports outcome) :
    Coherent { l with slots := l.slots.modify seat f, activations := ⟨seat, phase'⟩ :: rest } where
  seated := h.seated.modify keeps
  exclusive := by
    have hx := h.exclusive
    rw [top] at hx
    exact hx
  manned := by
    intro a ha
    rcases List.mem_cons.1 ha with rfl | ha
    · exact ⟨f slot, Slots.at?_modify_self keeps found, running, fits⟩
    · have hx := h.exclusive
      rw [top, List.map_cons, List.nodup_cons] at hx
      have hne : a.seat ≠ seat := fun he => hx.1 (List.mem_map.2 ⟨a, ha, he⟩)
      obtain ⟨other, hother⟩ := h.manned a (top ▸ List.mem_cons_of_mem _ ha)
      refine ⟨other, ?_, hother.2⟩
      rw [Slots.at?_modify_other keeps hne]
      exact hother.1
  resting := h.seated.forall_modify found (fun idle => absurd (running.symm.trans idle) nofun) h.resting
  standing := h.seated.forall_modify found standing h.standing

/-- The innermost activation goes on with a phase that fits. -/
theorem Coherent.enter {seat : Seat} {phase phase' : Option Phase} {rest : List Activation} (h : l.Coherent)
    (top : l.activations = ⟨seat, phase⟩ :: rest)
    (fits : ∀ slot : Slot V.Definition, slot.Fits phase → slot.Fits phase') :
    Coherent { l with activations := ⟨seat, phase'⟩ :: rest } where
  seated := h.seated
  exclusive := by
    have hx := h.exclusive
    rw [top] at hx
    exact hx
  manned := by
    intro a ha
    rcases List.mem_cons.1 ha with rfl | ha
    · obtain ⟨slot, found, running, hfits⟩ := h.manned ⟨seat, phase⟩ (top ▸ List.mem_cons_self)
      exact ⟨slot, found, running, fits slot hfits⟩
    · exact h.manned a (top ▸ List.mem_cons_of_mem _ ha)
  resting := h.resting
  standing := h.standing

/-- The innermost activation is over, or left. -/
theorem Coherent.leave {a : Activation} {rest : List Activation} (h : l.Coherent) (top : l.activations = a :: rest) :
    Coherent { l with activations := rest } where
  seated := h.seated
  exclusive := by
    have hx := h.exclusive
    rw [top, List.map_cons, List.nodup_cons] at hx
    exact hx.2
  manned := fun b hb => h.manned b (top ▸ List.mem_cons_of_mem _ hb)
  resting := h.resting
  standing := h.standing

/-- What the keys are, who is attached and which executors are held does not matter. -/
theorem Coherent.congr (h : l.Coherent) (slots : l'.slots = l.slots) (activations : l'.activations = l.activations) : l'.Coherent where
  seated := slots ▸ h.seated
  exclusive := activations ▸ h.exclusive
  manned := by
    rw [slots, activations]
    exact h.manned
  resting := slots ▸ h.resting
  standing := slots ▸ h.standing

/-- Unlisting slots keeps a ledger coherent. -/
theorem Coherent.unlist (h : l.Coherent) (executor : Nat) (workflow : WorkflowId) :
    Coherent { l with slots := l.slots.purge executor workflow } where
  seated := h.seated.purge workflow
  exclusive := h.exclusive
  manned := by
    intro a ha
    obtain ⟨slot, found, running, fits⟩ := h.manned a ha
    refine ⟨Slots.unlist executor workflow slot, ?_, ?_, fits.unlist executor workflow⟩
    · rw [Slots.at?_purge, found, Option.map_some]
    · obtain ⟨listed, heq, -⟩ := Slots.unlist_eq executor workflow slot
      rw [heq]
      exact running
  resting := Slots.forall_purge (fun _ _ _ resting => resting) workflow h.resting
  standing := Slots.forall_purge (fun _ _ _ standing => standing) workflow h.standing

/-- Starting a step instance on a fresh slot keeps a ledger coherent. -/
theorem Coherent.start {executor : Nat} {step : StepId} (h : l.Coherent) (definition : V.Definition)
    (free : l.slots.current? executor step = none) :
    Coherent
      { l with
        slots := l.slots.start executor definition step
        activations := ⟨l.slots.nextSeat executor step, some .starting⟩ :: l.activations } where
  seated := h.seated.start definition free
  exclusive := by
    refine List.nodup_cons.2 ⟨?_, h.exclusive⟩
    intro hm
    obtain ⟨a, ha, hseat⟩ := List.mem_map.1 hm
    obtain ⟨slot, found, -⟩ := h.manned a ha
    rw [hseat, h.seated.at?_nextSeat] at found
    cases found
  manned := by
    intro a ha
    rcases List.mem_cons.1 ha with rfl | ha
    · exact ⟨_, h.seated.at?_start_self definition, rfl, rfl⟩
    · obtain ⟨slot, found, hslot⟩ := h.manned a ha
      exact ⟨slot, Slots.at?_start definition found, hslot⟩
  resting := by
    intro new hm hidle
    rcases Slots.mem_start hm with hm | rfl
    · exact h.resting new hm hidle
    · cases hidle
  standing := by
    intro new hm
    rcases Slots.mem_start hm with hm | rfl
    · exact h.standing new hm
    · exact Or.inl rfl

/-- Deferring a resumption to a running slot keeps a ledger coherent. -/
theorem Coherent.defer {seat : Seat} {slot : Slot V.Definition} (h : l.Coherent) (found : l.slots.at? seat = some slot)
    (running : slot.running = true) (r : Resumption) : Coherent { l with slots := l.slots.modify seat (Slot.defer r) } where
  seated := h.seated.modify (Slot.keeps_defer r)
  exclusive := h.exclusive
  manned := by
    intro a ha
    obtain ⟨other, hother, hrunning, hfits⟩ := h.manned a ha
    by_cases hs : a.seat = seat
    · exact ⟨other.defer r, by rw [hs] at hother ⊢; exact Slots.at?_modify_self (Slot.keeps_defer r) hother, hrunning,
        hfits.defer r⟩
    · exact ⟨other, (Slots.at?_modify_other (Slot.keeps_defer r) hs).trans hother, hrunning, hfits⟩
  resting := h.seated.forall_modify found (fun idle => absurd (running.symm.trans idle) nofun) h.resting
  standing := h.seated.forall_modify found (h.standing slot (Slots.mem_of_at? found).1) h.standing

/-- Resuming an idle slot keeps a ledger coherent: no activation is on it. -/
theorem Coherent.wake {seat : Seat} {slot : Slot V.Definition} (h : l.Coherent) (found : l.slots.at? seat = some slot)
    (idle : slot.running = false) (outcome : AsyncOutcome) :
    Coherent
      { l with
        slots := l.slots.modify seat Slot.wake
        activations := ⟨seat, some (.resuming outcome)⟩ :: l.activations } := by
  have hfree : ∀ a ∈ l.activations, a.seat ≠ seat := by
    intro a ha he
    obtain ⟨other, hother, hrunning, -⟩ := h.manned a ha
    rw [he, found] at hother
    cases hother
    exact absurd (idle.symm.trans hrunning) nofun
  refine ⟨h.seated.modify Slot.keeps_wake, ?_, ?_, ?_, ?_⟩
  · refine List.nodup_cons.2 ⟨?_, h.exclusive⟩
    intro hm
    obtain ⟨a, ha, hseat⟩ := List.mem_map.1 hm
    exact hfree a ha hseat
  · intro a ha
    rcases List.mem_cons.1 ha with rfl | ha
    · exact ⟨_, Slots.at?_modify_self Slot.keeps_wake found, rfl, rfl⟩
    · obtain ⟨other, hother⟩ := h.manned a ha
      refine ⟨other, ?_, hother.2⟩
      rw [Slots.at?_modify_other Slot.keeps_wake (hfree a ha)]
      exact hother.1
  · exact h.seated.forall_modify found nofun h.resting
  · exact h.seated.forall_modify found (Or.inl rfl) h.standing

/-- A resumption that reaches an executor keeps a ledger coherent. -/
theorem Coherent.handed {executor : Nat} {r : Resumption} (h : l.Coherent) (m : Handed executor r l l') : l'.Coherent := by
  cases m with
  | unknown absent => exact h
  | refused current idle other => exact h
  | deferred current running => exact h.defer (h.seated.at?_of_current? current) running r
  | woken current idle awaits => exact h.wake (h.seated.at?_of_current? current) idle r.outcome

/-- Every move keeps a ledger coherent. -/
theorem Coherent.move {request : Option (Op V)} (h : l.Coherent) (m : Move request l l') : l'.Coherent := by
  cases m with
  | stay => exact h
  | bind step now fresh => exact h.congr rfl rfl
  | forget forgets => exact h.congr rfl rfl
  | attach attachment executors => exact h.congr rfl rfl
  | unlist executor workflow => exact h.unlist executor workflow
  | start free => exact h.start _ free
  | apply handed => exact h.handed handed
  | @resolve _ _ _ _ _ _ keys _ resolved attached handed =>
    exact Coherent.handed (l := { l with keys := keys }) (h.congr rfl rfl) handed
  | undelivered resolved unserved => exact h.congr rfl rfl
  | @enter _ seat phase rest top begins =>
    refine h.enter top fun slot fits => ?_
    cases phase with
    | settled outcome => exact absurd rfl (begins outcome)
    | starting => exact fits
    | resuming outcome => exact fits
  | @settle _ seat rest slot outcome top found checked =>
    have hmanned := h.manned ⟨seat, none⟩ (top ▸ List.mem_cons_self)
    obtain ⟨other, hother, running, -⟩ := hmanned
    cases hother.symm.trans found
    exact h.modify_top top found (Slot.keeps_settle outcome) running ⟨rfl, rfl⟩ (Or.inr ⟨outcome, rfl, rfl⟩)
  | @take _ seat settled rest slot r skipped later top found awaits queue first =>
    have hmanned := h.manned ⟨seat, some (.settled settled)⟩ (top ▸ List.mem_cons_self)
    obtain ⟨other, hother, running, -⟩ := hmanned
    cases hother.symm.trans found
    exact h.modify_top top found (Slot.keeps_take later) running rfl (Or.inl rfl)
  | @finish _ seat settled rest slot top found unmatched =>
    have hexclusive := h.exclusive
    rw [top, List.map_cons, List.nodup_cons] at hexclusive
    obtain ⟨other, hother, -, reports⟩ := h.manned ⟨seat, some (.settled settled)⟩ (top ▸ List.mem_cons_self)
    cases hother.symm.trans found
    refine ⟨h.seated.modify Slot.keeps_idle, hexclusive.2, ?_, ?_, ?_⟩
    · intro a ha
      have hne : a.seat ≠ seat := fun he => hexclusive.1 (List.mem_map.2 ⟨a, ha, he⟩)
      obtain ⟨other, hother⟩ := h.manned a (top ▸ List.mem_cons_of_mem _ ha)
      refine ⟨other, ?_, hother.2⟩
      rw [Slots.at?_modify_other Slot.keeps_idle hne]
      exact hother.1
    · exact h.seated.forall_modify found (fun _ => ⟨rfl, settled, reports⟩) h.resting
    · exact h.seated.forall_modify found (Or.inr ⟨settled, reports⟩) h.standing
  | leave top => exact h.leave top

/-! ## What stays -/

/-- A change of a slot leaves every seat with a slot of the same definition, listed or not as before. -/
theorem at?_modify_keeps {slots : Slots V.Definition} {seat other : Seat} {slot : Slot V.Definition}
    {f : Slot V.Definition → Slot V.Definition} (keeps : Slot.Keeps f) (found : slots.at? seat = some slot) :
    ∃ slot', (slots.modify other f).at? seat = some slot' ∧ slot'.definition = slot.definition ∧ slot'.listed = slot.listed := by
  rw [Slots.at?_modify keeps, found, Option.map_some]
  split
  · exact ⟨_, rfl, keeps.definition slot, keeps.listed slot⟩
  · exact ⟨_, rfl, rfl, rfl⟩

/-- A resumption that reaches an executor leaves every seat with a slot of the same definition, listed or not as before. -/
theorem Handed.at?_keeps {executor : Nat} {r : Resumption} {seat : Seat} {slot : Slot V.Definition} (m : Handed executor r l l')
    (found : l.slots.at? seat = some slot) :
    ∃ slot', l'.slots.at? seat = some slot' ∧ slot'.definition = slot.definition ∧ slot'.listed = slot.listed := by
  cases m with
  | unknown absent => exact ⟨slot, found, rfl, rfl⟩
  | refused current idle other => exact ⟨slot, found, rfl, rfl⟩
  | deferred current running => exact at?_modify_keeps (Slot.keeps_defer r) found
  | woken current idle awaits => exact at?_modify_keeps Slot.keeps_wake found

/-- Every move leaves every seat with a slot of the same definition. Only a purge takes it out of its executor's list. -/
theorem Move.at?_keeps {request : Option (Op V)} {seat : Seat} {slot : Slot V.Definition} (m : Move request l l')
    (found : l.slots.at? seat = some slot) :
    ∃ slot', l'.slots.at? seat = some slot' ∧ slot'.definition = slot.definition ∧
      (slot'.listed = slot.listed ∨ request = some (.plain (.purgeSlots seat.executor seat.step.workflow))) := by
  have same : ∃ slot', l.slots.at? seat = some slot' ∧ slot'.definition = slot.definition ∧
      (slot'.listed = slot.listed ∨ request = some (.plain (.purgeSlots seat.executor seat.step.workflow))) :=
    ⟨slot, found, rfl, Or.inl rfl⟩
  have changed : ∀ {other : Seat} {f : Slot V.Definition → Slot V.Definition}, Slot.Keeps f →
      ∃ slot', (l.slots.modify other f).at? seat = some slot' ∧ slot'.definition = slot.definition ∧
        (slot'.listed = slot.listed ∨ request = some (.plain (.purgeSlots seat.executor seat.step.workflow))) := by
    intro other f keeps
    obtain ⟨slot', hat, hdefinition, hlisted⟩ := at?_modify_keeps keeps found
    exact ⟨slot', hat, hdefinition, Or.inl hlisted⟩
  cases m with
  | stay => exact same
  | bind step now fresh => exact same
  | forget forgets => exact same
  | attach attachment executors => exact same
  | unlist executor workflow =>
    refine ⟨Slots.unlist executor workflow slot, by rw [Slots.at?_purge, found, Option.map_some], ?_⟩
    rw [Slots.unlist]
    split
    · rename_i hp
      simp only [Bool.and_eq_true, beq_iff_eq, (Slots.mem_of_at? found).2] at hp
      exact ⟨rfl, Or.inr (by rw [hp.1, hp.2])⟩
    · exact ⟨rfl, Or.inl rfl⟩
  | start free => exact ⟨slot, Slots.at?_start _ found, rfl, Or.inl rfl⟩
  | apply handed =>
    obtain ⟨slot', hat, hdefinition, hlisted⟩ := handed.at?_keeps found
    exact ⟨slot', hat, hdefinition, Or.inl hlisted⟩
  | @resolve _ _ _ _ _ _ keys _ resolved attached handed =>
    obtain ⟨slot', hat, hdefinition, hlisted⟩ := Handed.at?_keeps (l := { l with keys := keys }) handed found
    exact ⟨slot', hat, hdefinition, Or.inl hlisted⟩
  | undelivered resolved unserved => exact same
  | enter top begins => exact same
  | settle top hfound checked => exact changed (Slot.keeps_settle _)
  | take top hfound awaits queue first => exact changed (Slot.keeps_take _)
  | finish top hfound unmatched => exact changed Slot.keeps_idle
  | leave top => exact same

/-- The ledger with nothing in it is coherent. -/
theorem Coherent.empty : Coherent (V := V) ⟨KeyRegistry.empty, [], .none, [], []⟩ where
  seated := ⟨List.nodup_nil, by simp, by simp⟩
  exclusive := List.nodup_nil
  manned := by simp
  resting := by simp
  standing := by simp

end Ledger

namespace Run

variable {V : Vocabulary} {c : Client V} {ρ : Type}

/-- The ledger of every state of a run is coherent. -/
theorem coherent (run : Run c ρ) (n : Nat) : (run n).ledger.Coherent := by
  induction n with
  | zero =>
    obtain ⟨config, logsFaults, memory, program, hfirst⟩ := run.first
    rw [hfirst]
    exact .empty
  | succ n ih => exact ih.move (follows_move (run.next n) ih)

/-- From each state of a run to the next there is a move. -/
theorem move (run : Run c ρ) (n : Nat) : Ledger.Move (run n).request? (run n).ledger (run (n + 1)).ledger :=
  follows_move (run.next n) (run.coherent n)

/-- A slot stays at its seat, and its definition stays the same. -/
theorem slot_stays (run : Run c ρ) {m n : Nat} {seat : Seat} {slot : Slot V.Definition}
    (found : (run m).ledger.slots.at? seat = some slot) (hle : m ≤ n) :
    ∃ other, (run n).ledger.slots.at? seat = some other ∧ other.definition = slot.definition := by
  induction hle with
  | refl => exact ⟨slot, found, rfl⟩
  | @step n hle ih =>
    obtain ⟨other, hother, hdefinition⟩ := ih
    obtain ⟨other', hother', hdefinition', -⟩ := (run.move n).at?_keeps hother
    exact ⟨other', hother', hdefinition'.trans hdefinition⟩

/-- An activation that goes on with a phase has a running slot that fits. -/
theorem slot_of_proceed (run : Run c ρ) {n : Nat} {seat : Seat} {phase : Phase} {base : Stack V ρ .outcome}
    (h : (run n).control = .proceed seat phase base) :
    ∃ slot, (run n).scene.world.slots.at? seat = some slot ∧ slot.running = true ∧ slot.Fits (some phase) := by
  refine (run.coherent n).manned ⟨seat, some phase⟩ ?_
  rw [MachineState.ledger, World.ledger, h]
  exact List.mem_cons_self

/-- An activation whose run settles has a running slot, and the step instance is in progress. -/
theorem slot_of_settle (run : Run c ρ) {n : Nat} {seat : Seat} {result : Except StepError Completion} {base : Stack V ρ .outcome}
    (h : (run n).control = .settle seat result base) :
    ∃ slot, (run n).scene.world.slots.at? seat = some slot ∧ slot.running = true ∧ slot.lifecycle = Slot.startedLifecycle := by
  refine (run.coherent n).manned ⟨seat, none⟩ ?_
  rw [MachineState.ledger, World.ledger, h]
  exact List.mem_cons_self

end Run

end StepEngine
