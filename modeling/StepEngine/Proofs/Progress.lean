import StepEngine.Proofs.Activation

/-!
# Progress: an activation ends unless code that it calls does not

The engine waits for nothing by itself. If an activation never ends, then a handler of one of its announcements or its step code runs
for ever (`Run.Stuck`), or the step instance is resumed again and again.
-/

namespace StepEngine

open Machine

variable {V : Vocabulary} {ρ : Type} {c : Client V} {seat : Seat} {base : Stack V ρ .outcome}

/-- On top of a stack that waits for a report there is a handler first. -/
theorem Stack.Under.of_report {base : Stack V ρ .report} {e : Expects} {stack : Stack V ρ e} (h : base.Under stack) :
    (e = .report ∧ HEq base stack) ∨ ∃ delivery, (Stack.handling delivery base).Under stack := by
  induction h with
  | refl => exact Or.inl ⟨rfl, .rfl⟩
  | @handling delivery below _ ih =>
    rcases ih with ⟨-, heq⟩ | ⟨first, hunder⟩
    · cases heq
      exact Or.inr ⟨delivery, .refl⟩
    · exact Or.inr ⟨first, .handling hunder⟩
  | receiving _ ih =>
    obtain ⟨first, hunder⟩ := ih.resolve_left (by simp)
    exact Or.inr ⟨first, .receiving hunder⟩
  | active _ ih =>
    obtain ⟨first, hunder⟩ := ih.resolve_left (by simp)
    exact Or.inr ⟨first, .active hunder⟩
  | publishing _ ih =>
    obtain ⟨first, hunder⟩ := ih.resolve_left (by simp)
    exact Or.inr ⟨first, .publishing hunder⟩
  | announcing _ ih =>
    obtain ⟨first, hunder⟩ := ih.resolve_left (by simp)
    exact Or.inr ⟨first, .announcing hunder⟩
  | awaiting _ ih =>
    obtain ⟨first, hunder⟩ := ih.resolve_left (by simp)
    exact Or.inr ⟨first, .awaiting hunder⟩

/-- A delivery is complete, or one of its handlers runs. -/
theorem Control.On.handler_or_report {base : Stack V ρ .report} {control : Control V ρ} (h : control.On base) :
    (∃ result, control = .report result base) ∨ ∃ delivery, control.On (.handling delivery base) := by
  cases control with
  | report result stack =>
    rcases Stack.Under.of_report h with ⟨-, heq⟩ | hhandler
    · cases heq
      exact Or.inl ⟨result, rfl⟩
    · exact Or.inr hhandler
  | unwind message stack =>
    obtain ⟨delivery, hunder⟩ := h.2.of_report.resolve_left fun he => h.1 he.1
    exact Or.inr ⟨delivery, h.1, hunder⟩
  | finished result => cases h
  | run program stack => exact Or.inr ((Stack.Under.of_report h).resolve_left (by simp))
  | proceed seat phase stack => exact Or.inr ((Stack.Under.of_report h).resolve_left (by simp))
  | settle seat result stack => exact Or.inr ((Stack.Under.of_report h).resolve_left (by simp))
  | outcome result stack => exact Or.inr ((Stack.Under.of_report h).resolve_left (by simp))

/-- When a handler has ended, the delivery is complete or goes on with fewer handlers. -/
theorem handled_control (sc : Scene V) (d : Delivery V.Handler) (verdict : Verdict) (below : Stack V ρ .report) :
    (∃ result, (handled c sc d verdict below).control = .report result below) ∨
      ∃ d' : Delivery V.Handler, d'.remaining.length < d.remaining.length ∧
        (handled c sc d verdict below).control.On (.handling d' below) := by
  simp only [handled]
  split
  · exact Or.inl ⟨_, rfl⟩
  · rename_i next rest hremaining
    refine Or.inr ⟨{ d with current := next, startedAt := _, remaining := rest, report := _ }, ?_, .refl⟩
    simp [hremaining]

namespace Run

variable (run : Run c ρ) (n : Nat)

/-- From a state on, everything happens on a stack. -/
def Hangs {b : Expects} (base : Stack V ρ b) : Prop := ∀ m, n ≤ m → (run m).control.On base

/-- From some state on, a handler of an announcement of an activation, or its step code, runs for ever. -/
def Stuck (seat : Seat) (base : Stack V ρ .outcome) : Prop :=
  ∃ m, n ≤ m ∧ ((∃ delivery phase, run.Hangs m (.handling delivery (.announcing seat phase base))) ∨ run.Hangs m (.active seat base))

variable {run n} {m : Nat}

/-- What is stuck from a later state on is stuck. -/
theorem Stuck.mono (h : run.Stuck m seat base) (hle : n ≤ m) : run.Stuck n seat base := by
  obtain ⟨j, hmj, hj⟩ := h
  exact ⟨j, Nat.le_trans hle hmj, hj⟩

/-- The stack of some code is left by a result of the code or by a panic. -/
theorem code_left {k : Kind} {stack : Stack V ρ (.code k)} (hon : (run n).control.On stack) (hoff : ¬ (run (n + 1)).control.On stack) :
    (∃ result, (run n).control = .run (.done result) stack) ∨ ∃ message, (run n).control = .unwind message stack := by
  rw [run.next_eq hon.not_finished] at hoff
  exact ended_of_step_off hon hoff

/-- Code runs for ever, or it ends with a result or a panic, and up to there everything happens on its stack. -/
theorem code_ends {k : Kind} {stack : Stack V ρ (.code k)} (h : (run n).control.On stack) :
    run.Hangs n stack ∨ ∃ m, n ≤ m ∧ (∀ i, n ≤ i → i ≤ m → (run i).control.On stack) ∧
      ((∃ result, (run m).control = .run (.done result) stack) ∨ ∃ message, (run m).control = .unwind message stack) := by
  by_cases hhangs : run.Hangs n stack
  · exact Or.inl hhangs
  · simp only [Hangs, not_forall] at hhangs
    obtain ⟨e, hle, hnot⟩ := hhangs
    obtain ⟨m, hnm, -, hall, -, hoff⟩ := run.exists_leaving h hle hnot
    exact Or.inr ⟨m, hnm, hall, code_left (hall m hnm (Nat.le_refl m)) hoff⟩

/-- When the handler of a delivery has ended, the handler's verdict is noted. -/
theorem handler_ended {d : Delivery V.Handler} {below : Stack V ρ .report}
    (h : (∃ result, (run n).control = .run (.done result) (.handling d below)) ∨
      ∃ message, (run n).control = .unwind message (.handling d below)) :
    ∃ sc verdict, run (n + 1) = handled c sc d verdict below := by
  rcases h with ⟨result, hrun⟩ | ⟨message, hunwind⟩
  · refine ⟨(run n).scene, .ofResult result, ?_⟩
    rw [run.next_of_control hrun (by simp), MachineState.step]
    rfl
  · refine ⟨(run n).scene, .failed message true, ?_⟩
    rw [run.next_of_control hunwind (by simp), MachineState.step]
    rfl

/-- A complete report of an announcement lets the activation go on. -/
theorem proceed_of_report {phase : Phase} {result : PublishReport}
    (h : (run n).control = .report result (.announcing seat phase base)) : (run (n + 1)).control = .proceed seat phase base := by
  rw [run.next_of_control h (by simp), MachineState.step]
  rfl

/-- The handlers of an announcement end one after the other, and the activation goes on with its phase, unless one of them runs for
ever. -/
theorem announcement_ends {phase : Phase} (h : (run n).control.On (.announcing seat phase base)) :
    run.Stuck n seat base ∨ ∃ m, n ≤ m ∧ (run m).control = .proceed seat phase base := by
  have handlers : ∀ left n (d : Delivery V.Handler), d.remaining.length = left →
      (run n).control.On (.handling d (.announcing seat phase base)) →
      run.Stuck n seat base ∨ ∃ m, n ≤ m ∧ (run m).control = .proceed seat phase base := by
    intro left
    induction left using Nat.strongRecOn with
    | ind left ih =>
      intro n d hleft hon
      rcases code_ends hon with hhangs | ⟨m, hle, -, hended⟩
      · exact Or.inl ⟨n, Nat.le_refl n, Or.inl ⟨d, phase, hhangs⟩⟩
      · obtain ⟨sc, verdict, hnext⟩ := handler_ended hended
        rcases handled_control (c := c) sc d verdict (.announcing seat phase base) with ⟨result, hreport⟩ | ⟨d', hlt, hon'⟩
        · exact Or.inr ⟨m + 1 + 1, by omega, proceed_of_report (hnext ▸ hreport)⟩
        · rcases ih _ (hleft ▸ hlt) (m + 1) d' rfl (hnext ▸ hon') with hstuck | ⟨j, hj, hproceed⟩
          · exact Or.inl (hstuck.mono (by omega))
          · exact Or.inr ⟨j, by omega, hproceed⟩
  rcases h.handler_or_report with ⟨result, hreport⟩ | ⟨d, hon⟩
  · exact Or.inr ⟨n + 1, Nat.le_succ n, proceed_of_report hreport⟩
  · exact handlers _ n d rfl hon

/-- When the step code of an activation has ended, its run settles. -/
theorem settle_of_code_ended
    (h : (∃ result, (run n).control = .run (.done result) (.active seat base)) ∨
      ∃ message, (run n).control = .unwind message (.active seat base)) :
    ∃ result, (run (n + 1)).control = .settle seat result base := by
  rcases h with ⟨result, hrun⟩ | ⟨message, hunwind⟩
  · refine ⟨result, ?_⟩
    rw [run.next_of_control hrun (by simp), MachineState.step]
    rfl
  · refine ⟨.error (.panicked message), ?_⟩
    rw [run.next_of_control hunwind (by simp), MachineState.step]
    rfl

/-- Step code settles its activation, unless it runs for ever. -/
theorem step_code_settles (h : (run n).control.On (.active seat base)) :
    run.Stuck n seat base ∨ ∃ m result, n < m ∧ (run m).control = .settle seat result base := by
  rcases code_ends h with hhangs | ⟨m, hle, -, hended⟩
  · exact Or.inl ⟨n, Nat.le_refl n, Or.inr hhangs⟩
  · obtain ⟨result, hsettle⟩ := settle_of_code_ended hended
    exact Or.inr ⟨m + 1, result, Nat.lt_succ_of_le hle, hsettle⟩

/-- After an announcement that is made in a state, the activation goes on with its phase, unless a handler runs for ever. -/
theorem announce_ends {phase : Phase} {sc : Scene V} {t : Transition} (h : run (n + 1) = announce c sc seat t phase base) :
    run.Stuck n seat base ∨ ∃ m, n < m ∧ (run m).control = .proceed seat phase base := by
  rw [announce] at h
  split at h
  · have hon : (run (n + 1)).control.On (.announcing seat phase base) := h ▸ on_publish _ _ _
    rcases announcement_ends hon with hstuck | ⟨m, hle, hproceed⟩
    · exact Or.inl (hstuck.mono (Nat.le_succ n))
    · exact Or.inr ⟨m, hle, hproceed⟩
  · exact Or.inr ⟨n + 1, Nat.lt_succ_self n, by rw [h]⟩

/-- A run that settles has its outcome put down in the slot and announced. -/
theorem settle_next {result : Except StepError Completion} (h : (run n).control = .settle seat result base) :
    ∃ (sc : Scene V) (t : Transition),
      run (n + 1) = announce c sc seat t (.settled (outcomeOf (run n).scene.world seat result)) base ∧
        sc.world.slots = (run n).scene.world.slots.modify seat (Slot.settle (outcomeOf (run n).scene.world seat result)) := by
  obtain ⟨slot, found, -, started⟩ := run.slot_of_settle h
  have hnext : run (n + 1) = settle c (run n).scene seat result base := by
    rw [run.next_of_control h (by simp), MachineState.step]
  exact ⟨_, _, hnext.trans (settle_eq result base found started), rfl⟩

/-- After a run has settled, the activation goes on with its outcome, unless a handler runs for ever. -/
theorem settle_ends {result : Except StepError Completion} (h : (run n).control = .settle seat result base) :
    run.Stuck n seat base ∨ ∃ m, n < m ∧
      (run m).control = .proceed seat (.settled (outcomeOf (run n).scene.world seat result)) base := by
  obtain ⟨sc, t, hnext, -⟩ := settle_next h
  exact announce_ends hnext

/-- After a settled run the activation is over, because nothing that is deferred is for the step instance as it stands; or the step
instance was suspended and the first resumption for its key is announced. -/
theorem settled_next {settled : StepOutcome} (h : (run n).control = .proceed seat (.settled settled) base) :
    ∃ slot, (run n).scene.world.slots.at? seat = some slot ∧
      ((run.Ends n seat base settled ∧ ∀ r ∈ slot.deferred, ¬ slot.Awaits r.key) ∨
        ∃ (sc : Scene V) (t : Transition) (r : Resumption) (skipped later : List Resumption), settled = .suspended r.key ∧
          slot.deferred = skipped ++ r :: later ∧ (∀ s ∈ skipped, s.key ≠ r.key) ∧
          run (n + 1) = announce c sc seat t (.resuming r.outcome) base) := by
  obtain ⟨slot, found, -, reports⟩ := run.slot_of_proceed h
  refine ⟨slot, found, ?_⟩
  have hnext : run (n + 1) = drain c (run n).scene seat settled base := by
    rw [run.next_of_control h (by simp), MachineState.step]
    rfl
  simp only [drain, found] at hnext
  split at hnext
  · rename_i events hdeferred
    exact Or.inl ⟨⟨h, by rw [hnext], by rw [hnext]; rfl⟩, nextDeferred_eq_none hdeferred⟩
  · rename_i events r t lifecycle later hdeferred
    obtain ⟨awaits, -, -, skipped, queue, first⟩ := nextDeferred_eq_some hdeferred
    have hsuspended : settled.lifecycle = ⟨.suspended, some r.key⟩ := reports.1.symm.trans awaits
    refine Or.inr ⟨_, t, r, skipped, later, ?_, queue, first, hnext⟩
    cases settled <;> simp [StepOutcome.lifecycle] at hsuspended ⊢
    exact hsuspended

/-- After a failed run the activation is over. -/
theorem ends_of_failed {error : StepError} (h : (run n).control = .proceed seat (.settled (.failed error)) base) :
    run.Ends n seat base (.failed error) := by
  obtain ⟨slot, -, ⟨hends, -⟩ | ⟨_, _, r, _, _, habsurd, -⟩⟩ := settled_next h
  · exact hends
  · cases habsurd

/-- An activation that goes on with a resumption runs the resumption behaviour, or it settles as failed when there is none. -/
theorem resuming_next {outcome : AsyncOutcome} (h : (run n).control = .proceed seat (.resuming outcome) base) :
    ((run n).begins? c = some (.resumption seat outcome) ∧ (run (n + 1)).control.On (.active seat base)) ∨
      ∃ slot, (run n).ledger.slots.at? seat = some slot ∧ c.resume slot.definition = none ∧
        (run (n + 1)).control = .settle seat
          (.error (.notResumable seat.step ("step '" ++ c.stepName slot.definition ++ "' has no resumption behavior"))) base := by
  obtain ⟨slot, found, -, -⟩ := run.slot_of_proceed h
  have hnext : run (n + 1) = resume c (run n).scene seat slot.definition outcome base := by
    rw [run.next_of_control h (by simp), MachineState.step]
    simp only [proceed, found, Option.map_some]
  cases hresume : c.resume slot.definition with
  | some behaviour =>
    simp only [resume, hresume] at hnext
    refine Or.inl ⟨?_, ?_⟩
    · simp only [MachineState.begins?, h, found, hresume, Option.map_some]
    · rw [hnext]
      exact Stack.Under.refl
  | none =>
    simp only [resume, hresume] at hnext
    exact Or.inr ⟨slot, found, hresume, by rw [hnext]⟩

/-- An activation that starts runs its entry behaviour. -/
theorem starting_next (prepared : c.Prepared) (h : (run n).control = .proceed seat .starting base) :
    (run (n + 1)).control.On (.active seat base) := by
  obtain ⟨slot, found, -, -⟩ := run.slot_of_proceed h
  obtain ⟨data, hdata⟩ := prepared slot.definition
  have hnext : run (n + 1) = enter c (run n).scene seat slot.definition base := by
    rw [run.next_of_control h (by simp), MachineState.step]
    simp only [proceed, found, Option.map_some]
  simp only [enter, hdata] at hnext
  rw [hnext]
  exact Stack.Under.refl

/-- Step code that has been called settles, and the activation goes on with its outcome, unless some code runs for ever. -/
theorem active_ends (h : (run n).control.On (.active seat base)) :
    run.Stuck n seat base ∨ ∃ m outcome, n < m ∧ (run m).control = .proceed seat (.settled outcome) base := by
  rcases step_code_settles h with hstuck | ⟨m, result, hlt, hsettle⟩
  · exact Or.inl hstuck
  · rcases settle_ends hsettle with hstuck | ⟨j, hmj, hsettled⟩
    · exact Or.inl (hstuck.mono (Nat.le_of_lt hlt))
    · exact Or.inr ⟨j, _, Nat.lt_trans hlt hmj, hsettled⟩

/-- An activation that resumes a step instance settles, unless some code runs for ever. -/
theorem resuming_ends {outcome : AsyncOutcome} (h : (run n).control = .proceed seat (.resuming outcome) base) :
    run.Stuck n seat base ∨ ∃ m outcome, n < m ∧ (run m).control = .proceed seat (.settled outcome) base := by
  rcases resuming_next h with ⟨-, hactive⟩ | ⟨slot, -, -, hsettle⟩
  · rcases active_ends hactive with hstuck | ⟨m, settled, hlt, hsettled⟩
    · exact Or.inl (hstuck.mono (Nat.le_succ n))
    · exact Or.inr ⟨m, settled, by omega, hsettled⟩
  · rcases settle_ends hsettle with hstuck | ⟨m, hlt, hsettled⟩
    · exact Or.inl (hstuck.mono (Nat.le_succ n))
    · exact Or.inr ⟨m, _, by omega, hsettled⟩

/-- An activation settles some time, unless some code runs for ever. -/
theorem within_settles (h : (run n).control.Within c seat base) :
    run.Stuck n seat base ∨ ∃ m outcome, n ≤ m ∧ (run m).control = .proceed seat (.settled outcome) base := by
  have proceeds : ∀ {m : Nat} {phase : Phase}, n ≤ m → (phase = .starting → c.Prepared) → (run m).control = .proceed seat phase base →
      run.Stuck n seat base ∨ ∃ m outcome, n ≤ m ∧ (run m).control = .proceed seat (.settled outcome) base := by
    intro m phase hle prepared hproceed
    cases phase with
    | settled outcome => exact Or.inr ⟨m, outcome, hle, hproceed⟩
    | starting =>
      rcases active_ends (starting_next (prepared rfl) hproceed) with hstuck | ⟨j, outcome, hlt, hsettled⟩
      · exact Or.inl (hstuck.mono (by omega))
      · exact Or.inr ⟨j, outcome, by omega, hsettled⟩
    | resuming given =>
      rcases resuming_ends hproceed with hstuck | ⟨j, outcome, hlt, hsettled⟩
      · exact Or.inl (hstuck.mono hle)
      · exact Or.inr ⟨j, outcome, by omega, hsettled⟩
  generalize hcontrol : (run n).control = control at h
  cases h with
  | proceed prepared => exact proceeds (Nat.le_refl n) prepared hcontrol
  | announcing prepared on =>
    rcases announcement_ends (hcontrol ▸ on) with hstuck | ⟨m, hle, hproceed⟩
    · exact Or.inl hstuck
    · exact proceeds hle prepared hproceed
  | active on =>
    rcases active_ends (hcontrol ▸ on) with hstuck | ⟨m, outcome, hlt, hsettled⟩
    · exact Or.inl hstuck
    · exact Or.inr ⟨m, outcome, Nat.le_of_lt hlt, hsettled⟩
  | settle result =>
    rcases settle_ends hcontrol with hstuck | ⟨m, hlt, hsettled⟩
    · exact Or.inl hstuck
    · exact Or.inr ⟨m, _, Nat.le_of_lt hlt, hsettled⟩

/-- A settled run is followed by the end of the activation, or by an invocation of the resumption behaviour, unless some code runs for
ever. -/
theorem settled_ends_or_begins {settled : StepOutcome} (h : (run n).control = .proceed seat (.settled settled) base) :
    (∃ m outcome, n ≤ m ∧ run.Ends m seat base outcome) ∨ run.Stuck n seat base ∨
      ∃ m outcome, n < m ∧ (run m).begins? c = some (.resumption seat outcome) := by
  obtain ⟨slot, -, ⟨hends, -⟩ | ⟨sc, t, r, _, _, -, -, -, hannounce⟩⟩ := settled_next h
  · exact Or.inl ⟨n, settled, Nat.le_refl n, hends⟩
  · rcases announce_ends hannounce with hstuck | ⟨m, hlt, hresuming⟩
    · exact Or.inr (Or.inl hstuck)
    · rcases resuming_next hresuming with ⟨hbegins, -⟩ | ⟨slot, -, -, hsettle⟩
      · exact Or.inr (Or.inr ⟨m, r.outcome, hlt, hbegins⟩)
      · -- without a resumption behaviour the run fails, and nothing resumes a step instance that failed
        rcases settle_ends hsettle with hstuck | ⟨j, hmj, hfailed⟩
        · exact Or.inr (Or.inl (hstuck.mono (by omega)))
        · exact Or.inl ⟨j, _, by omega, ends_of_failed hfailed⟩

/-- An activation ends, unless a handler or step code that it calls runs for ever, or its step instance is resumed again and again. -/
theorem ends_or_diverges (h : (run n).control.Within c seat base) :
    (∃ m outcome, n ≤ m ∧ (∀ i, n ≤ i → i ≤ m → (run i).control.Within c seat base) ∧ run.Ends m seat base outcome) ∨
      run.Stuck n seat base ∨ ∀ bound, ∃ m outcome, bound ≤ m ∧ (run m).begins? c = some (.resumption seat outcome) := by
  by_cases hends : ∃ m outcome, n ≤ m ∧ (∀ i, n ≤ i → i ≤ m → (run i).control.Within c seat base) ∧ run.Ends m seat base outcome
  · exact Or.inl hends
  · by_cases hstuck : run.Stuck n seat base
    · exact Or.inr (Or.inl hstuck)
    · right
      right
      have hwithin : ∀ m, n ≤ m → (run m).control.Within c seat base := by
        intro m hle
        rcases within_or_ends h hle with hall | ⟨i, outcome, hni, -, hall, hend⟩
        · exact hall m hle (Nat.le_refl m)
        · exact absurd ⟨i, outcome, hni, hall, hend⟩ hends
      intro bound
      obtain ⟨m, settled, hm, hsettled⟩ := (within_settles (hwithin (n + bound) (by omega))).resolve_left
        fun hlater => hstuck (hlater.mono (by omega))
      rcases settled_ends_or_begins hsettled with ⟨j, outcome, hj, hend⟩ | hlater | ⟨j, outcome, hj, hbegins⟩
      · exact absurd ⟨j, outcome, by omega, fun i hni _ => hwithin i hni, hend⟩ hends
      · exact absurd (hlater.mono (by omega)) hstuck
      · exact ⟨j, outcome, by omega, hbegins⟩

end Run

end StepEngine
