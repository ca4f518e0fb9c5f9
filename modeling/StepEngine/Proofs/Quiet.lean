import Mathlib.Data.List.Nodup
import StepEngine.Proofs.Activation
import StepEngine.Proofs.Announcement

/-!
# Quiet: steps that announce nothing

A step that announces nothing changes no lifecycle, puts no activation in a new phase and publishes only what a program asks for. Beyond
that it may begin step code, and it may leave an activation: one whose outcome is handed to its caller, or one that starts without data.
-/

namespace StepEngine

open Machine

variable {V : Vocabulary} {ρ : Type} {c : Client V}

/-! ## Parts of the machine -/

/-- The end of a handler is no publication. -/
theorem published_handled {sc : Scene V} (d : Delivery V.Handler) (verdict : Verdict) (below : Stack V ρ .report) :
    (handled c sc d verdict below).published = sc.world.bus.published := by
  obtain ⟨count, failed, -, -, haccount, -⟩ := account_eq c sc d verdict
  exact congrArg Bus.Tally.published ((tally_handled sc d verdict below).trans haccount)

/-- A request that is answered at once is no publication. -/
theorem published_plain (w : World V) (op : PlainOp V) : (op.run w).2.bus.published = w.bus.published :=
  congrArg Bus.Tally.published (tally_plain w op)

namespace MachineState

/-- What a step does to the activations that neither announces anything nor begins step code. -/
inductive Quiet (c : Client V) (state next : MachineState V ρ) : Prop where
  | still (activations : next.control.activations = state.control.activations)
  /-- A step instance starts whose data cannot be made: its activation is left. -/
  | leaves {seat : Seat} {base : Stack V ρ .outcome} (control : state.control = .proceed seat .starting base)
      (activations : next.control.activations = base.activations)
  /-- A step instance is resumed that has no resumption behaviour: its run fails. -/
  | refuses {seat : Seat} {outcome : AsyncOutcome} {base : Stack V ρ .outcome} {slot : Slot V.Definition} {error : StepError}
      (control : state.control = .proceed seat (.resuming outcome) base) (found : state.scene.world.slots.at? seat = some slot)
      (unresumable : c.resume slot.definition = none) (settles : next.control = .settle seat (.error error) base)
  /-- An activation is over. -/
  | ends {seat : Seat} {outcome : StepOutcome} {base : Stack V ρ .outcome}
      (control : state.control = .proceed seat (.settled outcome) base) (activations : next.control.activations = base.activations)

end MachineState

/-- A resumption that wakes nobody is answered at once. -/
theorem quiet_applyResumption {k : Kind} {sc : Scene V} {executor : Nat} {r : Resumption}
    (next : Option StepOutcome → Program V (k.Result ρ)) (below : Stack V ρ (.code k)) (h : sc.world.wakes? executor r = none) :
    (applyResumption c sc executor r next below).control.activations = below.activations ∧
      (applyResumption c sc executor r next below).published = sc.world.bus.published := by
  obtain ⟨sc', heq, hbus⟩ := applyResumption_eq_none (c := c) next below (World.not_awaits_of_wakes? h)
  rw [heq]
  exact ⟨rfl, congrArg Bus.published hbus⟩

/-- A resolution that wakes nobody leaves the activations alone and publishes nothing. -/
theorem quiet_resolve {k : Kind} {sc : Scene V} {key : AsyncKey} {outcome : AsyncOutcome}
    (next : Except KeyError Unit → Program V (k.Result ρ)) (below : Stack V ρ (.code k))
    (h : ∀ r keys id, sc.world.keys.resolve key outcome sc.world.clock = .ok (r, keys) → sc.world.attachment = .executor id →
      (sc.world.isHeld id || below.occupies id) = true → sc.world.wakes? id r = none) :
    (resolve c sc key outcome next below).control.activations = below.activations ∧
      (resolve c sc key outcome next below).published = sc.world.bus.published := by
  cases hresolve : sc.world.keys.resolve key outcome sc.world.clock with
  | error e =>
    rw [resolve_eq_error next below hresolve]
    exact ⟨rfl, rfl⟩
  | ok answer =>
    obtain ⟨r, keys⟩ := answer
    have handsOver := handsOver_resolve (c := c) next below hresolve
    generalize resolve c sc key outcome next below = state at handsOver
    cases handsOver with
    | receiver attached world => exact ⟨rfl, by rw [MachineState.published, world]⟩
    | executor attached served world =>
      have hwakes : (World.wakes? _ _ r) = none := (congrArg (World.wakes? · _ r) world).trans (h r keys _ hresolve attached served)
      obtain ⟨hactivations, hpublished⟩ := quiet_applyResumption (c := c) (fun _ => next (.ok ())) below hwakes
      exact ⟨hactivations, by rw [hpublished, world]⟩
    | nobody unserved world => exact ⟨rfl, by rw [MachineState.published, world]⟩

/-- A program that runs on without an announcement leaves the activations alone, and publishes what it asks for. -/
theorem quiet_run {k : Kind} {sc : Scene V} (program : Program V (k.Result ρ)) (stack : Stack V ρ (.code k))
    (h : MachineState.announces? ⟨sc, .run program stack⟩ = none) :
    (Machine.run c sc program stack).control.activations = stack.activations ∧
      (Machine.run c sc program stack).published =
        sc.world.bus.published + if MachineState.publishes ⟨sc, .run program stack⟩ then 1 else 0 := by
  cases program with
  | look next => exact ⟨rfl, rfl⟩
  | remember memory next => exact ⟨rfl, rfl⟩
  | crash message => exact ⟨rfl, rfl⟩
  | call op next =>
    cases op with
    | plain op => exact ⟨rfl, published_plain sc.world op⟩
    | publish topic payload =>
      have hledger : (publish c sc topic payload (.publishing next stack)).ledger = sc.world.ledger stack.activations :=
        ledger_publish topic payload _
      exact ⟨congrArg Ledger.activations hledger, published_publish topic payload _⟩
    | resolve key outcome =>
      refine quiet_resolve next stack ?_
      intro r keys id hresolve hattached hlive
      simpa only [MachineState.announces?, hresolve, hattached, hlive, if_true] using h
    | execute executor definition step background =>
      simp only [MachineState.announces?] at h
      split at h
      · cases h
      · rename_i slot current
        obtain ⟨sc', heq, hworld, -⟩ := execute_refused (c := c) definition background next stack current
        rw [Machine.run, heq]
        exact ⟨rfl, by rw [MachineState.published, hworld]; rfl⟩
    | apply executor r => exact quiet_applyResumption next stack h
  | done result =>
    cases stack with
    | bottom => exact ⟨rfl, rfl⟩
    | handling delivery below =>
      have hledger : (handled c sc delivery (.ofResult result) below).ledger = sc.world.ledger below.activations :=
        ledger_handled delivery _ below
      exact ⟨congrArg Ledger.activations hledger, published_handled delivery _ below⟩
    | receiving next below => exact ⟨rfl, rfl⟩
    | active seat below => exact ⟨rfl, rfl⟩

/-- A panic that goes one frame down leaves the activations alone, unless it goes through a delivery, and publishes nothing. -/
theorem quiet_unwind {e : Expects} (sc : Scene V) (message : String) (stack : Stack V ρ e) (caught : e ≠ .report) :
    (unwind c sc message stack).control.activations = stack.activations ∧
      (unwind c sc message stack).published = sc.world.bus.published := by
  cases stack with
  | bottom => exact ⟨rfl, rfl⟩
  | handling delivery below =>
    have hledger : (handled c sc delivery (.failed message true) below).ledger = sc.world.ledger below.activations :=
      ledger_handled delivery _ below
    exact ⟨congrArg Ledger.activations hledger, published_handled delivery _ below⟩
  | receiving next below => exact ⟨rfl, rfl⟩
  | active seat below => exact ⟨rfl, rfl⟩
  | publishing next below => exact absurd rfl caught
  | announcing seat phase below => exact absurd rfl caught
  | awaiting next background below =>
    rw [unwind]
    split <;> exact ⟨rfl, rfl⟩

/-- An activation that goes on after an announcement and announces nothing begins its step code, or it is left or over, or it fails for
want of a resumption behaviour; it publishes nothing. -/
theorem quiet_proceed {sc : Scene V} {seat : Seat} {slot : Slot V.Definition} (phase : Phase) (stack : Stack V ρ .outcome)
    (found : sc.world.slots.at? seat = some slot) (h : MachineState.announces? ⟨sc, .proceed seat phase stack⟩ = none) :
    ((∃ code, MachineState.begins? c ⟨sc, .proceed seat phase stack⟩ = some code) ∨
        MachineState.Quiet c ⟨sc, .proceed seat phase stack⟩ (MachineState.step c ⟨sc, .proceed seat phase stack⟩)) ∧
      (MachineState.step c ⟨sc, .proceed seat phase stack⟩).published = sc.world.bus.published := by
  cases phase with
  | settled outcome =>
    simp only [MachineState.announces?, found, Option.map_eq_none_iff] at h
    simp only [MachineState.step, Machine.proceed, drain, found]
    split
    · exact ⟨Or.inr (.ends rfl rfl), rfl⟩
    · rename_i events r t lifecycle later hnext
      rw [hnext] at h
      cases h
  | starting =>
    cases hdefault : c.defaultData slot.definition with
    | error message =>
      simp only [MachineState.step, Machine.proceed, found, Option.map_some, enter, hdefault]
      exact ⟨Or.inr (.leaves rfl rfl), rfl⟩
    | ok defaults =>
      refine ⟨Or.inl ⟨.entry seat, ?_⟩, ?_⟩
      · simp [MachineState.begins?, found, hdefault, Except.toOption]
      · simp only [MachineState.step, Machine.proceed, found, Option.map_some, enter, hdefault]
        rfl
  | resuming outcome =>
    cases hresume : c.resume slot.definition with
    | none =>
      simp only [MachineState.step, Machine.proceed, found, Option.map_some, resume, hresume]
      exact ⟨Or.inr (.refuses rfl found hresume rfl), rfl⟩
    | some behaviour =>
      refine ⟨Or.inl ⟨.resumption seat outcome, ?_⟩, ?_⟩
      · simp [MachineState.begins?, found, hresume]
      · simp only [MachineState.step, Machine.proceed, found, Option.map_some, resume, hresume]
        rfl

/-- A step that announces nothing begins step code or is quiet, and it publishes what a program asks for. -/
theorem step_of_unannounced {state : MachineState V ρ} (h : state.announces? = none) (coherent : state.ledger.Coherent)
    (caught : state.control.On .bottom ∨ ∃ result, state.control = .finished result) :
    ((∃ code, state.begins? c = some code) ∨ state.Quiet c (state.step c)) ∧
      (state.step c).published = state.published + if state.publishes then 1 else 0 := by
  obtain ⟨sc, control⟩ := state
  cases control with
  | run program stack =>
    obtain ⟨hactivations, hpublished⟩ := quiet_run (c := c) program stack h
    exact ⟨Or.inr (.still hactivations), hpublished⟩
  | report result stack =>
    have hledger : (reported sc result stack).ledger = sc.world.ledger stack.activations := ledger_reported result stack
    refine ⟨Or.inr (.still (congrArg Ledger.activations hledger)), ?_⟩
    cases stack with
    | publishing next below => rfl
    | announcing seat phase below =>
      simp only [MachineState.step, reported]
      split <;> rfl
  | proceed seat phase stack =>
    obtain ⟨slot, found, -, -⟩ := coherent.manned _ List.mem_cons_self
    exact quiet_proceed phase stack found h
  | settle seat result stack =>
    obtain ⟨slot, found, -, started⟩ := coherent.manned _ List.mem_cons_self
    cases (announces?_settle result found started).symm.trans h
  | outcome result stack =>
    cases stack with
    | awaiting next background below => exact ⟨Or.inr (.still rfl), rfl⟩
  | unwind message stack =>
    have hreport := (caught.resolve_right (by simp)).1
    obtain ⟨hactivations, hpublished⟩ := quiet_unwind (c := c) sc message stack hreport
    exact ⟨Or.inr (.still hactivations), hpublished⟩
  | finished result => exact ⟨Or.inr (.still rfl), rfl⟩

/-! ## What is not announced does not change -/

/-- How the step instance of a slot stands: its lifecycle, and the outcome of its last run. -/
def Slot.standing {D : Type} (slot : Slot D) : Lifecycle × Option StepOutcome := (slot.lifecycle, slot.lastOutcome)

namespace Ledger

variable {l l' : Ledger V} {seat : Seat}

/-- No seat has two activations. -/
theorem Coherent.activation_eq {a b : Activation} (h : l.Coherent) (ha : a ∈ l.activations) (hb : b ∈ l.activations)
    (hseat : a.seat = b.seat) : a = b := List.inj_on_of_nodup_map h.exclusive ha hb hseat

/-- A change that leaves the standing of a slot alone leaves the standing at every seat alone. -/
theorem standing_modify {other : Seat} {f : Slot V.Definition → Slot V.Definition} (keeps : Slot.Keeps f)
    (hf : ∀ slot, (f slot).standing = slot.standing) :
    ((l.slots.modify other f).at? seat).map Slot.standing = (l.slots.at? seat).map Slot.standing := by
  rw [Slots.at?_modify keeps, Option.map_map]
  congr 1
  funext slot
  simp only [Function.comp_apply]
  split
  · exact hf slot
  · rfl

/-- A resumption that reaches an executor and wakes nobody leaves the standing at every seat alone. -/
theorem Handed.standing_eq {executor : Nat} {r : Resumption} (m : Handed executor r l l') (h : l.Coherent)
    (old : ∀ seat phase, ⟨seat, some phase⟩ ∈ l'.activations → ⟨seat, some phase⟩ ∈ l.activations) :
    (l'.slots.at? seat).map Slot.standing = (l.slots.at? seat).map Slot.standing := by
  cases m with
  | unknown absent => rfl
  | refused current idle other => rfl
  | deferred current running => exact standing_modify (Slot.keeps_defer r) fun _ => rfl
  | woken current idle awaits =>
    obtain ⟨other, found, running, -⟩ := h.manned _ (old _ _ List.mem_cons_self)
    cases (h.seated.at?_of_current? current).symm.trans found
    exact absurd (idle.symm.trans running) nofun

/-- A move that puts no activation in a new phase leaves the standing at every seat alone. -/
theorem Move.standing_eq {request : Option (Op V)} (m : Move request l l') (h : l.Coherent)
    (old : ∀ seat phase, ⟨seat, some phase⟩ ∈ l'.activations → ⟨seat, some phase⟩ ∈ l.activations) :
    (l'.slots.at? seat).map Slot.standing = (l.slots.at? seat).map Slot.standing := by
  cases m with
  | unlist executor workflow =>
    rw [Slots.at?_purge, Option.map_map]
    congr 1
    funext slot
    obtain ⟨listed, heq, -⟩ := Slots.unlist_eq executor workflow slot
    simp only [Function.comp_apply, heq]
    rfl
  | start free =>
    obtain ⟨slot, found, -⟩ := h.manned _ (old _ _ List.mem_cons_self)
    exact absurd (h.seated.at?_nextSeat.symm.trans found) nofun
  | apply handed => exact handed.standing_eq h old
  | @resolve _ _ _ _ _ _ keys _ resolved attached handed =>
    exact Handed.standing_eq (l := { l with keys := keys }) handed (h.congr rfl rfl) old
  | @settle _ seat rest slot outcome top found checked =>
    have htop : ⟨seat, none⟩ ∈ l.activations := top ▸ List.mem_cons_self
    cases h.activation_eq (old _ _ List.mem_cons_self) htop rfl
  | @take _ seat settled rest slot r skipped later top found awaits queue first =>
    have htop : ⟨seat, some (.settled settled)⟩ ∈ l.activations := top ▸ List.mem_cons_self
    cases h.activation_eq (old _ _ List.mem_cons_self) htop rfl
  | finish top found unmatched => exact standing_modify Slot.keeps_idle fun _ => rfl
  | _ => rfl

end Ledger

namespace Run

variable (run : Run c ρ) {n : Nat} {seat : Seat} {t : Transition}

/-- The step from a state in which a transition is announced. -/
theorem next_of_announces? (h : (run n).announces? = some (seat, t)) :
    ∃ (sc : Scene V) (phase : Phase) (below : Stack V ρ .outcome), run (n + 1) = announce c sc seat t phase below ∧
      sc.world.bus = (run n).scene.world.bus ∧ sc.world.clock = (run n).scene.world.clock ∧
      (run n).ledger.Announces seat t sc.world.slots phase below.activations := by
  have hnext : run (n + 1) = (run n).step c := by
    refine run.next_eq fun result hfinished => ?_
    rw [MachineState.announces?, hfinished] at h
    cases h
  rw [hnext]
  exact step_of_announces? h (run.coherent n)

/-- The step from a state in which nothing is announced. -/
theorem next_of_unannounced (h : (run n).announces? = none) :
    ((∃ code, (run n).begins? c = some code) ∨ (run n).Quiet c (run (n + 1))) ∧
      (run (n + 1)).published = (run n).published + if (run n).publishes then 1 else 0 := by
  have hnext := run.next n
  generalize run (n + 1) = next at hnext
  cases hnext with
  | step => exact step_of_unannounced h (run.coherent n) (run.on_bottom n)
  | again finished memory program =>
    have hactivations : (run n).control.activations = [] := by
      rw [finished]
      rfl
    have hpublishes : (run n).publishes = false := by rw [MachineState.publishes, finished]
    refine ⟨Or.inr (.still (hactivations ▸ rfl)), ?_⟩
    rw [hpublishes]
    rfl

/-- An activation that goes on is the innermost one. -/
theorem activations_of_proceed {phase : Phase} {base : Stack V ρ .outcome} (h : (run n).control = .proceed seat phase base) :
    (run n).ledger.activations = ⟨seat, some phase⟩ :: base.activations := by
  rw [MachineState.ledger, World.ledger, h]
  rfl

/-- When step code begins, the innermost activation begins it, and after the step it runs. -/
theorem activations_of_begins? {code : MachineState.StepCode} (h : (run n).begins? c = some code) :
    ∃ rest, (run n).ledger.activations = ⟨code.seat, some code.phase⟩ :: rest ∧
      (run (n + 1)).ledger.activations = ⟨code.seat, none⟩ :: rest := by
  obtain ⟨base, program, hcontrol, hstep⟩ := MachineState.step_of_begins? h
  refine ⟨base.activations, run.activations_of_proceed hcontrol, ?_⟩
  · have hnext : run (n + 1) = (run n).step c := run.next_eq fun result hfinished => by cases hcontrol.symm.trans hfinished
    rw [hnext, MachineState.ledger, World.ledger, hstep]
    rfl

/-- After a step that announces nothing, no activation goes on with another phase than before. -/
theorem mem_of_unannounced {phase : Phase} (h : (run n).announces? = none)
    (hm : ⟨seat, some phase⟩ ∈ (run (n + 1)).ledger.activations) : ⟨seat, some phase⟩ ∈ (run n).ledger.activations := by
  have behind : ∀ {a : Activation} {rest : List Activation}, (run n).ledger.activations = a :: rest →
      (⟨seat, some phase⟩ : Activation) ∈ rest → ⟨seat, some phase⟩ ∈ (run n).ledger.activations :=
    fun top hm => top ▸ List.mem_cons_of_mem _ hm
  rcases (run.next_of_unannounced h).1 with ⟨code, hbegins⟩ | hquiet
  · obtain ⟨rest, hnow, hthen⟩ := run.activations_of_begins? hbegins
    rw [hthen] at hm
    rcases List.mem_cons.1 hm with he | hm
    · cases he
    · exact behind hnow hm
  · cases hquiet with
    | still activations =>
      have hthen : (run (n + 1)).ledger.activations = (run n).ledger.activations := activations
      exact hthen ▸ hm
    | leaves control activations =>
      have hthen : (run (n + 1)).ledger.activations = _ := activations
      exact behind (run.activations_of_proceed control) (hthen ▸ hm)
    | refuses control found unresumable settles =>
      have hthen : (run (n + 1)).ledger.activations = ⟨_, none⟩ :: _ := congrArg Control.activations settles
      rw [hthen] at hm
      rcases List.mem_cons.1 hm with he | hm
      · cases he
      · exact behind (run.activations_of_proceed control) hm
    | ends control activations =>
      have hthen : (run (n + 1)).ledger.activations = _ := activations
      exact behind (run.activations_of_proceed control) (hthen ▸ hm)

/-- After a step that announces nothing, every seat stands as before. -/
theorem standing_of_unannounced (h : (run n).announces? = none) (seat : Seat) :
    ((run (n + 1)).ledger.slots.at? seat).map Slot.standing = ((run n).ledger.slots.at? seat).map Slot.standing :=
  (run.move n).standing_eq (run.coherent n) fun _ _ hm => run.mem_of_unannounced h hm

/-- After a step that announces nothing, every lifecycle is as before. -/
theorem lifecycleAt_of_unannounced (h : (run n).announces? = none) (seat : Seat) :
    (run (n + 1)).scene.world.slots.lifecycleAt seat = (run n).scene.world.slots.lifecycleAt seat := by
  have hstanding := congrArg (Option.map Prod.fst) (run.standing_of_unannounced h seat)
  rw [Option.map_map, Option.map_map] at hstanding
  exact congrArg (Option.getD · .new) hstanding

/-- After an announcement, the lifecycle at the seat has made the transition, and the others are as before. -/
theorem lifecycleAt_of_announces? (h : (run n).announces? = some (seat, t)) :
    ((run n).scene.world.slots.lifecycleAt seat).advance t.event = .ok (t, (run (n + 1)).scene.world.slots.lifecycleAt seat) ∧
      ∀ other, other ≠ seat →
        (run (n + 1)).scene.world.slots.lifecycleAt other = (run n).scene.world.slots.lifecycleAt other := by
  obtain ⟨sc, phase, below, hnext, -, -, hannounces⟩ := run.next_of_announces? h
  have hslots : (run (n + 1)).scene.world.slots = sc.world.slots := congrArg Ledger.slots (run.ledger_of_announce hnext)
  rw [hslots]
  refine ⟨hannounces.advance (run.coherent n).seated, ?_⟩
  intro other hne
  rw [Slots.lifecycleAt, hannounces.at?_other hne]
  rfl

end Run

end StepEngine
