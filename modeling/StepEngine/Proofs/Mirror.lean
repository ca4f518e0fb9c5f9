import Mathlib.Tactic.IntervalCases
import StepEngine.Proofs.Course
import StepEngine.Proofs.Ledger.Instance
import StepEngine.Proofs.Quiet

/-!
# Mirror: lifecycle notifications mirror the run

Whatever handlers and step code do, and however they call each other, the transitions of a step instance are published in the order in
which they are made, each once and on its topic, and the code of the instance begins between them where the course of the instance has
it. What the lifecycle refuses is not published.
-/

namespace StepEngine

open Machine

variable {V : Vocabulary} {ρ : Type} {c : Client V} {seat : Seat} {stage : Course.Stage}

namespace MachineState

/-- The moment at which step code begins. -/
def StepCode.moment : StepCode → Moment
  | entry _ => .entered
  | resumption _ outcome => .resumed outcome

/-- What is seen with the next step, with the seat of the step instance. -/
def moment? (c : Client V) (state : MachineState V ρ) : Option (Seat × Moment) :=
  match state.announces? with
  | some (seat, t) => t.topic?.map fun topic => (seat, .published topic t)
  | none => (state.begins? c).map fun code => (code.seat, code.moment)

/-- The step instance at a seat has come to a stage. -/
def InStage (state : MachineState V ρ) (seat : Seat) : Course.Stage → Prop
  | .absent => state.ledger.slots.at? seat = none
  | .started => ⟨seat, some .starting⟩ ∈ state.ledger.activations
  | .left =>
    (∃ slot, state.ledger.slots.at? seat = some slot ∧ slot.lifecycle = Slot.startedLifecycle) ∧
      ∀ phase, ⟨seat, phase⟩ ∉ state.ledger.activations
  | .running => ⟨seat, none⟩ ∈ state.ledger.activations
  | .settled outcome => ∃ slot, state.ledger.slots.at? seat = some slot ∧ slot.Reports outcome
  | .resuming _ outcome => ⟨seat, some (.resuming outcome)⟩ ∈ state.ledger.activations
  | .refused => ∃ error base, state.control = .settle seat (.error error) base

end MachineState

/-! ## Stages and activations -/

/-- The activation of a step instance that has come to a stage stands so. -/
inductive Course.Stage.Fits : Course.Stage → Option Phase → Prop where
  | started : Fits .started (some .starting)
  | running : Fits .running none
  | settled (outcome : StepOutcome) : Fits (.settled outcome) (some (.settled outcome))
  | resuming (key : AsyncKey) (outcome : AsyncOutcome) : Fits (.resuming key outcome) (some (.resuming outcome))
  | refused : Fits .refused none

/-- A settled step instance is not in progress. -/
theorem StepOutcome.lifecycle_ne_started (outcome : StepOutcome) : outcome.lifecycle ≠ Slot.startedLifecycle := by
  cases outcome <;> simp [lifecycle, Slot.startedLifecycle]

/-- A slot that reports an outcome and awaits a key reports that it is suspended on the key. -/
theorem Slot.Reports.eq_suspended {D : Type} {slot : Slot D} {outcome : StepOutcome} {key : AsyncKey} (h : slot.Reports outcome)
    (awaits : slot.Awaits key) : outcome = .suspended key := by
  have hlife : outcome.lifecycle = ⟨.suspended, some key⟩ := h.1.symm.trans awaits
  cases outcome <;> simp [StepOutcome.lifecycle] at hlife ⊢
  exact hlife

namespace MachineState.InStage

variable {state next : MachineState V ρ} {slot : Slot V.Definition} {phase : Option Phase} {key : AsyncKey}

/-- An activation stands as the stage of its step instance needs it. -/
theorem fits (h : state.InStage seat stage) (coherent : state.ledger.Coherent)
    (hm : ⟨seat, phase⟩ ∈ state.ledger.activations) : stage.Fits phase := by
  cases stage with
  | absent =>
    obtain ⟨slot, found, -⟩ := coherent.manned _ hm
    exact absurd (h.symm.trans found) nofun
  | started =>
    cases coherent.activation_eq h hm rfl
    exact .started
  | left => exact absurd hm (h.2 phase)
  | running =>
    cases coherent.activation_eq h hm rfl
    exact .running
  | settled outcome =>
    obtain ⟨slot, found, reports⟩ := h
    obtain ⟨same, hsame, -, fits⟩ := coherent.manned _ hm
    cases found.symm.trans hsame
    have hnot : slot.lifecycle ≠ Slot.startedLifecycle := by
      rw [reports.1]
      exact outcome.lifecycle_ne_started
    match phase, fits with
    | none, fits => exact absurd fits hnot
    | some .starting, fits => exact absurd fits hnot
    | some (.resuming _), fits => exact absurd fits hnot
    | some (.settled other), fits =>
      cases reports.2.symm.trans fits.2
      exact .settled outcome
  | resuming key outcome =>
    cases coherent.activation_eq h hm rfl
    exact .resuming key outcome
  | refused =>
    obtain ⟨error, base, hcontrol⟩ := h
    have hm' : ⟨seat, none⟩ ∈ state.ledger.activations := by
      rw [ledger, World.ledger, hcontrol]
      exact List.mem_cons_self
    cases coherent.activation_eq hm' hm rfl
    exact .refused

/-- A step instance that has come to any other stage has a slot. -/
theorem eq_absent (h : state.InStage seat stage) (coherent : state.ledger.Coherent) (free : state.ledger.slots.at? seat = none) :
    stage = .absent := by
  have manned : ∀ phase, ⟨seat, phase⟩ ∉ state.ledger.activations := by
    intro phase hm
    obtain ⟨slot, found, -⟩ := coherent.manned _ hm
    exact absurd (free.symm.trans found) nofun
  cases stage with
  | absent => rfl
  | started => exact absurd h (manned _)
  | left =>
    obtain ⟨⟨slot, found, -⟩, -⟩ := h
    exact absurd (free.symm.trans found) nofun
  | running => exact absurd h (manned _)
  | settled outcome =>
    obtain ⟨slot, found, -⟩ := h
    exact absurd (free.symm.trans found) nofun
  | resuming key outcome => exact absurd h (manned _)
  | refused =>
    obtain ⟨error, base, hcontrol⟩ := h
    refine absurd ?_ (manned none)
    rw [ledger, World.ledger, hcontrol]
    exact List.mem_cons_self

/-- A step instance that awaits a key has settled so. -/
theorem eq_suspended (h : state.InStage seat stage) (coherent : state.ledger.Coherent) (found : state.ledger.slots.at? seat = some slot)
    (awaits : slot.Awaits key) : stage = .settled (.suspended key) := by
  have hnot : slot.lifecycle ≠ Slot.startedLifecycle := by
    rw [awaits]
    exact StepOutcome.lifecycle_ne_started (.suspended key)
  have manned : ∀ phase, ⟨seat, phase⟩ ∈ state.ledger.activations → slot.Fits phase := by
    intro phase hm
    obtain ⟨same, hsame, -, fits⟩ := coherent.manned _ hm
    cases found.symm.trans hsame
    exact fits
  cases stage with
  | absent => exact absurd (found.symm.trans h) nofun
  | started => exact absurd (manned _ h) hnot
  | left =>
    obtain ⟨⟨same, hsame, started⟩, -⟩ := h
    cases found.symm.trans hsame
    exact absurd started hnot
  | running => exact absurd (manned _ h) hnot
  | settled outcome =>
    obtain ⟨same, hsame, reports⟩ := h
    cases found.symm.trans hsame
    rw [reports.eq_suspended awaits]
  | resuming key outcome => exact absurd (manned _ h) hnot
  | refused =>
    obtain ⟨error, base, hcontrol⟩ := h
    refine absurd (manned none ?_) hnot
    rw [ledger, World.ledger, hcontrol]
    exact List.mem_cons_self

/-- A step that leaves the seat and its activation alone leaves the step instance in its stage, unless its run is about to fail. -/
theorem keep (h : state.InStage seat stage) (hne : stage ≠ .refused)
    (standing : (next.ledger.slots.at? seat).map Slot.standing = (state.ledger.slots.at? seat).map Slot.standing)
    (activations : ∀ phase, ⟨seat, phase⟩ ∈ next.ledger.activations ↔ ⟨seat, phase⟩ ∈ state.ledger.activations) :
    next.InStage seat stage := by
  have same : ∀ {slot : Slot V.Definition}, state.ledger.slots.at? seat = some slot →
      ∃ later, next.ledger.slots.at? seat = some later ∧ later.standing = slot.standing := by
    intro slot found
    rw [found, Option.map_some, Option.map_eq_some_iff] at standing
    exact standing
  cases stage with
  | absent =>
    have hfree : state.ledger.slots.at? seat = none := h
    rw [hfree, Option.map_none, Option.map_eq_none_iff] at standing
    exact standing
  | started => exact (activations _).2 h
  | left =>
    obtain ⟨⟨slot, found, started⟩, hnone⟩ := h
    obtain ⟨later, hlater, hstanding⟩ := same found
    exact ⟨⟨later, hlater, (congrArg Prod.fst hstanding).trans started⟩, fun phase hm => hnone phase ((activations phase).1 hm)⟩
  | running => exact (activations _).2 h
  | settled outcome =>
    obtain ⟨slot, found, reports⟩ := h
    obtain ⟨later, hlater, hstanding⟩ := same found
    exact ⟨later, hlater, (congrArg Prod.fst hstanding).trans reports.1, (congrArg Prod.snd hstanding).trans reports.2⟩
  | resuming key outcome => exact (activations _).2 h
  | refused => exact absurd rfl hne

end MachineState.InStage

/-- An announcement leaves the activations of the other seats alone. -/
theorem Ledger.Announces.mem_other {l : Ledger V} {other : Seat} {t : Transition} {slots : Slots V.Definition} {phase : Phase}
    {rest : List Activation} (h : l.Announces seat t slots phase rest) (hne : other ≠ seat) (given : Option Phase) :
    ⟨other, given⟩ ∈ (⟨seat, some phase⟩ :: rest : List Activation) ↔ ⟨other, given⟩ ∈ l.activations := by
  cases h with
  | start free => simp [hne]
  | wake found idle awaits => simp [hne]
  | settle top found started => simp [top, hne]
  | take top found awaits => simp [top, hne]

/-! ## From one state to the next -/

namespace Run

variable (run : Run c ρ) {n : Nat} {t : Transition}

/-- What is seen with the step from a state of the step instances at some seats. -/
def momentOf (selects : Seat → Bool) (n : Nat) : Option Moment :=
  ((run n).moment? c).bind fun seen => if selects seen.1 then some seen.2 else none

/-- What is seen of the step instances at some seats up to a state. -/
def story (selects : Seat → Bool) (n : Nat) : List Moment := (List.range n).filterMap (run.momentOf selects)

/-- The story goes on with what is seen next. -/
theorem story_succ (selects : Seat → Bool) (n : Nat) :
    run.story selects (n + 1) = run.story selects n ++ (run.momentOf selects n).toList := by
  rw [story, story, List.range_succ, List.filterMap_append]
  cases h : run.momentOf selects n <;> simp [h]

variable {run} {resumable : Bool}

/-- What is seen with a step is seen of the step instance at one seat. -/
theorem momentOf_of_moment? {moment : Moment} (h : (run n).moment? c = some (seat, moment)) (other : Seat) :
    run.momentOf (· = other) n = if seat = other then some moment else none := by
  rw [momentOf, h]
  simp

/-- The moment of an announcement. -/
theorem moment?_of_announces? {topic : String} (h : (run n).announces? = some (seat, t)) (htopic : t.topic? = some topic) :
    (run n).moment? c = some (seat, .published topic t) := by
  rw [MachineState.moment?, h]
  simp [htopic]

/-- The moment at which step code begins. -/
theorem moment?_of_begins? {code : MachineState.StepCode} (h : (run n).announces? = none) (hb : (run n).begins? c = some code) :
    (run n).moment? c = some (code.seat, code.moment) := by
  rw [MachineState.moment?, h]
  simp [hb]

/-- A step instance that was resumed without code for that has a failure announced next. -/
theorem announces?_of_refused (hstage : (run n).InStage seat .refused) :
    ∃ error, (run n).announces? = some (seat, (StepOutcome.failed error).settlement) := by
  obtain ⟨error, base, hcontrol⟩ := hstage
  obtain ⟨slot, found, -, started⟩ := run.slot_of_settle hcontrol
  have heq : run n = ⟨(run n).scene, .settle seat (.error error) base⟩ := by rw [← hcontrol]
  rw [heq]
  exact ⟨error, announces?_settle (.error error) found started⟩

/-- An announcement leads its step instance to the next stage. -/
theorem stage_of_announces? (resumable : Bool) (hstage : (run n).InStage seat stage) (h : (run n).announces? = some (seat, t)) :
    ∃ topic next, t.topic? = some topic ∧ (run (n + 1)).InStage seat next ∧
      stage.Leads resumable (some (.published topic t)) next := by
  have coherent := run.coherent n
  obtain ⟨sc, phase, below, hnext, -, -, hannounces⟩ := run.next_of_announces? h
  have hledger := run.ledger_of_announce hnext
  have hactive : ⟨seat, some phase⟩ ∈ (run (n + 1)).ledger.activations := by
    rw [hledger]
    exact List.mem_cons_self
  have hslots : (run (n + 1)).ledger.slots = sc.world.slots := congrArg Ledger.slots hledger
  generalize sc.world.slots = slots at hannounces hslots
  generalize below.activations = rest at hannounces
  cases hannounces with
  | start free =>
    obtain rfl := hstage.eq_absent coherent coherent.seated.at?_nextSeat
    exact ⟨_, .started, rfl, hactive, .start⟩
  | @wake slot key outcome found idle awaits =>
    obtain rfl := hstage.eq_suspended coherent found awaits
    exact ⟨_, .resuming key outcome, rfl, hactive, .wake key outcome⟩
  | @settle _ slot outcome rest top found started =>
    have hreports : (run (n + 1)).InStage seat (.settled outcome) :=
      ⟨slot.settle outcome, by rw [hslots]; exact Slots.at?_modify_self (Slot.keeps_settle outcome) found, rfl, rfl⟩
    refine ⟨outcome.topic, .settled outcome, outcome.topic?_settlement, hreports, ?_⟩
    have hmoment : Moment.published outcome.topic outcome.settlement = .settled outcome := by cases outcome <;> rfl
    cases hstage.fits coherent (top ▸ List.mem_cons_self) with
    | running =>
      rw [hmoment]
      exact .settle outcome
    | refused =>
      -- the run ends with an error, so its outcome is a failure
      obtain ⟨error, hthis⟩ := announces?_of_refused hstage
      have hsame : outcome.settlement.event = .fail error.message :=
        congrArg (fun found : Seat × Transition => found.2.event) (Option.some.inj (h.symm.trans hthis))
      cases outcome with
      | failed other =>
        rw [hmoment]
        exact .fail other
      | complete => cases hsame
      | suspended key => cases hsame
  | @take _ slot settled key outcome later rest top found awaits =>
    obtain rfl := hstage.eq_suspended coherent found awaits
    exact ⟨_, .resuming key outcome, rfl, hactive, .wake key outcome⟩

/-- A step that begins the code of a step instance leads it to the next stage. -/
theorem stage_of_begins? {code : MachineState.StepCode} (hstage : (run n).InStage code.seat stage)
    (hb : (run n).begins? c = some code)
    (hresumable : ∀ slot, (run n).ledger.slots.at? code.seat = some slot → (c.resume slot.definition).isSome = resumable) :
    (run (n + 1)).InStage code.seat .running ∧ stage.Leads resumable (some code.moment) .running := by
  obtain ⟨rest, hnow, hthen⟩ := run.activations_of_begins? hb
  have hactive : ⟨code.seat, none⟩ ∈ (run (n + 1)).ledger.activations := hthen ▸ List.mem_cons_self
  refine ⟨hactive, ?_⟩
  have hfits := hstage.fits (run.coherent n) (hnow ▸ List.mem_cons_self)
  cases code with
  | entry seat =>
    cases hfits
    exact .enter
  | resumption seat outcome =>
    obtain ⟨below, slot, behaviour, -, found, hresume, -⟩ := MachineState.step_of_begins?_resumption hb
    have hcan : resumable = true := by
      rw [← hresumable slot found, hresume]
      rfl
    cases hfits with
    | resuming key outcome => exact .resume key outcome hcan

/-- Where nothing is announced about a step instance, it was not refused its resumption. -/
theorem ne_refused (hstage : (run n).InStage seat stage) (h : ∀ t, (run n).announces? ≠ some (seat, t)) : stage ≠ .refused := by
  rintro rfl
  obtain ⟨error, hthis⟩ := announces?_of_refused hstage
  exact h _ hthis

/-- A step instance stays where it is when nothing is announced about it and the innermost activation, which is of another seat, goes on
or ends. -/
theorem stage_stays {other : Seat} {phase : Option Phase} {rest : List Activation} (front : List Activation)
    (hstage : (run n).InStage seat stage) (h : (run n).announces? = none) (hother : other ≠ seat)
    (hnow : (run n).ledger.activations = ⟨other, phase⟩ :: rest) (hthen : (run (n + 1)).ledger.activations = front ++ rest)
    (hfront : ∀ a ∈ front, a.seat = other) : (run (n + 1)).InStage seat stage := by
  refine hstage.keep (ne_refused hstage (by simp [h])) (run.standing_of_unannounced h seat) ?_
  intro given
  rw [hnow, hthen, List.mem_append, List.mem_cons]
  refine or_congr_left (iff_of_false ?_ ?_)
  · exact fun hm => hother (hfront _ hm).symm
  · intro he
    cases he
    exact hother rfl

/-- A quiet step leads a step instance to the next stage, or leaves it where it is. -/
theorem stage_of_quiet (hstage : (run n).InStage seat stage) (h : (run n).announces? = none) (hquiet : (run n).Quiet c (run (n + 1)))
    (hresumable : ∀ slot, (run n).ledger.slots.at? seat = some slot → (c.resume slot.definition).isSome = resumable) :
    ∃ next, (run (n + 1)).InStage seat next ∧ stage.Leads resumable none next := by
  have coherent := run.coherent n
  have standing := run.standing_of_unannounced h seat
  have gone : ∀ {phase : Phase} {rest : List Activation}, (run n).ledger.activations = ⟨seat, some phase⟩ :: rest →
      ∀ given, ⟨seat, given⟩ ∉ rest := by
    intro phase rest hnow given hm
    have hexclusive := coherent.exclusive
    rw [hnow, List.map_cons, List.nodup_cons] at hexclusive
    exact hexclusive.1 (List.mem_map_of_mem (f := (·.seat)) hm)
  cases hquiet with
  | still activations =>
    have hthen : (run (n + 1)).ledger.activations = (run n).ledger.activations := activations
    exact ⟨stage, hstage.keep (ne_refused hstage (by simp [h])) standing fun phase => by rw [hthen], .stay stage⟩
  | @leaves other base control activations =>
    have hnow := run.activations_of_proceed control
    have hthen : (run (n + 1)).ledger.activations = base.activations := activations
    by_cases hs : other = seat
    · subst hs
      cases hstage.fits coherent (hnow ▸ List.mem_cons_self)
      obtain ⟨slot, found, -, started⟩ := run.slot_of_proceed control
      have found' : (run n).ledger.slots.at? other = some slot := found
      rw [found', Option.map_some, Option.map_eq_some_iff] at standing
      obtain ⟨later, hlater, hstanding⟩ := standing
      exact ⟨.left, ⟨⟨later, hlater, (congrArg Prod.fst hstanding).trans started⟩, fun phase => hthen ▸ gone hnow phase⟩, .leave⟩
    · exact ⟨stage, stage_stays [] hstage h hs hnow hthen (by simp), .stay stage⟩
  | @refuses other outcome base slot error control found unresumable settles =>
    have hnow := run.activations_of_proceed control
    by_cases hs : other = seat
    · subst hs
      have hcannot : resumable = false := by
        rw [← hresumable slot found, unresumable]
        rfl
      cases hstage.fits coherent (hnow ▸ List.mem_cons_self) with
      | resuming key outcome => exact ⟨.refused, ⟨error, base, settles⟩, .refuse key outcome hcannot⟩
    · have hthen : (run (n + 1)).ledger.activations = [⟨other, none⟩] ++ base.activations := congrArg Control.activations settles
      exact ⟨stage, stage_stays [⟨other, none⟩] hstage h hs hnow hthen (by simp), .stay stage⟩
  | @ends other outcome base control activations =>
    have hnow := run.activations_of_proceed control
    have hthen : (run (n + 1)).ledger.activations = base.activations := activations
    by_cases hs : other = seat
    · subst hs
      cases hstage.fits coherent (hnow ▸ List.mem_cons_self) with
      | settled outcome =>
        obtain ⟨slot, found, reports⟩ := hstage
        rw [found, Option.map_some, Option.map_eq_some_iff] at standing
        obtain ⟨later, hlater, hstanding⟩ := standing
        exact ⟨.settled outcome,
          ⟨later, hlater, (congrArg Prod.fst hstanding).trans reports.1, (congrArg Prod.snd hstanding).trans reports.2⟩, .stay _⟩
    · exact ⟨stage, stage_stays [] hstage h hs hnow hthen (by simp), .stay stage⟩

/-- Every step leads the step instance at a seat to the next stage, by what is seen of it, or leaves it where it is. -/
theorem exists_stage_succ (hstage : (run n).InStage seat stage)
    (hresumable : ∀ slot, (run n).ledger.slots.at? seat = some slot → (c.resume slot.definition).isSome = resumable) :
    ∃ next, (run (n + 1)).InStage seat next ∧ stage.Leads resumable (run.momentOf (· = seat) n) next := by
  cases hannounces : (run n).announces? with
  | some announced =>
    obtain ⟨other, t⟩ := announced
    by_cases hs : other = seat
    · subst hs
      obtain ⟨topic, next, htopic, hnext, hleads⟩ := stage_of_announces? resumable hstage hannounces
      refine ⟨next, hnext, ?_⟩
      rw [momentOf_of_moment? (moment?_of_announces? hannounces htopic), if_pos rfl]
      exact hleads
    · obtain ⟨sc, phase, below, hnext, -, -, hledger⟩ := run.next_of_announces? hannounces
      obtain ⟨topic, htopic⟩ := hledger.exists_topic
      rw [momentOf_of_moment? (moment?_of_announces? hannounces htopic), if_neg hs]
      refine ⟨stage, hstage.keep (ne_refused hstage (by simp [hannounces, hs])) ?_ ?_, .stay stage⟩
      · rw [run.ledger_of_announce hnext]
        exact congrArg (Option.map Slot.standing) (hledger.at?_other (Ne.symm hs))
      · rw [run.ledger_of_announce hnext]
        exact hledger.mem_other (Ne.symm hs)
  | none =>
    cases hbegins : (run n).begins? c with
    | some code =>
      rw [momentOf_of_moment? (moment?_of_begins? hannounces hbegins)]
      by_cases hs : code.seat = seat
      · subst hs
        rw [if_pos rfl]
        exact ⟨.running, stage_of_begins? hstage hbegins hresumable⟩
      · rw [if_neg hs]
        obtain ⟨rest, hnow, hthen⟩ := run.activations_of_begins? hbegins
        exact ⟨stage, stage_stays [⟨code.seat, none⟩] hstage hannounces hs hnow hthen (by simp), .stay stage⟩
    | none =>
      have hmoment : run.momentOf (· = seat) n = none := by
        rw [momentOf, MachineState.moment?, hannounces]
        simp [hbegins]
      rw [hmoment]
      refine stage_of_quiet hstage hannounces ?_ hresumable
      refine (run.next_of_unannounced hannounces).1.resolve_left ?_
      rintro ⟨code, hcode⟩
      cases hbegins.symm.trans hcode

/-- What is seen of the step instance at a seat up to a state fits to how far it has come. -/
theorem exists_stage (run : Run c ρ) (n : Nat) (seat : Seat)
    (hresumable : ∀ m slot, (run m).ledger.slots.at? seat = some slot → (c.resume slot.definition).isSome = resumable) :
    ∃ stage : Course.Stage, (run n).InStage seat stage ∧ stage.Told resumable (run.story (· = seat) n) := by
  induction n with
  | zero =>
    obtain ⟨config, logsFaults, memory, program, hfirst⟩ := run.first
    refine ⟨.absent, ?_, .absent⟩
    rw [hfirst]
    exact rfl
  | succ n ih =>
    obtain ⟨stage, hstage, told⟩ := ih
    obtain ⟨next, hnext, hleads⟩ := exists_stage_succ hstage (hresumable n)
    exact ⟨next, hnext, run.story_succ _ n ▸ hleads.told told⟩

/-! ## The story of one instance -/

/-- Where something is seen, there is a slot at the seat afterwards. -/
theorem exists_slot_of_moment? {moment : Moment} (h : (run n).moment? c = some (seat, moment)) :
    ∃ slot, (run (n + 1)).ledger.slots.at? seat = some slot := by
  rw [MachineState.moment?] at h
  split at h
  · rename_i other t hannounces
    obtain ⟨topic, -, heq⟩ := Option.map_eq_some_iff.1 h
    cases heq
    obtain ⟨sc, phase, below, hnext, -, -, -⟩ := run.next_of_announces? hannounces
    refine run.exists_slot (a := ⟨seat, some phase⟩) ?_
    rw [run.ledger_of_announce hnext]
    exact List.mem_cons_self
  · obtain ⟨code, hbegins, heq⟩ := Option.map_eq_some_iff.1 h
    cases heq
    obtain ⟨rest, -, hthen⟩ := run.activations_of_begins? hbegins
    exact run.exists_slot (a := ⟨code.seat, none⟩) (hthen ▸ List.mem_cons_self)

/-- Everything that is seen of an instance that is not purged is seen at one seat. -/
theorem Unpurged.story_eq {executor : Nat} {step : StepId} {slot : Slot V.Definition} (unpurged : run.Unpurged executor step)
    (found : (run n).ledger.slots.at? seat = some slot) (hfor : seat.IsFor executor step) :
    run.story (fun seat => seat.IsFor executor step) n = run.story (· = seat) n := by
  refine List.filterMap_congr fun i _ => ?_
  rw [momentOf, momentOf]
  cases h : (run i).moment? c with
  | none => rfl
  | some seen =>
    obtain ⟨slot', found'⟩ := exists_slot_of_moment? h
    have hiff : seen.1.IsFor executor step ↔ seen.1 = seat :=
      ⟨fun hfor' => unpurged.seat_eq found' found hfor' hfor, fun hs => hs ▸ hfor⟩
    simp [hiff]

/-- Nothing is seen of an instance that has no slot. -/
theorem Unpurged.story_eq_nil {executor : Nat} {step : StepId} (unpurged : run.Unpurged executor step)
    (absent : (run n).scene.world.slots.current? executor step = none) :
    run.story (fun seat => seat.IsFor executor step) n = [] := by
  refine List.filterMap_eq_nil_iff.2 fun i hi => ?_
  rw [momentOf]
  cases h : (run i).moment? c with
  | none => rfl
  | some seen =>
    obtain ⟨slot, found⟩ := exists_slot_of_moment? h
    obtain ⟨later, hlater, -⟩ := run.slot_stays found (List.mem_range.1 hi)
    have hnot : ¬ seen.1.IsFor executor step := fun hfor => absurd (absent.symm.trans (unpurged.current? hlater hfor)) nofun
    simp [hnot]

/-- Nothing is published with the step from a state, and no lifecycle changes. -/
def Unmoved (run : Run c ρ) (n : Nat) : Prop :=
  (run (n + 1)).published = (run n).published ∧
    ∀ seat, (run (n + 1)).scene.world.slots.lifecycleAt seat = (run n).scene.world.slots.lifecycleAt seat

/-- A step that announces nothing and publishes nothing for a program leaves everything unmoved. -/
theorem unmoved_of_unannounced (h : (run n).announces? = none) (hpublishes : (run n).publishes = false) : run.Unmoved n := by
  refine ⟨?_, run.lifecycleAt_of_unannounced h⟩
  rw [(run.next_of_unannounced h).2, hpublishes]
  rfl

/-- A request that is no publication is made by a program that publishes nothing with the step. -/
theorem publishes_of_request? {op : Op V} (h : (run n).request? = some op) (hne : ∀ topic payload, op ≠ .publish topic payload) :
    (run n).publishes = false := by
  obtain ⟨k, next, below, hcontrol⟩ := MachineState.control_of_request? h
  rw [MachineState.publishes, hcontrol]
  cases op with
  | publish topic payload => exact absurd rfl (hne topic payload)
  | _ => rfl

/-- What holds of the notifications about a step instance at an executor, and of its lifecycle. -/
structure Mirrored (run : Run c ρ) (executor : Nat) (step : StepId) : Prop where
  /-- Nothing is seen of an instance before it has a slot. -/
  unseen : ∀ n, (run n).scene.world.slots.current? executor step = none → run.story (fun seat => seat.IsFor executor step) n = []
  /-- What is published about the instance, and when its code begins, is the beginning of a course. -/
  course : ∀ n slot, (run n).scene.world.slots.current? executor step = some slot →
    ∃ course, Course (c.resume slot.definition).isSome course ∧ run.story (fun seat => seat.IsFor executor step) n <+: course
  /-- A lifecycle changes exactly when a transition is announced, -/
  changes : ∀ n seat, (run (n + 1)).scene.world.slots.lifecycleAt seat ≠ (run n).scene.world.slots.lifecycleAt seat ↔
    ∃ t, (run n).announces? = some (seat, t)
  /-- and that is the transition by which the lifecycle accepts its event. -/
  accepted : ∀ n seat t, (run n).announces? = some (seat, t) →
    ((run n).scene.world.slots.lifecycleAt seat).advance t.event = .ok (t, (run (n + 1)).scene.world.slots.lifecycleAt seat)
  /-- A run that settles has the event of its outcome announced. -/
  settled : ∀ n seat result base, (run n).control = .settle seat result base →
    (run n).announces? = some (seat, (outcomeOf (run n).scene.world seat result).settlement)
  /-- A transition that is announced is published on its topic, and what is published tells its states and its event. -/
  published : ∀ n seat t, (run n).announces? = some (seat, t) →
    ∃ topic payload sc phase below, t.topic? = some topic ∧ Tells payload seat.step t (run n).scene.world.clock ∧
      sc.world.bus = (run n).scene.world.bus ∧ run (n + 1) = publish c sc topic payload (.announcing seat phase below)
  /-- Each announcement is one publication; other publications are made by programs only. -/
  counted : ∀ n, (run (n + 1)).published = (run n).published + if (run n).announces?.isSome || (run n).publishes then 1 else 0
  /-- An execution that is refused publishes nothing. -/
  refused : ∀ n definition background slot, (run n).request? = some (.execute executor definition step background) →
    (run n).scene.world.slots.current? executor step = some slot → run.Unmoved n
  /-- A resumption publishes nothing that finds no idle instance suspended on its key, be it applied by hand -/
  declined : ∀ n r, (run n).request? = some (.apply executor r) →
    (∀ slot, (run n).scene.world.slots.current? executor r.step = some slot → slot.running = false → ¬ slot.Awaits r.key) →
      run.Unmoved n
  /-- or sent for the resolution of a key. -/
  dismissed : ∀ n key outcome, (run n).request? = some (.resolve key outcome) →
    (∀ owner slot, (run n).scene.world.keys.IsPending key owner →
      (∃ id, (run n).scene.world.attachment = .executor id ∧ (run n).scene.world.slots.current? id owner = some slot) →
        slot.running = false → ¬ slot.Awaits key) → run.Unmoved n

/-- A resumption that finds no idle instance suspended on its key wakes nobody. -/
theorem wakes?_eq_none {w : World V} {executor : Nat} {r : Resumption}
    (h : ∀ slot, w.slots.current? executor r.step = some slot → slot.running = false → ¬ slot.Awaits r.key) :
    w.wakes? executor r = none := by
  cases hwakes : w.wakes? executor r with
  | none => rfl
  | some woken =>
    obtain ⟨slot, current, idle, awaits, -⟩ := World.wakes?_eq_some hwakes
    exact absurd awaits (h slot current idle)

/-- Lifecycle notifications mirror the run: in every run, what is published about an instance whose workflow is not purged from its
executor, and when its code begins, follows the course of its lifecycle. -/
theorem notifications_mirror_run (run : Run c ρ) {executor : Nat} {step : StepId} (unpurged : run.Unpurged executor step) :
    run.Mirrored executor step where
  unseen := fun n absent => unpurged.story_eq_nil absent
  course := by
    intro n slot current
    obtain ⟨-, -, hfor⟩ := Slots.mem_of_current? current
    have found := (run.coherent n).seated.at?_of_current? current
    rw [unpurged.story_eq found hfor]
    -- the slot at the seat has one definition at all times
    have hresumable : ∀ m other, (run m).ledger.slots.at? slot.seat = some other →
        (c.resume other.definition).isSome = (c.resume slot.definition).isSome := by
      intro m other hother
      obtain ⟨later, hlater, hdefinition⟩ := run.slot_stays found (Nat.le_max_left n m)
      obtain ⟨later', hlater', hdefinition'⟩ := run.slot_stays hother (Nat.le_max_right n m)
      cases hlater.symm.trans hlater'
      rw [← hdefinition, ← hdefinition']
    obtain ⟨stage, -, told⟩ := run.exists_stage n slot.seat hresumable
    exact told.prefix_course
  changes := by
    intro n seat
    constructor
    · intro hne
      cases hannounces : (run n).announces? with
      | none => exact absurd (run.lifecycleAt_of_unannounced hannounces seat) hne
      | some announced =>
        obtain ⟨other, t⟩ := announced
        by_cases hs : seat = other
        · exact ⟨t, by rw [hs]⟩
        · exact absurd ((run.lifecycleAt_of_announces? hannounces).2 seat hs) hne
    · rintro ⟨t, hannounces⟩ hsame
      have hadvance := (run.lifecycleAt_of_announces? hannounces).1
      rw [hsame] at hadvance
      exact Lifecycle.advance_ne hadvance rfl
  accepted := fun n seat t hannounces => (run.lifecycleAt_of_announces? hannounces).1
  settled := by
    intro n seat result base hcontrol
    obtain ⟨slot, found, -, started⟩ := run.slot_of_settle hcontrol
    have heq : run n = ⟨(run n).scene, .settle seat result base⟩ := by rw [← hcontrol]
    rw [heq]
    exact announces?_settle result found started
  published := by
    intro n seat t hannounces
    obtain ⟨sc, phase, below, hnext, hbus, hclock, hledger⟩ := run.next_of_announces? hannounces
    obtain ⟨topic, htopic⟩ := hledger.exists_topic
    exact ⟨topic, _, sc, phase, below, htopic, tells_announcement _ _ _, hbus, by rw [hnext, announce_eq htopic, hclock]⟩
  counted := by
    intro n
    cases hannounces : (run n).announces? with
    | none => simpa using (run.next_of_unannounced hannounces).2
    | some announced =>
      obtain ⟨seat, t⟩ := announced
      obtain ⟨sc, phase, below, hnext, hbus, -, hledger⟩ := run.next_of_announces? hannounces
      obtain ⟨topic, htopic⟩ := hledger.exists_topic
      rw [hnext, announce_eq htopic, published_publish, hbus]
      rfl
  refused := by
    intro n definition background slot hrequest current
    refine unmoved_of_unannounced ?_ (publishes_of_request? hrequest (by simp))
    obtain ⟨k, next, below, hcontrol⟩ := MachineState.control_of_request? hrequest
    simp only [MachineState.announces?, hcontrol, current]
  declined := by
    intro n r hrequest other
    refine unmoved_of_unannounced ?_ (publishes_of_request? hrequest (by simp))
    obtain ⟨k, next, below, hcontrol⟩ := MachineState.control_of_request? hrequest
    simp only [MachineState.announces?, hcontrol]
    exact wakes?_eq_none other
  dismissed := by
    intro n key outcome hrequest other
    refine unmoved_of_unannounced ?_ (publishes_of_request? hrequest (by simp))
    obtain ⟨k, next, below, hcontrol⟩ := MachineState.control_of_request? hrequest
    simp only [MachineState.announces?, hcontrol]
    split
    · rename_i r keys id hresolve hattached
      split
      · obtain ⟨hkey, -, pending, -⟩ := KeyRegistry.resolve_eq_ok hresolve
        exact wakes?_eq_none fun slot current idle => hkey ▸ other r.step slot pending ⟨id, hattached, current⟩ idle
      · rfl
    · rfl

end Run

namespace Sample

/-- One step definition and one handler. -/
def hearing : Vocabulary := ⟨Unit, Unit, Unit, Empty⟩

/-- The step that awaits one key and is complete when it is resumed, and the handler that expires the key of any suspension it hears
of. -/
def hasty : Client hearing where
  handlerName _ := "hasty"
  handle _ heard :=
    match (heard.payload.field? "event").bind StepEvent.ofJson? with
    | some (.suspend key) => .call (.resolve key .expired) fun _ => .done (.ok ())
    | _ => .done (.ok ())
  stepName _ := "sample"
  defaultData _ := .ok Dict.empty
  primary _ _ := .call (.plain (.key (.submit lone left))) fun _ => .done (.ok (.suspended left))
  resume _ := some fun _ _ => .done (.ok .complete)
  receive := nofun

/-- The run that executes this step while the handler listens to suspensions. -/
def overheard : Run hasty StepOutcome :=
  .ofProgram hasty .default false ()
    (.call (.plain (.bus (.subscribe "step.suspended" ()))) fun _ =>
      .call (.plain .openExecutor) fun _ => .call (.execute 0 () lone false) .done)

/-- A handler that reads the key off what is published about the suspension, and resolves it meanwhile, does not disturb the course of the
instance. -/
theorem overheard_mirrored :
    overheard.Unpurged 0 lone ∧ overheard.Mirrored 0 lone ∧
      overheard.story (fun seat => seat.IsFor 0 lone) 20 =
        [.started, .entered, .suspended left, .woken left, .resumed .expired, .settled .complete] := by
  have unpurged : overheard.Unpurged 0 lone := by
    intro n h
    rcases Nat.lt_or_ge n 20 with hlt | hge
    · interval_cases n <;> cases h
    · have hover : (overheard 20).control = .finished (.ok .complete) := rfl
      have hstays : overheard n = overheard 20 := Run.ofProgram_eq_of_finished hover hge
      rw [hstays] at h
      cases h
  exact ⟨unpurged, overheard.notifications_mirror_run unpurged, rfl⟩

end Sample

end StepEngine
