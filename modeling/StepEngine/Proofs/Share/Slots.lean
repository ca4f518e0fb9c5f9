import StepEngine.Proofs.Slots

/-!
# Slots: the slots of some workflows

The executors keep the slots of all workflows in one list. The slots of some of the workflows are a part of it, in its order
(`Slots.shown`). For a step instance of one of them the list gives the same as this part does, and it is only by a change for one of them
that the part changes. Every slot keeps the definition that it was opened with (`Slots.Hosts`).
-/

namespace StepEngine

/-- A change of anything else about a slot. -/
theorem Slot.keeps_rest {D : Type} {lifecycle : Slot D → Lifecycle} {running : Slot D → Bool} {deferred : Slot D → List Resumption}
    {lastOutcome : Slot D → Option StepOutcome} :
    Slot.Keeps fun slot : Slot D =>
      { slot with lifecycle := lifecycle slot, running := running slot, deferred := deferred slot, lastOutcome := lastOutcome slot } :=
  ⟨fun _ => rfl, fun _ => rfl, fun _ => rfl⟩

namespace Slots

variable {D : Type} {slots slots' : Slots D} {owns : WorkflowId → Bool} {seat : Seat} {executor : Nat} {step : StepId}
  {workflow : WorkflowId} {f : Slot D → Slot D}

/-- The slots of step instances that some workflows own. -/
def shown (slots : Slots D) (owns : WorkflowId → Bool) : Slots D := slots.filter fun slot => owns slot.seat.step.workflow

/-! ## Look-ups -/

/-- A search for slots of these workflows finds the same among theirs. -/
theorem find?_shown {p : Slot D → Bool} (own : ∀ slot, p slot = true → owns slot.seat.step.workflow = true) :
    (slots.shown owns).find? p = slots.find? p := by
  rw [shown, List.find?_filter]
  congr 1
  funext slot
  cases hp : p slot with
  | false => simp
  | true => simp [own slot hp]

/-- A selection of slots of these workflows selects the same among theirs. -/
theorem filter_shown {p : Slot D → Bool} (own : ∀ slot, p slot = true → owns slot.seat.step.workflow = true) :
    (slots.shown owns).filter p = slots.filter p := by
  rw [shown, List.filter_filter]
  congr 1
  funext slot
  cases hp : p slot with
  | false => rw [Bool.false_and]
  | true => rw [own slot hp, Bool.true_and]

variable (h : slots.shown owns = slots'.shown owns)

include h

/-- The slot with a seat is the same where the same slots are shown. -/
theorem at?_eq (own : owns seat.step.workflow = true) : slots.at? seat = slots'.at? seat := by
  have hseat : ∀ slot : Slot D, decide (slot.seat = seat) = true → owns slot.seat.step.workflow = true := by
    intro slot hslot
    rw [of_decide_eq_true hslot, own]
  rw [at?, at?, ← find?_shown hseat, h, find?_shown hseat]

/-- An executor lists the same slot for a step instance where the same slots are shown. -/
theorem current?_eq (own : owns step.workflow = true) : slots.current? executor step = slots'.current? executor step := by
  have hstep : ∀ slot : Slot D, slot.isAt executor step = true → owns slot.seat.step.workflow = true := by
    intro slot hslot
    simp only [Slot.isAt, Bool.and_eq_true, beq_iff_eq] at hslot
    rw [hslot.2, own]
  rw [current?, current?, ← find?_shown hstep, h, find?_shown hstep]

/-- The next seat for a step instance is the same where the same slots are shown. -/
theorem nextSeat_eq (own : owns step.workflow = true) : slots.nextSeat executor step = slots'.nextSeat executor step := by
  have hstep : ∀ slot : Slot D, (slot.seat.executor == executor && slot.seat.step == step) = true →
      owns slot.seat.step.workflow = true := by
    intro slot hslot
    simp only [Bool.and_eq_true, beq_iff_eq] at hslot
    rw [hslot.2, own]
  rw [nextSeat, nextSeat, ← filter_shown hstep, h, filter_shown hstep]

/-- An executor lists the same slots for a workflow where the same slots are shown. -/
theorem listedFor_eq (own : owns workflow = true) : slots.listedFor executor workflow = slots'.listedFor executor workflow := by
  have hworkflow : ∀ slot : Slot D, (slot.listed && slot.seat.executor == executor && slot.seat.step.workflow == workflow) = true →
      owns slot.seat.step.workflow = true := by
    intro slot hslot
    simp only [Bool.and_eq_true, beq_iff_eq] at hslot
    rw [hslot.2, own]
  rw [listedFor, listedFor, ← filter_shown hworkflow, h, filter_shown hworkflow]

omit h

/-! ## Changes -/

/-- A change of every slot that leaves the seats alone, as far as it is shown. -/
theorem shown_map {g : Slot D → Slot D} (seats : ∀ slot, (g slot).seat = slot.seat) :
    shown (slots.map g) owns = (slots.shown owns).map g := by
  rw [shown, List.filter_map, shown]
  congr 2
  funext slot
  rw [Function.comp_apply, seats]

/-- A change of every slot that leaves the seats and the shown slots alone. -/
theorem shown_map_other {g : Slot D → Slot D} (seats : ∀ slot, (g slot).seat = slot.seat)
    (same : ∀ slot, owns slot.seat.step.workflow = true → g slot = slot) : shown (slots.map g) owns = slots.shown owns := by
  rw [shown_map seats]
  refine (List.map_congr_left fun slot hslot => ?_).trans (List.map_id _)
  exact same slot (List.mem_filter.1 hslot).2

/-- A change of a slot, as far as it is shown. -/
theorem shown_modify (hf : Slot.Keeps f) : (slots.modify seat f).shown owns = (slots.shown owns).modify seat f := by
  refine shown_map fun slot => ?_
  split
  · exact hf.seat slot
  · rfl

/-- A change of a slot that is not shown. -/
theorem shown_modify_other (hf : Slot.Keeps f) (other : owns seat.step.workflow = false) :
    (slots.modify seat f).shown owns = slots.shown owns := by
  refine shown_map_other (fun slot => ?_) fun slot own => if_neg ?_
  · split
    · exact hf.seat slot
    · rfl
  · rintro rfl
    exact Bool.false_ne_true (other.symm.trans own)

/-- A slot that is opened for one of these workflows is shown behind the others. -/
theorem shown_start (definition : D) (own : owns step.workflow = true) :
    (slots.start executor definition step).shown owns = slots.shown owns ++ [slots.fresh executor definition step] := by
  rw [start_eq, shown, List.filter_append]
  exact congrArg _ (List.filter_eq_self.2 (by simpa [fresh, nextSeat] using own))

/-- A slot that is opened for another workflow is not shown. -/
theorem shown_start_other (definition : D) (other : owns step.workflow = false) :
    (slots.start executor definition step).shown owns = slots.shown owns := by
  rw [start_eq, shown, List.filter_append]
  refine (congrArg _ (List.filter_eq_nil_iff.2 ?_)).trans (List.append_nil _)
  simpa [fresh, nextSeat] using other

/-- Slots that are taken out of the list of an executor, as far as they are shown. -/
theorem shown_purge : (slots.purge executor workflow).shown owns = (slots.shown owns).purge executor workflow :=
  shown_map (unlist_seat executor workflow)

/-- Slots of another workflow that are taken out of the list of an executor. -/
theorem shown_purge_other (other : owns workflow = false) : (slots.purge executor workflow).shown owns = slots.shown owns := by
  refine shown_map_other (unlist_seat executor workflow) fun slot own => if_neg ?_
  simp only [Bool.and_eq_true, beq_iff_eq, not_and]
  rintro - rfl
  exact Bool.false_ne_true (other.symm.trans own)

/-! ## What runs in them -/

/-- The definition of every slot may run for its step instance. -/
def Hosts (allows : StepId → D → Prop) (slots : Slots D) : Prop := ∀ slot ∈ slots, allows slot.seat.step slot.definition

variable {allows : StepId → D → Prop}

theorem Hosts.modify (h : slots.Hosts allows) (hf : Slot.Keeps f) : (slots.modify seat f).Hosts allows := by
  intro new hnew
  obtain ⟨slot, hslot, rfl⟩ := mem_modify hnew
  split
  · rw [hf.seat, hf.definition]
    exact h slot hslot
  · exact h slot hslot

theorem Hosts.start {definition : D} (h : slots.Hosts allows) (allowed : allows step definition) :
    (slots.start executor definition step).Hosts allows := by
  intro new hnew
  rcases mem_start hnew with hslot | rfl
  · exact h new hslot
  · exact allowed

theorem Hosts.purge (h : slots.Hosts allows) : (slots.purge executor workflow).Hosts allows :=
  forall_purge (P := fun slot => allows slot.seat.step slot.definition) (fun _ _ _ hslot => hslot) workflow h

end Slots

end StepEngine
