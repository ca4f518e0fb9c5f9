import StepEngine.Engine.Slot

/-!
# Slots: what a seat names

A seat names one slot at most, and an executor lists one slot at most for a step instance. `Slots.WellSeated` says so, and opening,
changing and unlisting slots keep it. What the look-ups by seat and by step instance give after each of these is stated here, so that
nothing later has to look into the list.
-/

namespace StepEngine

/-- A change of a slot that leaves its name, its place in the executor's list and its definition alone. -/
structure Slot.Keeps {D : Type} (f : Slot D → Slot D) : Prop where
  seat : ∀ slot, (f slot).seat = slot.seat
  listed : ∀ slot, (f slot).listed = slot.listed
  definition : ∀ slot, (f slot).definition = slot.definition

namespace Slots

variable {D : Type} {slots : Slots D} {seat : Seat} {slot : Slot D} {executor : Nat} {step : StepId} {f : Slot D → Slot D}

/-- Seats are different, they are counted for every step instance of an executor, and a listed slot is the one that its executor
finds. -/
structure WellSeated (slots : Slots D) : Prop where
  distinct : (slots.map (·.seat)).Nodup
  counted : ∀ slot ∈ slots, slot.seat.round < (slots.nextSeat slot.seat.executor slot.seat.step).round
  single : ∀ slot ∈ slots, slot.listed = true → slots.current? slot.seat.executor slot.seat.step = some slot

/-! ## Look-ups -/

/-- A slot that is found by its seat is a slot of the list. -/
theorem mem_of_at? (h : slots.at? seat = some slot) : slot ∈ slots ∧ slot.seat = seat := by
  rw [at?] at h
  exact ⟨List.mem_of_find?_eq_some h, by simpa using List.find?_some h⟩

/-- Where seats differ, every slot is found by its seat. -/
theorem at?_of_mem (h : (slots.map (·.seat)).Nodup) (hm : slot ∈ slots) : slots.at? slot.seat = some slot := by
  induction slots with
  | nil => cases hm
  | cons first rest ih =>
    obtain ⟨hfirst, hrest⟩ := List.nodup_cons.1 h
    rcases List.mem_cons.1 hm with rfl | hm
    · simp [at?]
    · have hne : first.seat ≠ slot.seat := by
        intro he
        exact hfirst (List.mem_map.2 ⟨slot, hm, he.symm⟩)
      have hfound := ih hrest hm
      rw [at?] at hfound ⊢
      simpa [hne] using hfound

/-- A slot that an executor finds for a step instance is a listed slot of that executor and that step instance. -/
theorem mem_of_current? (h : slots.current? executor step = some slot) :
    slot ∈ slots ∧ slot.listed = true ∧ slot.seat.executor = executor ∧ slot.seat.step = step := by
  have hat := List.find?_some h
  simp only [Slot.isAt, Bool.and_eq_true, beq_iff_eq] at hat
  exact ⟨List.mem_of_find?_eq_some h, hat.1.1, hat.1.2, hat.2⟩

/-- In well-seated slots, the slot that an executor finds is found by its seat too. -/
theorem WellSeated.at?_of_current? (w : slots.WellSeated) (h : slots.current? executor step = some slot) :
    slots.at? slot.seat = some slot :=
  at?_of_mem w.distinct (mem_of_current? h).1

/-- A slot that is found by its seat and listed is the one that its executor finds. -/
theorem WellSeated.current?_of_at? (w : slots.WellSeated) (h : slots.at? seat = some slot) (hl : slot.listed = true) :
    slots.current? seat.executor seat.step = some slot := by
  obtain ⟨hm, rfl⟩ := mem_of_at? h
  exact w.single slot hm hl

/-- The next seat is not taken. -/
theorem WellSeated.at?_nextSeat (w : slots.WellSeated) : slots.at? (slots.nextSeat executor step) = none := by
  cases h : slots.at? (slots.nextSeat executor step) with
  | none => rfl
  | some slot =>
    obtain ⟨hm, hs⟩ := mem_of_at? h
    have hlt := w.counted slot hm
    rw [hs] at hlt
    exact absurd hlt (Nat.lt_irrefl _)

/-! ## Changing a slot -/

/-- A slot of a changed list is a slot of the list, changed if it is the one with the seat. -/
theorem mem_modify {new : Slot D} (h : new ∈ slots.modify seat f) :
    ∃ slot ∈ slots, new = if slot.seat = seat then f slot else slot := by
  obtain ⟨slot, hm, rfl⟩ := List.mem_map.1 h
  exact ⟨slot, hm, rfl⟩

/-- The seats stay. -/
theorem map_seat_modify (hf : Slot.Keeps f) : (slots.modify seat f).map (·.seat) = slots.map (·.seat) := by
  rw [modify, List.map_map]
  refine List.map_congr_left fun slot _ => ?_
  simp only [Function.comp_apply]
  split
  · exact hf.seat slot
  · rfl

/-- The look-up by seat after a change. -/
theorem at?_modify (hf : Slot.Keeps f) (other : Seat) :
    (slots.modify seat f).at? other = (slots.at? other).map fun slot => if slot.seat = seat then f slot else slot := by
  rw [at?, modify, List.find?_map]
  congr 2
  funext slot
  simp only [Function.comp_apply]
  split
  · rw [hf.seat slot]
  · rfl

/-- The changed slot is found by its seat. -/
theorem at?_modify_self (hf : Slot.Keeps f) (h : slots.at? seat = some slot) :
    (slots.modify seat f).at? seat = some (f slot) := by
  rw [at?_modify hf, h, Option.map_some, if_pos (mem_of_at? h).2]

/-- The other slots are found as before. -/
theorem at?_modify_other (hf : Slot.Keeps f) {other : Seat} (hne : other ≠ seat) :
    (slots.modify seat f).at? other = slots.at? other := by
  rw [at?_modify hf]
  cases h : slots.at? other with
  | none => rfl
  | some slot => rw [Option.map_some, if_neg ((mem_of_at? h).2 ▸ hne)]

/-- The look-up by step instance after a change. -/
theorem current?_modify (hf : Slot.Keeps f) :
    (slots.modify seat f).current? executor step =
      (slots.current? executor step).map fun slot => if slot.seat = seat then f slot else slot := by
  rw [current?, modify, List.find?_map]
  congr 2
  funext slot
  simp only [Function.comp_apply, Slot.isAt]
  split
  · rw [hf.seat slot, hf.listed slot]
  · rfl

/-- The count of the slots of a step instance after a change. -/
theorem nextSeat_modify (hf : Slot.Keeps f) : (slots.modify seat f).nextSeat executor step = slots.nextSeat executor step := by
  rw [nextSeat, nextSeat, modify, List.filter_map, List.length_map]
  congr 3
  funext slot
  simp only [Function.comp_apply]
  split
  · rw [hf.seat slot]
  · rfl

/-- A change of a slot keeps the slots well-seated. -/
theorem WellSeated.modify (w : slots.WellSeated) (hf : Slot.Keeps f) : (slots.modify seat f).WellSeated where
  distinct := by
    rw [map_seat_modify hf]
    exact w.distinct
  counted := by
    intro new hm
    obtain ⟨slot, hslot, rfl⟩ := mem_modify hm
    rw [nextSeat_modify hf]
    split
    · rw [hf.seat slot]
      exact w.counted slot hslot
    · exact w.counted slot hslot
  single := by
    intro new hm hl
    obtain ⟨slot, hslot, rfl⟩ := mem_modify hm
    rw [current?_modify hf]
    split at hl <;> rename_i hs
    · rw [hf.listed slot] at hl
      rw [if_pos hs, hf.seat slot, w.single slot hslot hl, Option.map_some, if_pos hs]
    · rw [if_neg hs, w.single slot hslot hl, Option.map_some, if_neg hs]

/-- What holds of the other slots, and of the slot at a seat after its change, holds of every slot of the changed list. -/
theorem WellSeated.forall_modify_other (w : slots.WellSeated) {P : Slot D → Prop} (found : slots.at? seat = some slot)
    (hf : P (f slot)) (h : ∀ other ∈ slots, other.seat ≠ seat → P other) : ∀ other ∈ slots.modify seat f, P other := by
  intro new hm
  obtain ⟨old, hold, rfl⟩ := mem_modify hm
  split
  · rename_i hs
    have hat := at?_of_mem w.distinct hold
    rw [hs, found] at hat
    exact Option.some.inj hat ▸ hf
  · rename_i hs
    exact h old hold hs

/-- What holds of every slot, and of the slot at a seat after its change, holds of every slot of the changed list. -/
theorem WellSeated.forall_modify (w : slots.WellSeated) {P : Slot D → Prop} (found : slots.at? seat = some slot)
    (hf : P (f slot)) (h : ∀ other ∈ slots, P other) : ∀ other ∈ slots.modify seat f, P other :=
  w.forall_modify_other found hf fun other hm _ => h other hm

/-! ## Opening a slot -/

/-- The slot that is opened for a step instance. -/
def fresh (slots : Slots D) (executor : Nat) (definition : D) (step : StepId) : Slot D :=
  ⟨slots.nextSeat executor step, definition, Slot.startedLifecycle, true, [], none, true⟩

/-- Opening a slot puts the fresh slot behind the others. -/
theorem start_eq (definition : D) : slots.start executor definition step = slots ++ [slots.fresh executor definition step] := rfl

/-- A slot after an opening is the fresh one or was there before. -/
theorem mem_start {definition : D} {new : Slot D} (h : new ∈ slots.start executor definition step) :
    new ∈ slots ∨ new = slots.fresh executor definition step := by
  rw [start_eq, List.mem_append, List.mem_singleton] at h
  exact h

/-- The slots that were there are found as before. -/
theorem at?_start (definition : D) (h : slots.at? seat = some slot) :
    (slots.start executor definition step).at? seat = some slot := by
  rw [start_eq, at?, List.find?_append]
  rw [at?] at h
  rw [h]
  rfl

/-- Opening a slot does not matter at the other seats. -/
theorem at?_start_other (definition : D) (hne : seat ≠ slots.nextSeat executor step) :
    (slots.start executor definition step).at? seat = slots.at? seat := by
  rw [start_eq, at?, List.find?_append]
  cases h : slots.at? seat with
  | some slot =>
    rw [at?] at h
    rw [h]
    rfl
  | none =>
    rw [at?] at h
    simp [h, fresh, hne.symm]

/-- The fresh slot is found by its seat. -/
theorem WellSeated.at?_start_self (w : slots.WellSeated) (definition : D) :
    (slots.start executor definition step).at? (slots.nextSeat executor step) =
      some (slots.fresh executor definition step) := by
  have h : slots.find? (fun slot => slot.seat = slots.nextSeat executor step) = none := w.at?_nextSeat
  rw [start_eq, at?, List.find?_append, h]
  simp [fresh]

/-- The count of the slots of a step instance after an opening. -/
theorem nextSeat_round_start (definition : D) (e : Nat) (s : StepId) :
    ((slots.start executor definition step).nextSeat e s).round =
      (slots.nextSeat e s).round + if executor = e ∧ step = s then 1 else 0 := by
  rw [start_eq]
  simp only [nextSeat, List.filter_append, List.length_append, fresh]
  congr 1
  by_cases h : executor = e ∧ step = s
  · simp [h.1, h.2]
  · rw [if_neg h]
    simp only [List.length_eq_zero_iff, List.filter_eq_nil_iff, List.mem_singleton, Bool.and_eq_true, beq_iff_eq]
    rintro _ rfl
    exact h

/-- Opening a slot for a step instance that its executor lists none for keeps the slots well-seated. -/
theorem WellSeated.start (w : slots.WellSeated) (definition : D) (free : slots.current? executor step = none) :
    (slots.start executor definition step).WellSeated where
  distinct := by
    rw [start_eq, List.map_append, List.map_singleton]
    refine List.nodup_append.2 ⟨w.distinct, List.pairwise_singleton _ _, ?_⟩
    intro a ha b hb hab
    obtain ⟨slot, hm, rfl⟩ := List.mem_map.1 ha
    rw [List.mem_singleton] at hb
    have hat := at?_of_mem w.distinct hm
    rw [hab, hb] at hat
    exact absurd (w.at?_nextSeat.symm.trans hat) nofun
  counted := by
    intro new hm
    rw [nextSeat_round_start]
    rcases mem_start hm with hm | rfl
    · exact Nat.lt_of_lt_of_le (w.counted new hm) (Nat.le_add_right _ _)
    · simp [fresh, nextSeat]
  single := by
    intro new hm hl
    rw [start_eq, current?, List.find?_append]
    rcases mem_start hm with hm | rfl
    · have h := w.single new hm hl
      rw [current?] at h
      rw [h]
      rfl
    · rw [current?] at free
      change (slots.find? fun slot => slot.isAt executor step).or _ = _
      rw [free]
      simp [fresh, nextSeat, Slot.isAt]

/-! ## Unlisting slots -/

/-- A slot taken out of its executor's list if it belongs to a workflow of that executor. -/
def unlist (executor : Nat) (workflow : WorkflowId) (slot : Slot D) : Slot D :=
  if slot.seat.executor == executor && slot.seat.step.workflow == workflow then { slot with listed := false } else slot

/-- Unlisting changes nothing else. -/
theorem unlist_eq (executor : Nat) (workflow : WorkflowId) (slot : Slot D) :
    ∃ listed, unlist executor workflow slot = { slot with listed := listed } ∧ (listed = true → slot.listed = true) := by
  rw [unlist]
  split
  · exact ⟨false, rfl, nofun⟩
  · exact ⟨slot.listed, rfl, id⟩

/-- The seat stays. -/
@[simp] theorem unlist_seat (executor : Nat) (workflow : WorkflowId) (slot : Slot D) :
    (unlist executor workflow slot).seat = slot.seat := by
  obtain ⟨listed, h, -⟩ := unlist_eq executor workflow slot
  rw [h]

/-- A purge unlists the slots of a workflow. -/
theorem purge_eq (workflow : WorkflowId) : slots.purge executor workflow = slots.map (unlist executor workflow) := rfl

/-- What holds of every slot, and of a slot that is taken out of its executor's list, holds of every slot after a purge. -/
theorem forall_purge {P : Slot D → Prop}
    (hp : ∀ slot listed, (listed = true → slot.listed = true) → P slot → P { slot with listed := listed }) (workflow : WorkflowId)
    (h : ∀ slot ∈ slots, P slot) : ∀ slot ∈ slots.purge executor workflow, P slot := by
  intro new hm
  rw [purge_eq] at hm
  obtain ⟨slot, hslot, rfl⟩ := List.mem_map.1 hm
  obtain ⟨listed, heq, himp⟩ := unlist_eq executor workflow slot
  rw [heq]
  exact hp slot listed himp (h slot hslot)

/-- The look-up by seat after a purge. -/
theorem at?_purge (workflow : WorkflowId) :
    (slots.purge executor workflow).at? seat = (slots.at? seat).map (unlist executor workflow) := by
  rw [at?, purge_eq, List.find?_map]
  congr 2
  funext slot
  simp

/-- A listed slot after a purge was found by its executor before, and still is. -/
theorem current?_purge {workflow : WorkflowId} (h : slots.current? executor step = some slot)
    {other : Nat} (hk : (unlist other workflow slot).listed = true) :
    (slots.purge other workflow).current? executor step = some (unlist other workflow slot) := by
  obtain ⟨-, -, he, hs⟩ := mem_of_current? h
  have hunlisted : ¬ (executor == other && step.workflow == workflow) = true := by
    intro hp
    rw [unlist, he, hs, if_pos hp] at hk
    exact absurd hk nofun
  rw [current?] at h
  rw [current?, purge_eq, List.find?_map]
  have hcongr : ((fun slot : Slot D => slot.isAt executor step) ∘ unlist other workflow) = fun slot => slot.isAt executor step := by
    funext slot
    simp only [Function.comp_apply, Slot.isAt, unlist]
    split
    · rename_i hp
      by_cases hes : slot.seat.executor = executor ∧ slot.seat.step = step
      · rw [hes.1, hes.2] at hp
        exact absurd hp hunlisted
      · simp only [Bool.and_assoc, Bool.false_and]
        rw [eq_comm, Bool.and_eq_false_imp]
        intro _
        rw [Bool.and_eq_false_imp]
        intro h1
        rw [beq_eq_false_iff_ne]
        exact fun h2 => hes ⟨beq_iff_eq.1 h1, h2⟩
    · rfl
  rw [hcongr, h, Option.map_some]

/-- The count of the slots of a step instance after a purge. -/
theorem nextSeat_purge (workflow : WorkflowId) {other : Nat} :
    (slots.purge other workflow).nextSeat executor step = slots.nextSeat executor step := by
  rw [nextSeat, nextSeat, purge_eq, List.filter_map, List.length_map]
  congr 3
  funext slot
  simp

/-- Unlisting slots keeps the slots well-seated. -/
theorem WellSeated.purge (w : slots.WellSeated) (workflow : WorkflowId) : (slots.purge executor workflow).WellSeated where
  distinct := by
    rw [purge_eq, List.map_map]
    have h : ((fun slot : Slot D => slot.seat) ∘ unlist executor workflow) = (·.seat) := by
      funext slot
      simp
    rw [h]
    exact w.distinct
  counted := by
    intro new hm
    rw [purge_eq] at hm
    obtain ⟨slot, hslot, rfl⟩ := List.mem_map.1 hm
    rw [nextSeat_purge, unlist_seat]
    exact w.counted slot hslot
  single := by
    intro new hm hl
    rw [purge_eq] at hm
    obtain ⟨slot, hslot, rfl⟩ := List.mem_map.1 hm
    obtain ⟨listed, hu, himp⟩ := unlist_eq executor workflow slot
    rw [unlist_seat]
    refine current?_purge (w.single slot hslot (himp ?_)) hl
    rw [hu] at hl
    exact hl

end Slots

end StepEngine
