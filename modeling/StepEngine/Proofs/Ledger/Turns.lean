import StepEngine.Proofs.Ledger.Deferred

/-!
# Turns: what a move does to a slot that is running

While a slot is running, resumptions are deferred at the end of its queue. When its run settles nothing happens to the queue; then the
first resumption for the awaited key is taken, and everything before it is dropped with it; and when there is none the slot becomes
idle.
-/

namespace StepEngine

/-- What a move does to a running slot, by the resumptions that can reach it with the move. -/
inductive Slot.Turn {D : Type} (origin : Resumption → Prop) (slot : Slot D) : Slot D → Prop where
  /-- Nothing that matters to the queue. -/
  | stays {slot' : Slot D} (lifecycle : slot'.lifecycle = slot.lifecycle) (deferred : slot'.deferred = slot.deferred) :
      Turn origin slot slot'
  /-- A resumption joins the queue. -/
  | defers {slot' : Slot D} {r : Resumption} (sent : origin r) (lifecycle : slot'.lifecycle = slot.lifecycle)
      (deferred : slot'.deferred = slot.deferred ++ [r]) : Turn origin slot slot'
  /-- The run settles. -/
  | settles {slot' : Slot D} (started : slot.lifecycle = startedLifecycle) (deferred : slot'.deferred = slot.deferred) :
      Turn origin slot slot'
  /-- The first resumption for the awaited key is taken. -/
  | takes {r : Resumption} {skipped later : List Resumption} (awaits : slot.Awaits r.key) (queue : slot.deferred = skipped ++ r :: later)
      (first : ∀ s ∈ skipped, s.key ≠ r.key) : Turn origin slot (slot.take later)
  /-- The slot becomes idle. -/
  | idles {slot' : Slot D} (idle : slot'.running = false) : Turn origin slot slot'

namespace Ledger

variable {V : Vocabulary} {l l' : Ledger V} {request : Option (Op V)} {seat : Seat} {slot : Slot V.Definition}
  {origin : Resumption → Prop}

/-- A change of a slot is a turn of the slot at its seat, and nothing to the others. -/
theorem turn_modify {other : Seat} {f : Slot V.Definition → Slot V.Definition} (keeps : Slot.Keeps f)
    (found : l.slots.at? seat = some slot) (turn : seat = other → slot.Turn origin (f slot)) :
    ∃ slot', (l.slots.modify other f).at? seat = some slot' ∧ slot.Turn origin slot' := by
  by_cases hs : seat = other
  · subst hs
    exact ⟨f slot, Slots.at?_modify_self keeps found, turn rfl⟩
  · exact ⟨slot, (Slots.at?_modify_other keeps hs).trans found, .stays rfl rfl⟩

/-- A resumption that reaches an executor joins the queue of a running slot, or nothing happens to the slot. -/
theorem Handed.turn {executor : Nat} {r : Resumption} (m : Handed executor r l l') (w : l.slots.WellSeated)
    (found : l.slots.at? seat = some slot) (running : slot.running = true) (sent : origin r) :
    ∃ slot', l'.slots.at? seat = some slot' ∧ slot.Turn origin slot' := by
  cases m with
  | unknown absent => exact ⟨slot, found, .stays rfl rfl⟩
  | refused current idle other => exact ⟨slot, found, .stays rfl rfl⟩
  | deferred current _ => exact turn_modify (Slot.keeps_defer r) found fun _ => .defers sent rfl rfl
  | woken current idle awaits =>
    refine turn_modify Slot.keeps_wake found fun hs => ?_
    have hat := w.at?_of_current? current
    rw [← hs, found] at hat
    cases hat
    exact absurd (running.symm.trans idle) nofun

/-- What a move does to a running slot is a turn. -/
theorem Move.turn (m : Move request l l') (h : l.Coherent) (found : l.slots.at? seat = some slot) (running : slot.running = true) :
    ∃ slot', l'.slots.at? seat = some slot' ∧ slot.Turn (fun r => Resolves request l l' r ∨ ByHand request r) slot' := by
  cases m with
  | stay => exact ⟨slot, found, .stays rfl rfl⟩
  | bind step now fresh => exact ⟨slot, found, .stays rfl rfl⟩
  | forget forgets => exact ⟨slot, found, .stays rfl rfl⟩
  | attach attachment executors => exact ⟨slot, found, .stays rfl rfl⟩
  | unlist executor workflow =>
    refine ⟨Slots.unlist executor workflow slot, by rw [Slots.at?_purge, found, Option.map_some], ?_⟩
    obtain ⟨listed, heq, -⟩ := Slots.unlist_eq executor workflow slot
    rw [heq]
    exact .stays rfl rfl
  | start free => exact ⟨slot, Slots.at?_start _ found, .stays rfl rfl⟩
  | apply handed => exact handed.turn h.seated found running (Or.inr ⟨_, rfl⟩)
  | @resolve _ _ _ _ _ _ keys _ resolved attached handed =>
    exact Handed.turn (l := { l with keys := keys }) handed h.seated found running
      (Or.inl (resolves_of_resolve resolved handed.keys_eq))
  | undelivered resolved unserved => exact ⟨slot, found, .stays rfl rfl⟩
  | enter top begins => exact ⟨slot, found, .stays rfl rfl⟩
  | settle top hfound checked =>
    refine turn_modify (Slot.keeps_settle _) found fun hs => ?_
    subst hs
    obtain ⟨other, hother, -, started⟩ := h.manned ⟨seat, none⟩ (top ▸ List.mem_cons_self)
    cases hother.symm.trans found
    exact .settles started rfl
  | take top hfound awaits queue first =>
    refine turn_modify (Slot.keeps_take _) found fun hs => ?_
    subst hs
    cases hfound.symm.trans found
    exact .takes awaits queue first
  | finish top hfound unmatched => exact turn_modify Slot.keeps_idle found fun _ => .idles rfl
  | leave top => exact ⟨slot, found, .stays rfl rfl⟩

/-- A resolved key stays resolved as it was, as long as its workflow is not forgotten. -/
theorem Move.isResolved {key : AsyncKey} {step : StepId} {outcome : AsyncOutcome} (m : Move request l l')
    (h : l.keys.IsResolved key step outcome) (kept : ∀ op, request = some op → ¬ op.Forgets step.workflow) :
    l'.keys.IsResolved key step outcome := by
  cases m with
  | bind step now fresh => exact h.bind fresh
  | forget forgets =>
    refine h.purge ?_
    rintro rfl
    exact kept _ rfl forgets
  | apply handed =>
    rw [handed.keys_eq]
    exact h
  | resolve resolved attached handed =>
    rw [handed.keys_eq]
    exact h.resolve resolved
  | undelivered resolved unserved => exact h.resolve resolved
  | _ => exact h

end Ledger

end StepEngine
