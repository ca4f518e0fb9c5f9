import StepEngine.Proofs.Ledger.Coherence

/-!
# Suspension: a suspended step instance can be resumed

A step instance suspends on a key that is pending, or whose resumption is deferred in the slot. As long as the executor that lists its
slot gets the resumptions of all keys and the key is not forgotten, that stays so (`Ledger.Sustained`): a resolution of the key while
the slot runs is deferred in it, and a resolution while it rests resumes the instance. So when the slot rests the key is pending.
-/

namespace StepEngine

/-- The executor gets the resumption of every key that is resolved, as long as it has slots at all: it is attached and held. -/
def World.Serves {V : Vocabulary} (w : World V) (executor : Nat) : Prop :=
  (∃ slot ∈ w.slots, slot.seat.executor = executor) → w.attachment = .executor executor ∧ w.isHeld executor = true

namespace Slot

variable {D : Type} {slot : Slot D} {keys keys' : KeyRegistry} {key : AsyncKey}

/-- The step instance may await what it waits for. -/
def Sustained (slot : Slot D) (keys : KeyRegistry) : Prop := ∀ key, slot.Awaits key → slot.MayAwait keys key

/-- A step instance that is in progress awaits nothing. -/
theorem sustained_of_started (h : slot.lifecycle = startedLifecycle) : slot.Sustained keys := by
  intro key awaits
  exact absurd (awaits.symm.trans h) nofun

/-- A resumption more that is deferred does no harm. -/
theorem Sustained.defer (h : slot.Sustained keys) (r : Resumption) : (slot.defer r).Sustained keys := by
  intro key awaits
  obtain ⟨record, hget, hstep, hpending | ⟨s, hs, hkey⟩⟩ := h key awaits
  · exact ⟨record, hget, hstep, Or.inl hpending⟩
  · exact ⟨record, hget, hstep, Or.inr ⟨s, List.mem_append_left _ hs, hkey⟩⟩

/-- The record of the awaited key is all that matters. -/
theorem Sustained.congr (h : slot.Sustained keys)
    (same : ∀ key record, slot.Awaits key → keys.keys.get? key = some record → record.step = slot.seat.step →
      keys'.keys.get? key = some record) : slot.Sustained keys' := by
  intro key awaits
  obtain ⟨record, hget, hstep, hrest⟩ := h key awaits
  exact ⟨record, same key record awaits hget hstep, hstep, hrest⟩

/-- The resumption of the awaited key is deferred: nothing more is needed than that the key is known. -/
theorem sustained_of_defer {r : Resumption} {outcome : AsyncOutcome} (awaits : slot.Awaits r.key)
    (resolved : keys.IsResolved r.key slot.seat.step outcome) : (slot.defer r).Sustained keys := by
  intro key hkey
  have heq : r.key = key := by
    have h : slot.Awaits key := hkey
    have hlife := awaits.symm.trans h
    simpa using hlife
  obtain ⟨record, hget, hstep, -⟩ := resolved
  exact ⟨record, heq ▸ hget, hstep, Or.inr ⟨r, by simp [Slot.defer], heq⟩⟩

end Slot

namespace Ledger

variable {V : Vocabulary} {l l' : Ledger V} {request : Option (Op V)} {executor : Nat} {step : StepId}

/-- What an executor lists for a step instance is sustained. -/
def Sustained (l : Ledger V) (executor : Nat) (step : StepId) : Prop :=
  ∀ slot ∈ l.slots, slot.listed = true → slot.seat.executor = executor → slot.seat.step = step → slot.Sustained l.keys

/-- A change of the keys that leaves the records of the step instance alone. -/
theorem Sustained.keys (h : l.Sustained executor step) {keys : KeyRegistry}
    (same : ∀ key record, l.keys.keys.get? key = some record → record.step = step → keys.keys.get? key = some record) :
    Sustained { l with keys := keys } executor step := by
  intro slot hm listed hexecutor hstep
  exact (h slot hm listed hexecutor hstep).congr fun key record _ hget hrecord => same key record hget (hrecord.trans hstep)

/-- A change of one slot that sustains it. -/
theorem Sustained.modify (h : l.Sustained executor step) (w : l.slots.WellSeated) {seat : Seat} {slot : Slot V.Definition}
    {f : Slot V.Definition → Slot V.Definition} (found : l.slots.at? seat = some slot) (keeps : Slot.Keeps f)
    (hf : slot.Sustained l.keys → (f slot).Sustained l.keys) :
    Sustained { l with slots := l.slots.modify seat f } executor step := by
  refine w.forall_modify found ?_ h
  intro listed hexecutor hstep
  rw [keeps.listed] at listed
  rw [keeps.seat] at hexecutor hstep
  exact hf (h slot (Slots.mem_of_at? found).1 listed hexecutor hstep)

/-- A resumption that is applied by hand leaves what is listed sustained. -/
theorem Sustained.applied {r : Resumption} {other : Nat} (h : l.Sustained executor step) (w : l.slots.WellSeated)
    (m : Handed other r l l') : l'.Sustained executor step := by
  cases m with
  | unknown absent => exact h
  | refused current idle mismatch => exact h
  | deferred current running => exact h.modify w (w.at?_of_current? current) (Slot.keeps_defer r) fun hs => hs.defer r
  | woken current idle awaits =>
    exact h.modify w (w.at?_of_current? current) Slot.keeps_wake fun _ => Slot.sustained_of_started rfl

/-- A resolution whose resumption reaches the executor leaves what it lists sustained: if a step instance awaits the key, then it is
the one that is resumed or has the resumption deferred. -/
theorem Sustained.delivered {key : AsyncKey} {outcome : AsyncOutcome} {now : Instant} {r : Resumption} {keys : KeyRegistry}
    {other : Nat} (h : l.Sustained executor step) (coherent : l.Coherent)
    (resolved : l.keys.resolve key outcome now = .ok (r, keys))
    (served : (∃ slot ∈ l.slots, slot.seat.executor = executor) → other = executor)
    (m : Handed other r { l with keys := keys } l') : l'.Sustained executor step := by
  have w := coherent.seated
  obtain ⟨rfl, rfl, pending, -⟩ := KeyRegistry.resolve_eq_ok resolved
  have isResolved := KeyRegistry.isResolved_resolve resolved
  -- whatever awaits another key does not notice the resolution
  have elsewhere : ∀ slot ∈ l.slots, slot.listed = true → slot.seat.executor = executor → slot.seat.step = step →
      ¬ slot.Awaits r.key → slot.Sustained keys := by
    intro slot hm listed hexecutor hstep hother
    refine (h slot hm listed hexecutor hstep).congr fun given record awaits hget _ => ?_
    refine (KeyRegistry.get?_resolve_other resolved ?_).trans hget
    rintro rfl
    exact hother awaits
  -- whatever awaits the key is the slot that the resumption is handed to
  have addressee : ∀ slot ∈ l.slots, slot.listed = true → slot.seat.executor = executor → slot.seat.step = step →
      slot.Awaits r.key → l.slots.current? other r.step = some slot ∧ slot.seat.step = r.step := by
    intro slot hm listed hexecutor hstep awaits
    obtain ⟨record, hget, hrecord, -⟩ := h slot hm listed hexecutor hstep r.key awaits
    obtain ⟨record', hget', hrecord', -⟩ := pending
    cases hget.symm.trans hget'
    rw [served ⟨slot, hm, hexecutor⟩, ← hexecutor, ← hrecord', hrecord]
    exact ⟨w.single slot hm listed, rfl⟩
  cases m with
  | unknown absent =>
    intro slot hm listed hexecutor hstep
    refine elsewhere slot hm listed hexecutor hstep fun awaits => ?_
    exact absurd ((addressee slot hm listed hexecutor hstep awaits).1.symm.trans absent) nofun
  | refused current idle mismatch =>
    intro slot hm listed hexecutor hstep
    refine elsewhere slot hm listed hexecutor hstep fun awaits => ?_
    cases (addressee slot hm listed hexecutor hstep awaits).1.symm.trans current
    exact mismatch awaits
  | @deferred found current running =>
    refine w.forall_modify_other (w.at?_of_current? current) ?_ ?_
    · intro listed hexecutor hstep
      have hm := (Slots.mem_of_current? current).1
      by_cases awaits : found.Awaits r.key
      · exact Slot.sustained_of_defer awaits ((addressee found hm listed hexecutor hstep awaits).2 ▸ isResolved)
      · exact (elsewhere found hm listed hexecutor hstep awaits).defer r
    · intro slot hm hne listed hexecutor hstep
      refine elsewhere slot hm listed hexecutor hstep fun awaits => ?_
      cases (addressee slot hm listed hexecutor hstep awaits).1.symm.trans current
      exact hne rfl
  | @woken found current idle hawaits =>
    refine w.forall_modify_other (w.at?_of_current? current) (fun _ _ _ => Slot.sustained_of_started rfl) ?_
    intro slot hm hne listed hexecutor hstep
    refine elsewhere slot hm listed hexecutor hstep fun awaits => ?_
    cases (addressee slot hm listed hexecutor hstep awaits).1.symm.trans current
    exact hne rfl

/-- What an executor lists for a step instance stays sustained by every move, as long as the executor gets the resumptions and the keys
of the workflow are not forgotten. -/
theorem Move.sustained (m : Move request l l') (h : l.Sustained executor step) (coherent : l.Coherent)
    (served : (∃ slot ∈ l.slots, slot.seat.executor = executor) →
      l.attachment = .executor executor ∧ (l.executors[executor]?).getD false = true)
    (kept : ∀ op, request = some op → ¬ op.Forgets step.workflow) : l'.Sustained executor step := by
  have w := coherent.seated
  cases m with
  | stay => exact h
  | @bind _ _ key owner now fresh =>
    exact h.keys fun given record hget _ => (KeyRegistry.get?_bind_other (KeyRegistry.ne_of_unused fresh hget)).trans hget
  | @forget op _ workflow forgets =>
    refine h.keys fun given record hget hrecord => ?_
    have hne : record.step.workflow ≠ workflow := by
      rw [hrecord]
      rintro rfl
      exact kept _ rfl forgets
    rw [KeyRegistry.get?_purge, hget]
    simp [hne]
  | attach attachment executors => exact h
  | unlist other workflow =>
    exact Slots.forall_purge (fun slot listed himp hslot hlisted => hslot (himp hlisted)) workflow h
  | start free =>
    intro new hm
    rcases Slots.mem_start hm with hm | rfl
    · exact h new hm
    · exact fun _ _ _ => Slot.sustained_of_started rfl
  | apply handed => exact h.applied w handed
  | @resolve _ _ _ _ _ _ _ other resolved attached handed =>
    refine h.delivered coherent resolved (fun hslots => ?_) handed
    have hattached := attached.symm.trans (served hslots).1
    simpa using hattached
  | @undelivered _ key outcome now r keys resolved unserved =>
    intro slot hm listed hexecutor hstep
    obtain ⟨hattached, hheld⟩ := served ⟨slot, hm, hexecutor⟩
    exact absurd (hheld.symm.trans (unserved executor hattached)) nofun
  | enter top begins => exact h
  | @settle _ seat _ slot outcome top found checked =>
    refine Sustained.modify h w found (Slot.keeps_settle outcome) fun _ key awaits => ?_
    have houtcome : outcome.lifecycle = ⟨.suspended, some key⟩ := awaits
    refine checked key ?_
    cases outcome <;> simp [StepOutcome.lifecycle] at houtcome ⊢
    exact houtcome
  | take top found awaits queue first =>
    exact Sustained.modify h w found (Slot.keeps_take _) fun _ => Slot.sustained_of_started rfl
  | @finish _ seat settled rest slot top found unmatched =>
    refine Sustained.modify h w found Slot.keeps_idle fun hslot key awaits => ?_
    have hawaits : slot.Awaits key := awaits
    obtain ⟨record, hget, hstep, hpending | ⟨r, hr, rfl⟩⟩ := hslot key hawaits
    · exact ⟨record, hget, hstep, Or.inl hpending⟩
    · exact absurd hawaits (unmatched r hr)
  | leave top => exact h

end Ledger

namespace Run

variable {V : Vocabulary} {c : Client V} {ρ : Type} {run : Run c ρ} {n : Nat} {executor : Nat} {step : StepId}

/-- Up to a state, the executor gets the resumptions of all keys, and the keys of the workflow of a step instance are not forgotten. -/
structure Attended (run : Run c ρ) (n : Nat) (executor : Nat) (step : StepId) : Prop where
  served : ∀ j, j ≤ n → (run j).scene.world.Serves executor
  kept : ∀ j, j < n → ∀ op, (run j).request? = some op → ¬ op.Forgets step.workflow

/-- What an attended executor lists for a step instance is sustained. -/
theorem Attended.sustained (h : run.Attended n executor step) : (run n).ledger.Sustained executor step := by
  induction n with
  | zero =>
    obtain ⟨config, logsFaults, memory, program, hfirst⟩ := run.first
    rw [hfirst]
    exact fun slot hm => absurd hm List.not_mem_nil
  | succ n ih =>
    have hbefore : run.Attended n executor step :=
      ⟨fun j hj => h.served j (Nat.le_succ_of_le hj), fun j hj => h.kept j (Nat.lt_succ_of_lt hj)⟩
    exact (run.move n).sustained (ih hbefore) (run.coherent n) (h.served n (Nat.le_succ n)) (h.kept n (Nat.lt_succ_self n))

/-- A step instance that rests suspended awaits a key that is pending and bound to it. -/
theorem Attended.isPending {slot : Slot V.Definition} (h : run.Attended n executor step)
    (current : (run n).scene.world.slots.current? executor step = some slot) (idle : slot.running = false)
    (suspended : slot.lifecycle.state = .suspended) :
    ∃ key, slot.Awaits key ∧ (run n).scene.world.keys.IsPending key step := by
  obtain ⟨hm, listed, hexecutor, hstep⟩ := Slots.mem_of_current? current
  obtain ⟨empty, outcome, hlife, -⟩ := (run.coherent n).resting slot hm idle
  have hawaits : ∃ key, slot.Awaits key := by
    rw [hlife] at suspended
    cases outcome with
    | complete => cases suspended
    | failed error => cases suspended
    | suspended key => exact ⟨key, hlife⟩
  obtain ⟨key, awaits⟩ := hawaits
  obtain ⟨record, hget, hrecord, hpending | ⟨r, hr, -⟩⟩ := h.sustained slot hm listed hexecutor hstep key awaits
  · exact ⟨key, awaits, record, hget, hrecord.trans hstep, hpending⟩
  · rw [empty] at hr
    cases hr

end Run

end StepEngine
