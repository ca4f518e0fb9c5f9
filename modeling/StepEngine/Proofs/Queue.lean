import StepEngine.Proofs.Ledger.Turns
import StepEngine.Proofs.SlotCoherence

/-!
# Queue: an entry of the queue of a slot

The resumptions that are deferred in a slot are a queue. A step instance is resumed with the first one for the key that it awaits, and
everything before that one is dropped. So an entry keeps waiting as long as what is taken was deferred before it, in that order
(`Turn.holds_or_lost`), and what is left before it is what may still be taken without dropping it.
-/

namespace StepEngine

namespace Slot

variable {D : Type} {slot slot' : Slot D} {r : Resumption} {queue taken : List AsyncKey} {origin given : Resumption → Prop}

/-- The key that a step instance was resumed with from one look at its slot to the next. -/
def resumedKey? (before after : Slot D) : Option AsyncKey :=
  if after.lifecycle.state = .inProgress then before.lifecycle.awaiting else none

/-- A resumption waits in the slot; whatever else waits there for its key has been given from elsewhere. What is left before it of a
queue of keys is what can still be taken after what was taken. -/
def Holds (slot : Slot D) (r : Resumption) (given : Resumption → Prop) (queue taken : List AsyncKey) : Prop :=
  ∃ rest later, slot.deferred = rest ++ r :: later ∧ (∀ s ∈ rest, s.key = r.key → given s) ∧
    (∀ s ∈ later, s.key = r.key → given s) ∧
    ∀ more : List AsyncKey, (taken ++ more).Sublist queue ↔ more.Sublist (rest.map (·.key))

/-- Whatever waits in the slot for a key has been given from elsewhere, and what was taken was not taken from a queue of keys in its
order. -/
def Lost (slot : Slot D) (key : AsyncKey) (given : Resumption → Prop) (queue taken : List AsyncKey) : Prop :=
  (∀ s ∈ slot.deferred, s.key = key → given s) ∧ ¬ taken.Sublist queue

/-- What was taken before a resumption that still waits was taken in order. -/
theorem Holds.sublist (h : slot.Holds r given queue taken) : taken.Sublist queue := by
  obtain ⟨rest, later, -, -, -, hmore⟩ := h
  have hnil := (hmore []).2 (List.nil_sublist _)
  rwa [List.append_nil] at hnil

/-- A resumption that joins a queue waits behind all of it. -/
theorem holds_of_defers (deferred : slot'.deferred = slot.deferred ++ [r]) (fresh : ∀ s ∈ slot.deferred, s.key = r.key → given s) :
    slot'.Holds r given (slot.deferred.map (·.key)) [] :=
  ⟨slot.deferred, [], deferred, fresh, by simp, fun _ => Iff.rfl⟩

/-- Behind the first occurrence of a key, what follows it in order follows it in the rest. -/
theorem cons_sublist_append_cons {key : AsyncKey} {front more back : List AsyncKey} (h : key ∉ front) :
    (key :: more).Sublist (front ++ key :: back) ↔ more.Sublist back := by
  induction front with
  | nil => exact List.cons_sublist_cons
  | cons first front ih =>
    obtain ⟨hne, hfront⟩ := not_or.1 (List.mem_cons.not.1 h)
    rw [List.cons_append, ← ih hfront]
    refine ⟨fun hsub => ?_, fun hsub => hsub.cons first⟩
    cases hsub with
    | cons _ hsub => exact hsub
    | cons_cons _ hsub => exact absurd rfl hne

/-- When another resumption is taken, a waiting one stays if the other was deferred before it, and is dropped if it was deferred behind
it. -/
theorem Holds.take {a : Resumption} {skipped left : List Resumption} (h : slot.Holds r given queue taken)
    (split : slot.deferred = skipped ++ a :: left) (first : ∀ s ∈ skipped, s.key ≠ a.key) (other : a.key ≠ r.key) :
    (slot.take left).Holds r given queue (taken ++ [a.key]) ∨ (slot.take left).Lost r.key given queue (taken ++ [a.key]) := by
  obtain ⟨rest, later, hqueue, hrest, hlater, hmore⟩ := h
  rw [hqueue] at split
  rcases List.append_eq_append_iff.1 split with ⟨front, hskipped, hleft⟩ | ⟨front, hfront, hleft⟩
  · -- the other one was deferred behind, or is the same
    cases front with
    | nil =>
      obtain ⟨rfl, -⟩ := List.cons.inj hleft
      exact absurd rfl other
    | cons same front =>
      obtain ⟨rfl, rfl⟩ := List.cons.inj hleft
      refine Or.inr ⟨fun s hs => hlater s (List.mem_append_right _ (List.mem_cons_of_mem _ hs)), ?_⟩
      rw [hmore [a.key], List.singleton_sublist]
      intro hm
      obtain ⟨s, hs, hkey⟩ := List.mem_map.1 hm
      exact first s (hskipped ▸ List.mem_append_left _ hs) hkey
  · cases front with
    | nil =>
      obtain ⟨rfl, -⟩ := List.cons.inj hleft
      exact absurd rfl other
    | cons same front =>
      obtain ⟨rfl, rfl⟩ := List.cons.inj hleft
      refine Or.inl ⟨front, later, rfl, ?_, hlater, ?_⟩
      · intro s hs
        exact hrest s (hfront ▸ List.mem_append_right _ (List.mem_cons_of_mem _ hs))
      · intro more
        rw [List.append_assoc, hmore, hfront, List.map_append, List.map_cons, List.singleton_append]
        refine cons_sublist_append_cons fun hm => ?_
        obtain ⟨s, hs, hkey⟩ := List.mem_map.1 hm
        exact first s hs hkey

/-- A turn that leaves the lifecycle alone does not resume the step instance. -/
theorem resumedKey?_of_same (sound : slot.Sound) (h : slot'.lifecycle = slot.lifecycle) : slot.resumedKey? slot' = none := by
  rw [resumedKey?, h]
  split
  · rename_i hprogress
    refine Option.not_isSome_iff_eq_none.1 fun hsome => ?_
    rw [sound.awaiting.1 hsome] at hprogress
    cases hprogress
  · rfl

/-- Through a turn of a slot that stays running, a resumption keeps waiting in the queue, or it is lost, depending on what is taken: as
long as none for its key is taken, and whatever joins the queue for its key is given from elsewhere. -/
theorem Turn.holds_or_lost (turn : slot.Turn origin slot') (sound : slot.Sound) (running : slot'.running = true)
    (single : ∀ s, origin s → s.key = r.key → given s) (undelivered : slot.resumedKey? slot' ≠ some r.key)
    (h : slot.Holds r given queue taken ∨ slot.Lost r.key given queue taken) :
    slot'.Holds r given queue (taken ++ (slot.resumedKey? slot').toList) ∨
      slot'.Lost r.key given queue (taken ++ (slot.resumedKey? slot').toList) := by
  have same : slot'.deferred = slot.deferred → slot.resumedKey? slot' = none →
      slot'.Holds r given queue (taken ++ (slot.resumedKey? slot').toList) ∨
        slot'.Lost r.key given queue (taken ++ (slot.resumedKey? slot').toList) := by
    intro deferred hnone
    rw [hnone, Option.toList_none, List.append_nil, Holds, Lost, deferred]
    exact h
  cases turn with
  | stays lifecycle deferred => exact same deferred (resumedKey?_of_same sound lifecycle)
  | @defers _ s sent lifecycle deferred =>
    rw [resumedKey?_of_same sound lifecycle, Option.toList_none, List.append_nil]
    rcases h with ⟨rest, later, hqueue, hrest, hlater, hmore⟩ | ⟨hnone, horder⟩
    · refine Or.inl ⟨rest, later ++ [s], by rw [deferred, hqueue]; simp, hrest, ?_, hmore⟩
      intro t ht
      rcases List.mem_append.1 ht with ht | ht
      · exact hlater t ht
      · exact List.mem_singleton.1 ht ▸ single s sent
    · refine Or.inr ⟨?_, horder⟩
      intro t ht
      rw [deferred] at ht
      rcases List.mem_append.1 ht with ht | ht
      · exact hnone t ht
      · exact List.mem_singleton.1 ht ▸ single s sent
  | settles started deferred =>
    refine same deferred ?_
    rw [resumedKey?, started]
    exact ite_self _
  | @takes a skipped left awaits split first =>
    have hkey : slot.resumedKey? (slot.take left) = some a.key := by
      rw [resumedKey?, awaits]
      rfl
    rw [hkey, Option.toList_some]
    have other : a.key ≠ r.key := fun heq => undelivered (heq ▸ hkey)
    rcases h with hholds | ⟨hnone, horder⟩
    · exact hholds.take split first other
    · refine Or.inr ⟨?_, fun hsub => horder ((List.sublist_append_left _ _).trans hsub)⟩
      intro s hs
      exact hnone s (split ▸ List.mem_append_right _ (List.mem_cons_of_mem _ hs))
  | idles idle => exact absurd (running.symm.trans idle) nofun

/-- A resumption waits in the slot, and none for its key waits before it. -/
def Queues (slot : Slot D) (r : Resumption) : Prop :=
  ∃ rest later, slot.deferred = rest ++ r :: later ∧ ∀ s ∈ rest, s.key ≠ r.key

/-- If resumptions for a key wait in the slot, then one of them waits before the others. -/
theorem exists_queues {key : AsyncKey} (h : ∃ s ∈ slot.deferred, s.key = key) : ∃ s ∈ slot.deferred, s.key = key ∧ slot.Queues s := by
  obtain ⟨s, hfind⟩ := Option.isSome_iff_exists.1 (List.find?_isSome.2 (by simpa using h) :
    (slot.deferred.find? fun s => s.key = key).isSome)
  obtain ⟨hkey, rest, later, hqueue, hrest⟩ := List.find?_eq_some_iff_append.1 hfind
  obtain rfl : s.key = key := by simpa using hkey
  exact ⟨s, by simp [hqueue], rfl, rest, later, hqueue, fun t ht => by simpa using hrest t ht⟩

/-- A resumption that waits is deferred in the slot. -/
theorem Holds.mem (h : slot.Holds r given queue taken) : r ∈ slot.deferred := by
  obtain ⟨rest, later, hqueue, -⟩ := h
  rw [hqueue]
  exact List.mem_append_right _ List.mem_cons_self

/-- Whatever waits for the key of a resumption that waits is this resumption, or has been given from elsewhere. -/
theorem Holds.eq_or_given {s : Resumption} (h : slot.Holds r given queue taken) (hs : s ∈ slot.deferred) (hkey : s.key = r.key) :
    s = r ∨ given s := by
  obtain ⟨rest, later, hqueue, hrest, hlater, -⟩ := h
  rw [hqueue] at hs
  rcases List.mem_append.1 hs with hs | hs
  · exact Or.inr (hrest s hs hkey)
  · rcases List.mem_cons.1 hs with rfl | hs
    · exact Or.inl rfl
    · exact Or.inr (hlater s hs hkey)

/-- Through a turn that neither resumes the step instance nor ends its activation, a resumption keeps waiting. -/
theorem Turn.queues (turn : slot.Turn origin slot') (running : slot'.running = true) (rests : slot'.lifecycle ≠ startedLifecycle)
    (h : slot.Queues r) : slot'.Queues r := by
  obtain ⟨rest, later, hqueue, hrest⟩ := h
  cases turn with
  | stays lifecycle deferred => exact ⟨rest, later, deferred.trans hqueue, hrest⟩
  | @defers _ s sent lifecycle deferred => exact ⟨rest, later ++ [s], by rw [deferred, hqueue]; simp, hrest⟩
  | settles started deferred => exact ⟨rest, later, deferred.trans hqueue, hrest⟩
  | takes awaits split first => exact absurd rfl rests
  | idles idle => exact absurd (running.symm.trans idle) nofun

/-- The first resumption for a key is one. -/
theorem Queues.eq_of_first {a : Resumption} {skipped left : List Resumption} (h : slot.Queues r)
    (split : slot.deferred = skipped ++ a :: left) (first : ∀ s ∈ skipped, s.key ≠ a.key) (hkey : a.key = r.key) : a = r := by
  obtain ⟨rest, later, hqueue, hrest⟩ := h
  rw [hqueue] at split
  rcases List.append_eq_append_iff.1 split with ⟨front, hskipped, hleft⟩ | ⟨front, hfront, hleft⟩
  · cases front with
    | nil => exact (List.cons.inj hleft).1.symm
    | cons same front =>
      obtain ⟨rfl, -⟩ := List.cons.inj hleft
      exact absurd hkey.symm (first r (hskipped ▸ by simp))
  · cases front with
    | nil => exact (List.cons.inj hleft).1
    | cons same front =>
      obtain ⟨rfl, -⟩ := List.cons.inj hleft
      exact absurd hkey (hrest a (hfront ▸ by simp))

end Slot

end StepEngine
