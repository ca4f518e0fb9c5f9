import StepEngine.Proofs.Bystanders
import StepEngine.Proofs.Delivery

/-!
# Register: the subscribers without bystanders and with them

On every topic the subscribers without bystanders are those with them, but for the bystanders, and in the same order (`Joined`). This
stays so whoever subscribes, and when the code gives up a subscription of its own (`Buses`): under the number that it has in company
nobody else is found.
-/

namespace StepEngine

namespace Bystanders

variable {V : Vocabulary} (B : Bystanders V)

/-- The second list consists of the handlers of the first, whose numbers correspond, with bystanders in between, whose numbers are free. -/
inductive Joined (pair : Nat → Nat → Prop) (free : Nat → Prop) :
    List (Subscription V.Handler) → List (Subscription V.Handler) → Prop where
  | nil : Joined pair free [] []
  | own {id id' : Nat} {handler : V.Handler} {rest rest' : List (Subscription V.Handler)} (own : B.own handler) (paired : pair id id')
    (h : Joined pair free rest rest') : Joined pair free (⟨id, handler⟩ :: rest) (⟨id', handler⟩ :: rest')
  | extra {s : Subscription V.Handler} {rest rest' : List (Subscription V.Handler)} (idle : B.idle s.handler) (unpaired : free s.id)
    (h : Joined pair free rest rest') : Joined pair free rest (s :: rest')

variable {B}

namespace Joined

variable {pair pair' : Nat → Nat → Prop} {free free' : Nat → Prop} {l l' k k' : List (Subscription V.Handler)}

theorem mono (h : B.Joined pair free l l') (hpair : ∀ id id', pair id id' → pair' id id') (hfree : ∀ id, free id → free' id) :
    B.Joined pair' free' l l' := by
  induction h with
  | nil => exact .nil
  | own own paired _ ih => exact .own own (hpair _ _ paired) ih
  | extra idle unpaired _ ih => exact .extra idle (hfree _ unpaired) ih

theorem append (h : B.Joined pair free l l') (h' : B.Joined pair free k k') : B.Joined pair free (l ++ k) (l' ++ k') := by
  induction h with
  | nil => exact h'
  | own own paired _ ih => exact .own own paired ih
  | extra idle unpaired _ ih => exact .extra idle unpaired ih

/-- When corresponding subscribers are taken out, and no bystander is, the others still correspond. -/
theorem filter (keep keep' : Nat → Bool) (h : B.Joined pair free l l') (hpair : ∀ id id', pair id id' → keep id = keep' id')
    (hfree : ∀ id, free id → keep' id = true) : B.Joined pair free (l.filter (keep ·.id)) (l'.filter (keep' ·.id)) := by
  induction h with
  | nil => exact .nil
  | @own id id' handler rest rest' own paired _ ih =>
    have heq : keep' id' = keep id := (hpair _ _ paired).symm
    cases hkeep : keep id with
    | true =>
      simp only [List.filter_cons, heq, hkeep, if_true]
      exact .own own paired ih
    | false =>
      simp only [List.filter_cons, heq, hkeep, Bool.false_eq_true, if_false]
      exact ih
  | extra idle unpaired _ ih =>
    simp only [List.filter_cons, hfree _ unpaired, if_true]
    exact .extra idle unpaired ih

end Joined

/-- Subscribers that still have to be called, without bystanders and with them. -/
abbrev Callees (B : Bystanders V) : List (Subscription V.Handler) → List (Subscription V.Handler) → Prop :=
  B.Joined (fun _ _ => True) fun _ => True

/-- No subscription of the code has the number. -/
def Free (ids : Numbering) (nextId id : Nat) : Prop := id < nextId ∧ ∀ pair ∈ ids, pair.2 ≠ id

variable (B) in
/-- The bus without bystanders and the bus with them. -/
structure Buses (ids : Numbering) (b b' : Bus V.Handler) : Prop where
  /-- On every topic the same handlers of the code are subscribed. -/
  joined : ∀ topic, B.Joined (fun id id' => (id, id') ∈ ids) (Free ids b'.nextId) (b.subscribers topic) (b'.subscribers topic)
  /-- No two subscriptions of the code have the same number. -/
  once : ∀ p ∈ ids, ∀ q ∈ ids, (p.1 = q.1 ↔ p.2 = q.2)
  /-- Their numbers have been given out. -/
  given : ∀ p ∈ ids, p.1 < b.nextId ∧ p.2 < b'.nextId

namespace Buses

variable {ids : Numbering} {b b' c c' : Bus V.Handler}

/-- Without subscribers two buses are the same. -/
theorem new (logsFaults : Bool) : B.Buses [] (Bus.new logsFaults) (Bus.new logsFaults) where
  joined _ := .nil
  once := nofun
  given := nofun

/-- Only the subscribers and the next number count. -/
theorem congr (h : B.Buses ids b b') (topics : c.topics = b.topics) (nextId : c.nextId = b.nextId) (topics' : c'.topics = b'.topics)
    (nextId' : c'.nextId = b'.nextId) : B.Buses ids c c' where
  joined topic := by
    have hjoined := h.joined topic
    rwa [Bus.subscribers, Bus.subscribers, ← topics, ← topics', ← nextId'] at hjoined
  once := h.once
  given := by rw [nextId, nextId']; exact h.given

/-- The subscribers of a topic are called alike. -/
theorem callees (h : B.Buses ids b b') (topic : String) : B.Callees (b.subscribers topic) (b'.subscribers topic) :=
  (h.joined topic).mono (fun _ _ _ => trivial) fun _ _ => trivial

/-- A handler of the code is subscribed. -/
theorem subscribe (h : B.Buses ids b b') (topic : String) {handler : V.Handler} (own : B.own handler) :
    B.Buses ((b.nextId, b'.nextId) :: ids) (b.subscribe topic handler) (b'.subscribe topic handler) where
  joined on := by
    have hold : B.Joined (fun id id' => (id, id') ∈ (b.nextId, b'.nextId) :: ids)
        (Free ((b.nextId, b'.nextId) :: ids) (b'.nextId + 1)) (b.subscribers on) (b'.subscribers on) := by
      refine (h.joined on).mono (fun _ _ hmem => List.mem_cons_of_mem _ hmem) fun id hfree => ?_
      refine ⟨Nat.lt_succ_of_lt hfree.1, fun pair hpair => ?_⟩
      rcases List.mem_cons.1 hpair with rfl | hpair
      · exact (Nat.ne_of_lt hfree.1).symm
      · exact hfree.2 pair hpair
    rw [Bus.subscribers_subscribe, Bus.subscribers_subscribe]
    by_cases hon : topic = on
    · rw [if_pos hon, if_pos hon]
      exact hold.append (.own own List.mem_cons_self .nil)
    · rw [if_neg hon, if_neg hon]
      exact hold
  once := by
    have hnew : ∀ q ∈ ids, (b.nextId = q.1 ↔ b'.nextId = q.2) := fun q hq =>
      iff_of_false (Nat.ne_of_gt (h.given q hq).1) (Nat.ne_of_gt (h.given q hq).2)
    intro p hp q hq
    rcases List.mem_cons.1 hp with rfl | hp <;> rcases List.mem_cons.1 hq with rfl | hq
    · exact iff_of_true rfl rfl
    · exact hnew q hq
    · exact eq_comm.trans ((hnew p hp).trans eq_comm)
    · exact h.once p hp q hq
  given := by
    intro p hp
    rcases List.mem_cons.1 hp with rfl | hp
    · exact ⟨Nat.lt_succ_self _, Nat.lt_succ_self _⟩
    · exact ⟨Nat.lt_succ_of_lt (h.given p hp).1, Nat.lt_succ_of_lt (h.given p hp).2⟩

/-- A bystander is subscribed. -/
theorem subscribe_extra (h : B.Buses ids b b') (topic : String) {handler : V.Handler} (idle : B.idle handler) :
    B.Buses ids b (b'.subscribe topic handler) where
  joined on := by
    have hold : B.Joined (fun id id' => (id, id') ∈ ids) (Free ids (b'.nextId + 1)) (b.subscribers on) (b'.subscribers on) :=
      (h.joined on).mono (fun _ _ hmem => hmem) fun id hfree => ⟨Nat.lt_succ_of_lt hfree.1, hfree.2⟩
    rw [Bus.subscribers_subscribe]
    by_cases hon : topic = on
    · rw [if_pos hon, ← List.append_nil (b.subscribers on)]
      have hfree : Free ids (b'.nextId + 1) b'.nextId := ⟨Nat.lt_succ_self _, fun pair hpair => Nat.ne_of_lt (h.given pair hpair).2⟩
      exact hold.append (.extra idle hfree .nil)
    · rw [if_neg hon]
      exact hold
  once := h.once
  given p hp := ⟨(h.given p hp).1, Nat.lt_succ_of_lt (h.given p hp).2⟩

/-- The code gives up a subscription of its own. -/
theorem unsubscribe (h : B.Buses ids b b') {id id' : Nat} (topic : String) (mem : (id, id') ∈ ids) :
    B.Buses ids (b.unsubscribe ⟨id, topic⟩) (b'.unsubscribe ⟨id', topic⟩) where
  joined on := by
    rw [Bus.subscribers_unsubscribe, Bus.subscribers_unsubscribe, Bus.nextId_unsubscribe]
    by_cases hon : topic = on
    · rw [if_pos hon, if_pos hon]
      refine (h.joined on).filter (fun i => i ≠ id) (fun i => i ≠ id') ?_ ?_
      · intro i i' hpair
        exact decide_eq_decide.2 (not_congr (h.once _ hpair _ mem))
      · intro i hfree
        exact decide_eq_true fun heq => hfree.2 _ mem heq.symm
    · rw [if_neg hon, if_neg hon]
      exact h.joined on
  once := h.once
  given := by
    rw [Bus.nextId_unsubscribe, Bus.nextId_unsubscribe]
    exact h.given

end Buses

end Bystanders

end StepEngine
