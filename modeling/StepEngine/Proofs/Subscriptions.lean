import StepEngine.Proofs.Delivery
import StepEngine.Proofs.Run

/-!
# Subscriptions: the register lists those that are live

A subscription is live from the step that makes it up to the step, if there is one, that gives up the handle it was answered with. This
can be told from the requests of a run, without a look at the bus (`Run.live`). The register of the bus is nothing but the list of the live
subscriptions, cut into topics (`Bus.Lists`): every request to subscribe or to unsubscribe keeps it so, and nothing else touches it. Since
this holds in every state, it holds in the midst of a publication too, whatever the handlers do.
-/

namespace StepEngine

/-! ## Live subscriptions -/

/-- A subscription as whoever made it knows it: the handle that was answered, and the handler that was brought. -/
structure Subscribed (H : Type) where
  handle : SubscriptionHandle
  handler : H

namespace MachineState

variable {V : Vocabulary} {ρ : Type}

/-- The subscription that a program makes with the next step, if it makes one. -/
def subscribes? (state : MachineState V ρ) : Option (Subscribed V.Handler) :=
  match state.request? with
  | some (.plain (.bus (.subscribe topic handler))) => some ⟨((BusOp.subscribe topic handler).run state.scene.world.bus).1, handler⟩
  | _ => none

/-- The handle that a program gives up with the next step, if it gives up one. -/
def unsubscribes? (state : MachineState V ρ) : Option SubscriptionHandle :=
  match state.request? with
  | some (.plain (.bus (.unsubscribe handle))) => some handle
  | _ => none

end MachineState

namespace Run

variable {V : Vocabulary} {c : Client V} {ρ : Type} (run : Run c ρ)

/-- From the state after the `i`-th up to the `n`-th, nobody gives up a handle. -/
def Keeps (i n : Nat) (handle : SubscriptionHandle) : Prop := ∀ j, j < n → i < j → (run j).unsubscribes? ≠ some handle

instance (i n : Nat) (handle : SubscriptionHandle) : Decidable (run.Keeps i n handle) :=
  inferInstanceAs (Decidable (∀ j, j < n → i < j → (run j).unsubscribes? ≠ some handle))

/-- The live subscriptions in the `n`-th state, the oldest first: those made before of which nobody has given up the handle since. -/
def live (n : Nat) : List (Subscribed V.Handler) :=
  (List.range n).filterMap fun i => (run i).subscribes?.filter fun s => run.Keeps i n s.handle

/-- The bus in the `n`-th state. -/
abbrev bus (n : Nat) : Bus V.Handler := (run n).scene.world.bus

end Run

/-! ## The register -/

namespace Bus

variable {H : Type} {b : Bus H} {live : List (Subscribed H)}

/-- The register lists these subscriptions: topic by topic, in order, and without topics that nobody is subscribed to. -/
structure Lists (b : Bus H) (live : List (Subscribed H)) : Prop where
  subscribers (topic : String) : b.subscribers topic = (live.filter (·.handle.topic = topic)).map fun s => ⟨s.handle.id, s.handler⟩
  occupied : ∀ row ∈ b.topics.rows, row.2 ≠ []

/-- The subscribers of a topic that the register has are those in its row. -/
theorem subscribers_of_row {row : String × List (Subscription H)} (h : row ∈ b.topics.rows) : b.subscribers row.1 = row.2 := by
  rw [subscribers, Table.get?_eq_some_iff.2 h, Option.getD_some]

namespace Lists

/-- Nobody is subscribed to a new bus. -/
theorem new (logsFaults : Bool) : Lists (Bus.new logsFaults : Bus H) [] := ⟨fun _ => rfl, nofun⟩

/-- Only the register counts. -/
theorem congr {b' : Bus H} (h : b.Lists live) (topics : b'.topics = b.topics) : b'.Lists live where
  subscribers topic := by rw [← h.subscribers topic, Bus.subscribers, topics, Bus.subscribers]
  occupied := topics ▸ h.occupied

/-- A new subscription is the last of the live ones. -/
theorem subscribe (h : b.Lists live) (topic : String) (handler : H) :
    (b.subscribe topic handler).Lists (live ++ [⟨⟨b.nextId, topic⟩, handler⟩]) where
  subscribers on := by
    rw [subscribers_subscribe, h.subscribers, List.filter_append, List.map_append]
    by_cases hon : topic = on <;> simp [hon]
  occupied row hrow := by
    rcases Table.mem_put hrow with hold | rfl
    · exact h.occupied row hold
    · exact List.append_ne_nil_of_right_ne_nil _ (List.cons_ne_nil _ _)

/-- Whoever gives up a handle is not among the live ones any more, and all others are. -/
theorem unsubscribe (h : b.Lists live) (handle : SubscriptionHandle) : (b.unsubscribe handle).Lists (live.filter (·.handle ≠ handle)) where
  subscribers topic := by
    rw [subscribers_unsubscribe, h.subscribers, List.filter_filter]
    by_cases hon : handle.topic = topic
    · -- on the topic of the handle, handles differ exactly if their numbers do
      have hsame : ∀ s ∈ live, (s.handle.topic = topic ∧ s.handle.id ≠ handle.id ↔ s.handle.topic = topic ∧ s.handle ≠ handle) := by
        intro s _
        refine and_congr_right fun htopic => not_congr ⟨fun hid => ?_, fun heq => by rw [heq]⟩
        cases hs : s.handle
        cases handle
        simp_all
      rw [if_pos hon, List.filter_map, List.filter_filter]
      refine congrArg _ (List.filter_congr fun s hs => Bool.eq_iff_iff.2 ?_)
      simpa [and_comm] using hsame s hs
    · rw [if_neg hon]
      refine congrArg _ (List.filter_congr fun s _ => ?_)
      have hother : s.handle.topic = topic → s.handle ≠ handle := by
        rintro rfl rfl
        exact hon rfl
      simpa using hother
  occupied row hrow := by
    rw [Bus.unsubscribe] at hrow
    split at hrow
    · split at hrow
      · exact h.occupied row (List.mem_of_mem_filter hrow)
      · rename_i hothers
        rcases Table.mem_put hrow with hold | rfl
        · exact h.occupied row hold
        · simpa using hothers
    · exact h.occupied row hrow

/-- Giving up a handle of which no subscription is live changes nothing at all. -/
theorem unsubscribe_eq (h : b.Lists live) {handle : SubscriptionHandle} (gone : ∀ s ∈ live, s.handle ≠ handle) :
    b.unsubscribe handle = b := by
  rw [Bus.unsubscribe]
  split
  · rename_i hcontains
    obtain ⟨subscribed, hget⟩ := Table.exists_of_contains hcontains
    have hsubscribers : b.subscribers handle.topic = subscribed := by rw [Bus.subscribers, hget, Option.getD_some]
    have hothers : b.others handle = subscribed := by
      rw [others, hsubscribers, List.filter_eq_self]
      intro s hs
      rw [← hsubscribers, h.subscribers, List.mem_map] at hs
      obtain ⟨made, hmade, rfl⟩ := hs
      obtain ⟨hlive, htopic⟩ := List.mem_filter.1 hmade
      refine decide_eq_true fun hid => gone made hlive ?_
      cases hs : made.handle
      cases handle
      simp_all
    have hoccupied : subscribed ≠ [] := h.occupied _ (Table.get?_eq_some_iff.1 hget)
    rw [hothers, if_neg (by simpa using hoccupied), Table.put_of_get? hget]
  · rfl

/-- The number of subscribers of a topic. -/
theorem subscriberCount_eq (h : b.Lists live) (topic : String) : b.subscriberCount topic = live.countP (·.handle.topic = topic) := by
  rw [subscriberCount, h.subscribers, List.length_map, List.countP_eq_length_filter]

/-- The topics in the statistics are those with live subscriptions, with their number. -/
theorem mem_topicSizes (h : b.Lists live) (topic : String) (size : Nat) :
    (topic, size) ∈ b.topicSizes ↔ 0 < size ∧ size = live.countP (·.handle.topic = topic) := by
  rw [← h.subscriberCount_eq, topicSizes, List.mem_map]
  constructor
  · rintro ⟨row, hrow, heq⟩
    cases heq
    exact ⟨List.length_pos_iff.2 (h.occupied row hrow), by rw [subscriberCount, subscribers_of_row hrow]⟩
  · rintro ⟨hpos, rfl⟩
    rw [subscriberCount, Bus.subscribers] at hpos ⊢
    cases hget : b.topics.get? topic with
    | none => simp [hget] at hpos
    | some subscribed => exact ⟨_, Table.get?_eq_some_iff.1 hget, rfl⟩

end Lists

/-- Subscriptions cut into topics are as many as before, if every topic is there. -/
theorem sum_of_cut {rows : List (String × List (Subscription H))} (once : (rows.map (·.1)).Nodup)
    (covered : ∀ s ∈ live, s.handle.topic ∈ rows.map (·.1)) (cut : ∀ row ∈ rows, row.2.length = live.countP (·.handle.topic = row.1)) :
    rows.foldr (fun row total => row.2.length + total) 0 = live.length := by
  induction rows generalizing live with
  | nil =>
    cases live with
    | nil => rfl
    | cons s rest => exact absurd (covered s List.mem_cons_self) List.not_mem_nil
  | cons row rest ih =>
    obtain ⟨hrow, hrest⟩ := List.nodup_cons.1 once
    have hcovered : ∀ s ∈ live.filter (·.handle.topic ≠ row.1), s.handle.topic ∈ rest.map (·.1) := by
      intro s hs
      obtain ⟨hlive, hother⟩ := List.mem_filter.1 hs
      exact (List.mem_cons.1 (covered s hlive)).resolve_left (of_decide_eq_true hother)
    have hcut : ∀ later ∈ rest, later.2.length = (live.filter (·.handle.topic ≠ row.1)).countP (·.handle.topic = later.1) := by
      intro later hlater
      have hne : later.1 ≠ row.1 := fun heq => hrow (List.mem_map.2 ⟨later, hlater, heq⟩)
      rw [cut later (List.mem_cons_of_mem _ hlater), List.countP_filter]
      refine List.countP_congr fun s _ => ?_
      simp only [decide_eq_true_eq, Bool.and_eq_true]
      exact ⟨fun heq => ⟨heq, heq ▸ hne⟩, And.left⟩
    rw [List.foldr_cons, ih hrest hcovered hcut, cut row List.mem_cons_self, List.countP_eq_length_filter]
    rw [List.length_eq_length_filter_add (·.handle.topic = row.1) (l := live)]
    simp only [decide_not]

/-- The statistics count every live subscription once. -/
theorem Lists.totalSubscriptions_eq (h : b.Lists live) : b.stats.totalSubscriptions = live.length := by
  have hcovered : ∀ s ∈ live, s.handle.topic ∈ b.topics.rows.map (·.1) := by
    intro s hs
    have hpos : 0 < live.countP (·.handle.topic = s.handle.topic) := List.countP_pos_iff.2 ⟨s, hs, by simp⟩
    obtain ⟨row, hrow, heq⟩ := List.mem_map.1 ((h.mem_topicSizes s.handle.topic _).2 ⟨hpos, rfl⟩)
    exact List.mem_map.2 ⟨row, hrow, congrArg Prod.fst heq⟩
  have hcut : ∀ row ∈ b.topics.rows, row.2.length = live.countP (·.handle.topic = row.1) := fun row hrow =>
    ((h.mem_topicSizes row.1 row.2.length).1 (List.mem_map_of_mem hrow)).2
  rw [← sum_of_cut b.topics.nodup hcovered hcut, stats, topicSizes, List.foldr_map]

end Bus

/-! ## Runs -/

namespace Run

variable {V : Vocabulary} {c : Client V} {ρ : Type} (run : Run c ρ) {n : Nat}

/-- What happens to the register from one state of a run to the next. -/
inductive Registers (n : Nat) : Prop where
  | subscribe (s : Subscribed V.Handler) (made : (run n).subscribes? = some s) (none : (run n).unsubscribes? = none)
    (number : s.handle.id = (run.bus n).nextId) (after : run.bus (n + 1) = (run.bus n).subscribe s.handle.topic s.handler)
  | unsubscribe (handle : SubscriptionHandle) (none : (run n).subscribes? = none) (given : (run n).unsubscribes? = some handle)
    (after : run.bus (n + 1) = (run.bus n).unsubscribe handle)
  | neither (noSubscribe : (run n).subscribes? = none) (noUnsubscribe : (run n).unsubscribes? = none)
    (topics : (run.bus (n + 1)).topics = (run.bus n).topics) (nextId : (run.bus (n + 1)).nextId = (run.bus n).nextId)

/-- The register changes by requests of programs, and in no other way. -/
theorem registers (n : Nat) : run.Registers n := by
  have hstep : (∃ op, (run n).request? = some (.plain (.bus op)) ∧ (run (n + 1)).scene.world.bus = (op.run (run.bus n)).2) ∨
      (∀ op, (run n).request? ≠ some (.plain (.bus op))) ∧ (run n).scene.SameRegister (run (n + 1)).scene := by
    generalize hnext : run (n + 1) = next
    cases hnext ▸ run.next n with
    | step => exact register_step (c := c) (run n)
    | again finished memory program => exact Or.inr ⟨by simp [MachineState.request?, finished], rfl, rfl⟩
  rcases hstep with ⟨op, hrequest, hbus⟩ | ⟨hother, same⟩
  · cases op with
    | subscribe topic handler =>
      exact .subscribe ⟨⟨(run.bus n).nextId, topic⟩, handler⟩ (by rw [MachineState.subscribes?, hrequest]; rfl)
        (by rw [MachineState.unsubscribes?, hrequest]) rfl hbus
    | unsubscribe handle =>
      exact .unsubscribe handle (by rw [MachineState.subscribes?, hrequest]) (by rw [MachineState.unsubscribes?, hrequest]) hbus
    | _ =>
      exact .neither (by rw [MachineState.subscribes?, hrequest]) (by rw [MachineState.unsubscribes?, hrequest])
        (congrArg _ hbus) (congrArg _ hbus)
  · refine .neither ?_ ?_ same.topics same.nextId
    · rw [MachineState.subscribes?]
      split
      · exact absurd ‹_› (hother _)
      · rfl
    · rw [MachineState.unsubscribes?]
      split
      · exact absurd ‹_› (hother _)
      · rfl

/-- After one more step, the live subscriptions are those that have not been given up with it, and the one that it made. -/
theorem live_succ (n : Nat) :
    run.live (n + 1) = (run.live n).filter (fun s => (run n).unsubscribes? ≠ some s.handle) ++ (run n).subscribes?.toList := by
  have hnow : ∀ handle, run.Keeps n (n + 1) handle := fun handle j hj hij => absurd hij (by omega)
  have hbefore : ∀ i < n, ∀ handle, run.Keeps i (n + 1) handle ↔ run.Keeps i n handle ∧ (run n).unsubscribes? ≠ some handle := by
    intro i hi handle
    refine ⟨fun h => ⟨fun j hj => h j (by omega), h n n.lt_succ_self hi⟩, fun h j hj hij => ?_⟩
    rcases Nat.lt_succ_iff_lt_or_eq.1 hj with hlt | rfl
    · exact h.1 j hlt hij
    · exact h.2
  have hlast : ([n].filterMap fun i => (run i).subscribes?.filter fun s => run.Keeps i (n + 1) s.handle) =
      (run n).subscribes?.toList := by
    cases h : (run n).subscribes? <;> simp [h, hnow]
  rw [live, List.range_succ, List.filterMap_append, hlast, live, List.filter_filterMap]
  refine congrArg (· ++ _) (List.filterMap_congr fun i hi => ?_)
  rw [Option.filter_filter]
  refine congrArg (Option.filter · _) (funext fun s => Bool.eq_iff_iff.2 ?_)
  simpa using hbefore i (List.mem_range.1 hi) s.handle

/-- A step without a request to subscribe or to unsubscribe leaves the live subscriptions as they are. -/
theorem live_of_neither (noSubscribe : (run n).subscribes? = none) (noUnsubscribe : (run n).unsubscribes? = none) :
    run.live (n + 1) = run.live n := by
  rw [live_succ, noSubscribe, noUnsubscribe]
  simp

/-- A subscription is live from the next state on. -/
theorem live_of_subscribe {s : Subscribed V.Handler} (made : (run n).subscribes? = some s) (none : (run n).unsubscribes? = none) :
    run.live (n + 1) = run.live n ++ [s] := by
  rw [live_succ, made, none]
  simp

/-- Whoever gives up a handle ends what was subscribed with it. -/
theorem live_of_unsubscribe {handle : SubscriptionHandle} (none : (run n).subscribes? = none)
    (given : (run n).unsubscribes? = some handle) : run.live (n + 1) = (run.live n).filter (·.handle ≠ handle) := by
  rw [live_succ, none, given]
  simp [eq_comm]

/-- Where numbers increase, a handle belongs to one subscription only. -/
theorem filter_of_increasing {H : Type} {older newer : List (Subscribed H)} {s : Subscribed H}
    (increasing : (older ++ s :: newer).Pairwise (·.handle.id < ·.handle.id)) :
    (older ++ s :: newer).filter (·.handle ≠ s.handle) = older ++ newer := by
  obtain ⟨-, hnewer, hbetween⟩ := List.pairwise_append.1 increasing
  have hold : ∀ t ∈ older, t.handle ≠ s.handle := fun t ht heq => by
    have hlt := hbetween t ht s List.mem_cons_self
    rw [heq] at hlt
    exact Nat.lt_irrefl _ hlt
  have hnew : ∀ t ∈ newer, t.handle ≠ s.handle := fun t ht heq => by
    have hlt := (List.pairwise_cons.1 hnewer).1 t ht
    rw [heq] at hlt
    exact Nat.lt_irrefl _ hlt
  rw [List.filter_append, List.filter_cons_of_neg (by simp), List.filter_eq_self.2 fun t ht => decide_eq_true (hold t ht),
    List.filter_eq_self.2 fun t ht => decide_eq_true (hnew t ht)]

/-- What is put down of live subscriptions: the register lists them, and later ones have greater numbers, all below the next one. -/
structure Registered (n : Nat) : Prop where
  lists : (run.bus n).Lists (run.live n)
  increasing : (run.live n).Pairwise (·.handle.id < ·.handle.id)
  numbered : ∀ s ∈ run.live n, s.handle.id < (run.bus n).nextId

/-- The register lists the live subscriptions all along. -/
theorem registered (n : Nat) : run.Registered n := by
  induction n with
  | zero =>
    obtain ⟨config, logsFaults, memory, program, hfirst⟩ := run.first
    have hnew : run.bus 0 = Bus.new logsFaults := congrArg (·.scene.world.bus) hfirst
    exact ⟨hnew ▸ .new logsFaults, .nil, nofun⟩
  | succ n ih =>
    cases run.registers n with
    | subscribe s made none number after =>
      have hlive := run.live_of_subscribe made none
      have hlists := ih.lists.subscribe s.handle.topic s.handler
      rw [← number, ← after, ← hlive] at hlists
      refine ⟨hlists, ?_, ?_⟩
      · rw [hlive]
        refine List.pairwise_append.2 ⟨ih.increasing, List.pairwise_singleton _ _, fun old hold new hnew => ?_⟩
        rw [List.mem_singleton.1 hnew, number]
        exact ih.numbered old hold
      · intro t ht
        rw [after]
        rw [hlive, List.mem_append, List.mem_singleton] at ht
        rcases ht with ht | rfl
        · exact Nat.lt_succ_of_lt (ih.numbered t ht)
        · exact number ▸ Nat.lt_succ_self _
    | unsubscribe handle none given after =>
      have hlive := run.live_of_unsubscribe none given
      have hlists := ih.lists.unsubscribe handle
      rw [← after, ← hlive] at hlists
      have hnext : (run.bus (n + 1)).nextId = (run.bus n).nextId := by rw [after, Bus.nextId_unsubscribe]
      refine ⟨hlists, hlive ▸ ih.increasing.filter _, fun t ht => ?_⟩
      rw [hlive] at ht
      exact hnext ▸ ih.numbered t (List.mem_of_mem_filter ht)
    | neither noSubscribe noUnsubscribe topics nextId =>
      have hlive := run.live_of_neither noSubscribe noUnsubscribe
      exact ⟨hlive ▸ ih.lists.congr topics, hlive ▸ ih.increasing, fun t ht => nextId ▸ ih.numbered t (hlive ▸ ht)⟩

/-- The numbers that the bus gives never become less. -/
theorem nextId_mono {i j : Nat} (h : i ≤ j) : (run.bus i).nextId ≤ (run.bus j).nextId := by
  induction h with
  | refl => exact Nat.le_refl _
  | @step m _ ih =>
    refine Nat.le_trans ih ?_
    cases run.registers m with
    | subscribe s made none number after => exact after ▸ Nat.le_succ _
    | unsubscribe handle none given after => rw [after, Bus.nextId_unsubscribe]
    | neither noSubscribe noUnsubscribe topics nextId => exact nextId ▸ Nat.le_refl _

/-- A subscription that is made gets the next number, and that one is used up. -/
theorem number_of_subscribes? {s : Subscribed V.Handler} (h : (run n).subscribes? = some s) :
    s.handle.id = (run.bus n).nextId ∧ s.handle.id < (run.bus (n + 1)).nextId := by
  cases run.registers n with
  | subscribe t made none number after =>
    cases made.symm.trans h
    exact ⟨number, by rw [after, number]; exact Nat.lt_succ_self _⟩
  | unsubscribe handle none given after => cases none.symm.trans h
  | neither noSubscribe noUnsubscribe topics nextId => cases noSubscribe.symm.trans h

/-- The register of the bus and the live subscriptions, over a run. -/
structure RegistersLive : Prop where
  /-- Later subscriptions have greater numbers. -/
  increasing {i j : Nat} (later : i < j) {s t : Subscribed V.Handler} (first : (run i).subscribes? = some s)
    (second : (run j).subscribes? = some t) : s.handle.id < t.handle.id
  /-- A new subscription is live behind the others. -/
  subscribe (n : Nat) {s : Subscribed V.Handler} (made : (run n).subscribes? = some s) : run.live (n + 1) = run.live n ++ [s]
  /-- Giving up a handle ends the one subscription that it was the answer to, if that is live, and changes nothing otherwise. -/
  unsubscribe (n : Nat) {handle : SubscriptionHandle} (given : (run n).unsubscribes? = some handle) :
    (∃ s older newer, s.handle = handle ∧ run.live n = older ++ s :: newer ∧ run.live (n + 1) = older ++ newer) ∨
      (∀ s ∈ run.live n, s.handle ≠ handle) ∧ run.live (n + 1) = run.live n ∧ run.bus (n + 1) = run.bus n
  /-- No other request, and nothing that the machine does, makes or ends a subscription. -/
  stays (n : Nat) (noSubscribe : (run n).subscribes? = none) (noUnsubscribe : (run n).unsubscribes? = none) :
    run.live (n + 1) = run.live n
  /-- A topic has its live subscriptions as subscribers, in the order in which they were made. -/
  subscribers (n : Nat) (topic : String) :
    (run.bus n).subscribers topic = ((run.live n).filter (·.handle.topic = topic)).map fun s => ⟨s.handle.id, s.handler⟩
  /-- They can be counted. -/
  subscriberCount (n : Nat) (topic : String) :
    (run.bus n).subscriberCount topic = (run.live n).countP (·.handle.topic = topic)
  /-- The statistics list the topics that somebody is subscribed to, with these counts. -/
  topics (n : Nat) (topic : String) (size : Nat) :
    (topic, size) ∈ (run.bus n).stats.topics ↔ 0 < size ∧ size = (run.live n).countP (·.handle.topic = topic)
  /-- They list each topic once. -/
  once (n : Nat) : ((run.bus n).stats.topics.map (·.1)).Nodup
  /-- They count the live subscriptions. -/
  total (n : Nat) : (run.bus n).stats.totalSubscriptions = (run.live n).length

/-- At every moment of every run, also in the midst of publications, the register is the list of the live subscriptions. -/
theorem registersLive : run.RegistersLive where
  increasing later s t first second := by
    have hnumber := (run.number_of_subscribes? first).2
    have hmono := run.nextId_mono later
    rw [(run.number_of_subscribes? second).1]
    exact Nat.lt_of_lt_of_le hnumber hmono
  subscribe n s made := by
    cases run.registers n with
    | subscribe t _ none _ _ => exact run.live_of_subscribe made none
    | unsubscribe handle none _ _ => cases none.symm.trans made
    | neither noSubscribe _ _ _ => cases noSubscribe.symm.trans made
  unsubscribe n handle given := by
    cases run.registers n with
    | subscribe s _ none _ _ => cases none.symm.trans given
    | neither _ noUnsubscribe _ _ => cases noUnsubscribe.symm.trans given
    | unsubscribe given' none hgiven after =>
      cases hgiven.symm.trans given
      have hlive := run.live_of_unsubscribe none given
      by_cases hmem : ∃ s ∈ run.live n, s.handle = handle
      · obtain ⟨s, hmem, rfl⟩ := hmem
        obtain ⟨older, newer, heq⟩ := List.append_of_mem hmem
        exact Or.inl ⟨s, older, newer, rfl, heq, by rw [hlive, heq, filter_of_increasing (heq ▸ (run.registered n).increasing)]⟩
      · have hgone : ∀ s ∈ run.live n, s.handle ≠ handle := fun s hs heq => hmem ⟨s, hs, heq⟩
        refine Or.inr ⟨hgone, ?_, after.trans ((run.registered n).lists.unsubscribe_eq hgone)⟩
        rw [hlive, List.filter_eq_self]
        exact fun s hs => decide_eq_true (hgone s hs)
  stays n := run.live_of_neither
  subscribers n := (run.registered n).lists.subscribers
  subscriberCount n := (run.registered n).lists.subscriberCount_eq
  topics n := (run.registered n).lists.mem_topicSizes
  once n := by
    rw [Bus.stats, Bus.topicSizes, List.map_map]
    exact (run.bus n).topics.nodup
  total n := (run.registered n).lists.totalSubscriptions_eq

end Run

end StepEngine
