import Mathlib.Tactic.IntervalCases
import StepEngine.Proofs.Announcement
import StepEngine.Proofs.History
import StepEngine.Proofs.Progress
import StepEngine.Proofs.Receivers

/-!
# Resolution: the first one wins

Of all the calls that resolve a live key, the first one is accepted and every later one is refused. The record of the key says in
between what the first call has made of it, and whoever is attached gets one resumption for it. All this is decided in one step of the
machine, before the code that gets the resumption runs, so it does not matter what that code calls in turn, on the same key or on
others.
-/

namespace StepEngine

open Machine

variable {V : Vocabulary} {ρ : Type} {c : Client V}

namespace Run

variable (run : Run c ρ) (n : Nat)

/-! ## The record of a key -/

/-- The record of a key in a state, as long as the key is live. -/
def record? (key : AsyncKey) : Option KeyRecord := (run n).ledger.keys.keys.get? key

/-- A program tries to resolve a live key with the next step. -/
def Tries (key : AsyncKey) (outcome : AsyncOutcome) : Prop :=
  (run n).request? = some (.resolve key outcome) ∧ ∃ record, run.record? n key = some record

/-- A program tries to resolve a live key with the next step, and nobody has tried that before. -/
structure TriesFirst (key : AsyncKey) (outcome : AsyncOutcome) (record : KeyRecord) : Prop where
  requested : (run n).request? = some (.resolve key outcome)
  live : run.record? n key = some record
  untried : ∀ i < n, ∀ given, ¬ run.Tries i key given

variable {run n} {m : Nat} {key : AsyncKey} {outcome : AsyncOutcome} {record : KeyRecord}

/-- A step leaves the record of a live key alone, or it resolves the key, which is pending then, or it drops the key with its
workflow. -/
theorem record?_succ (h : run.record? n key = some record) :
    run.record? (n + 1) key = some record ∨
      (∃ outcome, (run n).request? = some (.resolve key outcome) ∧ record.state = .pending ∧
        run.record? (n + 1) key = some (KeyRegistry.KeyRecord.resolve record outcome (run n).scene.world.clock)) ∨
      (∃ op, (run n).request? = some op ∧ op.Forgets record.step.workflow) ∧ run.record? (n + 1) key = none := by
  rw [record?, run.keys_succ n]
  cases hcall : (run n).keyCall? with
  | none => exact Or.inl h
  | some call =>
    rcases KeyRegistry.get?_after call (run n).scene.world.clock h with hstill | ⟨outcome, rfl, hpending, hget⟩ | ⟨rfl, hgone⟩
    · exact Or.inl hstill
    · exact Or.inr (Or.inl ⟨outcome, MachineState.request_of_resolve hcall, hpending, hget⟩)
    · exact Or.inr (Or.inr ⟨MachineState.request_of_purge hcall, hgone⟩)

/-- A step leaves a key that is not live alone, or it binds it: the key is pending then, and its token was unused before. -/
theorem record?_succ_none (h : run.record? n key = none) :
    run.record? (n + 1) key = none ∨
      (run n).ledger.keys.isUsed key = false ∧
        ∃ step, run.record? (n + 1) key = some ⟨step, .pending, none, (run n).scene.world.clock, none⟩ := by
  rw [record?, run.keys_succ n]
  cases (run n).keyCall? with
  | none => exact Or.inl h
  | some call => exact KeyRegistry.get?_after_none call (run n).scene.world.clock h

/-- As long as nobody has tried to resolve a live key, it is pending. -/
theorem record_of_untried (live : run.record? n key = some record) (untried : ∀ i < n, ∀ given, ¬ run.Tries i key given) :
    record.state = .pending ∧ record.payload = none ∧ record.resolvedAt = none := by
  induction n generalizing record with
  | zero =>
    obtain ⟨config, logsFaults, memory, program, hfirst⟩ := run.first
    rw [record?, hfirst] at live
    cases live
  | succ n ih =>
    cases hbefore : run.record? n key with
    | none =>
      rcases record?_succ_none hbefore with hnone | ⟨-, step, hbound⟩
      · exact absurd (live.symm.trans hnone) nofun
      · cases live.symm.trans hbound
        exact ⟨rfl, rfl, rfl⟩
    | some old =>
      rcases record?_succ hbefore with hsame | ⟨outcome, hrequest, -, -⟩ | ⟨-, hgone⟩
      · cases live.symm.trans hsame
        exact ih hbefore fun i hi => untried i (Nat.lt_succ_of_lt hi)
      · exact absurd ⟨hrequest, old, hbefore⟩ (untried n (Nat.lt_succ_self n) outcome)
      · exact absurd (live.symm.trans hgone) nofun

/-- Whoever tries to resolve a key is the first one, or somebody was before. -/
theorem Tries.exists_first (h : run.Tries n key outcome) :
    ∃ m ≤ n, ∃ first record, run.TriesFirst m key first record := by
  classical
  have hsome : ∃ m outcome, run.Tries m key outcome := ⟨n, outcome, h⟩
  obtain ⟨first, hrequest, record, hlive⟩ := Nat.find_spec hsome
  exact ⟨Nat.find hsome, Nat.find_min' hsome ⟨outcome, h⟩, first, record, hrequest, hlive,
    fun i hi given htries => Nat.find_min hsome hi ⟨given, htries⟩⟩

namespace TriesFirst

/-- A key that nobody has tried to resolve before is pending. -/
theorem isPending (h : run.TriesFirst n key outcome record) : (run n).ledger.keys.IsPending key record.step :=
  ⟨record, h.live, rfl, (record_of_untried h.live h.untried).1⟩

/-- The registry accepts the first resolution. -/
theorem resolve_eq (h : run.TriesFirst n key outcome record) :
    ∃ keys, (run n).scene.world.keys.resolve key outcome (run n).scene.world.clock = .ok (⟨key, record.step, outcome⟩, keys) :=
  ⟨_, h.isPending.resolve_eq outcome _⟩

/-- The record after the first resolution. -/
theorem record?_next (h : run.TriesFirst n key outcome record) :
    run.record? (n + 1) key = some (KeyRegistry.KeyRecord.resolve record outcome (run n).scene.world.clock) := by
  have hcall : (run n).keyCall? = some (.resolve key outcome) := by
    rw [MachineState.keyCall?, h.requested]
    rfl
  have hget : (run n).ledger.keys.keys.get? key = some record := h.live
  rw [record?, run.keys_succ n, hcall, KeyRegistry.afterCall?, Option.elim_some, KeyCall.after, h.isPending.resolve_eq]
  simp only [Table.get?_modify_self, hget, Option.map_some]

/-- The first resolution is one in the ledger of the run. -/
theorem resolves (h : run.TriesFirst n key outcome record) : run.Resolves n ⟨key, record.step, outcome⟩ :=
  ⟨h.requested, h.isPending, _, h.record?_next, rfl, rfl, rfl⟩

/-- A key that is live after its first resolution still has the record that the resolution has made. -/
theorem record_eq {now : KeyRecord} (h : run.TriesFirst m key outcome record) (hlt : m < n) (live : run.record? n key = some now) :
    now = KeyRegistry.KeyRecord.resolve record outcome (run m).scene.world.clock := by
  induction n generalizing now with
  | zero => cases hlt
  | succ n ih =>
    rcases Nat.lt_succ_iff_lt_or_eq.1 hlt with hlt | rfl
    · cases hbefore : run.record? n key with
      | none =>
        rcases record?_succ_none hbefore with hnone | ⟨hunused, -⟩
        · exact absurd (live.symm.trans hnone) nofun
        · -- the token is used, so nobody binds the key again
          exact absurd ((h.resolves.isSpent hlt).1.symm.trans hunused) nofun
      | some old =>
        have hold := ih hlt hbefore
        rcases record?_succ hbefore with hsame | ⟨given, -, hpending, -⟩ | ⟨-, hgone⟩
        · exact (Option.some.inj (live.symm.trans hsame)).trans hold
        · rw [hold] at hpending
          exact absurd hpending (KeyRegistry.keyState_ne_pending outcome)
        · exact absurd (live.symm.trans hgone) nofun
    · exact Option.some.inj (live.symm.trans h.record?_next)

/-- A key stays live after its first resolution until its workflow is forgotten. -/
theorem record?_eq (h : run.TriesFirst m key outcome record) (hlt : m < n)
    (kept : ∀ i, m < i → i < n → ∀ op, (run i).request? = some op → ¬ op.Forgets record.step.workflow) :
    run.record? n key = some (KeyRegistry.KeyRecord.resolve record outcome (run m).scene.world.clock) := by
  induction n with
  | zero => cases hlt
  | succ n ih =>
    rcases Nat.lt_succ_iff_lt_or_eq.1 hlt with hlt | rfl
    · have hbefore := ih hlt fun i hmi hin => kept i hmi (Nat.lt_succ_of_lt hin)
      rcases record?_succ hbefore with hsame | ⟨given, -, hpending, -⟩ | ⟨⟨op, hrequest, forgets⟩, -⟩
      · exact hsame
      · exact absurd hpending (KeyRegistry.keyState_ne_pending outcome)
      · exact absurd forgets (kept n hlt (Nat.lt_succ_self n) op hrequest)
    · exact h.record?_next

end TriesFirst

/-- Everybody who tries to resolve a key after the first one is refused. -/
theorem resolve_eq_of_later {first : AsyncOutcome} (h : run.TriesFirst m key first record) (hlt : m < n)
    (tries : run.Tries n key outcome) :
    (run n).scene.world.keys.resolve key outcome (run n).scene.world.clock = .error (.alreadyResolved key first.keyState.text) := by
  obtain ⟨-, now, live⟩ := tries
  have hget : (run n).scene.world.keys.keys.get? key = some now := live
  rw [KeyRegistry.resolve, hget, h.record_eq hlt live]
  exact if_neg (KeyRegistry.keyState_ne_pending first)

/-- The code of a receiver begins with the first resolution of a key. -/
theorem triesFirst_of_receives {r : Resumption} (h : Receives c (run n) r) :
    ∃ record, run.TriesFirst n r.key r.outcome record ∧ r.step = record.step := by
  obtain ⟨keys, hresolve⟩ := h.accepted
  obtain ⟨-, -, ⟨record, live, hstep, hpending⟩, -⟩ := KeyRegistry.resolve_eq_ok hresolve
  have htries : run.Tries n r.key r.outcome := ⟨h.requested, record, live⟩
  obtain ⟨m, hle, first, old, hfirst⟩ := htries.exists_first
  rcases Nat.lt_or_eq_of_le hle with hlt | rfl
  · exact absurd (hresolve.symm.trans (resolve_eq_of_later hfirst hlt htries)) nofun
  · exact ⟨record, ⟨h.requested, live, hfirst.untried⟩, hstep.symm⟩

/-! ## The answer to the first resolution -/

variable {k : Kind} {below : Stack V ρ (.code k)}

/-- The code that gets the resumption of a key keeps the call that resolved the key from returning with the program `next`. -/
inductive Withholds (run : Run c ρ) (n : Nat) (next : Program V (k.Result ρ)) (below : Stack V ρ (.code k)) : Prop where
  /-- A receiver runs for ever. -/
  | receiving (hangs : run.Hangs (n + 1) (.receiving next below))
  /-- A receiver panics. -/
  | panicking {m : Nat} {message : String} (later : n < m) (inside : ∀ i, n < i → i ≤ m → (run i).control.On (.receiving next below))
      (panics : (run m).control = .unwind message (.receiving next below))
  /-- The activation that carries the resumption out never ends, because a handler or its step code runs for ever. -/
  | stuck {seat : Seat} (inside : ∀ i, n < i → (run i).control.Within c seat (.awaiting (fun _ => next) false below))
      (stuck : run.Stuck (n + 1) seat (.awaiting (fun _ => next) false below))
  /-- The activation that carries the resumption out never ends, because its step instance is resumed again and again. -/
  | resumed {seat : Seat} (inside : ∀ i, n < i → (run i).control.Within c seat (.awaiting (fun _ => next) false below))
      (again : ∀ bound, ∃ m outcome, bound ≤ m ∧ (run m).begins? c = some (.resumption seat outcome))

/-- A call that is made in a state can return with the program `next` only, and it does so unless the code that it calls keeps it from
returning. -/
structure Answers (run : Run c ρ) (n : Nat) (next : Program V (k.Result ρ)) (below : Stack V ρ (.code k)) : Prop where
  only : ∀ m program, run.Returns n m below program → program = next
  returns : (∃ m, run.Returns n m below next) ∨ run.Withholds n next below

variable {next : Program V (k.Result ρ)}

/-- The state after a program has called to resolve a key. -/
theorem next_of_resolve {next : Except KeyError Unit → Program V (k.Result ρ)}
    (h : (run n).control = .run (.call (.resolve key outcome) next) below) :
    run (n + 1) = resolve c (run n).scene key outcome next below := run.next_of_call h

/-- A call that returns with a program answers with that program. -/
theorem Returns.answers (h : run.Returns n m below next) : run.Answers n next below :=
  ⟨fun _ _ h' => (h.unique h').2, Or.inl ⟨m, h⟩⟩

/-- A call whose receiver runs answers when the receiver has ended. -/
theorem answers_of_receiving (h : (run (n + 1)).control.On (.receiving next below)) : run.Answers n next below := by
  have higher : ∀ {i}, (run i).control.On (.receiving next below) → (run i).control.Over below := fun hon => hon.isOver .refl
  rcases code_ends h with hangs | ⟨m, hle, hon, ⟨result, hdone⟩ | ⟨message, hpanics⟩⟩
  · exact ⟨fun i program hreturns => absurd (higher (hangs i hreturns.later)) hreturns.not_over, Or.inr (.receiving hangs)⟩
  · have hback : (run (m + 1)).control = .run next below := by
      rw [run.next_of_control hdone (by simp), MachineState.step]
      rfl
    exact Returns.answers ⟨by omega, fun i hni him => higher (hon i hni (by omega)), hback⟩
  · have hnext : (run (m + 1)).control = .unwind message below := by
      rw [run.next_of_control hpanics (by simp), MachineState.step]
      rfl
    refine ⟨fun i program hreturns => ?_, Or.inr (.panicking hle hon hpanics)⟩
    rcases Nat.lt_trichotomy i (m + 1) with hlt | rfl | hlt
    · exact absurd (higher (hon i hreturns.later (by omega))) hreturns.not_over
    · cases hnext.symm.trans hreturns.back
    · have hover := hreturns.inside (m + 1) (by omega) hlt
      rw [hnext] at hover
      exact absurd hover.2 Stack.not_beneath_self

/-- A call that hands a resumption to an executor answers at once or when the step instance that is resumed has settled for good. -/
theorem answers_of_applyResumption {sc : Scene V} {executor : Nat} {r : Resumption}
    (h : run (n + 1) = applyResumption c sc executor r (fun _ => next) below) : run.Answers n next below := by
  by_cases hwakes : ∃ slot, sc.world.slots.current? executor r.step = some slot ∧ slot.running = false ∧ slot.Awaits r.key
  · obtain ⟨slot, current, idle, awaits⟩ := hwakes
    obtain ⟨sc', -, heq⟩ := applyResumption_eq (c := c) (fun _ => next) below current idle awaits
    have hwithin : (run (n + 1)).control.Within c slot.seat (.awaiting (fun _ => next) false below) := by
      rw [h, heq]
      exact .announce (by simp) _ _
    refine ⟨fun i program hreturns => ?_, ?_⟩
    · obtain ⟨-, -, -, -, hprogram, -⟩ := hreturns.ends hwithin
      exact hprogram
    · by_cases inside : ∀ i, n < i → (run i).control.Within c slot.seat (.awaiting (fun _ => next) false below)
      · rcases ends_or_diverges hwithin with ⟨m, result, hle, hall, hends⟩ | stuck | again
        · exact Or.inl ⟨_, hends.returns hle fun i hni him => hall i hni him⟩
        · exact Or.inr (.stuck inside stuck)
        · exact Or.inr (.resumed inside again)
      · simp only [not_forall] at inside
        obtain ⟨i, hni, hout⟩ := inside
        rcases within_or_ends hwithin hni with hall | ⟨m, result, hle, -, hall, hends⟩
        · exact absurd (hall i hni (Nat.le_refl i)) hout
        · exact Or.inl ⟨_, hends.returns hle fun j hnj hjm => hall j hnj hjm⟩
  · obtain ⟨sc', heq, -⟩ := applyResumption_eq_none (c := c) (fun _ => next) below
      fun slot current idle awaits => hwakes ⟨slot, current, idle, awaits⟩
    have hback : (run (n + 1)).control = .run next below := by rw [h, heq]
    exact (returns_next hback).answers

/-- A call that hands a resumption over answers when whoever gets the resumption is done with it. -/
theorem answers_of_handsOver {w : World V} {keys : KeyRegistry} {r : Resumption} (h : HandsOver c w keys r next below (run (n + 1))) :
    run.Answers n next below := by
  generalize hstate : run (n + 1) = state at h
  cases h with
  | receiver attached world =>
    refine answers_of_receiving ?_
    rw [hstate]
    exact Stack.Under.refl
  | executor attached served world => exact answers_of_applyResumption hstate
  | nobody unserved world => exact (returns_next (by rw [hstate])).answers

/-! ## The theorem -/

/-- What is known of a key that was resolved at some time: the step instance and the time of its issue are as they were, the state and
the payload are those of the outcome. -/
structure KeyShows (status : KeyStatus) (key : AsyncKey) (record : KeyRecord) (outcome : AsyncOutcome) (now : Instant) : Prop where
  key : status.key = key
  step : status.step = record.step
  issuedAt : status.issuedAt = record.issuedAt
  state : status.state = outcome.keyState
  completed : ∀ payload, status.payload = some payload ↔ outcome = .completed payload
  expired : status.payload = none ↔ outcome = .expired
  resolvedAt : status.resolvedAt = some now

/-- What holds of the calls that resolve keys in a run: the first one of a key wins, once and for all. -/
structure FirstWins (run : Run c ρ) : Prop where
  /-- Whoever tries to resolve a live key is the first one or comes after the first one. -/
  first_or_later : ∀ n key outcome, run.Tries n key outcome →
    (∃ record, run.TriesFirst n key outcome record) ∨ ∃ m < n, ∃ first record, run.TriesFirst m key first record
  /-- The first call is accepted: its resumption, for the step instance that the key is bound to, is handed to whoever is attached, and
  the call answers `ok`. -/
  accepted : ∀ n key outcome record, run.TriesFirst n key outcome record →
    ∀ (k : Kind) (next : Except KeyError Unit → Program V (k.Result ρ)) below,
      (run n).control = .run (.call (.resolve key outcome) next) below →
        run.Answers n (next (.ok ())) below ∧
          ∃ keys, HandsOver c (run n).scene.world keys ⟨key, record.step, outcome⟩ (next (.ok ())) below (run (n + 1))
  /-- Later calls are refused with the state that the first one has set, and nothing changes. -/
  refused : ∀ m n key first record outcome, run.TriesFirst m key first record → m < n → run.Tries n key outcome →
    ∀ (k : Kind) (next : Except KeyError Unit → Program V (k.Result ρ)) below,
      (run n).control = .run (.call (.resolve key outcome) next) below →
        run (n + 1) = ⟨(run n).scene, .run (next (.error (.alreadyResolved key first.keyState.text))) below⟩
  /-- Calls on a key that is not live are refused, and nothing changes. -/
  unknown : ∀ n key outcome, run.record? n key = none →
    ∀ (k : Kind) (next : Except KeyError Unit → Program V (k.Result ρ)) below,
      (run n).control = .run (.call (.resolve key outcome) next) below →
        run (n + 1) = ⟨(run n).scene, .run (next (.error (.unknown key))) below⟩
  /-- The code of a receiver begins with the first resolution of a key only, and it gets the resumption of that key. -/
  received : ∀ n, (run (n + 1)).control.receivers ≤ (run n).control.receivers ∨
    ∃ r record, Receives c (run n) r ∧ run.TriesFirst n r.key r.outcome record ∧ r.step = record.step
  /-- Asking for the status of a key changes nothing. -/
  reported : ∀ n key (k : Kind) (next : Except KeyError KeyStatus → Program V (k.Result ρ)) below,
    (run n).control = .run (.call (.plain (.key (.status key))) next) below →
      run (n + 1) = ⟨(run n).scene, .run (next ((run n).ledger.keys.status key)) below⟩
  /-- A key is pending until the first call. -/
  pending : ∀ n key record, run.record? n key = some record → (∀ i < n, ∀ outcome, ¬ run.Tries i key outcome) →
    ∃ status, (run n).ledger.keys.status key = .ok status ∧ status.state = .pending ∧ status.payload = none ∧ status.resolvedAt = none
  /-- From the first call on, until the workflow of the key is forgotten, the key shows what that call has made of it. -/
  resolved : ∀ m n key outcome record, run.TriesFirst m key outcome record → m < n →
    (∀ i, m < i → i < n → ∀ op, (run i).request? = some op → ¬ op.Forgets record.step.workflow) →
      ∃ status, (run n).ledger.keys.status key = .ok status ∧ KeyShows status key record outcome (run m).scene.world.clock
  stamped : ∀ n key status, (run n).ledger.keys.status key = .ok status → (status.resolvedAt.isSome ↔ status.state ≠ .pending)
  absent : ∀ n key, run.record? n key = none → (run n).ledger.keys.status key = .error (.unknown key)

/-- The status of a key that has a record. -/
theorem status_eq (h : run.record? n key = some record) : (run n).ledger.keys.status key = .ok ⟨record, key⟩ := by
  have hget : (run n).ledger.keys.keys.get? key = some record := h
  rw [KeyRegistry.status, hget]

/-- The status of a key that has no record. -/
theorem status_eq_none (h : run.record? n key = none) : (run n).ledger.keys.status key = .error (.unknown key) := by
  have hget : (run n).ledger.keys.keys.get? key = none := h
  rw [KeyRegistry.status, hget]

/-- What a key shows right after its resolution. -/
theorem keyShows_resolve (key : AsyncKey) (record : KeyRecord) (outcome : AsyncOutcome) (now : Instant) :
    KeyShows ⟨KeyRegistry.KeyRecord.resolve record outcome now, key⟩ key record outcome now where
  key := rfl
  step := rfl
  issuedAt := rfl
  state := rfl
  completed payload := by cases outcome <;> simp [KeyRegistry.KeyRecord.resolve, AsyncOutcome.payload?]
  expired := by cases outcome <;> simp [KeyRegistry.KeyRecord.resolve, AsyncOutcome.payload?]
  resolvedAt := rfl

/-- A live key has a time of resolution exactly when it is not pending. -/
theorem resolvedAt_iff (live : run.record? n key = some record) : record.resolvedAt.isSome ↔ record.state ≠ .pending := by
  by_cases htried : ∃ i < n, ∃ given, run.Tries i key given
  · obtain ⟨i, hi, given, htries⟩ := htried
    obtain ⟨m, hle, first, old, hfirst⟩ := htries.exists_first
    rw [hfirst.record_eq (Nat.lt_of_le_of_lt hle hi) live]
    exact iff_of_true rfl (KeyRegistry.keyState_ne_pending first)
  · obtain ⟨hstate, -, hstamp⟩ := record_of_untried live fun i hi given htries => htried ⟨i, hi, given, htries⟩
    rw [hstate, hstamp]
    simp

/-- The first resolution of a key wins, once and for all, whatever the code does that gets the resumptions. -/
theorem first_resolution_wins (run : Run c ρ) : run.FirstWins where
  first_or_later := by
    intro n key outcome htries
    obtain ⟨m, hle, first, record, hfirst⟩ := htries.exists_first
    rcases Nat.lt_or_eq_of_le hle with hlt | rfl
    · exact Or.inr ⟨m, hlt, first, record, hfirst⟩
    · have hsame := hfirst.requested.symm.trans htries.1
      cases hsame
      exact Or.inl ⟨record, hfirst⟩
  accepted := by
    intro n key outcome record hfirst k next below hcontrol
    obtain ⟨keys, hresolve⟩ := hfirst.resolve_eq
    have handsOver := next_of_resolve hcontrol ▸ handsOver_resolve (c := c) next below hresolve
    exact ⟨answers_of_handsOver handsOver, keys, handsOver⟩
  refused := by
    intro m n key first record outcome hfirst hlt htries k next below hcontrol
    rw [next_of_resolve hcontrol]
    exact resolve_eq_error next below (resolve_eq_of_later hfirst hlt htries)
  unknown := by
    intro n key outcome hnone k next below hcontrol
    have hget : (run n).scene.world.keys.keys.get? key = none := hnone
    rw [next_of_resolve hcontrol]
    refine resolve_eq_error next below ?_
    rw [KeyRegistry.resolve, hget]
  received := by
    intro n
    have hnext := run.next n
    generalize run (n + 1) = after at hnext
    cases hnext with
    | step =>
      rcases receivers_step (c := c) (run n) with hle | ⟨r, hreceives⟩
      · exact Or.inl hle
      · obtain ⟨record, hfirst, hstep⟩ := triesFirst_of_receives hreceives
        exact Or.inr ⟨r, record, hreceives, hfirst, hstep⟩
    | again finished memory program => exact Or.inl (Nat.zero_le _)
  reported := by
    intro n key k next below hcontrol
    rw [run.next_of_call hcontrol]
    rfl
  pending := by
    intro n key record live untried
    exact ⟨_, status_eq live, record_of_untried live untried⟩
  resolved := by
    intro m n key outcome record hfirst hlt kept
    exact ⟨_, status_eq (hfirst.record?_eq hlt kept), keyShows_resolve key record outcome _⟩
  stamped := by
    intro n key status hstatus
    cases live : run.record? n key with
    | none => cases hstatus.symm.trans (status_eq_none live)
    | some record =>
      cases hstatus.symm.trans (status_eq live)
      exact resolvedAt_iff live
  absent := fun n key hnone => status_eq_none hnone

end Run

namespace Sample

/-- One receiver, which keeps one answer in the memory. -/
def receiving : Vocabulary := ⟨Option (Except KeyError Unit), Empty, Empty, Unit⟩

/-- The receiver that expires the key whose resumption it gets, and keeps what it is answered. -/
def meddling : Client receiving where
  handlerName := nofun
  handle := nofun
  stepName := nofun
  defaultData := nofun
  primary := nofun
  resume := nofun
  receive _ r := .call (.resolve r.key .expired) fun answer => .remember (some answer) (.done ())

/-- The run that attaches this receiver and completes a key. -/
def meddled : Run meddling (Except KeyError Unit) :=
  .ofProgram meddling .default false none
    (.call (.plain (.key (.submit lone left))) fun _ =>
      .call (.plain (.attach ())) fun _ => .call (.resolve left (.completed .null)) .done)

/-- The record of the key before it is completed. -/
def untouched : KeyRecord := ⟨lone, .pending, none, 0, none⟩

/-- The receiver is refused while the call that runs it has not returned yet, and it does not change what the key shows. -/
theorem meddled_first_wins :
    meddled.FirstWins ∧ meddled.TriesFirst 2 left (.completed .null) untouched ∧ meddled.Tries 3 left .expired ∧
      (meddled 5).scene.memory = some (.error (.alreadyResolved left "completed")) ∧
      meddled.Returns 2 6 .bottom (.done (.ok ())) ∧
      ∃ status, (meddled 6).ledger.keys.status left = .ok status ∧ Run.KeyShows status left untouched (.completed .null) 2001 := by
  have first : meddled.TriesFirst 2 left (.completed .null) untouched := by
    refine ⟨rfl, rfl, ?_⟩
    rintro i hi given ⟨hrequest, -⟩
    interval_cases i <;> cases hrequest
  have wins := meddled.first_resolution_wins
  have shows := wins.resolved 2 6 left (.completed .null) untouched first (by omega) (by
    intro i hi hi' op hrequest
    interval_cases i <;> cases hrequest
    exact nofun)
  have returns : meddled.Returns 2 6 .bottom (.done (.ok ())) := by
    refine ⟨by omega, ?_, rfl⟩
    intro i hi hi'
    interval_cases i <;> exact Stack.Under.refl
  exact ⟨wins, first, ⟨rfl, _, rfl⟩, rfl, returns, shows⟩

end Sample

end StepEngine
