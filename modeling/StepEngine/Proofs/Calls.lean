import StepEngine.Proofs.Ledger.Step

/-!
# Calls: what a request does that may run further code

Executing a step, applying a resumption and resolving a key either announce a transition on a stack of their own, or they are answered
at once and change little. Each lemma here says for one case which of the two it is.
-/

namespace StepEngine

open Machine

variable {V : Vocabulary} {ρ : Type} {c : Client V} {sc : Scene V} {k : Kind} {executor : Nat} {step : StepId}
  {below : Stack V ρ (.code k)} {key : AsyncKey} {outcome : AsyncOutcome} {r : Resumption} {keys : KeyRegistry}

/-! ## Executing a step -/

/-- A step that is executed for the first time has its start announced on a fresh slot. -/
theorem execute_eq (definition : V.Definition) (background : Bool) (next : StepOutcome → Program V (k.Result ρ))
    (below : Stack V ρ (.code k)) (free : sc.world.slots.current? executor step = none) :
    ∃ sc' : Scene V, sc'.world.slots = sc.world.slots.start executor definition step ∧
      execute c sc executor definition step background next below =
        announce c sc' (sc.world.slots.nextSeat executor step) Slot.startTransition .starting (.awaiting next background below) := by
  have hfree : (sc.note [logTransition step Slot.startTransition]).world.slots.current? executor step = none := free
  simp only [execute, hfree]
  exact ⟨_, rfl, rfl⟩

/-- Executing an instance for which the executor lists a slot fails at once and changes nothing but the log. -/
theorem execute_refused {slot : Slot V.Definition} (definition : V.Definition) (background : Bool)
    (next : StepOutcome → Program V (k.Result ρ)) (below : Stack V ρ (.code k))
    (current : sc.world.slots.current? executor step = some slot) :
    ∃ sc' : Scene V, execute c sc executor definition step background next below =
        ⟨sc', .run (next (.failed (.alreadyStarted step))) below⟩ ∧ sc'.world = sc.world ∧ sc'.memory = sc.memory := by
  have hlisted : (sc.note [logTransition step Slot.startTransition]).world.slots.current? executor step = some slot := current
  simp only [execute, hlisted]
  exact ⟨_, rfl, rfl, rfl⟩

/-! ## Applying a resumption -/

/-- A resumption that an idle step instance is suspended for has its transition announced. -/
theorem applyResumption_eq {slot : Slot V.Definition} {r : Resumption} (next : Option StepOutcome → Program V (k.Result ρ))
    (below : Stack V ρ (.code k)) (current : sc.world.slots.current? executor r.step = some slot) (idle : slot.running = false)
    (awaits : slot.Awaits r.key) :
    ∃ sc' : Scene V, sc'.world = { sc.world with slots := sc.world.slots.modify slot.seat Slot.wake } ∧
      applyResumption c sc executor r next below =
        announce c sc' slot.seat ⟨.suspended, .inProgress, .resume r.key⟩ (.resuming r.outcome)
          (.awaiting (fun o => next (some o)) false below) := by
  have hadvance : slot.lifecycle.advance (.resume r.key) =
      .ok (⟨.suspended, .inProgress, .resume r.key⟩, Slot.startedLifecycle) := by rw [awaits, Lifecycle.advance_resume]
  simp only [applyResumption, current, idle, hadvance, Bool.false_eq_true, if_false]
  exact ⟨_, rfl, rfl⟩

/-- Any other resumption is deferred or refused, and the caller goes on at once. -/
theorem applyResumption_eq_none {r : Resumption} (next : Option StepOutcome → Program V (k.Result ρ)) (below : Stack V ρ (.code k))
    (other : ∀ slot, sc.world.slots.current? executor r.step = some slot → slot.running = false → ¬ slot.Awaits r.key) :
    ∃ sc' : Scene V, applyResumption c sc executor r next below = ⟨sc', .run (next none) below⟩ ∧ sc'.world.bus = sc.world.bus := by
  simp only [applyResumption]
  split
  · exact ⟨_, rfl, rfl⟩
  · rename_i slot current
    split
    · exact ⟨_, rfl, rfl⟩
    · rename_i idle
      split
      · exact ⟨_, rfl, rfl⟩
      · rename_i t lifecycle hadvance
        exact absurd (Lifecycle.advance_resume_eq_ok hadvance).1 (other slot current (by simpa using idle))

/-! ## Resolving a key -/

/-- A resolution that the registry refuses is answered at once, and nothing changes. -/
theorem resolve_eq_error {e : KeyError} (next : Except KeyError Unit → Program V (k.Result ρ)) (below : Stack V ρ (.code k))
    (refused : sc.world.keys.resolve key outcome sc.world.clock = .error e) :
    resolve c sc key outcome next below = ⟨sc, .run (next (.error e)) below⟩ := by
  simp only [resolve, refused]

/-- A resolution hands the resumption to the executor that is attached, if it is held or has an activation in progress. -/
theorem resolve_eq_apply (next : Except KeyError Unit → Program V (k.Result ρ)) (below : Stack V ρ (.code k))
    (resolved : sc.world.keys.resolve key outcome sc.world.clock = .ok (r, keys))
    (attached : sc.world.attachment = .executor executor) (served : (sc.world.isHeld executor || below.occupies executor) = true) :
    ∃ sc' : Scene V, resolve c sc key outcome next below = applyResumption c sc' executor r (fun _ => next (.ok ())) below ∧
      sc'.world = { sc.world with keys := keys } := by
  simp only [resolve, resolved]
  split
  · rename_i hnone
    cases attached.symm.trans hnone
  · rename_i descriptor hreceiver
    cases attached.symm.trans hreceiver
  · rename_i other hother
    cases attached.symm.trans hother
    split
    · exact ⟨_, rfl, rfl⟩
    · rename_i hdead
      exact absurd served hdead

/-- A resolution hands the resumption to another receiver that is attached. -/
theorem resolve_eq_receive {descriptor : V.Receiver} (next : Except KeyError Unit → Program V (k.Result ρ))
    (below : Stack V ρ (.code k)) (resolved : sc.world.keys.resolve key outcome sc.world.clock = .ok (r, keys))
    (attached : sc.world.attachment = .receiver descriptor) :
    ∃ sc' : Scene V, resolve c sc key outcome next below =
        ⟨sc', .run (k := .receiver) (c.receive descriptor r) (.receiving (next (.ok ())) below)⟩ ∧
      sc'.world = { sc.world with keys := keys } := by
  simp only [resolve, resolved]
  split
  · rename_i hnone
    cases attached.symm.trans hnone
  · rename_i other hother
    cases attached.symm.trans hother
    exact ⟨_, rfl, rfl⟩
  · rename_i id hexecutor
    cases attached.symm.trans hexecutor

/-- Nobody gets the resumptions of keys: nobody is attached, or an executor that is neither held nor has an activation in progress. -/
def World.Unserved (w : World V) (below : Stack V ρ (.code k)) : Prop :=
  w.attachment = .none ∨ ∃ executor, w.attachment = .executor executor ∧ (w.isHeld executor || below.occupies executor) = false

/-- A resolution whose resumption nobody gets is answered at once. -/
theorem resolve_eq_unserved (next : Except KeyError Unit → Program V (k.Result ρ)) (below : Stack V ρ (.code k))
    (resolved : sc.world.keys.resolve key outcome sc.world.clock = .ok (r, keys)) (unserved : sc.world.Unserved below) :
    ∃ sc' : Scene V, resolve c sc key outcome next below = ⟨sc', .run (next (.ok ())) below⟩ ∧
      sc'.world = { sc.world with keys := keys } := by
  simp only [resolve, resolved]
  rcases unserved with hnone | ⟨id, hattached, hdead⟩
  · split
    · exact ⟨_, rfl, rfl⟩
    · rename_i descriptor hreceiver
      cases hnone.symm.trans hreceiver
    · rename_i id hexecutor
      cases hnone.symm.trans hexecutor
  · split
    · exact ⟨_, rfl, rfl⟩
    · rename_i descriptor hreceiver
      cases hattached.symm.trans hreceiver
    · rename_i other hother
      cases hattached.symm.trans hother
      split
      · rename_i hlive
        exact absurd (hdead.symm.trans hlive) Bool.false_ne_true
      · exact ⟨_, rfl, rfl⟩

/-- The state after a key was resolved in a world, with the registry and the resumption that the resolution has given: the resumption is
handed to whoever is attached, and the program that resolved the key goes on with `next` afterwards. -/
inductive HandsOver (c : Client V) (w : World V) (keys : KeyRegistry) (r : Resumption) (next : Program V (k.Result ρ))
    (below : Stack V ρ (.code k)) : MachineState V ρ → Prop where
  /-- A receiver runs. -/
  | receiver {descriptor : V.Receiver} {sc : Scene V} (attached : w.attachment = .receiver descriptor)
      (world : sc.world = { w with keys := keys }) :
      HandsOver c w keys r next below ⟨sc, .run (k := .receiver) (c.receive descriptor r) (.receiving next below)⟩
  /-- The resumption reaches an executor. -/
  | executor {id : Nat} {sc : Scene V} (attached : w.attachment = .executor id) (served : (w.isHeld id || below.occupies id) = true)
      (world : sc.world = { w with keys := keys }) : HandsOver c w keys r next below (applyResumption c sc id r (fun _ => next) below)
  /-- Nobody gets it. -/
  | nobody {sc : Scene V} (unserved : w.Unserved below) (world : sc.world = { w with keys := keys }) :
      HandsOver c w keys r next below ⟨sc, .run next below⟩

/-- A resolution that the registry accepts hands its resumption over. -/
theorem handsOver_resolve (next : Except KeyError Unit → Program V (k.Result ρ)) (below : Stack V ρ (.code k))
    (resolved : sc.world.keys.resolve key outcome sc.world.clock = .ok (r, keys)) :
    HandsOver c sc.world keys r (next (.ok ())) below (resolve c sc key outcome next below) := by
  cases hattached : sc.world.attachment with
  | none =>
    obtain ⟨sc', heq, hworld⟩ := resolve_eq_unserved (c := c) next below resolved (Or.inl hattached)
    rw [heq]
    exact .nobody (Or.inl hattached) hworld
  | receiver descriptor =>
    obtain ⟨sc', heq, hworld⟩ := resolve_eq_receive (c := c) next below resolved hattached
    rw [heq]
    exact .receiver hattached hworld
  | executor id =>
    cases hlive : sc.world.isHeld id || below.occupies id with
    | false =>
      obtain ⟨sc', heq, hworld⟩ := resolve_eq_unserved (c := c) next below resolved (Or.inr ⟨id, hattached, hlive⟩)
      rw [heq]
      exact .nobody (Or.inr ⟨id, hattached, hlive⟩) hworld
    | true =>
      obtain ⟨sc', heq, hworld⟩ := resolve_eq_apply (c := c) next below resolved hattached hlive
      rw [heq]
      exact .executor hattached hlive hworld

end StepEngine
