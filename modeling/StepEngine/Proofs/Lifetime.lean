import Mathlib.Data.List.Induction
import StepEngine.Lifecycle

/-!
# Lifetime: the events that a lifecycle accepts

The whole life of a step instance is a word of events: the start, any number of rounds, each a suspension on a key and the resumption
with that key, and an end. A new lifecycle that is offered one event after the other accepts an event exactly when it and the events
accepted before are how such a life begins, whatever was refused in between. So the events that were accepted say where the lifecycle
stands (`Lifecycle.Standing`), and a refused event leaves no trace.
-/

namespace StepEngine

/-! ## Lives -/

/-- One round of a life: the step instance is suspended on a key and resumed with it. -/
def StepEvent.round (key : AsyncKey) : List StepEvent := [.suspend key, .resume key]

/-- The event ends a life, in a final state. -/
inductive StepEvent.Ends : StepEvent → StepState → Prop where
  | complete : Ends .complete .complete
  | fail (message : String) : Ends (.fail message) .error

/-- The whole life of a step instance. -/
inductive Lifetime : List StepEvent → Prop where
  | intro (keys : List AsyncKey) {last : StepEvent} {state : StepState} (ends : last.Ends state) :
      Lifetime (.start :: keys.flatMap StepEvent.round ++ [last])

namespace Lifetime

/-- The events are how a life begins. -/
def Begins (events : List StepEvent) : Prop := ∃ word, Lifetime word ∧ events <+: word

/-- Where a life goes on after some rounds, it goes on like the rest of a life. -/
theorem exists_rest (keys more : List AsyncKey) {rest : List StepEvent} {last : StepEvent}
    (h : keys.flatMap StepEvent.round ++ rest <+: more.flatMap StepEvent.round ++ [last]) :
    ∃ left : List AsyncKey, rest <+: left.flatMap StepEvent.round ++ [last] := by
  induction keys generalizing more with
  | nil => exact ⟨more, h⟩
  | cons key keys ih =>
    cases more with
    | nil =>
      have hlength := h.length_le
      simp [StepEvent.round] at hlength
    | cons other more =>
      simp only [List.flatMap_cons, StepEvent.round, List.cons_append, List.nil_append, List.cons_prefix_cons] at h
      exact ih more h.2.2

/-- What can follow when a life has started and gone through some rounds. -/
theorem Begins.exists_rest {keys : List AsyncKey} {rest : List StepEvent}
    (h : Begins (.start :: keys.flatMap StepEvent.round ++ rest)) :
    ∃ (left : List AsyncKey) (last : StepEvent) (state : StepState), last.Ends state ∧
      rest <+: left.flatMap StepEvent.round ++ [last] := by
  obtain ⟨word, ⟨more, ends⟩, hprefix⟩ := h
  obtain ⟨left, hrest⟩ := Lifetime.exists_rest keys more (List.cons_prefix_cons.1 hprefix).2
  exact ⟨left, _, _, ends, hrest⟩

end Lifetime

/-! ## Offered events -/

namespace Lifecycle

/-- What is answered to an event that is offered, and the lifecycle afterwards: a refused event leaves it as it was. -/
def offer (l : Lifecycle) (event : StepEvent) : Except LifecycleError Transition × Lifecycle :=
  match l.advance event with
  | .ok (t, next) => (.ok t, next)
  | .error e => (.error e, l)

/-- A new lifecycle that has accepted these events stands so. -/
inductive Standing : List StepEvent → Lifecycle → Prop where
  | fresh : Standing [] .new
  | running (keys : List AsyncKey) : Standing (.start :: keys.flatMap StepEvent.round) ⟨.inProgress, none⟩
  | waiting (keys : List AsyncKey) (key : AsyncKey) :
      Standing (.start :: keys.flatMap StepEvent.round ++ [.suspend key]) ⟨.suspended, some key⟩
  | ended (keys : List AsyncKey) {last : StepEvent} {state : StepState} (ends : last.Ends state) :
      Standing (.start :: keys.flatMap StepEvent.round ++ [last]) ⟨state, none⟩

namespace Standing

variable {accepted : List StepEvent} {l next : Lifecycle} {event : StepEvent} {t : Transition}

/-- One more event that is accepted is one more event of the life. -/
theorem advance (h : Standing accepted l) (hadvance : l.advance event = .ok (t, next)) :
    Standing (accepted ++ [event]) next ∧ t = ⟨l.state, next.state, event⟩ := by
  cases h with
  | fresh =>
    cases event <;> cases hadvance
    exact ⟨.running [], rfl⟩
  | running keys =>
    cases event <;> cases hadvance
    · exact ⟨.waiting keys _, rfl⟩
    · exact ⟨.ended keys .complete, rfl⟩
    · exact ⟨.ended keys (.fail _), rfl⟩
  | waiting keys key =>
    cases event with
    | resume other =>
      by_cases hkey : key = other
      · subst hkey
        simp only [Lifecycle.advance, StepState.next?, keyMismatch?, if_true] at hadvance
        cases hadvance
        have hwords : StepEvent.start :: (keys ++ [key]).flatMap StepEvent.round =
            .start :: keys.flatMap StepEvent.round ++ [.suspend key] ++ [.resume key] := by simp [StepEvent.round]
        exact ⟨hwords ▸ .running (keys ++ [key]), rfl⟩
      · simp [Lifecycle.advance, StepState.next?, keyMismatch?, hkey] at hadvance
    | _ => cases hadvance
  | ended keys ends => cases ends <;> cases event <;> cases hadvance

/-- What was accepted is how a life begins. -/
theorem begins (h : Standing accepted l) : Lifetime.Begins accepted := by
  cases h with
  | fresh => exact ⟨_, .intro [] .complete, List.nil_prefix⟩
  | running keys => exact ⟨_, .intro keys .complete, List.prefix_append _ _⟩
  | waiting keys key =>
    refine ⟨_, .intro (keys ++ [key]) .complete, [.resume key, .complete], ?_⟩
    simp [StepEvent.round]
  | ended keys ends => exact ⟨_, .intro keys ends, List.prefix_rfl⟩

/-- An event with which the life goes on is accepted. -/
theorem exists_advance (h : Standing accepted l) (hbegins : Lifetime.Begins (accepted ++ [event])) :
    ∃ t next, l.advance event = .ok (t, next) := by
  cases h with
  | fresh =>
    obtain ⟨word, ⟨keys, -⟩, hprefix⟩ := hbegins
    obtain rfl : event = .start := by simpa using hprefix
    exact ⟨_, _, rfl⟩
  | running keys =>
    obtain ⟨left, last, state, ends, hrest⟩ := hbegins.exists_rest
    cases left with
    | nil =>
      obtain rfl : event = last := by simpa using hrest
      cases ends <;> exact ⟨_, _, rfl⟩
    | cons key left =>
      obtain rfl : event = .suspend key := by simpa [StepEvent.round] using hrest
      exact ⟨_, _, rfl⟩
  | waiting keys key =>
    rw [List.append_assoc] at hbegins
    obtain ⟨left, last, state, ends, hrest⟩ := hbegins.exists_rest
    cases left with
    | nil => simp at hrest
    | cons other left =>
      obtain ⟨rfl, rfl⟩ : key = other ∧ event = .resume other := by simpa [StepEvent.round] using hrest
      simp [Lifecycle.advance, StepState.next?, keyMismatch?]
  | @ended keys final state ends =>
    rw [List.append_assoc] at hbegins
    obtain ⟨left, last, state, -, hrest⟩ := hbegins.exists_rest
    cases left with
    | nil => simp at hrest
    | cons other left =>
      obtain ⟨rfl, -⟩ : final = .suspend other ∧ event = .resume other := by simpa [StepEvent.round] using hrest
      cases ends

/-- A key is awaited exactly when the step instance is suspended, and it is the one of the suspension that was accepted last. -/
theorem awaiting_iff (h : Standing accepted l) (key : AsyncKey) :
    l.awaiting = some key ↔ l.state = .suspended ∧ accepted.getLast? = some (.suspend key) := by
  cases h with
  | fresh => simp [new]
  | running keys => simp
  | waiting keys other => rw [List.getLast?_concat]; simp
  | ended keys ends => cases ends <;> simp

end Standing

/-- A refused resumption is one for another key than the one that is awaited, and says both; anything else that is refused does not apply in
the state. -/
theorem advance_eq_error {l : Lifecycle} {event : StepEvent} {e : LifecycleError} (h : l.advance event = .error e) :
    e = .invalidTransition l.state.text event.kind ∨
      ∃ other, event = .resume other ∧ l.state = .suspended ∧ l.awaiting ≠ some other ∧
        e = .keyMismatch ((l.awaiting.map (·.token)).getD "<none>") other.token := by
  obtain ⟨state, awaiting⟩ := l
  cases state with
  | suspended =>
    cases event with
    | resume other =>
      right
      refine ⟨other, rfl, rfl, ?_⟩
      cases awaiting with
      | none =>
        cases h
        exact ⟨nofun, rfl⟩
      | some key =>
        by_cases hkey : key = other
        · simp [advance, StepState.next?, keyMismatch?, hkey] at h
        · simp only [advance, StepState.next?, keyMismatch?, hkey, if_false] at h
          cases h
          exact ⟨fun heq => hkey (Option.some.inj heq), rfl⟩
    | _ => cases h; exact Or.inl rfl
  | _ => cases event <;> cases h <;> exact Or.inl rfl

end Lifecycle

/-- A lifecycle with the events that it has accepted, in order. -/
structure Biography where
  accepted : List StepEvent
  lifecycle : Lifecycle

namespace Biography

/-- The biography of a step instance to which nothing has happened. -/
def new : Biography := ⟨[], .new⟩

/-- The biography after one more event was offered. -/
def offer (b : Biography) (event : StepEvent) : Biography :=
  match b.lifecycle.offer event with
  | (.ok _, next) => ⟨b.accepted ++ [event], next⟩
  | (.error _, next) => ⟨b.accepted, next⟩

/-- The biography of a new lifecycle to which these events were offered, one after the other. -/
def of (events : List StepEvent) : Biography := events.foldl offer new

/-- What is answered to one more event. -/
def answer (b : Biography) (event : StepEvent) : Except LifecycleError Transition := (b.lifecycle.offer event).1

variable {b : Biography} {event : StepEvent}

/-- An event that is accepted is put down, and answered with its transition. -/
theorem offer_of_ok {t : Transition} {next : Lifecycle} (h : b.lifecycle.advance event = .ok (t, next)) :
    b.offer event = ⟨b.accepted ++ [event], next⟩ ∧ b.answer event = .ok t := by
  simp only [offer, answer, Lifecycle.offer, h, and_self]

/-- An event that is refused changes nothing. -/
theorem offer_of_error {e : LifecycleError} (h : b.lifecycle.advance event = .error e) :
    b.offer event = b ∧ b.answer event = .error e := by
  simp only [offer, answer, Lifecycle.offer, h, and_self]

/-- The answer is a refusal exactly when the lifecycle refuses the event. -/
theorem answer_eq_error_iff (b : Biography) {e : LifecycleError} :
    b.answer event = .error e ↔ b.lifecycle.advance event = .error e := by
  cases hadvance : b.lifecycle.advance event with
  | ok answer => simp [(offer_of_ok hadvance).2]
  | error e' => simp [(offer_of_error hadvance).2]

/-- One more event is offered after the others. -/
theorem of_concat (events : List StepEvent) (event : StepEvent) : of (events ++ [event]) = (of events).offer event := by
  rw [of, of, List.foldl_append, List.foldl_cons, List.foldl_nil]

/-- The events that were accepted say how the lifecycle stands, whichever events were offered. -/
theorem standing (events : List StepEvent) : Lifecycle.Standing (of events).accepted (of events).lifecycle := by
  induction events using List.reverseRecOn with
  | nil => exact .fresh
  | append_singleton events event ih =>
    rw [of_concat]
    cases hadvance : (of events).lifecycle.advance event with
    | error e => rwa [(offer_of_error hadvance).1]
    | ok answer =>
      rw [(offer_of_ok hadvance).1]
      exact (ih.advance hadvance).1

end Biography

/-- How a lifecycle that has come from one biography to the next answers the event between them. -/
structure Lifecycle.AnswersInTurn (before : Biography) (event : StepEvent) (after : Biography) : Prop where
  /-- The event is accepted exactly when a life goes on with it. -/
  accepts_iff : (∃ t, before.answer event = .ok t) ↔ Lifetime.Begins (before.accepted ++ [event])
  /-- If it is accepted then the answer tells the states before and after it, and the event. -/
  reports : ∀ t, before.answer event = .ok t →
    t = ⟨before.lifecycle.state, after.lifecycle.state, event⟩ ∧ after.accepted = before.accepted ++ [event]
  /-- If it is refused then nothing changes. -/
  unchanged : ∀ e, before.answer event = .error e → after = before
  /-- A key is awaited exactly in the suspended state, and it is the key of the last event that was accepted, a suspension. -/
  awaits_iff : ∀ key, after.lifecycle.awaiting = some key ↔
    after.lifecycle.state = .suspended ∧ after.accepted.getLast? = some (.suspend key)
  /-- The answer that another key is awaited is given exactly to a resumption with another key in the suspended state, and tells the
  key that is awaited and the one that was given. -/
  mismatch_iff : ∀ expected actual, before.answer event = .error (.keyMismatch expected actual) ↔
    before.lifecycle.state = .suspended ∧ ∃ key other, before.lifecycle.awaiting = some key ∧ event = .resume other ∧ other ≠ key ∧
      expected = key.token ∧ actual = other.token
  /-- Any other refusal says that the event does not apply in the state. -/
  invalid : ∀ e, before.answer event = .error e →
    (∃ expected actual, e = .keyMismatch expected actual) ∨ e = .invalidTransition before.lifecycle.state.text event.kind
  /-- Where no key is awaited, no other key is reported to be: what stands for no key is never told as the one that is awaited. -/
  never_unawaited : before.lifecycle.awaiting = none → ∀ expected actual, before.answer event ≠ .error (.keyMismatch expected actual)
  /-- The text `<none>` is told only where the key that is awaited has this very text. -/
  none_iff_named : ∀ actual, before.answer event = .error (.keyMismatch "<none>" actual) ↔
    before.lifecycle.state = .suspended ∧ before.lifecycle.awaiting = some ⟨"<none>"⟩ ∧
      ∃ other, event = .resume other ∧ other ≠ ⟨"<none>"⟩ ∧ actual = other.token

/-- A resumption is refused for its key exactly when the step instance is suspended on another one. -/
theorem Lifecycle.Standing.advance_eq_mismatch_iff {accepted : List StepEvent} {l : Lifecycle} (h : Lifecycle.Standing accepted l)
    (event : StepEvent) (expected actual : String) : l.advance event = .error (.keyMismatch expected actual) ↔
      l.state = .suspended ∧ ∃ key other, l.awaiting = some key ∧ event = .resume other ∧ other ≠ key ∧
        expected = key.token ∧ actual = other.token := by
  constructor
  · intro hrefused
    rcases Lifecycle.advance_eq_error hrefused with heq | ⟨other, rfl, hsuspended, hother, heq⟩
    · cases heq
    · obtain ⟨key, hkey⟩ : ∃ key, l.awaiting = some key := by
        cases h with
        | waiting keys key => exact ⟨key, rfl⟩
        | ended keys ends => cases ends <;> cases hsuspended
        | _ => cases hsuspended
      rw [hkey] at hother heq
      cases heq
      exact ⟨hsuspended, key, other, hkey, rfl, fun he => hother (he ▸ rfl), rfl, rfl⟩
  · rintro ⟨hsuspended, key, other, hkey, rfl, hne, rfl, rfl⟩
    obtain ⟨state, awaiting⟩ := l
    cases hsuspended
    cases hkey
    simp [Lifecycle.advance, StepState.next?, Lifecycle.keyMismatch?, hne.symm]

/-- The lifecycle accepts exactly its lives: whatever events were offered to a new lifecycle before, it answers the next one in turn. -/
theorem lifecycle_accepts_lifetimes (events : List StepEvent) (event : StepEvent) :
    Lifecycle.AnswersInTurn (.of events) event (.of (events ++ [event])) := by
  have before := Biography.standing events
  have after := Biography.standing (events ++ [event])
  rw [Biography.of_concat] at after ⊢
  generalize Biography.of events = b at before after ⊢
  have mismatch_iff : ∀ expected actual, b.answer event = .error (.keyMismatch expected actual) ↔
      b.lifecycle.state = .suspended ∧ ∃ key other, b.lifecycle.awaiting = some key ∧ event = .resume other ∧ other ≠ key ∧
        expected = key.token ∧ actual = other.token := by
    intro expected actual
    rw [b.answer_eq_error_iff, before.advance_eq_mismatch_iff]
  have never_unawaited : b.lifecycle.awaiting = none → ∀ expected actual, b.answer event ≠ .error (.keyMismatch expected actual) := by
    intro hnone expected actual hrefused
    obtain ⟨-, key, other, hkey, -⟩ := (mismatch_iff expected actual).1 hrefused
    cases hnone.symm.trans hkey
  have none_iff_named : ∀ actual, b.answer event = .error (.keyMismatch "<none>" actual) ↔
      b.lifecycle.state = .suspended ∧ b.lifecycle.awaiting = some ⟨"<none>"⟩ ∧
        ∃ other, event = .resume other ∧ other ≠ ⟨"<none>"⟩ ∧ actual = other.token := by
    intro actual
    rw [mismatch_iff]
    constructor
    · rintro ⟨hsuspended, ⟨token⟩, other, hkey, hresume, hne, rfl, hactual⟩
      exact ⟨hsuspended, hkey, other, hresume, hne, hactual⟩
    · rintro ⟨hsuspended, hkey, other, hresume, hne, hactual⟩
      exact ⟨hsuspended, ⟨"<none>"⟩, other, hkey, hresume, hne, rfl, hactual⟩
  cases hadvance : b.lifecycle.advance event with
  | ok accepted =>
    obtain ⟨t, next⟩ := accepted
    obtain ⟨hoffer, hanswer⟩ := Biography.offer_of_ok hadvance
    obtain ⟨hstanding, ht⟩ := before.advance hadvance
    have refuses : ∀ e, b.answer event ≠ .error e := fun e he => by cases hanswer.symm.trans he
    refine ⟨⟨fun _ => hstanding.begins, fun _ => ⟨t, hanswer⟩⟩, ?_, fun e he => absurd he (refuses e), after.awaiting_iff, mismatch_iff,
      fun e he => absurd he (refuses e), never_unawaited, none_iff_named⟩
    intro t' ht'
    cases hanswer.symm.trans ht'
    rw [hoffer]
    exact ⟨ht, rfl⟩
  | error e =>
    obtain ⟨hoffer, hanswer⟩ := Biography.offer_of_error hadvance
    have accepts : ∀ t, b.answer event ≠ .ok t := fun t ht => by cases hanswer.symm.trans ht
    refine ⟨⟨fun ⟨t, ht⟩ => absurd ht (accepts t), ?_⟩, fun t ht => absurd ht (accepts t), fun _ _ => hoffer, after.awaiting_iff,
      mismatch_iff, ?_, never_unawaited, none_iff_named⟩
    · intro hbegins
      obtain ⟨t, next, hgoes⟩ := before.exists_advance hbegins
      cases hadvance.symm.trans hgoes
    · intro e' he'
      cases hanswer.symm.trans he'
      rcases Lifecycle.advance_eq_error hadvance with heq | ⟨other, -, -, -, heq⟩
      · exact Or.inr heq
      · exact Or.inl ⟨_, _, heq⟩

/-- A resumption with another key, and an end in the suspended state, are refused, and the life goes on with the key that is awaited. -/
example : Biography.of [.start, .suspend ⟨"a"⟩, .resume ⟨"b"⟩, .complete, .resume ⟨"a"⟩, .fail "no", .start] =
    ⟨[.start, .suspend ⟨"a"⟩, .resume ⟨"a"⟩, .fail "no"], .error, none⟩ := rfl

end StepEngine
