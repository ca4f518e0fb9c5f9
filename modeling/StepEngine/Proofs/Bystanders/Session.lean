import Mathlib.Logic.Function.Iterate
import Mathlib.Order.Monotone.Basic
import StepEngine.Proofs.Bystanders.Step

/-!
# Session: bystanders are not noticed

A session is a sequence of programs that drive the engine one after the other; one that panics is followed by the next. The same session
takes place twice, once with bystanders. After each number of steps of the first there is a number of steps of the second after which the
worlds are the same, except for the bus: the data of steps and workflows, the keys, and the slots with their states and last outcomes.
Up to there the same step code has begun, and the same outcomes were seen, in the same order (`Session.Unnoticed`).
-/

namespace StepEngine

/-- Programs that drive the engine one after the other: the state of the engine under the present one, and those still to come. -/
structure Session (V : Vocabulary) (ρ : Type) where
  state : MachineState V ρ
  waiting : List (Program V ρ)

namespace Session

variable {V : Vocabulary} {ρ : Type}

/-- A session begins in a new world. -/
def start (config : EngineConfig) (logsFaults : Bool) (memory : V.Memory) (first : Program V ρ) (later : List (Program V ρ)) :
    Session V ρ :=
  ⟨.start (World.new config logsFaults) memory first, later⟩

/-- One step: of the engine, or from a program that is over to the next one. -/
def step (c : Client V) (s : Session V ρ) : Session V ρ :=
  match s.state.control, s.waiting with
  | .finished _, next :: rest => ⟨.start s.state.scene.world s.state.scene.memory next, rest⟩
  | _, _ => ⟨s.state.step c, s.waiting⟩

/-- What is seen during the next steps. -/
def events (c : Client V) : Nat → Session V ρ → List MachineState.Event
  | 0, _ => []
  | n + 1, s => (s.state.event? c).toList ++ events c n (s.step c)

variable {c : Client V}

/-- While a program is not over, and when no other is to come, the engine takes the steps. -/
theorem step_eq {state : MachineState V ρ} {waiting : List (Program V ρ)}
    (h : (∀ result, state.control ≠ .finished result) ∨ waiting = []) : step c ⟨state, waiting⟩ = ⟨state.step c, waiting⟩ := by
  rw [step]
  split
  · rename_i result next rest hfinished hwaiting
    rcases h with h | h
    · exact absurd hfinished (h result)
    · cases hwaiting.symm.trans h
  · rfl

/-- What is seen during some steps and then during some more. -/
theorem events_add (m n : Nat) (s : Session V ρ) : events c (m + n) s = events c m s ++ events c n ((step c)^[m] s) := by
  induction m generalizing s with
  | zero => simp [events]
  | succ m ih => rw [Nat.succ_add, events, events, ih, List.append_assoc, Function.iterate_succ_apply]

/-- Two sessions cannot be told apart: to each number of steps of the first corresponds a number of steps of the second. -/
structure Unnoticed (c : Client V) (s t : Session V ρ) (pace : Nat → Nat) : Prop where
  begins : pace 0 = 0
  goesOn : StrictMono pace
  /-- Everything that the engine keeps is the same but the bus. -/
  world (n : Nat) : ((step c)^[pace n] t).state.scene.world =
    { ((step c)^[n] s).state.scene.world with bus := ((step c)^[pace n] t).state.scene.world.bus }
  /-- The program that drives the engine has the same result, if it is over. -/
  result (n : Nat) : ((step c)^[pace n] t).state.result? = ((step c)^[n] s).state.result?
  /-- As many programs are still to come. -/
  waiting (n : Nat) : ((step c)^[pace n] t).waiting.length = ((step c)^[n] s).waiting.length
  /-- The same step code has begun and the same outcomes were seen, in the same order. -/
  events (n : Nat) : events c (pace n) t = events c n s

end Session

namespace Bystanders

variable {V : Vocabulary} {B : Bystanders V} {ρ : Type} {c : Client V}

variable (B) in
/-- The session without bystanders and the session with them. -/
structure Sessions (ids : Numbering) (s t : Session V ρ) : Prop where
  states : B.States ids s.state t.state
  waiting : List.Forall₂ (B.Alike []) s.waiting t.waiting

variable {a b : MachineState V ρ} {later later' : List (Program V ρ)}

/-- A session gets unseen to where it is alike to the other one. -/
theorem Meets.session (h : B.Meets c a b) (waiting : List.Forall₂ (B.Alike []) later later') :
    ∃ k ids, B.Sessions ids ⟨a, later⟩ ((Session.step c)^[k] ⟨b, later'⟩) ∧ Session.events c k ⟨b, later'⟩ = [] := by
  induction h with
  | here h => exact ⟨0, _, ⟨h, waiting⟩, rfl⟩
  | later silent _ ih =>
    obtain ⟨k, ids, hsessions, hevents⟩ := ih
    rw [← Session.step_eq (Or.inl silent.unfinished)] at hsessions hevents
    refine ⟨k + 1, ids, hsessions, ?_⟩
    rw [Session.events, hevents, silent.unseen]
    rfl

/-- A session keeps step with the other one while its program runs. -/
theorem Advances.session (h : B.Advances c a b) (waiting : List.Forall₂ (B.Alike []) later later')
    (goes : (∀ result, a.control ≠ .finished result) ∨ later = []) :
    ∃ k ids, B.Sessions ids (Session.step c ⟨a, later⟩) ((Session.step c)^[k + 1] ⟨b, later'⟩) ∧
      Session.events c (k + 1) ⟨b, later'⟩ = (a.event? c).toList := by
  induction h with
  | @step b seen finished h =>
    have hgoes : (∀ result, b.control ≠ .finished result) ∨ later' = [] := by
      refine goes.imp (fun h result hb => h result ((finished result).2 hb)) fun h => ?_
      subst h
      exact List.forall₂_nil_left_iff.1 waiting
    obtain ⟨k, ids, hsessions, hevents⟩ := h.session waiting
    rw [← Session.step_eq hgoes] at hsessions hevents
    rw [← Session.step_eq goes] at hsessions
    refine ⟨k, ids, hsessions, ?_⟩
    rw [Session.events, hevents, seen, List.append_nil]
  | wait silent _ ih =>
    obtain ⟨k, ids, hsessions, hevents⟩ := ih
    rw [← Session.step_eq (Or.inl silent.unfinished)] at hsessions hevents
    refine ⟨k + 1, ids, hsessions, ?_⟩
    rw [Session.events, hevents, silent.unseen]
    rfl

/-- A step of a session corresponds to some steps of the session with bystanders, of which the same is seen. -/
theorem Sessions.step (discreet : B.Discreet c) {ids : Numbering} {s t : Session V ρ} (h : B.Sessions ids s t) :
    ∃ k ids, B.Sessions ids (s.step c) ((Session.step c)^[k + 1] t) ∧ Session.events c (k + 1) t = Session.events c 1 s := by
  obtain ⟨a, later⟩ := s
  obtain ⟨b, later'⟩ := t
  obtain ⟨states, waiting⟩ := h
  by_cases hgoes : (∀ result, a.control ≠ .finished result) ∨ later = []
  · obtain ⟨k, ids, hsessions, hevents⟩ := (states.advances discreet).session waiting hgoes
    exact ⟨k, ids, hsessions, hevents.trans (List.append_nil _).symm⟩
  · -- the program is over, and the next one begins in both sessions
    obtain ⟨⟨result, hfinished⟩, hlater⟩ : (∃ result, a.control = .finished result) ∧ later ≠ [] := by
      simpa only [not_or, not_forall, not_not, exists_prop] using hgoes
    obtain ⟨sc, control⟩ := a
    obtain ⟨sc', control'⟩ := b
    subst hfinished
    obtain ⟨scenes, controls⟩ := states
    cases controls
    cases waiting with
    | nil => exact absurd rfl hlater
    | cons code rest =>
      refine ⟨0, ids, ⟨⟨⟨scenes.world, scenes.buses, scenes.memory⟩, ?_⟩, rest⟩, rfl⟩
      exact .run (code.mono (List.nil_subset ids)) .bottom

/-- Sessions that are alike but for bystanders cannot be told apart. -/
theorem Sessions.unnoticed (discreet : B.Discreet c) {ids : Numbering} {s t : Session V ρ} (h : B.Sessions ids s t) :
    ∃ pace, Session.Unnoticed c s t pace := by
  let Met (n m : Nat) : Prop := ∃ ids, B.Sessions ids ((Session.step c)^[n] s) ((Session.step c)^[m] t) ∧
    Session.events c m t = Session.events c n s
  have goesOn : ∀ n m, Met n m → ∃ m', m < m' ∧ Met (n + 1) m' := by
    rintro n m ⟨ids, hmet, hevents⟩
    obtain ⟨k, ids', hnext, hseen⟩ := hmet.step discreet
    refine ⟨(k + 1) + m, by omega, ids', ?_, ?_⟩
    · rwa [Function.iterate_succ_apply', Function.iterate_add_apply]
    · rw [Nat.add_comm (k + 1) m, Session.events_add m (k + 1) t, hevents, hseen, ← Session.events_add]
  choose! next hnext using goesOn
  let pace : Nat → Nat := fun n => n.rec 0 next
  have hmet : ∀ n, Met n (pace n) := by
    intro n
    induction n with
    | zero => exact ⟨ids, h, rfl⟩
    | succ n ih => exact (hnext n (pace n) ih).2
  refine ⟨pace, rfl, strictMono_nat_of_lt_succ fun n => (hnext n (pace n) (hmet n)).1, fun n => ?_, fun n => ?_, fun n => ?_,
    fun n => ?_⟩ <;> obtain ⟨ids, ⟨states, waiting⟩, hevents⟩ := hmet n
  · exact states.scenes.world
  · exact states.result?_eq
  · exact waiting.length_eq.symm
  · exact hevents

end Bystanders

/-- Bystanders go unnoticed: whenever a session of discreet code takes place twice, the second time with more subscriptions, of handlers
that only look on, made anywhere and on any topics, the two cannot be told apart. -/
theorem bystanders_go_unnoticed {V : Vocabulary} {ρ : Type} {B : Bystanders V} {c : Client V} (discreet : B.Discreet c)
    (config : EngineConfig) (logsFaults : Bool) {memory memory' : V.Memory} (memories : B.alike [] memory memory')
    {first first' : Program V ρ} {later later' : List (Program V ρ)}
    (programs : List.Forall₂ (B.Alike []) (first :: later) (first' :: later')) :
    ∃ pace, Session.Unnoticed c (Session.start config logsFaults memory first later) (Session.start config logsFaults memory' first' later')
      pace := by
  obtain ⟨code, rest⟩ := List.forall₂_cons.1 programs
  have hstart : B.Sessions [] (Session.start config logsFaults memory first later)
      (Session.start config logsFaults memory' first' later') :=
    ⟨⟨⟨rfl, .new logsFaults, memories⟩, .run code .bottom⟩, rest⟩
  exact hstart.unnoticed discreet

/-! ## A sample -/

namespace Sample

/-- Three handlers that only look on, and one of the session's own. -/
inductive Onlooker where
  /-- Puts down the topic of what it was told. -/
  | records
  | fails
  | panics
  /-- Counts what it was told, for the session to see. -/
  | tallies

/-- The memory is a tally, and the records of bystanders. -/
abbrev gathering : Vocabulary := ⟨Nat × List String, Onlooker, Unit, Empty⟩

/-- What the handlers do. -/
def Onlooker.code (notification : Notification) : Onlooker → Program gathering (Except HandlerError Unit)
  | records => .look fun m => .remember (m.1, notification.topic :: m.2) (.done (.ok ()))
  | fails => .done (.error ⟨"no"⟩)
  | panics => .crash "ouch"
  | tallies => .look fun m => .remember (m.1 + 1, m.2) (.done (.ok ()))

/-- A step that tells its progress and suspends on a key, and is complete when it is resumed. -/
def talkative : Client gathering where
  handlerName _ := "onlooker"
  handle onlooker notification := onlooker.code notification
  stepName _ := "sample"
  defaultData _ := .ok Dict.empty
  primary _ step :=
    .call (.publish "progress" .null) fun _ => .call (.plain (.key (.submit step left))) fun _ => .done (.ok (.suspended left))
  resume _ := some fun _ _ => .done (.ok .complete)
  receive := nofun

/-- The session sees the tally and not the records. -/
def crowd : Bystanders gathering where
  idle onlooker := onlooker ≠ .tallies
  own onlooker := onlooker = .tallies
  alike _ m m' := m.1 = m'.1
  grows h _ := h

/-- The session has what is completed tallied, and executes the step. -/
def opening : Program gathering Unit :=
  .call (.plain (.bus (.subscribe "step.completed" .tallies))) fun _ => .call (.plain .openExecutor) fun _ =>
    .call (.execute 0 () lone false) fun _ => .done ()

/-- It resolves the key, which resumes the step. -/
def closing : Program gathering Unit := .call (.resolve left .expired) fun _ => .done ()

/-- Bystanders on the topics that are published. -/
def extras : List (String × Onlooker) :=
  [("step.started", .records), ("progress", .fails), ("step.suspended", .panics), ("step.completed", .records)]

/-- The code of the session cannot tell whether the bystanders are there, and they go unnoticed. -/
theorem crowd_goes_unnoticed : crowd.Discreet talkative ∧ crowd.alike [] (0, []) (0, []) ∧
    List.Forall₂ (crowd.Alike []) [opening, closing] [opening.inCompany extras, closing] ∧
    ∃ pace, Session.Unnoticed talkative (Session.start .default false (0, []) opening [closing])
      (Session.start .default false (0, []) (opening.inCompany extras) [closing]) pace := by
  have discreet : crowd.Discreet talkative := by
    refine ⟨fun _ _ _ => ?_, ?_, nofun, ?_, ?_⟩
    · exact .unread rfl fun _ _ _ _ => .same rfl fun _ _ _ => .done _
    · intro definition behaviour hbehaviour step outcome ids
      cases hbehaviour
      exact .done _
    · rintro _ rfl notification ids
      exact .look fun _ _ _ _ (halike : _ = _) => .remember (congrArg (· + 1) halike) (.done _)
    · intro onlooker hidle notification m
      cases onlooker with
      | records => exact .look (.remember (fun _ _ halike => halike) (.done _ _))
      | fails => exact .done _ _
      | panics => exact .crash _ _
      | tallies => exact absurd rfl hidle
  have opens : crowd.Alike [] opening opening :=
    .subscribe rfl fun _ _ _ _ => .same rfl fun _ _ _ => .same rfl fun _ _ _ => .done _
  have closes : crowd.Alike [] closing closing := .same rfl fun _ _ _ => .done _
  have idle : ∀ extra ∈ extras, crowd.idle extra.2 := by
    simp only [extras, List.forall_mem_cons]
    exact ⟨nofun, nofun, nofun, nofun, nofun⟩
  have programs : List.Forall₂ (crowd.Alike []) [opening, closing] [opening.inCompany extras, closing] :=
    .cons (crowd.alike_inCompany idle opens) (.cons closes .nil)
  exact ⟨discreet, rfl, programs, bystanders_go_unnoticed discreet .default false rfl programs⟩

/-- The bystanders do run meanwhile: their records are there in the end, and beside them the tally of the session. -/
example :
    (((Session.step talkative)^[40] (Session.start .default false (0, []) (opening.inCompany extras) [closing])).state.scene.memory :
      Nat × List String) = (1, ["step.completed", "step.started"]) := by
  decide +kernel

end Sample

end StepEngine
