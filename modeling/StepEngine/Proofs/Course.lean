import StepEngine.Engine.Slot

/-!
# Course: what is announced of a step instance, and when its code begins

To whoever listens, a step instance shows transitions, each published on its topic, and between them its code begins. The order of these
moments is a course: the start, the entry behaviour, rounds of suspension and resumption, and the end of the last run. `Course.Stage`
says how far an instance has come; every step of the engine leads the instance at a seat from one stage to the next
(`Course.Stage.Leads`), or leaves it where it is.
-/

namespace StepEngine

/-! ## Moments and courses -/

/-- What can be seen of a step instance at one moment. -/
inductive Moment where
  /-- A transition is published on a topic. -/
  | published (topic : String) (t : Transition)
  /-- The entry behaviour begins. -/
  | entered
  /-- The resumption behaviour begins with an outcome. -/
  | resumed (outcome : AsyncOutcome)

namespace Moment

/-- The step instance starts. -/
def started : Moment := published "step.started" ⟨.pending, .inProgress, .start⟩

/-- The step instance suspends on a key. -/
def suspended (key : AsyncKey) : Moment := published "step.suspended" ⟨.inProgress, .suspended, .suspend key⟩

/-- The step instance is resumed with its key. -/
def woken (key : AsyncKey) : Moment := published "step.resumed" ⟨.suspended, .inProgress, .resume key⟩

/-- The step instance fails. -/
def failed (message : String) : Moment := published "step.failed" ⟨.inProgress, .error, .fail message⟩

/-- A run of the step instance settles with an outcome. -/
def settled : StepOutcome → Moment
  | .complete => published "step.completed" ⟨.inProgress, .complete, .complete⟩
  | .suspended key => suspended key
  | .failed error => failed error.message

end Moment

namespace Course

/-- How a course begins. -/
def opening : List Moment := [.started, .entered]

/-- One round of a course: the instance is suspended on a key, and resumed with it and an outcome. -/
def round (r : AsyncKey × AsyncOutcome) : List Moment := [.suspended r.1, .woken r.1, .resumed r.2]

end Course

/-- The whole course of a step instance. Only a step that can be resumed goes through rounds; the resumption of any other step fails. -/
inductive Course (resumable : Bool) : List Moment → Prop where
  | settles (rounds : List (AsyncKey × AsyncOutcome)) (outcome : StepOutcome) (only : resumable = false → rounds = []) :
      Course resumable (Course.opening ++ rounds.flatMap Course.round ++ [.settled outcome])
  | refused (key : AsyncKey) (message : String) (unresumable : resumable = false) :
      Course resumable (Course.opening ++ [.suspended key, .woken key, .failed message])

namespace Course

/-! ## Stages -/

/-- How far a step instance has come. -/
inductive Stage where
  /-- It has no slot. -/
  | absent
  /-- Its start is announced. -/
  | started
  /-- Its activation was left before its code began. -/
  | left
  /-- Its code runs. -/
  | running
  /-- Its run has settled. -/
  | settled (outcome : StepOutcome)
  /-- Its resumption is announced. -/
  | resuming (key : AsyncKey) (outcome : AsyncOutcome)
  /-- It was resumed and has no code for that. -/
  | refused

namespace Stage

/-- What is seen of a step instance that has come so far. -/
inductive Told (resumable : Bool) : Stage → List Moment → Prop where
  | absent : Told resumable .absent []
  | started : Told resumable .started [.started]
  | left : Told resumable .left [.started]
  | running (rounds : List (AsyncKey × AsyncOutcome)) (only : resumable = false → rounds = []) :
      Told resumable .running (opening ++ rounds.flatMap round)
  | settled (rounds : List (AsyncKey × AsyncOutcome)) (outcome : StepOutcome) (only : resumable = false → rounds = []) :
      Told resumable (.settled outcome) (opening ++ rounds.flatMap round ++ [.settled outcome])
  | resuming (rounds : List (AsyncKey × AsyncOutcome)) (key : AsyncKey) (outcome : AsyncOutcome)
      (only : resumable = false → rounds = []) :
      Told resumable (.resuming key outcome) (opening ++ rounds.flatMap round ++ [.suspended key, .woken key])
  | refused (key : AsyncKey) (unresumable : resumable = false) : Told resumable .refused (opening ++ [.suspended key, .woken key])
  | failed (key : AsyncKey) (error : StepError) (unresumable : resumable = false) :
      Told resumable (.settled (.failed error)) (opening ++ [.suspended key, .woken key, .failed error.message])

/-- From one stage to the next, by what is seen on the way. -/
inductive Leads (resumable : Bool) : Stage → Option Moment → Stage → Prop where
  | stay (stage : Stage) : Leads resumable stage none stage
  | start : Leads resumable .absent (some .started) .started
  | leave : Leads resumable .started none .left
  | enter : Leads resumable .started (some .entered) .running
  | settle (outcome : StepOutcome) : Leads resumable .running (some (.settled outcome)) (.settled outcome)
  | wake (key : AsyncKey) (outcome : AsyncOutcome) :
      Leads resumable (.settled (.suspended key)) (some (.woken key)) (.resuming key outcome)
  | resume (key : AsyncKey) (outcome : AsyncOutcome) (can : resumable = true) :
      Leads resumable (.resuming key outcome) (some (.resumed outcome)) .running
  | refuse (key : AsyncKey) (outcome : AsyncOutcome) (unresumable : resumable = false) :
      Leads resumable (.resuming key outcome) none .refused
  | fail (error : StepError) : Leads resumable .refused (some (.failed error.message)) (.settled (.failed error))

variable {resumable : Bool} {stage next : Stage} {seen : List Moment} {moment : Option Moment}

/-- What is seen of a step instance after it has gone from one stage to the next. -/
theorem Leads.told (h : Leads resumable stage moment next) (told : Told resumable stage seen) :
    Told resumable next (seen ++ moment.toList) := by
  cases h with
  | stay => simpa using told
  | start =>
    cases told
    exact .started
  | leave =>
    cases told
    exact .left
  | enter =>
    cases told
    exact .running [] fun _ => rfl
  | settle outcome =>
    cases told with
    | running rounds only => exact .settled rounds outcome only
  | wake key outcome =>
    cases told with
    | settled rounds _ only =>
      simpa [Moment.settled] using Told.resuming rounds key outcome only
  | resume key outcome can =>
    cases told with
    | resuming rounds _ _ only =>
      have hrounds : opening ++ rounds.flatMap round ++ [.suspended key, .woken key] ++ [.resumed outcome] =
          opening ++ (rounds ++ [(key, outcome)]).flatMap round := by simp [round]
      rw [Option.toList_some, hrounds]
      exact .running _ fun hcannot => absurd (can.symm.trans hcannot) nofun
  | refuse key outcome unresumable =>
    cases told with
    | resuming rounds _ _ only =>
      rw [only unresumable]
      exact .refused key unresumable
  | fail error =>
    cases told with
    | refused key unresumable => exact .failed key error unresumable

/-- What is seen of a step instance so far is the beginning of a course. -/
theorem Told.prefix_course (h : Told resumable stage seen) : ∃ course, Course resumable course ∧ seen <+: course := by
  have extends' : ∀ more, Course resumable (seen ++ more) → ∃ course, Course resumable course ∧ seen <+: course :=
    fun more hcourse => ⟨_, hcourse, List.prefix_append seen more⟩
  cases h with
  | absent => exact extends' _ (.settles [] .complete fun _ => rfl)
  | started => exact extends' [.entered, .settled .complete] (.settles [] .complete fun _ => rfl)
  | left => exact extends' [.entered, .settled .complete] (.settles [] .complete fun _ => rfl)
  | running rounds only => exact extends' [.settled .complete] (.settles rounds .complete only)
  | settled rounds outcome only => exact ⟨_, .settles rounds outcome only, List.prefix_rfl⟩
  | resuming rounds key outcome only =>
    cases hresumable : resumable with
    | true =>
      subst hresumable
      have hcourse : Course true (opening ++ (rounds ++ [(key, outcome)]).flatMap round ++ [.settled .complete]) :=
        .settles _ .complete nofun
      exact extends' [.resumed outcome, .settled .complete] (by simpa [round] using hcourse)
    | false =>
      subst hresumable
      rw [only rfl] at extends' ⊢
      exact extends' [.failed ""] (.refused key "" rfl)
  | refused key unresumable => exact extends' [.failed ""] (.refused key "" unresumable)
  | failed key error unresumable => exact ⟨_, .refused key error.message unresumable, List.prefix_rfl⟩

end Stage

end Course

end StepEngine
