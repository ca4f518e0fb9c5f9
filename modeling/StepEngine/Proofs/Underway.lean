import StepEngine.Proofs.Calls
import StepEngine.Proofs.Frames

/-!
# Underway: the handlers that run on a stack

A handler that runs keeps the report of its publication in its frame. So the stack tells which publications are in progress, and how far
they are (`Control.underway`). When code or an activation goes on, it begins a publication at most: it ends none, and it leaves the bus
alone otherwise (`GoesOn`).
-/

namespace StepEngine

open Machine

variable {V : Vocabulary} {ρ : Type} {c : Client V}

/-! ## Publications in progress -/

/-- The handlers that were called and are not over, each with the stack that its publication was made on, the innermost first. -/
def Stack.handlings : {e : Expects} → Stack V ρ e → List (Delivery V.Handler × Stack V ρ .report)
  | _, .bottom => []
  | _, .handling d below => (d, below) :: below.handlings
  | _, .receiving _ below => below.handlings
  | _, .active _ below => below.handlings
  | _, .publishing _ below => below.handlings
  | _, .announcing _ _ below => below.handlings
  | _, .awaiting _ _ below => below.handlings

/-- A publication was made on a lower stack than that on which one of its handlers runs. -/
theorem Stack.depth_lt_of_mem_handlings {e : Expects} {stack : Stack V ρ e} {d : Delivery V.Handler} {below : Stack V ρ .report}
    (h : (d, below) ∈ stack.handlings) : below.depth < stack.depth := by
  induction stack with
  | bottom => cases h
  | handling d' below' ih =>
    rcases List.mem_cons.1 h with heq | h
    · cases heq
      exact Nat.lt_succ_self _
    · exact Nat.lt_succ_of_lt (ih h)
  | receiving next below' ih => exact Nat.lt_succ_of_lt (ih h)
  | active seat below' ih => exact Nat.lt_succ_of_lt (ih h)
  | publishing next below' ih => exact Nat.lt_succ_of_lt (ih h)
  | announcing seat phase below' ih => exact Nat.lt_succ_of_lt (ih h)
  | awaiting next background below' ih => exact Nat.lt_succ_of_lt (ih h)

namespace Control

/-- The handlers that were called and are not over. -/
def handlings : Control V ρ → List (Delivery V.Handler × Stack V ρ .report)
  | .run _ stack => stack.handlings
  | .report _ stack => stack.handlings
  | .proceed _ _ stack => stack.handlings
  | .settle _ _ stack => stack.handlings
  | .outcome _ stack => stack.handlings
  | .unwind _ stack => stack.handlings
  | .finished _ => []

/-- The report of a publication that is complete. -/
def report? : Control V ρ → Option PublishReport
  | .report r _ => some r
  | _ => none

/-- The reports of the publications in progress, as far as they are made, the innermost first. -/
def underway (control : Control V ρ) : List PublishReport := control.report?.toList ++ control.handlings.map (·.1.report)

end Control

/-! ## What goes on -/

/-- A request that is answered at once, and is not one to the bus, leaves the bus alone. -/
theorem bus_plain (w : World V) (op : PlainOp V) (other : ∀ request, op ≠ .bus request) : (op.run w).2.bus = w.bus := by
  cases op with
  | bus request => exact absurd rfl (other request)
  | key op =>
    simp only [PlainOp.run]
    split <;> rfl
  | detach =>
    simp only [PlainOp.run]
    split <;> rfl
  | _ => rfl

section

variable {sc sc' : Scene V} {e : Expects} {stack : Stack V ρ e} {next : MachineState V ρ}

/-- What becomes of a scene when code or an activation goes on over a stack: a publication begins, or the bus stays as it is and the same
handlers are underway. -/
inductive GoesOn (c : Client V) (sc : Scene V) (stack : Stack V ρ e) (next : MachineState V ρ) : Prop where
  | publication {sc' : Scene V} {topic : String} {payload : Json} {below : Stack V ρ .report} (bus : sc'.world.bus = sc.world.bus)
    (handlings : below.handlings = stack.handlings) (eq : next = publish c sc' topic payload below)
  | still (bus : next.scene.world.bus = sc.world.bus) (handlings : next.control.handlings = stack.handlings)
    (unreported : next.control.report? = none)

/-- The rest of the scene does not matter. -/
theorem GoesOn.congr (h : GoesOn c sc stack next) (bus : sc.world.bus = sc'.world.bus) : GoesOn c sc' stack next := by
  cases h with
  | publication hbus handlings eq => exact .publication (hbus.trans bus) handlings eq
  | still hbus handlings unreported => exact .still (hbus.trans bus) handlings unreported

/-- An announcement begins a publication, or the activation goes on. -/
theorem goesOn_announce {below : Stack V ρ .outcome} (seat : Seat) (t : Transition) (phase : Phase) (bus : sc'.world.bus = sc.world.bus)
    (handlings : below.handlings = stack.handlings) : GoesOn c sc stack (announce c sc' seat t phase below) := by
  rw [announce]
  split
  · exact .publication bus handlings rfl
  · exact .still bus handlings rfl

variable {k : Kind} (below : Stack V ρ (.code k))

theorem goesOn_execute (executor : Nat) (definition : V.Definition) (step : StepId) (background : Bool)
    (next : StepOutcome → Program V (k.Result ρ)) :
    GoesOn c sc below (execute c sc executor definition step background next below) := by
  simp only [execute]
  split
  · exact .still rfl rfl rfl
  · exact goesOn_announce _ _ _ rfl rfl

theorem goesOn_applyResumption (executor : Nat) (r : Resumption) (next : Option StepOutcome → Program V (k.Result ρ)) :
    GoesOn c sc below (applyResumption c sc executor r next below) := by
  simp only [applyResumption]
  split
  · exact .still rfl rfl rfl
  · split
    · exact .still rfl rfl rfl
    · split
      · exact .still rfl rfl rfl
      · exact goesOn_announce _ _ _ rfl rfl

theorem goesOn_resolve (key : AsyncKey) (outcome : AsyncOutcome) (next : Except KeyError Unit → Program V (k.Result ρ)) :
    GoesOn c sc below (resolve c sc key outcome next below) := by
  cases hresolve : sc.world.keys.resolve key outcome sc.world.clock with
  | error e =>
    rw [resolve_eq_error next below hresolve]
    exact .still rfl rfl rfl
  | ok answer =>
    have handsOver := handsOver_resolve (c := c) next below hresolve
    generalize resolve c sc key outcome next below = after at handsOver
    cases handsOver with
    | receiver attached world => exact .still (by rw [world]) rfl rfl
    | executor attached served world => exact (goesOn_applyResumption below _ _ _).congr (by rw [world])
    | nobody unserved world => exact .still (by rw [world]) rfl rfl

theorem goesOn_settle (seat : Seat) (result : Except StepError Completion) (below : Stack V ρ .outcome) :
    GoesOn c sc below (settle c sc seat result below) := by
  simp only [settle]
  split
  · exact .still rfl rfl rfl
  · split
    · exact goesOn_announce _ _ _ rfl rfl
    · exact .still rfl rfl rfl

theorem goesOn_proceed (seat : Seat) (phase : Phase) (below : Stack V ρ .outcome) :
    GoesOn c sc below (proceed c sc seat phase below) := by
  rw [proceed.eq_def]
  split
  · simp only [drain]
    split
    · exact .still rfl rfl rfl
    · split
      · exact .still rfl rfl rfl
      · exact goesOn_announce _ _ _ rfl rfl
  · rw [enter]
    split <;> exact .still rfl rfl rfl
  · rw [resume]
    split <;> exact .still rfl rfl rfl
  · exact .still rfl rfl rfl

end

end StepEngine
