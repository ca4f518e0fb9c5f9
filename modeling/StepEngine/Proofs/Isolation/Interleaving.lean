import StepEngine.Proofs.Isolation.Others
import StepEngine.Proofs.Isolation.Own

/-!
# Interleaving: tenants are isolated

An engine is driven by a tenant and by others, who take turns: each turn is a program that runs to its end, and what is suspended meanwhile
is resumed in later turns. The tenant's turns, taken alone, end with the same results, and leave the same for the tenant as when the others
take theirs in between (`Tenant.Isolated`), in whichever order. So the tenant cannot find out what others do, or whether there are any.
-/

namespace StepEngine

variable {V : Vocabulary} {ρ : Type}

/-! ## Turns -/

/-- A program that somebody drives the engine with, whether it is the tenant's own, and the result that it ends with. -/
structure Turn (V : Vocabulary) (ρ : Type) where
  own : Bool
  program : Program V ρ
  result : Except String ρ

/-- A program drives the engine to its end. -/
def Client.Performs (c : Client V) (sc : Scene V) (program : Program V ρ) (result : Except String ρ) (last : Scene V) : Prop :=
  (MachineState.start sc.world sc.memory program).Reaches c ⟨last, .finished result⟩

/-- Turns are taken one after the other. -/
inductive Client.Plays (c : Client V) : Scene V → List (Turn V ρ) → Scene V → Prop where
  | nil (sc : Scene V) : Plays c sc [] sc
  | cons {sc next last : Scene V} {turn : Turn V ρ} {rest : List (Turn V ρ)} (first : c.Performs sc turn.program turn.result next)
    (later : Plays c next rest last) : Plays c sc (turn :: rest) last

namespace MachineState

variable {c : Client V}

/-- A finished machine stays as it is, however many steps it takes. -/
theorem iterate_finished (last : Scene V) (result : Except String ρ) (n : Nat) :
    (step c)^[n] ⟨last, .finished result⟩ = ⟨last, .finished result⟩ :=
  Function.iterate_fixed rfl n

/-- What holds again and again holds in the end. -/
theorem Reaches.finished {P : MachineState V ρ → Prop} (again : ∀ s, P s → ∃ s', (s.step c).Reaches c s' ∧ P s')
    {s : MachineState V ρ} {last : Scene V} {result : Except String ρ} (reaches : s.Reaches c ⟨last, .finished result⟩) (h : P s) :
    P ⟨last, .finished result⟩ := by
  obtain ⟨n, hn⟩ := reaches
  induction n using Nat.strong_induction_on generalizing s with
  | _ n ih =>
    cases n with
    | zero => exact hn ▸ h
    | succ n =>
      obtain ⟨s', ⟨m, rfl⟩, h'⟩ := again s h
      rw [Function.iterate_succ_apply] at hn
      by_cases hm : m ≤ n
      · refine ih (n - m) (by omega) h' ?_
        rw [← Function.iterate_add_apply, Nat.sub_add_cancel hm, hn]
      · -- the end comes on the way to where it holds again, and lasts
        have hlasts : (step c)^[m] (s.step c) = ⟨last, .finished result⟩ := by
          rw [← Nat.sub_add_cancel (Nat.le_of_not_le hm), Function.iterate_add_apply, hn, iterate_finished]
        exact hlasts ▸ h'

end MachineState

namespace Tenant

variable (T : Tenant V)

/-- A program of the tenant's. -/
def Own (p : Program V ρ) : Prop := T.Alike (fun _ => True) p p

variable {T} {c : Client V} {sc sc' last : Scene V}

/-- A program of the tenant's ends with the same result in two engines that the tenant cannot tell apart, and leaves two such. -/
theorem Scenes.performs (separates : T.Separates c) (h : T.Scenes sc sc') {p : Program V ρ} (own : T.Own p) {result : Except String ρ}
    (performs : c.Performs sc p result last) : ∃ last', c.Performs sc' p result last' ∧ T.Scenes last last' := by
  have again : ∀ a : MachineState V ρ, (∃ b, (MachineState.start sc'.world sc'.memory p).Reaches c b ∧ T.States a b) →
      ∃ a', (a.step c).Reaches c a' ∧ ∃ b, (MachineState.start sc'.world sc'.memory p).Reaches c b ∧ T.States a' b := by
    rintro a ⟨b, hreaches, hstates⟩
    obtain ⟨a', b', ha, hb, hstates'⟩ := hstates.step separates
    exact ⟨a', ha, b', hreaches.trans (.head hb), hstates'⟩
  have begin : T.States (MachineState.start sc.world sc.memory p) (MachineState.start sc'.world sc'.memory p) :=
    ⟨⟨h.worlds, h.seen⟩, .run own .bottom⟩
  obtain ⟨⟨last', control⟩, hreaches, ⟨scenes, controls⟩⟩ := MachineState.Reaches.finished again performs ⟨_, .refl _, begin⟩
  cases controls
  exact ⟨last', hreaches, scenes⟩

/-- A program of others leaves an engine that the tenant cannot tell apart from one in which it did not run. -/
theorem Scenes.performs_other (separates : T.Separates c) (h : T.Scenes sc sc') {p : Program V ρ} (foreign : T.Foreign p)
    {result : Except String ρ} (performs : c.Performs sc p result last) : T.Scenes last sc' := by
  have begin : T.OthersRun sc' (MachineState.start sc.world sc.memory p) := ⟨⟨h.worlds, h.seen⟩, .run (foreign _) .bottom⟩
  exact (MachineState.Reaches.finished (fun a ha => ha.step separates) performs begin).scenes

/-! ## Isolation -/

variable (T) in
/-- A turn of the tenant's, or one of somebody else's. -/
def Fits (turn : Turn V ρ) : Prop := if turn.own then T.Own turn.program else T.Foreign turn.program

/-- When turns are taken, the tenant's turns among them can be taken alone. -/
theorem Scenes.plays (separates : T.Separates c) {turns : List (Turn V ρ)} (fits : ∀ turn ∈ turns, T.Fits turn) (h : T.Scenes sc sc')
    (plays : c.Plays sc turns last) : ∃ last', c.Plays sc' (turns.filter (·.own)) last' ∧ T.Scenes last last' := by
  induction plays generalizing sc' with
  | nil sc => exact ⟨sc', .nil sc', h⟩
  | @cons sc next last turn rest first later ih =>
    obtain ⟨hfits, hrest⟩ := List.forall_mem_cons.1 fits
    rw [Fits] at hfits
    split at hfits
    · rename_i own
      obtain ⟨next', first', hnext⟩ := h.performs separates hfits first
      obtain ⟨last', later', hlast⟩ := ih hrest hnext
      exact ⟨last', by rw [List.filter_cons, if_pos own]; exact .cons first' later', hlast⟩
    · rename_i other
      obtain ⟨last', later', hlast⟩ := ih hrest (h.performs_other separates hfits first)
      exact ⟨last', by rw [List.filter_cons, if_neg other]; exact later', hlast⟩

variable (T) in
/-- An engine that others drive too, and one that the tenant drives alone, are the same for the tenant. -/
structure Isolated (ρ : Type) (c : Client V) (sc sc' : Scene V) : Prop where
  /-- Its step instances have the same data. -/
  stepData : sc.world.stepData.shown T.owns = sc'.world.stepData.shown T.owns
  /-- Its workflows have the same data. -/
  workflowData : sc.world.workflowData.shown T.owns = sc'.world.workflowData.shown T.owns
  /-- Its workflows have the same input. -/
  inputs : (⟨sc.world.inputs⟩ : Store WorkflowId).shown T.owns = (⟨sc'.world.inputs⟩ : Store WorkflowId).shown T.owns
  /-- Its keys have the same records, but for the times in them. -/
  keys : sc.world.keys.shown T.share = sc'.world.keys.shown T.share
  /-- Its step instances have the same slots. -/
  slots : sc.world.slots.shown T.owns = sc'.world.slots.shown T.owns
  /-- Whatever it may ask is answered the same, but for times. -/
  answer (op : PlainOp V) (offBus : isBus op = false) (permitted : T.Permits op) (within : op.Within T.share) :
    op.told T.share.tells (op.run sc.world).1 = op.told T.share.tells (op.run sc'.world).1
  /-- Its next program ends in both or in neither, and with the same result. -/
  next (p : Program V ρ) (own : T.Own p) (result : Except String ρ) :
    (∃ last, c.Performs sc p result last) ↔ ∃ last', c.Performs sc' p result last'

/-- Engines that the tenant cannot tell apart are the same for it. -/
theorem Scenes.isolated (separates : T.Separates c) (h : T.Scenes sc sc') : T.Isolated ρ c sc sc' where
  stepData := h.worlds.agree.stepData
  workflowData := h.worlds.agree.workflowData
  inputs := h.worlds.agree.inputs
  keys := h.worlds.agree.keys.shown
  slots := h.worlds.slots
  answer _ offBus permitted within := h.worlds.answer offBus permitted within
  next p own result := by
    constructor
    · rintro ⟨last, performs⟩
      obtain ⟨last', performs', -⟩ := h.performs separates own performs
      exact ⟨last', performs'⟩
    · rintro ⟨last', performs'⟩
      obtain ⟨last, performs, -⟩ := h.symm.performs separates own performs'
      exact ⟨last, performs⟩

end Tenant

/-- Tenants are isolated: whenever a tenant and others take turns at an engine, the tenant's turns can be taken alone with the same results,
and after them the engine is the same for the tenant. -/
theorem tenants_isolated {T : Tenant V} {c : Client V} (separates : T.Separates c) {sc last : Scene V} (orderly : T.Orderly sc.world)
    (keyed : T.share.Keyed sc.world.keys) {turns : List (Turn V ρ)} (fits : ∀ turn ∈ turns, T.Fits turn) (plays : c.Plays sc turns last) :
    ∃ last', c.Plays sc (turns.filter (·.own)) last' ∧ T.Isolated ρ c last last' := by
  have hself : T.Scenes sc sc := ⟨⟨⟨rfl, rfl, rfl, rfl, fun _ _ => rfl, keyed, keyed⟩, rfl, rfl, rfl, rfl, orderly, orderly⟩, rfl⟩
  obtain ⟨last', plays', hlast⟩ := hself.plays separates fits plays
  exact ⟨last', plays', hlast.isolated separates⟩

/-! ## A sample -/

namespace Sample

/-- One handler, which keeps a list of topics in the memory, one step definition, and no receivers. -/
def household : Vocabulary := ⟨List String, Unit, Unit, Empty⟩

/-- The key that a step instance awaits. -/
def keyOf (step : StepId) : AsyncKey := if step.workflow = lone.workflow then left else right

/-- The step that awaits the key of its instance and is complete when it is resumed. -/
def tenants : Client household where
  handlerName _ := "topics"
  handle _ notification := .look fun topics => .remember (notification.topic :: topics) (.done (.ok ()))
  stepName _ := "sample"
  defaultData _ := .ok Dict.empty
  primary _ step := .call (.plain (.key (.submit step (keyOf step)))) fun _ => .done (.ok (.suspended (keyOf step)))
  resume _ := some fun _ _ => .done (.ok .complete)
  receive := nofun

/-- Who drives the workflow of the lone step instance, and does not look at the list of topics. -/
def tenant : Tenant household where
  Seen := Unit
  owns workflow := workflow = lone.workflow
  tokens key := key = left
  sees _ := ()
  code _ := True
  foreign _ := True
  handlers _ := True

/-- A step instance is executed. -/
def begin (step : StepId) : Program household (Option StepOutcome) := .call (.execute 0 () step false) fun outcome => .done (some outcome)

/-- The key of a step instance is expired, and the instance is asked for its outcome. -/
def expire (step : StepId) : Program household (Option StepOutcome) :=
  .call (.resolve (keyOf step) .expired) fun _ => .call (.plain (.lastOutcome 0 step)) fun outcome => .done outcome

/-- Both step instances are executed before the key of either expires. -/
def visit : List (Turn household (Option StepOutcome)) :=
  [⟨true, begin lone, .ok (some (.suspended left))⟩, ⟨false, begin neighbour, .ok (some (.suspended right))⟩,
    ⟨false, expire neighbour, .ok (some .complete)⟩, ⟨true, expire lone, .ok (some .complete)⟩]

/-- A new engine with its executor and a subscriber. -/
def house : Scene household :=
  ⟨((PlainOp.bus (.subscribe "step.completed" ())).run (World.new .default false).openExecutor).2, ([] : List String), []⟩

/-- The engine after some steps of a program. -/
def after (sc : Scene household) (p : Program household (Option StepOutcome)) (n : Nat) : MachineState household (Option StepOutcome) :=
  (MachineState.step tenants)^[n] (.start sc.world sc.memory p)

/-- A program that is over after some steps was performed. -/
theorem performs_after {sc : Scene household} {p : Program household (Option StepOutcome)} {n : Nat}
    {result : Except String (Option StepOutcome)} (h : (after sc p n).control = .finished result) :
    tenants.Performs sc p result (after sc p n).scene := ⟨n, by rw [← h]; rfl⟩

/-- The code of the two step instances is separate. -/
theorem tenant_separates : tenant.Separates tenants where
  primary _ step _ own := by
    have hkey : keyOf step = left := if_pos (of_decide_eq_true own)
    exact .own rfl trivial ⟨own, hkey⟩ fun _ _ _ => .done hkey
  resume _ behaviour _ hbehaviour step outcome _ := by
    cases hbehaviour
    exact .done trivial
  primary_foreign _ step _ other seen := by
    have hkey : keyOf step = right := if_neg (of_decide_eq_false other)
    have unnamed : keyOf step ≠ left := by
      rw [hkey]
      decide
    exact .call ⟨⟨Bool.not_eq_true' _ ▸ other, unnamed, unnamed⟩, trivial⟩ fun _ => .done _
  resume_foreign _ behaviour _ hbehaviour step outcome _ seen := by
    cases hbehaviour
    exact .done _
  handle _ _ notification seen := .look fun _ _ => .remember rfl (.done _)

/-- The tenant's step instance is resumed after the other one was executed and resumed, and the tenant does not notice. -/
theorem visit_goes_unnoticed : tenant.Separates tenants ∧ tenant.Orderly house.world ∧ tenant.share.Keyed house.world.keys ∧
    (∀ turn ∈ visit, tenant.Fits turn) ∧ ∃ last, tenants.Plays house visit last ∧
      ∃ last', tenants.Plays house (visit.filter (·.own)) last' ∧ tenant.Isolated (Option StepOutcome) tenants last last' := by
  have orderly : tenant.Orderly house.world := by
    refine ⟨?_, fun _ _ _ => trivial, ?_⟩
    · intro slot hslot
      exact absurd hslot List.not_mem_nil
    · intro descriptor
      exact Empty.elim descriptor
  have keyed : tenant.share.Keyed house.world.keys := by
    refine ⟨?_, fun _ binds _ => binds⟩
    intro key record hget
    cases hget
  have own : tenant.owns lone.workflow = true := by decide
  have other : tenant.owns neighbour.workflow = false := by decide
  have begins : tenant.Own (begin lone) := .execute own trivial fun _ => .done trivial
  have expires : tenant.Own (expire lone) := .resolve rfl fun _ => .own rfl trivial own fun _ _ heq => by
    cases heq
    exact .done trivial
  have fits : ∀ turn ∈ visit, tenant.Fits turn := by
    simp only [visit, List.forall_mem_cons]
    refine ⟨begins, ?_, ?_, expires, List.forall_mem_nil _⟩
    · exact fun _ => .call ⟨other, trivial⟩ fun _ => .done _
    · have hkey : ¬ keyOf neighbour = left := by decide
      have within : (!tenant.owns neighbour.workflow) = true := by decide
      exact fun _ => .call hkey fun _ => .call ⟨within, trivial⟩ fun _ => .done _
  have plays : tenants.Plays house visit _ :=
    .cons (performs_after (n := 10) rfl) (.cons (performs_after (n := 10) rfl) (.cons (performs_after (n := 14) rfl)
      (.cons (performs_after (n := 14) rfl) (.nil _))))
  exact ⟨tenant_separates, orderly, keyed, fits, _, plays, tenants_isolated tenant_separates orderly keyed fits plays⟩

end Sample

end StepEngine
