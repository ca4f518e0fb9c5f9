import StepEngine.Proofs.Share.World

/-!
# Isolation: code that keeps to its workflows

A tenant is whoever drives some of the workflows on an engine, by requests from outside and by the code of their steps. Its code keeps to
what is its own: it names only its workflows, their step instances and its tokens, sees only its part of the shared memory, and does not
care about what the engine tells of times and of the bus, which are everybody's (`Tenant.Alike` relates a program to what it would do if
it were told something else of these; a program that keeps to its own is one that is alike to itself). The code of the others names
nothing of the tenant's and leaves its part of the memory alone (`Tenant.Foreign`), and the handlers of notifications ask nothing of the
engine (`Tenant.Idle`).
-/

namespace StepEngine

/-- Who drives some of the workflows. -/
structure Tenant (V : Vocabulary) where
  /-- What there is to be seen of the memory. -/
  Seen : Type
  /-- The workflows. -/
  owns : WorkflowId → Bool
  /-- The tokens that are bound to their step instances. -/
  tokens : AsyncKey → Prop
  /-- The part of the memory that the code of the tenant sees. -/
  sees : V.Memory → Seen
  /-- The definitions of its steps. -/
  code : V.Definition → Prop
  /-- The definitions of the steps of others. -/
  foreign : V.Definition → Prop
  /-- The handlers of notifications, whoever subscribes them. -/
  handlers : V.Handler → Prop

namespace Tenant

variable {V : Vocabulary} (T : Tenant V) {τ : Type}

/-- What the engine keeps for the tenant. Nothing is told of times. -/
def share : Share := ⟨T.owns, T.tokens, T.tokens, fun _ => 0⟩

/-- The request is neither about who carries out resumptions nor to subscribe other handlers. -/
def Permits : PlainOp V → Prop
  | .bus (.subscribe _ handler) => T.handlers handler
  | .openExecutor => False
  | .releaseExecutor _ => False
  | .attach _ => False
  | .detach => False
  | _ => True

/-- The request is one to the bus. -/
def isBus : PlainOp V → Bool
  | .bus _ => true
  | _ => false

/-! ## The tenant's code -/

/-- A program of the tenant, and what it does when it is told something else of times and of the bus. `keeps` is what holds of its
result. -/
inductive Alike (keeps : τ → Prop) : Program V τ → Program V τ → Prop where
  | done {result : τ} (kept : keeps result) : Alike keeps (.done result) (.done result)
  | crash (message : String) : Alike keeps (.crash message) (.crash message)
  /-- A request within the share gets the same answer, but for times. -/
  | own {op : PlainOp V} {next next' : op.Answer → Program V τ} (offBus : isBus op = false) (permitted : T.Permits op)
    (within : op.Within T.share)
    (h : ∀ answer answer', op.told T.share.tells answer = op.told T.share.tells answer' → Alike keeps (next answer) (next' answer')) :
    Alike keeps (.call (.plain op) next) (.call (.plain op) next')
  /-- It does not matter what is asked of the bus and what it answers. -/
  | bus {op op' : BusOp V.Handler} {next : op.Answer → Program V τ} {next' : op'.Answer → Program V τ} (permitted : T.Permits (.bus op))
    (permitted' : T.Permits (.bus op')) (h : ∀ answer answer', Alike keeps (next answer) (next' answer')) :
    Alike keeps (.call (.plain (.bus op)) next) (.call (.plain (.bus op')) next')
  /-- It does not matter what is published and what is reported of it. -/
  | publish {topic topic' : String} {payload payload' : Json} {next next' : PublishReport → Program V τ}
    (h : ∀ report report', Alike keeps (next report) (next' report')) :
    Alike keeps (.call (.publish topic payload) next) (.call (.publish topic' payload') next')
  | resolve {key : AsyncKey} {outcome : AsyncOutcome} {next next' : Except KeyError Unit → Program V τ} (named : T.tokens key)
    (h : ∀ answer, Alike keeps (next answer) (next' answer)) :
    Alike keeps (.call (.resolve key outcome) next) (.call (.resolve key outcome) next')
  | execute {executor : Nat} {definition : V.Definition} {step : StepId} {background : Bool} {next next' : StepOutcome → Program V τ}
    (own : T.owns step.workflow = true) (code : T.code definition) (h : ∀ outcome, Alike keeps (next outcome) (next' outcome)) :
    Alike keeps (.call (.execute executor definition step background) next) (.call (.execute executor definition step background) next')
  | apply {executor : Nat} {r : Resumption} {next next' : Option StepOutcome → Program V τ} (own : T.owns r.step.workflow = true)
    (h : ∀ outcome, Alike keeps (next outcome) (next' outcome)) :
    Alike keeps (.call (.apply executor r) next) (.call (.apply executor r) next')
  | look {next next' : V.Memory → Program V τ} (h : ∀ m m', T.sees m = T.sees m' → Alike keeps (next m) (next' m')) :
    Alike keeps (.look next) (.look next')
  | remember {m m' : V.Memory} {next next' : Program V τ} (seen : T.sees m = T.sees m') (h : Alike keeps next next') :
    Alike keeps (.remember m next) (.remember m' next')

/-- A key that step code of the tenant waits for is one of its tokens. -/
def Keeps : Except StepError Completion → Prop
  | .ok (.suspended key) => T.tokens key
  | _ => True

/-! ## The code of others -/

/-- A program that makes some requests only, and leaves what the tenant sees of the memory as it is. -/
inductive Confined (allows : Op V → Prop) (seen : T.Seen) : Program V τ → Prop where
  | done (result : τ) : Confined allows seen (.done result)
  | crash (message : String) : Confined allows seen (.crash message)
  | call {op : Op V} {next : op.Answer → Program V τ} (allowed : allows op) (h : ∀ answer, Confined allows seen (next answer)) :
    Confined allows seen (.call op next)
  | look {next : V.Memory → Program V τ} (h : ∀ m, T.sees m = seen → Confined allows seen (next m)) : Confined allows seen (.look next)
  | remember {m : V.Memory} {next : Program V τ} (unseen : T.sees m = seen) (h : Confined allows seen next) :
    Confined allows seen (.remember m next)

/-- The request names nothing of the tenant's. -/
def Elsewhere : Op V → Prop
  | .plain op => op.Within T.share.others ∧ T.Permits op
  | .publish _ _ => True
  | .resolve key _ => ¬ T.tokens key
  | .execute _ definition step _ => T.owns step.workflow = false ∧ T.foreign definition
  | .apply _ r => T.owns r.step.workflow = false

/-- The request asks nothing of the engine but the time, a while to wait, or a line in the log. -/
def IsIdle : Op V → Prop
  | .plain .now => True
  | .plain (.sleep _) => True
  | .plain (.log _) => True
  | _ => False

/-- A program of others: it names nothing of the tenant's. -/
def Foreign (p : Program V τ) : Prop := ∀ seen, T.Confined T.Elsewhere seen p

/-- A program that only looks on. -/
def Idle (p : Program V τ) : Prop := ∀ seen, T.Confined IsIdle seen p

/-- The code of a client keeps to its own: that of the tenant's steps, that of the steps of others, and that of handlers. -/
structure Separates (c : Client V) : Prop where
  primary : ∀ definition step, T.code definition → T.owns step.workflow = true →
    T.Alike T.Keeps (c.primary definition step) (c.primary definition step)
  resume : ∀ definition behaviour, T.code definition → c.resume definition = some behaviour →
    ∀ step outcome, T.owns step.workflow = true → T.Alike T.Keeps (behaviour step outcome) (behaviour step outcome)
  primary_foreign : ∀ definition step, T.foreign definition → T.owns step.workflow = false → T.Foreign (c.primary definition step)
  resume_foreign : ∀ definition behaviour, T.foreign definition → c.resume definition = some behaviour →
    ∀ step outcome, T.owns step.workflow = false → T.Foreign (behaviour step outcome)
  handle : ∀ handler, T.handlers handler → ∀ notification, T.Idle (c.handle handler notification)

end Tenant

end StepEngine
