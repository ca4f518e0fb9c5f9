import StepEngine.Engine.Program

/-!
# Bystanders: subscribers that only look on

A bystander is a handler that asks the engine for nothing. It may put down in the shared memory what it was told, and report to the log,
and then it is done, with or without an error, or panics (`Bystanders.Idle`).

Code cannot tell whether bystanders are there as long as it keeps its hands off what they change: the reports of its publications, the
statistics of the bus, the records of the bystanders, and the numbers of its own subscriptions, which are shifted when others subscribe
in between. `Bystanders.Alike` relates a program to the same program in company: the two make the same requests for the same answers,
except that the second also subscribes bystanders (`extra`). A program that is alike to itself is one that cannot tell.
-/

namespace StepEngine

/-- For each subscription of the code itself, the number that it has without bystanders and the one that it has with them. -/
abbrev Numbering := List (Nat × Nat)

/-- Who only looks on, and how two memories may differ for that: by what was put down by bystanders, and by the numbers of
subscriptions. -/
structure Bystanders (V : Vocabulary) where
  /-- The handler belongs to a bystander. -/
  idle : V.Handler → Prop
  /-- The handler belongs to the code itself, which subscribes no other. -/
  own : V.Handler → Prop
  /-- The code sees the same in two memories, the first without bystanders and the second with them. -/
  alike : Numbering → V.Memory → V.Memory → Prop
  grows : ∀ {ids ids' m m'}, alike ids m m' → ids ⊆ ids' → alike ids' m m'

namespace Op

variable {V : Vocabulary}

/-- The answer to a request tells about subscribers: it is the report of a publication, or a figure of the bus. -/
def counts : Op V → Bool
  | .publish _ _ => true
  | .plain (.bus (.subscriberCount _)) => true
  | .plain (.bus .stats) => true
  | .plain (.bus .faults) => true
  | _ => false

/-- A request is neither a publication nor one to the bus. -/
def offBus : Op V → Bool
  | .publish _ _ => false
  | .plain (.bus _) => false
  | _ => true

end Op

namespace Bystanders

variable {V : Vocabulary} (B : Bystanders V) {τ : Type}

/-- A program that begins with a memory asks the engine for nothing but to log, and whatever it puts down in the memory is nothing that
other code sees. -/
inductive Idle : Program V τ → V.Memory → Prop where
  | done (result : τ) (m : V.Memory) : Idle (.done result) m
  | crash (message : String) (m : V.Memory) : Idle (.crash message) m
  | look {next : V.Memory → Program V τ} {m : V.Memory} (h : Idle (next m) m) : Idle (.look next) m
  | remember {m m' : V.Memory} {next : Program V τ} (unseen : ∀ ids seen, B.alike ids seen m → B.alike ids seen m')
    (h : Idle next m') : Idle (.remember m' next) m
  | log {event : LogEvent} {m : V.Memory} {next : Unit → Program V τ} (h : Idle (next ()) m) : Idle (.call (.plain (.log event)) next) m

/-- A program without bystanders, and the same program with them. -/
inductive Alike : Numbering → Program V τ → Program V τ → Prop where
  | done {ids : Numbering} (result : τ) : Alike ids (.done result) (.done result)
  | crash {ids : Numbering} (message : String) : Alike ids (.crash message) (.crash message)
  /-- A request that has nothing to do with the bus gets the same answer. -/
  | same {ids : Numbering} {op : Op V} {next next' : op.Answer → Program V τ} (off : op.offBus = true)
    (h : ∀ ids', ids ⊆ ids' → ∀ answer, Alike ids' (next answer) (next' answer)) : Alike ids (.call op next) (.call op next')
  /-- It does not matter what is answered to a publication or to a question about subscribers. -/
  | unread {ids : Numbering} {op : Op V} {next next' : op.Answer → Program V τ} (counts : op.counts = true)
    (h : ∀ ids', ids ⊆ ids' → ∀ answer answer', Alike ids' (next answer) (next' answer')) : Alike ids (.call op next) (.call op next')
  /-- The code subscribes a handler, under a number of which it knows only that it is that of the subscription. -/
  | subscribe {ids : Numbering} {topic : String} {handler : V.Handler} {next next' : SubscriptionHandle → Program V τ}
    (own : B.own handler)
    (h : ∀ ids', ids ⊆ ids' → ∀ id id', Alike ((id, id') :: ids') (next ⟨id, topic⟩) (next' ⟨id', topic⟩)) :
    Alike ids (.call (.plain (.bus (.subscribe topic handler))) next) (.call (.plain (.bus (.subscribe topic handler))) next')
  /-- The code gives up a subscription of its own. -/
  | unsubscribe {ids : Numbering} {topic : String} {id id' : Nat} {next next' : Unit → Program V τ} (mem : (id, id') ∈ ids)
    (h : Alike ids (next ()) (next' ())) :
    Alike ids (.call (.plain (.bus (.unsubscribe ⟨id, topic⟩))) next) (.call (.plain (.bus (.unsubscribe ⟨id', topic⟩))) next')
  /-- The code does the same in memories in which it sees the same. -/
  | look {ids : Numbering} {next next' : V.Memory → Program V τ}
    (h : ∀ ids', ids ⊆ ids' → ∀ m m', B.alike ids' m m' → Alike ids' (next m) (next' m')) : Alike ids (.look next) (.look next')
  | remember {ids : Numbering} {m m' : V.Memory} {next next' : Program V τ} (seen : B.alike ids m m') (h : Alike ids next next') :
    Alike ids (.remember m next) (.remember m' next')
  /-- A bystander is subscribed. -/
  | extra {ids : Numbering} {topic : String} {handler : V.Handler} {program : Program V τ} {next : SubscriptionHandle → Program V τ}
    (idle : B.idle handler) (h : ∀ handle, Alike ids program (next handle)) :
    Alike ids program (.call (.plain (.bus (.subscribe topic handler))) next)

variable {B} {ids ids' : Numbering} {p p' : Program V τ}

/-- Programs stay alike when further subscriptions are made. -/
theorem Alike.mono (h : B.Alike ids p p') (hle : ids ⊆ ids') : B.Alike ids' p p' := by
  induction h generalizing ids' with
  | done result => exact .done result
  | crash message => exact .crash message
  | same off h => exact .same off fun _ hle' => h _ (List.Subset.trans hle hle')
  | unread counts h => exact .unread counts fun _ hle' => h _ (List.Subset.trans hle hle')
  | subscribe own h => exact .subscribe own fun _ hle' => h _ (List.Subset.trans hle hle')
  | unsubscribe mem _ ih => exact .unsubscribe (hle mem) (ih hle)
  | look h => exact .look fun _ hle' => h _ (List.Subset.trans hle hle')
  | remember seen _ ih => exact .remember (B.grows seen hle) (ih hle)
  | extra idle _ ih => exact .extra idle fun handle => ih handle hle

end Bystanders

/-- A program that subscribes some handlers first. -/
def Program.inCompany {V : Vocabulary} {τ : Type} (extras : List (String × V.Handler)) (p : Program V τ) : Program V τ :=
  extras.foldr (fun extra p => .call (.plain (.bus (.subscribe extra.1 extra.2))) fun _ => p) p

namespace Bystanders

variable {V : Vocabulary} (B : Bystanders V) {τ : Type}

/-- Bystanders that are subscribed at the beginning leave a program alike. -/
theorem alike_inCompany {ids : Numbering} {p p' : Program V τ} {extras : List (String × V.Handler)}
    (idle : ∀ extra ∈ extras, B.idle extra.2) (h : B.Alike ids p p') : B.Alike ids p (p'.inCompany extras) := by
  induction extras with
  | nil => exact h
  | cons extra rest ih =>
    exact .extra (idle extra List.mem_cons_self) fun _ => ih fun other hother => idle other (List.mem_cons_of_mem _ hother)

/-- The code of a client cannot tell whether bystanders are there, and the bystanders only look on. -/
structure Discreet (c : Client V) : Prop where
  primary : ∀ definition step ids, B.Alike ids (c.primary definition step) (c.primary definition step)
  resume : ∀ definition behaviour, c.resume definition = some behaviour →
    ∀ step outcome ids, B.Alike ids (behaviour step outcome) (behaviour step outcome)
  receive : ∀ descriptor r ids, B.Alike ids (c.receive descriptor r) (c.receive descriptor r)
  handle : ∀ handler, B.own handler → ∀ notification ids, B.Alike ids (c.handle handler notification) (c.handle handler notification)
  idle : ∀ handler, B.idle handler → ∀ notification m, B.Idle (c.handle handler notification) m

end Bystanders

end StepEngine
