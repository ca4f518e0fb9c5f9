import StepEngine.Engine.Op

/-!
# Program: the code that runs on the engine, as data

Handlers, steps and the code that drives a session are programs: trees of requests to the engine, each with what to do for every answer,
and of reads and writes of the memory that the code shares. A program ends with a result or with a panic. Between two requests nothing
else runs, so a tree says all there is to know about a piece of code.

A `Client` says which programs the descriptors of a vocabulary stand for.
-/

namespace StepEngine

/-- A program that ends with a result of type `ρ`. -/
inductive Program (V : Vocabulary) (ρ : Type) where
  /-- The end, with a result. -/
  | done (result : ρ)
  /-- The end, with a panic. -/
  | crash (message : String)
  /-- A request to the engine, and what to do with the answer. -/
  | call (op : Op V) (next : op.Answer → Program V ρ)
  /-- A look at the shared memory. -/
  | look (next : V.Memory → Program V ρ)
  /-- The shared memory replaced. -/
  | remember (memory : V.Memory) (next : Program V ρ)

namespace Program

variable {V : Vocabulary} {ρ τ : Type}

/-- A program, and another one that goes on with its result. -/
def bind : Program V ρ → (ρ → Program V τ) → Program V τ
  | done result, f => f result
  | crash message, _ => crash message
  | call op next, f => call op fun answer => bind (next answer) f
  | look next, f => look fun memory => bind (next memory) f
  | remember memory next, f => remember memory (bind next f)

instance : Monad (Program V) where
  pure := done
  bind := bind

instance : Inhabited (Program V ρ) := ⟨crash "no program"⟩

/-- One request. -/
def ask (op : Op V) : Program V op.Answer := call op done

/-- One request that is answered at once. -/
def request (op : PlainOp V) : Program V op.Answer := call (.plain op) done

/-- The shared memory. -/
def memory : Program V V.Memory := look done

/-- The shared memory changed. -/
def change (f : V.Memory → V.Memory) : Program V Unit := look fun m => remember (f m) (done ())

/-- The message of a panic that is raised without a text. -/
def wordlessPanic : String := "panicked without a message"

/-- A panic. -/
def panic (message : String) : Program V ρ := crash message

end Program

/-- The programs that descriptors stand for. -/
structure Client (V : Vocabulary) where
  /-- The name under which the failures of a handler are reported. -/
  handlerName : V.Handler → String
  /-- What a handler does with a notification. -/
  handle : V.Handler → Notification → Program V (Except HandlerError Unit)
  /-- The name of a step definition. -/
  stepName : V.Definition → String
  /-- The data that a fresh instance of a step starts with, or the panic in making it. -/
  defaultData : V.Definition → Except String Data
  /-- The entry behaviour of a step. -/
  primary : V.Definition → StepId → Program V (Except StepError Completion)
  /-- The resumption behaviour of a step, if it has one. -/
  resume : V.Definition → Option (StepId → AsyncOutcome → Program V (Except StepError Completion))
  /-- What a receiver does with a resumption. -/
  receive : V.Receiver → Resumption → Program V Unit

end StepEngine
