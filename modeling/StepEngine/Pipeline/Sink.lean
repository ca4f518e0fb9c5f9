import StepEngine.Data
import StepEngine.Error

/-!
# Sink: where the records of a stage go

A sink accepts records, one or several at a time, or refuses them. Sinks work inside a monad `m`, which is where their state is: a
`Cell` reads and writes one piece of it. Unless a sink says otherwise, several records are accepted one after the other, up to the first
that is refused.
-/

namespace StepEngine

/-- A piece of state inside a monad. -/
structure Cell (m : Type → Type) (α : Type) where
  get : m α
  set : α → m Unit

/-- A consumer of records. -/
structure Sink (m : Type → Type) where
  accept : Json → m (Except SinkError Unit)
  acceptBatch : List Json → m (Except SinkError Unit)

/-- A bounded queue with one reader: what is queued, and whether the reader is gone. -/
structure Queue where
  capacity : Nat
  items : List Json
  closed : Bool

namespace Sink

variable {m : Type → Type} [Monad m]

/-- Records accepted one after the other, up to the first that is refused. -/
def inOrder (accept : Json → m (Except SinkError Unit)) : List Json → m (Except SinkError Unit)
  | [] => pure (.ok ())
  | record :: rest => do
    match ← accept record with
    | .ok () => inOrder accept rest
    | .error e => pure (.error e)

/-- The sink that accepts a batch record by record. -/
def ofAccept (accept : Json → m (Except SinkError Unit)) : Sink m := ⟨accept, inOrder accept⟩

/-- The sink that keeps every record, in order of arrival. -/
def collecting (records : Cell m (List Json)) : Sink m where
  accept record := do
    records.set ((← records.get) ++ [record])
    pure (.ok ())
  acceptBatch batch := do
    records.set ((← records.get) ++ batch)
    pure (.ok ())

/-- The sink in front of a bounded queue. When the reader is gone it is closed; when there is no room, `wait` says what waiting
for room comes to. -/
def queue (state : Cell m Queue) (wait : m (Except SinkError Unit)) : Sink m :=
  ofAccept fun record => do
    let q ← state.get
    if q.closed then pure (.error .closed)
    else if q.items.length < q.capacity then do
      state.set { q with items := q.items ++ [record] }
      pure (.ok ())
    else wait

/-- The sink that merges every record into the data of one step instance; `merge` is the merge of the store. -/
def stepData (merge : StepId → Data → m (Except StoreError Data)) (step : StepId) : Sink m :=
  ofAccept fun record =>
    match Data.ofJson? record with
    | none => pure (.error (.rejected "step data records must be objects"))
    | some delta => do
      match ← merge step delta with
      | .ok _ => pure (.ok ())
      | .error e => pure (.error (.store e))

end Sink

namespace Queue

/-- What the reader takes: at most `limit` records, the oldest first, and the queue without them. A reader that is gone takes none. -/
def receive (q : Queue) (limit : Option Nat) : Option (List Json) × Queue :=
  if q.closed then (none, q)
  else
    let n := limit.getD q.items.length
    (some (q.items.take n), { q with items := q.items.drop n })

/-- The reader goes, and what is queued is lost: whether there was one, and the queue without it. -/
def close (q : Queue) : Bool × Queue := (!q.closed, { q with items := [], closed := true })

end Queue

end StepEngine
