import StepEngine.Error
import StepEngine.Json

/-!
# Batch: what a bulk processor does to the records of a batch

Every input record of a batch has a slot, in which its outputs are staged until the batch is through. A bulk processor works on the
slots by emitting outputs for a record, by marking a record as failed, and by processing a record as a whole; `BulkJob` is such work as
data. In between it does what it likes, and goes on as it sees fit. Failing a record discards what was staged for it, and nothing can be
staged for it afterwards. Work on a record that the batch does not have goes nowhere.
-/

namespace StepEngine

/-- What became of an input record so far. -/
inductive RecordSlot where
  /-- Nothing was done about it. -/
  | untouched
  /-- It was handled, with these outputs. -/
  | staged (outputs : List Json)
  /-- It failed. -/
  | failed (error : ProcessorError)

namespace RecordSlot

/-- One more output for the record. -/
def emit (record : Json) : RecordSlot → RecordSlot
  | untouched => staged [record]
  | staged outputs => staged (outputs ++ [record])
  | failed error => failed error

/-- The record was processed with these outputs. -/
def absorb (outputs : List Json) : RecordSlot → RecordSlot
  | untouched => staged outputs
  | staged before => staged (before ++ outputs)
  | failed error => failed error

end RecordSlot

/-- Work on the slots of a batch, inside a monad. -/
inductive BulkJob (m : Type → Type) where
  /-- The end: all is well, or the batch ends with an error. -/
  | finish (verdict : Except ProcessorError Unit)
  /-- An output staged for a record. -/
  | emit (index : Nat) (record : Json) (next : BulkJob m)
  /-- A record marked as failed. -/
  | fail (index : Nat) (error : ProcessorError) (next : BulkJob m)
  /-- A record processed by `work`. Its failure is put down in its slot; when it aborts the batch, the abort is also passed on. -/
  | process (index : Nat) (work : m (Except ProcessorError (List Json))) (next : Except ProcessorError Unit → BulkJob m)
  /-- Anything else that the processor does, on which the rest of its work may depend. -/
  | act {α : Type} (work : m α) (next : α → BulkJob m)

namespace BulkJob

/-- What the work on a record leaves in its slot. -/
def record (result : Except ProcessorError (List Json)) (slot : RecordSlot) : RecordSlot :=
  match result with
  | .ok outputs => slot.absorb outputs
  | .error e => .failed e

/-- What the work on a record passes on: an abort only. -/
def passed : Except ProcessorError (List Json) → Except ProcessorError Unit
  | .ok _ => .ok ()
  | .error e => if e.isBatchAbort then .error e else .ok ()

variable {m : Type → Type} [Monad m]

/-- A job carried out on the slots of a batch: the slots afterwards and how it ended. -/
def run : BulkJob m → List RecordSlot → m (List RecordSlot × Except ProcessorError Unit)
  | finish verdict, slots => pure (slots, verdict)
  | emit index output next, slots => run next (slots.modify index (RecordSlot.emit output))
  | fail index error next, slots => run next (slots.modify index fun _ => .failed error)
  | process index work next, slots => do
    let result ← work
    run (next (passed result)) (slots.modify index (record result))
  | act work next, slots => do
    let answer ← work
    run (next answer) slots

end BulkJob

end StepEngine
