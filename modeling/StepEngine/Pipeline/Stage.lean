import StepEngine.Config
import StepEngine.Log
import StepEngine.Pipeline.Batch
import StepEngine.Pipeline.Sink

/-!
# Stage: a processor in front of a sink

A processor transforms records, each into any number of outputs. A stage hosts one and forwards its outputs to a sink; since a stage
accepts records it is a sink itself, and stages form chains.

A batch goes through a stage either record by record, each transformed and forwarded before the next, or in bulk: the processor works on
the whole batch first, and the outputs are forwarded afterwards in the order of the input records. The report of a batch accounts for
every record. A failed record does not stop the batch; an abort does, and so does an error about the batch as a whole, which is filed
behind the last record. Records that nothing was done about when a batch ended early count as skipped.
-/

namespace StepEngine

/-- Where the reports of a stage go. -/
class Journal (m : Type → Type) where
  note : LogEvent → m Unit

/-- A transform of records inside a monad. -/
structure Processor (m : Type → Type) where
  name : String
  /-- The outputs for one record. -/
  submit : Json → m (Except ProcessorError (List Json))
  /-- The work on a whole batch. -/
  submitBatch : List Json → BulkJob m
  /-- The processor asks for whole batches. -/
  supportsBulk : Bool

namespace Processor

variable {m : Type → Type}

/-- The work on a batch that treats each record on its own, from the given index on, up to the first abort. -/
def eachRecord (submit : Json → m (Except ProcessorError (List Json))) : Nat → List Json → BulkJob m
  | _, [] => .finish (.ok ())
  | index, record :: rest =>
    .process index (submit record) fun
      | .ok () => eachRecord submit (index + 1) rest
      | .error e => .finish (.error e)

/-- The processor that treats each record of a batch on its own. -/
def ofSubmit (name : String) (submit : Json → m (Except ProcessorError (List Json))) (supportsBulk : Bool) :
    Processor m :=
  ⟨name, submit, eachRecord submit 0, supportsBulk⟩

end Processor

/-- A record of a batch that failed. The failure of the batch as a whole has the index behind the last record. -/
structure RecordFailure where
  index : Nat
  cause : ProcessorError

/-- What became of a batch. -/
structure BatchReport where
  stage : String
  submitted : Nat
  /-- Output records that the sink took, without those of records of which it refused another output. -/
  forwarded : Nat
  failures : List RecordFailure
  /-- Records that nothing was done about, because the batch ended early. -/
  skipped : Nat
  /-- The processor ended the batch. -/
  aborted : Bool

namespace BatchReport

/-- The report before anything was done. -/
def start (stage : String) (submitted : Nat) : BatchReport := ⟨stage, submitted, 0, [], 0, false⟩

/-- There was no failure, and the batch was not ended early. -/
def isClean (r : BatchReport) : Bool := r.failures.isEmpty && !r.aborted

/-- A failure put down. -/
def fail (r : BatchReport) (index : Nat) (cause : ProcessorError) : BatchReport :=
  { r with failures := r.failures ++ [⟨index, cause⟩] }

/-- Outputs that were forwarded. -/
def forward (r : BatchReport) (count : Nat) : BatchReport := { r with forwarded := r.forwarded + count }

end BatchReport

/-- A processor hosted in front of a sink. -/
structure Stage (m : Type → Type) where
  name : String
  processor : Processor m
  sink : Sink m
  supportsBulk : Bool

namespace Stage

variable {m : Type → Type}

/-- The stage for a processor and a sink. Whether it works in bulk is settled here once and for all. -/
def new (processor : Processor m) (sink : Sink m) (config : StageConfig) : Stage m :=
  ⟨processor.name, processor, sink, config.supportsBulk.getD processor.supportsBulk⟩

/-- The report of a new stage. -/
def logCreated (stage : Stage m) : LogEvent where
  level := .debug
  message := "Created processor stage"
  fields := [("stage", .text stage.name), ("supports_bulk", .bool stage.supportsBulk)]

/-- The report of a record's failure. -/
def logRecord (stage : Stage m) (message : String) (index : Nat) (e : ProcessorError) : LogEvent where
  level := .warn
  message := message
  fields := [("stage", .text stage.name), ("index", .nat index), ("error", .text e.message)]

/-- The report of a bulk submission that ended early. -/
def logBulk (stage : Stage m) (message : String) (e : ProcessorError) : LogEvent where
  level := .warn
  message := message
  fields := [("stage", .text stage.name), ("error", .text e.message)]

variable [Monad m]

/-- Outputs forwarded to the sink one after the other, up to the first that is refused. -/
def flush (stage : Stage m) : List Json → m (Except ProcessorError Unit)
  | [] => pure (.ok ())
  | output :: rest => do
    match ← stage.sink.accept output with
    | .ok () => flush stage rest
    | .error e => pure (.error (.sinkRejected stage.name e))

/-- One record transformed and its outputs forwarded: their number, if all of them were taken. -/
def submit (stage : Stage m) (record : Json) : m (Except ProcessorError Nat) := do
  match ← stage.processor.submit record with
  | .error e => pure (.error e)
  | .ok outputs =>
    match ← stage.flush outputs with
    | .ok () => pure (.ok outputs.length)
    | .error e => pure (.error e)

variable [Journal m]

/-- The records of a batch from an index on, one after the other. -/
def runEach (stage : Stage m) (report : BatchReport) (index : Nat) : List Json → m BatchReport
  | [] => pure report
  | record :: rest => do
    match ← stage.submit record with
    | .ok count => runEach stage (report.forward count) (index + 1) rest
    | .error e =>
      if e.isBatchAbort then do
        Journal.note (stage.logRecord "Batch aborted" index e)
        pure { report.fail index e with aborted := true, skipped := rest.length }
      else do
        Journal.note (stage.logRecord "Record failed" index e)
        runEach stage (report.fail index e) (index + 1) rest

/-- What a bulk processor left in the slots from an index on: staged outputs are forwarded and failures put down. -/
def collect (stage : Stage m) (report : BatchReport) (index : Nat) : List RecordSlot → m BatchReport
  | [] => pure report
  | .untouched :: rest =>
    collect stage (if report.aborted then { report with skipped := report.skipped + 1 } else report) (index + 1) rest
  | .failed e :: rest => collect stage (report.fail index e) (index + 1) rest
  | .staged outputs :: rest => do
    match ← stage.flush outputs with
    | .ok () => collect stage (report.forward outputs.length) (index + 1) rest
    | .error e => collect stage (report.fail index e) (index + 1) rest

/-- The batch was ended by the processor: by an abort, which has its own record, or by an error about the batch as a whole. -/
def bulkEnded (stage : Stage m) (report : BatchReport) : Except ProcessorError Unit → m BatchReport
  | .ok () => pure report
  | .error e =>
    if e.isBatchAbort then do
      Journal.note (stage.logBulk "Bulk submission aborted" e)
      pure { report with aborted := true }
    else do
      Journal.note (stage.logBulk "Bulk submission failed as a whole" e)
      pure { report.fail report.submitted e with aborted := true }

/-- The batch handed to the processor as a whole, and its outputs forwarded afterwards. -/
def runBulk (stage : Stage m) (report : BatchReport) (batch : List Json) : m BatchReport := do
  let (slots, verdict) ← (stage.processor.submitBatch batch).run (List.replicate batch.length .untouched)
  let report ← stage.bulkEnded report verdict
  stage.collect report 0 slots

/-- A batch processed, in bulk or record by record. -/
def submitBatch (stage : Stage m) (batch : List Json) : m BatchReport := do
  let start := BatchReport.start stage.name batch.length
  let report ← if stage.supportsBulk then stage.runBulk start batch else stage.runEach start 0 batch
  Journal.note (LogEvent.processorOperation "submit_batch" stage.name report.submitted
    (if report.isClean then "ok" else "partial") none)
  pure report

/-- The refusal of a batch by a stage that did not get all of it through. -/
def refusal (report : BatchReport) : SinkError :=
  .rejected ("stage " ++ report.stage ++ " failed " ++ toString report.failures.length ++ " of " ++
    toString report.submitted ++ " records (skipped " ++ toString report.skipped ++ ")")

/-- A stage as the sink of the stage before it. -/
def toSink (stage : Stage m) : Sink m where
  accept record := do
    match ← stage.submit record with
    | .ok _ => pure (.ok ())
    | .error e => pure (.error (.rejected e.message))
  acceptBatch batch := do
    let report ← stage.submitBatch batch
    pure (if report.isClean then .ok () else .error (refusal report))

end Stage

end StepEngine
