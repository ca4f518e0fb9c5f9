import Mathlib
import StepEngine.Pipeline.Stage

/-!
# Passage: what is seen of a batch on its way through a stage

A stage is watched by noting what its processor is handed, what it does about the records of a batch, how it ends the batch, and what
the sink is offered and answers. Watching is a layer around the stage's monad: every effect of the processor, of the sink and of the
journal takes place below it, and whoever forgets the notes has the stage as it was (`Stage.watches_submitBatch`). So whatever is shown of
a watched batch and its passage holds of every batch, with any processor and any sink, also with those that share their state, that work
on the engine itself, or that break off.
-/

namespace StepEngine

/-- A record that a sink was offered, and its answer. -/
structure Offer where
  record : Json
  answer : Except SinkError Unit

/-- The sink took the record. -/
def Offer.isTaken (offer : Offer) : Bool := offer.answer.isOk

/-- A record that a processor was handed by itself, and what it came to. -/
structure Submission where
  record : Json
  result : Except ProcessorError (List Json)

/-- Something that a processor did about a record: it came to some outputs for the record, or to a failure. -/
structure Handling where
  index : Nat
  result : Except ProcessorError (List Json)

/-- What is seen of a batch on its way through a stage. -/
structure Passage where
  /-- The batches that the processor was handed as a whole. -/
  batches : List (List Json)
  /-- The records that the processor was handed by themselves, in this order. -/
  submissions : List Submission
  /-- What the processor did about the records, in this order. -/
  handlings : List Handling
  /-- How the processor ended the batch. -/
  verdict : Except ProcessorError Unit
  /-- What the sink was offered, in this order. -/
  offers : List Offer

namespace Passage

/-- Nothing was seen so far. -/
def start : Passage := ⟨[], [], [], .ok (), []⟩

/-- The processor was handed a batch as a whole. -/
def entrust (p : Passage) (batch : List Json) : Passage := { p with batches := p.batches ++ [batch] }

/-- The processor did something about a record. -/
def handle (p : Passage) (index : Nat) (result : Except ProcessorError (List Json)) : Passage :=
  { p with handlings := p.handlings ++ [⟨index, result⟩] }

/-- The processor was through with the batch. -/
def finish (p : Passage) (verdict : Except ProcessorError Unit) : Passage := { p with verdict := verdict }

/-- The next record of a batch that goes record by record came to a result. An abort ends the batch. -/
def conclude (p : Passage) (result : Except ProcessorError (List Json)) : Passage :=
  (p.handle p.handlings.length result).finish (BulkJob.passed result)

/-- The processor was handed the next record by itself, and it came to a result. -/
def transform (p : Passage) (record : Json) (result : Except ProcessorError (List Json)) : Passage :=
  { p.conclude result with submissions := p.submissions ++ [⟨record, result⟩] }

/-- The sink was offered a record. -/
def offer (p : Passage) (record : Json) (answer : Except SinkError Unit) : Passage :=
  { p with offers := p.offers ++ [⟨record, answer⟩] }

end Passage

variable {m : Type → Type} [Monad m]

/-! ## Watching -/

/-- An effect, after which something is noted that depends on the answer. -/
def noting {α : Type} (effect : m α) (note : α → Passage → Passage) : StateT Passage m α := do
  let answer ← StateT.lift effect
  modify (note answer)
  pure answer

instance [Journal m] : Journal (StateT Passage m) where
  note event := StateT.lift (Journal.note event)

/-- The work on a batch, with a note of everything that is done about a record and of the verdict. An output emitted by itself is a
result of one output, and a record marked as failed has its error as the result. -/
def BulkJob.watched : BulkJob m → BulkJob (StateT Passage m)
  | finish verdict => .act (modify (·.finish verdict)) fun () => .finish verdict
  | emit index record next => .act (modify (·.handle index (.ok [record]))) fun () => .emit index record next.watched
  | fail index error next => .act (modify (·.handle index (.error error))) fun () => .fail index error next.watched
  | process index work next => .process index (noting work fun result p => p.handle index result) fun passed => (next passed).watched
  | act work next => .act (StateT.lift work) fun answer => (next answer).watched

/-- The processor, with a note of what it is handed and of what it does about each record. -/
def Processor.watched (processor : Processor m) : Processor (StateT Passage m) where
  name := processor.name
  submit record := noting (processor.submit record) fun result p => p.transform record result
  submitBatch batch := .act (modify (·.entrust batch)) fun () => (processor.submitBatch batch).watched
  supportsBulk := processor.supportsBulk

/-- The sink, with a note of every record that it is offered, be it by itself or among others. -/
def Sink.watched (sink : Sink m) : Sink (StateT Passage m) where
  accept record := noting (sink.accept record) fun answer p => p.offer record answer
  acceptBatch batch := noting (sink.acceptBatch batch) fun answer p => batch.foldl (fun p record => p.offer record answer) p

/-- The stage, watched at its processor and at its sink. -/
def Stage.watched (stage : Stage m) : Stage (StateT Passage m) where
  name := stage.name
  processor := stage.processor.watched
  sink := stage.sink.watched
  supportsBulk := stage.supportsBulk

/-- A batch processed without a report in the journal. -/
def Stage.process [Journal m] (stage : Stage m) (batch : List Json) : m BatchReport :=
  let start := BatchReport.start stage.name batch.length
  if stage.supportsBulk then stage.runBulk start batch else stage.runEach start 0 batch

/-- A submitted batch is processed, and then it is reported. -/
theorem Stage.submitBatch_eq [Journal m] (stage : Stage m) (batch : List Json) :
    stage.submitBatch batch = (do
      let report ← stage.process batch
      Journal.note (LogEvent.processorOperation "submit_batch" stage.name report.submitted
        (if report.isClean then "ok" else "partial") none)
      pure report) := by
  rw [submitBatch, process]
  cases stage.supportsBulk with
  | true => rfl
  | false => rfl

/-! ## What a watched effect shows -/

/-- However the effect comes out after a passage, its answer and the passage afterwards satisfy `Q`. -/
def Shows {α : Type} (x : StateT Passage m α) (p : Passage) (Q : α → Passage → Prop) : Prop :=
  SatisfiesM (fun seen => Q seen.1 seen.2) (x.run p)

namespace Shows

variable [LawfulMonad m] {α β : Type} {x : StateT Passage m α} {p : Passage} {Q R : α → Passage → Prop}

/-- What is shown may be weakened. -/
protected theorem imp (h : Shows x p Q) (hQ : ∀ a q, Q a q → R a q) : Shows x p R := SatisfiesM.imp h fun {_} => hQ _ _

/-- What does nothing shows what held before. -/
protected theorem pure {a : α} (h : Q a p) : Shows (pure a : StateT Passage m α) p Q := by
  rw [Shows, StateT.run_pure]
  exact SatisfiesM.pure h

/-- What is done one after the other shows what the second effect shows after anything that the first one may come to. -/
protected theorem bind {f : α → StateT Passage m β} {S : β → Passage → Prop} (hx : Shows x p Q) (hf : ∀ a q, Q a q → Shows (f a) q S) :
    Shows (x >>= f) p S := by
  rw [Shows, StateT.run_bind]
  exact SatisfiesM.bind hx fun seen hseen => hf seen.1 seen.2 hseen

/-- An effect below the notes may come to anything and leaves the passage alone. -/
theorem lift_bind {effect : m α} {f : α → StateT Passage m β} {S : β → Passage → Prop} (h : ∀ a, Shows (f a) p S) :
    Shows (StateT.lift effect >>= f) p S := by
  rw [Shows, StateT.run_bind, StateT.run_lift, bind_assoc]
  refine SatisfiesM.bind SatisfiesM.trivial fun a _ => ?_
  rw [pure_bind]
  exact h a

/-- A note by itself. -/
theorem modify_bind {f : Passage → Passage} {g : Unit → StateT Passage m α} (h : Shows (g ()) (f p) Q) :
    Shows (modify f >>= g) p Q := by
  have hrun : (modify f >>= g).run p = (g ()).run (f p) := by
    rw [StateT.run_bind]
    simp
  rw [Shows, hrun]
  exact h

/-- An effect that is noted may come to anything, and the note is the one for its answer. -/
theorem noting_bind {effect : m α} {note : α → Passage → Passage} {f : α → StateT Passage m β} {S : β → Passage → Prop}
    (h : ∀ a, Shows (f a) (note a p) S) : Shows (noting effect note >>= f) p S := by
  rw [noting, bind_assoc]
  refine lift_bind fun a => ?_
  rw [bind_assoc]
  refine modify_bind ?_
  rw [pure_bind]
  exact h a

end Shows

/-! ## Watching changes nothing -/

/-- The first does what the second does, apart from its notes. -/
def Watches {α : Type} (x : StateT Passage m α) (y : m α) : Prop := ∀ p, Prod.fst <$> x.run p = y

namespace Watches

variable [LawfulMonad m] {α β : Type} {x : StateT Passage m α} {y : m α}

/-- What does nothing is not changed. -/
protected theorem pure (a : α) : Watches (pure a) (pure a : m α) := by
  intro p
  simp

/-- What is done one after the other is watched one after the other. -/
protected theorem bind {f : α → StateT Passage m β} {g : α → m β} (hx : Watches x y) (hf : ∀ a, Watches (f a) (g a)) :
    Watches (x >>= f) (y >>= g) := by
  intro p
  calc Prod.fst <$> (x >>= f).run p = x.run p >>= fun r => Prod.fst <$> (f r.1).run r.2 := by simp [map_bind]
    _ = x.run p >>= fun r => g r.1 := bind_congr fun r => hf r.1 r.2
    _ = (Prod.fst <$> x.run p) >>= g := by rw [bind_map_left]
    _ = y >>= g := by rw [hx p]

/-- An effect below the notes is not changed. -/
theorem lift (effect : m α) : Watches (StateT.lift effect) effect := by
  intro p
  simp

/-- A note by itself is nothing. -/
theorem modify_bind {f : Passage → Passage} {g : Unit → StateT Passage m β} {z : m β} (h : Watches (g ()) z) :
    Watches (modify f >>= g) z := by
  intro p
  rw [StateT.run_bind]
  simpa using h (f p)

/-- An effect that is noted is not changed. -/
theorem noting (effect : m α) (note : α → Passage → Passage) : Watches (StepEngine.noting effect note) effect := by
  intro p
  simp [StepEngine.noting]

/-- A report of the journal is not changed. -/
theorem note [Journal m] (event : LogEvent) : Watches (Journal.note event) (Journal.note event : m Unit) := lift _

omit [LawfulMonad m] in
/-- One of two things that is watched is watched. -/
theorem ite {c : Bool} {x' : StateT Passage m α} {y' : m α} (h : Watches x y) (h' : Watches x' y') :
    Watches (if c then x else x') (if c then y else y') := by
  cases c with
  | true => exact h
  | false => exact h'

end Watches

variable [LawfulMonad m]

/-- The work on a batch leaves the slots as it does when it is not watched. -/
theorem BulkJob.watches_run (job : BulkJob m) (slots : List RecordSlot) : Watches (job.watched.run slots) (job.run slots) := by
  induction job generalizing slots with
  | finish verdict => exact Watches.modify_bind (Watches.pure _)
  | emit index record next ih => exact Watches.modify_bind (ih _)
  | fail index error next ih => exact Watches.modify_bind (ih _)
  | process index work next ih => exact Watches.bind (Watches.noting _ _) fun result => ih _ _
  | act work next ih => exact Watches.bind (Watches.lift _) fun answer => ih _ _

namespace Stage

variable (stage : Stage m)

/-- Outputs are forwarded as they are when the stage is not watched. -/
theorem watches_flush (outputs : List Json) : Watches (stage.watched.flush outputs) (stage.flush outputs) := by
  induction outputs with
  | nil => exact Watches.pure _
  | cons output rest ih =>
    refine Watches.bind (Watches.noting _ _) fun answer => ?_
    cases answer with
    | ok => exact ih
    | error e => exact Watches.pure _

/-- A record is submitted as it is when the stage is not watched. -/
theorem watches_submit (record : Json) : Watches (stage.watched.submit record) (stage.submit record) := by
  refine Watches.bind (Watches.noting _ _) fun result => ?_
  cases result with
  | error e => exact Watches.pure _
  | ok outputs =>
    refine Watches.bind (stage.watches_flush outputs) fun answer => ?_
    cases answer with
    | ok => exact Watches.pure _
    | error e => exact Watches.pure _

/-- The slots of a batch are collected as they are when the stage is not watched. -/
theorem watches_collect (report : BatchReport) (index : Nat) (slots : List RecordSlot) :
    Watches (stage.watched.collect report index slots) (stage.collect report index slots) := by
  induction slots generalizing report index with
  | nil => exact Watches.pure _
  | cons slot rest ih =>
    cases slot with
    | untouched => exact ih _ _
    | failed e => exact ih _ _
    | staged outputs =>
      refine Watches.bind (stage.watches_flush outputs) fun answer => ?_
      cases answer with
      | ok => exact ih _ _
      | error e => exact ih _ _

variable [Journal m]

/-- A batch goes record by record as it does when the stage is not watched. -/
theorem watches_runEach (report : BatchReport) (index : Nat) (batch : List Json) :
    Watches (stage.watched.runEach report index batch) (stage.runEach report index batch) := by
  induction batch generalizing report index with
  | nil => exact Watches.pure _
  | cons record rest ih =>
    refine Watches.bind (stage.watches_submit record) fun answer => ?_
    cases answer with
    | ok count => exact ih _ _
    | error e => exact Watches.ite (Watches.bind (Watches.note _) fun () => Watches.pure _) (Watches.bind (Watches.note _) fun () => ih _ _)

/-- The end of a bulk submission is put down as it is when the stage is not watched. -/
theorem watches_bulkEnded (report : BatchReport) (verdict : Except ProcessorError Unit) :
    Watches (stage.watched.bulkEnded report verdict) (stage.bulkEnded report verdict) := by
  cases verdict with
  | ok => exact Watches.pure _
  | error e =>
    exact Watches.ite (Watches.bind (Watches.note _) fun () => Watches.pure _) (Watches.bind (Watches.note _) fun () => Watches.pure _)

/-- A batch is handed to the processor as a whole as it is when the stage is not watched. -/
theorem watches_runBulk (report : BatchReport) (batch : List Json) :
    Watches (stage.watched.runBulk report batch) (stage.runBulk report batch) := by
  refine Watches.bind (Watches.modify_bind (BulkJob.watches_run _ _)) fun result => ?_
  exact Watches.bind (stage.watches_bulkEnded _ _) fun report => stage.watches_collect _ _ _

/-- A batch goes through a stage as it does when the stage is not watched. -/
theorem watches_submitBatch (batch : List Json) : Watches (stage.watched.submitBatch batch) (stage.submitBatch batch) := by
  rw [submitBatch_eq, submitBatch_eq]
  have hprocess : Watches (stage.watched.process batch) (stage.process batch) :=
    Watches.ite (stage.watches_runBulk _ _) (stage.watches_runEach _ _ _)
  exact Watches.bind hprocess fun report => Watches.bind (Watches.note _) fun () => Watches.pure _

end Stage

end StepEngine
