import StepEngine.Proofs.Passage.Settlement

/-!
# Report: what a passage comes to

The report of a batch says nothing but what was seen of the batch: which records failed and of what, how many outputs were forwarded, how
many records nothing was done about. A batch that goes record by record and one that goes in bulk have reports of one form
(`Passage.report`), so that the main statement is one for both ways (`Stage.shows_process`). What was seen is what the processor did about
this very batch: it was handed the batch as a whole, or its records one by one (`Stage.HandsOver`).
-/

namespace StepEngine

namespace Passage

variable (p : Passage)

/-- The processor ended the batch. -/
def isEnded : Bool := !p.verdict.isOk

/-- The failure of the batch as a whole, which is put down behind the last record. An abort is no such failure. -/
def wholeFailure (size : Nat) : List RecordFailure :=
  match p.verdict with
  | .ok () => []
  | .error e => if e.isBatchAbort then [] else [⟨size, e⟩]

/-- The offers of a passage are those for each record of the batch, one record after the other: the outputs due of the record, up to
the first that the sink refused. -/
structure Splits (size : Nat) (segment : Nat → List Offer) : Prop where
  offers : p.offers = (List.range size).flatMap segment
  forwards : ∀ i < size, Forwards (p.due i) (segment i)

/-- The failures of some records, in the order of the records. -/
def failures (stage : String) (segment : Nat → List Offer) (indices : List Nat) : List RecordFailure :=
  indices.filterMap fun i => ((p.slot i).failure? stage (segment i)).map (RecordFailure.mk i)

/-- The report of a batch, by what was seen of it. -/
def report (stage : String) (size : Nat) (segment : Nat → List Offer) : BatchReport where
  stage := stage
  submitted := size
  forwarded := ((List.range size).map fun i => forwardedOf (segment i)).sum
  failures := p.wholeFailure size ++ p.failures stage segment (List.range size)
  skipped := if p.isEnded then (List.range size).countP fun i => (p.slot i).isUntouched else 0
  aborted := p.isEnded

/-- From an index on, a number of records went one by one: each was transformed once, until there were no more, or until an abort ended
the batch, behind which all are untouched. -/
inductive InTurn (p : Passage) : Nat → Nat → Prop where
  | done {index : Nat} (verdict : p.verdict = .ok ()) : InTurn p index 0
  | next {index count : Nat} {result : Except ProcessorError (List Json)} (slot : p.slot index = BulkJob.record result .untouched)
      (passed : BulkJob.passed result = .ok ()) (later : InTurn p (index + 1) count) : InTurn p index (count + 1)
  | abort {index count : Nat} {e : ProcessorError} (slot : p.slot index = .failed e) (isAbort : e.isBatchAbort = true)
      (verdict : p.verdict = .error e) (untouched : ∀ i, index < i → p.slot i = .untouched) : InTurn p index (count + 1)

variable {p}

/-- A batch whose records went in turn has no failure as a whole. -/
theorem InTurn.wholeFailure {index count size : Nat} (h : p.InTurn index count) : p.wholeFailure size = [] := by
  induction h with
  | done verdict => rw [Passage.wholeFailure, verdict]
  | next slot passed later ih => exact ih
  | abort slot isAbort verdict untouched =>
    rw [Passage.wholeFailure, verdict]
    exact if_pos isAbort

/-- Offers made for the slots of a batch, one slot after the other, are those of its records. -/
theorem Splits.of_slots {size : Nat} {segment : Nat → List Offer} (hoffers : p.offers = (List.range' 0 size).flatMap segment)
    (hforwards : ∀ i ∈ List.range' 0 size, Forwards (p.slot i).outputs (segment i)) : p.Splits size segment where
  offers := by rw [hoffers, List.range_eq_range']
  forwards i hi := by
    rw [← outputs_slot]
    exact hforwards i (by simp [hi])

end Passage

/-! ## Record by record -/

namespace BulkJob

variable {result : Except ProcessorError (List Json)} {name : String} {offers : List Offer} {e : ProcessorError}

/-- A transformed record passes an abort on, and nothing else. -/
theorem passed_of_failure? (h : (record result .untouched).failure? name offers = some e) :
    passed result = if e.isBatchAbort then .error e else .ok () := by
  cases result with
  | error cause =>
    cases Option.some.inj h
    rfl
  | ok outputs =>
    obtain ⟨cause, -, rfl⟩ := Option.map_eq_some_iff.1 h
    rfl

/-- The failure of a record that does not end the batch is no abort. -/
theorem isBatchAbort_of_passed (hpassed : passed result = .ok ()) (h : (record result .untouched).failure? name offers = some e) :
    e.isBatchAbort = false := by
  rw [passed_of_failure? h] at hpassed
  cases he : e.isBatchAbort with
  | false => rfl
  | true => simp [he] at hpassed

/-- A record that passes nothing on did not come to an abort. -/
theorem goesOn_of_passed (hpassed : passed result = .ok ()) (hresult : result = .error e) : e.isBatchAbort = false := by
  have hfailure : (record result .untouched).failure? "" [] = some e := by rw [hresult]; rfl
  exact isBatchAbort_of_passed hpassed hfailure

/-- A record that was transformed without a failure passes nothing on. -/
theorem passed_of_failure?_eq_none (h : (record result .untouched).failure? name offers = none) : passed result = .ok () := by
  cases result with
  | error cause => cases h
  | ok outputs => rfl

/-- Only the processor aborts a batch, not the sink. -/
theorem error_of_abort (h : (record result .untouched).failure? name offers = some e) (he : e.isBatchAbort = true) : result = .error e := by
  cases result with
  | error cause => rw [Option.some.inj h]
  | ok outputs =>
    obtain ⟨cause, -, rfl⟩ := Option.map_eq_some_iff.1 h
    cases he

/-- Nothing counts as forwarded of a record that failed. -/
theorem forwardedOf_of_failure? (hforwards : Forwards (record result .untouched).outputs offers)
    (h : (record result .untouched).failure? name offers = some e) : forwardedOf offers = 0 := by
  cases result with
  | error cause =>
    cases hforwards
    rfl
  | ok outputs =>
    obtain ⟨cause, hrefusal, -⟩ := Option.map_eq_some_iff.1 h
    exact forwardedOf_refused hrefusal

end BulkJob

/-- A batch that goes record by record has come to an index: that many records were transformed, none of which ended the batch. -/
structure Passage.Reaches (p : Passage) (index : Nat) : Prop where
  length : p.handlings.length = index
  verdict : p.verdict = .ok ()
  untouched : ∀ i, index ≤ i → p.slot i = .untouched

/-- From an index on, the records of a batch were handed to the processor by themselves, each once and in their order, and what a record
came to was noted under its index. An abort ended the batch, and no record behind it was handed over. -/
inductive OneByOne : Nat → List Json → List Submission → List Handling → Except ProcessorError Unit → Prop where
  | done {index : Nat} : OneByOne index [] [] [] (.ok ())
  | next {index : Nat} {record : Json} {rest : List Json} {result : Except ProcessorError (List Json)} {submissions : List Submission}
      {handlings : List Handling} {verdict : Except ProcessorError Unit} (goesOn : ∀ e, result = .error e → e.isBatchAbort = false)
      (later : OneByOne (index + 1) rest submissions handlings verdict) :
      OneByOne index (record :: rest) (⟨record, result⟩ :: submissions) (⟨index, result⟩ :: handlings) verdict
  | abort {index : Nat} {record : Json} {rest : List Json} {e : ProcessorError} (isAbort : e.isBatchAbort = true) :
      OneByOne index (record :: rest) [⟨record, .error e⟩] [⟨index, .error e⟩] (.error e)

/-- Some records went one by one from an index on: they were handed to the processor in their order, each went in its turn and is settled
by what was seen of it, and the records before are left alone. -/
structure Turns (stage : String) (before : BatchReport) (index : Nat) (batch : List Json) (p : Passage) (after : BatchReport)
    (q : Passage) : Prop where
  settled : ∃ offers settled, q.offers = p.offers ++ offers ∧ after = { settled with aborted := q.isEnded } ∧
    Settles stage q.isEnded q.slot (List.range' index batch.length) before offers settled
  handed : ∃ submissions handlings, q.submissions = p.submissions ++ submissions ∧ q.handlings = p.handlings ++ handlings ∧
    OneByOne index batch submissions handlings q.verdict
  entrusted : q.batches = p.batches
  inTurn : q.InTurn index batch.length
  kept : ∀ i < index, q.slot i = p.slot i

namespace Turns

variable {stage : String} {before after : BatchReport} {index : Nat} {record : Json} {rest : List Json} {p q : Passage}
  {offers : List Offer} {result : Except ProcessorError (List Json)}

/-- The slots after the next record was transformed and offers were made for it. -/
theorem slot_transform (hp : p.Reaches index) (i : Nat) :
    ((p.transform record result).offering offers).slot i = if i = index then BulkJob.record result .untouched else p.slot i := by
  have hhandle : ((p.transform record result).offering offers).slot i =
      if i = p.handlings.length then BulkJob.record result (p.slot i) else p.slot i := p.slot_handle p.handlings.length i result
  rw [hhandle, hp.length]
  by_cases hi : i = index
  · rw [if_pos hi, if_pos hi, hp.untouched i (Nat.le_of_eq hi.symm)]
  · rw [if_neg hi, if_neg hi]

/-- A record that did not end the batch brings it to the next one. -/
theorem reaches_next (hp : p.Reaches index) (hok : BulkJob.passed result = .ok ()) :
    ((p.transform record result).offering offers).Reaches (index + 1) where
  length := by
    rw [← hp.length]
    exact List.length_append
  verdict := hok
  untouched i hi := by
    rw [slot_transform hp, if_neg (by omega)]
    exact hp.untouched i (by omega)

/-- No records are left. -/
theorem done (hp : p.Reaches index) (haborted : before.aborted = false) : Turns stage before index [] p before p where
  settled := by
    refine ⟨[], before, (List.append_nil _).symm, ?_, .nil⟩
    cases before
    cases haborted
    rw [Passage.isEnded, hp.verdict]
    rfl
  handed := ⟨[], [], (List.append_nil _).symm, (List.append_nil _).symm, hp.verdict ▸ .done⟩
  entrusted := rfl
  inTurn := .done hp.verdict
  kept _ _ := rfl

/-- The batch goes on behind a record that did not end it. -/
theorem next {report : BatchReport} (hp : p.Reaches index) (hforwards : Forwards (BulkJob.record result .untouched).outputs offers)
    (hok : BulkJob.passed result = .ok ())
    (hreport : ∀ ended slot, slot index = BulkJob.record result .untouched →
      before.settle stage ended slot (fun _ => offers) [index] = report)
    (h : Turns stage report (index + 1) rest ((p.transform record result).offering offers) after q) :
    Turns stage before index (record :: rest) p after q := by
  obtain ⟨later, settled, hoffers, hafter, hsettles⟩ := h.settled
  obtain ⟨submissions, handlings, hsubmissions, hhandlings, hcourse⟩ := h.handed
  have hslot : q.slot index = BulkJob.record result .untouched := by
    rw [h.kept index (Nat.lt_succ_self index), slot_transform hp, if_pos rfl]
  have hhandled : q.handlings = p.handlings ++ ⟨index, result⟩ :: handlings := by
    rw [hhandlings, ← hp.length]
    exact List.append_assoc _ _ _
  refine ⟨⟨offers ++ later, settled, hoffers.trans (List.append_assoc _ _ _), hafter, ?_⟩,
    ⟨_, _, hsubmissions.trans (List.append_assoc _ _ _), hhandled, .next (fun e => BulkJob.goesOn_of_passed hok) hcourse⟩,
    h.entrusted, .next hslot hok h.inTurn, fun i hi => ?_⟩
  · rw [List.length_cons, List.range'_succ]
    refine .cons (by simp) (hslot ▸ hforwards) ?_
    rw [hreport _ _ hslot]
    exact hsettles
  · rw [h.kept i (by omega), slot_transform hp, if_neg (by omega)]

/-- An abort ends the batch, and all records behind it are skipped. -/
theorem abort {e : ProcessorError} (hp : p.Reaches index) (he : e.isBatchAbort = true) (hskipped : before.skipped = 0) :
    Turns stage before index (record :: rest) p { before.fail index e with aborted := true, skipped := rest.length }
      (p.transform record (.error e)) := by
  have hverdict : (p.transform record (.error e)).verdict = .error e := if_pos he
  have hended : (p.transform record (.error e)).isEnded = true := by
    rw [Passage.isEnded, hverdict]
    rfl
  have hslots (i : Nat) : (p.transform record (.error e)).slot i = if i = index then .failed e else p.slot i := by
    rw [← (p.transform record (.error e)).offering_nil]
    exact slot_transform hp i
  have hslot : (p.transform record (.error e)).slot index = .failed e := by rw [hslots, if_pos rfl]
  have hrest : ∀ i, index < i → (p.transform record (.error e)).slot i = .untouched := by
    intro i hi
    rw [hslots, if_neg (by omega)]
    exact hp.untouched i (by omega)
  have hhandled : (p.transform record (.error e)).handlings = p.handlings ++ [⟨index, .error e⟩] := by
    rw [← hp.length]
    rfl
  refine ⟨⟨[], { before.fail index e with skipped := rest.length }, (List.append_nil _).symm, ?_, ?_⟩,
    ⟨_, _, rfl, hhandled, hverdict ▸ .abort he⟩, rfl, .abort hslot he hverdict hrest, ?_⟩
  · rw [hended]
  · rw [hended, List.length_cons, List.range'_succ]
    show Settles _ _ _ _ _ ([] ++ []) _
    refine .cons (by simp) (hslot ▸ .done) ?_
    rw [BatchReport.settle_failure (e := e) (by rw [hslot]; rfl) (by rw [hslot]; rfl) rfl]
    have huntouched : Settles stage true (p.transform record (.error e)).slot (List.range' (index + 1) rest.length)
        (before.fail index e) [] _ :=
      .untouched fun i hi => hrest i (List.mem_range'_1.1 hi).1
    simpa [BatchReport.fail, hskipped] using huntouched
  · intro i hi
    rw [hslots, if_neg (by omega)]

end Turns

/-! ## Both ways through a stage -/

namespace Stage

variable {m : Type → Type} [Monad m] [LawfulMonad m] (stage : Stage m)

/-- The slots of a batch are settled one after the other. -/
theorem shows_collect (slot : Nat → RecordSlot) (report : BatchReport) (index count : Nat) (p : Passage) :
    Shows (stage.watched.collect report index ((List.range' index count).map slot)) p fun after q =>
      ∃ offers, q = p.offering offers ∧
        Settles stage.name report.aborted slot (List.range' index count) report offers after := by
  induction count generalizing report index p with
  | zero => exact Shows.pure ⟨[], p.offering_nil.symm, .nil⟩
  | succ count ih =>
    rw [List.range'_succ, List.map_cons]
    have hindex : index ∉ List.range' (index + 1) count := by simp
    -- what is left to do once the first record is settled
    have hlater (offers : List Offer) (next : BatchReport) (hforwards : Forwards (slot index).outputs offers)
        (hnext : report.settle stage.name report.aborted slot (fun _ => offers) [index] = next) :
        Shows (stage.watched.collect next (index + 1) ((List.range' (index + 1) count).map slot)) (p.offering offers) fun after q =>
          ∃ offers, q = p.offering offers ∧
            Settles stage.name report.aborted slot (index :: List.range' (index + 1) count) report offers after := by
      refine Shows.imp (ih next (index + 1) (p.offering offers)) ?_
      rintro after q ⟨later, rfl, hsettles⟩
      refine ⟨offers ++ later, p.offering_offering _ _, .cons hindex hforwards ?_⟩
      subst hnext
      exact hsettles
    cases hslot : slot index with
    | untouched =>
      have h := hlater [] _ (hslot ▸ .done) (BatchReport.settle_untouched hslot)
      rw [p.offering_nil] at h
      exact h
    | failed e =>
      have hfailure : (slot index).failure? stage.name [] = some e := by rw [hslot]; rfl
      have h := hlater [] _ (hslot ▸ .done) (BatchReport.settle_failure (by rw [hslot]; rfl) hfailure rfl)
      rw [p.offering_nil] at h
      exact h
    | staged outputs =>
      refine Shows.bind (stage.shows_flush outputs p) ?_
      rintro answer q ⟨offers, hforwards, rfl, rfl⟩
      have huntouched : (slot index).isUntouched = false := by rw [hslot]; rfl
      have hfailure : (slot index).failure? stage.name offers = (refusal? offers).map (.sinkRejected stage.name) := by rw [hslot]; rfl
      rw [flushed]
      cases hrefusal : refusal? offers with
      | none =>
        rw [hrefusal] at hfailure
        have hnext : report.settle stage.name report.aborted slot (fun _ => offers) [index] = _ :=
          BatchReport.settle_forward huntouched hfailure
        rw [hforwards.forwardedOf_eq hrefusal] at hnext
        exact hlater offers _ (hslot ▸ hforwards) hnext
      | some e =>
        rw [hrefusal] at hfailure
        exact hlater offers _ (hslot ▸ hforwards) (BatchReport.settle_failure huntouched hfailure (forwardedOf_refused hrefusal))

/-- A record is submitted: it is transformed, and its outputs are forwarded if it did not fail. -/
theorem shows_submit (record : Json) (p : Passage) :
    Shows (stage.watched.submit record) p fun answer q =>
      ∃ result offers, Forwards (BulkJob.record result .untouched).outputs offers ∧ q = (p.transform record result).offering offers ∧
        answer = match (BulkJob.record result .untouched).failure? stage.name offers with
          | some e => .error e
          | none => .ok (forwardedOf offers) := by
  refine Shows.noting_bind fun result => ?_
  cases result with
  | error e => exact Shows.pure ⟨.error e, [], .done, (Passage.offering_nil _).symm, rfl⟩
  | ok outputs =>
    refine Shows.bind (stage.shows_flush outputs _) ?_
    rintro answer q ⟨offers, hforwards, rfl, rfl⟩
    have hfailure : (BulkJob.record (.ok outputs) .untouched).failure? stage.name offers =
        (refusal? offers).map (.sinkRejected stage.name) := rfl
    rw [flushed]
    cases hrefusal : refusal? offers with
    | none =>
      refine Shows.pure ⟨.ok outputs, offers, hforwards, rfl, ?_⟩
      rw [hfailure, hrefusal, hforwards.forwardedOf_eq hrefusal]
      rfl
    | some e =>
      refine Shows.pure ⟨.ok outputs, offers, hforwards, rfl, ?_⟩
      rw [hfailure, hrefusal]
      rfl

variable [Journal m]

/-- A batch that goes record by record takes its records in turn. -/
theorem shows_runEach (report : BatchReport) (index : Nat) (batch : List Json) (p : Passage) (hp : p.Reaches index)
    (hskipped : report.skipped = 0) (haborted : report.aborted = false) :
    Shows (stage.watched.runEach report index batch) p (Turns stage.name report index batch p) := by
  induction batch generalizing report index p with
  | nil => exact Shows.pure (.done hp haborted)
  | cons record rest ih =>
    refine Shows.bind (stage.shows_submit record p) ?_
    rintro answer q ⟨result, offers, hforwards, rfl, rfl⟩
    have htouched : (BulkJob.record result .untouched).isUntouched = false := by cases result <;> rfl
    cases hfailure : (BulkJob.record result .untouched).failure? stage.name offers with
    | none =>
      have hok := BulkJob.passed_of_failure?_eq_none hfailure
      refine Shows.imp (ih _ _ _ (Turns.reaches_next hp hok) hskipped haborted) fun after q h => h.next hp hforwards hok ?_
      exact fun ended slot hslot => BatchReport.settle_forward (hslot ▸ htouched) (hslot ▸ hfailure)
    | some e =>
      have hpassed := BulkJob.passed_of_failure? hfailure
      cases he : e.isBatchAbort with
      | false =>
        rw [he] at hpassed
        simp only [he, Bool.false_eq_true, if_false]
        refine Shows.lift_bind fun () => ?_
        refine Shows.imp (ih _ _ _ (Turns.reaches_next hp hpassed) hskipped haborted) fun after q h => h.next hp hforwards hpassed ?_
        exact fun ended slot hslot =>
          BatchReport.settle_failure (hslot ▸ htouched) (hslot ▸ hfailure) (BulkJob.forwardedOf_of_failure? hforwards hfailure)
      | true =>
        cases BulkJob.error_of_abort hfailure he
        cases hforwards
        rw [Passage.offering_nil]
        simp only [he, if_true]
        exact Shows.lift_bind fun () => Shows.pure (.abort hp he hskipped)

/-- How a bulk processor ended the batch is put down on the report. -/
theorem shows_bulkEnded (report : BatchReport) (p : Passage) (haborted : report.aborted = false) :
    Shows (stage.watched.bulkEnded report p.verdict) p fun after q =>
      q = p ∧ after = { report with failures := report.failures ++ p.wholeFailure report.submitted, aborted := p.isEnded } := by
  rw [Passage.wholeFailure, Passage.isEnded]
  cases p.verdict with
  | ok =>
    refine Shows.pure ⟨rfl, ?_⟩
    cases report
    cases haborted
    simp [Except.isOk, Except.toBool]
  | error e =>
    cases he : e.isBatchAbort with
    | true =>
      simp only [bulkEnded, he, if_true]
      refine Shows.lift_bind fun () => Shows.pure ⟨rfl, ?_⟩
      rw [List.append_nil]
      rfl
    | false =>
      simp only [bulkEnded, he, Bool.false_eq_true, if_false]
      exact Shows.lift_bind fun () => Shows.pure ⟨rfl, rfl⟩

/-- This batch is what the processor was handed, in bulk or record by record, and what was seen is what it did about it. -/
structure HandsOver (batch : List Json) (passage : Passage) : Prop where
  /-- In bulk the processor was handed the batch as a whole, once, and what it did is its work on this batch. -/
  bulk : stage.supportsBulk = true → passage.batches = [batch] ∧ passage.submissions = [] ∧
    (stage.processor.submitBatch batch).Does passage.handlings passage.verdict
  /-- Otherwise it was handed the records of the batch and nothing else, one by one. -/
  each : stage.supportsBulk = false → passage.batches = [] ∧
    OneByOne 0 batch passage.submissions passage.handlings passage.verdict
  /-- When the processor treats each record on its own, its work on the batch in bulk is to process the records one by one too. -/
  independent : ∀ name submit asks, stage.processor = .ofSubmit name submit asks →
    BulkJob.TreatsEach submit 0 batch (stage.processor.submitBatch batch)

/-- Whichever way a batch goes, it is what the processor is handed, its report is that of what was seen of it, its offers are those for its
records, one record after the other, and a batch that does not go in bulk takes its records in turn. -/
theorem shows_process (batch : List Json) :
    Shows (stage.watched.process batch) .start fun report q =>
      ∃ segment, q.Splits batch.length segment ∧ report = q.report stage.name batch.length segment ∧
        (stage.supportsBulk = false → q.InTurn 0 batch.length) ∧ stage.HandsOver batch q := by
  cases hbulk : stage.supportsBulk with
  | false =>
    have hprocess : stage.watched.process batch = stage.watched.runEach (.start stage.name batch.length) 0 batch :=
      if_neg (ne_true_of_eq_false hbulk)
    rw [hprocess]
    have hstart : Passage.start.Reaches 0 := ⟨rfl, rfl, fun _ _ => rfl⟩
    refine Shows.imp (stage.shows_runEach (.start stage.name batch.length) 0 batch _ hstart rfl rfl) fun report q hturns => ?_
    obtain ⟨offers, settled, hoffers, rfl, segment, hforwards, rfl, rfl⟩ := hturns.settled
    obtain ⟨submissions, handlings, hsubmissions, hhandlings, hcourse⟩ := hturns.handed
    refine ⟨segment, .of_slots hoffers hforwards, ?_, fun _ => hturns.inTurn,
      fun h => Bool.noConfusion (hbulk.symm.trans h), fun _ => ⟨hturns.entrusted, ?_⟩,
      fun _ _ _ h => Processor.treatsEach_submitBatch h batch⟩
    · rw [Passage.report, hturns.inTurn.wholeFailure, List.range_eq_range']
      simp [BatchReport.settle, BatchReport.start, Passage.failures]
    · rw [hsubmissions, hhandlings]
      exact hcourse
  | true =>
    have hprocess : stage.watched.process batch = stage.watched.runBulk (.start stage.name batch.length) batch := if_pos hbulk
    have hslots : List.replicate batch.length RecordSlot.untouched = (Passage.start.entrust batch).slots batch.length :=
      (Passage.slots_start batch.length).symm
    rw [hprocess, runBulk, hslots]
    refine Shows.bind (Shows.modify_bind (BulkJob.shows_run _ _ _)) ?_
    rintro ⟨slots, verdict⟩ q ⟨handlings, does, rfl, hleft⟩
    dsimp only at does hleft ⊢
    subst hleft
    refine Shows.bind (stage.shows_bulkEnded _ ((Passage.start.entrust batch).handling handlings verdict) rfl) ?_
    rintro report q' ⟨rfl, rfl⟩
    rw [Passage.slots, List.range_eq_range']
    refine Shows.imp (stage.shows_collect _ _ 0 batch.length _) ?_
    rintro report q ⟨offers, rfl, segment, hforwards, rfl, rfl⟩
    refine ⟨segment, .of_slots rfl hforwards, ?_, fun h => Bool.noConfusion h,
      fun _ => ⟨rfl, rfl, does⟩, fun h => Bool.noConfusion (hbulk.symm.trans h),
      fun _ _ _ h => Processor.treatsEach_submitBatch h batch⟩
    -- offers do not matter to what is read off the handlings
    have hreport (p : Passage) (offers : List Offer) (size : Nat) : (p.offering offers).report stage.name size segment =
        p.report stage.name size segment := rfl
    rw [hreport, Passage.report, List.range_eq_range']
    simp [BatchReport.settle, BatchReport.start, Passage.failures]

/-- Whatever becomes of a batch, its report and what was seen of it satisfy `Q`. Seeing it changes nothing. -/
structure Always (stage : Stage m) (batch : List Json) (Q : BatchReport → Passage → Prop) : Prop where
  faithful : Prod.fst <$> (stage.watched.submitBatch batch).run .start = stage.submitBatch batch
  shows : Shows (stage.watched.submitBatch batch) .start Q

/-- What follows from the form of the report and of the offers, and from what the processor was handed, holds of every batch. -/
theorem always_of_report {stage : Stage m} {batch : List Json} {Q : BatchReport → Passage → Prop}
    (h : ∀ q segment, q.Splits batch.length segment → (stage.supportsBulk = false → q.InTurn 0 batch.length) →
      stage.HandsOver batch q → Q (q.report stage.name batch.length segment) q) : stage.Always batch Q where
  faithful := stage.watches_submitBatch batch .start
  shows := by
    rw [submitBatch_eq]
    refine Shows.bind (stage.shows_process batch) ?_
    rintro report q ⟨segment, hsplits, rfl, hturn, handed⟩
    exact Shows.lift_bind fun () => Shows.pure (h q segment hsplits hturn handed)

variable {ω : Type} [Journal (StateM ω)]

/-- A batch watched in a state: its report, what was seen of it, and the state afterwards. -/
def watch (stage : Stage (StateM ω)) (batch : List Json) (world : ω) : (BatchReport × Passage) × ω :=
  ((stage.watched.submitBatch batch).run .start).run world

/-- What always holds of a batch holds of it in every state. -/
theorem Always.watch {stage : Stage (StateM ω)} {batch : List Json} {Q : BatchReport → Passage → Prop} (h : stage.Always batch Q)
    (world : ω) : Q (stage.watch batch world).1.1 (stage.watch batch world).1.2 := by
  have hall := SatisfiesM_StateT_eq.1 h.shows world
  rwa [SatisfiesM_Id_eq] at hall

end Stage

/-! ## A sample

A sink that answers by a script and is the only thing with a state, and in front of it processors of several kinds. -/

namespace Sample

/-- The answers that the sink has still to give. When there are none left, it takes everything. -/
abbrev Scripted := StateM (List (Except SinkError Unit))

instance : Journal Scripted where
  note _ := pure ()

/-- The sink. -/
def scripted : Sink Scripted :=
  .ofAccept fun _ => do
    match ← get with
    | [] => pure (.ok ())
    | answer :: rest => do
      set rest
      pure answer

/-- The processor that takes an array apart and fails on everything else. On `null` it aborts the batch. -/
def splitter : Processor Scripted :=
  .ofSubmit "splitter"
    (fun
      | .array outputs => pure (.ok outputs)
      | .null => pure (.error (.batchAbort "splitter" "stop"))
      | _ => pure (.error (.recordFailed "splitter" "no array")))
    false

/-- The splitter in front of the sink. -/
def splitting (bulk : Bool) : Stage Scripted := ⟨"splitter", splitter, scripted, bulk⟩

/-- The processor that works on a batch of three records across their order: it stages the third record, then the first, and the second
before and after it is marked as failed; it stages the second for a record that the batch does not have, and then for the first; and it
ends the batch with this error. -/
def scatterer (e : ProcessorError) : Processor Scripted where
  name := "scatterer"
  submit record := pure (.ok [record])
  submitBatch
    | [first, second, third] =>
      .emit 2 third <| .emit 0 first <| .emit 1 second <| .fail 1 (.recordFailed "scatterer" "bad") <| .emit 1 second <|
        .emit 3 second <| .emit 0 second <| .finish (.error e)
    | _ => .finish (.ok ())
  supportsBulk := true

/-- The scatterer in front of the sink. -/
def scattering (e : ProcessorError) : Stage Scripted := ⟨"scatterer", scatterer e, scripted, true⟩

/-- What was seen of a batch, and its report, when the sink answers by this script. -/
def seen (stage : Stage Scripted) (batch : List Json) (script : List (Except SinkError Unit)) : BatchReport × Passage :=
  (stage.watch batch script).1

/-- What always holds of a batch holds of what was seen of it. -/
theorem seen_of_always {stage : Stage Scripted} {batch : List Json} {Q : BatchReport → Passage → Prop} (h : stage.Always batch Q)
    (script : List (Except SinkError Unit)) : Q (seen stage batch script).1 (seen stage batch script).2 :=
  h.watch script

end Sample

end StepEngine
