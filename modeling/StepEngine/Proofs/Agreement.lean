import StepEngine.Proofs.Passage.Report

/-!
# Agreement: in bulk or record by record

A processor that treats each record on its own leaves the choice between bulk and record by record to the stage, and the choice makes no
difference, as long as processor and sink share no state (`Stage.bulk_agrees`). Record by record, the sink is offered the outputs of a
record before the next record is transformed; in bulk, all records are transformed first. When the two keep their states apart, either
way comes to the same as transforming the records up to the first abort (`Transforms`) and then offering the outputs of those that did
not fail (`Collects`). What was seen of a batch tells its report (`Passage.report_eq`), so the reports are the same too.
-/

namespace StepEngine

/-- The state of a processor and the state of a sink, which know nothing of each other, and the journal. -/
structure Apart (σ τ : Type) where
  processor : σ
  sink : τ
  journal : List LogEvent

variable {σ τ α β : Type}

namespace Apart

/-- An effect on the state of the processor. -/
def processing (effect : StateM σ α) : StateM (Apart σ τ) α := fun world =>
  ((effect.run world.processor).1, { world with processor := (effect.run world.processor).2 })

/-- An effect on the state of the sink. -/
def sinking (effect : StateM τ α) : StateM (Apart σ τ) α := fun world =>
  ((effect.run world.sink).1, { world with sink := (effect.run world.sink).2 })

instance : Journal (StateM (Apart σ τ)) where
  note event := modify fun world => { world with journal := world.journal ++ [event] }

end Apart

/-- The stage of a processor that treats each record on its own and of a sink, which share no state. -/
def Stage.apart (name : String) (submit : Json → StateM σ (Except ProcessorError (List Json))) (asks : Bool) (sink : Sink (StateM τ))
    (config : StageConfig) : Stage (StateM (Apart σ τ)) :=
  .new (.ofSubmit name (fun record => Apart.processing (submit record)) asks)
    ⟨fun record => Apart.sinking (sink.accept record), fun batch => Apart.sinking (sink.acceptBatch batch)⟩ config

/-! ## The processor and the sink on their own -/

/-- The records of a batch come to these results, up to the first abort, and leave the processor in this state. -/
inductive Transforms (submit : Json → StateM σ (Except ProcessorError (List Json))) :
    List Json → σ → List (Except ProcessorError (List Json)) → σ → Prop where
  | done {s : σ} : Transforms submit [] s [] s
  | next {record : Json} {rest : List Json} {s s₁ s₂ : σ} {result : Except ProcessorError (List Json)}
      {results : List (Except ProcessorError (List Json))} (step : (submit record).run s = (result, s₁))
      (passed : BulkJob.passed result = .ok ()) (later : Transforms submit rest s₁ results s₂) :
      Transforms submit (record :: rest) s (result :: results) s₂
  | abort {record : Json} {rest : List Json} {s s₁ : σ} {e : ProcessorError} (step : (submit record).run s = (.error e, s₁))
      (isAbort : e.isBatchAbort = true) : Transforms submit (record :: rest) s [.error e] s₁

/-- Some outputs are offered to the sink up to the first that it refuses, and leave it in this state. -/
inductive Takes (sink : Sink (StateM τ)) : List Json → τ → List Offer → τ → Prop where
  | done {t : τ} : Takes sink [] t [] t
  | taken {record : Json} {rest : List Json} {t t₁ t₂ : τ} {offers : List Offer} (step : (sink.accept record).run t = (.ok (), t₁))
      (later : Takes sink rest t₁ offers t₂) : Takes sink (record :: rest) t (⟨record, .ok ()⟩ :: offers) t₂
  | refused {record : Json} {rest : List Json} {t t₁ : τ} {e : SinkError} (step : (sink.accept record).run t = (.error e, t₁)) :
      Takes sink (record :: rest) t [⟨record, .error e⟩] t₁

/-- What waits in some slots is offered to the sink, one slot after the other. -/
inductive Collects (sink : Sink (StateM τ)) : List RecordSlot → τ → List Offer → τ → Prop where
  | done {t : τ} : Collects sink [] t [] t
  | next {slot : RecordSlot} {rest : List RecordSlot} {t t₁ t₂ : τ} {offers later : List Offer}
      (first : Takes sink slot.outputs t offers t₁) (others : Collects sink rest t₁ later t₂) :
      Collects sink (slot :: rest) t (offers ++ later) t₂

/-- The slots of records that came to these results. -/
def slotsOf (results : List (Except ProcessorError (List Json))) : List RecordSlot :=
  results.map fun result => BulkJob.record result .untouched

/-- The records of a batch always come to some results. -/
theorem exists_transforms (submit : Json → StateM σ (Except ProcessorError (List Json))) (batch : List Json) (s : σ) :
    ∃ results s', Transforms submit batch s results s' := by
  induction batch generalizing s with
  | nil => exact ⟨_, _, .done⟩
  | cons record rest ih =>
    rcases hstep : (submit record).run s with ⟨result, s₁⟩
    cases hpassed : BulkJob.passed result with
    | ok =>
      obtain ⟨results, s₂, later⟩ := ih s₁
      exact ⟨_, _, .next hstep hpassed later⟩
    | error e =>
      cases result with
      | ok outputs => cases hpassed
      | error cause =>
        refine ⟨_, _, .abort hstep ?_⟩
        by_contra h
        rw [BulkJob.passed, if_neg h] at hpassed
        cases hpassed

/-- Some outputs always come to some offers. -/
theorem exists_takes (sink : Sink (StateM τ)) (outputs : List Json) (t : τ) : ∃ offers t', Takes sink outputs t offers t' := by
  induction outputs generalizing t with
  | nil => exact ⟨_, _, .done⟩
  | cons record rest ih =>
    rcases hstep : (sink.accept record).run t with ⟨answer, t₁⟩
    cases answer with
    | error e => exact ⟨_, _, .refused hstep⟩
    | ok =>
      obtain ⟨offers, t₂, later⟩ := ih t₁
      exact ⟨_, _, .taken hstep later⟩

/-- What waits in some slots always comes to some offers. -/
theorem exists_collects (sink : Sink (StateM τ)) (slots : List RecordSlot) (t : τ) : ∃ offers t', Collects sink slots t offers t' := by
  induction slots generalizing t with
  | nil => exact ⟨_, _, .done⟩
  | cons slot rest ih =>
    obtain ⟨offers, t₁, first⟩ := exists_takes sink slot.outputs t
    obtain ⟨later, t₂, others⟩ := ih t₁
    exact ⟨_, _, .next first others⟩

/-- Outputs are offered in their order, up to the first that is refused. -/
theorem Takes.forwards {sink : Sink (StateM τ)} {outputs : List Json} {t t' : τ} {offers : List Offer}
    (h : Takes sink outputs t offers t') : Forwards outputs offers := by
  induction h with
  | done => exact .done
  | taken step later ih => exact .taken ih
  | refused step => exact .refused _

/-- Nothing is offered of untouched slots. -/
theorem Collects.untouched {sink : Sink (StateM τ)} {slots : List RecordSlot} {t t' : τ} {offers : List Offer}
    (h : Collects sink slots t offers t') (count : Nat) : Collects sink (slots ++ List.replicate count .untouched) t offers t' := by
  induction h with
  | done =>
    induction count with
    | zero => exact .done
    | succ count ih => exact .next (show Takes sink RecordSlot.untouched.outputs _ [] _ from .done) ih
  | next first others ih => exact .next first ih

/-! ## One effect after the other -/

section

variable {x : StateT Passage (StateM (Apart σ τ)) α} {f : α → StateT Passage (StateM (Apart σ τ)) β} {p q : Passage}
  {world world' : Apart σ τ} {a : α} {note : α → Passage → Passage} {s s' : σ} {t t' : τ} {journal : List LogEvent}

/-- Two effects, one after the other. -/
theorem run_bind_eq (h : (x.run p).run world = ((a, q), world')) :
    ((x >>= f).run p).run world = ((f a).run q).run world' := by
  rw [StateT.run_bind, StateT.run_bind, h]
  rfl

/-- A noted effect of the processor. -/
theorem run_processing {effect : StateM σ α} (step : effect.run s = (a, s')) :
    ((noting (Apart.processing effect) note).run p).run ⟨s, t, journal⟩ = ((a, note a p), ⟨s', t, journal⟩) := by
  have hrun : ((noting (Apart.processing effect) note).run p).run ⟨s, t, journal⟩ =
      (((effect.run s).1, note (effect.run s).1 p), ⟨(effect.run s).2, t, journal⟩) := rfl
  rw [hrun, step]

/-- A noted effect of the sink. -/
theorem run_sinking {effect : StateM τ α} (step : effect.run t = (a, t')) :
    ((noting (Apart.sinking effect) note).run p).run ⟨s, t, journal⟩ = ((a, note a p), ⟨s, t', journal⟩) := by
  have hrun : ((noting (Apart.sinking effect) note).run p).run ⟨s, t, journal⟩ =
      (((effect.run t).1, note (effect.run t).1 p), ⟨s, (effect.run t).2, journal⟩) := rfl
  rw [hrun, step]

/-- What is seen in both ways: not how the processor was handed the records. -/
def Passage.unhanded (p : Passage) : Passage := { p with batches := [], submissions := [] }

/-- What is left of a watched effect, apart from its answer, from the journal, and from how the processor was handed the records. -/
def leaves (x : StateT Passage (StateM (Apart σ τ)) α) (p : Passage) (world : Apart σ τ) : Passage × σ × τ :=
  (((x.run p).run world).1.2.unhanded, ((x.run p).run world).2.processor, ((x.run p).run world).2.sink)

/-- What is left of two effects, one after the other. -/
theorem leaves_bind (h : (x.run p).run world = ((a, q), world')) : leaves (x >>= f) p world = leaves (f a) q world' := by
  rw [leaves, leaves, run_bind_eq h]

end

/-! ## Both ways -/

section

variable {name : String} {submit : Json → StateM σ (Except ProcessorError (List Json))} {asks : Bool} {sink : Sink (StateM τ)}
  {config : StageConfig} {s s' : σ} {t t' : τ} {offers : List Offer} {results : List (Except ProcessorError (List Json))}

/-- Outputs are offered to the sink, and the processor is left alone. -/
theorem Takes.run_flush {outputs : List Json} (h : Takes sink outputs t offers t') (p : Passage) (s : σ) (journal : List LogEvent) :
    (((Stage.apart name submit asks sink config).watched.flush outputs).run p).run ⟨s, t, journal⟩ =
      ((flushed name offers, p.offering offers), ⟨s, t', journal⟩) := by
  induction h generalizing p with
  | done =>
    rw [p.offering_nil]
    rfl
  | @taken record rest t t₁ t₂ offers step later ih =>
    refine (run_bind_eq (run_sinking step)).trans ((ih _).trans ?_)
    rw [show p.offer record (.ok ()) = p.offering [⟨record, .ok ()⟩] from rfl, p.offering_offering]
    rfl
  | refused step => exact run_bind_eq (run_sinking step)

/-- A record is transformed, and then its outputs are offered. -/
theorem run_submit {record : Json} {result : Except ProcessorError (List Json)} (step : (submit record).run s = (result, s'))
    (h : Takes sink (BulkJob.record result .untouched).outputs t offers t') (p : Passage) (journal : List LogEvent) :
    (((Stage.apart name submit asks sink config).watched.submit record).run p).run ⟨s, t, journal⟩ =
      ((match (BulkJob.record result .untouched).failure? name offers with
        | some e => .error e
        | none => .ok (forwardedOf offers), (p.transform record result).offering offers), ⟨s', t', journal⟩) := by
  refine (run_bind_eq (run_processing step)).trans ?_
  cases result with
  | error e =>
    cases h
    rw [Passage.offering_nil]
    rfl
  | ok outputs =>
    refine (run_bind_eq (h.run_flush _ _ _)).trans ?_
    have hfailure : (BulkJob.record (.ok outputs) .untouched).failure? name offers = (refusal? offers).map (.sinkRejected name) := rfl
    rw [hfailure, flushed]
    cases hrefusal : refusal? offers with
    | none =>
      rw [h.forwards.forwardedOf_eq hrefusal]
      rfl
    | some e => rfl

/-- Offers made before some records are transformed might as well be made afterwards. -/
theorem foldl_offering (results : List (Except ProcessorError (List Json))) (p : Passage) (offers : List Offer) :
    results.foldl Passage.conclude (p.offering offers) = (results.foldl Passage.conclude p).offering offers := by
  induction results generalizing p with
  | nil => rfl
  | cons result rest ih => exact ih (p.conclude result)

/-- How the processor was handed the records may be forgotten before they come to their results. -/
theorem foldl_unhanded (results : List (Except ProcessorError (List Json))) (p : Passage) :
    (results.foldl Passage.conclude p).unhanded = results.foldl Passage.conclude p.unhanded := by
  induction results generalizing p with
  | nil => rfl
  | cons result rest ih => exact ih (p.conclude result)

/-- Record by record, the same is left as if all records were transformed before any output is offered. -/
theorem Transforms.leaves_runEach {batch : List Json} (h : Transforms submit batch s results s')
    (hcollects : Collects sink (slotsOf results) t offers t') (report : BatchReport)
    (index : Nat) (p : Passage) (journal : List LogEvent) :
    leaves ((Stage.apart name submit asks sink config).watched.runEach report index batch) p ⟨s, t, journal⟩ =
      ((results.foldl Passage.conclude p.unhanded).offering offers, s', t') := by
  induction h generalizing t offers report index p journal with
  | done =>
    cases hcollects
    rw [Passage.offering_nil]
    rfl
  | @next record rest s s₁ s₂ result results step passed later ih =>
    cases hcollects with
    | @next _ _ _ _ _ offers later first others =>
    refine (leaves_bind (run_submit step first p journal)).trans ?_
    -- the offers for this record are made before the other records are transformed
    rw [List.foldl_cons, ← Passage.offering_offering, ← foldl_offering]
    cases hfailure : (BulkJob.record result .untouched).failure? name offers with
    | none => exact ih others _ _ _ _
    | some e =>
      simp only [BulkJob.isBatchAbort_of_passed passed hfailure, Bool.false_eq_true, if_false]
      exact (leaves_bind rfl).trans (ih others _ _ _ _)
  | @abort record rest s s₁ e step isAbort =>
    cases hcollects with
    | next first others =>
    cases others
    cases first
    refine (leaves_bind (run_submit step .done p journal)).trans ?_
    have hfailure : (BulkJob.record (.error e) .untouched).failure? name [] = some e := rfl
    simp only [hfailure, isAbort, if_true]
    exact (leaves_bind rfl).trans rfl

/-- The slot of the next record, changed. -/
theorem modify_untouched (done : List RecordSlot) (count : Nat) (f : RecordSlot → RecordSlot) :
    (done ++ List.replicate (count + 1) RecordSlot.untouched).modify done.length f =
      done ++ [f .untouched] ++ List.replicate count .untouched := by
  rw [List.append_assoc]
  exact List.modifyTailIdx_add (List.modifyHead f) 0 done (.untouched :: List.replicate count .untouched)

/-- In bulk, the slots of the records up to the first abort are what these came to, and those behind are untouched. The slots that are
done already stay as they are. -/
theorem Transforms.run_eachRecord {batch : List Json} (h : Transforms submit batch s results s') (done : List RecordSlot) (p : Passage)
    (hlength : p.handlings.length = done.length) (hverdict : p.verdict = .ok ()) (t : τ) (journal : List LogEvent) :
    (((Processor.eachRecord (fun record => Apart.processing (submit record)) done.length batch).watched.run
        (done ++ List.replicate batch.length .untouched)).run p).run ⟨s, t, journal⟩ =
      (((done ++ slotsOf results ++
          List.replicate (batch.length - results.length) .untouched, (results.foldl Passage.conclude p).verdict),
        results.foldl Passage.conclude p), ⟨s', t, journal⟩) := by
  induction h generalizing done p with
  | done =>
    -- the passage was not ended before, so a good end changes nothing
    have hfinish : p.finish (.ok ()) = p := by
      cases p
      cases hverdict
      rfl
    refine (run_bind_eq rfl).trans ?_
    show ((_, p.finish (.ok ())), _) = _
    rw [hfinish, List.foldl_nil, hverdict, slotsOf, List.map_nil, List.append_nil]
    rfl
  | @next record rest s s₁ s₂ result results step passed later ih =>
    have hconclude : p.conclude result = p.handle done.length result := by
      rw [Passage.conclude, hlength, passed]
      cases p
      cases hverdict
      rfl
    refine (run_bind_eq (run_processing step)).trans ?_
    rw [List.length_cons, modify_untouched, passed, List.foldl_cons, hconclude]
    have h := ih (done ++ [BulkJob.record result .untouched]) (p.handle done.length result) (by simp [Passage.handle, hlength]) hverdict
    rw [List.length_append, List.length_singleton] at h
    refine h.trans ?_
    simp [slotsOf]
  | @abort record rest s s₁ e step isAbort =>
    have hconclude : p.conclude (.error e) = (p.handle done.length (.error e)).finish (.error e) := by
      rw [Passage.conclude, hlength, BulkJob.passed, if_pos isAbort]
    refine (run_bind_eq (run_processing step)).trans ?_
    rw [List.length_cons, modify_untouched, BulkJob.passed, if_pos isAbort, List.foldl_cons, List.foldl_nil, hconclude]
    exact run_bind_eq rfl

/-- In bulk, the processor is handed the batch as a whole, and then its records come to their results. -/
theorem Transforms.run_submitBatch {batch : List Json} (h : Transforms submit batch s results s') (t : τ) (journal : List LogEvent) :
    ((((Stage.apart name submit asks sink config).watched.processor.submitBatch batch).run
        (List.replicate batch.length .untouched)).run .start).run ⟨s, t, journal⟩ =
      (((slotsOf results ++ List.replicate (batch.length - results.length) .untouched,
          (results.foldl Passage.conclude (Passage.start.entrust batch)).verdict),
        results.foldl Passage.conclude (Passage.start.entrust batch)), ⟨s', t, journal⟩) :=
  h.run_eachRecord [] (Passage.start.entrust batch) rfl rfl t journal

/-- The slots of a batch are offered to the sink, one after the other. -/
theorem Collects.leaves_collect {slots : List RecordSlot} (h : Collects sink slots t offers t') (report : BatchReport) (index : Nat)
    (p : Passage) (s : σ) (journal : List LogEvent) :
    leaves ((Stage.apart name submit asks sink config).watched.collect report index slots) p ⟨s, t, journal⟩ =
      ((p.offering offers).unhanded, s, t') := by
  induction h generalizing report index p with
  | done =>
    rw [p.offering_nil]
    rfl
  | @next slot rest t t₁ t₂ offers later first others ih =>
    rw [← p.offering_offering]
    cases slot with
    | untouched =>
      cases first
      rw [p.offering_nil]
      exact ih _ _ _
    | failed e =>
      cases first
      rw [p.offering_nil]
      exact ih _ _ _
    | staged outputs =>
      refine (leaves_bind (first.run_flush p s journal)).trans ?_
      rw [flushed]
      cases refusal? offers with
      | none => exact ih _ _ _
      | some e => exact ih _ _ _

/-- How the processor ended a batch is put down on the report and in the journal. -/
theorem run_bulkEnded (stage : Stage (StateM (Apart σ τ))) (report : BatchReport) (verdict : Except ProcessorError Unit) (p : Passage)
    (s : σ) (t : τ) (journal : List LogEvent) :
    ∃ report' journal', ((stage.watched.bulkEnded report verdict).run p).run ⟨s, t, journal⟩ = ((report', p), ⟨s, t, journal'⟩) := by
  cases verdict with
  | ok => exact ⟨_, _, rfl⟩
  | error e =>
    rw [Stage.bulkEnded]
    cases e.isBatchAbort with
    | true => exact ⟨_, _, rfl⟩
    | false => exact ⟨_, _, rfl⟩

/-- Either way, a batch is transformed, and then its outputs are offered. -/
theorem leaves_process {batch : List Json} (htransforms : Transforms submit batch s results s')
    (hcollects : Collects sink (slotsOf results) t offers t') (journal : List LogEvent) :
    leaves ((Stage.apart name submit asks sink config).watched.process batch) .start ⟨s, t, journal⟩ =
      ((results.foldl Passage.conclude .start).offering offers, s', t') := by
  rw [Stage.process]
  cases (Stage.apart (σ := σ) (τ := τ) name submit asks sink config).watched.supportsBulk with
  | false => exact htransforms.leaves_runEach hcollects _ _ _ _
  | true =>
    refine (leaves_bind (htransforms.run_submitBatch t journal)).trans ?_
    obtain ⟨report, journal', hended⟩ := run_bulkEnded (.apart name submit asks sink config) (.start name batch.length)
      (results.foldl Passage.conclude (Passage.start.entrust batch)).verdict (results.foldl Passage.conclude (Passage.start.entrust batch))
      s' t journal
    refine (leaves_bind hended).trans (((hcollects.untouched _).leaves_collect _ _ _ _ _).trans ?_)
    rw [← foldl_offering, foldl_unhanded, ← foldl_offering]
    rfl

end

namespace Passage

/-- How the processor was handed the records does not matter to the offers for each record. -/
theorem Splits.unhanded {p : Passage} {size : Nat} {segment : Nat → List Offer} (h : p.Splits size segment) :
    p.unhanded.Splits size segment := ⟨h.offers, h.forwards⟩

/-- What was seen of a batch tells its report: the offers for each record can be told from all offers together. -/
theorem report_eq {p : Passage} {stage : String} {size : Nat} {segment segment' : Nat → List Offer} (h : p.Splits size segment)
    (h' : p.Splits size segment') : p.report stage size segment = p.report stage size segment' := by
  have hsegment : ∀ i ∈ List.range size, segment i = segment' i := by
    have hforwards : ∀ i ∈ List.range size, Forwards (p.due i) (segment i) := fun i hi => h.forwards i (List.mem_range.1 hi)
    have hforwards' : ∀ i ∈ List.range size, Forwards (p.due i) (segment' i) := fun i hi => h'.forwards i (List.mem_range.1 hi)
    exact Forwards.flatMap_inj hforwards hforwards' (h.offers.symm.trans h'.offers)
  have hforwarded : (List.range size).map (fun i => forwardedOf (segment i)) = (List.range size).map fun i => forwardedOf (segment' i) :=
    List.map_congr_left fun i hi => by rw [hsegment i hi]
  have hfailures : p.failures stage segment (List.range size) = p.failures stage segment' (List.range size) :=
    List.filterMap_congr fun i hi => by rw [hsegment i hi]
  rw [report, report, hforwarded, hfailures]

end Passage

namespace Stage

variable (stage : Stage (StateM (Apart σ τ))) (batch : List Json)

/-- A batch that is not watched has the same report and leaves the same states. -/
theorem run_submitBatch (world : Apart σ τ) :
    (stage.submitBatch batch).run world = ((stage.watch batch world).1.1, (stage.watch batch world).2) := by
  rw [← stage.watches_submitBatch batch .start]
  rfl

/-- Reporting a batch in the journal leaves all else alone. -/
theorem leaves_submitBatch (p : Passage) (world : Apart σ τ) :
    leaves (stage.watched.submitBatch batch) p world = leaves (stage.watched.process batch) p world := by
  rw [submitBatch_eq]
  exact (leaves_bind rfl).trans rfl

/-- The report of a batch is that of what was seen of it. -/
theorem report_watch (world : Apart σ τ) :
    ∃ segment, (stage.watch batch world).1.2.Splits batch.length segment ∧
      (stage.watch batch world).1.1 = (stage.watch batch world).1.2.report stage.name batch.length segment := by
  have halways : stage.Always batch fun report passage =>
      ∃ segment, passage.Splits batch.length segment ∧ report = passage.report stage.name batch.length segment :=
    always_of_report fun passage segment hsplits _ _ => ⟨segment, hsplits, rfl⟩
  exact halways.watch world

end Stage

/-- Whatever a stage is configured to, the same is seen of a batch but for how the processor is handed the records, the report is the same,
and so are the states that are left. -/
theorem Stage.watch_apart (name : String) (submit : Json → StateM σ (Except ProcessorError (List Json))) (asks : Bool)
    (sink : Sink (StateM τ)) (config config' : StageConfig) (batch : List Json) (world : Apart σ τ) :
    let one := (Stage.apart name submit asks sink config).watch batch world
    let other := (Stage.apart name submit asks sink config').watch batch world
    one.1.1 = other.1.1 ∧ one.1.2.unhanded = other.1.2.unhanded ∧ one.2.processor = other.2.processor ∧ one.2.sink = other.2.sink := by
  intro one other
  obtain ⟨results, s, htransforms⟩ := exists_transforms submit batch world.processor
  obtain ⟨offers, t, hcollects⟩ := exists_collects sink (slotsOf results) world.sink
  -- both come to the same transforms and offers, so the same is seen of both, and what is seen tells the report
  have hleaves : ∀ config, leaves ((Stage.apart name submit asks sink config).watched.submitBatch batch) .start world =
      ((results.foldl Passage.conclude .start).offering offers, s, t) := fun config =>
    (leaves_submitBatch _ batch .start world).trans (leaves_process htransforms hcollects world.journal)
  have hsame := (hleaves config).trans (hleaves config').symm
  have hpassage : one.1.2.unhanded = other.1.2.unhanded := congrArg (·.1) hsame
  refine ⟨?_, hpassage, congrArg (·.2.1) hsame, congrArg (·.2.2) hsame⟩
  obtain ⟨segment, hsplits, hreport⟩ := (Stage.apart name submit asks sink config).report_watch batch world
  obtain ⟨segment', hsplits', hreport'⟩ := (Stage.apart name submit asks sink config').report_watch batch world
  calc one.1.1 = one.1.2.unhanded.report name batch.length segment := hreport
    _ = other.1.2.unhanded.report name batch.length segment := by rw [hpassage]
    _ = other.1.2.unhanded.report name batch.length segment' := Passage.report_eq (hpassage ▸ hsplits.unhanded) hsplits'.unhanded
    _ = other.1.1 := hreport'.symm

/-- In bulk or record by record, a batch has the same report, the sink is offered the same records, and both the processor and the sink
are left in the same state. -/
theorem Stage.bulk_agrees (name : String) (submit : Json → StateM σ (Except ProcessorError (List Json))) (asks : Bool)
    (sink : Sink (StateM τ)) (config : StageConfig) (batch : List Json) (world : Apart σ τ) :
    let bulk : Stage (StateM (Apart σ τ)) := .apart name submit asks sink { config with supportsBulk := some true }
    let each : Stage (StateM (Apart σ τ)) := .apart name submit asks sink { config with supportsBulk := some false }
    ((bulk.submitBatch batch).run world).1 = ((each.submitBatch batch).run world).1 ∧
      ((bulk.submitBatch batch).run world).2.processor = ((each.submitBatch batch).run world).2.processor ∧
      ((bulk.submitBatch batch).run world).2.sink = ((each.submitBatch batch).run world).2.sink ∧
      (bulk.watch batch world).1.2.offers = (each.watch batch world).1.2.offers := by
  intro bulk each
  obtain ⟨hreport, hpassage, hprocessor, hsink⟩ := watch_apart name submit asks sink { config with supportsBulk := some true }
    { config with supportsBulk := some false } batch world
  rw [bulk.run_submitBatch, each.run_submitBatch]
  exact ⟨hreport, hprocessor, hsink, congrArg (·.offers) hpassage⟩

end StepEngine
