import StepEngine.Pipeline.Prefixer
import StepEngine.Proofs.Agreement

/-!
# Refusal: what a refused record means for the records behind it

A sink takes a batch as it takes its records one after the other, and where it refuses one, the records behind it have no effect
(`Sink.KeepsOrder`): that holds of every sink at the end of a chain. A stage accepts a batch exactly if it accepts its records one after
the other, but it does not stop at a refusal: unless its processor aborts the batch, the records behind the refused one are accepted as
a batch of their own (`BatchAtStage`). What a stage leaves behind is compared without its journal, which neither its processor nor its
sink reads. The sink of a stage may be any sink, so all this holds of chains of stages too.
-/

namespace StepEngine

/-! ## Sinks that stop -/

section

variable {m : Type → Type} [Monad m] {α : Type}

/-- What is written into a cell is what is read from it, and nothing else depends on how often it is written. -/
structure Cell.Lawful (cell : Cell m α) : Prop where
  set_get : ∀ a, (cell.set a >>= fun _ => cell.get) = cell.set a >>= fun _ => pure a
  set_set : ∀ a b, (cell.set a >>= fun _ => cell.set b) = cell.set b
  get_set : cell.get >>= cell.set = pure ()

/-- Accepting a batch is accepting its records one after the other, up to the first that is refused. -/
def Sink.KeepsOrder (sink : Sink m) : Prop := ∀ batch, sink.acceptBatch batch = Sink.inOrder sink.accept batch

/-- A sink without a way of its own to accept batches keeps their order. -/
theorem Sink.keepsOrder_ofAccept (accept : Json → m (Except SinkError Unit)) : (Sink.ofAccept accept).KeepsOrder := fun _ => rfl

variable [LawfulMonad m]

/-- After a write, a read yields what was written. -/
theorem Cell.Lawful.set_get_bind {β : Type} {cell : Cell m α} (h : cell.Lawful) (a : α) (f : α → m β) :
    (cell.set a >>= fun _ => cell.get >>= f) = cell.set a >>= fun _ => f a := by
  calc (cell.set a >>= fun _ => cell.get >>= f) = (cell.set a >>= fun _ => cell.get) >>= f := by rw [bind_assoc]
    _ = (cell.set a >>= fun _ => pure a) >>= f := by rw [h.set_get]
    _ = cell.set a >>= fun _ => f a := by simp only [bind_assoc, pure_bind]

/-- The second of two writes counts. -/
theorem Cell.Lawful.set_set_bind {β : Type} {cell : Cell m α} (h : cell.Lawful) (a b : α) (f : m β) :
    (cell.set a >>= fun _ => cell.set b >>= fun _ => f) = cell.set b >>= fun _ => f := by
  calc (cell.set a >>= fun _ => cell.set b >>= fun _ => f) = (cell.set a >>= fun _ => cell.set b) >>= fun _ => f := by rw [bind_assoc]
    _ = cell.set b >>= fun _ => f := by rw [h.set_set]

/-- The sink that keeps every record keeps the order of a batch. -/
theorem Sink.keepsOrder_collecting {records : Cell m (List Json)} (h : records.Lawful) : (Sink.collecting records).KeepsOrder := by
  intro batch
  induction batch with
  | nil =>
    calc (Sink.collecting records).acceptBatch [] = (records.get >>= records.set) >>= fun _ => pure (.ok ()) := by
          simp [Sink.collecting]
      _ = pure (.ok ()) := by rw [h.get_set, pure_bind]
  | cons record rest ih =>
    have htaken : Sink.inOrder (Sink.collecting records).accept (record :: rest) =
        records.get >>= fun before => records.set (before ++ [record]) >>= fun _ =>
          Sink.inOrder (Sink.collecting records).accept rest := by
      simp [Sink.inOrder, Sink.collecting]
    calc (Sink.collecting records).acceptBatch (record :: rest)
        = records.get >>= fun before => records.set (before ++ [record] ++ rest) >>= fun _ => pure (.ok ()) := by
          simp [Sink.collecting]
      _ = records.get >>= fun before => records.set (before ++ [record]) >>= fun _ => records.get >>= fun now =>
            records.set (now ++ rest) >>= fun _ => pure (.ok ()) := by
          simp only [h.set_get_bind, h.set_set_bind]
      _ = Sink.inOrder (Sink.collecting records).accept (record :: rest) := by
          rw [htaken, ← ih]
          rfl

end

/-! ## A stage on a state -/

/-- A report with a failure is not clean. -/
theorem BatchReport.isClean_fail (report : BatchReport) (index : Nat) (e : ProcessorError) : (report.fail index e).isClean = false := by
  simp [isClean, fail]

section

variable {ω α β : Type}

/-- Two effects on a state, one after the other. -/
theorem StateM.run_bind_eq {x : StateM ω α} {f : α → StateM ω β} {w w' : ω} {a : α} (h : x.run w = (a, w')) :
    (x >>= f).run w = (f a).run w' := by
  rw [StateT.run_bind, h]
  rfl

/-- Records that are all accepted are out of the way of those behind them. -/
theorem Sink.run_inOrder_append {accept : Json → StateM ω (Except SinkError Unit)} {before after : List Json} {w w' : ω}
    (h : (Sink.inOrder accept before).run w = (.ok (), w')) :
    (Sink.inOrder accept (before ++ after)).run w = (Sink.inOrder accept after).run w' := by
  induction before generalizing w with
  | nil =>
    cases h
    rfl
  | cons record rest ih =>
    rcases hstep : (accept record).run w with ⟨answer, w₁⟩
    rw [inOrder, StateM.run_bind_eq hstep] at h
    rw [List.cons_append, inOrder, StateM.run_bind_eq hstep]
    cases answer with
    | ok => exact ih h
    | error e => cases h

/-- Nothing is done about the records behind one that is refused. -/
theorem Sink.run_inOrder_refused {accept : Json → StateM ω (Except SinkError Unit)} {record : Json} {e : SinkError} {w w' : ω}
    (h : (accept record).run w = (.error e, w')) (after : List Json) :
    (Sink.inOrder accept (record :: after)).run w = (.error e, w') := StateM.run_bind_eq h

/-- The records of a batch are all accepted, or there is a first one that is refused. -/
theorem Sink.accepted_or_refused (accept : Json → StateM ω (Except SinkError Unit)) (batch : List Json) (w : ω) :
    (∃ w', (Sink.inOrder accept batch).run w = (.ok (), w')) ∨
      ∃ before record after e w₁ w₂, batch = before ++ record :: after ∧ (Sink.inOrder accept before).run w = (.ok (), w₁) ∧
        (accept record).run w₁ = (.error e, w₂) := by
  induction batch generalizing w with
  | nil => exact Or.inl ⟨w, rfl⟩
  | cons record rest ih =>
    rcases hstep : (accept record).run w with ⟨answer, w₁⟩
    cases answer with
    | error e => exact Or.inr ⟨[], record, rest, e, w, w₁, rfl, rfl, hstep⟩
    | ok =>
      have hnext : ∀ rest, (Sink.inOrder accept (record :: rest)).run w = (Sink.inOrder accept rest).run w₁ := fun rest =>
        StateM.run_bind_eq hstep
      rcases ih w₁ with ⟨w', haccepted⟩ | ⟨before, refused, after, e, w₂, w₃, rfl, hbefore, hrefused⟩
      · exact Or.inl ⟨w', (hnext rest).trans haccepted⟩
      · exact Or.inr ⟨record :: before, refused, after, e, w₂, w₃, rfl, (hnext before).trans hbefore, hrefused⟩

/-- Two states cannot be told apart by an effect: it answers the same in both, and leaves states that cannot be told apart either. -/
def Unseen (alike : ω → ω → Prop) (effect : StateM ω α) : Prop :=
  ∀ w w', alike w w' → (effect.run w).1 = (effect.run w').1 ∧ alike (effect.run w).2 (effect.run w').2

/-- What is done one after the other cannot tell two states apart. -/
theorem Unseen.bind {alike : ω → ω → Prop} {x : StateM ω α} {f : α → StateM ω β} (hx : Unseen alike x)
    (hf : ∀ a, Unseen alike (f a)) : Unseen alike (x >>= f) := by
  intro w w' h
  have hafter := hx w w' h
  rcases hrun : x.run w with ⟨a, w₁⟩
  rcases hrun' : x.run w' with ⟨a', w₁'⟩
  rw [hrun, hrun'] at hafter
  obtain ⟨rfl, hstates⟩ := hafter
  rw [StateM.run_bind_eq hrun, StateM.run_bind_eq hrun']
  exact hf a w₁ w₁' hstates

/-- What does nothing cannot tell two states apart. -/
theorem Unseen.pure {alike : ω → ω → Prop} (a : α) : Unseen alike (Pure.pure a : StateM ω α) := fun _ _ h => ⟨rfl, h⟩

variable [Journal (StateM ω)]

/-- The states of a stage are alike when they differ in its journal alone: neither its processor nor its sink reads what is noted. -/
structure Stage.Unheard (stage : Stage (StateM ω)) (alike : ω → ω → Prop) : Prop where
  equivalence : Equivalence alike
  note : ∀ event w, alike ((Journal.note event : StateM ω Unit).run w).2 w
  submit : ∀ record, Unseen alike (stage.processor.submit record)
  accept : ∀ record, Unseen alike (stage.sink.accept record)

/-- The processor ends the batch when it is given this record in this state. -/
def Stage.aborts (stage : Stage (StateM ω)) (record : Json) (w : ω) : Bool :=
  match ((stage.processor.submit record).run w).1 with
  | .ok _ => false
  | .error e => e.isBatchAbort

/-- What it comes to when a stage accepts a batch in a state, beside accepting its records one after the other up to the first that is
refused. -/
structure BatchAtStage (alike : ω → ω → Prop) (stage : Stage (StateM ω)) (batch : List Json) (w : ω) : Prop where
  /-- The batch is accepted exactly if all its records are. -/
  answer : ((stage.toSink.acceptBatch batch).run w).1.isOk = ((Sink.inOrder stage.toSink.accept batch).run w).1.isOk
  /-- A batch that is accepted leaves what its records leave. -/
  accepted : ((Sink.inOrder stage.toSink.accept batch).run w).1.isOk →
    alike ((stage.toSink.acceptBatch batch).run w).2 ((Sink.inOrder stage.toSink.accept batch).run w).2
  /-- Where one record is refused, the records behind it are accepted as a batch of their own, unless the processor has aborted. -/
  refused : ∀ before record after e w₁ w₂, batch = before ++ record :: after →
    (Sink.inOrder stage.toSink.accept before).run w = (.ok (), w₁) → (stage.toSink.accept record).run w₁ = (.error e, w₂) →
      (Sink.inOrder stage.toSink.accept batch).run w = (.error e, w₂) ∧
        alike ((stage.toSink.acceptBatch batch).run w).2
          (if stage.aborts record w₁ then w₂ else ((stage.toSink.acceptBatch after).run w₂).2)

namespace Stage

variable {stage : Stage (StateM ω)} {alike : ω → ω → Prop} {w w' w₁ w₂ : ω} {record : Json}

/-! ## Record by record -/

/-- A record is accepted if it is submitted without an error. -/
theorem run_accept (stage : Stage (StateM ω)) (record : Json) (w : ω) :
    (stage.toSink.accept record).run w =
      (match ((stage.submit record).run w).1 with
        | .ok _ => .ok ()
        | .error e => .error (.rejected e.message), ((stage.submit record).run w).2) := by
  rcases hsubmit : (stage.submit record).run w with ⟨answer, w'⟩
  refine (StateM.run_bind_eq hsubmit).trans ?_
  cases answer <;> rfl

/-- An accepted record is submitted without an error. -/
theorem submit_of_accept (h : (stage.toSink.accept record).run w = (.ok (), w')) :
    ∃ count, (stage.submit record).run w = (.ok count, w') := by
  rw [run_accept] at h
  rcases hsubmit : (stage.submit record).run w with ⟨answer, w₁⟩
  rw [hsubmit] at h
  cases answer with
  | ok count =>
    cases h
    exact ⟨count, rfl⟩
  | error cause => cases h

/-- A refused record is submitted with an error. -/
theorem submit_of_refuse {e : SinkError} (h : (stage.toSink.accept record).run w = (.error e, w')) :
    ∃ cause, (stage.submit record).run w = (.error cause, w') := by
  rw [run_accept] at h
  rcases hsubmit : (stage.submit record).run w with ⟨answer, w₁⟩
  rw [hsubmit] at h
  cases answer with
  | ok count => cases h
  | error cause =>
    cases h
    exact ⟨cause, rfl⟩

omit [Journal (StateM ω)] in
/-- What a sink refuses does not abort a batch. -/
theorem isBatchAbort_of_flush {outputs : List Json} {e : ProcessorError} (h : (stage.flush outputs).run w = (.error e, w')) :
    e.isBatchAbort = false := by
  induction outputs generalizing w with
  | nil => cases h
  | cons output rest ih =>
    rcases haccept : (stage.sink.accept output).run w with ⟨answer, w₁⟩
    rw [flush, StateM.run_bind_eq haccept] at h
    cases answer with
    | ok => exact ih h
    | error refusal =>
      cases h
      rfl

omit [Journal (StateM ω)] in
/-- The error of a submitted record aborts a batch exactly if the processor does. -/
theorem aborts_eq {e : ProcessorError} (h : (stage.submit record).run w = (.error e, w')) :
    stage.aborts record w = e.isBatchAbort := by
  rw [aborts]
  rcases hprocess : (stage.processor.submit record).run w with ⟨result, w₁⟩
  rw [submit, StateM.run_bind_eq hprocess] at h
  cases result with
  | error cause =>
    cases h
    rfl
  | ok outputs =>
    rcases hflush : (stage.flush outputs).run w₁ with ⟨answer, w₂⟩
    rw [StateM.run_bind_eq hflush] at h
    cases answer with
    | ok => cases h
    | error cause =>
      cases h
      exact (isBatchAbort_of_flush hflush).symm

variable {report : BatchReport} {index : Nat} {rest : List Json}

/-- The rest of a batch goes on behind a record that was forwarded. -/
theorem run_runEach_ok {count : Nat} (h : (stage.submit record).run w = (.ok count, w')) :
    (stage.runEach report index (record :: rest)).run w = (stage.runEach (report.forward count) (index + 1) rest).run w' := by
  rw [runEach, StateM.run_bind_eq h]

/-- The rest of a batch goes on behind a record that failed, after a note of the failure. -/
theorem run_runEach_error {e : ProcessorError} (h : (stage.submit record).run w = (.error e, w')) (hgoes : e.isBatchAbort = false) :
    (stage.runEach report index (record :: rest)).run w =
      (stage.runEach (report.fail index e) (index + 1) rest).run
        ((Journal.note (stage.logRecord "Record failed" index e) : StateM ω Unit).run w').2 := by
  rw [runEach, StateM.run_bind_eq h]
  simp only [hgoes, Bool.false_eq_true, if_false]
  rfl

/-- Nothing is done about the rest of a batch behind an abort, but a note. -/
theorem run_runEach_abort {e : ProcessorError} (h : (stage.submit record).run w = (.error e, w')) (habort : e.isBatchAbort = true) :
    (stage.runEach report index (record :: rest)).run w =
      ({ report.fail index e with aborted := true, skipped := rest.length },
        ((Journal.note (stage.logRecord "Batch aborted" index e) : StateM ω Unit).run w').2) := by
  rw [runEach, StateM.run_bind_eq h]
  simp only [habort, if_true]
  rfl

/-- A report that is not clean stays so. -/
theorem not_clean_runEach (batch : List Json) (h : report.isClean = false) :
    ((stage.runEach report index batch).run w).1.isClean = false := by
  induction batch generalizing report index w with
  | nil => exact h
  | cons record rest ih =>
    rcases hsubmit : (stage.submit record).run w with ⟨answer, w'⟩
    cases answer with
    | ok count =>
      rw [run_runEach_ok hsubmit]
      exact ih h
    | error e =>
      cases habort : e.isBatchAbort with
      | true =>
        rw [run_runEach_abort hsubmit habort]
        exact Bool.and_false _
      | false =>
        rw [run_runEach_error hsubmit habort]
        exact ih (BatchReport.isClean_fail _ _ _)

/-- A batch with a record that is refused has a report that is not clean. -/
theorem not_clean_of_refuse {after : List Json} {e : SinkError} (h : (stage.toSink.accept record).run w = (.error e, w')) :
    ((stage.runEach report index (record :: after)).run w).1.isClean = false := by
  obtain ⟨cause, hsubmit⟩ := submit_of_refuse h
  cases habort : cause.isBatchAbort with
  | true =>
    rw [run_runEach_abort hsubmit habort]
    exact Bool.and_false _
  | false =>
    rw [run_runEach_error hsubmit habort]
    exact not_clean_runEach after (BatchReport.isClean_fail _ _ _)

/-- Records that are all accepted go through a stage one after the other, and the report stays as clean as it is. -/
theorem run_runEach_append (report : BatchReport) (index : Nat) {before : List Json} (after : List Json)
    (h : (Sink.inOrder stage.toSink.accept before).run w = (.ok (), w')) :
    ∃ report' index', report'.isClean = report.isClean ∧
      (stage.runEach report index (before ++ after)).run w = (stage.runEach report' index' after).run w' := by
  induction before generalizing report index w with
  | nil =>
    cases h
    exact ⟨report, index, rfl, rfl⟩
  | cons record rest ih =>
    rcases haccept : (stage.toSink.accept record).run w with ⟨answer, w₁⟩
    rw [Sink.inOrder, StateM.run_bind_eq haccept] at h
    cases answer with
    | error e => cases h
    | ok =>
      obtain ⟨count, hsubmit⟩ := submit_of_accept haccept
      obtain ⟨report', index', hclean, hrun⟩ := ih (report.forward count) (index + 1) h
      exact ⟨report', index', hclean, (run_runEach_ok hsubmit).trans hrun⟩

namespace Unheard

/-- Outputs are forwarded without a look at the journal. -/
theorem flush (h : stage.Unheard alike) (outputs : List Json) : Unseen alike (stage.flush outputs) := by
  induction outputs with
  | nil => exact .pure _
  | cons output rest ih =>
    refine .bind (h.accept output) fun answer => ?_
    cases answer with
    | ok => exact ih
    | error e => exact .pure _

/-- A record is submitted without a look at the journal. -/
theorem submits (h : stage.Unheard alike) (record : Json) : Unseen alike (stage.submit record) := by
  refine .bind (h.submit record) fun result => ?_
  cases result with
  | error e => exact .pure _
  | ok outputs =>
    refine .bind (h.flush outputs) fun answer => ?_
    cases answer <;> exact .pure _

/-- Notes on top of states that are alike leave them alike. -/
theorem alike_notes (h : stage.Unheard alike) (event event' : LogEvent) (hw : alike w w') :
    alike ((Journal.note event : StateM ω Unit).run w).2 ((Journal.note event' : StateM ω Unit).run w').2 :=
  h.equivalence.trans (h.note event w) (h.equivalence.trans hw (h.equivalence.symm (h.note event' w')))

/-- The records of a batch leave the same behind whatever was put down in the report and in the journal before. -/
theorem alike_runEach (h : stage.Unheard alike) (report report' : BatchReport) (index index' : Nat) (batch : List Json) (hw : alike w w') :
    alike ((stage.runEach report index batch).run w).2 ((stage.runEach report' index' batch).run w').2 := by
  induction batch generalizing report report' index index' w w' with
  | nil => exact hw
  | cons record rest ih =>
    have hafter := h.submits record w w' hw
    rcases hsubmit : (stage.submit record).run w with ⟨answer, w₁⟩
    rcases hsubmit' : (stage.submit record).run w' with ⟨answer', w₁'⟩
    rw [hsubmit, hsubmit'] at hafter
    obtain ⟨rfl, hstates⟩ := hafter
    cases answer with
    | ok count =>
      rw [run_runEach_ok hsubmit, run_runEach_ok hsubmit']
      exact ih _ _ _ _ hstates
    | error e =>
      cases habort : e.isBatchAbort with
      | true =>
        rw [run_runEach_abort hsubmit habort, run_runEach_abort hsubmit' habort]
        exact h.alike_notes _ _ hstates
      | false =>
        rw [run_runEach_error hsubmit habort, run_runEach_error hsubmit' habort]
        exact ih _ _ _ _ (h.alike_notes _ _ hstates)

end Unheard

/-- A batch that is accepted record by record comes to what its records come to, and the report of it says whether it is clean. -/
theorem run_acceptBatch (h : stage.Unheard alike) (heach : stage.supportsBulk = false) (batch : List Json) (w : ω) :
    let each := (stage.runEach (.start stage.name batch.length) 0 batch).run w
    ((stage.toSink.acceptBatch batch).run w).1.isOk = each.1.isClean ∧ alike ((stage.toSink.acceptBatch batch).run w).2 each.2 := by
  intro each
  have hsubmit : (stage.submitBatch batch).run w =
      (each.1, ((Journal.note (LogEvent.processorOperation "submit_batch" stage.name each.1.submitted
        (if each.1.isClean then "ok" else "partial") none) : StateM ω Unit).run each.2).2) := by
    rw [submitBatch]
    simp only [heach, Bool.false_eq_true, if_false]
    rfl
  rw [toSink, StateM.run_bind_eq hsubmit]
  constructor
  · show (if each.1.isClean then _ else _ : Except SinkError Unit).isOk = _
    cases each.1.isClean <;> rfl
  · exact h.note _ _

/-- Record by record, a stage goes on behind a record that it refuses. -/
theorem batchAtStage_of_each (h : stage.Unheard alike) (heach : stage.supportsBulk = false) (batch : List Json) (w : ω) :
    BatchAtStage alike stage batch w := by
  obtain ⟨hanswer, hleft⟩ := run_acceptBatch h heach batch w
  refine ⟨?_, ?_, ?_⟩
  · rw [hanswer]
    rcases Sink.accepted_or_refused stage.toSink.accept batch w with
      ⟨w', haccepted⟩ | ⟨before, record, after, e, w₁, w₂, rfl, hbefore, hrefused⟩
    · obtain ⟨report, index, hclean, hrun⟩ := run_runEach_append (.start stage.name batch.length) 0 [] haccepted
      rw [List.append_nil] at hrun
      rw [hrun, haccepted]
      exact hclean
    · obtain ⟨report, index, -, hrun⟩ :=
        run_runEach_append (.start stage.name (before ++ record :: after).length) 0 (record :: after) hbefore
      rw [hrun, not_clean_of_refuse hrefused, Sink.run_inOrder_append hbefore, Sink.run_inOrder_refused hrefused]
      rfl
  · intro haccepted
    rcases Sink.accepted_or_refused stage.toSink.accept batch w with
      ⟨w', haccepted'⟩ | ⟨before, record, after, e, w₁, w₂, rfl, hbefore, hrefused⟩
    · obtain ⟨report, index, -, hrun⟩ := run_runEach_append (.start stage.name batch.length) 0 [] haccepted'
      rw [List.append_nil] at hrun
      rw [hrun] at hleft
      rw [haccepted']
      exact hleft
    · rw [Sink.run_inOrder_append hbefore, Sink.run_inOrder_refused hrefused] at haccepted
      cases haccepted
  · rintro before record after e w₁ w₂ rfl hbefore hrefused
    refine ⟨(Sink.run_inOrder_append hbefore).trans (Sink.run_inOrder_refused hrefused after), h.equivalence.trans hleft ?_⟩
    obtain ⟨report, index, -, hrun⟩ :=
      run_runEach_append (.start stage.name (before ++ record :: after).length) 0 (record :: after) hbefore
    obtain ⟨cause, hsubmit⟩ := submit_of_refuse hrefused
    rw [hrun, aborts_eq hsubmit]
    cases habort : cause.isBatchAbort with
    | true =>
      rw [run_runEach_abort hsubmit habort, if_pos rfl]
      exact h.note _ _
    | false =>
      rw [run_runEach_error hsubmit habort, if_neg Bool.false_ne_true]
      -- the rest goes on from a note of the failure, and is compared with a batch of its own
      exact h.equivalence.trans (h.alike_runEach _ _ _ _ after (h.note _ _))
        (h.equivalence.symm (run_acceptBatch h heach after w₂).2)

end Stage

end

/-! ## In bulk -/

section

variable {σ τ : Type} {name : String} {submit : Json → StateM σ (Except ProcessorError (List Json))} {asks : Bool}
  {sink : Sink (StateM τ)}

/-- Two states of a processor and of a sink that differ in the journal alone. -/
def Apart.Alike (w w' : Apart σ τ) : Prop := w.processor = w'.processor ∧ w.sink = w'.sink

theorem Apart.alike_equivalence : Equivalence (Apart.Alike : Apart σ τ → Apart σ τ → Prop) where
  refl _ := ⟨rfl, rfl⟩
  symm h := ⟨h.1.symm, h.2.symm⟩
  trans h h' := ⟨h.1.trans h'.1, h.2.trans h'.2⟩

/-- When the processor and the sink of a stage keep their states apart, neither reads the journal. -/
theorem Stage.unheard_apart (config : StageConfig) : (Stage.apart name submit asks sink config).Unheard Apart.Alike where
  equivalence := Apart.alike_equivalence
  note _ _ := ⟨rfl, rfl⟩
  submit record := by
    rintro ⟨s, t, journal⟩ ⟨s', t', journal'⟩ ⟨hs, ht⟩
    cases hs
    cases ht
    exact ⟨rfl, rfl, rfl⟩
  accept record := by
    rintro ⟨s, t, journal⟩ ⟨s', t', journal'⟩ ⟨hs, ht⟩
    cases hs
    cases ht
    exact ⟨rfl, rfl, rfl⟩

/-- Whichever way its batches go, a stage accepts the same records. -/
theorem Stage.accept_apart (config config' : StageConfig) :
    (Stage.apart name submit asks sink config).toSink.accept = (Stage.apart name submit asks sink config').toSink.accept := by
  have hflush : ∀ outputs, (Stage.apart name submit asks sink config).flush outputs =
      (Stage.apart name submit asks sink config').flush outputs := by
    intro outputs
    induction outputs with
    | nil => rfl
    | cons output rest ih =>
      rw [flush, flush, ih]
      rfl
  have hsubmit : ∀ record, (Stage.apart name submit asks sink config).submit record =
      (Stage.apart name submit asks sink config').submit record := by
    intro record
    simp only [Stage.submit, hflush]
    rfl
  funext record
  simp only [toSink, hsubmit]

variable (name submit asks sink) (config config' : StageConfig) (batch : List Json) (w : Apart σ τ)

/-- Whichever way a batch goes, it has the same report and leaves the same states behind. -/
theorem Stage.run_apart :
    (((Stage.apart name submit asks sink config).submitBatch batch).run w).1 =
        (((Stage.apart name submit asks sink config').submitBatch batch).run w).1 ∧
      Apart.Alike (((Stage.apart name submit asks sink config).submitBatch batch).run w).2
        (((Stage.apart name submit asks sink config').submitBatch batch).run w).2 := by
  obtain ⟨hreport, -, hprocessor, hsink⟩ := watch_apart name submit asks sink config config' batch w
  rw [run_submitBatch, run_submitBatch]
  exact ⟨hreport, hprocessor, hsink⟩

/-- Whichever way a batch is accepted, it is answered the same and leaves the same states behind. -/
theorem Stage.run_acceptBatch_apart :
    (((Stage.apart name submit asks sink config).toSink.acceptBatch batch).run w).1 =
        (((Stage.apart name submit asks sink config').toSink.acceptBatch batch).run w).1 ∧
      Apart.Alike (((Stage.apart name submit asks sink config).toSink.acceptBatch batch).run w).2
        (((Stage.apart name submit asks sink config').toSink.acceptBatch batch).run w).2 := by
  obtain ⟨hreport, hstates⟩ := run_apart name submit asks sink config config' batch w
  rcases hrun : ((Stage.apart name submit asks sink config).submitBatch batch).run w with ⟨report, w₁⟩
  rcases hrun' : ((Stage.apart name submit asks sink config').submitBatch batch).run w with ⟨report', w₁'⟩
  rw [hrun, hrun'] at hreport hstates
  obtain rfl : report = report' := hreport
  rw [toSink, toSink, StateM.run_bind_eq hrun, StateM.run_bind_eq hrun']
  exact ⟨rfl, hstates⟩

/-- In bulk or record by record, a stage goes on behind a record that it refuses. -/
theorem Stage.batchAtStage_apart : BatchAtStage Apart.Alike (.apart name submit asks sink config) batch w := by
  have heach : BatchAtStage Apart.Alike (.apart name submit asks sink { config with supportsBulk := some false }) batch w :=
    batchAtStage_of_each (unheard_apart _) rfl batch w
  have hways := fun batch w => run_acceptBatch_apart name submit asks sink config { config with supportsBulk := some false } batch w
  have haccept : ∀ config', (Stage.apart name submit asks sink config').toSink.accept =
      (Stage.apart name submit asks sink config).toSink.accept := fun config' => accept_apart config' config
  refine ⟨?_, ?_, ?_⟩
  · rw [(hways batch w).1, heach.answer, haccept]
  · intro haccepted
    rw [← haccept { config with supportsBulk := some false }] at haccepted ⊢
    exact Apart.alike_equivalence.trans (hways batch w).2 (heach.accepted haccepted)
  · intro before record after e w₁ w₂ hbatch hbefore hrefused
    rw [← haccept { config with supportsBulk := some false }] at hbefore hrefused ⊢
    obtain ⟨hinOrder, hleft⟩ := heach.refused before record after e w₁ w₂ hbatch hbefore hrefused
    refine ⟨hinOrder, Apart.alike_equivalence.trans (hways batch w).2 (Apart.alike_equivalence.trans hleft ?_)⟩
    show Apart.Alike (if Stage.aborts (Stage.apart name submit asks sink config) record w₁ then w₂ else _) _
    split
    · exact Apart.alike_equivalence.refl _
    · exact Apart.alike_equivalence.symm (hways after w₂).2

end

/-! ## All sinks -/

/-- A sink takes a batch as it takes its records one after the other, up to the first that it refuses; and a stage accepts a batch exactly
if it accepts its records, but it goes on behind a record that it refuses. Record by record, the processor and the sink of the stage may
share their states. -/
theorem Sink.stops_at_refusal_unless_stage (batch : List Json) :
    (∀ (m : Type → Type) [Monad m] [LawfulMonad m],
      (∀ records : Cell m (List Json), records.Lawful → (Sink.collecting records).KeepsOrder) ∧
        (∀ (state : Cell m Queue) (wait : m (Except SinkError Unit)), (Sink.queue state wait).KeepsOrder) ∧
        (∀ (merge : StepId → Data → m (Except StoreError Data)) (step : StepId), (Sink.stepData merge step).KeepsOrder) ∧
        ∀ accept : Json → m (Except SinkError Unit), (Sink.ofAccept accept).KeepsOrder) ∧
    (∀ (ω : Type) [Journal (StateM ω)] (stage : Stage (StateM ω)) (alike : ω → ω → Prop), stage.Unheard alike →
      stage.supportsBulk = false → ∀ w, BatchAtStage alike stage batch w) ∧
    ∀ (σ τ : Type) (name : String) (submit : Json → StateM σ (Except ProcessorError (List Json))) (asks : Bool)
      (sink : Sink (StateM τ)) (config : StageConfig) (w : Apart σ τ),
      BatchAtStage Apart.Alike (.apart name submit asks sink config) batch w :=
  ⟨fun _ _ _ => ⟨fun _ h => keepsOrder_collecting h, fun _ _ => keepsOrder_ofAccept _, fun _ _ => keepsOrder_ofAccept _,
      fun _ => keepsOrder_ofAccept _⟩,
    fun _ _ _ _ h heach w => Stage.batchAtStage_of_each h heach batch w,
    fun _ _ name submit asks sink config w => Stage.batchAtStage_apart name submit asks sink config batch w⟩

namespace Sample

/-- A state that is nothing but a list of records. -/
def shelf : Cell (StateM (List Json)) (List Json) := ⟨get, set⟩

/-- The sink that keeps every record there. -/
def keeping : Sink (StateM (List Json)) := .collecting shelf

/-- A prefixer in front of it. -/
def prefixing (supportsBulk : Bool) : Stage (StateM (Apart Unit (List Json))) :=
  .apart "st" (fun record => pure ((Prefixer.new "st" "A-").transform record)) false keeping ⟨some supportsBulk, Dict.empty⟩

/-- The records of a batch of which the prefixer refuses the first. -/
def unfit : List Json := [.bool false, .object []]

/-- The sink keeps the order of every batch, and the prefixer goes on behind what it refuses, in bulk and record by record. -/
theorem unfit_at_stage :
    shelf.Lawful ∧ keeping.KeepsOrder ∧ (prefixing false).Unheard Apart.Alike ∧
      BatchAtStage Apart.Alike (prefixing false) unfit ⟨(), [], []⟩ ∧
      BatchAtStage Apart.Alike (prefixing true) unfit ⟨(), [], []⟩ := by
  have lawful : shelf.Lawful := ⟨fun _ => rfl, fun _ _ => rfl, rfl⟩
  have unheard : (prefixing false).Unheard Apart.Alike := Stage.unheard_apart _
  obtain ⟨hends, heach, happart⟩ := Sink.stops_at_refusal_unless_stage unfit
  exact ⟨lawful, (hends _).1 shelf lawful, unheard, heach _ _ _ unheard rfl _, happart _ _ _ _ _ _ _ _⟩

/-- Behind the record that is refused the other one is accepted, in bulk and record by record, although nothing of the batch is accepted
when its records are offered one after the other. -/
theorem unfit_goes_on :
    (((Sink.inOrder (prefixing false).toSink.accept unfit).run ⟨(), [], []⟩).1.isOk = false ∧
        ((Sink.inOrder (prefixing false).toSink.accept unfit).run ⟨(), [], []⟩).2.sink = []) ∧
      (((prefixing false).toSink.acceptBatch unfit).run ⟨(), [], []⟩).2.sink = [.object []] ∧
      (((prefixing true).toSink.acceptBatch unfit).run ⟨(), [], []⟩).2.sink = [.object []] :=
  ⟨⟨rfl, rfl⟩, rfl, rfl⟩

end Sample

end StepEngine
