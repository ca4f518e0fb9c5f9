import StepEngine.Proofs.Refusal

/-!
# Chain: stages in a row compose their transforms

When each stage of a row is the sink of the one before, a record unfolds into a tree: its outputs at the first stage, their outputs at the
second, and so on. The stages walk through this tree depth first and from left to right (`expansion`), and the walk ends where a transform
fails. So the sink at the end gets the leaves before the first failure (`arrivals`), whatever the transforms are and however many stages
there are. The proof adds one stage in front of a sink of which this is known (`Sink.Receives`).
-/

namespace StepEngine

/-! ## What a record unfolds into -/

/-- What becomes of a record under transforms, one after the other: the leaves of its expansion, and an error in place of whatever a
transform failed on, depth first and from left to right. -/
def expansion : List (Json → Except ProcessorError (List Json)) → Json → List (Except ProcessorError Json)
  | [], record => [.ok record]
  | transform :: rest, record =>
    match transform record with
    | .error e => [.error e]
    | .ok outputs => outputs.flatMap (expansion rest)

/-- The leaves before the first failure. -/
def arrivals : List (Except ProcessorError Json) → List Json
  | .ok leaf :: rest => leaf :: arrivals rest
  | _ => []

section

variable {transform : Json → Except ProcessorError (List Json)} {rest : List (Json → Except ProcessorError (List Json))} {record : Json}
  {front back : List (Except ProcessorError Json)}

/-- A record that a transform fails on is not expanded. -/
theorem expansion_of_error {e : ProcessorError} (h : transform record = .error e) : expansion (transform :: rest) record = [.error e] := by
  rw [expansion, h]

/-- The outputs of a transform are expanded one after the other. -/
theorem expansion_of_ok {outputs : List Json} (h : transform record = .ok outputs) :
    expansion (transform :: rest) record = outputs.flatMap (expansion rest) := by
  rw [expansion, h]

/-- Leaves that nothing failed among are followed by those behind them. -/
theorem arrivals_append_of_ok (h : front.all (·.isOk) = true) : arrivals (front ++ back) = arrivals front ++ arrivals back := by
  induction front with
  | nil => rfl
  | cons leaf rest ih =>
    cases leaf with
    | error e => simp [Except.isOk, Except.toBool] at h
    | ok leaf =>
      rw [List.all_cons, Bool.and_eq_true] at h
      rw [List.cons_append, arrivals, ih h.2, arrivals, List.cons_append]

/-- Nothing arrives from behind a failure. -/
theorem arrivals_append_of_failure (h : front.all (·.isOk) = false) : arrivals (front ++ back) = arrivals front := by
  induction front with
  | nil => cases h
  | cons leaf rest ih =>
    cases leaf with
    | error e => rfl
    | ok leaf =>
      rw [List.all_cons, Bool.and_eq_false_iff] at h
      rw [List.cons_append, arrivals, ih (h.resolve_left nofun), arrivals]

/-- If nothing failed, all leaves arrive. -/
theorem arrivals_complete (leaves : List Json) : arrivals (leaves.map .ok) = leaves := by
  induction leaves with
  | nil => rfl
  | cons leaf rest ih => rw [List.map_cons, arrivals, ih]

/-- Where something failed, the leaves before it arrive. -/
theorem arrivals_failed (leaves : List Json) (e : ProcessorError) (later : List (Except ProcessorError Json)) :
    arrivals (leaves.map .ok ++ .error e :: later) = leaves := by
  induction leaves with
  | nil => rfl
  | cons leaf rest ih => rw [List.map_cons, List.cons_append, arrivals, ih]

end

/-! ## Sinks and stages -/

section

variable {m : Type → Type} [Monad m]

/-- Records put behind those that a cell has. -/
def Cell.append (records : Cell m (List Json)) (more : List Json) : m Unit := do
  records.set ((← records.get) ++ more)

/-- A processor without effects, with the settings of its stage: what it makes of a record is a function of the record. -/
structure Transformer (m : Type → Type) [Monad m] where
  processor : Processor m
  config : StageConfig
  transform : Json → Except ProcessorError (List Json)
  submit_eq : ∀ record, processor.submit record = pure (transform record)

/-- The stage of a transformer in front of a sink. -/
def Transformer.stage (t : Transformer m) (sink : Sink m) : Stage m := .new t.processor sink t.config

variable [Journal m]

/-- Stages in a row as one sink, each of them in front of the next one and the last one in front of a sink. -/
def inFront (row : List (Transformer m)) (sink : Sink m) : Sink m := row.foldr (fun t next => (t.stage next).toSink) sink

/-- The first stage of a row in front of a sink. -/
def chain (first : Transformer m) (rest : List (Transformer m)) (sink : Sink m) : Stage m := first.stage (inFront rest sink)

omit [Journal m]

/-- A sink gets records through an expansion: those that arrive end up in the cell, and a record is accepted if nothing failed. -/
def Sink.Receives (sink : Sink m) (records : Cell m (List Json)) (expand : Json → List (Except ProcessorError Json)) : Prop :=
  ∀ record, ∃ answer, sink.accept record = (records.append (arrivals (expand record)) >>= fun _ => pure answer) ∧
    answer.isOk = (expand record).all (·.isOk)

variable [LawfulMonad m] {records : Cell m (List Json)}

namespace Cell.Lawful

omit [LawfulMonad m] in
/-- Putting down nothing has no effect. -/
theorem append_nil (h : records.Lawful) : records.append [] = pure () := by
  rw [← h.get_set, Cell.append]
  simp only [List.append_nil]

/-- Records put down one after the other are put down together. -/
theorem append_append {β : Type} (h : records.Lawful) (some more : List Json) (next : m β) :
    (records.append some >>= fun _ => records.append more >>= fun _ => next) =
      records.append (some ++ more) >>= fun _ => next := by
  simp only [Cell.append, bind_assoc, h.set_get_bind, h.set_set_bind, List.append_assoc]

end Cell.Lawful

/-- The collecting sink gets every record as it is. -/
theorem Sink.receives_collecting (records : Cell m (List Json)) : (Sink.collecting records).Receives records (expansion []) :=
  fun record => ⟨.ok (), by simp [Sink.collecting, Cell.append, expansion, arrivals], rfl⟩

variable {sink : Sink m} {expand : Json → List (Except ProcessorError Json)}

/-- A stage forwards outputs up to the first from which something fails, and says whether there is one. -/
theorem Stage.flush_of_receives (h : records.Lawful) {stage : Stage m} (receives : stage.sink.Receives records expand)
    (outputs : List Json) :
    ∃ answer, stage.flush outputs = (records.append (arrivals (outputs.flatMap expand)) >>= fun _ => pure answer) ∧
      ((outputs.flatMap expand).all (·.isOk) = true → answer = .ok ()) ∧
      ((outputs.flatMap expand).all (·.isOk) = false → ∃ cause, answer = .error (.sinkRejected stage.name cause)) := by
  induction outputs with
  | nil =>
    refine ⟨.ok (), ?_, fun _ => rfl, fun hfalse => Bool.noConfusion hfalse⟩
    rw [flush, List.flatMap_nil, arrivals.eq_def, h.append_nil, pure_bind]
  | cons output rest ih =>
    obtain ⟨accepted, haccept, hok⟩ := receives output
    rw [flush, List.flatMap_cons, List.all_append, haccept, ← hok]
    cases accepted with
    | ok =>
      obtain ⟨answer, hflush, hanswer⟩ := ih
      refine ⟨answer, ?_, hanswer⟩
      rw [arrivals_append_of_ok hok.symm, ← h.append_append, bind_assoc, ← hflush]
      simp only [pure_bind]
    | error cause =>
      refine ⟨.error (.sinkRejected stage.name cause), ?_, fun htrue => Bool.noConfusion htrue, fun _ => ⟨cause, rfl⟩⟩
      rw [arrivals_append_of_failure hok.symm, bind_assoc]
      simp only [pure_bind]

/-- What a stage makes of a record, when it is known what its sink does with the outputs. -/
theorem Transformer.submit_of_receives (h : records.Lawful) (receives : sink.Receives records expand) (t : Transformer m)
    (record : Json) :
    (∃ e, t.transform record = .error e ∧ (t.stage sink).submit record = pure (.error e)) ∨
      ∃ outputs answer, t.transform record = .ok outputs ∧
        (t.stage sink).submit record = (records.append (arrivals (outputs.flatMap expand)) >>= fun _ => pure answer) ∧
        ((outputs.flatMap expand).all (·.isOk) = true → answer = .ok outputs.length) ∧
        ((outputs.flatMap expand).all (·.isOk) = false → ∃ cause, answer = .error (.sinkRejected t.processor.name cause)) := by
  have hprocess : (t.stage sink).processor.submit record = pure (t.transform record) := t.submit_eq record
  rw [Stage.submit, hprocess, pure_bind]
  cases t.transform record with
  | error e => exact Or.inl ⟨e, rfl, rfl⟩
  | ok outputs =>
    have hreceives : (t.stage sink).sink.Receives records expand := receives
    obtain ⟨flushed, hflush, hall, hfailed⟩ := Stage.flush_of_receives h hreceives outputs
    refine Or.inr ⟨outputs, flushed.map fun _ => outputs.length, rfl, ?_, fun hok => ?_, fun hnot => ?_⟩
    · show ((t.stage sink).flush outputs >>= _) = _
      rw [hflush, bind_assoc]
      refine congrArg _ (funext fun _ => ?_)
      cases flushed <;> rw [pure_bind] <;> rfl
    · rw [hall hok]
      rfl
    · obtain ⟨cause, rfl⟩ := hfailed hnot
      exact ⟨cause, rfl⟩

variable [Journal m]

/-- A stage in front of a sink adds its transform to the expansion. -/
theorem Transformer.receives (h : records.Lawful) {transforms : List (Json → Except ProcessorError (List Json))}
    (receives : sink.Receives records (expansion transforms)) (t : Transformer m) :
    (t.stage sink).toSink.Receives records (expansion (t.transform :: transforms)) := by
  intro record
  rcases t.submit_of_receives h receives record with ⟨e, hfails, hsubmit⟩ | ⟨outputs, answer, houtputs, hsubmit, hall, hfailed⟩
  · rw [expansion_of_error hfails]
    refine ⟨.error (.rejected e.message), ?_, rfl⟩
    show ((t.stage sink).submit record >>= _) = _
    rw [hsubmit, pure_bind, arrivals.eq_def, h.append_nil, pure_bind]
  · rw [expansion_of_ok houtputs]
    cases hok : (outputs.flatMap (expansion transforms)).all (·.isOk) with
    | true =>
      refine ⟨.ok (), ?_, rfl⟩
      show ((t.stage sink).submit record >>= _) = _
      rw [hsubmit, hall hok]
      simp only [bind_assoc, pure_bind]
    | false =>
      obtain ⟨cause, rfl⟩ := hfailed hok
      refine ⟨.error (.rejected (ProcessorError.sinkRejected t.processor.name cause).message), ?_, rfl⟩
      show ((t.stage sink).submit record >>= _) = _
      rw [hsubmit]
      simp only [bind_assoc, pure_bind]

/-- Stages in a row expand a record by their transforms. -/
theorem receives_inFront (h : records.Lawful) (row : List (Transformer m)) :
    (inFront row (.collecting records)).Receives records (expansion (row.map (·.transform))) := by
  induction row with
  | nil => exact Sink.receives_collecting records
  | cons t rest ih => exact t.receives h ih

/-! ## The chain -/

/-- A record submitted to the first stage of a row, in front of the sink that keeps every record. -/
structure Composes (records : Cell m (List Json)) (first : Transformer m) (rest : List (Transformer m)) (record : Json) : Prop where
  /-- If no transform fails, all leaves of the expansion arrive, and the outputs of the first stage are counted. -/
  complete : ∀ leaves, expansion ((first :: rest).map (·.transform)) record = leaves.map .ok →
    ∃ outputs, first.transform record = .ok outputs ∧
      (chain first rest (.collecting records)).submit record = (records.append leaves >>= fun _ => pure (.ok outputs.length))
  /-- If a transform fails, the leaves before it arrive, and nothing behind; the error is the first processor's own, or else a refusal
  by the sink of the first stage. -/
  failed : ∀ leaves e later, expansion ((first :: rest).map (·.transform)) record = leaves.map .ok ++ .error e :: later →
    ∃ error, (chain first rest (.collecting records)).submit record = (records.append leaves >>= fun _ => pure (.error error)) ∧
      (first.transform record = .error error ∨
        (first.transform record).isOk ∧ ∃ cause, error = .sinkRejected first.processor.name cause)

/-- A chain of stages composes their transforms: a record that is submitted to it is expanded by them, depth first and from left to right,
up to the first failure. -/
theorem chain_composes (h : records.Lawful) (first : Transformer m) (rest : List (Transformer m)) (record : Json) :
    Composes records first rest record := by
  have hsubmit := first.submit_of_receives h (receives_inFront h rest) record
  constructor
  · intro leaves hexpands
    rcases hsubmit with ⟨e, hfails, -⟩ | ⟨outputs, answer, houtputs, hsubmit, hall, -⟩
    · rw [List.map_cons, expansion_of_error hfails] at hexpands
      cases leaves <;> cases hexpands
    · rw [List.map_cons, expansion_of_ok houtputs] at hexpands
      rw [hexpands, arrivals_complete] at hsubmit
      exact ⟨outputs, houtputs, by rw [chain, hsubmit, hall (by rw [hexpands]; simp [Except.isOk, Except.toBool])]⟩
  · intro leaves e later hexpands
    rcases hsubmit with ⟨own, hfails, hsubmit⟩ | ⟨outputs, answer, houtputs, hsubmit, -, hfailed⟩
    · rw [List.map_cons, expansion_of_error hfails] at hexpands
      have hleaves : leaves = [] := by
        cases leaves with
        | nil => rfl
        | cons leaf leaves => cases hexpands
      subst hleaves
      exact ⟨own, by rw [chain, hsubmit, h.append_nil, pure_bind], Or.inl hfails⟩
    · rw [List.map_cons, expansion_of_ok houtputs] at hexpands
      rw [hexpands, arrivals_failed] at hsubmit
      obtain ⟨cause, rfl⟩ := hfailed (by rw [hexpands]; simp [Except.isOk, Except.toBool])
      exact ⟨_, by rw [chain, hsubmit], Or.inr ⟨by rw [houtputs]; rfl, cause, rfl⟩⟩

end

namespace Sample

/-- A list of records beside a journal. -/
def gathered : Cell (StateM (Apart Unit (List Json))) (List Json) :=
  ⟨fun world => (world.sink, world), fun records world => ((), { world with sink := records })⟩

/-- The items of an array record. -/
def unpack (name : String) : Json → Except ProcessorError (List Json)
  | .array items => .ok items
  | _ => .error (.recordFailed name "not an array")

/-- The transformer that takes array records apart. -/
def unpacking (name : String) : Transformer (StateM (Apart Unit (List Json))) where
  processor := .ofSubmit name (fun record => pure (unpack name record)) false
  config := ⟨none, Dict.empty⟩
  transform := unpack name
  submit_eq _ := rfl

/-- Two arrays with something else between them. -/
def uneven : Json := .array [.array [.null, .bool true], .null, .array [.bool false]]

/-- Two stages that take arrays apart: what stands behind the record that is none does not arrive. -/
theorem unpacking_uneven :
    gathered.Lawful ∧ Composes gathered (unpacking "outer") [unpacking "inner"] uneven ∧
      expansion [unpack "outer", unpack "inner"] uneven =
        [.null, .bool true].map .ok ++ .error (.recordFailed "inner" "not an array") :: [.ok (.bool false)] ∧
      (((chain (unpacking "outer") [unpacking "inner"] (.collecting gathered)).submit uneven).run ⟨(), [], []⟩).2.sink =
        [.null, .bool true] := by
  have lawful : gathered.Lawful := ⟨fun _ => rfl, fun _ _ => rfl, rfl⟩
  exact ⟨lawful, chain_composes lawful _ _ _, rfl, rfl⟩

end Sample

end StepEngine
