import StepEngine.Proofs.Passage

/-!
# Handlings: what becomes of a record

A record may be handled any number of times, in any order among the others: outputs are staged for it, it is processed, it is marked as
failed. Its slot depends on the handlings alone (`Passage.slot`). One failure is enough to drop all outputs, earlier and later ones;
otherwise the outputs of all its handlings are staged, one after the other; a record that was never handled is untouched. The handlings of
a bulk processor are those of its work on the batch (`BulkJob.Does`), and they leave just these slots behind, whatever the processor does in
between (`BulkJob.shows_run`).
-/

namespace StepEngine

/-- The outputs that a handling came to. -/
def Handling.outputs (h : Handling) : List Json :=
  match h.result with
  | .ok outputs => outputs
  | .error _ => []

/-- The failure that a handling came to. -/
def Handling.error? (h : Handling) : Option ProcessorError :=
  match h.result with
  | .ok _ => none
  | .error e => some e

/-- The outputs that wait in a slot. -/
def RecordSlot.outputs : RecordSlot → List Json
  | staged outputs => outputs
  | untouched => []
  | failed _ => []

/-- Nothing was done about the record. -/
def RecordSlot.isUntouched : RecordSlot → Bool
  | untouched => true
  | staged _ => false
  | failed _ => false

namespace Passage

variable (p : Passage)

/-- The handlings of one record. -/
def handlingsOf (index : Nat) : List Handling := p.handlings.filter (·.index = index)

/-- The processor did something about the record. -/
def touches (index : Nat) : Bool := p.handlings.any (·.index = index)

/-- The record failed, at one time or another. -/
def fails (index : Nat) : Bool := p.handlings.any fun h => h.index = index && h.error?.isSome

/-- The failure that is put down for the record: the last one. -/
def failure? (index : Nat) : Option ProcessorError := ((p.handlingsOf index).filterMap Handling.error?).getLast?

/-- The outputs of the record, in the order in which they were emitted. -/
def outputs (index : Nat) : List Json := (p.handlingsOf index).flatMap Handling.outputs

/-- The outputs of the record that are to be forwarded: none if it failed. -/
def due (index : Nat) : List Json := if p.fails index then [] else p.outputs index

/-- The slot of the record. -/
def slot (index : Nat) : RecordSlot :=
  match p.failure? index with
  | some e => .failed e
  | none => if p.touches index then .staged (p.outputs index) else .untouched

/-- The slots of a batch. -/
def slots (size : Nat) : List RecordSlot := (List.range size).map p.slot

variable {p} {index other : Nat} {result : Except ProcessorError (List Json)}

/-! ## What a slot shows -/

/-- A record has a failure put down exactly if it failed. -/
theorem isSome_failure? (p : Passage) (index : Nat) : (p.failure? index).isSome = p.fails index := by
  have hsome : (p.failure? index).isSome = !((p.handlingsOf index).filterMap Handling.error?).isEmpty := by
    rw [failure?]
    cases (p.handlingsOf index).filterMap Handling.error? with
    | nil => rfl
    | cons e rest => rw [List.getLast?_cons]; rfl
  rw [hsome, Bool.eq_iff_iff]
  simp [handlingsOf, fails, Option.isSome_iff_ne_none]

/-- A record that was never handled has no outputs. -/
theorem outputs_of_untouched (h : p.touches index = false) : p.outputs index = [] := by
  have hnone : p.handlingsOf index = [] := by
    rw [handlingsOf, List.filter_eq_nil_iff]
    simpa [touches] using h
  rw [outputs, hnone, List.flatMap_nil]

/-- A record that failed was handled. -/
theorem touches_of_fails (h : p.fails index = true) : p.touches index = true := by
  simp only [fails, touches, List.any_eq_true, Bool.and_eq_true, decide_eq_true_eq] at h ⊢
  obtain ⟨handling, hm, hindex, -⟩ := h
  exact ⟨handling, hm, hindex⟩

/-- A record that did not fail has no failure put down. -/
theorem failure?_eq_none (h : p.fails index = false) : p.failure? index = none := by
  rw [← Option.not_isSome_iff_eq_none, isSome_failure?, h]
  exact Bool.false_ne_true

/-- What waits in the slot of a record is what is to be forwarded of it. -/
theorem outputs_slot (p : Passage) (index : Nat) : (p.slot index).outputs = p.due index := by
  rw [slot, due]
  cases hfails : p.fails index with
  | true =>
    obtain ⟨e, he⟩ := Option.isSome_iff_exists.1 ((isSome_failure? p index).trans hfails)
    rw [he]
    rfl
  | false =>
    rw [failure?_eq_none hfails]
    cases htouches : p.touches index with
    | true => rfl
    | false => exact (outputs_of_untouched htouches).symm

/-- A slot is untouched exactly if the record was never handled. -/
theorem isUntouched_slot (p : Passage) (index : Nat) : (p.slot index).isUntouched = !p.touches index := by
  rw [slot]
  cases hfailure : p.failure? index with
  | some e =>
    have hfails : p.fails index = true := by
      rw [← isSome_failure?, hfailure]
      rfl
    rw [touches_of_fails hfails]
    rfl
  | none => cases p.touches index <;> rfl

/-! ## One more handling -/

/-- The handlings of a record after one more handling. -/
theorem handlingsOf_handle (p : Passage) (index other : Nat) (result : Except ProcessorError (List Json)) :
    (p.handle index result).handlingsOf other =
      if other = index then p.handlingsOf other ++ [⟨index, result⟩] else p.handlingsOf other := by
  rw [handlingsOf, handle, List.filter_append]
  by_cases h : other = index
  · simp [h, handlingsOf]
  · simp [h, Ne.symm h, handlingsOf]

/-- The slot of a record depends on its handlings alone. -/
theorem slot_eq_of_handlingsOf {q : Passage} (h : q.handlingsOf index = p.handlingsOf index) : q.slot index = p.slot index := by
  have htouches (r : Passage) : r.touches index = !(r.handlingsOf index).isEmpty := by
    rw [Bool.eq_iff_iff]
    simp [touches, handlingsOf, List.filter_eq_nil_iff]
  rw [slot, slot, failure?, failure?, outputs, outputs, htouches q, htouches p, h]

/-- Another handling changes the slot of its own record only, as the slot of a batch is changed by it. -/
theorem slot_handle (p : Passage) (index other : Nat) (result : Except ProcessorError (List Json)) :
    (p.handle index result).slot other = if other = index then BulkJob.record result (p.slot other) else p.slot other := by
  by_cases h : other = index
  · subst h
    have hhandlings := handlingsOf_handle p other other result
    rw [if_pos rfl] at hhandlings ⊢
    have htouches : (p.handle other result).touches other = true := by simp [touches, handle]
    cases result with
    | error e =>
      have hfailure : (p.handle other (.error e)).failure? other = some e := by
        rw [failure?, hhandlings, List.filterMap_append]
        exact List.getLast?_concat
      rw [slot, hfailure]
      rfl
    | ok outputs =>
      have hfailure : (p.handle other (.ok outputs)).failure? other = p.failure? other := by
        rw [failure?, hhandlings, List.filterMap_append]
        exact congrArg List.getLast? (List.append_nil _)
      have houtputs : (p.handle other (.ok outputs)).outputs other = p.outputs other ++ outputs := by
        rw [Passage.outputs, hhandlings, List.flatMap_append]
        exact congrArg (p.outputs other ++ ·) (List.append_nil _)
      rw [slot, slot, hfailure, houtputs, htouches]
      cases p.failure? other with
      | some e => rfl
      | none =>
        cases hbefore : p.touches other with
        | true => rfl
        | false =>
          rw [outputs_of_untouched hbefore]
          rfl
  · rw [if_neg h]
    refine slot_eq_of_handlingsOf ?_
    rw [handlingsOf_handle, if_neg h]

/-- At first all slots are untouched. -/
theorem slots_start (size : Nat) : start.slots size = List.replicate size .untouched := by
  rw [slots, List.map_eq_replicate_iff.2, List.length_range]
  intro index _
  rfl

/-- The slots of a batch after another handling. A handling of a record that the batch does not have goes nowhere. -/
theorem slots_handle (p : Passage) (size index : Nat) (result : Except ProcessorError (List Json)) :
    (p.handle index result).slots size = (p.slots size).modify index (BulkJob.record result) := by
  refine List.ext_getElem (by simp [slots]) fun i h _ => ?_
  have hi : i < size := by simpa [slots] using h
  rw [List.getElem_modify]
  simp only [slots, List.getElem_map, List.getElem_range, slot_handle, eq_comm]

end Passage

/-! ## The work of a bulk processor -/

variable {m : Type → Type} [Monad m] [LawfulMonad m]

/-- An output emitted by itself is a result of one output. -/
theorem BulkJob.record_emit (output : Json) : record (.ok [output]) = RecordSlot.emit output := by
  funext slot
  cases slot <;> rfl

/-- Work on a batch that did this about the records, one thing after the other, and ended with this verdict. What it did in between may
have come to anything, and so may each record that it processed: an abort is passed on to it, and any other result lets it go on. -/
inductive BulkJob.Does : BulkJob m → List Handling → Except ProcessorError Unit → Prop where
  | finish (verdict : Except ProcessorError Unit) : Does (.finish verdict) [] verdict
  | emit {index : Nat} {record : Json} {next : BulkJob m} {handlings : List Handling} {verdict : Except ProcessorError Unit}
      (later : Does next handlings verdict) : Does (.emit index record next) (⟨index, .ok [record]⟩ :: handlings) verdict
  | fail {index : Nat} {error : ProcessorError} {next : BulkJob m} {handlings : List Handling} {verdict : Except ProcessorError Unit}
      (later : Does next handlings verdict) : Does (.fail index error next) (⟨index, .error error⟩ :: handlings) verdict
  | process {index : Nat} {work : m (Except ProcessorError (List Json))} {next : Except ProcessorError Unit → BulkJob m}
      {result : Except ProcessorError (List Json)} {handlings : List Handling} {verdict : Except ProcessorError Unit}
      (goesOn : ∀ e, result = .error e → e.isBatchAbort = false) (later : Does (next (.ok ())) handlings verdict) :
      Does (.process index work next) (⟨index, result⟩ :: handlings) verdict
  | abort {index : Nat} {work : m (Except ProcessorError (List Json))} {next : Except ProcessorError Unit → BulkJob m}
      {e : ProcessorError} {handlings : List Handling} {verdict : Except ProcessorError Unit}
      (isAbort : e.isBatchAbort = true) (later : Does (next (.error e)) handlings verdict) :
      Does (.process index work next) (⟨index, .error e⟩ :: handlings) verdict
  | act {α : Type} {work : m α} {next : α → BulkJob m} {handlings : List Handling} {verdict : Except ProcessorError Unit}
      (answer : α) (later : Does (next answer) handlings verdict) : Does (.act work next) handlings verdict

omit [Monad m] [LawfulMonad m] in
/-- Processing a record to any result is one handling, after which the work goes on with what is passed on. -/
theorem BulkJob.Does.processed {index : Nat} {work : m (Except ProcessorError (List Json))}
    {next : Except ProcessorError Unit → BulkJob m} {result : Except ProcessorError (List Json)} {handlings : List Handling}
    {verdict : Except ProcessorError Unit} (later : Does (next (passed result)) handlings verdict) :
    Does (.process index work next) (⟨index, result⟩ :: handlings) verdict := by
  cases result with
  | ok outputs => exact .process nofun later
  | error e =>
    cases he : e.isBatchAbort with
    | true =>
      rw [passed, if_pos he] at later
      exact .abort he later
    | false =>
      rw [passed, if_neg (ne_true_of_eq_false he)] at later
      refine .process ?_ later
      rintro cause ⟨⟩
      exact he

/-- Work on a batch that processes its records in their order from an index on, each under its index, and ends with the first abort. -/
inductive BulkJob.TreatsEach (submit : Json → m (Except ProcessorError (List Json))) : Nat → List Json → BulkJob m → Prop where
  | done {index : Nat} : TreatsEach submit index [] (.finish (.ok ()))
  | next {index : Nat} {record : Json} {rest : List Json} {next : Except ProcessorError Unit → BulkJob m}
      (goesOn : TreatsEach submit (index + 1) rest (next (.ok ()))) (stops : ∀ e, next (.error e) = .finish (.error e)) :
      TreatsEach submit index (record :: rest) (.process index (submit record) next)

omit [Monad m] [LawfulMonad m] in
/-- A processor that treats each record on its own does so with the records of any batch. -/
theorem Processor.treatsEach_submitBatch {processor : Processor m} {name : String}
    {submit : Json → m (Except ProcessorError (List Json))} {asks : Bool} (h : processor = .ofSubmit name submit asks)
    (batch : List Json) : BulkJob.TreatsEach submit 0 batch (processor.submitBatch batch) := by
  have heach : ∀ index, BulkJob.TreatsEach submit index batch (eachRecord submit index batch) := by
    induction batch with
    | nil => exact fun index => .done
    | cons record rest ih => exact fun index => .next (ih (index + 1)) fun e => rfl
  rw [h]
  exact heach 0

/-- Work on a batch that was seen after a passage: what it did about the records, and how it ended. -/
def Passage.handling (p : Passage) (handlings : List Handling) (verdict : Except ProcessorError Unit) : Passage :=
  { p with handlings := p.handlings ++ handlings, verdict := verdict }

/-- One handling, and others after it. -/
theorem Passage.handle_handling (p : Passage) (index : Nat) (result : Except ProcessorError (List Json)) (handlings : List Handling)
    (verdict : Except ProcessorError Unit) :
    (p.handle index result).handling handlings verdict = p.handling (⟨index, result⟩ :: handlings) verdict := by
  simp [handling, handle]

/-- Whatever a bulk processor does, nothing is seen of its work but handlings of that work and the verdict that the work ends with, and
the slots it leaves behind are those of the handlings. -/
theorem BulkJob.shows_run (job : BulkJob m) (size : Nat) (p : Passage) :
    Shows (job.watched.run (p.slots size)) p fun result q =>
      ∃ handlings, job.Does handlings result.2 ∧ q = p.handling handlings result.2 ∧ result.1 = q.slots size := by
  induction job generalizing p with
  | finish verdict =>
    refine Shows.modify_bind (Shows.pure ⟨[], .finish verdict, ?_, rfl⟩)
    rw [Passage.handling, List.append_nil]
    rfl
  | emit index output next ih =>
    refine Shows.modify_bind ?_
    rw [run, ← record_emit, ← Passage.slots_handle]
    refine Shows.imp (ih (p.handle index (.ok [output]))) ?_
    rintro result q ⟨handlings, does, rfl, hslots⟩
    exact ⟨_, .emit does, p.handle_handling _ _ _ _, hslots⟩
  | fail index e next ih =>
    refine Shows.modify_bind ?_
    rw [run, ← show BulkJob.record (.error e) = fun _ => .failed e from rfl, ← Passage.slots_handle]
    refine Shows.imp (ih (p.handle index (.error e))) ?_
    rintro result q ⟨handlings, does, rfl, hslots⟩
    exact ⟨_, .fail does, p.handle_handling _ _ _ _, hslots⟩
  | process index work next ih =>
    refine Shows.noting_bind fun result => ?_
    rw [← Passage.slots_handle]
    refine Shows.imp (ih (passed result) (p.handle index result)) ?_
    rintro answer q ⟨handlings, does, rfl, hslots⟩
    exact ⟨_, .processed does, p.handle_handling _ _ _ _, hslots⟩
  | act work next ih =>
    refine Shows.lift_bind fun answer => Shows.imp (ih answer p) ?_
    rintro result q ⟨handlings, does, rfl, hslots⟩
    exact ⟨handlings, .act answer does, rfl, hslots⟩

end StepEngine
