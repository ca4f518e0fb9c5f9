import StepEngine.Proofs.Passage.Report

/-!
# Accounting: what a batch report is worth

Three things about a batch, with any processor, any sink and both ways through a stage. The sink is offered the outputs of the records in
the order of the records, and nothing of a record that failed (`Stage.offers_in_order`). Every record is accounted for exactly once: it is
delivered, or it is among the failures, or it was skipped (`Stage.every_record_accounted`). The number of forwarded outputs, however, is
not the number of those that the sink took: it leaves out what the sink took of a record before it refused another output of the same
record (`Stage.forwarded_add_stranded`).
-/

namespace StepEngine

variable {m : Type → Type} [Monad m] [LawfulMonad m] [Journal m]

/-! ## The order of the offers -/

/-- What the sink was offered of a batch. -/
structure Stage.OffersInOrder (stage : Stage m) (batch : List Json) (passage : Passage) : Prop where
  /-- What was seen of the records is what the processor did about this batch. -/
  handed : stage.HandsOver batch passage
  /-- The outputs of the records were offered in the order of the records, those of one record in the order in which they were emitted and
  up to the first that was refused. Nothing was offered of a record that failed at any time, nor of one that the batch does not have. -/
  ordered : ∃ segment : Nat → List Offer, passage.offers = (List.range batch.length).flatMap segment ∧
    ∀ i < batch.length, Forwards (if passage.fails i then [] else passage.outputs i) (segment i)

/-- The sink is offered the outputs of the records in the order of the records, whichever way the batch goes and however the processor
ended it. -/
theorem Stage.offers_in_order (stage : Stage m) (batch : List Json) :
    stage.Always batch fun _ passage => stage.OffersInOrder batch passage :=
  always_of_report fun _ segment hsplits _ handed => ⟨handed, segment, hsplits.offers, hsplits.forwards⟩

namespace Sample

/-- Three records that are handled across their order. -/
def scattered : List Json := [.text "a", .text "b", .text "c"]

/-- Three records of which the second fails. -/
def badMiddle : List Json := [.array [.text "a", .text "b"], .text "m", .array [.text "c"]]

/-- The sink takes the first output and refuses the second. -/
def choosy : List (Except SinkError Unit) := [.ok (), .error .closed]

/-- Work across the order of the records that ends with an abort. -/
def aborting : Stage Scripted := scattering (.batchAbort "scatterer" "stop")

/-- Of the first record one output is taken and the next one refused, and then comes the third record. -/
def offered : List Offer := [⟨.text "a", .ok ()⟩, ⟨.text "b", .error .closed⟩, ⟨.text "c", .ok ()⟩]

/-- Nothing is offered of the second record, and the third comes last, when records are handled across their order and the batch is ended
with an abort, and when they are transformed one by one, be it in bulk or with each forwarded before the next. -/
theorem scattered_in_order :
    LawfulMonad Scripted ∧
      ((seen aborting scattered choosy).2.offers = offered ∧ aborting.OffersInOrder scattered (seen aborting scattered choosy).2) ∧
      ((seen (splitting true) badMiddle choosy).2.offers = offered ∧
        (splitting true).OffersInOrder badMiddle (seen (splitting true) badMiddle choosy).2) ∧
      ((seen (splitting false) badMiddle choosy).2.offers = offered ∧
        (splitting false).OffersInOrder badMiddle (seen (splitting false) badMiddle choosy).2) :=
  ⟨inferInstance, ⟨rfl, seen_of_always (Stage.offers_in_order aborting scattered) choosy⟩,
    ⟨rfl, seen_of_always (Stage.offers_in_order (splitting true) badMiddle) choosy⟩,
    ⟨rfl, seen_of_always (Stage.offers_in_order (splitting false) badMiddle) choosy⟩⟩

end Sample

/-! ## The number of forwarded outputs -/

/-- The number of outputs of a record that the sink took although it refused another one of them. -/
def strandedOf (offers : List Offer) : Nat := if (refusal? offers).isNone then 0 else offers.countP Offer.isTaken

/-- What the sink took of a record counts as forwarded, or it is stranded. -/
theorem forwardedOf_add_strandedOf (offers : List Offer) : forwardedOf offers + strandedOf offers = offers.countP Offer.isTaken := by
  rw [forwardedOf, strandedOf]
  cases h : refusal? offers with
  | some e => exact Nat.zero_add _
  | none => exact (List.countP_eq_length.2 ((Forwards.refusal?_eq_none_iff offers).1 h)).symm

/-- Nothing of a record is stranded if and only if the sink took all that it was offered of it or nothing. -/
theorem strandedOf_eq_zero_iff (offers : List Offer) :
    strandedOf offers = 0 ↔ ((∃ offer ∈ offers, offer.isTaken = false) → ∀ offer ∈ offers, offer.isTaken = false) := by
  rw [strandedOf]
  cases h : refusal? offers with
  | none =>
    have htaken := (Forwards.refusal?_eq_none_iff offers).1 h
    refine iff_of_true rfl ?_
    rintro ⟨offer, hm, hrefused⟩
    exact absurd (htaken offer hm) (ne_true_of_eq_false hrefused)
  | some e =>
    have hrefused : ∃ offer ∈ offers, offer.isTaken = false := by
      by_contra hnone
      have hall : ∀ offer ∈ offers, offer.isTaken = true := fun offer hm =>
        Bool.eq_true_of_not_eq_false fun hf => hnone ⟨offer, hm, hf⟩
      exact absurd ((Forwards.refusal?_eq_none_iff offers).2 hall) (by simp [h])
    simp [hrefused, List.countP_eq_zero]

/-- The number of forwarded outputs and the number of those that are stranded are together the number of outputs that the sink took. So
the first is the number of outputs that the sink took if and only if the sink never took an output of a record of which it refused
another one. -/
theorem Stage.forwarded_add_stranded (stage : Stage m) (batch : List Json) :
    stage.Always batch fun report passage => ∃ segment, passage.Splits batch.length segment ∧
      report.forwarded + ((List.range batch.length).map fun i => strandedOf (segment i)).sum = passage.offers.countP Offer.isTaken ∧
      (report.forwarded = passage.offers.countP Offer.isTaken ↔
        ∀ i < batch.length, (∃ offer ∈ segment i, offer.isTaken = false) → ∀ offer ∈ segment i, offer.isTaken = false) := by
  refine always_of_report fun passage segment hsplits _ _ => ⟨segment, hsplits, ?_⟩
  have hsum : (passage.report stage.name batch.length segment).forwarded +
      ((List.range batch.length).map fun i => strandedOf (segment i)).sum = passage.offers.countP Offer.isTaken := by
    calc ((List.range batch.length).map fun i => forwardedOf (segment i)).sum +
          ((List.range batch.length).map fun i => strandedOf (segment i)).sum
        = ((List.range batch.length).map fun i => forwardedOf (segment i) + strandedOf (segment i)).sum := List.sum_map_add.symm
      _ = ((List.range batch.length).map fun i => (segment i).countP Offer.isTaken).sum := by simp only [forwardedOf_add_strandedOf]
      _ = passage.offers.countP Offer.isTaken := by rw [hsplits.offers, List.countP_flatMap]; rfl
  refine ⟨hsum, ?_⟩
  calc _ ↔ ((List.range batch.length).map fun i => strandedOf (segment i)).sum = 0 := by omega
    _ ↔ ∀ i < batch.length, strandedOf (segment i) = 0 := by simp [List.sum_eq_zero_iff]
    _ ↔ _ := forall₂_congr fun i _ => strandedOf_eq_zero_iff (segment i)

namespace Sample

/-- What comes of a record with two outputs when the sink takes the first and refuses the second. -/
def stranded (bulk : Bool) : BatchReport × Passage :=
  seen (splitting bulk) [.array [.text "a", .text "b"]] [.ok (), .error .closed]

/-- The output that the sink took is stranded. -/
theorem stranded_accounted :
    LawfulMonad Scripted ∧ ∃ segment, (stranded false).2.Splits 1 segment ∧
      (stranded false).1.forwarded + ((List.range 1).map fun i => strandedOf (segment i)).sum =
        (stranded false).2.offers.countP Offer.isTaken ∧
      ((stranded false).1.forwarded = (stranded false).2.offers.countP Offer.isTaken ↔
        ∀ i < 1, (∃ offer ∈ segment i, offer.isTaken = false) → ∀ offer ∈ segment i, offer.isTaken = false) :=
  ⟨inferInstance,
    seen_of_always (Stage.forwarded_add_stranded (splitting false) [.array [.text "a", .text "b"]]) [.ok (), .error .closed]⟩

/-- Whichever way the batch goes, no output counts as forwarded although the sink took one. So the number of forwarded outputs is not
always the number of those that the sink took. -/
theorem stranded_miscounted :
    ((stranded false).1.forwarded = 0 ∧ (stranded false).2.offers.countP Offer.isTaken = 1) ∧
      ((stranded true).1.forwarded = 0 ∧ (stranded true).2.offers.countP Offer.isTaken = 1) ∧
      ¬ (splitting false).Always [.array [.text "a", .text "b"]]
        (fun report passage => report.forwarded = passage.offers.countP Offer.isTaken) ∧
      ¬ (splitting true).Always [.array [.text "a", .text "b"]]
        (fun report passage => report.forwarded = passage.offers.countP Offer.isTaken) := by
  refine ⟨⟨rfl, rfl⟩, ⟨rfl, rfl⟩, fun h => ?_, fun h => ?_⟩
  · exact absurd (seen_of_always h [.ok (), .error .closed]) (by decide)
  · exact absurd (seen_of_always h [.ok (), .error .closed]) (by decide)

end Sample

/-! ## Every record exactly once -/

namespace Passage

variable {p : Passage} {stage : String} {segment : Nat → List Offer} {index count size : Nat}

/-- A record was transformed, or nothing was done about it in a batch that goes in bulk and was not ended early, and the sink took all of
its outputs. -/
def delivers (p : Passage) (bulk : Bool) (segment : Nat → List Offer) (index : Nat) : Bool :=
  !p.fails index && (p.touches index || bulk && !p.isEnded) && (segment index).all Offer.isTaken

/-- A batch was ended early unless its verdict is a good one. -/
theorem isEnded_eq_false_iff : p.isEnded = false ↔ p.verdict = .ok () := by
  rw [isEnded]
  cases p.verdict with
  | ok => exact iff_of_true rfl rfl
  | error e => exact iff_of_false Bool.noConfusion (by simp)

/-- The indices of the failures are those of the records that have one. -/
theorem map_index_failures (indices : List Nat) :
    (p.failures stage segment indices).map (·.index) = indices.filter fun i => ((p.slot i).failure? stage (segment i)).isSome := by
  induction indices with
  | nil => rfl
  | cons index rest ih =>
    rw [failures, List.filterMap_cons, List.filter_cons]
    cases (p.slot index).failure? stage (segment index) with
    | none => exact ih
    | some e => exact congrArg (index :: ·) ih

/-- The failure of a record has the index of a record. -/
theorem index_lt_of_mem_failures {failure : RecordFailure} (h : failure ∈ p.failures stage segment (List.range size)) :
    failure.index < size := by
  have hm : failure.index ∈ (p.failures stage segment (List.range size)).map (·.index) := List.mem_map_of_mem h
  rw [map_index_failures] at hm
  exact List.mem_range.1 (List.mem_filter.1 hm).1

/-- The batch failed as a whole if and only if the processor ended it with an error that is no abort. -/
theorem mem_wholeFailure {failure : RecordFailure} :
    failure ∈ p.wholeFailure size ↔
      p.verdict = .error failure.cause ∧ failure.cause.isBatchAbort = false ∧ failure.index = size := by
  rw [wholeFailure]
  cases p.verdict with
  | ok => exact iff_of_false List.not_mem_nil (by simp)
  | error e =>
    obtain ⟨index, cause⟩ := failure
    cases he : e.isBatchAbort with
    | true =>
      refine iff_of_false (by simp [he]) ?_
      rintro ⟨hcause, habort, -⟩
      cases hcause
      exact Bool.noConfusion (he.symm.trans habort)
    | false =>
      simp only [he, Bool.false_eq_true, if_false, List.mem_singleton, RecordFailure.mk.injEq, Except.error.injEq]
      constructor
      · rintro ⟨rfl, rfl⟩
        exact ⟨rfl, he, rfl⟩
      · rintro ⟨rfl, -, rfl⟩
        exact ⟨rfl, rfl⟩

/-- A batch fails as a whole once at most. -/
theorem wholeFailure_eq {failure : RecordFailure} (h : failure ∈ p.wholeFailure size) : p.wholeFailure size = [failure] := by
  obtain ⟨hverdict, habort, rfl⟩ := mem_wholeFailure.1 h
  rw [wholeFailure, hverdict]
  exact if_neg (ne_true_of_eq_false habort)

/-- Nothing is offered for a record that is untouched, so it has no failure. -/
theorem failure?_of_untouched (hslot : p.slot index = .untouched) (hforwards : Forwards (p.slot index).outputs (segment index)) :
    (p.slot index).failure? stage (segment index) = none := by
  rw [hslot] at hforwards ⊢
  generalize segment index = offers at hforwards
  cases hforwards
  rfl

/-- The failures of some records, with the first record apart. -/
theorem failures_cons (rest : List Nat) :
    p.failures stage segment (index :: rest) =
      (((p.slot index).failure? stage (segment index)).map (RecordFailure.mk index)).toList ++ p.failures stage segment rest := by
  rw [failures, List.filterMap_cons]
  cases (p.slot index).failure? stage (segment index) <;> rfl

/-- Untouched records have no failures. -/
theorem failures_of_untouched {indices : List Nat} (huntouched : ∀ i ∈ indices, p.slot i = .untouched)
    (hforwards : ∀ i ∈ indices, Forwards (p.slot i).outputs (segment i)) : p.failures stage segment indices = [] := by
  rw [failures, List.filterMap_eq_nil_iff]
  intro i hi
  rw [failure?_of_untouched (huntouched i hi) (hforwards i hi)]
  rfl

/-- Where records went in turn, either the batch was not ended and no failure is an abort, or the last failure is the abort that ended
the batch, and all records behind it are untouched. -/
theorem InTurn.last (h : p.InTurn index count)
    (hforwards : ∀ i ∈ List.range' index count, Forwards (p.slot i).outputs (segment i)) :
    (p.isEnded = false ∧ ∀ failure ∈ p.failures stage segment (List.range' index count), failure.cause.isBatchAbort = false) ∨
      (p.isEnded = true ∧ ∃ last, (p.failures stage segment (List.range' index count)).getLast? = some last ∧
        last.cause.isBatchAbort = true ∧ last.index < index + count ∧
        (List.range' index count).countP (fun i => (p.slot i).isUntouched) = index + count - last.index - 1) := by
  induction h with
  | done verdict => exact Or.inl ⟨isEnded_eq_false_iff.2 verdict, nofun⟩
  | @next index count result slot passed later ih =>
    rw [List.range'_succ] at hforwards ⊢
    have huntouched : (p.slot index).isUntouched = false := by
      rw [slot]
      cases result <;> rfl
    obtain ⟨hended, hrest⟩ | ⟨hended, last, hlast, habort, hlt, hcount⟩ := ih (List.forall_mem_cons.1 hforwards).2
    · refine Or.inl ⟨hended, fun failure hm => ?_⟩
      rw [failures_cons, List.mem_append] at hm
      obtain hm | hm := hm
      · obtain ⟨e, he, rfl⟩ := Option.map_eq_some_iff.1 (Option.mem_toList.1 hm)
        exact BulkJob.isBatchAbort_of_passed passed (slot ▸ he)
      · exact hrest failure hm
    · -- the failures of later records are behind that of this one
      refine Or.inr ⟨hended, last, ?_, habort, by omega, ?_⟩
      · rw [failures_cons, List.getLast?_append, hlast]
        rfl
      · rw [List.countP_cons, hcount, huntouched]
        simp only [Bool.false_eq_true, if_false]
        omega
  | @abort index count e slot isAbort verdict untouched =>
    rw [List.range'_succ] at hforwards ⊢
    have hended : p.isEnded = true := by rw [isEnded, verdict]; rfl
    have hrest : ∀ i ∈ List.range' (index + 1) count, p.slot i = .untouched := fun i hi => untouched i (List.mem_range'_1.1 hi).1
    have hcount : (List.range' (index + 1) count).countP (fun i => (p.slot i).isUntouched) = count := by
      rw [List.countP_eq_length.2 fun i hi => by rw [hrest i hi]; rfl, List.length_range']
    refine Or.inr ⟨hended, ⟨index, e⟩, ?_, isAbort, Nat.lt_add_of_pos_right (Nat.succ_pos count), ?_⟩
    · rw [failures_cons, failures_of_untouched hrest (List.forall_mem_cons.1 hforwards).2, slot]
      rfl
    · rw [List.countP_cons, hcount, slot]
      simp [RecordSlot.isUntouched]

/-- Where records went in turn and the batch was not ended, something was done about each of them. -/
theorem InTurn.touches (h : p.InTurn index count) (hended : p.isEnded = false) :
    ∀ i ∈ List.range' index count, p.touches i = true := by
  induction h with
  | done verdict => exact nofun
  | @next index count result slot passed later ih =>
    rw [List.range'_succ]
    have huntouched : (!p.touches index) = false := by
      rw [← isUntouched_slot, slot]
      cases result <;> rfl
    exact List.forall_mem_cons.2 ⟨by simpa using huntouched, ih⟩
  | abort slot isAbort verdict untouched =>
    rw [isEnded_eq_false_iff.1 hended] at verdict
    cases verdict

/-- The failure that is put down for a record: its own, or else the refusal of the sink. -/
theorem failure?_slot (p : Passage) (index : Nat) (offers : List Offer) :
    (p.slot index).failure? stage offers = (p.failure? index).or ((refusal? offers).map (.sinkRejected stage)) := by
  rw [slot]
  cases p.failure? index with
  | some e => rfl
  | none => cases p.touches index <;> rfl

/-- A record has a failure on the report if it failed, or if the sink did not take all that it was offered of it. -/
theorem isSome_failure?_slot (p : Passage) (index : Nat) (offers : List Offer) :
    ((p.slot index).failure? stage offers).isSome = (p.fails index || !offers.all Offer.isTaken) := by
  have hrefusal : (refusal? offers).isSome = !offers.all Offer.isTaken := by
    rw [Bool.eq_iff_iff, Option.isSome_iff_ne_none, Ne, Forwards.refusal?_eq_none_iff]
    simp
  rw [failure?_slot, Option.isSome_or, Option.isSome_map, isSome_failure?, hrefusal]

/-- Each record of a batch is skipped, or it has a failure on the report, or it is delivered, and it is never two of these. -/
theorem once {bulk : Bool} (hsplits : p.Splits size segment) (hturn : bulk = false → p.InTurn 0 size) (hindex : index < size) :
    (p.isEnded && (p.slot index).isUntouched).toNat + ((p.slot index).failure? stage (segment index)).isSome.toNat +
      (p.delivers bulk segment index).toNat = 1 := by
  have hfails : p.touches index = false → p.fails index = false := fun h =>
    Bool.eq_false_iff.2 fun hf => ne_true_of_eq_false h (touches_of_fails hf)
  have htaken : p.touches index = false → (segment index).all Offer.isTaken = true := by
    intro h
    have hforwards := hsplits.forwards index hindex
    rw [due, outputs_of_untouched h, ite_self] at hforwards
    generalize segment index = offers at hforwards
    cases hforwards
    rfl
  have htouches : bulk = false → p.isEnded = false → p.touches index = true := fun hbulk hended =>
    (hturn hbulk).touches hended index (by simp [hindex])
  rw [isSome_failure?_slot, isUntouched_slot, delivers]
  -- what is left is about five truth values
  clear hturn
  revert hfails htaken htouches
  generalize p.touches index = touches, p.fails index = fails, (segment index).all Offer.isTaken = taken, p.isEnded = ended
  revert touches fails taken ended bulk
  decide

/-- The failures on the report that have the index of a record. -/
theorem filter_lt_failures_report (p : Passage) :
    (p.report stage size segment).failures.filter (·.index < size) = p.failures stage segment (List.range size) := by
  have hwhole : (p.wholeFailure size).filter (·.index < size) = [] := by
    rw [List.filter_eq_nil_iff]
    intro failure hm
    rw [(mem_wholeFailure.1 hm).2.2]
    simp
  have hrecords : (p.failures stage segment (List.range size)).filter (·.index < size) = p.failures stage segment (List.range size) :=
    List.filter_eq_self.2 fun failure hm => decide_eq_true (index_lt_of_mem_failures hm)
  rw [report, List.filter_append, hwhole, hrecords, List.nil_append]

/-- The failures on the report that have the index behind the last record. -/
theorem filter_eq_failures_report (p : Passage) :
    (p.report stage size segment).failures.filter (·.index = size) = p.wholeFailure size := by
  have hwhole : (p.wholeFailure size).filter (·.index = size) = p.wholeFailure size :=
    List.filter_eq_self.2 fun failure hm => decide_eq_true (mem_wholeFailure.1 hm).2.2
  have hrecords : (p.failures stage segment (List.range size)).filter (·.index = size) = [] := by
    rw [List.filter_eq_nil_iff]
    intro failure hm
    simpa using Nat.ne_of_lt (index_lt_of_mem_failures hm)
  rw [report, List.filter_append, hwhole, hrecords, List.append_nil]

/-- What the report has among the failures of a record. -/
theorem mem_failures_report {e : ProcessorError} (hindex : index < size) :
    ⟨index, e⟩ ∈ (p.report stage size segment).failures ↔
      (p.failure? index).or ((refusal? (segment index)).map (.sinkRejected stage)) = some e := by
  have hfilter : ⟨index, e⟩ ∈ (p.report stage size segment).failures ↔
      ⟨index, e⟩ ∈ (p.report stage size segment).failures.filter (·.index < size) := by simp [hindex]
  rw [hfilter, filter_lt_failures_report, failures, List.mem_filterMap, ← failure?_slot]
  constructor
  · rintro ⟨i, -, hi⟩
    obtain ⟨cause, hcause, heq⟩ := Option.map_eq_some_iff.1 hi
    cases heq
    exact hcause
  · intro hcause
    exact ⟨index, List.mem_range.2 hindex, by rw [hcause]; rfl⟩

/-- A failure on the report behind the last record is that of the batch as a whole. -/
theorem mem_wholeFailure_of_report {failure : RecordFailure} (hm : failure ∈ (p.report stage size segment).failures)
    (hindex : failure.index = size) : failure ∈ p.wholeFailure size := by
  rw [← filter_eq_failures_report, List.mem_filter]
  exact ⟨hm, decide_eq_true hindex⟩

end Passage

/-- Where exactly one of three things is the case with each, their numbers add up to all. -/
theorem countP_add_of_once {α : Type} {a b c : α → Bool} {l : List α} (h : ∀ x ∈ l, (a x).toNat + (b x).toNat + (c x).toNat = 1) :
    l.countP a + l.countP b + l.countP c = l.length := by
  induction l with
  | nil => rfl
  | cons x rest ih =>
    obtain ⟨hx, hrest⟩ := List.forall_mem_cons.1 h
    have hcount (d : α → Bool) : (x :: rest).countP d = rest.countP d + (d x).toNat := by
      rw [List.countP_cons]
      cases d x <;> rfl
    rw [hcount, hcount, hcount, List.length_cons, ← ih hrest, ← hx]
    omega

/-- A report accounts for every record of a batch, by what was seen of it. -/
structure Stage.Accounts (stage : Stage m) (batch : List Json) (report : BatchReport) (passage : Passage) : Prop where
  /-- What was seen of the records is what the processor did about this batch. -/
  handed : stage.HandsOver batch passage
  submitted : report.submitted = batch.length
  /-- No record has two failures, and they are in the order of the records. -/
  increasing : ((report.failures.filter (·.index < batch.length)).map (·.index)).Pairwise (· < ·)
  /-- Every failure is that of a record or of the batch as a whole. -/
  bounded : ∀ failure ∈ report.failures, failure.index ≤ batch.length
  /-- The batch failed as a whole if and only if a bulk processor ended it with an error that is no abort. -/
  whole : (∃ failure ∈ report.failures, failure.index = batch.length) ↔
    stage.supportsBulk = true ∧ ∃ e, passage.verdict = .error e ∧ e.isBatchAbort = false
  /-- It failed as a whole once at most. -/
  wholeOnce : ∀ failure ∈ report.failures, failure.index = batch.length →
    report.failures.filter (·.index = batch.length) = [failure] ∧ passage.verdict = .error failure.cause
  /-- Record by record, a batch is aborted by its last failure. -/
  aborted : stage.supportsBulk = false →
    (report.aborted = true ↔ ∃ last, report.failures.getLast? = some last ∧ last.cause.isBatchAbort = true)
  /-- What is behind that failure is skipped. -/
  skipped : stage.supportsBulk = false → ∀ last, report.failures.getLast? = some last → last.cause.isBatchAbort = true →
    last.index < batch.length ∧ report.skipped = batch.length - last.index - 1
  /-- A record is skipped, or it has a failure, which is its own or else a refusal of the sink, or all its outputs reached the sink. -/
  delivered : ∃ segment, passage.Splits batch.length segment ∧
    (∀ i < batch.length, ∀ e, ⟨i, e⟩ ∈ report.failures ↔
      (passage.failure? i).or ((refusal? (segment i)).map (.sinkRejected stage.name)) = some e) ∧
    (∀ i < batch.length, passage.delivers stage.supportsBulk segment i = true → (segment i).map (·.record) = passage.outputs i) ∧
    report.skipped + (report.failures.filter (·.index < batch.length)).length +
      (List.range batch.length).countP (passage.delivers stage.supportsBulk segment) = batch.length
  /-- A clean report has nothing to account for. -/
  clean : report.isClean = true ↔ report.failures = [] ∧ report.skipped = 0 ∧ passage.verdict = .ok ()

namespace Passage

variable {p : Passage} {stage : String} {segment : Nat → List Offer} {size : Nat} {bulk : Bool}

/-- The skipped records, the failures of records and the delivered records are as many as the batch has records. -/
theorem skipped_add_failures_add_delivered (hsplits : p.Splits size segment) (hturn : bulk = false → p.InTurn 0 size) :
    (p.report stage size segment).skipped + ((p.report stage size segment).failures.filter (·.index < size)).length +
      (List.range size).countP (p.delivers bulk segment) = size := by
  have hskipped : (p.report stage size segment).skipped = (List.range size).countP fun i => p.isEnded && (p.slot i).isUntouched := by
    rw [report]
    cases p.isEnded with
    | true => rfl
    | false => exact (List.countP_eq_zero.2 (by simp)).symm
  have hfailures : (p.failures stage segment (List.range size)).length =
      (List.range size).countP fun i => ((p.slot i).failure? stage (segment i)).isSome := by
    rw [← List.length_map (·.index), map_index_failures, List.countP_eq_length_filter]
  rw [filter_lt_failures_report, hskipped, hfailures]
  refine (countP_add_of_once fun i hi => once hsplits hturn (List.mem_range.1 hi)).trans List.length_range

/-- On the report of a batch that went record by record, either no failure is an abort, or the last one is, and it ended the batch. -/
theorem InTurn.last_report (stage : String) (hturn : p.InTurn 0 size) (hsplits : p.Splits size segment) :
    ((p.report stage size segment).aborted = false ∧
        ∀ last, (p.report stage size segment).failures.getLast? = some last → last.cause.isBatchAbort = false) ∨
      ((p.report stage size segment).aborted = true ∧ ∃ last, (p.report stage size segment).failures.getLast? = some last ∧
        last.cause.isBatchAbort = true ∧ last.index < size ∧ (p.report stage size segment).skipped = size - last.index - 1) := by
  have hfailures : (p.report stage size segment).failures = p.failures stage segment (List.range' 0 size) := by
    rw [report, hturn.wholeFailure, List.nil_append, List.range_eq_range']
  have hforwards : ∀ i ∈ List.range' 0 size, Forwards (p.slot i).outputs (segment i) := fun i hi => by
    rw [outputs_slot]
    exact hsplits.forwards i (by simpa using hi)
  rw [hfailures]
  obtain ⟨hended, hnone⟩ | ⟨hended, last, hlast, habort, hlt, hcount⟩ := hturn.last hforwards
  · exact Or.inl ⟨hended, fun last hlast => hnone last (List.mem_of_getLast? hlast)⟩
  · rw [Nat.zero_add] at hlt hcount
    refine Or.inr ⟨hended, last, hlast, habort, hlt, ?_⟩
    rw [report, hended, if_pos rfl, List.range_eq_range']
    exact hcount

/-- All outputs of a delivered record were offered. -/
theorem map_record_of_delivers {index : Nat} (hsplits : p.Splits size segment) (hindex : index < size)
    (h : p.delivers bulk segment index = true) : (segment index).map (·.record) = p.outputs index := by
  simp only [delivers, Bool.and_eq_true, Bool.not_eq_true'] at h
  have hforwards := hsplits.forwards index hindex
  rw [due, h.1.1, if_neg Bool.false_ne_true] at hforwards
  exact hforwards.map_record (List.all_eq_true.1 h.2)

omit [Monad m] [LawfulMonad m] [Journal m] in
/-- The report of what was seen of a batch accounts for it. -/
theorem accounts_report {stage : Stage m} {batch : List Json} (hsplits : p.Splits batch.length segment)
    (hturn : stage.supportsBulk = false → p.InTurn 0 batch.length) (handed : stage.HandsOver batch p) :
    stage.Accounts batch (p.report stage.name batch.length segment) p where
  handed := handed
  submitted := rfl
  increasing := by
    rw [filter_lt_failures_report, map_index_failures]
    exact List.pairwise_lt_range.filter _
  bounded failure hm := by
    obtain hm | hm := List.mem_append.1 hm
    · exact Nat.le_of_eq (mem_wholeFailure.1 hm).2.2
    · exact Nat.le_of_lt (index_lt_of_mem_failures hm)
  whole := by
    constructor
    · rintro ⟨failure, hm, hindex⟩
      have hwhole := mem_wholeFailure_of_report hm hindex
      obtain ⟨hverdict, habort, -⟩ := mem_wholeFailure.1 hwhole
      refine ⟨Bool.eq_true_of_not_eq_false fun hbulk => ?_, failure.cause, hverdict, habort⟩
      rw [(hturn hbulk).wholeFailure] at hwhole
      exact List.not_mem_nil hwhole
    · rintro ⟨-, e, hverdict, habort⟩
      exact ⟨⟨batch.length, e⟩, List.mem_append_left _ (mem_wholeFailure.2 ⟨hverdict, habort, rfl⟩), rfl⟩
  wholeOnce failure hm hindex := by
    have hwhole := mem_wholeFailure_of_report hm hindex
    rw [filter_eq_failures_report]
    exact ⟨wholeFailure_eq hwhole, (mem_wholeFailure.1 hwhole).1⟩
  aborted hbulk := by
    obtain ⟨haborted, hnone⟩ | ⟨haborted, last, hlast, habort, -⟩ := (hturn hbulk).last_report stage.name hsplits
    · rw [haborted]
      refine iff_of_false nofun ?_
      rintro ⟨last, hlast, habort⟩
      exact ne_true_of_eq_false (hnone last hlast) habort
    · exact iff_of_true haborted ⟨last, hlast, habort⟩
  skipped hbulk last hlast habort := by
    obtain ⟨-, hnone⟩ | ⟨-, last', hlast', -, hlt, hskipped⟩ := (hturn hbulk).last_report stage.name hsplits
    · exact absurd habort (ne_true_of_eq_false (hnone last hlast))
    · cases Option.some.inj (hlast.symm.trans hlast')
      exact ⟨hlt, hskipped⟩
  delivered := ⟨segment, hsplits, fun i hi e => mem_failures_report hi, fun i hi => map_record_of_delivers hsplits hi,
    skipped_add_failures_add_delivered hsplits hturn⟩
  clean := by
    rw [BatchReport.isClean, Bool.and_eq_true, List.isEmpty_iff, ← isEnded_eq_false_iff]
    refine and_congr_right fun _ => ?_
    show (!p.isEnded) = true ↔ _
    cases hended : p.isEnded with
    | true => exact iff_of_false nofun nofun
    | false => exact iff_of_true rfl ⟨by rw [report, hended]; rfl, rfl⟩

end Passage

/-- Every record of a batch is accounted for exactly once, whatever the processor and the sink do and whichever way the batch goes. -/
theorem Stage.every_record_accounted (stage : Stage m) (batch : List Json) : stage.Always batch (stage.Accounts batch) :=
  always_of_report fun _ _ hsplits hturn handed => Passage.accounts_report hsplits hturn handed

namespace Sample

/-- Four records of which the second fails and the third ends the batch. -/
def cutShort : List Json := [.array [.text "a"], .text "b", .null, .array []]

/-- Work across the order of the records that ends with an error about the batch as a whole. -/
def failing : Stage Scripted := scattering (.recordFailed "scatterer" "lost")

/-- Record by record, the first record is delivered, the second and the third fail, and the fourth is skipped. In bulk it is the same. When
the batch fails as a whole behind the last of three records, the first record is delivered nevertheless, the second failed, and the third
is refused by the sink. -/
theorem cutShort_accounted :
    LawfulMonad Scripted ∧
      ((seen (splitting false) cutShort []).1.failures.map (·.index) = [1, 2] ∧ (seen (splitting false) cutShort []).1.skipped = 1 ∧
        (splitting false).Accounts cutShort (seen (splitting false) cutShort []).1 (seen (splitting false) cutShort []).2) ∧
      ((seen (splitting true) cutShort []).1.failures.map (·.index) = [1, 2] ∧ (seen (splitting true) cutShort []).1.skipped = 1 ∧
        (splitting true).Accounts cutShort (seen (splitting true) cutShort []).1 (seen (splitting true) cutShort []).2) ∧
      ((seen failing scattered [.ok (), .ok (), .error .closed]).1.failures.map (·.index) = [3, 1, 2] ∧
        failing.Accounts scattered (seen failing scattered [.ok (), .ok (), .error .closed]).1
          (seen failing scattered [.ok (), .ok (), .error .closed]).2) :=
  ⟨inferInstance, ⟨rfl, rfl, seen_of_always (Stage.every_record_accounted (splitting false) cutShort) []⟩,
    ⟨rfl, rfl, seen_of_always (Stage.every_record_accounted (splitting true) cutShort) []⟩,
    ⟨rfl, seen_of_always (Stage.every_record_accounted failing scattered) [.ok (), .ok (), .error .closed]⟩⟩

end Sample

end StepEngine
