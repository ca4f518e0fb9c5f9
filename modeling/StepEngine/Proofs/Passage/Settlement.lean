import StepEngine.Proofs.Passage.Forwarding
import StepEngine.Proofs.Passage.Handlings

/-!
# Settlement: records on the report

The records of a batch are settled one after the other: by its slot and by the offers that were made for it, a record is put down as a
failure, adds to what was forwarded, or counts as skipped. `BatchReport.settle` says at once what comes of many records. Settling them
one by one comes to the same (`Settles.cons`), and it does not matter for a record what became of the others.
-/

namespace StepEngine

/-- The number of outputs that count as forwarded: all of them, or none if one was refused. -/
def forwardedOf (offers : List Offer) : Nat := if (refusal? offers).isNone then offers.length else 0

/-- The failure of a record, by its slot and by the offers that were made for it. -/
def RecordSlot.failure? (stage : String) (slot : RecordSlot) (offers : List Offer) : Option ProcessorError :=
  match slot with
  | failed e => some e
  | _ => (refusal? offers).map (.sinkRejected stage)

/-- Some records settled, one after the other. Untouched ones count as skipped if the batch was ended early. -/
def BatchReport.settle (r : BatchReport) (stage : String) (ended : Bool) (slot : Nat → RecordSlot) (segment : Nat → List Offer)
    (indices : List Nat) : BatchReport :=
  { r with
    forwarded := r.forwarded + (indices.map fun i => forwardedOf (segment i)).sum
    failures := r.failures ++ indices.filterMap fun i => ((slot i).failure? stage (segment i)).map (RecordFailure.mk i)
    skipped := r.skipped + if ended then indices.countP fun i => (slot i).isUntouched else 0 }

/-! ## Settling records -/

namespace BatchReport

variable {r : BatchReport} {stage : String} {ended : Bool} {slot slot' : Nat → RecordSlot} {segment segment' : Nat → List Offer}
  {index : Nat} {rest indices : List Nat}

/-- No records change nothing. -/
theorem settle_nil (r : BatchReport) : r.settle stage ended slot segment [] = r := by
  cases r
  simp [settle]

/-- The first record is settled first. -/
theorem settle_cons (r : BatchReport) :
    r.settle stage ended slot segment (index :: rest) =
      (r.settle stage ended slot segment [index]).settle stage ended slot segment rest := by
  cases r
  simp only [settle, List.map_cons, List.sum_cons, List.map_nil, List.sum_nil, List.filterMap_cons, List.filterMap_nil, List.countP_cons,
    List.countP_nil]
  cases (slot index).failure? stage (segment index) <;> cases ended <;> simp <;> omega

/-- Only the slots and the offers of the records themselves matter. -/
theorem settle_congr (hslot : ∀ i ∈ indices, slot i = slot' i) (hsegment : ∀ i ∈ indices, segment i = segment' i) :
    r.settle stage ended slot segment indices = r.settle stage ended slot' segment' indices := by
  have hmap : indices.map (fun i => forwardedOf (segment i)) = indices.map fun i => forwardedOf (segment' i) :=
    List.map_congr_left fun i hi => by rw [hsegment i hi]
  have hfailures : indices.filterMap (fun i => ((slot i).failure? stage (segment i)).map (RecordFailure.mk i)) =
      indices.filterMap fun i => ((slot' i).failure? stage (segment' i)).map (RecordFailure.mk i) :=
    List.filterMap_congr fun i hi => by rw [hslot i hi, hsegment i hi]
  have hcount : indices.countP (fun i => (slot i).isUntouched) = indices.countP fun i => (slot' i).isUntouched :=
    List.countP_congr fun i hi => by rw [hslot i hi]
  rw [settle, settle, hmap, hfailures, hcount]

end BatchReport

/-- Some records were settled by their slots and by these offers, which are those for each record, one after the other. -/
def Settles (stage : String) (ended : Bool) (slot : Nat → RecordSlot) (indices : List Nat) (before : BatchReport) (offers : List Offer)
    (after : BatchReport) : Prop :=
  ∃ segment, (∀ i ∈ indices, Forwards (slot i).outputs (segment i)) ∧ offers = indices.flatMap segment ∧
    after = before.settle stage ended slot segment indices

namespace Settles

variable {stage : String} {ended : Bool} {slot : Nat → RecordSlot} {index : Nat} {rest indices : List Nat}
  {before after : BatchReport} {offers later : List Offer}

/-- No records and no offers change nothing. -/
theorem nil : Settles stage ended slot [] before [] before :=
  ⟨fun _ => [], nofun, rfl, (BatchReport.settle_nil before).symm⟩

/-- One record settled by its offers, and others after it. -/
theorem cons (hindex : index ∉ rest) (hforwards : Forwards (slot index).outputs offers)
    (hrest : Settles stage ended slot rest (before.settle stage ended slot (fun _ => offers) [index]) later after) :
    Settles stage ended slot (index :: rest) before (offers ++ later) after := by
  obtain ⟨segment, hlater, rfl, rfl⟩ := hrest
  have hne : ∀ i ∈ rest, segment i = Function.update segment index offers i := by
    intro i hi
    rw [Function.update_of_ne (ne_of_mem_of_not_mem hi hindex)]
  refine ⟨Function.update segment index offers, List.forall_mem_cons.2 ⟨?_, fun i hi => hne i hi ▸ hlater i hi⟩, ?_, ?_⟩
  · rw [Function.update_self]
    exact hforwards
  · rw [List.flatMap_cons, Function.update_self, List.flatMap_congr hne]
  · have hone : before.settle stage ended slot (fun _ => offers) [index] =
        before.settle stage ended slot (Function.update segment index offers) [index] := by
      refine BatchReport.settle_congr (fun _ _ => rfl) fun i hi => ?_
      rw [List.mem_singleton.1 hi, Function.update_self]
    rw [hone, BatchReport.settle_congr (fun _ _ => rfl) hne]
    exact (BatchReport.settle_cons before).symm

/-- Untouched records are offered nothing, and all of them count as skipped if the batch was ended early. -/
theorem untouched (h : ∀ i ∈ indices, slot i = .untouched) :
    Settles stage ended slot indices before [] { before with skipped := before.skipped + if ended then indices.length else 0 } := by
  have hcount : indices.countP (fun i => (slot i).isUntouched) = indices.length := by
    rw [List.countP_eq_length]
    intro i hi
    rw [h i hi]
    rfl
  have hfailures : indices.filterMap (fun i => ((slot i).failure? stage []).map (RecordFailure.mk i)) = [] := by
    rw [List.filterMap_eq_nil_iff]
    intro i hi
    rw [h i hi]
    rfl
  refine ⟨fun _ => [], fun i hi => h i hi ▸ .done, (List.flatMap_eq_nil_iff.2 fun _ _ => rfl).symm, ?_⟩
  simp [BatchReport.settle, hcount, hfailures, forwardedOf]

end Settles

/-! ## Settling one record -/

namespace BatchReport

variable {r : BatchReport} {stage : String} {ended : Bool} {slot : Nat → RecordSlot} {offers : List Offer} {index : Nat}

/-- A record with a failure is put down among the failures. -/
theorem settle_failure {e : ProcessorError} (hslot : (slot index).isUntouched = false)
    (h : (slot index).failure? stage offers = some e) (hforwarded : forwardedOf offers = 0) :
    r.settle stage ended slot (fun _ => offers) [index] = r.fail index e := by
  simp [settle, fail, h, hforwarded, hslot]

/-- A record without a failure adds to what was forwarded. -/
theorem settle_forward (hslot : (slot index).isUntouched = false) (h : (slot index).failure? stage offers = none) :
    r.settle stage ended slot (fun _ => offers) [index] = r.forward (forwardedOf offers) := by
  simp [settle, forward, h, hslot]

/-- An untouched record counts as skipped if the batch was ended early. -/
theorem settle_untouched (h : slot index = .untouched) :
    r.settle stage ended slot (fun _ => []) [index] = if ended then { r with skipped := r.skipped + 1 } else r := by
  cases r
  cases ended <;> simp [settle, h, RecordSlot.failure?, RecordSlot.isUntouched, refusal?, forwardedOf]

end BatchReport

/-- Offers with a refusal among them do not count as forwarded. -/
theorem forwardedOf_refused {offers : List Offer} {e : SinkError} (h : refusal? offers = some e) : forwardedOf offers = 0 := by
  rw [forwardedOf, h]
  rfl

/-- Offers without a refusal are as many as the outputs. -/
theorem Forwards.forwardedOf_eq {outputs : List Json} {offers : List Offer} (h : Forwards outputs offers)
    (hnone : refusal? offers = none) : forwardedOf offers = outputs.length := by
  rw [forwardedOf, hnone, ← h.map_record ((refusal?_eq_none_iff offers).1 hnone), List.length_map]
  rfl

end StepEngine
