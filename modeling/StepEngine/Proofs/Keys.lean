import StepEngine.KeyRegistry
import StepEngine.Proofs.Table

/-!
# Keys: the course of one key

A key is bound while its token is unused, it is pending until it is resolved, and it stays resolved until its workflow is forgotten.
`IsPending`, `IsResolved` and `IsSpent` name the three stages, and each operation of the registry is described by what it does to them:
a spent token is never pending again.
-/

namespace StepEngine

namespace KeyRegistry

variable {r r' : KeyRegistry} {key other : AsyncKey} {step owner : StepId} {workflow : WorkflowId} {now : Instant}
  {outcome : AsyncOutcome} {resumption : Resumption}

/-- The key is bound to the step instance and waits for its resolution. -/
def IsPending (r : KeyRegistry) (key : AsyncKey) (step : StepId) : Prop :=
  ∃ record, r.keys.get? key = some record ∧ record.step = step ∧ record.state = .pending

/-- The key is bound to the step instance and was resolved with the outcome. -/
def IsResolved (r : KeyRegistry) (key : AsyncKey) (step : StepId) (outcome : AsyncOutcome) : Prop :=
  ∃ record, r.keys.get? key = some record ∧ record.step = step ∧ record.state = outcome.keyState ∧
    record.payload = outcome.payload?

/-- The token was bound, and the key does not wait any more. -/
def IsSpent (r : KeyRegistry) (key : AsyncKey) : Prop := r.isUsed key = true ∧ ∀ step, ¬ r.IsPending key step

/-- No outcome leaves a key pending. -/
theorem keyState_ne_pending (outcome : AsyncOutcome) : outcome.keyState ≠ .pending := by
  cases outcome <;> exact nofun

/-- A key that has a record is used. -/
theorem isUsed_of_get? {record : KeyRecord} (h : r.keys.get? key = some record) : r.isUsed key = true := by
  rw [isUsed, Table.contains_of_get? h, Bool.true_or]

/-- A pending key is used. -/
theorem IsPending.isUsed (h : r.IsPending key step) : r.isUsed key = true := by
  obtain ⟨record, hget, -, -⟩ := h
  exact isUsed_of_get? hget

/-- A resolved key is spent. -/
theorem IsResolved.isSpent (h : r.IsResolved key step outcome) : r.IsSpent key := by
  obtain ⟨record, hget, -, hstate, -⟩ := h
  refine ⟨isUsed_of_get? hget, ?_⟩
  rintro owner ⟨record', hget', -, hpending⟩
  rw [Option.some.inj (hget'.symm.trans hget), hstate] at hpending
  exact keyState_ne_pending outcome hpending

/-- The status of a resolved key. -/
theorem IsResolved.status_eq (h : r.IsResolved key step outcome) :
    ∃ status, r.status key = .ok status ∧ status.step = step ∧ status.state = outcome.keyState := by
  obtain ⟨record, hget, hstep, hstate, -⟩ := h
  exact ⟨⟨record, key⟩, by rw [status, hget], hstep, hstate⟩

/-- The status of a pending key. -/
theorem IsPending.status_eq (h : r.IsPending key step) :
    ∃ status, r.status key = .ok status ∧ status.step = step ∧ status.state = .pending := by
  obtain ⟨record, hget, hstep, hstate⟩ := h
  exact ⟨⟨record, key⟩, by rw [status, hget], hstep, hstate⟩

/-! ## Binding -/

/-- An unused token has no record. -/
theorem get?_of_unused (h : r.isUsed key = false) : r.keys.get? key = none := by
  rw [isUsed, Bool.or_eq_false_iff] at h
  exact Table.get?_eq_none_iff.2 h.1

/-- Binding a key leaves the records of the others alone. -/
theorem get?_bind_other (hne : other ≠ key) : (r.bind key step now).keys.get? other = r.keys.get? other :=
  Table.get?_put_other hne

/-- The tokens that are used when a key is bound. -/
theorem isUsed_bind_iff : (r.bind key step now).isUsed other = true ↔ r.isUsed other = true ∨ other = key := by
  rw [isUsed, isUsed, bind, Table.contains_put]
  simp only [Bool.or_eq_true, decide_eq_true_eq, eq_comm (a := key), or_assoc, or_comm (b := other = key)]

/-- A key with a record is not the one that is bound to an unused token. -/
theorem ne_of_unused {record : KeyRecord} (fresh : r.isUsed key = false) (h : r.keys.get? other = some record) :
    other ≠ key := by
  rintro rfl
  rw [get?_of_unused fresh] at h
  cases h

/-- A pending key stays pending when an unused token is bound. -/
theorem IsPending.bind (h : r.IsPending other owner) (fresh : r.isUsed key = false) :
    (r.bind key step now).IsPending other owner := by
  obtain ⟨record, hget, hrest⟩ := h
  exact ⟨record, (get?_bind_other (ne_of_unused fresh hget)).trans hget, hrest⟩

/-- A resolved key stays resolved when an unused token is bound. -/
theorem IsResolved.bind (h : r.IsResolved other owner outcome) (fresh : r.isUsed key = false) :
    (r.bind key step now).IsResolved other owner outcome := by
  obtain ⟨record, hget, hrest⟩ := h
  exact ⟨record, (get?_bind_other (ne_of_unused fresh hget)).trans hget, hrest⟩

/-- A spent token stays spent when an unused token is bound. -/
theorem IsSpent.bind (h : r.IsSpent other) (fresh : r.isUsed key = false) : (r.bind key step now).IsSpent other := by
  refine ⟨isUsed_bind_iff.2 (Or.inl h.1), ?_⟩
  rintro owner ⟨record, hget, hrest⟩
  have hne : other ≠ key := by
    rintro rfl
    rw [h.1] at fresh
    cases fresh
  exact h.2 owner ⟨record, (get?_bind_other hne).symm.trans hget, hrest⟩

/-- The used tokens are those in the list of used tokens. -/
theorem mem_used_iff : key ∈ r.used ↔ r.isUsed key = true := by
  rw [used, isUsed, List.mem_append, Bool.or_eq_true, List.contains_iff_mem, Table.contains_iff_mem_keys]

/-- A key is used exactly when its token is among the texts of the used tokens. -/
theorem mem_used_texts_iff {text : String} : text ∈ r.used.map (·.token) ↔ r.isUsed ⟨text⟩ = true := by
  rw [← mem_used_iff, List.mem_map]
  exact ⟨fun ⟨_, hm, ht⟩ => ht ▸ hm, fun hm => ⟨_, hm, rfl⟩⟩

/-- The token that a source gives for a fresh binding is unused. -/
theorem isUsed_freshKey (source : TokenSource) : r.isUsed (r.freshKey source) = false :=
  Bool.eq_false_iff.2 fun h => source.pick_not_mem _ (mem_used_texts_iff.2 h)

/-! ## Resolving -/

/-- A resolution succeeds exactly for a pending key; it yields the resumption of the step that the key is bound to. -/
theorem resolve_eq_ok (h : r.resolve key outcome now = .ok (resumption, r')) :
    resumption.key = key ∧ resumption.outcome = outcome ∧ r.IsPending key resumption.step ∧
      r' = { r with keys := r.keys.modify key (KeyRecord.resolve · outcome now) } := by
  rw [resolve] at h
  split at h
  · cases h
  · rename_i record hget
    split at h
    · rename_i hpending
      cases h
      exact ⟨rfl, rfl, ⟨record, hget, rfl, hpending⟩, rfl⟩
    · cases h

/-- A pending key can be resolved. -/
theorem IsPending.resolve_eq (h : r.IsPending key step) (outcome : AsyncOutcome) (now : Instant) :
    r.resolve key outcome now =
      .ok (⟨key, step, outcome⟩, { r with keys := r.keys.modify key (KeyRecord.resolve · outcome now) }) := by
  obtain ⟨record, hget, rfl, hpending⟩ := h
  rw [resolve, hget]
  exact if_pos hpending

/-- A resolution leaves the records of the other keys alone. -/
theorem get?_resolve_other (h : r.resolve key outcome now = .ok (resumption, r')) (hne : other ≠ key) :
    r'.keys.get? other = r.keys.get? other := by
  obtain ⟨-, -, -, rfl⟩ := resolve_eq_ok h
  exact Table.get?_modify_other _ hne

/-- A key that was resolved is resolved. -/
theorem isResolved_resolve (h : r.resolve key outcome now = .ok (resumption, r')) :
    r'.IsResolved key resumption.step outcome := by
  obtain ⟨-, -, ⟨record, hget, hstep, -⟩, rfl⟩ := resolve_eq_ok h
  exact ⟨KeyRecord.resolve record outcome now, by rw [Table.get?_modify_self, hget]; rfl, hstep, rfl, rfl⟩

/-- A used token stays used through a resolution. -/
theorem isUsed_resolve (h : r.resolve key outcome now = .ok (resumption, r')) : r'.isUsed other = r.isUsed other := by
  obtain ⟨-, -, -, rfl⟩ := resolve_eq_ok h
  simp [isUsed]

/-- A spent token stays spent through a resolution, which is one of another key. -/
theorem IsSpent.resolve (h : r.IsSpent other) (hr : r.resolve key outcome now = .ok (resumption, r')) :
    other ≠ key ∧ r'.IsSpent other := by
  have hne : other ≠ key := by
    rintro rfl
    exact h.2 _ (resolve_eq_ok hr).2.2.1
  refine ⟨hne, (isUsed_resolve hr).trans h.1, ?_⟩
  rintro owner ⟨record, hget, hrest⟩
  exact h.2 owner ⟨record, (get?_resolve_other hr hne).symm.trans hget, hrest⟩

/-- A resolved key stays resolved as it was through a later resolution. -/
theorem IsResolved.resolve {first : AsyncOutcome} (h : r.IsResolved other owner first)
    (hr : r.resolve key outcome now = .ok (resumption, r')) : r'.IsResolved other owner first := by
  have hne := (h.isSpent.resolve hr).1
  obtain ⟨record, hget, hrest⟩ := h
  exact ⟨record, (get?_resolve_other hr hne).trans hget, hrest⟩

/-! ## Forgetting a workflow -/

/-- The record of a key after a workflow was forgotten. -/
theorem get?_purge :
    (r.purge workflow).keys.get? key = (r.keys.get? key).filter fun record => record.step.workflow ≠ workflow :=
  Table.get?_filter _

/-- A pending key of another workflow stays pending. -/
theorem IsPending.purge (h : r.IsPending key step) (hne : step.workflow ≠ workflow) : (r.purge workflow).IsPending key step := by
  obtain ⟨record, hget, rfl, hpending⟩ := h
  exact ⟨record, by rw [get?_purge, hget]; simp [hne], rfl, hpending⟩

/-- A resolved key of another workflow stays resolved. -/
theorem IsResolved.purge (h : r.IsResolved key step outcome) (hne : step.workflow ≠ workflow) :
    (r.purge workflow).IsResolved key step outcome := by
  obtain ⟨record, hget, rfl, hrest⟩ := h
  exact ⟨record, by rw [get?_purge, hget]; simp [hne], rfl, hrest⟩

/-- The keys of a workflow are those that are bound to its step instances. -/
theorem mem_ownedBy : key ∈ r.ownedBy workflow ↔ ∃ record, r.keys.get? key = some record ∧ record.step.workflow = workflow := by
  rw [ownedBy, Table.keys, List.mem_map]
  constructor
  · rintro ⟨⟨key, record⟩, hm, rfl⟩
    rw [Table.filter, List.mem_filter] at hm
    exact ⟨record, Table.get?_eq_some_iff.2 hm.1, by simpa using hm.2⟩
  · rintro ⟨record, hget, hw⟩
    exact ⟨(key, record), List.mem_filter.2 ⟨Table.get?_eq_some_iff.1 hget, by simpa using hw⟩, rfl⟩

/-- The used tokens stay the same: if a key is forgotten, its token is retired. -/
theorem isUsed_purge_iff : (r.purge workflow).isUsed key = true ↔ r.isUsed key = true := by
  rw [isUsed, isUsed, Bool.or_eq_true, Bool.or_eq_true]
  simp only [purge, List.contains_append, Bool.or_eq_true, List.contains_iff_mem, mem_ownedBy]
  constructor
  · rintro (h | ⟨record, hget, -⟩ | h)
    · obtain ⟨record, hget⟩ := Table.exists_of_contains h
      rw [Table.get?_filter, Option.filter_eq_some_iff] at hget
      exact Or.inl (Table.contains_of_get? hget.1)
    · exact Or.inl (Table.contains_of_get? hget)
    · exact Or.inr h
  · rintro (h | h)
    · obtain ⟨record, hget⟩ := Table.exists_of_contains h
      by_cases hw : record.step.workflow = workflow
      · exact Or.inr (Or.inl ⟨record, hget, hw⟩)
      · have hkept : (r.keys.filter fun _ record => record.step.workflow ≠ workflow).get? key = some record := by
          rw [Table.get?_filter, hget]
          simp [hw]
        exact Or.inl (Table.contains_of_get? hkept)
    · exact Or.inr (Or.inr h)

/-- A spent token stays spent. -/
theorem IsSpent.purge (h : r.IsSpent key) : (r.purge workflow).IsSpent key := by
  refine ⟨isUsed_purge_iff.2 h.1, ?_⟩
  rintro owner ⟨record, hget, hrest⟩
  rw [get?_purge, Option.filter_eq_some_iff] at hget
  exact h.2 owner ⟨record, hget.1, hrest⟩

end KeyRegistry

end StepEngine
