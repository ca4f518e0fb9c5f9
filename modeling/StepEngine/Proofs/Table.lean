import Mathlib.Data.List.Nodup
import StepEngine.Table

/-!
# Table: looking up after each change

A table is seen through `get?`. Each operation has its equation here: a value put at a key is found there and nowhere else, a
modification reaches one key, and a filter hides the rows that do not satisfy it.
-/

namespace StepEngine

namespace Table

variable {κ α : Type} [DecidableEq κ] {t : Table κ α} {key other : κ} {value : α}

/-- The row of a key. -/
theorem get?_eq_some_iff : t.get? key = some value ↔ (key, value) ∈ t.rows := by
  rw [get?, Option.map_eq_some_iff]
  constructor
  · rintro ⟨⟨k, v⟩, hfind, rfl⟩
    have hkey : k = key := by simpa using List.find?_some hfind
    exact hkey ▸ List.mem_of_find?_eq_some hfind
  · intro hm
    cases hfind : t.rows.find? fun row => row.1 = key with
    | none =>
      have := List.find?_eq_none.1 hfind (key, value) hm
      simp at this
    | some row =>
      refine ⟨row, rfl, ?_⟩
      have hkey : row.1 = key := by simpa using List.find?_some hfind
      have heq := List.inj_on_of_nodup_map t.nodup (List.mem_of_find?_eq_some hfind) hm hkey
      rw [heq]

/-- A key that nothing is found at has no row. -/
theorem get?_eq_none_iff : t.get? key = none ↔ t.contains key = false := by
  rw [get?, Option.map_eq_none_iff, List.find?_eq_none, contains, List.any_eq_false]

/-- A key at which something is found has a row. -/
theorem contains_of_get? (h : t.get? key = some value) : t.contains key = true := by
  cases hc : t.contains key with
  | true => rfl
  | false =>
    rw [get?_eq_none_iff.2 hc] at h
    cases h

/-- At a key that has a row something is found. -/
theorem exists_of_contains (h : t.contains key = true) : ∃ value, t.get? key = some value := by
  cases hget : t.get? key with
  | some value => exact ⟨value, rfl⟩
  | none =>
    rw [get?_eq_none_iff.1 hget] at h
    cases h

/-- The keys with a row are those in the list of keys. -/
theorem contains_iff_mem_keys : t.contains key = true ↔ key ∈ t.keys := by
  simp only [contains, keys, List.any_eq_true, List.mem_map, decide_eq_true_eq]

/-- A key has a row exactly when something is found at it. -/
theorem contains_eq_isSome : t.contains key = (t.get? key).isSome := by
  cases hget : t.get? key with
  | none => exact get?_eq_none_iff.1 hget
  | some value => exact contains_of_get? hget

/-- Nothing is found in the empty table. -/
@[simp] theorem get?_empty : (empty : Table κ α).get? key = none := rfl

/-- A modified value is found at its key. -/
theorem get?_modify_self (f : α → α) : (t.modify key f).get? key = (t.get? key).map f := by
  rw [get?, get?, modify, List.find?_map, Option.map_map, Option.map_map]
  have hkeys : (fun row : κ × α => decide (row.1 = key)) ∘ (fun row => if row.1 = key then (row.1, f row.2) else row) =
      fun row => decide (row.1 = key) := by
    funext row
    simp only [Function.comp_apply]
    split <;> rfl
  rw [hkeys]
  cases h : t.rows.find? fun row => row.1 = key with
  | none => rfl
  | some row =>
    have hrow : row.1 = key := by simpa using List.find?_some h
    simp [hrow]

/-- A modification leaves the other keys alone. -/
theorem get?_modify_other (f : α → α) (hne : other ≠ key) : (t.modify key f).get? other = t.get? other := by
  rw [get?, get?, modify, List.find?_map, Option.map_map]
  have hkeys : (fun row : κ × α => decide (row.1 = other)) ∘ (fun row => if row.1 = key then (row.1, f row.2) else row) =
      fun row => decide (row.1 = other) := by
    funext row
    simp only [Function.comp_apply]
    split <;> rfl
  rw [hkeys]
  cases h : t.rows.find? fun row => row.1 = other with
  | none => rfl
  | some row =>
    have hrow : row.1 = other := by simpa using List.find?_some h
    simp [hrow, hne]

/-- A value is found at the key at which it was put. -/
theorem get?_put_self : (t.put key value).get? key = some value := by
  rw [put]
  split
  · rename_i hc
    rw [get?_modify_self]
    cases h : t.get? key with
    | none => rw [get?_eq_none_iff.1 h] at hc; cases hc
    | some v => rfl
  · exact get?_eq_some_iff.2 (List.mem_append_right _ (List.mem_singleton_self _))

/-- Putting a value leaves the other keys alone. -/
theorem get?_put_other (hne : other ≠ key) : (t.put key value).get? other = t.get? other := by
  rw [put]
  split
  · exact get?_modify_other _ hne
  · rw [get?, List.find?_append, get?]
    simp [Ne.symm hne]

/-- A row of a table in which a value was put is that of the value or one that was there. -/
theorem mem_put {row : κ × α} (h : row ∈ (t.put key value).rows) : row ∈ t.rows ∨ row = (key, value) := by
  rw [put] at h
  split at h
  · obtain ⟨old, hold, rfl⟩ := List.mem_map.1 h
    by_cases hkey : old.1 = key
    · rw [if_pos hkey, hkey]
      exact Or.inr rfl
    · rw [if_neg hkey]
      exact Or.inl hold
  · simpa using h

/-- Putting the value that is there changes nothing. -/
theorem put_of_get? (h : t.get? key = some value) : t.put key value = t := by
  have hrow := get?_eq_some_iff.1 h
  have hsame : ∀ row ∈ t.rows, (if row.1 = key then (row.1, value) else row) = row := by
    intro row hmem
    split
    · rename_i hkey
      rw [List.inj_on_of_nodup_map t.nodup hmem hrow hkey]
    · rfl
  rw [put, dif_pos (contains_of_get? h)]
  exact ext_rows ((List.map_congr_left hsame).trans (List.map_id _))

/-- A filter hides the rows that do not satisfy it. -/
theorem get?_filter (p : κ → α → Bool) : (t.filter p).get? key = (t.get? key).filter (p key) := by
  cases h : (t.filter p).get? key with
  | some v =>
    have hm := get?_eq_some_iff.1 h
    rw [filter, List.mem_filter] at hm
    rw [get?_eq_some_iff.2 hm.1, Option.filter_some, if_pos hm.2]
  | none =>
    cases ht : t.get? key with
    | none => rfl
    | some v =>
      rw [Option.filter_some, if_neg]
      intro hp
      have hm : (key, v) ∈ (t.filter p).rows := List.mem_filter.2 ⟨get?_eq_some_iff.1 ht, hp⟩
      rw [get?_eq_some_iff.2 hm] at h
      cases h

/-- A key has a row after a modification exactly when it had one before. -/
@[simp] theorem contains_modify (f : α → α) : (t.modify key f).contains other = t.contains other := by
  rw [contains, modify, List.any_map, contains]
  congr 1
  funext row
  simp only [Function.comp_apply]
  split <;> rfl

/-- The keys with a row after a value was put. -/
theorem contains_put : (t.put key value).contains other = (t.contains other || decide (key = other)) := by
  rw [put]
  split
  · rename_i hc
    rw [contains_modify]
    by_cases hk : key = other
    · rw [← hk, hc, Bool.true_or]
    · simp [hk]
  · simp [contains]

end Table

end StepEngine
