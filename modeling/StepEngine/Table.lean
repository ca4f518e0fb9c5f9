/-!
# Table: finite maps that remember the order of first insertion

A table lists its rows with pairwise different keys. A value put at a key that is there replaces the value in its row; a new key goes
to the end. The stores, the async keys and the inputs of workflows are tables: their rows can be counted, filtered and compared as
lists, and taking the rows of one owner out leaves the others in their order.
-/

namespace StepEngine

/-- A finite map as rows with different keys. -/
structure Table (κ α : Type) where
  rows : List (κ × α)
  nodup : (rows.map (·.1)).Nodup

namespace Table

variable {κ α : Type}

/-- The table without rows. -/
def empty : Table κ α := ⟨[], List.nodup_nil⟩

instance : Inhabited (Table κ α) := ⟨empty⟩

/-- Two tables with the same rows are the same. -/
theorem ext_rows {s t : Table κ α} (h : s.rows = t.rows) : s = t := by
  cases s
  cases t
  cases h
  rfl

/-- The number of rows. -/
def size (t : Table κ α) : Nat := t.rows.length

/-- The keys, in order of first insertion. -/
def keys (t : Table κ α) : List κ := t.rows.map (·.1)

variable [DecidableEq κ]

/-- The value at a key. -/
def get? (t : Table κ α) (key : κ) : Option α := (t.rows.find? fun row => row.1 = key).map (·.2)

/-- The key has a row. -/
def contains (t : Table κ α) (key : κ) : Bool := t.rows.any fun row => row.1 = key

/-- A key without a row is none of the keys. -/
theorem not_mem_keys {t : Table κ α} {key : κ} (h : ¬ t.contains key) : key ∉ t.rows.map (·.1) := by
  intro hm
  obtain ⟨row, hrow, hkey⟩ := List.mem_map.1 hm
  exact h (List.any_eq_true.2 ⟨row, hrow, by simpa using hkey⟩)

/-- The value at a key changed; nothing happens when the key has no row. -/
def modify (t : Table κ α) (key : κ) (f : α → α) : Table κ α where
  rows := t.rows.map fun row => if row.1 = key then (row.1, f row.2) else row
  nodup := by
    have h : (fun row : κ × α => (if row.1 = key then (row.1, f row.2) else row).1) = (·.1) := by
      funext row
      split <;> rfl
    rw [List.map_map]
    simpa [Function.comp_def, h] using t.nodup

/-- A value put at a key. -/
def put (t : Table κ α) (key : κ) (value : α) : Table κ α :=
  if h : t.contains key then t.modify key fun _ => value
  else
    { rows := t.rows ++ [(key, value)]
      nodup := by
        rw [List.map_append]
        refine List.nodup_append.2 ⟨t.nodup, by simp, fun a ha b hb => ?_⟩
        rw [List.map_singleton, List.mem_singleton] at hb
        subst hb
        exact fun he => not_mem_keys h (he ▸ ha) }

/-- The rows that satisfy a condition. -/
def filter (t : Table κ α) (p : κ → α → Bool) : Table κ α where
  rows := t.rows.filter fun row => p row.1 row.2
  nodup := t.nodup.sublist (List.Sublist.map _ List.filter_sublist)

/-- The table without the row of a key. -/
def erase (t : Table κ α) (key : κ) : Table κ α := t.filter fun k _ => k ≠ key

end Table

end StepEngine
