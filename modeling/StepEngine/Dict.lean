/-!
# Dict: string-keyed maps in key order

A dictionary lists its entries by strictly increasing key, compared by code point. The order makes the list of entries
canonical: it does not tell in which order they were put. Objects of a data document, the data of a step and the parameters
of a stage all have this shape.
-/

namespace StepEngine

namespace Entries

/-- Entries by strictly increasing key. -/
def Sorted {α : Type} (entries : List (String × α)) : Prop :=
  entries.Pairwise fun a b => a.1 < b.1

/-- Put a value at a key, in its place in the order, in the stead of the value that was there. -/
def insert {α : Type} (key : String) (value : α) : List (String × α) → List (String × α)
  | [] => [(key, value)]
  | (k, v) :: rest =>
    if key < k then (key, value) :: (k, v) :: rest
    else if key = k then (key, value) :: rest
    else (k, v) :: insert key value rest

/-- The value at a key. -/
def get? {α : Type} (key : String) : List (String × α) → Option α
  | [] => none
  | (k, v) :: rest => if key = k then some v else get? key rest

/-- The entries of a list put one after the other: the last value at a key stays. -/
def ofList {α : Type} (pairs : List (String × α)) : List (String × α) :=
  pairs.foldl (fun entries p => insert p.1 p.2 entries) []

/-- An entry after an insertion is the inserted one or was there before. -/
theorem mem_insert {α : Type} {key : String} {value : α} {p : String × α} {entries : List (String × α)}
    (h : p ∈ insert key value entries) : p = (key, value) ∨ p ∈ entries := by
  induction entries with
  | nil => simpa [insert] using h
  | cons head rest ih =>
    obtain ⟨k, v⟩ := head
    rw [insert] at h
    split at h
    · simpa using h
    · split at h <;> simp only [List.mem_cons] at h ⊢
      · exact h.imp_right Or.inr
      · rcases h with h | h
        · exact Or.inr (Or.inl h)
        · exact (ih h).imp_right Or.inr

/-- Insertion keeps the order. -/
theorem sorted_insert {α : Type} (key : String) (value : α) {entries : List (String × α)} (h : Sorted entries) :
    Sorted (insert key value entries) := by
  induction entries with
  | nil => simp [insert, Sorted]
  | cons head rest ih =>
    obtain ⟨k, v⟩ := head
    obtain ⟨hk, hrest⟩ := List.pairwise_cons.1 h
    rw [insert]
    split
    · rename_i hlt
      exact List.pairwise_cons.2 ⟨fun p hp => by
        rcases List.mem_cons.1 hp with rfl | hp
        · exact hlt
        · exact String.lt_trans hlt (hk p hp), h⟩
    · split
      · rename_i heq
        subst heq
        exact List.pairwise_cons.2 ⟨hk, hrest⟩
      · rename_i hlt hne
        refine List.pairwise_cons.2 ⟨fun p hp => ?_, ih hrest⟩
        rcases mem_insert hp with rfl | hp
        · have hle : k ≤ key := String.not_lt.1 hlt
          exact Decidable.byContradiction fun hn => hne (String.le_antisymm (String.not_lt.1 hn) hle)
        · exact hk p hp

/-- Entries put one after the other are in order. -/
theorem sorted_ofList {α : Type} (pairs : List (String × α)) : Sorted (ofList pairs) := by
  unfold ofList
  suffices h : ∀ entries, Sorted entries → Sorted (pairs.foldl (fun entries p => insert p.1 p.2 entries) entries) from
    h [] List.Pairwise.nil
  induction pairs with
  | nil => exact fun _ h => h
  | cons p rest ih => exact fun entries h => ih _ (sorted_insert p.1 p.2 h)

end Entries

/-- A string-keyed map, its entries in key order. -/
structure Dict (α : Type) where
  entries : List (String × α)
  sorted : Entries.Sorted entries
  deriving Repr

namespace Dict

variable {α β : Type}

/-- The dictionary without entries. -/
def empty : Dict α := ⟨[], List.Pairwise.nil⟩

instance : Inhabited (Dict α) := ⟨empty⟩

/-- The value at a key. -/
def get? (d : Dict α) (key : String) : Option α := Entries.get? key d.entries

/-- Put a value at a key. -/
def insert (d : Dict α) (key : String) (value : α) : Dict α :=
  ⟨Entries.insert key value d.entries, Entries.sorted_insert key value d.sorted⟩

/-- The number of keys. -/
def size (d : Dict α) : Nat := d.entries.length

/-- There is no key. -/
def isEmpty (d : Dict α) : Bool := d.entries.isEmpty

/-- The key has a value. -/
def contains (d : Dict α) (key : String) : Bool := (d.get? key).isSome

/-- The keys, in order. -/
def keys (d : Dict α) : List String := d.entries.map (·.1)

/-- Pairs put one after the other: the last value at a key stays. -/
def ofList (pairs : List (String × α)) : Dict α := ⟨Entries.ofList pairs, Entries.sorted_ofList pairs⟩

/-- Every entry of `delta` put over `d`: keys are never lost, and where both have a key `delta` wins. -/
def merge (d delta : Dict α) : Dict α := delta.entries.foldl (fun acc p => acc.insert p.1 p.2) d

/-- Every key changed, the entries put again in their former order. -/
def mapKeys (f : String → String) (d : Dict α) : Dict α := ofList (d.entries.map fun p => (f p.1, p.2))

/-- Every value changed. -/
def mapValues (f : α → β) (d : Dict α) : Dict β where
  entries := d.entries.map fun p => (p.1, f p.2)
  sorted := by
    unfold Entries.Sorted
    rw [List.pairwise_map]
    exact d.sorted

/-- Two dictionaries with the same entries are the same. -/
theorem ext_entries {d e : Dict α} (h : d.entries = e.entries) : d = e := by
  cases d
  cases e
  cases h
  rfl

instance [DecidableEq α] : DecidableEq (Dict α) := fun d e =>
  if h : d.entries = e.entries then .isTrue (ext_entries h) else .isFalse fun he => h (he ▸ rfl)

end Dict

end StepEngine
