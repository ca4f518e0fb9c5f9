import StepEngine.Dict

/-!
# Dict: looking up after an insertion and after a merge

A dictionary is seen through `get?`, and there is no more to it: what is found at each key tells its entries. An inserted value is found
at its key and nowhere else, and a merge is the union of the two dictionaries in which the changes win. So merges are associative, and
their order does not matter where the changes agree. A renaming of the keys that keeps their order moves every entry as it is.
-/

namespace StepEngine

variable {α : Type}

namespace Entries

variable {key other : String} {value : α} {entries : List (String × α)}

/-- What is found in a list of entries is one of them. -/
theorem mem_of_get? (h : get? key entries = some value) : (key, value) ∈ entries := by
  induction entries with
  | nil => cases h
  | cons head rest ih =>
    obtain ⟨k, v⟩ := head
    rw [get?] at h
    split at h
    · rename_i heq
      cases h
      exact heq ▸ List.mem_cons_self
    · exact List.mem_cons_of_mem _ (ih h)

/-- In ordered entries nothing is found behind an entry at its own key. -/
theorem get?_rest_eq_none {head : String × α} (h : Sorted (head :: entries)) : get? head.1 entries = none := by
  cases hget : get? head.1 entries with
  | none => rfl
  | some value => exact absurd ((List.pairwise_cons.1 h).1 _ (mem_of_get? hget)) (String.lt_irrefl head.1)

/-- In ordered entries those are found that are there. -/
theorem get?_eq_some_iff (h : Sorted entries) : get? key entries = some value ↔ (key, value) ∈ entries := by
  refine ⟨mem_of_get?, fun hmem => ?_⟩
  induction entries with
  | nil => cases hmem
  | cons head rest ih =>
    obtain ⟨hhead, hrest⟩ := List.pairwise_cons.1 h
    rw [get?]
    rcases List.mem_cons.1 hmem with rfl | hmem
    · rw [if_pos rfl]
    · rw [if_neg (String.ne_of_lt (hhead _ hmem)).symm, ih hrest hmem]

/-- Ordered entries are different. -/
theorem Sorted.nodup (h : Sorted entries) : entries.Nodup := by
  refine List.Pairwise.imp ?_ h
  rintro a b hlt rfl
  exact String.lt_irrefl a.1 hlt

/-- Ordered lists of the same entries are the same. -/
theorem Sorted.ext {others : List (String × α)} (h : Sorted entries) (h' : Sorted others) (same : ∀ p, p ∈ entries ↔ p ∈ others) :
    entries = others := by
  have hperm : entries.Perm others := (List.perm_ext_iff_of_nodup h.nodup h'.nodup).2 same
  exact hperm.eq_of_pairwise (fun _ _ _ _ hlt hgt => absurd hgt (String.lt_asymm hlt)) h h'

/-- Ordered entries in which the same is found at every key are the same. -/
theorem ext_get? {others : List (String × α)} (h : Sorted entries) (h' : Sorted others)
    (same : ∀ key, get? key entries = get? key others) : entries = others := by
  refine h.ext h' ?_
  rintro ⟨key, value⟩
  rw [← get?_eq_some_iff h, ← get?_eq_some_iff h', same]

/-- An inserted value is found at its key. -/
theorem get?_insert_self : get? key (insert key value entries) = some value := by
  induction entries with
  | nil => simp [insert, get?]
  | cons head rest ih =>
    obtain ⟨k, v⟩ := head
    rw [insert]
    split
    · simp [get?]
    · split
      · simp [get?]
      · rename_i hne
        rw [get?, if_neg hne, ih]

/-- An insertion leaves the other keys alone. -/
theorem get?_insert_other (hne : other ≠ key) : get? other (insert key value entries) = get? other entries := by
  induction entries with
  | nil => simp [insert, get?, hne]
  | cons head rest ih =>
    obtain ⟨k, v⟩ := head
    rw [insert]
    split
    · rw [get?, if_neg hne]
    · split
      · rename_i heq
        subst heq
        simp only [get?, if_neg hne]
      · simp only [get?, ih]

/-- Of entries put one after the other, the last one at a key is found. -/
theorem get?_ofList (pairs : List (String × α)) (key : String) : get? key (ofList pairs) = get? key pairs.reverse := by
  rw [ofList, List.foldl_eq_foldr_reverse]
  induction pairs.reverse with
  | nil => rfl
  | cons p rest ih =>
    rw [List.foldr_cons, get?]
    split
    · rename_i heq
      rw [heq, get?_insert_self]
    · rename_i hne
      rw [get?_insert_other hne, ih]

/-- Where no key is there twice, every entry is found. -/
theorem get?_of_mem (differ : (entries.map (·.1)).Nodup) (h : (key, value) ∈ entries) : get? key entries = some value := by
  induction entries with
  | nil => cases h
  | cons head rest ih =>
    obtain ⟨hhead, hrest⟩ := List.nodup_cons.1 differ
    rw [get?]
    rcases List.mem_cons.1 h with rfl | hmem
    · rw [if_pos rfl]
    · have hne : key ≠ head.1 := fun heq => hhead (List.mem_map.2 ⟨_, hmem, heq⟩)
      rw [if_neg hne, ih hrest hmem]

/-- Of entries with different keys, put one after the other, every one is found. -/
theorem get?_ofList_of_mem {pairs : List (String × α)} (differ : (pairs.map (·.1)).Nodup) (h : (key, value) ∈ pairs) :
    get? key (ofList pairs) = some value := by
  have hreversed : (pairs.reverse.map (·.1)).Nodup := (pairs.reverse_perm.map (·.1)).nodup_iff.2 differ
  rw [get?_ofList, get?_of_mem hreversed (List.mem_reverse.2 h)]

variable {f : String → String}

/-- A renamed entry is found at its new key. -/
theorem get?_map (hf : ∀ a b, f a = f b → a = b) : get? (f key) (entries.map fun p => (f p.1, p.2)) = get? key entries := by
  induction entries with
  | nil => rfl
  | cons head rest ih =>
    rw [List.map_cons, get?, get?, ih]
    by_cases h : key = head.1
    · rw [if_pos h, if_pos (congrArg f h)]
    · rw [if_neg h, if_neg (mt (hf _ _) h)]

/-- After a renaming, nothing is found at a key that is no new one. -/
theorem get?_map_other (h : ∀ a, key ≠ f a) : get? key (entries.map fun p => (f p.1, p.2)) = none := by
  induction entries with
  | nil => rfl
  | cons head rest ih => rw [List.map_cons, get?, if_neg (h head.1), ih]

end Entries

namespace Dict

variable {d delta : Dict α} {key other : String} {value : α}

/-- Dictionaries in which the same is found at every key are the same. -/
theorem ext_get? {d e : Dict α} (same : ∀ key, d.get? key = e.get? key) : d = e :=
  ext_entries (Entries.ext_get? d.sorted e.sorted same)

/-- An inserted value is found at its key. -/
theorem get?_insert_self : (d.insert key value).get? key = some value := Entries.get?_insert_self

/-- An insertion leaves the other keys alone. -/
theorem get?_insert_other (hne : other ≠ key) : (d.insert key value).get? other = d.get? other := Entries.get?_insert_other hne

/-- Ordered entries put over a dictionary hide the values that they have a key for. -/
theorem get?_foldl_insert {entries : List (String × α)} (h : Entries.Sorted entries) (d : Dict α) (key : String) :
    (entries.foldl (fun acc p => acc.insert p.1 p.2) d).get? key = (Entries.get? key entries).or (d.get? key) := by
  induction entries generalizing d with
  | nil => rfl
  | cons head rest ih =>
    have hrest : Entries.Sorted rest := (List.pairwise_cons.1 h).2
    rw [List.foldl_cons, ih hrest, Entries.get?]
    split
    · rename_i heq
      rw [heq, Entries.get?_rest_eq_none h, get?_insert_self, Option.none_or, Option.some_or]
    · rename_i hne
      rw [get?_insert_other hne]

/-- A merge is the union in which the changes win. -/
theorem get?_merge (d delta : Dict α) (key : String) : (d.merge delta).get? key = (delta.get? key).or (d.get? key) :=
  get?_foldl_insert delta.sorted d key

/-- A merge never removes a key. -/
theorem contains_merge (h : d.contains key = true) : (d.merge delta).contains key = true := by
  rw [contains, get?_merge, Option.isSome_or]
  exact Bool.or_eq_true_iff.2 (Or.inr h)

/-- Nothing is found in the empty dictionary. -/
@[simp] theorem get?_empty : (empty : Dict α).get? key = none := rfl

/-- Changes over nothing are all that is there. -/
theorem empty_merge (d : Dict α) : empty.merge d = d :=
  ext_get? fun key => by rw [get?_merge, get?_empty, Option.or_none]

/-- Changes may be merged among themselves first. -/
theorem merge_assoc (d e f : Dict α) : (d.merge e).merge f = d.merge (e.merge f) :=
  ext_get? fun key => by simp only [get?_merge, Option.or_assoc]

/-- Changes that were merged in are there, and merging them again has no effect. -/
theorem merge_merge_self (d delta : Dict α) : (d.merge delta).merge delta = d.merge delta :=
  ext_get? fun key => by rw [get?_merge, get?_merge, ← Option.or_assoc, Option.or_self]

instance : Std.Associative (merge : Dict α → Dict α → Dict α) := ⟨merge_assoc⟩

/-- Changes merged one after the other may be merged into one. -/
theorem foldl_merge (deltas : List (Dict α)) (d : Dict α) : deltas.foldl merge d = d.merge (deltas.foldl merge empty) := by
  have hassoc : deltas.foldl merge (d.merge empty) = d.merge (deltas.foldl merge empty) := List.foldl_assoc
  exact hassoc

/-- Two dictionaries agree: where both have a key, they have the same value at it. -/
def Agree (d e : Dict α) : Prop := ∀ key x y, d.get? key = some x → e.get? key = some y → x = y

/-- Changes that agree may be merged in either order. -/
theorem merge_right_comm {e f : Dict α} (h : e.Agree f) : (d.merge e).merge f = (d.merge f).merge e := by
  refine ext_get? fun key => ?_
  simp only [get?_merge]
  cases he : e.get? key with
  | none => rw [Option.none_or, Option.none_or]
  | some x =>
    cases hf : f.get? key with
    | none => rw [Option.none_or, Option.none_or]
    | some y => rw [Option.some_or, Option.some_or, h key x y he hf]

variable {deltas : List (Dict α)}

/-- Changes of which any two agree may be merged in any order. -/
theorem foldl_merge_perm {order : List (Dict α)} (perm : order.Perm deltas) (agree : ∀ x ∈ deltas, ∀ y ∈ deltas, x.Agree y)
    (d : Dict α) : order.foldl merge d = deltas.foldl merge d := by
  refine (perm.symm.foldl_eq' ?_ d).symm
  intro x hx y hy d
  exact merge_right_comm (agree x hx y hy)

/-- After changes that agree, what any of them brought is there. -/
theorem get?_foldl_merge (agree : ∀ x ∈ deltas, ∀ y ∈ deltas, x.Agree y) (hmem : delta ∈ deltas) (h : delta.get? key = some value)
    (d : Dict α) : (deltas.foldl merge d).get? key = some value := by
  obtain ⟨before, after, rfl⟩ := List.append_of_mem hmem
  have hlast : (before ++ after ++ [delta]).Perm (before ++ delta :: after) := by
    rw [List.append_assoc]
    exact (List.perm_append_singleton delta after).append_left before
  rw [← foldl_merge_perm hlast agree, List.foldl_append, List.foldl_cons, List.foldl_nil, get?_merge, h, Option.some_or]

/-! ## The entries of a merge -/

/-- The key of an entry is there. -/
theorem contains_of_mem (h : (key, value) ∈ d.entries) : d.contains key = true := by
  have hget : d.get? key = some value := (Entries.get?_eq_some_iff d.sorted).2 h
  rw [contains, hget, Option.isSome_some]

/-- An entry of a merge is one of the changes, or it was there and the changes do not have its key. -/
theorem mem_merge {p : String × α} :
    p ∈ (d.merge delta).entries ↔ p ∈ delta.entries ∨ delta.contains p.1 = false ∧ p ∈ d.entries := by
  obtain ⟨key, value⟩ := p
  have hmem : ∀ e : Dict α, (key, value) ∈ e.entries ↔ e.get? key = some value := fun e => (Entries.get?_eq_some_iff e.sorted).symm
  rw [hmem, hmem, hmem, get?_merge, contains]
  cases hdelta : delta.get? key <;> simp

/-- Without the keys of the changes, a merge is what was there before. -/
theorem filter_merge (d delta : Dict α) :
    (d.merge delta).entries.filter (fun p => !delta.contains p.1) = d.entries.filter fun p => !delta.contains p.1 := by
  refine Entries.Sorted.ext (List.Pairwise.filter _ (d.merge delta).sorted) (List.Pairwise.filter _ d.sorted) fun p => ?_
  rw [List.mem_filter, List.mem_filter, mem_merge]
  constructor
  · rintro ⟨hdelta | ⟨-, hd⟩, hnot⟩
    · rw [contains_of_mem hdelta] at hnot
      cases hnot
    · exact ⟨hd, hnot⟩
  · rintro ⟨hd, hnot⟩
    exact ⟨Or.inr ⟨Bool.not_eq_true' _ ▸ hnot, hd⟩, hnot⟩

/-- The entries of a merge at the keys of the changes are the changes. -/
theorem filter_merge_contains (d delta : Dict α) : (d.merge delta).entries.filter (fun p => delta.contains p.1) = delta.entries := by
  refine Entries.Sorted.ext (List.Pairwise.filter _ (d.merge delta).sorted) delta.sorted fun p => ?_
  rw [List.mem_filter, mem_merge]
  constructor
  · rintro ⟨hdelta | ⟨hnot, -⟩, hcontains⟩
    · exact hdelta
    · rw [hnot] at hcontains
      cases hcontains
  · exact fun hdelta => ⟨Or.inl hdelta, contains_of_mem hdelta⟩

/-- The entries at some keys and those at the others are all entries. -/
theorem size_split (d : Dict α) (which : String → Bool) :
    d.size = d.entries.countP (fun p => which p.1) + d.entries.countP fun p => !which p.1 := by
  have hsplit := List.length_eq_countP_add_countP (l := d.entries) fun p => which p.1
  simpa [size] using hsplit

/-- A merge has the entries of both, less those that the changes hide. -/
theorem size_merge (d delta : Dict α) : (d.merge delta).size + d.keys.countP delta.contains = d.size + delta.size := by
  have hmerged := size_split (d.merge delta) delta.contains
  have hbefore := size_split d delta.contains
  have hkept : (d.merge delta).entries.countP (fun p => !delta.contains p.1) = d.entries.countP fun p => !delta.contains p.1 := by
    rw [List.countP_eq_length_filter, List.countP_eq_length_filter, filter_merge]
  have hchanged : (d.merge delta).entries.countP (fun p => delta.contains p.1) = delta.size := by
    rw [List.countP_eq_length_filter, filter_merge_contains, size]
  have hkeys : d.keys.countP delta.contains = d.entries.countP fun p => delta.contains p.1 := List.countP_map
  omega

/-! ## Renamed keys -/

/-- Putting entries into a dictionary is putting them among its entries. -/
theorem foldl_insert (pairs : List (String × α)) (d : Dict α) :
    pairs.foldl (fun entries p => Entries.insert p.1 p.2 entries) d.entries =
      (pairs.foldl (fun acc p => acc.insert p.1 p.2) d).entries := by
  induction pairs generalizing d with
  | nil => rfl
  | cons p rest ih => exact ih (d.insert p.1 p.2)

/-- Entries put one after the other are put into the empty dictionary. -/
theorem ofList_eq_foldl (pairs : List (String × α)) : ofList pairs = pairs.foldl (fun acc p => acc.insert p.1 p.2) empty :=
  ext_entries (foldl_insert pairs empty)

/-- The entries of a dictionary make it up. -/
@[simp] theorem ofList_entries (d : Dict α) : ofList d.entries = d := (ofList_eq_foldl d.entries).trans (empty_merge d)

variable {f g : String → String}

/-- A renaming that keeps the order of the keys renames the entries one by one. -/
theorem entries_mapKeys (hf : ∀ a b, a < b → f a < f b) (d : Dict α) :
    (d.mapKeys f).entries = d.entries.map fun p => (f p.1, p.2) := by
  have hsorted : Entries.Sorted (d.entries.map fun p => (f p.1, p.2)) := List.pairwise_map.2 (d.sorted.imp fun hlt => hf _ _ hlt)
  exact congrArg entries (ofList_entries ⟨_, hsorted⟩)

/-- Two renamings that keep the order of the keys are one. -/
theorem mapKeys_mapKeys (hf : ∀ a b, a < b → f a < f b) (hg : ∀ a b, a < b → g a < g b) (d : Dict α) :
    (d.mapKeys f).mapKeys g = d.mapKeys fun key => g (f key) := by
  have hboth : ∀ a b, a < b → g (f a) < g (f b) := fun a b hlt => hg _ _ (hf a b hlt)
  refine ext_entries ?_
  rw [entries_mapKeys hg, entries_mapKeys hf, entries_mapKeys hboth, List.map_map]
  rfl

end Dict

end StepEngine
