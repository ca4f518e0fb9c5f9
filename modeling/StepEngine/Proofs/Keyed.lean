import StepEngine.Proofs.Overlay
import StepEngine.Yaml.Document

/-!
# Keyed: the mappings of a text

A text in which a key is written twice in one mapping is refused. So in the value of a text the keys of every mapping differ, at whatever
depth the mapping stands and however often an alias repeats it (`wellKeyed_of_parse?`). The proof follows the unfolding of nodes: it says of
every part what it yields, if it yields anything.
-/

namespace StepEngine

namespace Yaml

/-- The keys of every mapping in the value differ. -/
inductive WellKeyed : Yaml → Prop where
  | null : WellKeyed .null
  | bool (value : Bool) : WellKeyed (.bool value)
  | int (value : Int) : WellKeyed (.int value)
  | float (value : Binary64) : WellKeyed (.float value)
  | text (value : String) : WellKeyed (.text value)
  | sequence {items : List Yaml} (each : ∀ y ∈ items, WellKeyed y) : WellKeyed (.sequence items)
  | mapping {entries : List (Yaml × Yaml)} (differ : KeysDiffer entries) (keys : ∀ e ∈ entries, WellKeyed e.1)
      (values : ∀ e ∈ entries, WellKeyed e.2) : WellKeyed (.mapping entries)
  | tagged (tag : String) {value : Yaml} (keyed : WellKeyed value) : WellKeyed (.tagged tag value)

namespace WellKeyed

variable {y : Yaml}

/-- A tag from the text changes no mapping. -/
theorem withTag (tag : Option Tag) (h : WellKeyed y) : WellKeyed (Yaml.withTag tag y) := by
  unfold Yaml.withTag
  split
  · exact .tagged _ h
  · exact h

/-- An integer has no mappings in it. -/
theorem ofInteger? {n : Int} (h : Yaml.ofInteger? n = some y) : WellKeyed y := by
  unfold Yaml.ofInteger? at h
  split at h
  · cases h
    exact .int n
  · cases h

/-- A plain scalar has no mappings in it. -/
theorem ofPlain? {s : String} (h : Yaml.ofPlain? s = some y) : WellKeyed y := by
  unfold Yaml.ofPlain? at h
  split at h
  · cases h
    exact .null
  · split at h
    · cases h
      exact .bool _
    · split at h
      · exact ofInteger? h
      · split at h
        · cases h
          exact .text s
        · split at h <;> cases h
          · exact .float _
          · exact .text s

/-- A scalar has no mappings in it. -/
theorem ofScalar? {tag : Option Tag} {content : String} {plain : Bool} (h : Yaml.ofScalar? tag content plain = some y) : WellKeyed y := by
  have untagged : ∀ {y : Yaml}, (if plain then Yaml.ofPlain? content else some (.text content)) = some y → WellKeyed y := by
    intro y h
    split at h
    · exact ofPlain? h
    · cases h
      exact .text content
  cases tag with
  | none => exact untagged h
  | some tag =>
    cases tag with
    | named name =>
      obtain ⟨value, hvalue, rfl⟩ := Option.map_eq_some_iff.1 h
      exact .tagged name (untagged hvalue)
    | bool =>
      obtain ⟨b, -, rfl⟩ := Option.map_eq_some_iff.1 h
      exact .bool b
    | int =>
      obtain ⟨n, -, hn⟩ := Option.bind_eq_some_iff.1 h
      exact ofInteger? hn
    | float =>
      obtain ⟨x, -, rfl⟩ := Option.map_eq_some_iff.1 h
      exact .float x
    | null =>
      simp only [Yaml.ofScalar?] at h
      split at h <;> cases h
      exact .null
    | text =>
      cases h
      exact .text content

end WellKeyed

/-! ## What an unfolding yields -/

/-- Whatever the computation yields is so. -/
def Unfolding.Yields {α : Type} (m : Unfolding α) (P : α → Prop) : Prop :=
  ∀ ⦃left left' : Nat⦄ ⦃a : α⦄, m.run left = some (a, left') → P a

namespace Unfolding.Yields

variable {α β : Type} {P : α → Prop} {Q : β → Prop} {m : Unfolding α}

/-- A value that is there is yielded. -/
protected theorem pure {a : α} (h : P a) : Yields (pure a : Unfolding α) P := by
  intro left left' b hrun
  cases hrun
  exact h

/-- A refusal yields nothing. -/
protected theorem failure : Yields (failure : Unfolding α) P := nofun

/-- Nothing is said of what is yielded. -/
protected theorem trivial : Yields m fun _ => True := fun _ _ _ _ => True.intro

/-- A computation goes on with what the first part yields. -/
protected theorem bind {f : α → Unfolding β} (hm : Yields m P) (hf : ∀ a, P a → Yields (f a) Q) : Yields (m >>= f) Q := by
  intro left left' b hrun
  rw [StateT.run_bind] at hrun
  obtain ⟨⟨a, middle⟩, hfirst, hrest⟩ := Option.bind_eq_some_iff.1 hrun
  exact hf a (hm hfirst) hrest

/-- Every value that a list of computations yields is so, if each of them yields such a value. -/
theorem mapM {γ : Type} {f : γ → Unfolding α} (h : ∀ x, Yields (f x) P) (items : List γ) :
    Yields (items.mapM f) fun values => ∀ v ∈ values, P v := by
  induction items with
  | nil =>
    rw [List.mapM_nil]
    exact .pure (by simp)
  | cons head rest ih =>
    rw [List.mapM_cons]
    refine (h head).bind fun a ha => ih.bind fun values hvalues => .pure ?_
    exact List.forall_mem_cons.2 ⟨ha, hvalues⟩

/-- What is so at the start and kept by every turn is so at the end. -/
theorem foldlM {γ : Type} {f : α → γ → Unfolding α} (h : ∀ done x, P done → Yields (f done x) P) (items : List γ) {start : α}
    (hstart : P start) : Yields (items.foldlM f start) P := by
  induction items generalizing start with
  | nil => exact .pure hstart
  | cons head rest ih =>
    rw [List.foldlM_cons]
    exact (h start head hstart).bind fun done hdone => ih hdone

end Unfolding.Yields

/-! ## Values of nodes -/

/-- Entries that are done, the last one first: their keys differ, and they have no other mappings in them. -/
structure KeyedEntries (done : List (Yaml × Yaml)) : Prop where
  differ : KeysDiffer done.reverse
  keys : ∀ e ∈ done, WellKeyed e.1
  values : ∀ e ∈ done, WellKeyed e.2

namespace KeyedEntries

variable {done : List (Yaml × Yaml)}

/-- There are no entries yet. -/
theorem nil : KeyedEntries [] := ⟨List.Pairwise.nil, by simp, by simp⟩

/-- An entry with a new key is one more entry. -/
theorem cons {key value : Yaml} (h : KeyedEntries done) (hnew : find? key done = none) (hkey : WellKeyed key) (hvalue : WellKeyed value) :
    KeyedEntries ((key, value) :: done) := by
  refine ⟨?_, List.forall_mem_cons.2 ⟨hkey, h.keys⟩, List.forall_mem_cons.2 ⟨hvalue, h.values⟩⟩
  rw [KeysDiffer, List.reverse_cons, List.pairwise_append]
  refine ⟨h.differ, List.pairwise_singleton _ _, fun earlier hearlier later hlater => ?_⟩
  rw [List.mem_singleton.1 hlater]
  exact find?_eq_none_iff.1 hnew earlier (List.mem_reverse.1 hearlier)

/-- The entries are those of a mapping. -/
theorem wellKeyed (h : KeyedEntries done) : WellKeyed (.mapping done.reverse) :=
  .mapping h.differ (fun e he => h.keys e (List.mem_reverse.1 he)) fun e he => h.values e (List.mem_reverse.1 he)

/-- An entry is added only if its key is new. -/
theorem yields_add {key : Yaml} {value : Unfolding Yaml} (h : KeyedEntries done) (hkey : WellKeyed key)
    (hvalue : value.Yields WellKeyed) : ( addEntry? done key value).Yields KeyedEntries := by
  unfold addEntry?
  split
  · exact .failure
  · rename_i hnew
    refine hvalue.bind fun v hv => .pure (h.cons ?_ hkey hv)
    simpa using hnew

end KeyedEntries

/-- The keys of every mapping in the value of a node differ. -/
theorem yields_ofNode? (anchors : Anchors) (depth : Nat) (node : Node) : (ofNode? anchors depth node).Yields WellKeyed := by
  have scalar : ∀ (depth : Nat) (tag : Option Tag) (content : String) (plain : Bool),
      (ofNode? anchors depth (.scalar tag content plain)).Yields WellKeyed := by
    intro depth tag content plain left left' y hrun
    have hscalar : ((ofScalar? tag content plain).map (·, left)) = some (y, left') := by
      cases depth <;> exact hrun
    obtain ⟨value, hvalue, heq⟩ := Option.map_eq_some_iff.1 hscalar
    cases heq
    exact .ofScalar? hvalue
  -- On the depth: the parts of a collection, and what aliases in it stand for, are unfolded one level deeper.
  induction depth generalizing node with
  | zero =>
    cases node with
    | scalar tag content plain => exact scalar _ _ _ _
    | _ => exact .failure
  | succ depth ih =>
    have part : ∀ node, (do ofNode? anchors depth (← target anchors node) : Unfolding Yaml).Yields WellKeyed := fun node =>
      Unfolding.Yields.trivial.bind fun n _ => ih n
    cases node with
    | scalar tag content plain => exact scalar _ _ _ _
    | sequence tag items =>
      exact (Unfolding.Yields.mapM part items).bind fun values hvalues => .pure (.withTag tag (.sequence hvalues))
    | mapping tag entries =>
      refine (Unfolding.Yields.foldlM (P := KeyedEntries) (fun done entry hdone => ?_) entries .nil).bind fun values hvalues =>
        .pure (.withTag tag hvalues.wellKeyed)
      exact Unfolding.Yields.trivial.bind fun n _ => (ih n).bind fun key hkey => hdone.yields_add hkey (part entry.2)
    | _ => exact .failure

/-- In the value of a text the keys of every mapping differ. -/
theorem wellKeyed_of_parse? {s : String} {y : Yaml} (h : parse? s = some y) : WellKeyed y := by
  simp only [parse?, Option.bind_eq_bind, Option.bind_eq_some_iff] at h
  obtain ⟨tokens, -, document, -, hvalue⟩ := h
  obtain ⟨⟨value, left⟩, hrun, rfl⟩ := Option.map_eq_some_iff.1 hvalue
  exact yields_ofNode? _ _ _ hrun

end Yaml

end StepEngine
