import StepEngine.Proofs.Overlay.Equality

/-!
# Paths: an overlay is deep

What an overlay has at a path of keys is what the upper side has there laid over what the lower side has there, unless the upper side cuts
the path off with a value that is no mapping (`at?_overlay`). The law for one key (`find?_overlayEntries_of_wellKeyed`) holds for keys of
every kind, and the law for paths follows from it by induction on the path. That an overlay laid over itself, or over what it is already
laid over, changes nothing is a matter of the entries and their order too, not of look-ups alone, and follows by induction on the value.
-/

namespace StepEngine

namespace Yaml

variable {key name value base upper y : Yaml} {change : Yaml → Yaml} {entries lower above : List (Yaml × Yaml)}

/-- The value is a mapping. -/
def IsMapping (y : Yaml) : Prop := ∃ entries, y = .mapping entries

/-- A value laid over another one stays as it is, unless both are mappings. -/
theorem overlay_of_not_mapping (h : ¬ base.IsMapping ∨ ¬ upper.IsMapping) : overlay base upper = upper := by
  cases upper with
  | mapping above =>
    cases base with
    | mapping lower => exact absurd h (by simp [IsMapping])
    | _ => simp only [overlay]
  | _ => simp only [overlay]

/-! ## The keys -/

/-- A revision at a key that is there keeps the keys. -/
theorem keys_revise (h : find? key entries = some value) (new : Yaml) : (revise key change new entries).map (·.1) = entries.map (·.1) := by
  induction entries with
  | nil => cases h
  | cons head rest ih =>
    obtain ⟨k, old⟩ := head
    rw [find?] at h
    rw [revise]
    split
    · rfl
    · rename_i hother
      rw [if_neg hother] at h
      rw [List.map_cons, ih h, List.map_cons]

/-- A revision at a key that is not there adds an entry behind the others. -/
theorem revise_of_new (h : find? key entries = none) : revise key change value entries = entries ++ [(key, value)] := by
  induction entries with
  | nil => rfl
  | cons head rest ih =>
    obtain ⟨k, old⟩ := head
    rw [find?] at h
    split at h
    · cases h
    · rename_i hother
      rw [revise, if_neg hother, ih h, List.cons_append]

/-- A revision that leaves the value at a key that is there changes nothing. -/
theorem revise_of_kept (h : find? key entries = some value) (kept : change value = value) (new : Yaml) :
    revise key change new entries = entries := by
  induction entries with
  | nil => cases h
  | cons head rest ih =>
    obtain ⟨k, old⟩ := head
    rw [find?] at h
    rw [revise]
    split at h
    · rename_i hsame
      cases h
      rw [if_pos hsame, kept]
    · rename_i hother
      rw [if_neg hother, ih h]

/-- What holds of all keys before a revision, and of its own, holds of all keys afterwards. -/
theorem forall_keys_revise {P : Yaml → Prop} (hkey : P key) (h : ∀ e ∈ entries, P e.1) (new : Yaml) :
    ∀ e ∈ revise key change new entries, P e.1 := by
  have hall : ∀ k ∈ (revise key change new entries).map (·.1), P k := by
    cases hfound : find? key entries with
    | none =>
      rw [revise_of_new hfound, List.map_append, List.forall_mem_append]
      exact ⟨by simpa using h, by simpa using hkey⟩
    | some old =>
      rw [keys_revise hfound]
      simpa using h
  exact fun e he => hall e.1 (List.mem_map_of_mem he)

/-- What holds of all values before a revision, and is kept by the change, holds of all values afterwards. -/
theorem forall_values_revise {P : Yaml → Prop} (hnew : P value) (hchange : ∀ old, P old → P (change old)) (h : ∀ e ∈ entries, P e.2) :
    ∀ e ∈ revise key change value entries, P e.2 := by
  induction entries with
  | nil => simpa [revise] using hnew
  | cons head rest ih =>
    obtain ⟨k, old⟩ := head
    obtain ⟨hold, hrest⟩ := List.forall_mem_cons.1 h
    rw [revise]
    split
    · exact List.forall_mem_cons.2 ⟨hchange old hold, hrest⟩
    · exact List.forall_mem_cons.2 ⟨hold, ih hrest⟩

/-! ## Looking up -/

/-- Equal keys find the same. -/
theorem find?_congr (hname : WellKeyed name) (hkey : WellKeyed key) (h : same name key = true) : find? name entries = find? key entries := by
  induction entries with
  | nil => rfl
  | cons head rest ih => rw [find?, find?, hname.same_congr_left hkey h, ih]

/-- In entries whose keys differ, the value of an entry is found at its key. -/
theorem KeysDiffer.find?_of_mem (h : KeysDiffer entries) (keys : ∀ e ∈ entries, WellKeyed e.1) (hmem : (key, value) ∈ entries) :
    find? key entries = some value := by
  induction entries with
  | nil => cases hmem
  | cons head rest ih =>
    obtain ⟨hhead, hrest⟩ := List.pairwise_cons.1 h
    obtain ⟨hk, hkeys⟩ := List.forall_mem_cons.1 keys
    rw [find?]
    rcases List.mem_cons.1 hmem with rfl | hmem
    · rw [if_pos hk.same_refl]
    · rw [if_neg (by rw [hhead _ hmem]; exact Bool.false_ne_true), ih hrest hkeys hmem]

/-- A revision is found at the keys that are equal to its own, and nowhere else. -/
theorem find?_revise (hname : WellKeyed name) (hkey : WellKeyed key) (keys : ∀ e ∈ entries, WellKeyed e.1) :
    find? name (revise key change value entries) =
      if same name key then some (((find? key entries).map change).getD value) else find? name entries := by
  induction entries with
  | nil => simp [revise, find?]
  | cons head rest ih =>
    obtain ⟨k, old⟩ := head
    obtain ⟨hk, hrest⟩ := List.forall_mem_cons.1 keys
    cases hkeyk : same key k with
    | true =>
      have hsame : same name k = same name key := (hname.same_congr_right hkey hk hkeyk).symm
      simp only [revise, find?, hkeyk, if_true, hsame]
      split <;> rfl
    | false =>
      simp only [revise, find?, hkeyk, Bool.false_eq_true, if_false, ih hrest]
      cases hnamek : same name k with
      | true =>
        have hnamekey : same name key = false := by
          rw [Bool.eq_false_iff]
          intro h
          rw [← hname.same_congr_left hkey h, hnamek] at hkeyk
          cases hkeyk
        simp [hnamekey]
      | false => rfl

/-- At every key an overlay has what the upper side has there laid over what the lower side has. -/
theorem find?_overlayEntries_of_wellKeyed (hname : WellKeyed name) (differ : KeysDiffer above) (keys : ∀ e ∈ above, WellKeyed e.1)
    (hlower : ∀ e ∈ lower, WellKeyed e.1) :
    find? name (overlayEntries lower above) = overlay? (find? name lower) (find? name above) := by
  induction above generalizing lower with
  | nil => rw [overlayEntries, find?, overlay?]
  | cons head rest ih =>
    obtain ⟨key, value⟩ := head
    obtain ⟨hhead, hrest⟩ := List.pairwise_cons.1 differ
    obtain ⟨hkey, hkeys⟩ := List.forall_mem_cons.1 keys
    rw [overlayEntries, ih hrest hkeys (forall_keys_revise hkey hlower _), find?_revise hname hkey hlower, find?]
    cases hsame : same name key with
    | true =>
      have hbehind : find? name rest = none := by
        rw [find?_congr hname hkey hsame, find?_eq_none_iff]
        intro e he
        rw [Bool.eq_false_iff]
        intro h
        have hback : same e.1 key = true := hkey.same_symm (hkeys e he) h
        rw [hhead e he] at hback
        cases hback
      rw [hbehind, if_pos rfl, if_pos rfl, overlay?, find?_congr hname hkey hsame]
      cases find? key lower <;> rfl
    | false => simp only [Bool.false_eq_true, if_false]

/-- The keys of an overlay are those of the lower side, and behind them those of the upper side that the lower one has not. -/
theorem keys_overlayEntries (differ : KeysDiffer above) (keys : ∀ e ∈ above, WellKeyed e.1) (hlower : ∀ e ∈ lower, WellKeyed e.1) :
    (overlayEntries lower above).map (·.1) = lower.map (·.1) ++ (above.filter fun e => (find? e.1 lower).isNone).map (·.1) := by
  induction above generalizing lower with
  | nil => rw [overlayEntries, List.filter_nil, List.map_nil, List.append_nil]
  | cons head rest ih =>
    obtain ⟨key, value⟩ := head
    obtain ⟨hhead, hrest⟩ := List.pairwise_cons.1 differ
    obtain ⟨hkey, hkeys⟩ := List.forall_mem_cons.1 keys
    have hothers : rest.filter (fun e => (find? e.1 (revise key (fun old => overlay old value) value lower)).isNone) =
        rest.filter fun e => (find? e.1 lower).isNone := by
      refine List.filter_congr fun e he => ?_
      rw [find?_revise (hkeys e he) hkey hlower, hhead e he]
      rfl
    rw [overlayEntries, ih hrest hkeys (forall_keys_revise hkey hlower _), hothers, List.filter_cons]
    cases hfound : find? key lower with
    | none =>
      rw [revise_of_new hfound, List.map_append, List.append_assoc]
      rfl
    | some old =>
      rw [keys_revise hfound]
      rfl

/-- Entries laid over entries that have all they bring change nothing. -/
theorem overlayEntries_of_kept (h : ∀ e ∈ above, ∃ old, find? e.1 lower = some old ∧ overlay old e.2 = old) :
    overlayEntries lower above = lower := by
  induction above with
  | nil => rw [overlayEntries]
  | cons head rest ih =>
    obtain ⟨key, value⟩ := head
    obtain ⟨⟨old, hfound, hkept⟩, hrest⟩ := List.forall_mem_cons.1 h
    rw [overlayEntries, revise_of_kept hfound hkept, ih hrest]

/-! ## The value -/

/-- That keys differ is a matter of the keys alone. -/
theorem keysDiffer_iff : KeysDiffer entries ↔ (entries.map (·.1)).Pairwise fun earlier later => same later earlier = false := by
  rw [KeysDiffer, List.pairwise_map]

/-- A revision puts no key twice. -/
theorem KeysDiffer.revise (h : KeysDiffer entries) (new : Yaml) : KeysDiffer (revise key change new entries) := by
  cases hfound : find? key entries with
  | some old => rwa [keysDiffer_iff, keys_revise hfound, ← keysDiffer_iff]
  | none =>
    rw [revise_of_new hfound, KeysDiffer, List.pairwise_append]
    refine ⟨h, List.pairwise_singleton _ _, ?_⟩
    intro earlier hearlier later hlater
    rw [List.mem_singleton.1 hlater]
    exact find?_eq_none_iff.1 hfound earlier hearlier

namespace WellKeyed

/-- A mapping without entries has no keys. -/
theorem nil : WellKeyed (.mapping []) := .mapping .nil nofun nofun

/-- A mapping may get an entry in front whose key is new. -/
theorem cons (h : WellKeyed (.mapping entries)) (hkey : WellKeyed key) (hvalue : WellKeyed value)
    (new : ∀ e ∈ entries, same e.1 key = false) : WellKeyed (.mapping ((key, value) :: entries)) := by
  cases h with
  | mapping differ keys values =>
    exact .mapping (List.pairwise_cons.2 ⟨new, differ⟩) (List.forall_mem_cons.2 ⟨hkey, keys⟩) (List.forall_mem_cons.2 ⟨hvalue, values⟩)

/-- Entries laid over others make a mapping whose keys differ, if that is so for what is laid value over value. -/
theorem overlayEntries (hlower : WellKeyed (.mapping lower)) (keys : ∀ e ∈ above, WellKeyed e.1) (values : ∀ e ∈ above, WellKeyed e.2)
    (hoverlay : ∀ e ∈ above, ∀ old, WellKeyed old → WellKeyed (overlay old e.2)) : WellKeyed (.mapping (overlayEntries lower above)) := by
  induction above generalizing lower with
  | nil =>
    rw [Yaml.overlayEntries]
    exact hlower
  | cons head rest ih =>
    obtain ⟨key, value⟩ := head
    obtain ⟨hkey, hkeys⟩ := List.forall_mem_cons.1 keys
    obtain ⟨hvalue, hvalues⟩ := List.forall_mem_cons.1 values
    obtain ⟨hhead, hrest⟩ := List.forall_mem_cons.1 hoverlay
    rw [Yaml.overlayEntries]
    cases hlower with
    | mapping differ keys' values' =>
      refine ih ?_ hkeys hvalues hrest
      exact .mapping (differ.revise value) (forall_keys_revise hkey keys' value) (forall_values_revise hvalue hhead values')

/-- Overlays go down into mappings only, so what is to be shown of all values is shown of those that are no mappings, and of a mapping if it
holds of the values in it. -/
theorem mapping_induction {P : ∀ y, WellKeyed y → Prop} (other : ∀ y (h : WellKeyed y), ¬ y.IsMapping → P y h)
    (mapping : ∀ entries (differ : KeysDiffer entries) (keys : ∀ e ∈ entries, WellKeyed e.1) (values : ∀ e ∈ entries, WellKeyed e.2),
      (∀ e (he : e ∈ entries), P e.2 (values e he)) → P (.mapping entries) (.mapping differ keys values)) (h : WellKeyed y) : P y h := by
  induction h with
  | mapping differ keys values ihkeys ihvalues => exact mapping _ differ keys values ihvalues
  | null => exact other _ .null (by simp [IsMapping])
  | bool value => exact other _ (.bool value) (by simp [IsMapping])
  | int value => exact other _ (.int value) (by simp [IsMapping])
  | float value => exact other _ (.float value) (by simp [IsMapping])
  | text value => exact other _ (.text value) (by simp [IsMapping])
  | sequence each ih => exact other _ (.sequence each) (by simp [IsMapping])
  | tagged tag keyed ih => exact other _ (.tagged tag keyed) (by simp [IsMapping])

/-- In an overlay the keys of every mapping differ. -/
theorem overlay (hbase : WellKeyed base) (hupper : WellKeyed upper) : WellKeyed (overlay base upper) := by
  induction hupper using mapping_induction generalizing base with
  | other upper hupper hother =>
    rw [overlay_of_not_mapping (Or.inr hother)]
    exact hupper
  | mapping above differ keys values ih =>
    by_cases h : base.IsMapping
    · obtain ⟨lower, rfl⟩ := h
      rw [Yaml.overlay]
      exact hbase.overlayEntries keys values fun e he old hold => ih e he hold
    · rw [overlay_of_not_mapping (Or.inl h)]
      exact .mapping differ keys values

/-- A value laid over itself is that value. -/
theorem overlay_self (h : WellKeyed y) : Yaml.overlay y y = y := by
  induction h using mapping_induction with
  | other y h hother => exact overlay_of_not_mapping (Or.inr hother)
  | mapping entries differ keys values ih =>
    rw [Yaml.overlay, overlayEntries_of_kept]
    intro e he
    exact ⟨e.2, differ.find?_of_mem keys he, ih e he⟩

/-- A value laid over what it is already laid over changes nothing. -/
theorem overlay_overlay (hbase : WellKeyed base) (hupper : WellKeyed upper) :
    Yaml.overlay (Yaml.overlay base upper) upper = Yaml.overlay base upper := by
  induction hupper using mapping_induction generalizing base with
  | other upper hupper hother => rw [overlay_of_not_mapping (Or.inr hother), overlay_of_not_mapping (Or.inr hother)]
  | mapping above differ keys values ih =>
    by_cases h : base.IsMapping
    · obtain ⟨lower, rfl⟩ := h
      cases hbase with
      | mapping differ' keys' values' =>
        rw [Yaml.overlay, Yaml.overlay, overlayEntries_of_kept]
        intro e he
        have hfound : find? e.1 (Yaml.overlayEntries lower above) = overlay? (find? e.1 lower) (some e.2) := by
          rw [find?_overlayEntries_of_wellKeyed (keys e he) differ keys keys', differ.find?_of_mem keys he]
        cases hlower : find? e.1 lower with
        | none =>
          rw [hlower] at hfound
          exact ⟨e.2, hfound, (values e he).overlay_self⟩
        | some old =>
          rw [hlower] at hfound
          obtain ⟨k, hmem⟩ := mem_of_find? hlower
          exact ⟨_, hfound, ih e he (values' _ hmem)⟩
    · rw [overlay_of_not_mapping (Or.inl h), overlay_self (.mapping differ keys values)]

end WellKeyed

/-! ## Paths -/

/-- What is found at a path of keys, from the outermost mapping inwards. -/
def at? : List Yaml → Yaml → Option Yaml
  | [], y => some y
  | key :: rest, .mapping entries => (find? key entries).bind (at? rest)
  | _ :: _, _ => none

/-- A path leads on from a value that is no mapping. -/
def cutsOff : List Yaml → Yaml → Bool
  | [], _ => false
  | key :: rest, .mapping entries => (find? key entries).any (cutsOff rest)
  | _ :: _, _ => true

variable {path : List Yaml}

/-- Nothing is found at a path that is cut off. -/
theorem at?_of_cutsOff (h : cutsOff path y = true) : at? path y = none := by
  induction path generalizing y with
  | nil => cases h
  | cons key rest ih =>
    cases y with
    | mapping entries =>
      rw [cutsOff] at h
      rw [at?]
      cases hfound : find? key entries with
      | none => rfl
      | some value =>
        rw [hfound] at h
        exact ih h
    | _ => rfl

/-- No path leads on from a value that is no mapping. -/
theorem at?_cons_of_not_mapping (h : ¬ y.IsMapping) (rest : List Yaml) : at? (key :: rest) y = none := by
  cases y with
  | mapping entries => exact absurd ⟨entries, rfl⟩ h
  | _ => rfl

/-- Such a value cuts every path off. -/
theorem cutsOff_cons_of_not_mapping (h : ¬ y.IsMapping) (rest : List Yaml) : cutsOff (key :: rest) y = true := by
  cases y with
  | mapping entries => exact absurd ⟨entries, rfl⟩ h
  | _ => rfl

/-- What is found further on in a value laid over another one, either of which may be missing. -/
theorem bind_overlay? {below above : Option Yaml} (h : ∀ base ∈ below, ∀ upper ∈ above,
      at? path (overlay base upper) = if cutsOff path upper then none else overlay? (at? path base) (at? path upper)) :
    (overlay? below above).bind (at? path) =
      if above.any (cutsOff path) then none else overlay? (below.bind (at? path)) (above.bind (at? path)) := by
  cases above with
  | none => rfl
  | some upper =>
    cases below with
    | some base => exact h base rfl upper rfl
    | none =>
      rw [overlay?, Option.bind_some, Option.bind_none, Option.any_some]
      split
      · rename_i hcut
        exact at?_of_cutsOff hcut
      · cases at? path upper <;> rfl

/-- At every path an overlay has what the upper side has there laid over what the lower side has, unless the upper side cuts the path off;
then it has nothing there. -/
theorem at?_overlay (hpath : ∀ key ∈ path, WellKeyed key) (hbase : WellKeyed base) (hupper : WellKeyed upper) :
    at? path (overlay base upper) = if cutsOff path upper then none else overlay? (at? path base) (at? path upper) := by
  -- On the path: what the two sides have at its first key is laid over each other, and the rest of the path leads on from there.
  induction path generalizing base upper with
  | nil => rfl
  | cons key rest ih =>
    obtain ⟨hkey, hrest⟩ := List.forall_mem_cons.1 hpath
    cases hupper using WellKeyed.mapping_induction with
    | other _ _ hother =>
      rw [overlay_of_not_mapping (Or.inr hother), at?_cons_of_not_mapping hother, cutsOff_cons_of_not_mapping hother, if_pos rfl]
    | mapping above differ keys values _ =>
      cases hbase using WellKeyed.mapping_induction with
      | other _ _ hother =>
        have hbind : (overlay? none (find? key above)).bind (at? rest) =
            if (find? key above).any (cutsOff rest) then none else overlay? none ((find? key above).bind (at? rest)) :=
          bind_overlay? nofun
        rw [overlay_of_not_mapping (Or.inl hother), at?_cons_of_not_mapping hother, at?, cutsOff]
        refine Eq.trans ?_ hbind
        cases find? key above <;> rfl
      | mapping lower differ' keys' values' _ =>
        rw [overlay, at?, at?, at?, cutsOff, find?_overlayEntries_of_wellKeyed hkey differ keys keys']
        refine bind_overlay? fun base hbase upper hupper => ih hrest ?_ ?_
        · obtain ⟨k, hmem⟩ := mem_of_find? hbase
          exact values' _ hmem
        · obtain ⟨k, hmem⟩ := mem_of_find? hupper
          exact values _ hmem

/-! ## The law -/

/-- What becomes of two values that are laid over each other. -/
structure OverlaysDeeply (base upper : Yaml) : Prop where
  /-- Two mappings make a mapping. It has the keys of the lower one in their order, and behind them the new keys of the upper one in theirs;
  at a key that only one of the two has, there is the value it has, and at a key of both, value over value. -/
  mappings (lower above : List (Yaml × Yaml)) : base = .mapping lower → upper = .mapping above →
    ∃ result, overlay base upper = .mapping result ∧
      result.map (·.1) = lower.map (·.1) ++ (above.filter fun e => (find? e.1 lower).isNone).map (·.1) ∧
      ∀ key, WellKeyed key → find? key result = overlay? (find? key lower) (find? key above)
  /-- Anything else is replaced by the upper value. -/
  others : ¬ base.IsMapping ∨ ¬ upper.IsMapping → overlay base upper = upper
  /-- The keys of every mapping differ again. -/
  keyed : WellKeyed (overlay base upper)
  /-- At every path of keys there is what the upper value has over what the lower one has, unless the upper value cuts the path off. -/
  path (path : List Yaml) : (∀ key ∈ path, WellKeyed key) →
    at? path (overlay base upper) = if cutsOff path upper then none else overlay? (at? path base) (at? path upper)
  /-- The upper value laid over once more changes nothing. -/
  again : overlay (overlay base upper) upper = overlay base upper
  /-- A value laid over itself is that value. -/
  itself : overlay base base = base
  /-- An empty mapping laid over a mapping changes nothing. -/
  blank : base.IsMapping → overlay base (.mapping []) = base
  /-- Every leaf of the upper value is found at its path. -/
  leaf (path : List Yaml) (value : Yaml) : (∀ key ∈ path, WellKeyed key) → at? path upper = some value → ¬ value.IsMapping →
    at? path (overlay base upper) = some value
  /-- What the lower value has at a path is found there unchanged, if the upper value has nothing at the path and does not cut it off. -/
  kept (path : List Yaml) : (∀ key ∈ path, WellKeyed key) → at? path upper = none → cutsOff path upper = false →
    at? path (overlay base upper) = at? path base

/-- Values in whose mappings the keys differ are laid over each other deeply. -/
theorem overlays_deeply (hbase : WellKeyed base) (hupper : WellKeyed upper) : OverlaysDeeply base upper where
  mappings := by
    rintro lower above rfl rfl
    cases hbase with
    | mapping differ keys values =>
      cases hupper with
      | mapping differ' keys' values' =>
        refine ⟨overlayEntries lower above, by rw [overlay], keys_overlayEntries differ' keys' keys, ?_⟩
        exact fun key hkey => find?_overlayEntries_of_wellKeyed hkey differ' keys' keys
  others := overlay_of_not_mapping
  keyed := hbase.overlay hupper
  path _ hpath := at?_overlay hpath hbase hupper
  again := hbase.overlay_overlay hupper
  itself := hbase.overlay_self
  blank := by
    rintro ⟨lower, rfl⟩
    rw [overlay, overlayEntries]
  leaf := by
    intro path value hpath hfound hleaf
    have hopen : ¬ cutsOff path upper = true := by
      intro hcut
      rw [at?_of_cutsOff hcut] at hfound
      cases hfound
    rw [at?_overlay hpath hbase hupper, if_neg hopen, hfound]
    cases at? path base with
    | none => rfl
    | some old => exact congrArg some (overlay_of_not_mapping (Or.inr hleaf))
  kept := by
    intro path hpath hnone hopen
    rw [at?_overlay hpath hbase hupper, hopen, hnone]
    cases at? path base <;> rfl

end Yaml

namespace Sample

open Yaml

/-- A mapping whose keys are a mapping, a zero and a text. -/
def ground : Yaml :=
  .mapping [(.mapping [(.text "a", .int 1), (.text "b", .int 2)], .mapping [(.text "x", .int 1), (.text "y", .mapping [(.text "z", .int 2)])]),
    (.float ⟨false, 0⟩, .text "zero"), (.text "k", .int 5)]

/-- A mapping with equal keys that are written in another way, and a new one. -/
def cover : Yaml :=
  .mapping [(.text "new", .mapping []), (.float ⟨true, 0⟩, .null),
    (.mapping [(.text "b", .int 2), (.text "a", .int 1)], .mapping [(.text "y", .mapping [(.text "w", .int 3)])])]

/-- Equal keys meet, however they are written, and keep the place and the form that they have below. -/
theorem ground_covered : WellKeyed ground ∧ WellKeyed cover ∧ OverlaysDeeply ground cover ∧ overlay ground cover =
    .mapping [(.mapping [(.text "a", .int 1), (.text "b", .int 2)],
        .mapping [(.text "x", .int 1), (.text "y", .mapping [(.text "z", .int 2), (.text "w", .int 3)])]),
      (.float ⟨false, 0⟩, .null), (.text "k", .int 5), (.text "new", .mapping [])] := by
  have single (name : String) {value : Yaml} (h : WellKeyed value) : WellKeyed (.mapping [(.text name, value)]) :=
    .cons .nil (.text name) h nofun
  have hground : WellKeyed ground := by
    refine .cons (.cons (single "k" (.int 5)) (.float _) (.text "zero") (by decide)) ?_ ?_ (by decide)
    · exact .cons (single "b" (.int 2)) (.text "a") (.int 1) (by decide)
    · exact .cons (single "y" (single "z" (.int 2))) (.text "x") (.int 1) (by decide)
  have hcover : WellKeyed cover := by
    refine .cons (.cons (.cons .nil ?_ (single "y" (single "w" (.int 3))) nofun) (.float _) .null (by decide)) (.text "new") .nil
      (by decide)
    exact .cons (single "a" (.int 1)) (.text "b") (.int 2) (by decide)
  exact ⟨hground, hcover, overlays_deeply hground hcover, by rfl⟩

end Sample

end StepEngine
