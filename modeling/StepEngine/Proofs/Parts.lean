import StepEngine.Proofs.Overlay
import StepEngine.Yaml.Record

/-!
# Parts: what a record reads from a mapping

A record is read from a mapping by selections of its entries: those whose keys are a name behind their tags, of which there is one at most,
for every name that the record has; and those whose keys are no texts, of which there is none (`parts?_mapping`). An overlay selects the
overlay of what both sides select (`under_overlayEntries`).
-/

namespace StepEngine

namespace Yaml

variable {name : String} {entries lower upper : List (Yaml × Yaml)}

/-- The entries whose keys are a text behind their tags, or those whose keys are no text. -/
def under (text : Option String) (entries : List (Yaml × Yaml)) : List (Yaml × Yaml) := entries.filter fun e => e.1.asText? == text

/-- The first entry is under its own key. -/
theorem under_cons (text : Option String) (e : Yaml × Yaml) (rest : List (Yaml × Yaml)) :
    under text (e :: rest) = if e.1.asText? = text then e :: under text rest else under text rest := by
  simp only [under, List.filter_cons, beq_iff_eq]

/-- Nothing is under a key that no entry has. -/
theorem under_eq_nil_iff {text : Option String} : under text entries = [] ↔ ∀ e ∈ entries, e.1.asText? ≠ text := by
  rw [under, List.filter_eq_nil_iff]
  simp only [beq_iff_eq, ne_eq]

/-- The value of the only entry, if there is any; not if there are more. -/
def part? : List (Yaml × Yaml) → Option (Option Yaml)
  | [] => some none
  | [e] => some (some e.2)
  | _ => none

/-- All keys are texts, behind tags or not. -/
def textKeyed (entries : List (Yaml × Yaml)) : Bool := entries.all (·.1.asText?.isSome)

/-- All keys are texts if the first one and the others are. -/
theorem textKeyed_cons (e : Yaml × Yaml) (rest : List (Yaml × Yaml)) :
    textKeyed (e :: rest) = (e.1.asText?.isSome && textKeyed rest) := rfl

/-- All keys are texts exactly if no entry is under a key that is none. -/
theorem textKeyed_eq (entries : List (Yaml × Yaml)) : textKeyed entries = (under none entries).isEmpty := by
  rw [Bool.eq_iff_iff, List.isEmpty_iff, under_eq_nil_iff, textKeyed, List.all_eq_true]
  simp only [Option.isSome_iff_ne_none]

/-- The fields of a mapping are there if all keys are texts. -/
theorem fields?_mapping (entries : List (Yaml × Yaml)) : (mapping entries).fields? =
    if textKeyed entries then some (entries.filterMap fun e => e.1.asText?.map (·, e.2)) else none := by
  change (entries.mapM fun e => e.1.asText?.map (·, e.2)) = _
  induction entries with
  | nil => rfl
  | cons head rest ih =>
    rw [List.mapM_cons, ih, List.filterMap_cons, textKeyed_cons]
    cases head.1.asText? <;> cases textKeyed rest <;> rfl

/-- The parts of a mapping are read each from the entries under its name, if all keys are texts. -/
theorem parts?_mapping (names : List String) (entries : List (Yaml × Yaml)) : (mapping entries).parts? names =
    if (under none entries).isEmpty then names.mapM fun name => part? (under (some name) entries) else none := by
  have fields : ∀ name, (entries.filterMap fun e => e.1.asText?.map (·, e.2)).filter (·.1 == name) =
      (under (some name) entries).map fun e => (name, e.2) := by
    intro name
    induction entries with
    | nil => rfl
    | cons head rest ih =>
      rw [List.filterMap_cons, under_cons]
      cases hkey : head.1.asText? with
      | none => simpa using ih
      | some text => by_cases htext : text = name <;> simp [htext, ih]
  rw [parts?, fields?_mapping, textKeyed_eq]
  split
  · simp only [Option.bind_eq_bind, Option.bind_some, fields]
    congr 1
    funext name
    match under (some name) entries with
    | [] => rfl
    | [_] => rfl
    | _ :: _ :: _ => rfl
  · rfl

/-- What is under a key in an overlay is what is under it in the upper side laid over what is under it in the lower one. -/
theorem under_overlayEntries (text : Option String) (lower upper : List (Yaml × Yaml)) :
    under text (overlayEntries lower upper) = overlayEntries (under text lower) (under text upper) :=
  filter_overlayEntries (isKeyClass_asText? (· == text)) lower upper

/-- An overlay is empty exactly if both sides are. -/
theorem isEmpty_overlayEntries (lower upper : List (Yaml × Yaml)) :
    (overlayEntries lower upper).isEmpty = (lower.isEmpty && upper.isEmpty) := by
  induction upper generalizing lower with
  | nil => simp [overlayEntries]
  | cons head rest ih =>
    obtain ⟨key, value⟩ := head
    have hrevise : (revise key (fun old => overlay old value) value lower).isEmpty = false := by
      cases lower with
      | nil => rfl
      | cons first rest =>
        rw [revise]
        split <;> rfl
    rw [overlayEntries, ih, hrevise]
    simp

/-- The entries have the name without a tag, if they have it. -/
def PlainlyNamed (name : String) (entries : List (Yaml × Yaml)) : Prop := ∀ e ∈ entries, e.1.asText? = some name → e.1 = .text name

/-- The only entry that has a name, if any has. -/
def single (name : String) (value : Option Yaml) : List (Yaml × Yaml) := value.toList.map (.text name, ·)

/-- Where keys differ and a name is written without tags, there is one entry under it at most. -/
theorem under_eq_single (hdiffer : KeysDiffer entries) (hplain : PlainlyNamed name entries) :
    under (some name) entries = single name (find? (.text name) entries) := by
  induction entries with
  | nil => rfl
  | cons head rest ih =>
    obtain ⟨key, value⟩ := head
    have hrest := ih (List.pairwise_cons.1 hdiffer).2 fun e he => hplain e (List.mem_cons_of_mem _ he)
    rw [under_cons, hrest, find?]
    by_cases hkey : key = .text name
    · subst hkey
      rw [hdiffer.find?_rest]
      simp [single, asText?, untag, same]
    · have hname : key.asText? ≠ some name := fun h => hkey (hplain (key, value) List.mem_cons_self h)
      have hsame : ¬ same (.text name) key = true := fun h => hkey (same_text_iff.1 h)
      simp [hname, hsame]

/-- One entry at most laid over another one of the same name is one entry at most. -/
theorem overlayEntries_single (name : String) (lower upper : Option Yaml) :
    overlayEntries (single name lower) (single name upper) = single name (overlay? lower upper) := by
  cases lower <;> cases upper <;> simp [single, overlayEntries, revise, same, overlay?]

/-- The value of one entry at most is read as it is. -/
theorem part?_single (name : String) (value : Option Yaml) : part? (single name value) = some value := by
  cases value <;> rfl

end Yaml

end StepEngine
