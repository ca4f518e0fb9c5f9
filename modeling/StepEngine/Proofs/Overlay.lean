import StepEngine.Yaml.Overlay

/-!
# Overlay: looking up in what was laid over

An overlay is seen through its look-ups: at a text key there is the upper value laid over the lower one where both sides have the key,
and the value of the one side that has it otherwise. Entries are also seen through classes of keys: whatever cannot tell equal keys apart
selects from an overlay the overlay of what it selects from both sides. So taking a key out before or after makes no difference.
-/

namespace StepEngine

namespace Yaml

variable {name other : String} {key value : Yaml} {change : Yaml → Yaml} {entries lower upper : List (Yaml × Yaml)}

/-! ## Equal keys -/

/-- Only the text itself is equal to a text. -/
theorem same_text_iff : same (.text name) key = true ↔ key = .text name := by
  cases key with
  | text other => simpa [same] using eq_comm
  | _ => simp [same]

/-- A text is equal only to the text itself. -/
theorem same_text_right_iff : same key (.text name) = true ↔ key = .text name := by
  cases key <;> simp [same]

/-- Equal values are the same text, if they are texts behind their tags. -/
theorem asText?_eq_of_same {a b : Yaml} (h : same a b = true) : a.asText? = b.asText? := by
  cases a with
  | text s => rw [same_text_iff.1 h]
  | tagged tag a =>
    cases b with
    | tagged tag' b =>
      simp only [same, Bool.and_eq_true] at h
      have ih : a.asText? = b.asText? := asText?_eq_of_same h.2
      exact ih
    | _ => simp [same] at h
  | _ =>
    cases b with
    | text s => cases same_text_right_iff.1 h
    | tagged tag b => simp [same] at h
    | _ => rfl

/-- A class of keys that holds with a key all that are equal to it. -/
def IsKeyClass (p : Yaml → Bool) : Prop := ∀ ⦃a b : Yaml⦄, same a b = true → p a = p b

/-- All keys but one text are a class. -/
theorem isKeyClass_not_text (name : String) : IsKeyClass fun key => !same (.text name) key := by
  intro a b h
  have hiff : same (.text name) a = true ↔ same (.text name) b = true := by
    rw [same_text_iff, same_text_iff]
    constructor
    · rintro rfl
      exact same_text_iff.1 h
    · rintro rfl
      exact same_text_right_iff.1 h
  exact congrArg (!·) (Bool.eq_iff_iff.2 hiff)

/-- The keys that are a given text behind their tags are a class, and so are those that are no text. -/
theorem isKeyClass_asText? (p : Option String → Bool) : IsKeyClass fun key => p key.asText? :=
  fun _ _ h => congrArg p (asText?_eq_of_same h)

/-! ## Classes of keys in an overlay -/

variable {p : Yaml → Bool}

/-- A revision at a key of a class is seen in the class, and another one is not. -/
theorem filter_revise (hp : IsKeyClass p) :
    (revise key change value entries).filter (p ·.1) =
      if p key then revise key change value (entries.filter (p ·.1)) else entries.filter (p ·.1) := by
  induction entries with
  | nil => cases hkey : p key <;> simp [revise, hkey]
  | cons head rest ih =>
    obtain ⟨k, old⟩ := head
    rw [revise]
    cases hsame : same key k with
    | true =>
      have hk : p k = p key := (hp hsame).symm
      cases hkey : p key <;> simp [hk, hkey, revise, hsame]
    | false =>
      simp only [Bool.false_eq_true, if_false, List.filter_cons, ih]
      cases hk : p k <;> cases hkey : p key <;> simp [revise, hsame]

/-- What a class selects from an overlay is the overlay of what it selects from both sides. -/
theorem filter_overlayEntries (hp : IsKeyClass p) (lower upper : List (Yaml × Yaml)) :
    (overlayEntries lower upper).filter (p ·.1) = overlayEntries (lower.filter (p ·.1)) (upper.filter (p ·.1)) := by
  induction upper generalizing lower with
  | nil => simp only [overlayEntries, List.filter_nil]
  | cons head rest ih =>
    obtain ⟨key, value⟩ := head
    rw [overlayEntries, ih, filter_revise hp, List.filter_cons]
    cases hkey : p key with
    | true => simp only [if_true, overlayEntries]
    | false => simp only [Bool.false_eq_true, if_false]

/-- A key that is taken out of an overlay may be taken out of both sides before. -/
theorem remove_overlayEntries (name : String) (lower upper : List (Yaml × Yaml)) :
    remove (.text name) (overlayEntries lower upper) = overlayEntries (remove (.text name) lower) (remove (.text name) upper) :=
  filter_overlayEntries (isKeyClass_not_text name) lower upper

/-! ## Looking up -/

/-- Nothing is found at a key exactly when no entry has it. -/
theorem find?_eq_none_iff : find? key entries = none ↔ ∀ e ∈ entries, same key e.1 = false := by
  induction entries with
  | nil => simp [find?]
  | cons head rest ih =>
    obtain ⟨k, v⟩ := head
    rw [find?, List.forall_mem_cons]
    cases hsame : same key k <;> simp [ih]

/-- What is found at a key is the value of an entry. -/
theorem mem_of_find? (h : find? key entries = some value) : ∃ k, (k, value) ∈ entries := by
  induction entries with
  | nil => cases h
  | cons head rest ih =>
    obtain ⟨k, v⟩ := head
    rw [find?] at h
    split at h
    · cases h
      exact ⟨k, List.mem_cons_self⟩
    · obtain ⟨k', hmem⟩ := ih h
      exact ⟨k', List.mem_cons_of_mem _ hmem⟩

/-- A key that was taken out is not found. -/
theorem find?_remove_self : find? key (remove key entries) = none := by
  rw [find?_eq_none_iff]
  intro e he
  simpa using (List.mem_filter.1 he).2

/-- A class that has a text shows the entry at it. -/
theorem find?_filter (hname : p (.text name) = true) : find? (.text name) (entries.filter (p ·.1)) = find? (.text name) entries := by
  induction entries with
  | nil => rfl
  | cons head rest ih =>
    obtain ⟨k, v⟩ := head
    rw [find?, List.filter_cons]
    cases hsame : same (.text name) k with
    | true =>
      obtain rfl := same_text_iff.1 hsame
      simp [hname, find?, hsame]
    | false => cases hk : p k <;> simp [find?, hsame, ih]

/-- What is found at a text stays when another text is taken out. -/
theorem find?_remove_other (hne : name ≠ other) : find? (.text name) (remove (.text other) entries) = find? (.text name) entries :=
  find?_filter (p := fun key => !same (.text other) key) (by simp [same, hne.symm])

/-- At the key of a revision there is the revised value. -/
theorem find?_revise_self : find? (.text name) (revise (.text name) change value entries) =
    some (((find? (.text name) entries).map change).getD value) := by
  induction entries with
  | nil => simp [revise, find?, same]
  | cons head rest ih =>
    obtain ⟨k, old⟩ := head
    rw [revise, find?]
    cases hsame : same (.text name) k <;> simp [find?, hsame, ih]

/-- A revision at another key changes nothing at a text. -/
theorem find?_revise_other (hne : key ≠ .text name) :
    find? (.text name) (revise key change value entries) = find? (.text name) entries := by
  have hkey : same (.text name) key = false := Bool.eq_false_iff.2 fun h => hne (same_text_iff.1 h)
  induction entries with
  | nil => simp [revise, find?, hkey]
  | cons head rest ih =>
    obtain ⟨k, old⟩ := head
    rw [revise]
    cases hsame : same key k with
    | true =>
      have hk : same (.text name) k = false := Bool.eq_false_iff.2 fun h =>
        hne (same_text_right_iff.1 (same_text_iff.1 h ▸ hsame))
      simp [find?, hk]
    | false => simp only [Bool.false_eq_true, if_false, find?, ih]

/-- The keys of entries differ: no entry has the key of an earlier one. -/
def KeysDiffer (entries : List (Yaml × Yaml)) : Prop := entries.Pairwise fun earlier later => same later.1 earlier.1 = false

/-- Behind an entry nothing is found at its key. -/
theorem KeysDiffer.find?_rest (h : KeysDiffer ((.text name, value) :: entries)) : find? (.text name) entries = none := by
  rw [find?_eq_none_iff]
  intro e he
  have hother : same e.1 (.text name) = false := (List.pairwise_cons.1 h).1 e he
  rw [Bool.eq_false_iff] at hother ⊢
  exact fun hsame => hother (same_text_right_iff.2 (same_text_iff.1 hsame))

/-- A value that may be missing laid over another one: a missing value changes nothing and has nothing to be laid over. -/
def overlay? : Option Yaml → Option Yaml → Option Yaml
  | lower, none => lower
  | none, some upper => some upper
  | some lower, some upper => some (overlay lower upper)

/-- At a text an overlay has what the upper side has there laid over what the lower side has. -/
theorem find?_overlayEntries (name : String) (lower : List (Yaml × Yaml)) (h : KeysDiffer upper) :
    find? (.text name) (overlayEntries lower upper) = overlay? (find? (.text name) lower) (find? (.text name) upper) := by
  induction upper generalizing lower with
  | nil => rw [overlayEntries, find?, overlay?]
  | cons head rest ih =>
    obtain ⟨key, value⟩ := head
    rw [overlayEntries, ih _ (List.pairwise_cons.1 h).2]
    by_cases hkey : key = .text name
    · subst hkey
      rw [find?_revise_self, h.find?_rest, find?, if_pos (same_text_iff.2 rfl), overlay?]
      cases find? (.text name) lower <;> rfl
    · rw [find?_revise_other hkey, find?, if_neg fun h => hkey (same_text_iff.1 h)]

end Yaml

end StepEngine
