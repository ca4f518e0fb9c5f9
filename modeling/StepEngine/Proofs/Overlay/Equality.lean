import Mathlib.Data.List.Perm.Subperm
import StepEngine.Proofs.Keyed

/-!
# Equality: equal keys can stand for each other

A value is looked up at every key that is equal to its own, so look-ups behave only if equality of values does. It does where the keys of
every mapping differ: it is reflexive, symmetric and transitive there, although a mapping is compared entry by entry without regard for
order and its keys may be mappings themselves. Each entry of a mapping having an equal one in the other, and both having equally many, the
two correspond one to one (`sameEntries_symm`).
-/

namespace StepEngine

/-- Equal doubles are equal the other way round. -/
theorem Binary64.same_symm {x y : Binary64} (h : x.same y = true) : y.same x = true := by
  simp only [same, Bool.or_eq_true, Bool.and_eq_true, beq_iff_eq] at h ⊢
  exact h.imp Eq.symm And.symm

/-- Doubles that are equal to the same double are equal. -/
theorem Binary64.same_trans {x y z : Binary64} (hxy : x.same y = true) (hyz : y.same z = true) : x.same z = true := by
  simp only [same, Bool.or_eq_true, Bool.and_eq_true, beq_iff_eq] at *
  rcases hxy with rfl | hxy
  · exact hyz
  · rcases hyz with rfl | hyz
    · exact Or.inr hxy
    · exact Or.inr ⟨hxy.1, hyz.2⟩

namespace Yaml

variable {a b c : Yaml} {as bs cs : List Yaml} {es fs gs : List (Yaml × Yaml)}

/-! ## Values that are equal to a value -/

theorem same_null_iff : same .null b = true ↔ b = .null := by
  cases b <;> simp [same]

theorem same_bool_iff {value : Bool} : same (.bool value) b = true ↔ b = .bool value := by
  cases b with
  | bool other => simpa [same] using eq_comm
  | _ => simp [same]

theorem same_int_iff {value : Int} : same (.int value) b = true ↔ b = .int value := by
  cases b with
  | int other => simpa [same] using eq_comm
  | _ => simp [same]

theorem same_float_iff {x : Binary64} : same (.float x) b = true ↔ ∃ y, b = .float y ∧ x.same y = true := by
  cases b <;> simp [same]

theorem same_sequence_iff : same (.sequence as) b = true ↔ ∃ bs, b = .sequence bs ∧ sameItems as bs = true := by
  cases b <;> simp [same]

theorem same_mapping_iff :
    same (.mapping es) b = true ↔ ∃ fs, b = .mapping fs ∧ es.length = fs.length ∧ sameEntries es fs = true := by
  cases b <;> simp [same]

theorem same_tagged_iff {tag : String} : same (.tagged tag a) b = true ↔ ∃ value, b = .tagged tag value ∧ same a value = true := by
  cases b with
  | tagged other value =>
    rw [same, Bool.and_eq_true, beq_iff_eq]
    constructor
    · rintro ⟨rfl, hvalue⟩
      exact ⟨value, rfl, hvalue⟩
    · rintro ⟨_, heq, hvalue⟩
      cases heq
      exact ⟨rfl, hvalue⟩
  | _ => simp [same]

/-! ## Sequences and mappings -/

theorem sameItems_refl (h : ∀ a ∈ as, same a a = true) : sameItems as as = true := by
  induction as with
  | nil => rfl
  | cons a as ih =>
    obtain ⟨ha, has⟩ := List.forall_mem_cons.1 h
    rw [sameItems, ha, ih has]
    rfl

theorem sameItems_symm (h : ∀ a ∈ as, ∀ b ∈ bs, same a b = true → same b a = true) (hab : sameItems as bs = true) :
    sameItems bs as = true := by
  induction as generalizing bs with
  | nil => cases bs <;> simp_all [sameItems]
  | cons a as ih =>
    cases bs with
    | nil => cases hab
    | cons b bs =>
      simp only [sameItems, Bool.and_eq_true] at hab ⊢
      refine ⟨h a List.mem_cons_self b List.mem_cons_self hab.1, ih ?_ hab.2⟩
      exact fun a ha b hb => h a (List.mem_cons_of_mem _ ha) b (List.mem_cons_of_mem _ hb)

theorem sameItems_trans (h : ∀ a ∈ as, ∀ b c, same a b = true → same b c = true → same a c = true) (hab : sameItems as bs = true)
    (hbc : sameItems bs cs = true) : sameItems as cs = true := by
  induction as generalizing bs cs with
  | nil => cases bs <;> simp_all [sameItems]
  | cons a as ih =>
    obtain ⟨ha, has⟩ := List.forall_mem_cons.1 h
    cases bs with
    | nil => cases hab
    | cons b bs =>
      cases cs with
      | nil => cases hbc
      | cons c cs =>
        simp only [sameItems, Bool.and_eq_true] at hab hbc ⊢
        exact ⟨ha b c hab.1 hbc.1, ih has hab.2 hbc.2⟩

/-- Entries are among others if each of them has an equal one there. -/
theorem sameEntries_iff : sameEntries es fs = true ↔ ∀ e ∈ es, ∃ f ∈ fs, same e.1 f.1 = true ∧ same e.2 f.2 = true := by
  induction es with
  | nil => simp [sameEntries]
  | cons head rest ih => simp [sameEntries, ih, List.any_eq_true, Bool.and_eq_true]

/-- If the keys of a mapping differ, and each of its entries has an equal one in a mapping of the same length, each entry of that has an
equal one in the first: no two entries have the same one, so none is left over. -/
theorem sameEntries_symm (differ : KeysDiffer es) (length : es.length = fs.length) (hef : sameEntries es fs = true)
    (keys : ∀ e ∈ es, ∀ f ∈ fs, same e.1 f.1 = true → same f.1 e.1 = true)
    (values : ∀ e ∈ es, ∀ f ∈ fs, same e.2 f.2 = true → same f.2 e.2 = true)
    (trans : ∀ e ∈ es, ∀ b c, same e.1 b = true → same b c = true → same e.1 c = true) : sameEntries fs es = true := by
  choose! g hmem hkey hvalue using sameEntries_iff.1 hef
  have hne : (es.map g).Nodup := by
    rw [List.nodup_iff_pairwise_ne, List.pairwise_map]
    refine differ.imp_of_mem ?_
    intro e e' he he' hdiffer heq
    have hsame : same e'.1 e.1 = true := by
      refine trans e' he' _ _ (hkey e' he') ?_
      rw [← heq]
      exact keys e he _ (hmem e he) (hkey e he)
    rw [hsame] at hdiffer
    cases hdiffer
  have hsub : es.map g ⊆ fs := by
    intro f hf
    obtain ⟨e, he, rfl⟩ := List.mem_map.1 hf
    exact hmem e he
  have hperm : (es.map g).Perm fs := (List.subperm_of_subset hne hsub).perm_of_length_le (by simp [length])
  rw [sameEntries_iff]
  intro f hf
  obtain ⟨e, he, rfl⟩ := List.mem_map.1 (hperm.mem_iff.2 hf)
  exact ⟨e, he, keys e he _ (hmem e he) (hkey e he), values e he _ (hmem e he) (hvalue e he)⟩

/-! ## An equivalence -/

namespace WellKeyed

/-- A value is equal to itself. -/
theorem same_refl (h : WellKeyed a) : same a a = true := by
  induction h with
  | null => rfl
  | bool value => exact same_bool_iff.2 rfl
  | int value => exact same_int_iff.2 rfl
  | float value => exact same_float_iff.2 ⟨value, rfl, by simp [Binary64.same]⟩
  | text value => exact same_text_iff.2 rfl
  | sequence each ih => exact same_sequence_iff.2 ⟨_, rfl, sameItems_refl ih⟩
  | mapping differ keys values ihkeys ihvalues =>
    exact same_mapping_iff.2 ⟨_, rfl, rfl, sameEntries_iff.2 fun e he => ⟨e, he, ihkeys e he, ihvalues e he⟩⟩
  | tagged tag keyed ih => exact same_tagged_iff.2 ⟨_, rfl, ih⟩

/-- Values that are equal to the same value are equal. -/
theorem same_trans (h : WellKeyed a) (hab : same a b = true) (hbc : same b c = true) : same a c = true := by
  induction h generalizing b c with
  | null => exact same_null_iff.1 hab ▸ hbc
  | bool value => exact same_bool_iff.1 hab ▸ hbc
  | int value => exact same_int_iff.1 hab ▸ hbc
  | text value => exact same_text_iff.1 hab ▸ hbc
  | float value =>
    obtain ⟨y, rfl, hxy⟩ := same_float_iff.1 hab
    obtain ⟨z, rfl, hyz⟩ := same_float_iff.1 hbc
    exact same_float_iff.2 ⟨z, rfl, Binary64.same_trans hxy hyz⟩
  | sequence each ih =>
    obtain ⟨bs, rfl, hbs⟩ := same_sequence_iff.1 hab
    obtain ⟨cs, rfl, hcs⟩ := same_sequence_iff.1 hbc
    exact same_sequence_iff.2 ⟨cs, rfl, sameItems_trans (fun a ha b c => ih a ha) hbs hcs⟩
  | mapping differ keys values ihkeys ihvalues =>
    obtain ⟨fs, rfl, hlength, hfs⟩ := same_mapping_iff.1 hab
    obtain ⟨gs, rfl, hlength', hgs⟩ := same_mapping_iff.1 hbc
    refine same_mapping_iff.2 ⟨gs, rfl, hlength.trans hlength', sameEntries_iff.2 fun e he => ?_⟩
    obtain ⟨f, hf, hkey, hvalue⟩ := sameEntries_iff.1 hfs e he
    obtain ⟨g, hg, hkey', hvalue'⟩ := sameEntries_iff.1 hgs f hf
    exact ⟨g, hg, ihkeys e he hkey hkey', ihvalues e he hvalue hvalue'⟩
  | tagged tag keyed ih =>
    obtain ⟨b, rfl, hb⟩ := same_tagged_iff.1 hab
    obtain ⟨c, rfl, hc⟩ := same_tagged_iff.1 hbc
    exact same_tagged_iff.2 ⟨c, rfl, ih hb hc⟩

/-- Equal values are equal the other way round. -/
theorem same_symm (h : WellKeyed a) (h' : WellKeyed b) (hab : same a b = true) : same b a = true := by
  induction h generalizing b with
  | null => exact same_null_iff.1 hab ▸ same_null_iff.2 rfl
  | bool value => exact same_bool_iff.1 hab ▸ same_bool_iff.2 rfl
  | int value => exact same_int_iff.1 hab ▸ same_int_iff.2 rfl
  | text value => exact same_text_iff.1 hab ▸ same_text_iff.2 rfl
  | float value =>
    obtain ⟨y, rfl, hxy⟩ := same_float_iff.1 hab
    exact same_float_iff.2 ⟨value, rfl, Binary64.same_symm hxy⟩
  | sequence each ih =>
    obtain ⟨bs, rfl, hbs⟩ := same_sequence_iff.1 hab
    cases h' with
    | sequence each' => exact same_sequence_iff.2 ⟨_, rfl, sameItems_symm (fun a ha b hb => ih a ha (each' b hb)) hbs⟩
  | mapping differ keys values ihkeys ihvalues =>
    obtain ⟨fs, rfl, hlength, hfs⟩ := same_mapping_iff.1 hab
    cases h' with
    | mapping differ' keys' values' =>
      refine same_mapping_iff.2 ⟨_, rfl, hlength.symm, sameEntries_symm differ hlength hfs ?_ ?_ ?_⟩
      · exact fun e he f hf => ihkeys e he (keys' f hf)
      · exact fun e he f hf => ihvalues e he (values' f hf)
      · exact fun e he b c => (keys e he).same_trans
  | tagged tag keyed ih =>
    obtain ⟨b, rfl, hb⟩ := same_tagged_iff.1 hab
    cases h' with
    | tagged tag' keyed' => exact same_tagged_iff.2 ⟨_, rfl, ih keyed' hb⟩

/-- Of two equal keys each is equal to whatever the other one is equal to. -/
theorem same_congr_left (ha : WellKeyed a) (hb : WellKeyed b) (hab : same a b = true) : same a c = same b c := by
  rw [Bool.eq_iff_iff]
  exact ⟨fun hac => hb.same_trans (ha.same_symm hb hab) hac, fun hbc => ha.same_trans hab hbc⟩

/-- A key is equal to one of two equal keys if it is to the other. -/
theorem same_congr_right (ha : WellKeyed a) (hb : WellKeyed b) (hc : WellKeyed c) (hbc : same b c = true) : same a b = same a c := by
  rw [Bool.eq_iff_iff]
  exact ⟨fun hab => ha.same_trans hab hbc, fun hac => ha.same_trans hac (hb.same_symm hc hbc)⟩

end WellKeyed

end Yaml

end StepEngine
