import StepEngine.Ident

/-!
# Naming: the text of a step instance names it

An identifier is read back from its text, hyphenated or plain: the digits of a number, read from the left, make the number again
(`Uuid.ofText?_text`, `Uuid.ofText?_plainText`). So the text of a workflow instance tells which one it is, and all these texts are of one
width. In the text of a step instance the name stands between two parts that can be told from it whatever it is: the workflow in front of it
by its width, and the index behind it because no number has a bracket in it, so that the last opening bracket is never one of the name.
-/

namespace StepEngine

/-! ## Hexadecimal digits -/

/-- A digit is read as its value. -/
theorem Digits.hex?_digitChar {d : Nat} (h : d < 16) : hex? (Nat.digitChar d) = some d := by
  have every : ∀ d : Fin 16, hex? (Nat.digitChar d) = some d.val := by decide
  exact every ⟨d, h⟩

namespace Uuid

/-- There is a digit for every place. -/
@[simp] theorem length_hexDigits (count n : Nat) : (hexDigits count n).length = count := by
  induction count generalizing n with
  | zero => rfl
  | succ count ih => rw [hexDigits, List.length_append, ih, List.length_singleton]

/-- The digits of a number are written in lower case. -/
theorem exists_of_mem_hexDigits {c : Char} {count n : Nat} (h : c ∈ hexDigits count n) : ∃ d < 16, c = Nat.digitChar d := by
  induction count generalizing n with
  | zero => cases h
  | succ count ih =>
    rw [hexDigits, List.mem_append, List.mem_singleton] at h
    obtain h | h := h
    · exact ih h
    · exact ⟨n % 16, Nat.mod_lt n (by decide), h⟩

/-- The digits of a number that the places suffice for, read from the left, make the number. -/
theorem foldlM_hexDigits {count n : Nat} (h : n < Nat.pow 16 count) :
    (hexDigits count n).foldlM (fun m c => (Digits.below? 16 c).map (m * 16 + ·)) 0 = some n := by
  -- The last digit is the remainder, and the digits in front of it are those of the quotient.
  induction count generalizing n with
  | zero =>
    obtain rfl : n = 0 := Nat.lt_one_iff.1 h
    rfl
  | succ count ih =>
    have hfront : n / 16 < Nat.pow 16 count := Nat.div_lt_of_lt_mul (Nat.mul_comm _ 16 ▸ h)
    have hlast : Digits.below? 16 (Nat.digitChar (n % 16)) = some (n % 16) := Digits.hex?_digitChar (Nat.mod_lt n (by decide))
    rw [hexDigits, List.foldlM_append, ih hfront]
    simp only [Option.bind_eq_bind, Option.bind_some, List.foldlM_cons, List.foldlM_nil, hlast, Option.map_some, Option.pure_def]
    rw [Nat.mul_comm, Nat.div_add_mod]

/-! ## The text of an identifier -/

variable (u : Uuid)

@[simp] theorem length_plainChars : u.plainChars.length = 32 := length_hexDigits 32 _

@[simp] theorem length_chars : u.chars.length = 36 := by simp [chars]

/-- The plain digits are read as the identifier. -/
theorem ofPlain?_plainChars : ofPlain? u.plainChars = some u := by
  have hlt : u.value.toNat < Nat.pow 16 32 := u.value.isLt
  have hnumber : Digits.number? 16 u.plainChars = some u.value.toNat := by
    rw [Digits.number?, if_neg (by simp [← List.length_eq_zero_iff]), plainChars, foldlM_hexDigits hlt]
  rw [ofPlain?, if_pos u.length_plainChars, hnumber, Option.map_some, ofNat, BitVec.ofNat_toNat, BitVec.setWidth_eq]

/-- Groups with hyphens between them are read as the digits without the hyphens. -/
theorem ofGrouped?_append {a b c d e : List Char} (ha : a.length = 8) (hb : b.length = 4) (hc : c.length = 4) (hd : d.length = 4)
    (he : e.length = 12) :
    ofGrouped? (a ++ '-' :: b ++ '-' :: c ++ '-' :: d ++ '-' :: e) = ofPlain? (a ++ b ++ c ++ d ++ e) := by
  rw [ofGrouped?, if_pos]
  · simp [List.drop_append, List.drop_eq_nil_of_le, ha, hb, hc, hd]
  · simp [ha, hb, hc, hd, he]

/-- The groups, put together, are the digits. -/
theorem groups_append (ds : List Char) :
    ds.take 8 ++ (ds.drop 8).take 4 ++ (ds.drop 12).take 4 ++ (ds.drop 16).take 4 ++ ds.drop 20 = ds := by
  have group : ∀ i n, (ds.drop i).take n ++ ds.drop (i + n) = ds.drop i := fun i n => by
    rw [← List.drop_drop, List.take_append_drop]
  rw [List.append_assoc _ _ (ds.drop 20), group 16 4, List.append_assoc _ _ (ds.drop 16), group 12 4,
    List.append_assoc _ _ (ds.drop 12), group 8 4, List.take_append_drop]

/-- The hyphenated digits are read as the plain ones. -/
theorem ofGrouped?_chars : ofGrouped? u.chars = ofPlain? u.plainChars := by
  have hgroups := ofGrouped?_append (a := u.plainChars.take 8) (b := (u.plainChars.drop 8).take 4) (c := (u.plainChars.drop 12).take 4)
    (d := (u.plainChars.drop 16).take 4) (e := u.plainChars.drop 20)
  rw [groups_append] at hgroups
  exact hgroups (by simp) (by simp) (by simp) (by simp) (by simp)

/-- A text that starts with a digit has neither a mark nor a brace in front: its length tells whether it has hyphens. -/
theorem ofChars?_digit {d : Nat} (h : d < 16) (rest : List Char) :
    ofChars? (Nat.digitChar d :: rest) =
      if (Nat.digitChar d :: rest).length = 32 then ofPlain? (Nat.digitChar d :: rest) else ofGrouped? (Nat.digitChar d :: rest) := by
  have every : ∀ d : Fin 16, (Nat.digitChar d).toLower ≠ 'u' ∧ Nat.digitChar d ≠ '\x7b' := by decide
  obtain ⟨hmark, hbrace⟩ := every ⟨d, h⟩
  have hplain : isMark ((Nat.digitChar d :: rest).take 9) = false := by
    refine decide_eq_false fun heq => ?_
    rw [List.take_succ_cons, List.map_cons] at heq
    exact hmark (List.cons.inj heq).1
  rw [ofChars?, hplain, if_neg Bool.false_ne_true]
  exact fun _ heq => hbrace (List.cons.inj heq).1

/-- The digits start with a digit, with and without hyphens. -/
theorem exists_chars_eq_cons : ∃ d < 16, (∃ rest, u.plainChars = Nat.digitChar d :: rest) ∧ ∃ rest, u.chars = Nat.digitChar d :: rest := by
  obtain ⟨c, rest, hplain⟩ := List.exists_cons_of_length_pos (l := u.plainChars) (by simp)
  obtain ⟨d, hd, rfl⟩ := exists_of_mem_hexDigits (c := c) (hplain ▸ List.mem_cons_self : c ∈ u.plainChars)
  exact ⟨d, hd, ⟨rest, hplain⟩, _, by rw [chars, hplain]; rfl⟩

/-- An identifier is read back from its text. -/
theorem ofText?_text : ofText? u.text = some u := by
  obtain ⟨d, hd, -, rest, hchars⟩ := u.exists_chars_eq_cons
  have hlength : ¬(Nat.digitChar d :: rest).length = 32 := by simp [← hchars]
  rw [ofText?, text, String.toList_ofList, hchars, ofChars?_digit hd, if_neg hlength, ← hchars, ofGrouped?_chars, ofPlain?_plainChars]

/-- An identifier is also read from its digits without hyphens. -/
theorem ofText?_plainText : ofText? u.plainText = some u := by
  obtain ⟨d, hd, ⟨rest, hplain⟩, -⟩ := u.exists_chars_eq_cons
  have hlength : (Nat.digitChar d :: rest).length = 32 := by simp [← hplain]
  rw [ofText?, plainText, String.toList_ofList, hplain, ofChars?_digit hd, if_pos hlength, ← hplain, ofPlain?_plainChars]

variable {u}

/-- Different identifiers have different texts. -/
theorem text_inj {v : Uuid} (h : u.text = v.text) : u = v := by
  have hread := u.ofText?_text
  rw [h, ofText?_text] at hread
  exact (Option.some.inj hread).symm

end Uuid

/-! ## The text of a step instance -/

/-- A list is split at the last of its marks in one way only. -/
theorem last_split_inj {α : Type} {mark : α} {front other back rest : List α} (hback : mark ∉ back) (hrest : mark ∉ rest)
    (h : front ++ mark :: back = other ++ mark :: rest) : front = other ∧ back = rest := by
  -- If one of the fronts were longer, its mark would stand behind the mark of the other one.
  obtain ⟨between, rfl, hmark⟩ | ⟨between, rfl, hmark⟩ := List.append_eq_append_iff.1 h
  · cases between with
    | nil => exact ⟨(List.append_nil front).symm, (List.cons.inj hmark).2⟩
    | cons c between => exact absurd ((List.cons.inj hmark).2 ▸ List.mem_append_right between List.mem_cons_self) hback
  · cases between with
    | nil => exact ⟨List.append_nil other, (List.cons.inj hmark).2.symm⟩
    | cons c between => exact absurd ((List.cons.inj hmark).2 ▸ List.mem_append_right between List.mem_cons_self) hrest

namespace StepId

/-- What stands behind the last opening bracket. -/
def tail (s : StepId) : List Char := Nat.toDigits 10 s.index.toNat ++ [']']

/-- No bracket is opened in what stands behind the last one. -/
theorem bracket_notMem_tail (s : StepId) : '[' ∉ s.tail := by
  intro hmem
  rw [tail, List.mem_append, List.mem_singleton] at hmem
  obtain hdigit | hclosing := hmem
  · exact absurd (Nat.isDigit_of_mem_toDigits (by decide) (by decide) hdigit) (by decide)
  · exact absurd hclosing (by decide)

/-- The parts of the text. -/
theorem toList_text (s : StepId) : s.text.toList = s.workflow.text.toList ++ '/' :: (s.name.toList ++ '[' :: s.tail) := by
  simp [text, tail]

/-- Two step instances have the same text when they are the same, and only then: whatever their names are. -/
theorem text_identifies (a b : StepId) : a.text = b.text ↔ a = b := by
  refine ⟨fun h => ?_, congrArg text⟩
  have hchars : a.text.toList = b.text.toList := congrArg String.toList h
  rw [toList_text, toList_text] at hchars
  -- From the left, the workflow goes by its width; from the right, the index goes by the last bracket.
  obtain ⟨hworkflow, hrest⟩ := List.append_inj hchars (by simp [WorkflowId.text, Uuid.text])
  obtain ⟨hname, htail⟩ := last_split_inj a.bracket_notMem_tail b.bracket_notMem_tail (List.cons.inj hrest).2
  have hdigits : Nat.toDigits 10 a.index.toNat = Nat.toDigits 10 b.index.toNat := List.append_cancel_right htail
  have hindex : a.index.toNat = b.index.toNat := by
    rw [← Nat.ofDigitChars_ten_toDigits (n := a.index.toNat), hdigits, Nat.ofDigitChars_ten_toDigits]
  have huuid : a.workflow.uuid = b.workflow.uuid := Uuid.text_inj (String.toList_inj.1 hworkflow)
  obtain ⟨⟨_⟩, _, _⟩ := a
  obtain ⟨⟨_⟩, _, _⟩ := b
  cases huuid
  cases String.toList_inj.1 hname
  cases UInt32.toNat_inj.1 hindex
  rfl

end StepId

end StepEngine
