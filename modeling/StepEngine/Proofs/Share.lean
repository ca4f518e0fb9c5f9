import StepEngine.Proofs.Scopes
import StepEngine.Proofs.Tokens

/-!
# Share: the part of the engine that belongs to some workflows

The stores, the inputs and the async keys of all workflows are kept in the same tables. A share is the part of them that belongs to some of
the workflows: the rows that they own, in their order, and which tokens are used up (`Share.Agree`). A request that names nothing outside
of a share is answered alike where the share is the same, and leaves it the same; a request that names nothing inside leaves it as it is.
-/

namespace StepEngine

/-! ## Rows of a table -/

namespace Table

variable {κ α : Type} {t t' : Table κ α} {p q : κ → α → Bool} {f : α → α} {key : κ} {value : α}

/-- The rows that satisfy a condition, with what is told of their values. -/
def shown (t : Table κ α) (p : κ → α → Bool) (f : α → α) : Table κ α where
  rows := (t.filter p).rows.map fun row => (row.1, f row.2)
  nodup := by
    rw [List.map_map]
    exact (t.filter p).nodup

theorem rows_shown : (t.shown p f).rows = (t.rows.filter fun row => p row.1 row.2).map fun row => (row.1, f row.2) := rfl

/-- As many rows are shown as satisfy the condition. -/
theorem size_shown : (t.shown p f).size = (t.filter p).size := List.length_map _

/-- Rows that are shown under a stronger condition are those among the rows shown. -/
theorem filter_shown (stronger : ∀ k v, q k v = true → p k v = true) (same : ∀ k v, q k (f v) = q k v) :
    (t.shown p f).filter q = t.shown q f := by
  have hrows : (t.rows.filter fun row => p row.1 row.2).filter (fun row => q row.1 row.2) = t.rows.filter fun row => q row.1 row.2 := by
    rw [List.filter_filter]
    refine List.filter_congr fun row _ => Bool.eq_iff_iff.2 ?_
    rw [Bool.and_eq_true]
    exact ⟨And.left, fun h => ⟨h, stronger _ _ h⟩⟩
  refine ext_rows ?_
  simp only [shown, filter, List.filter_map, Function.comp_def, same, hrows]

/-- If the same rows are shown under a condition, so are they under a stronger one. -/
theorem shown_mono (h : t.shown p f = t'.shown p f) (stronger : ∀ k v, q k v = true → p k v = true)
    (same : ∀ k v, q k (f v) = q k v) : t.shown q f = t'.shown q f := by
  rw [← filter_shown stronger same, h, filter_shown stronger same]

/-- A filter that tells values no better than what is told of them acts on what is shown. -/
theorem shown_filter (same : ∀ k v, p k v = true → q k (f v) = q k v) : (t.filter q).shown p f = (t.shown p f).filter q := by
  refine ext_rows ?_
  simp only [shown, filter, List.filter_map, Function.comp_def, List.filter_filter]
  refine congrArg _ (List.filter_congr fun row _ => ?_)
  cases hp : p row.1 row.2 with
  | false => rw [Bool.false_and, Bool.and_false]
  | true => rw [same _ _ hp, Bool.true_and, Bool.and_true]

/-- A filter that nothing shown is lost by. -/
theorem shown_filter_of_imp (kept : ∀ k v, p k v = true → q k v = true) : (t.filter q).shown p f = t.shown p f := by
  refine ext_rows ?_
  simp only [shown, filter, List.filter_filter]
  refine congrArg _ (List.filter_congr fun row _ => Bool.eq_iff_iff.2 ?_)
  rw [Bool.and_eq_true]
  exact ⟨And.left, fun h => ⟨h, kept _ _ h⟩⟩

/-- A table is as much larger than its filtered rows as there are others. -/
theorem size_sub_filter : t.size - (t.filter p).size = (t.filter fun k v => !p k v).size := by
  have hsplit := t.rows.length_eq_length_filter_add fun row => p row.1 row.2
  simp only [size, filter]
  omega

variable [DecidableEq κ]

/-- What is shown at a key. -/
theorem get?_shown : (t.shown p f).get? key = ((t.get? key).filter (p key)).map f := by
  rw [← get?_filter, get?, shown, List.find?_map, Option.map_map, get?, Option.map_map]
  rfl

/-- A value that replaces one of which the same condition holds. -/
theorem rows_filter_put {old : α} (h : t.get? key = some old) (same : p key value = p key old) :
    (t.put key value).rows.filter (fun row => p row.1 row.2) =
      (t.rows.filter fun row => p row.1 row.2).map fun row => if row.1 = key then (row.1, value) else row := by
  rw [put, dif_pos (contains_of_get? h), modify, List.filter_map]
  simp only [Function.comp_def]
  refine congrArg _ (List.filter_congr fun row hmem => ?_)
  split
  · rename_i hkey
    have hvalue : row = (key, old) := List.inj_on_of_nodup_map t.nodup hmem (get?_eq_some_iff.1 h) hkey
    rw [hvalue, same]
  · rfl

/-- A new key with its value comes last. -/
theorem put_of_get?_none (h : t.get? key = none) : (t.put key value).rows = t.rows ++ [(key, value)] := by
  rw [put, dif_neg (by rw [get?_eq_none_iff.1 h]; exact Bool.false_ne_true)]

/-- A value that is shown, put where there is none or one that is shown too. -/
theorem shown_put_of_pos (hold : ∀ old, t.get? key = some old → p key old = true) (h : p key value = true) :
    (t.put key value).shown p f = (t.shown p f).put key (f value) := by
  cases hget : t.get? key with
  | none =>
    have hshown : (t.shown p f).get? key = none := by rw [get?_shown, hget]; rfl
    refine ext_rows ?_
    rw [put_of_get?_none hshown, rows_shown, put_of_get?_none hget, rows_shown]
    simp [h]
  | some old =>
    have hshown : (t.shown p f).get? key = some (f old) := by
      rw [get?_shown, hget, Option.filter_some, if_pos (hold old hget), Option.map_some]
    refine ext_rows ?_
    rw [rows_shown, rows_filter_put hget (h.trans (hold old hget).symm), put, dif_pos (contains_of_get? hshown)]
    simp only [modify, rows_shown, List.map_map, Function.comp_def]
    refine List.map_congr_left fun row _ => ?_
    split <;> rfl

/-- A value that is not shown, put where there is none or one that is not shown either. -/
theorem shown_put_of_neg (hold : ∀ old, t.get? key = some old → p key old = false) (h : p key value = false) :
    (t.put key value).shown p f = t.shown p f := by
  cases hget : t.get? key with
  | none =>
    refine ext_rows ?_
    rw [rows_shown, put_of_get?_none hget, rows_shown]
    simp [h]
  | some old =>
    refine ext_rows ?_
    rw [rows_shown, rows_filter_put hget (h.trans (hold old hget).symm), List.map_map, rows_shown]
    refine List.map_congr_left fun row hmem => ?_
    obtain ⟨hrow, hp⟩ := List.mem_filter.1 hmem
    have hne : row.1 ≠ key := by
      intro hkey
      rw [hkey, hold row.2 (get?_eq_some_iff.2 (hkey ▸ hrow))] at hp
      cases hp
    rw [Function.comp_apply, if_neg hne]

/-- A value that is modified is put. -/
theorem modify_eq_put {f : α → α} (h : t.get? key = some value) : t.modify key f = t.put key (f value) := by
  rw [put, dif_pos (contains_of_get? h)]
  refine ext_rows (List.map_congr_left fun row hrow => ?_)
  split
  · rename_i hkey
    have hvalue : row = (key, value) := List.inj_on_of_nodup_map t.nodup hrow (get?_eq_some_iff.1 h) hkey
    rw [hvalue]
  · rfl

end Table

/-! ## Stores -/

section

variable {κ : Type} [Scope κ]

/-- The scopes that some workflows own, with their data. -/
def Store.shown (s : Store κ) (owns : WorkflowId → Bool) : Table κ Data := s.entries.shown (fun scope _ => owns (Scope.owner scope)) id

/-- The request names only scopes and workflows of which something holds. One that goes through the whole store names them all. -/
def StoreOp.Within (owns : WorkflowId → Bool) : StoreOp κ → Prop
  | .seed scope _ => owns (Scope.owner scope) = true
  | .read scope => owns (Scope.owner scope) = true
  | .snapshot scope => owns (Scope.owner scope) = true
  | .merge scope _ => owns (Scope.owner scope) = true
  | .contains scope => owns (Scope.owner scope) = true
  | .remove scope => owns (Scope.owner scope) = true
  | .purge workflow => owns workflow = true
  | .size => False
  | .isEmpty => False

/-- A workflow of which something does not hold does not own the scopes that it holds of. -/
theorem not_owner_of_owns {owns : WorkflowId → Bool} {workflow : WorkflowId} (other : owns workflow = false) (scope : κ)
    (own : owns (Scope.owner scope) = true) : decide (Scope.owner scope ≠ workflow) = true := by
  refine decide_eq_true ?_
  rintro rfl
  exact Bool.false_ne_true (other.symm.trans own)

namespace Store

variable {s s' : Store κ} {owns : WorkflowId → Bool} {workflow : WorkflowId}

/-- The number of scopes that a workflow owns. -/
theorem size_sub_purge (s : Store κ) (workflow : WorkflowId) :
    s.size - (s.purge workflow).size = (s.entries.filter fun scope _ => Scope.owner scope = workflow).size := by
  rw [size, purge, size, Table.size_sub_filter]
  simp

/-- Workflows that own the same scopes have the same number of them. -/
theorem size_sub_purge_eq (h : s.shown owns = s'.shown owns) (own : owns workflow = true) :
    s.size - (s.purge workflow).size = s'.size - (s'.purge workflow).size := by
  rw [size_sub_purge, size_sub_purge, ← Table.size_shown (f := id), ← Table.size_shown (f := id)]
  refine congrArg _ (Table.shown_mono h (fun scope _ hscope => ?_) fun _ _ => rfl)
  rw [of_decide_eq_true hscope, own]

/-- Scopes dropped, as far as they are seen. -/
theorem shown_filter (s : Store κ) (keeps : κ → Bool) :
    (⟨s.entries.filter fun scope _ => keeps scope⟩ : Store κ).shown owns = (s.shown owns).filter fun scope _ => keeps scope :=
  Table.shown_filter (f := id) (q := fun scope _ => keeps scope) fun _ _ _ => rfl

/-- Scopes dropped of which none is seen. -/
theorem shown_filter_other {keeps : κ → Bool} (kept : ∀ scope, owns (Scope.owner scope) = true → keeps scope = true) :
    (⟨s.entries.filter fun scope _ => keeps scope⟩ : Store κ).shown owns = s.shown owns :=
  Table.shown_filter_of_imp (q := fun scope _ => keeps scope) fun scope _ => kept scope

variable [DecidableEq κ] {scope : κ}

/-- The data of a scope is seen by its owner. -/
theorem get?_shown (own : owns (Scope.owner scope) = true) : (s.shown owns).get? scope = s.entries.get? scope := by
  rw [shown, Table.get?_shown, Option.map_id]
  cases s.entries.get? scope with
  | none => rfl
  | some data => exact Option.filter_some.trans (if_pos own)

/-- Where the owner of a scope sees the same, the scope has the same data. -/
theorem get?_eq (h : s.shown owns = s'.shown owns) (own : owns (Scope.owner scope) = true) :
    s.entries.get? scope = s'.entries.get? scope := by rw [← get?_shown own, h, get?_shown own]

/-- Data put for a scope is seen by its owner. -/
theorem shown_put (own : owns (Scope.owner scope) = true) (data : Data) :
    (⟨s.entries.put scope data⟩ : Store κ).shown owns = (s.shown owns).put scope data :=
  Table.shown_put_of_pos (fun _ _ => own) own

/-- Data put for a scope is not seen by others. -/
theorem shown_put_other (other : owns (Scope.owner scope) = false) (data : Data) :
    (⟨s.entries.put scope data⟩ : Store κ).shown owns = s.shown owns :=
  Table.shown_put_of_neg (fun _ _ => other) other

/-- A scope that gets data, for its owner. -/
theorem shown_seed (h : s.shown owns = s'.shown owns) (own : owns (Scope.owner scope) = true) (defaults : Data) :
    (s.seed scope defaults).shown owns = (s'.seed scope defaults).shown owns := by
  rw [seed, contains, Table.contains_eq_isSome, get?_eq h own, seed, contains, Table.contains_eq_isSome]
  split
  · exact h
  · rw [shown_put own, shown_put own, h]

/-- A scope that gets data, for others. -/
theorem shown_seed_other (other : owns (Scope.owner scope) = false) (defaults : Data) :
    (s.seed scope defaults).shown owns = s.shown owns := by
  rw [seed]
  split
  · rfl
  · exact shown_put_other other defaults

end Store

namespace StoreOp

variable [DecidableEq κ] {s s' : Store κ} {owns : WorkflowId → Bool} {op : StoreOp κ}

/-- A request within a share is answered the same where the share is the same, and leaves it the same. -/
theorem run_agree (h : s.shown owns = s'.shown owns) (within : op.Within owns) :
    (op.run s).1 = (op.run s').1 ∧ (op.run s).2.shown owns = (op.run s').2.shown owns := by
  cases op with
  | seed scope defaults =>
    refine ⟨?_, Store.shown_seed h within defaults⟩
    show (s.entries.get? scope).getD defaults = (s'.entries.get? scope).getD defaults
    rw [Store.get?_eq h within]
  | read scope => exact ⟨Store.read_congr (Store.get?_eq h within), h⟩
  | snapshot scope => exact ⟨Store.read_congr (Store.get?_eq h within), h⟩
  | merge scope delta =>
    simp only [run, Store.merge, Store.get?_eq h within]
    cases s'.entries.get? scope with
    | none => exact ⟨rfl, h⟩
    | some data =>
      refine ⟨rfl, ?_⟩
      change (⟨s.entries.put scope (data.merge delta)⟩ : Store κ).shown owns =
        (⟨s'.entries.put scope (data.merge delta)⟩ : Store κ).shown owns
      rw [Store.shown_put within, Store.shown_put within, h]
  | contains scope =>
    refine ⟨?_, h⟩
    show s.entries.contains scope = s'.entries.contains scope
    rw [Table.contains_eq_isSome, Table.contains_eq_isSome, Store.get?_eq h within]
  | remove scope =>
    refine ⟨Store.get?_eq h within, ?_⟩
    show (s.remove scope).shown owns = (s'.remove scope).shown owns
    exact (Store.shown_filter s _).trans (h ▸ (Store.shown_filter s' _).symm)
  | purge workflow =>
    refine ⟨Store.size_sub_purge_eq h within, ?_⟩
    show (s.purge workflow).shown owns = (s'.purge workflow).shown owns
    exact (Store.shown_filter s _).trans (h ▸ (Store.shown_filter s' _).symm)
  | size => cases within
  | isEmpty => cases within

/-- A request that names nothing of a share leaves it as it is. -/
theorem shown_run_other (within : op.Within fun workflow => !owns workflow) : (op.run s).2.shown owns = s.shown owns := by
  cases op with
  | seed scope defaults => exact Store.shown_seed_other (Bool.not_eq_true' _ ▸ within) defaults
  | merge scope delta =>
    simp only [run, Store.merge]
    cases s.entries.get? scope with
    | none => rfl
    | some data => exact Store.shown_put_other (Bool.not_eq_true' _ ▸ within) _
  | remove scope =>
    refine Store.shown_filter_other fun other own => decide_eq_true ?_
    rintro rfl
    exact Bool.false_ne_true ((Bool.not_eq_true' _ ▸ within : owns (Scope.owner other) = false).symm.trans own)
  | purge workflow => exact Store.shown_filter_other (not_owner_of_owns (Bool.not_eq_true' _ ▸ within))
  | read scope => rfl
  | snapshot scope => rfl
  | contains scope => rfl
  | size => rfl
  | isEmpty => rfl

end StoreOp

end

end StepEngine
