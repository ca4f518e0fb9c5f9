import StepEngine.Proofs.Scopes

/-!
# Merges: changes that agree may come in any order

What a scope has after some requests, none of which drops it, is what was merged into it meanwhile, one after the other over what it had
(`Store.get?_serve`); all that happens to other scopes makes no difference. So the order of the requests matters only as far as it is
the order of the changes, and changes of which any two agree leave the same data in every order, with nothing of them lost. Whether changes
agree or not, a row of merges comes to one merge of all that they bring.
-/

namespace StepEngine

variable {κ : Type} [DecidableEq κ] [Scope κ]

/-- A store after some requests. -/
def Store.serve (s : Store κ) (requests : List (StoreOp κ)) : Store κ := requests.foldl (fun s op => (op.run s).2) s

/-- Requests among which these changes are merged into a scope, in this order. Between the merges there may be any other requests, about
this scope or another one, as long as the scope is not dropped. -/
structure StoreOp.Merging (scope : κ) (deltas : List Data) (requests : List (StoreOp κ)) : Prop where
  keeps : ∀ op ∈ requests, op.drops scope = false
  deltas_eq : requests.filterMap (·.deltaOf? scope) = deltas

namespace StoreOp

variable {scope other : κ} {op : StoreOp κ}

/-- A request about another scope drops nothing here. -/
theorem drops_of_other (about : op.scope? = some other) (hne : other ≠ scope) : op.drops scope = false := by
  cases op with
  | remove removed =>
    cases about
    exact decide_eq_false hne
  | purge workflow => cases about
  | _ => rfl

omit [Scope κ] in
/-- A request about another scope merges nothing here. -/
theorem deltaOf?_of_other (about : op.scope? = some other) (hne : other ≠ scope) : op.deltaOf? scope = none := by
  cases op with
  | merge merged delta =>
    cases about
    exact if_neg hne
  | _ => rfl

/-- A purge of a workflow drops nothing of the others. -/
theorem drops_purge {workflow : WorkflowId} (hne : Scope.owner scope ≠ workflow) : (purge workflow).drops scope = false :=
  decide_eq_false hne

/-- A request that does not drop a scope leaves its data there, with what it merges into them. -/
theorem after_of_keeps (h : op.drops scope = false) (data : Data) :
    op.after scope (some data) = some ((op.deltaOf? scope).toList.foldl Dict.merge data) := by
  rw [after, h, if_neg Bool.false_ne_true]
  cases op.deltaOf? scope <;> rfl

end StoreOp

namespace Store

variable {s : Store κ} {scope : κ} {data : Data} {deltas : List Data} {requests : List (StoreOp κ)}

/-- While a scope is not dropped, it has what it had with all that is merged into it, one after the other. -/
theorem get?_serve (held : s.entries.get? scope = some data) (h : StoreOp.Merging scope deltas requests) :
    (s.serve requests).entries.get? scope = some (deltas.foldl Dict.merge data) := by
  obtain ⟨keeps, rfl⟩ := h
  induction requests generalizing s data with
  | nil => exact held
  | cons op rest ih =>
    obtain ⟨hop, hrest⟩ := List.forall_mem_cons.1 keeps
    have hheld : (op.run s).2.entries.get? scope = some ((op.deltaOf? scope).toList.foldl Dict.merge data) := by
      rw [StoreOp.get?_run, held, StoreOp.after_of_keeps hop]
    have hlater : ((op.run s).2.serve rest).entries.get? scope = _ := ih hheld hrest
    rw [serve, List.foldl_cons, ← serve, hlater, ← List.foldl_append]
    cases hdelta : op.deltaOf? scope with
    | none => rw [List.filterMap_cons_none hdelta, Option.toList_none, List.nil_append]
    | some delta => rw [List.filterMap_cons_some hdelta, Option.toList_some, List.singleton_append]

/-- A merge that is made twice in a row has the answer and the effect of the first. -/
theorem run_merge_again (s : Store κ) (scope : κ) (delta : Data) :
    (StoreOp.merge scope delta).run ((StoreOp.merge scope delta).run s).2 = (StoreOp.merge scope delta).run s := by
  cases hget : s.entries.get? scope with
  | none => simp only [StoreOp.run, merge, hget]
  | some data =>
    have hput : (s.entries.put scope (data.merge delta)).put scope (data.merge delta) = s.entries.put scope (data.merge delta) :=
      Table.put_of_get? Table.get?_put_self
    simp only [StoreOp.run, merge, hget, Table.get?_put_self, Dict.merge_merge_self, hput]

end Store

section

variable (κ)

/-- What becomes of the merges into a scope that has data. -/
structure Store.Merges : Prop where
  /-- If any two of the changes agree where they share a key, there is one result for all orders in which they are merged and for all that
  happens to other scopes in between, and it has what each of the changes brings. -/
  commute (s : Store κ) (scope : κ) (data : Data) (deltas : List Data) : s.read scope = .ok data →
    (∀ x ∈ deltas, ∀ y ∈ deltas, x.Agree y) →
      ∃ result : Data, (∀ order requests, order.Perm deltas → StoreOp.Merging scope order requests →
          (s.serve requests).read scope = .ok result) ∧
        ∀ delta ∈ deltas, ∀ key value, delta.get? key = some value → result.get? key = some value
  /-- Changes without a common key agree. -/
  disjoint (x y : Data) : (∀ key, ¬ (x.contains key = true ∧ y.contains key = true)) → x.Agree y
  /-- Requests about other scopes may come anywhere, also those that remove scopes or purge other workflows. -/
  interleave (scope : κ) (deltas : List Data) (before after : List (StoreOp κ)) (op : StoreOp κ) :
    StoreOp.Merging scope deltas (before ++ after) →
      ((∃ other, op.scope? = some other ∧ other ≠ scope) ∨ ∃ workflow, op = .purge workflow ∧ Scope.owner scope ≠ workflow) →
        StoreOp.Merging scope deltas (before ++ op :: after)
  /-- Changes merged one after the other, whether they agree or not, leave what one merge of their fold leaves. -/
  fuse (s : Store κ) (scope : κ) (deltas : List Data) (requests : List (StoreOp κ)) : s.contains scope = true →
    StoreOp.Merging scope deltas requests →
      (s.serve requests).read scope = (s.serve [.merge scope (deltas.foldl Dict.merge Dict.empty)]).read scope
  /-- A change merged twice in a row has the answer and the effect of the first merge. -/
  again (s : Store κ) (scope : κ) (delta : Data) :
    (StoreOp.merge scope delta).run ((StoreOp.merge scope delta).run s).2 = (StoreOp.merge scope delta).run s

/-- Merges into a scope of a store commute where they agree, and fuse. -/
theorem merges_commute_and_fuse : Store.Merges κ where
  commute := by
    intro s scope data deltas hread agree
    refine ⟨deltas.foldl Dict.merge data, ?_, ?_⟩
    · intro order requests perm merging
      rw [Store.read_eq_ok, Store.get?_serve (Store.read_eq_ok.1 hread) merging, Dict.foldl_merge_perm perm agree]
    · intro delta hmem key value hvalue
      exact Dict.get?_foldl_merge agree hmem hvalue data
  disjoint := by
    intro x y apart key v w hv hw
    have hboth : x.contains key = true ∧ y.contains key = true := by
      rw [Dict.contains, Dict.contains, hv, hw]
      exact ⟨rfl, rfl⟩
    exact absurd hboth (apart key)
  interleave := by
    intro scope deltas before after op merging elsewhere
    have hop : op.drops scope = false ∧ op.deltaOf? scope = none := by
      rcases elsewhere with ⟨other, about, hne⟩ | ⟨workflow, rfl, hne⟩
      · exact ⟨StoreOp.drops_of_other about hne, StoreOp.deltaOf?_of_other about hne⟩
      · exact ⟨StoreOp.drops_purge hne, rfl⟩
    refine ⟨?_, ?_⟩
    · intro other hother
      rcases List.mem_append.1 hother with hbefore | hafter
      · exact merging.keeps other (List.mem_append_left after hbefore)
      · rcases List.mem_cons.1 hafter with rfl | hafter
        · exact hop.1
        · exact merging.keeps other (List.mem_append_right before hafter)
    · rw [List.filterMap_append, List.filterMap_cons_none hop.2, ← List.filterMap_append, merging.deltas_eq]
  fuse := by
    intro s scope deltas requests hcontains merging
    obtain ⟨data, held⟩ := Table.exists_of_contains hcontains
    have hone : StoreOp.Merging scope [deltas.foldl Dict.merge Dict.empty] [.merge scope (deltas.foldl Dict.merge Dict.empty)] :=
      ⟨by simp [StoreOp.drops], by simp [StoreOp.deltaOf?]⟩
    refine Store.read_congr ?_
    rw [Store.get?_serve held merging, Store.get?_serve held hone, Dict.foldl_merge]
    rfl
  again := Store.run_merge_again

end

end StepEngine
