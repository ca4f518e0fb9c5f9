import Mathlib.Data.Finset.Card
import Mathlib.Data.Finset.Dedup
import Mathlib.Data.List.TakeWhile
import StepEngine.Proofs.Dict
import StepEngine.Proofs.Table
import StepEngine.Store

/-!
# Scopes: what a store holds by the history of its requests

What a store answers can be told from the requests that were made before, without a store. Of a scope only the requests since it was
last dropped count, that is, since it was last removed or its workflow last purged: it has data exactly if one of them seeded it, and
its data are the values that the first seed brought with all that was merged in later (`StoreHistory.data?`). From this the answer of
every request is read off (`StoreHistory.answer`), and a store gives exactly these answers, whatever requests for however many scopes
were made and in which order.
-/

namespace StepEngine

namespace Store

variable {κ : Type} [DecidableEq κ] (s : Store κ) {scope other : κ}

/-! ## Looking up after each change -/

/-- A scope is read exactly when it has data. -/
theorem read_eq_ok [Scope κ] {s : Store κ} {data : Data} : s.read scope = .ok data ↔ s.entries.get? scope = some data := by
  rw [read]
  cases s.entries.get? scope <;> simp

/-- Stores that have the same data for a scope read the same there. -/
theorem read_congr [Scope κ] {s t : Store κ} (h : s.entries.get? scope = t.entries.get? scope) : s.read scope = t.read scope := by
  rw [read, read, h]

/-- After a seed the scope has the data it had, or those of the seed. -/
theorem get?_seed_self (defaults : Data) :
    (s.seed scope defaults).entries.get? scope = some ((s.entries.get? scope).getD defaults) := by
  rw [seed, contains, Table.contains_eq_isSome]
  cases hget : s.entries.get? scope with
  | none => exact Table.get?_put_self
  | some data => exact hget

/-- A seed leaves the other scopes alone. -/
theorem get?_seed_other (defaults : Data) (hne : other ≠ scope) :
    (s.seed scope defaults).entries.get? other = s.entries.get? other := by
  rw [seed]
  split
  · rfl
  · exact Table.get?_put_other hne

/-- A scope that has data is not seeded. -/
theorem seed_of_get? {data : Data} (h : s.entries.get? scope = some data) (defaults : Data) : s.seed scope defaults = s := by
  rw [seed, contains, Table.contains_of_get? h, if_pos rfl]

/-- A removed scope has no data. -/
theorem get?_remove_self : (s.remove scope).entries.get? scope = none := by
  simp [remove, Table.erase, Table.get?_filter]

/-- Removing a scope leaves the others alone. -/
theorem get?_remove_other (hne : other ≠ scope) : (s.remove scope).entries.get? other = s.entries.get? other := by
  rw [remove, Table.erase, Table.get?_filter]
  cases s.entries.get? other <;> simp [hne]

/-- A scope without data need not be removed. -/
theorem remove_of_get?_none (h : s.entries.get? scope = none) : s.remove scope = s := by
  have hall : ∀ row ∈ s.entries.rows, decide (row.1 ≠ scope) = true := by
    intro row hrow
    refine decide_eq_true fun heq => ?_
    rw [Table.get?_eq_some_iff.2 (heq ▸ hrow : (scope, row.2) ∈ s.entries.rows)] at h
    cases h
  have hrows : (s.remove scope).entries = s.entries := Table.ext_rows (List.filter_eq_self.2 hall)
  cases s
  exact congrArg Store.mk hrows

/-- A purge drops the scopes that the workflow owns, and only those. -/
theorem get?_purge [Scope κ] (workflow : WorkflowId) :
    (s.purge workflow).entries.get? scope = if Scope.owner scope = workflow then none else s.entries.get? scope := by
  rw [purge, Table.get?_filter]
  cases s.entries.get? scope <;> simp [Option.filter_some]

/-- A purge makes the store smaller by the number of scopes that the workflow owns. -/
theorem size_purged [Scope κ] (workflow : WorkflowId) :
    s.size - (s.purge workflow).size = (s.entries.keys.toFinset.filter fun scope => Scope.owner scope = workflow).card := by
  have hsplit := s.entries.rows.length_eq_length_filter_add fun row => decide (Scope.owner row.1 ≠ workflow)
  have hkeys : s.entries.keys.toFinset.filter (fun scope => Scope.owner scope = workflow) =
      (s.entries.keys.filter fun scope => Scope.owner scope = workflow).toFinset := by
    ext scope
    simp
  have hcard : (s.entries.keys.toFinset.filter fun scope => Scope.owner scope = workflow).card =
      (s.entries.rows.filter fun row => !decide (Scope.owner row.1 ≠ workflow)).length := by
    have hnodup : s.entries.keys.Nodup := s.entries.nodup
    rw [hkeys, List.toFinset_card_of_nodup (hnodup.filter _), Table.keys, List.filter_map, List.length_map]
    simp [Function.comp_def]
  rw [hcard]
  simp only [size, purge, Table.size, Table.filter]
  omega

end Store

/-- The requests made to a store, in order. -/
abbrev StoreHistory (κ : Type) := List (StoreOp κ)

namespace StoreOp

variable {κ : Type} [DecidableEq κ]

/-- The data with which a request seeds a scope, if it does. -/
def seedOf? (scope : κ) : StoreOp κ → Option Data
  | .seed seeded defaults => if seeded = scope then some defaults else none
  | _ => none

/-- What a request merges into a scope, if it does. -/
def deltaOf? (scope : κ) : StoreOp κ → Option Data
  | .merge merged delta => if merged = scope then some delta else none
  | _ => none

/-- A request removes a scope or purges the workflow that owns it. -/
def drops [Scope κ] (scope : κ) : StoreOp κ → Bool
  | .remove removed => removed = scope
  | .purge workflow => Scope.owner scope = workflow
  | _ => false

/-- The scope that a request seeds, if it seeds one. -/
def seeded? : StoreOp κ → Option κ
  | .seed scope _ => some scope
  | _ => none

/-- The one scope that a request is about, if it is about one. -/
def scope? : StoreOp κ → Option κ
  | .seed scope _ | .read scope | .snapshot scope | .merge scope _ | .contains scope | .remove scope => some scope
  | .purge _ | .size | .isEmpty => none

/-- A seed merges nothing. -/
theorem deltaOf?_of_seedOf? {op : StoreOp κ} {scope : κ} {defaults : Data} (h : op.seedOf? scope = some defaults) :
    op.deltaOf? scope = none := by
  cases op <;> first | rfl | cases h

/-- A request that seeds a scope seeds that scope. -/
theorem seeded?_of_seedOf? {op : StoreOp κ} {scope : κ} {defaults : Data} (h : op.seedOf? scope = some defaults) :
    op.seeded? = some scope := by
  cases op with
  | seed seeded values =>
    rw [seedOf?] at h
    split at h
    · rename_i heq
      exact congrArg some heq
    · cases h
  | _ => cases h

variable [Scope κ]

/-- What a request makes of the data of a scope. -/
def after (op : StoreOp κ) (scope : κ) (before : Option Data) : Option Data :=
  if op.drops scope then none
  else
    match before with
    | none => op.seedOf? scope
    | some data => some ((op.deltaOf? scope).elim data data.merge)

/-- A request about one scope leaves the others as they are. -/
theorem after_other {op : StoreOp κ} {scope other : κ} (h : op.scope? = some scope) (hne : other ≠ scope) (before : Option Data) :
    op.after other before = before := by
  unfold after
  cases op <;> cases h <;> cases before <;> simp [drops, seedOf?, deltaOf?, Ne.symm hne]

/-- A store has for a scope what the request made of its data. -/
theorem get?_run (s : Store κ) (op : StoreOp κ) (scope : κ) :
    (op.run s).2.entries.get? scope = op.after scope (s.entries.get? scope) := by
  cases op with
  | seed seeded defaults =>
    change (s.seed seeded defaults).entries.get? scope = _
    by_cases hne : scope = seeded
    · subst hne
      rw [Store.get?_seed_self]
      cases s.entries.get? scope <;> simp [after, drops, seedOf?, deltaOf?]
    · rw [Store.get?_seed_other s defaults hne, after_other rfl hne]
  | merge merged delta =>
    by_cases hne : scope = merged
    · subst hne
      cases hget : s.entries.get? scope <;> simp [run, Store.merge, after, drops, seedOf?, deltaOf?, hget, Table.get?_put_self]
    · rw [after_other rfl hne]
      cases hget : s.entries.get? merged <;> simp [run, Store.merge, hget, Table.get?_put_other hne]
  | remove removed =>
    change (s.remove removed).entries.get? scope = _
    by_cases hne : scope = removed
    · subst hne
      rw [Store.get?_remove_self]
      simp [after, drops]
    · rw [Store.get?_remove_other s hne, after_other rfl hne]
  | purge workflow =>
    change (s.purge workflow).entries.get? scope = _
    rw [Store.get?_purge]
    cases s.entries.get? scope <;> simp [after, drops, seedOf?, deltaOf?]
  | _ => cases hget : s.entries.get? scope <;> simp [run, after, drops, seedOf?, deltaOf?, hget]

end StoreOp

namespace StoreHistory

variable {κ : Type} [DecidableEq κ] [Scope κ]

/-! ## The reference -/

/-- The requests since a scope was last dropped. -/
def since (history : StoreHistory κ) (scope : κ) : StoreHistory κ :=
  (history.reverse.takeWhile fun op => !op.drops scope).reverse

/-- The requests since a scope was last dropped, from the one on that seeded it. -/
def tenure (history : StoreHistory κ) (scope : κ) : StoreHistory κ :=
  (history.since scope).dropWhile fun op => (op.seedOf? scope).isNone

/-- The values that the first seed of a scope since it was last dropped brought. -/
def defaults? (history : StoreHistory κ) (scope : κ) : Option Data := (history.since scope).findSome? (·.seedOf? scope)

/-- What was merged into a scope since it was seeded, in order. -/
def deltas (history : StoreHistory κ) (scope : κ) : List Data := (history.tenure scope).filterMap (·.deltaOf? scope)

/-- The data of a scope: all that was merged into it since it was seeded, one after the other over the values of that seed. -/
def data? (history : StoreHistory κ) (scope : κ) : Option Data :=
  (history.defaults? scope).map fun defaults => (history.deltas scope).foldl Dict.merge defaults

/-- The scopes that have data: some of those that were ever seeded. -/
def scopes (history : StoreHistory κ) : Finset κ :=
  (history.filterMap (·.seeded?)).toFinset.filter fun scope => (history.data? scope).isSome

/-- The data of a scope, or that it is not found. -/
def read (history : StoreHistory κ) (scope : κ) : Except StoreError Data :=
  match history.data? scope with
  | some data => .ok data
  | none => .error (Scope.notFound scope)

/-- What the history says about a request: the data as they are after it, and how many scopes there are or are dropped. -/
def answer (history : StoreHistory κ) : (op : StoreOp κ) → op.Answer
  | .seed scope defaults => ((history.data? scope).getD defaults : Data)
  | .read scope => history.read scope
  | .snapshot scope => history.read scope
  | .merge scope delta => history.read scope |>.map (·.merge delta)
  | .contains scope => (history.data? scope).isSome
  | .remove scope => history.data? scope
  | .purge workflow => (history.scopes.filter fun scope => Scope.owner scope = workflow).card
  | .size => history.scopes.card
  | .isEmpty => decide (history.scopes = ∅)

/-- The store after the requests. -/
def store (history : StoreHistory κ) : Store κ := history.foldl (fun s op => (op.run s).2) Store.empty

/-! ## The reference, one request later -/

variable {history : StoreHistory κ} {op : StoreOp κ} {scope : κ} {data : Data}

/-- A request that drops the scope begins its time anew; any other adds to it. -/
theorem since_concat : since (history ++ [op]) scope = if op.drops scope then [] else history.since scope ++ [op] := by
  rw [since, List.reverse_append, List.reverse_singleton, List.singleton_append, List.takeWhile_cons]
  cases op.drops scope with
  | true => rfl
  | false => simp [since]

/-- The values of the first seed stay; without a seed so far, those of the new request count. -/
theorem defaults?_concat (h : op.drops scope = false) :
    defaults? (history ++ [op]) scope = (history.defaults? scope).or (op.seedOf? scope) := by
  simp [defaults?, since_concat, h, List.findSome?_append]

/-- As long as a scope was not seeded, nothing counts that was done about it. -/
theorem tenure_eq_nil (h : history.defaults? scope = none) : history.tenure scope = [] :=
  List.dropWhile_eq_nil_iff.2 fun op hop => Option.isNone_iff_eq_none.2 (List.findSome?_eq_none_iff.1 h op hop)

/-- Once a scope was seeded, everything done about it counts. -/
theorem tenure_ne_nil {defaults : Data} (h : history.defaults? scope = some defaults) : history.tenure scope ≠ [] := by
  intro hnil
  rw [defaults?, List.findSome?_eq_none_iff.2 fun op hop => Option.isNone_iff_eq_none.1 (List.dropWhile_eq_nil_iff.1 hnil op hop)] at h
  cases h

/-- While a scope is not seeded, no changes are counted for it. -/
theorem deltas_concat_absent (h : op.drops scope = false) (absent : history.defaults? scope = none) :
    deltas (history ++ [op]) scope = [] := by
  rw [deltas, tenure, since_concat, h, if_neg Bool.false_ne_true, List.dropWhile_append,
    show List.dropWhile _ (history.since scope) = [] from tenure_eq_nil absent]
  cases hseed : op.seedOf? scope with
  | none => simp [hseed]
  | some defaults => simp [hseed, StoreOp.deltaOf?_of_seedOf? hseed]

/-- In a scope that is seeded, the changes of the new request are the last. -/
theorem deltas_concat {defaults : Data} (h : op.drops scope = false) (seeded : history.defaults? scope = some defaults) :
    deltas (history ++ [op]) scope = history.deltas scope ++ (op.deltaOf? scope).toList := by
  have hne : ¬ (List.dropWhile (fun op => (op.seedOf? scope).isNone) (history.since scope)).isEmpty = true := by
    rw [List.isEmpty_iff]
    exact tenure_ne_nil seeded
  rw [deltas, tenure, since_concat, h, if_neg Bool.false_ne_true, List.dropWhile_append, if_neg hne, List.filterMap_append]
  cases hdelta : op.deltaOf? scope <;> simp [hdelta, deltas, tenure]

/-- The data of a scope after one more request. -/
theorem data?_concat : data? (history ++ [op]) scope = op.after scope (history.data? scope) := by
  unfold StoreOp.after
  split
  · rename_i hdrops
    rw [data?, defaults?, since_concat, if_pos hdrops]
    rfl
  · rename_i hdrops
    have hstays : op.drops scope = false := Bool.eq_false_iff.2 hdrops
    cases hdefaults : history.defaults? scope with
    | none =>
      rw [data?, defaults?_concat hstays, deltas_concat_absent hstays hdefaults, data?, hdefaults]
      simp
    | some defaults =>
      rw [data?, defaults?_concat hstays, deltas_concat hstays hdefaults, data?, hdefaults]
      cases op.deltaOf? scope <;> simp

/-! ## The store follows -/

/-- One more request is carried out on the store that the others left. -/
theorem store_concat : store (history ++ [op]) = (op.run history.store).2 := by
  rw [store, List.foldl_append]
  rfl

/-- A store has the data that the history says, and no other. -/
theorem get?_store (history : StoreHistory κ) (scope : κ) : history.store.entries.get? scope = history.data? scope := by
  induction history using List.reverseRecOn with
  | nil => rfl
  | append_singleton earlier op ih => rw [store_concat, StoreOp.get?_run, ih, data?_concat]

/-- The scopes that have data, told from the history. -/
theorem mem_scopes : scope ∈ history.scopes ↔ (history.data? scope).isSome = true := by
  rw [scopes, Finset.mem_filter, List.mem_toFinset]
  refine and_iff_right_of_imp fun hsome => ?_
  obtain ⟨defaults, hdefaults⟩ := Option.isSome_iff_exists.1 ((Option.isSome_map ..).symm.trans hsome)
  obtain ⟨op, hop, hseed⟩ := List.exists_of_findSome?_eq_some hdefaults
  have hmem : op ∈ history := List.mem_reverse.1 ((List.takeWhile_sublist _).mem (List.mem_reverse.1 hop))
  exact List.mem_filterMap.2 ⟨op, hmem, StoreOp.seeded?_of_seedOf? hseed⟩

/-- The scopes that have data are the keys of the store. -/
theorem toFinset_keys : history.store.entries.keys.toFinset = history.scopes := by
  ext scope
  rw [List.mem_toFinset, ← Table.contains_iff_mem_keys, Table.contains_eq_isSome, get?_store, mem_scopes]

/-- A store has as many scopes as the history says. -/
theorem size_store (history : StoreHistory κ) : history.store.size = history.scopes.card := by
  have hnodup : history.store.entries.keys.Nodup := history.store.entries.nodup
  rw [← toFinset_keys, List.toFinset_card_of_nodup hnodup, Table.keys, List.length_map]
  rfl

/-- A store reads as the history says. -/
theorem read_store (history : StoreHistory κ) (scope : κ) : history.store.read scope = history.read scope := by
  cases hdata : history.data? scope <;> simp only [Store.read, read, get?_store, hdata]

/-- A store answers each request as the history says. -/
theorem answer_eq (history : StoreHistory κ) (op : StoreOp κ) : (op.run history.store).1 = history.answer op := by
  cases op with
  | seed scope defaults => exact congrArg (Option.getD · defaults) (get?_store history scope)
  | read scope => exact read_store history scope
  | snapshot scope => exact read_store history scope
  | merge scope delta =>
    have hget := get?_store history scope
    simp only [StoreOp.run, Store.merge, hget, answer, read]
    cases history.data? scope <;> rfl
  | contains scope =>
    calc (history.store.contains scope : Bool) = (history.store.entries.get? scope).isSome := Table.contains_eq_isSome
      _ = (history.data? scope).isSome := by rw [get?_store]
  | remove scope => exact get?_store history scope
  | purge workflow =>
    change history.store.size - (history.store.purge workflow).size = _
    rw [Store.size_purged, toFinset_keys]
    rfl
  | size => exact size_store history
  | isEmpty =>
    change (history.store.size == 0) = decide (history.scopes = ∅)
    rw [size_store, ← decide_eq_decide.2 Finset.card_eq_zero]
    rfl

end StoreHistory

/-! ## Stores follow their history -/

section

variable (κ : Type) [DecidableEq κ] [Scope κ]

/-- A store is nothing but the requests made to it, folded scope by scope. -/
structure Store.FollowsHistory : Prop where
  /-- After any requests, each request is answered as the history says. -/
  answers (history : StoreHistory κ) (op : StoreOp κ) : (op.run history.store).1 = history.answer op
  /-- A merge is the union of what was there and the changes, in which the changes win. -/
  union (data delta : Data) (key : String) : (data.merge delta).get? key = (delta.get? key).or (data.get? key)
  /-- A scope that is seeded again keeps its data, and they are the answer. -/
  seedAgain (s : Store κ) (scope : κ) (data defaults : Data) :
    s.read scope = .ok data → (StoreOp.seed scope defaults).run s = (data, s)
  /-- A merge answers what a read after it answers. -/
  mergeRead (s : Store κ) (scope : κ) (delta : Data) :
    ((StoreOp.merge scope delta).run s).1 = ((StoreOp.read scope).run ((StoreOp.merge scope delta).run s).2).1
  /-- Whatever is merged into a scope, it has every key that it had. -/
  keepsKeys (s : Store κ) (scope : κ) (data delta : Data) (key : String) :
    s.read scope = .ok data → data.contains key = true →
      ∃ merged, ((StoreOp.merge scope delta).run s).2.read scope = .ok merged ∧ merged.contains key = true
  /-- A request about one scope leaves the data of every other scope. -/
  apart (s : Store κ) (op : StoreOp κ) (scope other : κ) :
    op.scope? = some scope → other ≠ scope → (op.run s).2.read other = s.read other
  /-- A scope without data is not found, and a request that does not seed it changes nothing. -/
  absent (s : Store κ) (scope : κ) : s.contains scope = false →
    (StoreOp.read scope).run s = ((.error (Scope.notFound scope) : Except StoreError Data), s) ∧
    (StoreOp.snapshot scope).run s = ((.error (Scope.notFound scope) : Except StoreError Data), s) ∧
    (∀ delta, (StoreOp.merge scope delta).run s = ((.error (Scope.notFound scope) : Except StoreError Data), s)) ∧
    (StoreOp.contains scope).run s = (false, s) ∧ (StoreOp.remove scope).run s = ((none : Option Data), s)
  /-- A purge drops the scopes that the workflow owns, leaves every other with its data, and answers how many it dropped. -/
  purges (s : Store κ) (workflow : WorkflowId) :
    (∀ scope, ((StoreOp.purge workflow).run s).2.read scope =
      if Scope.owner scope = workflow then .error (Scope.notFound scope) else s.read scope) ∧
    ((StoreOp.purge workflow).run s).1 = (s.entries.keys.toFinset.filter fun scope => Scope.owner scope = workflow).card

/-- Stores follow their history, whether they keep the data of step instances or of workflow instances. -/
theorem store_follows_history : Store.FollowsHistory κ where
  answers := StoreHistory.answer_eq
  union := Dict.get?_merge
  seedAgain := by
    intro s scope data defaults hread
    have hget := Store.read_eq_ok.1 hread
    rw [StoreOp.run, Store.seed_of_get? s hget, hget]
    rfl
  mergeRead := by
    intro s scope delta
    cases hget : s.entries.get? scope with
    | none =>
      simp only [StoreOp.run, Store.merge, Store.read, hget]
      rfl
    | some data =>
      simp only [StoreOp.run, Store.merge, Store.read, hget, Table.get?_put_self]
      rfl
  keepsKeys := by
    intro s scope data delta key hread hkey
    refine ⟨data.merge delta, Store.read_eq_ok.2 ?_, Dict.contains_merge hkey⟩
    rw [StoreOp.get?_run, Store.read_eq_ok.1 hread]
    simp [StoreOp.after, StoreOp.drops, StoreOp.deltaOf?]
  apart := by
    intro s op scope other habout hne
    exact Store.read_congr (by rw [StoreOp.get?_run, StoreOp.after_other habout hne])
  absent := by
    intro s scope hcontains
    have hget : s.entries.get? scope = none := Table.get?_eq_none_iff.2 hcontains
    have hread : s.read scope = .error (Scope.notFound scope) := by rw [Store.read, hget]
    refine ⟨congrArg (·, s) hread, congrArg (·, s) hread, fun delta => ?_, congrArg (·, s) hcontains, ?_⟩
    · simp only [StoreOp.run, Store.merge, hget]
      rfl
    · exact Prod.ext hget (Store.remove_of_get?_none s hget)
  purges := by
    intro s workflow
    refine ⟨fun scope => ?_, Store.size_purged s workflow⟩
    change (s.purge workflow).read scope = _
    rw [Store.read, Store.get?_purge]
    by_cases howner : Scope.owner scope = workflow
    · rw [if_pos howner, if_pos howner]
    · rw [if_neg howner, if_neg howner, Store.read]

end

/-- What was merged before a scope was removed does not come back when it is seeded again. -/
example : StoreHistory.data?
    ([.seed default Dict.empty, .merge default (Dict.ofList [("a", .null)]), .remove default, .seed default Dict.empty] :
      StoreHistory WorkflowId) default = some Dict.empty := by
  rfl

end StepEngine
