import Mathlib.Data.List.Nodup
import Mathlib.Data.Nat.Find
import StepEngine.Proofs.Keys

/-!
# Tokens: bound at most once in the lifetime of a registry

A registry changes by calls only, and a call binds a token when it issues a key or takes one that is submitted. `Accounts` says how the
registry stands to the bindings that were made so far: the live keys and the retired tokens are apart, together they are the tokens of
the bindings, and no token was bound twice. Every call keeps that; a purge only moves tokens from one side to the other.
-/

namespace StepEngine

/-! ## Sources of tokens -/

namespace TokenSource

/-- A search stops at the first candidate behind its start that is not in use. -/
theorem mem_of_lt_search (source : TokenSource) (used : List String) (n : Nat) (h : n ≤ Classical.choose (source.fresh used)) :
    ∀ m, n ≤ m → m < source.search used n h → source.draw m ∈ used := by
  fun_induction search source used n h with
  | case1 n h hn ih =>
    intro m hnm hm
    rcases Nat.eq_or_lt_of_le hnm with rfl | hlt
    · exact hn
    · exact ih m hlt hm
  | case2 n h hn =>
    intro m hnm hm
    omega

/-- What is picked is the first candidate that is not in use. -/
theorem pick_eq (source : TokenSource) {used : List String} {n : Nat} (fresh : source.draw n ∉ used)
    (first : ∀ m < n, source.draw m ∈ used) : source.pick used = source.draw n := by
  have hplace : source.search used 0 (Nat.zero_le _) = n := by
    rcases Nat.lt_trichotomy (source.search used 0 (Nat.zero_le _)) n with hlt | heq | hlt
    · exact absurd (first _ hlt) (source.search_not_mem used 0 _)
    · exact heq
    · exact absurd (source.mem_of_lt_search used 0 _ n (Nat.zero_le n) hlt) fresh
  rw [pick, hplace]

/-- The source that proposes the candidates of a generator up to some place, and candidates of its own behind it. -/
def following (draw : Nat → String) (last : Nat) : TokenSource where
  draw n := if n ≤ last then draw n else (labelled "").draw (n - last)
  fresh used := by
    obtain ⟨n, hn⟩ := (labelled "").fresh ((labelled "").draw 0 :: used)
    have hpos : 0 < n := by
      refine Nat.pos_of_ne_zero ?_
      rintro rfl
      exact hn List.mem_cons_self
    refine ⟨last + n, ?_⟩
    rw [if_neg (by omega), Nat.add_sub_cancel_left]
    exact fun hm => hn (List.mem_cons_of_mem _ hm)

end TokenSource

/-! ## Calls -/

/-- A call on a registry. -/
inductive KeyCall where
  /-- A request that is answered at once. -/
  | ask (op : KeyOp)
  /-- A key completed or expired. -/
  | resolve (key : AsyncKey) (outcome : AsyncOutcome)

namespace KeyCall

/-- The registry after a call that is made at some time. -/
def after (r : KeyRegistry) (now : Instant) : KeyCall → KeyRegistry
  | ask op => (op.run r now).2.1
  | resolve key outcome =>
    match r.resolve key outcome now with
    | .ok (_, r) => r
    | .error _ => r

/-- The key that a call has bound by its answer, with the step instance: a key was issued, or submitted with success. -/
def binding? (r : KeyRegistry) (now : Instant) : KeyCall → Option (AsyncKey × StepId)
  | ask (.issue step source) => some ((KeyOp.run r now (.issue step source)).1, step)
  | ask (.submit step key) =>
    match (KeyOp.run r now (.submit step key)).1 with
    | .ok () => some (key, step)
    | .error _ => none
  | _ => none

end KeyCall

namespace KeyRegistry

variable {r r' : KeyRegistry} {key other : AsyncKey} {step : StepId} {workflow : WorkflowId} {now : Instant}
  {outcome : AsyncOutcome} {resumption : Resumption} {record : KeyRecord} {bound : List (AsyncKey × StepId)}

/-- The registry after a sequence of calls, each with its time. -/
def afterCalls (r : KeyRegistry) (calls : List (Instant × KeyCall)) : KeyRegistry :=
  calls.foldl (fun r call => call.2.after r call.1) r

/-- The bindings that a sequence of calls makes, the oldest first. -/
def bindings (r : KeyRegistry) : List (Instant × KeyCall) → List (AsyncKey × StepId)
  | [] => []
  | (now, call) :: rest => (call.binding? r now).toList ++ (call.after r now).bindings rest

/-- More calls make more bindings. -/
theorem bindings_append (r : KeyRegistry) (calls more : List (Instant × KeyCall)) :
    r.bindings (calls ++ more) = r.bindings calls ++ (r.afterCalls calls).bindings more := by
  induction calls generalizing r with
  | nil => rfl
  | cons call rest ih => rw [List.cons_append, bindings, bindings, ih, List.append_assoc, afterCalls, afterCalls, List.foldl_cons]

/-! ## What calls do to the tokens -/

/-- A submitted key whose token is unused is bound. -/
theorem run_submit_of_unused (step : StepId) (now : Instant) (h : r.isUsed key = false) :
    KeyOp.run r now (.submit step key) = (.ok (), r.bind key step now, true) := by
  simp only [KeyOp.run, submit, h]
  rfl

/-- A submitted key whose token is used is refused, and nothing changes. -/
theorem run_submit_of_used (step : StepId) (now : Instant) (h : r.isUsed key = true) :
    KeyOp.run r now (.submit step key) = (.error (.duplicate key), r, false) := by
  simp only [KeyOp.run, submit, h]
  rfl

/-- What a call does to a registry, with the binding that it makes. -/
inductive Effect (r : KeyRegistry) (now : Instant) : KeyCall → Option (AsyncKey × StepId) → KeyRegistry → Prop where
  /-- Nothing changes. -/
  | same (call : KeyCall) : Effect r now call none r
  /-- A key is bound whose token is unused. -/
  | bind {call : KeyCall} {key : AsyncKey} (step : StepId) (fresh : r.isUsed key = false) :
      Effect r now call (some (key, step)) (r.bind key step now)
  /-- A key is resolved. -/
  | resolve {key : AsyncKey} {outcome : AsyncOutcome} {resumption : Resumption} {r' : KeyRegistry}
      (resolved : r.resolve key outcome now = .ok (resumption, r')) : Effect r now (.resolve key outcome) none r'
  /-- The keys of a workflow are forgotten. -/
  | purge (workflow : WorkflowId) : Effect r now (.ask (.purge workflow)) none (r.purge workflow)

/-- Every call has one of these effects. -/
theorem effect (r : KeyRegistry) (now : Instant) (call : KeyCall) : Effect r now call (call.binding? r now) (call.after r now) := by
  cases call with
  | ask op =>
    cases op with
    | issue step source => exact .bind step (isUsed_freshKey source)
    | submit step key =>
      cases hused : r.isUsed key with
      | true =>
        simp only [KeyCall.after, KeyCall.binding?, run_submit_of_used step now hused]
        exact .same _
      | false =>
        simp only [KeyCall.after, KeyCall.binding?, run_submit_of_unused step now hused]
        exact .bind step hused
    | purge workflow => exact .purge workflow
    | _ => exact .same _
  | resolve key outcome =>
    rw [KeyCall.after]
    split
    · rename_i hr
      exact .resolve hr
    · exact .same _

/-! ## The bindings that a registry accounts for -/

/-- The registry accounts for bindings: no live key is retired, the tokens that are used are those of the bindings, no two bindings
have one token, and a live key is bound to the step instance of its binding. -/
structure Accounts (r : KeyRegistry) (bound : List (AsyncKey × StepId)) : Prop where
  apart : ∀ key record, r.keys.get? key = some record → key ∉ r.retired
  used : ∀ key, r.isUsed key = true ↔ key ∈ bound.map (·.1)
  distinct : (bound.map (·.1)).Nodup
  owned : ∀ key record, r.keys.get? key = some record → (key, record.step) ∈ bound

namespace Accounts

/-- A new registry accounts for no bindings. -/
theorem empty : Accounts KeyRegistry.empty [] := ⟨nofun, by simp [isUsed, KeyRegistry.empty, Table.contains, Table.empty], by simp, nofun⟩

/-- A key is bound whose token is unused. -/
theorem bind (h : r.Accounts bound) (step : StepId) (now : Instant) (fresh : r.isUsed key = false) :
    (r.bind key step now).Accounts (bound ++ [(key, step)]) where
  apart := by
    intro given record hget hretired
    have hused : r.isUsed given = true := by
      rw [isUsed, Bool.or_eq_true]
      exact Or.inr (List.contains_iff_mem.2 hretired)
    have hne : given ≠ key := by
      rintro rfl
      exact absurd (fresh.symm.trans hused) Bool.false_ne_true
    exact h.apart given record ((get?_bind_other hne).symm.trans hget) hretired
  used := by
    intro given
    rw [isUsed_bind_iff, h.used]
    simp
  distinct := by
    rw [List.map_append, List.map_singleton]
    refine List.nodup_append.2 ⟨h.distinct, List.pairwise_singleton _ _, ?_⟩
    rintro given hgiven other hm rfl
    obtain rfl := List.mem_singleton.1 hm
    exact absurd (fresh.symm.trans ((h.used _).2 hgiven)) Bool.false_ne_true
  owned := by
    intro given record hget
    by_cases hk : given = key
    · subst hk
      rw [KeyRegistry.bind, Table.get?_put_self] at hget
      cases hget
      exact List.mem_append_right _ (List.mem_singleton_self _)
    · exact List.mem_append_left _ (h.owned given record ((get?_bind_other hk).symm.trans hget))

/-- A key is resolved. -/
theorem resolve (h : r.Accounts bound) (hr : r.resolve key outcome now = .ok (resumption, r')) : r'.Accounts bound := by
  have before : ∀ given record, r'.keys.get? given = some record →
      ∃ old, r.keys.get? given = some old ∧ old.step = record.step := by
    intro given record hget
    by_cases hk : given = key
    · subst hk
      obtain ⟨-, -, ⟨old, hold, -, -⟩, rfl⟩ := resolve_eq_ok hr
      rw [Table.get?_modify_self, hold] at hget
      cases hget
      exact ⟨old, hold, rfl⟩
    · exact ⟨record, (get?_resolve_other hr hk).symm.trans hget, rfl⟩
  have hretired : r'.retired = r.retired := by
    obtain ⟨-, -, -, rfl⟩ := resolve_eq_ok hr
    rfl
  refine ⟨?_, fun given => (iff_of_eq (congrArg (· = true) (isUsed_resolve hr))).trans (h.used given), h.distinct, ?_⟩
  · intro given record hget
    obtain ⟨old, hold, -⟩ := before given record hget
    rw [hretired]
    exact h.apart given old hold
  · intro given record hget
    obtain ⟨old, hold, hstep⟩ := before given record hget
    exact hstep ▸ h.owned given old hold

/-- The keys of a workflow are forgotten. -/
theorem purge (h : r.Accounts bound) (workflow : WorkflowId) : (r.purge workflow).Accounts bound where
  apart := by
    intro given record hget hretired
    rw [get?_purge, Option.filter_eq_some_iff] at hget
    rcases List.mem_append.1 hretired with howned | hretired
    · obtain ⟨other, hother, hw⟩ := mem_ownedBy.1 howned
      cases hother.symm.trans hget.1
      simp [hw] at hget
    · exact h.apart given record hget.1 hretired
  used := fun given => isUsed_purge_iff.trans (h.used given)
  distinct := h.distinct
  owned := by
    intro given record hget
    rw [get?_purge, Option.filter_eq_some_iff] at hget
    exact h.owned given record hget.1

/-- After a call, the registry accounts for the binding that the call has made, too. -/
theorem call (h : r.Accounts bound) (now : Instant) (call : KeyCall) :
    (call.after r now).Accounts (bound ++ (call.binding? r now).toList) := by
  have heffect := effect r now call
  generalize call.after r now = r', call.binding? r now = binding at heffect
  cases heffect with
  | same => simpa using h
  | bind step fresh => exact h.bind step now fresh
  | resolve resolved => simpa using h.resolve resolved
  | purge workflow => simpa using h.purge workflow

/-- After a sequence of calls, the registry accounts for their bindings, too. -/
theorem calls (h : r.Accounts bound) (calls : List (Instant × KeyCall)) :
    (r.afterCalls calls).Accounts (bound ++ r.bindings calls) := by
  induction calls generalizing r bound with
  | nil =>
    rw [bindings, List.append_nil]
    exact h
  | cons call rest ih =>
    obtain ⟨now, call⟩ := call
    rw [bindings, ← List.append_assoc]
    exact ih (h.call now call)

end Accounts

/-! ## What calls do to the record of one key -/

/-- A call leaves the record of a live key alone, or it resolves the key, which is pending then, or it purges the workflow of the key's
step instance and the key is not live any more. -/
theorem get?_after (call : KeyCall) (now : Instant) (h : r.keys.get? key = some record) :
    (call.after r now).keys.get? key = some record ∨
      (∃ outcome, call = .resolve key outcome ∧ record.state = .pending ∧
        (call.after r now).keys.get? key = some (KeyRecord.resolve record outcome now)) ∨
      call = .ask (.purge record.step.workflow) ∧ (call.after r now).keys.get? key = none := by
  have heffect := effect r now call
  generalize call.after r now = r', call.binding? r now = binding at heffect
  cases heffect with
  | same => exact Or.inl h
  | bind step fresh => exact Or.inl ((get?_bind_other (ne_of_unused fresh h)).trans h)
  | @resolve given outcome resumption _ resolved =>
    by_cases hk : key = given
    · subst hk
      obtain ⟨-, -, ⟨old, hold, -, hpending⟩, rfl⟩ := resolve_eq_ok resolved
      cases hold.symm.trans h
      exact Or.inr (Or.inl ⟨outcome, rfl, hpending, by rw [Table.get?_modify_self, h]; rfl⟩)
    · exact Or.inl ((get?_resolve_other resolved hk).trans h)
  | purge workflow =>
    rw [get?_purge, h, Option.filter_some]
    by_cases hw : record.step.workflow = workflow
    · exact Or.inr (Or.inr ⟨by rw [hw], by simp [hw]⟩)
    · exact Or.inl (by simp [hw])

/-- A call leaves a key that is not live alone, or it binds it: the key is pending then, and its token was unused before. -/
theorem get?_after_none (call : KeyCall) (now : Instant) (h : r.keys.get? key = none) :
    (call.after r now).keys.get? key = none ∨
      r.isUsed key = false ∧ ∃ step, (call.after r now).keys.get? key = some ⟨step, .pending, none, now, none⟩ := by
  have heffect := effect r now call
  generalize call.after r now = r', call.binding? r now = binding at heffect
  cases heffect with
  | same => exact Or.inl h
  | @bind _ given step fresh =>
    by_cases hk : key = given
    · subst hk
      exact Or.inr ⟨fresh, step, Table.get?_put_self⟩
    · exact Or.inl ((get?_bind_other hk).trans h)
  | @resolve given outcome resumption _ resolved =>
    have hk : key ≠ given := by
      rintro rfl
      obtain ⟨-, -, ⟨old, hold, -, -⟩, -⟩ := resolve_eq_ok resolved
      cases hold.symm.trans h
    exact Or.inl ((get?_resolve_other resolved hk).trans h)
  | purge workflow =>
    left
    rw [get?_purge, h]
    rfl

/-- An issued key has the first token that the source draws and that is not used. -/
theorem run_issue (source : TokenSource) (step : StepId) (now : Instant) {n : Nat} (fresh : r.isUsed ⟨source.draw n⟩ = false)
    (first : ∀ m < n, r.isUsed ⟨source.draw m⟩ = true) :
    KeyOp.run r now (.issue step source) = (⟨source.draw n⟩, r.bind ⟨source.draw n⟩ step now, true) := by
  have hkey : r.freshKey source = ⟨source.draw n⟩ := by
    rw [freshKey, source.pick_eq (n := n)]
    · exact fun hm => absurd (fresh.symm.trans (mem_used_texts_iff.1 hm)) nofun
    · exact fun m hm => mem_used_texts_iff.2 (first m hm)
  rw [KeyOp.run, hkey]

/-! ## Histories -/

/-- The registry that was new and has seen a sequence of calls. -/
def ofCalls (calls : List (Instant × KeyCall)) : KeyRegistry := empty.afterCalls calls

/-- The tokens that were issued, or submitted with success, in a sequence of calls on a new registry. -/
def tokensOf (calls : List (Instant × KeyCall)) : List AsyncKey := (empty.bindings calls).map (·.1)

/-- A registry accounts for all bindings that were made since it was new. -/
theorem accounts_ofCalls (calls : List (Instant × KeyCall)) : (ofCalls calls).Accounts (empty.bindings calls) :=
  Accounts.empty.calls calls

/-- A token is used exactly when it was issued or submitted with success. -/
theorem isUsed_ofCalls_iff {calls : List (Instant × KeyCall)} : (ofCalls calls).isUsed key = true ↔ key ∈ tokensOf calls :=
  (accounts_ofCalls calls).used key

/-- A token is unused exactly when it was neither issued nor submitted with success. -/
theorem isUsed_ofCalls_eq_false_iff {calls : List (Instant × KeyCall)} : (ofCalls calls).isUsed key = false ↔ key ∉ tokensOf calls := by
  rw [← isUsed_ofCalls_iff, Bool.not_eq_true]

/-- The tokens of a longer sequence of calls are those of its beginning and others behind them. -/
theorem tokensOf_grows (calls more : List (Instant × KeyCall)) : tokensOf calls <+: tokensOf (calls ++ more) := by
  rw [tokensOf, tokensOf, bindings_append, List.map_append]
  exact List.prefix_append _ _

/-- What holds of a registry that was new and has seen a sequence of calls, and of whatever may be called next: every token is bound
at most once. -/
structure BindsOnce (calls : List (Instant × KeyCall)) : Prop where
  /-- No retired token is the key of a live record. -/
  apart : ∀ key ∈ (ofCalls calls).retired, (ofCalls calls).keys.get? key = none
  /-- The live keys and the retired tokens together are the tokens that were issued or submitted with success. -/
  used : ∀ key, (ofCalls calls).isUsed key = true ↔ key ∈ tokensOf calls
  once : (tokensOf calls).Nodup
  /-- A live key is bound to the step instance that it was issued to or submitted for. -/
  owned : ∀ key record, (ofCalls calls).keys.get? key = some record → (key, record.step) ∈ empty.bindings calls
  grows : ∀ more key, (ofCalls calls).isUsed key = true → (ofCalls (calls ++ more)).isUsed key = true
  submitted : ∀ step key now, key ∉ tokensOf calls →
    KeyOp.run (ofCalls calls) now (.submit step key) = (.ok (), (ofCalls calls).bind key step now, true)
  refused : ∀ step key now, key ∈ tokensOf calls →
    KeyOp.run (ofCalls calls) now (.submit step key) = (.error (.duplicate key), ofCalls calls, false)
  fresh : ∀ step source now, (KeyOp.run (ofCalls calls) now (.issue step source)).1 ∉ tokensOf calls
  /-- A generator that draws an unbound token some time has a first one. There are sources that propose what it draws up to there, and
  with each of them that token is issued. -/
  issued : ∀ draw : Nat → String, (∃ n, (⟨draw n⟩ : AsyncKey) ∉ tokensOf calls) →
    ∃ n, (⟨draw n⟩ : AsyncKey) ∉ tokensOf calls ∧ (∃ source : TokenSource, ∀ m ≤ n, source.draw m = draw m) ∧
      ∀ (source : TokenSource) step now, (∀ m ≤ n, source.draw m = draw m) →
        KeyOp.run (ofCalls calls) now (.issue step source) = (⟨draw n⟩, (ofCalls calls).bind ⟨draw n⟩ step now, true)
  /-- A live key has the same step instance for ever. -/
  stays : ∀ more key record record', (ofCalls calls).keys.get? key = some record →
    (ofCalls (calls ++ more)).keys.get? key = some record' → record'.step = record.step
  /-- A key stops being live only when the workflow of its step instance is purged. -/
  leaves : ∀ (now : Instant) (call : KeyCall) (key : AsyncKey) (record : KeyRecord),
    (ofCalls calls).keys.get? key = some record → (call.after (ofCalls calls) now).keys.get? key = none →
      call = .ask (.purge record.step.workflow)

/-- Every token is bound at most once in the lifetime of a registry, whatever is called on it. -/
theorem token_bound_at_most_once (calls : List (Instant × KeyCall)) : BindsOnce calls where
  apart := by
    intro key hretired
    cases hget : (ofCalls calls).keys.get? key with
    | none => rfl
    | some record => exact absurd hretired ((accounts_ofCalls calls).apart key record hget)
  used := fun key => isUsed_ofCalls_iff
  once := (accounts_ofCalls calls).distinct
  owned := (accounts_ofCalls calls).owned
  grows := by
    intro more key hused
    rw [isUsed_ofCalls_iff] at hused ⊢
    exact (tokensOf_grows calls more).subset hused
  submitted := fun step key now fresh => run_submit_of_unused step now (isUsed_ofCalls_eq_false_iff.2 fresh)
  refused := fun step key now hm => run_submit_of_used step now (isUsed_ofCalls_iff.2 hm)
  fresh := fun _step source _now => isUsed_ofCalls_eq_false_iff.1 (isUsed_freshKey source)
  issued := by
    intro draw escapes
    classical
    have first : ∀ m < Nat.find escapes, (⟨draw m⟩ : AsyncKey) ∈ tokensOf calls :=
      fun m hm => Classical.not_not.1 (Nat.find_min escapes hm)
    refine ⟨Nat.find escapes, Nat.find_spec escapes, ⟨.following draw (Nat.find escapes), fun m hm => if_pos hm⟩, ?_⟩
    intro source step now agrees
    rw [← agrees _ (Nat.le_refl _)]
    refine run_issue source step now ?_ fun m hm => ?_
    · rw [agrees _ (Nat.le_refl _)]
      exact isUsed_ofCalls_eq_false_iff.2 (Nat.find_spec escapes)
    · rw [agrees m (Nat.le_of_lt hm)]
      exact isUsed_ofCalls_iff.2 (first m hm)
  stays := by
    intro more key record record' hget hget'
    have hlater : (key, record'.step) ∈ empty.bindings (calls ++ more) := (accounts_ofCalls (calls ++ more)).owned key record' hget'
    have hbefore : (key, record.step) ∈ empty.bindings (calls ++ more) := by
      rw [bindings_append]
      exact List.mem_append_left _ ((accounts_ofCalls calls).owned key record hget)
    have heq := List.inj_on_of_nodup_map (accounts_ofCalls (calls ++ more)).distinct hlater hbefore rfl
    exact congrArg Prod.snd heq
  leaves := by
    intro now call key record hget hgone
    rcases get?_after call now hget with hstill | ⟨outcome, -, -, hstill⟩ | ⟨hpurge, -⟩
    · exact absurd (hgone.symm.trans hstill) nofun
    · exact absurd (hgone.symm.trans hstill) nofun
    · exact hpurge

end KeyRegistry

end StepEngine
