import StepEngine.Proofs.Share

/-!
# Keys: async keys inside and outside of a share

All workflows share one registry of keys and one space of tokens. A share has its keys and the tokens that may be bound in it, and it is
the same in two registries when they have the same records of its workflows, in the same order, and have used up the same of its tokens
(`Share.KeysAgree`). What happens to other keys does not change that.
-/

namespace StepEngine

/-! ## Tokens -/

/-- Of two lists that have the same candidates in use, a source picks the same. -/
theorem TokenSource.pick_congr (source : TokenSource) {used used' : List String} (h : ∀ n, source.draw n ∈ used ↔ source.draw n ∈ used') :
    source.pick used = source.pick used' := by
  refine source.pick_eq (fun hused => source.search_not_mem used' 0 (Nat.zero_le _) ((h _).1 hused)) fun m hm => ?_
  exact (h m).2 (source.mem_of_lt_search used' 0 (Nat.zero_le _) m (Nat.zero_le m) hm)

/-- Registries that have used up the same of the tokens that a source proposes get the same key from it. -/
theorem KeyRegistry.freshKey_congr {r r' : KeyRegistry} (source : TokenSource)
    (h : ∀ n, r.isUsed ⟨source.draw n⟩ = r'.isUsed ⟨source.draw n⟩) : r.freshKey source = r'.freshKey source := by
  refine congrArg AsyncKey.mk (source.pick_congr fun n => ?_)
  rw [mem_used_texts_iff, mem_used_texts_iff, h]

/-! ## What is told of times -/

/-- A record with what is told of its times. -/
def KeyRecord.told (f : Instant → Instant) (record : KeyRecord) : KeyRecord :=
  { record with issuedAt := f record.issuedAt, resolvedAt := record.resolvedAt.map f }

/-- The status of a key with what is told of its times. -/
def KeyStatus.told (f : Instant → Instant) (status : KeyStatus) : KeyStatus := ⟨status.toKeyRecord.told f, status.key⟩

/-- An answer with what is told of times. -/
def KeyOp.told (f : Instant → Instant) : (op : KeyOp) → op.Answer → op.Answer
  | status _, answer => Except.map (KeyStatus.told f) answer
  | keysOf _, answer => List.map (KeyStatus.told f) answer
  | issue _ _, answer => answer
  | submit _ _, answer => answer
  | pendingBefore _, answer => answer
  | purge _, answer => answer
  | size, answer => answer
  | isEmpty, answer => answer

/-- If everything is told of times, a record is told as it is. -/
theorem KeyRecord.told_id : KeyRecord.told id = id := by
  funext record
  simp [told]

/-- If everything is told of times, an answer is told as it is. -/
theorem KeyOp.told_id (op : KeyOp) (answer : op.Answer) : op.told id answer = answer := by
  have hstatus : KeyStatus.told id = id := by
    funext status
    simp [KeyStatus.told, KeyRecord.told_id]
  cases op with
  | status key =>
    show Except.map _ answer = answer
    rw [hstatus]
    cases answer <;> rfl
  | keysOf step =>
    show List.map _ answer = answer
    rw [hstatus]
    exact List.map_id _
  | _ => rfl

/-! ## Shares -/

/-- A share of what the engine keeps. -/
structure Share where
  /-- The workflows that it belongs to. -/
  owns : WorkflowId → Bool
  /-- The keys of these workflows, and those that may become theirs. -/
  names : AsyncKey → Prop
  /-- The tokens that may be bound. -/
  binds : AsyncKey → Prop
  /-- What is told of times. -/
  tells : Instant → Instant

/-- Everything that is not in a share. -/
def Share.others (a : Share) : Share where
  owns workflow := !a.owns workflow
  names key := ¬ a.names key
  binds key := ¬ a.names key ∧ ¬ a.binds key
  tells := a.tells

/-- The keys of a share with their records. -/
def KeyRegistry.shown (r : KeyRegistry) (a : Share) : Table AsyncKey KeyRecord :=
  r.keys.shown (fun _ record => a.owns record.step.workflow) (KeyRecord.told a.tells)

/-- The request names only step instances, workflows and keys of a share. One that goes through the whole registry names everything. -/
def KeyOp.Within (a : Share) : KeyOp → Prop
  | issue step source => a.owns step.workflow = true ∧ ∀ n, a.binds ⟨source.draw n⟩
  | submit step key => a.owns step.workflow = true ∧ a.binds key
  | status key => a.names key
  | keysOf step => a.owns step.workflow = true
  | pendingBefore _ => False
  | purge workflow => a.owns workflow = true
  | size => False
  | isEmpty => False

namespace KeyRegistry

variable {a : Share} {r : KeyRegistry} {key : AsyncKey} {step : StepId} {now : Instant} {outcome : AsyncOutcome} {record : KeyRecord}

/-- A key that is bound to a step instance of the share is shown behind the others. -/
theorem shown_bind (own : a.owns step.workflow = true) (fresh : r.isUsed key = false) :
    (r.bind key step now).shown a = (r.shown a).put key ⟨step, .pending, none, a.tells now, none⟩ := by
  refine Table.shown_put_of_pos (fun old hold => ?_) own
  rw [get?_of_unused fresh] at hold
  cases hold

/-- A key that is bound to another step instance is not shown. -/
theorem shown_bind_other (other : a.owns step.workflow = false) (fresh : r.isUsed key = false) :
    (r.bind key step now).shown a = r.shown a := by
  refine Table.shown_put_of_neg (fun old hold => ?_) other
  rw [get?_of_unused fresh] at hold
  cases hold

/-- A key of the share that is resolved is shown so. -/
theorem shown_resolve (h : r.keys.get? key = some record) (own : a.owns record.step.workflow = true) :
    ({ r with keys := r.keys.modify key (KeyRecord.resolve · outcome now) } : KeyRegistry).shown a =
      (r.shown a).put key ((KeyRecord.resolve record outcome now).told a.tells) := by
  rw [shown, Table.modify_eq_put h]
  refine Table.shown_put_of_pos (fun old hold => ?_) own
  rwa [← Option.some.inj (h.symm.trans hold)]

/-- Another key that is resolved is not shown. -/
theorem shown_resolve_other (h : r.keys.get? key = some record) (other : a.owns record.step.workflow = false) :
    ({ r with keys := r.keys.modify key (KeyRecord.resolve · outcome now) } : KeyRegistry).shown a = r.shown a := by
  rw [shown, Table.modify_eq_put h]
  refine Table.shown_put_of_neg (fun old hold => ?_) other
  rwa [← Option.some.inj (h.symm.trans hold)]

/-- The keys of a workflow that is forgotten are not shown any more. -/
theorem shown_purge (r : KeyRegistry) (workflow : WorkflowId) :
    (r.purge workflow).shown a = (r.shown a).filter fun _ record => record.step.workflow ≠ workflow :=
  Table.shown_filter (f := KeyRecord.told a.tells) (q := fun _ (record : KeyRecord) => record.step.workflow ≠ workflow) fun _ _ _ => rfl

/-- If a workflow is forgotten that is outside of the share, the same keys are shown. -/
theorem shown_purge_other {workflow : WorkflowId} (other : a.owns workflow = false) : (r.purge workflow).shown a = r.shown a := by
  refine Table.shown_filter_of_imp (q := fun _ (record : KeyRecord) => record.step.workflow ≠ workflow) fun _ _ own => decide_eq_true ?_
  rintro rfl
  exact Bool.false_ne_true (other.symm.trans own)

end KeyRegistry

namespace Share

variable {a : Share} {r r' s s' : KeyRegistry} {key : AsyncKey} {step : StepId} {workflow : WorkflowId} {now now' : Instant}
  {outcome : AsyncOutcome} {resumption : Resumption} {record : KeyRecord}

/-- The keys of a share are those of its workflows, and an unused token that may be bound may be named. -/
structure Keyed (a : Share) (r : KeyRegistry) : Prop where
  own : ∀ key record, r.keys.get? key = some record → (a.owns record.step.workflow = true ↔ a.names key)
  free : ∀ key, a.binds key → r.isUsed key = false → a.names key

/-- Two registries agree on a share: they have the same records of its workflows, and of its tokens have used up the same. -/
structure KeysAgree (a : Share) (r r' : KeyRegistry) : Prop where
  shown : r.shown a = r'.shown a
  used : ∀ key, a.binds key → r.isUsed key = r'.isUsed key
  keyed : a.Keyed r
  keyed' : a.Keyed r'

namespace Keyed

/-- A key is bound to an unused token. -/
theorem bind (h : a.Keyed r) (fresh : r.isUsed key = false) (own : a.owns step.workflow = true ↔ a.names key) :
    a.Keyed (r.bind key step now) where
  own given record hget := by
    by_cases hk : given = key
    · subst hk
      rw [KeyRegistry.bind, Table.get?_put_self] at hget
      cases hget
      exact own
    · exact h.own given record ((KeyRegistry.get?_bind_other hk).symm.trans hget)
  free given hbinds hfree := by
    refine h.free given hbinds (Bool.eq_false_iff.2 fun hused => ?_)
    exact Bool.false_ne_true (hfree.symm.trans (KeyRegistry.isUsed_bind_iff.2 (Or.inl hused)))

/-- A key is resolved. -/
theorem resolve (h : a.Keyed r) (hr : r.resolve key outcome now = .ok (resumption, s)) : a.Keyed s where
  own given record hget := by
    by_cases hk : given = key
    · subst hk
      obtain ⟨-, -, ⟨old, hold, -, -⟩, rfl⟩ := KeyRegistry.resolve_eq_ok hr
      rw [Table.get?_modify_self, hold] at hget
      cases hget
      exact h.own given old hold
    · exact h.own given record ((KeyRegistry.get?_resolve_other hr hk).symm.trans hget)
  free given hbinds hfree := h.free given hbinds ((KeyRegistry.isUsed_resolve hr).symm.trans hfree)

/-- The keys of a workflow are forgotten. -/
theorem purge (h : a.Keyed r) (workflow : WorkflowId) : a.Keyed (r.purge workflow) where
  own given record hget := by
    rw [KeyRegistry.get?_purge, Option.filter_eq_some_iff] at hget
    exact h.own given record hget.1
  free given hbinds hfree := by
    refine h.free given hbinds (Bool.eq_false_iff.2 fun hused => ?_)
    exact Bool.false_ne_true (hfree.symm.trans (KeyRegistry.isUsed_purge_iff.2 hused))

/-- A key that a share names is shown, if it is bound. -/
theorem get?_shown (h : a.Keyed r) (names : a.names key) : (r.shown a).get? key = (r.keys.get? key).map (KeyRecord.told a.tells) := by
  rw [KeyRegistry.shown, Table.get?_shown]
  cases hget : r.keys.get? key with
  | none => rfl
  | some record => rw [Option.filter_some, if_pos ((h.own key record hget).2 names)]

end Keyed

namespace KeysAgree

/-- Agreement goes both ways. -/
theorem symm (h : a.KeysAgree r r') : a.KeysAgree r' r := ⟨h.shown.symm, fun key hkey => (h.used key hkey).symm, h.keyed', h.keyed⟩

/-- A key of the share has the same record in both registries, as far as it is told. -/
theorem get?_eq (h : a.KeysAgree r r') (names : a.names key) :
    (r.keys.get? key).map (KeyRecord.told a.tells) = (r'.keys.get? key).map (KeyRecord.told a.tells) := by
  rw [← h.keyed.get?_shown names, h.shown, h.keyed'.get?_shown names]

/-- An unused token of the share is bound. -/
theorem bind (h : a.KeysAgree r r') (own : a.owns step.workflow = true) (binds : a.binds key) (fresh : r.isUsed key = false)
    (hnow : a.tells now = a.tells now') : a.KeysAgree (r.bind key step now) (r'.bind key step now') where
  shown := by rw [KeyRegistry.shown_bind own fresh, KeyRegistry.shown_bind own ((h.used key binds).symm.trans fresh), h.shown, hnow]
  used given hgiven := Bool.eq_iff_iff.2 (by rw [KeyRegistry.isUsed_bind_iff, KeyRegistry.isUsed_bind_iff, h.used given hgiven])
  keyed := h.keyed.bind fresh (iff_of_true own (h.keyed.free key binds fresh))
  keyed' := h.keyed'.bind ((h.used key binds).symm.trans fresh) (iff_of_true own (h.keyed.free key binds fresh))

/-- A token outside of the share is bound, in one registry. -/
theorem bind_other (h : a.KeysAgree r r') (other : a.owns step.workflow = false) (unnamed : ¬ a.names key) (unbound : ¬ a.binds key)
    (fresh : r.isUsed key = false) : a.KeysAgree (r.bind key step now) r' where
  shown := (KeyRegistry.shown_bind_other other fresh).trans h.shown
  used given hgiven := by
    have hne : given ≠ key := by
      rintro rfl
      exact unbound hgiven
    rw [← h.used given hgiven]
    refine Bool.eq_iff_iff.2 (KeyRegistry.isUsed_bind_iff.trans (or_iff_left hne))
  keyed := h.keyed.bind fresh (iff_of_false (by rw [other]; exact Bool.false_ne_true) unnamed)
  keyed' := h.keyed'

/-- A key of the share is resolved in both registries with the same resumption, or refused with the same error. -/
theorem resolve (h : a.KeysAgree r r') (names : a.names key) (outcome : AsyncOutcome) (hnow : a.tells now = a.tells now') :
    (∃ e, r.resolve key outcome now = .error e ∧ r'.resolve key outcome now' = .error e) ∨
      ∃ resumption s s', r.resolve key outcome now = .ok (resumption, s) ∧ r'.resolve key outcome now' = .ok (resumption, s') ∧
        a.owns resumption.step.workflow = true ∧ a.KeysAgree s s' := by
  have heq := h.get?_eq names
  cases hget : r.keys.get? key with
  | none =>
    rw [hget, Option.map_none, eq_comm, Option.map_eq_none_iff] at heq
    exact Or.inl ⟨.unknown key, by rw [KeyRegistry.resolve, hget], by rw [KeyRegistry.resolve, heq]⟩
  | some record =>
    rw [hget, Option.map_some, eq_comm, Option.map_eq_some_iff] at heq
    obtain ⟨record', hget', htold⟩ := heq
    have hstep : record'.step = record.step := (congrArg KeyRecord.step htold :)
    have hstate : record'.state = record.state := (congrArg KeyRecord.state htold :)
    have hown : a.owns record.step.workflow = true := (h.keyed.own key record hget).2 names
    by_cases hpending : record.state = .pending
    · have hr := KeyRegistry.IsPending.resolve_eq ⟨record, hget, rfl, hpending⟩ outcome now
      have hr' := KeyRegistry.IsPending.resolve_eq ⟨record', hget', hstep, hstate.trans hpending⟩ outcome now'
      refine Or.inr ⟨_, _, _, hr, hr', hown, ?_⟩
      refine ⟨?_, fun given hgiven => ?_, h.keyed.resolve hr, h.keyed'.resolve hr'⟩
      · have hissued : a.tells record'.issuedAt = a.tells record.issuedAt := (congrArg KeyRecord.issuedAt htold :)
        have hresolved : (KeyRegistry.KeyRecord.resolve record' outcome now').told a.tells =
            (KeyRegistry.KeyRecord.resolve record outcome now).told a.tells := by
          simp [KeyRecord.told, KeyRegistry.KeyRecord.resolve, hstep, hissued, hnow]
        rw [KeyRegistry.shown_resolve hget hown, KeyRegistry.shown_resolve hget' (hstep ▸ hown), h.shown, hresolved]
      · rw [KeyRegistry.isUsed_resolve hr, KeyRegistry.isUsed_resolve hr', h.used given hgiven]
    · refine Or.inl ⟨.alreadyResolved key record.state.text, ?_, ?_⟩
      · rw [KeyRegistry.resolve, hget]
        exact if_neg hpending
      · rw [KeyRegistry.resolve, hget', ← hstate]
        exact if_neg (fun hp => hpending (hstate ▸ hp))

/-- A key outside of the share is resolved, in one registry; the resumption is for a step instance outside of the share. -/
theorem resolve_other (h : a.KeysAgree r r') (unnamed : ¬ a.names key) (hr : r.resolve key outcome now = .ok (resumption, s)) :
    a.KeysAgree s r' ∧ a.owns resumption.step.workflow = false := by
  obtain ⟨-, -, ⟨record, hget, hstep, -⟩, rfl⟩ := KeyRegistry.resolve_eq_ok hr
  have hother : a.owns record.step.workflow = false := Bool.eq_false_iff.2 fun hown => unnamed ((h.keyed.own key record hget).1 hown)
  refine ⟨⟨?_, fun given hgiven => ?_, h.keyed.resolve hr, h.keyed'⟩, hstep ▸ hother⟩
  · exact (KeyRegistry.shown_resolve_other hget hother).trans h.shown
  · rw [KeyRegistry.isUsed_resolve hr, h.used given hgiven]

/-- The keys of a workflow are forgotten in both registries. -/
theorem purge (h : a.KeysAgree r r') (workflow : WorkflowId) : a.KeysAgree (r.purge workflow) (r'.purge workflow) where
  shown := by rw [KeyRegistry.shown_purge, KeyRegistry.shown_purge, h.shown]
  used given hgiven := Bool.eq_iff_iff.2 (by rw [KeyRegistry.isUsed_purge_iff, KeyRegistry.isUsed_purge_iff, h.used given hgiven])
  keyed := h.keyed.purge workflow
  keyed' := h.keyed'.purge workflow

/-- The keys of a workflow outside of the share are forgotten in one registry. -/
theorem purge_other (h : a.KeysAgree r r') (other : a.owns workflow = false) : a.KeysAgree (r.purge workflow) r' where
  shown := (KeyRegistry.shown_purge_other other).trans h.shown
  used given hgiven := (Bool.eq_iff_iff.2 KeyRegistry.isUsed_purge_iff).trans (h.used given hgiven)
  keyed := h.keyed.purge workflow
  keyed' := h.keyed'

/-! ## Requests -/

/-- Step instances of the share have the same keys in both registries. -/
theorem keysOf_eq (h : a.KeysAgree r r') (own : a.owns step.workflow = true) :
    (r.keysOf step).map (KeyStatus.told a.tells) = (r'.keysOf step).map (KeyStatus.told a.tells) := by
  have hshown : ∀ r : KeyRegistry, (r.keysOf step).map (KeyStatus.told a.tells) =
      (r.keys.shown (fun _ record => record.step = step) (KeyRecord.told a.tells)).rows.map fun row => ⟨row.2, row.1⟩ := by
    intro r
    rw [KeyRegistry.keysOf, Table.rows_shown, List.map_map, List.map_map]
    rfl
  have hstep : ∀ (_ : AsyncKey) (record : KeyRecord), decide (record.step = step) = true → a.owns record.step.workflow = true := by
    intro _ record hrecord
    rw [of_decide_eq_true hrecord, own]
  rw [hshown, hshown, Table.shown_mono h.shown hstep fun _ _ => rfl]

/-- Workflows of the share have as many keys in both registries. -/
theorem length_ownedBy_eq (h : a.KeysAgree r r') (own : a.owns workflow = true) :
    (r.ownedBy workflow).length = (r'.ownedBy workflow).length := by
  have hshown : ∀ r : KeyRegistry, (r.ownedBy workflow).length =
      (r.keys.shown (fun _ record => record.step.workflow = workflow) (KeyRecord.told a.tells)).size := by
    intro r
    rw [KeyRegistry.ownedBy, Table.keys, List.length_map, Table.size_shown, Table.size]
  have howner : ∀ (_ : AsyncKey) (record : KeyRecord), decide (record.step.workflow = workflow) = true →
      a.owns record.step.workflow = true := by
    intro _ record hrecord
    rw [of_decide_eq_true hrecord, own]
  rw [hshown, hshown, Table.shown_mono h.shown howner fun _ _ => rfl]

/-- A request within the share is answered alike by registries that agree on it, and they go on to agree. -/
theorem run (h : a.KeysAgree r r') {op : KeyOp} (within : op.Within a) (hnow : a.tells now = a.tells now') :
    op.told a.tells (op.run r now).1 = op.told a.tells (op.run r' now').1 ∧
      a.KeysAgree (op.run r now).2.1 (op.run r' now').2.1 ∧ (op.run r now).2.2 = (op.run r' now').2.2 := by
  cases op with
  | issue step source =>
    obtain ⟨own, binds⟩ := within
    have hkey : r.freshKey source = r'.freshKey source := KeyRegistry.freshKey_congr source fun n => h.used _ (binds n)
    refine ⟨hkey, ?_, rfl⟩
    show a.KeysAgree (r.bind (r.freshKey source) step now) (r'.bind (r'.freshKey source) step now')
    rw [← hkey]
    exact h.bind own (binds _) (KeyRegistry.isUsed_freshKey source) hnow
  | submit step key =>
    obtain ⟨own, binds⟩ := within
    cases hused : r.isUsed key with
    | true =>
      rw [KeyRegistry.run_submit_of_used step now hused, KeyRegistry.run_submit_of_used step now' ((h.used key binds).symm.trans hused)]
      exact ⟨rfl, h, rfl⟩
    | false =>
      rw [KeyRegistry.run_submit_of_unused step now hused,
        KeyRegistry.run_submit_of_unused step now' ((h.used key binds).symm.trans hused)]
      exact ⟨rfl, h.bind own binds hused hnow, rfl⟩
  | status key =>
    refine ⟨?_, h, rfl⟩
    have hstatus : ∀ r : KeyRegistry, Except.map (KeyStatus.told a.tells) (r.status key) =
        ((r.keys.get? key).map (KeyRecord.told a.tells)).elim (.error (.unknown key)) fun record => .ok ⟨record, key⟩ := by
      intro r
      rw [KeyRegistry.status]
      cases r.keys.get? key <;> rfl
    show Except.map _ (r.status key) = Except.map _ (r'.status key)
    rw [hstatus, hstatus, h.get?_eq within]
  | keysOf step => exact ⟨h.keysOf_eq within, h, rfl⟩
  | purge workflow => exact ⟨h.length_ownedBy_eq within, h.purge workflow, rfl⟩
  | pendingBefore cutoff => cases within
  | size => cases within
  | isEmpty => cases within

/-- A request that names nothing of the share, made to one registry. -/
theorem run_other (h : a.KeysAgree r r') {op : KeyOp} (within : op.Within a.others) : a.KeysAgree (op.run r now).2.1 r' := by
  cases op with
  | issue step source =>
    obtain ⟨other, binds⟩ := within
    exact h.bind_other (Bool.not_eq_true' _ ▸ other) (binds _).1 (binds _).2 (KeyRegistry.isUsed_freshKey source)
  | submit step key =>
    obtain ⟨other, unnamed, unbound⟩ := within
    cases hused : r.isUsed key with
    | true =>
      rw [KeyRegistry.run_submit_of_used step now hused]
      exact h
    | false =>
      rw [KeyRegistry.run_submit_of_unused step now hused]
      exact h.bind_other (Bool.not_eq_true' _ ▸ other) unnamed unbound hused
  | purge workflow => exact h.purge_other (Bool.not_eq_true' _ ▸ within)
  | _ => exact h

end KeysAgree

end Share

end StepEngine
