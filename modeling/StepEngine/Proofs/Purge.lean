import StepEngine.Proofs.Bystanders.Session
import StepEngine.Proofs.Share.Twins

/-!
# Purge: exact, and not noticed by others

A purge drops exactly what the stores, the keys and the inputs have of a workflow, and answers how much that was
(`World.PurgesExactly`). Whoever does not ask for it does not notice: every session goes on in the same way with the purge and without
it, as long as it names only other workflows and keys that were not bound to the purged one (`Share.sparing`). It may bind any token it
likes, for the tokens of the dropped keys are retired and stay used up.
-/

namespace StepEngine

variable {V : Vocabulary} {ρ : Type}

/-! ## What is dropped -/

namespace Table

variable {κ α : Type} {t : Table κ α} {p q : κ → α → Bool}

/-- Nothing is left of rows that were dropped. -/
theorem size_filter_filter (apart : ∀ k v, q k v = true → p k v = false) : ((t.filter q).filter p).size = 0 := by
  rw [size, List.length_eq_zero_iff, filter, List.filter_eq_nil_iff]
  intro row hrow
  rw [apart _ _ (List.mem_filter.1 hrow).2]
  exact Bool.false_ne_true

variable [DecidableEq κ] {key : κ}

/-- A key has one row or none. -/
theorem size_filter_key : (t.filter fun k _ => k = key).size = if t.contains key then 1 else 0 := by
  have hcount : (t.filter fun k _ => k = key).size = (t.rows.map (·.1)).count key := by
    rw [size, filter, List.count_eq_countP, List.countP_map, List.countP_eq_length_filter]
    rfl
  rw [hcount, t.nodup.count]
  simp only [contains_iff_mem_keys, keys]

end Table

namespace World

variable {w : World V} {workflow : WorkflowId}

/-- The entries of a workflow, counted in the four tables. -/
theorem ownedCount_eq (w : World V) (workflow : WorkflowId) : w.ownedCount workflow =
    (w.stepData.entries.filter fun step _ => step.workflow = workflow).size +
      (w.workflowData.entries.filter fun other _ => other = workflow).size +
      (w.keys.keys.filter fun _ record => record.step.workflow = workflow).size +
      (w.inputs.filter fun other _ => other = workflow).size := by
  have hinput : (w.inputs.filter fun other _ => other = workflow).size = if w.inputs.contains workflow then 1 else 0 :=
    Table.size_filter_key
  rw [ownedCount, Store.size_sub_purge, Store.size_sub_purge, KeyRegistry.ownedBy, Table.keys, List.length_map, hinput]
  rfl

/-- A purge of a workflow in a world: its answer, and what is left of the workflow afterwards. -/
structure PurgesExactly (w : World V) (workflow : WorkflowId) : Prop where
  /-- The answer is the number of its step instances with data, of its own data, of its keys and of its input. -/
  count : (PlainOp.run w (.purgeWorkflow workflow)).1 =
    (w.stepData.entries.filter fun step _ => step.workflow = workflow).size +
      (w.workflowData.entries.filter fun other _ => other = workflow).size +
      (w.keys.keys.filter fun _ record => record.step.workflow = workflow).size + (w.inputs.filter fun other _ => other = workflow).size
  /-- Its step instances have no data any more. -/
  stepData : ∀ step : StepId, step.workflow = workflow →
    ((StoreOp.read step).run (w.purgeWorkflow workflow).stepData).1 = (.error (.stepNotFound step) : Except StoreError Data) ∧
    ((StoreOp.snapshot step).run (w.purgeWorkflow workflow).stepData).1 = (.error (.stepNotFound step) : Except StoreError Data) ∧
    ∀ delta, ((StoreOp.merge step delta).run (w.purgeWorkflow workflow).stepData).1 = (.error (.stepNotFound step) : Except StoreError Data)
  /-- It has no data any more. -/
  workflowData :
    ((StoreOp.read workflow).run (w.purgeWorkflow workflow).workflowData).1 =
      (.error (.workflowNotFound workflow) : Except StoreError Data) ∧
    ((StoreOp.snapshot workflow).run (w.purgeWorkflow workflow).workflowData).1 =
      (.error (.workflowNotFound workflow) : Except StoreError Data) ∧
    ∀ delta, ((StoreOp.merge workflow delta).run (w.purgeWorkflow workflow).workflowData).1 =
      (.error (.workflowNotFound workflow) : Except StoreError Data)
  /-- It has no input any more. -/
  input : (w.purgeWorkflow workflow).input workflow = .error (.workflowNotFound workflow)
  /-- Its keys are unknown. -/
  status : ∀ key ∈ w.keys.ownedBy workflow, (w.purgeWorkflow workflow).keys.status key = .error (.unknown key)
  /-- Whoever completes or expires one of them is told so, and nothing happens. -/
  resolution : ∀ key ∈ w.keys.ownedBy workflow, ∀ (c : Client V) (ρ : Type) (k : Kind) (sc : Scene V) (outcome : AsyncOutcome)
    (next : Except KeyError Unit → Program V (k.Result ρ)) (below : Stack V ρ (.code k)), sc.world = w.purgeWorkflow workflow →
      Machine.resolve c sc key outcome next below = ⟨sc, .run (next (.error (.unknown key))) below⟩
  /-- A second purge drops nothing. -/
  again : (PlainOp.run (w.purgeWorkflow workflow) (.purgeWorkflow workflow)).1 = (0 : Nat)

/-- A store that was purged has no data for the scopes of the workflow. -/
theorem not_found_of_purge {κ : Type} [DecidableEq κ] [Scope κ] (s : Store κ) {scope : κ} (owner : Scope.owner scope = workflow) :
    ((StoreOp.read scope).run (s.purge workflow)).1 = (.error (Scope.notFound scope) : Except StoreError Data) ∧
    ((StoreOp.snapshot scope).run (s.purge workflow)).1 = (.error (Scope.notFound scope) : Except StoreError Data) ∧
    ∀ delta, ((StoreOp.merge scope delta).run (s.purge workflow)).1 = (.error (Scope.notFound scope) : Except StoreError Data) := by
  have hget : (s.purge workflow).entries.get? scope = none := (Store.get?_purge s workflow).trans (if_pos owner)
  have hread : (s.purge workflow).read scope = .error (Scope.notFound scope) := by rw [Store.read, hget]
  refine ⟨hread, hread, fun delta => ?_⟩
  simp only [StoreOp.run, Store.merge, hget]
  rfl

/-- Every purge is exact. -/
theorem purgesExactly (w : World V) (workflow : WorkflowId) : w.PurgesExactly workflow := by
  have hkey : ∀ key ∈ w.keys.ownedBy workflow, (w.purgeWorkflow workflow).keys.keys.get? key = none := by
    intro key hkey
    obtain ⟨record, hget, howner⟩ := KeyRegistry.mem_ownedBy.1 hkey
    refine KeyRegistry.get?_purge.trans ?_
    rw [hget, Option.filter_some, if_neg (by simpa using howner)]
  refine ⟨ownedCount_eq w workflow, fun step owner => not_found_of_purge w.stepData owner, not_found_of_purge w.workflowData rfl, ?_,
    fun key howned => ?_, fun key howned c ρ k sc outcome next below hworld => ?_, ?_⟩
  · have hget : (w.purgeWorkflow workflow).inputs.get? workflow = none := by
      refine (Table.get?_filter _).trans ?_
      cases w.inputs.get? workflow <;> simp [Option.filter_some]
    rw [input, hget]
  · rw [KeyRegistry.status, hkey key howned]
  · refine resolve_eq_error next below ?_
    rw [hworld, KeyRegistry.resolve, hkey key howned]
  · show (w.purgeWorkflow workflow).ownedCount workflow = 0
    rw [ownedCount_eq]
    have hstores : ∀ {κ : Type} [Scope κ] (s : Store κ),
        ((s.purge workflow).entries.filter fun scope _ => Scope.owner scope = workflow).size = 0 :=
      fun s => Table.size_filter_filter (t := s.entries) (q := fun scope _ => Scope.owner scope ≠ workflow) fun _ _ h => by simpa using h
    have hkeys : ((w.purgeWorkflow workflow).keys.keys.filter fun _ record => record.step.workflow = workflow).size = 0 :=
      Table.size_filter_filter (t := w.keys.keys) (q := fun _ record => record.step.workflow ≠ workflow) fun _ _ h => by simpa using h
    have hinputs : ((w.purgeWorkflow workflow).inputs.filter fun other _ => other = workflow).size = 0 :=
      Table.size_filter_filter (t := w.inputs) (q := fun other _ => other ≠ workflow) fun _ _ h => by simpa using h
    rw [hkeys, hinputs]
    exact congrArg₂ (· + · + 0 + 0) (hstores w.stepData) (hstores w.workflowData)

end World

/-! ## What the others have -/

namespace Share

/-- What is not a workflow's: the other workflows with their keys, and every token, whoever it was bound to. Times are told as they are. -/
def sparing (r : KeyRegistry) (workflow : WorkflowId) : Share :=
  ⟨fun other => other ≠ workflow, fun key => key ∉ r.ownedBy workflow, fun _ => True, id⟩

variable {r : KeyRegistry} {workflow : WorkflowId}

/-- The keys that are not the workflow's are those bound to other workflows, and those that nobody has. -/
theorem sparing_keyed (r : KeyRegistry) (workflow : WorkflowId) : (sparing r workflow).Keyed r where
  own key record hget := by
    refine decide_eq_true_iff.trans (not_congr ?_)
    rw [KeyRegistry.mem_ownedBy, hget]
    exact ⟨fun owner => ⟨record, rfl, owner⟩, fun ⟨_, hrecord, owner⟩ => Option.some.inj hrecord ▸ owner⟩
  free key _ hfree howned := by
    obtain ⟨record, hget, -⟩ := KeyRegistry.mem_ownedBy.1 howned
    rw [KeyRegistry.get?_of_unused hfree] at hget
    cases hget

/-- A purge leaves the others what they have. -/
theorem agree_purgeWorkflow (w : World V) (workflow : WorkflowId) : (sparing w.keys workflow).Agree w (w.purgeWorkflow workflow) := by
  have hkeyed := sparing_keyed w.keys workflow
  have hself : (sparing w.keys workflow).Agree w w := ⟨rfl, rfl, rfl, rfl, fun _ _ => rfl, hkeyed, hkeyed⟩
  exact (hself.purgeWorkflow_other (decide_eq_false (not_not.2 rfl))).symm

end Share

/-! ## What the others notice -/

namespace Session

variable {c : Client V} {a : Share}

/-- During some steps, only workflows, step instances and keys of a share are named. -/
def Keeps (c : Client V) (a : Share) (s : Session V ρ) (n : Nat) : Prop := ∀ i < n, ((step c)^[i] s).state.Within a

/-- Two sessions are at the same point, and whoever keeps to the share is told the same in both. -/
structure Even (a : Share) (s t : Session V ρ) : Prop where
  control : t.state.control = s.state.control
  waiting : t.waiting = s.waiting
  memory : t.state.scene.memory = s.state.scene.memory
  /-- Everything that the engine keeps is the same, but for the stores, the inputs and the keys. -/
  world : t.state.scene.world = s.state.scene.world.withHoldings t.state.scene.world
  /-- The share has the same data, inputs and keys, and has used up the same tokens. -/
  agree : a.Agree s.state.scene.world t.state.scene.world
  /-- A request within the share that is made now, and answered at once, is answered the same. -/
  answer : ∀ op : PlainOp V, op.Within a → (op.run t.state.scene.world).1 = (op.run s.state.scene.world).1
  /-- A key of the share that is resolved now is resolved for the same step instance, or refused with the same error. -/
  resolution : ∀ key, a.names key → ∀ outcome,
    (t.state.scene.world.keys.resolve key outcome t.state.scene.world.clock).map Prod.fst =
      (s.state.scene.world.keys.resolve key outcome s.state.scene.world.clock).map Prod.fst

/-- Twin states with the same programs to come are even. -/
theorem even_of_twins (exact : a.tells = id) {s t : Session V ρ} (h : a.Twins s.state t.state) (waiting : t.waiting = s.waiting) :
    Even a s t where
  control := h.control
  waiting := waiting
  memory := h.scene.memory
  world := h.scene.rest
  agree := h.scene.agree
  answer op within := by
    obtain ⟨hanswer, -⟩ := h.scene.run within [] []
    rwa [exact, PlainOp.told_id, PlainOp.told_id] at hanswer
  resolution key names outcome := by
    have hclock : a.tells s.state.scene.world.clock = a.tells t.state.scene.world.clock := by rw [h.scene.clock_eq]
    rcases h.scene.agree.keys.resolve names outcome hclock with ⟨e, hs, ht⟩ | ⟨r, keys, keys', hs, ht, -⟩
    · rw [hs, ht]
    · rw [hs, ht]
      rfl

/-- A step of two sessions in twin states. -/
theorem twins_step (exact : a.tells = id) {s t : Session V ρ} (h : a.Twins s.state t.state) (waiting : t.waiting = s.waiting)
    (within : s.state.Within a) : a.Twins (s.step c).state (t.step c).state ∧ (t.step c).waiting = (s.step c).waiting := by
  obtain ⟨⟨sc, control⟩, later⟩ := s
  obtain ⟨⟨sc', control'⟩, later'⟩ := t
  obtain ⟨scene, hcontrol⟩ := id h
  cases hcontrol
  cases waiting
  by_cases hgoes : (∀ result, control ≠ .finished result) ∨ later = []
  · rw [step_eq hgoes, step_eq hgoes]
    exact ⟨h.step exact within, rfl⟩
  · obtain ⟨⟨result, hfinished⟩, hlater⟩ : (∃ result, control = .finished result) ∧ later ≠ [] := by
      simpa only [not_or, not_forall, not_not, exists_prop] using hgoes
    subst hfinished
    cases later with
    | nil => exact absurd rfl hlater
    | cons program rest =>
      refine ⟨⟨⟨scene.agree, scene.rest, scene.memory⟩, ?_⟩, rfl⟩
      show Control.run program Stack.bottom = _
      rfl

/-- Sessions that begin in twin states stay even as long as the first one keeps to the share. -/
theorem even_iterate (exact : a.tells = id) {s t : Session V ρ} (h : a.Twins s.state t.state) (waiting : t.waiting = s.waiting) {n : Nat}
    (keeps : Keeps c a s n) : Even a ((step c)^[n] s) ((step c)^[n] t) := by
  have htwins : ∀ m ≤ n, a.Twins ((step c)^[m] s).state ((step c)^[m] t).state ∧ ((step c)^[m] t).waiting = ((step c)^[m] s).waiting := by
    intro m hm
    induction m with
    | zero => exact ⟨h, waiting⟩
    | succ m ih =>
      obtain ⟨hm', hwaiting⟩ := ih (by omega)
      rw [Function.iterate_succ_apply', Function.iterate_succ_apply']
      exact twins_step exact hm' hwaiting (keeps m hm)
  exact even_of_twins exact (htwins n (Nat.le_refl n)).1 (htwins n (Nat.le_refl n)).2

end Session

/-- A purge is exact, and not noticed by others: it drops what the workflow has and answers how much that was, and a session in which it
is carried out stays even with the same session in which it is only answered, as long as nobody asks for the workflow or its keys. -/
theorem purge_exact_and_unnoticed (c : Client V) (sc : Scene V) (workflow : WorkflowId) {k : Kind} (next : Nat → Program V (k.Result ρ))
    (below : Stack V ρ (.code k)) (waiting : List (Program V ρ)) :
    sc.world.PurgesExactly workflow ∧ ∀ n,
      Session.Keeps c (.sparing sc.world.keys workflow) ⟨⟨sc, .run (next (sc.world.ownedCount workflow)) below⟩, waiting⟩ n →
      Session.Even (.sparing sc.world.keys workflow)
        ((Session.step c)^[n] ⟨⟨sc, .run (next (sc.world.ownedCount workflow)) below⟩, waiting⟩)
        ((Session.step c)^[n + 1] ⟨⟨sc, .run (.call (.plain (.purgeWorkflow workflow)) next) below⟩, waiting⟩) := by
  refine ⟨sc.world.purgesExactly workflow, fun n keeps => ?_⟩
  let purged : Session V ρ := Session.step c ⟨⟨sc, .run (.call (.plain (.purgeWorkflow workflow)) next) below⟩, waiting⟩
  have htwins : (Share.sparing sc.world.keys workflow).Twins ⟨sc, .run (next (sc.world.ownedCount workflow)) below⟩ purged.state :=
    ⟨⟨Share.agree_purgeWorkflow sc.world workflow, rfl, rfl⟩, rfl⟩
  rw [Function.iterate_succ_apply]
  exact Session.even_iterate (s := ⟨⟨sc, .run (next (sc.world.ownedCount workflow)) below⟩, waiting⟩) (t := purged) rfl htwins rfl keeps

/-! ## A sample -/

namespace Sample

/-- The world in which a key is bound to the lone step instance. -/
def tenanted : Scene vocabulary := ⟨((PlainOp.key (.submit lone left)).run (World.new .default false)).2, (), []⟩

/-- After the purge of its workflow, the token is tried for the other step instance, with how much was purged put before the answer. -/
def successor (purged : Nat) : Program vocabulary (Nat × Except KeyError Unit) :=
  .call (.plain (.key (.submit neighbour left))) fun answer => .done (purged, answer)

/-- The key is purged and its token refused to the other step instance, as it is without the purge. -/
theorem token_stays_used_up :
    Session.Keeps waiting (.sparing tenanted.world.keys lone.workflow)
      ⟨⟨tenanted, .run (k := .main) (successor (tenanted.world.ownedCount lone.workflow)) .bottom⟩, []⟩ 2 ∧
    ((Session.step waiting)^[3]
      ⟨⟨tenanted, .run (k := .main) (.call (.plain (.purgeWorkflow lone.workflow)) successor) .bottom⟩, []⟩).state.control =
      .finished (.ok (1, .error (.duplicate left))) := by
  have keeps : Session.Keeps waiting (.sparing tenanted.world.keys lone.workflow)
      ⟨⟨tenanted, .run (k := .main) (successor (tenanted.world.ownedCount lone.workflow)) .bottom⟩, []⟩ 2 := by
    intro i hi
    obtain rfl | rfl : i = 0 ∨ i = 1 := by omega
    · refine ⟨fun op hop => ?_, nofun⟩
      cases hop
      exact ⟨by decide, trivial⟩
    · exact ⟨nofun, nofun⟩
  have even := (purge_exact_and_unnoticed waiting tenanted lone.workflow (k := .main) successor .bottom []).2 2 keeps
  exact ⟨keeps, even.control.trans rfl⟩

end Sample

end StepEngine
