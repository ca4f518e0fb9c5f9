import StepEngine.Proofs.Chain
import StepEngine.Proofs.Dict

/-!
# Prefixing: renamed fields are neither lost nor confused

A text put in front of every key keeps the keys apart and in their order, so a prefixer renames the fields of a record one by one; the
constants hide the renamed fields whose new names they have, and nothing else is lost (`Prefixer.Renames`). Two prefixers one after the
other put their texts in front of each other: a row of stages with prefixers that have no constants does what one stage does, with the
texts of the row joined in reverse. What a stage does is compared through its sink, which may be any: it is offered one record, and the
answer depends on what it says to it (`Sink.offer`).
-/

namespace StepEngine

/-! ## A text in front of the keys -/

/-- A text in front keeps the order of the keys. -/
theorem front_lt (front : String) (a b : String) (h : a < b) : front ++ a < front ++ b := by
  rw [String.lt_iff] at h ⊢
  rw [String.toList_append, String.toList_append]
  exact List.append_left_lt h

/-- A text in front keeps the keys apart. -/
theorem front_inj (front : String) (a b : String) (h : front ++ a = front ++ b) : a = b := (String.append_right_inj front).1 h

namespace Prefixer

/-- A key without the text in front of it. -/
def strip (front key : String) : String := String.ofList (key.toList.drop front.toList.length)

/-- What was put in front of a key is taken away. -/
@[simp] theorem strip_append (front key : String) : strip front (front ++ key) = key := by
  rw [strip, String.toList_append, List.drop_left, String.ofList_toList]

/-- What a prefixer makes of the fields of a record. -/
structure Renames (p : Prefixer) (fields out : Dict Json) : Prop where
  /-- The constants are there. -/
  constant : ∀ key value, p.constants.get? key = some value → out.get? key = some value
  /-- A key that a field gets, and that the constants do not have, has the value of the field. -/
  renamed : ∀ key, p.constants.get? (p.front ++ key) = none → out.get? (p.front ++ key) = fields.get? key
  /-- There is nothing at any other key. -/
  absent : ∀ key, p.constants.get? key = none → (∀ field, key ≠ p.front ++ field) → out.get? key = none
  /-- All fields and constants are there, less the fields that get the key of a constant. -/
  size : out.size + (fields.keys.countP fun key => p.constants.contains (p.front ++ key)) = fields.size + p.constants.size
  /-- Without the constants, and without the text in front of their keys, the fields are back that were not hidden. -/
  recovers : (out.entries.filter fun e => !p.constants.contains e.1).map (fun e => (strip p.front e.1, e.2)) =
    fields.entries.filter fun e => !p.constants.contains (p.front ++ e.1)

variable (p : Prefixer) (fields : Dict Json)

/-- The fields of a record are renamed one by one. -/
theorem entries_front : (fields.mapKeys (p.front ++ ·)).entries = fields.entries.map fun e => (p.front ++ e.1, e.2) :=
  Dict.entries_mapKeys (front_lt p.front) fields

/-- A field is found at its new key. -/
theorem get?_front (key : String) : (fields.mapKeys (p.front ++ ·)).get? (p.front ++ key) = fields.get? key := by
  rw [Dict.get?, entries_front]
  exact Entries.get?_map (front_inj p.front)

/-- Fields are found at their new keys only. -/
theorem get?_front_other {key : String} (h : ∀ field, key ≠ p.front ++ field) : (fields.mapKeys (p.front ++ ·)).get? key = none := by
  rw [Dict.get?, entries_front]
  exact Entries.get?_map_other h

/-- A prefixer renames the fields of a record and hides nothing but what its constants hide. -/
theorem renames : p.Renames fields (p.rename fields) where
  constant key value h := by rw [rename, Dict.get?_merge, h, Option.some_or]
  renamed key h := by rw [rename, Dict.get?_merge, h, Option.none_or, get?_front]
  absent key h hother := by rw [rename, Dict.get?_merge, h, Option.none_or, get?_front_other p fields hother]
  size := by
    have hmerged := Dict.size_merge (fields.mapKeys (p.front ++ ·)) p.constants
    have hsize : (fields.mapKeys (p.front ++ ·)).size = fields.size := by
      rw [Dict.size, entries_front, List.length_map, Dict.size]
    have hkeys : (fields.mapKeys (p.front ++ ·)).keys.countP p.constants.contains =
        fields.keys.countP fun key => p.constants.contains (p.front ++ key) := by
      rw [Dict.keys, entries_front, Dict.keys, List.countP_map, List.countP_map, List.countP_map]
      rfl
    rw [hsize, hkeys] at hmerged
    exact hmerged
  recovers := by
    have hstrip : ((fun e : String × Json => (strip p.front e.1, e.2)) ∘ fun e => (p.front ++ e.1, e.2)) = id := by
      funext e
      simp
    rw [rename, Dict.filter_merge, entries_front, List.filter_map, List.map_map, hstrip, List.map_id]
    rfl

/-- The fields of a record, if it has any: those of the default record when there is none. -/
def fields? : Json → Option (Dict Json)
  | .null => some p.defaultRecord
  | .object fields => some (Dict.ofList fields)
  | _ => none

variable {p fields}

/-- The output for a record with fields. -/
theorem transform_of_fields? {record : Json} (h : p.fields? record = some fields) :
    p.transform record = .ok [Json.ofDict (p.rename fields)] := by
  unfold fields? at h
  split at h <;> cases h <;> rfl

/-- The fields of an object are what it was made of. -/
theorem fields?_ofDict (p : Prefixer) (fields : Dict Json) : p.fields? (Json.ofDict fields) = some fields := by
  rw [Json.ofDict, fields?, Dict.ofList_entries]

/-- Without constants nothing but the keys changes. -/
theorem rename_of_bare (bare : p.constants = Dict.empty) (fields : Dict Json) : p.rename fields = fields.mapKeys (p.front ++ ·) := by
  rw [rename, bare]
  rfl

end Prefixer

/-! ## Stages with prefixers -/

section

variable {m : Type → Type} [Monad m] {α β : Type}

/-- Two effects are the same after a third one. -/
def SameAfter (start : m Unit) (x y : m α) : Prop := (start >>= fun _ => x) = start >>= fun _ => y

/-- A record offered to a sink, and what is answered: one record was forwarded, or the sink refused it. -/
def Sink.offer (sink : Sink m) (record : Json) (refused : SinkError → ProcessorError) : m (Except ProcessorError Nat) := do
  match ← sink.accept record with
  | .ok () => pure (.ok 1)
  | .error e => pure (.error (refused e))

/-- A prefixer without constants in a stage, with the settings of the stage. After `start` no failure is due: the cell that its processor
reads says so. -/
structure PrefixStage (start : m Unit) where
  prefixer : Prefixer
  raising : Cell m Bool
  config : StageConfig
  bare : prefixer.constants = Dict.empty
  calm : SameAfter start raising.get (pure false)

namespace PrefixStage

variable {start : m Unit}

/-- The stage in front of a sink. -/
def stage (s : PrefixStage start) (sink : Sink m) : Stage m := .new (s.prefixer.toProcessor s.raising) sink s.config

/-- Stages in a row, each of them in front of the next one and the last one in front of a sink. -/
def row [Journal m] (first : PrefixStage start) : List (PrefixStage start) → Sink m → Stage m
  | [], sink => first.stage sink
  | next :: rest, sink => first.stage (row next rest sink).toSink

/-- The error of a row of which the last stage was refused a record: every stage reports what the one behind it has reported. -/
def refused (first : PrefixStage start) : List (PrefixStage start) → SinkError → ProcessorError
  | [], e => .sinkRejected first.prefixer.name e
  | next :: rest, e => .sinkRejected first.prefixer.name (.rejected (refused next rest e).message)

/-- The texts of a row, the last one in front. -/
def front (row : List (PrefixStage start)) : String := String.join (row.map (·.prefixer.front)).reverse

/-- The text of one stage. -/
theorem front_single (s : PrefixStage start) : front [s] = s.prefixer.front := by simp [front]

/-- The texts of a row stand in front of the text of a stage before it. -/
theorem front_cons (s : PrefixStage start) (rest : List (PrefixStage start)) : front (s :: rest) = front rest ++ s.prefixer.front := by
  simp [front, String.join_append]

end PrefixStage

variable [LawfulMonad m] {start : m Unit}

/-- What follows upon the same is the same. -/
theorem SameAfter.bind {x y : m α} (h : SameAfter start x y) (f : α → m β) : SameAfter start (x >>= f) (y >>= f) := by
  unfold SameAfter at h ⊢
  rw [← bind_assoc, h, bind_assoc]

/-- What is known of the first part of an effect. -/
theorem SameAfter.pure_bind {x : m α} {a : α} (h : SameAfter start x (pure a)) (f : α → m β) : SameAfter start (x >>= f) (f a) := by
  have hf := h.bind f
  rwa [LawfulMonad.pure_bind] at hf

/-- When no failure is due, the processor of a prefixer yields what the prefixer makes of the record. -/
theorem Prefixer.submit_toProcessor {raising : Cell m Bool} (calm : SameAfter start raising.get (pure false)) (p : Prefixer)
    (record : Json) : SameAfter start ((p.toProcessor raising).submit record) (pure (p.transform record)) :=
  calm.pure_bind _

/-- A record that becomes one record at a stage is offered to its sink as that. -/
theorem Stage.submit_single {stage : Stage m} {record out : Json}
    (h : SameAfter start (stage.processor.submit record) (pure (.ok [out]))) :
    SameAfter start (stage.submit record) (stage.sink.offer out (.sinkRejected stage.name)) := by
  -- what is left is a stage that has got its one output and forwards it
  refine (h.pure_bind _ : SameAfter start (stage.submit record) _).trans (congrArg _ (funext fun _ => ?_))
  show (stage.flush [out] >>= _) = _
  rw [flush, bind_assoc, Sink.offer]
  refine congrArg _ (funext fun answer => ?_)
  cases answer with
  | ok =>
    rw [flush, LawfulMonad.pure_bind]
    rfl
  | error e => rw [LawfulMonad.pure_bind]

/-- A stage that offers one record to its sink is a sink that does so; what it reports of a refusal is a refusal in turn. -/
theorem Stage.offer_toSink [Journal m] {stage : Stage m} {sink : Sink m} {record out : Json} {refused : SinkError → ProcessorError}
    (h : SameAfter start (stage.submit record) (sink.offer out refused)) (outer : SinkError → ProcessorError) :
    SameAfter start (stage.toSink.offer record outer) (sink.offer out fun e => outer (.rejected (refused e).message)) := by
  let answered := fun result : Except ProcessorError Nat => (result.map fun _ => 1).mapError fun e => outer (.rejected e.message)
  have hstage : stage.toSink.offer record outer = stage.submit record >>= fun result => pure (answered result) := by
    rw [Sink.offer, toSink, bind_assoc]
    refine congrArg _ (funext fun result => ?_)
    cases result <;> exact LawfulMonad.pure_bind _ _
  have hsink : (sink.offer out refused >>= fun result => pure (answered result)) =
      sink.offer out fun e => outer (.rejected (refused e).message) := by
    rw [Sink.offer, Sink.offer, bind_assoc]
    refine congrArg _ (funext fun answer => ?_)
    cases answer <;> exact LawfulMonad.pure_bind _ _
  rw [hstage, ← hsink]
  exact h.bind _

namespace PrefixStage

/-- A stage offers the renamed fields to its sink. -/
theorem submit_stage (s : PrefixStage start) (sink : Sink m) {record : Json} {fields : Dict Json}
    (h : s.prefixer.fields? record = some fields) :
    SameAfter start ((s.stage sink).submit record)
      (sink.offer (Json.ofDict (fields.mapKeys (s.prefixer.front ++ ·))) (.sinkRejected s.prefixer.name)) := by
  have hprocess := Prefixer.submit_toProcessor s.calm s.prefixer record
  rw [Prefixer.transform_of_fields? h, Prefixer.rename_of_bare s.bare] at hprocess
  exact Stage.submit_single hprocess

/-- A row of stages offers the fields to its sink with all texts in front of their keys. -/
theorem submit_row [Journal m] (first : PrefixStage start) (rest : List (PrefixStage start)) (sink : Sink m) {record : Json}
    {fields : Dict Json} (h : first.prefixer.fields? record = some fields) :
    SameAfter start ((first.row rest sink).submit record)
      (sink.offer (Json.ofDict (fields.mapKeys (front (first :: rest) ++ ·))) (first.refused rest)) := by
  induction rest generalizing first record fields with
  | nil =>
    rw [front_single]
    exact first.submit_stage sink h
  | cons next rest ih =>
    -- the row behind the first stage gets the fields with the first text in front, and puts its own texts in front of that
    have hfirst := first.submit_stage (next.row rest sink).toSink h
    have hkeys : (fields.mapKeys (first.prefixer.front ++ ·)).mapKeys (front (next :: rest) ++ ·) =
        fields.mapKeys (front (first :: next :: rest) ++ ·) := by
      rw [Dict.mapKeys_mapKeys (front_lt _) (front_lt _), front_cons first]
      exact congrArg (fields.mapKeys ·) (funext fun key => String.append_assoc.symm)
    have hrest := ih next (next.prefixer.fields?_ofDict (fields.mapKeys (first.prefixer.front ++ ·)))
    rw [hkeys] at hrest
    exact hfirst.trans (Stage.offer_toSink hrest _)

end PrefixStage

/-- Prefixing is lossless and composes. A prefixer of which no failure is due emits one object for an object, with all fields renamed that
its constants do not hide. A row of stages with prefixers without constants offers the same one record to its sink as one stage with all
their texts in front and the default record of the first. -/
theorem prefixing_lossless_and_composes [Journal m] (start : m Unit) :
    (∀ (p : Prefixer) (raising : Cell m Bool), SameAfter start raising.get (pure false) → ∀ fields : List (String × Json),
      ∃ out : Dict Json, SameAfter start ((p.toProcessor raising).submit (.object fields)) (pure (.ok [Json.ofDict out])) ∧
        p.Renames (Dict.ofList fields) out) ∧
    ∀ (first : PrefixStage start) (rest : List (PrefixStage start)) (one : PrefixStage start) (sink : Sink m) (record : Json),
      one.prefixer.front = PrefixStage.front (first :: rest) → one.prefixer.defaultRecord = first.prefixer.defaultRecord →
      record = .null ∨ (∃ fields, record = .object fields) →
      ∃ out : Dict Json, SameAfter start ((first.row rest sink).submit record) (sink.offer (Json.ofDict out) (first.refused rest)) ∧
        SameAfter start ((one.stage sink).submit record) (sink.offer (Json.ofDict out) (.sinkRejected one.prefixer.name)) := by
  constructor
  · intro p raising calm fields
    exact ⟨p.rename (Dict.ofList fields), p.submit_toProcessor calm _, p.renames _⟩
  · intro first rest one sink record hfront hdefault hrecord
    obtain ⟨fields, hfirst, hone⟩ : ∃ fields, first.prefixer.fields? record = some fields ∧
        one.prefixer.fields? record = some fields := by
      rcases hrecord with rfl | ⟨fields, rfl⟩
      · exact ⟨_, rfl, congrArg some hdefault⟩
      · exact ⟨_, rfl, rfl⟩
    have hsingle := one.submit_stage sink hone
    rw [hfront] at hsingle
    exact ⟨_, first.submit_row rest sink hfirst, hsingle⟩

end

namespace Sample

/-- The failures that are due, by the names of the prefixers, beside what a sink has collected. -/
abbrev Dues := Apart (String → Bool) (List Json)

/-- What is due from one prefixer. -/
def due (name : String) : Cell (StateM Dues) Bool where
  get world := (world.processor name, world)
  set value world := ((), { world with processor := fun other => if other = name then value else world.processor other })

/-- No failure is asked for. -/
def calmly : StateM Dues Unit := fun world => ((), { world with processor := fun _ => false })

/-- The stage of a prefixer without further settings. -/
def fronting (name front : String) : PrefixStage calmly := ⟨.new name front, due name, ⟨none, Dict.empty⟩, rfl, rfl⟩

/-- The sink that collects. -/
def collected : Sink (StateM Dues) :=
  .collecting ⟨fun world => (world.sink, world), fun records world => ((), { world with sink := records })⟩

/-- A prefixer with a constant that hides a field. -/
def covering : Prefixer := { Prefixer.new "hides" "A-" with constants := Dict.empty.insert "A-x" .null }

/-- Two stages and the one that stands for both, and a constant that hides the only field of a record. -/
theorem fronting_twice :
    (SameAfter calmly (due "hides").get (pure false) ∧ ∃ out : Dict Json,
        SameAfter calmly ((covering.toProcessor (due "hides")).submit (.object [("x", .bool true)])) (pure (.ok [Json.ofDict out])) ∧
          covering.Renames (Dict.ofList [("x", .bool true)]) out) ∧
      (∃ out : Dict Json,
        SameAfter calmly (((fronting "first" "1-").row [fronting "second" "2-"] collected).submit (.object [("x", .bool true)]))
            (collected.offer (Json.ofDict out) ((fronting "first" "1-").refused [fronting "second" "2-"])) ∧
          SameAfter calmly (((fronting "one" "2-1-").stage collected).submit (.object [("x", .bool true)]))
            (collected.offer (Json.ofDict out) (.sinkRejected "one"))) ∧
      ((calmly >>= fun _ => ((fronting "first" "1-").row [fronting "second" "2-"] collected).submit (.object [("x", .bool true)])).run
        ⟨fun _ => true, [], []⟩).2.sink = [.object [("2-1-x", .bool true)]] := by
  obtain ⟨hlossless, hcomposes⟩ := prefixing_lossless_and_composes calmly
  refine ⟨⟨rfl, hlossless covering (due "hides") rfl _⟩, ?_, rfl⟩
  exact hcomposes (fronting "first" "1-") [fronting "second" "2-"] (fronting "one" "2-1-") collected _ rfl rfl (Or.inr ⟨_, rfl⟩)

end Sample

end StepEngine
