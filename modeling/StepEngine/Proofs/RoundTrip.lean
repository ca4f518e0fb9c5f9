import StepEngine.Codec
import StepEngine.Config.Codec
import StepEngine.Proofs.Dict
import StepEngine.Proofs.Naming

/-!
# RoundTrip: what is written is read back

Every kind of value that is written as JSON is read back from it (`reading_undoes_writing`). The fields of a record are found by their names, in
whatever order they stand; a setting that may be absent is written as `null`, and no present value is; and the content of a variant has a
field of its own, so that a completion with the payload `null` has a content and an expiry has none. A composed value is read back because its
parts are: there is one lemma for each way to put values together, and one for each kind of value that cites them.
-/

namespace StepEngine

namespace Json

/-- Whatever is written is read back. -/
def Restores {α : Type} (read? : Json → Option α) (write : α → Json) : Prop := ∀ x, read? (write x) = some x

/-! ## Numbers -/

theorem natBelow?_nat {bound n : Nat} (h : n < bound) : natBelow? bound (.nat n) = some n := by
  simp [natBelow?, nat, h]

theorem restores_uint32 : Restores uint32? fun n => .nat n.toNat := by
  intro n
  rw [uint32?, natBelow?_nat n.toNat_lt_size, Option.map_some, UInt32.ofNat_toNat]

theorem restores_uint64 : Restores uint64? fun n => .nat n.toNat := by
  intro n
  rw [uint64?, natBelow?_nat n.toNat_lt_size, Option.map_some, UInt64.ofNat_toNat]

/-! ## Records -/

section

variable {α : Type} {read? : Json → Option α} {write : α → Json}

/-- The fields of a record are found, each by its name, if no two have the same. -/
theorem parts?_record {fields : List (String × Json)} (differ : (fields.map (·.1)).Nodup) :
    (record fields).parts? (fields.map (·.1)) = some (fields.map fun p => some p.2) := by
  rw [record, parts?, List.map_map]
  exact congrArg some (List.map_congr_left fun _ hp => Entries.get?_ofList_of_mem differ hp)

/-- A field of a record has its value, if no two have the same name. -/
theorem field?_record {fields : List (String × Json)} {key : String} {value : Json} (differ : (fields.map (·.1)).Nodup)
    (h : (key, value) ∈ fields) : (record fields).field? key = some value := Entries.get?_ofList_of_mem differ h

/-- A field that is there is read, and its default plays no part. -/
theorem withDefault_some (default : α) (j : Json) : withDefault default read? (some j) = read? j := rfl

/-- What may be absent is read back, if nothing that is present is written as `null`. -/
theorem Restores.nullable (h : Restores read? write) (present : ∀ x, write x ≠ .null) :
    Restores (nullable? read?) fun x => orNull (x.map write) := by
  intro x
  cases x with
  | none => rfl
  | some x =>
    have hvalue : nullable? read? (write x) = (read? (write x)).map some := by
      unfold nullable?
      split
      · rename_i heq
        exact absurd heq (present x)
      · rfl
    exact hvalue.trans (congrArg (Option.map some) (h x))

end

/-- The fields of an object are what it was made of. -/
theorem restores_dict : Restores asDict? ofDict := by
  intro d
  rw [ofDict, asDict?, Dict.ofList_entries]

/-! ## Variants -/

section

variable {tag content : String} (differ : content ≠ tag) (name : String)

include differ

/-- A variant that is written by its name alone has no content. -/
theorem tagged?_bare : (record [(tag, .text name)]).tagged? tag content = some (name, none) := by
  simp [record, tagged?, Entries.get?_ofList, Entries.get?, differ, variantName?]

/-- A variant has the content that is written beside its name, be it `null`. -/
theorem tagged?_with (value : Json) : (record [(tag, .text name), (content, value)]).tagged? tag content = some (name, some value) := by
  simp [record, tagged?, Entries.get?_ofList, Entries.get?, differ.symm, variantName?]

end

end Json

open Json

/-! ## Identifiers and keys -/

theorem WorkflowId.restores : Restores WorkflowId.ofJson? WorkflowId.toJson := by
  intro w
  simp [ofJson?, toJson, asText?, text, Uuid.ofText?_text]

theorem StepId.restores : Restores StepId.ofJson? StepId.toJson := by
  intro s
  have hparts : s.toJson.parts? ["workflow_instance_id", "step_name", "index"] =
      some [some s.workflow.toJson, some (.text s.name), some (.nat s.index.toNat)] :=
    parts?_record (by simp)
  rw [ofJson?, hparts]
  -- With the parts at hand the record is taken apart, so that each part is read by its own lemma.
  dsimp only
  rw [WorkflowId.restores s.workflow, asText?, restores_uint32 s.index]
  rfl

theorem AsyncKey.restores : Restores AsyncKey.ofJson? AsyncKey.toJson := fun _ => rfl

/-! ## States, events and outcomes -/

theorem StepState.restores : Restores StepState.ofJson? StepState.toJson := by
  intro s
  cases s <;> rfl

theorem KeyState.restores : Restores KeyState.ofJson? KeyState.toJson := by
  intro s
  cases s <;> rfl

theorem StepEvent.restores : Restores StepEvent.ofJson? StepEvent.toJson := by
  have differ : "data" ≠ "type" := by decide
  intro e
  cases e with
  | start => rw [toJson, ofJson?, tagged?_bare differ]; rfl
  | suspend key => rw [toJson, ofJson?, tagged?_with differ]; rfl
  | resume key => rw [toJson, ofJson?, tagged?_with differ]; rfl
  | complete => rw [toJson, ofJson?, tagged?_bare differ]; rfl
  | fail message => rw [toJson, ofJson?, tagged?_with differ]; rfl

theorem AsyncOutcome.restores : Restores AsyncOutcome.ofJson? AsyncOutcome.toJson := by
  have differ : "payload" ≠ "type" := by decide
  intro o
  cases o with
  | completed payload => rw [toJson, ofJson?, tagged?_with differ]; rfl
  | expired => rw [toJson, ofJson?, tagged?_bare differ]; rfl

/-! ## Settings -/

theorem ExecutionConfig.restores : Restores ExecutionConfig.ofJson? ExecutionConfig.toJson := by
  intro c
  have hparts : c.toJson.parts? ["environment", "max_concurrent_steps"] =
      some [some (.text c.environment), some (.nat c.maxConcurrentSteps.toNat)] :=
    parts?_record (by simp)
  rw [ofJson?, hparts]
  dsimp only
  rw [withDefault_some, asText?, withDefault_some, restores_uint64 c.maxConcurrentSteps]
  rfl

theorem NotificationConfig.restores : Restores NotificationConfig.ofJson? NotificationConfig.toJson := by
  intro c
  have hparts : c.toJson.parts? ["slow_handler_threshold_ms"] =
      some [some (orNull (c.slowHandlerThresholdMs.map fun ms => .nat ms.toNat))] :=
    parts?_record (by simp)
  rw [ofJson?, hparts]
  dsimp only
  rw [withDefault_some, restores_uint64.nullable (fun _ => nofun) c.slowHandlerThresholdMs]
  rfl

theorem StageConfig.restores : Restores StageConfig.ofJson? StageConfig.toJson := by
  have hbool : Restores asBool? .bool := fun _ => rfl
  intro c
  have hparts : c.toJson.parts? ["supports_bulk", "params"] =
      some [some (orNull (c.supportsBulk.map .bool)), some (ofDict c.params)] :=
    parts?_record (by simp)
  rw [ofJson?, hparts]
  dsimp only
  rw [withDefault_some, hbool.nullable (fun _ => nofun) c.supportsBulk, withDefault_some, restores_dict c.params]
  rfl

namespace EngineConfig

/-- The settings of the stages are read back, each under its name. -/
theorem restores_processors : Restores processorsOfJson? fun d => ofDict (d.mapValues StageConfig.toJson) := by
  intro d
  have hentry : (fun p : String × Json => (StageConfig.ofJson? p.2).map (p.1, ·)) ∘ (fun p => (p.1, StageConfig.toJson p.2)) = some := by
    funext p
    exact congrArg (Option.map (p.1, ·)) (StageConfig.restores p.2)
  have hentries : (d.mapValues StageConfig.toJson).entries.mapM (fun p => (StageConfig.ofJson? p.2).map (p.1, ·)) = some d.entries := by
    rw [Dict.mapValues, List.mapM_map, hentry]
    exact List.mapM_pure.trans (congrArg some (List.map_id d.entries))
  rw [processorsOfJson?, restores_dict (d.mapValues StageConfig.toJson), Option.bind_eq_bind, Option.bind_some, hentries]
  exact congrArg some (Dict.ofList_entries d)

theorem restores : Restores EngineConfig.ofJson? EngineConfig.toJson := by
  intro c
  have hparts : c.toJson.parts? ["execution", "notifications", "processors"] =
      some [some c.execution.toJson, some c.notifications.toJson, some (ofDict (c.processors.mapValues StageConfig.toJson))] :=
    parts?_record (by simp)
  rw [ofJson?, hparts]
  dsimp only
  rw [withDefault_some, ExecutionConfig.restores c.execution, withDefault_some, NotificationConfig.restores c.notifications,
    withDefault_some, restores_processors c.processors]
  rfl

end EngineConfig

/-! ## All of them -/

/-- Every kind of value that is written as JSON is read back. -/
structure ReadsBack : Prop where
  /-- A workflow instance, whatever its identifier is. -/
  workflow : Restores WorkflowId.ofJson? WorkflowId.toJson
  /-- A workflow instance whose identifier is written without hyphens is read as well. -/
  plain : Restores WorkflowId.ofJson? fun w => .text w.uuid.plainText
  /-- A step instance, with any name and any index. -/
  step : Restores StepId.ofJson? StepId.toJson
  /-- A key, with any token. -/
  key : Restores AsyncKey.ofJson? AsyncKey.toJson
  /-- The state of a step. -/
  state : Restores StepState.ofJson? StepState.toJson
  /-- The state of a key. -/
  keyState : Restores KeyState.ofJson? KeyState.toJson
  /-- An event of any kind, with any key or message. -/
  event : Restores StepEvent.ofJson? StepEvent.toJson
  /-- An outcome, with any payload: `null` is one, and is told from none. -/
  outcome : Restores AsyncOutcome.ofJson? AsyncOutcome.toJson
  /-- Data, with any values. -/
  data : Restores Data.ofJson? Data.toJson
  /-- The settings of execution, with any limit. -/
  execution : Restores ExecutionConfig.ofJson? ExecutionConfig.toJson
  /-- The settings of the bus, with any threshold or none. -/
  notifications : Restores NotificationConfig.ofJson? NotificationConfig.toJson
  /-- The settings of a stage, with any parameters. -/
  stage : Restores StageConfig.ofJson? StageConfig.toJson
  /-- The settings of the engine, for any stages. -/
  settings : Restores EngineConfig.ofJson? EngineConfig.toJson

/-- Reading undoes writing, for every kind of value. -/
theorem reading_undoes_writing : ReadsBack where
  workflow := WorkflowId.restores
  plain w := by simp [WorkflowId.ofJson?, asText?, Uuid.ofText?_plainText]
  step := StepId.restores
  key := AsyncKey.restores
  state := StepState.restores
  keyState := KeyState.restores
  event := StepEvent.restores
  outcome := AsyncOutcome.restores
  data := restores_dict
  execution := ExecutionConfig.restores
  notifications := NotificationConfig.restores
  stage := StageConfig.restores
  settings := EngineConfig.restores

end StepEngine
