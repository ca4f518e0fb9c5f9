import StepEngine.Bus
import StepEngine.Codec
import StepEngine.Engine.Slot
import StepEngine.Error.Kind
import StepEngine.Pipeline.Stage

/-!
# Reports as JSON

What the engine tells an observer outside: reports of publications and batches, counters, the status of keys, outcomes of steps, and log events.
A failure is shown by the name of its cause and its wording.
-/

namespace StepEngine

/-- A failure as a value: the name of its cause and its wording. -/
def Json.failure (kind message : String) : List (String × Json) := [("error", .text kind), ("message", .text message)]

/-- A handler's failure as a value. -/
def HandlerFailure.toJson (f : HandlerFailure) : Json :=
  Json.record
    [("topic", .text f.topic), ("subscription_id", .nat f.subscriptionId), ("handler_name", .text f.handlerName),
      ("error", .text f.error), ("panicked", .bool f.panicked)]

/-- The report of a publication as a value. -/
def PublishReport.toJson (r : PublishReport) : Json :=
  Json.record
    [("topic", .text r.topic), ("delivered", .nat r.delivered),
      ("failures", .array (r.failures.map HandlerFailure.toJson))]

/-- The report of a publication as a value, with what follows from it. -/
def PublishReport.summary (r : PublishReport) : Json :=
  Json.record [("report", r.toJson), ("clean", .bool r.isClean), ("invoked", .nat r.invoked)]

/-- The counters of a bus as a value. -/
def BusStats.toJson (s : BusStats) : Json :=
  Json.record
    [("total_subscriptions", .nat s.totalSubscriptions),
      ("topics", Json.record (s.topics.map fun p => (p.1, .nat p.2))), ("published", .nat s.published),
      ("deliveries", .nat s.deliveries), ("failures", .nat s.failures)]

/-- What is known about a key as a value; the times are not told. -/
def KeyStatus.toJson (s : KeyStatus) : Json :=
  Json.record
    [("key", s.key.toJson), ("step_instance_id", s.step.toJson), ("state", s.state.toJson),
      ("payload", Json.orNull s.payload), ("has_payload", .bool s.payload.isSome),
      ("resolved", .bool s.resolvedAt.isSome), ("terminal", .bool s.state.isTerminal)]

/-- The outcome of a run as a value. -/
def StepOutcome.toJson : StepOutcome → Json
  | complete => Json.record [("outcome", .text "complete")]
  | suspended key => Json.record [("outcome", .text "suspended"), ("key", key.toJson)]
  | failed e => Json.record (("outcome", .text "failed") :: Json.failure e.kind e.message)

/-- The report of a batch as a value. -/
def BatchReport.toJson (r : BatchReport) : Json :=
  Json.record
    [("stage", .text r.stage), ("submitted", .nat r.submitted), ("forwarded", .nat r.forwarded),
      ("failures", .array (r.failures.map fun f =>
        Json.record [("index", .nat f.index), ("error", .text f.cause.message)])),
      ("skipped", .nat r.skipped), ("aborted", .bool r.aborted)]

/-- The report of a batch as a value, with what follows from it. -/
def BatchReport.summary (r : BatchReport) : Json :=
  Json.record
    [("report", r.toJson), ("clean", .bool r.isClean),
      ("kinds", Json.texts (r.failures.map fun f => f.cause.kind))]

/-- A state as a value, with what follows from it. -/
def StepState.summary (s : StepState) : Json :=
  Json.record
    [("state", s.toJson), ("display", .text s.text), ("terminal", .bool s.isTerminal), ("active", .bool s.isActive),
      ("suspended", .bool s.isSuspended)]

/-- What an event is about, as a value. -/
def StepEvent.summary (e : StepEvent) : Json :=
  Json.record
    [("event_type", .text e.kind), ("error_message", Json.textOrNull e.failure?),
      ("async_key", Json.orNull (e.key?.map AsyncKey.toJson))]

/-- A state of a key as a value, with what follows from it. -/
def KeyState.summary (s : KeyState) : Json :=
  Json.record [("display", .text s.text), ("terminal", .bool s.isTerminal)]

/-- What an outcome brings, as a value: a list of one payload, or null when it brings none. -/
def AsyncOutcome.summary (o : AsyncOutcome) : Json :=
  Json.record
    [("payload", Json.orNull (o.payload?.map fun p => .array [p])), ("expired", .bool o.isExpired)]

/-- A subscription as a value. -/
def SubscriptionHandle.toJson (h : SubscriptionHandle) : Json :=
  Json.record [("id", .nat h.id), ("topic", .text h.topic)]

/-- What a stage is like, as a value's fields. -/
def Stage.summary {m : Type → Type} (s : Stage m) : List (String × Json) :=
  [("name", .text s.name), ("supports_bulk", .bool s.supportsBulk), ("processor_bulk", .bool s.processor.supportsBulk)]

/-- How a run ended, as a value. -/
def Completion.toJson : Completion → Json
  | complete => .null
  | suspended key => Json.record [("suspended", key.toJson)]

/-- A failure to load a configuration as a value. A faulty document is shown by where reading it failed: before or behind the step from the
text to a document. -/
def ConfigError.toJson (e : ConfigError) : Json :=
  match e with
  | .invalidYaml file reason =>
    let phase := if reason.startsWith ConfigError.mismatch then "deserialize" else "parse"
    Json.record [("error", .text e.kind), ("file", .text file), ("phase", .text phase)]
  | .invalidValue field value reason =>
    Json.record
      (Json.failure e.kind e.message ++ [("field", .text field), ("value", .text value), ("reason", .text reason)])
  | _ => Json.record (Json.failure e.kind e.message)

/-- Whether a configuration is valid, as a value. -/
def EngineConfig.verdict (c : EngineConfig) : Json :=
  match c.validate with
  | .ok () => .text "valid"
  | .error e => e.toJson

/-- A transition as a value. -/
def Transition.toJson (t : Transition) : Json :=
  Json.record [("from", t.source.toJson), ("to", t.target.toJson), ("event", t.event.toJson)]

/-- A log event as a value. -/
def LogEvent.toJson (e : LogEvent) : Json :=
  Json.record [("level", .text e.level.text), ("message", .text e.message), ("fields", Json.record e.fields)]

end StepEngine
