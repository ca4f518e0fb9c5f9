import StepEngine.Error
import StepEngine.Json
import StepEngine.Log
import StepEngine.Table

/-!
# Bus: notifications by topic

Subscribers register a handler for a topic. A publication on a topic goes to the handlers that are registered when it begins, one after
the other in the order of their registration, and every one of them gets it: a handler that fails or panics is put down in the report
and the next one runs. Whoever registers or leaves meanwhile is concerned by later publications only.

This module holds the register, the counters and the report of one delivery; running the handlers is the engine's part.
-/

namespace StepEngine

/-- A handler registered under an identifier. -/
structure Subscription (H : Type) where
  id : Nat
  handler : H

/-- What a subscriber gets in hand, to leave again. -/
structure SubscriptionHandle where
  id : Nat
  topic : String
  deriving DecidableEq, Repr

/-- What is delivered to a handler. -/
structure Notification where
  topic : String
  payload : Json
  publishedAt : Nat

/-- A handler that failed on a notification. -/
structure HandlerFailure where
  topic : String
  subscriptionId : Nat
  handlerName : String
  error : String
  panicked : Bool
  deriving DecidableEq, Repr

/-- The outcome of one publication. -/
structure PublishReport where
  topic : String
  delivered : Nat
  failures : List HandlerFailure
  deriving DecidableEq, Repr

namespace PublishReport

/-- Every handler ran without an error. -/
def isClean (r : PublishReport) : Bool := r.failures.isEmpty

/-- The handlers that ran, failed or not. -/
def invoked (r : PublishReport) : Nat := r.delivered + r.failures.length

end PublishReport

/-- The counters of a bus. -/
structure BusStats where
  totalSubscriptions : Nat
  topics : List (String × Nat)
  published : Nat
  deliveries : Nat
  failures : Nat

/-- The register of subscribers and the counters. `faults` lists the failures that were handed to the fault sink, the oldest
first; the sink also logs them unless they are collected for somebody else. Identifiers and counters are natural numbers: that words of
64 bits come to their end is taken as not reached. -/
structure Bus (H : Type) where
  topics : Table String (List (Subscription H))
  nextId : Nat
  published : Nat
  delivered : Nat
  failed : Nat
  faults : List HandlerFailure
  logsFaults : Bool

namespace Bus

variable {H : Type}

/-- A bus without subscribers. -/
def new (logsFaults : Bool) : Bus H := ⟨Table.empty, 1, 0, 0, 0, [], logsFaults⟩

/-- The subscribers of a topic, in the order of their registration. -/
def subscribers (b : Bus H) (topic : String) : List (Subscription H) := (b.topics.get? topic).getD []

/-- A handler registered for a topic, behind those that are there. -/
def subscribe (b : Bus H) (topic : String) (handler : H) : Bus H :=
  { b with
    topics := b.topics.put topic (b.subscribers topic ++ [⟨b.nextId, handler⟩])
    nextId := b.nextId + 1 }

/-- The subscribers of a handle's topic without the one that the handle names. -/
def others (b : Bus H) (handle : SubscriptionHandle) : List (Subscription H) :=
  (b.subscribers handle.topic).filter fun s => s.id ≠ handle.id

/-- A subscription removed. A topic that nobody is left on is forgotten; a handle of a removed subscription changes nothing. -/
def unsubscribe (b : Bus H) (handle : SubscriptionHandle) : Bus H :=
  if b.topics.contains handle.topic then
    if (b.others handle).isEmpty then { b with topics := b.topics.erase handle.topic }
    else { b with topics := b.topics.put handle.topic (b.others handle) }
  else b

/-- The handle names a subscription that is there. -/
def isLive (b : Bus H) (handle : SubscriptionHandle) : Bool :=
  (b.subscribers handle.topic).any fun s => s.id == handle.id

/-- The number of subscribers of a topic. -/
def subscriberCount (b : Bus H) (topic : String) : Nat := (b.subscribers topic).length

/-- The topics that somebody listens on, with the number of their subscribers. -/
def topicSizes (b : Bus H) : List (String × Nat) := b.topics.rows.map fun row => (row.1, row.2.length)

/-- The counters. -/
def stats (b : Bus H) : BusStats where
  totalSubscriptions := b.topicSizes.foldr (fun size total => size.2 + total) 0
  topics := b.topicSizes
  published := b.published
  deliveries := b.delivered
  failures := b.failed

/-- One more publication. -/
def countPublished (b : Bus H) : Bus H := { b with published := b.published + 1 }

/-- One more handler that ran without an error. -/
def countDelivered (b : Bus H) : Bus H := { b with delivered := b.delivered + 1 }

/-- One more handler that failed; the fault sink gets the failure. -/
def countFailed (b : Bus H) (failure : HandlerFailure) : Bus H :=
  { b with failed := b.failed + 1, faults := b.faults ++ [failure] }

end Bus

/-- A publication that is being delivered: the subscription whose handler runs and since when, those still to come, and the report
so far. -/
structure Delivery (H : Type) where
  notification : Notification
  current : Subscription H
  startedAt : Nat
  remaining : List (Subscription H)
  report : PublishReport

namespace HandlerFailure

/-- The default fault sink's report of a failure. -/
def log (f : HandlerFailure) : LogEvent where
  level := .error
  message := "Notification handler failed"
  fields :=
    [("topic", .text f.topic), ("subscription_id", .nat f.subscriptionId), ("handler", .text f.handlerName),
      ("panicked", .bool f.panicked), ("error", .text f.error)]

end HandlerFailure

namespace PublishReport

/-- The report of a publication that nobody listens to. -/
def logDropped (topic : String) : LogEvent where
  level := .debug
  message := "No subscribers for notification, dropping"
  fields := [("topic", .text topic)]

/-- The report of a publication that was delivered. -/
def logPublished (r : PublishReport) : LogEvent where
  level := .debug
  message := "Published notification"
  fields := [("topic", .text r.topic), ("delivered", .nat r.delivered), ("failed", .nat r.failures.length)]

end PublishReport

/-- A request to the bus that is answered at once. -/
inductive BusOp (H : Type) where
  /-- A handler registered for a topic. -/
  | subscribe (topic : String) (handler : H)
  /-- A subscription removed. -/
  | unsubscribe (handle : SubscriptionHandle)
  /-- The number of subscribers of a topic. -/
  | subscriberCount (topic : String)
  /-- The counters. -/
  | stats
  /-- The failures that the fault sink got. -/
  | faults

namespace BusOp

variable {H : Type}

/-- What the bus answers to a request. -/
def Answer : BusOp H → Type
  | subscribe _ _ => SubscriptionHandle
  | unsubscribe _ => Unit
  | subscriberCount _ => Nat
  | stats => BusStats
  | faults => List HandlerFailure

/-- A request carried out: the answer and the bus afterwards. -/
def run (b : Bus H) : (op : BusOp H) → op.Answer × Bus H
  | subscribe topic handler => ((⟨b.nextId, topic⟩ : SubscriptionHandle), b.subscribe topic handler)
  | unsubscribe handle => ((), b.unsubscribe handle)
  | subscriberCount topic => (b.subscriberCount topic, b)
  | stats => (b.stats, b)
  | faults => (b.faults, b)

/-- What a request reports: who comes and who leaves. `name` gives the name of a handler. -/
def log (name : H → String) (b : Bus H) : BusOp H → List LogEvent
  | subscribe topic handler =>
    [⟨.info, "Registered notification handler",
      [("topic", .text topic), ("subscription_id", .nat b.nextId), ("handler", .text (name handler))]⟩]
  | unsubscribe handle =>
    if b.isLive handle then
      [⟨.info, "Unregistered notification handler",
        [("topic", .text handle.topic), ("subscription_id", .nat handle.id)]⟩]
    else []
  | _ => []

end BusOp

end StepEngine
