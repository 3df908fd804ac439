import SemanticBus.Data.Dict
import SemanticBus.Protocol.Envelope

/-!
# The event stream

Events, the filters of subscriptions, and the queue of each subscription.  An
event that finds its queue full is dropped.
-/

namespace SemanticBus

inductive EventType where
  | executionStarted
  | executionProgress
  | executionStepStarted
  | executionStepCompleted
  | executionCompleted
  | executionFailed
  | executionRetrying
  | executionTimeout
  | flowStarted
  | flowAgentQueued
  | flowAgentStarted
  | flowAgentCompleted
  | flowAgentFailed
  | flowTransition
  | flowCompleted
  | flowFailed
  | agentStatus
  | agentProgress
  | agentMetric
  | agentCustom
  | reasoningStarted
  | reasoningStep
  | reasoningObservation
  | reasoningThought
  | reasoningAction
  | reasoningCompleted
  | systemInfo
  | systemWarning
  | systemError
deriving DecidableEq, Repr

def EventType.value : EventType → String
  | executionStarted => "execution.started"
  | executionProgress => "execution.progress"
  | executionStepStarted => "execution.step.started"
  | executionStepCompleted => "execution.step.completed"
  | executionCompleted => "execution.completed"
  | executionFailed => "execution.failed"
  | executionRetrying => "execution.retrying"
  | executionTimeout => "execution.timeout"
  | flowStarted => "flow.started"
  | flowAgentQueued => "flow.agent.queued"
  | flowAgentStarted => "flow.agent.started"
  | flowAgentCompleted => "flow.agent.completed"
  | flowAgentFailed => "flow.agent.failed"
  | flowTransition => "flow.transition"
  | flowCompleted => "flow.completed"
  | flowFailed => "flow.failed"
  | agentStatus => "agent.status"
  | agentProgress => "agent.progress"
  | agentMetric => "agent.metric"
  | agentCustom => "agent.custom"
  | reasoningStarted => "reasoning.started"
  | reasoningStep => "reasoning.step"
  | reasoningObservation => "reasoning.observation"
  | reasoningThought => "reasoning.thought"
  | reasoningAction => "reasoning.action"
  | reasoningCompleted => "reasoning.completed"
  | systemInfo => "system.info"
  | systemWarning => "system.warning"
  | systemError => "system.error"

/-- Severity levels for events, the least severe first. -/
inductive EventSeverity where
  | debug
  | info
  | warning
  | error
  | critical
deriving DecidableEq, Repr

namespace EventSeverity

def value : EventSeverity → String
  | debug => "debug"
  | info => "info"
  | warning => "warning"
  | error => "error"
  | critical => "critical"

def rank : EventSeverity → Nat
  | debug => 0
  | info => 1
  | warning => 2
  | error => 3
  | critical => 4

end EventSeverity

/-- A streamable event, up to its fresh id and its timestamp. -/
structure BaseEvent where
  eventType : EventType
  sessionId : UUID
  execId : Option String := none
  correlationId : Option UUID := none
  tenantId : String
  sourceAgentId : Option UUID := none
  sourceName : Option String := none
  severity : EventSeverity := .info
  message : String
  data : JsonObj := []
  progressPercent : Option ℚ := none

def BaseEvent.toPayload (event : BaseEvent) : JsonObj :=
  [("event_type", .str event.eventType.value), ("session_id", .str event.sessionId.str),
    ("exec_id", .ofStr? event.execId), ("correlation_id", .ofUuid? event.correlationId),
    ("tenant_id", .str event.tenantId), ("source_agent_id", .ofUuid? event.sourceAgentId),
    ("source_name", .ofStr? event.sourceName), ("severity", .str event.severity.value),
    ("message", .str event.message), ("data", .obj event.data),
    ("progress_percent", match event.progressPercent with
      | none => .null
      | some percent => .float percent)]

/-- Filter configuration; a missing criterion matches any event. -/
structure EventFilter where
  sessionIds : Option (List UUID) := none
  execIds : Option (List String) := none
  eventTypes : Option (List EventType) := none
  eventTypePrefixes : Option (List String) := none
  minSeverity : EventSeverity := .debug
  sourceAgentIds : Option (List UUID) := none
  tenantIds : Option (List String) := none

/-- Whether an event meets every criterion. -/
def EventFilter.matches (filter : EventFilter) (event : BaseEvent) : Bool :=
  filter.sessionIds.all (event.sessionId ∈ ·)
    && filter.execIds.all (fun ids ↦ event.execId.any (· ∈ ids))
    && filter.eventTypes.all (event.eventType ∈ ·)
    && filter.eventTypePrefixes.all (·.any (event.eventType.value.startsWith ·))
    && filter.minSeverity.rank ≤ event.severity.rank
    && filter.sourceAgentIds.all (fun ids ↦ event.sourceAgentId.any (· ∈ ids))
    && filter.tenantIds.all (event.tenantId ∈ ·)

/-- A single subscription to the event stream; `none` in the queue is the end of
the stream. -/
structure EventSubscription where
  subscriptionId : String
  filter : EventFilter := {}
  maxQueueSize : Nat := 1000
  queue : List (Option BaseEvent) := []
  closed : Bool := false
  eventsReceived : Nat := 0
  eventsDropped : Nat := 0

namespace EventSubscription

/-- Whether the queue is at its capacity; a capacity of 0 is no bound. -/
def isFull (sub : EventSubscription) : Bool :=
  sub.maxQueueSize ≠ 0 && sub.maxQueueSize ≤ sub.queue.length

/-- Deliver an event to a subscription, unless it is closed, filtered out or
finds the queue full. -/
def deliver (sub : EventSubscription) (event : BaseEvent) : EventSubscription × Bool :=
  if sub.closed || !sub.filter.matches event then (sub, false)
  else if sub.isFull then ({ sub with eventsDropped := sub.eventsDropped + 1 }, false)
  else
    ({ sub with
        queue := sub.queue ++ [some event]
        eventsReceived := sub.eventsReceived + 1 }, true)

/-- What a delivery does: nothing, a drop on a full queue, or a queued event. -/
theorem deliver_cases (sub : EventSubscription) (event : BaseEvent) :
    ((sub.closed = true ∨ sub.filter.matches event = false) ∧ (sub.deliver event).1 = sub) ∨
    (sub.closed = false ∧ sub.filter.matches event = true ∧ sub.isFull = true ∧
      (sub.deliver event).1 = { sub with eventsDropped := sub.eventsDropped + 1 }) ∨
    (sub.closed = false ∧ sub.filter.matches event = true ∧ sub.isFull = false ∧
      (sub.deliver event).1 = { sub with
        queue := sub.queue ++ [some event]
        eventsReceived := sub.eventsReceived + 1 }) := by
  unfold deliver
  split_ifs with hskip hfull
  · left
    simpa using hskip
  · right; left
    simpa [hfull] using hskip
  · right; right
    simpa [hfull] using hskip

/-- Take the next event; nothing comes out of a closed subscription, and a
consumer that finds the queue empty times out. -/
def get (sub : EventSubscription) : EventSubscription × Option BaseEvent :=
  if sub.closed then (sub, none)
  else match sub.queue with
    | [] => (sub, none)
    | event :: queue => ({ sub with queue := queue }, event)

/-- Close the subscription, and signal the end of the stream if there is room. -/
def close (sub : EventSubscription) : EventSubscription :=
  { sub with closed := true, queue := if sub.isFull then sub.queue else sub.queue ++ [none] }

end EventSubscription

structure EventStream where
  maxSubscribers : Nat := 10000
  subscriptions : Dict String EventSubscription := ∅
  eventsPublished : Nat := 0
  eventsDelivered : Nat := 0

namespace EventStream

/-- Create a subscription, or give the text of the `ValueError`. -/
def subscribe (stream : EventStream) (subscriptionId : String) (filter : EventFilter) :
    Except String (EventStream × EventSubscription) :=
  if stream.subscriptions.contains subscriptionId then
    .error ("Subscription " ++ subscriptionId ++ " already exists")
  else if stream.maxSubscribers ≤ stream.subscriptions.size then
    .error ("Maximum subscribers (" ++ toString stream.maxSubscribers ++ ") reached")
  else
    let sub : EventSubscription := { subscriptionId := subscriptionId, filter := filter }
    .ok ({ stream with subscriptions := stream.subscriptions.insert subscriptionId sub }, sub)

/-- Remove a subscription; it is closed and nobody finds it any more. -/
def unsubscribe (stream : EventStream) (subscriptionId : String) : EventStream :=
  { stream with subscriptions := stream.subscriptions.erase subscriptionId }

/-- Publish an event to all matching subscribers. -/
def publish (stream : EventStream) (event : BaseEvent) : EventStream × Nat :=
  let results := stream.subscriptions.map fun _ sub ↦ sub.deliver event
  let delivered := (results.values.filter Prod.snd).length
  ({ stream with
      subscriptions := results.map fun _ result ↦ result.1
      eventsPublished := stream.eventsPublished + 1
      eventsDelivered := stream.eventsDelivered + delivered }, delivered)

end EventStream

def createSessionFilter (sessionId : UUID) : EventFilter := { sessionIds := some [sessionId] }

def createExecutionFilter (sessionId : UUID) (execId : String) : EventFilter :=
  { sessionIds := some [sessionId], execIds := some [execId] }

end SemanticBus
