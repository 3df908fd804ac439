import SemanticBus.Data.Clock
import SemanticBus.Data.Json
import SemanticBus.Data.Uuid

/-!
# Message envelopes

What the handlers read of a message and what they put in the messages they
build.  A `Message` leaves its id and its timestamp open: they are fresh for the
messages of the bus.  A `MessageEnvelope` is a received message and has its id.
A datetime in a payload is its clock reading.
-/

namespace SemanticBus

inductive MessageType where
  | agentRegister
  | agentRegistered
  | agentHeartbeat
  | agentHeartbeatAck
  | agentDeregister
  | agentList
  | agentListResult
  | intentBroadcast
  | intentDeliver
  | intentOffer
  | intentOfferReceived
  | intentOffers
  | intentAgree
  | intentReject
  | sessionCreated
  | sessionClose
  | execRequest
  | execAccepted
  | execProgress
  | execResult
  | execPartialFailure
  | execError
  | execStreamStart
  | execStreamChunk
  | execStreamEnd
  | traceGet
  | traceResult
  | error
  | orchestrationPlan
  | orchestrationPlanUpdate
  | multiOfferRequest
  | multiOfferStatus
  | multiNegotiationRequest
  | multiNegotiationStatus
  | multiExecStart
  | multiExecTaskResult
  | multiExecStatus
  | multiExecComplete
  | aggregationResult
  | eventSubscribe
  | eventUnsubscribe
  | eventSubscribed
  | event
  | eventExecution
  | eventFlow
  | eventAgent
  | eventReasoning
  | eventSystem
  | emitEvent
deriving DecidableEq, Repr

/-- The name of a message type, as error texts print it. -/
def MessageType.name : MessageType → String
  | agentRegister => "MessageType.AGENT_REGISTER"
  | agentRegistered => "MessageType.AGENT_REGISTERED"
  | agentHeartbeat => "MessageType.AGENT_HEARTBEAT"
  | agentHeartbeatAck => "MessageType.AGENT_HEARTBEAT_ACK"
  | agentDeregister => "MessageType.AGENT_DEREGISTER"
  | agentList => "MessageType.AGENT_LIST"
  | agentListResult => "MessageType.AGENT_LIST_RESULT"
  | intentBroadcast => "MessageType.INTENT_BROADCAST"
  | intentDeliver => "MessageType.INTENT_DELIVER"
  | intentOffer => "MessageType.INTENT_OFFER"
  | intentOfferReceived => "MessageType.INTENT_OFFER_RECEIVED"
  | intentOffers => "MessageType.INTENT_OFFERS"
  | intentAgree => "MessageType.INTENT_AGREE"
  | intentReject => "MessageType.INTENT_REJECT"
  | sessionCreated => "MessageType.SESSION_CREATED"
  | sessionClose => "MessageType.SESSION_CLOSE"
  | execRequest => "MessageType.EXEC_REQUEST"
  | execAccepted => "MessageType.EXEC_ACCEPTED"
  | execProgress => "MessageType.EXEC_PROGRESS"
  | execResult => "MessageType.EXEC_RESULT"
  | execPartialFailure => "MessageType.EXEC_PARTIAL_FAILURE"
  | execError => "MessageType.EXEC_ERROR"
  | execStreamStart => "MessageType.EXEC_STREAM_START"
  | execStreamChunk => "MessageType.EXEC_STREAM_CHUNK"
  | execStreamEnd => "MessageType.EXEC_STREAM_END"
  | traceGet => "MessageType.TRACE_GET"
  | traceResult => "MessageType.TRACE_RESULT"
  | error => "MessageType.ERROR"
  | orchestrationPlan => "MessageType.ORCHESTRATION_PLAN"
  | orchestrationPlanUpdate => "MessageType.ORCHESTRATION_PLAN_UPDATE"
  | multiOfferRequest => "MessageType.MULTI_OFFER_REQUEST"
  | multiOfferStatus => "MessageType.MULTI_OFFER_STATUS"
  | multiNegotiationRequest => "MessageType.MULTI_NEGOTIATION_REQUEST"
  | multiNegotiationStatus => "MessageType.MULTI_NEGOTIATION_STATUS"
  | multiExecStart => "MessageType.MULTI_EXEC_START"
  | multiExecTaskResult => "MessageType.MULTI_EXEC_TASK_RESULT"
  | multiExecStatus => "MessageType.MULTI_EXEC_STATUS"
  | multiExecComplete => "MessageType.MULTI_EXEC_COMPLETE"
  | aggregationResult => "MessageType.AGGREGATION_RESULT"
  | eventSubscribe => "MessageType.EVENT_SUBSCRIBE"
  | eventUnsubscribe => "MessageType.EVENT_UNSUBSCRIBE"
  | eventSubscribed => "MessageType.EVENT_SUBSCRIBED"
  | event => "MessageType.EVENT"
  | eventExecution => "MessageType.EVENT_EXECUTION"
  | eventFlow => "MessageType.EVENT_FLOW"
  | eventAgent => "MessageType.EVENT_AGENT"
  | eventReasoning => "MessageType.EVENT_REASONING"
  | eventSystem => "MessageType.EVENT_SYSTEM"
  | emitEvent => "MessageType.EMIT_EVENT"

def MessageType.value : MessageType → String
  | agentRegister => "agent.register"
  | agentRegistered => "agent.registered"
  | agentHeartbeat => "agent.heartbeat"
  | agentHeartbeatAck => "agent.heartbeat_ack"
  | agentDeregister => "agent.deregister"
  | agentList => "agent.list"
  | agentListResult => "agent.list.result"
  | intentBroadcast => "intent.broadcast"
  | intentDeliver => "intent.deliver"
  | intentOffer => "intent.offer"
  | intentOfferReceived => "intent.offer.received"
  | intentOffers => "intent.offers"
  | intentAgree => "intent.agree"
  | intentReject => "intent.reject"
  | sessionCreated => "session.created"
  | sessionClose => "session.close"
  | execRequest => "exec.request"
  | execAccepted => "exec.accepted"
  | execProgress => "exec.progress"
  | execResult => "exec.result"
  | execPartialFailure => "exec.partial_failure"
  | execError => "exec.error"
  | execStreamStart => "exec.stream.start"
  | execStreamChunk => "exec.stream.chunk"
  | execStreamEnd => "exec.stream.end"
  | traceGet => "trace.get"
  | traceResult => "trace.result"
  | error => "error"
  | orchestrationPlan => "orchestration.plan"
  | orchestrationPlanUpdate => "orchestration.plan.update"
  | multiOfferRequest => "orchestration.multi_offer.request"
  | multiOfferStatus => "orchestration.multi_offer.status"
  | multiNegotiationRequest => "orchestration.multi_negotiation.request"
  | multiNegotiationStatus => "orchestration.multi_negotiation.status"
  | multiExecStart => "orchestration.multi_exec.start"
  | multiExecTaskResult => "orchestration.multi_exec.task_result"
  | multiExecStatus => "orchestration.multi_exec.status"
  | multiExecComplete => "orchestration.multi_exec.complete"
  | aggregationResult => "orchestration.aggregation.result"
  | eventSubscribe => "event.subscribe"
  | eventUnsubscribe => "event.unsubscribe"
  | eventSubscribed => "event.subscribed"
  | event => "event"
  | eventExecution => "event.execution"
  | eventFlow => "event.flow"
  | eventAgent => "event.agent"
  | eventReasoning => "event.reasoning"
  | eventSystem => "event.system"
  | emitEvent => "emit.event"

/-- Bus identity, the sender of bus-originated messages. -/
def busId : UUID := ⟨0⟩

structure Message where
  messageType : MessageType
  senderId : UUID
  tenantId : String
  correlationId : Option UUID := none
  ephemeralInterfaceId : Option UUID := none
  schemaId : Option String := none
  payload : JsonObj := []
  purpose : Option String := none
  dataScope : List String := []

structure MessageEnvelope extends Message where
  messageId : UUID

/-- The text of an id that may be missing. -/
def Json.ofUuid? : Option UUID → Json
  | none => .null
  | some u => .str u.str

/-! ## The messages of the bus -/

/-- Bus response confirming agent registration. -/
def createAgentRegistered (tenantId : String) (correlationId agentId : UUID) (connId : String) :
    Message where
  messageType := .agentRegistered
  senderId := busId
  tenantId := tenantId
  correlationId := some correlationId
  payload := [("agent_id", .str agentId.str), ("conn_id", .str connId),
    ("status", .str "registered")]

def createHeartbeatAck (tenantId : String) (correlationId : UUID) : Message where
  messageType := .agentHeartbeatAck
  senderId := busId
  tenantId := tenantId
  correlationId := some correlationId
  payload := [("status", .str "alive")]

def createAgentListResult (tenantId : String) (correlationId : UUID) (agents : List Json) :
    Message where
  messageType := .agentListResult
  senderId := busId
  tenantId := tenantId
  correlationId := some correlationId
  payload := [("agents", .arr agents)]

def createError (tenantId : String) (correlationId : Option UUID) (errorCode errorMessage : String) :
    Message where
  messageType := .error
  senderId := busId
  tenantId := tenantId
  correlationId := correlationId
  payload := [("error_code", .str errorCode), ("error_message", .str errorMessage),
    ("details", .obj [])]

/-- The bus forwards an intent to an agent, with the session id. -/
def createIntentDeliverWithSession (tenantId : String)
    (correlationId ephemeralInterfaceId originalSenderId : UUID) (intentPayload : JsonObj)
    (purpose : Option String) (dataScope : List String) : Message where
  messageType := .intentDeliver
  senderId := busId
  tenantId := tenantId
  correlationId := some correlationId
  ephemeralInterfaceId := some ephemeralInterfaceId
  payload := intentPayload.set "original_sender_id" (.str originalSenderId.str)
  purpose := purpose
  dataScope := dataScope

def createIntentOfferReceived (tenantId : String) (correlationId : UUID) (offerId : String)
    (ephemeralInterfaceId : UUID) : Message where
  messageType := .intentOfferReceived
  senderId := busId
  tenantId := tenantId
  correlationId := some correlationId
  ephemeralInterfaceId := some ephemeralInterfaceId
  payload := [("offer_id", .str offerId), ("status", .str "received")]

/-- The bus sends collected offers to the requester. -/
def createIntentOffers (tenantId : String) (correlationId ephemeralInterfaceId : UUID)
    (offers : List Json) : Message where
  messageType := .intentOffers
  senderId := busId
  tenantId := tenantId
  correlationId := some correlationId
  ephemeralInterfaceId := some ephemeralInterfaceId
  payload := [("offers", .arr offers)]

/-- The bus tells the requester that a session is established. -/
def createSessionCreated (tenantId : String)
    (correlationId ephemeralInterfaceId requesterId providerId : UUID)
    (chosenOfferId chosenSchemaId chosenViewId : Json) (expiresAt : Time)
    (flowAgents : List String) : Message where
  messageType := .sessionCreated
  senderId := busId
  tenantId := tenantId
  correlationId := some correlationId
  ephemeralInterfaceId := some ephemeralInterfaceId
  payload := [("requester_id", .str requesterId.str), ("provider_id", .str providerId.str),
    ("chosen_offer_id", chosenOfferId), ("chosen_schema_id", chosenSchemaId),
    ("chosen_view_id", chosenViewId), ("expires_at", .int expiresAt),
    ("flow_agents", .ofStrs flowAgents)]

/-- The bus forwards the close of a session to the other party. -/
def createSessionClosed (tenantId : String) (ephemeralInterfaceId correlationId closedBy : UUID)
    (reason : Json) : Message where
  messageType := .sessionClose
  senderId := busId
  tenantId := tenantId
  correlationId := some correlationId
  ephemeralInterfaceId := some ephemeralInterfaceId
  payload := [("reason", reason), ("closed_by", .str closedBy.str)]

def createExecError (tenantId : String) (ephemeralInterfaceId correlationId : UUID) (execId : Json)
    (errorCode errorMessage : String) : Message where
  messageType := .execError
  senderId := busId
  tenantId := tenantId
  correlationId := some correlationId
  ephemeralInterfaceId := some ephemeralInterfaceId
  payload := [("exec_id", execId), ("error_code", .str errorCode),
    ("error_message", .str errorMessage), ("details", .obj [])]

def createTraceResult (tenantId : String) (ephemeralInterfaceId : Option UUID) (events : List Json)
    (truncated : Bool) (correlationId : UUID) : Message where
  messageType := .traceResult
  senderId := busId
  tenantId := tenantId
  correlationId := some correlationId
  ephemeralInterfaceId := ephemeralInterfaceId
  payload := [("events", .arr events), ("count", .int events.length),
    ("truncated", .bool truncated)]

def createEventSubscribed (tenantId : String) (correlationId sessionId : UUID)
    (subscriptionId : String) (eventTypes : Json) : Message where
  messageType := .eventSubscribed
  senderId := busId
  tenantId := tenantId
  correlationId := some correlationId
  ephemeralInterfaceId := some sessionId
  payload := [("session_id", .str sessionId.str), ("subscription_id", .str subscriptionId)]
    ++ if eventTypes.truthy then [("event_types", eventTypes)] else []

/-- The message type that delivers an event, by the first part of its type. -/
def eventMessageType (eventType : String) : MessageType :=
  if eventType.startsWith "execution." then .eventExecution
  else if eventType.startsWith "flow." then .eventFlow
  else if eventType.startsWith "agent." then .eventAgent
  else if eventType.startsWith "reasoning." then .eventReasoning
  else if eventType.startsWith "system." then .eventSystem
  else .event

def createEventEnvelope (tenantId : String) (sessionId : UUID) (eventData : JsonObj) : Message where
  messageType := eventMessageType (((eventData.get "event_type").str?).getD "")
  senderId := busId
  tenantId := tenantId
  ephemeralInterfaceId := some sessionId
  payload := eventData

end SemanticBus
