import SemanticBus.Events.Manager
import SemanticBus.Routing.Router
import SemanticBus.Session.Manager
import SemanticBus.Trace.Store
import SemanticBus.Transport.ConnectionQueue

/-!
# The message handlers

`Bus` is what the handlers share; each handler is a function from the state, the
websocket and connection id of the sender, and the received envelope to an
`Outcome`: the state after, the messages sent (a failing send is absorbed), and
the exception that escapes, if one does.  What happened before an exception
stays.

A handler runs as one step and reads the clock once, a broadcast excepted: it
waits for the language model and for offers, so it leaves a `FlowTask` behind.
-/

namespace SemanticBus

structure DeliveryTask where
  connId : String
  websocket : Nat
  sessionId : UUID
  tenantId : String

/-- What the handlers take from libraries: how the validation library reads a text
as a number, how a formatted text prints a value that is no string, and the text
of an exception. -/
structure Library where
  floatOfStr : String → Option ℚ
  format : Json → String
  errorText : PyError → String

structure Bus where
  registry : AgentRegistry := {}
  sessions : SessionManager := {}
  trace : SemanticTraceStore := {}
  queues : ConnectionQueueManager := {}
  events : EventManager := {}
  eventDeliveryTasks : Dict String DeliveryTask := ∅
  library : Library

/-- What a step reads of its environment: the clock, and fresh ids. -/
structure Env where
  now : Time
  uuid : Nat → UUID

/-- Where a broadcast is: waiting for the language model, delivering the intent to
the agents of the flow, or waiting for their offers, until the next look at them. -/
inductive FlowStage where
  | planning (available : List AgentRecord)
  | delivering (sessionId : UUID) (flow : AgentFlow) (todo : List AgentNode)
  | collecting (sessionId : UUID) (flow : AgentFlow) (polls : Nat) (wake : Time)

structure FlowTask where
  websocket : Nat
  connId : String
  envelope : MessageEnvelope
  stage : FlowStage

structure Outcome where
  bus : Bus
  sends : List (Nat × Message) := []
  task : Option FlowTask := none
  error : Option PyError := none

namespace Bus

/-! ## Replies -/

/-- Return without a message. -/
def done (b : Bus) : Outcome := { bus := b }

/-- Return after sending a message. -/
def reply (b : Bus) (websocket : Nat) (message : Message) : Outcome :=
  { bus := b, sends := [(websocket, message)] }

/-- Raise an exception. -/
def raise (b : Bus) (e : PyError) : Outcome := { bus := b, error := some e }

def sendError (b : Bus) (websocket : Nat) (envelope : MessageEnvelope)
    (errorCode errorMessage : String) : Outcome :=
  b.reply websocket (createError
    (if envelope.tenantId = "" then "system" else envelope.tenantId)
    (some envelope.messageId) errorCode errorMessage)

/-- `Session {session_id} not found`. -/
def sessionNotFound (sessionId : UUID) : String := "Session " ++ sessionId.str ++ " not found"

def record (b : Bus) (event : TraceEvent) : Bus := { b with trace := b.trace.append event }

/-- Forward a message to the requester of a session, if it is connected. -/
def forward (b : Bus) (session : Session) (message : Message) : Outcome :=
  match b.registry.getWebsocket session.requesterConnId with
  | none => b.done
  | some websocket => b.reply websocket message

def updateExecution (b : Bus) (env : Env) (sessionId : UUID) (execId : Json)
    (status : ExecutionStatus) (resultViewId : Option Json) (resultValid : Option Bool) : Bus :=
  { b with
    sessions := b.sessions.update sessionId
      (·.updateExecutionStatus env.now execId status resultViewId resultValid) }

/-! ## Agents -/

def handleHeartbeat (b : Bus) (env : Env) (websocket : Nat) (connId : String)
    (envelope : MessageEnvelope) : Outcome :=
  let (registry, success) := b.registry.heartbeat env.now connId
  let b := { b with registry := registry }
  if success then b.reply websocket (createHeartbeatAck envelope.tenantId envelope.messageId)
  else b.sendError websocket envelope "AGENT_NOT_FOUND" "Agent not registered"

/-- The agents of a tenant given by a payload: a false value stands for all
tenants, and no tenant id equals what is not a string. -/
def agentsOf (r : AgentRegistry) (filterTenant onlyOnline : Json) : List AgentRecord :=
  match filterTenant with
  | .str tenantId => r.listAgents (some tenantId) onlyOnline.truthy
  | value => if value.truthy then [] else r.listAgents none onlyOnline.truthy

def handleList (b : Bus) (websocket : Nat) (envelope : MessageEnvelope) : Outcome :=
  let filterTenant := JsonObj.getD envelope.payload "tenant_id" (.str envelope.tenantId)
  let onlyOnline := JsonObj.getD envelope.payload "only_online" (.bool true)
  let agents := agentsOf b.registry filterTenant onlyOnline
  b.reply websocket (createAgentListResult envelope.tenantId envelope.messageId
    (agents.map AgentRecord.toPublicDict))

/-! ## Negotiation -/

/-- Handle `intent.broadcast`, up to the question to the language model. -/
def handleIntentBroadcast (b : Bus) (websocket : Nat) (connId : String)
    (envelope : MessageEnvelope) : Outcome :=
  match findAgentFlow b.registry envelope with
  | none => b.sendError websocket envelope "NO_AGENTS" "No agents available to fulfill this intent"
  | some available =>
      { bus := b
        task := some
          { websocket := websocket
            connId := connId
            envelope := envelope
            stage := .planning available } }

/-- The text of an offer id: `off_` and the first twelve digits of a fresh id. -/
def offerIdOf (id : UUID) : String := "off_" ++ String.ofList (id.hex.toList.take 12)

def offerWellFormed (b : Bus) (envelope : MessageEnvelope) : Bool :=
  let body : JsonObj := envelope.payload
  Offer.wellFormed b.library.floatOfStr ((body.getD "schema_ids" (.arr [])).orElse (.arr []))
    ((body.getD "view_ids" (.arr [])).orElse (.arr []))
    ((body.getD "requires" (.arr [])).orElse (.arr []))
    ((body.getD "accepts" (.arr [])).orElse (.arr [])) (body.getD "score" (.float 0))
    ((body.getD "metadata" (.obj [])).orElse (.obj []))

def handleIntentOffer (b : Bus) (env : Env) (websocket : Nat) (connId : String)
    (envelope : MessageEnvelope) : Outcome :=
  match envelope.ephemeralInterfaceId with
  | none => b.sendError websocket envelope "MISSING_SESSION_ID"
      "intent.offer requires ephemeral_interface_id"
  | some sessionId =>
      match b.sessions.getSession sessionId with
      | none => b.sendError websocket envelope "SESSION_NOT_FOUND" (sessionNotFound sessionId)
      | some _ =>
          let body : JsonObj := envelope.payload
          match b.sessions.addOffer b.library.floatOfStr env.now (offerIdOf (env.uuid 0)) sessionId
              envelope.senderId connId (body.getD "schema_ids" (.arr []))
              (body.getD "view_ids" (.arr [])) (body.getD "requires" (.arr []))
              (body.getD "accepts" (.arr [])) (body.getD "score" (.float 0))
              (body.getD "metadata" (.obj [])) with
          | .error e => b.raise e
          | .ok (_, none) => b.sendError websocket envelope "OFFER_REJECTED"
              "Could not add offer to session (session may be closed or expired)"
          | .ok (sessions, some offer) =>
              let b := { b with sessions := sessions }.record (traceIntentOffer envelope.tenantId
                sessionId envelope.senderId offer.offerId (body.getD "view_ids" (.arr [])))
              b.reply websocket (createIntentOfferReceived envelope.tenantId envelope.messageId
                offer.offerId sessionId)

/-- What the handler of `intent.agree` does to the session. -/
def activate (session : Session) (now : Time) (offerId : String) : Session :=
  { session with
    status := .active
    activatedAt := some now
    chosenOfferId := some offerId
    providerAgentId := some busId
    providerConnId := some "bus-flow-executor" }

def handleIntentAgree (b : Bus) (env : Env) (websocket : Nat) (envelope : MessageEnvelope) :
    Outcome :=
  match envelope.ephemeralInterfaceId with
  | none => b.sendError websocket envelope "MISSING_SESSION_ID"
      "intent.agree requires ephemeral_interface_id"
  | some sessionId =>
      let body : JsonObj := envelope.payload
      let offerId := body.get "offer_id"
      if !offerId.truthy then b.sendError websocket envelope "MISSING_OFFER_ID"
        "intent.agree requires offer_id in payload"
      else match b.sessions.getSession sessionId with
        | none => b.sendError websocket envelope "SESSION_NOT_FOUND" (sessionNotFound sessionId)
        | some session =>
            if session.requesterAgentId ≠ envelope.senderId then
              b.sendError websocket envelope "NOT_AUTHORIZED"
                "Only the requester can agree to an offer"
            else match offerId with
              | .str offerId =>
                  if session.aggregatedOfferId ≠ some offerId then
                    b.sendError websocket envelope "INVALID_OFFER"
                      ("Offer " ++ offerId ++ " does not match session offer")
                  else
                    let session := activate session env.now offerId
                    let b := { b with
                      sessions := b.sessions.update sessionId (activate · env.now offerId) }
                    let b := (b.record (traceIntentAgree session.tenantId
                      session.ephemeralInterfaceId session.requesterAgentId busId (.str offerId)
                      (body.get "chosen_view_id"))).record (traceSessionCreated session.tenantId
                      session.ephemeralInterfaceId session.requesterAgentId busId)
                    b.reply websocket (createSessionCreated session.tenantId
                      session.intentMessageId session.ephemeralInterfaceId session.requesterAgentId
                      busId (.str offerId) (body.get "chosen_schema_id")
                      (body.get "chosen_view_id") session.expiresAt session.flowAgents)
              | value => b.sendError websocket envelope "INVALID_OFFER"
                  ("Offer " ++ b.library.format value ++ " does not match session offer")

/-- The connection of the party that is not closing the session. -/
def otherConnId (session : Session) (connId : String) : Option String :=
  if connId = session.requesterConnId then session.providerConnId
  else some session.requesterConnId

def handleSessionClose (b : Bus) (env : Env) (websocket : Nat) (connId : String)
    (envelope : MessageEnvelope) : Outcome :=
  match envelope.ephemeralInterfaceId with
  | none => b.sendError websocket envelope "MISSING_SESSION_ID"
      "session.close requires ephemeral_interface_id"
  | some sessionId =>
      let reason := JsonObj.get envelope.payload "reason"
      match b.sessions.closeSession env.now sessionId with
      | (_, none) =>
          b.sendError websocket envelope "SESSION_NOT_FOUND" (sessionNotFound sessionId)
      | (sessions, some session) =>
          let b := { b with sessions := sessions }.record (traceSessionClosed session.tenantId
            sessionId (reason.orElse (.str "explicit")))
          let other := ((otherConnId session connId).filter (· ≠ "")).bind b.registry.getWebsocket
          match other with
          | none => b.done
          | some other => b.reply other (createSessionClosed session.tenantId sessionId
              envelope.messageId envelope.senderId reason)

/-! ## Execution -/

/-- Handle `exec.request`.  The flow is executed by a call that lacks two of the
arguments of the called method and passes one it does not have. -/
def handleExecRequest (b : Bus) (env : Env) (websocket : Nat) (envelope : MessageEnvelope) :
    Outcome :=
  match envelope.ephemeralInterfaceId with
  | none => b.sendError websocket envelope "MISSING_SESSION_ID"
      "exec.request requires ephemeral_interface_id"
  | some sessionId =>
      match b.sessions.validateSessionForExec env.now sessionId envelope.senderId with
      | .error reason => b.sendError websocket envelope "INVALID_SESSION" reason
      | .ok session =>
          if envelope.senderId ≠ session.requesterAgentId then
            b.sendError websocket envelope "NOT_AUTHORIZED"
              "Only the requester can send exec.request"
          else b.raise .typeError

def providerSession (b : Bus) (env : Env) (envelope : MessageEnvelope) : Option (UUID × Session) :=
  envelope.ephemeralInterfaceId.bind fun sessionId ↦
    match b.sessions.validateSessionForExec env.now sessionId envelope.senderId with
    | .error _ => none
    | .ok session =>
        if some envelope.senderId ≠ session.providerAgentId then none else some (sessionId, session)

/-- A status report of the provider: update the execution, forward the message. -/
def handleExecStatus (status : ExecutionStatus) (b : Bus) (env : Env) (envelope : MessageEnvelope) :
    Outcome :=
  match b.providerSession env envelope with
  | none => b.done
  | some (sessionId, session) =>
      let execId := JsonObj.get envelope.payload "exec_id"
      let b := if execId.truthy then b.updateExecution env sessionId execId status none none else b
      b.forward session envelope.toMessage

def handleExecAccepted : Bus → Env → MessageEnvelope → Outcome := handleExecStatus .accepted

def handleExecProgress : Bus → Env → MessageEnvelope → Outcome := handleExecStatus .inProgress

def handleExecErrorFromProvider : Bus → Env → MessageEnvelope → Outcome := handleExecStatus .failed

/-- The session that a provider's message of the given type runs in, or the error
message that answers it. -/
def checkProvider (b : Bus) (env : Env) (envelope : MessageEnvelope) (type : String) :
    Except (String × String) (UUID × Session) :=
  match envelope.ephemeralInterfaceId with
  | none => .error ("MISSING_SESSION_ID", type ++ " requires ephemeral_interface_id")
  | some sessionId =>
      match b.sessions.validateSessionForExec env.now sessionId envelope.senderId with
      | .error reason => .error ("INVALID_SESSION", reason)
      | .ok session =>
          if some envelope.senderId ≠ session.providerAgentId then
            .error ("NOT_AUTHORIZED", "Only the provider can send " ++ type)
          else .ok (sessionId, session)

/-- Whether a result violates the schema that was agreed on. -/
def schemaMismatch (session : Session) (schemaId : Option String) : Option String :=
  session.chosenSchemaId.filter fun chosen ↦ chosen ≠ "" ∧ schemaId ≠ some chosen

/-- The validity of a result: what the provider registered for the capability of
the intent decides, if there is both a capability and a result. -/
def viewValid (b : Bus) (session : Session) (provider : UUID) (body : JsonObj) :
    Except PyError Bool :=
  let capability := session.intent.getD "capability" (.str "unknown")
  if capability.truthy && (body.get "result").truthy then
    b.registry.views.validate provider capability (body.get "result")
  else .ok true

def handleExecResult (b : Bus) (env : Env) (websocket : Nat) (envelope : MessageEnvelope) :
    Outcome :=
  match b.checkProvider env envelope "exec.result" with
  | .error (code, text) => b.sendError websocket envelope code text
  | .ok (sessionId, session) =>
      let body : JsonObj := envelope.payload
      let execId := body.get "exec_id"
      let hasRecord := execId.truthy && (session.getExecution execId).isSome
      match schemaMismatch session envelope.schemaId with
      | some chosen =>
          let b := if hasRecord then
              b.updateExecution env sessionId execId .failed none (some false) else b
          b.sendError websocket envelope "SCHEMA_MISMATCH"
            ("Response schema " ++ envelope.schemaId.getD "None" ++
              " does not match agreed schema " ++ chosen)
      | none =>
          let capability := session.intent.getD "capability" (.str "unknown")
          match b.viewValid session envelope.senderId body with
          | .error e => b.raise e
          | .ok valid =>
              let b := if hasRecord then
                  b.updateExecution env sessionId execId .completed (some capability) (some valid)
                else b
              match TraceEvent.execIdOf (execId.orElse (.str "")) with
              | .error e => b.raise e
              | .ok tracedId =>
                  let b := b.record (traceExecResult envelope.tenantId sessionId tracedId
                    envelope.senderId valid)
                  match b.registry.getWebsocket session.requesterConnId with
                  | none => b.sendError websocket envelope "REQUESTER_OFFLINE"
                      "Requester is not connected"
                  | some requester => b.reply requester
                      { messageType := .execResult
                        senderId := envelope.senderId
                        tenantId := envelope.tenantId
                        correlationId := envelope.correlationId
                        ephemeralInterfaceId := some sessionId
                        schemaId := envelope.schemaId
                        payload := (body.set "_view_valid" (.bool valid)).set "_capability"
                          capability }

def handleExecPartialFailure (b : Bus) (env : Env) (websocket : Nat) (envelope : MessageEnvelope) :
    Outcome :=
  match b.checkProvider env envelope "exec.partial_failure" with
  | .error (code, text) => b.sendError websocket envelope code text
  | .ok (_, session) =>
      match b.registry.getWebsocket session.requesterConnId with
      | none => b.sendError websocket envelope "REQUESTER_OFFLINE" "Requester is not connected"
      | some requester => b.reply requester envelope.toMessage

/-! ## Streaming -/

/-- Put a message on the outbound queue of the requester of a session, if it is
connected. -/
def sendToRequesterQueued (b : Bus) (session : Session) (message : Message) :
    Bus × Option PyError :=
  match b.registry.getWebsocket session.requesterConnId with
  | none => (b, none)
  | some websocket =>
      let (queues, q) := b.queues.getOrCreate session.requesterConnId websocket
      match q.putNowait message with
      | .error e => ({ b with queues := queues }, some e)
      | .ok q => ({ b with queues := queues.setQueue session.requesterConnId q }, none)

def handleStreamStart (b : Bus) (env : Env) (envelope : MessageEnvelope) : Outcome :=
  match b.providerSession env envelope with
  | none => b.done
  | some (sessionId, session) =>
      let body : JsonObj := envelope.payload
      match TraceEvent.execIdOf (body.getD "exec_id" (.str "")) with
      | .error e => b.raise e
      | .ok tracedId =>
          let b := b.record (traceStreamStart envelope.tenantId sessionId tracedId
            envelope.senderId (body.get "content_type"))
          let (b, error) := b.sendToRequesterQueued session envelope.toMessage
          { bus := b, error := error }

/-- The length that the trace of a chunk records. -/
def chunkLen : Json → Nat
  | .str s => s.length
  | _ => 0

/-- The end of a stream whose requester does not keep up: both sides are told. -/
def endStream (b : Bus) (env : Env) (websocket : Nat) (sessionId : UUID) (session : Session)
    (envelope : MessageEnvelope) (execId : Json) (tracedId : Option String) : Outcome :=
  let b := b.record (traceStreamBackpressure envelope.tenantId sessionId tracedId
    b.queues.maxQueueSize)
  let message := createExecError envelope.tenantId sessionId
    (envelope.correlationId.getD (env.uuid 0)) execId "BACKPRESSURE"
    "Requester queue full, stream terminated"
  { bus := b
    sends := (websocket, message) ::
      ((b.registry.getWebsocket session.requesterConnId).toList.map fun ws ↦ (ws, message)) }

def handleStreamChunk (b : Bus) (env : Env) (websocket : Nat) (envelope : MessageEnvelope) :
    Outcome :=
  match b.providerSession env envelope with
  | none => b.done
  | some (sessionId, session) =>
      let body : JsonObj := envelope.payload
      let execId := body.getD "exec_id" (.str "")
      match TraceEvent.execIdOf execId with
      | .error e => b.raise e
      | .ok tracedId =>
          let b := b.record (traceStreamChunk envelope.tenantId sessionId tracedId
            (body.getD "seq" (.int 0)) (chunkLen (body.getD "data" (.str ""))))
          match b.sendToRequesterQueued session envelope.toMessage with
          | (b, none) => b.done
          | (b, some .queueFullError) =>
              b.endStream env websocket sessionId session envelope execId tracedId
          | (b, some e) => b.raise e

def handleStreamEnd (b : Bus) (env : Env) (envelope : MessageEnvelope) : Outcome :=
  match b.providerSession env envelope with
  | none => b.done
  | some (sessionId, session) =>
      let body : JsonObj := envelope.payload
      let execId := body.getD "exec_id" (.str "")
      match TraceEvent.execIdOf execId with
      | .error e => b.raise e
      | .ok tracedId =>
          let b := b.record (traceStreamEnd envelope.tenantId sessionId tracedId
            (body.get "total_chunks") (body.get "total_bytes"))
          let b := if execId.truthy then
              b.updateExecution env sessionId execId .completed none none else b
          let (b, error) := b.sendToRequesterQueued session envelope.toMessage
          { bus := b, error := error }

/-! ## Traces -/

/-- `min(tail, 1000)` as a slice bound.  The comparison or the slice raises a
`TypeError` for anything but an integer, a boolean or a number above 1000. -/
def tailOf : Json → Option Int
  | .int n => some (min n 1000)
  | .bool b => some (if b then 1 else 0)
  | .float q => if 1000 < q then some 1000 else none
  | _ => none

def traceQuery (store : SemanticTraceStore) (sessionId : Option UUID) (execId : Json) (tail : Int) :
    Except PyError (List TraceEvent × Bool) :=
  match sessionId with
  | some sessionId => .ok (store.getBySession sessionId tail execId)
  | none =>
      if !execId.truthy then .ok (store.getGlobal tail)
      else if execId.hashable then .ok (store.getByExec execId tail)
      else .error .typeError

def handleTraceGet (b : Bus) (websocket : Nat) (envelope : MessageEnvelope) : Outcome :=
  let body : JsonObj := envelope.payload
  match tailOf (body.getD "tail" (.int 100)) with
  | none => b.raise .typeError
  | some tail =>
      match traceQuery b.trace envelope.ephemeralInterfaceId (body.get "exec_id") tail with
      | .error e => b.raise e
      | .ok (events, truncated) => b.reply websocket (createTraceResult envelope.tenantId
          envelope.ephemeralInterfaceId (events.map TraceEvent.toDict) truncated envelope.messageId)

/-! ## Event streaming -/

/-- Whether the filter of a subscription can be built: the execution id must be a
string and the prefixes a list of strings, where they are given.  A dictionary
or a list as execution id raises already in the set that holds it. -/
def checkFilter (execId eventTypes : Json) : Option PyError :=
  if execId.truthy && !execId.hashable then some .typeError
  else if execId.truthy && execId.str?.isNone || eventTypes.truthy && eventTypes.strList?.isNone then
    some .validationError
  else none

def subscribe (b : Bus) (connId : String) (sessionId : UUID) (execId includeHistory : Json) :
    Except String (EventManager × EventSubscription) :=
  match execId with
  | .str execId =>
      if execId = "" then b.events.subscribeSession connId sessionId includeHistory.truthy
      else b.events.subscribeExecution connId sessionId execId
  | _ => b.events.subscribeSession connId sessionId includeHistory.truthy

def handleEventSubscribe (b : Bus) (websocket : Nat) (connId : String) (envelope : MessageEnvelope) :
    Outcome :=
  let body : JsonObj := envelope.payload
  let execId := body.get "exec_id"
  let eventTypes := body.get "event_types"
  if !(body.get "session_id").truthy then
    b.sendError websocket envelope "MISSING_SESSION_ID"
      "session_id is required for event subscription"
  else match body.get "session_id" with
    | .str text =>
        match UUID.parse text with
        | none => b.sendError websocket envelope "INVALID_SESSION_ID" "session_id must be a valid UUID"
        | some sessionId =>
            match b.sessions.getSession sessionId with
            | none => b.sendError websocket envelope "SESSION_NOT_FOUND" (sessionNotFound sessionId)
            | some session =>
                if session.tenantId ≠ envelope.tenantId then
                  b.sendError websocket envelope "TENANT_MISMATCH"
                    "Cannot subscribe to events from different tenant"
                else match checkFilter execId eventTypes with
                  | some e => b.raise e
                  | none =>
                      match b.subscribe connId sessionId execId
                          (body.getD "include_history" (.bool true)) with
                      | .error text => b.sendError websocket envelope "SUBSCRIPTION_ERROR" text
                      | .ok (events, sub) =>
                          let b := { b with
                            events := events
                            eventDeliveryTasks := b.eventDeliveryTasks.insert sub.subscriptionId
                              { connId := connId
                                websocket := websocket
                                sessionId := sessionId
                                tenantId := envelope.tenantId } }
                          b.reply websocket (createEventSubscribed envelope.tenantId
                            envelope.messageId sessionId sub.subscriptionId eventTypes)
    | _ => b.raise .attributeError

/-- Cancel the delivery tasks whose subscription id starts with the connection id
and a colon. -/
def cancelDeliveries (b : Bus) (connId : String) : Bus :=
  { b with
    eventDeliveryTasks :=
      (b.eventDeliveryTasks.keys.filter (·.startsWith (connId ++ ":"))).foldl Dict.erase
        b.eventDeliveryTasks }

def handleEventUnsubscribe (b : Bus) (connId : String) (envelope : MessageEnvelope) : Outcome :=
  let subscriptionId := JsonObj.get envelope.payload "subscription_id"
  if subscriptionId.truthy then
    match subscriptionId with
    | .str id => { b with
        events := b.events.unsubscribe id
        eventDeliveryTasks := b.eventDeliveryTasks.erase id }.done
    | value => if value.hashable then b.done else b.raise .typeError
  else ({ b with events := b.events.unsubscribeConnection connId }.cancelDeliveries connId).done

/-- Handle `emit.event`.  The registry has no method of the name that looks up the
sender's record. -/
def handleEmitEvent (b : Bus) (websocket : Nat) (envelope : MessageEnvelope) : Outcome :=
  match envelope.ephemeralInterfaceId with
  | none => b.sendError websocket envelope "MISSING_SESSION_ID"
      "ephemeral_interface_id is required for event emission"
  | some sessionId =>
      match b.sessions.getSession sessionId with
      | none => b.sendError websocket envelope "SESSION_NOT_FOUND" (sessionNotFound sessionId)
      | some _ => b.raise .attributeError

/-! ## Dispatch -/

def handleMessage (b : Bus) (env : Env) (websocket : Nat) (connId : String)
    (envelope : MessageEnvelope) : Outcome :=
  match envelope.messageType with
  | .agentHeartbeat => b.handleHeartbeat env websocket connId envelope
  | .agentList => b.handleList websocket envelope
  | .intentBroadcast => b.handleIntentBroadcast websocket connId envelope
  | .intentOffer => b.handleIntentOffer env websocket connId envelope
  | .intentAgree => b.handleIntentAgree env websocket envelope
  | .sessionClose => b.handleSessionClose env websocket connId envelope
  | .execRequest => b.handleExecRequest env websocket envelope
  | .execAccepted => b.handleExecAccepted env envelope
  | .execProgress => b.handleExecProgress env envelope
  | .execResult => b.handleExecResult env websocket envelope
  | .execError => b.handleExecErrorFromProvider env envelope
  | .execPartialFailure => b.handleExecPartialFailure env websocket envelope
  | .execStreamStart => b.handleStreamStart env envelope
  | .execStreamChunk => b.handleStreamChunk env websocket envelope
  | .execStreamEnd => b.handleStreamEnd env envelope
  | .traceGet => b.handleTraceGet websocket envelope
  | .eventSubscribe => b.handleEventSubscribe websocket connId envelope
  | .eventUnsubscribe => b.handleEventUnsubscribe connId envelope
  | .emitEvent => b.handleEmitEvent websocket envelope
  | type => b.sendError websocket envelope "UNSUPPORTED_MESSAGE_TYPE"
      ("Message type " ++ type.name ++ " not supported")

/-- Handle `agent.register`, the first message of a connection: the connection id,
or nothing when the registration failed. -/
def handleRegister (b : Bus) (env : Env) (websocket : Nat) (envelope : MessageEnvelope) :
    Outcome × Option String :=
  let body : JsonObj := envelope.payload
  let capabilities := body.getD "capabilities" (.arr [])
  match b.registry.register env.now envelope.senderId envelope.tenantId websocket capabilities
      (body.getD "tags" (.arr [])) (body.getD "schemas" (.obj []))
      (body.getD "metadata" (.obj [])) with
  | (registry, .error e) =>
      ({ b with registry := registry }.sendError websocket envelope "REGISTRATION_FAILED"
        (b.library.errorText e), none)
  | (registry, .ok (connId, _)) =>
      let b := { b with registry := registry }.record (traceAgentRegister envelope.tenantId
        envelope.senderId connId capabilities)
      (b.reply websocket (createAgentRegistered envelope.tenantId envelope.messageId
        envelope.senderId connId), some connId)

/-- What the end of a connection leaves: its subscriptions and its registration
are removed. -/
def cleanupConnection (b : Bus) (connId : String) : Bus :=
  let b := b.cancelDeliveries connId
  { b with
    events := b.events.unsubscribeConnection connId
    registry := (b.registry.unregister connId).1 }

end Bus

end SemanticBus
