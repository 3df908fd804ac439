import SemanticBus.Data.Dict
import SemanticBus.Protocol.Envelope

/-!
# The trace store

Append-only records of what happened, kept by session, with an index by
execution and a list for what belongs to no session.  The fresh id and the
timestamp of an event are left out: nothing reads them but the reply that lists
the event.
-/

namespace SemanticBus

inductive TraceEventType where
  | agentRegister
  | agentUnregister
  | agentTimeout
  | intentBroadcast
  | intentDeliver
  | intentOffer
  | intentOffers
  | intentAgree
  | sessionCreated
  | sessionClosed
  | sessionExpired
  | policyDecision
  | execRequest
  | execAccepted
  | execProgress
  | execResult
  | execError
  | streamStart
  | streamChunk
  | streamEnd
  | streamBackpressure
  | traceGet
deriving DecidableEq, Repr

def TraceEventType.value : TraceEventType → String
  | agentRegister => "agent.register"
  | agentUnregister => "agent.unregister"
  | agentTimeout => "agent.timeout"
  | intentBroadcast => "intent.broadcast"
  | intentDeliver => "intent.deliver"
  | intentOffer => "intent.offer"
  | intentOffers => "intent.offers"
  | intentAgree => "intent.agree"
  | sessionCreated => "session.created"
  | sessionClosed => "session.closed"
  | sessionExpired => "session.expired"
  | policyDecision => "policy.decision"
  | execRequest => "exec.request"
  | execAccepted => "exec.accepted"
  | execProgress => "exec.progress"
  | execResult => "exec.result"
  | execError => "exec.error"
  | streamStart => "stream.start"
  | streamChunk => "stream.chunk"
  | streamEnd => "stream.end"
  | streamBackpressure => "stream.backpressure"
  | traceGet => "trace.get"

structure TraceEvent where
  eventType : TraceEventType
  tenantId : String
  ephemeralInterfaceId : Option UUID := none
  execId : Option String := none
  agentId : Option UUID := none
  connId : Option String := none
  data : JsonObj := []

def TraceEvent.toDict (event : TraceEvent) : Json :=
  .obj [("event_type", .str event.eventType.value), ("tenant_id", .str event.tenantId),
    ("ephemeral_interface_id", .ofUuid? event.ephemeralInterfaceId),
    ("exec_id", .ofStr? event.execId), ("agent_id", .ofUuid? event.agentId),
    ("conn_id", .ofStr? event.connId), ("data", .obj event.data)]

/-- How the `exec_id` field of an event reads a value, which may be missing;
what is no string raises a `ValidationError`. -/
def TraceEvent.execIdOf : Json → Except PyError (Option String)
  | .null => .ok none
  | .str s => .ok (some s)
  | _ => .error .validationError

def sliceFrom {α : Type*} (events : List α) (start : Int) : List α :=
  if start < 0 then events.drop (events.length + start).toNat else events.drop start.toNat

/-- The last items. -/
theorem sliceFrom_neg_of_pos {α : Type*} (events : List α) {tail : Int} (h : 0 < tail) :
    sliceFrom events (-tail) = events.drop (events.length - tail.toNat) := by
  rw [sliceFrom, if_pos (Int.neg_neg_of_pos h)]
  congr 1
  omega

/-- A tail that is not positive counts from the front. -/
theorem sliceFrom_neg_of_nonpos {α : Type*} (events : List α) {tail : Int} (h : tail ≤ 0) :
    sliceFrom events (-tail) = events.drop (-tail).toNat := if_neg (by omega)

/-- A tail as long as the list is all of it. -/
theorem sliceFrom_neg_of_le {α : Type*} {events : List α} {tail : Int} (h : events.length ≤ tail) :
    sliceFrom events (-tail) = events := by
  by_cases hpos : 0 < tail
  · rw [sliceFrom_neg_of_pos events hpos, Nat.sub_eq_zero_of_le (by omega), List.drop_zero]
  · have hnil : events = [] := List.length_eq_zero_iff.mp (by omega)
    rw [sliceFrom_neg_of_nonpos events (not_lt.mp hpos), hnil, List.drop_nil]

/-- In-memory append-only trace store. -/
structure SemanticTraceStore where
  maxEvents : Nat := 10000
  bySession : Dict String (List TraceEvent) := ∅
  byExec : Dict String (List (String × Nat)) := ∅
  globalEvents : List TraceEvent := []

namespace SemanticTraceStore

/-- Drop the oldest tenth of a list that is over the limit. -/
def evict (store : SemanticTraceStore) (events : List TraceEvent) : List TraceEvent :=
  if store.maxEvents < events.length then events.drop (store.maxEvents / 10) else events

def append (store : SemanticTraceStore) (event : TraceEvent) : SemanticTraceStore :=
  match event.ephemeralInterfaceId with
  | none => { store with globalEvents := store.evict (store.globalEvents ++ [event]) }
  | some sessionId =>
      let sessionKey := sessionId.str
      let events := (store.bySession.get? sessionKey).getD []
      { store with
        bySession := store.bySession.insert sessionKey (store.evict (events ++ [event]))
        byExec := match event.execId with
          | none => store.byExec
          | some execId => if execId = "" then store.byExec
              else store.byExec.insert execId
                ((store.byExec.get? execId).getD [] ++ [(sessionKey, events.length)]) }

/-- The trace events of a session, those of one execution if an id is given, and
whether some were left out. -/
def getBySession (store : SemanticTraceStore) (sessionId : UUID) (tail : Int) (execId : Json) :
    List TraceEvent × Bool :=
  let events := (store.bySession.get? sessionId.str).getD []
  let events := if execId.truthy then events.filter fun e ↦ (Json.ofStr? e.execId).eq execId
    else events
  (sliceFrom events (-tail), tail < events.length)

/-- The trace events of an execution, which must be a possible key. -/
def getByExec (store : SemanticTraceStore) (execId : Json) (tail : Int) : List TraceEvent × Bool :=
  let refs := (execId.str?.bind store.byExec.get?).getD []
  let events := refs.filterMap fun ref ↦ ((store.bySession.get? ref.1).getD [])[ref.2]?
  (sliceFrom events (-tail), tail < events.length)

/-- The events that belong to no session. -/
def getGlobal (store : SemanticTraceStore) (tail : Int) : List TraceEvent × Bool :=
  (sliceFrom store.globalEvents (-tail), tail < store.globalEvents.length)

end SemanticTraceStore

/-! ## The events of the handlers -/

def traceAgentRegister (tenantId : String) (agentId : UUID) (connId : String) (capabilities : Json) :
    TraceEvent where
  eventType := .agentRegister
  tenantId := tenantId
  agentId := some agentId
  connId := some connId
  data := [("capabilities", capabilities.orElse (.arr []))]

def traceIntentOffer (tenantId : String) (sessionId agentId : UUID) (offerId : String)
    (viewIds : Json) : TraceEvent where
  eventType := .intentOffer
  tenantId := tenantId
  ephemeralInterfaceId := some sessionId
  agentId := some agentId
  data := [("offer_id", .str offerId), ("view_ids", viewIds.orElse (.arr []))]

def traceIntentAgree (tenantId : String) (sessionId requesterId providerId : UUID)
    (offerId chosenViewId : Json) : TraceEvent where
  eventType := .intentAgree
  tenantId := tenantId
  ephemeralInterfaceId := some sessionId
  agentId := some requesterId
  data := [("offer_id", offerId), ("provider_id", .str providerId.str),
    ("chosen_view_id", chosenViewId)]

def traceSessionCreated (tenantId : String) (sessionId requesterId providerId : UUID) :
    TraceEvent where
  eventType := .sessionCreated
  tenantId := tenantId
  ephemeralInterfaceId := some sessionId
  data := [("requester_id", .str requesterId.str), ("provider_id", .str providerId.str)]

def traceSessionClosed (tenantId : String) (sessionId : UUID) (reason : Json) : TraceEvent where
  eventType := .sessionClosed
  tenantId := tenantId
  ephemeralInterfaceId := some sessionId
  data := [("reason", reason)]

def traceExecResult (tenantId : String) (sessionId : UUID) (execId : Option String) (agentId : UUID)
    (viewValid : Bool) : TraceEvent where
  eventType := .execResult
  tenantId := tenantId
  ephemeralInterfaceId := some sessionId
  execId := execId
  agentId := some agentId
  data := [("view_valid", .bool viewValid)]

def traceStreamStart (tenantId : String) (sessionId : UUID) (execId : Option String) (agentId : UUID)
    (contentType : Json) : TraceEvent where
  eventType := .streamStart
  tenantId := tenantId
  ephemeralInterfaceId := some sessionId
  execId := execId
  agentId := some agentId
  data := [("content_type", contentType)]

/-- A stream chunk: its length, not its data. -/
def traceStreamChunk (tenantId : String) (sessionId : UUID) (execId : Option String) (seq : Json)
    (chunkLen : Nat) : TraceEvent where
  eventType := .streamChunk
  tenantId := tenantId
  ephemeralInterfaceId := some sessionId
  execId := execId
  data := [("seq", seq), ("chunk_len", .int chunkLen), ("chunk_hash", .null)]

def traceStreamEnd (tenantId : String) (sessionId : UUID) (execId : Option String)
    (totalChunks totalBytes : Json) : TraceEvent where
  eventType := .streamEnd
  tenantId := tenantId
  ephemeralInterfaceId := some sessionId
  execId := execId
  data := [("total_chunks", totalChunks), ("total_bytes", totalBytes)]

def traceStreamBackpressure (tenantId : String) (sessionId : UUID) (execId : Option String)
    (queueSize : Nat) : TraceEvent where
  eventType := .streamBackpressure
  tenantId := tenantId
  ephemeralInterfaceId := some sessionId
  execId := execId
  data := [("queue_size", .int queueSize)]

end SemanticBus
