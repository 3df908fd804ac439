import SemanticBus.Data.Clock
import SemanticBus.Data.Json
import SemanticBus.Data.Uuid

/-!
# Stored records

What the storage ports take and return.  The same records come back from every
adapter: a time, an id and a JSON value are read back as they were written.
-/

namespace SemanticBus

structure SessionRecord where
  ephemeralInterfaceId : UUID
  tenantId : String
  requesterAgentId : UUID
  requesterConnId : String
  providerAgentId : Option UUID
  providerConnId : Option String
  intentMessageId : UUID
  intentData : JsonObj
  status : String
  offers : List JsonObj
  chosenOfferId : Option String
  chosenSchemaId : Option String
  chosenViewId : Option String
  createdAt : Time
  activatedAt : Option Time
  closedAt : Option Time
  negotiationTtlSeconds : Int
  sessionTtlSeconds : Int
  metadata : JsonObj

structure TraceRecord where
  eventId : UUID
  eventType : String
  timestamp : Time
  tenantId : String
  ephemeralInterfaceId : Option UUID
  execId : Option String
  agentId : Option UUID
  connId : Option String
  data : JsonObj

/-- Stored execution record for idempotency and status tracking. -/
structure ExecRecord where
  execId : UUID
  sessionId : UUID
  correlationId : UUID
  idempotencyKey : Option String
  status : String
  requesterConnId : String
  action : Option String
  resultViewId : Option String
  resultValid : Option Bool
  policyAllowed : Bool
  policyReason : Option String
  createdAt : Time
  acceptedAt : Option Time
  completedAt : Option Time
  metadata : JsonObj

structure PresenceRecord where
  agentId : UUID
  tenantId : String
  connId : String
  status : String
  capabilities : List String
  tags : List String
  load : ℚ
  lastSeen : Time
  registeredAt : Time
  metadata : JsonObj

/-- An optional text that is there: the empty text counts as missing. -/
def nonempty (text : Option String) : Option String := text.filter (· ≠ "")

end SemanticBus
