import SemanticBus.Orchestration.FlowPlanner
import SemanticBus.Protocol.Envelope

/-!
# The intent router

Which agents the language model is offered for an intent: those of the
envelope's tenant that are online, without the sender.  Sending a message to an
agent goes by its connection.
-/

namespace SemanticBus

namespace AgentRegistry

/-- The online agents of a tenant; without a tenant id, those of all tenants. -/
def findByTenant (r : AgentRegistry) (tenantId : String) : List AgentRecord :=
  r.listAgents (some tenantId) true

end AgentRegistry

/-- The agents available for an intent: same tenant, online, not the sender. -/
def availableAgents (r : AgentRegistry) (envelope : MessageEnvelope) : List AgentRecord :=
  (r.findByTenant envelope.tenantId).filter (·.agentId ≠ envelope.senderId)

/-- What `find_agent_flow` asks the language model to choose from; `none` when
it returns without asking. -/
def findAgentFlow (r : AgentRegistry) (envelope : MessageEnvelope) : Option (List AgentRecord) :=
  let intentText := JsonObj.getD envelope.payload "intent" (.str "")
  if intentText.truthy && sliceable intentText && !(availableAgents r envelope).isEmpty then
    some (availableAgents r envelope)
  else none

/-- Route a message to an agent: the websocket to send it to, if there is one. -/
def routeToAgent (r : AgentRegistry) (agent : AgentRecord) (message : Message) :
    List (Nat × Message) :=
  match r.getWebsocket agent.connId with
  | none => []
  | some websocket => [(websocket, message)]

end SemanticBus
