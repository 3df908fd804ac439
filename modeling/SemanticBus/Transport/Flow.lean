import SemanticBus.Transport.Handler

/-!
# The execution of a flow

What a broadcast does once the language model has answered: it creates the
session, delivers the intent to the agents of the flow one by one, looks for
their offers every 0.2 seconds, and sends the requester the combined offer.
-/

namespace SemanticBus

namespace Bus

/-- How often the offers are looked for: 0.2 is added to a float until it reaches
10.0, which takes 51 rounds. -/
def pollRounds : Nat := 51

/-- The pause before each round. -/
def pollInterval : Time := 200000

/-- Go on with the agents that are left, or start to wait for offers. -/
def stageFor (now : Time) (sessionId : UUID) (flow : AgentFlow) : List AgentNode → FlowStage
  | [] => .collecting sessionId flow pollRounds (now + pollInterval)
  | todo => .delivering sessionId flow todo

def startFlow (b : Bus) (env : Env) (task : FlowTask) (answer : Option AgentFlow) : Outcome :=
  match discoverFlow answer with
  | none => b.sendError task.websocket task.envelope "NO_AGENTS"
      "No agents available to fulfill this intent"
  | some flow =>
      let (sessions, session) := b.sessions.createSession env.now (env.uuid 0)
        task.envelope.tenantId task.envelope.senderId task.connId task.envelope.messageId
        task.envelope.payload (flow.agents.map AgentNode.agentId) (some flow.entryPoint)
      { bus := { b with sessions := sessions }
        task := some { task with
          stage := stageFor env.now session.ephemeralInterfaceId flow flow.agents } }

def deliverMessage (envelope : MessageEnvelope) (sessionId : UUID) (node : AgentNode) : Message :=
  createIntentDeliverWithSession envelope.tenantId envelope.messageId sessionId envelope.senderId
    ((JsonObj.set envelope.payload "orchestration_role" (.str node.capability)).set "flow_step"
      (.str node.description)) envelope.purpose envelope.dataScope

/-- Deliver the intent to the next agent of the flow.  Its id is looked up in the
whole registry. -/
def deliverNext (b : Bus) (env : Env) (task : FlowTask) (sessionId : UUID) (flow : AgentFlow)
    (node : AgentNode) (todo : List AgentNode) : Outcome :=
  match UUID.parse node.agentId with
  | none => b.raise .valueError
  | some agentId =>
      { bus := b
        sends := match b.registry.getAgentById agentId with
          | none => []
          | some agent => routeToAgent b.registry agent
              (deliverMessage task.envelope sessionId node)
        task := some { task with stage := stageFor env.now sessionId flow todo } }

/-- The aggregated offer; the order of the collected schemas and inputs is that
of a set. -/
def aggregatedOffer (offerId : String) (flow : AgentFlow) (offers : List Offer) : Json :=
  .obj [("offer_id", .str offerId), ("provider_id", .str busId.str),
    ("schema_ids", .ofStrs (offers.flatMap Offer.schemaIds).dedup),
    ("requires", .ofStrs (offers.flatMap Offer.requires).dedup),
    ("accepts", .ofStrs (offers.flatMap Offer.accepts).dedup),
    ("score", .float ((offers.map Offer.score).sum / offers.length)),
    ("metadata", .obj [("is_multi_agent_flow", .bool true),
      ("flow_agents", .ofStrs (flow.agents.map AgentNode.agentId)),
      ("flow_reasoning", .str flow.reasoning), ("flow_confidence", .float flow.confidence),
      ("individual_offers", .arr (offers.map Offer.toDict))])]

def finishFlow (b : Bus) (env : Env) (task : FlowTask) (sessionId : UUID) (flow : AgentFlow)
    (offers : List Offer) : Outcome :=
  if offers = [] then b.sendError task.websocket task.envelope "NO_OFFERS"
    "No agents responded with offers for the flow"
  else
    let offerId := (env.uuid 0).str
    { b with
      sessions := b.sessions.setFlowInfo sessionId (flow.agents.map AgentNode.agentId)
        flow.entryPoint offerId }.reply task.websocket
        (createIntentOffers task.envelope.tenantId task.envelope.messageId sessionId
          [aggregatedOffer offerId flow offers])

def pollOffers (b : Bus) (env : Env) (task : FlowTask) (sessionId : UUID) (flow : AgentFlow)
    (polls : Nat) : Outcome :=
  let offers := ((b.sessions.getSession sessionId).map Session.offers).filter
    (flow.agents.length ≤ ·.length)
  match offers with
  | some offers => b.finishFlow env task sessionId flow offers
  | none =>
      if polls ≤ 1 then b.finishFlow env task sessionId flow []
      else
        { bus := b
          task := some { task with
            stage := .collecting sessionId flow (polls - 1) (env.now + pollInterval) } }

end Bus

end SemanticBus
