import SemanticBus.Orchestration.Graph
import SemanticBus.Transport.Server

/-!
# The agents of a session

A broadcast stores the agents of its flow in the session when it creates it, and
again with the aggregated offer.  What is stored is the order of the answer of the
language model, each agent where it is named first; `flowAgents_iff` says when
that is an order of execution.
-/

namespace SemanticBus

namespace AgentFlow

/-- Every agent of the flow once, after all agents that it depends on. -/
structure ExecutionOrder (flow : AgentFlow) (order : List String) : Prop where
  nodup : order.Nodup
  mem_iff : ∀ id, id ∈ order ↔ id ∈ flow.ids
  after : ∀ id dep, flow.Awaits id dep → order.idxOf dep < order.idxOf id

/-- The answer names each agent first after all its agents that the first node for
it depends on. -/
def ListedInOrder (answer : AgentFlow) : Prop :=
  ∀ id node, answer.agents.find? (·.agentId = id) = some node →
    ∀ dep ∈ node.dependsOn, dep ∈ answer.ids → answer.ids.idxOf dep < answer.ids.idxOf id

end AgentFlow

/-! ## Deduplication -/

section Dedup

variable {seen : List String} {nodes : List AgentNode} {node : AgentNode} {id dep : String}

/-- The node that is kept for an agent is the first one. -/
theorem mem_dedupAgents_iff : node ∈ dedupAgents seen nodes ↔
    node.agentId ∉ seen ∧ nodes.find? (·.agentId = node.agentId) = some node := by
  induction nodes generalizing seen with
  | nil => simp only [dedupAgents, List.not_mem_nil, List.find?_nil, reduceCtorEq, and_false]
  | cons first nodes ih =>
      rw [dedupAgents, List.find?_cons]
      by_cases heq : first.agentId = node.agentId
      · simp only [heq, decide_true, Option.some.injEq]
        split
        · rename_i hseen
          rw [ih]
          exact ⟨fun h ↦ absurd hseen h.1, fun h ↦ absurd hseen h.1⟩
        · rename_i hseen
          rw [List.mem_cons, ih]
          constructor
          · rintro (rfl | ⟨hnew, -⟩)
            · exact ⟨hseen, rfl⟩
            · exact absurd (List.mem_append_right seen (List.mem_singleton_self _)) hnew
          · rintro ⟨-, rfl⟩
            exact .inl rfl
      · simp only [heq, decide_false]
        split
        · exact ih
        · have hne : node ≠ first := by
            rintro rfl
            exact heq rfl
          simp only [List.mem_cons, hne, false_or, ih, List.mem_append, List.not_mem_nil, or_false,
            Ne.symm heq]

theorem nodup_dedupAgents : ((dedupAgents seen nodes).map AgentNode.agentId).Nodup := by
  induction nodes generalizing seen with
  | nil => exact List.nodup_nil
  | cons first nodes ih =>
      rw [dedupAgents]
      split
      · exact ih
      · rw [List.map_cons, List.nodup_cons]
        refine ⟨?_, ih⟩
        rw [List.mem_map]
        rintro ⟨node, hnode, heq⟩
        have hnew := (mem_dedupAgents_iff.mp hnode).1
        rw [heq] at hnew
        exact hnew (List.mem_append_right seen (List.mem_singleton_self _))

/-- Deduplication keeps the order in which the agents are named first. -/
theorem idxOf_dedupAgents_lt_iff (hid : id ∉ seen) (hdep : dep ∉ seen) :
    ((dedupAgents seen nodes).map AgentNode.agentId).idxOf dep <
        ((dedupAgents seen nodes).map AgentNode.agentId).idxOf id ↔
      (nodes.map AgentNode.agentId).idxOf dep < (nodes.map AgentNode.agentId).idxOf id := by
  induction nodes generalizing seen with
  | nil => rfl
  | cons first nodes ih =>
      rw [dedupAgents]
      split
      · rename_i hseen
        have hid' : first.agentId ≠ id := by
          rintro rfl
          exact hid hseen
        have hdep' : first.agentId ≠ dep := by
          rintro rfl
          exact hdep hseen
        rw [ih hid hdep, List.map_cons, List.idxOf_cons_ne _ hid', List.idxOf_cons_ne _ hdep',
          Nat.succ_lt_succ_iff]
      · rw [List.map_cons, List.map_cons]
        by_cases hid' : first.agentId = id
        · rw [hid', List.idxOf_cons_self, List.idxOf_cons_self]
          exact iff_of_false (Nat.not_lt_zero _) (Nat.not_lt_zero _)
        · rw [List.idxOf_cons_ne _ hid', List.idxOf_cons_ne _ hid']
          by_cases hdep' : first.agentId = dep
          · rw [hdep', List.idxOf_cons_self, List.idxOf_cons_self]
            exact iff_of_true (Nat.succ_pos _) (Nat.succ_pos _)
          · rw [List.idxOf_cons_ne _ hdep', List.idxOf_cons_ne _ hdep', Nat.succ_lt_succ_iff,
              Nat.succ_lt_succ_iff]
            apply ih
            · simp only [List.mem_append, List.mem_singleton, hid, Ne.symm hid', or_self,
                not_false_eq_true]
            · simp only [List.mem_append, List.mem_singleton, hdep, Ne.symm hdep', or_self,
                not_false_eq_true]

end Dedup

/-! ## What is stored -/

section Stored

variable {answer flow : AgentFlow} {id dep : String}

theorem discoverFlow_eq_some_iff : discoverFlow (some answer) = some flow ↔
    flow = { answer with agents := dedupAgents [] answer.agents } := by
  rw [discoverFlow, Option.map_some, Option.some.injEq]
  exact eq_comm

/-- The flow has the agents of the answer. -/
theorem mem_ids_discoverFlow_iff (hflow : discoverFlow (some answer) = some flow) :
    id ∈ flow.ids ↔ id ∈ answer.ids := by
  rw [discoverFlow_eq_some_iff.mp hflow]
  have h := @forall_dedupAgents_iff answer.agents fun other ↦ other ≠ id
  simp only [AgentFlow.ids, List.mem_map]
  rw [← not_iff_not]
  simpa only [not_exists, not_and] using h

/-- It takes the dependencies of an agent from the first node for it. -/
theorem dependsOn_discoverFlow_iff (hflow : discoverFlow (some answer) = some flow) :
    flow.DependsOn id dep ↔
      ∃ node, answer.agents.find? (·.agentId = id) = some node ∧ dep ∈ node.dependsOn := by
  rw [discoverFlow_eq_some_iff.mp hflow]
  simp only [AgentFlow.DependsOn, mem_dedupAgents_iff]
  constructor
  · rintro ⟨node, ⟨-, hfirst⟩, rfl, hdep⟩
    exact ⟨node, hfirst, hdep⟩
  · rintro ⟨node, hfirst, hdep⟩
    have hid : node.agentId = id := by simpa using List.find?_some hfirst
    exact ⟨node, ⟨List.not_mem_nil, by rw [hid]; exact hfirst⟩, hid, hdep⟩

/-- The agents of a flow are in an order of execution just when the answer lists
them so. -/
theorem executionOrder_ids_iff (hflow : discoverFlow (some answer) = some flow) :
    flow.ExecutionOrder flow.ids ↔ answer.ListedInOrder := by
  have hlt : ∀ {id dep}, flow.ids.idxOf dep < flow.ids.idxOf id ↔
      answer.ids.idxOf dep < answer.ids.idxOf id := by
    intro id dep
    rw [discoverFlow_eq_some_iff.mp hflow]
    exact idxOf_dedupAgents_lt_iff List.not_mem_nil List.not_mem_nil
  constructor
  · intro h id node hfirst dep hdep hmem
    have hdepends := (dependsOn_discoverFlow_iff hflow).mpr ⟨node, hfirst, hdep⟩
    exact hlt.mp (h.after id dep ⟨hdepends, (mem_ids_discoverFlow_iff hflow).mpr hmem⟩)
  · intro h
    refine ⟨?_, fun id ↦ Iff.rfl, ?_⟩
    · rw [discoverFlow_eq_some_iff.mp hflow]
      exact nodup_dedupAgents
    · rintro id dep ⟨hdepends, hmem⟩
      obtain ⟨node, hfirst, hdep⟩ := (dependsOn_discoverFlow_iff hflow).mp hdepends
      exact hlt.mpr (h id node hfirst dep hdep ((mem_ids_discoverFlow_iff hflow).mp hmem))

end Stored

namespace Bus

variable {flow : AgentFlow}

/-- The session that a flow creates. -/
theorem getSession_startFlow (b : Bus) (env : Env) (task : FlowTask) {answer : AgentFlow}
    (hflow : discoverFlow (some answer) = some flow) :
    ∃ session, (b.startFlow env task (some answer)).bus.sessions.getSession (env.uuid 0) =
      some session ∧ session.flowAgents = flow.ids := by
  have hget := SessionManager.getSession_create b.sessions env.now (env.uuid 0)
    task.envelope.tenantId task.envelope.senderId task.connId task.envelope.messageId
    task.envelope.payload (flow.agents.map AgentNode.agentId) (some flow.entryPoint) (env.uuid 0)
  rw [startFlow, hflow]
  exact ⟨_, hget.trans (if_pos rfl), rfl⟩

/-- The session that a combined offer is stored in. -/
theorem getSession_finishFlow (b : Bus) (env : Env) (task : FlowTask) {sessionId : UUID}
    {offers : List Offer} {session : Session} (hoffers : offers ≠ [])
    (hget : b.sessions.getSession sessionId = some session) :
    ∃ session', (b.finishFlow env task sessionId flow offers).bus.sessions.getSession sessionId =
      some session' ∧ session'.flowAgents = flow.ids := by
  rw [finishFlow, if_neg hoffers]
  refine ⟨_, (SessionManager.getSession_update_self _ _ _).trans (congrArg _ hget), rfl⟩

/-- The agents that are stored, when the session is created and with the combined
offer, are in an order of execution just when the answer lists them so. -/
theorem flowAgents_executionOrder_iff (answer : AgentFlow)
    (hflow : discoverFlow (some answer) = some flow) :
    (∀ (b : Bus) env task, ∃ session,
      (b.startFlow env task (some answer)).bus.sessions.getSession (env.uuid 0) = some session ∧
        (flow.ExecutionOrder session.flowAgents ↔ answer.ListedInOrder)) ∧
      ∀ (b : Bus) env task sessionId session offers, offers ≠ [] →
        b.sessions.getSession sessionId = some session → ∃ session',
          (b.finishFlow env task sessionId flow offers).bus.sessions.getSession sessionId =
            some session' ∧ (flow.ExecutionOrder session'.flowAgents ↔ answer.ListedInOrder) := by
  constructor
  · intro b env task
    obtain ⟨session, hget, hagents⟩ := getSession_startFlow b env task hflow
    refine ⟨session, hget, ?_⟩
    rw [hagents]
    exact executionOrder_ids_iff hflow
  · intro b env task sessionId session offers hoffers hsession
    obtain ⟨session', hget, hagents⟩ := @getSession_finishFlow flow b env task _ _ _ hoffers hsession
    refine ⟨session', hget, ?_⟩
    rw [hagents]
    exact executionOrder_ids_iff hflow

def sampleTask : FlowTask where
  websocket := 10
  connId := Server.requesterConn
  envelope := Server.sampleEnvelope .intentBroadcast ⟨1⟩ "acme" none []
  stage := .planning []

/-- The agents of a translation and its summary are stored in that order. -/
theorem flowAgents_executionOrder_chain : ∃ session,
    (startFlow { library := Server.sampleLibrary } ⟨0, fun _ ↦ ⟨100⟩⟩ sampleTask
      (some .chain)).bus.sessions.getSession ⟨100⟩ = some session ∧
        AgentFlow.chain.ExecutionOrder session.flowAgents := by
  have hflow : discoverFlow (some .chain) = some .chain := rfl
  obtain ⟨session, hget, hiff⟩ := (flowAgents_executionOrder_iff .chain hflow).1
    { library := Server.sampleLibrary } ⟨0, fun _ ↦ ⟨100⟩⟩ sampleTask
  refine ⟨session, hget, hiff.mpr ?_⟩
  rintro id node hfirst dep hdep -
  have hid : node.agentId = id := by simpa using List.find?_some hfirst
  have hnode : node.agentId = "summarizer" ∧ dep = "translator" := by
    rcases List.mem_pair.mp (List.mem_of_find?_eq_some hfirst) with rfl | rfl
    · exact absurd hdep List.not_mem_nil
    · exact ⟨rfl, List.mem_singleton.mp hdep⟩
  rw [← hid, hnode.1, hnode.2]
  decide

/-- The language model may name the summary first. -/
theorem not_executionOrder_of_answer : ¬ ∀ (answer flow : AgentFlow) (b : Bus) (env : Env)
    (task : FlowTask) (session : Session), discoverFlow (some answer) = some flow →
      Acyclic flow.Awaits →
      (b.startFlow env task (some answer)).bus.sessions.getSession (env.uuid 0) = some session →
        flow.ExecutionOrder session.flowAgents := by
  intro h
  let flow := AgentFlow.ofDeps "translator" [("summarizer", ["translator"]), ("translator", [])]
  have hflow : discoverFlow (some flow) = some flow := rfl
  have hclosed : flow.Closed := AgentFlow.ofDeps_closed
    (["translator", "summarizer"].idxOf ·) (by decide) (by decide) (by decide)
  have hawaits : flow.Awaits "summarizer" "translator" :=
    ⟨AgentFlow.ofDeps_dependsOn_iff.mpr ⟨["translator"], by decide, by decide⟩, by decide⟩
  have hacyclic : Acyclic flow.Awaits := hclosed.acyclic.mono fun _ _ h ↦ h.1
  obtain ⟨session, hget, hagents⟩ := getSession_startFlow { library := Server.sampleLibrary }
    ⟨0, fun _ ↦ ⟨100⟩⟩ sampleTask hflow
  have horder := h flow flow _ _ sampleTask session hflow hacyclic hget
  rw [hagents] at horder
  exact absurd (horder.after _ _ hawaits) (by decide)

end Bus

end SemanticBus
