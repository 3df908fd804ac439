import SemanticBus.Transport.Connections

/-!
# Whom a broadcast reaches

The language model is offered the agents of the tenant that are online, without
the sender, but it answers with any texts, and each of them is looked up in the
whole registry.  `deliveries_confined_iff` says that a broadcast stays among the
agents that were listed for it exactly when the answer does.
-/

namespace SemanticBus

/-- An agent may get the intents of an envelope: when the agents were listed, it
was registered and online in the tenant of the envelope, and is not its sender. -/
def Eligible (r : AgentRegistry) (envelope : MessageEnvelope) (agentId : UUID) : Prop :=
  agentId ≠ envelope.senderId ∧ ∃ c agent, r.agentsByConn.get? c = some agent ∧
    agent.agentId = agentId ∧ agent.status = .online ∧ agent.tenantId = envelope.tenantId

/-- With a tenant id, these are the agents that the language model is offered. -/
theorem eligible_iff {r : AgentRegistry} {envelope : MessageEnvelope} {agentId : UUID}
    (h : envelope.tenantId ≠ "") : Eligible r envelope agentId ↔
      ∃ agent ∈ availableAgents r envelope, agent.agentId = agentId := by
  unfold Eligible availableAgents AgentRegistry.findByTenant AgentRegistry.listAgents
  dsimp only
  rw [if_neg h]
  constructor
  · rintro ⟨hsender, c, agent, hget, rfl, hstatus, htenant⟩
    have hmem : agent ∈ r.agentsByConn.values := Dict.mem_values_iff.mpr ⟨c, hget⟩
    refine ⟨agent, ?_, rfl⟩
    simp [hmem, hstatus, htenant, hsender]
  · rintro ⟨agent, hmem, rfl⟩
    simp only [if_true, List.mem_filter, decide_eq_true_eq] at hmem
    obtain ⟨⟨⟨hmem, htenant⟩, hstatus⟩, hsender⟩ := hmem
    obtain ⟨c, hget⟩ := Dict.mem_values_iff.mp hmem
    exact ⟨hsender, c, agent, hget, rfl, hstatus, htenant⟩

def EligibleText (r : AgentRegistry) (envelope : MessageEnvelope) (text : String) : Prop :=
  ∃ agentId, UUID.parse text = some agentId ∧ Eligible r envelope agentId

theorem findAgentFlow_some {r : AgentRegistry} {envelope : MessageEnvelope}
    {available : List AgentRecord} (h : findAgentFlow r envelope = some available) :
    available = availableAgents r envelope := by
  unfold findAgentFlow at h
  dsimp only at h
  split_ifs at h
  exact (Option.some.inj h).symm

namespace Server

variable {s s' : Server} {env : Env} {a : Action} {connId : String} {conn : Connection}
  {o : Outcome} {task : FlowTask}

/-- The steps of the bus while a connection takes no message. -/
def Busy (connId : String) : Step (Time × Server) Label :=
  Step.Only (fun _ a ↦ ∀ envelope, a.2.2 ≠ .message connId envelope) (Step.Timed Steps)

/-- The steps of the bus in which a connection does nothing. -/
def Waiting (connId : String) : Step (Time × Server) Label :=
  Step.Only (fun _ a ↦ a.2.2.connId? ≠ some connId) (Step.Timed Steps)

/-- The broadcast of a connection reaches eligible agents only: the session it has
created names nobody else, and whatever happens meanwhile, the messages it sends
to the agents of its flow go to the connections of nobody else. -/
structure Confined (r : AgentRegistry) (envelope : MessageEnvelope) (connId : String) (sid : UUID)
    (x : Time × Server) : Prop where
  stored : ∀ session, x.2.bus.sessions.getSession sid = some session →
    ∀ text ∈ session.flowAgents, EligibleText r envelope text
  delivered : ∀ as y, Run (Busy connId) x as y → ∀ env conn o,
    y.2.outcome env (.deliver connId) = some (connId, conn, o) → ∀ e ∈ o.sends,
      ∃ agent, y.2.bus.registry.agentsByConn.get? agent.connId = some agent ∧
        y.2.bus.registry.getWebsocket agent.connId = some e.1 ∧ Eligible r envelope agent.agentId

/-- The agents that a broadcast has still to deliver to are eligible, and the
language model is not asked again. -/
def Sending (r : AgentRegistry) (envelope : MessageEnvelope) (connId : String) (s : Server) : Prop :=
  ∀ conn task, s.taskOf connId = some (conn, task) → match task.stage with
    | .planning _ => False
    | .delivering _ _ todo => ∀ node ∈ todo, EligibleText r envelope node.agentId
    | .collecting _ _ _ _ => True

variable {r : AgentRegistry} {envelope : MessageEnvelope} {now : Time} {ids : Nat → UUID}

theorem sending_stageFor {sid : UUID} {flow : AgentFlow} {todo : List AgentNode}
    (h : ∀ node ∈ todo, EligibleText r envelope node.agentId) :
    match Bus.stageFor now sid flow todo with
    | .planning _ => False
    | .delivering _ _ todo => ∀ node ∈ todo, EligibleText r envelope node.agentId
    | .collecting _ _ _ _ => True := by
  cases todo with
  | nil => trivial
  | cons node todo => exact h

/-- Nothing but a new message of the connection changes whom it delivers to. -/
theorem Sending.step (h : Sending r envelope connId s) (ha : ∀ e, a ≠ .message connId e)
    (hstep : Steps now s (ids, a) s') : Sending r envelope connId s' := by
  obtain ⟨-, fired, hfire, rfl⟩ := hstep
  intro conn task hof
  obtain ⟨hget, htask⟩ := taskOf_some hof
  clear hof
  have hstep := fire_connections hfire
  generalize fired.server = s' at hstep hget
  cases hstep with
  | same bus => exact h conn task (taskOf_eq hget htask)
  | connect bus _ _ =>
      rw [Dict.get?_insert] at hget
      split at hget
      · obtain rfl := Option.some.inj hget
        cases htask
      · exact h conn task (taskOf_eq hget htask)
  | resume hhandles _ =>
      rename_i c conn' o
      rw [Dict.get?_insert] at hget
      split at hget
      · rename_i hc
        subst hc
        obtain rfl := Option.some.inj hget
        cases hhandles.taskStep htask with
        | listed ha' _ _ => exact absurd ha' (ha _)
        | answered _ htask' hstage _ =>
            have hnot := h _ _ htask'
            rw [hstage] at hnot
            exact hnot.elim
        | delivered _ htask' hstage =>
            have htodo := h _ _ htask'
            rw [hstage] at htodo
            exact sending_stageFor fun node hnode ↦ htodo node (List.mem_cons_of_mem _ hnode)
        | polled _ _ _ => trivial
      · exact h conn task (taskOf_eq hget htask)
  | close bus _ =>
      rw [Dict.get?_erase] at hget
      split at hget
      · cases hget
      · exact h conn task (taskOf_eq hget htask)

theorem Sending.run {x y : Time × Server} {as : List Label} (h : Sending r envelope connId x.2)
    (hrun : Run (Busy connId) x as y) : Sending r envelope connId y.2 := by
  refine Run.invariant (P := fun x ↦ Sending r envelope connId x.2) ?_ hrun h
  rintro x l y hx ⟨hl, _, _, hstep⟩
  exact hx.step hl hstep

/-- What is sent to the next agent goes to the connection that its id has. -/
theorem Sending.delivered (h : Sending r envelope connId s) (hs : s.bus.Sound)
    (ho : s.outcome env (.deliver connId) = some (connId, conn, o)) :
    ∀ e ∈ o.sends, ∃ agent, s.bus.registry.agentsByConn.get? agent.connId = some agent ∧
      s.bus.registry.getWebsocket agent.connId = some e.1 ∧ Eligible r envelope agent.agentId := by
  intro e he
  cases handles_of_outcome ho with
  | deliver htask hstage =>
      rename_i task sid flow node todo
      have htodo := h conn task htask
      rw [hstage] at htodo
      obtain ⟨agentId, hparse, heligible⟩ := htodo node List.mem_cons_self
      unfold Bus.deliverNext at he
      rw [hparse] at he
      dsimp only at he
      split at he
      · cases he
      · rename_i agent hagent
        obtain ⟨c, hconn, hget⟩ := Option.bind_eq_some_iff.mp hagent
        obtain ⟨found, hfound, hid⟩ := (hs.registry.conn_iff agentId c).mp hconn
        obtain rfl := Option.some.inj (hfound.symm.trans hget)
        obtain ⟨rfl, -⟩ := hs.registry.keyed c found hget
        unfold routeToAgent at he
        split at he
        · cases he
        · rename_i websocket hwebsocket
          obtain rfl := List.mem_singleton.mp he
          exact ⟨found, hget, hwebsocket, hid ▸ heligible⟩

/-! ## From the listing to the answer -/

/-- A message is handled by its connection, which handles nothing else. -/
theorem steps_message (h : Steps now s (ids, .message connId envelope) s') : ∃ conn,
    s.connections.get? connId = some conn ∧
      s' = (s.resume connId conn
        (s.bus.handleMessage ⟨now, ids⟩ conn.websocket connId envelope)).server := by
  obtain ⟨-, fired, hfire, rfl⟩ := h
  obtain ⟨⟨c, conn, o⟩, houtcome, rfl⟩ := Option.map_eq_some_iff.mp hfire
  cases handles_of_outcome houtcome with
  | message _ hget htask => exact ⟨conn, hget, rfl⟩

/-- After the listing the connection waits for an answer about the agents that are
available for its envelope, or for nothing. -/
theorem listed (htype : envelope.messageType = .intentBroadcast)
    (h : Steps now s (ids, .message connId envelope) s') : ∃ conn,
      s'.connections.get? connId = some conn ∧ ∀ task, conn.task = some task →
        task.envelope = envelope ∧
          task.stage = .planning (availableAgents s.bus.registry envelope) := by
  obtain ⟨conn, hget, rfl⟩ := steps_message h
  have herror : (s.bus.handleMessage ⟨now, ids⟩ conn.websocket connId envelope).error = none := by
    unfold Bus.handleMessage
    rw [htype]
    dsimp only
    unfold Bus.handleIntentBroadcast
    split
    · rfl
    · rfl
  refine ⟨{ conn with
    task := (s.bus.handleMessage ⟨now, ids⟩ conn.websocket connId envelope).task }, ?_, ?_⟩
  · rw [resume, herror]
    exact Dict.get?_insert_self _ _ _
  · intro task htask
    obtain ⟨_, available, havailable, rfl⟩ := Bus.handleMessage_task htask
    rw [findAgentFlow_some havailable]
    exact ⟨rfl, rfl⟩

/-- While the connection does nothing, it stays as it is. -/
theorem waiting_run {x y : Time × Server} {as : List Label} (hx : x.2.Wired)
    (hget : x.2.connections.get? connId = some conn) (hrun : Run (Waiting connId) x as y) :
    y.2.connections.get? connId = some conn := by
  have hboth := Run.invariant
    (P := fun x ↦ x.2.Wired ∧ x.2.connections.get? connId = some conn) ?_ hrun ⟨hx, hget⟩
  · exact hboth.2
  · rintro x ⟨t, ids, a⟩ y ⟨hx, hget⟩ ⟨ha, _, _, hstep⟩
    refine ⟨hx.step hstep, ?_⟩
    obtain ⟨-, fired, hfire, hy⟩ := hstep
    rw [← hy]
    exact (fire_connections hfire).kept hx ha hget

/-- What the answer of the language model makes of a broadcast. -/
theorem answered {flow : AgentFlow} (h : Steps now s (ids, .answer connId (some flow)) s') :
    ∃ conn task, s.taskOf connId = some (conn, task) ∧
      (∃ session, s'.bus.sessions.getSession (ids 0) = some session ∧
        session.flowAgents = (dedupAgents [] flow.agents).map AgentNode.agentId) ∧
      ∃ flow', s'.taskOf connId = some ({ conn with task := some { task with
          stage := Bus.stageFor now (ids 0) flow' (dedupAgents [] flow.agents) } },
        { task with stage := Bus.stageFor now (ids 0) flow' (dedupAgents [] flow.agents) }) := by
  obtain ⟨-, fired, hfire, rfl⟩ := h
  obtain ⟨⟨c, conn, o⟩, houtcome, rfl⟩ := Option.map_eq_some_iff.mp hfire
  cases handles_of_outcome houtcome with
  | answer _ htask hstage =>
      rename_i task available
      have hcreate := SessionManager.getSession_create s.bus.sessions now (ids 0)
        task.envelope.tenantId task.envelope.senderId task.connId task.envelope.messageId
        task.envelope.payload ((dedupAgents [] flow.agents).map AgentNode.agentId)
        (some flow.entryPoint) (ids 0)
      refine ⟨conn, task, htask, ⟨_, hcreate.trans (if_pos rfl), rfl⟩,
        { flow with agents := dedupAgents [] flow.agents }, ?_⟩
      exact taskOf_eq (Dict.get?_insert_self _ _ _) rfl

/-- For every broadcast, every answer of the language model and whatever else happens
on the bus: the model was asked about the agents that were available when the
broadcast was handled; and the session that the broadcast creates names, and the
intent is delivered to, only agents that were then registered and online in the
tenant of the envelope and are not its sender, if and only if the answer names
only such agents. -/
theorem deliveries_confined_iff {library : Library} {settings : Settings} {t₀ now' : Time}
    {x y z w : Time × Server} {as bs : List Label} {ids' : Nat → UUID} {flow : AgentFlow}
    (hrun : Run (Step.Timed Steps) (t₀, start library settings) as x)
    (hlist : Step.Timed Steps x (now, ids, .message connId envelope) y)
    (htype : envelope.messageType = .intentBroadcast) (hwait : Run (Waiting connId) y bs z)
    (hanswer : Step.Timed Steps z (now', ids', .answer connId (some flow)) w) :
    (∃ conn task, z.2.taskOf connId = some (conn, task) ∧ task.envelope = envelope ∧
        task.stage = .planning (availableAgents x.2.bus.registry envelope)) ∧
      (Confined x.2.bus.registry envelope connId (ids' 0) w ↔
        ∀ node ∈ flow.agents, EligibleText x.2.bus.registry envelope node.agentId) := by
  obtain ⟨conn, task, htask, ⟨session, hget, hflow⟩, flow', htask'⟩ := answered hanswer.2.2
  have hstored : (∀ text ∈ session.flowAgents, EligibleText x.2.bus.registry envelope text) ↔
      ∀ node ∈ flow.agents, EligibleText x.2.bus.registry envelope node.agentId := by
    rw [hflow, List.forall_mem_map]
    exact forall_dedupAgents_iff
  have hasked : task.envelope = envelope ∧
      task.stage = .planning (availableAgents x.2.bus.registry envelope) := by
    obtain ⟨before, hbefore, hlisted⟩ := listed htype hlist.2.2
    have hwired := ((Wired.start library settings).run hrun).step hlist.2.2
    obtain ⟨hconn, hpending⟩ := taskOf_some htask
    obtain rfl := Option.some.inj ((waiting_run hwired hbefore hwait).symm.trans hconn)
    exact hlisted task hpending
  refine ⟨⟨conn, task, htask, hasked⟩, ?_, ?_⟩
  · intro h
    exact hstored.mp (h.stored session hget)
  · intro h
    refine ⟨?_, ?_⟩
    · intro session' hget'
      obtain rfl := Option.some.inj (hget.symm.trans hget')
      exact hstored.mpr h
    · intro cs v hbusy env conn' o ho
      have hsending : Sending x.2.bus.registry envelope connId w.2 := by
        intro conn' task' htask''
        obtain ⟨-, rfl⟩ := Prod.mk.inj (Option.some.inj (htask'.symm.trans htask''))
        exact sending_stageFor (forall_dedupAgents_iff.mpr h)
      have hsound : v.2.bus.Sound := by
        have hx := sound_run (sound_start library settings) hrun
        have hz := sound_run (sound_step hx hlist.2.2) hwait.of_only
        exact sound_run (sound_step hz hanswer.2.2) hbusy.of_only
      exact (hsending.run hbusy).delivered hsound ho

def sampleAgents : Time × Server := playState sampleStart (sampleRegistration ++
  [(0, ⟨90⟩, .connect 12 (sampleEnvelope .agentRegister ⟨3⟩ "other" none []))])

def sampleBroadcast : MessageEnvelope :=
  sampleEnvelope .intentBroadcast ⟨1⟩ "acme" none [("intent", .str "translate")]

/-- The language model names the provider: the broadcast reaches nobody else. -/
theorem deliveries_confined_sample :
    let y := playState sampleAgents [(1, ⟨90⟩, .message requesterConn sampleBroadcast)]
    let w := playState y [(2, ⟨100⟩, .answer requesterConn (some (sampleFlow (UUID.str ⟨2⟩))))]
    Confined sampleAgents.2.bus.registry sampleBroadcast requesterConn ⟨100⟩ w := by
  intro y w
  have hrun : Run (Step.Timed Steps) sampleStart _ sampleAgents := run_play (by decide +kernel)
  have hlist : Run (Step.Timed Steps) sampleAgents _ y := run_play (by decide +kernel)
  have hanswer : Run (Step.Timed Steps) y _ w := run_play (by decide +kernel)
  cases hlist with
  | cons hlist hnil =>
      cases hnil with
      | nil =>
          cases hanswer with
          | cons hanswer hnil =>
              cases hnil with
              | nil =>
                  refine (deliveries_confined_iff hrun hlist rfl (.nil y) hanswer).2.mpr ?_
                  intro node hnode
                  obtain rfl := List.mem_singleton.mp hnode
                  have hget : (sampleAgents.2.bus.registry.agentsByConn.get? providerConn).any
                      (fun agent ↦ agent.agentId = ⟨2⟩ ∧ agent.status = .online ∧
                        agent.tenantId = "acme") = true := by decide +kernel
                  obtain ⟨agent, hagent, hprovider⟩ := (Option.any_eq_true _ _).mp hget
                  exact ⟨⟨2⟩, by decide +kernel, by decide, providerConn, agent, hagent,
                    of_decide_eq_true hprovider⟩

/-- The language model names the agent of the other tenant: it gets the intent. -/
theorem deliveries_unconfined :
    let x := playState sampleAgents [(1, ⟨90⟩, .message requesterConn sampleBroadcast),
      (2, ⟨100⟩, .answer requesterConn (some (sampleFlow (UUID.str ⟨3⟩))))]
    let fired := x.2.fire ⟨3, fun _ ↦ ⟨90⟩⟩ (.deliver requesterConn)
    (∃ as, Run (Step.Timed Steps) sampleStart as sampleAgents) ∧
      (∃ as, Run (Step.Timed Steps) sampleAgents as x) ∧
      (fired.map fun f ↦ f.sends.map Prod.fst) = some [12] ∧
      (fired.map fun f ↦ f.sends.map fun e ↦ e.2.messageType) = some [.intentDeliver] ∧
      (x.2.connections.values.find? (·.websocket = 12)).map Connection.tenantId = some "other" ∧
      (x.2.bus.sessions.getSession ⟨100⟩).map Session.flowAgents = some [UUID.str ⟨3⟩] := by
  intro x fired
  have hbefore : Run (Step.Timed Steps) sampleStart _ sampleAgents := run_play (by decide +kernel)
  have hrun : Run (Step.Timed Steps) sampleAgents _ x := run_play (by decide +kernel)
  refine ⟨⟨_, hbefore⟩, ⟨_, hrun⟩, ?_, ?_, ?_, ?_⟩
  · decide +kernel
  · decide +kernel
  · decide +kernel
  · decide +kernel

end Server

end SemanticBus
