import SemanticBus.Transport.Changes

/-!
# The connections of the bus

A connection is stored under the id that its tenant, its agent and its websocket
determine, and only its own actions touch it (`ConnectionStep.kept`).  A
broadcast goes through its stages in order (`TaskStep`), and the session it
delivers or waits for is one of its tenant and its connection (`Wired`).
-/

namespace SemanticBus

def FlowStage.sessionId? : FlowStage → Option UUID
  | .planning _ => none
  | .delivering sid _ _ | .collecting sid _ _ _ => some sid

namespace Bus

variable {b : Bus} {env : Env} {websocket : Nat} {connId : String} {envelope : MessageEnvelope}

/-! ## What messages leave alone -/

/-- A message leaves the subscriptions and their delivery tasks alone unless it is about
them, and the outbound queues unless it is a stream message. -/
structure Untouched (type : MessageType) (b b' : Bus) : Prop where
  events : type ≠ .eventSubscribe → type ≠ .eventUnsubscribe →
    b'.events = b.events ∧ b'.eventDeliveryTasks = b.eventDeliveryTasks
  queues : type ≠ .execStreamStart → type ≠ .execStreamChunk → type ≠ .execStreamEnd →
    b'.queues = b.queues

theorem Untouched.all {type : MessageType} {b' : Bus} (hevents : b'.events = b.events)
    (htasks : b'.eventDeliveryTasks = b.eventDeliveryTasks) (hqueues : b'.queues = b.queues) :
    Untouched type b b' := ⟨fun _ _ ↦ ⟨hevents, htasks⟩, fun _ _ _ ↦ hqueues⟩

theorem handleExecStatus_untouched {status : ExecutionStatus} {type : MessageType} :
    Untouched type b (handleExecStatus status b env envelope).bus := by
  rw [handleExecStatus]
  split
  · exact .all rfl rfl rfl
  · dsimp only
    rw [forward_bus]
    split
    · exact .all rfl rfl rfl
    · exact .all rfl rfl rfl

theorem sendToRequesterQueued_events (b : Bus) (session : Session) (message : Message) :
    (b.sendToRequesterQueued session message).1.events = b.events ∧
      (b.sendToRequesterQueued session message).1.eventDeliveryTasks = b.eventDeliveryTasks := by
  rw [sendToRequesterQueued]
  split
  · exact ⟨rfl, rfl⟩
  · dsimp only
    split
    · exact ⟨rfl, rfl⟩
    · exact ⟨rfl, rfl⟩

theorem handleStreamChunk_events :
    (b.handleStreamChunk env websocket envelope).bus.events = b.events ∧
      (b.handleStreamChunk env websocket envelope).bus.eventDeliveryTasks
        = b.eventDeliveryTasks := by
  rw [handleStreamChunk]
  dsimp only
  split
  · exact ⟨rfl, rfl⟩
  · rename_i sid session _
    split
    · exact ⟨rfl, rfl⟩
    · rename_i tracedId _
      have hside := sendToRequesterQueued_events (b.record (traceStreamChunk envelope.tenantId
        sid tracedId (JsonObj.getD envelope.payload "seq" (.int 0)) (chunkLen (JsonObj.getD
          envelope.payload "data" (.str ""))))) session envelope.toMessage
      split
      · rename_i heq
        rw [heq] at hside
        exact hside
      · rename_i heq
        rw [heq] at hside
        exact hside
      · rename_i heq
        rw [heq] at hside
        exact hside

theorem handleMessage_untouched :
    Untouched envelope.messageType b (b.handleMessage env websocket connId envelope).bus := by
  rw [handleMessage]
  split
  · rw [handleHeartbeat]
    dsimp only
    split
    · exact .all rfl rfl rfl
    · exact .all rfl rfl rfl
  · exact .all rfl rfl rfl
  · rw [handleIntentBroadcast]
    split
    · exact .all rfl rfl rfl
    · exact .all rfl rfl rfl
  · rw [handleIntentOffer]
    dsimp only
    repeat' split
    all_goals exact .all rfl rfl rfl
  · rw [handleIntentAgree]
    dsimp only
    repeat' split
    all_goals exact .all rfl rfl rfl
  · rw [handleSessionClose]
    dsimp only
    repeat' split
    all_goals exact .all rfl rfl rfl
  · rw [handleExecRequest]
    repeat' split
    all_goals exact .all rfl rfl rfl
  · exact handleExecStatus_untouched
  · exact handleExecStatus_untouched
  · rw [handleExecResult]
    dsimp only
    repeat' split
    all_goals exact .all rfl rfl rfl
  · exact handleExecStatus_untouched
  · rw [handleExecPartialFailure]
    repeat' split
    all_goals exact .all rfl rfl rfl
  · rename_i htype
    refine ⟨fun _ _ ↦ ?_, fun hne ↦ absurd htype hne⟩
    rw [handleStreamStart]
    dsimp only
    split
    · exact ⟨rfl, rfl⟩
    · split
      · exact ⟨rfl, rfl⟩
      · exact sendToRequesterQueued_events _ _ _
  · rename_i htype
    exact ⟨fun _ _ ↦ handleStreamChunk_events, fun _ hne ↦ absurd htype hne⟩
  · rename_i htype
    refine ⟨fun _ _ ↦ ?_, fun _ _ hne ↦ absurd htype hne⟩
    rw [handleStreamEnd]
    dsimp only
    split
    · exact ⟨rfl, rfl⟩
    · split
      · exact ⟨rfl, rfl⟩
      · refine (sendToRequesterQueued_events _ _ _).imp (·.trans ?_) (·.trans ?_)
        · split
          · rfl
          · rfl
        · split
          · rfl
          · rfl
  · rw [handleTraceGet]
    repeat' split
    all_goals exact .all rfl rfl rfl
  · rename_i htype
    refine ⟨fun hne ↦ absurd htype hne, fun _ _ _ ↦ ?_⟩
    rw [handleEventSubscribe]
    repeat' split
    all_goals rfl
  · rename_i htype
    refine ⟨fun _ hne ↦ absurd htype hne, fun _ _ _ ↦ ?_⟩
    rw [handleEventUnsubscribe]
    repeat' split
    all_goals rfl
  · rw [handleEmitEvent]
    repeat' split
    all_goals exact .all rfl rfl rfl
  · exact .all rfl rfl rfl

end Bus

/-- Only a broadcast leaves work behind: the question to the language model. -/
theorem Bus.handleMessage_task {b : Bus} {env : Env} {websocket : Nat} {connId : String}
    {envelope : MessageEnvelope} {task : FlowTask}
    (h : (b.handleMessage env websocket connId envelope).task = some task) :
    envelope.messageType = .intentBroadcast ∧ ∃ available,
      findAgentFlow b.registry envelope = some available ∧
      task = ⟨websocket, connId, envelope, .planning available⟩ := by
  unfold handleMessage at h
  split at h
  case h_3 htype =>
    unfold handleIntentBroadcast at h
    split at h
    · cases h
    · rename_i available havailable
      exact ⟨htype, available, havailable, (Option.some.inj h).symm⟩
  all_goals exfalso
  · unfold handleHeartbeat at h
    dsimp only at h
    repeat' split at h
    all_goals cases h
  · cases h
  · unfold handleIntentOffer at h
    dsimp only at h
    repeat' split at h
    all_goals cases h
  · unfold handleIntentAgree at h
    dsimp only at h
    repeat' split at h
    all_goals cases h
  · unfold handleSessionClose at h
    dsimp only at h
    repeat' split at h
    all_goals cases h
  · unfold handleExecRequest at h
    repeat' split at h
    all_goals cases h
  · unfold handleExecAccepted handleExecStatus forward at h
    dsimp only at h
    repeat' split at h
    all_goals cases h
  · unfold handleExecProgress handleExecStatus forward at h
    dsimp only at h
    repeat' split at h
    all_goals cases h
  · unfold handleExecResult at h
    dsimp only at h
    repeat' split at h
    all_goals cases h
  · unfold handleExecErrorFromProvider handleExecStatus forward at h
    dsimp only at h
    repeat' split at h
    all_goals cases h
  · unfold handleExecPartialFailure at h
    repeat' split at h
    all_goals cases h
  · unfold handleStreamStart at h
    dsimp only at h
    repeat' split at h
    all_goals cases h
  · unfold handleStreamChunk at h
    dsimp only at h
    repeat' split at h
    all_goals cases h
  · unfold handleStreamEnd at h
    dsimp only at h
    repeat' split at h
    all_goals cases h
  · unfold handleTraceGet at h
    dsimp only at h
    repeat' split at h
    all_goals cases h
  · unfold handleEventSubscribe at h
    dsimp only at h
    repeat' split at h
    all_goals cases h
  · unfold handleEventUnsubscribe at h
    dsimp only at h
    repeat' split at h
    all_goals cases h
  · unfold handleEmitEvent at h
    repeat' split at h
    all_goals cases h
  · cases h

namespace Server

variable {s : Server} {env : Env} {a : Action} {connId c : String} {conn : Connection}
  {o : Outcome} {fired : Fired} {task task' : FlowTask}

inductive ConnectionStep (s : Server) (env : Env) (a : Action) : Server → Prop
  /-- Nothing. -/
  | same (bus : Bus) : ConnectionStep s env a ⟨bus, s.connections⟩
  /-- A new connection, over a websocket that no other one uses. -/
  | connect (bus : Bus) {websocket : Nat} {envelope : MessageEnvelope} :
      a = .connect websocket envelope →
      (∀ c conn, s.connections.get? c = some conn → conn.websocket ≠ websocket) →
      ConnectionStep s env a ⟨bus, s.connections.insert
        (SemanticBus.connId envelope.tenantId envelope.senderId websocket)
        ⟨websocket, envelope.senderId, envelope.tenantId, none⟩⟩
  /-- A connection goes on. -/
  | resume {c : String} {conn : Connection} {o : Outcome} : s.Handles env a c conn o →
      o.error = none →
      ConnectionStep s env a ⟨o.bus, s.connections.insert c { conn with task := o.task }⟩
  /-- A connection ends. -/
  | close (bus : Bus) {c : String} : a.connId? = some c →
      ConnectionStep s env a ⟨bus, s.connections.erase c⟩

theorem handleRegister_connId {b : Bus} {websocket : Nat} {envelope : MessageEnvelope}
    (h : (b.handleRegister env websocket envelope).2 = some c) :
    c = SemanticBus.connId envelope.tenantId envelope.senderId websocket := by
  unfold Bus.handleRegister at h
  dsimp only at h
  split at h
  · cases h
  · rename_i heq
    obtain rfl := Option.some.inj h
    unfold AgentRegistry.register at heq
    dsimp only at heq
    split at heq
    · cases heq
    · obtain ⟨_, hok⟩ := Prod.mk.inj heq
      exact (Prod.mk.inj (Except.ok.inj hok)).1.symm

/-- The connections once a registration got the given id, if any. -/
def registered (s : Server) (websocket : Nat) (envelope : MessageEnvelope) :
    Option String → Dict String Connection
  | none => s.connections
  | some connId =>
      s.connections.insert connId ⟨websocket, envelope.senderId, envelope.tenantId, none⟩

/-- What an action does to the connections. -/
theorem fire_connections (h : s.fire env a = some fired) :
    ConnectionStep s env a fired.server := by
  unfold fire at h
  split at h
  · rename_i websocket envelope
    unfold connect at h
    split_ifs at h with hused htype
    · obtain rfl := Option.some.inj h
      exact .same s.bus
    · obtain rfl := Option.some.inj h
      have hfresh : ∀ c conn, s.connections.get? c = some conn → conn.websocket ≠ websocket := by
        intro c conn hget hsame
        refine hused (List.any_eq_true.mpr ⟨conn, Dict.mem_values_iff.mpr ⟨c, hget⟩, ?_⟩)
        exact decide_eq_true hsame
      have hstep : ∀ bus, ConnectionStep s env (.connect websocket envelope)
          ⟨bus, s.registered websocket envelope (s.bus.handleRegister env websocket envelope).2⟩ := by
        intro bus
        cases hid : (s.bus.handleRegister env websocket envelope).2 with
        | none => exact .same bus
        | some connId =>
          rw [handleRegister_connId hid]
          exact .connect bus rfl hfresh
      exact hstep _
  · rename_i connId
    obtain ⟨conn, _, h⟩ := Option.bind_eq_some_iff.mp h
    split_ifs at h
    obtain rfl := Option.some.inj h
    exact .close _ rfl
  · obtain rfl := Option.some.inj h
    exact .same _
  · obtain rfl := Option.some.inj h
    exact .same _
  · obtain ⟨q, _, rfl⟩ := Option.map_eq_some_iff.mp h
    exact .same _
  · obtain ⟨task, _, h⟩ := Option.bind_eq_some_iff.mp h
    obtain ⟨sub, _, h⟩ := Option.bind_eq_some_iff.mp h
    split at h
    · obtain rfl := Option.some.inj h
      exact .same _
    · cases h
  · obtain ⟨⟨connId, conn, o⟩, houtcome, rfl⟩ := Option.map_eq_some_iff.mp h
    have hhandles := handles_of_outcome houtcome
    show ConnectionStep s env _ (s.resume connId conn o).server
    unfold resume
    split
    · rename_i hnone
      exact .resume hhandles hnone
    · exact .close _ hhandles.connId?

inductive TaskStep (s : Server) (env : Env) (a : Action) (connId : String) (conn : Connection) :
    FlowTask → Prop
  /-- The agents are listed. -/
  | listed {envelope : MessageEnvelope} {available : List AgentRecord} :
      a = .message connId envelope → envelope.messageType = .intentBroadcast →
      findAgentFlow s.bus.registry envelope = some available →
      TaskStep s env a connId conn ⟨conn.websocket, connId, envelope, .planning available⟩
  /-- The language model has answered. -/
  | answered {task : FlowTask} {available : List AgentRecord} {answer : Option AgentFlow}
      {flow : AgentFlow} : a = .answer connId answer → s.taskOf connId = some (conn, task) →
      task.stage = .planning available → discoverFlow answer = some flow →
      TaskStep s env a connId conn
        { task with stage := Bus.stageFor env.now (env.uuid 0) flow flow.agents }
  /-- The intent was delivered to the next agent. -/
  | delivered {task : FlowTask} {sid : UUID} {flow : AgentFlow} {node : AgentNode}
      {todo : List AgentNode} : a = .deliver connId → s.taskOf connId = some (conn, task) →
      task.stage = .delivering sid flow (node :: todo) →
      TaskStep s env a connId conn { task with stage := Bus.stageFor env.now sid flow todo }
  /-- The offers are not there yet. -/
  | polled {task : FlowTask} {sid : UUID} {flow : AgentFlow} {polls : Nat} {wake : Time} :
      a = .poll connId → s.taskOf connId = some (conn, task) →
      task.stage = .collecting sid flow polls wake →
      TaskStep s env a connId conn
        { task with stage := .collecting sid flow (polls - 1) (env.now + Bus.pollInterval) }

theorem finishFlow_task {b : Bus} {sid : UUID} {flow : AgentFlow} {offers : List Offer} :
    (b.finishFlow env task sid flow offers).task = none := by
  unfold Bus.finishFlow
  split
  · rfl
  · rfl

theorem Handles.get? (h : s.Handles env a connId conn o) :
    s.connections.get? connId = some conn := by
  cases h with
  | message _ hget _ => exact hget
  | answer _ htask _ => exact (taskOf_some htask).1
  | deliver htask _ => exact (taskOf_some htask).1
  | poll htask _ _ => exact (taskOf_some htask).1

/-- What a message loop leaves to be done is the next stage of a broadcast. -/
theorem Handles.taskStep (h : s.Handles env a connId conn o) (ht : o.task = some task') :
    TaskStep s env a connId conn task' := by
  cases h with
  | message envelope hget htask =>
      obtain ⟨htype, available, havailable, rfl⟩ := Bus.handleMessage_task ht
      exact .listed rfl htype havailable
  | answer answer htask hstage =>
      unfold Bus.startFlow at ht
      split at ht
      · cases ht
      · rename_i flow hflow
        obtain rfl := Option.some.inj ht
        exact .answered rfl htask hstage hflow
  | deliver htask hstage =>
      unfold Bus.deliverNext at ht
      split at ht
      · cases ht
      · obtain rfl := Option.some.inj ht
        exact .delivered rfl htask hstage
  | poll htask hstage hwake =>
      unfold Bus.pollOffers at ht
      dsimp only at ht
      split at ht
      · rw [finishFlow_task] at ht
        cases ht
      · split at ht
        · rw [finishFlow_task] at ht
          cases ht
        · obtain rfl := Option.some.inj ht
          exact .polled rfl htask hstage

/-! ## Invariants -/

theorem sessionId_stageFor (now : Time) (sid : UUID) (flow : AgentFlow) (todo : List AgentNode) :
    (Bus.stageFor now sid flow todo).sessionId? = some sid := by
  cases todo with
  | nil => rfl
  | cons node todo => rfl

/-- No action gives a session to somebody else. -/
theorem sameOwner_of_effect {now : Time} {sid : UUID} {session session' : Session}
    (h : Effect now s a sid session session') : session.SameOwner session' := by
  cases h with
  | same => exact ⟨rfl, rfl, rfl⟩
  | message _ _ heffect =>
      cases heffect with
      | same => exact ⟨rfl, rfl, rfl⟩
      | offer _ _ _ _ _ _ => exact ⟨rfl, rfl, rfl⟩
      | agree _ _ _ _ _ => exact ⟨rfl, rfl, rfl⟩
      | close _ _ => exact ⟨rfl, rfl, rfl⟩
      | execution _ _ => exact Session.sameOwner_updateExecutionStatus
  | flowInfo _ _ _ => exact ⟨rfl, rfl, rfl⟩
  | expire _ _ => exact ⟨rfl, rfl, rfl⟩

/-- Connections are stored under their ids, and a broadcast works for a session of
the tenant that its envelope claims, which its connection requested. -/
structure Wired (s : Server) : Prop where
  keyed : ∀ c conn, s.connections.get? c = some conn →
    c = SemanticBus.connId conn.tenantId conn.agentId conn.websocket
  task : ∀ c conn task, s.taskOf c = some (conn, task) → task.connId = c ∧
    ∀ sid, task.stage.sessionId? = some sid → ∃ session,
      s.bus.sessions.getSession sid = some session ∧
      session.tenantId = task.envelope.tenantId ∧ session.requesterConnId = c

/-- Only the actions of a connection touch it. -/
theorem ConnectionStep.kept {s' : Server} (h : ConnectionStep s env a s') (hs : s.Wired)
    (ha : a.connId? ≠ some c) (hget : s.connections.get? c = some conn) :
    s'.connections.get? c = some conn := by
  cases h with
  | same bus => exact hget
  | connect bus ha' hfresh =>
      rename_i websocket envelope
      rw [Dict.get?_insert, if_neg, hget]
      intro hc
      rw [hs.keyed c conn hget] at hc
      exact hfresh c conn hget (connId_injective hc).2.2
  | resume hhandles hnone =>
      rw [Dict.get?_insert, if_neg, hget]
      rintro rfl
      exact ha hhandles.connId?
  | close bus ha' =>
      rw [Dict.get?_erase, if_neg, hget]
      rintro rfl
      exact ha ha'

theorem taskOf_eq (hget : s.connections.get? c = some conn) (htask : conn.task = some task) :
    s.taskOf c = some (conn, task) := by
  rw [taskOf, hget, Option.bind_some, htask, Option.map_some]

/-- The session of the next stage of a broadcast. -/
theorem TaskStep.session {now : Time} {ids : Nat → UUID} (hs : s.Wired)
    (hhandles : s.Handles ⟨now, ids⟩ a c conn o)
    (hkept : ∀ sid session, s.bus.sessions.getSession sid = some session →
      ∃ session', o.bus.sessions.getSession sid = some session' ∧ session.SameOwner session')
    (h : TaskStep s ⟨now, ids⟩ a c conn task') : task'.connId = c ∧
      ∀ sid, task'.stage.sessionId? = some sid → ∃ session,
        o.bus.sessions.getSession sid = some session ∧
        session.tenantId = task'.envelope.tenantId ∧ session.requesterConnId = c := by
  have hold : ∀ task, s.taskOf c = some (conn, task) → task.connId = c ∧
      ∀ sid, task.stage.sessionId? = some sid → ∃ session,
        o.bus.sessions.getSession sid = some session ∧
        session.tenantId = task.envelope.tenantId ∧ session.requesterConnId = c := by
    intro task htask
    obtain ⟨hconn, hsession⟩ := hs.task c conn task htask
    refine ⟨hconn, fun sid hsid ↦ ?_⟩
    obtain ⟨session, hget, htenant, hrequester⟩ := hsession sid hsid
    obtain ⟨session', hget', howner⟩ := hkept sid session hget
    exact ⟨session', hget', howner.tenantId.trans htenant, howner.requesterConnId.trans hrequester⟩
  cases h with
  | listed ha htype havailable => exact ⟨rfl, fun sid hsid ↦ by cases hsid⟩
  | answered ha htask hstage hflow =>
      rename_i task available answer flow
      obtain ⟨hconn, _⟩ := hs.task c conn task htask
      refine ⟨hconn, fun sid hsid ↦ ?_⟩
      obtain rfl := Option.some.inj ((sessionId_stageFor now (ids 0) flow flow.agents).symm.trans hsid)
      subst ha
      cases hhandles with
      | answer _ htask' hstage' =>
          obtain ⟨-, rfl⟩ := Prod.mk.inj (Option.some.inj (htask.symm.trans htask'))
          unfold Bus.startFlow
          rw [hflow]
          have hcreate := SessionManager.getSession_create s.bus.sessions now (ids 0)
            task.envelope.tenantId task.envelope.senderId task.connId task.envelope.messageId
            task.envelope.payload (flow.agents.map AgentNode.agentId) (some flow.entryPoint) (ids 0)
          exact ⟨_, hcreate.trans (if_pos rfl), rfl, hconn⟩
  | delivered ha htask hstage =>
      rename_i task sid flow node todo
      obtain ⟨hconn, hsession⟩ := hold task htask
      refine ⟨hconn, fun sid' hsid ↦ hsession sid' ?_⟩
      rw [hstage]
      exact (sessionId_stageFor now sid flow todo).symm.trans hsid
  | polled ha htask hstage =>
      rename_i task sid flow polls wake
      obtain ⟨hconn, hsession⟩ := hold task htask
      refine ⟨hconn, fun sid' hsid ↦ hsession sid' ?_⟩
      rw [hstage]
      exact hsid

theorem Wired.start (library : Library) (settings : Settings) : (start library settings).Wired where
  keyed c conn hget := by cases hget
  task c conn task htask := by cases htask

theorem Wired.step {s' : Server} {now : Time} {ids : Nat → UUID} (hs : s.Wired)
    (h : Steps now s (ids, a) s') : s'.Wired := by
  have hsessions : ∀ sid session, s.bus.sessions.getSession sid = some session →
      ∃ session', s'.bus.sessions.getSession sid = some session' ∧ session.SameOwner session' := by
    intro sid session hget
    obtain ⟨session', hget', heffect⟩ := h.sessionStep.kept sid session hget
    exact ⟨session', hget', sameOwner_of_effect heffect⟩
  obtain ⟨-, fired, hfire, rfl⟩ := h
  -- a broadcast that nothing touched
  have hold : ∀ c conn task, s.connections.get? c = some conn → conn.task = some task →
      task.connId = c ∧ ∀ sid, task.stage.sessionId? = some sid → ∃ session,
        fired.server.bus.sessions.getSession sid = some session ∧
        session.tenantId = task.envelope.tenantId ∧ session.requesterConnId = c := by
    intro c conn task hget htask
    obtain ⟨hconn, hsession⟩ := hs.task c conn task (taskOf_eq hget htask)
    refine ⟨hconn, fun sid hsid ↦ ?_⟩
    obtain ⟨session, hget, htenant, hrequester⟩ := hsession sid hsid
    obtain ⟨session', hget', howner⟩ := hsessions sid session hget
    exact ⟨session', hget', howner.tenantId.trans htenant, howner.requesterConnId.trans hrequester⟩
  have hstep := fire_connections hfire
  generalize fired.server = s' at hstep hsessions hold
  constructor
  · intro c conn hget
    cases hstep with
    | same bus => exact hs.keyed c conn hget
    | connect bus ha hfresh =>
        rw [Dict.get?_insert] at hget
        split at hget
        · rename_i hc
          obtain rfl := Option.some.inj hget
          exact hc
        · exact hs.keyed c conn hget
    | resume hhandles hnone =>
        rename_i c' conn' o
        rw [Dict.get?_insert] at hget
        split at hget
        · rename_i hc
          obtain rfl := Option.some.inj hget
          exact hc.trans (hs.keyed c' conn' hhandles.get?)
        · exact hs.keyed c conn hget
    | close bus ha =>
        rw [Dict.get?_erase] at hget
        split at hget
        · cases hget
        · exact hs.keyed c conn hget
  · intro c conn task hof
    obtain ⟨hget, htask⟩ := taskOf_some hof
    clear hof
    cases hstep with
    | same bus => exact hold c conn task hget htask
    | connect bus ha hfresh =>
        rw [Dict.get?_insert] at hget
        split at hget
        · obtain rfl := Option.some.inj hget
          cases htask
        · exact hold c conn task hget htask
    | resume hhandles hnone =>
        rename_i c' conn' o
        rw [Dict.get?_insert] at hget
        split at hget
        · rename_i hc
          subst hc
          obtain rfl := Option.some.inj hget
          exact (hhandles.taskStep htask).session hs hhandles hsessions
        · exact hold c conn task hget htask
    | close bus ha =>
        rw [Dict.get?_erase] at hget
        split at hget
        · cases hget
        · exact hold c conn task hget htask

theorem Wired.run {x y : Time × Server} {as : List Label} (hx : x.2.Wired)
    (h : Run (Step.Timed Steps) x as y) : y.2.Wired :=
  h.invariant (P := fun x ↦ x.2.Wired) (fun _ _ _ hx hstep ↦ hx.step hstep.2.2) hx

end Server

end SemanticBus
