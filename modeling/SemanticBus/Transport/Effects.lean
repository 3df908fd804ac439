import SemanticBus.Transport.Server

/-!
# What the actions do to sessions

Every handler changes at most the session that its envelope names, and only in
one of four ways (`MessageEffect`); the rest of a broadcast creates a session
and stores its flow; the cleanup expires sessions (`Effect`).  `fire_session`
says so for every action, and the results about sessions are read off it.
-/

namespace SemanticBus

/-- What the handling of a message does to the session with the given id. -/
inductive MessageEffect (b : Bus) (now : Time) (connId : String) (envelope : MessageEnvelope) (sid : UUID)
    (session : Session) : Session → Prop
  /-- Nothing. -/
  | same : MessageEffect b now connId envelope sid session session
  /-- An offer is added to a session that takes offers. -/
  | offer {offer : Offer} : envelope.messageType = .intentOffer →
      envelope.ephemeralInterfaceId = some sid →
      SessionManager.takesOffers session now = true → b.offerWellFormed envelope = true →
      offer.providerAgentId = envelope.senderId → offer.providerConnId = connId →
      MessageEffect b now connId envelope sid session (session.addOffer offer)
  /-- The requester, as the envelope has it, agrees to the aggregated offer. -/
  | agree {offerId : String} : envelope.messageType = .intentAgree →
      envelope.ephemeralInterfaceId = some sid →
      JsonObj.get envelope.payload "offer_id" = .str offerId →
      session.requesterAgentId = envelope.senderId →
      session.aggregatedOfferId = some offerId →
      MessageEffect b now connId envelope sid session (Bus.activate session now offerId)
  /-- The session is closed. -/
  | close : envelope.messageType = .sessionClose → envelope.ephemeralInterfaceId = some sid →
      MessageEffect b now connId envelope sid session (session.close now)
  /-- The provider, as the envelope has it, reports on an execution. -/
  | execution {execId : Json} {status : ExecutionStatus} {resultViewId : Option Json}
      {resultValid : Option Bool} : envelope.ephemeralInterfaceId = some sid →
      some envelope.senderId = session.providerAgentId →
      MessageEffect b now connId envelope sid session
        (session.updateExecutionStatus now execId status resultViewId resultValid)

theorem rel_imp {R S : Session → Session → Prop} (h : ∀ session session', R session session' →
    S session session') {before after : Option Session} (hrel : Option.Rel R before after) :
    Option.Rel S before after := by
  cases hrel with
  | some hr => exact .some (h _ _ hr)
  | none => exact .none

/-- A reflexive relation that relates every session to its update relates the
sessions before and after. -/
theorem SessionManager.rel_update {R : UUID → Session → Session → Prop}
    (hrefl : ∀ sid session, R sid session session) {m : SessionManager} {sid : UUID}
    {f : Session → Session}
    (hf : ∀ session, m.getSession sid = some session → R sid session (f session)) (j : UUID) :
    Option.Rel (R j) (m.getSession j) ((m.update sid f).getSession j) := by
  rw [SessionManager.getSession_update]
  split
  · rename_i hj
    subst hj
    cases hget : m.getSession j with
    | none => exact .none
    | some session => exact .some (hf session hget)
  · cases m.getSession j with
    | none => exact .none
    | some session => exact .some (hrefl j session)

namespace Bus

variable {b : Bus} {env : Env} {websocket : Nat} {connId : String} {envelope : MessageEnvelope}
  {sid : UUID} {session : Session}

/-! ## Handlers that leave the sessions alone -/

theorem forward_bus (b : Bus) (session : Session) (message : Message) :
    (b.forward session message).bus = b := by
  unfold forward
  split
  · rfl
  · rfl

theorem handleHeartbeat_sessions :
    (b.handleHeartbeat env websocket connId envelope).bus.sessions = b.sessions := by
  unfold handleHeartbeat
  dsimp only
  split
  · rfl
  · rfl

theorem handleIntentBroadcast_sessions :
    (b.handleIntentBroadcast websocket connId envelope).bus.sessions = b.sessions := by
  rw [handleIntentBroadcast]
  split
  · rfl
  · rfl

theorem handleExecRequest_sessions :
    (b.handleExecRequest env websocket envelope).bus.sessions = b.sessions := by
  rw [handleExecRequest]
  split
  · rfl
  · split
    · rfl
    · split
      · rfl
      · rfl

theorem handleExecPartialFailure_sessions :
    (b.handleExecPartialFailure env websocket envelope).bus.sessions = b.sessions := by
  rw [handleExecPartialFailure]
  split
  · rfl
  · split
    · rfl
    · rfl

theorem sendToRequesterQueued_sessions (b : Bus) (session : Session) (message : Message) :
    (b.sendToRequesterQueued session message).1.sessions = b.sessions := by
  rw [sendToRequesterQueued]
  split
  · rfl
  · dsimp only
    split
    · rfl
    · rfl

theorem handleStreamStart_sessions :
    (b.handleStreamStart env envelope).bus.sessions = b.sessions := by
  rw [handleStreamStart]
  split
  · rfl
  · dsimp only
    split
    · rfl
    · exact sendToRequesterQueued_sessions _ _ _

theorem handleStreamChunk_sessions :
    (b.handleStreamChunk env websocket envelope).bus.sessions = b.sessions := by
  rw [handleStreamChunk]
  split
  · rfl
  · rename_i sessionId session _
    dsimp only
    split
    · rfl
    · rename_i tracedId _
      have hsessions := sendToRequesterQueued_sessions
        (b.record (traceStreamChunk envelope.tenantId sessionId tracedId
          (JsonObj.getD envelope.payload "seq" (.int 0))
          (chunkLen (JsonObj.getD envelope.payload "data" (.str ""))))) session envelope.toMessage
      split
      · rename_i heq
        rw [heq] at hsessions
        exact hsessions
      · rename_i heq
        rw [heq] at hsessions
        exact hsessions
      · rename_i heq
        rw [heq] at hsessions
        exact hsessions

theorem handleTraceGet_sessions : (b.handleTraceGet websocket envelope).bus.sessions = b.sessions := by
  unfold handleTraceGet
  dsimp only
  split
  · rfl
  · split
    · rfl
    · rfl

theorem handleEventSubscribe_sessions :
    (b.handleEventSubscribe websocket connId envelope).bus.sessions = b.sessions := by
  unfold handleEventSubscribe
  dsimp only
  repeat' split
  all_goals rfl

theorem handleEventUnsubscribe_sessions :
    (b.handleEventUnsubscribe connId envelope).bus.sessions = b.sessions := by
  unfold handleEventUnsubscribe
  dsimp only
  repeat' split
  all_goals rfl

theorem handleEmitEvent_sessions : (b.handleEmitEvent websocket envelope).bus.sessions = b.sessions := by
  rw [handleEmitEvent]
  split
  · rfl
  · split
    · rfl
    · rfl

/-! ## Handlers that change a session -/

/-- A handler that leaves the sessions alone has no effect on any. -/
theorem rel_of_eq {o : Outcome} (h : o.bus.sessions = b.sessions) :
    Option.Rel (MessageEffect b env.now connId envelope sid) (b.sessions.getSession sid)
      (o.bus.sessions.getSession sid) := by
  rw [h]
  cases b.sessions.getSession sid with
  | none => exact .none
  | some session => exact .some .same

/-- A handler that changes one session has the effect of the change. -/
theorem rel_of_update {o : Outcome} {target : UUID} {f : Session → Session}
    (h : o.bus.sessions = b.sessions.update target f)
    (hf : ∀ session, b.sessions.getSession target = some session →
      MessageEffect b env.now connId envelope target session (f session)) :
    Option.Rel (MessageEffect b env.now connId envelope sid) (b.sessions.getSession sid)
      (o.bus.sessions.getSession sid) := by
  rw [h]
  exact SessionManager.rel_update (fun _ _ ↦ .same) hf sid

theorem addOffer_ok {m m' : SessionManager} {floatOfStr : String → Option ℚ} {now : Time}
    {offerId : String} {agentId : UUID} {schemaIds viewIds requires accepts score metadata : Json}
    {offer : Offer}
    (h : m.addOffer floatOfStr now offerId sid agentId connId schemaIds viewIds requires accepts
      score metadata = .ok (m', some offer)) :
    m' = m.update sid (·.addOffer offer) ∧ offer.providerAgentId = agentId ∧
      offer.providerConnId = connId ∧
      Offer.wellFormed floatOfStr (schemaIds.orElse (.arr [])) (viewIds.orElse (.arr []))
        (requires.orElse (.arr [])) (accepts.orElse (.arr [])) score
        (metadata.orElse (.obj [])) = true ∧
      ∃ session, m.getSession sid = some session ∧
        SessionManager.takesOffers session now = true := by
  unfold SessionManager.addOffer at h
  split at h
  · cases h
  · rename_i session hget
    split_ifs at h with htakes
    · split at h
      · cases h
      · rename_i built hbuilt
        obtain ⟨rfl, hoffer⟩ := Prod.mk.inj (Except.ok.inj h)
        obtain rfl := Option.some.inj hoffer
        rcases Offer.construct_cases with ⟨hwell, offer, hok, hagent, hconn⟩ | ⟨_, herror⟩
        · obtain rfl := Except.ok.inj (hok.symm.trans hbuilt)
          exact ⟨rfl, hagent, hconn, hwell, session, hget, htakes⟩
        · cases herror.symm.trans hbuilt
    · cases h

theorem handleIntentOffer_session (htype : envelope.messageType = .intentOffer) :
    Option.Rel (MessageEffect b env.now connId envelope sid) (b.sessions.getSession sid)
      ((b.handleIntentOffer env websocket connId envelope).bus.sessions.getSession sid) := by
  unfold handleIntentOffer
  split
  · exact rel_of_eq rfl
  · rename_i target htarget
    split
    · exact rel_of_eq rfl
    · dsimp only
      split
      · exact rel_of_eq rfl
      · exact rel_of_eq rfl
      · rename_i sessions offer hoffer
        obtain ⟨rfl, hagent, hconn, hwell, found, hfound, htakes⟩ := addOffer_ok hoffer
        refine rel_of_update rfl fun session hget ↦ ?_
        obtain rfl := Option.some.inj (hfound.symm.trans hget)
        exact .offer htype htarget htakes hwell hagent hconn

theorem handleIntentAgree_session (htype : envelope.messageType = .intentAgree) :
    Option.Rel (MessageEffect b env.now connId envelope sid) (b.sessions.getSession sid)
      ((b.handleIntentAgree env websocket envelope).bus.sessions.getSession sid) := by
  unfold handleIntentAgree
  split
  · exact rel_of_eq rfl
  · rename_i target htarget
    dsimp only
    split
    · exact rel_of_eq rfl
    · split
      · exact rel_of_eq rfl
      · rename_i found hfound
        split_ifs with hrequester
        · exact rel_of_eq rfl
        · split
          · rename_i offerId hofferId
            split_ifs with hoffer
            · exact rel_of_eq rfl
            · refine rel_of_update rfl fun session hget ↦ ?_
              obtain rfl := Option.some.inj (hfound.symm.trans hget)
              exact .agree htype htarget hofferId (not_not.mp hrequester) (not_not.mp hoffer)
          · exact rel_of_eq rfl

theorem handleSessionClose_session (htype : envelope.messageType = .sessionClose) :
    Option.Rel (MessageEffect b env.now connId envelope sid) (b.sessions.getSession sid)
      ((b.handleSessionClose env websocket connId envelope).bus.sessions.getSession sid) := by
  unfold handleSessionClose
  split
  · exact rel_of_eq rfl
  · rename_i target htarget
    dsimp only
    split
    · exact rel_of_eq rfl
    · rename_i sessions closed hclosed
      have hsessions : sessions = b.sessions.update target (·.close env.now) := by
        unfold SessionManager.closeSession at hclosed
        split at hclosed
        · cases (Prod.mk.inj hclosed).2
        · exact (Prod.mk.inj hclosed).1.symm
      subst hsessions
      split
      · exact rel_of_update rfl fun session _ ↦ .close htype htarget
      · exact rel_of_update rfl fun session _ ↦ .close htype htarget

/-- The session that a message of its provider runs in is stored under the id that
the envelope names. -/
theorem providerSession_some (h : b.providerSession env envelope = some (sid, session)) :
    envelope.ephemeralInterfaceId = some sid ∧
      b.sessions.validateSessionForExec env.now sid envelope.senderId = .ok session ∧
      some envelope.senderId = session.providerAgentId := by
  unfold providerSession at h
  obtain ⟨target, htarget, h⟩ := Option.bind_eq_some_iff.mp h
  split at h
  · cases h
  · rename_i found hvalid
    split_ifs at h with hprovider
    obtain ⟨rfl, rfl⟩ := Prod.mk.inj (Option.some.inj h)
    exact ⟨htarget, hvalid, not_not.mp hprovider⟩

/-- The handlers that answer a message they do not accept look for the same session. -/
theorem checkProvider_toOption (b : Bus) (env : Env) (envelope : MessageEnvelope) (type : String) :
    (b.checkProvider env envelope type).toOption = b.providerSession env envelope := by
  unfold checkProvider providerSession
  cases envelope.ephemeralInterfaceId with
  | none => rfl
  | some target =>
      dsimp only [Option.bind_some]
      cases b.sessions.validateSessionForExec env.now target envelope.senderId with
      | error reason => rfl
      | ok found =>
          dsimp only
          split
          · rfl
          · rfl

theorem checkProvider_ok {type : String}
    (h : b.checkProvider env envelope type = .ok (sid, session)) :
    b.providerSession env envelope = some (sid, session) := by
  rw [← checkProvider_toOption b env envelope type, h]
  rfl

/-- An update of an execution, if there is one to make. -/
theorem rel_of_execution {o : Outcome} {execId : Json} {status : ExecutionStatus}
    {resultViewId : Option Json} {resultValid : Option Bool} {target : UUID} {p : Bool}
    (hprovider : b.providerSession env envelope = some (target, session))
    (h : o.bus.sessions = if p then b.sessions.update target
      (·.updateExecutionStatus env.now execId status resultViewId resultValid) else b.sessions) :
    Option.Rel (MessageEffect b env.now connId envelope sid) (b.sessions.getSession sid)
      (o.bus.sessions.getSession sid) := by
  split at h
  · refine rel_of_update h fun found hfound ↦ ?_
    obtain ⟨htarget, hvalid, hsender⟩ := providerSession_some hprovider
    obtain rfl := Option.some.inj (hfound.symm.trans (SessionManager.validate_ok hvalid).1)
    exact .execution htarget hsender
  · exact rel_of_eq h

theorem handleExecStatus_session {status : ExecutionStatus} :
    Option.Rel (MessageEffect b env.now connId envelope sid) (b.sessions.getSession sid)
      ((handleExecStatus status b env envelope).bus.sessions.getSession sid) := by
  unfold handleExecStatus
  split
  · exact rel_of_eq rfl
  · rename_i target found hprovider
    have hbus := forward_bus (if (JsonObj.get envelope.payload "exec_id").truthy then
      b.updateExecution env target (JsonObj.get envelope.payload "exec_id") status none none else b)
      found envelope.toMessage
    exact rel_of_execution hprovider
      ((congrArg Bus.sessions hbus).trans (apply_ite Bus.sessions _ _ _))

theorem handleExecResult_session :
    Option.Rel (MessageEffect b env.now connId envelope sid) (b.sessions.getSession sid)
      ((b.handleExecResult env websocket envelope).bus.sessions.getSession sid) := by
  unfold handleExecResult
  split
  · exact rel_of_eq rfl
  · rename_i target found hcheck
    have hprovider := checkProvider_ok hcheck
    dsimp only
    split
    · exact rel_of_execution hprovider (apply_ite Bus.sessions _ _ _)
    · split
      · exact rel_of_eq rfl
      · split
        · exact rel_of_execution hprovider (apply_ite Bus.sessions _ _ _)
        · split
          · exact rel_of_execution hprovider (apply_ite Bus.sessions _ _ _)
          · exact rel_of_execution hprovider (apply_ite Bus.sessions _ _ _)

theorem handleStreamEnd_session :
    Option.Rel (MessageEffect b env.now connId envelope sid) (b.sessions.getSession sid)
      ((b.handleStreamEnd env envelope).bus.sessions.getSession sid) := by
  unfold handleStreamEnd
  split
  · exact rel_of_eq rfl
  · rename_i target found hprovider
    dsimp only
    split
    · exact rel_of_eq rfl
    · exact rel_of_execution hprovider
        ((sendToRequesterQueued_sessions _ _ _).trans (apply_ite Bus.sessions _ _ _))

/-- What the handling of a message does to a session. -/
theorem handleMessage_session :
    Option.Rel (MessageEffect b env.now connId envelope sid) (b.sessions.getSession sid)
      ((b.handleMessage env websocket connId envelope).bus.sessions.getSession sid) := by
  unfold handleMessage
  split
  · exact rel_of_eq handleHeartbeat_sessions
  · exact rel_of_eq rfl
  · exact rel_of_eq handleIntentBroadcast_sessions
  · rename_i htype
    exact handleIntentOffer_session htype
  · rename_i htype
    exact handleIntentAgree_session htype
  · rename_i htype
    exact handleSessionClose_session htype
  · exact rel_of_eq handleExecRequest_sessions
  · exact handleExecStatus_session
  · exact handleExecStatus_session
  · exact handleExecResult_session
  · exact handleExecStatus_session
  · exact rel_of_eq handleExecPartialFailure_sessions
  · exact rel_of_eq handleStreamStart_sessions
  · exact rel_of_eq handleStreamChunk_sessions
  · exact handleStreamEnd_session
  · exact rel_of_eq handleTraceGet_sessions
  · exact rel_of_eq handleEventSubscribe_sessions
  · exact rel_of_eq handleEventUnsubscribe_sessions
  · exact rel_of_eq handleEmitEvent_sessions
  · exact rel_of_eq rfl

theorem handleRegister_sessions :
    (b.handleRegister env websocket envelope).1.bus.sessions = b.sessions := by
  unfold handleRegister
  dsimp only
  split
  · rfl
  · rfl

theorem deliverNext_sessions {task : FlowTask} {flow : AgentFlow} {node : AgentNode}
    {todo : List AgentNode} :
    (b.deliverNext env task sid flow node todo).bus.sessions = b.sessions := by
  unfold deliverNext
  split
  · rfl
  · rfl

end Bus

/-- What an action does to the session with the given id. -/
inductive Effect (now : Time) (s : Server) (a : Action) (sid : UUID) (session : Session) :
    Session → Prop
  /-- Nothing. -/
  | same : Effect now s a sid session session
  /-- A connection that handles no broadcast sends a message. -/
  | message {connId : String} {conn : Connection} {envelope : MessageEnvelope}
      {session' : Session} : a = .message connId envelope → s.connections.get? connId = some conn →
      MessageEffect s.bus now connId envelope sid session session' →
      Effect now s a sid session session'
  /-- A broadcast stores its flow, with a fresh offer id. -/
  | flowInfo {connId offerId : String} {conn : Connection} {task : FlowTask} {flow : AgentFlow}
      {polls : Nat} {wake : Time} : a = .poll connId → s.taskOf connId = some (conn, task) →
      task.stage = .collecting sid flow polls wake →
      Effect now s a sid session { session with
        aggregatedOfferId := some offerId
        flowAgents := flow.agents.map AgentNode.agentId
        flowEntryPoint := some flow.entryPoint }
  /-- The lifetime of the session is over. -/
  | expire : a = .sessionTick → SessionManager.lapsed session now = true →
      Effect now s a sid session (session.expire now)

/-- The session that an action creates: the language model answered a broadcast. -/
def Creates (now : Time) (s : Server) (a : Action) (id : UUID) (session : Session) : Prop :=
  ∃ connId conn task answer flow, a = .answer connId answer ∧
    s.taskOf connId = some (conn, task) ∧ discoverFlow answer = some flow ∧
    session = (s.bus.sessions.createSession now id task.envelope.tenantId task.envelope.senderId
      task.connId task.envelope.messageId task.envelope.payload
      (flow.agents.map AgentNode.agentId) (some flow.entryPoint)).2

structure SessionStep (now : Time) (s : Server) (a : Action) (m : SessionManager) : Prop where
  kept : ∀ sid session, s.bus.sessions.getSession sid = some session →
    ∃ session', m.getSession sid = some session' ∧ Effect now s a sid session session'
  created : ∀ sid session', s.bus.sessions.getSession sid = none →
    m.getSession sid = some session' → Creates now s a sid session'

namespace SessionStep

variable {now : Time} {s : Server} {a : Action} {m : SessionManager}

/-- An action without new sessions. -/
theorem of_rel (h : ∀ sid, Option.Rel (Effect now s a sid) (s.bus.sessions.getSession sid)
    (m.getSession sid)) : SessionStep now s a m where
  kept sid session hget := by
    have hrel := h sid
    rw [hget] at hrel
    cases hafter : m.getSession sid with
    | none =>
        rw [hafter] at hrel
        cases hrel
    | some session' =>
        rw [hafter] at hrel
        cases hrel with
        | some heffect => exact ⟨session', rfl, heffect⟩
  created sid session' hget hafter := by
    have hrel := h sid
    rw [hget, hafter] at hrel
    cases hrel

theorem of_eq (h : m = s.bus.sessions) : SessionStep now s a m := by
  refine of_rel fun sid ↦ ?_
  rw [h]
  cases s.bus.sessions.getSession sid with
  | none => exact .none
  | some session => exact .some .same

end SessionStep

namespace Server

variable {s : Server} {env : Env} {a : Action} {connId : String} {conn : Connection}
  {o : Outcome} {fired : Fired}

theorem resume_sessions : (s.resume connId conn o).server.bus.sessions = o.bus.sessions := by
  unfold resume
  split
  · rfl
  · rfl

/-- The work of a message loop, on the sessions. -/
theorem Handles.session (hfresh : ∀ n, s.bus.sessions.getSession (env.uuid n) = none)
    (h : s.Handles env a connId conn o) : SessionStep env.now s a o.bus.sessions := by
  cases h with
  | message envelope hget htask =>
      refine .of_rel fun sid ↦ ?_
      have hrel : Option.Rel (MessageEffect s.bus env.now connId envelope sid)
          (s.bus.sessions.getSession sid)
          ((s.bus.handleMessage env conn.websocket connId envelope).bus.sessions.getSession sid) :=
        Bus.handleMessage_session
      exact rel_imp (fun _ _ heffect ↦ .message rfl hget heffect) hrel
  | answer answer htask hstage =>
      unfold Bus.startFlow
      split
      · exact .of_eq rfl
      · rename_i flow hflow
        dsimp only
        constructor
        · intro sid session hget
          refine ⟨session, ?_, .same⟩
          rw [SessionManager.getSession_create, if_neg, hget]
          rintro rfl
          rw [hfresh 0] at hget
          cases hget
        · intro sid session' hget hafter
          rw [SessionManager.getSession_create] at hafter
          split at hafter
          · rename_i hid
            subst hid
            obtain rfl := Option.some.inj hafter
            exact ⟨_, _, _, _, flow, rfl, htask, hflow, rfl⟩
          · rw [hget] at hafter
            cases hafter
  | deliver htask hstage => exact .of_eq Bus.deliverNext_sessions
  | poll htask hstage hwake =>
      rename_i task sessionId flow polls wake
      have hfinish : ∀ offers, SessionStep env.now s (.poll connId)
          (s.bus.finishFlow env task sessionId flow offers).bus.sessions := by
        intro offers
        unfold Bus.finishFlow
        split_ifs
        · exact .of_eq rfl
        · refine .of_rel fun sid ↦ ?_
          refine SessionManager.rel_update (R := Effect env.now s (.poll connId))
            (fun _ _ ↦ .same) (fun session _ ↦ ?_) sid
          exact .flowInfo rfl htask hstage
      unfold Bus.pollOffers
      dsimp only
      split
      · exact hfinish _
      · split_ifs
        · exact hfinish []
        · exact .of_eq rfl

/-- What an action does to the sessions of the bus. -/
theorem fire_session (hfresh : ∀ n, s.bus.sessions.getSession (env.uuid n) = none)
    (h : s.fire env a = some fired) : SessionStep env.now s a fired.server.bus.sessions := by
  unfold fire at h
  split at h
  · refine .of_eq ?_
    unfold connect at h
    split_ifs at h
    · obtain rfl := Option.some.inj h
      rfl
    · obtain rfl := Option.some.inj h
      exact Bus.handleRegister_sessions
  · refine .of_eq ?_
    unfold disconnect at h
    obtain ⟨found, _, h⟩ := Option.bind_eq_some_iff.mp h
    split_ifs at h
    obtain rfl := Option.some.inj h
    rfl
  · obtain rfl := Option.some.inj h
    refine .of_rel fun sid ↦ ?_
    rw [SessionManager.getSession_cleanup]
    cases s.bus.sessions.getSession sid with
    | none => exact .none
    | some session =>
        refine .some ?_
        dsimp only
        split_ifs with hlapsed
        · exact .expire rfl hlapsed.2
        · exact .same
  · obtain rfl := Option.some.inj h
    exact .of_eq rfl
  · refine .of_eq ?_
    obtain ⟨q, _, rfl⟩ := Option.map_eq_some_iff.mp h
    rfl
  · refine .of_eq ?_
    unfold deliverEvent at h
    obtain ⟨task, _, h⟩ := Option.bind_eq_some_iff.mp h
    obtain ⟨sub, _, h⟩ := Option.bind_eq_some_iff.mp h
    split at h
    · obtain rfl := Option.some.inj h
      rfl
    · cases h
  · obtain ⟨⟨connId, conn, o⟩, houtcome, rfl⟩ := Option.map_eq_some_iff.mp h
    rw [resume_sessions]
    exact (handles_of_outcome houtcome).session hfresh

/-- What a step does to the sessions of the bus. -/
theorem Steps.sessionStep {now : Time} {ids : Nat → UUID} {s' : Server}
    (h : Steps now s (ids, a) s') : SessionStep now s a s'.bus.sessions := by
  obtain ⟨hfresh, fired, hfire, rfl⟩ := h
  exact @fire_session s ⟨now, ids⟩ a fired hfresh hfire

/-! ## Properties of all sessions -/

/-- Every session of the bus has a property. -/
def AllSessions (P : Session → Prop) (s : Server) : Prop :=
  ∀ sid session, s.bus.sessions.getSession sid = some session → P session

/-- A property that new sessions have and no action takes away. -/
structure Stable (P : Session → Prop) : Prop where
  created : ∀ {now s a sid session}, Creates now s a sid session → P session
  kept : ∀ {now s a sid session session'}, Effect now s a sid session session' → P session →
    P session'

variable {P : Session → Prop}

theorem AllSessions.start (library : Library) (settings : Settings) :
    (start library settings).AllSessions P := by
  intro sid session hget
  cases hget

theorem AllSessions.step {s' : Server} {now : Time} {ids : Nat → UUID} (hall : s.AllSessions P)
    (hP : Stable P) (h : Steps now s (ids, a) s') : s'.AllSessions P := by
  intro sid session' hget'
  cases hget : s.bus.sessions.getSession sid with
  | none => exact hP.created (h.sessionStep.created sid session' hget hget')
  | some session =>
      obtain ⟨after, hafter, heffect⟩ := h.sessionStep.kept sid session hget
      obtain rfl := Option.some.inj (hafter.symm.trans hget')
      exact hP.kept heffect (hall sid session hget)

/-- A stable property holds of every session in every run. -/
theorem AllSessions.run {x y : Time × Server} {as : List Label} (hx : x.2.AllSessions P)
    (hP : Stable P) (h : Run (Step.Timed Steps) x as y) : y.2.AllSessions P := by
  refine Run.invariant (P := fun x ↦ x.2.AllSessions P) ?_ h hx
  intro x l y hx hstep
  exact hx.step hP hstep.2.2

end Server

end SemanticBus
