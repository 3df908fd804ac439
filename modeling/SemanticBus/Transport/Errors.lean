import SemanticBus.Transport.Changes

/-!
# Which messages end their connection

An exception that escapes a handler ends the message loop of the connection and
unregisters its agent.  `Returns` is the exact condition under which none does:
the payload fields that a handler uses have the types it expects, the queue of a
stream has room, nobody executes a flow or emits an event in a session, and the
language model names agents by UUIDs (`error_none_iff`).
-/

namespace SemanticBus

/-- What an `exec_id` field of a trace event takes. -/
def TraceEvent.Takes (execId : Json) : Prop := execId = .null ∨ execId.str?.isSome = true

theorem TraceEvent.execIdOf_ok_iff {execId : Json} :
    (∃ id, TraceEvent.execIdOf execId = .ok id) ↔ TraceEvent.Takes execId := by
  unfold TraceEvent.execIdOf TraceEvent.Takes
  cases execId with
  | null => simp
  | str s => simp [Json.str?]
  | _ => simp [Json.str?]

/-- What is given, if it is not missing, must be a string. -/
theorem TraceEvent.takes_orElse_iff {execId : Json} :
    TraceEvent.Takes (execId.orElse (.str "")) ↔
      (execId.truthy = true → execId.str?.isSome = true) := by
  unfold Json.orElse
  split
  · rename_i htruthy
    constructor
    · rintro (rfl | hstr) _
      · cases htruthy
      · exact hstr
    · intro hstr
      exact .inr (hstr htruthy)
  · rename_i hfalsy
    exact iff_of_true (.inr rfl) fun htruthy ↦ absurd htruthy hfalsy

/-- A lookup of a schema fails exactly when the agent has schemas and the
capability is no possible key. -/
theorem ViewRegistry.validate_ok_iff {views : ViewRegistry} {agentId : UUID}
    {capability payload : Json} :
    (∃ valid, views.validate agentId capability payload = .ok valid) ↔
      ∀ schemas, views.schemasByAgent.get? agentId = some schemas → schemas.keys ≠ [] →
        capability.hashable = true := by
  unfold ViewRegistry.validate ViewRegistry.getSchema
  cases views.schemasByAgent.get? agentId with
  | none => simp
  | some schemas =>
      dsimp only
      by_cases hkeys : schemas.keys = []
      · simp [hkeys]
      · cases hhash : capability.hashable with
        | false => simp [hkeys]
        | true =>
            simp only [hkeys, if_false, if_true]
            cases capability.str?.bind schemas.get? with
            | none => simp
            | some schemaDef => simp

namespace Bus

variable {b : Bus} {env : Env} {websocket : Nat} {connId : String} {envelope : MessageEnvelope}
  {session : Session}

/-! ## The conditions -/

/-- An offer to a session that takes offers validates. -/
def OfferBuilds (b : Bus) (env : Env) (envelope : MessageEnvelope) : Prop :=
  ∀ sid, envelope.ephemeralInterfaceId = some sid →
    ∀ session, b.sessions.getSession sid = some session →
      SessionManager.takesOffers session env.now = true → b.offerWellFormed envelope = true

/-- The message names no active session of its sender. -/
def ExecutesNothing (b : Bus) (env : Env) (envelope : MessageEnvelope) : Prop :=
  ∀ sid, envelope.ephemeralInterfaceId = some sid →
    ∀ session, b.sessions.getSession sid = some session → session.status = .active →
      session.isExpired env.now = false → envelope.senderId ≠ session.requesterAgentId

/-- A result can be validated: a capability that is looked up in the schemas of the
provider is a possible key. -/
def ResultChecks (b : Bus) (session : Session) (envelope : MessageEnvelope) : Prop :=
  let capability := session.intent.getD "capability" (.str "unknown")
  capability.truthy = true → (JsonObj.get envelope.payload "result").truthy = true →
    ∀ schemas, b.registry.views.schemasByAgent.get? envelope.senderId = some schemas →
      schemas.keys ≠ [] → capability.hashable = true

/-- The requester of a session is not connected, or its outbound queue has room. -/
def HasRoom (b : Bus) (session : Session) : Prop :=
  b.registry.getWebsocket session.requesterConnId ≠ none →
    ∀ q, b.queues.queues.get? session.requesterConnId = some q → q.isFull = false

/-- Something holds of the session that a message of its provider runs in. -/
def InProviderSession (b : Bus) (env : Env) (envelope : MessageEnvelope) (P : Session → Prop) :
    Prop :=
  ∀ sid session, b.providerSession env envelope = some (sid, session) → P session

/-- The tail of a trace request is a number that bounds a slice, and without a
session an execution id is a possible key. -/
def TraceReads (envelope : MessageEnvelope) : Prop :=
  (tailOf (JsonObj.getD envelope.payload "tail" (.int 100))).isSome = true ∧
    (envelope.ephemeralInterfaceId = none →
      (JsonObj.get envelope.payload "exec_id").truthy = true →
        (JsonObj.get envelope.payload "exec_id").hashable = true)

/-- The session id of a subscription is a text, and where it names a session of the
envelope's tenant, the filter of the subscription can be built. -/
def SubscriptionBuilds (b : Bus) (envelope : MessageEnvelope) : Prop :=
  (JsonObj.get envelope.payload "session_id").truthy = true →
    ∃ text, JsonObj.get envelope.payload "session_id" = .str text ∧
      ∀ sid, UUID.parse text = some sid → ∀ session, b.sessions.getSession sid = some session →
        session.tenantId = envelope.tenantId →
          checkFilter (JsonObj.get envelope.payload "exec_id")
            (JsonObj.get envelope.payload "event_types") = none

/-- A subscription id, where there is one, is a possible key. -/
def UnsubscriptionReads (envelope : MessageEnvelope) : Prop :=
  (JsonObj.get envelope.payload "subscription_id").truthy = true →
    (JsonObj.get envelope.payload "subscription_id").hashable = true

/-- The message names no session. -/
def EmitsNothing (b : Bus) (envelope : MessageEnvelope) : Prop :=
  ∀ sid, envelope.ephemeralInterfaceId = some sid → b.sessions.getSession sid = none

def Returns (b : Bus) (env : Env) (envelope : MessageEnvelope) : Prop :=
  let execId := JsonObj.get envelope.payload "exec_id"
  let streamId := JsonObj.getD envelope.payload "exec_id" (.str "")
  match envelope.messageType with
  | .intentOffer => b.OfferBuilds env envelope
  | .execRequest => b.ExecutesNothing env envelope
  | .execResult => b.InProviderSession env envelope fun session ↦
      b.ResultChecks session envelope ∧ (execId.truthy = true → execId.str?.isSome = true)
  | .execStreamStart | .execStreamEnd => b.InProviderSession env envelope fun session ↦
      TraceEvent.Takes streamId ∧ b.HasRoom session
  | .execStreamChunk => b.InProviderSession env envelope fun _ ↦ TraceEvent.Takes streamId
  | .traceGet => TraceReads envelope
  | .eventSubscribe => b.SubscriptionBuilds envelope
  | .eventUnsubscribe => UnsubscriptionReads envelope
  | .emitEvent => b.EmitsNothing envelope
  | _ => True

/-! ## Handlers that always return -/

theorem handleHeartbeat_error :
    (b.handleHeartbeat env websocket connId envelope).error = none := by
  unfold handleHeartbeat
  dsimp only
  split
  · rfl
  · rfl

theorem handleIntentBroadcast_error :
    (b.handleIntentBroadcast websocket connId envelope).error = none := by
  unfold handleIntentBroadcast
  split
  · rfl
  · rfl

theorem handleIntentAgree_error : (b.handleIntentAgree env websocket envelope).error = none := by
  unfold handleIntentAgree
  dsimp only
  repeat' split
  all_goals rfl

theorem handleSessionClose_error :
    (b.handleSessionClose env websocket connId envelope).error = none := by
  unfold handleSessionClose
  dsimp only
  repeat' split
  all_goals rfl

theorem handleExecStatus_error {status : ExecutionStatus} :
    (handleExecStatus status b env envelope).error = none := by
  unfold handleExecStatus forward
  dsimp only
  repeat' split
  all_goals rfl

theorem handleExecPartialFailure_error :
    (b.handleExecPartialFailure env websocket envelope).error = none := by
  unfold handleExecPartialFailure
  repeat' split
  all_goals rfl

/-! ## Handlers that may raise -/

theorem handleIntentOffer_error :
    (b.handleIntentOffer env websocket connId envelope).error = none ↔
      b.OfferBuilds env envelope := by
  unfold handleIntentOffer OfferBuilds
  cases hsid : envelope.ephemeralInterfaceId with
  | none => simp [sendError, reply]
  | some target =>
      dsimp only
      cases hget : b.sessions.getSession target with
      | none => simp [sendError, reply, hget]
      | some session =>
          simp only [Option.some.injEq, forall_eq', hget, SessionManager.addOffer]
          cases htakes : SessionManager.takesOffers session env.now with
          | false => simp [sendError, reply]
          | true =>
              simp only [if_true, forall_const]
              split
              · rename_i heq
                split at heq
                · rename_i hbuilt
                  refine iff_of_false (by simp [raise]) ?_
                  rw [offerWellFormed, Offer.wellFormed_of_error hbuilt]
                  exact Bool.false_ne_true
                · cases heq
              · rename_i heq
                split at heq <;> cases heq
              · rename_i heq
                split at heq
                · cases heq
                · rename_i hbuilt
                  exact iff_of_true rfl (Offer.wellFormed_of_ok hbuilt)

theorem handleExecRequest_error :
    (b.handleExecRequest env websocket envelope).error = none ↔
      b.ExecutesNothing env envelope := by
  unfold handleExecRequest ExecutesNothing
  cases envelope.ephemeralInterfaceId with
  | none => simp [sendError, reply]
  | some target =>
      dsimp only
      cases hvalid : b.sessions.validateSessionForExec env.now target envelope.senderId with
      | error reason =>
          refine iff_of_true rfl ?_
          rintro sid ⟨⟩ session hget hactive hlive hrequester
          rw [SessionManager.validate_eq_ok hget hactive hlive (.inl hrequester)] at hvalid
          cases hvalid
      | ok session =>
          obtain ⟨hget, hactive, hlive, _⟩ := SessionManager.validate_ok hvalid
          dsimp only
          split
          · rename_i hne
            refine iff_of_true rfl ?_
            rintro sid ⟨⟩ session' hget' _ _
            obtain rfl := Option.some.inj (hget.symm.trans hget')
            exact hne
          · rename_i heq
            refine iff_of_false (by simp [raise]) fun hnothing ↦ ?_
            exact hnothing target rfl session hget hactive hlive (not_not.mp heq)

theorem inProviderSession_none {P : Session → Prop} (h : b.providerSession env envelope = none) :
    b.InProviderSession env envelope P := by
  intro sid session hprovider
  rw [h] at hprovider
  cases hprovider

theorem inProviderSession_some {P : Session → Prop} {sid : UUID}
    (h : b.providerSession env envelope = some (sid, session)) :
    b.InProviderSession env envelope P ↔ P session := by
  constructor
  · intro hall
    exact hall sid session h
  · rintro hP sid' session' hprovider
    obtain ⟨rfl, rfl⟩ := Prod.mk.inj (Option.some.inj (h.symm.trans hprovider))
    exact hP

theorem viewValid_ok_iff :
    (∃ valid, b.viewValid session envelope.senderId envelope.payload = .ok valid) ↔
      b.ResultChecks session envelope := by
  unfold viewValid ResultChecks
  dsimp only
  split
  · rename_i hlooks
    rw [Bool.and_eq_true] at hlooks
    rw [ViewRegistry.validate_ok_iff]
    constructor
    · intro h _ _
      exact h
    · intro h
      exact h hlooks.1 hlooks.2
  · rename_i hlooks
    refine iff_of_true ⟨true, rfl⟩ fun hcapability hresult ↦ ?_
    exact absurd (Bool.and_eq_true_iff.mpr ⟨hcapability, hresult⟩) hlooks

/-- A result is taken or answered with an error message when its values have the
types that the validation and the trace expect. -/
theorem handleExecResult_error
    (hagreed : ∀ sid session, b.sessions.getSession sid = some session →
      session.chosenSchemaId = none) :
    (b.handleExecResult env websocket envelope).error = none ↔
      b.InProviderSession env envelope fun session ↦ b.ResultChecks session envelope ∧
        ((JsonObj.get envelope.payload "exec_id").truthy = true →
          (JsonObj.get envelope.payload "exec_id").str?.isSome = true) := by
  unfold handleExecResult
  have hprovider := checkProvider_toOption b env envelope "exec.result"
  cases hcheck : b.checkProvider env envelope "exec.result" with
  | error e =>
      rw [hcheck] at hprovider
      exact iff_of_true rfl (inProviderSession_none hprovider.symm)
  | ok p =>
      obtain ⟨sid, session⟩ := p
      rw [hcheck] at hprovider
      obtain ⟨_, hvalid, _⟩ := providerSession_some hprovider.symm
      have hschema : schemaMismatch session envelope.schemaId = none := by
        rw [schemaMismatch, hagreed sid session (SessionManager.validate_ok hvalid).1]
        rfl
      rw [inProviderSession_some hprovider.symm, ← viewValid_ok_iff]
      dsimp only
      rw [hschema]
      dsimp only
      cases b.viewValid session envelope.senderId envelope.payload with
      | error e => exact iff_of_false (by simp [raise]) (by simp)
      | ok valid =>
          have hid : (∃ id, TraceEvent.execIdOf
              ((JsonObj.get envelope.payload "exec_id").orElse (.str "")) = .ok id) ↔
              ((JsonObj.get envelope.payload "exec_id").truthy = true →
                (JsonObj.get envelope.payload "exec_id").str?.isSome = true) := by
            rw [TraceEvent.execIdOf_ok_iff, TraceEvent.takes_orElse_iff]
          rw [← hid]
          dsimp only
          cases TraceEvent.execIdOf
              ((JsonObj.get envelope.payload "exec_id").orElse (.str "")) with
          | error e => exact iff_of_false (by simp [raise]) (by simp)
          | ok id =>
              refine iff_of_true ?_ ⟨⟨valid, rfl⟩, id, rfl⟩
              dsimp only
              split
              · rfl
              · rfl

/-- Putting a message on the queue of a requester fails only for lack of room. -/
theorem sendToRequesterQueued_error (hopen : b.queues.Open) (session : Session)
    (message : Message) :
    b.HasRoom session ∧ (b.sendToRequesterQueued session message).2 = none ∨
      ¬ b.HasRoom session ∧
        (b.sendToRequesterQueued session message).2 = some .queueFullError := by
  unfold sendToRequesterQueued HasRoom
  cases b.registry.getWebsocket session.requesterConnId with
  | none => exact .inl ⟨fun h ↦ absurd rfl h, rfl⟩
  | some socket =>
      dsimp only
      rw [ConnectionQueueManager.putNowait_eq (hopen.getOrCreate _ socket).2]
      unfold ConnectionQueueManager.getOrCreate
      cases hq : b.queues.queues.get? session.requesterConnId with
      | some q =>
          dsimp only
          cases hfull : q.isFull with
          | false => exact .inl ⟨by simp [hfull], rfl⟩
          | true => exact .inr ⟨by simp [hfull], rfl⟩
      | none =>
          -- a new queue has room
          refine .inl ⟨by simp, ?_⟩
          rw [if_neg (by simp [ConnectionQueue.isFull])]

theorem queued_error_iff {b' : Bus} (hopen : b.queues.Open) (hqueues : b'.queues = b.queues)
    (hregistry : b'.registry = b.registry) {message : Message} :
    (b'.sendToRequesterQueued session message).2 = none ↔ b.HasRoom session := by
  have hroom : b'.HasRoom session ↔ b.HasRoom session := by
    rw [HasRoom, HasRoom, hqueues, hregistry]
  rw [← hroom]
  rw [← hqueues] at hopen
  rcases sendToRequesterQueued_error hopen session message with ⟨h, hnone⟩ | ⟨h, hfull⟩
  · exact iff_of_true hnone h
  · rw [hfull]
    exact iff_of_false (Option.some_ne_none _) h

/-- The handlers of a stream differ in how they pass a message on. -/
theorem stream_error_iff {passOn : UUID → Session → Option String → Outcome} {P : Session → Prop}
    (hpassOn : ∀ sid session id, (passOn sid session id).error = none ↔ P session) :
    (match b.providerSession env envelope with
      | none => b.done
      | some (sid, session) =>
          match TraceEvent.execIdOf (JsonObj.getD envelope.payload "exec_id" (.str "")) with
          | .error e => b.raise e
          | .ok id => passOn sid session id).error = none ↔
      b.InProviderSession env envelope fun session ↦
        TraceEvent.Takes (JsonObj.getD envelope.payload "exec_id" (.str "")) ∧ P session := by
  cases hprovider : b.providerSession env envelope with
  | none => exact iff_of_true rfl (inProviderSession_none hprovider)
  | some p =>
      obtain ⟨sid, session⟩ := p
      rw [inProviderSession_some hprovider, ← TraceEvent.execIdOf_ok_iff]
      dsimp only
      cases TraceEvent.execIdOf (JsonObj.getD envelope.payload "exec_id" (.str "")) with
      | error e => exact iff_of_false (by simp [raise]) (by simp)
      | ok id =>
          rw [and_iff_right ⟨id, rfl⟩]
          exact hpassOn sid session id

theorem handleStreamStart_error (hopen : b.queues.Open) :
    (b.handleStreamStart env envelope).error = none ↔
      b.InProviderSession env envelope fun session ↦
        TraceEvent.Takes (JsonObj.getD envelope.payload "exec_id" (.str "")) ∧
          b.HasRoom session := by
  refine stream_error_iff fun sid session id ↦ queued_error_iff hopen ?_ ?_
  · rfl
  · rfl

theorem handleStreamEnd_error (hopen : b.queues.Open) :
    (b.handleStreamEnd env envelope).error = none ↔
      b.InProviderSession env envelope fun session ↦
        TraceEvent.Takes (JsonObj.getD envelope.payload "exec_id" (.str "")) ∧
          b.HasRoom session := by
  refine stream_error_iff fun sid session id ↦ queued_error_iff hopen ?_ ?_
  · split
    · rfl
    · rfl
  · split
    · rfl
    · rfl

/-- A chunk that finds the queue full ends the stream with a message to both sides. -/
theorem handleStreamChunk_error (hopen : b.queues.Open) :
    (b.handleStreamChunk env websocket envelope).error = none ↔
      b.InProviderSession env envelope fun _ ↦
        TraceEvent.Takes (JsonObj.getD envelope.payload "exec_id" (.str "")) := by
  have hiff : (b.handleStreamChunk env websocket envelope).error = none ↔
      b.InProviderSession env envelope fun _ ↦
        TraceEvent.Takes (JsonObj.getD envelope.payload "exec_id" (.str "")) ∧ True := by
    refine stream_error_iff fun sid session id ↦ iff_of_true ?_ trivial
    dsimp only
    split
    · rfl
    · rfl
    · rename_i after e hne heq
      have herror := congrArg Prod.snd heq
      rcases sendToRequesterQueued_error (b := b.record _) hopen session envelope.toMessage
        with ⟨_, hnone⟩ | ⟨_, hfull⟩
      · cases hnone.symm.trans herror
      · obtain rfl := Option.some.inj (hfull.symm.trans herror)
        exact absurd rfl hne
  simpa only [and_true] using hiff

/-! ## Handlers that read the payload -/

theorem handleTraceGet_error :
    (b.handleTraceGet websocket envelope).error = none ↔ TraceReads envelope := by
  unfold handleTraceGet TraceReads
  dsimp only
  cases htail : tailOf (JsonObj.getD envelope.payload "tail" (.int 100)) with
  | none => exact iff_of_false (by simp [raise]) (by simp)
  | some tail =>
      rw [Option.isSome_some, and_iff_right rfl]
      dsimp only
      unfold traceQuery
      cases envelope.ephemeralInterfaceId with
      | some sid => exact iff_of_true rfl (by simp)
      | none =>
          dsimp only
          cases htruthy : (JsonObj.get envelope.payload "exec_id").truthy with
          | false => exact iff_of_true rfl (by simp)
          | true =>
              cases hhash : (JsonObj.get envelope.payload "exec_id").hashable with
              | true => exact iff_of_true rfl (by simp)
              | false => exact iff_of_false (by simp [raise]) (by simp)

theorem handleEventSubscribe_error :
    (b.handleEventSubscribe websocket connId envelope).error = none ↔
      b.SubscriptionBuilds envelope := by
  unfold handleEventSubscribe SubscriptionBuilds
  dsimp only
  cases htruthy : (JsonObj.get envelope.payload "session_id").truthy with
  | false => exact iff_of_true rfl (by simp)
  | true =>
      simp only [Bool.not_true, Bool.false_eq_true, if_false, forall_const]
      cases JsonObj.get envelope.payload "session_id" with
      | str text =>
          simp only [Json.str.injEq, exists_eq_left']
          cases UUID.parse text with
          | none => exact iff_of_true rfl (by simp)
          | some sid =>
              simp only [Option.some.injEq, forall_eq']
              cases b.sessions.getSession sid with
              | none => exact iff_of_true rfl (by simp)
              | some session =>
                  simp only [Option.some.injEq, forall_eq']
                  split
                  · rename_i htenant
                    exact iff_of_true rfl fun h ↦ absurd h htenant
                  · rename_i htenant
                    rw [not_not] at htenant
                    simp only [htenant, forall_const]
                    cases checkFilter (JsonObj.get envelope.payload "exec_id")
                        (JsonObj.get envelope.payload "event_types") with
                    | some e => exact iff_of_false (by simp [raise]) (by simp)
                    | none =>
                        refine iff_of_true ?_ rfl
                        dsimp only
                        split
                        · rfl
                        · rfl
      | _ => exact iff_of_false (by simp [raise]) (by simp)

theorem handleEventUnsubscribe_error :
    (b.handleEventUnsubscribe connId envelope).error = none ↔ UnsubscriptionReads envelope := by
  unfold handleEventUnsubscribe UnsubscriptionReads
  dsimp only
  cases htruthy : (JsonObj.get envelope.payload "subscription_id").truthy with
  | false => exact iff_of_true rfl (by simp)
  | true =>
      simp only [if_true, forall_const]
      split
      · rename_i hstr
        rw [hstr]
        exact iff_of_true rfl rfl
      · split
        · rename_i hhash
          exact iff_of_true rfl hhash
        · rename_i hhash
          exact iff_of_false (by simp [raise]) hhash

theorem handleEmitEvent_error :
    (b.handleEmitEvent websocket envelope).error = none ↔ b.EmitsNothing envelope := by
  unfold handleEmitEvent EmitsNothing
  cases envelope.ephemeralInterfaceId with
  | none => exact iff_of_true rfl (by simp)
  | some sid =>
      dsimp only
      cases hget : b.sessions.getSession sid with
      | none => exact iff_of_true rfl (by simpa using hget)
      | some session => exact iff_of_false (by simp [raise]) (by simp [hget])

/-- The handling of a message returns exactly when the payload fits. -/
theorem handleMessage_error (hopen : b.queues.Open)
    (hagreed : ∀ sid session, b.sessions.getSession sid = some session →
      session.chosenSchemaId = none) :
    (b.handleMessage env websocket connId envelope).error = none ↔ b.Returns env envelope := by
  unfold handleMessage Returns
  cases envelope.messageType with
  | agentHeartbeat => exact iff_of_true handleHeartbeat_error trivial
  | agentList => exact iff_of_true rfl trivial
  | intentBroadcast => exact iff_of_true handleIntentBroadcast_error trivial
  | intentOffer => exact handleIntentOffer_error
  | intentAgree => exact iff_of_true handleIntentAgree_error trivial
  | sessionClose => exact iff_of_true handleSessionClose_error trivial
  | execRequest => exact handleExecRequest_error
  | execAccepted => exact iff_of_true handleExecStatus_error trivial
  | execProgress => exact iff_of_true handleExecStatus_error trivial
  | execResult => exact handleExecResult_error hagreed
  | execError => exact iff_of_true handleExecStatus_error trivial
  | execPartialFailure => exact iff_of_true handleExecPartialFailure_error trivial
  | execStreamStart => exact handleStreamStart_error hopen
  | execStreamChunk => exact handleStreamChunk_error hopen
  | execStreamEnd => exact handleStreamEnd_error hopen
  | traceGet => exact handleTraceGet_error
  | eventSubscribe => exact handleEventSubscribe_error
  | eventUnsubscribe => exact handleEventUnsubscribe_error
  | emitEvent => exact handleEmitEvent_error
  | _ => exact iff_of_true rfl trivial

end Bus

namespace Server

variable {s : Server} {env : Env} {a : Action} {fired : Fired}

/-- When an action lets its connection live: a message that fits, and a broadcast
whose next agent is named by a UUID. -/
def Returns (s : Server) (env : Env) : Action → Prop
  | .message _ envelope => s.bus.Returns env envelope
  | .deliver connId => ∀ conn task sid flow node todo, s.taskOf connId = some (conn, task) →
      task.stage = .delivering sid flow (node :: todo) → (UUID.parse node.agentId).isSome = true
  | _ => True

/-- No session has an agreed schema: the handler of `intent.agree` stores none. -/
theorem chosenSchemaId_stable : Stable (·.chosenSchemaId = none) where
  created := by
    rintro now s a sid session ⟨_, _, _, _, _, _, _, _, rfl⟩
    rfl
  kept := by
    intro now s a sid session session' heffect h
    cases heffect with
    | same => exact h
    | message _ _ heffect =>
        cases heffect with
        | same => exact h
        | offer _ _ _ _ _ _ => exact h
        | agree _ _ _ _ _ => exact h
        | close _ _ => exact h
        | execution _ _ =>
            unfold Session.updateExecutionStatus
            split
            · exact h
            · exact h
    | flowInfo _ _ _ => exact h
    | expire _ _ => exact h

/-- What escapes the work of a message loop. -/
theorem Handles.returns {connId : String} {conn : Connection} {o : Outcome}
    (hopen : s.bus.queues.Open) (hagreed : s.AllSessions (·.chosenSchemaId = none))
    (h : s.Handles env a connId conn o) : o.error = none ↔ s.Returns env a := by
  cases h with
  | message envelope _ _ => exact Bus.handleMessage_error hopen hagreed
  | answer answer _ _ =>
      refine iff_of_true ?_ trivial
      unfold Bus.startFlow
      split
      · rfl
      · rfl
  | deliver htask hstage =>
      rename_i task sid flow node todo
      unfold Bus.deliverNext Returns
      constructor
      · intro hnone conn' task' sid' flow' node' todo' htask' hstage'
        obtain ⟨rfl, rfl⟩ := Prod.mk.inj (Option.some.inj (htask.symm.trans htask'))
        obtain ⟨rfl, rfl, hnodes⟩ := FlowStage.delivering.inj (hstage.symm.trans hstage')
        obtain ⟨rfl, rfl⟩ := List.cons.inj hnodes
        cases hparse : UUID.parse node.agentId with
        | some agentId => rfl
        | none =>
            rw [hparse] at hnone
            cases hnone
      · intro hreturns
        obtain ⟨agentId, hparse⟩ := Option.isSome_iff_exists.mp
          (hreturns conn task sid flow node todo htask hstage)
        rw [hparse]
  | poll _ _ _ =>
      refine iff_of_true ?_ trivial
      unfold Bus.pollOffers Bus.finishFlow
      dsimp only
      repeat' split
      all_goals rfl

theorem error_resume (s : Server) (connId : String) (conn : Connection) (o : Outcome) :
    (s.resume connId conn o).error = o.error := by
  unfold resume
  cases o.error with
  | none => rfl
  | some e => rfl

/-- In every reachable state of the bus, whatever happens next: no exception escapes
a handler, which would end the connection and unregister its agent, if and only
if the message fits. -/
theorem error_none_iff {library : Library} {settings : Settings} {t₀ : Time} {x : Time × Server}
    {as : List Label} (hrun : Run (Step.Timed Steps) (t₀, start library settings) as x)
    (hfire : x.2.fire env a = some fired) : fired.error = none ↔ x.2.Returns env a := by
  have hsound := sound_run (sound_start library settings) hrun
  have hagreed := (AllSessions.start library settings).run chosenSchemaId_stable hrun
  unfold fire at hfire
  split at hfire
  · refine iff_of_true ?_ trivial
    unfold connect at hfire
    split_ifs at hfire
    · obtain rfl := Option.some.inj hfire
      rfl
    · obtain rfl := Option.some.inj hfire
      rfl
  · refine iff_of_true ?_ trivial
    obtain ⟨conn, _, hfire⟩ := Option.bind_eq_some_iff.mp hfire
    split_ifs at hfire
    obtain rfl := Option.some.inj hfire
    rfl
  · obtain rfl := Option.some.inj hfire
    exact iff_of_true rfl trivial
  · obtain rfl := Option.some.inj hfire
    exact iff_of_true rfl trivial
  · obtain ⟨q, _, rfl⟩ := Option.map_eq_some_iff.mp hfire
    exact iff_of_true rfl trivial
  · refine iff_of_true ?_ trivial
    obtain ⟨task, _, hfire⟩ := Option.bind_eq_some_iff.mp hfire
    obtain ⟨sub, _, hfire⟩ := Option.bind_eq_some_iff.mp hfire
    split at hfire
    · obtain rfl := Option.some.inj hfire
      rfl
    · cases hfire
  · obtain ⟨⟨connId, conn, o⟩, houtcome, rfl⟩ := Option.map_eq_some_iff.mp hfire
    rw [error_resume]
    exact (handles_of_outcome houtcome).returns hsound.queues hagreed

/-- The requester asks for the trace of its session. -/
theorem error_none_sample :
    let x := playState sampleStart sampleNegotiation
    let a : Action := .message requesterConn (sampleEnvelope .traceGet ⟨1⟩ "acme" (some ⟨100⟩) [])
    (x.2.fire ⟨300000, fun _ ↦ ⟨90⟩⟩ a).map Fired.error = some none := by
  intro x a
  have hrun : Run (Step.Timed Steps) sampleStart _ x := run_play (by decide +kernel)
  have hfires : (x.2.fire ⟨300000, fun _ ↦ ⟨90⟩⟩ a).isSome = true := by decide +kernel
  obtain ⟨fired, hfire⟩ := Option.isSome_iff_exists.mp hfires
  have hreturns : x.2.Returns ⟨300000, fun _ ↦ ⟨90⟩⟩ a := by
    refine ⟨rfl, fun hnone ↦ ?_⟩
    cases hnone
  rw [hfire, Option.map_some, (error_none_iff hrun hfire).mpr hreturns]

/-- The requester of an active session asks for the execution it agreed to: the
exception ends its connection and unregisters its agent. -/
theorem error_escapes :
    let x := playState sampleStart (sampleNegotiation ++ [sampleAgree 300000])
    let a : Action := .message requesterConn
      (sampleEnvelope .execRequest ⟨1⟩ "acme" (some ⟨100⟩) [])
    let fired := x.2.fire ⟨400000, fun _ ↦ ⟨90⟩⟩ a
    (∃ as, Run (Step.Timed Steps) sampleStart as x) ∧
      (x.2.connections.get? requesterConn).isSome = true ∧
      fired.map Fired.error = some (some .typeError) ∧
      (fired.map fun f ↦ (f.server.connections.get? requesterConn).isSome) = some false ∧
      (fired.map fun f ↦ (f.server.bus.registry.getAgentById ⟨1⟩).isSome) = some false := by
  intro x a fired
  have hrun : Run (Step.Timed Steps) sampleStart _ x := run_play (by decide +kernel)
  refine ⟨⟨_, hrun⟩, ?_, ?_, ?_, ?_⟩
  · decide +kernel
  · decide +kernel
  · decide +kernel
  · decide +kernel

end Server

end SemanticBus
