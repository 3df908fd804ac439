import SemanticBus.Transport.Authorization
import SemanticBus.Transport.Errors
import SemanticBus.Transport.Broadcasts

/-!
# What the bus sends

Every message that the bus sends bears its own id as the sender: what an agent sends is
passed on only if the agent claims to be the bus (`sends_own`).  An error goes to the sender
of the message that the bus handles, alone, and the message has changed nothing
(`error_refuses`); `Responds` says both of a handler.
-/

namespace SemanticBus

namespace MessageType

def isMade : MessageType → Bool
  | .agentRegistered | .agentHeartbeatAck | .agentListResult | .intentDeliver
  | .intentOfferReceived | .intentOffers | .sessionCreated | .sessionClose | .traceResult
  | .eventSubscribed | .error => true
  | _ => false

def isForwarded (type : MessageType) : Bool := type.isDirect || type.isStream

theorem ne_error_of_isForwarded {type : MessageType} (h : type.isForwarded = true) : type ≠ .error := by
  rintro rfl
  cases h

end MessageType

/-- A message that bears the id of the bus: one that it made, or a report that `Claims` it. -/
def Message.Own (Claims : Prop) (m : Message) : Prop :=
  m.senderId = busId ∧ (m.messageType.isMade = true ∨ m.messageType.isForwarded = true ∧ Claims)

theorem Message.Own.mono {Claims Claims' : Prop} {m : Message} (hclaims : Claims → Claims')
    (h : m.Own Claims) : m.Own Claims' :=
  ⟨h.1, h.2.imp_right (And.imp_right hclaims)⟩

/-- What a round of the writer sends was waiting to be written. -/
theorem ConnectionQueue.mem_waiting_of_write (q : ConnectionQueue) {sent : Bool}
    {e : Nat × Message} (he : e ∈ (q.write sent).2) : e.2 ∈ q.waiting := by
  unfold ConnectionQueue.write at he
  split at he
  · cases he
  · rename_i hwriting
    have hopen : q.writing = true := by
      cases hw : q.writing with
      | true => rfl
      | false => simp [hw] at hwriting
    split at he
    · cases he
    · cases he
    · rename_i message items hitems
      obtain rfl := List.mem_singleton.mp he
      rw [ConnectionQueue.waiting, hopen, if_pos rfl, hitems, List.reduceOption_cons_of_some]
      exact List.mem_cons_self

namespace Bus

/-- An error answers an envelope, and that is all; only a result is on record. -/
structure Refuses (b : Bus) (websocket : Nat) (envelope : MessageEnvelope) (o : Outcome)
    (e : Nat × Message) : Prop where
  websocket : e.1 = websocket
  correlationId : e.2.correlationId = some envelope.messageId
  sends : o.sends = [e]
  error : o.error = none
  task : o.task = none
  bus : o.bus = b ∨ envelope.messageType = .execResult ∧ ∃ event, o.bus = b.record event

structure Responds (Claims : Prop) (b : Bus) (websocket : Nat) (envelope : MessageEnvelope)
    (o : Outcome) : Prop where
  own : ∀ e ∈ o.sends, e.2.Own Claims
  refuses : ∀ e ∈ o.sends, e.2.messageType = .error → Refuses b websocket envelope o e

variable {Claims : Prop} {b b' : Bus} {env : Env} {websocket ws : Nat} {connId : String}
  {envelope : MessageEnvelope} {o : Outcome} {message : Message}

theorem Responds.silent (h : o.sends = []) : Responds Claims b websocket envelope o where
  own _ he := absurd (h ▸ he) List.not_mem_nil
  refuses _ he := absurd (h ▸ he) List.not_mem_nil

/-- A single message that is no error. -/
theorem Responds.single (h : o.sends = [(ws, message)])
    (hown : message.Own Claims) (hne : message.messageType ≠ .error) :
    Responds Claims b websocket envelope o where
  own e he := by
    obtain rfl := List.mem_singleton.mp (h ▸ he)
    exact hown
  refuses e he herror := by
    obtain rfl := List.mem_singleton.mp (h ▸ he)
    exact absurd herror hne

/-- A message that the bus makes. -/
theorem Responds.made (hsender : message.senderId = busId)
    (htype : message.messageType.isMade = true) (hne : message.messageType ≠ .error) :
    Responds Claims b websocket envelope (b'.reply ws message) :=
  .single rfl ⟨hsender, .inl htype⟩ hne

theorem Responds.mono {Claims' : Prop} (hclaims : Claims → Claims')
    (h : Responds Claims b websocket envelope o) : Responds Claims' b websocket envelope o where
  own e he := (h.own e he).mono hclaims
  refuses := h.refuses

/-- An error, when the bus is as it was but for the record of a result. -/
theorem Responds.refused (code text : String)
    (h : b' = b ∨ envelope.messageType = .execResult ∧ ∃ event, b' = b.record event) :
    Responds Claims b websocket envelope (b'.sendError websocket envelope code text) where
  own e he := by
    obtain rfl := List.mem_singleton.mp he
    exact ⟨rfl, .inl rfl⟩
  refuses e he _ := by
    obtain rfl := List.mem_singleton.mp he
    exact ⟨rfl, rfl, rfl, rfl, rfl, h⟩

theorem Responds.sendError (code text : String) :
    Responds Claims b websocket envelope (b.sendError websocket envelope code text) :=
  .refused code text (.inl rfl)

/-! ## Agents, negotiation, traces, events -/

theorem handleHeartbeat_replies :
    Responds Claims b websocket envelope (b.handleHeartbeat env websocket connId envelope) := by
  unfold handleHeartbeat AgentRegistry.heartbeat
  cases b.registry.agentsByConn.get? connId with
  | none => exact .sendError _ _
  | some agent => exact .made rfl rfl fun h ↦ by cases h

theorem handleIntentBroadcast_replies :
    Responds Claims b websocket envelope (b.handleIntentBroadcast websocket connId envelope) := by
  rw [handleIntentBroadcast]
  split
  · exact .sendError _ _
  · exact .silent rfl

theorem handleIntentOffer_replies :
    Responds Claims b websocket envelope (b.handleIntentOffer env websocket connId envelope) := by
  rw [handleIntentOffer]
  split
  · exact .sendError _ _
  · split
    · exact .sendError _ _
    · dsimp only
      split
      · exact .silent rfl
      · exact .sendError _ _
      · exact .made rfl rfl fun h ↦ by cases h

theorem handleIntentAgree_replies :
    Responds Claims b websocket envelope (b.handleIntentAgree env websocket envelope) := by
  rw [handleIntentAgree]
  dsimp only
  repeat' split
  all_goals first
    | exact .sendError _ _
    | exact .made rfl rfl fun h ↦ by cases h

theorem handleSessionClose_replies :
    Responds Claims b websocket envelope (b.handleSessionClose env websocket connId envelope) := by
  rw [handleSessionClose]
  dsimp only
  repeat' split
  all_goals first
    | exact .sendError _ _
    | exact .silent rfl
    | exact .made rfl rfl fun h ↦ by cases h

theorem handleExecRequest_replies :
    Responds Claims b websocket envelope (b.handleExecRequest env websocket envelope) := by
  rw [handleExecRequest]
  repeat' split
  all_goals first
    | exact .sendError _ _
    | exact .silent rfl

theorem handleTraceGet_replies :
    Responds Claims b websocket envelope (b.handleTraceGet websocket envelope) := by
  unfold handleTraceGet
  dsimp only
  repeat' split
  all_goals first
    | exact .silent rfl
    | exact .made rfl rfl fun h ↦ by cases h

theorem handleEventSubscribe_replies :
    Responds Claims b websocket envelope (b.handleEventSubscribe websocket connId envelope) := by
  unfold handleEventSubscribe
  dsimp only
  repeat' split
  all_goals first
    | exact .sendError _ _
    | exact .silent rfl
    | exact .made rfl rfl fun h ↦ by cases h

theorem handleEventUnsubscribe_replies :
    Responds Claims b websocket envelope (b.handleEventUnsubscribe connId envelope) := by
  unfold handleEventUnsubscribe
  dsimp only
  repeat' split
  all_goals exact .silent rfl

theorem handleEmitEvent_replies :
    Responds Claims b websocket envelope (b.handleEmitEvent websocket envelope) := by
  rw [handleEmitEvent]
  repeat' split
  all_goals first
    | exact .sendError _ _
    | exact .silent rfl

/-! ## Reports -/

/-- What holds of the sessions of a bus in every run: the bus itself is their provider, and
they have no execution and no schema. -/
def Managed (session : Session) : Prop :=
  (session.providerAgentId = none ∨ session.providerAgentId = some busId) ∧
    session.executions = [] ∧ session.chosenSchemaId = none

/-- Who passes the gate of the provider claims to be the bus. -/
theorem providerSession_own (hb : ∀ sid session, b.sessions.getSession sid = some session →
    Managed session) {sid : UUID} {session : Session}
    (h : b.providerSession env envelope = some (sid, session)) :
    envelope.senderId = busId ∧ Managed session := by
  obtain ⟨-, hvalid, hprovider⟩ := providerSession_some h
  have hmanaged := hb sid session (SessionManager.validate_ok hvalid).1
  refine ⟨?_, hmanaged⟩
  rcases hmanaged.1 with hnone | hown
  · rw [hnone] at hprovider
    cases hprovider
  · exact Option.some.inj (hprovider.trans hown)

/-- A report that is passed on. -/
theorem Responds.report (hsends : o.sends = [(ws, message)]) (hsender : envelope.senderId = busId)
    (hmessage : message.senderId = envelope.senderId) (htype : message.messageType.isForwarded = true) :
    Responds (envelope.senderId = busId) b websocket envelope o :=
  .single hsends ⟨hmessage.trans hsender, .inr ⟨htype, hsender⟩⟩
    (MessageType.ne_error_of_isForwarded htype)

/-- A full queue is told to both sides as an error of the execution. -/
theorem endStream_own {sid : UUID} {session : Session} {execId : Json}
    {tracedId : Option String} :
    ∀ e ∈ (b.endStream env websocket sid session envelope execId tracedId).sends,
      e.2.senderId = busId ∧ e.2.messageType = .execError := by
  intro e he
  rcases List.mem_cons.mp he with rfl | he
  · exact ⟨rfl, rfl⟩
  · obtain ⟨_, -, rfl⟩ := List.mem_map.mp he
    exact ⟨rfl, rfl⟩

section Reports

variable (hb : ∀ sid session, b.sessions.getSession sid = some session → Managed session)
include hb

theorem handleExecStatus_replies (status : ExecutionStatus)
    (htype : envelope.messageType.isForwarded = true) :
    Responds (envelope.senderId = busId) b websocket envelope (handleExecStatus status b env envelope) := by
  rw [handleExecStatus]
  split
  · exact .silent rfl
  · rename_i sid session hprovider
    dsimp only
    rw [forward]
    split
    · exact .silent rfl
    · exact .report rfl (providerSession_own hb hprovider).1 rfl htype

theorem handleExecPartialFailure_replies (htype : envelope.messageType.isForwarded = true) :
    Responds (envelope.senderId = busId) b websocket envelope (b.handleExecPartialFailure env websocket envelope) := by
  rw [handleExecPartialFailure]
  split
  · exact .sendError _ _
  · rename_i sid session hcheck
    split
    · exact .sendError _ _
    · exact .report rfl (providerSession_own hb (checkProvider_ok hcheck)).1 rfl htype

/-- The session has no execution to be updated, and no schema to be violated. -/
theorem handleExecResult_replies (htype : envelope.messageType = .execResult) :
    Responds (envelope.senderId = busId) b websocket envelope (b.handleExecResult env websocket envelope) := by
  rw [handleExecResult]
  split
  · exact .sendError _ _
  · rename_i sid session hcheck
    obtain ⟨hsender, -, hnone, hagreed⟩ := providerSession_own hb (checkProvider_ok hcheck)
    have hrecord : ∀ execId, (session.getExecution execId).isSome = false := by
      intro execId
      rw [Session.getExecution, hnone]
      cases session.execPosition execId with
      | none => rfl
      | some idx => rfl
    have hmatch : schemaMismatch session envelope.schemaId = none := by
      rw [schemaMismatch, hagreed, Option.filter_none]
    dsimp only
    rw [hmatch, hrecord, Bool.and_false]
    dsimp only
    split
    · exact .silent rfl
    · rw [if_neg Bool.false_ne_true]
      split
      · exact .silent rfl
      · split
        · exact .refused _ _ (.inr ⟨htype, _, rfl⟩)
        · exact .report rfl hsender rfl rfl

theorem handleStreamChunk_replies :
    Responds (envelope.senderId = busId) b websocket envelope (b.handleStreamChunk env websocket envelope) := by
  rw [handleStreamChunk]
  split
  · exact .silent rfl
  · rename_i sid session hprovider
    obtain ⟨hsender, -⟩ := providerSession_own hb hprovider
    dsimp only
    split
    · exact .silent rfl
    · split
      · exact .silent rfl
      · refine ⟨fun e he ↦ ?_, fun e he herror ↦ ?_⟩
        · obtain ⟨hown, htype⟩ := endStream_own e he
          exact ⟨hown, .inr ⟨htype ▸ rfl, hsender⟩⟩
        · rw [(endStream_own e he).2] at herror
          cases herror
      · exact .silent rfl

end Reports

theorem handleStreamStart_replies :
    Responds Claims b websocket envelope (b.handleStreamStart env envelope) := by
  rw [handleStreamStart]
  split
  · exact .silent rfl
  · dsimp only
    split
    · exact .silent rfl
    · exact .silent rfl

theorem handleStreamEnd_replies :
    Responds Claims b websocket envelope (b.handleStreamEnd env envelope) := by
  rw [handleStreamEnd]
  split
  · exact .silent rfl
  · dsimp only
    split
    · exact .silent rfl
    · exact .silent rfl

/-! ## Every message -/

/-- What is sent in answer to a message. -/
theorem handleMessage_replies
    (hb : ∀ sid session, b.sessions.getSession sid = some session → Managed session) :
    Responds (envelope.senderId = busId) b websocket envelope (b.handleMessage env websocket connId envelope) := by
  have hreport : ∀ {type : MessageType}, envelope.messageType = type → type.isForwarded = true →
      envelope.messageType.isForwarded = true := fun htype h ↦ htype ▸ h
  unfold handleMessage
  split
  · exact handleHeartbeat_replies
  · exact .made rfl rfl fun h ↦ by cases h
  · exact handleIntentBroadcast_replies
  · exact handleIntentOffer_replies
  · exact handleIntentAgree_replies
  · exact handleSessionClose_replies
  · exact handleExecRequest_replies
  · rename_i htype
    exact handleExecStatus_replies hb _ (hreport htype rfl)
  · rename_i htype
    exact handleExecStatus_replies hb _ (hreport htype rfl)
  · rename_i htype
    exact handleExecResult_replies hb htype
  · rename_i htype
    exact handleExecStatus_replies hb _ (hreport htype rfl)
  · rename_i htype
    exact handleExecPartialFailure_replies hb (hreport htype rfl)
  · exact handleStreamStart_replies
  · exact handleStreamChunk_replies hb
  · exact handleStreamEnd_replies
  · exact handleTraceGet_replies
  · exact handleEventSubscribe_replies
  · exact handleEventUnsubscribe_replies
  · exact handleEmitEvent_replies
  · exact .sendError _ _

/-- The answer to a registration is made by the bus. -/
theorem handleRegister_own :
    ∀ e ∈ (b.handleRegister env websocket envelope).1.sends, e.2.Own Claims := by
  intro e he
  unfold handleRegister at he
  dsimp only at he
  split at he
  · obtain rfl := List.mem_singleton.mp he
    exact ⟨rfl, .inl rfl⟩
  · obtain rfl := List.mem_singleton.mp he
    exact ⟨rfl, .inl rfl⟩

/-! ## Broadcasts -/

variable {task : FlowTask} {answer : Option AgentFlow} {sid : UUID} {flow : AgentFlow}
  {node : AgentNode} {todo : List AgentNode} {offers : List Offer} {polls : Nat}

theorem startFlow_replies :
    Responds Claims b task.websocket task.envelope (b.startFlow env task answer) := by
  unfold startFlow
  split
  · exact .sendError _ _
  · exact .silent rfl

theorem deliverNext_replies :
    Responds Claims b task.websocket task.envelope (b.deliverNext env task sid flow node todo) := by
  unfold deliverNext
  split
  · exact .silent rfl
  · cases b.registry.getAgentById _ with
    | none => exact .silent rfl
    | some agent =>
        cases hws : b.registry.getWebsocket agent.connId with
        | none =>
            refine .silent ?_
            dsimp only
            rw [routeToAgent, hws]
        | some ws =>
            have hsends : routeToAgent b.registry agent (deliverMessage task.envelope sid node)
                = [(ws, deliverMessage task.envelope sid node)] := by
              rw [routeToAgent, hws]
            exact .single hsends ⟨rfl, .inl rfl⟩ fun h ↦ by cases h

theorem finishFlow_replies :
    Responds Claims b task.websocket task.envelope (b.finishFlow env task sid flow offers) := by
  unfold finishFlow
  split
  · exact .sendError _ _
  · exact .made rfl rfl fun h ↦ by cases h

theorem pollOffers_replies :
    Responds Claims b task.websocket task.envelope (b.pollOffers env task sid flow polls) := by
  unfold pollOffers
  dsimp only
  split
  · exact finishFlow_replies
  · split
    · exact finishFlow_replies
    · exact .silent rfl

end Bus

namespace Server

/-- An action is a message that claims to come from the bus. -/
def ClaimsBus (a : Action) : Prop := ∃ c envelope, a = .message c envelope ∧ envelope.senderId = busId

/-- The message that an action handles: that of a connection, or of its broadcast. -/
def handled (s : Server) : Action → Option (String × MessageEnvelope)
  | .message c envelope => some (c, envelope)
  | .answer c _ | .deliver c | .poll c => (s.broadcastOf c).map fun task ↦ (c, task.envelope)
  | _ => none

/-- What is sent in every run: the sessions are managed by the bus, a broadcast answers on the
websocket of its connection, and what waits to be written are reports that claim to come
from the bus. -/
structure Answering (Claimed : Prop) (s : Server) : Prop where
  sound : s.bus.Sound
  managed : s.AllSessions Bus.Managed
  websocket : ∀ c conn task, s.taskOf c = some (conn, task) → task.websocket = conn.websocket
  waiting : ∀ c, ∀ m ∈ s.bus.waiting c, m.senderId = busId ∧ m.messageType.isForwarded = true ∧ Claimed

variable {Claimed : Prop} {s : Server} {env : Env} {a : Action} {c : String} {conn : Connection}
  {o : Outcome} {fired : Fired} {e : Nat × Message}

/-- The bus is the provider of every session that has one, and no session has an execution or
a schema. -/
theorem managed_stable : Stable Bus.Managed where
  created h := by
    refine ⟨.inl ?_, executions_stable.created h, chosenSchemaId_stable.created h⟩
    obtain ⟨_, _, _, _, _, _, _, _, rfl⟩ := h
    rfl
  kept h hmanaged := by
    refine ⟨?_, executions_stable.kept h hmanaged.2.1, chosenSchemaId_stable.kept h hmanaged.2.2⟩
    cases h with
    | same => exact hmanaged.1
    | message _ _ heffect =>
        cases heffect with
        | same => exact hmanaged.1
        | offer _ _ _ _ _ _ => exact hmanaged.1
        | agree _ _ _ _ _ => exact .inr rfl
        | close _ _ => exact hmanaged.1
        | execution _ _ =>
            rw [Session.updateExecutionStatus_of_nil hmanaged.2.1]
            exact hmanaged.1
    | flowInfo _ _ _ => exact hmanaged.1
    | expire _ _ => exact hmanaged.1

/-- What waits to be written waited before, or is the report that the action handles. -/
theorem mem_waiting (hs : Answering Claimed s) (h : s.fire env a = some fired) {m : Message}
    (hmem : m ∈ fired.server.bus.waiting c) : m ∈ s.bus.waiting c ∨
      ClaimsBus a ∧ m.senderId = busId ∧ m.messageType.isForwarded = true := by
  have hsame : fired.server.bus.queues = s.bus.queues →
      fired.server.bus.waiting c = s.bus.waiting c := fun hqueues ↦
    (Bus.waiting_congr (congrArg (·.queues.get? c) hqueues)).1
  by_cases hwrite : ∃ c' sent, a = .queueWrite c' sent
  · obtain ⟨c', sent, rfl⟩ := hwrite
    obtain ⟨-, hother, hprefix, -⟩ := fire_queueWrite hs.sound h
    refine .inl ?_
    by_cases hc : c = c'
    · subst hc
      exact hprefix.subset (List.mem_append_right _ hmem)
    · rwa [(hother c hc).1] at hmem
  by_cases hstream : ∃ c' envelope, a = .message c' envelope ∧ envelope.messageType.isStream = true
  · obtain ⟨c', envelope, rfl, htype⟩ := hstream
    rcases fire_stream hs.sound h htype with ⟨-, hqueues, -⟩ | ⟨-, -, sid, session, ws, -, hget,
      hsender, hputs⟩
    · rw [hsame hqueues] at hmem
      exact .inl hmem
    · by_cases hc : c = session.requesterConnId
      · subst hc
        rw [hputs.waiting] at hmem
        split at hmem
        · rcases List.mem_append.mp hmem with hmem | hmem
          · exact .inl hmem
          · obtain rfl := List.mem_singleton.mp hmem
            have hown : envelope.senderId = busId := by
              rcases (hs.managed sid session hget).1 with hnone | hbus
              · rw [hnone] at hsender
                cases hsender
              · exact Option.some.inj (hsender.trans hbus)
            refine .inr ⟨⟨c', envelope, rfl, hown⟩, hown, ?_⟩
            rw [MessageType.isForwarded, htype, Bool.or_true]
        · cases hmem
      · rw [(Bus.waiting_congr (hputs.other c hc)).1] at hmem
        exact .inl hmem
  · have hqueues := fire_queues h (fun c' sent ha ↦ hwrite ⟨c', sent, ha⟩) (by
      intro c' envelope ha
      cases htype : envelope.messageType.isStream with
      | false => rfl
      | true => exact absurd ⟨c', envelope, ha, htype⟩ hstream)
    rw [hsame hqueues] at hmem
    exact .inl hmem

/-- A broadcast keeps the websocket of its connection. -/
theorem websocket_step (hs : Answering Claimed s) (h : s.fire env a = some fired) :
    ∀ c conn task, fired.server.taskOf c = some (conn, task) → task.websocket = conn.websocket := by
  intro c conn task htask
  obtain ⟨hget, ht⟩ := taskOf_some htask
  have hkept : s.connections.get? c = some conn → task.websocket = conn.websocket := fun hget' ↦
    hs.websocket c conn task (taskOf_eq hget' ht)
  have hstep := fire_connections h
  generalize fired.server = s' at htask hget hstep
  cases hstep with
  | same bus => exact hkept hget
  | connect bus ha hfresh =>
      rw [Dict.get?_insert] at hget
      split at hget
      · obtain rfl := Option.some.inj hget
        cases ht
      · exact hkept hget
  | resume hhandles hnone =>
      rename_i c' conn' o
      rw [Dict.get?_insert] at hget
      split at hget
      · obtain rfl := Option.some.inj hget
        cases hhandles.taskStep ht with
        | listed _ _ _ => rfl
        | answered _ htask' _ _ => exact (hs.websocket _ _ _ htask' :)
        | delivered _ htask' _ => exact (hs.websocket _ _ _ htask' :)
        | polled _ htask' _ => exact (hs.websocket _ _ _ htask' :)
      · exact hkept hget
  | close bus ha =>
      rw [Dict.get?_erase] at hget
      split at hget
      · cases hget
      · exact hkept hget

theorem Answering.start (library : Library) (settings : Settings) :
    Answering Claimed (start library settings) where
  sound := sound_start library settings
  managed := AllSessions.start library settings
  websocket _ _ _ h := by cases h
  waiting _ _ h := by cases h

theorem Answering.step {s' : Server} {now : Time} {ids : Nat → UUID} (hs : Answering Claimed s)
    (ha : ClaimsBus a → Claimed) (h : Steps now s (ids, a) s') : Answering Claimed s' := by
  obtain ⟨-, fired, hfire, rfl⟩ := id h
  refine ⟨sound_step hs.sound h, hs.managed.step managed_stable h, websocket_step hs hfire,
    fun c m hmem ↦ ?_⟩
  rcases mem_waiting hs hfire hmem with hbefore | ⟨hclaims, hown, htype⟩
  · exact hs.waiting c m hbefore
  · exact ⟨hown, htype, ha hclaims⟩

/-- In every run, if those messages that claim to come from the bus are the ones allowed. -/
theorem Answering.run {x y : Time × Server} {as : List Label} (hx : Answering Claimed x.2)
    (ha : ∀ l ∈ as, ClaimsBus l.2.2 → Claimed) (h : Run (Step.Timed Steps) x as y) :
    Answering Claimed y.2 :=
  (h.only_of_labels ha).invariant (P := fun x ↦ Answering Claimed x.2)
    (fun _ _ _ hx hstep ↦ hx.step hstep.1 hstep.2.2.2) hx

theorem resume_of_none (h : o.error = none) : (s.resume c conn o).server
    = ⟨o.bus, s.connections.insert c { conn with task := o.task }⟩ := by
  unfold resume
  rw [h]

/-- What a message loop sends. -/
theorem Handles.replies (hs : Answering Claimed s) (h : s.Handles env a c conn o) : ∃ envelope,
    s.handled a = some (c, envelope) ∧
      Bus.Responds (ClaimsBus a) s.bus conn.websocket envelope o := by
  have hbroadcast : ∀ task, s.taskOf c = some (conn, task) →
      (s.broadcastOf c).map (fun task ↦ (c, task.envelope)) = some (c, task.envelope) ∧
        task.websocket = conn.websocket := by
    intro task htask
    rw [broadcastOf_of_taskOf htask, Option.map_some]
    exact ⟨rfl, hs.websocket c conn task htask⟩
  cases h with
  | message envelope hget htask =>
      exact ⟨envelope, rfl, (Bus.handleMessage_replies hs.managed).mono fun hown ↦
        ⟨c, envelope, rfl, hown⟩⟩
  | answer answer htask hstage =>
      obtain ⟨hhandled, hws⟩ := hbroadcast _ htask
      exact ⟨_, hhandled, hws ▸ Bus.startFlow_replies⟩
  | deliver htask hstage =>
      obtain ⟨hhandled, hws⟩ := hbroadcast _ htask
      exact ⟨_, hhandled, hws ▸ Bus.deliverNext_replies⟩
  | poll htask hstage hwake =>
      obtain ⟨hhandled, hws⟩ := hbroadcast _ htask
      exact ⟨_, hhandled, hws ▸ Bus.pollOffers_replies⟩

/-- The error for what is no envelope: it names no message, and the connection ends. -/
structure Rejects (s : Server) (a : Action) (fired : Fired) (e : Nat × Message) (c : String)
    (conn : Connection) : Prop where
  disconnect : ∃ text, a = .disconnect c (some text)
  get? : s.connections.get? c = some conn
  websocket : e.1 = conn.websocket
  unnamed : e.2.correlationId = none
  alone : fired.sends = [e]
  server : fired.server = ⟨s.bus.cleanupConnection c, s.connections.erase c⟩

theorem disconnect_replies {invalid : Option String}
    (h : s.disconnect c invalid = some fired) :
    ∀ e ∈ fired.sends, e.2.Own Claimed ∧ ∃ conn, s.Rejects (.disconnect c invalid) fired e c conn := by
  obtain ⟨conn, hget, h⟩ := Option.bind_eq_some_iff.mp h
  split_ifs at h
  obtain rfl := Option.some.inj h
  intro e he
  cases invalid with
  | none => cases he
  | some text =>
      obtain rfl := List.mem_singleton.mp he
      exact ⟨⟨rfl, .inl rfl⟩, conn, ⟨text, rfl⟩, hget, rfl, rfl, rfl, rfl⟩

/-- What an action sends: a message of the bus; if it is an error, it answers the message that
the action handles, and the message has had no effect, or it is the last of a connection that
sends what is no envelope. -/
theorem fire_replies (hs : Answering Claimed s) (h : s.fire env a = some fired) :
    (∀ e ∈ fired.sends, e.2.Own (Claimed ∨ ClaimsBus a)) ∧
      ((∀ ws envelope, a ≠ .connect ws envelope) → ∀ e ∈ fired.sends, e.2.messageType = .error →
        (∃ c conn, s.Rejects a fired e c conn) ∨
        ∃ c envelope conn, s.handled a = some (c, envelope) ∧ s.connections.get? c = some conn ∧
          e.1 = conn.websocket ∧ e.2.correlationId = some envelope.messageId ∧
          fired.sends = [e] ∧ fired.error = none ∧
          fired.server.connections = s.connections.insert c { conn with task := none } ∧
          (fired.server.bus = s.bus ∨ envelope.messageType = .execResult ∧
            ∃ event, fired.server.bus = s.bus.record event)) := by
  unfold fire at h
  split at h
  · refine ⟨fun e he ↦ ?_, fun hconnect ↦ absurd rfl (hconnect _ _)⟩
    unfold connect at h
    split_ifs at h
    · obtain rfl := Option.some.inj h
      obtain rfl := List.mem_singleton.mp he
      exact ⟨rfl, .inl rfl⟩
    · obtain rfl := Option.some.inj h
      exact Bus.handleRegister_own e he
  · refine ⟨fun e he ↦ (disconnect_replies h e he).1, fun _ e he _ ↦ ?_⟩
    obtain ⟨-, conn, hrejects⟩ := @disconnect_replies True _ _ _ _ h e he
    exact .inl ⟨_, conn, hrejects⟩
  · obtain rfl := Option.some.inj h
    exact ⟨fun e he ↦ absurd he List.not_mem_nil, fun _ e he ↦ absurd he List.not_mem_nil⟩
  · obtain rfl := Option.some.inj h
    exact ⟨fun e he ↦ absurd he List.not_mem_nil, fun _ e he ↦ absurd he List.not_mem_nil⟩
  · rename_i c sent
    obtain ⟨q, hq, rfl⟩ := Option.map_eq_some_iff.mp h
    have hwaiting : ∀ e ∈ (q.write sent).2, e.2.senderId = busId ∧
        e.2.messageType.isForwarded = true ∧ Claimed := by
      intro e he
      refine hs.waiting c e.2 ?_
      rw [Bus.waiting_eq hq]
      exact q.mem_waiting_of_write he
    refine ⟨fun e he ↦ ?_, fun _ e he herror ↦ ?_⟩
    · obtain ⟨hown, htype, hclaimed⟩ := hwaiting e he
      exact ⟨hown, .inr ⟨htype, .inl hclaimed⟩⟩
    · exact absurd herror (MessageType.ne_error_of_isForwarded (hwaiting e he).2.1)
  · obtain ⟨task, _, h⟩ := Option.bind_eq_some_iff.mp h
    obtain ⟨sub, hsub, h⟩ := Option.bind_eq_some_iff.mp h
    -- no event was ever published
    rw [hs.sound.events.queue _ sub hsub] at h
    cases h
  · obtain ⟨⟨c, conn, o⟩, houtcome, rfl⟩ := Option.map_eq_some_iff.mp h
    have hhandles := handles_of_outcome houtcome
    obtain ⟨envelope, hhandled, hreplies⟩ := hhandles.replies hs
    rw [(resume_frame).1]
    refine ⟨fun e he ↦ (hreplies.own e he).mono .inr, fun _ e he herror ↦ ?_⟩
    obtain ⟨hws, hid, hsends, hnone, htask, hbus⟩ := hreplies.refuses e he herror
    refine .inr ⟨c, envelope, conn, hhandled, hhandles.get?, hws, hid, hsends, ?_, ?_, ?_⟩
    · rw [resume_frame.2.1, hnone]
    · rw [resume_of_none hnone, htask]
    · rw [resume_of_none hnone]
      exact hbus

/-! ## Runs -/

/-- In every run of the bus, whatever happens next: a message that is sent has the id of the
bus as its sender.  The bus made it, and then it is no request for an execution and no event;
or it is a report on an execution, and some message has claimed to come from the bus. -/
theorem sends_own {library : Library} {settings : Settings} {t₀ : Time} {x : Time × Server}
    {as : List Label} {now : Time} {ids : Nat → UUID}
    (hrun : Run (Step.Timed Steps) (t₀, start library settings) as x)
    (hfire : x.2.fire ⟨now, ids⟩ a = some fired) (he : e ∈ fired.sends) :
    e.2.senderId = busId ∧ (e.2.messageType.isMade = true ∨
      e.2.messageType.isForwarded = true ∧ ∃ l ∈ as ++ [(now, (ids, a))], ClaimsBus l.2.2) := by
  have hs : Answering (∃ l ∈ as, ClaimsBus l.2.2) x.2 :=
    (Answering.start library settings).run (fun l hl hclaims ↦ ⟨l, hl, hclaims⟩) hrun
  refine ((fire_replies hs hfire).1 e he).mono ?_
  rintro (⟨l, hl, hclaims⟩ | hclaims)
  · exact ⟨l, List.mem_append_left _ hl, hclaims⟩
  · exact ⟨_, List.mem_append_right _ (List.mem_singleton_self _), hclaims⟩

/-- The requester broadcasts, and the bus delivers its intent to the provider. -/
theorem sends_own_sample :
    let x := playState sampleStart (sampleNegotiation.take 4)
    let a : Action := .deliver requesterConn
    ∃ fired e, x.2.fire ⟨3, fun _ ↦ ⟨90⟩⟩ a = some fired ∧ fired.sends = [e] ∧ e.1 = 11 ∧
      e.2.senderId = busId := by
  intro x a
  have hrun : Run (Step.Timed Steps) sampleStart _ x := run_play (by decide +kernel)
  have hsends : (x.2.fire ⟨3, fun _ ↦ ⟨90⟩⟩ a).map (fun f ↦ f.sends.map Prod.fst) = some [11] := by
    decide +kernel
  obtain ⟨fired, hfire, hsent⟩ := Option.map_eq_some_iff.mp hsends
  obtain ⟨e, hsends, hws⟩ := List.map_eq_singleton_iff.mp hsent
  exact ⟨fired, e, hfire, hsends, hws,
    (sends_own hrun hfire (hsends ▸ List.mem_singleton_self e)).1⟩

/-- In every run of the bus, whatever a connection or its broadcast does next: an error that is
sent goes to the connection, alone.  It names the message that the bus handles, the connection
waits for its next message, and nothing else has changed, but that a result which finds its
requester offline is on record; or the connection sent what is no envelope, the error names
nothing, and the connection ends. -/
theorem error_refuses {library : Library} {settings : Settings} {t₀ : Time} {x : Time × Server}
    {as : List Label} (hrun : Run (Step.Timed Steps) (t₀, start library settings) as x)
    (hfire : x.2.fire env a = some fired) (hconnect : ∀ ws envelope, a ≠ .connect ws envelope)
    (he : e ∈ fired.sends) (herror : e.2.messageType = .error) :
    (∃ c conn, x.2.Rejects a fired e c conn) ∨ ∃ c envelope conn,
      x.2.handled a = some (c, envelope) ∧ x.2.connections.get? c = some conn ∧
      e.1 = conn.websocket ∧ e.2.correlationId = some envelope.messageId ∧
      fired.sends = [e] ∧ fired.error = none ∧
      fired.server.connections = x.2.connections.insert c { conn with task := none } ∧
      (fired.server.bus = x.2.bus ∨ envelope.messageType = .execResult ∧
        ∃ event, fired.server.bus = x.2.bus.record event) := by
  have hs : Answering True x.2 :=
    (Answering.start library settings).run (fun _ _ _ ↦ trivial) hrun
  exact (fire_replies hs hfire).2 hconnect e he herror

/-- The provider tries to agree to the offer. -/
theorem error_refuses_sample :
    let x := playState sampleStart sampleNegotiation
    let a : Action := .message providerConn (sampleEnvelope .intentAgree ⟨2⟩ "acme" (some ⟨100⟩)
      [("offer_id", .str (UUID.str ⟨101⟩))])
    ∃ fired e, x.2.fire ⟨300000, fun _ ↦ ⟨90⟩⟩ a = some fired ∧ fired.sends = [e] ∧
      e.2.correlationId = some ⟨7⟩ ∧ fired.error = none ∧ fired.server.bus = x.2.bus := by
  intro x a
  have hrun : Run (Step.Timed Steps) sampleStart _ x := run_play (by decide +kernel)
  have hsends : (x.2.fire ⟨300000, fun _ ↦ ⟨90⟩⟩ a).map (fun f ↦ f.sends.map (·.2.messageType))
      = some [.error] := by decide +kernel
  obtain ⟨fired, hfire, hsent⟩ := Option.map_eq_some_iff.mp hsends
  obtain ⟨e, hsends, htype⟩ := List.map_eq_singleton_iff.mp hsent
  have hmessage : ¬ ∃ c conn, x.2.Rejects a fired e c conn := by
    rintro ⟨c, conn, hrejects⟩
    obtain ⟨text, ha⟩ := hrejects.disconnect
    exact absurd ha (by simp [a])
  obtain ⟨c, envelope, conn, hhandled, -, -, hid, hone, hnone, -, hbus⟩ :=
    (error_refuses hrun hfire (by simp [a]) (hsends ▸ List.mem_singleton_self e)
      htype).resolve_left hmessage
  obtain ⟨rfl, rfl⟩ := Prod.mk.inj (Option.some.inj hhandled)
  refine ⟨fired, e, hfire, hone, hid, hnone, ?_⟩
  rcases hbus with hbus | ⟨hresult, -⟩
  · exact hbus
  · cases hresult

end Server

end SemanticBus
