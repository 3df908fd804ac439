import SemanticBus.Transport.Connections

/-!
# What the messages of a provider do

The eight messages that a provider sends about an execution pass one gate.  The
ones that are no stream messages are written to the requester at once, stream
messages go through its outbound queue.  `Bus.handleMessage_provider` says what
each of them does, and the results about executions and streams are read off it.
-/

namespace SemanticBus

namespace MessageType

/-- The messages of a provider that are written to the requester at once. -/
def isDirect : MessageType → Bool
  | .execAccepted | .execProgress | .execError | .execResult | .execPartialFailure => true
  | _ => false

def isStream : MessageType → Bool
  | .execStreamStart | .execStreamChunk | .execStreamEnd => true
  | _ => false

def setsStatus : MessageType → Bool
  | .execAccepted | .execProgress | .execError | .execResult | .execStreamEnd => true
  | _ => false

/-- No message is both. -/
theorem isStream_of_isDirect {type : MessageType} (h : type.isDirect = true) :
    type.isStream = false := by
  cases type
  all_goals first | rfl | cases h

theorem mem_provider {type : MessageType} (h : type.isDirect = true ∨ type.isStream = true) :
    type ∈ [.execAccepted, .execProgress, .execError, .execResult, .execPartialFailure,
      .execStreamStart, .execStreamChunk, .execStreamEnd] := by
  cases type
  all_goals first | decide | exact absurd h (by decide)

end MessageType

namespace Bus

/-- Whether the outbound queue of a connection is at its capacity. -/
def queueFull (b : Bus) (connId : String) : Bool :=
  (b.queues.queues.get? connId).any ConnectionQueue.isFull

/-- The outbound queue of a connection, or the one that it would get. -/
def queueOf (b : Bus) (connId : String) (websocket : Nat) : ConnectionQueue :=
  (b.queues.queues.get? connId).getD
    { connId := connId, websocket := websocket, maxSize := b.queues.maxQueueSize }

/-- A message is appended to the outbound queue of a connection. -/
structure Puts (b : Bus) (connId : String) (websocket : Nat) (message : Message) (b' : Bus) :
    Prop where
  self : b'.queues.queues.get? connId = some { b.queueOf connId websocket with
    items := (b.queueOf connId websocket).items ++ [some message] }
  other : ∀ c, c ≠ connId → b'.queues.queues.get? c = b.queues.queues.get? c

variable {b b' : Bus} {env : Env} {websocket : Nat} {connId : String} {envelope : MessageEnvelope}
  {sid : UUID} {session : Session} {message : Message}

/-- What becomes of a message for the outbound queue of a requester: the requester is
not connected, its queue is full, or there is room. -/
inductive Queued (b : Bus) (session : Session) (message : Message) (r : Bus × Option PyError) : Prop
  | offline : b.registry.getWebsocket session.requesterConnId = none → r.1.queues = b.queues →
      r.2 = none → Queued b session message r
  | full {ws : Nat} : b.registry.getWebsocket session.requesterConnId = some ws →
      b.queueFull session.requesterConnId = true → r.1.queues = b.queues →
      r.2 = some .queueFullError → Queued b session message r
  | room {ws : Nat} : b.registry.getWebsocket session.requesterConnId = some ws →
      b.queueFull session.requesterConnId = false →
      b.Puts session.requesterConnId ws message r.1 → r.2 = none → Queued b session message r

theorem sendToRequesterQueued_cases (b₁ : Bus) (hopen : b.queues.Open)
    (hregistry : b₁.registry = b.registry) (hqueues : b₁.queues = b.queues) (session : Session)
    (message : Message) : Queued b session message (b₁.sendToRequesterQueued session message) := by
  rw [sendToRequesterQueued, hregistry, hqueues]
  cases hws : b.registry.getWebsocket session.requesterConnId with
  | none => exact .offline hws hqueues rfl
  | some ws =>
      dsimp only
      obtain ⟨-, hclosed⟩ := hopen.getOrCreate session.requesterConnId ws
      rw [ConnectionQueueManager.putNowait_eq hclosed, ConnectionQueueManager.getOrCreate]
      cases hq : b.queues.queues.get? session.requesterConnId with
      | none =>
          have hroom : b.queueFull session.requesterConnId = false := by
            rw [queueFull, hq]
            rfl
          have hempty : ConnectionQueue.isFull
              { connId := session.requesterConnId
                websocket := ws
                maxSize := b.queues.maxQueueSize } = false := by
            simp [ConnectionQueue.isFull]
          dsimp only
          rw [hempty, if_neg Bool.false_ne_true]
          refine .room hws hroom ⟨?_, fun c hc ↦ ?_⟩ rfl
          · rw [queueOf, hq]
            exact Dict.get?_insert_self _ _ _
          · dsimp only [ConnectionQueueManager.setQueue]
            rw [Dict.get?_insert, if_neg hc, Dict.get?_insert, if_neg hc]
      | some q =>
          have hfull : b.queueFull session.requesterConnId = q.isFull := by
            rw [queueFull, hq]
            rfl
          dsimp only
          cases hisFull : q.isFull with
          | true =>
              rw [if_pos rfl]
              exact .full hws (hfull.trans hisFull) rfl rfl
          | false =>
              rw [if_neg Bool.false_ne_true]
              refine .room hws (hfull.trans hisFull) ⟨?_, fun c hc ↦ ?_⟩ rfl
              · rw [queueOf, hq]
                exact Dict.get?_insert_self _ _ _
              · dsimp only [ConnectionQueueManager.setQueue]
                rw [Dict.get?_insert, if_neg hc]

/-- A message for an outbound queue changes the queues only. -/
theorem sendToRequesterQueued_frame (b : Bus) (session : Session) (message : Message) :
    let b' := (b.sendToRequesterQueued session message).1
    b'.sessions = b.sessions ∧ b'.registry = b.registry := by
  rw [sendToRequesterQueued]
  split
  · exact ⟨rfl, rfl⟩
  · dsimp only
    split
    · exact ⟨rfl, rfl⟩
    · exact ⟨rfl, rfl⟩

/-- The sessions after a message: at most the status of the execution that it names has
changed, in the session that it names. -/
inductive Reports (b : Bus) (env : Env) (sid : UUID) (envelope : MessageEnvelope) (b' : Bus) : Prop
  | none : b'.sessions = b.sessions → Reports b env sid envelope b'
  | update (status : ExecutionStatus) (resultViewId : Option Json) (resultValid : Option Bool) :
      envelope.messageType.setsStatus = true →
      b'.sessions = b.sessions.update sid (·.updateExecutionStatus env.now
        (JsonObj.get envelope.payload "exec_id") status resultViewId resultValid) →
      Reports b env sid envelope b'

def Answers (websocket : Nat) (e : Nat × Message) : Prop :=
  e.1 = websocket ∧ e.2.messageType = .error

/-- A message of the same type for the requester of a session. -/
def Forwards (b : Bus) (session : Session) (envelope : MessageEnvelope) (e : Nat × Message) : Prop :=
  b.registry.getWebsocket session.requesterConnId = some e.1 ∧
    e.2.messageType = envelope.messageType ∧
    e.2.ephemeralInterfaceId = envelope.ephemeralInterfaceId

/-- What a stream message does, but for the trace: its execution id does not validate,
the requester is not connected, its queue is full, or the message is queued. -/
inductive StreamEffect (b : Bus) (websocket : Nat) (session : Session) (envelope : MessageEnvelope)
    (o : Outcome) : Prop
  | invalid {e : PyError} :
      TraceEvent.execIdOf (JsonObj.getD envelope.payload "exec_id" (.str "")) = .error e →
      o.bus.queues = b.queues → o.sends = [] → o.error = some e →
      StreamEffect b websocket session envelope o
  | offline {tracedId : Option String} :
      TraceEvent.execIdOf (JsonObj.getD envelope.payload "exec_id" (.str "")) = .ok tracedId →
      b.registry.getWebsocket session.requesterConnId = none →
      o.bus.queues = b.queues → o.sends = [] → o.error = none →
      StreamEffect b websocket session envelope o
  /-- A chunk is answered with an error to both sides. -/
  | backpressure {tracedId : Option String} {ws : Nat} {message : Message} :
      TraceEvent.execIdOf (JsonObj.getD envelope.payload "exec_id" (.str "")) = .ok tracedId →
      b.registry.getWebsocket session.requesterConnId = some ws →
      b.queueFull session.requesterConnId = true →
      envelope.messageType = .execStreamChunk → o.bus.queues = b.queues →
      o.sends = [(websocket, message), (ws, message)] → message.messageType = .execError →
      o.error = none → StreamEffect b websocket session envelope o
  /-- The start or the end of a stream fails. -/
  | overflow {tracedId : Option String} {ws : Nat} :
      TraceEvent.execIdOf (JsonObj.getD envelope.payload "exec_id" (.str "")) = .ok tracedId →
      b.registry.getWebsocket session.requesterConnId = some ws →
      b.queueFull session.requesterConnId = true →
      envelope.messageType ≠ .execStreamChunk → o.bus.queues = b.queues → o.sends = [] →
      o.error = some .queueFullError → StreamEffect b websocket session envelope o
  | put {tracedId : Option String} {ws : Nat} :
      TraceEvent.execIdOf (JsonObj.getD envelope.payload "exec_id" (.str "")) = .ok tracedId →
      b.registry.getWebsocket session.requesterConnId = some ws →
      b.queueFull session.requesterConnId = false →
      b.Puts session.requesterConnId ws envelope.toMessage o.bus → o.sends = [] →
      o.error = none → StreamEffect b websocket session envelope o

/-- A report is about one session. -/
theorem Reports.other {sid' : UUID} (h : Reports b env sid envelope b') (hsid : sid' ≠ sid) :
    b'.sessions.getSession sid' = b.sessions.getSession sid' := by
  cases h with
  | none hsame => rw [hsame]
  | update _ _ _ _ hupdate => rw [hupdate, SessionManager.getSession_update, if_neg hsid]

/-- A stream message changes no queue but the one of the requester. -/
theorem StreamEffect.other {o : Outcome} {c : String}
    (h : StreamEffect b websocket session envelope o) (hc : c ≠ session.requesterConnId) :
    o.bus.queues.queues.get? c = b.queues.queues.get? c := by
  cases h with
  | invalid _ hqueues _ _ => rw [hqueues]
  | offline _ _ hqueues _ _ => rw [hqueues]
  | backpressure _ _ _ _ hqueues _ _ _ => rw [hqueues]
  | overflow _ _ _ _ hqueues _ _ => rw [hqueues]
  | put _ _ _ hputs _ _ => exact hputs.other c hc

/-- What a stream message sends at once is an error, to its sender and to the requester. -/
theorem StreamEffect.sends {o : Outcome} (h : StreamEffect b websocket session envelope o) :
    ∀ e ∈ o.sends, e.1 = websocket ∧ e.2.messageType = .execError ∨
      b.registry.getWebsocket session.requesterConnId = some e.1 := by
  intro e he
  cases h with
  | invalid _ _ hsends _ =>
      rw [hsends] at he
      cases he
  | offline _ _ _ hsends _ =>
      rw [hsends] at he
      cases he
  | backpressure _ hws _ _ _ hsends hmessage _ =>
      rw [hsends] at he
      rcases List.mem_cons.mp he with rfl | he
      · exact .inl ⟨rfl, hmessage⟩
      · obtain rfl := List.mem_singleton.mp he
        exact .inr hws
  | overflow _ _ _ _ _ hsends _ =>
      rw [hsends] at he
      cases he
  | put _ _ _ _ hsends _ =>
      rw [hsends] at he
      cases he

/-- What a message of a provider does: nothing but errors for its sender, when it does
not pass the gate; else a report, and a message for the requester. -/
inductive ProviderEffect (b : Bus) (env : Env) (websocket : Nat) (envelope : MessageEnvelope)
    (o : Outcome) : Prop
  | refused : b.providerSession env envelope = none → o.bus = b →
      (∀ e ∈ o.sends, Answers websocket e) → o.error = none →
      ProviderEffect b env websocket envelope o
  | direct {sid : UUID} {session : Session} :
      b.providerSession env envelope = some (sid, session) →
      envelope.messageType.isDirect = true → Reports b env sid envelope o.bus →
      o.bus.queues = b.queues →
      (∀ e ∈ o.sends, Answers websocket e ∨ b.Forwards session envelope e) →
      ProviderEffect b env websocket envelope o
  | stream {sid : UUID} {session : Session} :
      b.providerSession env envelope = some (sid, session) →
      envelope.messageType.isStream = true → Reports b env sid envelope o.bus →
      StreamEffect b websocket session envelope o → ProviderEffect b env websocket envelope o

/-! ## The handlers -/

/-- A message that its handler answers with an error did not pass the gate. -/
theorem refused_of_checkProvider {type : String} {e : String × String}
    (h : b.checkProvider env envelope type = .error e) :
    ProviderEffect b env websocket envelope (b.sendError websocket envelope e.1 e.2) := by
  have hprovider : b.providerSession env envelope = none := by
    rw [← checkProvider_toOption b env envelope type, h]
    rfl
  refine .refused hprovider rfl ?_ rfl
  intro e he
  obtain rfl := List.mem_singleton.mp he
  exact ⟨rfl, rfl⟩

theorem handleExecPartialFailure_provider (htype : envelope.messageType.isDirect = true) :
    ProviderEffect b env websocket envelope (b.handleExecPartialFailure env websocket envelope) := by
  rw [handleExecPartialFailure]
  split
  · exact refused_of_checkProvider ‹_›
  · rename_i sid session hcheck
    have hprovider := checkProvider_ok hcheck
    split
    · refine .direct hprovider htype (.none rfl) rfl fun e he ↦ ?_
      obtain rfl := List.mem_singleton.mp he
      exact .inl ⟨rfl, rfl⟩
    · rename_i ws hws
      refine .direct hprovider htype (.none rfl) rfl fun e he ↦ ?_
      obtain rfl := List.mem_singleton.mp he
      exact .inr ⟨hws, rfl, rfl⟩

/-- A report, if there is one to make, changes the sessions only. -/
theorem updateExecution_if (b : Bus) (env : Env) (sid : UUID) (p : Bool) (execId : Json)
    (status : ExecutionStatus) (resultViewId : Option Json) (resultValid : Option Bool) :
    let b' := if p then b.updateExecution env sid execId status resultViewId resultValid else b
    b'.registry = b.registry ∧ b'.queues = b.queues := by
  cases p with
  | false => exact ⟨rfl, rfl⟩
  | true => exact ⟨rfl, rfl⟩

/-- An outcome with a report, if there is one to make. -/
theorem direct_of_report {o : Outcome} {p : Bool} {status : ExecutionStatus}
    {resultViewId : Option Json} {resultValid : Option Bool}
    (hprovider : b.providerSession env envelope = some (sid, session))
    (htype : envelope.messageType.isDirect = true)
    (hsets : envelope.messageType.setsStatus = true)
    (hsessions : o.bus.sessions = (if p then b.updateExecution env sid
      (JsonObj.get envelope.payload "exec_id") status resultViewId resultValid else b).sessions)
    (hqueues : o.bus.queues = (if p then b.updateExecution env sid
      (JsonObj.get envelope.payload "exec_id") status resultViewId resultValid else b).queues)
    (hsends : ∀ e ∈ o.sends, Answers websocket e ∨ b.Forwards session envelope e) :
    ProviderEffect b env websocket envelope o := by
  refine .direct hprovider htype ?_ (hqueues.trans (updateExecution_if b env sid p _ _ _ _).2) hsends
  cases p with
  | false => exact .none hsessions
  | true => exact .update status resultViewId resultValid hsets hsessions

theorem handleExecStatus_provider {status : ExecutionStatus}
    (htype : envelope.messageType.isDirect = true)
    (hsets : envelope.messageType.setsStatus = true) :
    ProviderEffect b env websocket envelope (handleExecStatus status b env envelope) := by
  rw [handleExecStatus]
  split
  · rename_i hprovider
    exact .refused hprovider rfl (List.forall_mem_nil _) rfl
  · rename_i sid session hprovider
    dsimp only
    have hbus := forward_bus (if (JsonObj.get envelope.payload "exec_id").truthy then
      b.updateExecution env sid (JsonObj.get envelope.payload "exec_id") status none none else b)
      session envelope.toMessage
    refine direct_of_report hprovider htype hsets (congrArg Bus.sessions hbus)
      (congrArg Bus.queues hbus) fun e he ↦ ?_
    rw [forward, (updateExecution_if b env sid _ _ _ _ _).1] at he
    split at he
    · cases he
    · rename_i ws hws
      obtain rfl := List.mem_singleton.mp he
      exact .inr ⟨hws, rfl, rfl⟩

theorem handleExecResult_provider (htype : envelope.messageType = .execResult) :
    ProviderEffect b env websocket envelope (b.handleExecResult env websocket envelope) := by
  have hdirect : envelope.messageType.isDirect = true := by
    rw [htype]
    rfl
  have hsets : envelope.messageType.setsStatus = true := by
    rw [htype]
    rfl
  unfold handleExecResult
  split
  · exact refused_of_checkProvider ‹_›
  · rename_i sid session hcheck
    have hprovider := checkProvider_ok hcheck
    dsimp only
    split
    · refine direct_of_report hprovider hdirect hsets rfl rfl fun e he ↦ ?_
      obtain rfl := List.mem_singleton.mp he
      exact .inl ⟨rfl, rfl⟩
    · split
      · exact .direct hprovider hdirect (.none rfl) rfl (List.forall_mem_nil _)
      · split
        · exact direct_of_report hprovider hdirect hsets rfl rfl (List.forall_mem_nil _)
        · split
          · refine direct_of_report hprovider hdirect hsets rfl rfl fun e he ↦ ?_
            obtain rfl := List.mem_singleton.mp he
            exact .inl ⟨rfl, rfl⟩
          · rename_i ws hws
            refine direct_of_report hprovider hdirect hsets rfl rfl fun e he ↦ ?_
            obtain rfl := List.mem_singleton.mp he
            refine .inr ⟨?_, htype.symm, (providerSession_some hprovider).1.symm⟩
            rw [← hws]
            exact congrArg (AgentRegistry.getWebsocket · _)
              (updateExecution_if b env sid _ _ _ _ _).1.symm

/-! ## Streams -/

/-- The execution id of a report, where the default is no string. -/
theorem getD_of_truthy {payload : JsonObj}
    (h : (JsonObj.getD payload "exec_id" (.str "")).truthy = true) :
    JsonObj.getD payload "exec_id" (.str "") = JsonObj.get payload "exec_id" := by
  unfold JsonObj.get JsonObj.getD at *
  cases hget : payload.lookup "exec_id" with
  | none =>
      rw [hget] at h
      cases h
  | some value => rfl

/-- The handlers of a stream differ in how they pass a message on. -/
theorem stream_provider {passOn : UUID → Session → Option String → Outcome}
    (hstream : envelope.messageType.isStream = true)
    (hpassOn : ∀ sid session tracedId,
      TraceEvent.execIdOf (JsonObj.getD envelope.payload "exec_id" (.str "")) = .ok tracedId →
        Reports b env sid envelope (passOn sid session tracedId).bus ∧
          StreamEffect b websocket session envelope (passOn sid session tracedId)) :
    ProviderEffect b env websocket envelope
      (match b.providerSession env envelope with
        | none => b.done
        | some (sid, session) =>
            match TraceEvent.execIdOf (JsonObj.getD envelope.payload "exec_id" (.str "")) with
            | .error e => b.raise e
            | .ok tracedId => passOn sid session tracedId) := by
  split
  · rename_i hprovider
    exact .refused hprovider rfl (List.forall_mem_nil _) rfl
  · rename_i sid session hprovider
    split
    · rename_i e herror
      exact .stream hprovider hstream (.none rfl) (.invalid herror rfl rfl rfl)
    · rename_i tracedId htraced
      obtain ⟨hreports, heffect⟩ := hpassOn sid session tracedId htraced
      exact .stream hprovider hstream hreports heffect

/-- The start and the end of a stream fail when the queue is full. -/
theorem StreamEffect.of_queued {o : Outcome} {r : Bus × Option PyError} {tracedId : Option String}
    (htraced : TraceEvent.execIdOf (JsonObj.getD envelope.payload "exec_id" (.str ""))
      = .ok tracedId)
    (hchunk : envelope.messageType ≠ .execStreamChunk)
    (hqueued : Queued b session envelope.toMessage r)
    (ho : o = { bus := r.1, error := r.2 }) : StreamEffect b websocket session envelope o := by
  subst ho
  cases hqueued with
  | offline hws hqueues herror => exact .offline htraced hws hqueues rfl herror
  | full hws hfull hqueues herror => exact .overflow htraced hws hfull hchunk hqueues rfl herror
  | room hws hroom hputs herror => exact .put htraced hws hroom hputs rfl herror

theorem handleStreamStart_provider (hopen : b.queues.Open)
    (htype : envelope.messageType = .execStreamStart) :
    ProviderEffect b env websocket envelope (b.handleStreamStart env envelope) := by
  have hstream : envelope.messageType.isStream = true := by
    rw [htype]
    rfl
  have hchunk : envelope.messageType ≠ .execStreamChunk := by
    rw [htype]
    exact nofun
  refine stream_provider hstream fun sid session tracedId htraced ↦ ⟨?_, ?_⟩
  · exact .none (sendToRequesterQueued_sessions _ _ _)
  · exact .of_queued htraced hchunk (sendToRequesterQueued_cases (b.record (traceStreamStart
      envelope.tenantId sid tracedId envelope.senderId
      (JsonObj.get envelope.payload "content_type"))) hopen rfl rfl session envelope.toMessage) rfl

theorem handleStreamEnd_provider (hopen : b.queues.Open)
    (htype : envelope.messageType = .execStreamEnd) :
    ProviderEffect b env websocket envelope (b.handleStreamEnd env envelope) := by
  have hstream : envelope.messageType.isStream = true := by
    rw [htype]
    rfl
  have hchunk : envelope.messageType ≠ .execStreamChunk := by
    rw [htype]
    exact nofun
  refine stream_provider hstream fun sid session tracedId htraced ↦ ?_
  dsimp only
  generalize hrecord : b.record (traceStreamEnd envelope.tenantId sid tracedId
    (JsonObj.get envelope.payload "total_chunks")
    (JsonObj.get envelope.payload "total_bytes")) = b₁
  obtain ⟨hregistry, hqueues, hsessions⟩ : b₁.registry = b.registry ∧ b₁.queues = b.queues ∧
      b₁.sessions = b.sessions := by
    rw [← hrecord]
    exact ⟨rfl, rfl, rfl⟩
  obtain ⟨hregistry', hqueues'⟩ := updateExecution_if b₁ env sid
    (JsonObj.getD envelope.payload "exec_id" (.str "")).truthy
    (JsonObj.getD envelope.payload "exec_id" (.str "")) .completed none none
  constructor
  · by_cases htruthy : (JsonObj.getD envelope.payload "exec_id" (.str "")).truthy = true
    · refine .update .completed none none (by rw [htype]; rfl) ?_
      rw [if_pos htruthy, ← getD_of_truthy htruthy, ← hsessions]
      exact sendToRequesterQueued_sessions _ _ _
    · refine .none ?_
      rw [if_neg htruthy, ← hsessions]
      exact sendToRequesterQueued_sessions _ _ _
  · exact .of_queued htraced hchunk (sendToRequesterQueued_cases _ hopen
      (hregistry'.trans hregistry) (hqueues'.trans hqueues) session envelope.toMessage) rfl

/-- Both sides get the same message about a stream that ends early. -/
theorem endStream_sends {ws : Nat} (b : Bus) (env : Env) (websocket : Nat) (sid : UUID)
    (envelope : MessageEnvelope) (execId : Json) (tracedId : Option String)
    (hws : b.registry.getWebsocket session.requesterConnId = some ws) : ∃ message,
      message.messageType = .execError ∧
      (b.endStream env websocket sid session envelope execId tracedId).sends
        = [(websocket, message), (ws, message)] := by
  refine ⟨createExecError envelope.tenantId sid (envelope.correlationId.getD (env.uuid 0)) execId
    "BACKPRESSURE" "Requester queue full, stream terminated", rfl, ?_⟩
  dsimp only [endStream, record]
  rw [hws]
  rfl

theorem handleStreamChunk_provider (hopen : b.queues.Open)
    (htype : envelope.messageType = .execStreamChunk) :
    ProviderEffect b env websocket envelope (b.handleStreamChunk env websocket envelope) := by
  have hstream : envelope.messageType.isStream = true := by
    rw [htype]
    rfl
  refine stream_provider hstream fun sid session tracedId htraced ↦ ?_
  dsimp only
  generalize hrecord : b.record (traceStreamChunk envelope.tenantId sid tracedId
    (JsonObj.getD envelope.payload "seq" (.int 0))
    (chunkLen (JsonObj.getD envelope.payload "data" (.str "")))) = b₁
  obtain ⟨hregistry, hqueues, hsessions⟩ : b₁.registry = b.registry ∧ b₁.queues = b.queues ∧
      b₁.sessions = b.sessions := by
    rw [← hrecord]
    exact ⟨rfl, rfl, rfl⟩
  have hqueued := sendToRequesterQueued_cases b₁ hopen hregistry hqueues session envelope.toMessage
  have hsame := sendToRequesterQueued_frame b₁ session envelope.toMessage
  generalize b₁.sendToRequesterQueued session envelope.toMessage = r at hqueued hsame
  obtain ⟨b₂, error⟩ := r
  have hreports : Reports b env sid envelope b₂ := .none (hsame.1.trans hsessions)
  cases hqueued with
  | offline hws hqueues herror =>
      obtain rfl : error = none := herror
      exact ⟨hreports, .offline htraced hws hqueues rfl rfl⟩
  | full hws hfull hqueues herror =>
      obtain rfl : error = some .queueFullError := herror
      have hws' : b₂.registry.getWebsocket session.requesterConnId = some _ :=
        (congrArg (AgentRegistry.getWebsocket · _) (hsame.2.trans hregistry)).trans hws
      obtain ⟨message, hmessage, hsends⟩ := b₂.endStream_sends env websocket sid envelope
        (JsonObj.getD envelope.payload "exec_id" (.str "")) tracedId hws'
      exact ⟨.none (hsame.1.trans hsessions),
        .backpressure htraced hws hfull htype hqueues hsends hmessage rfl⟩
  | room hws hroom hputs herror =>
      obtain rfl : error = none := herror
      exact ⟨hreports, .put htraced hws hroom hputs rfl rfl⟩

/-- What a message of a provider does. -/
theorem handleMessage_provider (hopen : b.queues.Open)
    (htype : envelope.messageType.isDirect = true ∨ envelope.messageType.isStream = true) :
    ProviderEffect b env websocket envelope (b.handleMessage env websocket connId envelope) := by
  have hmem := MessageType.mem_provider htype
  rw [handleMessage]
  simp only [List.mem_cons, List.not_mem_nil, or_false] at hmem
  rcases hmem with h | h | h | h | h | h | h | h
  · rw [h]
    exact handleExecStatus_provider (by rw [h]; rfl) (by rw [h]; rfl)
  · rw [h]
    exact handleExecStatus_provider (by rw [h]; rfl) (by rw [h]; rfl)
  · rw [h]
    exact handleExecStatus_provider (by rw [h]; rfl) (by rw [h]; rfl)
  · rw [h]
    exact handleExecResult_provider h
  · rw [h]
    exact handleExecPartialFailure_provider (by rw [h]; rfl)
  · rw [h]
    exact handleStreamStart_provider hopen h
  · rw [h]
    exact handleStreamChunk_provider hopen h
  · rw [h]
    exact handleStreamEnd_provider hopen h

end Bus

namespace Server

def sampleActive : Time × Server :=
  playState sampleStart (sampleNegotiation ++ [sampleAgree 300000])

def sampleReport (now : Time) (type : MessageType) (payload : JsonObj) : Time × UUID × Action :=
  (now, ⟨90⟩, .message providerConn (sampleEnvelope type busId "acme" (some ⟨100⟩) payload))

end Server

end SemanticBus
