import SemanticBus.Trace.Retention
import SemanticBus.Transport.Outbound

/-!
# The trace as the record of the sessions

The handlers append trace events as they go: `Bus.appended` lists what a message leaves, and
`Trail` reads the events of a session back, as the offers that were made, the one that was
agreed on, and whether the session was closed.  `trace_replays` says that in every run this
is the state of the session, but for one thing: the end of a lifetime leaves no event.
-/

namespace SemanticBus

/-! ## Reading the events of a session -/

structure TracedOffer where
  offerId : Json
  providerAgentId : Option UUID
  viewIds : Json

def Offer.traced (offer : Offer) : TracedOffer where
  offerId := .str offer.offerId
  providerAgentId := some offer.providerAgentId
  viewIds := .ofStrs offer.viewIds

/-- What the events of a session say about it. -/
structure Trail where
  offers : List TracedOffer := []
  chosen : Option Json := none
  phase : SessionStatus := .negotiating

namespace Trail

def next (trail : Trail) (event : TraceEvent) : Trail :=
  match event.eventType with
  | .intentOffer =>
      { trail with
        offers := trail.offers ++
          [{ offerId := JsonObj.get event.data "offer_id"
             providerAgentId := event.agentId
             viewIds := JsonObj.get event.data "view_ids" }] }
  | .intentAgree =>
      { trail with chosen := some (JsonObj.get event.data "offer_id"), phase := .active }
  | .sessionClosed => { trail with phase := .closed }
  | _ => trail

def read (events : List TraceEvent) : Trail := events.foldl next {}

/-- The trail accounts for a session: it has its offers in their order, the offer that was
agreed on, and its status unless the session has expired. -/
structure Accounts (trail : Trail) (session : Session) : Prop where
  offers : trail.offers = session.offers.map Offer.traced
  chosen : trail.chosen = session.chosenOfferId.map Json.str
  status : trail.phase = session.status ∨ session.status = .expired ∧ trail.phase ≠ .closed

/-- The events that a session is read back from. -/
def Tells (event : TraceEvent) : Prop :=
  event.eventType = .intentOffer ∨ event.eventType = .intentAgree ∨
    event.eventType = .sessionClosed

variable {trail : Trail} {session session' : Session} {event : TraceEvent}
  {events : List TraceEvent}

theorem next_of_not_tells (h : ¬ Tells event) : trail.next event = trail := by
  simp only [Tells, not_or] at h
  obtain ⟨hoffer, hagree, hclosed⟩ := h
  rw [next]
  split
  · rename_i htype
    exact absurd htype hoffer
  · rename_i htype
    exact absurd htype hagree
  · rename_i htype
    exact absurd htype hclosed
  · rfl

theorem foldl_next_of_not_tells (h : ∀ event ∈ events, ¬ Tells event) :
    events.foldl next trail = trail := by
  induction events with
  | nil => rfl
  | cons event events ih =>
      obtain ⟨hevent, hevents⟩ := List.forall_mem_cons.mp h
      rw [List.foldl_cons, next_of_not_tells hevent, ih hevents]

theorem read_append (events events' : List TraceEvent) :
    read (events ++ events') = events'.foldl next (read events) := List.foldl_append

/-- What the trail does not record may change. -/
theorem Accounts.congr (h : trail.Accounts session) (hoffers : session'.offers = session.offers)
    (hchosen : session'.chosenOfferId = session.chosenOfferId)
    (hstatus : session'.status = session.status) : trail.Accounts session' where
  offers := by rw [hoffers, h.offers]
  chosen := by rw [hchosen, h.chosen]
  status := by rw [hstatus]; exact h.status

/-- The events lead from any account of the first session to one of the second. -/
def Leads (events : List TraceEvent) (session session' : Session) : Prop :=
  ∀ trail : Trail, trail.Accounts session → (events.foldl next trail).Accounts session'

/-- Nothing to tell, and nothing happened. -/
theorem Leads.of_eq (h : ∀ event ∈ events, ¬ Tells event)
    (hoffers : session'.offers = session.offers)
    (hchosen : session'.chosenOfferId = session.chosenOfferId)
    (hstatus : session'.status = session.status) : Leads events session session' := by
  intro trail haccounts
  rw [foldl_next_of_not_tells h]
  exact haccounts.congr hoffers hchosen hstatus

theorem Leads.refl (h : ∀ event ∈ events, ¬ Tells event) (session : Session) :
    Leads events session session := .of_eq h rfl rfl rfl

theorem leads_offer (tenantId : String) (sid : UUID) {offer : Offer} {viewIds : Json}
    (hviews : viewIds.orElse (.arr []) = .ofStrs offer.viewIds) (session : Session) :
    Leads [traceIntentOffer tenantId sid offer.providerAgentId offer.offerId viewIds] session
      (session.addOffer offer) := by
  intro trail h
  have hread : JsonObj.get (traceIntentOffer tenantId sid offer.providerAgentId offer.offerId
      viewIds).data "view_ids" = viewIds.orElse (.arr []) := rfl
  refine ⟨?_, h.chosen, h.status⟩
  show trail.offers ++ [(⟨.str offer.offerId, some offer.providerAgentId, _⟩ : TracedOffer)]
    = (session.offers ++ [offer]).map Offer.traced
  rw [hread, hviews, List.map_append, h.offers]
  rfl

theorem leads_agree (tenantId : String) (sid requesterId providerId : UUID) (offerId : String)
    (chosenViewId : Json) (session : Session) (now : Time) :
    Leads [traceIntentAgree tenantId sid requesterId providerId (.str offerId) chosenViewId,
      traceSessionCreated tenantId sid requesterId providerId] session
      (Bus.activate session now offerId) :=
  fun _ h ↦ ⟨h.offers, rfl, .inl rfl⟩

theorem leads_close (tenantId : String) (sid : UUID) (reason : Json) (session : Session)
    (now : Time) :
    Leads [traceSessionClosed tenantId sid reason] session (session.close now) :=
  fun _ h ↦ ⟨h.offers, h.chosen, .inl rfl⟩

/-- The end of a lifetime changes nothing but the status, which was not closed. -/
theorem Accounts.expire (h : trail.Accounts session) {now : Time}
    (hlapsed : SessionManager.lapsed session now = true) :
    trail.Accounts (session.expire now) := by
  simp only [SessionManager.lapsed, Bool.and_eq_true, decide_eq_true_eq] at hlapsed
  obtain ⟨⟨-, hclosed⟩, hexpired⟩ := hlapsed
  refine ⟨h.offers, h.chosen, .inr ⟨rfl, ?_⟩⟩
  rcases h.status with hphase | ⟨hstatus, -⟩
  · rw [hphase]
    exact hclosed
  · exact absurd hstatus hexpired

end Trail

namespace Bus

variable {b : Bus} {env : Env} {websocket : Nat} {connId : String} {envelope : MessageEnvelope}
  {sid : UUID}

/-! ## What the handlers append -/

def tracedOffer (b : Bus) (env : Env) (connId : String) (envelope : MessageEnvelope)
    (sessionId : UUID) : List TraceEvent :=
  let body : JsonObj := envelope.payload
  match b.sessions.addOffer b.library.floatOfStr env.now (offerIdOf (env.uuid 0)) sessionId
      envelope.senderId connId (body.getD "schema_ids" (.arr [])) (body.getD "view_ids" (.arr []))
      (body.getD "requires" (.arr [])) (body.getD "accepts" (.arr []))
      (body.getD "score" (.float 0)) (body.getD "metadata" (.obj [])) with
  | .ok (_, some offer) => [traceIntentOffer envelope.tenantId sessionId envelope.senderId
      offer.offerId (body.getD "view_ids" (.arr []))]
  | _ => []

/-- The events of an agreement to the aggregated offer. -/
def tracedAgree (b : Bus) (envelope : MessageEnvelope) (sessionId : UUID) : List TraceEvent :=
  let body : JsonObj := envelope.payload
  match b.sessions.getSession sessionId, body.get "offer_id" with
  | some session, .str offerId =>
      if offerId ≠ "" ∧ session.requesterAgentId = envelope.senderId ∧
          session.aggregatedOfferId = some offerId then
        [traceIntentAgree session.tenantId session.ephemeralInterfaceId session.requesterAgentId
            busId (.str offerId) (body.get "chosen_view_id"),
          traceSessionCreated session.tenantId session.ephemeralInterfaceId
            session.requesterAgentId busId]
      else []
  | _, _ => []

def tracedClose (b : Bus) (envelope : MessageEnvelope) (sessionId : UUID) : List TraceEvent :=
  match b.sessions.getSession sessionId with
  | none => []
  | some session => [traceSessionClosed session.tenantId sessionId
      ((JsonObj.get envelope.payload "reason").orElse (.str "explicit"))]

def tracedResult (b : Bus) (envelope : MessageEnvelope) (sessionId : UUID) (session : Session) :
    List TraceEvent :=
  let body : JsonObj := envelope.payload
  match schemaMismatch session envelope.schemaId, b.viewValid session envelope.senderId body,
      TraceEvent.execIdOf ((body.get "exec_id").orElse (.str "")) with
  | none, .ok valid, .ok tracedId =>
      [traceExecResult envelope.tenantId sessionId tracedId envelope.senderId valid]
  | _, _, _ => []

/-- The events of a chunk, the second one if the queue of the requester is full. -/
def tracedChunk (b : Bus) (envelope : MessageEnvelope) (sessionId : UUID) (session : Session)
    (tracedId : Option String) : List TraceEvent :=
  let body : JsonObj := envelope.payload
  traceStreamChunk envelope.tenantId sessionId tracedId (body.getD "seq" (.int 0))
      (chunkLen (body.getD "data" (.str ""))) ::
    if (b.sendToRequesterQueued session envelope.toMessage).2 = some .queueFullError then
      [traceStreamBackpressure envelope.tenantId sessionId tracedId b.queues.maxQueueSize]
    else []

/-- The events of a stream message of the provider. -/
def tracedStream (envelope : MessageEnvelope) (events : Option String → List TraceEvent) :
    List TraceEvent :=
  match TraceEvent.execIdOf (JsonObj.getD envelope.payload "exec_id" (.str "")) with
  | .error _ => []
  | .ok tracedId => events tracedId

/-- The events of a message that its provider sends in a session. -/
def tracedInSession (b : Bus) (envelope : MessageEnvelope) (sessionId : UUID)
    (session : Session) : List TraceEvent :=
  let body : JsonObj := envelope.payload
  match envelope.messageType with
  | .execResult => b.tracedResult envelope sessionId session
  | .execStreamStart => tracedStream envelope fun tracedId ↦
      [traceStreamStart envelope.tenantId sessionId tracedId envelope.senderId
        (body.get "content_type")]
  | .execStreamChunk => tracedStream envelope (b.tracedChunk envelope sessionId session)
  | .execStreamEnd => tracedStream envelope fun tracedId ↦
      [traceStreamEnd envelope.tenantId sessionId tracedId (body.get "total_chunks")
        (body.get "total_bytes")]
  | _ => []

/-- The events of a message that only the provider of its session may send. -/
def tracedByProvider (b : Bus) (env : Env) (envelope : MessageEnvelope) : List TraceEvent :=
  (b.providerSession env envelope).elim [] fun found ↦
    b.tracedInSession envelope found.1 found.2

/-- The events that the handling of a message appends. -/
def appended (b : Bus) (env : Env) (connId : String) (envelope : MessageEnvelope) :
    List TraceEvent :=
  match envelope.messageType with
  | .intentOffer => envelope.ephemeralInterfaceId.elim [] (b.tracedOffer env connId envelope)
  | .intentAgree => envelope.ephemeralInterfaceId.elim [] (b.tracedAgree envelope)
  | .sessionClose => envelope.ephemeralInterfaceId.elim [] (b.tracedClose envelope)
  | _ => b.tracedByProvider env envelope

def tracedRegister (b : Bus) (env : Env) (websocket : Nat) (envelope : MessageEnvelope) :
    List TraceEvent :=
  let body : JsonObj := envelope.payload
  let capabilities := body.getD "capabilities" (.arr [])
  match (b.registry.register env.now envelope.senderId envelope.tenantId websocket capabilities
      (body.getD "tags" (.arr [])) (body.getD "schemas" (.obj []))
      (body.getD "metadata" (.obj []))).2 with
  | .error _ => []
  | .ok (connId, _) =>
      [traceAgentRegister envelope.tenantId envelope.senderId connId capabilities]

theorem record_trace (b : Bus) (event : TraceEvent) :
    (b.record event).trace = b.trace.append event := rfl

theorem sendToRequesterQueued_trace (b : Bus) (session : Session) (message : Message) :
    (b.sendToRequesterQueued session message).1.trace = b.trace := by
  rw [sendToRequesterQueued]
  split
  · rfl
  · dsimp only
    split
    · rfl
    · rfl

theorem sendToRequesterQueued_maxQueueSize (b : Bus) (session : Session) (message : Message) :
    (b.sendToRequesterQueued session message).1.queues.maxQueueSize = b.queues.maxQueueSize := by
  rw [sendToRequesterQueued]
  split
  · rfl
  · rename_i websocket _
    have hsize : (b.queues.getOrCreate session.requesterConnId websocket).1.maxQueueSize
        = b.queues.maxQueueSize := by
      rw [ConnectionQueueManager.getOrCreate]
      split
      · rfl
      · rfl
    dsimp only
    split
    · exact hsize
    · exact hsize

/-- Whether a message finds room does not depend on the trace. -/
theorem sendToRequesterQueued_record (b : Bus) (event : TraceEvent) (session : Session)
    (message : Message) :
    ((b.record event).sendToRequesterQueued session message).2
      = (b.sendToRequesterQueued session message).2 := by
  rw [sendToRequesterQueued, sendToRequesterQueued]
  have hregistry : (b.record event).registry = b.registry := rfl
  have hqueues : (b.record event).queues = b.queues := rfl
  rw [hregistry, hqueues]
  cases b.registry.getWebsocket session.requesterConnId with
  | none => rfl
  | some websocket =>
      dsimp only
      cases (b.queues.getOrCreate session.requesterConnId websocket).2.putNowait message with
      | error e => rfl
      | ok q => rfl

/-- A report on an execution leaves the trace alone. -/
theorem updateExecution_trace {p : Prop} [Decidable p] {execId : Json} {status : ExecutionStatus}
    {resultViewId : Option Json} {resultValid : Option Bool} :
    (if p then b.updateExecution env sid execId status resultViewId resultValid else b).trace
      = b.trace := by
  split
  · rfl
  · rfl

theorem handleExecStatus_trace {status : ExecutionStatus} :
    (handleExecStatus status b env envelope).bus.trace = b.trace := by
  rw [handleExecStatus]
  split
  · rfl
  · dsimp only
    rw [forward_bus, updateExecution_trace]

theorem handleExecResult_trace : (b.handleExecResult env websocket envelope).bus.trace
    = ((b.providerSession env envelope).elim [] fun found ↦
        b.tracedResult envelope found.1 found.2).foldl SemanticTraceStore.append b.trace := by
  rw [← checkProvider_toOption b env envelope "exec.result", handleExecResult]
  cases b.checkProvider env envelope "exec.result" with
  | error e => rfl
  | ok found =>
  obtain ⟨sid, session⟩ := found
  rw [Except.toOption, Option.elim_some, tracedResult]
  dsimp only
  cases schemaMismatch session envelope.schemaId with
  | some chosen => exact updateExecution_trace
  | none =>
      dsimp only
      cases b.viewValid session envelope.senderId envelope.payload with
      | error e => rfl
      | ok valid =>
          dsimp only
          cases TraceEvent.execIdOf ((JsonObj.get envelope.payload "exec_id").orElse (.str "")) with
          | error e => exact updateExecution_trace
          | ok tracedId =>
              dsimp only
              split
              · show (record _ _).trace = _
                rw [record_trace, updateExecution_trace]
                rfl
              · show (record _ _).trace = _
                rw [record_trace, updateExecution_trace]
                rfl

theorem handleStreamStart_trace : (b.handleStreamStart env envelope).bus.trace
    = ((b.providerSession env envelope).elim [] fun found ↦
        tracedStream envelope fun tracedId ↦
            [traceStreamStart envelope.tenantId found.1 tracedId envelope.senderId
              (JsonObj.get envelope.payload "content_type")]).foldl
          SemanticTraceStore.append b.trace := by
  rw [handleStreamStart]
  cases b.providerSession env envelope with
  | none => rfl
  | some found =>
  obtain ⟨sid, session⟩ := found
  dsimp only [Option.elim_some, tracedStream]
  cases TraceEvent.execIdOf (JsonObj.getD envelope.payload "exec_id" (.str "")) with
  | error e => rfl
  | ok tracedId => exact sendToRequesterQueued_trace _ _ _

theorem handleStreamEnd_trace : (b.handleStreamEnd env envelope).bus.trace
    = ((b.providerSession env envelope).elim [] fun found ↦
        tracedStream envelope fun tracedId ↦
            [traceStreamEnd envelope.tenantId found.1 tracedId
              (JsonObj.get envelope.payload "total_chunks")
              (JsonObj.get envelope.payload "total_bytes")]).foldl
          SemanticTraceStore.append b.trace := by
  rw [handleStreamEnd]
  cases b.providerSession env envelope with
  | none => rfl
  | some found =>
  obtain ⟨sid, session⟩ := found
  dsimp only [Option.elim_some, tracedStream]
  cases TraceEvent.execIdOf (JsonObj.getD envelope.payload "exec_id" (.str "")) with
  | error e => rfl
  | ok tracedId =>
      dsimp only
      rw [sendToRequesterQueued_trace, updateExecution_trace]
      rfl

theorem handleStreamChunk_trace : (b.handleStreamChunk env websocket envelope).bus.trace
    = ((b.providerSession env envelope).elim [] fun found ↦
        tracedStream envelope (b.tracedChunk envelope found.1 found.2)).foldl
          SemanticTraceStore.append b.trace := by
  rw [handleStreamChunk]
  cases b.providerSession env envelope with
  | none => rfl
  | some found =>
  obtain ⟨sid, session⟩ := found
  dsimp only [Option.elim_some, tracedStream, tracedChunk]
  cases TraceEvent.execIdOf (JsonObj.getD envelope.payload "exec_id" (.str "")) with
  | error e => rfl
  | ok tracedId =>
      dsimp only
      generalize hchunk : traceStreamChunk envelope.tenantId sid tracedId
        (JsonObj.getD envelope.payload "seq" (.int 0))
        (chunkLen (JsonObj.getD envelope.payload "data" (.str ""))) = chunk
      have htrace := sendToRequesterQueued_trace (b.record chunk) session envelope.toMessage
      have hsize := sendToRequesterQueued_maxQueueSize (b.record chunk) session envelope.toMessage
      rw [← sendToRequesterQueued_record b chunk]
      split
      · rename_i hqueued
        rw [hqueued] at htrace ⊢
        exact htrace
      · rename_i hqueued
        rw [hqueued] at htrace hsize ⊢
        dsimp only at htrace hsize
        show (record _ _).trace = _
        rw [record_trace, htrace, hsize]
        rfl
      · rename_i e hother hqueued
        rw [hqueued] at htrace ⊢
        rw [if_neg fun heq ↦ hother (Option.some.inj heq)]
        exact htrace

/-- The messages of a provider that leave a trace. -/
def Leaves (type : MessageType) : Prop :=
  type ∈ [.execResult, .execStreamStart, .execStreamChunk, .execStreamEnd]

instance (type : MessageType) : Decidable (Leaves type) :=
  inferInstanceAs (Decidable (type ∈ _))

theorem tracedInSession_eq_nil {session : Session} (h : ¬ Leaves envelope.messageType) :
    b.tracedInSession envelope sid session = [] := by
  rw [tracedInSession]
  split
  all_goals first
    | rfl
    | rename_i htype
      rw [htype] at h
      exact absurd (by decide) h

theorem tracedByProvider_eq_nil (h : ¬ Leaves envelope.messageType) :
    b.tracedByProvider env envelope = [] := by
  rw [tracedByProvider]
  cases b.providerSession env envelope with
  | none => rfl
  | some found => exact tracedInSession_eq_nil h

/-- The other messages leave the trace alone. -/
theorem handleMessage_trace_of_not_leaves (h : ¬ Leaves envelope.messageType)
    (hoffer : envelope.messageType ≠ .intentOffer) (hagree : envelope.messageType ≠ .intentAgree)
    (hclose : envelope.messageType ≠ .sessionClose) :
    (b.handleMessage env websocket connId envelope).bus.trace = b.trace := by
  have habsurd : ∀ type, envelope.messageType = type → Leaves type → False :=
    fun type htype hleaves ↦ h (htype ▸ hleaves)
  rw [handleMessage]
  split
  · unfold handleHeartbeat
    dsimp only
    split
    · rfl
    · rfl
  · rfl
  · rw [handleIntentBroadcast]
    split
    · rfl
    · rfl
  · exact absurd ‹_› hoffer
  · exact absurd ‹_› hagree
  · exact absurd ‹_› hclose
  · rw [handleExecRequest]
    repeat' split
    all_goals rfl
  · exact handleExecStatus_trace
  · exact handleExecStatus_trace
  · exact (habsurd _ ‹_› (by decide)).elim
  · exact handleExecStatus_trace
  · rw [handleExecPartialFailure]
    repeat' split
    all_goals rfl
  · exact (habsurd _ ‹_› (by decide)).elim
  · exact (habsurd _ ‹_› (by decide)).elim
  · exact (habsurd _ ‹_› (by decide)).elim
  · unfold handleTraceGet
    dsimp only
    repeat' split
    all_goals rfl
  · unfold handleEventSubscribe
    dsimp only
    repeat' split
    all_goals rfl
  · unfold handleEventUnsubscribe
    dsimp only
    repeat' split
    all_goals rfl
  · rw [handleEmitEvent]
    repeat' split
    all_goals rfl
  · rfl

theorem handleMessage_trace (hoffer : envelope.messageType ≠ .intentOffer)
    (hagree : envelope.messageType ≠ .intentAgree) (hclose : envelope.messageType ≠ .sessionClose) :
    (b.handleMessage env websocket connId envelope).bus.trace
      = (b.tracedByProvider env envelope).foldl SemanticTraceStore.append b.trace := by
  by_cases hleaves : Leaves envelope.messageType
  · simp only [Leaves, List.mem_cons, List.not_mem_nil, or_false] at hleaves
    rcases hleaves with htype | htype | htype | htype
    all_goals
      rw [handleMessage, tracedByProvider, htype]
      simp only [tracedInSession, htype]
    · exact handleExecResult_trace
    · exact handleStreamStart_trace
    · exact handleStreamChunk_trace
    · exact handleStreamEnd_trace
  · rw [tracedByProvider_eq_nil hleaves]
    exact handleMessage_trace_of_not_leaves hleaves hoffer hagree hclose

theorem handleRegister_trace : (b.handleRegister env websocket envelope).1.bus.trace
    = (b.tracedRegister env websocket envelope).foldl SemanticTraceStore.append b.trace := by
  rw [handleRegister, tracedRegister]
  dsimp only
  split
  · rename_i heq
    rw [heq]
    rfl
  · rename_i heq
    rw [heq]
    rfl

/-! ## What the events say about the sessions -/

abbrev eventsIn (sid : UUID) (events : List TraceEvent) : List TraceEvent :=
  cameTo (·.ephemeralInterfaceId) (some sid) events

/-- The events of one session tell of its change. -/
theorem leads_update {m : SessionManager} {target : UUID} {f : Session → Session}
    {events : List TraceEvent} (hplace : ∀ event ∈ events, event.ephemeralInterfaceId = some target)
    (hf : ∀ session, m.getSession target = some session → Trail.Leads events session (f session)) :
    Option.Rel (Trail.Leads (eventsIn sid events)) (m.getSession sid)
      ((m.update target f).getSession sid) := by
  rw [SessionManager.getSession_update]
  split
  · rename_i hsid
    have hall : eventsIn sid events = events :=
      List.filter_eq_self.mpr fun event hevent ↦
        decide_eq_true ((hplace event hevent).trans (congrArg some hsid.symm))
    rw [hall, hsid]
    cases hget : m.getSession target with
    | none => exact .none
    | some session => exact .some (hf session hget)
  · rename_i hsid
    have hnone : eventsIn sid events = [] :=
      List.filter_eq_nil_iff.mpr fun event hevent heq ↦ hsid
        (Option.some.inj ((hplace event hevent).symm.trans (of_decide_eq_true heq))).symm
    rw [hnone]
    cases m.getSession sid with
    | none => exact .none
    | some session => exact .some (.refl (fun _ h ↦ absurd h List.not_mem_nil) session)

/-- Nothing is told, and nothing happened. -/
theorem leads_same {m : SessionManager} {events : List TraceEvent}
    (h : ∀ event ∈ events, ¬ Trail.Tells event) :
    Option.Rel (Trail.Leads (eventsIn sid events)) (m.getSession sid) (m.getSession sid) := by
  cases m.getSession sid with
  | none => exact .none
  | some session => exact .some (.refl (fun event hevent ↦ h event (List.mem_of_mem_filter hevent)) session)

/-- A list of texts is what it is read as. -/
theorem ofStrs_of_strList {j : Json} {ss : List String} (h : j.strList? = some ss) :
    j = .ofStrs ss := by
  unfold Json.strList? at h
  split at h
  · rename_i elems
    rw [Json.ofStrs, Json.arr.injEq]
    induction elems generalizing ss with
    | nil =>
        obtain rfl := Option.some.inj h
        rfl
    | cons elem elems ih =>
        rw [List.mapM_cons] at h
        obtain ⟨s, hs, h⟩ := Option.bind_eq_some_iff.mp h
        obtain ⟨rest, hrest, h⟩ := Option.bind_eq_some_iff.mp h
        obtain rfl := Option.some.inj h
        rw [List.map_cons, ← ih hrest]
        cases elem with
        | str _ =>
            obtain rfl := Option.some.inj hs
            rfl
        | null | bool _ | int _ | float _ | arr _ | obj _ => cases hs
  · cases h

theorem viewIds_of_addOffer {m m' : SessionManager} {floatOfStr : String → Option ℚ} {now : Time}
    {offerId : String} {agentId : UUID}
    {schemaIds viewIds requires accepts score metadata : Json} {offer : Offer}
    (h : m.addOffer floatOfStr now offerId sid agentId connId schemaIds viewIds requires accepts
      score metadata = .ok (m', some offer)) :
    viewIds.orElse (.arr []) = .ofStrs offer.viewIds := by
  rw [SessionManager.addOffer] at h
  split at h
  · cases h
  · split_ifs at h
    · split at h
      · cases h
      · rename_i built hbuilt
        obtain ⟨-, hoffer⟩ := Prod.mk.inj (Except.ok.inj h)
        obtain rfl := Option.some.inj hoffer
        rw [Offer.construct] at hbuilt
        split at hbuilt
        · rename_i hviews _ _ _ _
          obtain rfl := Except.ok.inj hbuilt
          exact ofStrs_of_strList hviews
        · cases hbuilt
    · cases h

/-- The types of the events that belong to a session. -/
def sessionKinds : List TraceEventType :=
  [.intentOffer, .intentAgree, .sessionCreated, .sessionClosed, .execResult, .streamStart,
    .streamChunk, .streamEnd, .streamBackpressure]

/-- What happened to the bus is told by events: they are what the trace has more, each is
of a session of the bus, and those of a session lead from what it was to what it is. -/
structure Told (b : Bus) (events : List TraceEvent) (b' : Bus) : Prop where
  trace : b'.trace = events.foldl SemanticTraceStore.append b.trace
  leads : ∀ sid, Option.Rel (Trail.Leads (eventsIn sid events)) (b.sessions.getSession sid)
    (b'.sessions.getSession sid)
  placed : ∀ event ∈ events, ∃ sid session,
    event.ephemeralInterfaceId = some sid ∧ b.sessions.getSession sid = some session
  kinds : ∀ event ∈ events, event.eventType ∈ sessionKinds

/-- Nothing happened that is told. -/
theorem Told.silent {b' : Bus} (htrace : b'.trace = b.trace)
    (hsessions : b'.sessions = b.sessions) : Told b [] b' where
  trace := htrace
  leads sid := by
    rw [hsessions]
    exact leads_same fun _ h ↦ absurd h List.not_mem_nil
  placed _ h := absurd h List.not_mem_nil
  kinds _ h := absurd h List.not_mem_nil

/-- One session changed. -/
theorem Told.update {b' : Bus} {events : List TraceEvent} {session : Session} {f : Session → Session}
    (htrace : b'.trace = events.foldl SemanticTraceStore.append b.trace)
    (hsessions : b'.sessions = b.sessions.update sid f)
    (hget : b.sessions.getSession sid = some session)
    (hplace : ∀ event ∈ events, event.ephemeralInterfaceId = some sid)
    (hkinds : ∀ event ∈ events, event.eventType ∈ sessionKinds)
    (hleads : Trail.Leads events session (f session)) : Told b events b' where
  trace := htrace
  leads j := by
    rw [hsessions]
    refine leads_update hplace fun found hfound ↦ ?_
    obtain rfl := Option.some.inj (hget.symm.trans hfound)
    exact hleads
  placed event hevent := ⟨sid, session, hplace event hevent, hget⟩
  kinds := hkinds

theorem handleIntentOffer_told (hsid : envelope.ephemeralInterfaceId = some sid) :
    Told b (b.tracedOffer env connId envelope sid)
      (b.handleIntentOffer env websocket connId envelope).bus := by
  rw [handleIntentOffer, hsid, tracedOffer]
  dsimp only
  cases hget : b.sessions.getSession sid with
  | none =>
      rw [SessionManager.addOffer, hget]
      exact .silent rfl rfl
  | some found =>
      dsimp only
      split
      · rename_i sessions offer hoffer
        rw [hoffer]
        obtain ⟨rfl, hagent, -⟩ := addOffer_ok hoffer
        refine .update rfl rfl hget (fun event hevent ↦ ?_) (fun event hevent ↦ ?_) ?_
        · rw [List.mem_singleton.mp hevent]
          rfl
        · rw [List.mem_singleton.mp hevent]
          exact List.mem_cons_self
        · rw [← hagent]
          exact Trail.leads_offer _ _ (viewIds_of_addOffer hoffer) found
      · split
        · exact .silent rfl rfl
        · exact .silent rfl rfl
        · rename_i hother _ _ _ hoffer
          exact absurd hoffer (hother _ _)

theorem handleIntentAgree_told (hb : b.Sound) (hsid : envelope.ephemeralInterfaceId = some sid) :
    Told b (b.tracedAgree envelope sid) (b.handleIntentAgree env websocket envelope).bus := by
  rw [handleIntentAgree, hsid, tracedAgree]
  dsimp only
  cases hget : b.sessions.getSession sid with
  | none =>
      dsimp only
      split
      · exact .silent rfl rfl
      · exact .silent rfl rfl
  | some session =>
      dsimp only
      cases JsonObj.get envelope.payload "offer_id" with
      | str offerId =>
          dsimp only
          have htruthy : (!(Json.str offerId).truthy) = true ↔ offerId = "" := by
            simp [Json.truthy]
          by_cases hempty : offerId = ""
          · rw [if_pos (htruthy.mpr hempty), if_neg fun h ↦ h.1 hempty]
            exact .silent rfl rfl
          · rw [if_neg (mt htruthy.mp hempty)]
            by_cases hrequester : session.requesterAgentId = envelope.senderId
            · rw [if_neg (not_not.mpr hrequester)]
              by_cases hoffer : session.aggregatedOfferId = some offerId
              · rw [if_neg (not_not.mpr hoffer), if_pos ⟨hempty, hrequester, hoffer⟩]
                have hid := congrArg some (hb.keyed sid session hget)
                refine .update rfl rfl hget ?_ ?_ (Trail.leads_agree _ _ _ _ _ _ session env.now)
                · exact List.forall_mem_cons.mpr ⟨hid, List.forall_mem_singleton.mpr hid⟩
                · have hagree : TraceEventType.intentAgree ∈ sessionKinds := by decide
                  have hcreated : TraceEventType.sessionCreated ∈ sessionKinds := by decide
                  exact List.forall_mem_cons.mpr ⟨hagree, List.forall_mem_singleton.mpr hcreated⟩
              · rw [if_pos hoffer, if_neg fun h ↦ hoffer h.2.2]
                exact .silent rfl rfl
            · rw [if_pos hrequester, if_neg fun h ↦ hrequester h.2.1]
              exact .silent rfl rfl
      | null | bool _ | int _ | float _ | arr _ | obj _ =>
          dsimp only
          split
          · exact .silent rfl rfl
          · split
            · exact .silent rfl rfl
            · exact .silent rfl rfl

theorem handleSessionClose_told (hsid : envelope.ephemeralInterfaceId = some sid) :
    Told b (b.tracedClose envelope sid)
      (b.handleSessionClose env websocket connId envelope).bus := by
  rw [handleSessionClose, hsid, tracedClose]
  dsimp only [SessionManager.closeSession]
  cases hget : b.sessions.getSession sid with
  | none => exact .silent rfl rfl
  | some session =>
      dsimp only
      split
      all_goals
        refine .update rfl rfl hget ?_ ?_ (Trail.leads_close _ _ _ session env.now)
        · exact List.forall_mem_singleton.mpr rfl
        · have hclosed : TraceEventType.sessionClosed ∈ sessionKinds := by decide
          exact List.forall_mem_singleton.mpr hclosed

/-- An event of a session that tells nothing. -/
def Aside (sid : UUID) (event : TraceEvent) : Prop :=
  event.ephemeralInterfaceId = some sid ∧
    event.eventType ∈ [.execResult, .streamStart, .streamChunk, .streamEnd, .streamBackpressure]

theorem Aside.kinds {event : TraceEvent} (h : Aside sid event) :
    event.eventType ∈ sessionKinds := by
  have hsubset : [.execResult, .streamStart, .streamChunk, .streamEnd, .streamBackpressure]
      ⊆ sessionKinds := by decide
  exact hsubset h.2

theorem Aside.not_tells {event : TraceEvent} (h : Aside sid event) : ¬ Trail.Tells event := by
  obtain ⟨-, hkind⟩ := h
  rintro (htype | htype | htype)
  all_goals
    rw [htype] at hkind
    exact absurd hkind (by decide)

theorem aside_tracedStream {events : Option String → List TraceEvent}
    (h : ∀ tracedId, ∀ event ∈ events tracedId, Aside sid event) :
    ∀ event ∈ tracedStream envelope events, Aside sid event := by
  rw [tracedStream]
  split
  · exact fun _ h ↦ absurd h List.not_mem_nil
  · exact h _

/-- The events of a provider's message are of its session, and tell nothing. -/
theorem aside_tracedInSession (session : Session) :
    ∀ event ∈ b.tracedInSession envelope sid session, Aside sid event := by
  rw [tracedInSession]
  split
  · rw [tracedResult]
    split
    · exact List.forall_mem_singleton.mpr ⟨rfl, by simp [traceExecResult]⟩
    · exact fun _ h ↦ absurd h List.not_mem_nil
  · exact aside_tracedStream fun _ ↦
      List.forall_mem_singleton.mpr ⟨rfl, by simp [traceStreamStart]⟩
  · refine aside_tracedStream fun tracedId ↦ ?_
    rw [tracedChunk]
    refine List.forall_mem_cons.mpr ⟨⟨rfl, by simp [traceStreamChunk]⟩, ?_⟩
    split
    · exact List.forall_mem_singleton.mpr ⟨rfl, by simp [traceStreamBackpressure]⟩
    · exact fun _ h ↦ absurd h List.not_mem_nil
  · exact aside_tracedStream fun _ ↦
      List.forall_mem_singleton.mpr ⟨rfl, by simp [traceStreamEnd]⟩
  · exact fun _ h ↦ absurd h List.not_mem_nil

/-- A message that negotiates nothing. -/
theorem told_aside (hoffer : envelope.messageType ≠ .intentOffer)
    (hagree : envelope.messageType ≠ .intentAgree) (hclose : envelope.messageType ≠ .sessionClose) :
    Told b (b.tracedByProvider env envelope)
      (b.handleMessage env websocket connId envelope).bus := by
  have haside : ∀ event ∈ b.tracedByProvider env envelope, ∃ sid session,
      Aside sid event ∧ b.sessions.getSession sid = some session := by
    intro event hevent
    rw [tracedByProvider] at hevent
    cases hprovider : b.providerSession env envelope with
    | none =>
        rw [hprovider] at hevent
        cases hevent
    | some found =>
        obtain ⟨sid, session⟩ := found
        rw [hprovider] at hevent
        obtain ⟨-, hvalid, -⟩ := providerSession_some hprovider
        exact ⟨sid, session, aside_tracedInSession session event hevent,
          (SessionManager.validate_ok hvalid).1⟩
  refine ⟨handleMessage_trace hoffer hagree hclose, fun sid ↦ ?_, fun event hevent ↦ ?_,
    fun event hevent ↦ ?_⟩
  · have htells : ∀ event ∈ eventsIn sid (b.tracedByProvider env envelope),
        ¬ Trail.Tells event := by
      intro event hevent
      obtain ⟨_, _, h, -⟩ := haside event (List.mem_of_mem_filter hevent)
      exact h.not_tells
    have heffect : Option.Rel (MessageEffect b env.now connId envelope sid)
        (b.sessions.getSession sid)
        ((b.handleMessage env websocket connId envelope).bus.sessions.getSession sid) :=
      handleMessage_session
    refine rel_imp (fun session session' heffect ↦ ?_) heffect
    cases heffect with
    | same => exact .refl htells session
    | offer htype _ _ _ _ _ => exact absurd htype hoffer
    | agree htype _ _ _ _ => exact absurd htype hagree
    | close htype _ => exact absurd htype hclose
    | execution _ _ =>
        rw [Session.updateExecutionStatus]
        split
        · exact .refl htells session
        · exact .of_eq htells rfl rfl rfl
  · obtain ⟨sid, session, h, hget⟩ := haside event hevent
    exact ⟨sid, session, h.1, hget⟩
  · obtain ⟨_, _, h, -⟩ := haside event hevent
    exact h.kinds

/-- What a message does to the bus is told by the events that it appends to the trace. -/
theorem handleMessage_told (hb : b.Sound) : Told b (b.appended env connId envelope)
    (b.handleMessage env websocket connId envelope).bus := by
  by_cases hoffer : envelope.messageType = .intentOffer
  · rw [handleMessage, appended, hoffer]
    cases hsid : envelope.ephemeralInterfaceId with
    | none =>
        dsimp only
        rw [handleIntentOffer, hsid]
        exact .silent rfl rfl
    | some target => exact handleIntentOffer_told hsid
  by_cases hagree : envelope.messageType = .intentAgree
  · rw [handleMessage, appended, hagree]
    cases hsid : envelope.ephemeralInterfaceId with
    | none =>
        dsimp only
        rw [handleIntentAgree, hsid]
        exact .silent rfl rfl
    | some target => exact handleIntentAgree_told hb hsid
  by_cases hclose : envelope.messageType = .sessionClose
  · rw [handleMessage, appended, hclose]
    cases hsid : envelope.ephemeralInterfaceId with
    | none =>
        dsimp only
        rw [handleSessionClose, hsid]
        exact .silent rfl rfl
    | some target => exact handleSessionClose_told hsid
  have htraced : b.appended env connId envelope = b.tracedByProvider env envelope := by
    rw [appended]
    split
    · exact absurd ‹_› hoffer
    · exact absurd ‹_› hagree
    · exact absurd ‹_› hclose
    · rfl
  rw [htraced]
  exact told_aside hoffer hagree hclose

end Bus

namespace Server

/-! ## The log of a run -/

/-- The events that an action appends to the trace. -/
def recorded (s : Server) (env : Env) : Action → List TraceEvent
  | .message connId envelope => s.bus.appended env connId envelope
  | .connect websocket envelope =>
      if envelope.messageType = .agentRegister then s.bus.tracedRegister env websocket envelope
      else []
  | _ => []

/-- A log of all events that were recorded. -/
def logged (x : Time × Server) (a : Label) (log : List TraceEvent) : List TraceEvent :=
  log ++ x.2.recorded ⟨a.1, a.2.1⟩ a.2.2

variable {s : Server} {env : Env} {a : Action} {connId : String} {conn : Connection} {o : Outcome}
  {fired : Fired} {sid : UUID} {session session' : Session} {trail : Trail}

theorem resume_trace : (s.resume connId conn o).server.bus.trace = o.bus.trace := by
  rw [resume]
  split
  · rfl
  · rfl

theorem finishFlow_trace {b : Bus} {task : FlowTask} {flow : AgentFlow} {offers : List Offer} :
    (b.finishFlow env task sid flow offers).bus.trace = b.trace := by
  rw [Bus.finishFlow]
  split
  · rfl
  · rfl

/-- The rest of a broadcast leaves no trace. -/
theorem Handles.trace (h : s.Handles env a connId conn o)
    (hother : ∀ connId envelope, a ≠ .message connId envelope) : o.bus.trace = s.bus.trace := by
  cases h with
  | message envelope _ _ => exact absurd rfl (hother _ _)
  | answer answer _ _ =>
      rw [Bus.startFlow]
      split
      · rfl
      · rfl
  | deliver _ _ =>
      rw [Bus.deliverNext]
      split
      · rfl
      · rfl
  | poll _ _ _ =>
      rw [Bus.pollOffers]
      split
      · exact finishFlow_trace
      · split
        · exact finishFlow_trace
        · rfl

theorem connect_trace {websocket : Nat} {envelope : MessageEnvelope}
    (h : s.connect env websocket envelope = some fired) : fired.server.bus.trace
      = (s.recorded env (.connect websocket envelope)).foldl SemanticTraceStore.append
        s.bus.trace := by
  rw [connect] at h
  split_ifs at h with hbusy htype
  · obtain rfl := Option.some.inj h
    rw [recorded, if_neg htype]
    rfl
  · obtain rfl := Option.some.inj h
    rw [recorded, if_pos (not_not.mp htype)]
    exact Bus.handleRegister_trace

/-- Apart from messages, only registrations leave a trace. -/
theorem fire_trace (hother : ∀ connId envelope, a ≠ .message connId envelope)
    (h : s.fire env a = some fired) : fired.server.bus.trace
      = (s.recorded env a).foldl SemanticTraceStore.append s.bus.trace := by
  cases a with
  | message connId envelope => exact absurd rfl (hother connId envelope)
  | connect websocket envelope => exact connect_trace h
  | disconnect connId invalid =>
      obtain ⟨found, -, h⟩ := Option.bind_eq_some_iff.mp h
      split_ifs at h
      obtain rfl := Option.some.inj h
      rfl
  | sessionTick | registryTick =>
      obtain rfl := Option.some.inj h
      rfl
  | queueWrite connId sent =>
      obtain ⟨q, -, rfl⟩ := Option.map_eq_some_iff.mp h
      rfl
  | deliverEvent subscriptionId =>
      obtain ⟨task, -, h⟩ := Option.bind_eq_some_iff.mp h
      obtain ⟨sub, -, h⟩ := Option.bind_eq_some_iff.mp h
      split at h
      · obtain rfl := Option.some.inj h
        rfl
      · cases h
  | answer _ _ | deliver _ | poll _ =>
      obtain ⟨⟨connId, conn, o⟩, houtcome, rfl⟩ := Option.map_eq_some_iff.mp h
      rw [resume_trace]
      exact (handles_of_outcome houtcome).trace hother

/-- Apart from messages, what is recorded is a registration. -/
theorem recorded_register (hother : ∀ connId envelope, a ≠ .message connId envelope) :
    ∀ event ∈ s.recorded env a,
      event.ephemeralInterfaceId = none ∧ event.eventType = .agentRegister := by
  intro event hevent
  unfold recorded at hevent
  split at hevent
  · exact absurd rfl (hother _ _)
  · split at hevent
    · rw [Bus.tracedRegister] at hevent
      split at hevent
      · cases hevent
      · rw [List.mem_singleton.mp hevent]
        exact ⟨rfl, rfl⟩
    · cases hevent
  · cases hevent

/-- Apart from messages, nothing happens to a session that the trail would tell, but the end
of its lifetime. -/
theorem accounts_effect {now : Time} (hother : ∀ connId envelope, a ≠ .message connId envelope)
    (h : Effect now s a sid session session') (haccounts : trail.Accounts session) :
    trail.Accounts session' := by
  cases h with
  | same => exact haccounts
  | message ha _ _ => exact absurd ha (hother _ _)
  | flowInfo _ _ _ => exact haccounts.congr rfl rfl rfl
  | expire _ hlapsed => exact haccounts.expire hlapsed

/-! ## The invariant -/

/-- The trace and the log account for the sessions of the bus. -/
structure Audited (max : Nat) (x : Server × List TraceEvent) : Prop where
  trace : x.1.bus.trace = .after max x.2
  accounts : ∀ sid session, x.1.bus.sessions.getSession sid = some session →
    (Trail.read (Bus.eventsIn sid x.2)).Accounts session
  placed : ∀ event ∈ x.2, ∀ sid, event.ephemeralInterfaceId = some sid →
    ∃ session, x.1.bus.sessions.getSession sid = some session
  kinds : ∀ event ∈ x.2, event.eventType ∈ .agentRegister :: Bus.sessionKinds

variable {max : Nat} {x : Server × List TraceEvent}

theorem Audited.start (library : Library) (settings : Settings) :
    Audited settings.maxEvents (start library settings, []) where
  trace := rfl
  accounts _ _ h := by cases h
  placed _ h := absurd h List.not_mem_nil
  kinds _ h := absurd h List.not_mem_nil

theorem eventsIn_append (sid : UUID) (events events' : List TraceEvent) :
    Bus.eventsIn sid (events ++ events') = Bus.eventsIn sid events ++ Bus.eventsIn sid events' :=
  List.filter_append _ _

theorem after_append (max : Nat) (events events' : List TraceEvent) :
    SemanticTraceStore.after max (events ++ events')
      = events'.foldl SemanticTraceStore.append (.after max events) := List.foldl_append

/-- A message. -/
theorem Audited.message (h : Audited max x) (hs : x.1.bus.Sound) {envelope : MessageEnvelope}
    (hfire : x.1.fire env (.message connId envelope) = some fired) :
    Audited max (fired.server, x.2 ++ x.1.recorded env (.message connId envelope)) := by
  obtain ⟨⟨connId', conn, o⟩, houtcome, rfl⟩ := Option.map_eq_some_iff.mp hfire
  cases handles_of_outcome houtcome with
  | message _ _ _ =>
      have htold : Bus.Told x.1.bus (x.1.bus.appended env connId envelope)
          (x.1.bus.handleMessage env conn.websocket connId envelope).bus := Bus.handleMessage_told hs
      have hback : ∀ sid session, x.1.bus.sessions.getSession sid = some session →
          ∃ session', (x.1.bus.handleMessage env conn.websocket connId envelope).bus.sessions.getSession
            sid = some session' := by
        intro sid session hget
        have hleads := htold.leads sid
        rw [hget] at hleads
        cases hafter : (x.1.bus.handleMessage env conn.websocket connId envelope).bus.sessions.getSession
            sid with
        | none =>
            rw [hafter] at hleads
            cases hleads
        | some session' => exact ⟨session', rfl⟩
      constructor
      · rw [resume_trace, htold.trace, h.trace, after_append]
        rfl
      · intro sid session' hget'
        rw [resume_sessions] at hget'
        have hleads := htold.leads sid
        rw [hget'] at hleads
        cases hget : x.1.bus.sessions.getSession sid with
        | none =>
            rw [hget] at hleads
            cases hleads
        | some session =>
            rw [hget] at hleads
            cases hleads with
            | some hleads =>
                rw [eventsIn_append, Trail.read_append]
                exact hleads _ (h.accounts sid session hget)
      · intro event hevent sid hsid
        rw [resume_sessions]
        rcases List.mem_append.mp hevent with hold | hnew
        · obtain ⟨session, hget⟩ := h.placed event hold sid hsid
          exact hback sid session hget
        · obtain ⟨target, session, htarget, hget⟩ := htold.placed event hnew
          obtain rfl := Option.some.inj (hsid.symm.trans htarget)
          exact hback sid session hget
      · intro event hevent
        rcases List.mem_append.mp hevent with hold | hnew
        · exact h.kinds event hold
        · exact List.mem_cons_of_mem _ (htold.kinds event hnew)

/-- Any other action. -/
theorem Audited.other (h : Audited max x) (hother : ∀ connId envelope, a ≠ .message connId envelope)
    (hfresh : ∀ n, x.1.bus.sessions.getSession (env.uuid n) = none)
    (hfire : x.1.fire env a = some fired) :
    Audited max (fired.server, x.2 ++ x.1.recorded env a) := by
  have hsession := fire_session hfresh hfire
  have hregister : ∀ event ∈ x.1.recorded env a,
      event.ephemeralInterfaceId = none ∧ event.eventType = .agentRegister :=
    recorded_register hother
  have hsame : ∀ sid, Bus.eventsIn sid (x.2 ++ x.1.recorded env a) = Bus.eventsIn sid x.2 := by
    intro sid
    have hnone : Bus.eventsIn sid (x.1.recorded env a) = [] := by
      refine List.filter_eq_nil_iff.mpr fun event hevent hplace ↦ ?_
      cases (hregister event hevent).1.symm.trans (of_decide_eq_true hplace)
    rw [eventsIn_append, hnone, List.append_nil]
  constructor
  · rw [fire_trace hother hfire, h.trace, after_append]
  · intro sid session' hget'
    rw [hsame]
    cases hget : x.1.bus.sessions.getSession sid with
    | some session =>
        obtain ⟨found, hfound, heffect⟩ := hsession.kept sid session hget
        obtain rfl := Option.some.inj (hfound.symm.trans hget')
        exact accounts_effect hother heffect (h.accounts sid session hget)
    | none =>
        -- a new session has no events yet
        obtain ⟨_, _, _, _, _, -, -, -, rfl⟩ := hsession.created sid session' hget hget'
        have hnone : Bus.eventsIn sid x.2 = [] := by
          refine List.filter_eq_nil_iff.mpr fun event hevent hplace ↦ ?_
          obtain ⟨session, hsome⟩ := h.placed event hevent sid (of_decide_eq_true hplace)
          cases hget.symm.trans hsome
        rw [hnone]
        exact ⟨rfl, rfl, .inl rfl⟩
  · intro event hevent sid hsid
    rcases List.mem_append.mp hevent with hold | hnew
    · obtain ⟨session, hget⟩ := h.placed event hold sid hsid
      obtain ⟨session', hget', -⟩ := hsession.kept sid session hget
      exact ⟨session', hget'⟩
    · cases (hregister event hnew).1.symm.trans hsid
  · intro event hevent
    rcases List.mem_append.mp hevent with hold | hnew
    · exact h.kinds event hold
    · rw [(hregister event hnew).2]
      exact List.mem_cons_self

theorem Audited.step {x y : (Time × Server) × List TraceEvent} {a : Label}
    (h : Audited max (x.1.2, x.2)) (hs : x.1.2.bus.Sound)
    (hstep : Step.Noting logged (Step.Timed Steps) x a y) : Audited max (y.1.2, y.2) := by
  obtain ⟨⟨-, -, hfresh, fired, hfire, hserver⟩, hlog⟩ := hstep
  rw [hlog, ← hserver, logged]
  by_cases hmessage : ∃ connId envelope, a.2.2 = .message connId envelope
  · obtain ⟨connId, envelope, ha⟩ := hmessage
    rw [ha] at hfire ⊢
    exact h.message hs hfire
  · exact h.other (fun connId envelope ha ↦ hmessage ⟨connId, envelope, ha⟩) hfresh hfire

theorem Audited.run {x y : (Time × Server) × List TraceEvent} {as : List Label}
    (h : Audited max (x.1.2, x.2)) (hs : x.1.2.bus.Sound)
    (hrun : Run (Step.Noting logged (Step.Timed Steps)) x as y) : Audited max (y.1.2, y.2) := by
  have hboth := hrun.invariant (P := fun x ↦ x.1.2.bus.Sound ∧ Audited max (x.1.2, x.2)) ?_ ⟨hs, h⟩
  · exact hboth.2
  · rintro x a y ⟨hs, h⟩ hstep
    exact ⟨sound_step hs hstep.1.2.2, h.step hs hstep⟩

end Server

end SemanticBus
