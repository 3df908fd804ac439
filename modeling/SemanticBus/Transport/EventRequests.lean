import SemanticBus.Events.Subscriber
import SemanticBus.Transport.Handler

/-!
# Subscription requests

What a subscriber is sent for an `event.subscribe` message, compared with what the
message asks for: the events of a session, of one execution if it names one, of the
types it lists, and the past ones too if it wants the history.

The request becomes a subscription in one of two ways.  Both forget the types, and
the one for an execution never replays the history; `received_iff` says for which
requests and events this makes no difference.
-/

namespace SemanticBus

/-! ## The request -/

namespace MessageEnvelope

variable (envelope : MessageEnvelope)

/-- The execution that a subscription request names. -/
def requestedExec : Option String :=
  let execId := JsonObj.get envelope.payload "exec_id"
  if execId.truthy then execId.str? else none

def requestedTypes : Option (List String) :=
  let eventTypes := JsonObj.get envelope.payload "event_types"
  if eventTypes.truthy then eventTypes.strList? else none

/-- Whether it wants past events. -/
def requestedHistory : Bool := (JsonObj.getD envelope.payload "include_history" (.bool true)).truthy

/-- An event of the session, and of the execution if one is named. -/
def concerns (sessionId : UUID) (event : BaseEvent) : Bool :=
  event.sessionId = sessionId && envelope.requestedExec.all (event.execId = some ·)

def wants (sessionId : UUID) (event : BaseEvent) : Bool :=
  envelope.concerns sessionId event &&
    envelope.requestedTypes.all (·.any (event.eventType.value.startsWith ·))

end MessageEnvelope

namespace Bus

/-- The request is accepted: it is answered with the id of a new subscription. -/
structure Subscribed (b : Bus) (websocket : Nat) (connId : String) (envelope : MessageEnvelope)
    (sessionId : UUID) (id : String) : Prop where
  reply : (b.handleEventSubscribe websocket connId envelope).sends =
    [(websocket, createEventSubscribed envelope.tenantId envelope.messageId sessionId id
      (JsonObj.get envelope.payload "event_types"))]

end Bus

/-! ## After it -/

/-- An event is published, or the delivery task takes one. -/
inductive FeedStep where
  | publish (event : BaseEvent)
  | take

namespace FeedStep

def event? : FeedStep → Option BaseEvent
  | publish event => some event
  | take => none

end FeedStep

namespace EventManager

/-- The event manager, and what was taken from a subscription. -/
def feed (id : String) (s : EventManager × List BaseEvent) :
    FeedStep → EventManager × List BaseEvent
  | .publish event => ((s.1.publish event).1, s.2)
  | .take =>
      match s.1.stream.subscriptions.get? id with
      | none => s
      | some sub =>
          ({ s.1 with
              stream := { s.1.stream with
                subscriptions := s.1.stream.subscriptions.insert id sub.get.1 } },
            s.2 ++ sub.get.2.toList)

end EventManager

/-! ## What a subscription receives -/

namespace EventSubscription

variable {f : EventFilter} {due handed : List BaseEvent} {sub : EventSubscription}

/-- An open subscription that, unless a full queue dropped something, got what its
filter selects from `due`. -/
structure Fed (f : EventFilter) (due handed : List BaseEvent) (sub : EventSubscription) : Prop where
  filter : sub.filter = f
  opened : sub.closed = false
  got : sub.eventsDropped = 0 → handed ++ sub.pending = due.filter f.matches

theorem Fed.new (f : EventFilter) (id : String) :
    Fed f [] [] { subscriptionId := id, filter := f } where
  filter := rfl
  opened := rfl
  got _ := rfl

theorem Fed.deliver (h : Fed f due handed sub) (event : BaseEvent) :
    Fed f (due ++ [event]) handed (sub.deliver event).1 := by
  rcases sub.deliver_cases event with ⟨hskip, heq⟩ | ⟨-, hmatch, -, heq⟩ | ⟨-, hmatch, -, heq⟩
  all_goals rw [heq]
  · rw [h.opened, h.filter] at hskip
    have hother : [event].filter f.matches = [] := by simpa using hskip
    refine ⟨h.filter, h.opened, ?_⟩
    intro hroom
    rw [List.filter_append, hother, List.append_nil]
    exact h.got hroom
  · refine ⟨h.filter, h.opened, ?_⟩
    intro hroom
    cases hroom
  · rw [h.filter] at hmatch
    have hown : [event].filter f.matches = [event] := by simpa using hmatch
    refine ⟨h.filter, h.opened, ?_⟩
    intro hroom
    rw [List.filter_append, hown, ← h.got hroom, List.append_assoc]
    simp [pending, List.reduceOption_append]

theorem Fed.replay (h : Fed f due handed sub) (history : List BaseEvent) :
    Fed f (due ++ history) handed (EventManager.replay history sub) := by
  induction history generalizing sub due with
  | nil =>
      rw [List.append_nil]
      exact h
  | cons event history ih =>
      rw [← List.singleton_append, ← List.append_assoc]
      exact ih (h.deliver event)

theorem Fed.get (h : Fed f due handed sub) :
    Fed f due (handed ++ sub.get.2.toList) sub.get.1 := by
  obtain ⟨hclosed, hdropped, hfilter⟩ := sub.get_fields
  refine ⟨hfilter.trans h.filter, hclosed.trans h.opened, ?_⟩
  rw [hdropped, List.append_assoc, pending_get]
  exact h.got

theorem matches_createExecutionFilter {sessionId : UUID} {execId : String} {event : BaseEvent} :
    (createExecutionFilter sessionId execId).matches event =
      (decide (event.sessionId = sessionId) && decide (event.execId = some execId)) := by
  cases hexec : event.execId with
  | none => simp [createExecutionFilter, EventFilter.matches, hexec, EventSeverity.rank]
  | some id => simp [createExecutionFilter, EventFilter.matches, hexec, EventSeverity.rank]

end EventSubscription

namespace EventManager

variable {f : EventFilter} {due handed : List BaseEvent} {sub : EventSubscription}
  {m : EventManager} {id : String}

/-- One step feeds the subscription what it publishes. -/
theorem fed_feed (hget : m.stream.subscriptions.get? id = some sub) (h : sub.Fed f due handed)
    (step : FeedStep) :
    ∃ sub', (feed id (m, handed) step).1.stream.subscriptions.get? id = some sub' ∧
      sub'.Fed f (due ++ step.event?.toList) (feed id (m, handed) step).2 := by
  cases step with
  | publish event =>
      refine ⟨(sub.deliver event).1, ?_, h.deliver event⟩
      rw [feed, EventDesk.get?_publish, hget]
      rfl
  | take =>
      rw [feed]
      simp only [hget]
      refine ⟨sub.get.1, Dict.get?_insert_self _ _ _, ?_⟩
      rw [FeedStep.event?, Option.toList_none, List.append_nil]
      exact h.get

/-- A run of steps feeds it all that is published. -/
theorem fed_foldl_feed (hget : m.stream.subscriptions.get? id = some sub)
    (h : sub.Fed f due handed) (steps : List FeedStep) :
    ∃ sub', (steps.foldl (feed id) (m, handed)).1.stream.subscriptions.get? id = some sub' ∧
      sub'.Fed f (due ++ steps.filterMap FeedStep.event?)
        (steps.foldl (feed id) (m, handed)).2 := by
  induction steps using List.reverseRecOn with
  | nil =>
      refine ⟨sub, hget, ?_⟩
      rw [List.filterMap_nil, List.append_nil]
      exact h
  | append_singleton steps step ih =>
      obtain ⟨sub', hget', h'⟩ := ih
      obtain ⟨sub'', hget'', h''⟩ := fed_feed hget' h' step
      rw [List.foldl_append, List.foldl_cons, List.foldl_nil]
      refine ⟨sub'', hget'', ?_⟩
      have hlast : [step].filterMap FeedStep.event? = step.event?.toList := by
        cases step
        · rfl
        · rfl
      rw [List.filterMap_append, hlast, ← List.append_assoc]
      exact h''

end EventManager

/-! ## Accepted requests -/

namespace Bus

variable {b : Bus} {websocket : Nat} {connId id : String} {envelope : MessageEnvelope}
  {sessionId : UUID}

/-- The past events that the subscription of a request starts with. -/
def replayed (b : Bus) (envelope : MessageEnvelope) (sessionId : UUID) : List BaseEvent :=
  if envelope.requestedExec = none ∧ envelope.requestedHistory then
    (b.events.history.get? sessionId).getD []
  else []

def requestFilter (envelope : MessageEnvelope) (sessionId : UUID) : EventFilter :=
  match envelope.requestedExec with
  | none => createSessionFilter sessionId
  | some execId => createExecutionFilter sessionId execId

theorem matches_requestFilter (event : BaseEvent) :
    (requestFilter envelope sessionId).matches event = envelope.concerns sessionId event := by
  rw [requestFilter, MessageEnvelope.concerns]
  cases envelope.requestedExec with
  | none => simp [EventSubscription.matches_createSessionFilter]
  | some execId => simp [EventSubscription.matches_createExecutionFilter]

theorem subscribeSession_fed {events : EventManager} {sub : EventSubscription}
    (hnone : envelope.requestedExec = none)
    (h : b.events.subscribeSession connId sessionId envelope.requestedHistory = .ok (events, sub)) :
    events.stream.subscriptions.get? sub.subscriptionId = some sub ∧
      sub.Fed (requestFilter envelope sessionId) (b.replayed envelope sessionId) [] := by
  obtain ⟨hnew, hsub⟩ := EventManager.subscribeSession_ok h
  constructor
  · rw [hnew.get?, if_pos hnew.subscriptionId]
  · rw [hsub, requestFilter, hnone, replayed]
    simp only [hnone, true_and]
    exact (EventSubscription.Fed.new (createSessionFilter sessionId) _).replay _

theorem subscribeExecution_fed {events : EventManager} {sub : EventSubscription} {execId : String}
    (hexec : envelope.requestedExec = some execId)
    (h : b.events.subscribeExecution connId sessionId execId = .ok (events, sub)) :
    events.stream.subscriptions.get? sub.subscriptionId = some sub ∧
      sub.Fed (requestFilter envelope sessionId) (b.replayed envelope sessionId) [] := by
  obtain ⟨hnew, hsub⟩ := EventManager.subscribeExecution_ok h
  constructor
  · rw [hnew.get?, if_pos hnew.subscriptionId]
  · rw [hsub, requestFilter, hexec, replayed, if_neg (by simp [hexec])]
    exact EventSubscription.Fed.new (createExecutionFilter sessionId execId) _

/-- A subscription in the stream that starts with the replayed events. -/
theorem subscribe_fed {events : EventManager} {sub : EventSubscription}
    (h : b.subscribe connId sessionId (JsonObj.get envelope.payload "exec_id")
      (JsonObj.getD envelope.payload "include_history" (.bool true)) = .ok (events, sub)) :
    events.stream.subscriptions.get? sub.subscriptionId = some sub ∧
      sub.Fed (requestFilter envelope sessionId) (b.replayed envelope sessionId) [] := by
  unfold subscribe at h
  cases hexec : JsonObj.get envelope.payload "exec_id" with
  | null | bool _ | int _ | float _ | arr _ | obj _ =>
      simp only [hexec] at h
      exact subscribeSession_fed (by simp [MessageEnvelope.requestedExec, hexec, Json.str?]) h
  | str text =>
      simp only [hexec] at h
      split at h
      · rename_i hempty
        exact subscribeSession_fed
          (by simp [MessageEnvelope.requestedExec, hexec, Json.truthy, hempty]) h
      · rename_i hempty
        exact subscribeExecution_fed
          (by simp [MessageEnvelope.requestedExec, hexec, Json.truthy, Json.str?, hempty]) h

theorem sendError_ne {errorCode errorMessage : String} {eventTypes : Json} :
    (b.sendError websocket envelope errorCode errorMessage).sends ≠
      [(websocket, createEventSubscribed envelope.tenantId envelope.messageId sessionId id
        eventTypes)] := by
  intro h
  have htype := congrArg Message.messageType (Prod.mk.inj (List.head_eq_of_cons_eq h)).2
  cases htype

theorem createEventSubscribed_inj {tenantId : String} {messageId sessionId' : UUID} {id' : String}
    {eventTypes : Json}
    (h : createEventSubscribed tenantId messageId sessionId id eventTypes =
      createEventSubscribed tenantId messageId sessionId' id' eventTypes) :
    sessionId = sessionId' ∧ id = id' := by
  have hsession := congrArg Message.ephemeralInterfaceId h
  have hpayload := congrArg Message.payload h
  simp only [createEventSubscribed, Option.some.injEq, List.append_cancel_right_eq,
    List.cons.injEq, Prod.mk.injEq, Json.str.injEq, true_and, and_true] at hsession hpayload
  exact ⟨hsession, hpayload.2⟩

/-- An accepted request leaves such a subscription. -/
theorem Subscribed.fed (h : b.Subscribed websocket connId envelope sessionId id) :
    ∃ sub, (b.handleEventSubscribe websocket connId envelope).bus.events.stream.subscriptions.get?
      id = some sub ∧
        sub.Fed (requestFilter envelope sessionId) (b.replayed envelope sessionId) [] := by
  have hreply := h.reply
  revert hreply
  unfold handleEventSubscribe
  dsimp only
  split
  · exact fun hreply ↦ absurd hreply sendError_ne
  · split
    · split
      · exact fun hreply ↦ absurd hreply sendError_ne
      · split
        · exact fun hreply ↦ absurd hreply sendError_ne
        · split
          · exact fun hreply ↦ absurd hreply sendError_ne
          · split
            · intro hreply
              cases hreply
            · split
              · exact fun hreply ↦ absurd hreply sendError_ne
              · rename_i sid _ _ _ _ _ events sub hsubscribe
                intro hreply
                obtain ⟨rfl, rfl⟩ := createEventSubscribed_inj
                  (Prod.mk.inj (List.head_eq_of_cons_eq hreply)).2
                exact ⟨sub, subscribe_fed hsubscribe⟩
    · intro hreply
      cases hreply

end Bus

/-! ## What is asked for and what is received -/

section Requests

variable {α : Type*} {p q : α → Bool} {l a : List α}

/-- Two selections, where the second selects less. -/
theorem filter_eq_filter_iff (hle : ∀ x, q x = true → p x = true) :
    l.filter p = l.filter q ↔ ∀ x ∈ l, p x = true → q x = true := by
  constructor
  · intro h x hx hpx
    have hmem : x ∈ l.filter q := by
      rw [← h]
      exact List.mem_filter.mpr ⟨hx, hpx⟩
    exact (List.mem_filter.mp hmem).2
  · intro hall
    apply List.filter_congr
    intro x hx
    exact Bool.eq_iff_iff.mpr ⟨hall x hx, hle x⟩

/-- The same after two beginnings, of which the second has selected elements only. -/
theorem append_filter_eq_iff {a' : List α} (hle : ∀ x, q x = true → p x = true)
    (ha' : ∀ x ∈ a', q x = true) :
    a ++ l.filter p = a' ++ l.filter q ↔ a = a' ∧ ∀ x ∈ l, p x = true → q x = true := by
  constructor
  · intro h
    have hall : ∀ x ∈ l, p x = true → q x = true := by
      intro x hx hpx
      have hmem : x ∈ a' ++ l.filter q := by
        rw [← h]
        exact List.mem_append_right _ (List.mem_filter.mpr ⟨hx, hpx⟩)
      rcases List.mem_append.mp hmem with hmem | hmem
      · exact ha' x hmem
      · exact (List.mem_filter.mp hmem).2
    rw [(filter_eq_filter_iff hle).mpr hall] at h
    exact ⟨List.append_cancel_right h, hall⟩
  · rintro ⟨rfl, hall⟩
    rw [(filter_eq_filter_iff hle).mpr hall]

variable {envelope : MessageEnvelope} {sessionId : UUID} {event : BaseEvent}

/-- What a request asks for: of the history of its session, and of what is published
later. -/
def MessageEnvelope.requested (envelope : MessageEnvelope) (sessionId : UUID)
    (history published : List BaseEvent) : List BaseEvent :=
  (if envelope.requestedHistory then history.filter (envelope.wants sessionId) else []) ++
    published.filter (envelope.wants sessionId)

/-- The types make no difference to what is published, and where the history is wanted,
none to the history; and if an execution is named, the history has nothing for it. -/
structure MessageEnvelope.Served (envelope : MessageEnvelope) (sessionId : UUID)
    (history published : List BaseEvent) : Prop where
  live : ∀ event ∈ published, envelope.concerns sessionId event → envelope.wants sessionId event
  session : envelope.requestedHistory → envelope.requestedExec = none →
    ∀ event ∈ history, envelope.concerns sessionId event → envelope.wants sessionId event
  execution : envelope.requestedHistory → envelope.requestedExec ≠ none →
    ∀ event ∈ history, ¬ envelope.wants sessionId event

theorem MessageEnvelope.concerns_of_wants (h : envelope.wants sessionId event = true) :
    envelope.concerns sessionId event = true := by
  rw [wants, Bool.and_eq_true] at h
  exact h.1

namespace Bus

variable {b : Bus}

/-- What is replayed to the filter and what is asked for of the history are the same. -/
theorem filter_replayed_eq_iff {history : List BaseEvent}
    (hkept : (b.events.history.get? sessionId).getD [] = history) :
    (b.replayed envelope sessionId).filter (envelope.concerns sessionId) =
        (if envelope.requestedHistory then history.filter (envelope.wants sessionId) else []) ↔
      (envelope.requestedHistory → envelope.requestedExec = none →
          ∀ event ∈ history, envelope.concerns sessionId event → envelope.wants sessionId event) ∧
        (envelope.requestedHistory → envelope.requestedExec ≠ none →
          ∀ event ∈ history, ¬ envelope.wants sessionId event) := by
  rw [replayed, hkept]
  cases hhistory : envelope.requestedHistory with
  | false => simp
  | true =>
      by_cases hexec : envelope.requestedExec = none
      · rw [if_pos ⟨hexec, rfl⟩, if_pos rfl,
          filter_eq_filter_iff (fun _ ↦ MessageEnvelope.concerns_of_wants)]
        simp [hexec]
      · rw [if_neg (fun h ↦ hexec h.1), if_pos rfl, List.filter_nil, eq_comm,
          List.filter_eq_nil_iff]
        simp [hexec]

/-- What a subscription receives is what was asked for exactly when the parts of the
request that it forgets make no difference. -/
theorem received_iff {websocket : Nat} {connId id : String}
    (hsub : b.Subscribed websocket connId envelope sessionId id) (steps : List FeedStep) :
    let s := steps.foldl (EventManager.feed id)
      ((b.handleEventSubscribe websocket connId envelope).bus.events, [])
    let history := (b.events.history.get? sessionId).getD []
    let published := steps.filterMap FeedStep.event?
    ∃ sub, s.1.stream.subscriptions.get? id = some sub ∧ (sub.eventsDropped = 0 →
      (s.2 ++ sub.pending = envelope.requested sessionId history published ↔
        envelope.Served sessionId history published)) := by
  intro s history published
  obtain ⟨start, hstart, hfed⟩ := hsub.fed
  obtain ⟨sub, hget, hfed'⟩ := EventManager.fed_foldl_feed hstart hfed steps
  refine ⟨sub, hget, ?_⟩
  intro hroom
  have hfilter : (requestFilter envelope sessionId).matches = envelope.concerns sessionId := by
    funext event
    exact matches_requestFilter event
  have hwanted : ∀ event ∈ (if envelope.requestedHistory then
      history.filter (envelope.wants sessionId) else []), envelope.wants sessionId event = true := by
    intro event hevent
    split at hevent
    · exact (List.mem_filter.mp hevent).2
    · cases hevent
  rw [hfed'.got hroom, hfilter, List.filter_append, MessageEnvelope.requested,
    append_filter_eq_iff (fun _ ↦ MessageEnvelope.concerns_of_wants) hwanted,
    filter_replayed_eq_iff rfl]
  constructor
  · rintro ⟨⟨hsession, hexecution⟩, hlive⟩
    exact ⟨hlive, hsession, hexecution⟩
  · intro h
    exact ⟨⟨h.session, h.execution⟩, h.live⟩

end Bus

end Requests

namespace Bus

def sampleSubscribed : Bus where
  sessions := (({} : SessionManager).createSession 0 ⟨7⟩ "acme" ⟨1⟩ "c" ⟨6⟩ [] [] none).1
  events := (({} : EventManager).publish EventDesk.sampleEvent).1
  library := { floatOfStr _ := none, format _ := "", errorText _ := "" }

def sampleRequest (options : JsonObj) : MessageEnvelope where
  messageType := .eventSubscribe
  senderId := ⟨1⟩
  tenantId := "acme"
  payload := ("session_id", .str (UUID.str ⟨7⟩)) :: options
  messageId := ⟨7⟩

def sampleSubscriptionId : String := "c:" ++ UUID.str ⟨7⟩

/-- The event of the history and a later one. -/
theorem received_all : ∃ sub : EventSubscription,
    let s := [FeedStep.publish EventDesk.sampleEvent].foldl (EventManager.feed sampleSubscriptionId)
      ((sampleSubscribed.handleEventSubscribe 10 "c" (sampleRequest [])).bus.events, [])
    s.1.stream.subscriptions.get? sampleSubscriptionId = some sub ∧ (sub.eventsDropped = 0 →
      (s.2 ++ sub.pending = (sampleRequest []).requested ⟨7⟩ [EventDesk.sampleEvent]
          [EventDesk.sampleEvent] ↔
        (sampleRequest []).Served ⟨7⟩ [EventDesk.sampleEvent] [EventDesk.sampleEvent])) := by
  have hsub : sampleSubscribed.Subscribed 10 "c" (sampleRequest []) ⟨7⟩ sampleSubscriptionId := ⟨rfl⟩
  exact received_iff hsub [.publish EventDesk.sampleEvent]

/-- A request for the events of flows gets one of an execution. -/
theorem received_untyped : ∃ sub : EventSubscription,
    let envelope := sampleRequest [("event_types", .arr [.str "flow."])]
    let events := (sampleSubscribed.handleEventSubscribe 10 "c" envelope).bus.events
    sampleSubscribed.Subscribed 10 "c" envelope ⟨7⟩ sampleSubscriptionId ∧
      events.stream.subscriptions.get? sampleSubscriptionId = some sub ∧ sub.eventsDropped = 0 ∧
      sub.pending ≠ envelope.requested ⟨7⟩ [EventDesk.sampleEvent] [] := by
  refine ⟨_, ⟨rfl⟩, rfl, rfl, fun h ↦ ?_⟩
  have hnone : ((sampleRequest [("event_types", .arr [.str "flow."])]).requested ⟨7⟩
      [EventDesk.sampleEvent] []).length = 0 := by decide +kernel
  rw [← h] at hnone
  exact absurd hnone (by decide +kernel)

end Bus

end SemanticBus
