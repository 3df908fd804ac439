import SemanticBus.Events.Stream

/-!
# The event manager

Subscriptions by connection, over the event stream, and the history of each
session for late subscribers.  `Silent` says that no event was ever published:
the histories and the queues hold none, so that no subscriber gets one.
-/

namespace SemanticBus

structure EventManager where
  stream : EventStream := {}
  maxHistory : Int := 1000
  history : Dict UUID (List BaseEvent) := ∅
  connSubscriptions : Dict String (List String) := ∅

namespace EventManager

/-- The most recent events of a history; `history[-max:]` keeps all of it for 0. -/
def trim (maxHistory : Int) (history : List BaseEvent) : List BaseEvent :=
  if maxHistory < history.length then
    if 0 < maxHistory then history.drop (history.length - maxHistory.toNat)
    else history.drop (-maxHistory).toNat
  else history

def addToHistory (m : EventManager) (event : BaseEvent) : EventManager :=
  let history := (m.history.get? event.sessionId).getD [] ++ [event]
  { m with history := m.history.insert event.sessionId (trim m.maxHistory history) }

/-- Publish an event, and keep it for late subscribers. -/
def publish (m : EventManager) (event : BaseEvent) : EventManager × Nat :=
  let m := m.addToHistory event
  let (stream, delivered) := m.stream.publish event
  ({ m with stream := stream }, delivered)

/-- Put a new subscription on the list of its connection. -/
def track (m : EventManager) (connId subscriptionId : String) : EventManager :=
  { m with
    connSubscriptions := m.connSubscriptions.insert connId
      ((m.connSubscriptions.get? connId).getD [] ++ [subscriptionId]) }

/-- Deliver the events of a history, oldest first. -/
def replay (history : List BaseEvent) (sub : EventSubscription) : EventSubscription :=
  history.foldl (fun sub event ↦ (sub.deliver event).1) sub

/-- Subscribe to all events of a session, replaying its history if asked to. -/
def subscribeSession (m : EventManager) (connId : String) (sessionId : UUID)
    (includeHistory : Bool) : Except String (EventManager × EventSubscription) :=
  let subscriptionId := connId ++ ":" ++ sessionId.str
  match m.stream.subscribe subscriptionId (createSessionFilter sessionId) with
  | .error text => .error text
  | .ok (stream, sub) =>
      let m := { m with stream := stream }.track connId subscriptionId
      if includeHistory then
        let sub := replay ((m.history.get? sessionId).getD []) sub
        .ok ({ m with
          stream := { m.stream with
            subscriptions := m.stream.subscriptions.insert subscriptionId sub } }, sub)
      else .ok (m, sub)

def subscribeExecution (m : EventManager) (connId : String) (sessionId : UUID) (execId : String) :
    Except String (EventManager × EventSubscription) :=
  let subscriptionId := connId ++ ":" ++ sessionId.str ++ ":" ++ execId
  match m.stream.subscribe subscriptionId (createExecutionFilter sessionId execId) with
  | .error text => .error text
  | .ok (stream, sub) => .ok ({ m with stream := stream }.track connId subscriptionId, sub)

def unsubscribe (m : EventManager) (subscriptionId : String) : EventManager :=
  { m with stream := m.stream.unsubscribe subscriptionId }

def unsubscribeConnection (m : EventManager) (connId : String) : EventManager :=
  { m with
    stream := ((m.connSubscriptions.get? connId).getD []).foldl EventStream.unsubscribe m.stream
    connSubscriptions := m.connSubscriptions.erase connId }

/-! ## New subscriptions -/

variable {m m' : EventManager} {connId : String} {sessionId : UUID} {sub : EventSubscription}

/-- Deliveries keep the id. -/
theorem subscriptionId_replay (history : List BaseEvent) (sub : EventSubscription) :
    (replay history sub).subscriptionId = sub.subscriptionId := by
  induction history generalizing sub with
  | nil => rfl
  | cons event history ih =>
      have hdeliver : (sub.deliver event).1.subscriptionId = sub.subscriptionId := by
        rcases sub.deliver_cases event with ⟨_, heq⟩ | ⟨_, _, _, heq⟩ | ⟨_, _, _, heq⟩
        all_goals rw [heq]
      exact (ih _).trans hdeliver

/-- A new subscription: an entry of the stream, on the list of its connection. -/
structure Subscribes (m : EventManager) (connId id : String) (m' : EventManager)
    (sub : EventSubscription) : Prop where
  fresh : m.stream.subscriptions.get? id = none
  subscriptionId : sub.subscriptionId = id
  get? : ∀ j, m'.stream.subscriptions.get? j
    = if j = id then some sub else m.stream.subscriptions.get? j
  connSubscriptions : m'.connSubscriptions
    = m.connSubscriptions.insert connId ((m.connSubscriptions.get? connId).getD [] ++ [id])
  history : m'.history = m.history
  maxHistory : m'.maxHistory = m.maxHistory

theorem queue_of_subscribe {stream stream' : EventStream} {subscriptionId : String}
    {filter : EventFilter} (h : stream.subscribe subscriptionId filter = .ok (stream', sub)) :
    stream.subscriptions.get? subscriptionId = none ∧
      sub = { subscriptionId := subscriptionId, filter := filter } ∧ stream' = { stream with
        subscriptions := stream.subscriptions.insert subscriptionId sub } := by
  unfold EventStream.subscribe at h
  split_ifs at h with hcontains hsize
  obtain ⟨rfl, rfl⟩ := Prod.mk.inj (Except.ok.inj h)
  exact ⟨by simpa [Dict.contains] using hcontains, rfl, rfl⟩

/-- A session subscription starts with the history of its session, if asked for. -/
theorem subscribeSession_ok {includeHistory : Bool}
    (h : m.subscribeSession connId sessionId includeHistory = .ok (m', sub)) :
    Subscribes m connId (connId ++ ":" ++ sessionId.str) m' sub ∧
      sub = replay (if includeHistory then (m.history.get? sessionId).getD [] else [])
        { subscriptionId := connId ++ ":" ++ sessionId.str
          filter := createSessionFilter sessionId } := by
  unfold EventManager.subscribeSession at h
  dsimp only at h
  split at h
  · cases h
  · rename_i stream sub₀ hsubscribe
    obtain ⟨hnone, hsub₀, hstream⟩ := queue_of_subscribe hsubscribe
    subst hsub₀ hstream
    split_ifs at h with hinclude
    · obtain ⟨rfl, rfl⟩ := Prod.mk.inj (Except.ok.inj h)
      refine ⟨⟨hnone, subscriptionId_replay _ _, fun j ↦ ?_, rfl, rfl, rfl⟩,
        by rw [if_pos hinclude]; rfl⟩
      show ((m.stream.subscriptions.insert _ _).insert _ _).get? j = _
      rw [Dict.get?_insert, Dict.get?_insert]
      split
      · rfl
      · rfl
    · obtain ⟨rfl, rfl⟩ := Prod.mk.inj (Except.ok.inj h)
      refine ⟨⟨hnone, rfl, fun j ↦ Dict.get?_insert _ _ _ _, rfl, rfl, rfl⟩, ?_⟩
      rw [if_neg hinclude]
      rfl

theorem subscribeExecution_ok {execId : String}
    (h : m.subscribeExecution connId sessionId execId = .ok (m', sub)) :
    Subscribes m connId (connId ++ ":" ++ sessionId.str ++ ":" ++ execId) m' sub ∧
      sub = { subscriptionId := connId ++ ":" ++ sessionId.str ++ ":" ++ execId
              filter := createExecutionFilter sessionId execId } := by
  unfold EventManager.subscribeExecution at h
  dsimp only at h
  split at h
  · cases h
  · rename_i stream sub₀ hsubscribe
    obtain ⟨hnone, hsub₀, hstream⟩ := queue_of_subscribe hsubscribe
    subst hsub₀ hstream
    obtain ⟨rfl, rfl⟩ := Prod.mk.inj (Except.ok.inj h)
    exact ⟨⟨hnone, rfl, fun j ↦ Dict.get?_insert _ _ _ _, rfl, rfl, rfl⟩, rfl⟩

/-! ## Silence -/

/-- No event was published. -/
structure Silent (m : EventManager) : Prop where
  history : ∀ sessionId, (m.history.get? sessionId).getD [] = []
  queue : ∀ subscriptionId sub, m.stream.subscriptions.get? subscriptionId = some sub →
    sub.queue = []

theorem Silent.empty : Silent {} where
  history _ := rfl
  queue _ _ h := by cases h

/-- A new subscription with an empty queue keeps the silence. -/
theorem Silent.subscribes (h : Silent m) {id : String} (hnew : Subscribes m connId id m' sub)
    (hsub : sub.queue = []) : Silent m' where
  history sid := by rw [hnew.history]; exact h.history sid
  queue j sub' hget := by
    rw [hnew.get?] at hget
    split at hget
    · obtain rfl := Option.some.inj hget
      exact hsub
    · exact h.queue j sub' hget

theorem Silent.subscribeSession (h : Silent m) {includeHistory : Bool}
    (hok : m.subscribeSession connId sessionId includeHistory = .ok (m', sub)) : Silent m' := by
  obtain ⟨hnew, hsub⟩ := subscribeSession_ok hok
  -- there is no history to replay
  rw [h.history sessionId, ite_self] at hsub
  refine h.subscribes hnew ?_
  rw [hsub]
  rfl

theorem Silent.subscribeExecution (h : Silent m) {execId : String}
    (hok : m.subscribeExecution connId sessionId execId = .ok (m', sub)) : Silent m' := by
  obtain ⟨hnew, hsub⟩ := subscribeExecution_ok hok
  refine h.subscribes hnew ?_
  rw [hsub]

theorem Silent.unsubscribe (h : Silent m) (subscriptionId : String) :
    Silent (m.unsubscribe subscriptionId) where
  history := h.history
  queue id sub hget := by
    rw [EventManager.unsubscribe, EventStream.unsubscribe, Dict.get?_erase] at hget
    split at hget
    · cases hget
    · exact h.queue id sub hget

/-- Removing several subscriptions. -/
theorem get?_foldl_unsubscribe (ids : List String) (stream : EventStream) (id : String) :
    (ids.foldl EventStream.unsubscribe stream).subscriptions.get? id
      = if id ∈ ids then none else stream.subscriptions.get? id := by
  have herase : (ids.foldl EventStream.unsubscribe stream).subscriptions
      = ids.foldl Dict.erase stream.subscriptions := by
    induction ids generalizing stream with
    | nil => rfl
    | cons first ids ih => exact ih (stream.unsubscribe first)
  rw [herase, Dict.get?_foldl_erase]

theorem Silent.unsubscribeConnection (h : Silent m) (connId : String) :
    Silent (m.unsubscribeConnection connId) where
  history := h.history
  queue id sub hget := by
    refine h.queue id sub ?_
    have hsome := (get?_foldl_unsubscribe _ m.stream id).symm.trans hget
    split at hsome
    · cases hsome
    · exact hsome

end EventManager

end SemanticBus
