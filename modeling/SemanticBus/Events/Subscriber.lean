import SemanticBus.Data.Run
import SemanticBus.Events.Manager
import Mathlib.Data.List.DropRight
import Mathlib.Data.List.ReduceOption

/-!
# What a subscriber gets

The event manager together with the subscription objects it handed out: a
subscriber keeps its object after the manager has removed it.  What an object
owes its session is what was published while it was subscribed, after the part of
the history that was replayed to it; what it handed out and what it still queues
is that, less what a full queue dropped.
-/

namespace SemanticBus

/-! ## One subscription -/

namespace EventSubscription

variable {sub : EventSubscription} {event : BaseEvent} {sessionId : UUID}
  {due handed : List BaseEvent}

def pending (sub : EventSubscription) : List BaseEvent := sub.queue.reduceOption

theorem matches_createSessionFilter :
    (createSessionFilter sessionId).matches event = decide (event.sessionId = sessionId) := by
  simp [createSessionFilter, EventFilter.matches, EventSeverity.rank]

/-- A session subscription that is open, with what it still owes: what it handed
out and what it queues comes from what is due, in order, and what is missing was
dropped. -/
structure Owes (sessionId : UUID) (due handed : List BaseEvent) (sub : EventSubscription) :
    Prop where
  filter : sub.filter = createSessionFilter sessionId
  sublist : (handed ++ sub.pending).Sublist due
  length : (handed ++ sub.pending).length + sub.eventsDropped = due.length

/-- A new subscription owes nothing. -/
theorem Owes.new (sessionId : UUID) (id : String) : Owes sessionId [] []
    { subscriptionId := id, filter := createSessionFilter sessionId } where
  filter := rfl
  sublist := List.Sublist.slnil
  length := rfl

def ofSession (sessionId : UUID) (events : List BaseEvent) : List BaseEvent :=
  events.filter (·.sessionId = sessionId)

theorem Owes.deliver (h : Owes sessionId due handed sub) (event : BaseEvent)
    (hopen : sub.closed = false) :
    Owes sessionId (due ++ ofSession sessionId [event]) handed (sub.deliver event).1 ∧
      (sub.deliver event).1.closed = false := by
  rcases sub.deliver_cases event with ⟨hskip, heq⟩ | ⟨_, hmatch, _, heq⟩ | ⟨_, hmatch, _, heq⟩
  · -- an event of another session
    rw [hopen, h.filter, matches_createSessionFilter] at hskip
    have hother : ofSession sessionId [event] = [] := by simpa [ofSession] using hskip
    rw [heq, hother, List.append_nil]
    exact ⟨h, hopen⟩
  all_goals
    rw [h.filter, matches_createSessionFilter] at hmatch
    have hown : ofSession sessionId [event] = [event] := by simpa [ofSession] using hmatch
    rw [heq, hown]
    have hlength := h.length
    simp only [List.length_append] at hlength
  · refine ⟨⟨h.filter, h.sublist.trans (List.sublist_append_left _ _), ?_⟩, hopen⟩
    show (handed ++ sub.pending).length + (sub.eventsDropped + 1) = _
    simp only [List.length_append, List.length_singleton]
    omega
  · have hpending : pending { sub with
        queue := sub.queue ++ [some event]
        eventsReceived := sub.eventsReceived + 1 } = sub.pending ++ [event] := by
      simp [pending, List.reduceOption_append]
    refine ⟨⟨h.filter, ?_, ?_⟩, hopen⟩
    · rw [hpending, ← List.append_assoc]
      exact h.sublist.append (List.Sublist.refl _)
    · rw [hpending]
      simp only [List.length_append, List.length_singleton]
      omega

theorem Owes.replay (h : Owes sessionId due handed sub) (hopen : sub.closed = false)
    (history : List BaseEvent) :
    Owes sessionId (due ++ ofSession sessionId history) handed (EventManager.replay history sub) ∧
      (EventManager.replay history sub).closed = false := by
  induction history generalizing sub due with
  | nil =>
      rw [ofSession, List.filter_nil, List.append_nil]
      exact ⟨h, hopen⟩
  | cons event history ih =>
      obtain ⟨howes, hopen'⟩ := h.deliver event hopen
      have happend : ofSession sessionId (event :: history)
          = ofSession sessionId [event] ++ ofSession sessionId history := by
        rw [ofSession, ofSession, ofSession, ← List.filter_append, List.singleton_append]
      rw [happend, ← List.append_assoc]
      exact ih howes hopen'

/-- Taking an event does not close the subscription, and drops nothing. -/
theorem get_fields (sub : EventSubscription) : sub.get.1.closed = sub.closed ∧
    sub.get.1.eventsDropped = sub.eventsDropped ∧ sub.get.1.filter = sub.filter := by
  unfold EventSubscription.get
  split
  · exact ⟨rfl, rfl, rfl⟩
  · split
    · exact ⟨rfl, rfl, rfl⟩
    · exact ⟨rfl, rfl, rfl⟩

/-- What is taken is the first of what is queued. -/
theorem pending_get (sub : EventSubscription) :
    sub.get.2.toList ++ sub.get.1.pending = sub.pending := by
  unfold EventSubscription.get
  split
  · rfl
  · split
    · rfl
    · rename_i event queue hqueue
      rw [pending, pending, hqueue]
      cases event
      · rfl
      · rfl

theorem Owes.get (h : Owes sessionId due handed sub) :
    Owes sessionId due (handed ++ sub.get.2.toList) sub.get.1 := by
  obtain ⟨-, hdropped, hfilter⟩ := sub.get_fields
  refine ⟨hfilter.trans h.filter, ?_, ?_⟩
  · rw [List.append_assoc, pending_get]
    exact h.sublist
  · rw [List.append_assoc, pending_get, hdropped]
    exact h.length

/-- The end marker is no event. -/
theorem pending_close (sub : EventSubscription) : sub.close.pending = sub.pending := by
  show List.reduceOption (if sub.isFull then sub.queue else sub.queue ++ [none]) = _
  split
  · rfl
  · simp [pending, List.reduceOption_append]

theorem Owes.close (h : Owes sessionId due handed sub) : Owes sessionId due handed sub.close := by
  refine ⟨h.filter, ?_, ?_⟩
  · rw [pending_close]
    exact h.sublist
  · rw [pending_close]
    exact h.length

/-- Nothing comes out of a closed subscription. -/
theorem get_of_closed (h : sub.closed = true) : sub.get = (sub, none) := by
  rw [EventSubscription.get, h, if_pos rfl]

/-- A delivery that leaves room dropped nothing. -/
theorem dropped_deliver (h : (sub.deliver event).1.isFull = false) :
    sub.isFull = false ∧ (sub.deliver event).1.eventsDropped = sub.eventsDropped := by
  rcases sub.deliver_cases event with ⟨_, heq⟩ | ⟨_, _, hfull, heq⟩ | ⟨_, _, hroom, heq⟩
  · rw [heq] at h ⊢
    exact ⟨h, rfl⟩
  · rw [heq] at h
    exact absurd (hfull.symm.trans h) Bool.noConfusion
  · rw [heq]
    exact ⟨hroom, rfl⟩

theorem dropped_replay {history : List BaseEvent}
    (h : (EventManager.replay history sub).isFull = false) :
    sub.isFull = false ∧ (EventManager.replay history sub).eventsDropped = sub.eventsDropped := by
  induction history generalizing sub with
  | nil => exact ⟨h, rfl⟩
  | cons event history ih =>
      obtain ⟨hroom, hdropped⟩ := ih h
      obtain ⟨hroom', hdropped'⟩ := dropped_deliver hroom
      exact ⟨hroom', hdropped.trans hdropped'⟩

end EventSubscription

/-! ## Calls -/

inductive EventCall where
  | publish (event : BaseEvent)
  | subscribeSession (connId : String) (sessionId : UUID) (includeHistory : Bool)
  | unsubscribe (subscriptionId : String)
  | get (handle : Nat)

namespace EventCall

def event? : EventCall → Option BaseEvent
  | .publish event => some event
  | _ => none

def removes (id : String) : EventCall → Bool
  | .unsubscribe id' => id' = id
  | _ => false

end EventCall

inductive EventReply where
  | delivered (count : Nat)
  | subscription (handle : Nat)
  | raised (text : String)
  | removed (found : Bool)
  | event (event : Option BaseEvent)

/-- Where a subscription object is: the entry of the stream under an id, or, once
removed, only with its holder. -/
inductive EventHandle where
  | current (subscriptionId : String)
  | removed (sub : EventSubscription)

/-- The event manager and the subscription objects it handed out. -/
structure EventDesk where
  manager : EventManager
  handles : List EventHandle := []

namespace EventDesk

def new (maxHistory : Int) (maxSubscribers : Nat) : EventDesk where
  manager := { maxHistory := maxHistory, stream := { maxSubscribers := maxSubscribers } }

def resolve (m : EventManager) : EventHandle → Option EventSubscription
  | .current id => m.stream.subscriptions.get? id
  | .removed sub => some sub

def object (d : EventDesk) (handle : Nat) : Option EventSubscription :=
  d.handles[handle]?.bind (resolve d.manager)

/-- The handle of an object when its entry is removed. -/
def retire (subscriptionId : String) (sub : EventSubscription) : EventHandle → EventHandle
  | .current id => if id = subscriptionId then .removed sub.close else .current id
  | .removed sub => .removed sub

def store (d : EventDesk) (subscriptionId : String) (sub : EventSubscription) : EventDesk :=
  { d with
    manager := { d.manager with
      stream := { d.manager.stream with
        subscriptions := d.manager.stream.subscriptions.insert subscriptionId sub } } }

def exec (d : EventDesk) : EventCall → EventDesk × EventReply
  | .publish event =>
      let (m, count) := d.manager.publish event
      ({ d with manager := m }, .delivered count)
  | .subscribeSession connId sessionId includeHistory =>
      match d.manager.subscribeSession connId sessionId includeHistory with
      | .error text => (d, .raised text)
      | .ok (m, sub) =>
          ({ manager := m, handles := d.handles ++ [.current sub.subscriptionId] },
            .subscription d.handles.length)
  | .unsubscribe id =>
      match d.manager.stream.subscriptions.get? id with
      | none => (d, .removed false)
      | some sub =>
          ({ manager := d.manager.unsubscribe id, handles := d.handles.map (retire id sub) },
            .removed true)
  | .get handle =>
      match d.handles[handle]? with
      | none => (d, .event none)
      | some (.removed sub) =>
          ({ d with handles := d.handles.set handle (.removed sub.get.1) }, .event sub.get.2)
      | some (.current id) =>
          match d.manager.stream.subscriptions.get? id with
          | none => (d, .event none)
          | some sub => (d.store id sub.get.1, .event sub.get.2)

def Calls : Step EventDesk (EventCall × EventReply) := fun d a d' ↦ d.exec a.1 = (d', a.2)

/-- Make calls one after the other: the desk after them, and their log. -/
def play (d : EventDesk) : List EventCall → EventDesk × List (EventCall × EventReply)
  | [] => (d, [])
  | call :: calls =>
      let (d', log) := (d.exec call).1.play calls
      (d', (call, (d.exec call).2) :: log)

/-- Every sequence of calls has a run. -/
theorem run_play (d : EventDesk) (calls : List EventCall) :
    Run Calls d (d.play calls).2 (d.play calls).1 := by
  induction calls generalizing d with
  | nil => exact .nil d
  | cons call calls ih => exact .cons rfl (ih (d.exec call).1)

variable {d d' : EventDesk} {call : EventCall} {reply : EventReply} {id : String}
  {sub : EventSubscription} {event : BaseEvent} {sessionId : UUID}

inductive Effect (d : EventDesk) : EventCall → EventReply → EventDesk → Prop
  | published (event : BaseEvent) :
      Effect d (.publish event) (.delivered (d.manager.publish event).2)
        { d with manager := (d.manager.publish event).1 }
  | refused {connId : String} {sessionId : UUID} {includeHistory : Bool} (text : String) :
      Effect d (.subscribeSession connId sessionId includeHistory) (.raised text) d
  | subscribed {connId : String} {sessionId : UUID} {includeHistory : Bool} {m : EventManager}
      {sub : EventSubscription}
      (h : d.manager.subscribeSession connId sessionId includeHistory = .ok (m, sub)) :
      Effect d (.subscribeSession connId sessionId includeHistory) (.subscription d.handles.length)
        { manager := m, handles := d.handles ++ [.current sub.subscriptionId] }
  | missing {id : String} (h : d.manager.stream.subscriptions.get? id = none) :
      Effect d (.unsubscribe id) (.removed false) d
  | removed {id : String} {sub : EventSubscription}
      (h : d.manager.stream.subscriptions.get? id = some sub) :
      Effect d (.unsubscribe id) (.removed true)
        { manager := d.manager.unsubscribe id, handles := d.handles.map (retire id sub) }
  | nothing {handle : Nat} (h : d.object handle = none) : Effect d (.get handle) (.event none) d
  | gotRemoved {handle : Nat} {sub : EventSubscription}
      (h : d.handles[handle]? = some (.removed sub)) :
      Effect d (.get handle) (.event sub.get.2)
        { d with handles := d.handles.set handle (.removed sub.get.1) }
  | got {handle : Nat} {id : String} {sub : EventSubscription}
      (h : d.handles[handle]? = some (.current id))
      (hsub : d.manager.stream.subscriptions.get? id = some sub) :
      Effect d (.get handle) (.event sub.get.2) (d.store id sub.get.1)

/-- Every call does one of these. -/
theorem effect_of_calls (h : Calls d (call, reply) d') : Effect d call reply d' := by
  unfold Calls exec at h
  cases call with
  | publish event =>
      obtain ⟨rfl, rfl⟩ := Prod.mk.inj h
      exact .published event
  | subscribeSession connId sessionId includeHistory =>
      dsimp only at h
      split at h
      · obtain ⟨rfl, rfl⟩ := Prod.mk.inj h
        exact .refused _
      · obtain ⟨rfl, rfl⟩ := Prod.mk.inj h
        exact .subscribed ‹_›
  | unsubscribe id =>
      dsimp only at h
      split at h
      · obtain ⟨rfl, rfl⟩ := Prod.mk.inj h
        exact .missing ‹_›
      · obtain ⟨rfl, rfl⟩ := Prod.mk.inj h
        exact .removed ‹_›
  | get handle =>
      dsimp only at h
      split at h
      · rename_i hnone
        obtain ⟨rfl, rfl⟩ := Prod.mk.inj h
        exact .nothing (by rw [object, hnone]; rfl)
      · obtain ⟨rfl, rfl⟩ := Prod.mk.inj h
        exact .gotRemoved ‹_›
      · rename_i id hid
        split at h
        · rename_i hnone
          obtain ⟨rfl, rfl⟩ := Prod.mk.inj h
          exact .nothing (by rw [object, hid]; exact hnone)
        · obtain ⟨rfl, rfl⟩ := Prod.mk.inj h
          exact .got hid ‹_›

/-! ## Lookups after a call -/

theorem get?_publish (m : EventManager) (event : BaseEvent) (id : String) :
    (m.publish event).1.stream.subscriptions.get? id
      = (m.stream.subscriptions.get? id).map fun sub ↦ (sub.deliver event).1 := by
  show Dict.get? (Dict.map _ (Dict.map _ _)) id = _
  rw [Dict.get?_map, Dict.get?_map, Option.map_map]
  rfl

theorem history_publish (m : EventManager) (event : BaseEvent) (sessionId : UUID) :
    ((m.publish event).1.history.get? sessionId).getD []
      = if sessionId = event.sessionId then
          EventManager.trim m.maxHistory ((m.history.get? sessionId).getD [] ++ [event])
        else (m.history.get? sessionId).getD [] := by
  show (Dict.get? (Dict.insert _ _ _) sessionId).getD [] = _
  rw [Dict.get?_insert]
  split
  · rename_i heq
    rw [heq, Option.getD_some]
  · rfl

theorem get?_store (d : EventDesk) (id j : String) (sub : EventSubscription) :
    (d.store id sub).manager.stream.subscriptions.get? j
      = if j = id then some sub else d.manager.stream.subscriptions.get? j :=
  Dict.get?_insert _ _ _ _

theorem get?_unsubscribe (m : EventManager) (id j : String) :
    (m.unsubscribe id).stream.subscriptions.get? j
      = if j = id then none else m.stream.subscriptions.get? j := Dict.get?_erase _ _ _

theorem retire_eq_current {subscriptionId : String} {handle : EventHandle}
    (h : retire subscriptionId sub handle = .current id) :
    handle = .current id ∧ id ≠ subscriptionId := by
  cases handle with
  | current j =>
      by_cases hj : j = subscriptionId
      · rw [retire, if_pos hj] at h
        cases h
      · rw [retire, if_neg hj] at h
        obtain rfl := EventHandle.current.inj h
        exact ⟨rfl, hj⟩
  | removed sub' => cases h

theorem handles_concat {handles : List EventHandle} {handle : Nat} {id id' : String}
    (h : (handles ++ [.current id'])[handle]? = some (.current id)) :
    handles[handle]? = some (.current id) ∨ handle = handles.length ∧ id = id' := by
  rw [List.getElem?_append] at h
  split_ifs at h with hlt
  · exact .inl h
  · obtain ⟨hzero, hid⟩ := List.getElem?_eq_some_iff.mp h
    rw [List.length_singleton] at hzero
    refine .inr ⟨by omega, ?_⟩
    rw [List.getElem_singleton] at hid
    exact (EventHandle.current.inj hid).symm

/-! ## Objects -/

/-- Every object that is not removed has an entry of its own. -/
structure Entered (d : EventDesk) : Prop where
  entry : ∀ {handle : Nat} {id : String}, d.handles[handle]? = some (EventHandle.current id) →
    ∃ sub, d.manager.stream.subscriptions.get? id = some sub
  own : ∀ {handle handle' : Nat} {id : String},
    d.handles[handle]? = some (EventHandle.current id) →
    d.handles[handle']? = some (EventHandle.current id) → handle = handle'

theorem Entered.new (maxHistory : Int) (maxSubscribers : Nat) :
    Entered (new maxHistory maxSubscribers) where
  entry h := by cases h
  own h := by cases h

/-- Calls keep the entries. -/
theorem Entered.step (h : Entered d) (hstep : Calls d (call, reply) d') : Entered d' := by
  cases effect_of_calls hstep with
  | published event =>
      refine ⟨fun hid ↦ ?_, fun hid hid' ↦ h.own hid hid'⟩
      obtain ⟨sub, hsub⟩ := h.entry hid
      exact ⟨(sub.deliver event).1, by rw [get?_publish, hsub]; rfl⟩
  | refused _ => exact h
  | @subscribed connId sessionId _ m sub hsubscribe =>
      obtain ⟨hnew, -⟩ := EventManager.subscribeSession_ok hsubscribe
      -- no object had the new id
      have hfresh : ∀ {handle : Nat} {id : String},
          d.handles[handle]? = some (.current id) → id ≠ sub.subscriptionId := by
        rintro handle id hid rfl
        obtain ⟨sub', hsub'⟩ := h.entry hid
        rw [hnew.subscriptionId, hnew.fresh] at hsub'
        cases hsub'
      refine ⟨fun hid ↦ ?_, fun hid hid' ↦ ?_⟩
      · show ∃ sub', m.stream.subscriptions.get? _ = some sub'
        rw [hnew.get?]
        rcases handles_concat hid with hid | ⟨-, rfl⟩
        · rw [if_neg (hnew.subscriptionId ▸ hfresh hid)]
          exact h.entry hid
        · exact ⟨sub, if_pos hnew.subscriptionId⟩
      · rcases handles_concat hid with hid | ⟨rfl, rfl⟩
        · rcases handles_concat hid' with hid' | ⟨-, rfl⟩
          · exact h.own hid hid'
          · exact absurd rfl (hfresh hid)
        · rcases handles_concat hid' with hid' | ⟨rfl, -⟩
          · exact absurd rfl (hfresh hid')
          · rfl
  | missing _ => exact h
  | @removed id sub hsub =>
      refine ⟨fun hid ↦ ?_, fun hid hid' ↦ ?_⟩
      · obtain ⟨handle, hhandle, hretire⟩ := Option.map_eq_some_iff.mp (List.getElem?_map .. ▸ hid)
        obtain ⟨rfl, hne⟩ := retire_eq_current hretire
        rw [get?_unsubscribe, if_neg hne]
        exact h.entry hhandle
      · obtain ⟨handle, hhandle, hretire⟩ := Option.map_eq_some_iff.mp (List.getElem?_map .. ▸ hid)
        obtain ⟨handle', hhandle', hretire'⟩ :=
          Option.map_eq_some_iff.mp (List.getElem?_map .. ▸ hid')
        obtain ⟨rfl, -⟩ := retire_eq_current hretire
        obtain ⟨rfl, -⟩ := retire_eq_current hretire'
        exact h.own hhandle hhandle'
  | nothing _ => exact h
  | @gotRemoved handle sub hremoved =>
      have hset : ∀ {handle' : Nat} {id : String},
          (d.handles.set handle (.removed sub.get.1))[handle']? = some (EventHandle.current id) →
          d.handles[handle']? = some (.current id) := by
        intro handle' id hid
        rw [List.getElem?_set] at hid
        split_ifs at hid
        · cases hid
        · exact hid
      exact ⟨fun hid ↦ h.entry (hset hid), fun hid hid' ↦ h.own (hset hid) (hset hid')⟩
  | @got handle id sub hid hsub =>
      refine ⟨fun hid' ↦ ?_, fun hid hid' ↦ h.own hid hid'⟩
      rw [get?_store]
      split
      · exact ⟨_, rfl⟩
      · exact h.entry hid'

/-! ## The log of a run -/

/-- The events of a session that were published, in order. -/
def published (sessionId : UUID) (log : List (EventCall × EventReply)) : List BaseEvent :=
  EventSubscription.ofSession sessionId (log.filterMap (·.1.event?))

/-- The events that an object handed to its consumer, in order. -/
def handedOut (handle : Nat) (log : List (EventCall × EventReply)) : List BaseEvent :=
  log.filterMap fun
    | (.get handle', .event event) => if handle' = handle then event else none
    | _ => none

/-- The part of a log before a subscription is removed. -/
def whileSubscribed (id : String) (log : List (EventCall × EventReply)) :
    List (EventCall × EventReply) := log.takeWhile fun a ↦ !a.1.removes id

variable {as bs : List (EventCall × EventReply)} {a : EventCall × EventReply} {handle : Nat}
  {due handed : List BaseEvent}

theorem published_append : published sessionId (as ++ bs)
    = published sessionId as ++ published sessionId bs := by
  rw [published, List.filterMap_append, EventSubscription.ofSession, List.filter_append]
  rfl

theorem published_singleton : published sessionId [a]
    = EventSubscription.ofSession sessionId a.1.event?.toList := by
  cases h : a.1.event? <;> simp [published, h]

theorem handedOut_append : handedOut handle (as ++ bs)
    = handedOut handle as ++ handedOut handle bs := List.filterMap_append

theorem handedOut_get (handle handle' : Nat) (event : Option BaseEvent) :
    handedOut handle [(.get handle', .event event)]
      = if handle' = handle then event.toList else [] := by
  by_cases h : handle' = handle
  · cases event <;> simp [handedOut, h]
  · simp [handedOut, h]

/-! ## The history of a session -/

def historyOf (d : EventDesk) (sessionId : UUID) : List BaseEvent :=
  (d.manager.history.get? sessionId).getD []

/-- Trimming after each event keeps the most recent ones. -/
theorem trim_rtake {n : Nat} (hn : 0 < n) (events : List BaseEvent) (event : BaseEvent) :
    EventManager.trim n (events.rtake n ++ [event]) = (events ++ [event]).rtake n := by
  have hlength : (events.rtake n ++ [event]).length = min n events.length + 1 := by
    simp only [List.rtake, List.length_append, List.length_drop, List.length_singleton]
    omega
  unfold EventManager.trim
  rw [hlength]
  split_ifs with hlt hpos
  · have hle : n ≤ events.length := by omega
    rw [Int.toNat_natCast, List.rtake, List.rtake, ← List.drop_append_of_le_length (by omega),
      List.drop_drop]
    congr 1
    simp only [List.length_append, List.length_singleton]
    omega
  · omega
  · have hle : events.length + 1 ≤ n := by omega
    rw [List.rtake, List.rtake, Nat.sub_eq_zero_of_le (by omega), Nat.sub_eq_zero_of_le]
    · rfl
    · simpa using hle

/-- What a call does to the history of a session. -/
theorem history_step {n : Nat} (hn : 0 < n) (hmax : d.manager.maxHistory = n)
    (hhistory : d.historyOf sessionId = due.rtake n) (hstep : Calls d a d') :
    d'.manager.maxHistory = n ∧
      d'.historyOf sessionId = (due ++ published sessionId [a]).rtake n := by
  obtain ⟨call, reply⟩ := a
  rw [published_singleton]
  have hsame : ∀ {d' : EventDesk}, d'.manager.maxHistory = d.manager.maxHistory →
      d'.manager.history = d.manager.history → d'.manager.maxHistory = n ∧
      d'.historyOf sessionId = (due ++ EventSubscription.ofSession sessionId []).rtake n := by
    intro d' hmax' hhistory'
    rw [EventSubscription.ofSession, List.filter_nil, List.append_nil, historyOf, hhistory']
    exact ⟨hmax'.trans hmax, hhistory⟩
  cases effect_of_calls hstep with
  | published event =>
      refine ⟨hmax, ?_⟩
      rw [historyOf, history_publish]
      split
      · rename_i heq
        have hown : EventSubscription.ofSession sessionId [event] = [event] := by
          simp [EventSubscription.ofSession, heq]
        show _ = (due ++ EventSubscription.ofSession sessionId [event]).rtake n
        rw [hown, hmax, ← trim_rtake hn, ← hhistory, historyOf]
      · rename_i hne
        have hother : EventSubscription.ofSession sessionId [event] = [] := by
          simpa [EventSubscription.ofSession] using fun h ↦ hne h.symm
        show _ = (due ++ EventSubscription.ofSession sessionId [event]).rtake n
        rw [hother, List.append_nil]
        exact hhistory
  | refused _ => exact hsame rfl rfl
  | subscribed hsubscribe =>
      obtain ⟨hnew, -⟩ := EventManager.subscribeSession_ok hsubscribe
      exact hsame hnew.maxHistory hnew.history
  | missing _ => exact hsame rfl rfl
  | removed _ => exact hsame rfl rfl
  | nothing _ => exact hsame rfl rfl
  | gotRemoved _ => exact hsame rfl rfl
  | got _ _ => exact hsame rfl rfl

/-- The history of a session is the last of what was published for it. -/
theorem history_run {n : Nat} (hn : 0 < n) (hmax : d.manager.maxHistory = n)
    (hhistory : d.historyOf sessionId = due.rtake n) (h : Run Calls d as d') :
    d'.historyOf sessionId = (due ++ published sessionId as).rtake n := by
  induction h generalizing due with
  | nil d =>
      rw [published, List.filterMap_nil, EventSubscription.ofSession, List.filter_nil,
        List.append_nil]
      exact hhistory
  | @cons d₀ d₁ d₂ a as hstep _ ih =>
      obtain ⟨hmax', hhistory'⟩ := history_step hn hmax hhistory hstep
      rw [← List.singleton_append, published_append, ← List.append_assoc]
      exact ih hmax' hhistory'

/-! ## The account of a subscription -/

/-- A subscription that is in the stream, with what it owes. -/
structure Accounts (handle : Nat) (id : String) (sessionId : UUID) (due handed : List BaseEvent)
    (sub : EventSubscription) (d : EventDesk) : Prop where
  entered : Entered d
  current : d.handles[handle]? = some (.current id)
  entry : d.manager.stream.subscriptions.get? id = some sub
  opened : sub.closed = false
  owes : sub.Owes sessionId due handed

/-- A subscription that was removed from the stream. -/
structure Retired (handle : Nat) (sessionId : UUID) (due handed : List BaseEvent)
    (sub : EventSubscription) (d : EventDesk) : Prop where
  removed : d.handles[handle]? = some (.removed sub)
  closed : sub.closed = true
  owes : sub.Owes sessionId due handed

theorem Accounts.object (h : Accounts handle id sessionId due handed sub d) :
    d.object handle = some sub := by
  rw [EventDesk.object, h.current]
  exact h.entry

theorem Retired.object (h : Retired handle sessionId due handed sub d) :
    d.object handle = some sub := by
  rw [EventDesk.object, h.removed]
  rfl

/-- A call that does not remove a subscription adds to what is due what it
publishes, and to what was handed out what it takes; it drops nothing while there
is room. -/
theorem Accounts.step (h : Accounts handle id sessionId due handed sub d)
    (hstep : Calls d a d') (hkeep : a.1.removes id = false) :
    ∃ sub', Accounts handle id sessionId (due ++ published sessionId [a])
        (handed ++ handedOut handle [a]) sub' d' ∧
      (sub'.isFull = false → sub'.eventsDropped = sub.eventsDropped) := by
  obtain ⟨call, reply⟩ := a
  have hentered := h.entered.step hstep
  have hquiet : ∀ {taken : List BaseEvent} {sub' : EventSubscription},
      EventSubscription.Owes sessionId due taken sub' →
      EventSubscription.Owes sessionId (due ++ EventSubscription.ofSession sessionId []) taken
        sub' := by
    intro taken sub' howes
    rw [EventSubscription.ofSession, List.filter_nil, List.append_nil]
    exact howes
  have hnone : EventSubscription.Owes sessionId due (handed ++ []) sub := by
    rw [List.append_nil]
    exact h.owes
  rw [published_singleton]
  cases effect_of_calls hstep with
  | published event =>
      obtain ⟨howes, hopened⟩ := h.owes.deliver event h.opened
      refine ⟨(sub.deliver event).1, ⟨hentered, h.current, ?_, hopened, ?_⟩, ?_⟩
      · rw [get?_publish, h.entry]
        rfl
      · show EventSubscription.Owes _ _ (handed ++ []) _
        rw [List.append_nil]
        exact howes
      · intro hroom
        exact (EventSubscription.dropped_deliver hroom).2
  | refused _ => exact ⟨sub, ⟨hentered, h.current, h.entry, h.opened, hquiet hnone⟩, fun _ ↦ rfl⟩
  | subscribed hsubscribe =>
      obtain ⟨hnew, -⟩ := EventManager.subscribeSession_ok hsubscribe
      refine ⟨sub, ⟨hentered, ?_, ?_, h.opened, hquiet hnone⟩, fun _ ↦ rfl⟩
      · exact List.getElem?_append_left (List.getElem?_eq_some_iff.mp h.current).1 ▸ h.current
      · refine (hnew.get? id).trans ?_
        rw [if_neg, h.entry]
        rintro rfl
        exact absurd (hnew.fresh.symm.trans h.entry) (by simp)
  | missing _ => exact ⟨sub, ⟨hentered, h.current, h.entry, h.opened, hquiet hnone⟩, fun _ ↦ rfl⟩
  | @removed id' sub' hsub' =>
      have hne : id ≠ id' := by
        rintro rfl
        simp [EventCall.removes] at hkeep
      refine ⟨sub, ⟨hentered, ?_, ?_, h.opened, hquiet hnone⟩, fun _ ↦ rfl⟩
      · rw [List.getElem?_map, h.current, Option.map_some, retire, if_neg hne]
      · rw [get?_unsubscribe, if_neg hne, h.entry]
  | @nothing handle' _ =>
      refine ⟨sub, ⟨hentered, h.current, h.entry, h.opened, ?_⟩, fun _ ↦ rfl⟩
      rw [handedOut_get, Option.toList_none, ite_self]
      exact hquiet hnone
  | @gotRemoved handle' sub' hremoved =>
      have hne : handle' ≠ handle := by
        rintro rfl
        cases hremoved.symm.trans h.current
      refine ⟨sub, ⟨hentered, ?_, h.entry, h.opened, ?_⟩, fun _ ↦ rfl⟩
      · exact (List.getElem?_set_ne hne).trans h.current
      · rw [handedOut_get, if_neg hne]
        exact hquiet hnone
  | @got handle' id' sub' hid hsub =>
      rw [handedOut_get]
      by_cases hhandle : handle' = handle
      · subst hhandle
        obtain rfl := EventHandle.current.inj (Option.some.inj (hid.symm.trans h.current))
        obtain rfl := Option.some.inj (hsub.symm.trans h.entry)
        obtain ⟨hclosed, hdropped, -⟩ := sub'.get_fields
        rw [if_pos rfl]
        refine ⟨sub'.get.1, ⟨hentered, h.current, ?_, hclosed.trans h.opened, hquiet h.owes.get⟩,
          fun _ ↦ hdropped⟩
        rw [get?_store, if_pos rfl]
      · have hne : id ≠ id' := by
          rintro rfl
          exact hhandle (h.entered.own hid h.current)
        rw [if_neg hhandle]
        refine ⟨sub, ⟨hentered, h.current, ?_, h.opened, hquiet hnone⟩, fun _ ↦ rfl⟩
        rw [get?_store, if_neg hne, h.entry]

/-- The call that removes a subscription closes its object. -/
theorem Accounts.retire (h : Accounts handle id sessionId due handed sub d)
    (hstep : Calls d a d') (hremoves : a.1.removes id = true) :
    Retired handle sessionId due handed sub.close d' ∧ handedOut handle [a] = [] := by
  obtain ⟨call, reply⟩ := a
  cases effect_of_calls hstep with
  | missing hfree =>
      obtain rfl := of_decide_eq_true hremoves
      cases hfree.symm.trans h.entry
  | removed hsub =>
      obtain rfl := of_decide_eq_true hremoves
      obtain rfl := Option.some.inj (hsub.symm.trans h.entry)
      refine ⟨⟨?_, rfl, h.owes.close⟩, rfl⟩
      rw [List.getElem?_map, h.current, Option.map_some, EventDesk.retire, if_pos rfl]
  | published _ | refused _ | subscribed _ | nothing _ | gotRemoved _ | got _ _ => cases hremoves

/-- Nothing more happens to a subscription that was removed. -/
theorem Retired.step (h : Retired handle sessionId due handed sub d) (hstep : Calls d a d') :
    Retired handle sessionId due (handed ++ handedOut handle [a]) sub d' := by
  obtain ⟨call, reply⟩ := a
  have hnone : EventSubscription.Owes sessionId due (handed ++ []) sub := by
    rw [List.append_nil]
    exact h.owes
  cases effect_of_calls hstep with
  | published event => exact ⟨h.removed, h.closed, hnone⟩
  | refused _ => exact ⟨h.removed, h.closed, hnone⟩
  | subscribed _ =>
      refine ⟨?_, h.closed, hnone⟩
      exact (List.getElem?_append_left (List.getElem?_eq_some_iff.mp h.removed).1).trans h.removed
  | missing _ => exact ⟨h.removed, h.closed, hnone⟩
  | removed _ =>
      refine ⟨?_, h.closed, hnone⟩
      rw [List.getElem?_map, h.removed]
      rfl
  | @nothing handle' _ =>
      refine ⟨h.removed, h.closed, ?_⟩
      rw [handedOut_get, Option.toList_none, ite_self]
      exact hnone
  | @gotRemoved handle' sub' hremoved =>
      rw [handedOut_get]
      by_cases hhandle : handle' = handle
      · subst hhandle
        obtain rfl := EventHandle.removed.inj (Option.some.inj (hremoved.symm.trans h.removed))
        rw [if_pos rfl, EventSubscription.get_of_closed h.closed]
        refine ⟨?_, h.closed, hnone⟩
        exact List.getElem?_set_self (List.getElem?_eq_some_iff.mp h.removed).1
      · rw [if_neg hhandle]
        refine ⟨?_, h.closed, hnone⟩
        exact (List.getElem?_set_ne hhandle).trans h.removed
  | @got handle' id' sub' hid hsub =>
      have hhandle : handle' ≠ handle := by
        rintro rfl
        cases hid.symm.trans h.removed
      rw [handedOut_get, if_neg hhandle]
      exact ⟨h.removed, h.closed, hnone⟩

theorem Retired.run (h : Retired handle sessionId due handed sub d) (hrun : Run Calls d as d') :
    Retired handle sessionId due (handed ++ handedOut handle as) sub d' := by
  induction hrun generalizing handed with
  | nil d =>
      rw [handedOut, List.filterMap_nil, List.append_nil]
      exact h
  | cons hstep _ ih =>
      rw [← List.singleton_append, handedOut_append, ← List.append_assoc]
      exact ih (h.step hstep)

/-- No event ever finds the queue of a subscription full: there is room after
every call while it is subscribed. -/
def Roomy (handle : Nat) (log : List (EventCall × EventReply)) (d : EventDesk) : Prop :=
  ∀ as bs d' sub, log = as ++ bs → Run Calls d as d' → d'.object handle = some sub →
    sub.isFull = false

/-- What a subscription owes after a run of calls, and that it drops nothing while
there is room. -/
theorem Accounts.run (h : Accounts handle id sessionId due handed sub d)
    (hrun : Run Calls d as d') :
    ∃ sub', d'.object handle = some sub' ∧
      sub'.Owes sessionId (due ++ published sessionId (whileSubscribed id as))
        (handed ++ handedOut handle as) ∧
      (Roomy handle (whileSubscribed id as) d → sub'.eventsDropped = sub.eventsDropped) := by
  induction hrun generalizing due handed sub with
  | nil d =>
      refine ⟨sub, h.object, ?_, fun _ ↦ rfl⟩
      simpa [whileSubscribed, published, EventSubscription.ofSession, handedOut] using h.owes
  | @cons d d₁ d₂ a as hstep hrest ih =>
      rw [← List.singleton_append, handedOut_append, ← List.append_assoc]
      by_cases hremoves : a.1.removes id = true
      · obtain ⟨hretired, hnone⟩ := h.retire hstep hremoves
        rw [hnone, List.append_nil]
        have hretired' := hretired.run hrest
        refine ⟨sub.close, hretired'.object, ?_, fun _ ↦ rfl⟩
        have hempty : whileSubscribed id ([a] ++ as) = [] := by
          simp [whileSubscribed, hremoves]
        rw [hempty]
        simpa [published, EventSubscription.ofSession] using hretired'.owes
      · rw [Bool.not_eq_true] at hremoves
        obtain ⟨sub₁, h₁, hdropped⟩ := h.step hstep hremoves
        obtain ⟨sub', hobject, howes, hroomy⟩ := ih h₁
        have hcons : whileSubscribed id ([a] ++ as) = [a] ++ whileSubscribed id as := by
          simp [whileSubscribed, hremoves]
        rw [hcons, published_append, ← List.append_assoc]
        refine ⟨sub', hobject, howes, fun hroom ↦ ?_⟩
        have hfirst := hroom [a] _ d₁ sub₁ rfl (.single hstep) h₁.object
        refine (hroomy fun as₁ as₂ d₃ sub₃ hsplit hrun₃ hobject₃ ↦ ?_).trans (hdropped hfirst)
        refine hroom ([a] ++ as₁) as₂ d₃ sub₃ ?_ (.cons hstep hrun₃) hobject₃
        rw [hsplit, List.append_assoc]

/-- What a session subscription is to get: the most recent part of the history, if
it asked for it, and what is published for its session while it is subscribed. -/
def promised (maxHistory : Int) (includeHistory : Bool) (sessionId : UUID) (id : String)
    (before after : List (EventCall × EventReply)) : List BaseEvent :=
  (if includeHistory then (published sessionId before).rtake maxHistory.toNat else [])
    ++ published sessionId (whileSubscribed id after)

theorem promised_sublist (maxHistory : Int) (includeHistory : Bool) (sessionId : UUID) (id : String)
    (before after : List (EventCall × EventReply)) :
    (promised maxHistory includeHistory sessionId id before after).Sublist
      (published sessionId (before ++ after)) := by
  rw [published_append]
  refine List.Sublist.append ?_ ?_
  · split
    · exact List.drop_sublist _ _
    · exact List.nil_sublist _
  · exact ((List.takeWhile_sublist _).filterMap _).filter _

theorem ofSession_of_sublist {events : List BaseEvent} {log : List (EventCall × EventReply)}
    (h : events.Sublist (published sessionId log)) : ∀ e ∈ events, e.sessionId = sessionId := by
  intro e he
  simpa using (List.mem_filter.mp (h.subset he)).2

/-- What a session subscription handed to its consumer and what it still queues is,
in the order of publication, what it was to get, less the events that it counts as
dropped: none while its queue has room, and none of another session. -/
theorem subscriber_gets {maxHistory : Int} {maxSubscribers : Nat} (hmax : 1 ≤ maxHistory)
    {before after : List (EventCall × EventReply)} {d₀ d₁ d₂ : EventDesk} {connId : String}
    {sessionId : UUID} {includeHistory : Bool} {handle : Nat}
    (hbefore : Run Calls (new maxHistory maxSubscribers) before d₀)
    (hsubscribe : Calls d₀ (.subscribeSession connId sessionId includeHistory,
      .subscription handle) d₁)
    (hafter : Run Calls d₁ after d₂) :
    ∃ sub, d₂.object handle = some sub ∧
      (promised maxHistory includeHistory sessionId (connId ++ ":" ++ sessionId.str) before after).Sublist
        (published sessionId (before ++ after)) ∧
      (handedOut handle after ++ sub.pending).Sublist
        (promised maxHistory includeHistory sessionId (connId ++ ":" ++ sessionId.str) before after) ∧
      (handedOut handle after ++ sub.pending).length + sub.eventsDropped
        = (promised maxHistory includeHistory sessionId (connId ++ ":" ++ sessionId.str) before
            after).length ∧
      (∀ e ∈ handedOut handle after ++ sub.pending, e.sessionId = sessionId) ∧
      (Roomy handle (whileSubscribed (connId ++ ":" ++ sessionId.str) after) d₁ →
        handedOut handle after ++ sub.pending
          = promised maxHistory includeHistory sessionId (connId ++ ":" ++ sessionId.str) before
              after) := by
  have hentered₀ : Entered d₀ :=
    hbefore.invariant (fun _ _ _ h hstep ↦ h.step hstep) (Entered.new _ _)
  have hentered₁ : Entered d₁ := hentered₀.step hsubscribe
  obtain ⟨n, rfl⟩ : ∃ n : Nat, maxHistory = n := ⟨maxHistory.toNat, by omega⟩
  have hhistory : d₀.historyOf sessionId = (published sessionId before).rtake n := by
    have hempty : (new n maxSubscribers).historyOf sessionId = List.rtake [] n := by
      simp [List.rtake, historyOf, new]
    exact history_run (by omega) rfl hempty hbefore
  cases effect_of_calls hsubscribe with
  | @subscribed _ _ _ m sub hok =>
      obtain ⟨hnew, hsub⟩ := EventManager.subscribeSession_ok hok
      -- the new object owes what was replayed to it
      obtain ⟨howes, hopened⟩ := (EventSubscription.Owes.new sessionId
        (connId ++ ":" ++ sessionId.str)).replay rfl
          (if includeHistory then d₀.historyOf sessionId else [])
      have hreplayed : EventSubscription.ofSession sessionId
          (if includeHistory then d₀.historyOf sessionId else [])
          = if includeHistory then (published sessionId before).rtake n else [] := by
        refine List.filter_eq_self.mpr (fun e he ↦ ?_) |>.trans (by rw [hhistory])
        split at he
        · rw [hhistory] at he
          simpa using (List.mem_filter.mp (List.mem_of_mem_drop he)).2
        · cases he
      have haccounts : Accounts d₀.handles.length (connId ++ ":" ++ sessionId.str) sessionId
          (if includeHistory then (published sessionId before).rtake n else []) [] sub
          { manager := m, handles := d₀.handles ++ [.current sub.subscriptionId] } := by
        refine ⟨hentered₁, ?_, ?_, ?_, ?_⟩
        · rw [hnew.subscriptionId]
          exact List.getElem?_concat_length
        · exact (hnew.get? _).trans (if_pos rfl)
        · rw [hsub]
          exact hopened
        · rw [hsub]
          rw [List.nil_append, hreplayed] at howes
          exact howes
      obtain ⟨sub', hobject, howes', hroomy⟩ := haccounts.run hafter
      rw [List.nil_append] at howes'
      have hsublist := promised_sublist n includeHistory sessionId (connId ++ ":" ++ sessionId.str)
        before after
      refine ⟨sub', hobject, hsublist, howes'.sublist, howes'.length,
        ofSession_of_sublist (howes'.sublist.trans hsublist), fun hroom ↦ ?_⟩
      -- neither the replay nor a later event met a full queue
      have hroom₁ : sub.isFull = false := hroom [] _ _ sub rfl (.nil _) haccounts.object
      have hnone : sub.eventsDropped = 0 := by
        rw [hsub] at hroom₁ ⊢
        exact (EventSubscription.dropped_replay hroom₁).2
      have hlength := howes'.length
      rw [hroomy hroom, hnone, Nat.add_zero] at hlength
      exact howes'.sublist.eq_of_length hlength

def sampleEvent : BaseEvent :=
  { eventType := .executionStarted, sessionId := ⟨7⟩, tenantId := "acme", message := "" }

/-- The calls after the subscription of the sample. -/
def sampleCalls : List EventCall :=
  [.publish sampleEvent, .get 0, .unsubscribe ("c:" ++ UUID.str ⟨7⟩), .publish sampleEvent]

/-- A subscriber that joins late gets the last event of the history, then what is
published until its subscription is removed. -/
theorem subscriber_gets_late :
    let d₀ := ((new 1 10).play [.publish sampleEvent, .publish sampleEvent]).1
    let d₁ := (d₀.exec (.subscribeSession "c" ⟨7⟩ true)).1
    ∃ sub, (d₁.play sampleCalls).1.object 0 = some sub ∧
      (handedOut 0 (d₁.play sampleCalls).2 ++ sub.pending).length + sub.eventsDropped = 2 := by
  intro d₀ d₁
  have hsubscribe : Calls d₀ (.subscribeSession "c" ⟨7⟩ true, .subscription 0) d₁ := rfl
  obtain ⟨sub, hobject, -, -, hlength, -⟩ :=
    subscriber_gets le_rfl (run_play (new 1 10) _) hsubscribe (run_play d₁ sampleCalls)
  exact ⟨sub, hobject, hlength⟩

end EventDesk

end SemanticBus
