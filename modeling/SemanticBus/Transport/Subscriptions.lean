import SemanticBus.Transport.Connections

/-!
# Who loses a subscription

Which actions touch the subscriptions and the tasks that deliver their events, and
whose they are.  A subscription belongs to the connection that made it; the bus
does not keep it, so runs are annotated with it (`Noted`).
-/

namespace SemanticBus

namespace Bus

variable {b : Bus} {env : Env} {websocket : Nat} {connId : String} {envelope : MessageEnvelope}

def eventSide (b : Bus) : EventManager × Dict String DeliveryTask :=
  (b.events, b.eventDeliveryTasks)

/-- What is left when the subscriptions of a connection are removed. -/
def cleared (b : Bus) (connId : String) : EventManager × Dict String DeliveryTask :=
  (b.events.unsubscribeConnection connId, (b.cancelDeliveries connId).eventDeliveryTasks)

/-- Only the two event handlers touch the subscriptions. -/
theorem handleMessage_eventSide (hsubscribe : envelope.messageType ≠ .eventSubscribe)
    (hunsubscribe : envelope.messageType ≠ .eventUnsubscribe) :
    (b.handleMessage env websocket connId envelope).bus.eventSide = b.eventSide := by
  obtain ⟨hevents, htasks⟩ := handleMessage_untouched.events hsubscribe hunsubscribe
  exact Prod.ext hevents htasks

/-! ## Lookups -/

def listOf (m : EventManager) (connId : String) : List String :=
  (m.connSubscriptions.get? connId).getD []

/-- Clearing a connection removes the subscriptions on its list. -/
theorem get?_cleared (b : Bus) (connId id : String) :
    (b.cleared connId).1.stream.subscriptions.get? id
      = if id ∈ listOf b.events connId then none else b.events.stream.subscriptions.get? id :=
  EventManager.get?_foldl_unsubscribe _ _ _

/-- Clearing a connection removes the delivery tasks whose id starts with its id. -/
theorem task_cleared (b : Bus) (connId id : String) :
    (b.cleared connId).2.get? id
      = if id.startsWith (connId ++ ":") then none else b.eventDeliveryTasks.get? id := by
  refine (Dict.get?_foldl_erase _ _ _).trans ?_
  by_cases hstarts : id.startsWith (connId ++ ":") = true
  · rw [if_pos hstarts]
    split
    · rfl
    · rename_i hnot
      have hkeys : id ∉ b.eventDeliveryTasks.keys := by
        intro hid
        exact hnot (List.mem_filter.mpr ⟨hid, hstarts⟩)
      exact Dict.notMem_keys_iff.mp hkeys
  · rw [if_neg hstarts, if_neg]
    intro hid
    exact hstarts (List.mem_filter.mp hid).2

theorem listOf_cleared (b : Bus) (connId c : String) :
    listOf (b.cleared connId).1 c = if c = connId then [] else listOf b.events c := by
  show ((b.events.connSubscriptions.erase connId).get? c).getD [] = _
  rw [Dict.get?_erase]
  split
  · rfl
  · rfl

/-- The end of a connection clears it. -/
theorem eventSide_cleanup {b' : Bus} (h : b'.eventSide = b.eventSide) :
    (b'.cleanupConnection connId).eventSide = b.cleared connId := by
  obtain ⟨hevents, htasks⟩ := Prod.mk.inj h
  show (b'.events.unsubscribeConnection connId, (b'.eventDeliveryTasks.keys.filter
    (·.startsWith (connId ++ ":"))).foldl Dict.erase b'.eventDeliveryTasks) = _
  rw [hevents, htasks]
  rfl

/-! ## The event handlers -/

/-- The id of a new subscription starts with the id of its connection. -/
theorem subscribe_ok {sessionId : UUID} {execId includeHistory : Json} {events : EventManager}
    {sub : EventSubscription}
    (h : b.subscribe connId sessionId execId includeHistory = .ok (events, sub)) :
    ∃ suffix, EventManager.Subscribes b.events connId (connId ++ ":" ++ suffix) events sub := by
  unfold subscribe at h
  split at h
  · rename_i text
    split_ifs at h
    · exact ⟨_, (EventManager.subscribeSession_ok h).1⟩
    · obtain ⟨hnew, -⟩ := EventManager.subscribeExecution_ok h
      refine ⟨sessionId.str ++ ":" ++ text, ?_⟩
      rw [← String.append_assoc, ← String.append_assoc]
      exact hnew
  · exact ⟨_, (EventManager.subscribeSession_ok h).1⟩

/-- A subscription request subscribes its connection, or changes nothing. -/
theorem handleEventSubscribe_eventSide :
    (b.handleEventSubscribe websocket connId envelope).bus.eventSide = b.eventSide ∨
    ∃ suffix events sub task,
      EventManager.Subscribes b.events connId (connId ++ ":" ++ suffix) events sub ∧
      task.connId = connId ∧ (b.handleEventSubscribe websocket connId envelope).error = none ∧
      (b.handleEventSubscribe websocket connId envelope).bus.eventSide
        = (events, b.eventDeliveryTasks.insert sub.subscriptionId task) := by
  unfold handleEventSubscribe
  dsimp only
  split
  · exact .inl rfl
  · split
    · split
      · exact .inl rfl
      · split
        · exact .inl rfl
        · split
          · exact .inl rfl
          · split
            · exact .inl rfl
            · split
              · exact .inl rfl
              · rename_i events sub hsubscribe
                obtain ⟨suffix, hnew⟩ := subscribe_ok hsubscribe
                exact .inr ⟨suffix, events, sub, _, hnew, rfl, rfl, rfl⟩
    · exact .inl rfl

/-- What the removal that a message asks for names: one subscription, or all of its
connection, or nothing that there is. -/
inductive Removal where
  | one (subscriptionId : String)
  | all
  | nothing

/-- The removal that an `event.unsubscribe` asks for; what is not hashable ends the
connection, and with it all of its subscriptions. -/
def removalOf (envelope : MessageEnvelope) : Removal :=
  match JsonObj.get envelope.payload "subscription_id" with
  | .str id => if id = "" then .all else .one id
  | value => if value.truthy && value.hashable then .nothing else .all

inductive Unsubscribes (b : Bus) (connId : String) : Removal → Outcome → Prop
  | one (id : String) {o : Outcome} : o.error = none →
      o.bus.eventSide = (b.events.unsubscribe id, b.eventDeliveryTasks.erase id) →
      Unsubscribes b connId (.one id) o
  | all {o : Outcome} : o.error = none → o.bus.eventSide = b.cleared connId →
      Unsubscribes b connId .all o
  /-- The connection is about to end. -/
  | raised {o : Outcome} {e : PyError} : o.error = some e → o.bus.eventSide = b.eventSide →
      Unsubscribes b connId .all o
  | nothing {o : Outcome} : o.error = none → o.bus.eventSide = b.eventSide →
      Unsubscribes b connId .nothing o

theorem handleEventUnsubscribe_eventSide :
    Unsubscribes b connId (removalOf envelope) (b.handleEventUnsubscribe connId envelope) := by
  unfold handleEventUnsubscribe removalOf
  generalize JsonObj.get envelope.payload "subscription_id" = value
  cases value with
  | str id =>
      dsimp only
      by_cases hid : id = ""
      · have hfalse : (Json.str id).truthy = false := by simp [Json.truthy, hid]
        rw [if_pos hid, hfalse, if_neg Bool.false_ne_true]
        exact .all rfl rfl
      · have htruthy : (Json.str id).truthy = true := decide_eq_true hid
        rw [if_neg hid, if_pos htruthy]
        exact .one id rfl rfl
  | null | bool _ | int _ | float _ | arr _ | obj _ =>
      dsimp only
      split_ifs with hnothing htruthy hhashable
      all_goals first
        | exact .nothing rfl rfl
        | exact .all rfl rfl
        | exact .raised rfl rfl
        | simp_all

end Bus

def Action.removal? : Action → Option (String × Bus.Removal)
  | .message connId envelope =>
      if envelope.messageType = .eventUnsubscribe then some (connId, Bus.removalOf envelope)
      else none
  | _ => none

namespace Server

variable {s s' : Server} {env : Env} {a : Action} {connId c : String} {conn : Connection}
  {o : Outcome} {fired : Fired}

/-- No connection ends. -/
def Keeps (s s' : Server) : Prop :=
  ∀ c, s.connections.contains c = true → s'.connections.contains c = true

inductive EventsStep (s : Server) (a : Action) (s' : Server) : Prop
  | same : s'.bus.eventSide = s.bus.eventSide → s.Keeps s' →
      (∀ c r, a.removal? = some (c, r) → r = .nothing) → EventsStep s a s'
  | subscribe {c suffix : String} {events : EventManager} {sub : EventSubscription}
      {task : DeliveryTask} : a.connId? = some c → a.removal? = none →
      EventManager.Subscribes s.bus.events c (c ++ ":" ++ suffix) events sub → task.connId = c →
      s'.bus.eventSide = (events, s.bus.eventDeliveryTasks.insert sub.subscriptionId task) →
      s.Keeps s' → EventsStep s a s'
  | one {c id : String} : a.removal? = some (c, .one id) →
      s'.bus.eventSide = (s.bus.events.unsubscribe id, s.bus.eventDeliveryTasks.erase id) →
      s.Keeps s' → EventsStep s a s'
  | all {c : String} : a.removal? = some (c, .all) → s'.bus.eventSide = s.bus.cleared c →
      s.Keeps s' → EventsStep s a s'
  | close {c : String} : (a.removal? = none ∨ a.removal? = some (c, .all)) →
      s'.connections = s.connections.erase c → s'.bus.eventSide = s.bus.cleared c →
      EventsStep s a s'

theorem keeps_insert (conn : Connection) (bus : Bus) :
    s.Keeps ⟨bus, s.connections.insert connId conn⟩ := by
  intro c hc
  obtain ⟨found, hfound⟩ := Dict.contains_iff.mp hc
  refine Dict.contains_iff.mpr ?_
  rw [Dict.get?_insert]
  split
  · exact ⟨conn, rfl⟩
  · exact ⟨found, hfound⟩

/-- The rest of a broadcast leaves the subscriptions alone. -/
theorem Handles.eventSide (h : s.Handles env a connId conn o) :
    (∃ envelope, a = .message connId envelope ∧
      o = s.bus.handleMessage env conn.websocket connId envelope) ∨
    (a.removal? = none ∧ o.bus.eventSide = s.bus.eventSide) := by
  cases h with
  | message envelope _ _ => exact .inl ⟨envelope, rfl, rfl⟩
  | answer answer _ _ =>
      right
      refine ⟨rfl, ?_⟩
      unfold Bus.startFlow
      split
      · rfl
      · rfl
  | deliver _ _ =>
      right
      refine ⟨rfl, ?_⟩
      unfold Bus.deliverNext
      split
      · rfl
      · rfl
  | poll _ _ _ =>
      right
      refine ⟨rfl, ?_⟩
      unfold Bus.pollOffers Bus.finishFlow
      dsimp only
      repeat' split
      all_goals rfl

theorem resume_ok (h : o.error = none) : (s.resume connId conn o).server
    = ⟨o.bus, s.connections.insert connId { conn with task := o.task }⟩ := by
  rw [resume, h]

theorem resume_error {e : PyError} (h : o.error = some e) : (s.resume connId conn o).server
    = ⟨o.bus.cleanupConnection connId, s.connections.erase connId⟩ := by
  rw [resume, h]

/-- Going on after a handler that left the subscriptions alone. -/
theorem resume_eventsStep (hremoval : a.removal? = none) (hside : o.bus.eventSide = s.bus.eventSide) :
    EventsStep s a (s.resume connId conn o).server := by
  unfold resume
  split
  · refine .same hside (keeps_insert _ _) ?_
    intro c r h
    cases hremoval.symm.trans h
  · refine .close (.inl hremoval) rfl ?_
    exact Bus.eventSide_cleanup hside

/-- An action that leaves the subscriptions and the connections alone. -/
theorem EventsStep.quiet (hremoval : a.removal? = none)
    (hside : s'.bus.eventSide = s.bus.eventSide) (hconnections : s'.connections = s.connections) :
    EventsStep s a s' := by
  refine .same hside ?_ ?_
  · intro c hc
    rw [hconnections]
    exact hc
  · intro c r hr
    cases hremoval.symm.trans hr

/-- The first message of a connection. -/
theorem connect_eventsStep {websocket : Nat} {envelope : MessageEnvelope}
    (h : s.connect env websocket envelope = some fired) :
    EventsStep s (.connect websocket envelope) fired.server := by
  unfold connect at h
  split_ifs at h
  · obtain rfl := Option.some.inj h
    exact .quiet rfl rfl rfl
  · obtain rfl := Option.some.inj h
    have hside : (s.bus.handleRegister env websocket envelope).1.bus.eventSide
        = s.bus.eventSide := by
      unfold Bus.handleRegister
      dsimp only
      split
      · rfl
      · rfl
    refine .same hside ?_ ?_
    · dsimp only
      split
      · exact fun c hc ↦ hc
      · exact keeps_insert _ _
    · intro c r hr
      cases hr

/-- A request to unsubscribe. -/
theorem unsubscribe_eventsStep {envelope : MessageEnvelope}
    (htype : envelope.messageType = .eventUnsubscribe) :
    EventsStep s (.message connId envelope) (s.resume connId conn
      (s.bus.handleMessage env conn.websocket connId envelope)).server := by
  have hremoval : Action.removal? (.message connId envelope)
        = some (connId, Bus.removalOf envelope) := if_pos htype
  have hcases : Bus.Unsubscribes s.bus connId (Bus.removalOf envelope)
      (s.bus.handleMessage env conn.websocket connId envelope) := by
    rw [Bus.handleMessage, htype]
    exact Bus.handleEventUnsubscribe_eventSide
  generalize Bus.removalOf envelope = r at hcases hremoval
  cases hcases with
  | one id herror hside =>
      rw [resume_ok herror]
      exact .one hremoval hside (keeps_insert _ _)
  | all herror hside =>
      rw [resume_ok herror]
      exact .all hremoval hside (keeps_insert _ _)
  | raised herror hside =>
      rw [resume_error herror]
      exact .close (.inr hremoval) rfl (Bus.eventSide_cleanup hside)
  | nothing herror hside =>
      rw [resume_ok herror]
      refine .same hside (keeps_insert _ _) ?_
      intro c r hr
      obtain ⟨-, rfl⟩ := Prod.mk.inj (Option.some.inj (hremoval.symm.trans hr))
      rfl

/-- A request to subscribe. -/
theorem subscribe_eventsStep {envelope : MessageEnvelope}
    (htype : envelope.messageType = .eventSubscribe) :
    EventsStep s (.message connId envelope) (s.resume connId conn
      (s.bus.handleMessage env conn.websocket connId envelope)).server := by
  have hremoval : Action.removal? (.message connId envelope) = none :=
    if_neg (by rw [htype]; decide)
  rw [Bus.handleMessage, htype]
  rcases Bus.handleEventSubscribe_eventSide with
    hside | ⟨suffix, events, sub, task, hnew, htask, herror, hside⟩
  · exact resume_eventsStep hremoval hside
  · rw [resume_ok herror]
    exact .subscribe rfl hremoval hnew htask hside (keeps_insert _ _)

/-- What an action does to the subscriptions. -/
theorem fire_eventsStep (hs : s.bus.Sound) (h : s.fire env a = some fired) :
    EventsStep s a fired.server := by
  unfold fire at h
  split at h
  · exact connect_eventsStep h
  · obtain ⟨found, _, h⟩ := Option.bind_eq_some_iff.mp h
    split_ifs at h
    obtain rfl := Option.some.inj h
    exact .close (.inl rfl) rfl (Bus.eventSide_cleanup rfl)
  · obtain rfl := Option.some.inj h
    exact .quiet rfl rfl rfl
  · obtain rfl := Option.some.inj h
    exact .quiet rfl rfl rfl
  · obtain ⟨q, _, rfl⟩ := Option.map_eq_some_iff.mp h
    exact .quiet rfl rfl rfl
  · rename_i subscriptionId
    obtain ⟨task, _, h⟩ := Option.bind_eq_some_iff.mp h
    obtain ⟨sub, hsub, h⟩ := Option.bind_eq_some_iff.mp h
    split at h
    · rename_i event queue hqueue
      -- there is no event to deliver
      rw [hs.events.queue subscriptionId sub hsub] at hqueue
      cases hqueue
    · cases h
  · obtain ⟨⟨connId, conn, o⟩, houtcome, rfl⟩ := Option.map_eq_some_iff.mp h
    show EventsStep s _ (s.resume connId conn o).server
    rcases (handles_of_outcome houtcome).eventSide with
      ⟨envelope, rfl, rfl⟩ | ⟨hremoval, hside⟩
    · by_cases hunsubscribe : envelope.messageType = .eventUnsubscribe
      · exact unsubscribe_eventsStep hunsubscribe
      · by_cases hsubscribe : envelope.messageType = .eventSubscribe
        · exact subscribe_eventsStep hsubscribe
        · exact resume_eventsStep (if_neg hunsubscribe)
            (Bus.handleMessage_eventSide hsubscribe hunsubscribe)
    · exact resume_eventsStep hremoval hside

/-! ## Who made a subscription -/

abbrev subscriptions (s : Server) : Dict String EventSubscription :=
  s.bus.events.stream.subscriptions

/-- The bus with the connection that made each subscription. -/
structure Ledger where
  server : Server
  maker : String → Option String := fun _ ↦ none

namespace Ledger

/-- A new subscription is made by the connection of the action. -/
def note (x : Ledger) (a : Action) (s' : Server) (id : String) : Option String :=
  if s'.subscriptions.contains id && !x.server.subscriptions.contains id then a.connId?
  else x.maker id

def Noted (now : Time) : Step Ledger ((Nat → UUID) × Action) := fun x a y ↦
  Steps now x.server a y.server ∧ y.maker = x.note a.2 y.server

/-- Every run of the bus can be noted down. -/
theorem exists_noted {s t : Time × Server} {as : List Label} (h : Run (Step.Timed Steps) s as t)
    (maker : String → Option String) : ∃ maker',
      Run (Step.Timed Noted) (s.1, ⟨s.2, maker⟩) as (t.1, ⟨t.2, maker'⟩) := by
  induction h generalizing maker with
  | nil s => exact ⟨maker, .nil _⟩
  | @cons s s' s'' a as hstep _ ih =>
      obtain ⟨hclock, hnow, hsteps⟩ := hstep
      obtain ⟨maker', hrun⟩ := ih (note ⟨s.2, maker⟩ a.2.2 s'.2)
      exact ⟨maker', .cons ⟨hclock, hnow, hsteps, rfl⟩ hrun⟩

/-- Every subscription is on the list of the connection that made it, and every
delivery task has an id that starts with its connection. -/
structure Owned (x : Ledger) : Prop where
  listed : ∀ id sub, x.server.subscriptions.get? id = some sub →
    ∃ c, x.maker id = some c ∧ id ∈ Bus.listOf x.server.bus.events c
  tasks : ∀ id task, x.server.bus.eventDeliveryTasks.get? id = some task →
    id.startsWith (task.connId ++ ":") = true

variable {x y : Ledger} {now : Time} {ids : Nat → UUID} {id : String}

theorem note_of_get? {sub : EventSubscription} (h : x.server.subscriptions.get? id = some sub)
    (a : Action) (s' : Server) : x.note a s' id = x.maker id := by
  have hold : x.server.subscriptions.contains id = true := Dict.contains_iff.mpr ⟨sub, h⟩
  rw [note, hold, Bool.not_true, Bool.and_false, if_neg Bool.false_ne_true]

theorem Owned.start (library : Library) (settings : Settings) :
    Owned ⟨Server.start library settings, fun _ ↦ none⟩ where
  listed id sub h := by cases h
  tasks id task h := by cases h

theorem startsWith_append (connId suffix : String) :
    (connId ++ ":" ++ suffix).startsWith (connId ++ ":") = true := by
  have happend : (connId ++ ":" ++ suffix).toList = (connId ++ ":").toList ++ suffix.toList :=
    String.toList_append
  rw [String.startsWith_string_iff, happend]
  exact List.prefix_append _ _

/-- Clearing a connection leaves the others their subscriptions on their lists. -/
theorem Owned.clear (h : Owned x) (hside : y.server.bus.eventSide = x.server.bus.cleared c)
    (hmaker : y.maker = x.note a y.server) : Owned y := by
  have hevents : y.server.bus.events = (x.server.bus.cleared c).1 := congrArg Prod.fst hside
  have htasks : y.server.bus.eventDeliveryTasks = (x.server.bus.cleared c).2 :=
    congrArg Prod.snd hside
  constructor
  · intro id sub hget
    rw [subscriptions, hevents, Bus.get?_cleared] at hget
    split at hget
    · cases hget
    · rename_i hnot
      obtain ⟨c', hc', hlist⟩ := h.listed id sub hget
      refine ⟨c', ?_, ?_⟩
      · rw [hmaker, note_of_get? hget, hc']
      · rw [hevents, Bus.listOf_cleared, if_neg]
        · exact hlist
        · rintro rfl
          exact hnot hlist
  · intro id task hget
    rw [htasks, Bus.task_cleared] at hget
    split at hget
    · cases hget
    · exact h.tasks id task hget

theorem Owned.step (h : Owned x) (hs : x.server.bus.Sound) (hstep : Noted now x (ids, a) y) :
    Owned y := by
  obtain ⟨⟨-, fired, hfire, heq⟩, hmaker⟩ := hstep
  have hevents := fire_eventsStep hs hfire
  rw [heq] at hevents
  dsimp only at hmaker hevents
  cases hevents with
  | same hside hkeeps hnothing =>
      obtain ⟨hevents, htasks⟩ := Prod.mk.inj hside
      constructor
      · intro id sub hget
        rw [subscriptions, hevents] at hget
        rw [hmaker, note_of_get? hget, hevents]
        exact h.listed id sub hget
      · intro id task hget
        rw [htasks] at hget
        exact h.tasks id task hget
  | @subscribe c suffix events sub task hconn hremoval hnew htask hside hkeeps =>
      obtain ⟨hevents, htasks⟩ := Prod.mk.inj hside
      have hlist : ∀ c', Bus.listOf y.server.bus.events c'
          = if c' = c then Bus.listOf x.server.bus.events c ++ [c ++ ":" ++ suffix]
            else Bus.listOf x.server.bus.events c' := by
        intro c'
        rw [hevents, Bus.listOf, hnew.connSubscriptions, Dict.get?_insert]
        split
        · rfl
        · rfl
      constructor
      · intro id sub' hget
        rw [subscriptions, hevents, hnew.get?] at hget
        split at hget
        · rename_i hid
          subst hid
          refine ⟨c, ?_, ?_⟩
          · have hhas : y.server.subscriptions.contains (c ++ ":" ++ suffix) = true := by
              refine Dict.contains_iff.mpr ⟨sub, ?_⟩
              rw [subscriptions, hevents, hnew.get?, if_pos rfl]
            have hnone : x.server.subscriptions.contains (c ++ ":" ++ suffix) = false := by
              rw [Dict.contains, subscriptions, hnew.fresh]
              rfl
            rw [hmaker, note, hhas, hnone, hconn]
            rfl
          · rw [hlist, if_pos rfl]
            exact List.mem_append_right _ (List.mem_singleton_self _)
        · obtain ⟨c', hc', hmem⟩ := h.listed id sub' hget
          refine ⟨c', ?_, ?_⟩
          · rw [hmaker, note_of_get? hget, hc']
          · rw [hlist]
            split
            · rename_i heq
              subst heq
              exact List.mem_append_left _ hmem
            · exact hmem
      · intro id task' hget
        rw [htasks, Dict.get?_insert] at hget
        split at hget
        · rename_i hid
          obtain rfl := Option.some.inj hget
          rw [hid, hnew.subscriptionId, htask]
          exact startsWith_append c suffix
        · exact h.tasks id task' hget
  | @one c id' hremoval hside hkeeps =>
      obtain ⟨hevents, htasks⟩ := Prod.mk.inj hside
      constructor
      · intro id sub hget
        have hold : x.server.subscriptions.get? id = some sub := by
          rw [subscriptions, hevents, EventManager.unsubscribe, EventStream.unsubscribe,
            Dict.get?_erase] at hget
          split at hget
          · cases hget
          · exact hget
        rw [hmaker, note_of_get? hold, hevents]
        exact h.listed id sub hold
      · intro id task hget
        rw [htasks, Dict.get?_erase] at hget
        split at hget
        · cases hget
        · exact h.tasks id task hget
  | all hremoval hside hkeeps => exact h.clear hside hmaker
  | close hremoval hconnections hside => exact h.clear hside hmaker

theorem Owned.run {x y : Time × Ledger} {as : List Label} (hs : x.2.server.bus.Sound)
    (h : Owned x.2) (hrun : Run (Step.Timed Noted) x as y) : y.2.server.bus.Sound ∧ Owned y.2 := by
  refine hrun.invariant (P := fun x ↦ x.2.server.bus.Sound ∧ Owned x.2) ?_ ⟨hs, h⟩
  rintro x a y ⟨hs, h⟩ ⟨-, -, hstep⟩
  exact ⟨sound_step hs hstep.1, h.step hs hstep⟩

/-! ## What a connection gives up -/

/-- A connection gives subscriptions up: its `event.unsubscribe` is handled, or it
ends. -/
def Releases (s : Server) (a : Action) (c : String) (s' : Server) : Prop :=
  (∃ r, a.removal? = some (c, r)) ∨
    s.connections.contains c = true ∧ s'.connections.contains c = false

/-- All the subscriptions of a connection are given up. -/
def ReleasesAll (s : Server) (a : Action) (c : String) (s' : Server) : Prop :=
  a.removal? = some (c, .all) ∨
    s.connections.contains c = true ∧ s'.connections.contains c = false

/-- What is removed is what the connection made: the named subscription and its
task, or all of them. -/
structure OnlyOwn (x : Ledger) (a : Action) (c : String) (s' : Server) : Prop where
  subscriptions : ∀ id, x.maker id ≠ some c →
    s'.subscriptions.get? id = x.server.subscriptions.get? id
  tasks : ∀ id task, x.server.bus.eventDeliveryTasks.get? id = some task → task.connId ≠ c →
    s'.bus.eventDeliveryTasks.get? id = some task
  noSubscription : ∀ id, s'.subscriptions.get? id = x.server.subscriptions.get? id ∨
    s'.subscriptions.get? id = none
  noTask : ∀ id, s'.bus.eventDeliveryTasks.get? id = x.server.bus.eventDeliveryTasks.get? id ∨
    s'.bus.eventDeliveryTasks.get? id = none
  named : ∀ id, a.removal? = some (c, .one id) → s'.subscriptions.get? id = none ∧
    s'.bus.eventDeliveryTasks.get? id = none
  all : ReleasesAll x.server a c s' → (∀ id, x.maker id = some c →
    s'.subscriptions.get? id = none) ∧ ∀ id task,
      s'.bus.eventDeliveryTasks.get? id = some task → task.connId ≠ c

/-- The named subscription is no other connection's; or, when all are given up, no
other connection has taken over an id on the list, and no delivery task of another
connection has an id that starts with the connection id and a colon. -/
def Apart (x : Ledger) (a : Action) (c : String) : Prop :=
  match a.removal? with
  | some (_, .one id) => (x.server.subscriptions.contains id = true → x.maker id = some c) ∧
      ∀ task, x.server.bus.eventDeliveryTasks.get? id = some task → task.connId = c
  | some (_, .nothing) => True
  | _ => (∀ id ∈ Bus.listOf x.server.bus.events c, x.server.subscriptions.contains id = true →
        x.maker id = some c) ∧
      ∀ id task, x.server.bus.eventDeliveryTasks.get? id = some task →
        id.startsWith (c ++ ":") = true → task.connId = c

/-- Nothing is removed. -/
theorem onlyOwn_of_same {s' : Server} (hside : s'.bus.eventSide = x.server.bus.eventSide)
    (hnamed : ∀ id, a.removal? ≠ some (c, .one id)) (hall : ¬ ReleasesAll x.server a c s') :
    OnlyOwn x a c s' := by
  obtain ⟨hevents, htasks⟩ := Prod.mk.inj hside
  constructor
  · intro id _
    rw [Server.subscriptions, hevents]
  · intro id task hget _
    rw [htasks]
    exact hget
  · intro id
    left
    rw [Server.subscriptions, hevents]
  · intro id
    left
    rw [htasks]
  · intro id hid
    exact absurd hid (hnamed id)
  · intro h
    exact absurd h hall

/-- Removing one subscription is fine when it is no other connection's. -/
theorem onlyOwn_one {s' : Server} (hremoval : a.removal? = some (c, .one id))
    (hside : s'.bus.eventSide
      = (x.server.bus.events.unsubscribe id, x.server.bus.eventDeliveryTasks.erase id))
    (hkeeps : x.server.Keeps s') : OnlyOwn x a c s' ↔
      (x.server.subscriptions.contains id = true → x.maker id = some c) ∧
      ∀ task, x.server.bus.eventDeliveryTasks.get? id = some task → task.connId = c := by
  obtain ⟨hevents, htasks⟩ := Prod.mk.inj hside
  have hsubs : ∀ j, s'.subscriptions.get? j
      = if j = id then none else x.server.subscriptions.get? j := by
    intro j
    rw [Server.subscriptions, hevents]
    exact Dict.get?_erase _ _ _
  have htask : ∀ j, s'.bus.eventDeliveryTasks.get? j
      = if j = id then none else x.server.bus.eventDeliveryTasks.get? j := by
    intro j
    rw [htasks, Dict.get?_erase]
  constructor
  · intro h
    constructor
    · intro hcontains
      by_contra hother
      have hsame := h.subscriptions id hother
      rw [hsubs, if_pos rfl] at hsame
      obtain ⟨sub, hsub⟩ := Dict.contains_iff.mp hcontains
      cases hsame.trans hsub
    · intro task hget
      by_contra hother
      have hsame := h.tasks id task hget hother
      rw [htask, if_pos rfl] at hsame
      cases hsame
  · rintro ⟨hmaker, hown⟩
    constructor
    · intro j hj
      rw [hsubs]
      split
      · rename_i heq
        subst heq
        by_contra hsome
        refine hj (hmaker ?_)
        exact Option.isSome_iff_ne_none.mpr (Ne.symm hsome)
      · rfl
    · intro j task hget hother
      rw [htask, if_neg, hget]
      rintro rfl
      exact hother (hown task hget)
    · intro j
      rw [hsubs]
      split
      · exact .inr rfl
      · exact .inl rfl
    · intro j
      rw [htask]
      split
      · exact .inr rfl
      · exact .inl rfl
    · intro j hj
      obtain ⟨-, hj⟩ := Prod.mk.inj (Option.some.inj (hremoval.symm.trans hj))
      obtain rfl := Bus.Removal.one.inj hj
      exact ⟨by rw [hsubs, if_pos rfl], by rw [htask, if_pos rfl]⟩
    · rintro (hall | ⟨hbefore, hafter⟩)
      · cases hremoval.symm.trans hall
      · cases (hkeeps c hbefore).symm.trans hafter

/-- Clearing a connection is fine when nothing of another one is in its way. -/
theorem onlyOwn_clear {s' : Server} (h : Owned x) (hremoval : ∀ id, a.removal? ≠ some (c, .one id))
    (hside : s'.bus.eventSide = x.server.bus.cleared c) : OnlyOwn x a c s' ↔
      (∀ id ∈ Bus.listOf x.server.bus.events c, x.server.subscriptions.contains id = true →
        x.maker id = some c) ∧
      ∀ id task, x.server.bus.eventDeliveryTasks.get? id = some task →
        id.startsWith (c ++ ":") = true → task.connId = c := by
  have hsubs : ∀ id, s'.subscriptions.get? id
      = if id ∈ Bus.listOf x.server.bus.events c then none
        else x.server.subscriptions.get? id := by
    intro id
    rw [Server.subscriptions, show s'.bus.events = _ from congrArg Prod.fst hside]
    exact Bus.get?_cleared _ _ _
  have htask : ∀ id, s'.bus.eventDeliveryTasks.get? id
      = if id.startsWith (c ++ ":") then none else x.server.bus.eventDeliveryTasks.get? id := by
    intro id
    rw [show s'.bus.eventDeliveryTasks = _ from congrArg Prod.snd hside]
    exact Bus.task_cleared _ _ _
  constructor
  · intro hown
    constructor
    · intro id hid hcontains
      by_contra hother
      have hsame := hown.subscriptions id hother
      rw [hsubs, if_pos hid] at hsame
      obtain ⟨sub, hsub⟩ := Dict.contains_iff.mp hcontains
      cases hsame.trans hsub
    · intro id task hget hstarts
      by_contra hother
      have hsame := hown.tasks id task hget hother
      rw [htask, if_pos hstarts] at hsame
      cases hsame
  · rintro ⟨hmaker, hown⟩
    constructor
    · intro id hid
      rw [hsubs]
      split
      · rename_i hlist
        by_contra hsome
        exact hid (hmaker id hlist (Option.isSome_iff_ne_none.mpr (Ne.symm hsome)))
      · rfl
    · intro id task hget hother
      rw [htask, if_neg, hget]
      intro hstarts
      exact hother (hown id task hget hstarts)
    · intro id
      rw [hsubs]
      split
      · exact .inr rfl
      · exact .inl rfl
    · intro id
      rw [htask]
      split
      · exact .inr rfl
      · exact .inl rfl
    · intro id hid
      exact absurd hid (hremoval id)
    · intro _
      constructor
      · intro id hid
        rw [hsubs]
        split
        · rfl
        · rename_i hnot
          -- a subscription of the connection is on its list
          refine Option.eq_none_iff_forall_ne_some.mpr ?_
          intro sub hsub
          obtain ⟨c', hc', hlist⟩ := h.listed id sub hsub
          obtain rfl := Option.some.inj (hid.symm.trans hc')
          exact hnot hlist
      · rintro id task hget rfl
        rw [htask] at hget
        split at hget
        · cases hget
        · rename_i hnot
          exact hnot (h.tasks id task hget)

/-- In every run, what an `event.unsubscribe` handled on a connection and the end of
the connection remove is what the connection itself made, if and only if nothing of
another connection is in the way. -/
theorem releases_own_iff {library : Library} {settings : Settings} {t : Time} {as : List Label}
    {x y : Time × Ledger} {a : Label} {c : String}
    (hrun : Run (Step.Timed Noted) (t, ⟨start library settings, fun _ ↦ none⟩) as x)
    (hstep : Step.Timed Noted x a y) (hreleases : Releases x.2.server a.2.2 c y.2.server) :
    OnlyOwn x.2 a.2.2 c y.2.server ↔ Apart x.2 a.2.2 c := by
  obtain ⟨hs, hown⟩ := Owned.run (sound_start library settings) (.start library settings) hrun
  obtain ⟨-, -, ⟨⟨-, fired, hfire, heq⟩, -⟩⟩ := hstep
  have hevents := fire_eventsStep hs hfire
  rw [heq] at hevents
  generalize a.2.2 = action at hevents hreleases
  have hnever : x.2.server.Keeps y.2.server → Releases x.2.server action c y.2.server →
      ∃ r, action.removal? = some (c, r) := by
    rintro hkeeps (hr | ⟨hbefore, hafter⟩)
    · exact hr
    · cases (hkeeps c hbefore).symm.trans hafter
  unfold Apart
  cases hevents with
  | same hside hkeeps hnothing =>
      obtain ⟨r, hr⟩ := hnever hkeeps hreleases
      obtain rfl := hnothing c r hr
      rw [hr]
      refine iff_of_true (onlyOwn_of_same hside ?_ ?_) trivial
      · intro id hid
        cases hr.symm.trans hid
      · rintro (hall | ⟨hbefore, hafter⟩)
        · cases hr.symm.trans hall
        · cases (hkeeps c hbefore).symm.trans hafter
  | subscribe hconn hremoval hnew htask hside hkeeps =>
      obtain ⟨r, hr⟩ := hnever hkeeps hreleases
      cases hremoval.symm.trans hr
  | one hremoval hside hkeeps =>
      obtain ⟨r, hr⟩ := hnever hkeeps hreleases
      obtain ⟨rfl, -⟩ := Prod.mk.inj (Option.some.inj (hremoval.symm.trans hr))
      rw [hremoval]
      exact onlyOwn_one hremoval hside hkeeps
  | all hremoval hside hkeeps =>
      obtain ⟨r, hr⟩ := hnever hkeeps hreleases
      obtain ⟨rfl, -⟩ := Prod.mk.inj (Option.some.inj (hremoval.symm.trans hr))
      rw [hremoval]
      refine onlyOwn_clear hown ?_ hside
      intro id hid
      cases hremoval.symm.trans hid
  | @close c' hremoval hconnections hside =>
      have hc : c = c' := by
        rcases hreleases with ⟨r, hr⟩ | ⟨hbefore, hafter⟩
        · rcases hremoval with hnone | hall
          · cases hnone.symm.trans hr
          · exact (Prod.mk.inj (Option.some.inj (hall.symm.trans hr))).1.symm
        · by_contra hne
          obtain ⟨conn, hconn⟩ := Dict.contains_iff.mp hbefore
          have hkept : y.2.server.connections.contains c = true := by
            refine Dict.contains_iff.mpr ⟨conn, ?_⟩
            rw [hconnections, Dict.get?_erase, if_neg hne, hconn]
          cases hkept.symm.trans hafter
      subst hc
      have hclear : ∀ id, action.removal? ≠ some (c, .one id) := by
        intro id hid
        rcases hremoval with hnone | hall
        · cases hnone.symm.trans hid
        · cases hall.symm.trans hid
      rcases hremoval with hnone | hall
      · rw [hnone]
        exact onlyOwn_clear hown hclear hside
      · rw [hall]
        exact onlyOwn_clear hown hclear hside

/-- A script and one more action, played and noted down. -/
theorem noted_play {s : Time × Server} {script : List (Time × UUID × Action)}
    {e : Time × UUID × Action} (h : Playable (fun _ _ _ ↦ True) s script)
    (hlast : Playable (fun _ _ _ ↦ True) (playState s script) [e]) :
    let x := playState s script
    let y := playState x [e]
    ∃ maker maker', Run (Step.Timed Noted) (s.1, ⟨s.2, fun _ ↦ none⟩) (playLabels script)
        (x.1, ⟨x.2, maker⟩) ∧
      Step.Timed Noted (x.1, ⟨x.2, maker⟩) (e.1, (fun _ ↦ e.2.1, e.2.2)) (y.1, ⟨y.2, maker'⟩) := by
  intro x y
  obtain ⟨maker, hrun⟩ := exists_noted (run_play h) fun _ ↦ none
  cases run_play hlast with
  | cons hstep hrest =>
      cases hrest with
      | nil => exact ⟨maker, note ⟨x.2, maker⟩ e.2.2 y.2, hrun, hstep.1, hstep.2.1, hstep.2.2, rfl⟩

def sampleSubscription : List (Time × UUID × Action) := sampleNegotiation ++
  [(300000, ⟨90⟩, .message requesterConn (sampleEnvelope .eventSubscribe ⟨1⟩ "acme" none
    [("session_id", .str (UUID.str ⟨100⟩))]))]

def sampleRemoval (connId : String) (sender : UUID) : Time × UUID × Action :=
  (400000, ⟨90⟩, .message connId (sampleEnvelope .eventUnsubscribe sender "acme" none
    [("subscription_id", .str (requesterConn ++ ":" ++ UUID.str ⟨100⟩))]))

/-- The requester gives up its subscription. -/
theorem releases_own : ∃ (x : Time × Ledger) (a : Label) (y : Time × Ledger),
    (∃ as, Run (Step.Timed Noted) (0, ⟨start sampleLibrary {}, fun _ ↦ none⟩) as x) ∧
      x.2.server.subscriptions.contains (requesterConn ++ ":" ++ UUID.str ⟨100⟩) = true ∧
      (OnlyOwn x.2 a.2.2 requesterConn y.2.server ↔ Apart x.2 a.2.2 requesterConn) := by
  have hplay : Playable (fun _ _ _ ↦ True) sampleStart sampleSubscription := by decide +kernel
  have hlast : Playable (fun _ _ _ ↦ True) (playState sampleStart sampleSubscription)
      [sampleRemoval requesterConn ⟨1⟩] := by decide +kernel
  have hbefore : (playState sampleStart sampleSubscription).2.subscriptions.contains
      (requesterConn ++ ":" ++ UUID.str ⟨100⟩) = true := by decide +kernel
  obtain ⟨maker, maker', hrun, hstep⟩ := noted_play hplay hlast
  exact ⟨_, _, _, ⟨_, hrun⟩, hbefore, releases_own_iff hrun hstep (.inl ⟨_, rfl⟩)⟩

/-- The provider removes the subscription of the requester. -/
theorem releases_foreign : ∃ (x : Time × Ledger) (a : Label) (y : Time × Ledger),
    (∃ as, Run (Step.Timed Noted) (0, ⟨start sampleLibrary {}, fun _ ↦ none⟩) as x) ∧
      Step.Timed Noted x a y ∧ Releases x.2.server a.2.2 providerConn y.2.server ∧
      ¬ OnlyOwn x.2 a.2.2 providerConn y.2.server := by
  have hplay : Playable (fun _ _ _ ↦ True) sampleStart sampleSubscription := by decide +kernel
  have hlast : Playable (fun _ _ _ ↦ True) (playState sampleStart sampleSubscription)
      [sampleRemoval providerConn ⟨2⟩] := by decide +kernel
  obtain ⟨maker, maker', hrun, hstep⟩ := noted_play hplay hlast
  refine ⟨_, _, _, ⟨_, hrun⟩, hstep, .inl ⟨_, rfl⟩, fun h ↦ ?_⟩
  obtain ⟨-, hown⟩ := Owned.run (sound_start sampleLibrary {}) (.start sampleLibrary {}) hrun
  have hbefore : (playState sampleStart sampleSubscription).2.subscriptions.contains
      (requesterConn ++ ":" ++ UUID.str ⟨100⟩) = true := by decide +kernel
  have hafter : (playState (playState sampleStart sampleSubscription)
      [sampleRemoval providerConn ⟨2⟩]).2.subscriptions.contains
        (requesterConn ++ ":" ++ UUID.str ⟨100⟩) = false := by decide +kernel
  have hlist : Bus.listOf (playState sampleStart sampleSubscription).2.bus.events providerConn
      = [] := by decide +kernel
  obtain ⟨sub, hsub⟩ := Dict.contains_iff.mp hbefore
  obtain ⟨c, hmaker, hmem⟩ := hown.listed _ sub hsub
  have hother : maker (requesterConn ++ ":" ++ UUID.str ⟨100⟩) ≠ some providerConn := by
    intro hprovider
    obtain rfl := Option.some.inj (hmaker.symm.trans hprovider)
    rw [hlist] at hmem
    cases hmem
  have hsame := (h.subscriptions _ hother).trans hsub
  cases (Dict.contains_iff.mpr ⟨sub, hsame⟩).symm.trans hafter

end Ledger

end Server

end SemanticBus
