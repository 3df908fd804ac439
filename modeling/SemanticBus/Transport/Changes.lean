import SemanticBus.Transport.Effects

/-!
# What the actions change

Every action changes the bus in small steps, and each of them is about one
session, one connection, one agent or the event stream (`Change`).
`fire_changes` says which steps an action takes; the invariants of the
components (`Bus.Sound`) and the frame conditions are read off it.
-/

namespace SemanticBus

inductive Subject where
  | session (sessionId : UUID)
  | connection (connId : String)
  | agent (agentId : UUID) (tenantId : String)
  | newSession (sessionId : UUID) (tenantId : String)
  | events
  | clock

/-- Whose session it is does not change. -/
structure Session.SameOwner (session session' : Session) : Prop where
  id : session'.ephemeralInterfaceId = session.ephemeralInterfaceId
  tenantId : session'.tenantId = session.tenantId
  requesterConnId : session'.requesterConnId = session.requesterConnId

inductive Change (now : Time) : Subject → Bus → Bus → Prop
  /-- The session changes. -/
  | update {b : Bus} {sid : UUID} (f : Session → Session) :
      (∀ session : Session, session.SameOwner (f session)) →
      Change now (.session sid) b { b with sessions := b.sessions.update sid f }
  /-- A trace event of the session. -/
  | record {b : Bus} {sid : UUID} {session : Session} (event : TraceEvent) :
      b.sessions.getSession sid = some session → event.ephemeralInterfaceId = some sid →
      Change now (.session sid) b (b.record event)
  /-- The outbound queue of the requester of the session. -/
  | enqueue {b : Bus} {sid : UUID} {session : Session} (q : ConnectionQueue) :
      b.sessions.getSession sid = some session → (b.queues.Open → q.closed = false) →
      Change now (.session sid) b
        { b with queues := b.queues.setQueue session.requesterConnId q }
  /-- The outbound queue of a connection. -/
  | write {b : Bus} {connId : String} (q : ConnectionQueue) :
      (b.queues.Open → q.closed = false) →
      Change now (.connection connId) b { b with queues := b.queues.setQueue connId q }
  /-- A sign of life. -/
  | heartbeat {b : Bus} (connId : String) :
      Change now (.connection connId) b
        { b with registry := (b.registry.heartbeat now connId).1 }
  /-- The end of a registration. -/
  | unregister {b : Bus} (connId : String) :
      Change now (.connection connId) b { b with registry := (b.registry.unregister connId).1 }
  /-- A registration. -/
  | register {b : Bus} (agentId : UUID) (tenantId : String) (websocket : Nat)
      (capabilities tags schemas metadata : Json) :
      Change now (.agent agentId tenantId) b { b with
        registry := (b.registry.register now agentId tenantId websocket capabilities tags schemas
          metadata).1 }
  /-- A trace event that belongs to no session. -/
  | announce {b : Bus} {agentId : UUID} {tenantId : String} (event : TraceEvent) :
      event.ephemeralInterfaceId = none → Change now (.agent agentId tenantId) b (b.record event)
  /-- A new session. -/
  | create {b : Bus} (sid : UUID) (tenantId : String) (agentId : UUID) (connId : String)
      (intentMessageId : UUID) (intent : JsonObj) (flowAgents : List String)
      (entryPoint : Option String) :
      Change now (.newSession sid tenantId) b { b with
        sessions := (b.sessions.createSession now sid tenantId agentId connId intentMessageId intent
          flowAgents entryPoint).1 }
  /-- The subscriptions. -/
  | events {b : Bus} (events : EventManager) (tasks : Dict String DeliveryTask) :
      (b.events.Silent → events.Silent) →
      Change now .events b { b with events := events, eventDeliveryTasks := tasks }
  /-- The cleanup of the sessions. -/
  | expire {b : Bus} :
      Change now .clock b { b with sessions := b.sessions.cleanupExpiredSessions now }
  /-- The cleanup of the registry. -/
  | reap {b : Bus} :
      Change now .clock b { b with registry := (b.registry.cleanupDeadAgents now).1 }

/-- Changes, one after the other, about the given subjects. -/
def Changes (now : Time) (About : Subject → Prop) : Bus → Bus → Prop :=
  Relation.ReflTransGen fun b b' ↦ ∃ subject, About subject ∧ Change now subject b b'

namespace Changes

variable {now : Time} {About About' : Subject → Prop} {b b' b'' : Bus} {subject : Subject}

theorem refl (b : Bus) : Changes now About b b := Relation.ReflTransGen.refl

theorem single (hsubject : About subject) (h : Change now subject b b') :
    Changes now About b b' := Relation.ReflTransGen.single ⟨subject, hsubject, h⟩

theorem trans (h : Changes now About b b') (h' : Changes now About b' b'') :
    Changes now About b b'' := Relation.ReflTransGen.trans h h'

theorem mono (hsubject : ∀ subject, About subject → About' subject)
    (h : Changes now About b b') : Changes now About' b b' :=
  Relation.ReflTransGen.mono (fun _ _ ⟨s, hs, hc⟩ ↦ ⟨s, hsubject s hs, hc⟩) _ _ h

/-- What every change keeps holds after any number of them. -/
theorem invariant {P : Bus → Prop}
    (hstep : ∀ subject b b', About subject → Change now subject b b' → P b → P b')
    (h : Changes now About b b') (hb : P b) : P b' := by
  induction h with
  | refl => exact hb
  | tail _ hlast ih =>
      obtain ⟨subject, hsubject, hchange⟩ := hlast
      exact hstep subject _ _ hsubject hchange ih

end Changes

/-! ## Invariants of the components -/

/-- What holds of the components of the bus in every run: no outbound queue is
closed, no event was published, the indexes of the registry agree, and sessions
are stored under their ids. -/
structure Bus.Sound (b : Bus) : Prop where
  queues : b.queues.Open
  events : b.events.Silent
  registry : AgentRegistry.Coherent b.registry
  keyed : ∀ sid session, b.sessions.getSession sid = some session →
    session.ephemeralInterfaceId = sid

/-- Every change keeps the invariants. -/
theorem Change.sound {now : Time} {subject : Subject} {b b' : Bus} (h : Change now subject b b')
    (hb : b.Sound) : b'.Sound := by
  cases h with
  | update f hf =>
      refine { hb with keyed := fun j session hget ↦ ?_ }
      rw [SessionManager.getSession_update] at hget
      split at hget
      · rename_i hj
        obtain ⟨before, hbefore, rfl⟩ := Option.map_eq_some_iff.mp hget
        rw [(hf before).id, hb.keyed _ before hbefore, hj]
      · exact hb.keyed j session hget
  | record event hget hid => exact { hb with }
  | enqueue q hget hq => exact { hb with queues := hb.queues.setQueue (hq hb.queues) }
  | write q hq => exact { hb with queues := hb.queues.setQueue (hq hb.queues) }
  | heartbeat connId => exact { hb with registry := hb.registry.heartbeat now connId }
  | unregister connId => exact { hb with registry := hb.registry.unregister connId }
  | register agentId tenantId websocket capabilities tags schemas metadata =>
      exact { hb with
        registry := hb.registry.register now agentId tenantId websocket capabilities tags schemas
          metadata }
  | announce event hid => exact { hb with }
  | create sid tenantId agentId connId intentMessageId intent flowAgents entryPoint =>
      refine { hb with keyed := fun j session hget ↦ ?_ }
      rw [SessionManager.getSession_create] at hget
      split at hget
      · rename_i hj
        obtain rfl := Option.some.inj hget
        exact hj.symm
      · exact hb.keyed j session hget
  | events events tasks hsilent => exact { hb with events := hsilent hb.events }
  | expire =>
      refine { hb with keyed := fun j session hget ↦ ?_ }
      rw [SessionManager.getSession_cleanup] at hget
      obtain ⟨before, hbefore, rfl⟩ := Option.map_eq_some_iff.mp hget
      rw [apply_ite Session.ephemeralInterfaceId]
      exact (ite_self _).trans (hb.keyed j before hbefore)
  | reap => exact { hb with registry := hb.registry.cleanupDeadAgents now }

theorem Changes.sound {now : Time} {About : Subject → Prop} {b b' : Bus}
    (h : Changes now About b b') (hb : b.Sound) : b'.Sound :=
  h.invariant (fun _ _ _ _ hchange ↦ hchange.sound) hb

/-! ## The handlers -/

/-- The subjects that a message may be about. -/
inductive Concerns (connId : String) (envelope : MessageEnvelope) : Subject → Prop
  | session {sid : UUID} : envelope.ephemeralInterfaceId = some sid →
      Concerns connId envelope (.session sid)
  | connection : Concerns connId envelope (.connection connId)
  | events : Concerns connId envelope .events

namespace Session

variable {session : Session}

theorem sameOwner_updateExecutionStatus {now : Time} {execId : Json} {status : ExecutionStatus}
    {resultViewId : Option Json} {resultValid : Option Bool} :
    session.SameOwner (session.updateExecutionStatus now execId status resultViewId resultValid) := by
  unfold updateExecutionStatus
  split
  · exact ⟨rfl, rfl, rfl⟩
  · exact ⟨rfl, rfl, rfl⟩

end Session

namespace Bus

variable {b : Bus} {env : Env} {now : Time} {websocket : Nat} {connId : String}
  {envelope : MessageEnvelope} {sid : UUID} {session : Session}

/-- A change of the session that the message names. -/
theorem changes_update (hsid : envelope.ephemeralInterfaceId = some sid) {f : Session → Session}
    (hf : ∀ session : Session, session.SameOwner (f session)) :
    Changes now (Concerns connId envelope) b { b with sessions := b.sessions.update sid f } :=
  .single (.session hsid) (.update f hf)

/-- A trace event of the session that the message names. -/
theorem changes_record (hsid : envelope.ephemeralInterfaceId = some sid)
    (hget : b.sessions.getSession sid = some session) {event : TraceEvent}
    (hevent : event.ephemeralInterfaceId = some sid) :
    Changes now (Concerns connId envelope) b (b.record event) :=
  .single (.session hsid) (.record event hget hevent)

theorem handleHeartbeat_changes :
    Changes env.now (Concerns connId envelope) b
      (b.handleHeartbeat env websocket connId envelope).bus := by
  have hbus : (b.handleHeartbeat env websocket connId envelope).bus
      = { b with registry := (b.registry.heartbeat env.now connId).1 } := by
    unfold handleHeartbeat
    dsimp only
    split
    · rfl
    · rfl
  rw [hbus]
  exact .single .connection (.heartbeat connId)

theorem handleIntentOffer_changes :
    Changes env.now (Concerns connId envelope) b
      (b.handleIntentOffer env websocket connId envelope).bus := by
  unfold handleIntentOffer
  split
  · exact .refl b
  · rename_i target htarget
    split
    · exact .refl b
    · rename_i found hfound
      dsimp only
      split
      · exact .refl b
      · exact .refl b
      · rename_i sessions offer hoffer
        obtain ⟨rfl, -⟩ := addOffer_ok hoffer
        have hget : (b.sessions.update target (·.addOffer offer)).getSession target
            = some (found.addOffer offer) := by
          rw [SessionManager.getSession_update, if_pos rfl, hfound, Option.map_some]
        exact (changes_update (f := (·.addOffer offer)) htarget fun _ ↦ ⟨rfl, rfl, rfl⟩).trans
          (changes_record htarget hget rfl)

theorem handleIntentAgree_changes (hb : b.Sound) :
    Changes env.now (Concerns connId envelope) b
      (b.handleIntentAgree env websocket envelope).bus := by
  unfold handleIntentAgree
  split
  · exact .refl b
  · rename_i target htarget
    dsimp only
    split
    · exact .refl b
    · split
      · exact .refl b
      · rename_i found hfound
        split
        · exact .refl b
        · split
          · rename_i offerId _
            split
            · exact .refl b
            · have hid : found.ephemeralInterfaceId = target := hb.keyed target found hfound
              have hget : (b.sessions.update target (activate · env.now offerId)).getSession target
                  = some (activate found env.now offerId) := by
                rw [SessionManager.getSession_update, if_pos rfl, hfound, Option.map_some]
              have hevent : some (activate found env.now offerId).ephemeralInterfaceId
                  = some target := congrArg some hid
              exact ((changes_update (f := (activate · env.now offerId)) htarget
                fun _ ↦ ⟨rfl, rfl, rfl⟩).trans (changes_record htarget hget hevent)).trans
                (changes_record htarget hget hevent)
          · exact .refl b

theorem handleSessionClose_changes :
    Changes env.now (Concerns connId envelope) b
      (b.handleSessionClose env websocket connId envelope).bus := by
  unfold handleSessionClose
  split
  · exact .refl b
  · rename_i target htarget
    dsimp only
    split
    · exact .refl b
    · rename_i sessions closed hclosed
      unfold SessionManager.closeSession at hclosed
      split at hclosed
      · cases (Prod.mk.inj hclosed).2
      · rename_i found hfound
        obtain ⟨rfl, -⟩ := Prod.mk.inj hclosed
        have hget : (b.sessions.update target (·.close env.now)).getSession target
            = some (found.close env.now) := by
          rw [SessionManager.getSession_update, if_pos rfl, hfound, Option.map_some]
        have hchanges : Changes env.now (Concerns connId envelope) b
            ({ b with sessions := b.sessions.update target (·.close env.now) }.record
              (traceSessionClosed closed.tenantId target
                ((JsonObj.get envelope.payload "reason").orElse (.str "explicit")))) :=
          (changes_update (f := (·.close env.now)) htarget fun _ ↦ ⟨rfl, rfl, rfl⟩).trans
            (changes_record htarget hget rfl)
        split
        · exact hchanges
        · exact hchanges

/-- A report on an execution of the session that the message names, if there is
one to make. -/
theorem changes_execution {p : Bool} {execId : Json} {status : ExecutionStatus}
    {resultViewId : Option Json} {resultValid : Option Bool}
    (hsid : envelope.ephemeralInterfaceId = some sid) :
    Changes env.now (Concerns connId envelope) b
      (if p then b.updateExecution env sid execId status resultViewId resultValid else b) := by
  split
  · exact changes_update hsid fun _ ↦ Session.sameOwner_updateExecutionStatus
  · exact .refl b

theorem handleExecStatus_changes {status : ExecutionStatus} :
    Changes env.now (Concerns connId envelope) b (handleExecStatus status b env envelope).bus := by
  unfold handleExecStatus
  split
  · exact .refl b
  · rename_i target found hprovider
    rw [forward_bus]
    exact changes_execution (providerSession_some hprovider).1

/-- A report on an execution, if there is one to make, and its trace event. -/
theorem changes_execution_record {p : Bool} {execId : Json} {status : ExecutionStatus}
    {resultViewId : Option Json} {resultValid : Option Bool}
    (hsid : envelope.ephemeralInterfaceId = some sid)
    (hget : b.sessions.getSession sid = some session) {event : TraceEvent}
    (hevent : event.ephemeralInterfaceId = some sid) :
    Changes env.now (Concerns connId envelope) b
      ((if p then b.updateExecution env sid execId status resultViewId resultValid
        else b).record event) := by
  split
  · have hget' : (b.updateExecution env sid execId status resultViewId resultValid).sessions.getSession
        sid = some (session.updateExecutionStatus env.now execId status resultViewId resultValid) := by
      rw [updateExecution, SessionManager.getSession_update, if_pos rfl, hget, Option.map_some]
    exact (changes_update hsid fun _ ↦ Session.sameOwner_updateExecutionStatus).trans
      (changes_record hsid hget' hevent)
  · exact changes_record hsid hget hevent

theorem handleExecResult_changes :
    Changes env.now (Concerns connId envelope) b
      (b.handleExecResult env websocket envelope).bus := by
  unfold handleExecResult
  split
  · exact .refl b
  · rename_i target found hcheck
    obtain ⟨htarget, hvalid, -⟩ := providerSession_some (checkProvider_ok hcheck)
    have hfound := (SessionManager.validate_ok hvalid).1
    dsimp only
    split
    · exact changes_execution htarget
    · split
      · exact .refl b
      · split
        · exact changes_execution htarget
        · split
          · exact changes_execution_record htarget hfound rfl
          · exact changes_execution_record htarget hfound rfl

/-- A message for the queue of the requester of the session that the envelope names. -/
theorem changes_queued (hsid : envelope.ephemeralInterfaceId = some sid) {stored : Session}
    (hget : b.sessions.getSession sid = some stored) (howner : session.SameOwner stored)
    (message : Message) :
    Changes now (Concerns connId envelope) b (b.sendToRequesterQueued session message).1 := by
  unfold sendToRequesterQueued
  rw [← howner.requesterConnId]
  split
  · exact .refl b
  · rename_i socket _
    have hcreate : Changes now (Concerns connId envelope) b
        { b with queues := (b.queues.getOrCreate stored.requesterConnId socket).1 } := by
      unfold ConnectionQueueManager.getOrCreate
      split
      · exact .refl b
      · exact .single (.session hsid) (.enqueue _ hget fun _ ↦ rfl)
    dsimp only
    split
    · exact hcreate
    · rename_i q hput
      refine hcreate.trans (.single (.session hsid) (.enqueue q hget fun hopen ↦ ?_))
      rw [ConnectionQueueManager.closed_of_putNowait hput]
      exact hopen _ _ (ConnectionQueueManager.get?_getOrCreate _ _ _)

/-- The handlers of a stream differ in how they pass a message on, in the session that
the envelope names. -/
theorem stream_changes {passOn : UUID → Session → Option String → Outcome}
    (hpassOn : ∀ target found tracedId, envelope.ephemeralInterfaceId = some target →
      b.sessions.getSession target = some found →
        Changes env.now (Concerns connId envelope) b (passOn target found tracedId).bus) :
    Changes env.now (Concerns connId envelope) b
      (match b.providerSession env envelope with
        | none => b.done
        | some (target, found) =>
            match TraceEvent.execIdOf (JsonObj.getD envelope.payload "exec_id" (.str "")) with
            | .error e => b.raise e
            | .ok tracedId => passOn target found tracedId).bus := by
  split
  · exact .refl b
  · rename_i target found hprovider
    obtain ⟨htarget, hvalid, -⟩ := providerSession_some hprovider
    split
    · exact .refl b
    · exact hpassOn _ _ _ htarget (SessionManager.validate_ok hvalid).1

theorem handleStreamStart_changes :
    Changes env.now (Concerns connId envelope) b (b.handleStreamStart env envelope).bus := by
  refine stream_changes fun target found tracedId htarget hfound ↦ ?_
  exact (changes_record htarget hfound rfl).trans
    (changes_queued (b := b.record _) htarget hfound ⟨rfl, rfl, rfl⟩ _)

theorem handleStreamChunk_changes :
    Changes env.now (Concerns connId envelope) b
      (b.handleStreamChunk env websocket envelope).bus := by
  refine stream_changes fun target found tracedId htarget hfound ↦ ?_
  have hchanges : Changes env.now (Concerns connId envelope) b
      ((b.record (traceStreamChunk envelope.tenantId target tracedId
        (JsonObj.getD envelope.payload "seq" (.int 0))
        (chunkLen (JsonObj.getD envelope.payload "data" (.str ""))))).sendToRequesterQueued found
          envelope.toMessage).1 :=
    (changes_record htarget hfound rfl).trans
      (changes_queued (b := b.record _) htarget hfound ⟨rfl, rfl, rfl⟩ _)
  have hsessions := sendToRequesterQueued_sessions
    (b.record (traceStreamChunk envelope.tenantId target tracedId
      (JsonObj.getD envelope.payload "seq" (.int 0))
      (chunkLen (JsonObj.getD envelope.payload "data" (.str ""))))) found envelope.toMessage
  dsimp only
  split
  · rename_i heq
    rw [heq] at hchanges
    exact hchanges
  · rename_i after heq
    rw [heq] at hchanges hsessions
    have hafter : after.sessions.getSession target = some found := by
      rw [show after.sessions = b.sessions from hsessions, hfound]
    exact hchanges.trans (changes_record htarget hafter rfl)
  · rename_i heq
    rw [heq] at hchanges
    exact hchanges

theorem handleStreamEnd_changes :
    Changes env.now (Concerns connId envelope) b (b.handleStreamEnd env envelope).bus := by
  refine stream_changes fun target found tracedId htarget hfound ↦ ?_
  have hrecord : Changes env.now (Concerns connId envelope) b
      (b.record (traceStreamEnd envelope.tenantId target tracedId
        (JsonObj.get envelope.payload "total_chunks")
        (JsonObj.get envelope.payload "total_bytes"))) := changes_record htarget hfound rfl
  refine hrecord.trans ?_
  dsimp only
  split
  · have hstored := SessionManager.getSession_update_self b.sessions target
      (·.updateExecutionStatus env.now (JsonObj.getD envelope.payload "exec_id" (.str ""))
        .completed none none)
    rw [hfound, Option.map_some] at hstored
    exact (changes_update htarget fun _ ↦ Session.sameOwner_updateExecutionStatus).trans
      (changes_queued htarget hstored Session.sameOwner_updateExecutionStatus _)
  · exact changes_queued (b := b.record _) htarget hfound ⟨rfl, rfl, rfl⟩ _

theorem handleEventSubscribe_changes :
    Changes now (Concerns connId envelope) b
      (b.handleEventSubscribe websocket connId envelope).bus := by
  unfold handleEventSubscribe
  dsimp only
  split
  · exact .refl b
  · split
    · split
      · exact .refl b
      · split
        · exact .refl b
        · split
          · exact .refl b
          · split
            · exact .refl b
            · split
              · exact .refl b
              · rename_i events sub hsubscribe
                refine .single .events (.events events _ fun hsilent ↦ ?_)
                unfold subscribe at hsubscribe
                split at hsubscribe
                · split at hsubscribe
                  · exact hsilent.subscribeSession hsubscribe
                  · exact hsilent.subscribeExecution hsubscribe
                · exact hsilent.subscribeSession hsubscribe
    · exact .refl b

theorem handleEventUnsubscribe_changes :
    Changes now (Concerns connId envelope) b (b.handleEventUnsubscribe connId envelope).bus := by
  unfold handleEventUnsubscribe
  dsimp only
  split
  · split
    · exact .single .events (.events _ _ fun hsilent ↦ hsilent.unsubscribe _)
    · split
      · exact .refl b
      · exact .refl b
  · exact .single .events (.events _ _ fun hsilent ↦ hsilent.unsubscribeConnection connId)

/-- A message changes nothing but what concerns it. -/
theorem handleMessage_changes (hb : b.Sound) :
    Changes env.now (Concerns connId envelope) b
      (b.handleMessage env websocket connId envelope).bus := by
  unfold handleMessage
  split
  · exact handleHeartbeat_changes
  · exact .refl b
  · unfold handleIntentBroadcast
    split
    · exact .refl b
    · exact .refl b
  · exact handleIntentOffer_changes
  · exact handleIntentAgree_changes hb
  · exact handleSessionClose_changes
  · unfold handleExecRequest
    repeat' split
    all_goals exact .refl b
  · exact handleExecStatus_changes
  · exact handleExecStatus_changes
  · exact handleExecResult_changes
  · exact handleExecStatus_changes
  · unfold handleExecPartialFailure
    repeat' split
    all_goals exact .refl b
  · exact handleStreamStart_changes
  · exact handleStreamChunk_changes
  · exact handleStreamEnd_changes
  · unfold handleTraceGet
    dsimp only
    repeat' split
    all_goals exact .refl b
  · exact handleEventSubscribe_changes
  · exact handleEventUnsubscribe_changes
  · unfold handleEmitEvent
    repeat' split
    all_goals exact .refl b
  · exact .refl b

end Bus

/-! ## The actions -/

def Action.connId? : Action → Option String
  | .message connId _ | .disconnect connId _ | .answer connId _ | .deliver connId | .poll connId
  | .queueWrite connId _ => some connId
  | .connect _ _ | .sessionTick | .registryTick | .deliverEvent _ => none

namespace Server

inductive Affects (s : Server) (env : Env) : Action → Subject → Prop
  /-- A registration. -/
  | connect {websocket : Nat} {envelope : MessageEnvelope} :
      Affects s env (.connect websocket envelope) (.agent envelope.senderId envelope.tenantId)
  /-- The session that a message names. -/
  | message {connId : String} {envelope : MessageEnvelope} {sid : UUID} :
      envelope.ephemeralInterfaceId = some sid →
      Affects s env (.message connId envelope) (.session sid)
  /-- The session that a broadcast creates. -/
  | answer {connId : String} {answer : Option AgentFlow} {conn : Connection} {task : FlowTask} :
      s.taskOf connId = some (conn, task) →
      Affects s env (.answer connId answer) (.newSession (env.uuid 0) task.envelope.tenantId)
  /-- The session of a broadcast. -/
  | poll {connId : String} {conn : Connection} {task : FlowTask} {sid : UUID} {flow : AgentFlow}
      {polls : Nat} {wake : Time} : s.taskOf connId = some (conn, task) →
      task.stage = .collecting sid flow polls wake → Affects s env (.poll connId) (.session sid)
  /-- The connection of the action. -/
  | connection {a : Action} {connId : String} : a.connId? = some connId →
      Affects s env a (.connection connId)
  /-- The subscriptions. -/
  | events {a : Action} : Affects s env a .events
  /-- Everything that has a lifetime. -/
  | clock {a : Action} : a = .sessionTick ∨ a = .registryTick → Affects s env a .clock

variable {s : Server} {env : Env} {a : Action} {connId : String} {conn : Connection} {o : Outcome}
  {fired : Fired}

/-- The end of a connection. -/
theorem cleanupConnection_changes {now : Time} {About : Subject → Prop} {b : Bus}
    (hevents : About .events) (hconn : About (.connection connId)) :
    Changes now About b (b.cleanupConnection connId) := by
  have hcleanup : Changes now About b { b.cancelDeliveries connId with
      events := b.events.unsubscribeConnection connId } :=
    .single hevents (.events _ _ fun hsilent ↦ hsilent.unsubscribeConnection connId)
  exact hcleanup.trans (.single hconn (.unregister connId))

theorem Handles.connId? (h : s.Handles env a connId conn o) : a.connId? = some connId := by
  cases h with
  | message _ _ _ => rfl
  | answer _ _ _ => rfl
  | deliver _ _ => rfl
  | poll _ _ _ => rfl

/-- What a message loop does. -/
theorem Handles.changes (hs : s.bus.Sound) (h : s.Handles env a connId conn o) :
    Changes env.now (s.Affects env a) s.bus o.bus := by
  cases h with
  | message envelope hget htask =>
      refine (Bus.handleMessage_changes hs).mono ?_
      intro subject hsubject
      cases hsubject with
      | session hsid => exact .message hsid
      | connection => exact .connection rfl
      | events => exact .events
  | answer answer htask hstage =>
      unfold Bus.startFlow
      split
      · exact .refl s.bus
      · exact .single (.answer htask) (.create _ _ _ _ _ _ _ _)
  | deliver htask hstage =>
      unfold Bus.deliverNext
      split
      · exact .refl s.bus
      · exact .refl s.bus
  | poll htask hstage hwake =>
      rename_i task sid flow polls wake
      have hfinish : ∀ offers, Changes env.now (s.Affects env (.poll connId)) s.bus
          (s.bus.finishFlow env task sid flow offers).bus := by
        intro offers
        unfold Bus.finishFlow
        split
        · exact .refl s.bus
        · exact .single (.poll htask hstage) (.update _ fun _ ↦ ⟨rfl, rfl, rfl⟩)
      unfold Bus.pollOffers
      dsimp only
      split
      · exact hfinish _
      · split
        · exact hfinish []
        · exact .refl s.bus

theorem resume_changes (ha : a.connId? = some connId)
    (h : Changes env.now (s.Affects env a) s.bus o.bus) :
    Changes env.now (s.Affects env a) s.bus (s.resume connId conn o).server.bus := by
  unfold resume
  split
  · exact h
  · exact h.trans (cleanupConnection_changes .events (.connection ha))

/-- A registration. -/
theorem handleRegister_changes {b : Bus} {websocket : Nat} {envelope : MessageEnvelope} :
    Changes env.now (s.Affects env (.connect websocket envelope)) b
      (b.handleRegister env websocket envelope).1.bus := by
  unfold Bus.handleRegister
  dsimp only
  have hregister := @Change.register env.now b envelope.senderId envelope.tenantId
    websocket (JsonObj.getD envelope.payload "capabilities" (.arr []))
    (JsonObj.getD envelope.payload "tags" (.arr [])) (JsonObj.getD envelope.payload "schemas" (.obj []))
    (JsonObj.getD envelope.payload "metadata" (.obj []))
  split
  · rename_i heq
    rw [heq] at hregister
    exact .single .connect hregister
  · rename_i heq
    rw [heq] at hregister
    exact (Changes.single .connect hregister).trans (.single .connect (.announce _ rfl))

/-- What an action changes. -/
theorem fire_changes (hs : s.bus.Sound) (h : s.fire env a = some fired) :
    Changes env.now (s.Affects env a) s.bus fired.server.bus := by
  unfold fire at h
  split at h
  · rename_i websocket envelope
    unfold connect at h
    split_ifs at h
    · obtain rfl := Option.some.inj h
      exact .refl s.bus
    · obtain rfl := Option.some.inj h
      exact handleRegister_changes
  · rename_i connId
    obtain ⟨found, _, h⟩ := Option.bind_eq_some_iff.mp h
    split_ifs at h
    obtain rfl := Option.some.inj h
    exact cleanupConnection_changes .events (.connection rfl)
  · obtain rfl := Option.some.inj h
    exact .single (.clock (.inl rfl)) .expire
  · obtain rfl := Option.some.inj h
    exact .single (.clock (.inr rfl)) .reap
  · rename_i connId sent
    obtain ⟨q, hq, rfl⟩ := Option.map_eq_some_iff.mp h
    refine .single (.connection rfl) (.write _ fun hopen ↦ ?_)
    rw [ConnectionQueue.closed_write]
    exact hopen connId q hq
  · rename_i subscriptionId
    obtain ⟨task, _, h⟩ := Option.bind_eq_some_iff.mp h
    obtain ⟨sub, hsub, h⟩ := Option.bind_eq_some_iff.mp h
    split at h
    · rename_i event queue hqueue
      obtain rfl := Option.some.inj h
      refine .single .events (.events _ _ fun hsilent ↦ ?_)
      -- there is no event to deliver
      rw [hsilent.queue subscriptionId sub hsub] at hqueue
      cases hqueue
    · cases h
  · obtain ⟨⟨connId, conn, o⟩, houtcome, rfl⟩ := Option.map_eq_some_iff.mp h
    have hhandles := handles_of_outcome houtcome
    exact resume_changes hhandles.connId? (hhandles.changes hs)

/-! ## Runs -/

theorem sound_start (library : Library) (settings : Settings) :
    (start library settings).bus.Sound where
  queues := .empty _
  events := ⟨fun _ ↦ rfl, fun _ _ h ↦ by cases h⟩
  registry := .new _
  keyed _ _ h := by cases h

theorem sound_step {s' : Server} {now : Time} {ids : Nat → UUID} (hs : s.bus.Sound)
    (h : Steps now s (ids, a) s') : s'.bus.Sound := by
  obtain ⟨-, fired, hfire, rfl⟩ := h
  have hchanges : Changes now (s.Affects ⟨now, ids⟩ a) s.bus fired.server.bus :=
    fire_changes hs hfire
  exact hchanges.sound hs

/-- The invariants of the components hold in every run. -/
theorem sound_run {x y : Time × Server} {as : List Label} (hx : x.2.bus.Sound)
    (h : Run (Step.Timed Steps) x as y) : y.2.bus.Sound :=
  h.invariant (P := fun x ↦ x.2.bus.Sound) (fun _ _ _ hx hstep ↦ sound_step hx hstep.2.2) hx

end Server

end SemanticBus
