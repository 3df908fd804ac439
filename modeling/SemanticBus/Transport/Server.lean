import SemanticBus.Data.Run
import SemanticBus.Transport.Flow

/-!
# The running bus

A `Server` is the bus with the connections whose message loops run.  An `Action`
is what can happen next: a message of a connection, a step of a broadcast that
waits, a tick of one of the background tasks.  `fire` says what it does.  A
connection handles one message after the other, so it takes no message while its
broadcast runs; other connections go on meanwhile.

An exception that escapes a handler ends the connection.
-/

namespace SemanticBus

/-- A connection whose message loop runs, as what it registered, and the broadcast
that it handles. -/
structure Connection where
  websocket : Nat
  agentId : UUID
  tenantId : String
  task : Option FlowTask := none

structure Server where
  bus : Bus
  connections : Dict String Connection := ∅

inductive Action where
  /-- A websocket connects and sends its first message. -/
  | connect (websocket : Nat) (envelope : MessageEnvelope)
  /-- A connection sends a message. -/
  | message (connId : String) (envelope : MessageEnvelope)
  /-- A connection is closed by its peer, or sends what is no envelope, and this is what
  the validation says. -/
  | disconnect (connId : String) (invalid : Option String)
  /-- The language model answers the broadcast of a connection. -/
  | answer (connId : String) (answer : Option AgentFlow)
  /-- The broadcast of a connection turns to its next agent. -/
  | deliver (connId : String)
  /-- The broadcast of a connection looks for offers. -/
  | poll (connId : String)
  /-- The cleanup of the sessions. -/
  | sessionTick
  /-- The cleanup of the registry. -/
  | registryTick
  /-- A round of the writer of an outbound queue; its send may fail. -/
  | queueWrite (connId : String) (sent : Bool)
  /-- A delivery task takes the next event of its subscription. -/
  | deliverEvent (subscriptionId : String)

/-- What an action does: the state after, the messages sent, and the exception
that escaped a handler. -/
structure Fired where
  server : Server
  sends : List (Nat × Message) := []
  error : Option PyError := none

namespace Server

/-- Go on after a handler: the connection waits for the rest of its broadcast or
for its next message, or is closed after an exception. -/
def resume (s : Server) (connId : String) (conn : Connection) (o : Outcome) : Fired :=
  match o.error with
  | none =>
      { server :=
          { bus := o.bus
            connections := s.connections.insert connId { conn with task := o.task } }
        sends := o.sends }
  | some e =>
      { server :=
          { bus := o.bus.cleanupConnection connId
            connections := s.connections.erase connId }
        sends := o.sends
        error := some e }

/-- The connection with an id and the broadcast it handles. -/
def taskOf (s : Server) (connId : String) : Option (Connection × FlowTask) :=
  (s.connections.get? connId).bind fun conn ↦ conn.task.map (conn, ·)

/-- The outcome of an action on the message loop of a connection, if the
connection is in the state for it. -/
def outcome (s : Server) (env : Env) : Action → Option (String × Connection × Outcome)
  | .message connId envelope =>
      (s.connections.get? connId).bind fun conn ↦
        if conn.task.isSome then none
        else some (connId, conn, s.bus.handleMessage env conn.websocket connId envelope)
  | .answer connId answer =>
      (s.taskOf connId).bind fun (conn, task) ↦ match task.stage with
        | .planning _ => some (connId, conn, s.bus.startFlow env task answer)
        | _ => none
  | .deliver connId =>
      (s.taskOf connId).bind fun (conn, task) ↦ match task.stage with
        | .delivering sessionId flow (node :: todo) =>
            some (connId, conn, s.bus.deliverNext env task sessionId flow node todo)
        | _ => none
  | .poll connId =>
      (s.taskOf connId).bind fun (conn, task) ↦ match task.stage with
        | .collecting sessionId flow polls wake =>
            if env.now < wake then none
            else some (connId, conn, s.bus.pollOffers env task sessionId flow polls)
        | _ => none
  | _ => none

/-- A new websocket: its first message must register it. -/
def connect (s : Server) (env : Env) (websocket : Nat) (envelope : MessageEnvelope) :
    Option Fired :=
  if s.connections.values.any (·.websocket = websocket) then none
  else if envelope.messageType ≠ .agentRegister then
    some
      { server := s
        sends := [(websocket, createError "system" none "REGISTRATION_REQUIRED"
          "First message must be agent.register")] }
  else
    let (o, connId) := s.bus.handleRegister env websocket envelope
    some
      { server :=
          { bus := o.bus
            connections := match connId with
              | none => s.connections
              | some connId => s.connections.insert connId
                  { websocket := websocket
                    agentId := envelope.senderId
                    tenantId := envelope.tenantId } }
        sends := o.sends }

/-- The end of a connection that handles no message, after an error if its last one is no
envelope. -/
def disconnect (s : Server) (connId : String) (invalid : Option String) : Option Fired :=
  (s.connections.get? connId).bind fun conn ↦
    if conn.task.isSome then none
    else some
      { server :=
          { bus := s.bus.cleanupConnection connId
            connections := s.connections.erase connId }
        sends := (invalid.map fun text ↦ (conn.websocket, createError "system" none
          "INVALID_ENVELOPE" s!"Message validation failed: {text}")).toList }

def queueWrite (s : Server) (connId : String) (sent : Bool) : Option Fired :=
  (s.bus.queues.queues.get? connId).map fun q ↦
    let (q, sends) := q.write sent
    { server := { s with bus := { s.bus with queues := s.bus.queues.setQueue connId q } }
      sends := sends }

/-- A delivery task sends the next event of its subscription. -/
def deliverEvent (s : Server) (subscriptionId : String) : Option Fired :=
  (s.bus.eventDeliveryTasks.get? subscriptionId).bind fun task ↦
    (s.bus.events.stream.subscriptions.get? subscriptionId).bind fun sub ↦
      match sub.queue with
      | some event :: queue => some
          { server := { s with
              bus := { s.bus with
                events := { s.bus.events with
                  stream := { s.bus.events.stream with
                    subscriptions := s.bus.events.stream.subscriptions.insert subscriptionId
                      { sub with queue := queue } } } } }
            sends := [(task.websocket,
              createEventEnvelope task.tenantId task.sessionId event.toPayload)] }
      | _ => none

/-- What an action does, if it can happen. -/
def fire (s : Server) (env : Env) (a : Action) : Option Fired :=
  match a with
  | .connect websocket envelope => s.connect env websocket envelope
  | .disconnect connId invalid => s.disconnect connId invalid
  | .sessionTick => some
      { server := { s with
          bus := { s.bus with sessions := s.bus.sessions.cleanupExpiredSessions env.now } } }
  | .registryTick => some
      { server := { s with
          bus := { s.bus with registry := (s.bus.registry.cleanupDeadAgents env.now).1 } } }
  | .queueWrite connId sent => s.queueWrite connId sent
  | .deliverEvent subscriptionId => s.deliverEvent subscriptionId
  | a => (s.outcome env a).map fun (connId, conn, o) ↦ s.resume connId conn o

/-! ## What a message loop does -/

/-- The work of a message loop: the action, its connection, and the outcome. -/
inductive Handles (s : Server) (env : Env) : Action → String → Connection → Outcome → Prop
  /-- A message of a connection that handles nothing else. -/
  | message {connId : String} {conn : Connection} (envelope : MessageEnvelope) :
      s.connections.get? connId = some conn → conn.task = none →
      Handles s env (.message connId envelope) connId conn
        (s.bus.handleMessage env conn.websocket connId envelope)
  /-- The answer to a broadcast. -/
  | answer {connId : String} {conn : Connection} {task : FlowTask} {available : List AgentRecord}
      (answer : Option AgentFlow) : s.taskOf connId = some (conn, task) →
      task.stage = .planning available →
      Handles s env (.answer connId answer) connId conn (s.bus.startFlow env task answer)
  /-- The next agent of a broadcast. -/
  | deliver {connId : String} {conn : Connection} {task : FlowTask} {sessionId : UUID}
      {flow : AgentFlow} {node : AgentNode} {todo : List AgentNode} :
      s.taskOf connId = some (conn, task) →
      task.stage = .delivering sessionId flow (node :: todo) →
      Handles s env (.deliver connId) connId conn
        (s.bus.deliverNext env task sessionId flow node todo)
  /-- A look at the offers of a broadcast. -/
  | poll {connId : String} {conn : Connection} {task : FlowTask} {sessionId : UUID}
      {flow : AgentFlow} {polls : Nat} {wake : Time} : s.taskOf connId = some (conn, task) →
      task.stage = .collecting sessionId flow polls wake → wake ≤ env.now →
      Handles s env (.poll connId) connId conn (s.bus.pollOffers env task sessionId flow polls)

variable {s : Server} {env : Env} {a : Action} {connId : String} {conn : Connection} {o : Outcome}

theorem taskOf_some {task : FlowTask} (h : s.taskOf connId = some (conn, task)) :
    s.connections.get? connId = some conn ∧ conn.task = some task := by
  obtain ⟨found, hget, h⟩ := Option.bind_eq_some_iff.mp h
  obtain ⟨t, htask, heq⟩ := Option.map_eq_some_iff.mp h
  obtain ⟨rfl, rfl⟩ := Prod.mk.inj heq
  exact ⟨hget, htask⟩

theorem handles_of_outcome (h : s.outcome env a = some (connId, conn, o)) :
    s.Handles env a connId conn o := by
  unfold outcome at h
  split at h
  · obtain ⟨found, hget, h⟩ := Option.bind_eq_some_iff.mp h
    split_ifs at h with htask
    obtain ⟨rfl, rfl, rfl⟩ : _ ∧ _ ∧ _ := by simpa using h
    exact .message _ hget (by simpa using htask)
  · obtain ⟨⟨found, task⟩, htask, h⟩ := Option.bind_eq_some_iff.mp h
    dsimp only at h
    split at h
    · rename_i hstage
      obtain ⟨rfl, rfl, rfl⟩ : _ ∧ _ ∧ _ := by simpa using h
      exact .answer _ htask hstage
    · cases h
  · obtain ⟨⟨found, task⟩, htask, h⟩ := Option.bind_eq_some_iff.mp h
    dsimp only at h
    split at h
    · rename_i hstage
      obtain ⟨rfl, rfl, rfl⟩ : _ ∧ _ ∧ _ := by simpa using h
      exact .deliver htask hstage
    · cases h
  · obtain ⟨⟨found, task⟩, htask, h⟩ := Option.bind_eq_some_iff.mp h
    dsimp only at h
    split at h
    · rename_i hstage
      split_ifs at h with hwake
      obtain ⟨rfl, rfl, rfl⟩ : _ ∧ _ ∧ _ := by simpa using h
      exact .poll htask hstage (not_lt.mp hwake)
    · cases h
  · cases h

/-- One step at a clock reading.  The label has the fresh ids of the step, which
are the ids of no session, and the action. -/
def Steps (now : Time) : Step Server ((Nat → UUID) × Action) := fun s a s' ↦
  (∀ n, s.bus.sessions.getSession (a.1 n) = none) ∧
    ∃ fired, s.fire ⟨now, a.1⟩ a.2 = some fired ∧ fired.server = s'

/-- The label of a step of a run: the clock reading, the fresh ids, the action. -/
abbrev Label := Time × ((Nat → UUID) × Action)

/-- The settings of the bus, by default those of the application. -/
structure Settings where
  heartbeatTimeout : ℚ := 30
  negotiationTtl : Int := 30
  sessionTtl : Int := 300
  maxEvents : Nat := 10000
  maxQueueSize : Nat := 200
  maxSubscribers : Nat := 10000

def start (library : Library) (settings : Settings) : Server where
  bus :=
    { registry := { heartbeatTimeout := settings.heartbeatTimeout }
      sessions :=
        { negotiationTtl := settings.negotiationTtl, sessionTtl := settings.sessionTtl }
      trace := { maxEvents := settings.maxEvents }
      queues := { maxQueueSize := settings.maxQueueSize }
      events := { stream := { maxSubscribers := settings.maxSubscribers } }
      library := library }

/-! ## Playing a script

A script gives each step its clock reading, one fresh id and its action. -/

/-- The server after an action; an action that cannot happen changes nothing. -/
def after (s : Server) (now : Time) (id : UUID) (a : Action) : Server :=
  (s.fire ⟨now, fun _ ↦ id⟩ a).elim s Fired.server

def playLabels (script : List (Time × UUID × Action)) : List Label :=
  script.map fun e ↦ (e.1, (fun _ ↦ e.2.1, e.2.2))

def playState : Time × Server → List (Time × UUID × Action) → Time × Server
  | s, [] => s
  | s, (now, id, a) :: script => playState (now, s.2.after now id a) script

/-- The script can be played: the clock never goes back, ids are fresh, every
action can happen and is good. -/
def Playable (Good : Server → Time → Action → Prop) :
    Time × Server → List (Time × UUID × Action) → Prop
  | _, [] => True
  | s, (now, id, a) :: script =>
      s.1 ≤ now ∧ s.2.bus.sessions.getSession id = none ∧
        (s.2.fire ⟨now, fun _ ↦ id⟩ a).isSome = true ∧ Good s.2 now a ∧
        Playable Good (now, s.2.after now id a) script

instance decidablePlayable (Good : Server → Time → Action → Prop)
    [∀ s now a, Decidable (Good s now a)] :
    ∀ (s : Time × Server) script, Decidable (Playable Good s script)
  | _, [] => isTrue trivial
  | s, (now, id, a) :: script =>
      have := decidablePlayable Good (now, s.2.after now id a) script
      inferInstanceAs (Decidable (s.1 ≤ now ∧ s.2.bus.sessions.getSession id = none ∧
        (s.2.fire ⟨now, fun _ ↦ id⟩ a).isSome = true ∧ Good s.2 now a ∧ _))

/-- Playing a script of good actions is a run of good steps. -/
theorem only_play {Good : Server → Time → Action → Prop} {s : Time × Server}
    {script : List (Time × UUID × Action)} (h : Playable Good s script) :
    Run (Step.Only (fun s a ↦ Good s.2 a.1 a.2.2) (Step.Timed Steps)) s (playLabels script)
      (playState s script) := by
  induction script generalizing s with
  | nil => exact .nil s
  | cons e script ih =>
      obtain ⟨now, id, a⟩ := e
      obtain ⟨hclock, hfresh, hfires, hgood, hrest⟩ := h
      obtain ⟨fired, hfired⟩ := Option.isSome_iff_exists.mp hfires
      have hafter : fired.server = s.2.after now id a := by rw [after, hfired, Option.elim_some]
      exact .cons ⟨hgood, hclock, rfl, fun _ ↦ hfresh, fired, hfired, hafter⟩ (ih hrest)

/-- Playing a script is a run. -/
theorem run_play {s : Time × Server} {script : List (Time × UUID × Action)}
    (h : Playable (fun _ _ _ ↦ True) s script) :
    Run (Step.Timed Steps) s (playLabels script) (playState s script) := (only_play h).of_only

/-! ## A small negotiation

Two agents of one tenant: the first broadcasts an intent, the language model
chooses the second, which makes an offer. -/

def sampleLibrary : Library where
  floatOfStr _ := none
  format _ := ""
  errorText _ := ""

/-- A message with the given type, sender, tenant, session and payload. -/
def sampleEnvelope (type : MessageType) (sender : UUID) (tenantId : String)
    (sessionId : Option UUID) (payload : JsonObj) : MessageEnvelope where
  messageType := type
  senderId := sender
  tenantId := tenantId
  ephemeralInterfaceId := sessionId
  payload := payload
  messageId := ⟨7⟩

def requesterConn : String := SemanticBus.connId "acme" ⟨1⟩ 10

def providerConn : String := SemanticBus.connId "acme" ⟨2⟩ 11

def sampleFlow (agentId : String) : AgentFlow where
  intentSummary := "translate"
  agents := [{ agentId := agentId, capability := "translate", description := "translates" }]
  entryPoint := agentId
  reasoning := "it can translate"
  confidence := 1

def sampleStart : Time × Server := (0, start sampleLibrary {})

/-- Both agents register. -/
def sampleRegistration : List (Time × UUID × Action) :=
  [(0, ⟨90⟩, .connect 10 (sampleEnvelope .agentRegister ⟨1⟩ "acme" none [])),
    (0, ⟨90⟩, .connect 11 (sampleEnvelope .agentRegister ⟨2⟩ "acme" none []))]

/-- The negotiation, up to the aggregated offer. -/
def sampleNegotiation : List (Time × UUID × Action) := sampleRegistration ++
  [(1, ⟨90⟩, .message requesterConn
      (sampleEnvelope .intentBroadcast ⟨1⟩ "acme" none [("intent", .str "translate")])),
    (2, ⟨100⟩, .answer requesterConn (some (sampleFlow (UUID.str ⟨2⟩)))),
    (3, ⟨90⟩, .deliver requesterConn),
    (4, ⟨90⟩, .message providerConn (sampleEnvelope .intentOffer ⟨2⟩ "acme" (some ⟨100⟩) [])),
    (200003, ⟨101⟩, .poll requesterConn)]

def sampleAgree (now : Time) : Time × UUID × Action :=
  (now, ⟨90⟩, .message requesterConn (sampleEnvelope .intentAgree ⟨1⟩ "acme" (some ⟨100⟩)
    [("offer_id", .str (UUID.str ⟨101⟩))]))

def sampleClose (now : Time) (connId : String) (sender : UUID) (tenantId : String) :
    Time × UUID × Action :=
  (now, ⟨90⟩, .message connId (sampleEnvelope .sessionClose sender tenantId (some ⟨100⟩) []))

end Server

end SemanticBus
