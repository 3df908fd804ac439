import SemanticBus.Transport.Lifecycle

/-!
# Who may change a session

A connection speaks for the agent and the tenant that it registered, but the
handlers read both from the envelope, and some do not look at all: an offer is
taken from anybody, a close too, and an agreement from whoever names the
requester as its sender.  `Checked` is the condition that the missing checks
would have passed; in runs that meet it a message changes the state of a session
only with the role that its type requires (`message_authorized`).
-/

namespace SemanticBus

/-- The state of a session: its offers, its status, the agreement, the executions. -/
structure SessionState where
  offers : List Offer
  status : SessionStatus
  activatedAt : Option Time
  chosenOfferId : Option String
  chosenSchemaId : Option String
  chosenViewId : Option String
  providerAgentId : Option UUID
  providerConnId : Option String
  executions : List ExecutionRecord

def Session.state (session : Session) : SessionState where
  offers := session.offers
  status := session.status
  activatedAt := session.activatedAt
  chosenOfferId := session.chosenOfferId
  chosenSchemaId := session.chosenSchemaId
  chosenViewId := session.chosenViewId
  providerAgentId := session.providerAgentId
  providerConnId := session.providerConnId
  executions := session.executions

inductive SessionRole where
  | flowAgent
  | requester
  | party
  | provider

def SessionRole.Holds (session : Session) (agentId : UUID) : SessionRole → Prop
  | flowAgent => ∃ text ∈ session.flowAgents, UUID.parse text = some agentId
  | requester => agentId = session.requesterAgentId
  | party => agentId = session.requesterAgentId ∨ some agentId = session.providerAgentId
  | provider => some agentId = session.providerAgentId

instance (session : Session) (agentId : UUID) :
    ∀ role : SessionRole, Decidable (role.Holds session agentId)
  | .flowAgent =>
      inferInstanceAs (Decidable (∃ text ∈ session.flowAgents, UUID.parse text = some agentId))
  | .requester => inferInstanceAs (Decidable (agentId = session.requesterAgentId))
  | .party => inferInstanceAs (Decidable (_ ∨ _))
  | .provider => inferInstanceAs (Decidable (some agentId = session.providerAgentId))

/-- The role that a message type requires; the other types may not change a session. -/
def requiredRole : MessageType → Option SessionRole
  | .intentOffer => some .flowAgent
  | .intentAgree | .execRequest => some .requester
  | .sessionClose => some .party
  | .execAccepted | .execProgress | .execResult | .execError
  | .execStreamStart | .execStreamChunk | .execStreamEnd => some .provider
  | _ => none

/-- An agent has the role in a session that a message type requires. -/
def Role (session : Session) (agentId : UUID) (type : MessageType) : Prop :=
  ∃ role ∈ requiredRole type, role.Holds session agentId

instance (session : Session) (agentId : UUID) (type : MessageType) :
    Decidable (Role session agentId type) :=
  inferInstanceAs (Decidable (∃ role ∈ requiredRole type, role.Holds session agentId))

/-- A connection has the authority over a session that a message type requires. -/
def Authority (conn : Connection) (session : Session) (type : MessageType) : Prop :=
  session.tenantId = conn.tenantId ∧ Role session conn.agentId type

instance (conn : Connection) (session : Session) (type : MessageType) :
    Decidable (Authority conn session type) := inferInstanceAs (Decidable (_ ∧ _))

namespace Server

/-- A message that its handler accepts comes with the authority that it requires:
an offer to a session that takes it, an agreement to the aggregated offer by the
requester that the envelope names, a close of a session that is not closed. -/
def CheckedMessage (b : Bus) (now : Time) (conn : Connection) (envelope : MessageEnvelope)
    (session : Session) : Prop :=
  (envelope.messageType = .intentOffer → SessionManager.takesOffers session now = true →
      b.offerWellFormed envelope = true → Authority conn session .intentOffer) ∧
    (envelope.messageType = .intentAgree → session.requesterAgentId = envelope.senderId →
      session.aggregatedOfferId ≠ none →
      (JsonObj.get envelope.payload "offer_id").str? = session.aggregatedOfferId →
      Authority conn session .intentAgree) ∧
    (envelope.messageType = .sessionClose → session.status ≠ .closed →
      Authority conn session .sessionClose)

instance (b : Bus) (now : Time) (conn : Connection) (envelope : MessageEnvelope)
    (session : Session) : Decidable (CheckedMessage b now conn envelope session) :=
  inferInstanceAs (Decidable (_ ∧ _ ∧ _))

def speaker (s : Server) : Action → Option Connection
  | .message connId _ => s.connections.get? connId
  | _ => none

/-- The messages of a step come with authority. -/
def Checked (s : Server) (now : Time) (a : Action) : Prop :=
  ∀ e ∈ s.target a, ∀ conn ∈ s.speaker a, CheckedMessage s.bus now conn e.1 e.2

instance (s : Server) (now : Time) (a : Action) : Decidable (s.Checked now a) :=
  inferInstanceAs (Decidable (∀ e ∈ s.target a, ∀ conn ∈ s.speaker a, _))

/-- The steps of the bus whose messages come with authority. -/
def CheckedSteps : Step (Time × Server) Label :=
  Step.Only (fun s a ↦ s.2.Checked a.1 a.2.2) (Step.Timed Steps)

/-- No session has an execution: no handler adds one. -/
theorem executions_stable : Stable fun session ↦ session.executions = [] where
  created h := by
    obtain ⟨_, _, _, _, _, _, _, _, rfl⟩ := h
    rfl
  kept h hnone := by
    cases h with
    | same => exact hnone
    | message _ _ heffect =>
        cases heffect with
        | same => exact hnone
        | offer _ _ _ _ _ _ => exact hnone
        | agree _ _ _ _ _ => exact hnone
        | close _ _ => exact hnone
        | execution _ _ =>
            rw [Session.updateExecutionStatus_of_nil hnone]
            exact hnone
    | flowInfo _ _ _ => exact hnone
    | expire _ _ => exact hnone

variable {s : Server} {now : Time} {sid : UUID} {session session' : Session}

/-- A checked message changes the state of a session only with authority. -/
theorem authority_of_effect {connId : String} {conn : Connection} {envelope : MessageEnvelope}
    (hconn : s.connections.get? connId = some conn)
    (hget : s.bus.sessions.getSession sid = some session) (hnone : session.executions = [])
    (hchecked : s.Checked now (.message connId envelope))
    (h : MessageEffect s.bus now connId envelope sid session session')
    (hstate : session'.state ≠ session.state) : Authority conn session envelope.messageType := by
  have hmessage : ∀ hsid : envelope.ephemeralInterfaceId = some sid,
      CheckedMessage s.bus now conn envelope session := by
    intro hsid
    refine hchecked (envelope, session) ?_ conn hconn
    simp [target, hsid, hget]
  cases h with
  | same => exact absurd rfl hstate
  | offer htype hsid htakes hwell _ _ =>
      rw [htype]
      exact (hmessage hsid).1 htype htakes hwell
  | agree htype hsid hpayload hrequester hoffer =>
      rw [htype]
      refine (hmessage hsid).2.1 htype hrequester ?_ ?_
      · rw [hoffer]
        exact Option.some_ne_none _
      · rw [hpayload, hoffer]
        rfl
  | close htype hsid =>
      rw [htype]
      refine (hmessage hsid).2.2 htype fun hclosed ↦ hstate ?_
      simp [Session.state, Session.close, hclosed]
  | execution _ _ =>
      rw [Session.updateExecutionStatus_of_nil hnone] at hstate
      exact absurd rfl hstate

/-- In every run of the bus whose messages come with authority, whatever sender and
tenant an envelope claims: a message changes the state of a session only if its
connection registered the tenant of the session and an agent with the role that
the type of the message requires. -/
theorem message_authorized {library : Library} {settings : Settings} {t₀ t : Time}
    {x y : Time × Server} {as : List Label}
    (hrun : Run CheckedSteps (t₀, start library settings) as x) {ids : Nat → UUID} {connId : String}
    {envelope : MessageEnvelope} (hstep : CheckedSteps x (t, (ids, .message connId envelope)) y)
    {conn : Connection} (hconn : x.2.connections.get? connId = some conn)
    (hget : x.2.bus.sessions.getSession sid = some session) :
    ∃ session', y.2.bus.sessions.getSession sid = some session' ∧
      (session'.state ≠ session.state → session.tenantId = conn.tenantId ∧
        Role session conn.agentId envelope.messageType) := by
  have hnone := (AllSessions.start library settings).run executions_stable hrun.of_only
  obtain ⟨hchecked, _, _, hfires⟩ := hstep
  obtain ⟨session', hget', heffect⟩ := (Steps.sessionStep hfires).kept sid session hget
  refine ⟨session', hget', fun hstate ↦ ?_⟩
  cases heffect with
  | same => exact absurd rfl hstate
  | message ha hconn' heffect =>
      cases ha
      obtain rfl := Option.some.inj (hconn'.symm.trans hconn)
      exact authority_of_effect hconn hget (hnone sid session hget) hchecked heffect hstate
  | flowInfo ha _ _ => cases ha
  | expire ha _ => cases ha

/-- The requester closes its session. -/
theorem message_authorized_sample :
    let x := playState sampleStart (sampleNegotiation ++ [sampleAgree 300000])
    let y := playState x [sampleClose 400000 requesterConn ⟨1⟩ "acme"]
    ∃ session session' conn, x.2.bus.sessions.getSession ⟨100⟩ = some session ∧
      y.2.bus.sessions.getSession ⟨100⟩ = some session' ∧
      x.2.connections.get? requesterConn = some conn ∧
      session.tenantId = conn.tenantId ∧ Role session conn.agentId .sessionClose := by
  intro x y
  have hrun : Run CheckedSteps sampleStart _ x := only_play (by decide +kernel)
  have hstep : Run CheckedSteps x _ y := only_play (by decide +kernel)
  have hactive : (x.2.bus.sessions.getSession ⟨100⟩).map Session.status = some .active := by
    decide +kernel
  have hclosed : (y.2.bus.sessions.getSession ⟨100⟩).map Session.status = some .closed := by
    decide +kernel
  have hconn : (x.2.connections.get? requesterConn).isSome = true := by decide +kernel
  obtain ⟨session, hget, hstatus⟩ := Option.map_eq_some_iff.mp hactive
  obtain ⟨after, hget', hstatus'⟩ := Option.map_eq_some_iff.mp hclosed
  obtain ⟨conn, hconn⟩ := Option.isSome_iff_exists.mp hconn
  cases hstep with
  | cons hstep hnil =>
      cases hnil with
      | nil =>
          obtain ⟨session', hafter, hauthorized⟩ := message_authorized hrun hstep hconn hget
          obtain rfl := Option.some.inj (hafter.symm.trans hget')
          refine ⟨session, session', conn, hget, hget', hconn, hauthorized fun hstate ↦ ?_⟩
          have hsame := congrArg SessionState.status hstate
          rw [show session'.state.status = .closed from hstatus',
            show session.state.status = .active from hstatus] at hsame
          cases hsame

/-- An agent of another tenant closes the session. -/
theorem message_unauthorized :
    let foreign := connId "other" ⟨3⟩ 12
    let x := playState sampleStart (sampleNegotiation ++
      [(300000, ⟨90⟩, .connect 12 (sampleEnvelope .agentRegister ⟨3⟩ "other" none []))])
    let y := playState x [sampleClose 400000 foreign ⟨3⟩ "other"]
    (∃ as, Run (Step.Timed Steps) sampleStart as x) ∧ (∃ bs, Run (Step.Timed Steps) x bs y) ∧
      (x.2.connections.get? foreign).map Connection.tenantId = some "other" ∧
      (x.2.bus.sessions.getSession ⟨100⟩).map Session.tenantId = some "acme" ∧
      (x.2.bus.sessions.getSession ⟨100⟩).map Session.status = some .negotiating ∧
      (y.2.bus.sessions.getSession ⟨100⟩).map Session.status = some .closed := by
  intro foreign x y
  have hbefore : Run (Step.Timed Steps) sampleStart _ x := run_play (by decide +kernel)
  have hrun : Run (Step.Timed Steps) x _ y := run_play (by decide +kernel)
  refine ⟨⟨_, hbefore⟩, ⟨_, hrun⟩, ?_, ?_, ?_, ?_⟩
  · decide +kernel
  · decide +kernel
  · decide +kernel
  · decide +kernel

end Server

end SemanticBus
