import SemanticBus.Session.Session

/-!
# The session manager

Sessions are objects that the manager hands out and that its callers change in
place; `update` is such a change.  Every operation runs under the manager's lock
and reads the clock once.

`StatusMove` is the lifecycle: a session may stay as it is, a negotiating one
may become anything and an active one may end.  The operations of the manager
keep to it, closing a session that has expired excepted.

Where a deadline is past year 9999, computing it raises an `OverflowError`.  The cleanup stops
there.  `add_offer` and `validate_session_for_exec` are given here for sessions whose deadline is a
date, as those of the bus are, whose lifetimes are 30 and 300 seconds; `exec` adds the error that
they raise for others.
-/

namespace SemanticBus

structure SessionManager where
  negotiationTtl : Int := 30
  sessionTtl : Int := 300
  sessions : Dict UUID Session := ∅
  sessionsByIntent : Dict UUID UUID := ∅

namespace SessionManager

def update (m : SessionManager) (sessionId : UUID) (f : Session → Session) : SessionManager :=
  { m with sessions := m.sessions.modify sessionId f }

/-- Whether the cleanup marks a session expired. -/
def lapsed (session : Session) (now : Time) : Bool :=
  session.isExpired now && session.status ≠ .closed && session.status ≠ .expired

/-- Mark the sessions expired whose lifetime is over, up to the first whose deadline raises. -/
def cleanupExpiredSessions (m : SessionManager) (now : Time) : SessionManager :=
  { m with
    sessions := m.sessions.map fun sessionId session ↦
      if m.sessions.reaches Session.Dated sessionId ∧ lapsed session now then session.expire now
      else session }

/-- Create a new session for an intent broadcast, under a fresh id. -/
def createSession (m : SessionManager) (now : Time) (id : UUID) (tenantId : String)
    (requesterAgentId : UUID) (requesterConnId : String) (intentMessageId : UUID) (intent : JsonObj)
    (flowAgents : List String) (flowEntryPoint : Option String) : SessionManager × Session :=
  let session : Session :=
    { ephemeralInterfaceId := id
      tenantId := tenantId
      requesterAgentId := requesterAgentId
      requesterConnId := requesterConnId
      intentMessageId := intentMessageId
      intent := intent
      createdAt := now
      negotiationTtlSeconds := m.negotiationTtl
      sessionTtlSeconds := m.sessionTtl
      flowAgents := flowAgents
      flowEntryPoint := flowEntryPoint }
  ({ m with
      sessions := m.sessions.insert id session
      sessionsByIntent := m.sessionsByIntent.insert intentMessageId id }, session)

def getSession (m : SessionManager) (sessionId : UUID) : Option Session := m.sessions.get? sessionId

def takesOffers (session : Session) (now : Time) : Bool :=
  session.status = .negotiating && !session.isExpired now

/-- Add an offer to a session: the offer, or `none` when the session does not
take any, or the error that building the offer raises. -/
def addOffer (m : SessionManager) (floatOfStr : String → Option ℚ) (now : Time) (offerId : String)
    (sessionId : UUID) (providerAgentId : UUID) (providerConnId : String)
    (schemaIds viewIds requires accepts score metadata : Json) :
    Except PyError (SessionManager × Option Offer) :=
  match m.getSession sessionId with
  | none => .ok (m, none)
  | some session =>
      if takesOffers session now then
        match Offer.construct floatOfStr now offerId providerAgentId providerConnId
            (schemaIds.orElse (.arr [])) (viewIds.orElse (.arr [])) (requires.orElse (.arr []))
            (accepts.orElse (.arr [])) score (metadata.orElse (.obj [])) with
        | .error e => .error e
        | .ok offer => .ok (m.update sessionId (·.addOffer offer), some offer)
      else .ok (m, none)

def agree (m : SessionManager) (now : Time) (sessionId : UUID) (offerId : String)
    (chosenSchemaId chosenViewId : Option String) : SessionManager × Option Session :=
  match m.getSession sessionId with
  | none => (m, none)
  | some session =>
      if session.status ≠ .negotiating then (m, none)
      else match session.activate now offerId chosenSchemaId chosenViewId with
        | none => (m, none)
        | some session => (m.update sessionId fun _ ↦ session, some session)

def closeSession (m : SessionManager) (now : Time) (sessionId : UUID) :
    SessionManager × Option Session :=
  match m.getSession sessionId with
  | none => (m, none)
  | some session => (m.update sessionId (·.close now), some (session.close now))

/-- The session, if it is valid for execution messages of the sender, or the
reason why not. -/
def validateSessionForExec (m : SessionManager) (now : Time) (sessionId senderAgentId : UUID) :
    Except String Session :=
  match m.getSession sessionId with
  | none => .error "Session not found"
  | some session =>
      if session.status ≠ .active then
        .error ("Session is " ++ session.status.value ++ ", not active")
      else if session.isExpired now then .error "Session has expired"
      else if senderAgentId ≠ session.requesterAgentId
          ∧ some senderAgentId ≠ session.providerAgentId then
        .error "Sender is not a session participant"
      else .ok session

/-- Store flow information in an orchestrated session. -/
def setFlowInfo (m : SessionManager) (sessionId : UUID) (flowAgents : List String)
    (entryPoint : String) (aggregatedOfferId : String) : SessionManager :=
  m.update sessionId fun session ↦
    { session with
      aggregatedOfferId := some aggregatedOfferId
      flowAgents := flowAgents
      flowEntryPoint := some entryPoint }

/-- Store the result of an agent of an orchestrated flow. -/
def updateFlowResult (m : SessionManager) (sessionId : UUID) (agentId : String) (result : Json) :
    SessionManager :=
  m.update sessionId fun session ↦
    { session with
      flowResults := JsonObj.set session.flowResults agentId result
      flowCurrentStep := session.flowCurrentStep + 1 }

/-! ## Lookups after an operation -/

variable {m : SessionManager} {now : Time} {sid j : UUID} {session : Session}

theorem getSession_update (m : SessionManager) (sid j : UUID) (f : Session → Session) :
    (m.update sid f).getSession j
      = if j = sid then (m.getSession sid).map f else m.getSession j := Dict.get?_modify _ _ _ _

theorem getSession_update_self (m : SessionManager) (sid : UUID) (f : Session → Session) :
    (m.update sid f).getSession sid = (m.getSession sid).map f := by
  rw [getSession_update, if_pos rfl]

theorem getSession_cleanup (m : SessionManager) (now : Time) (j : UUID) :
    (m.cleanupExpiredSessions now).getSession j
      = (m.getSession j).map fun session ↦
          if m.sessions.reaches Session.Dated j ∧ lapsed session now then session.expire now
          else session := Dict.get?_map _ _ _

theorem getSession_create (m : SessionManager) (now : Time) (id : UUID) (tenantId : String)
    (requesterAgentId : UUID) (requesterConnId : String) (intentMessageId : UUID) (intent : JsonObj)
    (flowAgents : List String) (flowEntryPoint : Option String) (j : UUID) :
    let r := m.createSession now id tenantId requesterAgentId requesterConnId intentMessageId intent
      flowAgents flowEntryPoint
    r.1.getSession j = if j = id then some r.2 else m.getSession j := Dict.get?_insert _ _ _ _

/-- Sessions that pass the execution check are active and within their lifetime,
and the sender takes part. -/
theorem validate_ok {sender : UUID}
    (h : m.validateSessionForExec now sid sender = .ok session) :
    m.getSession sid = some session ∧ session.status = .active ∧ session.isExpired now = false ∧
      (sender = session.requesterAgentId ∨ some sender = session.providerAgentId) := by
  unfold validateSessionForExec at h
  split at h
  · cases h
  · rename_i found hget
    split_ifs at h with hstatus hexpired hsender
    obtain rfl := Except.ok.inj h
    refine ⟨hget, not_not.mp hstatus, by simpa using hexpired, ?_⟩
    by_contra hnot
    exact hsender (not_or.mp hnot)

/-- The participants of an active session pass the execution check during its lifetime. -/
theorem validate_eq_ok {sender : UUID} (hget : m.getSession sid = some session)
    (hactive : session.status = .active) (hlive : session.isExpired now = false)
    (hsender : sender = session.requesterAgentId ∨ some sender = session.providerAgentId) :
    m.validateSessionForExec now sid sender = .ok session := by
  rw [validateSessionForExec, hget]
  dsimp only
  rw [if_neg (not_not.mpr hactive), hlive, if_neg Bool.false_ne_true,
    if_neg (not_and_or.mpr (hsender.imp not_not.mpr not_not.mpr))]

end SessionManager

/-! ## The lifecycle -/

/-- The moves of the lifecycle: stay, leave the negotiation, end an agreement. -/
inductive StatusMove : SessionStatus → SessionStatus → Prop
  | stay (st : SessionStatus) : StatusMove st st
  | leave (st : SessionStatus) : StatusMove .negotiating st
  | finish {st : SessionStatus} : st = .closed ∨ st = .expired → StatusMove .active st

namespace StatusMove

variable {st st' st'' : SessionStatus}

/-- What is closed or expired stays so. -/
theorem eq_of_ended (h : StatusMove st st') (hend : st = .closed ∨ st = .expired) : st' = st := by
  cases h with
  | stay _ => rfl
  | leave _ => rcases hend with h | h <;> cases h
  | finish _ => rcases hend with h | h <;> cases h

theorem trans (h : StatusMove st st') (h' : StatusMove st' st'') : StatusMove st st'' := by
  cases h with
  | stay _ => exact h'
  | leave _ => exact .leave st''
  | finish hend => exact .finish (h'.eq_of_ended hend ▸ hend)

/-- No session becomes active again. -/
theorem eq_active (h : StatusMove .active st) (h' : StatusMove st .active) : st = .active := by
  cases h with
  | stay _ => rfl
  | finish hend => exact (h'.eq_of_ended hend).symm

end StatusMove

end SemanticBus
