import SemanticBus.Data.Run
import SemanticBus.Orchestration.FlowPlanner
import SemanticBus.Session.Manager

/-!
# Sequences of session manager calls

Whatever is called and whenever: an agreed session keeps the provider of the offer
it agreed to, offers are only collected while a session negotiates, no session
negotiates again, and a call that is refused or raises changes no session.

`Session.Move` is what a call can do to one session; each invariant is read off it.
-/

namespace SemanticBus

/-- A call of the session manager, or a tick of its cleanup.  The ids of new
sessions and offers are generated. -/
inductive SessionCall where
  | createSession (id : UUID) (tenantId : String) (requesterAgentId : UUID)
      (requesterConnId : String) (intentMessageId : UUID) (intent : JsonObj)
      (flowAgents : List String) (flowEntryPoint : Option String)
  | addOffer (offerId : String) (sessionId providerAgentId : UUID) (providerConnId : String)
      (schemaIds viewIds requires accepts score metadata : Json)
  | agree (sessionId : UUID) (offerId : String) (chosenSchemaId chosenViewId : Option String)
  | closeSession (sessionId : UUID)
  | validateSessionForExec (sessionId senderAgentId : UUID)
  | setFlowInfo (sessionId : UUID) (flow : AgentFlow) (aggregatedOfferId : String)
  | updateFlowResult (sessionId : UUID) (agentId : String) (result : Json)
  | cleanup

/-- What a call returns: a value, `None` or `False`, or an exception. -/
inductive SessionReply where
  | accepted
  | refused
  | raised (e : PyError)
deriving DecidableEq

namespace SessionManager

/-- What a call does and returns when the deadlines that it computes are dates. -/
def perform (m : SessionManager) (floatOfStr : String → Option ℚ) (now : Time) :
    SessionCall → SessionManager × SessionReply
  | .createSession id tenantId requesterAgentId requesterConnId intentMessageId intent flowAgents
      flowEntryPoint =>
      ((m.createSession now id tenantId requesterAgentId requesterConnId intentMessageId intent
        flowAgents flowEntryPoint).1, .accepted)
  | .addOffer offerId sessionId providerAgentId providerConnId schemaIds viewIds requires accepts
      score metadata =>
      match m.addOffer floatOfStr now offerId sessionId providerAgentId providerConnId schemaIds
          viewIds requires accepts score metadata with
      | .error e => (m, .raised e)
      | .ok (m, none) => (m, .refused)
      | .ok (m, some _) => (m, .accepted)
  | .agree sessionId offerId chosenSchemaId chosenViewId =>
      match m.agree now sessionId offerId chosenSchemaId chosenViewId with
      | (m, none) => (m, .refused)
      | (m, some _) => (m, .accepted)
  | .closeSession sessionId =>
      match m.closeSession now sessionId with
      | (m, none) => (m, .refused)
      | (m, some _) => (m, .accepted)
  | .validateSessionForExec sessionId senderAgentId =>
      match m.validateSessionForExec now sessionId senderAgentId with
      | .error _ => (m, .refused)
      | .ok _ => (m, .accepted)
  | .setFlowInfo sessionId flow aggregatedOfferId =>
      match m.getSession sessionId with
      | none => (m, .refused)
      | some _ => (m.setFlowInfo sessionId (flow.agents.map AgentNode.agentId) flow.entryPoint
          aggregatedOfferId, .accepted)
  | .updateFlowResult sessionId agentId result =>
      match m.getSession sessionId with
      | none => (m, .refused)
      | some _ => (m.updateFlowResult sessionId agentId result, .accepted)
  | .cleanup => (m.cleanupExpiredSessions now, .accepted)

/-- Whether a call computes a deadline that is no date: `add_offer` that of a negotiation, and
`validate_session_for_exec` that of an agreed session. -/
def overflows (m : SessionManager) : SessionCall → Bool
  | .addOffer _ sessionId _ _ _ _ _ _ _ _ => (m.getSession sessionId).any fun session ↦
      session.status = .negotiating ∧ ¬ session.Dated
  | .validateSessionForExec sessionId _ => (m.getSession sessionId).any fun session ↦
      session.status = .active ∧ ¬ session.Dated
  | _ => false

def exec (m : SessionManager) (floatOfStr : String → Option ℚ) (now : Time) (call : SessionCall) :
    SessionManager × SessionReply :=
  if m.overflows call then (m, .raised .overflowError) else m.perform floatOfStr now call

theorem exec_createSession (m : SessionManager) (floatOfStr : String → Option ℚ) (now : Time)
    (id : UUID) (tenantId : String) (requesterAgentId : UUID) (requesterConnId : String)
    (intentMessageId : UUID) (intent : JsonObj) (flowAgents : List String)
    (flowEntryPoint : Option String) :
    m.exec floatOfStr now (.createSession id tenantId requesterAgentId requesterConnId
      intentMessageId intent flowAgents flowEntryPoint)
      = ((m.createSession now id tenantId requesterAgentId requesterConnId intentMessageId intent
        flowAgents flowEntryPoint).1, .accepted) := rfl

theorem exec_cleanup (m : SessionManager) (floatOfStr : String → Option ℚ) (now : Time) :
    m.exec floatOfStr now .cleanup = (m.cleanupExpiredSessions now, .accepted) := rfl

/-- A call at a clock reading, with what it returns; the id of a new session is
fresh. -/
def Calls (floatOfStr : String → Option ℚ) (now : Time) :
    Step SessionManager (SessionCall × SessionReply) := fun m a m' ↦
  (∀ id tenantId requesterAgentId requesterConnId intentMessageId intent flowAgents flowEntryPoint,
    a.1 = .createSession id tenantId requesterAgentId requesterConnId intentMessageId intent
      flowAgents flowEntryPoint → m.getSession id = none) ∧
    m.exec floatOfStr now a.1 = (m', a.2)

end SessionManager

/-! ## What a call does to a session -/

namespace Session

inductive Move (now : Time) (session : Session) : Session → Prop
  | stay : Move now session session
  | offer (offer : Offer) : session.status = .negotiating → session.isExpired now = false →
      Move now session (session.addOffer offer)
  | agree {offerId : String} {chosenSchemaId chosenViewId : Option String} {session' : Session} :
      session.status = .negotiating →
      session.activate now offerId chosenSchemaId chosenViewId = some session' →
      Move now session session'
  | close : Move now session (session.close now)
  | expire : SessionManager.lapsed session now = true → Move now session (session.expire now)
  | flowInfo (flowAgents : List String) (entryPoint : String) (aggregatedOfferId : String) :
      Move now session { session with
        aggregatedOfferId := some aggregatedOfferId
        flowAgents := flowAgents
        flowEntryPoint := some entryPoint }
  | flowResult (results : JsonObj) : Move now session { session with
      flowResults := results
      flowCurrentStep := session.flowCurrentStep + 1 }

end Session

namespace SessionManager

variable {m m' : SessionManager} {floatOfStr : String → Option ℚ} {now : Time}
  {call : SessionCall} {reply : SessionReply} {sid : UUID} {session session' : Session}

theorem overflows_addOffer (hget : m.getSession sid = some session) (offerId : String)
    (providerAgentId : UUID) (providerConnId : String)
    (schemaIds viewIds requires accepts score metadata : Json) :
    m.overflows (.addOffer offerId sid providerAgentId providerConnId schemaIds viewIds requires
      accepts score metadata) = decide (session.status = .negotiating ∧ ¬ session.Dated) := by
  rw [overflows, hget, Option.any_some]

theorem overflows_validate (hget : m.getSession sid = some session) (senderAgentId : UUID) :
    m.overflows (.validateSessionForExec sid senderAgentId)
      = decide (session.status = .active ∧ ¬ session.Dated) := by
  rw [overflows, hget, Option.any_some]

theorem exec_of_not_overflows (h : m.overflows call = false) :
    m.exec floatOfStr now call = m.perform floatOfStr now call := by
  rw [exec, h, if_neg Bool.false_ne_true]

theorem exec_of_overflows (h : m.overflows call = true) :
    m.exec floatOfStr now call = (m, .raised .overflowError) := by
  rw [exec, h, if_pos rfl]

theorem move_update {target : UUID} {f : Session → Session}
    (hf : ∀ session, m.getSession target = some session → session.Move now (f session))
    (hget : m.getSession sid = some session) :
    ∃ session', (m.update target f).getSession sid = some session' ∧ session.Move now session' := by
  rw [getSession_update]
  split
  · rename_i heq
    subst heq
    exact ⟨f session, by rw [hget]; rfl, hf session hget⟩
  · exact ⟨session, hget, .stay⟩

/-- What a call that is accepted does: it creates a session, changes one, checks one,
or cleans up. -/
inductive Effect (now : Time) (m : SessionManager) : SessionCall → SessionManager → Prop
  | create {id : UUID} {tenantId : String} {requesterAgentId : UUID} {requesterConnId : String}
      {intentMessageId : UUID} {intent : JsonObj} {flowAgents : List String}
      {flowEntryPoint : Option String} :
      Effect now m (.createSession id tenantId requesterAgentId requesterConnId intentMessageId
        intent flowAgents flowEntryPoint)
        (m.createSession now id tenantId requesterAgentId requesterConnId intentMessageId intent
          flowAgents flowEntryPoint).1
  | offer {offerId : String} {sessionId providerAgentId : UUID} {providerConnId : String}
      {schemaIds viewIds requires accepts score metadata : Json} {session : Session} (offer : Offer) :
      m.getSession sessionId = some session → takesOffers session now = true →
      Effect now m (.addOffer offerId sessionId providerAgentId providerConnId schemaIds viewIds
        requires accepts score metadata) (m.update sessionId (·.addOffer offer))
  | agree {sessionId : UUID} {offerId : String} {chosenSchemaId chosenViewId : Option String}
      {session session' : Session} : m.getSession sessionId = some session →
      session.status = .negotiating →
      session.activate now offerId chosenSchemaId chosenViewId = some session' →
      Effect now m (.agree sessionId offerId chosenSchemaId chosenViewId)
        (m.update sessionId fun _ ↦ session')
  | close {sessionId : UUID} {session : Session} : m.getSession sessionId = some session →
      Effect now m (.closeSession sessionId) (m.update sessionId (·.close now))
  | validate {sessionId senderAgentId : UUID} {session : Session} :
      m.validateSessionForExec now sessionId senderAgentId = .ok session →
      Effect now m (.validateSessionForExec sessionId senderAgentId) m
  | flowInfo {sessionId : UUID} {flow : AgentFlow} {aggregatedOfferId : String} :
      Effect now m (.setFlowInfo sessionId flow aggregatedOfferId)
        (m.setFlowInfo sessionId (flow.agents.map AgentNode.agentId) flow.entryPoint
          aggregatedOfferId)
  | flowResult {sessionId : UUID} {agentId : String} {result : Json} :
      Effect now m (.updateFlowResult sessionId agentId result)
        (m.updateFlowResult sessionId agentId result)
  | cleanup : Effect now m .cleanup (m.cleanupExpiredSessions now)

/-- A call that is refused or raises changes nothing; one that is accepted has its
effect. -/
def Settles (now : Time) (m : SessionManager) (call : SessionCall)
    (r : SessionManager × SessionReply) : Prop :=
  r.2 ≠ .accepted ∧ r.1 = m ∨ r.2 = .accepted ∧ Effect now m call r.1

theorem settles_refused : Settles now m call (m, .refused) := .inl ⟨SessionReply.noConfusion, rfl⟩

theorem settles_raised (e : PyError) : Settles now m call (m, .raised e) :=
  .inl ⟨SessionReply.noConfusion, rfl⟩

theorem Effect.settles (h : Effect now m call m') : Settles now m call (m', .accepted) :=
  .inr ⟨rfl, h⟩

theorem settles_addOffer (offerId : String) (sessionId providerAgentId : UUID)
    (providerConnId : String) (schemaIds viewIds requires accepts score metadata : Json) :
    Settles now m (.addOffer offerId sessionId providerAgentId providerConnId schemaIds viewIds
      requires accepts score metadata)
      (m.perform floatOfStr now (.addOffer offerId sessionId providerAgentId providerConnId
        schemaIds viewIds requires accepts score metadata)) := by
  rw [perform, addOffer]
  cases hget : m.getSession sessionId with
  | none => exact settles_refused
  | some session =>
      dsimp only
      by_cases htakes : takesOffers session now = true
      · rw [if_pos htakes]
        cases Offer.construct floatOfStr now offerId providerAgentId providerConnId
            (schemaIds.orElse (.arr [])) (viewIds.orElse (.arr [])) (requires.orElse (.arr []))
            (accepts.orElse (.arr [])) score (metadata.orElse (.obj [])) with
        | error e => exact settles_raised e
        | ok offer => exact (Effect.offer offer hget htakes).settles
      · rw [if_neg htakes]
        exact settles_refused

theorem settles_agree (sessionId : UUID) (offerId : String)
    (chosenSchemaId chosenViewId : Option String) :
    Settles now m (.agree sessionId offerId chosenSchemaId chosenViewId)
      (m.perform floatOfStr now (.agree sessionId offerId chosenSchemaId chosenViewId)) := by
  rw [perform, agree]
  cases hget : m.getSession sessionId with
  | none => exact settles_refused
  | some session =>
      dsimp only
      by_cases hstatus : session.status = .negotiating
      · rw [if_neg (not_not.mpr hstatus)]
        cases hactivate : session.activate now offerId chosenSchemaId chosenViewId with
        | none => exact settles_refused
        | some session' => exact (Effect.agree hget hstatus hactivate).settles
      · rw [if_pos hstatus]
        exact settles_refused

theorem settles_closeSession (sessionId : UUID) :
    Settles now m (.closeSession sessionId)
      (m.perform floatOfStr now (.closeSession sessionId)) := by
  rw [perform, closeSession]
  cases hget : m.getSession sessionId with
  | none => exact settles_refused
  | some session => exact (Effect.close hget).settles

theorem settles_validateSessionForExec (sessionId senderAgentId : UUID) :
    Settles now m (.validateSessionForExec sessionId senderAgentId)
      (m.perform floatOfStr now (.validateSessionForExec sessionId senderAgentId)) := by
  rw [perform]
  cases hvalidate : m.validateSessionForExec now sessionId senderAgentId with
  | error reason => exact settles_refused
  | ok session => exact (Effect.validate hvalidate).settles

/-- What a call comes to. -/
theorem settles_exec (m : SessionManager) (floatOfStr : String → Option ℚ) (now : Time)
    (call : SessionCall) : Settles now m call (m.exec floatOfStr now call) := by
  rw [exec]
  split
  · exact settles_raised _
  · cases call with
    | createSession => exact Effect.create.settles
    | addOffer => exact settles_addOffer _ _ _ _ _ _ _ _ _ _
    | agree => exact settles_agree _ _ _ _
    | closeSession => exact settles_closeSession _
    | validateSessionForExec => exact settles_validateSessionForExec _ _
    | setFlowInfo sessionId =>
        rw [perform]
        cases m.getSession sessionId with
        | none => exact settles_refused
        | some session => exact Effect.flowInfo.settles
    | updateFlowResult sessionId =>
        rw [perform]
        cases m.getSession sessionId with
        | none => exact settles_refused
        | some session => exact Effect.flowResult.settles
    | cleanup => exact Effect.cleanup.settles

theorem exec_cases (h : m.exec floatOfStr now call = (m', reply)) :
    reply ≠ .accepted ∧ m' = m ∨ reply = .accepted ∧ Effect now m call m' := by
  have hsettles := settles_exec m floatOfStr now call
  rw [h] at hsettles
  exact hsettles

/-- What a call does to a session. -/
theorem Calls.move (h : Calls floatOfStr now m (call, reply) m')
    (hget : m.getSession sid = some session) :
    ∃ session', m'.getSession sid = some session' ∧ session.Move now session' := by
  obtain ⟨hfresh, hexec⟩ := h
  rcases exec_cases hexec with ⟨-, rfl⟩ | ⟨-, heffect⟩
  · exact ⟨session, hget, .stay⟩
  cases heffect with
  | create =>
      have hnone := hfresh _ _ _ _ _ _ _ _ rfl
      refine ⟨session, ?_, .stay⟩
      rw [getSession_create, if_neg, hget]
      rintro rfl
      cases hnone.symm.trans hget
  | @offer _ _ _ _ _ _ _ _ _ _ session₀ offer hget₀ htakes =>
      refine move_update (fun session hsession ↦ ?_) hget
      obtain rfl := Option.some.inj (hget₀.symm.trans hsession)
      rw [takesOffers, Bool.and_eq_true, Bool.not_eq_true'] at htakes
      exact .offer offer (of_decide_eq_true htakes.1) htakes.2
  | agree hget₀ hstatus hactivate =>
      refine move_update (fun session hsession ↦ ?_) hget
      obtain rfl := Option.some.inj (hget₀.symm.trans hsession)
      exact .agree hstatus hactivate
  | close _ => exact move_update (fun _ _ ↦ .close) hget
  | validate _ => exact ⟨session, hget, .stay⟩
  | flowInfo => exact move_update (fun _ _ ↦ .flowInfo _ _ _) hget
  | flowResult => exact move_update (fun _ _ ↦ .flowResult _) hget
  | cleanup =>
      rw [getSession_cleanup, hget]
      refine ⟨_, rfl, ?_⟩
      dsimp only
      split
      · rename_i hmarked
        exact .expire hmarked.2
      · exact .stay

/-- A session that a call adds is a new one. -/
theorem Calls.created (h : Calls floatOfStr now m (call, reply) m')
    (hnone : m.getSession sid = none) (hget : m'.getSession sid = some session') :
    ∃ tenantId requesterAgentId requesterConnId intentMessageId intent flowAgents flowEntryPoint,
      session' = (m.createSession now sid tenantId requesterAgentId requesterConnId
        intentMessageId intent flowAgents flowEntryPoint).2 := by
  have hupdate : ∀ {target : UUID} {f : Session → Session},
      (m.update target f).getSession sid ≠ some session' := by
    intro target f
    rw [getSession_update]
    split
    · rename_i heq
      rw [← heq, hnone]
      exact nofun
    · rw [hnone]
      exact nofun
  rcases exec_cases h.2 with ⟨-, rfl⟩ | ⟨-, heffect⟩
  · cases hnone.symm.trans hget
  cases heffect with
  | create =>
      rw [getSession_create] at hget
      split at hget
      · rename_i heq
        subst heq
        exact ⟨_, _, _, _, _, _, _, (Option.some.inj hget).symm⟩
      · cases hnone.symm.trans hget
  | offer _ _ _ => exact absurd hget hupdate
  | agree _ _ _ => exact absurd hget hupdate
  | close _ => exact absurd hget hupdate
  | validate _ => cases hnone.symm.trans hget
  | flowInfo => exact absurd hget hupdate
  | flowResult => exact absurd hget hupdate
  | cleanup =>
      rw [getSession_cleanup, hnone] at hget
      cases hget

end SessionManager

/-! ## Invariants -/

namespace Session

variable {now : Time} {session session' session'' : Session}

/-- What was agreed: the provider is that of the first offer with the chosen id. -/
def Agreement (session : Session) : Prop :=
  ∃ offerId offer activatedAt, session.chosenOfferId = some offerId ∧
    session.getOffer offerId = some offer ∧
    session.providerAgentId = some offer.providerAgentId ∧
    session.providerConnId = some offer.providerConnId ∧
    session.activatedAt = some activatedAt

/-- What holds of every session of a manager. -/
structure WellFormed (session : Session) : Prop where
  unagreed : session.status = .negotiating → session.chosenOfferId = none ∧
    session.providerAgentId = none ∧ session.providerConnId = none ∧ session.activatedAt = none
  agreed : session.status = .active ∨ session.activatedAt ≠ none → session.Agreement
  closedAt : session.closedAt ≠ none ↔ session.status = .closed ∨ session.status = .expired

/-- A session before and after: the offers only grow, and only while it negotiates;
it never negotiates again; and what was set at its agreement stays. -/
structure Later (session session' : Session) : Prop where
  offers : session.offers <+: session'.offers
  frozen : session.status ≠ .negotiating → session'.offers = session.offers
  negotiating : session'.status = .negotiating → session.status = .negotiating
  chosenOfferId : ∀ v, session.chosenOfferId = some v → session'.chosenOfferId = some v
  providerAgentId : ∀ v, session.providerAgentId = some v → session'.providerAgentId = some v
  providerConnId : ∀ v, session.providerConnId = some v → session'.providerConnId = some v
  activatedAt : ∀ v, session.activatedAt = some v → session'.activatedAt = some v

theorem Later.refl (session : Session) : Later session session where
  offers := List.prefix_rfl
  frozen _ := rfl
  negotiating h := h
  chosenOfferId _ h := h
  providerAgentId _ h := h
  providerConnId _ h := h
  activatedAt _ h := h

theorem Later.trans (h : Later session session') (h' : Later session' session'') :
    Later session session'' where
  offers := h.offers.trans h'.offers
  frozen hstatus := by
    have hstatus' : session'.status ≠ .negotiating := fun h₁ ↦ hstatus (h.negotiating h₁)
    exact (h'.frozen hstatus').trans (h.frozen hstatus)
  negotiating hstatus := h.negotiating (h'.negotiating hstatus)
  chosenOfferId v hv := h'.chosenOfferId v (h.chosenOfferId v hv)
  providerAgentId v hv := h'.providerAgentId v (h.providerAgentId v hv)
  providerConnId v hv := h'.providerConnId v (h.providerConnId v hv)
  activatedAt v hv := h'.activatedAt v (h.activatedAt v hv)

/-- The end of a session is later, and well-formed. -/
theorem WellFormed.ended (h : session.WellFormed) {status : SessionStatus}
    (hstatus : status = .closed ∨ status = .expired) :
    let session' : Session := { session with status := status, closedAt := some now }
    session'.WellFormed ∧ session.Later session' := by
  have hne : status ≠ .negotiating ∧ status ≠ .active := by
    rcases hstatus with rfl | rfl
    · exact ⟨nofun, nofun⟩
    · exact ⟨nofun, nofun⟩
  refine ⟨⟨fun h₁ ↦ absurd h₁ hne.1, ?_, iff_of_true nofun hstatus⟩, ?_⟩
  · rintro (h₁ | h₁)
    · exact absurd h₁ hne.2
    · exact h.agreed (.inr h₁)
  · exact { Later.refl session with
      negotiating := fun h₁ ↦ absurd h₁ hne.1 }

/-- Moves keep sessions well-formed, and what they leave is later. -/
theorem Move.wellFormed (hmove : session.Move now session') (h : session.WellFormed) :
    session'.WellFormed ∧ session.Later session' := by
  cases hmove with
  | stay => exact ⟨h, .refl session⟩
  | offer offer hstatus _ =>
      obtain ⟨-, -, -, hactivated⟩ := h.unagreed hstatus
      refine ⟨⟨h.unagreed, ?_, h.closedAt⟩, ?_⟩
      · rintro (hactive | hsome)
        · cases hstatus.symm.trans hactive
        · exact absurd hactivated hsome
      · exact { Later.refl session with
          offers := List.prefix_append _ _
          frozen := fun hne ↦ absurd hstatus hne }
  | @agree offerId _ _ _ hstatus hactivate =>
      obtain ⟨hchosen, hagent, hconn, hactivated⟩ := h.unagreed hstatus
      obtain ⟨offer, hoffer, rfl⟩ := Option.map_eq_some_iff.mp hactivate
      have hopen : session.closedAt = none := by
        by_contra hclosed
        rcases h.closedAt.mp hclosed with hend | hend
        · cases hstatus.symm.trans hend
        · cases hstatus.symm.trans hend
      refine ⟨⟨nofun, fun _ ↦ ⟨offerId, offer, now, rfl, hoffer, rfl, rfl, rfl⟩, ?_⟩, ?_⟩
      · refine iff_of_false (not_not.mpr hopen) ?_
        rintro (hend | hend)
        · cases hend
        · cases hend
      · constructor
        · exact List.prefix_rfl
        · exact fun _ ↦ rfl
        · exact nofun
        · intro v hv
          cases hchosen.symm.trans hv
        · intro v hv
          cases hagent.symm.trans hv
        · intro v hv
          cases hconn.symm.trans hv
        · intro v hv
          cases hactivated.symm.trans hv
  | close => exact h.ended (.inl rfl)
  | expire _ => exact h.ended (.inr rfl)
  | flowInfo _ _ _ => exact ⟨⟨h.unagreed, h.agreed, h.closedAt⟩, { Later.refl session with }⟩
  | flowResult _ => exact ⟨⟨h.unagreed, h.agreed, h.closedAt⟩, { Later.refl session with }⟩

end Session

namespace SessionManager

variable {m m' : SessionManager} {floatOfStr : String → Option ℚ} {now : Time}
  {a : SessionCall × SessionReply}

/-- Every session of the manager is well-formed. -/
def WellFormed (m : SessionManager) : Prop :=
  ∀ sid session, m.getSession sid = some session → session.WellFormed

/-- Every session is still there, later. -/
def Later (m m' : SessionManager) : Prop :=
  ∀ sid session, m.getSession sid = some session →
    ∃ session', m'.getSession sid = some session' ∧ session.Later session'

theorem Later.refl (m : SessionManager) : Later m m :=
  fun _ session hget ↦ ⟨session, hget, .refl session⟩

theorem Later.trans {m'' : SessionManager} (h : Later m m') (h' : Later m' m'') : Later m m'' := by
  intro sid session hget
  obtain ⟨session', hget', hlater⟩ := h sid session hget
  obtain ⟨session'', hget'', hlater'⟩ := h' sid session' hget'
  exact ⟨session'', hget'', hlater.trans hlater'⟩

theorem WellFormed.new (negotiationTtl sessionTtl : Int) :
    WellFormed { negotiationTtl := negotiationTtl, sessionTtl := sessionTtl } := by
  intro sid session hget
  cases hget

/-- One call. -/
theorem WellFormed.step (h : m.WellFormed) (hstep : Calls floatOfStr now m a m') :
    m'.WellFormed ∧ m.Later m' := by
  obtain ⟨call, reply⟩ := a
  constructor
  · intro sid session' hget'
    cases hget : m.getSession sid with
    | none =>
        obtain ⟨_, _, _, _, _, _, _, rfl⟩ := hstep.created hget hget'
        refine ⟨fun _ ↦ ⟨rfl, rfl, rfl, rfl⟩, ?_, ?_⟩
        · rintro (hactive | hsome)
          · cases hactive
          · exact absurd rfl hsome
        · refine iff_of_false (not_not.mpr rfl) ?_
          rintro (hend | hend)
          · cases hend
          · cases hend
    | some session =>
        obtain ⟨session₁, hget₁, hmove⟩ := hstep.move hget
        obtain rfl := Option.some.inj (hget₁.symm.trans hget')
        exact (hmove.wellFormed (h sid session hget)).1
  · intro sid session hget
    obtain ⟨session', hget', hmove⟩ := hstep.move hget
    exact ⟨session', hget', (hmove.wellFormed (h sid session hget)).2⟩

/-- In every sequence of calls at a clock that does not go back: an active session,
and one that was active, has the provider of the first offer with the chosen id and
the time of its agreement, none of which changes; the offers only grow, while the
session negotiates; a session never negotiates again; it has an end exactly when it
is closed or expired; and a call that is refused or raises changes no session. -/
theorem calls_keep_agreements {negotiationTtl sessionTtl : Int} {t : Time}
    {before after : List (Time × (SessionCall × SessionReply))} {x y : Time × SessionManager}
    (hbefore : Run (Step.Timed (Calls floatOfStr))
      (t, { negotiationTtl := negotiationTtl, sessionTtl := sessionTtl }) before x)
    (hafter : Run (Step.Timed (Calls floatOfStr)) x after y) :
    (∀ sid session, y.2.getSession sid = some session →
      (session.status = .active → session.Agreement) ∧
      (session.closedAt ≠ none ↔ session.status = .closed ∨ session.status = .expired)) ∧
    (∀ sid session, x.2.getSession sid = some session →
      ∃ session', y.2.getSession sid = some session' ∧ session.Later session' ∧
        (session.status = .active → session'.Agreement)) ∧
    ∀ a z, Step.Timed (Calls floatOfStr) y a z → a.2.2 ≠ .accepted → z.2 = y.2 := by
  have hstep : ∀ (x : Time × SessionManager) a y, x.2.WellFormed →
      Step.Timed (Calls floatOfStr) x a y → y.2.WellFormed :=
    fun x a y h hstep ↦ (h.step hstep.2.2).1
  have hx : x.2.WellFormed :=
    hbefore.invariant (P := fun x ↦ x.2.WellFormed) hstep (.new _ _)
  have hy : y.2.WellFormed := hafter.invariant (P := fun x ↦ x.2.WellFormed) hstep hx
  have hlater : x.2.Later y.2 := hafter.relates (P := fun x ↦ x.2.WellFormed)
    (R := fun x y ↦ x.2.Later y.2) (fun x ↦ .refl x.2) (fun h h' ↦ h.trans h') hstep
    (fun x a y h hstep ↦ (h.step hstep.2.2).2) hx
  refine ⟨fun sid session hget ↦ ?_, fun sid session hget ↦ ?_, ?_⟩
  · exact ⟨fun hactive ↦ (hy sid session hget).agreed (.inl hactive), (hy sid session hget).closedAt⟩
  · obtain ⟨session', hget', hsession⟩ := hlater sid session hget
    refine ⟨session', hget', hsession, fun hactive ↦ ?_⟩
    obtain ⟨_, _, activatedAt, -, -, -, -, hat⟩ := (hx sid session hget).agreed (.inl hactive)
    refine (hy sid session' hget').agreed (.inr ?_)
    rw [hsession.activatedAt activatedAt hat]
    exact nofun
  · rintro ⟨now, call, reply⟩ z ⟨-, -, -, hexec⟩ hreply
    rcases exec_cases hexec with ⟨-, heq⟩ | ⟨haccepted, -⟩
    · exact heq
    · exact absurd haccepted hreply

def sampleCalls : List (Time × SessionCall) :=
  [(0, .createSession ⟨1⟩ "acme" ⟨2⟩ "requester" ⟨3⟩ [] [] none),
    (1, .addOffer "off_1" ⟨1⟩ ⟨4⟩ "provider" (.arr []) (.arr []) (.arr []) (.arr []) (.float 0)
      (.obj [])),
    (2, .agree ⟨1⟩ "off_1" none none)]

/-- Make calls one after the other: the manager after them, and their log. -/
def play (floatOfStr : String → Option ℚ) :
    Time × SessionManager → List (Time × SessionCall) →
      (Time × SessionManager) × List (Time × (SessionCall × SessionReply))
  | x, [] => (x, [])
  | x, (now, call) :: calls =>
      let r := x.2.exec floatOfStr now call
      let rest := play floatOfStr (now, r.1) calls
      (rest.1, (now, (call, r.2)) :: rest.2)

/-- The clock does not go back, and new sessions have fresh ids. -/
def Playable (floatOfStr : String → Option ℚ) :
    Time × SessionManager → List (Time × SessionCall) → Prop
  | _, [] => True
  | x, (now, call) :: calls => x.1 ≤ now ∧
      (match call with
        | .createSession id _ _ _ _ _ _ _ => x.2.getSession id = none
        | _ => True) ∧
      Playable floatOfStr (now, (x.2.exec floatOfStr now call).1) calls

theorem run_play {x : Time × SessionManager} {calls : List (Time × SessionCall)}
    (h : Playable floatOfStr x calls) :
    Run (Step.Timed (Calls floatOfStr)) x (play floatOfStr x calls).2
      (play floatOfStr x calls).1 := by
  induction calls generalizing x with
  | nil => exact .nil x
  | cons e calls ih =>
      obtain ⟨now, call⟩ := e
      obtain ⟨hclock, hfresh, hrest⟩ := h
      refine .cons ⟨hclock, rfl, ?_, rfl⟩ (ih hrest)
      rintro id _ _ _ _ _ _ _ rfl
      exact hfresh

/-- The session of a negotiation is closed: what was agreed stays. -/
theorem agreement_kept_sample :
    let x := (play (fun _ ↦ none) (0, {}) sampleCalls).1
    let y := (play (fun _ ↦ none) x [(3, .closeSession ⟨1⟩)]).1
    ∃ session', y.2.getSession ⟨1⟩ = some session' ∧ session'.Agreement := by
  intro x y
  have hbefore : Playable (fun _ ↦ none) (0, {}) sampleCalls :=
    ⟨by decide, rfl, by decide, trivial, by decide, trivial, trivial⟩
  have hafter : Playable (fun _ ↦ none) x [(3, .closeSession ⟨1⟩)] :=
    ⟨show x.1 ≤ 3 by decide, trivial, trivial⟩
  obtain ⟨-, hkept, -⟩ := calls_keep_agreements (run_play hbefore) (run_play hafter)
  obtain ⟨session', hget, -, hagreement⟩ := hkept ⟨1⟩ _ rfl
  exact ⟨session', hget, hagreement rfl⟩

end SessionManager

end SemanticBus
