import SemanticBus.Session.Calls

/-!
# Schedules of the cleanup

The same calls under two schedules of cleanup ticks.  A session that the cleanup
has marked expired answers every call like one whose lifetime is over and that it
has not marked, except that `agree` does not look at the lifetime.
-/

namespace SemanticBus

namespace SessionCall

def isCleanup : SessionCall → Bool
  | .cleanup => true
  | _ => false

def target : SessionCall → UUID
  | .createSession id _ _ _ _ _ _ _ => id
  | .addOffer _ sessionId _ _ _ _ _ _ _ _ => sessionId
  | .agree sessionId _ _ _ => sessionId
  | .closeSession sessionId => sessionId
  | .validateSessionForExec sessionId _ => sessionId
  | .setFlowInfo sessionId _ _ => sessionId
  | .updateFlowResult sessionId _ _ => sessionId
  | .cleanup => default

def creates : SessionCall → Option UUID
  | .createSession id _ _ _ _ _ _ _ => some id
  | _ => none

end SessionCall

namespace SessionManager

variable {m m' : SessionManager} {floatOfStr : String → Option ℚ} {now : Time}
  {call : SessionCall} {sid : UUID} {session session' : Session}

/-! ## One session -/

/-- How a session answers a call that is about it: what becomes of it, and the reply. -/
def respond (floatOfStr : String → Option ℚ) (now : Time) :
    SessionCall → Session → Session × SessionReply
  | .addOffer offerId _ providerAgentId providerConnId schemaIds viewIds requires accepts score
      metadata, session =>
      if session.status = .negotiating ∧ ¬ session.Dated then (session, .raised .overflowError)
      else if takesOffers session now then
        match Offer.construct floatOfStr now offerId providerAgentId providerConnId
            (schemaIds.orElse (.arr [])) (viewIds.orElse (.arr [])) (requires.orElse (.arr []))
            (accepts.orElse (.arr [])) score (metadata.orElse (.obj [])) with
        | .error e => (session, .raised e)
        | .ok offer => (session.addOffer offer, .accepted)
      else (session, .refused)
  | .agree _ offerId chosenSchemaId chosenViewId, session =>
      if session.status ≠ .negotiating then (session, .refused)
      else match session.activate now offerId chosenSchemaId chosenViewId with
        | none => (session, .refused)
        | some session => (session, .accepted)
  | .closeSession _, session => (session.close now, .accepted)
  | .validateSessionForExec _ senderAgentId, session =>
      (session, if session.status = .active ∧ ¬ session.Dated then .raised .overflowError
        else if session.status = .active ∧ session.isExpired now = false ∧
          (senderAgentId = session.requesterAgentId ∨ some senderAgentId = session.providerAgentId)
        then .accepted else .refused)
  | .setFlowInfo _ flow aggregatedOfferId, session =>
      ({ session with
          aggregatedOfferId := some aggregatedOfferId
          flowAgents := flow.agents.map AgentNode.agentId
          flowEntryPoint := some flow.entryPoint }, .accepted)
  | .updateFlowResult _ agentId result, session =>
      ({ session with
          flowResults := JsonObj.set session.flowResults agentId result
          flowCurrentStep := session.flowCurrentStep + 1 }, .accepted)
  | .createSession _ _ _ _ _ _ _ _, session => (session, .accepted)
  | .cleanup, session => (session, .accepted)

/-- Whether a call is about one session that is already there. -/
def isLocal : SessionCall → Bool
  | .createSession _ _ _ _ _ _ _ _ | .cleanup => false
  | _ => true

/-- A call on a session that is not there is refused. -/
theorem exec_of_none (hlocal : isLocal call = true) (hget : m.getSession call.target = none) :
    m.exec floatOfStr now call = (m, .refused) := by
  cases call with
  | createSession => cases hlocal
  | cleanup => cases hlocal
  | addOffer => rw [SessionCall.target] at hget; simp [exec, overflows, perform, addOffer, hget]
  | agree => rw [SessionCall.target] at hget; simp [exec, overflows, perform, agree, hget]
  | closeSession =>
      rw [SessionCall.target] at hget; simp [exec, overflows, perform, closeSession, hget]
  | validateSessionForExec =>
      rw [SessionCall.target] at hget
      simp [exec, overflows, perform, validateSessionForExec, hget]
  | setFlowInfo => rw [SessionCall.target] at hget; simp [exec, overflows, perform, hget]
  | updateFlowResult => rw [SessionCall.target] at hget; simp [exec, overflows, perform, hget]

/-- What a call does to the session it is about: nothing, when the session answers so,
or an update. -/
theorem exec_of_some (floatOfStr : String → Option ℚ) (now : Time) (hlocal : isLocal call = true)
    (hget : m.getSession call.target = some session) :
    (m.exec floatOfStr now call).2 = (respond floatOfStr now call session).2 ∧
      ((m.exec floatOfStr now call).1 = m ∧ (respond floatOfStr now call session).1 = session ∨
        ∃ f, (m.exec floatOfStr now call).1 = m.update call.target f ∧
          f session = (respond floatOfStr now call session).1) := by
  cases call with
  | createSession => cases hlocal
  | cleanup => cases hlocal
  | addOffer offerId sessionId providerAgentId providerConnId schemaIds viewIds requires accepts
      score metadata =>
      rw [SessionCall.target] at hget ⊢
      have hoverflows := overflows_addOffer hget offerId providerAgentId providerConnId schemaIds
        viewIds requires accepts score metadata
      rw [respond]
      by_cases hdated : session.status = .negotiating ∧ ¬ session.Dated
      · rw [exec_of_overflows (hoverflows.trans (decide_eq_true hdated)), if_pos hdated]
        exact ⟨rfl, .inl ⟨rfl, rfl⟩⟩
      rw [exec_of_not_overflows (hoverflows.trans (decide_eq_false hdated)), if_neg hdated, perform,
        addOffer, hget]
      dsimp only
      by_cases htakes : takesOffers session now = true
      · rw [if_pos htakes, if_pos htakes]
        cases Offer.construct floatOfStr now offerId providerAgentId providerConnId
            (schemaIds.orElse (.arr [])) (viewIds.orElse (.arr [])) (requires.orElse (.arr []))
            (accepts.orElse (.arr [])) score (metadata.orElse (.obj [])) with
        | error e => exact ⟨rfl, .inl ⟨rfl, rfl⟩⟩
        | ok offer => exact ⟨rfl, .inr ⟨_, rfl, rfl⟩⟩
      · rw [if_neg htakes, if_neg htakes]
        exact ⟨rfl, .inl ⟨rfl, rfl⟩⟩
  | agree sessionId offerId chosenSchemaId chosenViewId =>
      rw [SessionCall.target] at hget ⊢
      rw [exec_of_not_overflows rfl, perform, agree, hget, respond]
      dsimp only
      by_cases hstatus : session.status = .negotiating
      · rw [if_neg (not_not.mpr hstatus), if_neg (not_not.mpr hstatus)]
        cases session.activate now offerId chosenSchemaId chosenViewId with
        | none => exact ⟨rfl, .inl ⟨rfl, rfl⟩⟩
        | some session' => exact ⟨rfl, .inr ⟨_, rfl, rfl⟩⟩
      · rw [if_pos hstatus, if_pos hstatus]
        exact ⟨rfl, .inl ⟨rfl, rfl⟩⟩
  | closeSession sessionId =>
      rw [SessionCall.target] at hget ⊢
      rw [exec_of_not_overflows rfl, perform, closeSession, hget]
      exact ⟨rfl, .inr ⟨_, rfl, rfl⟩⟩
  | validateSessionForExec sessionId senderAgentId =>
      rw [SessionCall.target] at hget ⊢
      have hoverflows := overflows_validate hget senderAgentId
      rw [respond]
      by_cases hdated : session.status = .active ∧ ¬ session.Dated
      · rw [exec_of_overflows (hoverflows.trans (decide_eq_true hdated)), if_pos hdated]
        exact ⟨rfl, .inl ⟨rfl, rfl⟩⟩
      rw [exec_of_not_overflows (hoverflows.trans (decide_eq_false hdated)), if_neg hdated, perform]
      dsimp only
      split
      · rename_i reason herror
        refine ⟨?_, .inl ⟨rfl, rfl⟩⟩
        rw [if_neg]
        rintro ⟨hactive, hlive, hsender⟩
        cases herror.symm.trans (validate_eq_ok hget hactive hlive hsender)
      · rename_i session' hok
        obtain ⟨hget', hactive, hlive, hsender⟩ := validate_ok hok
        obtain rfl := Option.some.inj (hget.symm.trans hget')
        exact ⟨(if_pos ⟨hactive, hlive, hsender⟩).symm, .inl ⟨rfl, rfl⟩⟩
  | setFlowInfo sessionId flow aggregatedOfferId =>
      rw [SessionCall.target] at hget ⊢
      rw [exec_of_not_overflows rfl, perform, hget]
      exact ⟨rfl, .inr ⟨_, rfl, rfl⟩⟩
  | updateFlowResult sessionId agentId result =>
      rw [SessionCall.target] at hget ⊢
      rw [exec_of_not_overflows rfl, perform, hget]
      exact ⟨rfl, .inr ⟨_, rfl, rfl⟩⟩

/-- A call that is about one session does what the session answers. -/
theorem exec_respond (m : SessionManager) (floatOfStr : String → Option ℚ) (now : Time)
    (hlocal : isLocal call = true) :
    (∀ j, (m.exec floatOfStr now call).1.getSession j = if j = call.target then
      (m.getSession j).map fun session ↦ (respond floatOfStr now call session).1
        else m.getSession j) ∧
      (m.exec floatOfStr now call).2 = ((m.getSession call.target).map fun session ↦
        (respond floatOfStr now call session).2).getD .refused := by
  cases hget : m.getSession call.target with
  | none =>
      rw [exec_of_none hlocal hget]
      refine ⟨fun j ↦ ?_, rfl⟩
      split
      · rename_i heq
        rw [heq, hget]
        rfl
      · rfl
  | some session =>
      obtain ⟨hreply, ⟨hm, hsame⟩ | ⟨f, hm, hf⟩⟩ := exec_of_some floatOfStr now hlocal hget
      · refine ⟨fun j ↦ ?_, hreply⟩
        rw [hm]
        split
        · rename_i heq
          rw [heq, hget, Option.map_some, hsame]
        · rfl
      · refine ⟨fun j ↦ ?_, hreply⟩
        rw [hm, getSession_update]
        split
        · rename_i heq
          rw [heq, hget, Option.map_some, Option.map_some, hf]
        · rfl

/-! ## Sessions with and without the mark -/

/-- A session of a run without ticks, and what the cleanup has made of it. -/
def Shadow (now : Time) (session session' : Session) : Prop :=
  session' = session ∨
    lapsed session now = true ∧ session.Dated ∧ ∃ t, session' = session.expire t

/-- Whether a session takes an agreement after its lifetime. -/
def takesLate (now : Time) (call : SessionCall) (session : Session) : Prop :=
  match call with
  | .agree _ offerId _ _ => session.status = .negotiating ∧ session.isExpired now = true ∧
      (session.getOffer offerId).isSome
  | _ => False

theorem lapsed_mono {now' : Time} (h : lapsed session now = true) (hle : now ≤ now') :
    lapsed session now' = true := by
  simp only [lapsed, Session.isExpired, Bool.and_eq_true, decide_eq_true_eq] at h ⊢
  exact ⟨⟨h.1.1.trans_le hle, h.1.2⟩, h.2⟩

theorem Shadow.mono {now' : Time} (h : Shadow now session session') (hle : now ≤ now') :
    Shadow now' session session' :=
  h.imp_right fun ⟨hlapsed, hmark⟩ ↦ ⟨lapsed_mono hlapsed hle, hmark⟩

/-- The cleanup marks what has lapsed, if it gets there. -/
theorem Shadow.tick (h : Shadow now session session') {reached : Bool}
    (hreached : reached = true → session'.Dated) : Shadow now session
      (if reached ∧ lapsed session' now then session'.expire now else session') := by
  split
  · rename_i hmarked
    obtain ⟨hreach, hlapsed⟩ := hmarked
    rcases h with rfl | ⟨_, _, t, rfl⟩
    · exact .inr ⟨hlapsed, hreached hreach, now, rfl⟩
    · simp [lapsed, Session.expire] at hlapsed
  · exact h

/-- A session with the mark answers like the one without it. -/
theorem Shadow.respond (h : Shadow now session session')
    (htimely : ¬ takesLate now call session) :
    Shadow now (respond floatOfStr now call session).1 (respond floatOfStr now call session').1 ∧
      (SessionManager.respond floatOfStr now call session').2
        = (SessionManager.respond floatOfStr now call session).2 := by
  rcases h with rfl | ⟨hlapsed, hdated, t, rfl⟩
  · exact ⟨.inl rfl, rfl⟩
  have hexpired : session.isExpired now = true := by
    simp only [lapsed, Bool.and_eq_true] at hlapsed
    exact hlapsed.1.1
  have hmarked : Shadow now session (session.expire t) := .inr ⟨hlapsed, hdated, t, rfl⟩
  have hraises : ∀ status, ¬ (session.status = status ∧ ¬ session.Dated) :=
    fun _ h ↦ h.2 hdated
  cases call with
  | createSession => exact ⟨hmarked, rfl⟩
  | cleanup => exact ⟨hmarked, rfl⟩
  | addOffer =>
      have htakes : takesOffers session now = false := by
        rw [takesOffers, hexpired, Bool.not_true, Bool.and_false]
      have htakes' : takesOffers (session.expire t) now = false := rfl
      have hended : ¬ ((session.expire t).status = .negotiating ∧ ¬ (session.expire t).Dated) :=
        fun h ↦ SessionStatus.noConfusion h.1
      simp only [SessionManager.respond, htakes, htakes', Bool.false_eq_true, if_false,
        if_neg (hraises .negotiating), if_neg hended]
      exact ⟨hmarked, trivial⟩
  | agree sessionId offerId chosenSchemaId chosenViewId =>
      have hrefused : SessionManager.respond floatOfStr now
          (.agree sessionId offerId chosenSchemaId chosenViewId) session = (session, .refused) := by
        rw [SessionManager.respond]
        by_cases hstatus : session.status = .negotiating
        · cases hoffer : session.getOffer offerId with
          | none => rw [if_neg (not_not.mpr hstatus), Session.activate, hoffer]; rfl
          | some offer =>
              refine absurd ⟨hstatus, hexpired, ?_⟩ htimely
              rw [hoffer]
              rfl
        · rw [if_pos hstatus]
      rw [hrefused]
      exact ⟨hmarked, rfl⟩
  | closeSession => exact ⟨.inl rfl, rfl⟩
  | validateSessionForExec sessionId senderAgentId =>
      refine ⟨hmarked, ?_⟩
      have hended : ¬ ((session.expire t).status = .active ∧ ¬ (session.expire t).Dated) :=
        fun h ↦ SessionStatus.noConfusion h.1
      simp only [SessionManager.respond, hexpired, if_neg (hraises .active), if_neg hended]
      rw [if_neg, if_neg]
      · rintro ⟨-, hlive, -⟩
        cases hlive
      · rintro ⟨hactive, -, -⟩
        cases hactive
  | setFlowInfo => exact ⟨.inr ⟨hlapsed, hdated, t, rfl⟩, rfl⟩
  | updateFlowResult => exact ⟨.inr ⟨hlapsed, hdated, t, rfl⟩, rfl⟩

/-- A manager of a run without ticks, and one that differs by the marks of the cleanup. -/
structure Sim (now : Time) (m m' : SessionManager) : Prop where
  negotiationTtl : m'.negotiationTtl = m.negotiationTtl
  sessionTtl : m'.sessionTtl = m.sessionTtl
  none : ∀ sid, m.getSession sid = none → m'.getSession sid = none
  some : ∀ sid session, m.getSession sid = some session →
    ∃ session', m'.getSession sid = some session' ∧ Shadow now session session'

/-- No session that a call is about takes an agreement after its lifetime. -/
def onTime (m : SessionManager) (now : Time) (call : SessionCall) : Prop :=
  ∀ session, m.getSession call.target = some session → ¬ takesLate now call session

theorem Sim.refl (now : Time) (m : SessionManager) : Sim now m m :=
  ⟨rfl, rfl, fun _ h ↦ h, fun _ session h ↦ ⟨session, h, .inl rfl⟩⟩

theorem Sim.mono {now' : Time} (h : Sim now m m') (hle : now ≤ now') : Sim now' m m' where
  negotiationTtl := h.negotiationTtl
  sessionTtl := h.sessionTtl
  none := h.none
  some sid session hget := by
    obtain ⟨session', hget', hshadow⟩ := h.some sid session hget
    exact ⟨session', hget', hshadow.mono hle⟩

/-- A tick on one side. -/
theorem Sim.tick (h : Sim now m m') : Sim now m (m'.cleanupExpiredSessions now) where
  negotiationTtl := h.negotiationTtl
  sessionTtl := h.sessionTtl
  none sid hget := by rw [getSession_cleanup, h.none sid hget]; rfl
  some sid session hget := by
    obtain ⟨session', hget', hshadow⟩ := h.some sid session hget
    refine ⟨_, by rw [getSession_cleanup, hget']; rfl, hshadow.tick fun hreach ↦ ?_⟩
    exact ((Dict.reaches_iff hget').mp hreach).2

/-- The TTLs of the manager stay. -/
theorem exec_ttl (m : SessionManager) (floatOfStr : String → Option ℚ) (now : Time)
    (call : SessionCall) :
    (m.exec floatOfStr now call).1.negotiationTtl = m.negotiationTtl ∧
      (m.exec floatOfStr now call).1.sessionTtl = m.sessionTtl := by
  cases hexec : m.exec floatOfStr now call with
  | mk m' reply =>
      rcases exec_cases hexec with ⟨-, rfl⟩ | ⟨-, heffect⟩
      · exact ⟨rfl, rfl⟩
      · cases heffect
        all_goals exact ⟨rfl, rfl⟩

/-- A call on both sides. -/
theorem Sim.exec (floatOfStr : String → Option ℚ) (h : Sim now m m')
    (htimely : m.onTime now call) (hcall : call.isCleanup = false) :
    Sim now (m.exec floatOfStr now call).1 (m'.exec floatOfStr now call).1 ∧
      (m'.exec floatOfStr now call).2 = (m.exec floatOfStr now call).2 := by
  obtain ⟨hnegotiation, hsession⟩ := m.exec_ttl floatOfStr now call
  obtain ⟨hnegotiation', hsession'⟩ := m'.exec_ttl floatOfStr now call
  by_cases hlocal : isLocal call = true
  · obtain ⟨hget, hreply⟩ := m.exec_respond floatOfStr now hlocal
    obtain ⟨hget', hreply'⟩ := m'.exec_respond floatOfStr now hlocal
    refine ⟨⟨?_, ?_, fun sid hnone ↦ ?_, fun sid session hsome ↦ ?_⟩, ?_⟩
    · rw [hnegotiation', hnegotiation, h.negotiationTtl]
    · rw [hsession', hsession, h.sessionTtl]
    · rw [hget] at hnone
      rw [hget']
      split
      · rename_i heq
        rw [if_pos heq, Option.map_eq_none_iff] at hnone
        rw [h.none sid hnone]
        rfl
      · rename_i hne
        rw [if_neg hne] at hnone
        exact h.none sid hnone
    · rw [hget] at hsome
      rw [hget']
      split
      · rename_i heq
        rw [if_pos heq] at hsome
        obtain ⟨session₀, hsome₀, rfl⟩ := Option.map_eq_some_iff.mp hsome
        obtain ⟨session', hsome', hshadow⟩ := h.some sid session₀ hsome₀
        exact ⟨_, by rw [hsome', Option.map_some], (hshadow.respond (htimely session₀ (heq ▸ hsome₀))).1⟩
      · rename_i hne
        rw [if_neg hne] at hsome
        exact h.some sid session hsome
    · rw [hreply, hreply']
      cases hsome : m.getSession call.target with
      | none => rw [h.none _ hsome]
      | some session =>
          obtain ⟨session', hsome', hshadow⟩ := h.some _ session hsome
          rw [hsome', Option.map_some, Option.map_some,
            (hshadow.respond (htimely session hsome)).2]
  · cases call with
    | createSession id =>
        refine ⟨⟨h.negotiationTtl, h.sessionTtl, fun sid hnone ↦ ?_, fun sid session hsome ↦ ?_⟩,
          rfl⟩
        · rw [exec_createSession, getSession_create] at hnone ⊢
          split
          · rename_i heq
            rw [if_pos heq] at hnone
            cases hnone
          · rename_i hne
            rw [if_neg hne] at hnone
            exact h.none sid hnone
        · rw [exec_createSession, getSession_create] at hsome ⊢
          split
          · rename_i heq
            rw [if_pos heq] at hsome
            refine ⟨_, rfl, .inl ?_⟩
            rw [← Option.some.inj hsome, createSession, createSession, h.negotiationTtl,
              h.sessionTtl]
          · rename_i hne
            rw [if_neg hne] at hsome
            exact h.some sid session hsome
    | cleanup => cases hcall
    | _ => exact absurd rfl hlocal

/-! ## Schedules -/

/-- The calls of a schedule, without the ticks of the cleanup. -/
def callsOf (schedule : List (Time × SessionCall)) : List (Time × SessionCall) :=
  schedule.filter fun e ↦ !e.2.isCleanup

/-- What the calls of a schedule return, one after the other. -/
def replies (floatOfStr : String → Option ℚ) (x : Time × SessionManager)
    (schedule : List (Time × SessionCall)) : List SessionReply :=
  ((play floatOfStr x schedule).2.filter fun e ↦ !e.2.1.isCleanup).map fun e ↦ e.2.2

/-- When the calls are made without any tick, none of them is an agreement to an offer
of a session whose negotiation is over by the clock, and still open. -/
def Timely (floatOfStr : String → Option ℚ) :
    SessionManager → List (Time × SessionCall) → Prop
  | _, [] => True
  | m, (now, call) :: calls => m.onTime now call ∧
      Timely floatOfStr (m.exec floatOfStr now call).1 calls

variable {t t' : Time} {schedule calls : List (Time × SessionCall)}

theorem replies_clock : replies floatOfStr (t, m) schedule = replies floatOfStr (t', m) schedule := by
  cases schedule with
  | nil => rfl
  | cons _ _ => rfl

theorem callsOf_tick : callsOf ((now, .cleanup) :: schedule) = callsOf schedule := rfl

theorem callsOf_call (hcall : call.isCleanup = false) :
    callsOf ((now, call) :: schedule) = (now, call) :: callsOf schedule := by
  rw [callsOf, List.filter_cons_of_pos (by rw [hcall]; rfl), callsOf]

theorem replies_tick : replies floatOfStr (t, m) ((now, .cleanup) :: schedule)
    = replies floatOfStr (now, m.cleanupExpiredSessions now) schedule := rfl

theorem replies_call (hcall : call.isCleanup = false) :
    replies floatOfStr (t, m) ((now, call) :: schedule) = (m.exec floatOfStr now call).2 ::
      replies floatOfStr (now, (m.exec floatOfStr now call).1) schedule := by
  rw [replies, play, List.filter_cons_of_pos]
  · rfl
  · rw [hcall]
    rfl

/-- Every schedule of timely calls gives the replies of the calls without ticks. -/
theorem Sim.replies (h : Sim t m m') (hplay : Playable floatOfStr (t, m') schedule)
    (htimely : Timely floatOfStr m (callsOf schedule)) :
    replies floatOfStr (t, m') schedule = replies floatOfStr (t, m) (callsOf schedule) := by
  induction schedule generalizing t m m' with
  | nil => rfl
  | cons e schedule ih =>
      obtain ⟨now, call⟩ := e
      obtain ⟨hclock, -, hplay⟩ := hplay
      have h := h.mono hclock
      cases hcall : call.isCleanup with
      | true =>
          cases call with
          | cleanup =>
              rw [callsOf_tick] at htimely ⊢
              rw [replies_tick, ih h.tick hplay htimely, replies_clock]
          | _ => cases hcall
      | false =>
          rw [callsOf_call hcall] at htimely ⊢
          obtain ⟨hon, hrest⟩ := htimely
          obtain ⟨hsim, hreply⟩ := h.exec floatOfStr hon hcall
          rw [replies_call hcall, replies_call hcall, hreply, ih hsim hplay hrest]

/-- A call leaves every session there, and adds the one that it creates. -/
theorem exec_none (m : SessionManager) (floatOfStr : String → Option ℚ) (now : Time)
    (call : SessionCall) (sid : UUID) :
    (m.exec floatOfStr now call).1.getSession sid = none ↔
      m.getSession sid = none ∧ call.creates ≠ some sid := by
  by_cases hlocal : isLocal call = true
  · have hcreates : call.creates = none := by
      cases call with
      | createSession => cases hlocal
      | _ => rfl
    rw [(m.exec_respond floatOfStr now hlocal).1, hcreates]
    split
    · simp
    · simp
  · cases call with
    | createSession id =>
        rw [exec_createSession, getSession_create, SessionCall.creates]
        split
        · rename_i heq
          simp [heq]
        · rename_i hne
          simp [Ne.symm hne]
    | cleanup =>
        rw [exec_cleanup, getSession_cleanup, Option.map_eq_none_iff]
        simp [SessionCall.creates]
    | _ => exact absurd rfl hlocal

/-- Whether calls can be made depends on which sessions there are, not on their state. -/
theorem Playable.congr (hplay : Playable floatOfStr (t, m) calls)
    (hkeys : ∀ sid, m'.getSession sid = none ↔ m.getSession sid = none) :
    Playable floatOfStr (t, m') calls := by
  induction calls generalizing t m m' with
  | nil => trivial
  | cons e calls ih =>
      obtain ⟨now, call⟩ := e
      obtain ⟨hclock, hfresh, hrest⟩ := hplay
      refine ⟨hclock, ?_, ih hrest fun sid ↦ ?_⟩
      · cases call with
        | createSession id => exact (hkeys id).mpr hfresh
        | _ => trivial
      · rw [exec_none, exec_none, hkeys]

/-- A tick at the time of the first call leaves the calls playable. -/
theorem Playable.tick {now : Time} {call : SessionCall}
    (hplay : Playable floatOfStr (t, m) ((now, call) :: calls)) :
    Playable floatOfStr (t, m) ((now, .cleanup) :: (now, call) :: calls) := by
  obtain ⟨hclock, hfresh, hrest⟩ := hplay
  have hnow : Playable floatOfStr (now, m) ((now, call) :: calls) := ⟨le_refl now, hfresh, hrest⟩
  refine ⟨hclock, trivial, hnow.congr fun sid ↦ ?_⟩
  rw [exec_none]
  simp [SessionCall.creates]

/-! ## Dates -/

/-- The deadlines that are set at a time are dates. -/
def Fits (negotiationTtl sessionTtl : Int) (now : Time) : Prop :=
  (now + Time.seconds negotiationTtl).IsDate ∧ (now + Time.seconds sessionTtl).IsDate

/-- The sessions have the lifetimes of their manager, and their deadlines are dates. -/
def Bounded (m : SessionManager) : Prop := ∀ sid session, m.getSession sid = some session →
  session.negotiationTtlSeconds = m.negotiationTtl ∧ session.sessionTtlSeconds = m.sessionTtl ∧
    session.Dated

/-- A session that is agreed to has a new deadline, and one that ends has none. -/
theorem dated_move (hmove : session.Move now session') (hdated : session.Dated)
    (hfits : Fits session.negotiationTtlSeconds session.sessionTtlSeconds now) :
    session'.negotiationTtlSeconds = session.negotiationTtlSeconds ∧
      session'.sessionTtlSeconds = session.sessionTtlSeconds ∧ session'.Dated := by
  cases hmove with
  | stay => exact ⟨rfl, rfl, hdated⟩
  | offer => exact ⟨rfl, rfl, hdated⟩
  | agree _ hactivate =>
      obtain ⟨offer, -, rfl⟩ := Option.map_eq_some_iff.mp hactivate
      exact ⟨rfl, rfl, fun _ ↦ hfits.2⟩
  | close | expire =>
      refine ⟨rfl, rfl, ?_⟩
      rintro (h | ⟨h, -⟩) <;> cases h
  | flowInfo => exact ⟨rfl, rfl, hdated⟩
  | flowResult => exact ⟨rfl, rfl, hdated⟩

theorem Bounded.exec (h : m.Bounded) {reply : SessionReply}
    (hfits : Fits m.negotiationTtl m.sessionTtl now)
    (hcalls : Calls floatOfStr now m (call, reply) m') : m'.Bounded := by
  obtain ⟨hnegotiation, hsession⟩ := m.exec_ttl floatOfStr now call
  rw [hcalls.2] at hnegotiation hsession
  intro sid session' hget'
  rw [hnegotiation, hsession]
  cases hget : m.getSession sid with
  | none =>
      obtain ⟨_, _, _, _, _, _, _, rfl⟩ := hcalls.created hget hget'
      exact ⟨rfl, rfl, fun _ ↦ hfits.1⟩
  | some session =>
      obtain ⟨session'', hget'', hmove⟩ := hcalls.move hget
      obtain rfl := Option.some.inj (hget'.symm.trans hget'')
      obtain ⟨hneg, hsess, hdated⟩ := h sid session hget
      rw [← hneg, ← hsess] at hfits ⊢
      exact dated_move hmove hdated hfits

/-- The cleanup gets to every session whose deadline is a date, as all others are. -/
theorem Bounded.reaches (h : m.Bounded) (hget : m.getSession sid = some session) :
    m.sessions.reaches Session.Dated sid = true :=
  Dict.reaches_of_forall (fun j s hs ↦ (h j s hs).2.2) hget

/-- A late agreement is accepted without a tick, and refused after one. -/
theorem onTime_of_replies (floatOfStr : String → Option ℚ) (hbounded : m.Bounded)
    (hsame : (m.exec floatOfStr now call).2
      = ((m.cleanupExpiredSessions now).exec floatOfStr now call).2) : m.onTime now call := by
  rintro session hget hlate
  cases call with
  | agree sessionId offerId chosenSchemaId chosenViewId =>
      obtain ⟨hstatus, hexpired, hoffer⟩ := hlate
      obtain ⟨offer, hoffer⟩ := Option.isSome_iff_exists.mp hoffer
      rw [SessionCall.target] at hget
      have hlapsed : lapsed session now = true := by
        rw [lapsed, hexpired, hstatus]
        rfl
      have hget' : (m.cleanupExpiredSessions now).getSession sessionId
          = some (session.expire now) := by
        rw [getSession_cleanup, hget, Option.map_some, if_pos ⟨hbounded.reaches hget, hlapsed⟩]
      have haccepted : (m.exec floatOfStr now
          (.agree sessionId offerId chosenSchemaId chosenViewId)).2 = .accepted := by
        rw [(m.exec_respond floatOfStr now rfl).2, SessionCall.target, hget, Option.map_some, respond,
          if_neg (not_not.mpr hstatus), Session.activate, hoffer]
        rfl
      have hrefused : ((m.cleanupExpiredSessions now).exec floatOfStr now
          (.agree sessionId offerId chosenSchemaId chosenViewId)).2 = .refused := by
        rw [(SessionManager.exec_respond _ floatOfStr now rfl).2, SessionCall.target, hget']
        rfl
      cases haccepted.symm.trans (hsame.trans hrefused)
  | _ => exact hlate

/-- All schedules of some calls give the same replies. -/
def SameReplies (floatOfStr : String → Option ℚ) (x : Time × SessionManager)
    (calls : List (Time × SessionCall)) : Prop :=
  ∀ schedule schedule', Playable floatOfStr x schedule → Playable floatOfStr x schedule' →
    callsOf schedule = calls → callsOf schedule' = calls →
      replies floatOfStr x schedule = replies floatOfStr x schedule'

/-- When every schedule gives the same replies, the calls are timely. -/
theorem timely_of_replies (hcalls : callsOf calls = calls)
    (hplay : Playable floatOfStr (t, m) calls) (hbounded : m.Bounded)
    (hfits : ∀ e ∈ calls, Fits m.negotiationTtl m.sessionTtl e.1)
    (hsame : SameReplies floatOfStr (t, m) calls) : Timely floatOfStr m calls := by
  induction calls generalizing t m with
  | nil => trivial
  | cons e calls ih =>
      obtain ⟨now, call⟩ := e
      have hcall : call.isCleanup = false := by
        have hmem : (now, call) ∈ callsOf ((now, call) :: calls) := by
          rw [hcalls]
          exact List.mem_cons_self
        simpa using (List.mem_filter.mp hmem).2
      rw [callsOf_call hcall, List.cons_eq_cons] at hcalls
      obtain ⟨hnegotiation, hsession⟩ := m.exec_ttl floatOfStr now call
      obtain ⟨hclock, hfresh, hrest⟩ := hplay
      have hmade : Calls floatOfStr now m (call, (m.exec floatOfStr now call).2)
          (m.exec floatOfStr now call).1 := by
        refine ⟨?_, rfl⟩
        rintro id _ _ _ _ _ _ _ rfl
        exact hfresh
      have hnext : (m.exec floatOfStr now call).1.Bounded :=
        hbounded.exec (hfits _ List.mem_cons_self) hmade
      refine ⟨onTime_of_replies floatOfStr hbounded ?_, ih hcalls.2 hrest hnext ?_ ?_⟩
      · have htick := hsame ((now, .cleanup) :: (now, call) :: calls) ((now, call) :: calls)
          (Playable.tick ⟨hclock, hfresh, hrest⟩) ⟨hclock, hfresh, hrest⟩ ?_ ?_
        · rw [replies_tick, replies_call hcall, replies_call hcall, List.cons_eq_cons] at htick
          exact htick.1.symm
        · rw [callsOf_tick, callsOf_call hcall, hcalls.2]
        · rw [callsOf_call hcall, hcalls.2]
      · intro e he
        rw [hnegotiation, hsession]
        exact hfits e (List.mem_cons_of_mem _ he)
      · intro schedule schedule' hschedule hschedule' heq heq'
        have htail := hsame ((now, call) :: schedule) ((now, call) :: schedule')
          ⟨hclock, hfresh, hschedule⟩ ⟨hclock, hfresh, hschedule'⟩ ?_ ?_
        · rw [replies_call hcall, replies_call hcall, List.cons_eq_cons] at htail
          exact htail.2
        · rw [callsOf_call hcall, heq]
        · rw [callsOf_call hcall, heq']

/-- For every sequence of calls from the start of a manager: the schedules of the
cleanup that can be interleaved with it all give the same replies when none of the calls is an
agreement that comes after the negotiation TTL, to an offer of a session that would still be
open; and only then, if the deadlines that are set during the calls are dates. -/
theorem same_replies_iff_timely {negotiationTtl sessionTtl : Int}
    (hplay : Playable floatOfStr
      (t, { negotiationTtl := negotiationTtl, sessionTtl := sessionTtl }) calls)
    (hcalls : callsOf calls = calls) :
    let x : Time × SessionManager :=
      (t, { negotiationTtl := negotiationTtl, sessionTtl := sessionTtl })
    (Timely floatOfStr x.2 calls → SameReplies floatOfStr x calls) ∧
      ((∀ e ∈ calls, Fits negotiationTtl sessionTtl e.1) →
        (SameReplies floatOfStr x calls ↔ Timely floatOfStr x.2 calls)) := by
  intro x
  have hsame : Timely floatOfStr x.2 calls → SameReplies floatOfStr x calls := by
    intro htimely schedule schedule' hschedule hschedule' heq heq'
    subst heq
    rw [(Sim.refl t x.2).replies hschedule htimely, ← heq',
      (Sim.refl t x.2).replies hschedule' (heq'.symm ▸ htimely)]
  refine ⟨hsame, fun hfits ↦ ⟨fun h ↦ ?_, hsame⟩⟩
  exact timely_of_replies hcalls hplay (fun sid session hget ↦ by cases hget) hfits h

/-- A negotiation that is agreed to in time, and one whose time is over when another offer is
made. -/
def twoNegotiations : List (Time × SessionCall) :=
  sampleCalls ++ [(3, .createSession ⟨5⟩ "acme" ⟨2⟩ "requester" ⟨6⟩ [] [] none),
    (Time.seconds 41, .addOffer "off_2" ⟨5⟩ ⟨4⟩ "provider" (.arr []) (.arr []) (.arr []) (.arr [])
      (.float 0) (.obj []))]

/-- The cleanup marks the second session before the offer. -/
def cleanedUp : List (Time × SessionCall) :=
  twoNegotiations.take 4 ++ (Time.seconds 40, .cleanup) :: twoNegotiations.drop 4

theorem same_replies_sample :
    replies (fun _ ↦ none) (0, {}) twoNegotiations = replies (fun _ ↦ none) (0, {}) cleanedUp := by
  have hplay : Playable (fun _ ↦ none) (0, {}) twoNegotiations :=
    ⟨by decide, rfl, by decide, trivial, by decide, trivial, by decide, rfl, by decide, trivial,
      trivial⟩
  have hplay' : Playable (fun _ ↦ none) (0, {}) cleanedUp :=
    ⟨by decide, rfl, by decide, trivial, by decide, trivial, by decide, rfl, by decide, trivial,
      by decide, trivial, trivial⟩
  have htimely : Timely (fun _ ↦ none) {} twoNegotiations := by
    refine ⟨fun _ _ hlate ↦ hlate, fun _ _ hlate ↦ hlate, fun session hget hlate ↦ ?_,
      fun _ _ hlate ↦ hlate, fun _ _ hlate ↦ hlate, trivial⟩
    obtain rfl := Option.some.inj hget
    exact absurd hlate.2.1 (by decide)
  exact (same_replies_iff_timely hplay rfl).1 htimely _ _ hplay hplay' rfl rfl

/-- An offer is agreed to a second after the negotiation TTL. -/
def lateCalls : List (Time × SessionCall) :=
  sampleCalls.take 2 ++ [(Time.seconds 31, .agree ⟨1⟩ "off_1" none none)]

/-- The same calls, and the cleanup runs before the last one. -/
def tickedCalls : List (Time × SessionCall) :=
  sampleCalls.take 2 ++ [(Time.seconds 31, .cleanup),
    (Time.seconds 31, .agree ⟨1⟩ "off_1" none none)]

/-- Whether the late agreement is accepted depends on the cleanup. -/
theorem cleanup_decides :
    ¬ ∀ schedule schedule', Playable (fun _ ↦ none) (0, {}) schedule →
      Playable (fun _ ↦ none) (0, {}) schedule' → callsOf schedule = callsOf schedule' →
      replies (fun _ ↦ none) (0, {}) schedule = replies (fun _ ↦ none) (0, {}) schedule' := by
  intro hsame
  have hlate : replies (fun _ ↦ none) (0, {}) lateCalls = [.accepted, .accepted, .accepted] := by
    decide +kernel
  have hticked : replies (fun _ ↦ none) (0, {}) tickedCalls = [.accepted, .accepted, .refused] := by
    decide +kernel
  have hplay : Playable (fun _ ↦ none) (0, {}) lateCalls :=
    ⟨by decide, rfl, by decide, trivial, by decide, trivial, trivial⟩
  have hplay' : Playable (fun _ ↦ none) (0, {}) tickedCalls :=
    ⟨by decide, rfl, by decide, trivial, by decide, trivial, by decide, trivial, trivial⟩
  cases hlate.symm.trans ((hsame _ _ hplay hplay' rfl).trans hticked)

end SessionManager

end SemanticBus
