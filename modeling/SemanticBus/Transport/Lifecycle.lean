import SemanticBus.Transport.Effects

/-!
# The lifecycle of sessions on the bus

The handlers of `intent.agree` and `session.close` write the status of a session
without looking at it.  An agreement may therefore reach a session that is
closed, expired or active already, and a close one that is expired.  `Clean` is
the condition that neither happens; in runs that meet it every session follows
the lifecycle, and its activation is final (`lifecycle`).
-/

namespace SemanticBus

/-- What may happen to a session in the course of time: the status makes the moves
of the lifecycle, the activation and the choice stay once they are made, and the
lifetime is fixed. -/
structure Advances (session session' : Session) : Prop where
  status : StatusMove session.status session'.status
  activatedAt : ∀ t, session.activatedAt = some t → session'.activatedAt = some t
  chosenOfferId : ∀ offerId, session.chosenOfferId = some offerId →
    session'.chosenOfferId = some offerId
  lifetime : session'.sessionTtlSeconds = session.sessionTtlSeconds

namespace Advances

variable {session session' session'' : Session}

theorem refl (session : Session) : Advances session session :=
  ⟨.stay _, fun _ h ↦ h, fun _ h ↦ h, rfl⟩

theorem trans (h : Advances session session') (h' : Advances session' session'') :
    Advances session session'' where
  status := h.status.trans h'.status
  activatedAt t ht := h'.activatedAt t (h.activatedAt t ht)
  chosenOfferId o ho := h'.chosenOfferId o (h.chosenOfferId o ho)
  lifetime := h'.lifetime.trans h.lifetime

/-- Only the status of an unfinished session changes. -/
theorem of_status (hstatus : StatusMove session.status session'.status)
    (hactivated : session'.activatedAt = session.activatedAt)
    (hchosen : session'.chosenOfferId = session.chosenOfferId)
    (hlifetime : session'.sessionTtlSeconds = session.sessionTtlSeconds) :
    Advances session session' :=
  ⟨hstatus, fun _ h ↦ hactivated.trans h, fun _ h ↦ hchosen.trans h, hlifetime⟩

end Advances

/-- A negotiating session has no activation and no chosen offer. -/
def Unagreed (session : Session) : Prop :=
  session.status = .negotiating → session.activatedAt = none ∧ session.chosenOfferId = none

namespace Server

/-- The message of an action and the session that it names. -/
def target (s : Server) : Action → Option (MessageEnvelope × Session)
  | .message _ envelope =>
      (envelope.ephemeralInterfaceId.bind s.bus.sessions.getSession).map (envelope, ·)
  | _ => none

/-- An agreement that the handler accepts meets a negotiating session, and a close
no expired one. -/
def CleanMessage (envelope : MessageEnvelope) (session : Session) : Prop :=
  (envelope.messageType = .intentAgree → session.requesterAgentId = envelope.senderId →
      session.aggregatedOfferId ≠ none →
      (JsonObj.get envelope.payload "offer_id").str? = session.aggregatedOfferId →
      session.status = .negotiating) ∧
    (envelope.messageType = .sessionClose → session.status ≠ .expired)

instance (envelope : MessageEnvelope) (session : Session) :
    Decidable (CleanMessage envelope session) := inferInstanceAs (Decidable (_ ∧ _))

/-- The messages of a step respect the lifecycle. -/
def Clean (s : Server) (_ : Time) (a : Action) : Prop :=
  ∀ e ∈ s.target a, CleanMessage e.1 e.2

instance (s : Server) (now : Time) (a : Action) : Decidable (s.Clean now a) :=
  inferInstanceAs (Decidable (∀ e ∈ s.target a, CleanMessage e.1 e.2))

/-- Every session of the first state is in the second one, further on. -/
def AllAdvance (s s' : Server) : Prop :=
  ∀ sid session, s.bus.sessions.getSession sid = some session →
    ∃ session', s'.bus.sessions.getSession sid = some session' ∧ Advances session session'

end Server

section Effects

variable {s s' : Server} {now : Time} {a : Action} {sid : UUID} {session session' : Session}

/-- Negotiating sessions stay without agreement. -/
theorem Unagreed.stable : Server.Stable Unagreed where
  created h := by
    obtain ⟨_, _, _, _, _, _, _, _, rfl⟩ := h
    exact fun _ ↦ ⟨rfl, rfl⟩
  kept h hu := by
    cases h with
    | same => exact hu
    | message _ _ heffect =>
        cases heffect with
        | same => exact hu
        | offer _ _ _ _ _ _ => exact hu
        | agree _ _ _ _ _ => intro hstatus; cases hstatus
        | close _ _ => intro hstatus; cases hstatus
        | execution _ _ =>
            unfold Session.updateExecutionStatus
            split
            · exact hu
            · exact hu
    | flowInfo _ _ _ => exact hu
    | expire _ _ => intro hstatus; cases hstatus

/-- An effect of a clean action follows the lifecycle. -/
theorem Effect.advances (h : Effect now s a sid session session') (hu : Unagreed session)
    (hget : s.bus.sessions.getSession sid = some session) (hclean : s.Clean now a) :
    Advances session session' := by
  cases h with
  | same => exact .refl session
  | message ha hconn heffect =>
      rename_i connId conn envelope
      subst ha
      have hmessage : ∀ hsid : envelope.ephemeralInterfaceId = some sid,
          Server.CleanMessage envelope session := by
        intro hsid
        refine hclean (envelope, session) ?_
        simp [Server.target, hsid, hget]
      cases heffect with
      | same => exact .refl session
      | offer _ _ _ _ _ _ => exact .of_status (.stay _) rfl rfl rfl
      | agree htype hsid hpayload hrequester hoffer =>
          have hstatus : session.status = .negotiating := by
            refine (hmessage hsid).1 htype hrequester ?_ ?_
            · rw [hoffer]
              exact Option.some_ne_none _
            · rw [hpayload, hoffer]
              rfl
          obtain ⟨hactivated, hchosen⟩ := hu hstatus
          refine ⟨?_, fun t ht ↦ ?_, fun o ho ↦ ?_, rfl⟩
          · rw [hstatus]
            exact .leave _
          · rw [hactivated] at ht
            cases ht
          · rw [hchosen] at ho
            cases ho
      | close htype hsid =>
          refine .of_status ?_ rfl rfl rfl
          have hstatus := (hmessage hsid).2 htype
          show StatusMove session.status .closed
          cases hcase : session.status with
          | negotiating => exact .leave _
          | active => exact .finish (.inl rfl)
          | closed => exact .stay _
          | expired => exact absurd hcase hstatus
      | execution _ _ =>
          unfold Session.updateExecutionStatus
          split
          · exact .refl session
          · exact .of_status (.stay _) rfl rfl rfl
  | flowInfo _ _ _ => exact .of_status (.stay _) rfl rfl rfl
  | expire _ hlapsed =>
      refine .of_status ?_ rfl rfl rfl
      show StatusMove session.status .expired
      cases hcase : session.status with
      | negotiating => exact .leave _
      | active => exact .finish (.inr rfl)
      | closed => simp [SessionManager.lapsed, hcase] at hlapsed
      | expired => exact .stay _

end Effects

namespace Server

variable {s s' : Server} {now : Time} {a : Action} {sid : UUID} {session session' : Session}

def CleanSteps : Step (Time × Server) Label :=
  Step.Only (fun s a ↦ s.2.Clean a.1 a.2.2) (Step.Timed Steps)

theorem AllAdvance.step {t t' : Time} {l : Label} (hu : s.AllSessions Unagreed)
    (h : CleanSteps (t, s) l (t', s')) : s.AllAdvance s' := by
  obtain ⟨hclean, _, _, hstep⟩ := h
  intro sid session hget
  obtain ⟨session', hget', heffect⟩ := (Steps.sessionStep hstep).kept sid session hget
  exact ⟨session', hget', heffect.advances (hu sid session hget) hget hclean⟩

theorem AllAdvance.trans {s'' : Server} (h : s.AllAdvance s') (h' : s'.AllAdvance s'') :
    s.AllAdvance s'' := by
  intro sid session hget
  obtain ⟨session', hget', hadvances⟩ := h sid session hget
  obtain ⟨session'', hget'', hadvances'⟩ := h' sid session' hget'
  exact ⟨session'', hget'', hadvances.trans hadvances'⟩

/-- Along a clean run every session advances. -/
theorem advance_run {x y : Time × Server} {as : List Label} (h : Run CleanSteps x as y)
    (hu : x.2.AllSessions Unagreed) : x.2.AllAdvance y.2 := by
  refine Run.relates (P := fun x ↦ x.2.AllSessions Unagreed) (R := fun x y ↦ x.2.AllAdvance y.2)
    ?_ ?_ ?_ ?_ h hu
  · intro x sid session hget
    exact ⟨session, hget, .refl session⟩
  · intro x y z hxy hyz
    exact hxy.trans hyz
  · intro x l y hx hstep
    exact hx.step Unagreed.stable hstep.2.2.2
  · intro x l y hx hstep
    exact AllAdvance.step hx hstep

/-- Once the lifetime of its activation is over, a session is not usable. -/
theorem unusable {sender : UUID} {activatedAt : Time}
    (hget : s.bus.sessions.getSession sid = some session)
    (hactivated : session.activatedAt = some activatedAt)
    (hnow : activatedAt + Time.seconds session.sessionTtlSeconds < now) :
    ∃ reason, s.bus.sessions.validateSessionForExec now sid sender = .error reason := by
  cases hok : s.bus.sessions.validateSessionForExec now sid sender with
  | error reason => exact ⟨reason, rfl⟩
  | ok found =>
      obtain ⟨hfound, hstatus, hlive, _⟩ := SessionManager.validate_ok hok
      obtain rfl := Option.some.inj (hget.symm.trans hfound)
      rw [Session.isExpired, Session.expiresAt_active hstatus hactivated,
        decide_eq_false_iff_not] at hlive
      exact absurd hnow hlive

/-- In every run of the bus that respects the lifecycle, between any two of its
states, every session follows the lifecycle, keeps its activation and its choice,
and is not usable past its activation and the lifetime of sessions; and it is not
active before and after a time when it is not. -/
theorem lifecycle {library : Library} {settings : Settings} {t₀ : Time} {x y z : Time × Server}
    {as bs cs : List Label} (hbefore : Run CleanSteps (t₀, start library settings) as x)
    (hrun : Run CleanSteps x bs y) (hafter : Run CleanSteps y cs z) (sid : UUID) (session : Session)
    (hget : x.2.bus.sessions.getSession sid = some session) :
    ∃ session', y.2.bus.sessions.getSession sid = some session' ∧ Advances session session' ∧
      (∀ activatedAt, session.activatedAt = some activatedAt →
        ∀ now sender, activatedAt + Time.seconds session.sessionTtlSeconds < now →
          ∃ reason, y.2.bus.sessions.validateSessionForExec now sid sender = .error reason) ∧
      ∀ session'', z.2.bus.sessions.getSession sid = some session'' →
        session.status = .active → session''.status = .active → session'.status = .active := by
  have hx : x.2.AllSessions Unagreed :=
    (AllSessions.start library settings).run Unagreed.stable hbefore.of_only
  have hy : y.2.AllSessions Unagreed := hx.run Unagreed.stable hrun.of_only
  obtain ⟨session', hget', hadvances⟩ := advance_run hrun hx sid session hget
  refine ⟨session', hget', hadvances, ?_, ?_⟩
  · intro activatedAt hactivated now sender hnow
    refine unusable hget' (hadvances.activatedAt activatedAt hactivated) ?_
    rw [hadvances.lifetime]
    exact hnow
  · intro session'' hget'' hactive hactive''
    obtain ⟨last, hlast, hadvances'⟩ := advance_run hafter hy sid session' hget'
    obtain rfl := Option.some.inj (hlast.symm.trans hget'')
    have hmove := hadvances.status
    have hmove' := hadvances'.status
    rw [hactive] at hmove
    rw [hactive''] at hmove'
    exact hmove.eq_active hmove'

/-- A session that is agreed to and then closed. -/
theorem lifecycle_sample :
    let x := playState sampleStart (sampleNegotiation ++ [sampleAgree 300000])
    let y := playState x [sampleClose 400000 requesterConn ⟨1⟩ "acme"]
    ∃ session session', x.2.bus.sessions.getSession ⟨100⟩ = some session ∧
      session.status = .active ∧ y.2.bus.sessions.getSession ⟨100⟩ = some session' ∧
      Advances session session' := by
  intro x y
  have hbefore : Run CleanSteps sampleStart _ x := only_play (by decide +kernel)
  have hrun : Run CleanSteps x _ y := only_play (by decide +kernel)
  have hactive : (x.2.bus.sessions.getSession ⟨100⟩).map Session.status = some .active := by
    decide +kernel
  obtain ⟨session, hget, hstatus⟩ := Option.map_eq_some_iff.mp hactive
  obtain ⟨session', hget', hadvances, _⟩ := lifecycle hbefore hrun (.nil y) ⟨100⟩ session hget
  exact ⟨session, session', hget, hstatus, hget', hadvances⟩

/-- An agreement after the close of a session activates it again, with a new
lifetime. -/
theorem lifecycle_broken :
    let x := playState sampleStart (sampleNegotiation ++
      [sampleAgree 300000, sampleClose 400000 requesterConn ⟨1⟩ "acme"])
    let y := playState x [sampleAgree 500000]
    (∃ as, Run (Step.Timed Steps) sampleStart as x) ∧ (∃ bs, Run (Step.Timed Steps) x bs y) ∧
      (x.2.bus.sessions.getSession ⟨100⟩).map Session.status = some .closed ∧
      (y.2.bus.sessions.getSession ⟨100⟩).map Session.status = some .active ∧
      (x.2.bus.sessions.getSession ⟨100⟩).bind Session.activatedAt = some 300000 ∧
      (y.2.bus.sessions.getSession ⟨100⟩).bind Session.activatedAt = some 500000 := by
  intro x y
  have hbefore : Run (Step.Timed Steps) sampleStart _ x := run_play (by decide +kernel)
  have hrun : Run (Step.Timed Steps) x _ y := run_play (by decide +kernel)
  refine ⟨⟨_, hbefore⟩, ⟨_, hrun⟩, ?_, ?_, ?_, ?_⟩
  · decide +kernel
  · decide +kernel
  · decide +kernel
  · decide +kernel

end Server

end SemanticBus
