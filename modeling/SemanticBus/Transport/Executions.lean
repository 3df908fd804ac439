import SemanticBus.Transport.Authorization
import SemanticBus.Transport.Outbound

/-!
# The gate of the provider, and the executions behind it

A message of a provider reaches the requester, and an execution record, only
through an active session within its lifetime whose provider it names as sender
(`provider_gate`).  What the handlers do behind the gate does not look at the
status of the record: `Unfinished` is the condition that a report finds it
unfinished, and in runs that meet it a finished record stays as it is
(`finished_once`); a late report moves it back (`finished_reopened`).
-/

namespace SemanticBus

/-- A session takes a message of its provider. -/
structure Admits (b : Bus) (now : Time) (envelope : MessageEnvelope) (sid : UUID)
    (session : Session) : Prop where
  named : envelope.ephemeralInterfaceId = some sid
  get : b.sessions.getSession sid = some session
  active : session.status = .active
  lifetime : ∃ activatedAt, session.activatedAt = some activatedAt ∧
    now ≤ activatedAt + Time.seconds session.sessionTtlSeconds
  provider : some envelope.senderId = session.providerAgentId

/-- An active session has a time of activation. -/
def Activated (session : Session) : Prop :=
  session.status = .active → ∃ activatedAt, session.activatedAt = some activatedAt

theorem Activated.stable : Server.Stable Activated where
  created h := by
    obtain ⟨_, _, _, _, _, _, _, _, rfl⟩ := h
    exact nofun
  kept h hactivated := by
    cases h with
    | same => exact hactivated
    | message _ _ heffect =>
        cases heffect with
        | same => exact hactivated
        | offer _ _ _ _ _ _ => exact hactivated
        | agree _ _ _ _ _ => exact fun _ ↦ ⟨_, rfl⟩
        | close _ _ => exact nofun
        | execution _ _ =>
            unfold Session.updateExecutionStatus
            split
            · exact hactivated
            · exact hactivated
    | flowInfo _ _ _ => exact hactivated
    | expire _ _ => exact nofun

/-- The gate of the provider's messages is open exactly for the sessions that admit them. -/
theorem admits_iff {b : Bus} {env : Env} {envelope : MessageEnvelope} {sid : UUID}
    {session : Session}
    (hactivated : ∀ sid session, b.sessions.getSession sid = some session → Activated session) :
    Admits b env.now envelope sid session ↔
      b.providerSession env envelope = some (sid, session) := by
  constructor
  · rintro ⟨hnamed, hget, hactive, ⟨activatedAt, hat, hlive⟩, hprovider⟩
    have hexpired : session.isExpired env.now = false := by
      rw [Session.isExpired, Session.expiresAt_active hactive hat]
      exact decide_eq_false (not_lt.mpr hlive)
    rw [Bus.providerSession, hnamed, Option.bind_some,
      SessionManager.validate_eq_ok hget hactive hexpired (.inr hprovider)]
    dsimp only
    rw [if_neg (not_not.mpr hprovider)]
  · intro h
    obtain ⟨hnamed, hvalid, hprovider⟩ := Bus.providerSession_some h
    obtain ⟨hget, hactive, hexpired, -⟩ := SessionManager.validate_ok hvalid
    obtain ⟨activatedAt, hat⟩ := hactivated sid session hget hactive
    refine ⟨hnamed, hget, hactive, ⟨activatedAt, hat, ?_⟩, hprovider⟩
    rw [Session.isExpired, Session.expiresAt_active hactive hat] at hexpired
    exact not_lt.mp (of_decide_eq_false hexpired)

namespace Server

variable {s s' : Server} {env : Env} {a : Action} {c : String} {conn : Connection} {o : Outcome}
  {envelope : MessageEnvelope} {fired : Fired}

/-- In every run of the bus: a message of a provider, whatever it says, is passed on only
by a session that admits it, and then it is written only to the connection of the
requester of that session, its sender aside, who may get an error; the other
queues and sessions stay as they are.  Without such a session no session and no
queue changes, and only the sender gets anything, which is an error. -/
theorem provider_gate {library : Library} {settings : Settings} {t₀ : Time} {x : Time × Server}
    {as : List Label} (hrun : Run (Step.Timed Steps) (t₀, start library settings) as x)
    (htype : envelope.messageType.isDirect = true ∨ envelope.messageType.isStream = true)
    (hfire : x.2.fire env (.message c envelope) = some fired) :
    ∃ conn, x.2.connections.get? c = some conn ∧
      (∀ sid session, Admits x.2.bus env.now envelope sid session →
        (∀ e ∈ fired.sends,
          x.2.bus.registry.getWebsocket session.requesterConnId = some e.1 ∨
          e.1 = conn.websocket ∧ (e.2.messageType = .error ∨ e.2.messageType = .execError)) ∧
        (∀ c', c' ≠ session.requesterConnId →
          fired.server.bus.queues.queues.get? c' = x.2.bus.queues.queues.get? c') ∧
        ∀ sid', sid' ≠ sid →
          fired.server.bus.sessions.getSession sid' = x.2.bus.sessions.getSession sid') ∧
      ((¬ ∃ sid session, Admits x.2.bus env.now envelope sid session) →
        fired.server.bus.sessions = x.2.bus.sessions ∧
        fired.server.bus.queues = x.2.bus.queues ∧
        ∀ e ∈ fired.sends, e.1 = conn.websocket ∧ e.2.messageType = .error) := by
  have hopen := (sound_run (sound_start library settings) hrun).queues
  have hactivated : x.2.AllSessions Activated :=
    (AllSessions.start library settings).run Activated.stable hrun
  obtain ⟨conn, hget, rfl⟩ := fire_message hfire
  obtain ⟨hsends, -, hsessions, hqueues⟩ := @resume_frame x.2 c conn
    (x.2.bus.handleMessage env conn.websocket c envelope)
  rw [hsends, hsessions, hqueues]
  have heffect : Bus.ProviderEffect x.2.bus env conn.websocket envelope
    (x.2.bus.handleMessage env conn.websocket c envelope) := Bus.handleMessage_provider hopen htype
  generalize x.2.bus.handleMessage env conn.websocket c envelope = o at heffect
  refine ⟨conn, hget, fun sid session hadmits ↦ ?_, fun hnone ↦ ?_⟩
  · have hprovider := (admits_iff hactivated).mp hadmits
    cases heffect with
    | refused h _ _ _ => cases hprovider.symm.trans h
    | direct h _ hreports hsame hsends =>
        obtain ⟨rfl, rfl⟩ := Prod.mk.inj (Option.some.inj (hprovider.symm.trans h))
        refine ⟨fun e he ↦ ?_, fun c' _ ↦ ?_, fun sid' hsid ↦ hreports.other hsid⟩
        · rcases hsends e he with ⟨hsender, herror⟩ | ⟨hws, -⟩
          · exact .inr ⟨hsender, .inl herror⟩
          · exact .inl hws
        · rw [hsame]
    | stream h _ hreports hstream =>
        obtain ⟨rfl, rfl⟩ := Prod.mk.inj (Option.some.inj (hprovider.symm.trans h))
        refine ⟨fun e he ↦ ?_, fun c' hc' ↦ hstream.other hc', fun sid' hsid ↦ hreports.other hsid⟩
        rcases hstream.sends e he with ⟨hsender, herror⟩ | hws
        · exact .inr ⟨hsender, .inr herror⟩
        · exact .inl hws
  · have hprovider : x.2.bus.providerSession env envelope = none := by
      cases h : x.2.bus.providerSession env envelope with
      | none => rfl
      | some found => exact absurd ⟨found.1, found.2, (admits_iff hactivated).mpr h⟩ hnone
    cases heffect with
    | refused _ hbus hanswers _ =>
        rw [hbus]
        exact ⟨rfl, rfl, hanswers⟩
    | direct h _ _ _ _ => cases hprovider.symm.trans h
    | stream h _ _ _ => cases hprovider.symm.trans h

/-- A progress report in an agreed session. -/
theorem provider_gate_sample :
    let x := sampleActive
    let envelope := sampleEnvelope .execProgress busId "acme" (some ⟨100⟩) []
    ∃ fired conn session, x.2.fire ⟨400000, fun _ ↦ ⟨90⟩⟩ (.message providerConn envelope) = some fired ∧
      x.2.connections.get? providerConn = some conn ∧
      Admits x.2.bus 400000 envelope ⟨100⟩ session ∧
      ∀ e ∈ fired.sends, x.2.bus.registry.getWebsocket session.requesterConnId = some e.1 ∨
        e.1 = conn.websocket ∧ (e.2.messageType = .error ∨ e.2.messageType = .execError) := by
  intro x envelope
  have hrun : Run (Step.Timed Steps) sampleStart _ x := run_play (by decide +kernel)
  have hfires : (sampleActive.2.fire ⟨400000, fun _ ↦ ⟨90⟩⟩ (.message providerConn
      (sampleEnvelope .execProgress busId "acme" (some ⟨100⟩) []))).isSome = true := by
    decide +kernel
  have hgate : (sampleActive.2.bus.providerSession ⟨400000, fun _ ↦ ⟨90⟩⟩
      (sampleEnvelope .execProgress busId "acme" (some ⟨100⟩) [])).map Prod.fst = some ⟨100⟩ := by
    decide +kernel
  obtain ⟨fired, hfire⟩ := Option.isSome_iff_exists.mp hfires
  obtain ⟨⟨sid, session⟩, hprovider, hsid⟩ := Option.map_eq_some_iff.mp hgate
  obtain rfl : sid = ⟨100⟩ := hsid
  obtain ⟨conn, hconn, hadmitted, -⟩ := provider_gate hrun (.inl rfl) hfire
  have hadmits := (admits_iff ((AllSessions.start sampleLibrary {}).run Activated.stable hrun)).mpr
    hprovider
  exact ⟨fired, conn, session, hfire, hconn, hadmits, (hadmitted ⟨100⟩ session hadmits).1⟩

end Server

/-! ## Finished executions -/

/-- The states that an execution does not leave. -/
def ExecutionStatus.finished : ExecutionStatus → Bool
  | .completed | .failed | .rejected => true
  | .pending | .accepted | .inProgress => false

namespace ExecutionRecord

/-- What may happen to a record in the course of time: a finished one stays as it is, and
the end of the execution is written only when it finishes. -/
structure Later (record record' : ExecutionRecord) : Prop where
  finished : record.status.finished = true → record' = record
  unwritten : record'.status.finished = false → record'.completedAt = record.completedAt ∧
    record'.resultViewId = record.resultViewId ∧ record'.resultValid = record.resultValid

variable {record record' record'' : ExecutionRecord}

theorem Later.refl (record : ExecutionRecord) : Later record record :=
  ⟨fun _ ↦ rfl, fun _ ↦ ⟨rfl, rfl, rfl⟩⟩

theorem Later.trans (h : Later record record') (h' : Later record' record'') :
    Later record record'' where
  finished hfinished := by
    have heq := h.finished hfinished
    subst heq
    exact h'.finished hfinished
  unwritten hunfinished := by
    obtain ⟨hcompleted, hview, hvalid⟩ := h'.unwritten hunfinished
    have hbefore : record'.status.finished = false := by
      by_contra hne
      rw [Bool.not_eq_false] at hne
      rw [h'.finished hne, hne] at hunfinished
      cases hunfinished
    obtain ⟨hcompleted', hview', hvalid'⟩ := h.unwritten hbefore
    exact ⟨hcompleted.trans hcompleted', hview.trans hview', hvalid.trans hvalid'⟩

/-- A report on an unfinished execution. -/
theorem later_update (hunfinished : record.status.finished = false) (now : Time)
    (status : ExecutionStatus) (resultViewId : Option Json) (resultValid : Option Bool) :
    Later record (record.update now status resultViewId resultValid) where
  finished hfinished := by cases hunfinished.symm.trans hfinished
  unwritten h := by
    cases status with
    | completed => cases h
    | failed => cases h
    | rejected => cases h
    | pending => exact ⟨rfl, rfl, rfl⟩
    | accepted => exact ⟨rfl, rfl, rfl⟩
    | inProgress => exact ⟨rfl, rfl, rfl⟩

end ExecutionRecord

namespace Session

/-- Every record of a session is there later. -/
def ExecutionsLater (session session' : Session) : Prop :=
  ∀ (i : Nat) (record : ExecutionRecord), session.executions[i]? = some record →
    ∃ record', session'.executions[i]? = some record' ∧ record.Later record'

variable {session session' session'' : Session}

theorem ExecutionsLater.of_eq (h : session'.executions = session.executions) :
    ExecutionsLater session session' := by
  intro i record hget
  exact ⟨record, by rw [h, hget], .refl record⟩

theorem ExecutionsLater.trans (h : ExecutionsLater session session')
    (h' : ExecutionsLater session' session'') : ExecutionsLater session session'' := by
  intro i record hget
  obtain ⟨record', hget', hlater⟩ := h i record hget
  obtain ⟨record'', hget'', hlater'⟩ := h' i record' hget'
  exact ⟨record'', hget'', hlater.trans hlater'⟩

/-- A report on an unfinished execution leaves the finished ones alone. -/
theorem executionsLater_update {execId : Json} (now : Time) (status : ExecutionStatus)
    (resultViewId : Option Json) (resultValid : Option Bool)
    (hunfinished : ∀ record ∈ session.getExecution execId, record.status.finished = false) :
    ExecutionsLater session
      (session.updateExecutionStatus now execId status resultViewId resultValid) := by
  unfold updateExecutionStatus
  split
  · exact .of_eq rfl
  · rename_i idx hposition
    intro i record hget
    dsimp only
    rw [List.getElem?_modify, hget]
    refine ⟨_, rfl, ?_⟩
    dsimp only
    split
    · rename_i heq
      subst heq
      refine ExecutionRecord.later_update (hunfinished record ?_) now status resultViewId resultValid
      rw [getExecution, hposition]
      exact hget
    · exact .refl record

end Session

namespace Bus

variable {b : Bus} {env : Env} {websocket : Nat} {connId : String} {envelope : MessageEnvelope}

/-- The handlers of other messages do not touch the executions. -/
theorem handleMessage_quiet (hdirect : envelope.messageType.isDirect = false)
    (hstream : envelope.messageType.isStream = false) :
    let m := (b.handleMessage env websocket connId envelope).bus.sessions
    m = b.sessions ∨ ∃ sid f, m = b.sessions.update sid f ∧
      ∀ session : Session, (f session).executions = session.executions := by
  unfold handleMessage
  split
  · exact .inl handleHeartbeat_sessions
  · exact .inl rfl
  · exact .inl handleIntentBroadcast_sessions
  · unfold handleIntentOffer
    split
    · exact .inl rfl
    · split
      · exact .inl rfl
      · dsimp only
        split
        · exact .inl rfl
        · exact .inl rfl
        · rename_i sessions offer hoffer
          obtain ⟨rfl, -⟩ := addOffer_ok hoffer
          exact .inr ⟨_, _, rfl, fun _ ↦ rfl⟩
  · unfold handleIntentAgree
    split
    · exact .inl rfl
    · dsimp only
      split
      · exact .inl rfl
      · split
        · exact .inl rfl
        · split
          · exact .inl rfl
          · split
            · split
              · exact .inl rfl
              · exact .inr ⟨_, _, rfl, fun _ ↦ rfl⟩
            · exact .inl rfl
  · unfold handleSessionClose
    split
    · exact .inl rfl
    · dsimp only
      split
      · exact .inl rfl
      · rename_i sessions closed hclosed
        unfold SessionManager.closeSession at hclosed
        split at hclosed
        · cases (Prod.mk.inj hclosed).2
        · obtain ⟨rfl, -⟩ := Prod.mk.inj hclosed
          split
          · exact .inr ⟨_, _, rfl, fun _ ↦ rfl⟩
          · exact .inr ⟨_, _, rfl, fun _ ↦ rfl⟩
  · exact .inl handleExecRequest_sessions
  · simp [*, MessageType.isDirect] at hdirect
  · simp [*, MessageType.isDirect] at hdirect
  · simp [*, MessageType.isDirect] at hdirect
  · simp [*, MessageType.isDirect] at hdirect
  · simp [*, MessageType.isDirect] at hdirect
  · simp [*, MessageType.isStream] at hstream
  · simp [*, MessageType.isStream] at hstream
  · simp [*, MessageType.isStream] at hstream
  · exact .inl handleTraceGet_sessions
  · exact .inl handleEventSubscribe_sessions
  · exact .inl handleEventUnsubscribe_sessions
  · exact .inl handleEmitEvent_sessions
  · exact .inl rfl

variable {sid : UUID} {session : Session}

/-- What an update does to the executions of the sessions. -/
theorem executionsLater_of_update {m : SessionManager} {target : UUID} {f : Session → Session}
    (hf : ∀ session, m.getSession target = some session → session.ExecutionsLater (f session))
    (hget : m.getSession sid = some session) : ∃ session',
      (m.update target f).getSession sid = some session' ∧ session.ExecutionsLater session' := by
  rw [SessionManager.getSession_update]
  split
  · rename_i heq
    subst heq
    exact ⟨f session, by rw [hget, Option.map_some], hf session hget⟩
  · exact ⟨session, hget, .of_eq rfl⟩

/-- What a message does to the executions of a session. -/
theorem handleMessage_executions (hb : b.Sound)
    (hunfinished : envelope.messageType.setsStatus = true →
      ∀ e ∈ b.providerSession env envelope,
        ∀ record ∈ e.2.getExecution (JsonObj.get envelope.payload "exec_id"),
          record.status.finished = false)
    (hget : b.sessions.getSession sid = some session) : ∃ session',
      (b.handleMessage env websocket connId envelope).bus.sessions.getSession sid = some session' ∧
        session.ExecutionsLater session' := by
  by_cases htype : envelope.messageType.isDirect = true ∨ envelope.messageType.isStream = true
  · have heffect : ProviderEffect b env websocket envelope
      (b.handleMessage env websocket connId envelope) := handleMessage_provider hb.queues htype
    generalize b.handleMessage env websocket connId envelope = o at heffect
    have hreport : ∀ {target : UUID} {found : Session},
        b.providerSession env envelope = some (target, found) →
        Reports b env target envelope o.bus → ∃ session',
          o.bus.sessions.getSession sid = some session' ∧ session.ExecutionsLater session' := by
      intro target found hprovider hreports
      cases hreports with
      | none hsame => exact ⟨session, hsame ▸ hget, .of_eq rfl⟩
      | update status resultViewId resultValid hsets hupdate =>
          rw [hupdate]
          refine executionsLater_of_update (fun stored hstored ↦ ?_) hget
          obtain ⟨-, hvalid, -⟩ := providerSession_some hprovider
          obtain rfl := Option.some.inj (hstored.symm.trans (SessionManager.validate_ok hvalid).1)
          exact Session.executionsLater_update env.now status resultViewId resultValid
            (hunfinished hsets (target, stored) hprovider)
    cases heffect with
    | refused _ hbus _ _ => exact ⟨session, hbus ▸ hget, .of_eq rfl⟩
    | direct hprovider _ hreports _ _ => exact hreport hprovider hreports
    | stream hprovider _ hreports _ => exact hreport hprovider hreports
  · obtain ⟨hdirect, hstream⟩ := not_or.mp htype
    rw [Bool.not_eq_true] at hdirect hstream
    have hquiet := @handleMessage_quiet b env websocket connId envelope hdirect hstream
    dsimp only at hquiet
    rcases hquiet with hsame | ⟨target, f, hupdate, hf⟩
    · exact ⟨session, hsame ▸ hget, .of_eq rfl⟩
    · rw [hupdate]
      exact executionsLater_of_update (fun stored _ ↦ .of_eq (hf stored)) hget

end Bus

namespace Server

variable {s s' : Server} {now : Time} {ids : Nat → UUID} {a : Action} {sid : UUID}
  {session : Session}

/-- A report of a provider finds its execution unfinished. -/
def Unfinished (s : Server) (now : Time) (ids : Nat → UUID) : Action → Prop
  | .message _ envelope => envelope.messageType.setsStatus = true →
      ∀ e ∈ s.bus.providerSession ⟨now, ids⟩ envelope,
        ∀ record ∈ e.2.getExecution (JsonObj.get envelope.payload "exec_id"),
          record.status.finished = false
  | _ => True

/-- The steps of the bus in which every report finds its execution unfinished. -/
def UnfinishedSteps : Step (Time × Server) Label :=
  Step.Only (fun s a ↦ s.2.Unfinished a.1 a.2.1 a.2.2) (Step.Timed Steps)

/-- One step. -/
theorem executionsLater_step (hs : s.bus.Sound) (hunfinished : s.Unfinished now ids a)
    (hstep : Steps now s (ids, a) s') (hget : s.bus.sessions.getSession sid = some session) :
    ∃ session', s'.bus.sessions.getSession sid = some session' ∧
      session.ExecutionsLater session' := by
  obtain ⟨session', hget', heffect⟩ := hstep.sessionStep.kept sid session hget
  cases heffect with
  | same => exact ⟨session, hget', .of_eq rfl⟩
  | flowInfo _ _ _ => exact ⟨_, hget', .of_eq rfl⟩
  | expire _ _ => exact ⟨_, hget', .of_eq rfl⟩
  | message ha _ _ =>
      subst ha
      obtain ⟨-, fired, hfire, rfl⟩ := hstep
      obtain ⟨conn, -, rfl⟩ := fire_message hfire
      rw [resume_frame.2.2.1]
      exact Bus.handleMessage_executions hs hunfinished hget

/-- In every run from any state in which every report finds its execution unfinished, a
finished record stays as it is, and the end of an execution is written once. -/
theorem executionsLater_run {x y : Time × Server} {as : List Label} (hs : x.2.bus.Sound)
    (hrun : Run UnfinishedSteps x as y) (hget : x.2.bus.sessions.getSession sid = some session) :
    ∃ session', y.2.bus.sessions.getSession sid = some session' ∧
      session.ExecutionsLater session' := by
  have hrelates : ∀ sid session, x.2.bus.sessions.getSession sid = some session →
      ∃ session', y.2.bus.sessions.getSession sid = some session' ∧
        session.ExecutionsLater session' := by
    refine Run.relates (P := fun x ↦ x.2.bus.Sound)
      (R := fun x y ↦ ∀ sid session, x.2.bus.sessions.getSession sid = some session →
        ∃ session', y.2.bus.sessions.getSession sid = some session' ∧
          session.ExecutionsLater session') ?_ ?_ ?_ ?_ hrun hs
    · intro x sid session hget
      exact ⟨session, hget, .of_eq rfl⟩
    · intro x y z h h' sid session hget
      obtain ⟨session', hget', hlater⟩ := h sid session hget
      obtain ⟨session'', hget'', hlater'⟩ := h' sid session' hget'
      exact ⟨session'', hget'', hlater.trans hlater'⟩
    · rintro x a y hs ⟨-, hstep⟩
      exact sound_step hs hstep.2.2
    · rintro x ⟨now, ids, a⟩ y hs ⟨hunfinished, hstep⟩ sid session hget
      exact executionsLater_step hs hunfinished hstep.2.2 hget
  exact hrelates sid session hget

/-- In every run in which every report finds its execution unfinished, in whatever order
the messages come: an execution that is completed, failed or rejected stays as it is,
and its completion time, its view and its validity are written at most once, when it
gets there. -/
theorem finished_once {x y : Time × Server} {as : List Label} (hs : x.2.bus.Sound)
    (hrun : Run UnfinishedSteps x as y) :
    ∀ sid session, x.2.bus.sessions.getSession sid = some session →
      ∃ session', y.2.bus.sessions.getSession sid = some session' ∧
        ∀ (i : Nat) (record : ExecutionRecord), session.executions[i]? = some record →
          ∃ record', session'.executions[i]? = some record' ∧
            (record.status.finished = true → record' = record) ∧
            (record'.status.finished = false → record'.completedAt = record.completedAt ∧
              record'.resultViewId = record.resultViewId ∧
              record'.resultValid = record.resultValid) := by
  intro sid session hget
  obtain ⟨session', hget', hlater⟩ := executionsLater_run hs hrun hget
  refine ⟨session', hget', fun i record hrecord ↦ ?_⟩
  obtain ⟨record', hrecord', hfinished, hunwritten⟩ := hlater i record hrecord
  exact ⟨record', hrecord', hfinished, hunwritten⟩

/-! ### An execution that finishes

No handler adds an execution, so here the session gets one from outside. -/

def addExecution (s : Server) (sid : UUID) (record : ExecutionRecord) : Server :=
  { s with bus := { s.bus with sessions := s.bus.sessions.update sid (·.addExecution record) } }

theorem sound_addExecution {record : ExecutionRecord} (hs : s.bus.Sound) :
    (s.addExecution sid record).bus.Sound := by
  refine { hs with keyed := fun sid' session' hget ↦ ?_ }
  rw [addExecution, SessionManager.getSession_update] at hget
  split at hget
  · rename_i hsid
    obtain ⟨session, hbefore, rfl⟩ := Option.map_eq_some_iff.mp hget
    exact hsid.symm ▸ hs.keyed sid session hbefore
  · exact hs.keyed sid' session' hget

def sampleExecuting : Time × Server :=
  (300000, sampleActive.2.addExecution ⟨100⟩
    { execId := ⟨8⟩
      correlationId := ⟨9⟩
      requesterConnId := requesterConn
      createdAt := 300000 })

theorem sound_sampleExecuting : sampleExecuting.2.bus.Sound := by
  have hactive : Run (Step.Timed Steps) sampleStart _ sampleActive := run_play (by decide +kernel)
  exact sound_addExecution (sound_run (sound_start _ _) hactive)

def executionReport (now : Time) (type : MessageType) : Time × UUID × Action :=
  sampleReport now type [("exec_id", .str (UUID.str ⟨8⟩))]

/-- The status and the time of completion of the execution. -/
def executionState (s : Server) : Option (ExecutionStatus × Option Time) :=
  (s.bus.sessions.getSession ⟨100⟩).bind fun session ↦
    session.executions[0]?.map fun record ↦ (record.status, record.completedAt)

instance (s : Server) (now : Time) (ids : Nat → UUID) (a : Action) :
    Decidable (s.Unfinished now ids a) :=
  match a with
  | .message _ envelope => inferInstanceAs (Decidable (envelope.messageType.setsStatus = true →
      ∀ e ∈ s.bus.providerSession ⟨now, ids⟩ envelope,
        ∀ record ∈ e.2.getExecution (JsonObj.get envelope.payload "exec_id"),
          record.status.finished = false))
  | .connect _ _ | .disconnect _ _ | .answer _ _ | .deliver _ | .poll _ | .sessionTick
  | .registryTick | .queueWrite _ _ | .deliverEvent _ => isTrue trivial

/-- The provider accepts, reports progress and sends the result. -/
theorem finished_once_sample :
    let script := [executionReport 400000 .execAccepted, executionReport 500000 .execProgress,
      executionReport 600000 .execResult]
    let y := playState sampleExecuting script
    executionState y.2 = some (.completed, some 600000) ∧
      ∀ sid session, sampleExecuting.2.bus.sessions.getSession sid = some session →
        ∃ session', y.2.bus.sessions.getSession sid = some session' ∧
          ∀ (i : Nat) (record : ExecutionRecord), session.executions[i]? = some record →
            ∃ record', session'.executions[i]? = some record' ∧
              (record.status.finished = true → record' = record) ∧
              (record'.status.finished = false → record'.completedAt = record.completedAt ∧
                record'.resultViewId = record.resultViewId ∧
                record'.resultValid = record.resultValid) := by
  intro script y
  have hplayable : Playable (fun s now a ↦ s.Unfinished now (fun _ ↦ ⟨90⟩) a) sampleExecuting
      script := by
    decide +kernel
  have hrun : Run UnfinishedSteps sampleExecuting (playLabels script) y :=
    (only_play hplayable).mono fun _ _ _ h ↦ ⟨h.1, h.2⟩
  exact ⟨by decide +kernel, finished_once sound_sampleExecuting hrun⟩

/-- After the result, a late report of progress moves the execution back, and a second
result completes it again at another time. -/
theorem finished_reopened :
    let x := playState sampleExecuting [executionReport 400000 .execResult]
    let y := playState x [executionReport 500000 .execProgress]
    let z := playState y [executionReport 600000 .execResult]
    sampleExecuting.2.bus.Sound ∧
      (∃ as, Run (Step.Timed Steps) sampleExecuting as x) ∧
      (∃ as, Run (Step.Timed Steps) x as y) ∧ (∃ as, Run (Step.Timed Steps) y as z) ∧
      executionState x.2 = some (.completed, some 400000) ∧
      executionState y.2 = some (.inProgress, some 400000) ∧
      executionState z.2 = some (.completed, some 600000) := by
  intro x y z
  exact ⟨sound_sampleExecuting, ⟨_, run_play (by decide +kernel)⟩,
    ⟨_, run_play (by decide +kernel)⟩, ⟨_, run_play (by decide +kernel)⟩,
    by decide +kernel, by decide +kernel, by decide +kernel⟩

end Server

end SemanticBus
