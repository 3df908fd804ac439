import SemanticBus.Transport.Outbound

/-!
# The order of forwarded messages

Stream messages wait in the outbound queue of the requester, the reports and the
result of the provider are written at once, so they overtake what still waits.
`InTurn` is the condition that nothing of the session waits when such a message
is forwarded; then the requester gets what is forwarded in the order in which it
was sent (`forwarded_in_order`).
-/

namespace SemanticBus

def MessageType.isReport : MessageType → Bool
  | .execAccepted | .execProgress | .execError | .execResult => true
  | _ => false

theorem MessageType.isDirect_of_isReport {type : MessageType} (h : type.isReport = true) :
    type.isDirect = true := by
  cases type
  all_goals first | rfl | cases h

def Message.inSession (sid : UUID) (message : Message) : Bool :=
  message.ephemeralInterfaceId = some sid

namespace Bus

/-- Nothing keeps a report or a result from being written to the requester: the session
admits it, the requester is connected, and a result has the schema that was agreed on
and can be validated and traced. -/
def forwardsNow (b : Bus) (env : Env) (envelope : MessageEnvelope) : Bool :=
  (b.providerSession env envelope).any fun (_, session) ↦
    (b.registry.getWebsocket session.requesterConnId).isSome &&
      (envelope.messageType ≠ .execResult ||
        (schemaMismatch session envelope.schemaId).isNone &&
          (b.viewValid session envelope.senderId envelope.payload).toOption.isSome &&
          (TraceEvent.execIdOf
            ((JsonObj.get envelope.payload "exec_id").orElse (.str ""))).toOption.isSome)

variable {b : Bus} {env : Env} {websocket : Nat} {connId : String} {envelope : MessageEnvelope}
  {e : Nat × Message}

theorem handleExecStatus_forwards {status : ExecutionStatus}
    (htype : envelope.messageType ≠ .execResult)
    (he : e ∈ (handleExecStatus status b env envelope).sends) :
    b.forwardsNow env envelope = true := by
  rw [handleExecStatus] at he
  rw [forwardsNow]
  split at he
  · cases he
  · rename_i sid session hprovider
    dsimp only at he
    rw [forward, (updateExecution_if b env sid _ _ _ _ _).1] at he
    split at he
    · cases he
    · rename_i ws hws
      rw [hprovider, Option.any_some]
      dsimp only
      rw [hws]
      simp [htype]

theorem handleExecResult_forwards (he : e ∈ (b.handleExecResult env websocket envelope).sends)
    (htype : e.2.messageType = .execResult) : b.forwardsNow env envelope = true := by
  unfold handleExecResult at he
  split at he
  · obtain rfl := List.mem_singleton.mp he
    cases htype
  · rename_i sid session hcheck
    dsimp only at he
    split at he
    · obtain rfl := List.mem_singleton.mp he
      cases htype
    · rename_i hschema
      split at he
      · cases he
      · rename_i valid hvalid
        split at he
        · cases he
        · rename_i tracedId htraced
          split at he
          · obtain rfl := List.mem_singleton.mp he
            cases htype
          · rename_i ws hws
            have hws' : b.registry.getWebsocket session.requesterConnId = some ws := by
              rw [← hws]
              exact congrArg (AgentRegistry.getWebsocket · _)
                (updateExecution_if b env sid _ _ _ _ _).1.symm
            rw [forwardsNow, checkProvider_ok hcheck, Option.any_some]
            dsimp only
            rw [hws', hschema, hvalid, htraced]
            simp [Except.toOption]

/-- What a report or a result writes under its own type is forwarded. -/
theorem handleMessage_forwards (hreport : envelope.messageType.isReport = true)
    (he : e ∈ (b.handleMessage env websocket connId envelope).sends)
    (htype : e.2.messageType = envelope.messageType) : b.forwardsNow env envelope = true := by
  rw [handleMessage] at he
  cases hmessage : envelope.messageType
  case execAccepted =>
    rw [hmessage] at he
    exact handleExecStatus_forwards (by rw [hmessage]; rintro ⟨⟩) he
  case execProgress =>
    rw [hmessage] at he
    exact handleExecStatus_forwards (by rw [hmessage]; rintro ⟨⟩) he
  case execError =>
    rw [hmessage] at he
    exact handleExecStatus_forwards (by rw [hmessage]; rintro ⟨⟩) he
  case execResult =>
    rw [hmessage] at he
    exact handleExecResult_forwards he (htype.trans hmessage)
  all_goals
    rw [hmessage] at hreport
    cases hreport

end Bus

/-- Notes on a session: what its provider sent and the bus forwarded, and what was
written to the requester of it. -/
structure OrderNotes where
  forwarded : List Message := []
  received : List Message := []

namespace OrderNotes

/-- What a step adds to the notes.  A stream message is forwarded when it finds room; a
message from the queue is received when the send succeeds. -/
def note (sid : UUID) (x : Time × Server) (a : Server.Label) (n : OrderNotes) : OrderNotes :=
  let env : Env := ⟨a.1, a.2.1⟩
  match a.2.2 with
  | .message c envelope =>
      if envelope.inSession sid && envelope.messageType.isStream then
        { n with
          forwarded := n.forwarded ++ if x.2.bus.takes env envelope then [envelope.toMessage] else [] }
      else if envelope.inSession sid && envelope.messageType.isReport then
        let messages := (x.2.sendsOf env (.message c envelope)).filter
          (·.messageType = envelope.messageType)
        { forwarded := n.forwarded ++ messages, received := n.received ++ messages }
      else n
  | .queueWrite c true =>
      if x.2.isRequester sid c then
        { n with received := n.received ++
            (x.2.sendsOf env (.queueWrite c true)).filter (·.inSession sid) }
      else n
  | _ => n

/-- Nothing of the session waits when a report or a result is forwarded. -/
def InTurn (sid : UUID) (x : (Time × Server) × OrderNotes) (a : Server.Label) : Prop :=
  ∀ envelope ∈ a.2.2.envelope?, envelope.inSession sid = true →
    envelope.messageType.isReport = true →
    x.1.2.bus.forwardsNow ⟨a.1, a.2.1⟩ envelope = true →
    ∀ session ∈ x.1.2.bus.sessions.getSession sid,
      ((x.1.2.bus.waiting session.requesterConnId).filter (·.inSession sid)).isEmpty = true

instance (sid : UUID) (x : (Time × Server) × OrderNotes) (a : Server.Label) :
    Decidable (InTurn sid x a) :=
  inferInstanceAs (Decidable (∀ envelope ∈ a.2.2.envelope?, _ → _ → _ → ∀ session ∈ _, _))

def Steps (sid : UUID) : Step ((Time × Server) × OrderNotes) Server.Label :=
  Step.Noting (note sid) (Step.Timed Server.Steps)

/-- What was received and what waits was forwarded in this order. -/
structure Kept (sid : UUID) (s : Server) (n : OrderNotes) : Prop where
  absent : s.bus.sessions.getSession sid = none → n.forwarded = [] ∧ n.received = [] ∧
    ∀ c, (s.bus.waiting c).filter (·.inSession sid) = []
  present : ∀ session, s.bus.sessions.getSession sid = some session →
    (n.received ++ (s.bus.waiting session.requesterConnId).filter (·.inSession sid)).Sublist
      n.forwarded

variable {s s' : Server} {n : OrderNotes} {sid : UUID} {now : Time} {ids : Nat → UUID}
  {a : Action}

theorem Kept.start (library : Library) (settings : Server.Settings) :
    Kept sid (Server.start library settings) {} where
  absent _ := ⟨rfl, rfl, fun _ ↦ rfl⟩
  present session hget := by cases hget

/-- A step that leaves alone what waits of the session. -/
theorem Kept.frame (h : Kept sid s n) (hs : Server.Steps now s (ids, a) s')
    (hwaiting : ∀ c, (s'.bus.waiting c).filter (·.inSession sid)
      = (s.bus.waiting c).filter (·.inSession sid)) : Kept sid s' n := by
  refine ⟨fun habsent ↦ ?_, fun session' hget' ↦ ?_⟩
  · obtain ⟨hforwarded, hreceived, hnothing⟩ := h.absent (hs.absent_before habsent)
    exact ⟨hforwarded, hreceived, fun c ↦ by rw [hwaiting, hnothing]⟩
  · rw [hwaiting]
    rcases hs.requester_before hget' with hnone | ⟨session, hget, howner⟩
    · obtain ⟨hforwarded, hreceived, hnothing⟩ := h.absent hnone
      rw [hreceived, hnothing]
      exact List.nil_sublist _
    · rw [howner]
      exact h.present session hget

/-- A step that leaves the queues alone. -/
theorem Kept.quiet (h : Kept sid s n) (hs : Server.Steps now s (ids, a) s')
    (hqueues : s'.bus.queues = s.bus.queues) : Kept sid s' n := by
  refine h.frame hs fun c ↦ ?_
  rw [Bus.waiting, hqueues, Bus.waiting]

/-- Messages that are written at once while nothing waits. -/
theorem Kept.write_now (h : Kept sid s n) (messages : List Message)
    (hexists : messages ≠ [] → ∃ session, s.bus.sessions.getSession sid = some session ∧
      (s.bus.waiting session.requesterConnId).filter (·.inSession sid) = []) :
    Kept sid s ⟨n.forwarded ++ messages, n.received ++ messages⟩ := by
  by_cases hnil : messages = []
  · subst hnil
    rw [List.append_nil, List.append_nil]
    exact h
  obtain ⟨session, hget, hnothing⟩ := hexists hnil
  refine ⟨fun habsent ↦ ?_, fun session' hget' ↦ ?_⟩
  · cases habsent.symm.trans hget
  · obtain rfl := Option.some.inj (hget.symm.trans hget')
    have hsub := h.present session hget
    rw [hnothing, List.append_nil] at hsub ⊢
    exact hsub.append (List.Sublist.refl messages)

/-- A message that is queued. -/
theorem Kept.put {session session' : Session} {ws : Nat} {message : Message} (h : Kept sid s n)
    (hmessage : message.inSession sid = true)
    (hget : s.bus.sessions.getSession sid = some session)
    (hget' : s'.bus.sessions.getSession sid = some session')
    (howner : session'.requesterConnId = session.requesterConnId)
    (hputs : s.bus.Puts session.requesterConnId ws message s'.bus) :
    Kept sid s' { n with forwarded := n.forwarded ++ [message] } := by
  refine ⟨fun habsent ↦ ?_, fun session'' hget'' ↦ ?_⟩
  · cases habsent.symm.trans hget'
  · obtain rfl := Option.some.inj (hget'.symm.trans hget'')
    have hsub := h.present session hget
    rw [howner, hputs.waiting]
    cases s.bus.running session.requesterConnId with
    | false =>
        rw [if_neg Bool.false_ne_true, List.filter_nil, List.append_nil]
        exact ((List.sublist_append_left _ _).trans hsub).trans (List.sublist_append_left _ _)
    | true =>
        rw [if_pos rfl, List.filter_append, List.filter_cons_of_pos hmessage, List.filter_nil,
          ← List.append_assoc]
        exact hsub.append (List.Sublist.refl [message])

/-- What the notes get from a round of a writer. -/
theorem note_write (t : Time) (c : String) (sent : Bool) :
    note sid (t, s) (now, (ids, .queueWrite c sent)) n = { n with
      received := n.received ++ s.written ⟨now, ids⟩ sid (·.inSession sid) c sent } := by
  rw [Server.written]
  cases sent with
  | false => simp [note]
  | true =>
      cases hrequester : s.isRequester sid c with
      | false => simp [note, hrequester]
      | true => simp [note, hrequester]

/-- A round of a writer. -/
theorem Kept.write {c : String} {sent : Bool} {fired : Fired} (h : Kept sid s n)
    (hs : s.bus.Sound) (hfire : s.fire ⟨now, ids⟩ (.queueWrite c sent) = some fired) (t : Time) :
    Kept sid fired.server (note sid (t, s) (now, (ids, .queueWrite c sent)) n) := by
  obtain ⟨hsessions, -⟩ := Server.fire_queueWrite hs hfire
  rw [note_write t]
  refine ⟨fun habsent ↦ ?_, fun session hget ↦ ?_⟩
  · rw [hsessions] at habsent
    obtain ⟨hforwarded, hreceived, hnothing⟩ := h.absent habsent
    rw [Server.written_of_none habsent, List.append_nil]
    exact ⟨hforwarded, hreceived, Server.waiting_filter_nil hs hfire hnothing⟩
  · rw [hsessions] at hget
    have hsub := h.present session hget
    obtain ⟨hfront, -⟩ := Server.written_prefix hs hfire hget (·.inSession sid)
    rw [List.append_assoc]
    exact ((List.Sublist.refl n.received).append hfront.sublist).trans hsub

/-- A stream message of a provider. -/
theorem Kept.stream {c : String} {envelope : MessageEnvelope} {fired : Fired} (t : Time)
    (h : Kept sid s n) (hs : s.bus.Sound)
    (hstep : Server.Steps now s (ids, .message c envelope) fired.server)
    (hfire : s.fire ⟨now, ids⟩ (.message c envelope) = some fired)
    (hstream : envelope.messageType.isStream = true) :
    Kept sid fired.server (note sid (t, s) (now, (ids, .message c envelope)) n) := by
  have hreport : envelope.messageType.isReport = false := by
    by_contra hne
    rw [Bool.not_eq_false] at hne
    cases (MessageType.isStream_of_isDirect (MessageType.isDirect_of_isReport hne)).symm.trans hstream
  have hnote : note sid (t, s) (now, (ids, .message c envelope)) n =
      if envelope.inSession sid && s.bus.takes ⟨now, ids⟩ envelope then
        { n with forwarded := n.forwarded ++ [envelope.toMessage] } else n := by
    dsimp only [note]
    rw [hstream, hreport, Bool.and_true, Bool.and_false]
    cases envelope.inSession sid with
    | false => rfl
    | true =>
        cases s.bus.takes ⟨now, ids⟩ envelope with
        | false => simp
        | true => simp
  rcases Server.fire_stream hs hfire hstream with
    ⟨htakes, hsame, -⟩ | ⟨htakes, -, sid₀, session₀, ws, hnamed, hget₀, -, hputs⟩
  · rw [hnote, htakes, Bool.and_false, if_neg Bool.false_ne_true]
    exact h.quiet hstep hsame
  · rw [hnote, htakes, Bool.and_true]
    cases hin : envelope.inSession sid with
    | false =>
        rw [if_neg Bool.false_ne_true]
        exact h.frame hstep fun c' ↦ (hputs.frame hin c').1
    | true =>
        have hsid := of_decide_eq_true hin
        rw [hnamed] at hsid
        obtain rfl := Option.some.inj hsid
        obtain ⟨session', hget', heffect⟩ := hstep.sessionStep.kept sid₀ session₀ hget₀
        rw [if_pos rfl]
        exact h.put hin hget₀ hget' (Server.sameOwner_of_effect heffect).requesterConnId hputs

/-- A report or a result of a provider. -/
theorem Kept.report {c : String} {envelope : MessageEnvelope} {fired : Fired} (t : Time)
    (h : Kept sid s n)
    (hstep : Server.Steps now s (ids, .message c envelope) fired.server)
    (hfire : s.fire ⟨now, ids⟩ (.message c envelope) = some fired)
    (hreport : envelope.messageType.isReport = true)
    (hturn : InTurn sid ((t, s), n) (now, (ids, .message c envelope))) :
    Kept sid fired.server (note sid (t, s) (now, (ids, .message c envelope)) n) := by
  have hstream := MessageType.isStream_of_isDirect (MessageType.isDirect_of_isReport hreport)
  have hqueues : fired.server.bus.queues = s.bus.queues := by
    refine Server.fire_queues hfire (fun _ _ heq ↦ by cases heq) ?_
    intro c' envelope' heq
    cases heq
    exact hstream
  have hquiet := h.quiet hstep hqueues
  dsimp only [note]
  rw [hstream, hreport, Bool.and_false, Bool.and_true, if_neg Bool.false_ne_true]
  cases hin : envelope.inSession sid with
  | false =>
      rw [if_neg Bool.false_ne_true]
      exact hquiet
  | true =>
      rw [if_pos rfl]
      refine hquiet.write_now _ fun hne ↦ ?_
      obtain ⟨message, hmessage⟩ := List.exists_mem_of_ne_nil _ hne
      obtain ⟨hmem, htype⟩ := List.mem_filter.mp hmessage
      obtain ⟨conn, -, rfl⟩ := Server.fire_message hfire
      rw [Server.sendsOf, hfire, Option.elim_some, Server.resume_frame.1] at hmem
      obtain ⟨e, he, rfl⟩ := List.mem_map.mp hmem
      have hforwards : s.bus.forwardsNow ⟨now, ids⟩ envelope = true :=
        Bus.handleMessage_forwards hreport he (of_decide_eq_true htype)
      obtain ⟨⟨sid₀, session⟩, hprovider, -⟩ := (Option.any_eq_true _ _).mp hforwards
      obtain ⟨hnamed, hvalid, -⟩ := Bus.providerSession_some hprovider
      have hsid := of_decide_eq_true hin
      rw [hnamed] at hsid
      obtain rfl := Option.some.inj hsid
      have hget := (SessionManager.validate_ok hvalid).1
      obtain ⟨session', hget', heffect⟩ := hstep.sessionStep.kept sid₀ session hget
      refine ⟨session', hget', ?_⟩
      rw [(Server.sameOwner_of_effect heffect).requesterConnId, Bus.waiting, hqueues, ← Bus.waiting]
      exact List.isEmpty_iff.mp (hturn envelope rfl hin hreport hforwards session hget)

/-- One step. -/
theorem Kept.step {x y : (Time × Server) × OrderNotes} {a : Server.Label} (h : Kept sid x.1.2 x.2)
    (hs : x.1.2.bus.Sound) (hturn : InTurn sid x a) (hstep : Steps sid x a y) :
    Kept sid y.1.2 y.2 := by
  obtain ⟨⟨t, s⟩, n⟩ := x
  obtain ⟨⟨t', s'⟩, n'⟩ := y
  obtain ⟨now, ids, a⟩ := a
  obtain ⟨⟨-, -, hsteps⟩, hnote⟩ := hstep
  dsimp only at h hs hsteps hnote ⊢
  subst hnote
  have hfires := hsteps
  obtain ⟨-, fired, hfire, rfl⟩ := hfires
  by_cases hwrite : ∃ c sent, a = .queueWrite c sent
  · obtain ⟨c, sent, rfl⟩ := hwrite
    exact h.write hs hfire t
  by_cases hmessage : ∃ c envelope, a = .message c envelope ∧
      (envelope.messageType.isStream = true ∨ envelope.messageType.isReport = true)
  · obtain ⟨c, envelope, rfl, hstream | hreport⟩ := hmessage
    · exact h.stream t hs hsteps hfire hstream
    · exact h.report t hsteps hfire hreport hturn
  have hqueues : fired.server.bus.queues = s.bus.queues := by
    refine Server.fire_queues hfire (fun c sent heq ↦ hwrite ⟨c, sent, heq⟩) ?_
    intro c envelope heq
    by_contra hstream
    exact hmessage ⟨c, envelope, heq, .inl (Bool.not_eq_false _ ▸ hstream)⟩
  have hnote : note sid (t, s) (now, (ids, a)) n = n := by
    cases a with
    | queueWrite c sent => exact absurd ⟨c, sent, rfl⟩ hwrite
    | message c envelope =>
        have htype : envelope.messageType.isStream = false ∧ envelope.messageType.isReport = false := by
          constructor
          · by_contra hne
            exact hmessage ⟨c, envelope, rfl, .inl (Bool.not_eq_false _ ▸ hne)⟩
          · by_contra hne
            exact hmessage ⟨c, envelope, rfl, .inr (Bool.not_eq_false _ ▸ hne)⟩
        dsimp only [note]
        rw [htype.1, htype.2, Bool.and_false, if_neg Bool.false_ne_true, if_neg Bool.false_ne_true]
    | _ => rfl
  rw [hnote]
  exact h.quiet hsteps hqueues

/-- In every run of the bus, whenever the writers run, in which nothing of a session waits
in the queue of its requester when a report or a result is forwarded: the requester
gets what is forwarded in the session in the order in which it was sent. -/
theorem forwarded_in_order {library : Library} {settings : Server.Settings} {t₀ : Time}
    {as : List Server.Label} {y : (Time × Server) × OrderNotes}
    (hrun : Run (Step.Only (InTurn sid) (Steps sid)) ((t₀, Server.start library settings), {}) as y) :
    y.2.received.Sublist y.2.forwarded := by
  have hkept : y.1.2.bus.Sound ∧ Kept sid y.1.2 y.2 := by
    refine Run.invariant (P := fun x : (Time × Server) × OrderNotes ↦
      x.1.2.bus.Sound ∧ Kept sid x.1.2 x.2) ?_ hrun
      ⟨Server.sound_start library settings, .start library settings⟩
    rintro x a y ⟨hs, h⟩ ⟨hturn, hstep⟩
    exact ⟨Server.sound_step hs hstep.1.2.2, h.step hs hturn hstep⟩
  cases hget : y.1.2.bus.sessions.getSession sid with
  | none =>
      obtain ⟨-, hreceived, -⟩ := hkept.2.absent hget
      rw [hreceived]
      exact List.nil_sublist _
  | some session => exact (List.sublist_append_left _ _).trans (hkept.2.present session hget)

/-- Messages in the agreed session of the small negotiation. -/
def samplePlay (script : List (Time × UUID × Action)) : (Time × Server) × OrderNotes :=
  Server.playNotes (note ⟨100⟩) ((0, Server.start Server.sampleLibrary {}), {})
    (Server.sampleNegotiation ++ [Server.sampleAgree 300000] ++ script)

/-- A result after a chunk that was written. -/
theorem forwarded_in_order_sample :
    let y := samplePlay [Server.sampleReport 400000 .execAccepted [("exec_id", .str "e")],
      Server.sampleReport 400001 .execStreamChunk [("exec_id", .str "e")],
      (400002, ⟨90⟩, .queueWrite Server.requesterConn true),
      Server.sampleReport 400003 .execResult [("exec_id", .str "e")]]
    y.2.received.Sublist y.2.forwarded := by
  intro y
  have hrun : Run (Step.Only (InTurn ⟨100⟩) (Steps ⟨100⟩)) _ _ y :=
    Server.run_playNotes (by decide +kernel)
  exact forwarded_in_order hrun

/-- A result overtakes the chunk before it. -/
theorem result_overtakes :
    ¬ ∀ settings as y, Run (Steps ⟨100⟩) ((0, Server.start Server.sampleLibrary settings), {}) as y →
      y.2.received.Sublist y.2.forwarded := by
  intro hall
  let y := samplePlay [Server.sampleReport 400001 .execStreamChunk [("exec_id", .str "e")],
    Server.sampleReport 400002 .execResult [("exec_id", .str "e")],
    (400003, ⟨90⟩, .queueWrite Server.requesterConn true)]
  have hrun : Run (Step.Only (fun _ _ ↦ True) (Steps ⟨100⟩)) _ _ y :=
    Server.run_playNotes (by decide +kernel)
  have hforwarded : y.2.forwarded.map Message.messageType = [.execStreamChunk, .execResult] := by
    decide +kernel
  have hreceived : y.2.received.map Message.messageType = [.execResult, .execStreamChunk] := by
    decide +kernel
  have hsub := (hall _ _ y hrun.of_only).map Message.messageType
  rw [hforwarded, hreceived] at hsub
  exact absurd hsub (by decide)

end OrderNotes

end SemanticBus
