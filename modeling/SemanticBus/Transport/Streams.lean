import SemanticBus.Transport.Outbound

/-!
# Streams

The chunks of a stream, and its end, go through the outbound queue of the
requester.  A full queue refuses a chunk, but the bus does not remember that it
did: once the writer has made room, the next chunk is queued.  `Steady` is the
condition that this does not happen, and that the start and the end of a stream
find room; then the chunks and the end that the requester gets are a prefix of
those that the provider sends (`stream_prefix`).

The notes of a run (`StreamNotes`) say what was sent and what was received.
-/

namespace SemanticBus

def MessageType.isBody : MessageType → Bool
  | .execStreamChunk | .execStreamEnd => true
  | _ => false

def Message.about (sid : UUID) (execId : String) (message : Message) : Bool :=
  message.ephemeralInterfaceId = some sid &&
    (JsonObj.getD message.payload "exec_id" (.str "")).str? = some execId

/-- A message is a chunk or the end of the stream of an execution. -/
def Message.ofBody (sid : UUID) (execId : String) (message : Message) : Bool :=
  message.messageType.isBody && message.about sid execId

namespace Server

/-- A stream message about an execution, of the provider of its session. -/
def streams (s : Server) (sid : UUID) (execId : String) (envelope : MessageEnvelope) : Bool :=
  envelope.messageType.isStream && envelope.about sid execId &&
    (s.bus.sessions.getSession sid).any (·.providerAgentId = some envelope.senderId)

end Server

/-- Notes on the stream of an execution: the chunks and ends that its provider sent,
whether one of them found no room, the ones that were written to the requester, and
whether a full queue has ended the connection of a sender. -/
structure StreamNotes where
  sent : List Message := []
  missed : Bool := false
  received : List Message := []
  raised : Bool := false

namespace StreamNotes

/-- What a step adds to the notes.  A message is received when the send succeeds. -/
def note (sid : UUID) (execId : String) (x : Time × Server) (a : Server.Label) (n : StreamNotes) :
    StreamNotes :=
  let env : Env := ⟨a.1, a.2.1⟩
  match a.2.2 with
  | .message _ envelope =>
      if x.2.streams sid execId envelope then
        { n with
          sent := if envelope.messageType.isBody then n.sent ++ [envelope.toMessage] else n.sent
          missed := n.missed || envelope.messageType.isBody && !x.2.bus.takes env envelope
          raised := n.raised || (x.2.fire env a.2.2).any (·.error = some .queueFullError) }
      else n
  | .queueWrite c true =>
      if x.2.isRequester sid c then
        { n with received := n.received ++
            (x.2.sendsOf env (.queueWrite c true)).filter (·.ofBody sid execId) }
      else n
  | _ => n

/-- The start and the end of the stream do not find a full queue, and no chunk and no end
finds room after one that did not. -/
def Steady (sid : UUID) (execId : String) (x : (Time × Server) × StreamNotes)
    (a : Server.Label) : Prop :=
  ∀ envelope ∈ a.2.2.envelope?, x.1.2.streams sid execId envelope = true →
    (envelope.messageType ≠ .execStreamChunk →
      x.1.2.bus.meetsFull ⟨a.1, a.2.1⟩ envelope = false) ∧
    (envelope.messageType.isBody = true → x.1.2.bus.takes ⟨a.1, a.2.1⟩ envelope = true →
      x.2.missed = false)

instance (sid : UUID) (execId : String) (x : (Time × Server) × StreamNotes) (a : Server.Label) :
    Decidable (Steady sid execId x a) :=
  inferInstanceAs (Decidable (∀ envelope ∈ a.2.2.envelope?, _ → _ ∧ _))

def Steps (sid : UUID) (execId : String) : Step ((Time × Server) × StreamNotes) Server.Label :=
  Step.Noting (note sid execId) (Step.Timed Server.Steps)

/-- What was queued is a prefix of what was sent, all of it as long as everything found
room, and it is what was received and what is still to write, unless the writer has
ended. -/
structure Kept (sid : UUID) (execId : String) (s : Server) (n : StreamNotes) : Prop where
  raised : n.raised = false
  absent : s.bus.sessions.getSession sid = none → n.sent = [] ∧ n.missed = false ∧
    n.received = [] ∧ ∀ c, (s.bus.waiting c).filter (·.ofBody sid execId) = []
  present : ∀ session, s.bus.sessions.getSession sid = some session → ∃ queued,
    queued <+: n.sent ∧ (n.missed = false → queued = n.sent) ∧
    n.received ++ (s.bus.waiting session.requesterConnId).filter (·.ofBody sid execId) <+: queued ∧
    (s.bus.running session.requesterConnId = true →
      n.received ++ (s.bus.waiting session.requesterConnId).filter (·.ofBody sid execId) = queued)

variable {s s' : Server} {n : StreamNotes} {sid : UUID} {execId : String} {now : Time}
  {ids : Nat → UUID} {a : Action}

theorem Kept.start (library : Library) (settings : Server.Settings) :
    Kept sid execId (Server.start library settings) {} where
  raised := rfl
  absent _ := ⟨rfl, rfl, rfl, fun _ ↦ rfl⟩
  present session hget := by cases hget

/-- A step that leaves alone what is to be written of the stream. -/
theorem Kept.frame (h : Kept sid execId s n) (hs : Server.Steps now s (ids, a) s')
    (hwaiting : ∀ c, (s'.bus.waiting c).filter (·.ofBody sid execId)
      = (s.bus.waiting c).filter (·.ofBody sid execId))
    (hrunning : ∀ c, s'.bus.running c = s.bus.running c) : Kept sid execId s' n := by
  refine ⟨h.raised, fun habsent ↦ ?_, fun session' hget' ↦ ?_⟩
  · obtain ⟨hsent, hmissed, hreceived, hnothing⟩ := h.absent (hs.absent_before habsent)
    exact ⟨hsent, hmissed, hreceived, fun c ↦ by rw [hwaiting, hnothing]⟩
  · rw [hwaiting, hrunning]
    rcases hs.requester_before hget' with hnone | ⟨session, hget, howner⟩
    · obtain ⟨hsent, hmissed, hreceived, hnothing⟩ := h.absent hnone
      refine ⟨[], List.nil_prefix, fun _ ↦ hsent.symm, ?_, fun _ ↦ ?_⟩
      · rw [hreceived, hnothing]
        exact List.nil_prefix
      · rw [hreceived, hnothing]
        rfl
    · rw [howner]
      exact h.present session hget

/-- A step that leaves the queues alone. -/
theorem Kept.quiet (h : Kept sid execId s n) (hs : Server.Steps now s (ids, a) s')
    (hqueues : s'.bus.queues = s.bus.queues) : Kept sid execId s' n := by
  have hsame : ∀ c, s'.bus.waiting c = s.bus.waiting c ∧ s'.bus.running c = s.bus.running c := by
    intro c
    apply Bus.waiting_congr
    rw [hqueues]
  exact h.frame hs (fun c ↦ by rw [(hsame c).1]) fun c ↦ (hsame c).2

/-- A message of the stream that finds no room. -/
theorem Kept.miss (h : Kept sid execId s n) {session : Session}
    (hget : s.bus.sessions.getSession sid = some session) (message : Message) :
    Kept sid execId s { n with sent := n.sent ++ [message], missed := true } := by
  refine ⟨h.raised, fun habsent ↦ ?_, fun session' hget' ↦ ?_⟩
  · cases habsent.symm.trans hget
  · obtain ⟨queued, hqueued, -, hkept⟩ := h.present session' hget'
    exact ⟨queued, hqueued.trans (List.prefix_append _ _), nofun, hkept⟩

/-- A message of the stream that is queued, when all before it were. -/
theorem Kept.put {session session' : Session} {ws : Nat} {message : Message}
    (h : Kept sid execId s n) (hmissed : n.missed = false) (hbody : message.ofBody sid execId = true)
    (hget : s.bus.sessions.getSession sid = some session)
    (hget' : s'.bus.sessions.getSession sid = some session')
    (howner : session'.requesterConnId = session.requesterConnId)
    (hputs : s.bus.Puts session.requesterConnId ws message s'.bus) :
    Kept sid execId s' { n with sent := n.sent ++ [message] } := by
  refine ⟨h.raised, fun habsent ↦ ?_, fun session'' hget'' ↦ ?_⟩
  · cases habsent.symm.trans hget'
  · obtain rfl := Option.some.inj (hget'.symm.trans hget'')
    obtain ⟨queued, -, hall, hkept, hrunning⟩ := h.present session hget
    obtain rfl := hall hmissed
    refine ⟨n.sent ++ [message], List.prefix_rfl, fun _ ↦ rfl, ?_⟩
    rw [howner, hputs.waiting, hputs.running]
    cases hrun : s.bus.running session.requesterConnId with
    | false =>
        rw [if_neg Bool.false_ne_true, List.filter_nil, List.append_nil]
        refine ⟨?_, nofun⟩
        exact ((List.prefix_append _ _).trans hkept).trans (List.prefix_append _ _)
    | true =>
        have heq := hrunning hrun
        rw [if_pos rfl, List.filter_append, List.filter_cons_of_pos hbody, List.filter_nil,
          ← List.append_assoc, heq]
        exact ⟨List.prefix_rfl, fun _ ↦ rfl⟩

/-- What the notes get from a round of a writer. -/
theorem note_write (t : Time) (c : String) (sent : Bool) :
    note sid execId (t, s) (now, (ids, .queueWrite c sent)) n = { n with
      received := n.received ++ s.written ⟨now, ids⟩ sid (·.ofBody sid execId) c sent } := by
  rw [Server.written]
  cases sent with
  | false => simp [note]
  | true =>
      cases hrequester : s.isRequester sid c with
      | false => simp [note, hrequester]
      | true => simp [note, hrequester]

/-- A round of a writer. -/
theorem Kept.write {c : String} {sent : Bool} {fired : Fired} (h : Kept sid execId s n)
    (hs : s.bus.Sound) (hfire : s.fire ⟨now, ids⟩ (.queueWrite c sent) = some fired) (t : Time) :
    Kept sid execId fired.server (note sid execId (t, s) (now, (ids, .queueWrite c sent)) n) := by
  obtain ⟨hsessions, -⟩ := Server.fire_queueWrite hs hfire
  rw [note_write t]
  refine ⟨h.raised, fun habsent ↦ ?_, fun session hget ↦ ?_⟩
  · rw [hsessions] at habsent
    obtain ⟨hsent, hmissed, hreceived, hnothing⟩ := h.absent habsent
    rw [Server.written_of_none habsent, List.append_nil]
    exact ⟨hsent, hmissed, hreceived, Server.waiting_filter_nil hs hfire hnothing⟩
  · rw [hsessions] at hget
    obtain ⟨queued, hqueued, hmissed, hkept, hrunning⟩ := h.present session hget
    obtain ⟨hfront, hall⟩ := Server.written_prefix hs hfire hget (·.ofBody sid execId)
    refine ⟨queued, hqueued, hmissed, ?_⟩
    rw [List.append_assoc]
    refine ⟨((List.prefix_append_right_inj _).mpr hfront).trans hkept, fun hrun ↦ ?_⟩
    obtain ⟨hrun', heq⟩ := hall hrun
    rw [heq]
    exact hrunning hrun'

/-- A stream message about the execution is one of its body, or the start of it. -/
theorem ofBody_eq {envelope : MessageEnvelope} (h : s.streams sid execId envelope = true) :
    envelope.ofBody sid execId = envelope.messageType.isBody ∧
      ∃ session, s.bus.sessions.getSession sid = some session := by
  rw [Server.streams, Bool.and_eq_true, Bool.and_eq_true] at h
  obtain ⟨⟨-, habout⟩, hprovider⟩ := h
  obtain ⟨session, hget, -⟩ := (Option.any_eq_true _ _).mp hprovider
  exact ⟨by rw [Message.ofBody, habout, Bool.and_true], session, hget⟩

/-- What the notes get from a stream message. -/
theorem note_message {c : String} {envelope : MessageEnvelope} {fired : Fired} (t : Time)
    (hfire : s.fire ⟨now, ids⟩ (.message c envelope) = some fired) :
    note sid execId (t, s) (now, (ids, .message c envelope)) n =
      if s.streams sid execId envelope then { n with
        sent := if envelope.messageType.isBody then n.sent ++ [envelope.toMessage] else n.sent
        missed := n.missed || envelope.messageType.isBody && !s.bus.takes ⟨now, ids⟩ envelope
        raised := n.raised || decide (fired.error = some .queueFullError) }
      else n := by
  dsimp only [note]
  rw [hfire, Option.any_some]

/-- A stream message of a provider. -/
theorem Kept.message {c : String} {envelope : MessageEnvelope} {fired : Fired} (t : Time)
    (h : Kept sid execId s n) (hs : s.bus.Sound)
    (hstep : Server.Steps now s (ids, .message c envelope) fired.server)
    (hfire : s.fire ⟨now, ids⟩ (.message c envelope) = some fired)
    (hstream : envelope.messageType.isStream = true)
    (hsteady : Steady sid execId ((t, s), n) (now, (ids, .message c envelope))) :
    Kept sid execId fired.server (note sid execId (t, s) (now, (ids, .message c envelope)) n) := by
  rw [note_message t hfire]
  rcases Server.fire_stream hs hfire hstream with
    ⟨htakes, hsame, hraise⟩ | ⟨htakes, hnone, sid₀, session₀, ws, hnamed, hget₀, hsender, hputs⟩
  · -- the message finds no room
    have hquiet := h.quiet hstep hsame
    cases hstreams : s.streams sid execId envelope with
    | false =>
        rw [if_neg Bool.false_ne_true]
        exact hquiet
    | true =>
        have hraised : decide (fired.error = some .queueFullError) = false := by
          refine decide_eq_false fun hfull ↦ ?_
          obtain ⟨hchunk, hmeets⟩ := hraise hfull
          cases ((hsteady envelope rfl hstreams).1 hchunk).symm.trans hmeets
        rw [if_pos rfl, hraised, htakes, Bool.or_false, Bool.not_false, Bool.and_true]
        cases hbody : envelope.messageType.isBody with
        | false =>
            rw [if_neg Bool.false_ne_true, Bool.or_false]
            exact hquiet
        | true =>
            rw [if_pos rfl, Bool.or_true]
            obtain ⟨-, session, hget⟩ := ofBody_eq hstreams
            obtain ⟨session', hget', -⟩ := hstep.sessionStep.kept sid session hget
            exact hquiet.miss hget' envelope.toMessage
  · -- the message is queued
    have hraised : decide (fired.error = some .queueFullError) = false := by
      rw [hnone]
      rfl
    rw [hraised, htakes, Bool.or_false, Bool.not_true, Bool.and_false, Bool.or_false]
    cases hbody : envelope.ofBody sid execId with
    | true =>
        have hof := hbody
        rw [Message.ofBody, Message.about, Bool.and_eq_true, Bool.and_eq_true,
          decide_eq_true_eq, hnamed] at hof
        obtain ⟨htype, hsid, hexec⟩ := hof
        obtain rfl := Option.some.inj hsid
        have hstreams : s.streams sid₀ execId envelope = true := by
          rw [Server.streams, hstream, Message.about, hnamed, hexec, hget₀, Option.any_some,
            ← hsender]
          simp
        obtain ⟨session', hget', heffect⟩ := hstep.sessionStep.kept sid₀ session₀ hget₀
        rw [hstreams, if_pos rfl, htype, if_pos rfl]
        exact h.put ((hsteady envelope rfl hstreams).2 htype htakes) hbody hget₀ hget'
          (Server.sameOwner_of_effect heffect).requesterConnId hputs
    | false =>
        have hframe := h.frame hstep (fun c' ↦ (hputs.frame hbody c').1)
          fun c' ↦ (hputs.frame hbody c').2
        cases hstreams : s.streams sid execId envelope with
        | false =>
            rw [if_neg Bool.false_ne_true]
            exact hframe
        | true =>
            rw [if_pos rfl, ← (ofBody_eq hstreams).1, hbody, if_neg Bool.false_ne_true]
            exact hframe

/-- One step. -/
theorem Kept.step {x y : (Time × Server) × StreamNotes} {a : Server.Label}
    (h : Kept sid execId x.1.2 x.2) (hs : x.1.2.bus.Sound) (hsteady : Steady sid execId x a)
    (hstep : Steps sid execId x a y) : Kept sid execId y.1.2 y.2 := by
  obtain ⟨⟨t, s⟩, n⟩ := x
  obtain ⟨⟨t', s'⟩, n'⟩ := y
  obtain ⟨now, ids, a⟩ := a
  obtain ⟨⟨-, -, hsteps⟩, hnote⟩ := hstep
  dsimp only at h hs hsteps hnote ⊢
  subst hnote
  have hfires := hsteps
  obtain ⟨-, fired, hfire, rfl⟩ := hfires
  by_cases hwrite : ∃ c sent, a = .queueWrite c sent
  · obtain ⟨c, sent, rfl⟩ := hwrite
    exact h.write hs hfire t
  by_cases hmessage : ∃ c envelope, a = .message c envelope ∧ envelope.messageType.isStream = true
  · obtain ⟨c, envelope, rfl, hstream⟩ := hmessage
    exact h.message t hs hsteps hfire hstream hsteady
  have hqueues : fired.server.bus.queues = s.bus.queues := by
    refine Server.fire_queues hfire (fun c sent heq ↦ hwrite ⟨c, sent, heq⟩) ?_
    intro c envelope heq
    by_contra hstream
    exact hmessage ⟨c, envelope, heq, Bool.not_eq_false _ ▸ hstream⟩
  have hnote : note sid execId (t, s) (now, (ids, a)) n = n := by
    cases a with
    | queueWrite c sent => exact absurd ⟨c, sent, rfl⟩ hwrite
    | message c envelope =>
        have hstreams : s.streams sid execId envelope = false := by
          by_contra hne
          rw [Bool.not_eq_false, Server.streams, Bool.and_eq_true, Bool.and_eq_true] at hne
          exact hmessage ⟨c, envelope, rfl, hne.1.1⟩
        dsimp only [note]
        rw [hstreams, if_neg Bool.false_ne_true]
    | _ => rfl
  rw [hnote]
  exact h.quiet hsteps hqueues

/-- In every run of the bus, whatever the capacity of the queues and whenever the writers
run, in which the start and the end of a stream do not find a full queue and no chunk
and no end finds room after one that did not: what the requester gets of the chunks,
and of the chunks and the end, is a prefix of what the provider sends, and no full
queue has been raised as an exception. -/
theorem stream_prefix {library : Library} {settings : Server.Settings} {t₀ : Time}
    {as : List Server.Label} {y : (Time × Server) × StreamNotes}
    (hrun : Run (Step.Only (Steady sid execId) (Steps sid execId))
      ((t₀, Server.start library settings), {}) as y) :
    y.2.received <+: y.2.sent ∧
      y.2.received.filter (·.messageType = .execStreamChunk)
        <+: y.2.sent.filter (·.messageType = .execStreamChunk) ∧
      y.2.raised = false := by
  have hkept : y.1.2.bus.Sound ∧ Kept sid execId y.1.2 y.2 := by
    refine Run.invariant (P := fun x : (Time × Server) × StreamNotes ↦
      x.1.2.bus.Sound ∧ Kept sid execId x.1.2 x.2) ?_ hrun
      ⟨Server.sound_start library settings, .start library settings⟩
    rintro x a y ⟨hs, h⟩ ⟨hsteady, hstep⟩
    exact ⟨Server.sound_step hs hstep.1.2.2, h.step hs hsteady hstep⟩
  have hfront : y.2.received <+: y.2.sent := by
    cases hget : y.1.2.bus.sessions.getSession sid with
    | none =>
        obtain ⟨-, -, hreceived, -⟩ := hkept.2.absent hget
        rw [hreceived]
        exact List.nil_prefix
    | some session =>
        obtain ⟨queued, hqueued, -, hreceived, -⟩ := hkept.2.present session hget
        exact ((List.prefix_append _ _).trans hreceived).trans hqueued
  exact ⟨hfront, hfront.filter _, hkept.2.raised⟩

/-- A stream message in the agreed session of the small negotiation. -/
def sampleStream (now : Time) (type : MessageType) (seq : Int) : Time × UUID × Action :=
  Server.sampleReport now type [("exec_id", .str "e"), ("seq", .int seq)]

def sampleWrite (now : Time) : Time × UUID × Action :=
  (now, ⟨90⟩, .queueWrite Server.requesterConn true)

/-- A stream in the small negotiation, where outbound queues have the given capacity. -/
def samplePlay (maxQueueSize : Nat) (stream : List (Time × UUID × Action)) :
    (Time × Server) × StreamNotes :=
  Server.playNotes (note ⟨100⟩ "e")
    ((0, Server.start Server.sampleLibrary { maxQueueSize := maxQueueSize }), {})
    (Server.sampleNegotiation ++ [Server.sampleAgree 300000] ++ stream)

/-- A stream whose requester keeps up. -/
theorem stream_prefix_sample :
    let y := samplePlay 2 [sampleStream 400000 .execStreamStart 0,
      sampleStream 400001 .execStreamChunk 1, sampleWrite 400002, sampleWrite 400003,
      sampleStream 400004 .execStreamChunk 2, sampleStream 400005 .execStreamEnd 3,
      sampleWrite 400006]
    y.2.received <+: y.2.sent ∧ y.2.raised = false := by
  intro y
  have hrun : Run (Step.Only (Steady ⟨100⟩ "e") (Steps ⟨100⟩ "e")) _ _ y :=
    Server.run_playNotes (by decide +kernel)
  obtain ⟨hfront, -, hraised⟩ := stream_prefix hrun
  exact ⟨hfront, hraised⟩

/-- Of three chunks the second one finds the queue full, and the third one gets through;
and the start of a stream that finds the queue full is an exception. -/
theorem stream_gap :
    ¬ (∀ settings as y, Run (Steps ⟨100⟩ "e")
        ((0, Server.start Server.sampleLibrary settings), {}) as y → y.2.received <+: y.2.sent) ∧
      ¬ ∀ settings as y, Run (Steps ⟨100⟩ "e")
        ((0, Server.start Server.sampleLibrary settings), {}) as y → y.2.raised = false := by
  constructor
  · intro hall
    let y := samplePlay 1 [sampleStream 400001 .execStreamChunk 1,
      sampleStream 400002 .execStreamChunk 2, sampleWrite 400003,
      sampleStream 400004 .execStreamChunk 3, sampleWrite 400005]
    have hrun : Run (Step.Only (fun _ _ ↦ True) (Steps ⟨100⟩ "e")) _ _ y :=
      Server.run_playNotes (by decide +kernel)
    let seq := fun message : Message ↦ (JsonObj.get message.payload "seq").num?
    have hsent : y.2.sent.map seq = [some 1, some 2, some 3] := by decide +kernel
    have hreceived : y.2.received.map seq = [some 1, some 3] := by decide +kernel
    have hfront := (hall _ _ y hrun.of_only).map seq
    rw [hsent, hreceived] at hfront
    exact absurd hfront (by decide)
  · intro hall
    let y := samplePlay 1 [sampleStream 400001 .execStreamChunk 1,
      sampleStream 400002 .execStreamStart 2]
    have hrun : Run (Step.Only (fun _ _ ↦ True) (Steps ⟨100⟩ "e")) _ _ y :=
      Server.run_playNotes (by decide +kernel)
    have hraised : y.2.raised = true := by decide +kernel
    cases (hall _ _ y hrun.of_only).symm.trans hraised

end StreamNotes

end SemanticBus
