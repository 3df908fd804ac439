import Mathlib.Data.List.ReduceOption
import SemanticBus.Transport.Provider

/-!
# What waits for a requester

`Bus.waiting` is what the writer of a connection still has to write.  Stream
messages of a provider add to it at the end, the writer takes from the front,
and nothing else touches the outbound queues (`fire_queues`).
-/

namespace SemanticBus

namespace ConnectionQueue

/-- What the writer still has to write; nothing, once it has ended. -/
def waiting (q : ConnectionQueue) : List Message := if q.writing then q.items.reduceOption else []

def put (q : ConnectionQueue) (message : Message) : ConnectionQueue :=
  { q with items := q.items ++ [some message] }

theorem waiting_put (q : ConnectionQueue) (message : Message) :
    (q.put message).waiting = if q.writing then q.waiting ++ [message] else [] := by
  unfold waiting put
  dsimp only
  split
  · simp [List.reduceOption_append]
  · rfl

/-- A round of the writer: what it writes and what is then left to write were to be written
before, all of it unless the writer has ended. -/
theorem write_prefix {q : ConnectionQueue} (hopen : q.closed = false) (sent : Bool) :
    let got := if sent then (q.write sent).2.map Prod.snd else []
    got ++ (q.write sent).1.waiting <+: q.waiting ∧ ((q.write sent).1.writing = true →
      q.writing = true ∧ got ++ (q.write sent).1.waiting = q.waiting) := by
  unfold write
  rw [hopen, Bool.false_or]
  cases hwriting : q.writing with
  | false =>
      refine ⟨?_, nofun⟩
      cases sent
      all_goals exact List.nil_prefix
  | true =>
      rw [Bool.not_true, if_neg Bool.false_ne_true]
      cases hitems : q.items with
      | nil =>
          cases sent
          all_goals exact ⟨List.prefix_rfl, fun _ ↦ ⟨rfl, rfl⟩⟩
      | cons item items =>
          cases item with
          | none =>
              refine ⟨?_, nofun⟩
              cases sent
              all_goals exact List.nil_prefix
          | some message =>
              have hwaiting : q.waiting = message :: items.reduceOption := by
                rw [waiting, hwriting, if_pos rfl, hitems, List.reduceOption_cons_of_some]
              rw [hwaiting]
              cases sent with
              | false => exact ⟨List.nil_prefix, nofun⟩
              | true => exact ⟨List.prefix_rfl, fun _ ↦ ⟨rfl, rfl⟩⟩

end ConnectionQueue

namespace Bus

variable {b b' : Bus} {env : Env} {websocket : Nat} {connId : String} {envelope : MessageEnvelope}
  {message : Message}

/-- What the writer of a connection still has to write. -/
def waiting (b : Bus) (connId : String) : List Message :=
  (b.queues.queues.get? connId).elim [] ConnectionQueue.waiting

/-- The writer of a connection has not ended. -/
def running (b : Bus) (connId : String) : Bool :=
  (b.queues.queues.get? connId).all ConnectionQueue.writing

theorem waiting_eq {q : ConnectionQueue} (h : b.queues.queues.get? connId = some q) :
    b.waiting connId = q.waiting := by
  rw [waiting, h, Option.elim_some]

theorem running_eq {q : ConnectionQueue} (h : b.queues.queues.get? connId = some q) :
    b.running connId = q.writing := by
  rw [running, h, Option.all_some]

/-- Queues that stay have the same messages to write. -/
theorem waiting_congr (h : b'.queues.queues.get? connId = b.queues.queues.get? connId) :
    b'.waiting connId = b.waiting connId ∧ b'.running connId = b.running connId := by
  unfold waiting running
  rw [h]
  exact ⟨rfl, rfl⟩

/-- Nothing is left to write to a writer that has ended. -/
theorem waiting_of_running (h : b.running connId = false) : b.waiting connId = [] := by
  unfold waiting running at *
  cases hq : b.queues.queues.get? connId with
  | none => rfl
  | some q =>
      rw [hq, Option.all_some] at h
      rw [Option.elim_some, ConnectionQueue.waiting, h]
      rfl

theorem Puts.running (h : b.Puts connId websocket message b') :
    b'.running connId = b.running connId := by
  unfold Bus.running
  rw [h.self, queueOf]
  cases b.queues.queues.get? connId with
  | none => rfl
  | some q => rfl

/-- What is queued is to be written last, unless the writer has ended. -/
theorem Puts.waiting (h : b.Puts connId websocket message b') :
    b'.waiting connId = if b.running connId then b.waiting connId ++ [message] else [] := by
  unfold Bus.running Bus.waiting
  rw [h.self, queueOf]
  cases b.queues.queues.get? connId with
  | none => rfl
  | some q => exact q.waiting_put message

/-- Queueing a message changes nothing for a part of the messages that it does not
belong to. -/
theorem Puts.frame {p : Message → Bool} (h : b.Puts connId websocket message b')
    (hp : p message = false) (c : String) :
    (b'.waiting c).filter p = (b.waiting c).filter p ∧ b'.running c = b.running c := by
  by_cases hc : c = connId
  · subst hc
    rw [h.waiting, h.running]
    refine ⟨?_, rfl⟩
    cases hrun : b.running c with
    | false =>
        rw [waiting_of_running hrun]
        rfl
    | true =>
        rw [if_pos rfl, List.filter_append, List.filter_cons_of_neg (by simp [hp]), List.filter_nil,
          List.append_nil]
  · obtain ⟨hwaiting, hrunning⟩ := waiting_congr (h.other c hc)
    exact ⟨by rw [hwaiting], hrunning⟩

theorem execIdOf_error {value : Json} {e : PyError} (h : TraceEvent.execIdOf value = .error e) :
    e = .validationError := by
  unfold TraceEvent.execIdOf at h
  split at h
  · cases h
  · cases h
  · exact (Except.error.inj h).symm

/-- The connection of the requester that a stream message is for, when the message gets
as far as its queue. -/
def outlet (b : Bus) (env : Env) (envelope : MessageEnvelope) : Option String :=
  (b.providerSession env envelope).bind fun (_, session) ↦
    if (TraceEvent.execIdOf (JsonObj.getD envelope.payload "exec_id" (.str ""))).toOption.isSome &&
        (b.registry.getWebsocket session.requesterConnId).isSome then some session.requesterConnId
    else none

/-- A stream message finds room. -/
def takes (b : Bus) (env : Env) (envelope : MessageEnvelope) : Bool :=
  (b.outlet env envelope).any fun c ↦ !b.queueFull c

/-- A stream message finds a full queue. -/
def meetsFull (b : Bus) (env : Env) (envelope : MessageEnvelope) : Bool :=
  (b.outlet env envelope).any b.queueFull

/-- What a stream message does to the queues: nothing, when it does not find room, and
then it fails only as the start or the end of a stream; or it is queued for the
requester of the session that it names. -/
theorem handleMessage_stream (hopen : b.queues.Open)
    (hstream : envelope.messageType.isStream = true) :
    let o := b.handleMessage env websocket connId envelope
    b.takes env envelope = false ∧ o.bus.queues = b.queues ∧
        (o.error = some .queueFullError →
          envelope.messageType ≠ .execStreamChunk ∧ b.meetsFull env envelope = true) ∨
      b.takes env envelope = true ∧ o.error = none ∧ ∃ sid session ws,
        envelope.ephemeralInterfaceId = some sid ∧ b.sessions.getSession sid = some session ∧
        some envelope.senderId = session.providerAgentId ∧
        b.Puts session.requesterConnId ws envelope.toMessage o.bus := by
  have heffect : ProviderEffect b env websocket envelope
    (b.handleMessage env websocket connId envelope) := handleMessage_provider hopen (.inr hstream)
  dsimp only
  generalize b.handleMessage env websocket connId envelope = o at heffect
  unfold takes meetsFull outlet
  cases heffect with
  | refused hprovider hbus _ herror =>
      rw [hprovider, hbus, herror]
      exact .inl ⟨rfl, rfl, nofun⟩
  | direct _ htype _ _ _ =>
      cases (MessageType.isStream_of_isDirect htype).symm.trans hstream
  | stream hprovider _ _ hstream =>
      rw [hprovider, Option.bind_some]
      dsimp only
      cases hstream with
      | invalid hid hqueues _ herror =>
          rw [hid, herror]
          refine .inl ⟨rfl, hqueues, fun hfull ↦ ?_⟩
          obtain rfl := Option.some.inj hfull
          cases execIdOf_error hid
      | offline hid hws hqueues _ herror =>
          rw [hid, hws, herror]
          exact .inl ⟨rfl, hqueues, nofun⟩
      | backpressure hid hws hfull _ hqueues _ _ herror =>
          rw [hid, hws, herror]
          refine .inl ⟨?_, hqueues, nofun⟩
          simp [Except.toOption, hfull]
      | overflow hid hws hfull htype hqueues _ _ =>
          rw [hid, hws]
          refine .inl ⟨?_, hqueues, fun _ ↦ ⟨htype, ?_⟩⟩
          · simp [Except.toOption, hfull]
          · simp [Except.toOption, hfull]
      | put hid hws hroom hputs _ herror =>
          rw [hid, hws]
          obtain ⟨hnamed, hvalid, hsender⟩ := providerSession_some hprovider
          refine .inr ⟨?_, herror, _, _, _, hnamed, (SessionManager.validate_ok hvalid).1, hsender,
            hputs⟩
          simp [Except.toOption, hroom]

/-- Messages that are no stream messages leave the queues alone. -/
theorem handleMessage_queues (hstream : envelope.messageType.isStream = false) :
    (b.handleMessage env websocket connId envelope).bus.queues = b.queues := by
  apply handleMessage_untouched.queues
  all_goals
    intro htype
    rw [htype] at hstream
    cases hstream

theorem handleRegister_queues :
    (b.handleRegister env websocket envelope).1.bus.queues = b.queues := by
  unfold handleRegister
  dsimp only
  split
  · rfl
  · rfl

end Bus

def Action.envelope? : Action → Option MessageEnvelope
  | .message _ envelope => some envelope
  | _ => none

namespace Server

def sendsOf (s : Server) (env : Env) (a : Action) : List Message :=
  (s.fire env a).elim [] fun fired ↦ fired.sends.map Prod.snd

def isRequester (s : Server) (sid : UUID) (connId : String) : Bool :=
  (s.bus.sessions.getSession sid).any (·.requesterConnId = connId)

variable {s : Server} {env : Env} {a : Action} {c : String} {conn : Connection} {o : Outcome}
  {envelope : MessageEnvelope} {fired : Fired} {sent : Bool}

/-- The end of a connection leaves sessions and queues alone. -/
theorem resume_frame : (s.resume c conn o).sends = o.sends ∧
    (s.resume c conn o).error = o.error ∧
    (s.resume c conn o).server.bus.sessions = o.bus.sessions ∧
    (s.resume c conn o).server.bus.queues = o.bus.queues := by
  unfold resume
  split
  · rename_i herror
    exact ⟨rfl, herror.symm, rfl, rfl⟩
  · rename_i herror
    exact ⟨rfl, herror.symm, rfl, rfl⟩

/-- What a message of a connection does. -/
theorem fire_message (h : s.fire env (.message c envelope) = some fired) : ∃ conn,
    s.connections.get? c = some conn ∧
      fired = s.resume c conn (s.bus.handleMessage env conn.websocket c envelope) := by
  obtain ⟨⟨_, conn, o⟩, houtcome, rfl⟩ := Option.map_eq_some_iff.mp h
  cases handles_of_outcome houtcome with
  | message _ hget _ => exact ⟨conn, hget, rfl⟩

/-- What a stream message of a connection does to the queues. -/
theorem fire_stream (hs : s.bus.Sound) (h : s.fire env (.message c envelope) = some fired)
    (hstream : envelope.messageType.isStream = true) :
    s.bus.takes env envelope = false ∧ fired.server.bus.queues = s.bus.queues ∧
        (fired.error = some .queueFullError →
          envelope.messageType ≠ .execStreamChunk ∧ s.bus.meetsFull env envelope = true) ∨
      s.bus.takes env envelope = true ∧ fired.error = none ∧ ∃ sid session ws,
        envelope.ephemeralInterfaceId = some sid ∧ s.bus.sessions.getSession sid = some session ∧
        some envelope.senderId = session.providerAgentId ∧
        s.bus.Puts session.requesterConnId ws envelope.toMessage fired.server.bus := by
  obtain ⟨conn, -, rfl⟩ := fire_message h
  obtain ⟨-, herror, -, hqueues⟩ := @resume_frame s c conn
    (s.bus.handleMessage env conn.websocket c envelope)
  have hcases := @Bus.handleMessage_stream s.bus env conn.websocket c envelope hs.queues hstream
  dsimp only at hcases
  rw [← herror, ← hqueues] at hcases
  rcases hcases with hfull | ⟨htakes, hnone, sid, session, ws, hnamed, hget, hsender, hputs⟩
  · exact .inl hfull
  · refine .inr ⟨htakes, hnone, sid, session, ws, hnamed, hget, hsender, ?_, fun c' hc' ↦ ?_⟩
    · rw [hqueues]
      exact hputs.self
    · rw [hqueues]
      exact hputs.other c' hc'

/-- What a round of a writer does. -/
theorem fire_queueWrite (hs : s.bus.Sound) (h : s.fire env (.queueWrite c sent) = some fired) :
    fired.server.bus.sessions = s.bus.sessions ∧
      (∀ c', c' ≠ c → fired.server.bus.waiting c' = s.bus.waiting c' ∧
        fired.server.bus.running c' = s.bus.running c') ∧
      let got := if sent then fired.sends.map Prod.snd else []
      got ++ fired.server.bus.waiting c <+: s.bus.waiting c ∧
        (fired.server.bus.running c = true →
          s.bus.running c = true ∧ got ++ fired.server.bus.waiting c = s.bus.waiting c) := by
  obtain ⟨q, hq, rfl⟩ := Option.map_eq_some_iff.mp h
  have hself : (s.bus.queues.setQueue c (q.write sent).1).queues.get? c
      = some (q.write sent).1 := Dict.get?_insert_self _ _ _
  refine ⟨rfl, fun c' hc' ↦ Bus.waiting_congr ?_, ?_⟩
  · exact (Dict.get?_insert _ _ _ _).trans (if_neg hc')
  · rw [Bus.waiting_eq hq, Bus.running_eq hq, Bus.waiting_eq hself, Bus.running_eq hself]
    exact q.write_prefix (hs.queues c q hq) sent

/-- What a round of a writer sends to the requester of a session, of the messages `p`. -/
def written (s : Server) (env : Env) (sid : UUID) (p : Message → Bool) (c : String) (sent : Bool) :
    List Message :=
  if s.isRequester sid c && sent then (s.sendsOf env (.queueWrite c sent)).filter p else []

/-- Nothing is written to the requester of a session that is not there. -/
theorem written_of_none (hnone : s.bus.sessions.getSession sid = none) (p : Message → Bool) :
    s.written env sid p c sent = [] := by
  rw [written, isRequester, hnone]
  rfl

/-- A round of a writer puts nothing into a queue. -/
theorem waiting_filter_nil (hs : s.bus.Sound)
    (h : s.fire env (.queueWrite c sent) = some fired) {p : Message → Bool}
    (hnothing : ∀ c', (s.bus.waiting c').filter p = []) (c' : String) :
    (fired.server.bus.waiting c').filter p = [] := by
  obtain ⟨-, hother, hfront, -⟩ := fire_queueWrite hs h
  by_cases hc : c' = c
  · subst hc
    have hnone := hnothing c'
    rw [List.filter_eq_nil_iff] at hnone ⊢
    intro message hmessage
    exact hnone message (hfront.subset (List.mem_append_right _ hmessage))
  · rw [(hother c' hc).1]
    exact hnothing c'

/-- What a round writes to the requester of a session is the front of what waited for it,
and all that is missing from there as long as the writer goes on. -/
theorem written_prefix (hs : s.bus.Sound) (h : s.fire env (.queueWrite c sent) = some fired)
    (hget : s.bus.sessions.getSession sid = some session) (p : Message → Bool) :
    s.written env sid p c sent ++ (fired.server.bus.waiting session.requesterConnId).filter p
        <+: (s.bus.waiting session.requesterConnId).filter p ∧
      (fired.server.bus.running session.requesterConnId = true →
        s.bus.running session.requesterConnId = true ∧
          s.written env sid p c sent ++ (fired.server.bus.waiting session.requesterConnId).filter p
            = (s.bus.waiting session.requesterConnId).filter p) := by
  obtain ⟨-, hother, hfront, hall⟩ := fire_queueWrite hs h
  have hrequester : s.isRequester sid c = decide (session.requesterConnId = c) := by
    rw [isRequester, hget]
    rfl
  by_cases hc : session.requesterConnId = c
  · have hwritten : s.written env sid p c sent
        = (if sent then fired.sends.map Prod.snd else []).filter p := by
      rw [written, hrequester, decide_eq_true hc, Bool.true_and, sendsOf, h, Option.elim_some]
      cases sent with
      | false => rfl
      | true => rfl
    subst hc
    rw [hwritten, ← List.filter_append]
    refine ⟨hfront.filter _, fun hrun ↦ ?_⟩
    obtain ⟨hrun', heq⟩ := hall hrun
    rw [heq]
    exact ⟨hrun', rfl⟩
  · have hwritten : s.written env sid p c sent = [] := by
      rw [written, hrequester, decide_eq_false hc]
      rfl
    rw [hwritten, List.nil_append, (hother _ hc).1, (hother _ hc).2]
    exact ⟨List.prefix_rfl, fun hrun ↦ ⟨hrun, rfl⟩⟩

/-- Only stream messages and writers touch the outbound queues. -/
theorem fire_queues (h : s.fire env a = some fired)
    (hwrite : ∀ c sent, a ≠ .queueWrite c sent)
    (hmessage : ∀ c envelope, a = .message c envelope → envelope.messageType.isStream = false) :
    fired.server.bus.queues = s.bus.queues := by
  unfold fire at h
  split at h
  · unfold connect at h
    split_ifs at h
    · obtain rfl := Option.some.inj h
      rfl
    · obtain rfl := Option.some.inj h
      exact Bus.handleRegister_queues
  · obtain ⟨conn, _, h⟩ := Option.bind_eq_some_iff.mp h
    split_ifs at h
    obtain rfl := Option.some.inj h
    rfl
  · obtain rfl := Option.some.inj h
    rfl
  · obtain rfl := Option.some.inj h
    rfl
  · exact absurd rfl (hwrite _ _)
  · obtain ⟨task, _, h⟩ := Option.bind_eq_some_iff.mp h
    obtain ⟨sub, _, h⟩ := Option.bind_eq_some_iff.mp h
    split at h
    · obtain rfl := Option.some.inj h
      rfl
    · cases h
  · obtain ⟨⟨c, conn, o⟩, houtcome, rfl⟩ := Option.map_eq_some_iff.mp h
    rw [resume_frame.2.2.2]
    cases handles_of_outcome houtcome with
    | message envelope _ _ => exact Bus.handleMessage_queues (hmessage c envelope rfl)
    | answer answer _ _ =>
        unfold Bus.startFlow
        split
        · rfl
        · rfl
    | deliver _ _ =>
        unfold Bus.deliverNext
        split
        · rfl
        · rfl
    | poll _ _ _ =>
        unfold Bus.pollOffers Bus.finishFlow
        dsimp only
        repeat' split
        all_goals rfl

/-- A session that is not there was not there before. -/
theorem Steps.absent_before {s' : Server} {now : Time} {ids : Nat → UUID} {sid : UUID}
    (h : Steps now s (ids, a) s') (habsent : s'.bus.sessions.getSession sid = none) :
    s.bus.sessions.getSession sid = none := by
  cases hget : s.bus.sessions.getSession sid with
  | none => rfl
  | some session =>
      obtain ⟨session', hget', -⟩ := h.sessionStep.kept sid session hget
      cases habsent.symm.trans hget'

/-- A session is new, or had the same requester before. -/
theorem Steps.requester_before {s' : Server} {now : Time} {ids : Nat → UUID} {sid : UUID}
    {session' : Session} (h : Steps now s (ids, a) s')
    (hget' : s'.bus.sessions.getSession sid = some session') :
    s.bus.sessions.getSession sid = none ∨ ∃ session,
      s.bus.sessions.getSession sid = some session ∧
        session'.requesterConnId = session.requesterConnId := by
  cases hget : s.bus.sessions.getSession sid with
  | none => exact .inl rfl
  | some session =>
      obtain ⟨session₁, hget₁, heffect⟩ := h.sessionStep.kept sid session hget
      obtain rfl := Option.some.inj (hget₁.symm.trans hget')
      exact .inr ⟨session, rfl, (sameOwner_of_effect heffect).requesterConnId⟩

/-! ## Playing a script with notes -/

variable {γ : Type*}

/-- The state and the notes that a script leads to. -/
def playNotes (note : Time × Server → Label → γ → γ) :
    (Time × Server) × γ → List (Time × UUID × Action) → (Time × Server) × γ
  | x, [] => x
  | x, (now, id, a) :: script =>
      playNotes note ((now, x.1.2.after now id a), note x.1 (now, (fun _ ↦ id, a)) x.2) script

/-- The script can be played, and its steps are good, by the notes so far. -/
def NotesPlayable (note : Time × Server → Label → γ → γ)
    (Good : (Time × Server) × γ → Label → Prop) :
    (Time × Server) × γ → List (Time × UUID × Action) → Prop
  | _, [] => True
  | x, (now, id, a) :: script =>
      x.1.1 ≤ now ∧ x.1.2.bus.sessions.getSession id = none ∧
        (x.1.2.fire ⟨now, fun _ ↦ id⟩ a).isSome = true ∧ Good x (now, (fun _ ↦ id, a)) ∧
        NotesPlayable note Good
          ((now, x.1.2.after now id a), note x.1 (now, (fun _ ↦ id, a)) x.2) script

instance decidableNotesPlayable (note : Time × Server → Label → γ → γ)
    (Good : (Time × Server) × γ → Label → Prop) [∀ x a, Decidable (Good x a)] :
    ∀ x script, Decidable (NotesPlayable note Good x script)
  | _, [] => isTrue trivial
  | x, (now, id, a) :: script =>
      have := decidableNotesPlayable note Good
        ((now, x.1.2.after now id a), note x.1 (now, (fun _ ↦ id, a)) x.2) script
      inferInstanceAs (Decidable (x.1.1 ≤ now ∧ x.1.2.bus.sessions.getSession id = none ∧
        (x.1.2.fire ⟨now, fun _ ↦ id⟩ a).isSome = true ∧ Good x (now, (fun _ ↦ id, a)) ∧ _))

/-- Playing a script with notes is a run. -/
theorem run_playNotes {note : Time × Server → Label → γ → γ}
    {Good : (Time × Server) × γ → Label → Prop} {x : (Time × Server) × γ}
    {script : List (Time × UUID × Action)} (h : NotesPlayable note Good x script) :
    Run (Step.Only Good (Step.Noting note (Step.Timed Steps))) x (playLabels script)
      (playNotes note x script) := by
  induction script generalizing x with
  | nil => exact .nil x
  | cons e script ih =>
      obtain ⟨now, id, a⟩ := e
      obtain ⟨hclock, hfresh, hfires, hgood, hrest⟩ := h
      obtain ⟨fired, hfired⟩ := Option.isSome_iff_exists.mp hfires
      have hafter : fired.server = x.1.2.after now id a := by rw [after, hfired, Option.elim_some]
      exact .cons ⟨hgood, ⟨hclock, rfl, fun _ ↦ hfresh, fired, hfired, hafter⟩, rfl⟩ (ih hrest)

end Server

end SemanticBus
