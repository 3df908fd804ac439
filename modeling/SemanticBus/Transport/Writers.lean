import SemanticBus.Transport.Errors
import SemanticBus.Transport.Outbound

/-!
# The lives of the outbound queues

A queue is created when the first stream message for a connection finds it registered,
its writer ends when a send fails, and the connection ends by itself.  `Tied` says that
the three go together: what is queued is queued for a registered connection whose writer
runs, a queue whose writer has ended takes nothing more, and a connection that has ended
has no queue.

Nothing in the bus removes a queue or closes one, so runs stay tied exactly as long as
no send fails and no connection that has a queue ends (`tied_iff`).
-/

namespace SemanticBus

namespace ConnectionQueue

/-- The queue takes no message. -/
def Refuses (q : ConnectionQueue) : Prop := ∀ message, ∃ e, q.putNowait message = .error e

/-- A queue holds messages only, and not more than fit. -/
structure Filled (q : ConnectionQueue) : Prop where
  messages : none ∉ q.items
  fits : q.maxSize = 0 ∨ q.items.length ≤ q.maxSize

variable {q : ConnectionQueue} {message : Message}

/-- An open queue refuses messages exactly when it is full. -/
theorem refuses_iff (hopen : q.closed = false) : q.Refuses ↔ q.isFull = true := by
  constructor
  · intro h
    obtain ⟨e, he⟩ := h ⟨.error, ⟨0⟩, "", none, none, none, [], none, []⟩
    rw [ConnectionQueueManager.putNowait_eq hopen] at he
    split at he
    · assumption
    · cases he
  · intro hfull message
    rw [ConnectionQueueManager.putNowait_eq hopen, if_pos hfull]
    exact ⟨_, rfl⟩

theorem Filled.put (h : q.Filled) (hroom : q.isFull = false) : (q.put message).Filled where
  messages hnone := by
    rcases List.mem_append.mp hnone with hnone | hnone
    · exact h.messages hnone
    · cases List.mem_singleton.mp hnone
  fits := by
    simp only [isFull, Bool.and_eq_false_iff, decide_eq_false_iff_not, not_not, not_le] at hroom
    rcases hroom with hbound | hlt
    · exact .inl hbound
    · refine .inr ?_
      rw [ConnectionQueue.put, List.length_append, List.length_singleton]
      exact hlt

/-- A round of the writer takes at most the oldest message; only a send that fails ends it. -/
theorem write_cases (h : q.Filled) (hopen : q.closed = false) (sent : Bool) :
    (q.write sent).1 = q ∧ (sent = true ∨ q.writing = false ∨ q.items = []) ∨
      ∃ message items, q.writing = true ∧ q.items = some message :: items ∧
        (q.write sent).1 = { q with items := items, writing := sent } := by
  unfold write
  rw [show (q.closed || !q.writing) = !q.writing by rw [hopen, Bool.false_or]]
  cases hwriting : q.writing with
  | false =>
      refine .inl ⟨?_, .inr (.inl rfl)⟩
      rw [Bool.not_false, if_pos rfl]
      show { q with writing := false } = q
      rw [← hwriting]
  | true =>
      rw [Bool.not_true, if_neg Bool.false_ne_true]
      cases hitems : q.items with
      | nil => exact .inl ⟨rfl, .inr (.inr rfl)⟩
      | cons item items =>
          cases item with
          | none => exact absurd (hitems ▸ List.mem_cons_self) h.messages
          | some message => exact .inr ⟨message, items, rfl, rfl, rfl⟩

/-- A round of the writer whose send does not fail goes on or stays ended, and adds nothing. -/
theorem write_keeps (h : q.Filled) (hopen : q.closed = false) {sent : Bool}
    (hsends : sent = false → q.writing = true → q.items = []) :
    (q.write sent).1.writing = q.writing ∧ (q.write sent).1.items.length ≤ q.items.length ∧
      (q.writing = false → (q.write sent).1 = q) := by
  rcases write_cases h hopen sent with ⟨hsame, -⟩ | ⟨message, items, hwriting, hitems, hwrite⟩
  · rw [hsame]
    exact ⟨rfl, le_rfl, fun _ ↦ rfl⟩
  · cases sent with
    | true =>
        rw [hwrite, hwriting, hitems]
        exact ⟨rfl, Nat.le_succ _, fun h ↦ by cases h⟩
    | false =>
        rw [hsends rfl hwriting] at hitems
        cases hitems

theorem Filled.write (h : q.Filled) (hopen : q.closed = false) (sent : Bool) :
    (q.write sent).1.Filled := by
  rcases write_cases h hopen sent with ⟨hsame, -⟩ | ⟨message, items, -, hitems, hwrite⟩
  · rw [hsame]
    exact h
  · rw [hwrite]
    obtain ⟨hmessages, hfits⟩ := h
    rw [hitems] at hmessages hfits
    refine ⟨fun hnone ↦ hmessages (List.mem_cons_of_mem _ hnone), hfits.imp_right fun hle ↦ ?_⟩
    exact (Nat.le_succ _).trans hle

/-- There is room where a message was taken out. -/
theorem Filled.room {items : List (Option Message)} (h : q.Filled)
    (hitems : q.items = some message :: items) (writing : Bool) :
    isFull { q with items := items, writing := writing } = false := by
  have hfits := h.fits
  rw [hitems, List.length_cons] at hfits
  simp only [isFull, Bool.and_eq_false_iff, decide_eq_false_iff_not, not_not, not_le]
  exact hfits.imp_right Nat.lt_of_succ_le

end ConnectionQueue

namespace Bus

/-- The messages in the outbound queue of a connection. -/
def depth (b : Bus) (connId : String) : Nat :=
  (b.queues.queues.get? connId).elim 0 (·.items.length)

/-- The connections on whose queues messages were accepted. -/
def accepted (b b' : Bus) : List String :=
  b'.queues.queues.keys.filter fun c ↦ b.depth c < b'.depth c

variable {b b' : Bus} {env : Env} {websocket : Nat} {connId c : String}
  {envelope : MessageEnvelope} {message : Message}

theorem mem_accepted_iff : c ∈ b.accepted b' ↔ b.depth c < b'.depth c := by
  rw [accepted, List.mem_filter, decide_eq_true_iff, and_iff_right_iff_imp]
  intro hlt
  cases hq : b'.queues.queues.get? c with
  | none =>
      rw [depth, depth, hq] at hlt
      exact absurd hlt (Nat.not_lt_zero _)
  | some q => exact Dict.mem_keys_iff.mpr ⟨q, hq⟩

theorem depth_congr (h : b'.queues.queues.get? c = b.queues.queues.get? c) :
    b'.depth c = b.depth c := by
  rw [depth, depth, h]

theorem Puts.mem_accepted (h : b.Puts connId websocket message b') :
    c ∈ b.accepted b' ↔ c = connId := by
  rw [mem_accepted_iff]
  by_cases hc : c = connId
  · subst hc
    refine iff_of_true ?_ rfl
    rw [depth, depth, h.self, queueOf]
    cases b.queues.queues.get? c with
    | none => exact Nat.zero_lt_one
    | some q =>
        show q.items.length < (q.items ++ [some message]).length
        rw [List.length_append]
        exact Nat.lt_succ_self _
  · refine iff_of_false ?_ hc
    rw [depth_congr (h.other c hc)]
    exact lt_irrefl _

/-- What is put on the queue of a connection is put there for a registered one, whose queue
has room. -/
theorem takes_iff : b.takes env envelope = true ↔
    ∃ c, b.outlet env envelope = some c ∧ b.queueFull c = false := by
  rw [takes, Option.any_eq_true]
  simp

theorem isFull_queueOf (h : b.queueFull c = false) : (b.queueOf c websocket).isFull = false := by
  rw [queueFull] at h
  rw [queueOf]
  cases hq : b.queues.queues.get? c with
  | none => simp [ConnectionQueue.isFull]
  | some q =>
      rw [hq] at h
      exact h

/-- A message for the queue of a requester is no business of the registry. -/
theorem handleMessage_stream_registry (hstream : envelope.messageType.isStream = true) :
    (b.handleMessage env websocket connId envelope).bus.registry = b.registry := by
  have hframe := fun (b : Bus) session message ↦ (sendToRequesterQueued_frame b session message).2
  unfold handleMessage
  cases htype : envelope.messageType with
  | execStreamStart =>
      dsimp only
      unfold handleStreamStart
      split
      · rfl
      · dsimp only
        split
        · rfl
        · exact hframe _ _ _
  | execStreamChunk =>
      dsimp only
      unfold handleStreamChunk
      split
      · rfl
      · rename_i sessionId session _
        dsimp only
        split
        · rfl
        · rename_i tracedId _
          have hsent := hframe (b.record (traceStreamChunk envelope.tenantId sessionId tracedId
            (JsonObj.getD envelope.payload "seq" (.int 0))
            (chunkLen (JsonObj.getD envelope.payload "data" (.str ""))))) session envelope.toMessage
          split
          · rename_i hput
            rw [hput] at hsent
            exact hsent
          · rename_i hput
            rw [hput] at hsent
            exact hsent
          · rename_i hput
            rw [hput] at hsent
            exact hsent
  | execStreamEnd =>
      dsimp only
      unfold handleStreamEnd
      split
      · rfl
      · dsimp only
        split
        · rfl
        · dsimp only
          split
          · exact hframe _ _ _
          · exact hframe _ _ _
  | _ =>
      rw [htype] at hstream
      cases hstream

end Bus

namespace AgentRegistry

variable {r : AgentRegistry} {connId c : String}

theorem getWebsocket_removeAgent (r : AgentRegistry) (connId c : String) :
    (r.removeAgent connId).getWebsocket c = if c = connId then none else r.getWebsocket c := by
  unfold AgentRegistry.removeAgent
  split
  · exact Dict.get?_erase _ _ _
  · exact Dict.get?_erase _ _ _

/-- Who is registered after an agent is removed was registered before. -/
theorem of_removeAgent (h : ((r.removeAgent connId).getWebsocket c).isSome = true) :
    (r.getWebsocket c).isSome = true := by
  rw [getWebsocket_removeAgent] at h
  split at h
  · cases h
  · exact h

theorem of_unregister (hr : r.Coherent)
    (h : ((r.unregister connId).1.getWebsocket c).isSome = true) :
    c ≠ connId ∧ (r.getWebsocket c).isSome = true := by
  unfold unregister at h
  split at h
  · rename_i hnone
    refine ⟨?_, h⟩
    rintro rfl
    obtain ⟨agent, hagent⟩ := (hr.same_keys c).mpr (Option.isSome_iff_exists.mp h)
    cases hnone.symm.trans hagent
  · refine ⟨?_, of_removeAgent h⟩
    rintro rfl
    rw [getWebsocket_removeAgent, if_pos rfl] at h
    cases h

theorem of_cleanupDeadAgents {now : Time}
    (h : ((r.cleanupDeadAgents now).1.getWebsocket c).isSome = true) :
    (r.getWebsocket c).isSome = true := by
  unfold cleanupDeadAgents at h
  generalize r.deadConnIds now = dead at h
  induction dead generalizing r with
  | nil => exact h
  | cons connId dead ih => exact of_removeAgent (ih h)

theorem getWebsocket_heartbeat (r : AgentRegistry) (now : Time) (connId : String) :
    (r.heartbeat now connId).1.getWebsocket c = r.getWebsocket c := by
  unfold heartbeat
  split
  · rfl
  · rfl

/-- A registration adds at most the connection that it returns. -/
theorem of_register {now : Time} {agentId : UUID} {tenantId : String} {websocket : Nat}
    {capabilities tags schemas metadata : Json}
    (h : ((r.register now agentId tenantId websocket capabilities tags schemas
      metadata).1.getWebsocket c).isSome = true) :
    (r.getWebsocket c).isSome = true ∨ ∃ agent, (r.register now agentId tenantId websocket
      capabilities tags schemas metadata).2 = .ok (c, agent) := by
  have hsupersede : ((r.supersede agentId).getWebsocket c).isSome = true →
      (r.getWebsocket c).isSome = true := by
    unfold supersede
    split
    · exact id
    · exact of_removeAgent
  unfold register at h ⊢
  dsimp only at h ⊢
  split at h
  · exact .inl (hsupersede h)
  · rename_i agent hagent
    have hid := (construct_ok hagent).2.2.1
    have hstore : (((r.supersede agentId).store agent websocket).getWebsocket c).isSome = true := by
      split at h
      · exact h
      · exact h
    rw [getWebsocket, store, Dict.get?_insert] at hstore
    split at hstore
    · rename_i hc
      exact .inr ⟨agent, by rw [hc, hid]⟩
    · exact .inl (hsupersede hstore)

end AgentRegistry

namespace Server

variable {s : Server} {env : Env} {a : Action} {c : String} {fired : Fired}

/-- A connection ends: its peer closes it, or an exception escapes its handler. -/
def Ends (s : Server) (env : Env) (a : Action) (c : String) : Prop :=
  (∃ invalid, a = .disconnect c invalid) ∨ a.connId? = some c ∧ ¬ s.Returns env a

/-- What an action does to the outbound queues: nothing, or a message is put on the queue of
a registered connection that has room, or a writer does a round. -/
inductive QueueStep (s : Server) (env : Env) : Action → Fired → Prop
  | same {a : Action} {fired : Fired} : fired.server.bus.queues = s.bus.queues →
      (∀ c, a ≠ .queueWrite c false) → QueueStep s env a fired
  | put {a : Action} {fired : Fired} {c : String} {websocket : Nat} {message : Message} :
      (fired.server.bus.registry.getWebsocket c).isSome = true →
      (s.bus.registry.getWebsocket c).isSome = true → s.bus.queueFull c = false →
      s.bus.Puts c websocket message fired.server.bus → s.Returns env a →
      (∀ c, (∀ invalid, a ≠ .disconnect c invalid) ∧ a ≠ .queueWrite c false) →
      QueueStep s env a fired
  | write {fired : Fired} {c : String} {sent : Bool} {q : ConnectionQueue} :
      s.bus.queues.queues.get? c = some q →
      fired.server.bus.queues = s.bus.queues.setQueue c (q.write sent).1 →
      QueueStep s env (.queueWrite c sent) fired

/-- What holds of every reachable state, as far as the queues need it: who is registered
has an open connection. -/
structure Settled (s : Server) : Prop where
  sound : s.bus.Sound
  agreed : s.AllSessions (·.chosenSchemaId = none)
  linked : ∀ c, (s.bus.registry.getWebsocket c).isSome = true →
    (s.connections.get? c).isSome = true
  filled : ∀ c q, s.bus.queues.queues.get? c = some q → q.Filled

/-- Only handlers raise. -/
theorem fire_raises (h : s.fire env a = some fired) (hraises : ¬ s.Returns env a) :
    ∃ connId conn o, s.Handles env a connId conn o ∧ fired = s.resume connId conn o := by
  have hhandler : (s.outcome env a).map (fun x ↦ s.resume x.1 x.2.1 x.2.2) = some fired := by
    cases a with
    | message connId envelope => exact h
    | deliver connId => exact h
    | disconnect | answer | poll | queueWrite | connect | sessionTick | registryTick
    | deliverEvent => exact absurd trivial hraises
  obtain ⟨⟨connId, conn, o⟩, houtcome, rfl⟩ := Option.map_eq_some_iff.mp hhandler
  exact ⟨connId, conn, o, handles_of_outcome houtcome, rfl⟩

/-- The connections that end are those that are closed or whose handler raises. -/
theorem fire_ends (hs : s.Settled) (h : s.fire env a = some fired)
    (hget : (s.connections.get? c).isSome = true) :
    fired.server.connections.get? c = none ↔ s.Ends env a c := by
  have hquiet : ∀ {a : Action}, (∀ c invalid, a ≠ .disconnect c invalid) → s.Returns env a →
      ¬ s.Ends env a c := by
    rintro a hne hreturns (⟨invalid, rfl⟩ | ⟨-, hraises⟩)
    · exact hne c invalid rfl
    · exact hraises hreturns
  have hopen : s.connections.get? c ≠ none := Option.isSome_iff_ne_none.mp hget
  unfold fire at h
  split at h
  · rename_i websocket envelope
    refine iff_of_false ?_ (hquiet (fun _ _ h ↦ by cases h) trivial)
    unfold connect at h
    split_ifs at h
    · obtain rfl := Option.some.inj h
      exact hopen
    · obtain rfl := Option.some.inj h
      dsimp only
      split
      · exact hopen
      · rw [Dict.get?_insert]
        split
        · exact Option.some_ne_none _
        · exact hopen
  · rename_i connId invalid
    obtain ⟨conn, _, h⟩ := Option.bind_eq_some_iff.mp h
    split_ifs at h
    obtain rfl := Option.some.inj h
    dsimp only
    rw [Dict.get?_erase]
    constructor
    · intro hnone
      split at hnone
      · rename_i hc
        exact .inl ⟨invalid, by rw [hc]⟩
      · exact absurd hnone hopen
    · rintro (⟨_, hdis⟩ | ⟨-, hraises⟩)
      · rw [if_pos (Action.disconnect.inj hdis).1.symm]
      · exact absurd trivial hraises
  · obtain rfl := Option.some.inj h
    exact iff_of_false hopen (hquiet (fun _ _ h ↦ by cases h) trivial)
  · obtain rfl := Option.some.inj h
    exact iff_of_false hopen (hquiet (fun _ _ h ↦ by cases h) trivial)
  · obtain ⟨q, _, rfl⟩ := Option.map_eq_some_iff.mp h
    exact iff_of_false hopen (hquiet (fun _ _ h ↦ by cases h) trivial)
  · obtain ⟨task, _, h⟩ := Option.bind_eq_some_iff.mp h
    obtain ⟨sub, _, h⟩ := Option.bind_eq_some_iff.mp h
    split at h
    · obtain rfl := Option.some.inj h
      exact iff_of_false hopen (hquiet (fun _ _ h ↦ by cases h) trivial)
    · cases h
  · rename_i _ hnot _ _ _ _
    obtain ⟨⟨connId, conn, o⟩, houtcome, rfl⟩ := Option.map_eq_some_iff.mp h
    have hhandles := handles_of_outcome houtcome
    have hreturns := hhandles.returns hs.sound.queues hs.agreed
    show (s.resume connId conn o).server.connections.get? c = none ↔ _
    unfold resume Ends
    rw [hhandles.connId?, ← hreturns]
    split
    · rename_i hnone
      refine iff_of_false ?_ ?_
      · dsimp only
        rw [Dict.get?_insert]
        split
        · exact Option.some_ne_none _
        · exact hopen
      · rintro (⟨invalid, rfl⟩ | ⟨-, hraises⟩)
        · exact hnot c invalid rfl
        · exact hraises hnone
    · rename_i herror
      dsimp only
      rw [Dict.get?_erase, herror]
      constructor
      · intro hnone
        split at hnone
        · rename_i hc
          exact .inr ⟨congrArg some hc.symm, Option.some_ne_none _⟩
        · exact absurd hnone hopen
      · rintro (⟨invalid, rfl⟩ | ⟨hc, -⟩)
        · exact absurd rfl (hnot c invalid)
        · rw [if_pos (Option.some.inj hc).symm]

/-- What an action does to the outbound queues. -/
theorem fire_queueStep (hs : s.Settled) (h : s.fire env a = some fired) :
    s.QueueStep env a fired := by
  by_cases hwrite : ∃ c sent, a = .queueWrite c sent
  · obtain ⟨c, sent, rfl⟩ := hwrite
    obtain ⟨q, hq, rfl⟩ := Option.map_eq_some_iff.mp h
    exact .write hq rfl
  · have hnever : ∀ c, a ≠ .queueWrite c false := fun c hc ↦ hwrite ⟨c, false, hc⟩
    by_cases hstream : ∃ c envelope, a = .message c envelope ∧ envelope.messageType.isStream = true
    · obtain ⟨c, envelope, rfl, hstream⟩ := hstream
      rcases fire_stream hs.sound h hstream with ⟨-, hsame, -⟩ |
        ⟨htakes, hnone, sid, session, ws, hnamed, hget, -, hputs⟩
      · exact .same hsame hnever
      · obtain ⟨conn, -, rfl⟩ := fire_message h
        obtain ⟨d, hd, hroom⟩ := Bus.takes_iff.mp htakes
        obtain ⟨⟨sid', session'⟩, hprovider, houtlet⟩ := Option.bind_eq_some_iff.mp hd
        dsimp only at houtlet
        split at houtlet
        · rename_i hfound
          obtain rfl := Option.some.inj houtlet
          obtain ⟨hnamed', hvalid, -⟩ := Bus.providerSession_some hprovider
          obtain rfl := Option.some.inj (hnamed.symm.trans hnamed')
          obtain rfl := Option.some.inj (hget.symm.trans (SessionManager.validate_ok hvalid).1)
          have hregistered := (Bool.and_eq_true_iff.mp hfound).2
          rw [error_resume] at hnone
          refine .put (c := session.requesterConnId) ?_ hregistered hroom hputs
            (Bus.handleMessage_error hs.sound.queues hs.agreed |>.mp hnone) fun c' ↦ ⟨?_, ?_⟩
          · unfold resume
            rw [hnone]
            dsimp only
            rw [Bus.handleMessage_stream_registry hstream]
            exact hregistered
          · exact fun invalid hc ↦ by cases hc
          · exact hnever c'
        · cases houtlet
    · refine .same (fire_queues h ?_ ?_) hnever
      · intro c sent hc
        exact hwrite ⟨c, sent, hc⟩
      · intro c envelope hc
        rw [← Bool.not_eq_true]
        exact fun hstream' ↦ hstream ⟨c, envelope, hc, hstream'⟩

/-- Only a registration adds to who is registered. -/
theorem registered_of_changes {b b' : Bus} (hs : b.Sound)
    (h : Changes env.now (s.Affects env a) b b') (hconnect : ∀ ws envelope, a ≠ .connect ws envelope)
    (hc : (b'.registry.getWebsocket c).isSome = true) :
    (b.registry.getWebsocket c).isSome = true := by
  have hstep : ∀ subject (b₁ b₂ : Bus), s.Affects env a subject → Change env.now subject b₁ b₂ →
      (b₁.Sound ∧ ((b₁.registry.getWebsocket c).isSome = true →
        (b.registry.getWebsocket c).isSome = true)) →
      b₂.Sound ∧ ((b₂.registry.getWebsocket c).isSome = true →
        (b.registry.getWebsocket c).isSome = true) := by
    rintro subject b₁ b₂ habout hchange ⟨hsound, hbefore⟩
    refine ⟨hchange.sound hsound, fun hafter ↦ hbefore ?_⟩
    cases hchange with
    | heartbeat connId =>
        dsimp only at hafter
        rwa [AgentRegistry.getWebsocket_heartbeat] at hafter
    | unregister connId => exact (AgentRegistry.of_unregister hsound.registry hafter).2
    | register agentId tenantId websocket capabilities tags schemas metadata =>
        cases habout with
        | connect => exact absurd rfl (hconnect _ _)
    | reap => exact AgentRegistry.of_cleanupDeadAgents hafter
    | update | record | enqueue | write | announce | create | events | expire => exact hafter
  exact (h.invariant hstep ⟨hs, id⟩).2 hc

/-- A registration registers the connection that it returns. -/
theorem registered_handleRegister {b : Bus} {websocket : Nat} {envelope : MessageEnvelope}
    (hc : ((b.handleRegister env websocket envelope).1.bus.registry.getWebsocket c).isSome = true) :
    (b.registry.getWebsocket c).isSome = true ∨
      (b.handleRegister env websocket envelope).2 = some c := by
  unfold Bus.handleRegister at hc ⊢
  dsimp only at hc ⊢
  split at hc
  · rename_i registry e hregister
    have hfirst : _ = registry := congrArg Prod.fst hregister
    have hc : (registry.getWebsocket c).isSome = true := hc
    rw [← hfirst] at hc
    refine (AgentRegistry.of_register hc).imp_right ?_
    rintro ⟨agent, hok⟩
    rw [hregister] at hok
    cases hok
  · rename_i registry connId agent hregister
    have hfirst : _ = registry := congrArg Prod.fst hregister
    have hc : (registry.getWebsocket c).isSome = true := hc
    rw [← hfirst] at hc
    refine (AgentRegistry.of_register hc).imp_right ?_
    rintro ⟨agent', hok⟩
    rw [hregister] at hok
    obtain ⟨rfl, -⟩ := Prod.mk.inj (Except.ok.inj hok)
    rfl

/-- Only an open connection can end. -/
theorem Ends.isOpen (h : s.fire env a = some fired) (hends : s.Ends env a c) :
    (s.connections.get? c).isSome = true := by
  rcases hends with ⟨invalid, rfl⟩ | ⟨hconn, hraises⟩
  · obtain ⟨conn, hget, -⟩ := Option.bind_eq_some_iff.mp h
    rw [hget]
    rfl
  · obtain ⟨connId, conn, o, hhandles, -⟩ := fire_raises h hraises
    obtain rfl := Option.some.inj (hhandles.connId?.symm.trans hconn)
    rw [hhandles.get?]
    rfl

/-- A connection that ends is unregistered. -/
theorem Ends.unregistered (hs : s.Settled) (h : s.fire env a = some fired) (hends : s.Ends env a c)
    (hc : (fired.server.bus.registry.getWebsocket c).isSome = true) : False := by
  rcases hends with ⟨invalid, rfl⟩ | ⟨hconn, hraises⟩
  · obtain ⟨conn, _, h⟩ := Option.bind_eq_some_iff.mp h
    split_ifs at h
    obtain rfl := Option.some.inj h
    exact (AgentRegistry.of_unregister hs.sound.registry hc).1 rfl
  · obtain ⟨connId, conn, o, hhandles, rfl⟩ := fire_raises h hraises
    obtain rfl := Option.some.inj (hhandles.connId?.symm.trans hconn)
    have hregistry : o.bus.registry.Coherent := ((hhandles.changes hs.sound).sound hs.sound).registry
    rw [← hhandles.returns hs.sound.queues hs.agreed] at hraises
    obtain ⟨e, herror⟩ := Option.ne_none_iff_exists'.mp hraises
    unfold resume at hc
    rw [herror] at hc
    exact (AgentRegistry.of_unregister hregistry hc).1 rfl

/-- Who is registered has an open connection, after every action. -/
theorem linked_fire (hs : s.Settled) (h : s.fire env a = some fired)
    (hc : (fired.server.bus.registry.getWebsocket c).isSome = true) :
    (fired.server.connections.get? c).isSome = true := by
  have hkeeps : (s.bus.registry.getWebsocket c).isSome = true →
      (fired.server.connections.get? c).isSome = true := by
    intro hbefore
    rw [Option.isSome_iff_ne_none]
    intro hnone
    exact ((fire_ends hs h (hs.linked c hbefore)).mp hnone).unregistered hs h hc
  by_cases hconnect : ∃ ws envelope, a = .connect ws envelope
  · obtain ⟨ws, envelope, rfl⟩ := hconnect
    have hfire := h
    unfold fire connect at hfire
    dsimp only at hfire
    split_ifs at hfire
    · obtain rfl := Option.some.inj hfire
      exact hkeeps hc
    · obtain rfl := Option.some.inj hfire
      rcases registered_handleRegister hc with hbefore | hid
      · exact hkeeps hbefore
      · dsimp only
        rw [hid]
        dsimp only
        rw [Dict.get?_insert_self]
        rfl
  · refine hkeeps (registered_of_changes hs.sound (fire_changes hs.sound h) ?_ hc)
    exact fun ws envelope ha ↦ hconnect ⟨ws, envelope, ha⟩

theorem Settled.start (library : Library) (settings : Settings) :
    (start library settings).Settled where
  sound := sound_start library settings
  agreed := .start library settings
  linked c hc := by cases hc
  filled c q hq := by cases hq

theorem Settled.step {s' : Server} {now : Time} {ids : Nat → UUID} (hs : s.Settled)
    (h : Steps now s (ids, a) s') : s'.Settled := by
  have hsound := sound_step hs.sound h
  have hagreed := hs.agreed.step chosenSchemaId_stable h
  obtain ⟨-, fired, hfire, rfl⟩ := h
  refine ⟨hsound, hagreed, fun c hc ↦ linked_fire hs hfire hc, fun c q hq ↦ ?_⟩
  cases fire_queueStep hs hfire with
  | same hsame _ =>
      rw [hsame] at hq
      exact hs.filled c q hq
  | put hregistered' hregistered hroom hputs hreturns hneither =>
      rename_i d ws message
      by_cases hc : c = d
      · subst hc
        obtain rfl := Option.some.inj (hputs.self.symm.trans hq)
        refine ConnectionQueue.Filled.put ?_ (Bus.isFull_queueOf hroom)
        rw [Bus.queueOf]
        cases hold : s.bus.queues.queues.get? c with
        | none => exact ⟨List.not_mem_nil, .inr (Nat.zero_le _)⟩
        | some old => exact hs.filled c old hold
      · rw [hputs.other c hc] at hq
        exact hs.filled c q hq
  | write hold hqueues =>
      rename_i d sent old
      rw [hqueues, ConnectionQueueManager.setQueue, Dict.get?_insert] at hq
      split at hq
      · obtain rfl := Option.some.inj hq
        exact (hs.filled d old hold).write (hs.sound.queues d old hold) sent
      · exact hs.filled c q hq

end Server

/-! ## Tied queues -/

/-- A message was accepted on the queue of a connection: whether the connection was
registered then, and whether the writer of the queue ran. -/
structure Acceptance where
  connId : String
  registered : Bool
  writing : Bool
  deriving DecidableEq

namespace Acceptance

open Server

/-- On which queues an action put messages. -/
def acceptances (s : Server) (fired : Fired) : List Acceptance :=
  (s.bus.accepted fired.server.bus).map fun c ↦
    ⟨c, (fired.server.bus.registry.getWebsocket c).isSome, fired.server.bus.running c⟩

def note (x : Time × Server) (a : Label) (notes : List Acceptance) : List Acceptance :=
  notes ++ (x.2.fire ⟨a.1, a.2.1⟩ a.2.2).elim [] (acceptances x.2)

abbrev Steps : Step ((Time × Server) × List Acceptance) Label :=
  Step.Noting note (Step.Timed Server.Steps)

/-- Queues, writers and connections go together: messages are accepted for registered
connections whose writers run, a queue whose writer has ended refuses messages, and there
is no queue without an open connection. -/
structure Tied (s : Server) (notes : List Acceptance) : Prop where
  accepted : ∀ e ∈ notes, e.registered = true ∧ e.writing = true
  ended : ∀ c q, s.bus.queues.queues.get? c = some q → q.writing = false → q.Refuses
  cleaned : ∀ c, s.connections.get? c = none → s.bus.queues.queues.get? c = none

/-- No send of a running writer fails, and no connection ends that has a queue. -/
structure Spares (s : Server) (env : Env) (a : Action) : Prop where
  sends : ∀ c q, a = .queueWrite c false → s.bus.queues.queues.get? c = some q →
    q.writing = true → q.items = []
  ends : ∀ c, s.Ends env a c → s.bus.queues.queues.get? c = none

variable {s : Server} {env : Env} {a : Action} {fired : Fired} {notes : List Acceptance}

/-- The writer of a queue with room runs. -/
theorem Tied.running (h : Tied s notes) (hs : s.Settled) {c : String}
    (hroom : s.bus.queueFull c = false) : s.bus.running c = true := by
  unfold Bus.running
  unfold Bus.queueFull at hroom
  cases hq : s.bus.queues.queues.get? c with
  | none => rfl
  | some q =>
      rw [hq, Option.any_some] at hroom
      rw [Option.all_some, ← Bool.not_eq_false]
      intro hended
      have hfull := (ConnectionQueue.refuses_iff (hs.sound.queues c q hq)).mp (h.ended c q hq hended)
      cases hroom.symm.trans hfull

/-- A connection that is not there had no queue. -/
theorem Tied.before (h : Tied s notes) (hs : s.Settled) (hfire : s.fire env a = some fired)
    (hspares : Spares s env a) {c : String} (hnone : fired.server.connections.get? c = none) :
    s.bus.queues.queues.get? c = none ∧ (s.connections.get? c = none ∨ s.Ends env a c) := by
  cases hget : s.connections.get? c with
  | none => exact ⟨h.cleaned c hget, .inl rfl⟩
  | some conn =>
      have hends := (fire_ends hs hfire (hget ▸ rfl)).mp hnone
      exact ⟨hspares.ends c hends, .inr hends⟩

/-- Nothing is noted when no queue grows. -/
theorem acceptances_eq_nil (h : ∀ c, ¬ s.bus.depth c < fired.server.bus.depth c) :
    acceptances s fired = [] := by
  have hempty : s.bus.accepted fired.server.bus = [] :=
    List.eq_nil_iff_forall_not_mem.mpr fun c hc ↦ h c (Bus.mem_accepted_iff.mp hc)
  rw [acceptances, hempty, List.map_nil]

/-- A message for a connection that stays. -/
theorem Tied.put {d : String} {websocket : Nat} {message : Message} (h : Tied s notes)
    (hs : s.Settled) (hregistered : (fired.server.bus.registry.getWebsocket d).isSome = true)
    (hroom : s.bus.queueFull d = false) (hputs : s.bus.Puts d websocket message fired.server.bus)
    (hgone : ∀ c, fired.server.connections.get? c = none →
      c ≠ d ∧ s.bus.queues.queues.get? c = none) :
    Tied fired.server (notes ++ acceptances s fired) := by
  have hrunning : fired.server.bus.running d = true := by
    rw [hputs.running]
    exact h.running hs hroom
  refine ⟨fun e he ↦ ?_, fun c q hq hended ↦ ?_, fun c hnone ↦ ?_⟩
  · rcases List.mem_append.mp he with he | he
    · exact h.accepted e he
    · obtain ⟨c, hc, rfl⟩ := List.mem_map.mp he
      obtain rfl := hputs.mem_accepted.mp hc
      exact ⟨hregistered, hrunning⟩
  · by_cases hc : c = d
    · subst hc
      rw [Bus.running_eq hq, hended] at hrunning
      cases hrunning
    · rw [hputs.other c hc] at hq
      exact h.ended c q hq hended
  · obtain ⟨hc, hnoqueue⟩ := hgone c hnone
    rw [hputs.other c hc]
    exact hnoqueue

/-- A round of a writer whose send does not fail. -/
theorem Tied.write {d : String} {sent : Bool} {q : ConnectionQueue} (h : Tied s notes)
    (hs : s.Settled) (hq : s.bus.queues.queues.get? d = some q)
    (hqueues : fired.server.bus.queues = s.bus.queues.setQueue d (q.write sent).1)
    (hsends : sent = false → q.writing = true → q.items = [])
    (hgone : ∀ c, fired.server.connections.get? c = none →
      s.bus.queues.queues.get? c = none) :
    Tied fired.server (notes ++ acceptances s fired) := by
  have hget : ∀ c, fired.server.bus.queues.queues.get? c
      = if c = d then some (q.write sent).1 else s.bus.queues.queues.get? c := by
    intro c
    rw [hqueues]
    exact Dict.get?_insert _ _ _ _
  obtain ⟨hwriting, hitems, hsame⟩ :=
    ConnectionQueue.write_keeps (hs.filled d q hq) (hs.sound.queues d q hq) hsends
  rw [acceptances_eq_nil fun c ↦ ?_, List.append_nil]
  · refine ⟨h.accepted, fun c q' hq' hended ↦ ?_, fun c hnone ↦ ?_⟩
    · rw [hget] at hq'
      split at hq'
      · obtain rfl := Option.some.inj hq'
        rw [hwriting] at hended
        rw [hsame hended]
        exact h.ended d q hq hended
      · exact h.ended c q' hq' hended
    · have hnoqueue := hgone c hnone
      rw [hget, if_neg, hnoqueue]
      rintro rfl
      cases hq.symm.trans hnoqueue
  · unfold Bus.depth
    rw [hget]
    split
    · rename_i hc
      rw [hc, hq]
      exact hitems.not_gt
    · exact lt_irrefl _

/-- An action that fails no send and ends no connection with a queue leaves things tied. -/
theorem Tied.fire (h : Tied s notes) (hs : s.Settled) (hfire : s.fire env a = some fired)
    (hspares : Spares s env a) : Tied fired.server (notes ++ acceptances s fired) := by
  cases fire_queueStep hs hfire with
  | same hsame hwrite =>
      rw [acceptances_eq_nil fun c ↦ ?_, List.append_nil]
      · refine ⟨h.accepted, fun c q hq ↦ ?_, fun c hnone ↦ ?_⟩
        · rw [hsame] at hq
          exact h.ended c q hq
        · rw [hsame]
          exact (h.before hs hfire hspares hnone).1
      · rw [Bus.depth_congr (by rw [hsame])]
        exact lt_irrefl _
  | put hregistered' hregistered hroom hputs hreturns hneither =>
      refine h.put hs hregistered' hroom hputs fun c hnone ↦ ?_
      obtain ⟨hnoqueue, hgone⟩ := h.before hs hfire hspares hnone
      refine ⟨?_, hnoqueue⟩
      rintro rfl
      rcases hgone with hgone | ⟨invalid, hdis⟩ | ⟨-, hraises⟩
      · have hlinked := hs.linked c hregistered
        rw [hgone] at hlinked
        cases hlinked
      · exact (hneither c).1 invalid hdis
      · exact hraises hreturns
  | write hq hqueues =>
      refine h.write hs hq hqueues (fun hsent hwriting ↦ ?_) fun c hnone ↦
        (h.before hs hfire hspares hnone).1
      subst hsent
      exact hspares.sends _ _ rfl hq hwriting

/-- An action that fails a send or ends a connection with a queue leaves things untied. -/
theorem Tied.spares (hs : s.Settled) (hfire : s.fire env a = some fired)
    (h : Tied fired.server notes) : Spares s env a := by
  have hopen : fired.server.bus.queues.Open := ((fire_changes hs.sound hfire).sound hs.sound).queues
  refine ⟨?_, fun c hends ↦ ?_⟩
  · rintro c q rfl hq hwriting
    cases fire_queueStep hs hfire with
    | same _ hwrite => exact absurd rfl (hwrite c)
    | put _ _ _ _ _ hneither => exact absurd rfl (hneither c).2
    | write hq' hqueues =>
        obtain rfl := Option.some.inj (hq.symm.trans hq')
        have hself : fired.server.bus.queues.queues.get? c = some (q.write false).1 := by
          rw [hqueues]
          exact Dict.get?_insert_self _ _ _
        rcases ConnectionQueue.write_cases (hs.filled c q hq) (hs.sound.queues c q hq) false with
          ⟨-, hquiet⟩ | ⟨message, items, -, hitems, hwrite⟩
        · rcases hquiet with hsent | hended | hnone
          · cases hsent
          · cases hwriting.symm.trans hended
          · exact hnone
        · -- the message that was taken out left room
          have hrefuses := h.ended c _ hself (by rw [hwrite])
          rw [ConnectionQueue.refuses_iff (hopen c _ hself), hwrite] at hrefuses
          cases hrefuses.symm.trans ((hs.filled c q hq).room hitems false)
  · have hgone := h.cleaned c ((fire_ends hs hfire (hends.isOpen hfire)).mpr hends)
    cases fire_queueStep hs hfire with
    | same hsame _ => rw [← hsame, hgone]
    | put _ _ _ _ hreturns hneither =>
        rcases hends with ⟨invalid, hdis⟩ | ⟨-, hraises⟩
        · exact absurd hdis ((hneither c).1 invalid)
        · exact absurd hreturns hraises
    | write _ _ =>
        rcases hends with ⟨invalid, hdis⟩ | ⟨-, hraises⟩
        · cases hdis
        · exact absurd trivial hraises

theorem Steps.deterministic {x y y' : (Time × Server) × List Acceptance} {a : Label}
    (h : Steps x a y) (h' : Steps x a y') : y = y' := by
  obtain ⟨⟨-, hclock, -, fired, hfire, hserver⟩, hnote⟩ := h
  obtain ⟨⟨-, hclock', -, fired', hfire', hserver'⟩, hnote'⟩ := h'
  obtain rfl := Option.some.inj (hfire.symm.trans hfire')
  refine Prod.ext (Prod.ext ?_ ?_) ?_
  · rw [hclock, hclock']
  · rw [← hserver, ← hserver']
  · rw [hnote, hnote']

/-- In every state of a run messages were accepted for registered connections whose writers
ran, queues whose writers have ended refuse messages and connections that have ended have no
queues, if and only if no send of the run fails and no connection that has a queue ends. -/
theorem tied_iff {library : Library} {settings : Settings} {t₀ : Time} {as : List Label}
    {y : (Time × Server) × List Acceptance} :
    Run (Step.Only (fun x a ↦ Spares x.1.2 ⟨a.1, a.2.1⟩ a.2.2) Steps)
        ((t₀, start library settings), []) as y ↔
      Run Steps ((t₀, start library settings), []) as y ∧
        ∀ bs (x : (Time × Server) × List Acceptance), bs <+: as →
          Run Steps ((t₀, start library settings), []) bs x → Tied x.1.2 x.2 := by
  have hinv : ∀ (x : (Time × Server) × List Acceptance) (a : Label)
      (y : (Time × Server) × List Acceptance), x.1.2.Settled → Steps x a y → y.1.2.Settled :=
    fun x a y hs h ↦ Settled.step hs (show Server.Steps a.1 x.1.2 (a.2.1, a.2.2) y.1.2 from h.1.2.2)
  refine Run.only_iff (S := Steps) (I := fun x ↦ x.1.2.Settled) (P := fun x ↦ Tied x.1.2 x.2)
    (fun _ _ _ _ ↦ Steps.deterministic) hinv ?_ ?_ ?_
  · rintro ⟨⟨t, s⟩, notes⟩ ⟨now, ids, a⟩ ⟨⟨t', s'⟩, notes'⟩ hs htied
      ⟨⟨-, -, -, fired, hfire, hserver⟩, hnote⟩
    have hfire : s.fire ⟨now, ids⟩ a = some fired := hfire
    have hnote : notes' = notes ++ acceptances s fired := by
      rw [show notes' = note (t, s) (now, ids, a) notes from hnote]
      dsimp only [note]
      rw [hfire, Option.elim_some]
    have hserver : fired.server = s' := hserver
    dsimp only
    rw [hnote, ← hserver]
    exact ⟨fun hspares ↦ htied.fire hs hfire hspares, fun htied' ↦ htied'.spares hs hfire⟩
  · exact Settled.start library settings
  · refine ⟨fun e he ↦ absurd he List.not_mem_nil, fun c q hq ↦ ?_, fun _ _ ↦ rfl⟩
    cases hq

def samplePlay (script : List (Time × UUID × Action)) : (Time × Server) × List Acceptance :=
  playNotes note ((0, Server.start sampleLibrary {}), [])
    (sampleNegotiation ++ [sampleAgree 300000] ++ script)

/-- The requester's websocket fails in the middle of a stream, and the rest of the stream is
queued for a writer that has ended. -/
theorem queued_for_nobody :
    ¬ ∀ settings as y, Run Steps ((0, Server.start sampleLibrary settings), []) as y →
      Tied y.1.2 y.2 := by
  intro hall
  let y := samplePlay [sampleReport 400000 .execStreamStart [("exec_id", .str "e")],
    (400001, ⟨90⟩, .queueWrite requesterConn false),
    sampleReport 400002 .execStreamChunk [("exec_id", .str "e")]]
  have hrun : Run (Step.Only (fun _ _ ↦ True) Steps) _ _ y := run_playNotes (by decide +kernel)
  have hnotes : y.2 = [⟨requesterConn, true, true⟩, ⟨requesterConn, true, false⟩] := by
    decide +kernel
  have haccepted := (hall _ _ y hrun.of_only).accepted ⟨requesterConn, true, false⟩ (by simp [hnotes])
  cases haccepted.2

end Acceptance

end SemanticBus
