import SemanticBus.Transport.Collection
import SemanticBus.Transport.Outbound

/-!
# The answer to a broadcast

A broadcast goes on while other connections act: the language model is asked once, the
intent is delivered to each agent of the flow, and then the offers are looked for up to
`Bus.pollRounds` times.  Its notes (`FlowNotes`) say what was done since the last message of
the connection.  `broadcast_served` says that in every run it is answered exactly once, to
the connection and with the id of the broadcast, within a bounded number of its own steps,
unless the flow names an agent by what is no UUID; and that until then it can go on.
-/

namespace SemanticBus

namespace Server

/-- A delivery: who was registered then, and what it sent. -/
structure FlowDelivery where
  registry : AgentRegistry
  sends : List (Nat × Message)

/-- What happened since the last message of a connection: the websocket and the envelope, the
flow, its session and how often the language model was asked for it, the deliveries, the looks
at the offers, and what else was sent. -/
structure FlowNotes where
  last : Option (Nat × MessageEnvelope) := none
  flow : Option AgentFlow := none
  sessionId : Option UUID := none
  questions : Nat := 0
  deliveries : List FlowDelivery := []
  looks : Nat := 0
  answers : List (Nat × Message) := []

def sentBy (s : Server) (env : Env) (a : Action) : List (Nat × Message) :=
  (s.fire env a).elim [] Fired.sends

/-- What a step adds to the notes on a connection. -/
def flowNote (c : String) (x : Time × Server) (a : Label) (n : FlowNotes) : FlowNotes :=
  let sends := x.2.sentBy ⟨a.1, a.2.1⟩ a.2.2
  match a.2.2 with
  | .message c' envelope =>
      if c' = c then
        { last := some (((x.2.connections.get? c).map Connection.websocket).getD 0, envelope)
          answers := sends }
      else n
  | .answer c' answer =>
      if c' = c then
        { n with
          flow := discoverFlow answer
          sessionId := some (a.2.1 0)
          questions := n.questions + 1
          answers := n.answers ++ sends }
      else n
  | .deliver c' =>
      if c' = c then
        { n with deliveries := n.deliveries ++ [⟨x.2.bus.registry, sends⟩] }
      else n
  | .poll c' =>
      if c' = c then { n with looks := n.looks + 1, answers := n.answers ++ sends } else n
  | _ => n

def broadcastOf (s : Server) (c : String) : Option FlowTask :=
  (s.connections.get? c).bind Connection.task

/-- The connection whose message loop an action goes on with. -/
def Action.loop? : Action → Option String
  | .message c _ | .answer c _ | .deliver c | .poll c => some c
  | _ => none

variable {s : Server} {env : Env} {a : Action} {c : String} {conn : Connection} {o : Outcome}
  {fired : Fired} {task : FlowTask} {envelope : MessageEnvelope} {ws : Nat}

theorem broadcastOf_of_taskOf (h : s.taskOf c = some (conn, task)) :
    s.broadcastOf c = some task := by
  obtain ⟨hget, htask⟩ := taskOf_some h
  rw [broadcastOf, hget, Option.bind_some, htask]

/-- Without a step of its message loop a connection goes on with its broadcast. -/
theorem broadcastOf_frame (hs : s.Wired) (h : s.fire env a = some fired)
    (ha : Action.loop? a ≠ some c) : fired.server.broadcastOf c = s.broadcastOf c := by
  by_cases hdisconnect : ∃ invalid, a = .disconnect c invalid
  · obtain ⟨invalid, rfl⟩ := hdisconnect
    obtain ⟨conn, hget, h⟩ := Option.bind_eq_some_iff.mp h
    split_ifs at h with htask
    obtain rfl := Option.some.inj h
    rw [broadcastOf, broadcastOf, Dict.get?_erase, if_pos rfl, hget, Option.bind_some]
    exact (Option.not_isSome_iff_eq_none.mp htask).symm
  by_cases hwrite : ∃ sent, a = .queueWrite c sent
  · obtain ⟨sent, rfl⟩ := hwrite
    obtain ⟨q, -, rfl⟩ := Option.map_eq_some_iff.mp h
    rfl
  have hother : a.connId? ≠ some c := by
    intro hc
    cases a with
    | message _ _ | answer _ _ | deliver _ | poll _ => exact ha hc
    | disconnect _ invalid =>
        obtain rfl := Option.some.inj hc
        exact hdisconnect ⟨invalid, rfl⟩
    | queueWrite _ sent =>
        obtain rfl := Option.some.inj hc
        exact hwrite ⟨sent, rfl⟩
    | connect _ _ | sessionTick | registryTick | deliverEvent _ => cases hc
  have hstep := fire_connections h
  cases hget : s.connections.get? c with
  | some conn => rw [broadcastOf, broadcastOf, hstep.kept hs hother hget, hget]
  | none =>
      rw [broadcastOf, broadcastOf, hget]
      generalize fired.server = s' at hstep
      cases hstep with
      | same bus => rw [hget]
      | connect bus _ _ =>
          rw [Dict.get?_insert]
          split
          · rfl
          · rw [hget]
      | resume hhandles _ =>
          rw [Dict.get?_insert, if_neg, hget]
          rintro rfl
          exact hother hhandles.connId?
      | close bus ha' =>
          rw [Dict.get?_erase, if_neg, hget]
          rintro rfl
          exact hother ha'

/-- A handler leaves what is to be done of the broadcast, or raises and leaves nothing. -/
theorem broadcastOf_resume : (s.resume c conn o).sends = o.sends ∧
    (s.resume c conn o).server.broadcastOf c = if o.error = none then o.task else none := by
  refine ⟨resume_frame.1, ?_⟩
  rw [resume]
  split
  · rename_i herror
    rw [if_pos herror, broadcastOf, Dict.get?_insert_self]
    rfl
  · rename_i herror
    rw [if_neg (by rw [herror]; simp), broadcastOf, Dict.get?_erase, if_pos rfl]
    rfl

/-! ## The notes of a broadcast -/

structure Answers (ws : Nat) (envelope : MessageEnvelope) (answer : Nat × Message) : Prop where
  websocket : answer.1 = ws
  correlationId : answer.2.correlationId = some envelope.messageId
  messageType : answer.2.messageType = .error ∨ answer.2.messageType = .intentOffers

/-- A delivery to an agent of the flow: the intent, to the websocket that is registered for the
agent, or nothing if there is none. -/
structure Delivered (envelope : MessageEnvelope) (sid : UUID) (node : AgentNode)
    (d : FlowDelivery) : Prop where
  connected : ∀ agentId agent ws, UUID.parse node.agentId = some agentId →
    d.registry.getAgentById agentId = some agent →
    d.registry.getWebsocket agent.connId = some ws →
    d.sends = [(ws, Bus.deliverMessage envelope sid node)]
  absent : (∀ agentId agent ws, UUID.parse node.agentId = some agentId →
    d.registry.getAgentById agentId = some agent →
    d.registry.getWebsocket agent.connId ≠ some ws) → d.sends = []

/-- The deliveries of a broadcast are to the agents of its flow, in their order. -/
def Delivers (envelope : MessageEnvelope) (n : FlowNotes) : Prop :=
  ∀ sid flow, n.sessionId = some sid → n.flow = some flow →
    List.Forall₂ (Delivered envelope sid) (flow.agents.take n.deliveries.length) n.deliveries

def FlowNotes.agents (n : FlowNotes) : Nat := (n.flow.map (·.agents.length)).getD 0

/-- Where a broadcast is after what the notes say. -/
inductive Served (ws : Nat) (c : String) (envelope : MessageEnvelope) (s : Server)
    (n : FlowNotes) : Prop
  /-- The language model was not asked yet. -/
  | planning {available : List AgentRecord} :
      s.broadcastOf c = some ⟨ws, c, envelope, .planning available⟩ →
      n.questions = 0 → n.deliveries = [] → n.looks = 0 → n.answers = [] → Served ws c envelope s n
  /-- Some agents of the flow are still to be asked for offers. -/
  | delivering {sid : UUID} {flow : AgentFlow} {node : AgentNode} {todo : List AgentNode} :
      s.broadcastOf c = some ⟨ws, c, envelope, .delivering sid flow (node :: todo)⟩ →
      n.questions = 1 → n.flow = some flow → n.sessionId = some sid →
      (∃ done, flow.agents = done ++ node :: todo ∧ n.deliveries.length = done.length) →
      n.looks = 0 → n.answers = [] → Served ws c envelope s n
  /-- All were asked, and their offers are looked for. -/
  | collecting {sid : UUID} {flow : AgentFlow} {polls : Nat} {wake : Time} :
      s.broadcastOf c = some ⟨ws, c, envelope, .collecting sid flow polls wake⟩ →
      n.questions = 1 → n.flow = some flow → n.deliveries.length = flow.agents.length → 0 < polls →
      n.looks + polls = Bus.pollRounds → n.answers = [] → Served ws c envelope s n
  /-- The broadcast was answered. -/
  | answered {answer : Nat × Message} : s.broadcastOf c = none → n.questions ≤ 1 →
      n.deliveries.length = n.agents → n.looks ≤ Bus.pollRounds → n.answers = [answer] →
      Answers ws envelope answer → Served ws c envelope s n
  /-- The connection was ended by an exception, as some agent has no UUID. -/
  | failed {flow : AgentFlow} {node : AgentNode} : s.broadcastOf c = none → n.questions = 1 →
      n.flow = some flow → node ∈ flow.agents → UUID.parse node.agentId = none →
      n.deliveries.length ≤ flow.agents.length → n.looks = 0 → n.answers = [] → Served ws c envelope s n

variable {n : FlowNotes}

/-- What a broadcast does next depends on nothing but its task. -/
theorem Served.congr {s' : Server} (h : Served ws c envelope s n)
    (hsame : s'.broadcastOf c = s.broadcastOf c) : Served ws c envelope s' n := by
  cases h with
  | planning htask => exact .planning (hsame.trans htask) ‹_› ‹_› ‹_› ‹_›
  | delivering htask => exact .delivering (hsame.trans htask) ‹_› ‹_› ‹_› ‹_› ‹_› ‹_›
  | collecting htask => exact .collecting (hsame.trans htask) ‹_› ‹_› ‹_› ‹_› ‹_› ‹_›
  | answered htask => exact .answered (hsame.trans htask) ‹_› ‹_› ‹_› ‹_› ‹_›
  | failed htask => exact .failed (hsame.trans htask) ‹_› ‹_› ‹_› ‹_› ‹_› ‹_› ‹_›

/-! ## One step -/

theorem sentBy_of_fire (h : s.fire env a = some fired) : s.sentBy env a = fired.sends := by
  rw [sentBy, h, Option.elim_some]

/-- The handler of an action of a message loop, what it sends and what it leaves. -/
theorem fire_loop (h : s.fire env a = some fired) (hloop : Action.loop? a = some c) :
    ∃ conn o, s.Handles env a c conn o ∧ s.sentBy env a = o.sends ∧
      fired.server.broadcastOf c = if o.error = none then o.task else none := by
  have houtcome : (s.outcome env a).map (fun x ↦ s.resume x.1 x.2.1 x.2.2)
      = some fired := by
    cases a with
    | message _ _ | answer _ _ | deliver _ | poll _ => exact h
    | connect _ _ | disconnect _ _ | sessionTick | registryTick | queueWrite _ _
    | deliverEvent _ =>
        cases hloop
  obtain ⟨⟨c', conn, o⟩, houtcome, hfired⟩ := Option.map_eq_some_iff.mp houtcome
  have hhandles := handles_of_outcome houtcome
  have hconn := hhandles.connId?
  obtain rfl : c' = c := by
    cases a with
    | message _ _ | answer _ _ | deliver _ | poll _ =>
        exact (Option.some.inj hconn).symm.trans (Option.some.inj hloop)
    | connect _ _ | disconnect _ _ | sessionTick | registryTick | queueWrite _ _
    | deliverEvent _ =>
        cases hloop
  obtain ⟨hsends, hbroadcast⟩ := @broadcastOf_resume s c' conn o
  rw [sentBy_of_fire h, ← hfired]
  exact ⟨conn, o, hhandles, hsends, hbroadcast⟩

/-- An error message answers. -/
theorem answers_error {text code : String} : Answers ws envelope
    (ws, createError (if envelope.tenantId = "" then "system" else envelope.tenantId)
      (some envelope.messageId) code text) := ⟨rfl, rfl, .inl rfl⟩

theorem served_message (hconn : s.connections.get? c = some conn)
    (h : s.fire env (.message c envelope) = some fired)
    (htype : envelope.messageType = .intentBroadcast) (hn : n.questions = 0 ∧ n.deliveries = [] ∧
      n.looks = 0 ∧ n.flow = none ∧ n.answers = s.sentBy env (.message c envelope)) :
    Served conn.websocket c envelope fired.server n := by
  obtain ⟨hquestions, hdeliveries, hlooks, hflow, hanswers⟩ := hn
  obtain ⟨conn', o, hhandles, hsends, hbroadcast⟩ := fire_loop h rfl
  rw [hsends] at hanswers
  cases hhandles with
  | message _ hget _ =>
      obtain rfl := Option.some.inj (hget.symm.trans hconn)
      rw [Bus.handleMessage, htype] at hanswers hbroadcast
      dsimp only at hanswers hbroadcast
      rw [Bus.handleIntentBroadcast] at hanswers hbroadcast
      split at hanswers
      · rename_i hnone
        rw [hnone] at hbroadcast
        refine .answered hbroadcast (by omega) ?_ (by omega) hanswers answers_error
        rw [hdeliveries, FlowNotes.agents, hflow]
        rfl
      · rename_i available havailable
        rw [havailable] at hbroadcast
        exact .planning hbroadcast hquestions hdeliveries hlooks hanswers

/-- The stage after the deliveries so far. -/
theorem served_stageFor {sid : UUID} {flow : AgentFlow} {done todo : List AgentNode} {now : Time}
    (hbroadcast : s.broadcastOf c = some ⟨ws, c, envelope, Bus.stageFor now sid flow todo⟩)
    (hquestions : n.questions = 1) (hflow : n.flow = some flow) (hsid : n.sessionId = some sid)
    (hagents : flow.agents = done ++ todo) (hdeliveries : n.deliveries.length = done.length)
    (hlooks : n.looks = 0) (hanswers : n.answers = []) : Served ws c envelope s n := by
  cases todo with
  | cons node todo =>
      exact .delivering hbroadcast hquestions hflow hsid ⟨done, hagents, hdeliveries⟩ hlooks
        hanswers
  | nil =>
      refine .collecting hbroadcast hquestions hflow ?_ (by decide) ?_ hanswers
      · rw [hagents, List.append_nil, hdeliveries]
      · rw [hlooks, Nat.zero_add]

/-- An answer of the language model is no flow and answers the broadcast, or starts the flow. -/
theorem startFlow_served {b : Bus} {task : FlowTask} {answer : Option AgentFlow} :
    (b.startFlow env task answer).error = none ∧
      (discoverFlow answer = none ∧ (b.startFlow env task answer).task = none ∧
          (∃ answer', (b.startFlow env task answer).sends = [answer'] ∧
            Answers task.websocket task.envelope answer') ∨
        ∃ flow, discoverFlow answer = some flow ∧ (b.startFlow env task answer).sends = [] ∧
          (b.startFlow env task answer).task = some { task with
            stage := Bus.stageFor env.now (env.uuid 0) flow flow.agents }) := by
  rw [Bus.startFlow]
  cases discoverFlow answer with
  | none => exact ⟨rfl, .inl ⟨rfl, rfl, _, rfl, answers_error⟩⟩
  | some flow => exact ⟨rfl, .inr ⟨flow, rfl, rfl, rfl⟩⟩

theorem Served.answer {answer : Option AgentFlow} (h : Served ws c envelope s n)
    (hfire : s.fire env (.answer c answer) = some fired) : Served ws c envelope fired.server
      { n with
        flow := discoverFlow answer
        sessionId := some (env.uuid 0)
        questions := n.questions + 1
        answers := n.answers ++ s.sentBy env (.answer c answer) } := by
  obtain ⟨conn, o, hhandles, hsends, hbroadcast⟩ := fire_loop hfire rfl
  rw [hsends]
  cases hhandles with
  | answer _ htask hstage =>
      rename_i task available
      have htask := broadcastOf_of_taskOf htask
      cases h with
      | planning hplanning hquestions hdeliveries hlooks hanswers =>
          obtain rfl := Option.some.inj (htask.symm.trans hplanning)
          obtain ⟨herror, hcases⟩ := @startFlow_served env s.bus _ answer
          rw [if_pos herror] at hbroadcast
          rw [hanswers, hquestions]
          rcases hcases with ⟨hnone, hended, answer', hsend, hanswer⟩ | ⟨flow, hflow, hnothing, hnext⟩
          · rw [hsend]
            refine .answered (hbroadcast.trans hended) (le_refl _) ?_ (hlooks.le.trans (by decide))
              rfl hanswer
            rw [FlowNotes.agents, hnone]
            exact congrArg List.length hdeliveries
          · rw [hnothing]
            exact served_stageFor (hbroadcast.trans hnext) rfl hflow rfl (List.nil_append _).symm
              (congrArg List.length hdeliveries) hlooks rfl
      | delivering hother _ _ _ _ _ _ | collecting hother _ _ _ _ _ _ =>
          obtain rfl := Option.some.inj (htask.symm.trans hother)
          cases hstage
      | answered hnone _ _ _ _ _ | failed hnone _ _ _ _ _ _ _ => cases htask.symm.trans hnone

/-- What a delivery sends. -/
theorem deliverNext_delivered {b : Bus} {task : FlowTask} {sid : UUID} {flow : AgentFlow}
    {node : AgentNode} {todo : List AgentNode} :
    Delivered task.envelope sid node
      ⟨b.registry, (b.deliverNext env task sid flow node todo).sends⟩ := by
  rw [Bus.deliverNext]
  constructor
  · intro agentId agent ws hparse hagent hws
    rw [hparse]
    dsimp only
    rw [hagent]
    dsimp only
    rw [routeToAgent, hws]
  · intro habsent
    dsimp only
    cases hparse : UUID.parse node.agentId with
    | none => rfl
    | some agentId =>
        dsimp only
        cases hagent : b.registry.getAgentById agentId with
        | none => rfl
        | some agent =>
            have hws := Option.eq_none_iff_forall_ne_some.mpr fun ws ↦
              habsent agentId agent ws hparse hagent
            dsimp only at hws ⊢
            rw [routeToAgent, hws]

/-- The agent that is next, when a delivery is made. -/
theorem Served.next (h : Served ws c envelope s n) {sid : UUID} {flow : AgentFlow}
    {node : AgentNode} {todo : List AgentNode} (htask : s.taskOf c = some (conn, task))
    (hstage : task.stage = .delivering sid flow (node :: todo)) :
    task.envelope = envelope ∧ n.questions = 1 ∧ n.flow = some flow ∧ n.sessionId = some sid ∧
      n.looks = 0 ∧ n.answers = [] ∧ ws = task.websocket ∧ c = task.connId ∧
      ∃ done, flow.agents = done ++ node :: todo ∧ n.deliveries.length = done.length := by
  have htask := broadcastOf_of_taskOf htask
  cases h with
  | delivering hdelivering hquestions hflow hsid hagents hlooks hanswers =>
      obtain rfl := Option.some.inj (htask.symm.trans hdelivering)
      obtain ⟨rfl, rfl, hnodes⟩ := FlowStage.delivering.inj hstage
      obtain ⟨rfl, rfl⟩ := List.cons.inj hnodes
      exact ⟨rfl, hquestions, hflow, hsid, hlooks, hanswers, rfl, rfl, hagents⟩
  | planning hother _ _ _ _ | collecting hother _ _ _ _ _ _ =>
      obtain rfl := Option.some.inj (htask.symm.trans hother)
      cases hstage
  | answered hnone _ _ _ _ _ | failed hnone _ _ _ _ _ _ _ => cases htask.symm.trans hnone

theorem Served.deliver (h : Served ws c envelope s n)
    (hfire : s.fire env (.deliver c) = some fired) (d : FlowDelivery) :
    Served ws c envelope fired.server { n with deliveries := n.deliveries ++ [d] } := by
  obtain ⟨conn, o, hhandles, -, hbroadcast⟩ := fire_loop hfire rfl
  cases hhandles with
  | deliver htask hstage =>
      obtain ⟨rfl, hquestions, hflow, hsid, hlooks, hanswers, rfl, rfl, done, hagents, hdone⟩ :=
        h.next htask hstage
      rw [Bus.deliverNext] at hbroadcast
      split at hbroadcast
      · rename_i hparse
        refine .failed hbroadcast hquestions hflow ?_ hparse ?_ hlooks hanswers
        · rw [hagents]
          exact List.mem_append_right _ List.mem_cons_self
        · dsimp only
          rw [hagents, List.length_append, List.length_append, hdone]
          exact Nat.add_le_add_left (Nat.succ_le_succ (Nat.zero_le _)) _
      · refine served_stageFor hbroadcast hquestions hflow hsid
          (hagents.trans (List.append_cons ..)) ?_ hlooks hanswers
        rw [List.length_append, List.length_append, hdone]
        rfl

theorem Delivers.deliver (hd : Delivers envelope n) (h : Served ws c envelope s n)
    (hfire : s.fire env (.deliver c) = some fired) : Delivers envelope
      { n with deliveries := n.deliveries ++ [⟨s.bus.registry, s.sentBy env (.deliver c)⟩] } := by
  obtain ⟨conn, o, hhandles, hsends, -⟩ := fire_loop hfire rfl
  rw [hsends]
  cases hhandles with
  | @deliver _ _ task sid flow node todo htask hstage =>
      obtain ⟨rfl, -, hflow, hsid, -, -, -, -, done, hagents, hdone⟩ := h.next htask hstage
      intro sid' flow' hsid' hflow'
      obtain rfl := Option.some.inj (hsid.symm.trans hsid')
      obtain rfl := Option.some.inj (hflow.symm.trans hflow')
      have hold := hd sid flow hsid hflow
      rw [hdone, hagents, List.take_left] at hold
      rw [List.length_append, hdone, hagents, List.take_length_add_append]
      exact List.rel_append hold (.cons deliverNext_delivered .nil)

/-- Before the answer of the language model nothing is delivered. -/
theorem Served.delivers_answer {answer : Option AgentFlow} {answers : List (Nat × Message)}
    (h : Served ws c envelope s n) (hfire : s.fire env (.answer c answer) = some fired) :
    Delivers envelope
      { n with
        flow := discoverFlow answer
        sessionId := some (env.uuid 0)
        questions := n.questions + 1
        answers := answers } := by
  obtain ⟨conn, o, hhandles, -, -⟩ := fire_loop hfire rfl
  cases hhandles with
  | answer _ htask hstage =>
      have htask := broadcastOf_of_taskOf htask
      cases h with
      | planning _ _ hdeliveries _ _ =>
          intro sid flow _ _
          dsimp only
          rw [hdeliveries]
          exact .nil
      | delivering hother _ _ _ _ _ _ | collecting hother _ _ _ _ _ _ =>
          obtain rfl := Option.some.inj (htask.symm.trans hother)
          cases hstage
      | answered hnone _ _ _ _ _ | failed hnone _ _ _ _ _ _ _ => cases htask.symm.trans hnone

/-- The end of a collection answers. -/
theorem finishFlow_answers {b : Bus} {task : FlowTask} {sid : UUID} {flow : AgentFlow}
    {offers : List Offer} : ∃ answer, (b.finishFlow env task sid flow offers).sends = [answer] ∧
      Answers task.websocket task.envelope answer := by
  rw [Bus.finishFlow]
  split
  · exact ⟨_, rfl, answers_error⟩
  · exact ⟨_, rfl, rfl, rfl, .inr rfl⟩

/-- A look at the offers goes on with one look less, or ends the broadcast with an answer. -/
theorem pollOffers_served {b : Bus} {task : FlowTask} {sid : UUID} {flow : AgentFlow}
    {polls : Nat} : (b.pollOffers env task sid flow polls).error = none ∧
      (1 < polls ∧ (b.pollOffers env task sid flow polls).sends = [] ∧
          (b.pollOffers env task sid flow polls).task = some { task with
            stage := .collecting sid flow (polls - 1) (env.now + Bus.pollInterval) } ∨
        (b.pollOffers env task sid flow polls).task = none ∧
          ∃ answer, (b.pollOffers env task sid flow polls).sends = [answer] ∧
            Answers task.websocket task.envelope answer) := by
  refine ⟨b.pollOffers_error env task sid flow polls, ?_⟩
  rw [Bus.pollOffers]
  split
  · exact .inr ⟨finishFlow_task, finishFlow_answers⟩
  · split
    · exact .inr ⟨finishFlow_task, finishFlow_answers⟩
    · rename_i hpolls
      exact .inl ⟨not_le.mp hpolls, rfl, rfl⟩

theorem Served.poll (h : Served ws c envelope s n)
    (hfire : s.fire env (.poll c) = some fired) : Served ws c envelope fired.server
      { n with looks := n.looks + 1, answers := n.answers ++ s.sentBy env (.poll c) } := by
  obtain ⟨conn, o, hhandles, hsends, hbroadcast⟩ := fire_loop hfire rfl
  rw [hsends]
  cases hhandles with
  | poll htask hstage _ =>
      rename_i task sid flow polls wake
      have htask := broadcastOf_of_taskOf htask
      cases h with
      | collecting hcollecting hquestions hflow hdeliveries hpos hlooks hanswers =>
          obtain rfl := Option.some.inj (htask.symm.trans hcollecting)
          obtain ⟨rfl, rfl, rfl, rfl⟩ := FlowStage.collecting.inj hstage
          obtain ⟨herror, hcases⟩ := @pollOffers_served env s.bus
            ⟨ws, c, envelope, .collecting _ _ _ _⟩ _ _ _
          rw [if_pos herror] at hbroadcast
          rcases hcases with ⟨hmore, hnothing, hnext⟩ | ⟨hended, answer, hanswer, hanswers'⟩
          · refine .collecting (hbroadcast.trans hnext) hquestions hflow hdeliveries
              (by omega) (by dsimp only; omega) ?_
            dsimp only
            rw [hanswers, hnothing]
            rfl
          · refine .answered (hbroadcast.trans hended) hquestions.le ?_ (by dsimp only; omega) ?_
              hanswers'
            · rw [FlowNotes.agents]
              dsimp only
              rw [hflow]
              exact hdeliveries
            · dsimp only
              rw [hanswers, hanswer]
              rfl
      | planning hother _ _ _ _ | delivering hother _ _ _ _ _ _ =>
          obtain rfl := Option.some.inj (htask.symm.trans hother)
          cases hstage
      | answered hnone _ _ _ _ _ | failed hnone _ _ _ _ _ _ _ => cases htask.symm.trans hnone

/-! ## Runs -/

/-- The broadcast is where the notes say, and without a broadcast nothing is under way. -/
structure Noted (c : String) (s : Server) (n : FlowNotes) : Prop where
  served : ∀ ws envelope, n.last = some (ws, envelope) → envelope.messageType = .intentBroadcast →
    Served ws c envelope s n ∧ Delivers envelope n
  idle : (∀ ws envelope, n.last = some (ws, envelope) → envelope.messageType ≠ .intentBroadcast) →
    s.broadcastOf c = none

/-- Without a step of its message loop the notes stay right. -/
theorem Noted.frame (h : Noted c s n) (hs : s.Wired) (hfire : s.fire env a = some fired)
    (ha : Action.loop? a ≠ some c) : Noted c fired.server n where
  served ws envelope hlast htype :=
    (h.served ws envelope hlast htype).imp_left (·.congr (broadcastOf_frame hs hfire ha))
  idle hidle := (broadcastOf_frame hs hfire ha).trans (h.idle hidle)

/-- A message of the connection starts new notes. -/
theorem Noted.message (hfire : s.fire env (.message c envelope) = some fired) :
    Noted c fired.server
      { last := some (((s.connections.get? c).map Connection.websocket).getD 0, envelope)
        answers := s.sentBy env (.message c envelope) } := by
  obtain ⟨conn, o, hhandles, -, hbroadcast⟩ := fire_loop hfire rfl
  rw [hhandles.get?]
  constructor
  · intro ws envelope' hlast htype
    obtain ⟨rfl, rfl⟩ := Prod.mk.inj (Option.some.inj hlast)
    refine ⟨served_message hhandles.get? hfire htype ⟨rfl, rfl, rfl, rfl, rfl⟩, ?_⟩
    exact fun _ _ h ↦ by cases h
  · intro hother
    rw [hbroadcast]
    split
    · cases hhandles with
      | message _ _ _ =>
          by_contra hsome
          obtain ⟨task, htask⟩ := Option.ne_none_iff_exists'.mp hsome
          exact hother _ _ rfl (Bus.handleMessage_task htask).1
    · rfl

/-- The broadcast that a step of the message loop goes on with. -/
theorem Noted.current (h : Noted c s n) (hhandles : s.Handles env a c conn o)
    (ha : ∀ envelope, a ≠ .message c envelope) : ∃ ws envelope, n.last = some (ws, envelope) ∧
      envelope.messageType = .intentBroadcast := by
  obtain ⟨task, htask⟩ : ∃ task, s.broadcastOf c = some task := by
    cases hhandles with
    | message envelope _ _ => exact absurd rfl (ha envelope)
    | answer _ htask _ | deliver htask _ | poll htask _ _ => exact ⟨_, broadcastOf_of_taskOf htask⟩
  by_contra hnone
  cases htask.symm.trans (h.idle fun ws envelope hlast htype ↦ hnone ⟨ws, envelope, hlast, htype⟩)

/-- A step that goes on with a broadcast. -/
theorem Noted.goOn {n' : FlowNotes} (h : Noted c s n) (hfire : s.fire env a = some fired)
    (hloop : Action.loop? a = some c) (ha : ∀ envelope, a ≠ .message c envelope)
    (hlast : n'.last = n.last)
    (hserved : ∀ ws envelope, Served ws c envelope s n → Delivers envelope n →
      Served ws c envelope fired.server n' ∧ Delivers envelope n') : Noted c fired.server n' := by
  obtain ⟨conn, o, hhandles, -, -⟩ := fire_loop hfire hloop
  obtain ⟨ws, envelope, hcurrent, htype⟩ := h.current hhandles ha
  constructor
  · intro ws' envelope' hlast' htype'
    obtain ⟨hs, hd⟩ := h.served ws' envelope' (hlast.symm.trans hlast') htype'
    exact hserved ws' envelope' hs hd
  · intro hother
    exact absurd htype (hother ws envelope (hlast.trans hcurrent))

theorem Noted.step {x y : (Time × Server) × FlowNotes} {l : Label} (h : Noted c x.1.2 x.2)
    (hs : x.1.2.Wired) (hstep : Step.Noting (flowNote c) (Step.Timed Steps) x l y) :
    Noted c y.1.2 y.2 := by
  obtain ⟨⟨-, -, -, fired, hfire, hserver⟩, hnote⟩ := hstep
  rw [hnote, ← hserver]
  obtain ⟨now, ids, a⟩ := l
  rw [flowNote]
  cases a with
  | message c' envelope =>
      dsimp only
      split
      · rename_i hc
        subst hc
        exact .message hfire
      · rename_i hc
        exact h.frame hs hfire fun hloop ↦ hc (Option.some.inj hloop)
  | answer c' answer =>
      dsimp only
      split
      · rename_i hc
        subst hc
        refine h.goOn hfire rfl (by simp) rfl fun ws envelope hserved hd ↦ ?_
        exact ⟨hserved.answer hfire, hserved.delivers_answer hfire⟩
      · rename_i hc
        exact h.frame hs hfire fun hloop ↦ hc (Option.some.inj hloop)
  | deliver c' =>
      dsimp only
      split
      · rename_i hc
        subst hc
        refine h.goOn hfire rfl (by simp) rfl fun ws envelope hserved hd ↦ ?_
        exact ⟨hserved.deliver hfire _, hd.deliver hserved hfire⟩
      · rename_i hc
        exact h.frame hs hfire fun hloop ↦ hc (Option.some.inj hloop)
  | poll c' =>
      dsimp only
      split
      · rename_i hc
        subst hc
        refine h.goOn hfire rfl (by simp) rfl fun ws envelope hserved hd ↦ ?_
        exact ⟨hserved.poll hfire, hd⟩
      · rename_i hc
        exact h.frame hs hfire fun hloop ↦ hc (Option.some.inj hloop)
  | connect _ _ | disconnect _ _ | sessionTick | registryTick | queueWrite _ _
  | deliverEvent _ =>
      exact h.frame hs hfire (by simp [Action.loop?])

/-- The clock reading that the next step of a broadcast waits for. -/
def FlowStage.wake : FlowStage → Time
  | .collecting _ _ _ wake => wake
  | _ => 0

/-- A broadcast that is served and under way can go on. -/
theorem Served.canGoOn (h : Served ws c envelope s n) (htask : s.broadcastOf c = some task)
    (hwake : FlowStage.wake task.stage ≤ env.now) :
    ∃ a ∈ [Action.answer c none, .deliver c, .poll c], (s.fire env a).isSome = true := by
  obtain ⟨conn, hget, hconn⟩ := Option.bind_eq_some_iff.mp htask
  have htaskOf := taskOf_eq hget hconn
  cases h with
  | planning hother _ _ _ _ =>
      obtain rfl := Option.some.inj (htask.symm.trans hother)
      refine ⟨.answer c none, by simp, ?_⟩
      show (((s.taskOf c).bind _).map _).isSome = true
      rw [htaskOf]
      rfl
  | delivering hother _ _ _ _ _ _ =>
      obtain rfl := Option.some.inj (htask.symm.trans hother)
      refine ⟨.deliver c, by simp, ?_⟩
      show (((s.taskOf c).bind _).map _).isSome = true
      rw [htaskOf]
      rfl
  | @collecting _ _ _ wake hother _ _ _ _ _ _ =>
      obtain rfl := Option.some.inj (htask.symm.trans hother)
      have hwake : wake ≤ env.now := hwake
      refine ⟨.poll c, by simp, ?_⟩
      show (((s.taskOf c).bind _).map _).isSome = true
      rw [htaskOf, Option.bind_some]
      dsimp only
      rw [if_neg (not_lt.mpr hwake)]
      rfl
  | answered hnone _ _ _ _ _ | failed hnone _ _ _ _ _ _ _ => cases htask.symm.trans hnone

/-- In every run, whatever the other connections do: a broadcast that a connection sends is
answered exactly once, to its websocket and with its message id, after at most one question to
the language model, the delivery of the intent to each agent of the flow, in order, over the
websocket it has at that time if it has one, and the rounds of looks, unless an agent of the flow
has no UUID.  Before its answer it sends nothing but these deliveries, of which one is to the
requester if the flow names it, and it can go on as soon as its pause is over. -/
theorem broadcast_served {library : Library} {settings : Settings} {t₀ : Time} {as : List Label}
    {x : (Time × Server) × FlowNotes}
    (hrun : Run (Step.Noting (flowNote c) (Step.Timed Steps)) ((t₀, start library settings), {}) as x)
    (hlast : x.2.last = some (ws, envelope)) (htype : envelope.messageType = .intentBroadcast) :
    Served ws c envelope x.1.2 x.2 ∧ Delivers envelope x.2 ∧
      ∀ task env, x.1.2.broadcastOf c = some task → FlowStage.wake task.stage ≤ env.now →
        ∃ a ∈ [Action.answer c none, .deliver c, .poll c], (x.1.2.fire env a).isSome = true := by
  have hinv := hrun.invariant (P := fun x ↦ x.1.2.Wired ∧ Noted c x.1.2 x.2) ?_
    ⟨.start library settings, ⟨fun _ _ h ↦ (by cases h), fun _ ↦ rfl⟩⟩
  · obtain ⟨hserved, hdelivers⟩ := hinv.2.served ws envelope hlast htype
    exact ⟨hserved, hdelivers, fun task env htask hwake ↦ hserved.canGoOn htask hwake⟩
  · rintro x l y ⟨hs, h⟩ hstep
    exact ⟨hs.step hstep.1.2.2, h.step hs hstep⟩

def sampleServed : (Time × Server) × FlowNotes :=
  playNotes (flowNote requesterConn) (sampleStart, {}) sampleNegotiation

/-- It was answered, after one delivery and one look. -/
theorem broadcast_served_sample : ∃ ws envelope,
    Served ws requesterConn envelope sampleServed.1.2 sampleServed.2 ∧
      (sampleServed.2.answers.map fun e ↦ (e.1, e.2.messageType)) = [(10, .intentOffers)] ∧
      (sampleServed.2.deliveries.map fun d ↦ d.sends.map fun e ↦ (e.1, e.2.messageType))
        = [[(11, .intentDeliver)]] ∧ sampleServed.2.looks = 1 := by
  have hrun : Run (Step.Only (fun _ _ ↦ True) (Step.Noting (flowNote requesterConn)
      (Step.Timed Steps))) (sampleStart, {}) _ sampleServed := run_playNotes (by decide +kernel)
  have htype : sampleServed.2.last.map (fun e ↦ e.2.messageType) = some .intentBroadcast := by
    decide +kernel
  obtain ⟨⟨ws, envelope⟩, hlast, htype⟩ := Option.map_eq_some_iff.mp htype
  refine ⟨ws, envelope, (broadcast_served hrun.of_only hlast htype).1, ?_, ?_, ?_⟩
  · decide +kernel
  · decide +kernel
  · decide +kernel

end Server

end SemanticBus
