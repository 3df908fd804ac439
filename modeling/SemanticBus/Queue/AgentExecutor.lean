import SemanticBus.Registry.Registry
import SemanticBus.Routing.QueuedRouter

/-!
# The executor that sends tasks to agents

`AgentTaskExecutor.execute` looks a websocket up by the connection id of the task, and by the
agent id only where there is no connection id.  That second lookup asks the registry for
`get_by_agent_id`, which it does not have.

`Delivers` says what execution is to do for the agent of the task.  It does so exactly if the
open websocket that the connection id names is the agent's current one (`delivers_iff`).  A task
from `queue_to_agent` names the connection that the agent had when it was queued, so it is
delivered until the agent connects over another websocket (`delivers_queued_iff`).
-/

namespace SemanticBus

/-- What `execute` raises, with the text of the exception. -/
inductive ExecuteError where
  | attributeError (message : String)
  | valueError (message : String)
  | connectionError (message : String)
deriving DecidableEq, Repr

/-- The sends that were tried, and the result. -/
abbrev Execution := List (Nat × String) × Except ExecuteError TaskResult

namespace AgentTaskExecutor

def orNone : Option String → String
  | none => "None"
  | some s => s

def connIdOf (task : TaskPayload) : Option String := task.targetConnId.filter (· ≠ "")

/-- Send the envelope of the task; `sendText` says for each websocket whether it takes a message
or with which text its exception comes. -/
def deliver (sendText : Nat → Except String Unit) (now : Time) (task : TaskPayload) :
    Option Nat → Execution
  | none =>
      ([], .error (.connectionError ("No websocket for agent "
        ++ orNone (task.targetAgentId.map UUID.str) ++ " (conn_id=" ++ orNone task.targetConnId
        ++ ")")))
  | some websocket =>
      ([(websocket, task.envelopeJson)],
        match sendText websocket with
        | .error e => .error (.connectionError ("Failed to send to agent: " ++ e))
        | .ok () => .ok
            { taskId := task.taskId
              status := .completed
              result := some (.obj [("delivered", .bool true)])
              processedAt := now })

def execute (r : AgentRegistry) (sendText : Nat → Except String Unit) (now : Time)
    (task : TaskPayload) : Execution :=
  match connIdOf task, task.targetAgentId with
  | some connId, _ => deliver sendText now task (r.getWebsocket connId)
  | none, some _ =>
      ([], .error (.attributeError "'AgentRegistry' object has no attribute 'get_by_agent_id'"))
  | none, none => ([], .error (.valueError "Task has no target agent or connection"))

/-- The websocket that the connection id of a task names. -/
def named (r : AgentRegistry) (task : TaskPayload) : Option Nat :=
  (connIdOf task).bind r.getWebsocket

def current (r : AgentRegistry) (agentId : UUID) : Option Nat :=
  (r.getAgentById agentId).bind fun agent ↦ r.getWebsocket agent.connId

/-- The task is sent once to the agent's current websocket if that takes it, and else execution
raises. -/
structure Delivers (r : AgentRegistry) (sendText : Nat → Except String Unit) (now : Time)
    (task : TaskPayload) (agentId : UUID) : Prop where
  delivered : ∀ agent w, r.getAgentById agentId = some agent →
    r.getWebsocket agent.connId = some w → sendText w = .ok () →
      (execute r sendText now task).1 = [(w, task.envelopeJson)] ∧
        ∃ result, (execute r sendText now task).2 = .ok result ∧ result.status = .completed
  absent : r.getAgentById agentId = none → ∃ e, (execute r sendText now task).2 = .error e
  refused : ∀ agent w, r.getAgentById agentId = some agent →
    r.getWebsocket agent.connId = some w → sendText w ≠ .ok () →
      ∃ e, (execute r sendText now task).2 = .error e
  failed : ∀ sent ∈ (execute r sendText now task).1, sendText sent.1 ≠ .ok () →
    ∃ e, (execute r sendText now task).2 = .error e

variable {r : AgentRegistry} {sendText : Nat → Except String Unit} {now : Time}
  {task : TaskPayload} {a : UUID} {agent : AgentRecord} {w : Nat} {c : String}

/-! ## Execution -/

/-- A named websocket that takes the message gets it. -/
theorem execute_of_named (hnamed : named r task = some w) (hsend : sendText w = .ok ()) :
    (execute r sendText now task).1 = [(w, task.envelopeJson)] ∧
      ∃ result, (execute r sendText now task).2 = .ok result ∧ result.status = .completed := by
  obtain ⟨connId, hconn, hget⟩ := Option.bind_eq_some_iff.mp hnamed
  rw [execute, hconn]
  dsimp only
  rw [hget, deliver, hsend]
  exact ⟨rfl, _, rfl, rfl⟩

/-- Execution raises if no named websocket takes the message. -/
theorem execute_raises (h : ∀ w, named r task = some w → sendText w ≠ .ok ()) :
    ∃ e, (execute r sendText now task).2 = .error e := by
  rw [execute]
  cases hconn : connIdOf task with
  | none =>
      cases task.targetAgentId with
      | none => exact ⟨_, rfl⟩
      | some _ => exact ⟨_, rfl⟩
  | some connId =>
      dsimp only
      cases hget : r.getWebsocket connId with
      | none => exact ⟨_, rfl⟩
      | some w =>
          have hrefused : sendText w ≠ .ok () := by
            refine h w ?_
            rw [named, hconn]
            exact hget
          rw [deliver]
          cases hsend : sendText w with
          | error e => exact ⟨_, rfl⟩
          | ok u => exact absurd hsend hrefused

/-- Only the named websocket is sent to. -/
theorem named_of_sent {sent : Nat × String} (h : sent ∈ (execute r sendText now task).1) :
    named r task = some sent.1 := by
  rw [execute] at h
  cases hconn : connIdOf task with
  | none =>
      rw [hconn] at h
      cases htarget : task.targetAgentId with
      | none =>
          rw [htarget] at h
          cases h
      | some _ =>
          rw [htarget] at h
          cases h
  | some connId =>
      rw [hconn] at h
      dsimp only at h
      rw [named, hconn]
      show r.getWebsocket connId = some sent.1
      cases hget : r.getWebsocket connId with
      | none =>
          rw [hget] at h
          cases h
      | some w =>
          rw [hget, deliver] at h
          rw [List.mem_singleton.mp h]

/-! ## The agent's websocket -/

theorem current_eq_some_iff :
    current r a = some w ↔
      ∃ agent, r.getAgentById a = some agent ∧ r.getWebsocket agent.connId = some w :=
  Option.bind_eq_some_iff

/-- A registered agent has a current websocket. -/
theorem current_isSome (h : r.Coherent) (hget : r.getAgentById a = some agent) :
    ∃ w, r.getWebsocket agent.connId = some w := by
  obtain ⟨c, -, hrecord⟩ := Option.bind_eq_some_iff.mp hget
  obtain ⟨hc, -⟩ := h.keyed c agent hrecord
  rw [hc]
  exact (h.same_keys c).mp ⟨agent, hrecord⟩

/-- A connection id of an agent is that of its current connection or of none. -/
theorem current_of_own (h : r.Coherent) {tenantId : String} {websocket : Nat}
    (hget : r.getWebsocket (connId tenantId a websocket) = some w) :
    r.connByAgent.get? a = some (connId tenantId a websocket) ∧ current r a = some w := by
  obtain ⟨agent, hrecord⟩ := (h.same_keys _).mpr ⟨w, hget⟩
  obtain ⟨hc, websocket', hkey⟩ := h.keyed _ agent hrecord
  have hid : agent.agentId = a := (connId_injective hkey).2.1.symm
  have hconn := (h.conn_iff a _).mpr ⟨agent, hrecord, hid⟩
  refine ⟨hconn, current_eq_some_iff.mpr ⟨agent, ?_, hc ▸ hget⟩⟩
  rw [AgentRegistry.getAgentById, hconn]
  exact hrecord

/-! ## Delivery -/

/-- Execution delivers if the named websocket and the current one are one, as far as they take
messages. -/
theorem delivers_of_coherent (h : r.Coherent) :
    Delivers r sendText now task a ↔
      ∀ w, sendText w = .ok () → (named r task = some w ↔ current r a = some w) := by
  constructor
  · intro hd w hsend
    constructor
    · intro hnamed
      obtain ⟨hsent, result, hok, -⟩ := @execute_of_named r sendText now task w hnamed hsend
      cases hagent : r.getAgentById a with
      | none =>
          obtain ⟨e, herror⟩ := hd.absent hagent
          cases herror.symm.trans hok
      | some agent =>
          obtain ⟨w', hw'⟩ := current_isSome h hagent
          by_cases hsend' : sendText w' = .ok ()
          · have hsent' := (hd.delivered agent w' hagent hw' hsend').1
            have hw := (Prod.mk.inj (List.singleton_inj.mp (hsent.symm.trans hsent'))).1
            exact current_eq_some_iff.mpr ⟨agent, hagent, hw ▸ hw'⟩
          · obtain ⟨e, herror⟩ := hd.refused agent w' hagent hw' hsend'
            cases herror.symm.trans hok
    · intro hcurrent
      obtain ⟨agent, hagent, hw⟩ := current_eq_some_iff.mp hcurrent
      have hsent := (hd.delivered agent w hagent hw hsend).1
      exact named_of_sent (by rw [hsent]; exact List.mem_singleton.mpr rfl)
  · intro hiff
    constructor
    · intro agent w hagent hw hsend
      have hcurrent := current_eq_some_iff.mpr ⟨agent, hagent, hw⟩
      exact execute_of_named ((hiff w hsend).mpr hcurrent) hsend
    · intro habsent
      refine execute_raises fun w hnamed hsend ↦ ?_
      obtain ⟨agent, hagent, -⟩ := current_eq_some_iff.mp ((hiff w hsend).mp hnamed)
      cases habsent.symm.trans hagent
    · intro agent w hagent hw hrefused
      refine execute_raises fun w' hnamed hsend ↦ ?_
      obtain ⟨agent', hagent', hw'⟩ := current_eq_some_iff.mp ((hiff w' hsend).mp hnamed)
      obtain rfl := Option.some.inj (hagent.symm.trans hagent')
      obtain rfl := Option.some.inj (hw.symm.trans hw')
      exact hrefused hsend
    · intro sent hsent hrefused
      refine execute_raises fun w hnamed hsend ↦ ?_
      have hw := Option.some.inj (hnamed.symm.trans (named_of_sent hsent))
      exact hrefused (hw ▸ hsend)

/-- A task that `queue_to_agent` made for a registered agent is delivered exactly if the agent is
still at that connection or its websocket takes no message. -/
theorem delivers_queued_iff (h : r.Coherent) {before : AgentRegistry} (hbefore : before.Coherent)
    {router : QueuedRouter} {dump : MessageEnvelope → String} {taskId : UUID} {createdAt : Time}
    {request : QueueRequest} (hget : before.getAgentByConn c = some request.agent) :
    Delivers r sendText now (router.taskOf dump taskId createdAt request) request.agent.agentId ↔
      ∀ w, current r request.agent.agentId = some w → sendText w = .ok () →
        r.connByAgent.get? request.agent.agentId = some request.agent.connId := by
  obtain ⟨-, websocket, hkey⟩ := hbefore.keyed c _ hget
  obtain ⟨hc, -⟩ := hbefore.keyed c _ hget
  have hconn : connIdOf (router.taskOf dump taskId createdAt request)
      = some request.agent.connId := by
    refine Option.filter_eq_some_iff.mpr ⟨rfl, decide_eq_true_iff.mpr fun hempty ↦ ?_⟩
    have hcolon : ':' ∈ request.agent.connId.toList := by
      rw [hc, hkey, connId]
      simp
    rw [hempty] at hcolon
    cases hcolon
  have hnamed : named r (router.taskOf dump taskId createdAt request)
      = r.getWebsocket request.agent.connId := by
    rw [named, hconn]
    rfl
  have hown : request.agent.connId = connId request.agent.tenantId request.agent.agentId websocket :=
    hc.trans hkey
  rw [delivers_of_coherent h, hnamed]
  constructor
  · intro hiff w hcurrent hsend
    have hw := (hiff w hsend).mpr hcurrent
    rw [hown] at hw ⊢
    exact (current_of_own h hw).1
  · intro hat w hsend
    constructor
    · intro hw
      rw [hown] at hw
      exact (current_of_own h hw).2
    · intro hcurrent
      obtain ⟨agent, hagent, hw⟩ := current_eq_some_iff.mp hcurrent
      obtain ⟨c', hc', hrecord⟩ := Option.bind_eq_some_iff.mp hagent
      have hsame := Option.some.inj (hc'.symm.trans (hat w hcurrent hsend))
      rw [← hsame, ← (h.keyed c' agent hrecord).1]
      exact hw

/-- In every state of a registry, execution of a task delivers it to its agent exactly if the open
websocket that its connection id names is the agent's current one. -/
theorem delivers_iff {heartbeatTimeout : ℚ} {ops : List (Time × AgentRegistry.RegistryOp)}
    (h : Run AgentRegistry.Executes { heartbeatTimeout := heartbeatTimeout } ops r)
    (sendText : Nat → Except String Unit) (now : Time) (task : TaskPayload) :
    ∀ a ∈ task.targetAgentId, (Delivers r sendText now task a ↔
      ∀ w, sendText w = .ok () → (named r task = some w ↔ current r a = some w)) :=
  fun _ _ ↦ delivers_of_coherent (AgentRegistry.Coherent.of_run h)

/-- An agent connects, and connects again over another websocket. -/
def reconnected : AgentRegistry :=
  (({} : AgentRegistry).exec 0
      (.register ⟨1⟩ "acme" 10 (.arr []) (.arr []) (.obj []) (.obj []))).exec 1
    (.register ⟨1⟩ "acme" 11 (.arr []) (.arr []) (.obj []) (.obj []))

def taskFor (targetConnId : Option String) : TaskPayload :=
  { taskId := ⟨7⟩
    targetAgentId := some ⟨1⟩
    targetConnId := targetConnId
    envelopeJson := "message"
    createdAt := 0 }

/-- A task for the new connection is delivered. -/
theorem delivers_sample :
    Delivers reconnected (fun _ ↦ .ok ()) 2 (taskFor (some (connId "acme" ⟨1⟩ 11))) ⟨1⟩ := by
  have hrun : Run AgentRegistry.Executes {}
      [(0, .register ⟨1⟩ "acme" 10 (.arr []) (.arr []) (.obj []) (.obj [])),
        (1, .register ⟨1⟩ "acme" 11 (.arr []) (.arr []) (.obj []) (.obj []))] reconnected :=
    .cons rfl (.single rfl)
  refine (delivers_iff hrun _ 2 _ ⟨1⟩ rfl).mpr fun w _ ↦ ?_
  have hnamed : named reconnected (taskFor (some (connId "acme" ⟨1⟩ 11))) = some 11 := by
    decide +kernel
  have hcurrent : current reconnected ⟨1⟩ = some 11 := by decide +kernel
  rw [hnamed, hcurrent]

/-- A task for the connection before, and one without a connection id, is not. -/
theorem not_delivers :
    ¬ Delivers reconnected (fun _ ↦ .ok ()) 2 (taskFor (some (connId "acme" ⟨1⟩ 10))) ⟨1⟩ ∧
      ¬ Delivers reconnected (fun _ ↦ .ok ()) 2 (taskFor none) ⟨1⟩ := by
  have hagent : ∃ agent, reconnected.getAgentById ⟨1⟩ = some agent ∧
      reconnected.getWebsocket agent.connId = some 11 := current_eq_some_iff.mp (by decide +kernel)
  obtain ⟨agent, hget, hw⟩ := hagent
  constructor
  · intro h
    have hsent := (h.delivered agent 11 hget hw rfl).1
    revert hsent
    decide +kernel
  · intro h
    have hsent := (h.delivered agent 11 hget hw rfl).1
    revert hsent
    decide +kernel

end AgentTaskExecutor

end SemanticBus
