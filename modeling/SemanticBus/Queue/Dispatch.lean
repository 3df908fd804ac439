import SemanticBus.Queue.AgentExecutor
import SemanticBus.Queue.Letter
import SemanticBus.Queue.Worker
import SemanticBus.Registry.Roster

/-!
# From the router to the websocket

The queued router, the queue, the worker pool and the executor with the registry behind it, as
one system.  Callers of the router use records that they got from the registry some time ago;
agents come and go all the while.  A worker looks the websocket up and sends to it in two steps,
and reports in a third one.  A stopped worker drops what it has.

`Dispatched` says what is to become of a message: it is sent at most four times, only to the
websocket of the record it was queued with, and never again after it was taken.  `Tracks` is the
relation to the `Letter` that it is, and `custody_step` the one to the pool of workers.
-/

universe u v

namespace SemanticBus

/-- How far a worker is with the task it got. -/
inductive Stage where
  | handed
  /-- The websocket is looked up. -/
  | found (websocket : Nat)
  /-- The executor returned or raised. -/
  | ended (outcome : Except ExecuteError TaskResult)

def Stage.phase : Stage → Phase
  | .handed => .handed
  | .found _ => .found
  | .ended (.ok _) => .ended true
  | .ended (.error _) => .ended false

/-- The websocket, once it is looked up, is this one. -/
def Stage.At (home : Nat) : Stage → Prop
  | .found websocket => websocket = home
  | .handed | .ended _ => True

/-- The statuses of the task of a message that is at this place. -/
def Place.Is : Place → TaskStatus → Prop
  | .waiting, .pending | .away _, .processing | .withdrawn, .cancelled | .withdrawn, .expired
  | .delivered, .completed | .abandoned, .failed => True
  | _, _ => False

theorem Place.is_pending {p : Place} (h : p.Is .pending) : p = .waiting := by
  cases p <;> first | rfl | exact h.elim

theorem Place.is_processing {p : Place} (h : p.Is .processing) : ∃ phase, p = .away phase := by
  cases p with
  | away phase => exact ⟨phase, rfl⟩
  | _ => exact h.elim

theorem Place.is_completed {p : Place} (h : p.Is .completed) : p = .delivered := by
  cases p <;> first | rfl | exact h.elim

theorem Place.is_failed {p : Place} (h : p.Is .failed) : p = .abandoned := by
  cases p <;> first | rfl | exact h.elim

theorem Place.is_withdrawn {p : Place} (h : p.Is .cancelled ∨ p.Is .expired) : p = .withdrawn := by
  cases p <;> first | rfl | exact (h.elim False.elim False.elim)

/-- A registry and a queue, the records that callers of the router have, and what each worker is
executing. -/
structure Dispatch (ω : Type v) (η : Type u) where
  registry : AgentRegistry
  queue : InMemoryTaskQueue η
  records : List AgentRecord := []
  workers : ω → Option (TaskPayload × Stage) := fun _ ↦ none

structure Sent where
  websocket : Nat
  text : String
  taken : Bool
deriving DecidableEq

inductive DispatchEvent (ω : Type v) where
  | registry (op : AgentRegistry.RegistryOp)
  /-- A caller gets the record of a connection. -/
  | lookUp (connId : String)
  | queueToAgent (router : QueuedRouter) (taskId : UUID) (createdAt : Time)
      (request : QueueRequest) (reply : QueueReply)
  /-- Another call of the queue. -/
  | client (op : QueueOp) (reply : QueueReply)
  | poll (w : ω) (task : Option TaskPayload)
  | find (w : ω)
  | send (w : ω) (taskId : UUID) (sent : Sent)
  /-- A worker reports a result or an exception. -/
  | settle (w : ω) (taskId : UUID) (delivered : Bool)
  | stop (w : ω)

def DispatchEvent.sentFor {ω : Type v} (id : UUID) : DispatchEvent ω → Option Sent
  | .send _ taskId sent => if taskId = id then some sent else none
  | _ => none

def DispatchEvent.failedFor {ω : Type v} (id : UUID) : DispatchEvent ω → Bool
  | .settle _ taskId delivered => taskId = id ∧ delivered = false
  | _ => false

/-- What was put on websockets for a message. -/
def Letter.sentTo (home : Nat) (text : String) (l : Letter) : List Sent :=
  List.replicate l.refused ⟨home, text, false⟩ ++ if l.taken then [⟨home, text, true⟩] else []

def ExecuteError.message : ExecuteError → String
  | .attributeError message | .valueError message | .connectionError message => message

namespace Dispatch

open InMemoryTaskQueue AgentTaskExecutor

variable {ω : Type v} [DecidableEq ω] {η : Type u} [MinHeap η PriorityItem.key]

/-- The calls of the queue that are not made by routers and workers. -/
def Outside : QueueOp → Prop
  | .cancel _ | .clearExpired | .shutdown => True
  | _ => False

def put (s : Dispatch ω η) (w : ω) (work : Option (TaskPayload × Stage)) : Dispatch ω η :=
  { s with workers := Function.update s.workers w work }

/-- A step of the system; `dump` is `model_dump_json`, and `filter` the tenant filter of each
worker. -/
inductive Steps (dump : MessageEnvelope → String) (filter : ω → Option String) (now : Time)
    (s : Dispatch ω η) : DispatchEvent ω → Dispatch ω η → Prop
  | registry {op : AgentRegistry.RegistryOp} :
      Steps dump filter now s (.registry op) { s with registry := s.registry.exec now op }
  | lookUp {connId : String} {agent : AgentRecord} :
      s.registry.getAgentByConn connId = some agent →
      Steps dump filter now s (.lookUp connId) { s with records := agent :: s.records }
  | queueToAgent {router : QueuedRouter} {taskId : UUID} {createdAt : Time}
      {request : QueueRequest} {reply : QueueReply} {q' : InMemoryTaskQueue η} :
      request.agent ∈ s.records →
      Calls now s.queue ⟨.enqueue (router.taskOf dump taskId createdAt request) 0, reply⟩ q' →
      Steps dump filter now s (.queueToAgent router taskId createdAt request reply)
        { s with queue := q' }
  | client {op : QueueOp} {reply : QueueReply} {q' : InMemoryTaskQueue η} :
      Outside op → Calls now s.queue ⟨op, reply⟩ q' →
      Steps dump filter now s (.client op reply) { s with queue := q' }
  | poll {w : ω} {task : Option TaskPayload} {q' : InMemoryTaskQueue η} :
      s.workers w = none → Calls now s.queue ⟨.dequeue (filter w), .dequeued task⟩ q' →
      Steps dump filter now s (.poll w task)
        (put { s with queue := q' } w (task.map (·, .handed)))
  | find {w : ω} {task : TaskPayload} {websocket : Nat} :
      s.workers w = some (task, .handed) → named s.registry task = some websocket →
      Steps dump filter now s (.find w) (s.put w (some (task, .found websocket)))
  | miss {w : ω} {task : TaskPayload} {e : ExecuteError} :
      s.workers w = some (task, .handed) →
      execute s.registry (fun _ ↦ .ok ()) now task = ([], .error e) →
      Steps dump filter now s (.find w) (s.put w (some (task, .ended (.error e))))
  | send {w : ω} {task : TaskPayload} {websocket : Nat} {response : Except String Unit} :
      s.workers w = some (task, .found websocket) →
      Steps dump filter now s
        (.send w task.taskId ⟨websocket, task.envelopeJson, response.isOk⟩)
        (s.put w (some (task, .ended (deliver (fun _ ↦ response) now task (some websocket)).2)))
  | finish {w : ω} {task : TaskPayload} {result : TaskResult} {durationMs : ℚ} {ok : Bool}
      {q' : InMemoryTaskQueue η} :
      s.workers w = some (task, .ended (.ok result)) →
      Calls now s.queue
        ⟨.complete task.taskId { result with durationMs := durationMs }, .done ok⟩ q' →
      Steps dump filter now s (.settle w task.taskId true) (put { s with queue := q' } w none)
  /-- The failure is reported, whether this raises or not. -/
  | crash {w : ω} {task : TaskPayload} {e : ExecuteError} {reply : QueueReply}
      {q' : InMemoryTaskQueue η} :
      s.workers w = some (task, .ended (.error e)) →
      Calls now s.queue ⟨.fail task.taskId "EXECUTION_ERROR" e.message true, reply⟩ q' →
      Steps dump filter now s (.settle w task.taskId false) (put { s with queue := q' } w none)
  | stop {w : ω} : Steps dump filter now s (.stop w) (s.put w none)

/-- A run of the system under a clock that never goes back. -/
abbrev Runs (dump : MessageEnvelope → String) (filter : ω → Option String) :
    Time × Dispatch ω η → List (Time × DispatchEvent ω) → Time × Dispatch ω η → Prop :=
  Run (Step.Timed (fun now s ↦ Steps dump filter now s))

omit [DecidableEq ω] in
/-- With nothing in between, a lookup and a send are what `execute` does. -/
theorem execute_eq (r : AgentRegistry) (task : TaskPayload) :
    (∃ websocket, named r task = some websocket ∧ ∀ sendText now,
      execute r sendText now task = deliver sendText now task (some websocket)) ∨
    named r task = none ∧ ∀ sendText now, ∃ e, execute r sendText now task = ([], .error e) := by
  rw [named]
  cases hconn : connIdOf task with
  | none =>
      refine .inr ⟨rfl, fun sendText now ↦ ?_⟩
      rw [execute, hconn]
      cases task.targetAgentId with
      | none => exact ⟨_, rfl⟩
      | some agentId => exact ⟨_, rfl⟩
  | some c =>
      rw [Option.bind_some]
      cases hget : r.getWebsocket c with
      | none =>
          refine .inr ⟨rfl, fun sendText now ↦ ?_⟩
          rw [execute, hconn]
          dsimp only
          rw [hget]
          exact ⟨_, rfl⟩
      | some websocket =>
          refine .inl ⟨websocket, rfl, fun sendText now ↦ ?_⟩
          rw [execute, hconn]
          dsimp only
          rw [hget]

/-! ## What is known of a message -/

/-- The message was queued under this id. -/
def Queued (as : List (Time × DispatchEvent ω)) (id : UUID) (request : QueueRequest) : Prop :=
  ∃ now router createdAt task,
    (now, .queueToAgent router id createdAt request (.accepted task)) ∈ as

def sends (id : UUID) (as : List (Time × DispatchEvent ω)) : List Sent :=
  as.filterMap (·.2.sentFor id)

/-- The number of its failures that were reported. -/
def failures (id : UUID) (as : List (Time × DispatchEvent ω)) : Nat :=
  as.countP (·.2.failedFor id)

structure Dispatched (dump : MessageEnvelope → String) (as : List (Time × DispatchEvent ω))
    (s : Dispatch ω η) (id : UUID) (request : QueueRequest) : Prop where
  /-- It is only sent over the connection of its record, as it was queued, and no more after it
  was taken. -/
  sent : ∃ home,
    request.agent.connId = connId request.agent.tenantId request.agent.agentId home ∧
      ∃ refused taken, sends id as
        = List.replicate refused ⟨home, dump request.envelope, false⟩ ++ taken ∧
          (taken = [] ∨ taken = [⟨home, dump request.envelope, true⟩])
  few : (sends id as).length ≤ 4
  /-- A completed task was taken. -/
  completed : s.queue.status.get? id = some .completed → ∃ sent ∈ sends id as, sent.taken = true
  /-- A task that was taken is completed, or this is still to be reported. -/
  taken : (∃ sent ∈ sends id as, sent.taken = true) →
    s.queue.status.get? id = some .completed ∨ s.queue.status.get? id = some .processing
  failed : s.queue.status.get? id = some .failed → failures id as = 4
  /-- A task that is being processed is in the hands of a worker, unless one was stopped. -/
  held : s.queue.status.get? id = some .processing →
    (∃ w task stage, s.workers w = some (task, stage) ∧ task.taskId = id) ∨
      ∃ a ∈ as, ∃ w, a.2 = .stop w

structure Carries (dump : MessageEnvelope → String) (id : UUID) (request : QueueRequest)
    (task : TaskPayload) : Prop where
  taskId : task.taskId = id
  targetConnId : task.targetConnId = some request.agent.connId
  envelopeJson : task.envelopeJson = dump request.envelope
  maxRetries : task.maxRetries = 3

/-- The message is a letter on its way to the websocket `home`. -/
structure Tracks (dump : MessageEnvelope → String) (as : List (Time × DispatchEvent ω))
    (s : Dispatch ω η) (id : UUID) (request : QueueRequest) (home : Nat) (l : Letter) : Prop where
  task : ∃ task, s.queue.tasks.get? id = some task ∧ Carries dump id request task ∧
    (l.place ≠ .abandoned → task.retryCount = l.failures)
  status : ∃ status, s.queue.status.get? id = some status ∧ l.place.Is status
  items : l.place = .delivered ∨ l.place = .abandoned → (s.queue.view id).items = 0
  held : ∀ w task stage, s.workers w = some (task, stage) → task.taskId = id →
    Carries dump id request task ∧ l.place = .away (some stage.phase) ∧ stage.At home
  holder : ∀ phase, l.place = .away (some phase) →
    ∃ w task stage, s.workers w = some (task, stage) ∧ task.taskId = id
  stopped : l.place = .away none → ∃ a ∈ as, ∃ w, a.2 = .stop w
  sent : sends id as = l.sentTo home (dump request.envelope)
  failed : failures id as = l.failures

/-- The message is where the letter was, or one move further. -/
def Followed (dump : MessageEnvelope → String) (as : List (Time × DispatchEvent ω))
    (s : Dispatch ω η) (id : UUID) (request : QueueRequest) (home : Nat) (l : Letter) : Prop :=
  ∃ l', (l' = l ∨ l.Moves 3 l') ∧ Tracks dump as s id request home l'

variable {dump : MessageEnvelope → String} {filter : ω → Option String} {now : Time}
  {s s' : Dispatch ω η} {e : DispatchEvent ω} {as : List (Time × DispatchEvent ω)}
  {a : Time × DispatchEvent ω} {id : UUID} {request : QueueRequest} {home : Nat} {l : Letter}
  {w : ω} {task : TaskPayload} {stage : Stage}

omit [DecidableEq ω] in
theorem sends_snoc (id : UUID) (as : List (Time × DispatchEvent ω)) (a : Time × DispatchEvent ω) :
    sends id (as ++ [a]) = sends id as ++ (a.2.sentFor id).toList := by
  rw [sends, sends, List.filterMap_append]
  cases h : a.2.sentFor id <;> simp [h]

omit [DecidableEq ω] in
theorem failures_snoc (id : UUID) (as : List (Time × DispatchEvent ω))
    (a : Time × DispatchEvent ω) :
    failures id (as ++ [a]) = failures id as + (a.2.failedFor id).toNat := by
  rw [failures, failures, List.countP_append]
  cases h : a.2.failedFor id <;> simp [h]

/-! ## The pool inside -/

def pool (s : Dispatch ω η) : Pool ω η := ⟨s.queue, Option.map Prod.fst ∘ s.workers⟩

omit [MinHeap η PriorityItem.key] in
theorem pool_put (s : Dispatch ω η) (w : ω) (work : Option (TaskPayload × Stage)) :
    (s.put w work).pool
      = { s.pool with workers := Function.update s.pool.workers w (work.map Prod.fst) } := by
  rw [pool, pool, put, Function.comp_update]

omit [DecidableEq ω] [MinHeap η PriorityItem.key] in
theorem workers_pool (h : s.workers w = some (task, stage)) : s.pool.workers w = some task :=
  congrArg (Option.map Prod.fst) h

omit [MinHeap η PriorityItem.key] in
/-- A worker that goes on with its task is the same to the pool. -/
theorem pool_put_same (h : s.workers w = some (task, stage)) (stage' : Stage) :
    (s.put w (some (task, stage'))).pool = s.pool := by
  rw [pool_put]
  show Pool.mk _ (Function.update _ w (some task)) = _
  rw [← workers_pool h, Function.update_eq_self]

omit [DecidableEq ω] in
/-- A call from outside keeps custody. -/
theorem custody_client (hs : Custody s.pool) {c : Call} {q' : InMemoryTaskQueue η}
    (hop : ClientOp c.op) (h : Calls now s.queue c q') : Custody { s.pool with queue := q' } := by
  classical
  have hstep : PoolStep (fun _ ↦ none) now s.pool ⟨none, c⟩ { s.pool with queue := q' } :=
    .client hop h
  exact hs.step hstep

/-- Every step keeps custody. -/
theorem custody_step (hs : Custody s.pool) (h : Steps dump filter now s e s') :
    Custody s'.pool := by
  cases h with
  | registry => exact hs
  | lookUp _ => exact hs
  | queueToAgent _ hcalls => exact custody_client hs (by exact trivial) hcalls
  | @client op _ _ hop hcalls =>
      cases op with
      | cancel _ => exact custody_client hs (by exact trivial) hcalls
      | clearExpired => exact custody_client hs (by exact trivial) hcalls
      | shutdown =>
          obtain ⟨-, hexec⟩ := hcalls
          obtain ⟨-, rfl⟩ := Prod.mk.inj hexec
          exact ⟨hs.ok, hs.counted, hs.held, hs.unique⟩
      | _ => exact hop.elim
  | @poll w task q' hw hcalls =>
      have hidle : s.pool.workers w = none := congrArg (Option.map Prod.fst) hw
      have hpolled := hs.step (.poll hidle hcalls)
      rw [pool_put]
      have hwork : (task.map (·, Stage.handed)).map Prod.fst = task := by
        cases task <;> rfl
      rw [hwork]
      exact hpolled
  | find hw _ => rwa [pool_put_same hw]
  | miss hw _ => rwa [pool_put_same hw]
  | send hw => rwa [pool_put_same hw]
  | finish hw hcalls =>
      rw [pool_put]
      have hstep : PoolStep filter now s.pool _ _ := .finish (workers_pool hw) hcalls
      exact hs.step hstep
  | crash hw hcalls =>
      rw [pool_put]
      have hstep : PoolStep filter now s.pool _ _ := .crash (workers_pool hw) hcalls
      exact hs.step hstep
  | @stop w =>
      rw [pool_put]
      have hleft : ∀ w' task, Function.update s.pool.workers w none w' = some task →
          s.pool.workers w' = some task := by
        intro w' task hw'
        rw [Function.update_apply] at hw'
        split at hw'
        · cases hw'
        · exact hw'
      exact ⟨hs.ok, hs.counted, fun w' task hw' ↦ hs.held w' task (hleft w' task hw'),
        fun w₁ w₂ task₁ task₂ h₁ h₂ ↦ hs.unique w₁ w₂ task₁ task₂ (hleft _ _ h₁) (hleft _ _ h₂)⟩

end Dispatch

end SemanticBus
