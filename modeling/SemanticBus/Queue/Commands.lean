import SemanticBus.Data.Pool
import SemanticBus.Queue.Scheduling

/-!
# The calls of the Redis queue, command by command

Any number of clients call the queue at the same time, and the server takes their
commands in any order.  A call stands at one of the points below; `queueOutline` says
what its next command is, and that these are the commands of the programs.

Of `enqueue`, `complete` and `fail` only what concerns the delayed tasks and the ends of
the streams is told apart: the other commands are an `Aside`.
-/

universe u

namespace SemanticBus

/-- Neither the delayed tasks nor what the group has read is changed. -/
structure RedisTaskStore.Untouched (s s' : RedisTaskStore) : Prop where
  delayed : s'.delayed = s.delayed
  delivered : ∀ p, s'.delivered p = s.delivered p

/-- A command that has nothing to do with the delayed tasks, nor with reading the streams. -/
structure Aside where
  run : Time → RedisTaskStore → RedisTaskStore
  untouched : ∀ now s, RedisTaskStore.Untouched s (run now s)

/-- A command of a call that schedules or settles a task. -/
inductive QueueCommand where
  | zadd (id : UUID) (executeAt : ℚ)
  /-- The clock reading of a `ZADD` in so many seconds. -/
  | zaddIn (id : UUID) (seconds : ℚ)
  | xadd (priority : TaskPriority) (id : UUID)
  | aside (a : Aside)

/-- Where a call stands: the command that it issues next, or what it returned. -/
inductive QueuePoint where
  /-- The `HGETALL` of `complete` and `fail`, with the plan for what it finds. -/
  | lookup (id : UUID) (plan : TaskPayload → List QueueCommand × WorkerReply)
  /-- A command of `enqueue`, `complete` or `fail`, with those to come and the reply. -/
  | plan (c : QueueCommand) (cs : List QueueCommand) (reply : WorkerReply)
  /-- The `ZRANGEBYSCORE` of a `dequeue`. -/
  | scan
  /-- The `HGETALL` of a delayed task, with those that are moved after it. -/
  | getDelayed (id : UUID) (ids : List UUID)
  | addDelayed (id : UUID) (priority : TaskPriority) (ids : List UUID)
  | removeDelayed (id : UUID) (ids : List UUID)
  /-- The `XREADGROUP` of a stream, with those that are read after it. -/
  | read (p : TaskPriority) (ps : List TaskPriority)
  /-- The `HGETALL` of the task of an entry. -/
  | fetch (e : EntryRef) (id : UUID) (ps : List TaskPriority)
  /-- The clock reading for a task. -/
  | judge (e : EntryRef) (id : UUID) (task : TaskPayload) (ps : List TaskPriority)
  /-- A command about an entry that is dropped, with those to come. -/
  | drop (a : Aside) (as : List Aside) (ps : List TaskPriority)
  /-- The `SET` of the status of a task that is handed out. -/
  | claim (e : EntryRef) (id : UUID) (task : TaskPayload)
  | returned (reply : WorkerReply)

namespace RedisTaskQueue

open RedisTaskStore

/-! ## Commands aside -/

def asideTask (id : UUID) (task : TaskPayload) : Aside where
  run now s :=
    { s with
      tasks := s.tasks.change now id fun _ ↦
        { task with targetConnId := task.targetConnId.filter (· ≠ "") } }
  untouched _ _ := ⟨rfl, fun _ ↦ rfl⟩

def asideExpire (id : UUID) (seconds : Int) : Aside where
  run now s := { s with tasks := s.tasks.expire now id seconds }
  untouched _ _ := ⟨rfl, fun _ ↦ rfl⟩

/-- `SET` of a status, without expiry. -/
def asideStatus (id : UUID) (status : TaskStatus) : Aside where
  run _ s := { s with status := s.status.write id status none }
  untouched _ _ := ⟨rfl, fun _ ↦ rfl⟩

/-- `SET` of the status of a new task, which expires with its hash. -/
def asidePending (id : UUID) (ttlSeconds : Int) : Aside where
  run now s :=
    { s with
      status := s.status.write id .pending (some (now + Time.seconds (ttlSeconds + 60))) }
  untouched _ _ := ⟨rfl, fun _ ↦ rfl⟩

def asideResult (q : RedisTaskQueue) (id : UUID) (fields : Time → TaskResult → TaskResult) :
    List Aside :=
  [{ run := fun now s ↦
      { s with
        results := s.results.change now id fun old ↦
          fields now (old.getD { taskId := id, status := .pending, processedAt := now }) }
     untouched := fun _ _ ↦ ⟨rfl, fun _ ↦ rfl⟩ },
   { run := fun now s ↦ { s with results := s.results.expire now id q.resultTtl }
     untouched := fun _ _ ↦ ⟨rfl, fun _ ↦ rfl⟩ }]

def asideAdd (task : TaskPayload) : List Aside :=
  { run := fun _ s ↦ { s with byTenant := sadd s.byTenant task.tenantId task.taskId }
    untouched := fun _ _ ↦ ⟨rfl, fun _ ↦ rfl⟩ } ::
  match task.targetAgentId with
  | none => []
  | some agentId =>
      [{ run := fun _ s ↦ { s with byAgent := sadd s.byAgent agentId task.taskId }
         untouched := fun _ _ ↦ ⟨rfl, fun _ ↦ rfl⟩ }]

def asideRemove (task : TaskPayload) (id : UUID) : List Aside :=
  { run := fun _ s ↦ { s with byTenant := srem s.byTenant task.tenantId id }
    untouched := fun _ _ ↦ ⟨rfl, fun _ ↦ rfl⟩ } ::
  match task.targetAgentId with
  | none => []
  | some agentId =>
      [{ run := fun _ s ↦ { s with byAgent := srem s.byAgent agentId id }
         untouched := fun _ _ ↦ ⟨rfl, fun _ ↦ rfl⟩ }]

def asideAck (e : EntryRef) : Aside where
  run _ s := s.setStream e.priority ((s.streams e.priority).ack e.id)
  untouched _ _ := ⟨rfl, fun p ↦ delivered_acked (.entry e) p⟩

def asideTarget : AckTarget → List Aside
  | .entry e => [asideAck e]
  | _ => []

/-! ## Plans -/

def enqueuePlan (q : RedisTaskQueue) (task : TaskPayload) (delaySeconds : ℚ) :
    List QueueCommand × WorkerReply :=
  if q.closed then ([], .raised .queueClosed)
  else if task.ttlSeconds + 60 ≤ 0 then
    ([.aside (asideTask task.taskId task), .aside (asideExpire task.taskId (task.ttlSeconds + 60))],
      .raised .brokerError)
  else
    (([asideTask task.taskId task, asideExpire task.taskId (task.ttlSeconds + 60),
        asidePending task.taskId task.ttlSeconds] ++ asideAdd task).map .aside ++
      (if delaySeconds > 0 then [.zaddIn task.taskId delaySeconds]
      else [.xadd task.priority task.taskId]), .accepted task)

def completePlan (q : RedisTaskQueue) (id : UUID) (result : TaskResult) (task : TaskPayload) :
    List QueueCommand × WorkerReply :=
  if q.ackTarget task.metadata = .refused then ([], .raised .brokerError)
  else
    ((asideTarget (q.ackTarget task.metadata) ++ [asideStatus id .completed] ++
      q.asideResult id (fun _ old ↦
        { old with
          status := result.status
          result := result.result.filter Json.truthy
          processedAt := result.processedAt
          durationMs := result.durationMs }) ++ asideRemove task id).map .aside, .done true)

def failPlan (q : RedisTaskQueue) (id : UUID) (errorCode errorMessage : String) (retry : Bool)
    (task : TaskPayload) : List QueueCommand × WorkerReply :=
  if q.ackTarget task.metadata = .refused then ([], .raised .brokerError)
  else
    let popped := { task with metadata := popEntry task.metadata }
    if retry ∧ popped.canRetry then
      let again := { popped with retryCount := popped.retryCount + 1 }
      ((asideTarget (q.ackTarget task.metadata) ++
        [asideTask id again, asideStatus id .pending]).map .aside ++
          [.zaddIn id (backoff q.retryBaseDelay q.retryMaxDelay again.retryCount)], .done true)
    else
      ((asideTarget (q.ackTarget task.metadata) ++ [asideStatus id .failed] ++
        q.asideResult id (fun now old ↦
          { old with
            status := .failed
            errorCode := some errorCode |>.filter (· ≠ "")
            errorMessage := some errorMessage |>.filter (· ≠ "")
            retryCount := popped.retryCount
            processedAt := now }) ++ asideRemove popped id).map .aside, .done true)

def planProg : List QueueCommand → WorkerReply → RedisProg WorkerReply
  | [], reply => pure reply
  | .zadd id executeAt :: cs, reply => do
      zaddDelayed id executeAt
      planProg cs reply
  | .zaddIn id seconds :: cs, reply => do
      let now ← .ask
      zaddDelayed id (Time.timestamp now + seconds)
      planProg cs reply
  | .xadd priority id :: cs, reply => do
      xadd priority id
      planProg cs reply
  | .aside a :: cs, reply => do
      .modify a.run
      planProg cs reply

/-- `enqueue` is its plan. -/
theorem enqueue_eq (q : RedisTaskQueue) (task : TaskPayload) (delaySeconds : ℚ) :
    q.enqueue task delaySeconds
      = planProg (q.enqueuePlan task delaySeconds).1 (q.enqueuePlan task delaySeconds).2 := by
  rw [enqueue, enqueuePlan]
  split
  · rfl
  · by_cases httl : task.ttlSeconds + 60 ≤ 0
    · simp only [if_pos httl]
      rfl
    · simp only [if_neg httl, scheduleTask, addToIndexes, asideAdd]
      by_cases hdelay : delaySeconds > 0
      · simp only [if_pos hdelay]
        cases task.targetAgentId with
        | none | some => rfl
      · simp only [if_neg hdelay]
        cases task.targetAgentId with
        | none | some => rfl

/-- Look a task up, and carry out the plan for it. -/
def settleProg (id : UUID) (plan : TaskPayload → List QueueCommand × WorkerReply) :
    RedisProg WorkerReply := do
  match ← getTask id with
  | none => pure (.done false)
  | some task => planProg (plan task).1 (plan task).2

/-- `complete` is its plan, when its task is there. -/
theorem complete_eq (q : RedisTaskQueue) (id : UUID) (result : TaskResult) :
    q.complete id result = settleProg id (q.completePlan id result) := by
  rw [complete, settleProg]
  refine congrArg (getTask id >>= ·) (funext fun found ↦ ?_)
  cases found with
  | none => rfl
  | some task =>
      simp only [completePlan]
      by_cases hrefused : q.ackTarget task.metadata = .refused
      · rw [if_pos hrefused, if_pos hrefused]
        rfl
      · rw [if_neg hrefused, if_neg hrefused]
        cases q.ackTarget task.metadata with
        | nothing | entry | refused =>
            simp only [removeFromIndexes, asideRemove]
            cases task.targetAgentId with
            | none | some => rfl

/-- `fail` is its plan, when its task is there. -/
theorem fail_eq (q : RedisTaskQueue) (id : UUID) (errorCode errorMessage : String)
    (retry : Bool) :
    q.fail id errorCode errorMessage retry
      = settleProg id (q.failPlan id errorCode errorMessage retry) := by
  rw [fail, settleProg]
  refine congrArg (getTask id >>= ·) (funext fun found ↦ ?_)
  cases found with
  | none => rfl
  | some task =>
      simp only [failPlan]
      by_cases hrefused : q.ackTarget task.metadata = .refused
      · rw [if_pos hrefused, if_pos hrefused]
        rfl
      · rw [if_neg hrefused, if_neg hrefused]
        split
        · cases q.ackTarget task.metadata with
          | nothing | entry | refused => rfl
        · cases q.ackTarget task.metadata with
          | nothing | entry | refused =>
              simp only [removeFromIndexes, asideRemove]
              cases task.targetAgentId with
              | none | some => rfl

/-! ## Points -/

def planPoint : List QueueCommand → WorkerReply → QueuePoint
  | [], reply => .returned reply
  | c :: cs, reply => .plan c cs reply

def readPoint : List TaskPriority → QueuePoint
  | [] => .returned (.dequeued none)
  | p :: ps => .read p ps

def movePoint : List UUID → QueuePoint
  | [] => readPoint TaskPriority.all
  | id :: ids => .getDelayed id ids

/-- The point of a `dequeue` with some commands to come about an entry. -/
def dropPoint (ps : List TaskPriority) : List Aside → QueuePoint
  | [] => readPoint ps
  | a :: as => .drop a as ps

def asideExpired (q : RedisTaskQueue) (id : UUID) (e : EntryRef) : List Aside :=
  [asideStatus id .expired, asideAck e] ++ q.asideResult id fun now result ↦
    { result with
      status := .expired
      errorCode := some "TASK_EXPIRED"
      errorMessage := some "Task exceeded TTL"
      processedAt := now }

def firstPoint (q : RedisTaskQueue) : WorkerCall → QueuePoint
  | .enqueue task delaySeconds =>
      planPoint (q.enqueuePlan task delaySeconds).1 (q.enqueuePlan task delaySeconds).2
  | .dequeue _ => if q.closed then .returned (.dequeued none) else .scan
  | .complete id result => .lookup id (q.completePlan id result)
  | .fail id errorCode errorMessage retry =>
      .lookup id (q.failPlan id errorCode errorMessage retry)

def filterOf : WorkerCall → Option String
  | .dequeue tenantId => tenantId
  | _ => none

/-- What is left of a `dequeue` that moves a task, from its `ZREM` on. -/
def removeProg (q : RedisTaskQueue) (tenantId : Option String) (id : UUID) (ids : List UUID) :
    RedisProg WorkerReply := do
  .modify fun _ s ↦ { s with delayed := s.delayed.erase id }
  moveDelayed ids
  q.readStreams tenantId TaskPriority.all

/-- The commands about an entry, then the rest of the loop. -/
def dropProg (q : RedisTaskQueue) (tenantId : Option String) (ps : List TaskPriority) :
    List Aside → RedisProg WorkerReply
  | [] => q.readStreams tenantId ps
  | a :: as => do
      .modify a.run
      q.dropProg tenantId ps as

/-- What is left of a `dequeue` that has the task of an entry. -/
def judgeProg (q : RedisTaskQueue) (tenantId : Option String) (e : EntryRef) (id : UUID)
    (task : TaskPayload) (ps : List TaskPriority) : RedisProg WorkerReply := do
  let now ← .ask
  if task.filteredOut tenantId then q.readStreams tenantId ps
  else if task.isExpired now then do
    q.markExpired id e
    q.readStreams tenantId ps
  else do
    setStatus id .processing
    pure (.dequeued (some (q.claim task e)))

/-- What is left of a `dequeue` that has read an entry. -/
def fetchProg (q : RedisTaskQueue) (tenantId : Option String) (e : EntryRef) (id : UUID)
    (ps : List TaskPriority) : RedisProg WorkerReply := do
  match ← getTask id with
  | none => q.dropProg tenantId ps [asideAck e]
  | some task => q.judgeProg tenantId e id task ps

def pointProg (q : RedisTaskQueue) (tenantId : Option String) : QueuePoint → RedisProg WorkerReply
  | .lookup id plan => settleProg id plan
  | .plan c cs reply => planProg (c :: cs) reply
  | .scan => do
      processDelayedTasks
      q.readStreams tenantId TaskPriority.all
  | .getDelayed id ids => do
      moveDelayed (id :: ids)
      q.readStreams tenantId TaskPriority.all
  | .addDelayed id priority ids => do
      xadd priority id
      q.removeProg tenantId id ids
  | .removeDelayed id ids => q.removeProg tenantId id ids
  | .read p ps => q.readStreams tenantId (p :: ps)
  | .fetch e id ps => q.fetchProg tenantId e id ps
  | .judge e id task ps => q.judgeProg tenantId e id task ps
  | .drop a as ps => q.dropProg tenantId ps (a :: as)
  | .claim e id task => do
      setStatus id .processing
      pure (.dequeued (some (q.claim task e)))
  | .returned reply => pure reply

def pointNext (q : RedisTaskQueue) (tenantId : Option String) (point : QueuePoint) (now : Time)
    (s : RedisTaskStore) : Option (QueuePoint × RedisTaskStore) :=
  match point with
  | .lookup id plan =>
      match s.tasks.read now id with
      | none => some (.returned (.done false), s)
      | some task => some (planPoint (plan task).1 (plan task).2, s)
  | .plan (.zadd id executeAt) cs reply =>
      some (planPoint cs reply, { s with delayed := s.delayed.insert id executeAt })
  | .plan (.zaddIn id seconds) cs reply =>
      some (.plan (.zadd id (Time.timestamp now + seconds)) cs reply, s)
  | .plan (.xadd priority id) cs reply =>
      some (planPoint cs reply, s.setStream priority ((s.streams priority).add now id))
  | .plan (.aside a) cs reply => some (planPoint cs reply, a.run now s)
  | .scan => some (movePoint (due s now), s)
  | .getDelayed id ids =>
      match s.tasks.read now id with
      | none => some (.removeDelayed id ids, s)
      | some task => some (.addDelayed id task.priority ids, s)
  | .addDelayed id priority ids =>
      some (.removeDelayed id ids, s.setStream priority ((s.streams priority).add now id))
  | .removeDelayed id ids => some (movePoint ids, { s with delayed := s.delayed.erase id })
  | .read p ps =>
      match (s.streams p).next with
      | none => some (readPoint ps, s)
      | some (m, id) =>
          some (.fetch ⟨p, m⟩ id ps, s.setStream p ((s.streams p).deliver q.consumer m))
  | .fetch e id ps =>
      match s.tasks.read now id with
      | none => some (dropPoint ps [asideAck e], s)
      | some task => some (.judge e id task ps, s)
  | .judge e id task ps =>
      if task.filteredOut tenantId then some (readPoint ps, s)
      else if task.isExpired now then some (dropPoint ps (q.asideExpired id e), s)
      else some (.claim e id task, s)
  | .drop a as ps => some (dropPoint ps as, a.run now s)
  | .claim e id task =>
      some (.returned (.dequeued (some (q.claim task e))), (asideStatus id .processing).run now s)
  | .returned _ => none

variable {q : RedisTaskQueue} {tenantId : Option String}

@[simp] theorem pointProg_planPoint (cs : List QueueCommand) (reply : WorkerReply) :
    q.pointProg tenantId (planPoint cs reply) = planProg cs reply := by
  cases cs with
  | nil | cons => rfl

@[simp] theorem pointProg_readPoint (ps : List TaskPriority) :
    q.pointProg tenantId (readPoint ps) = q.readStreams tenantId ps := by
  cases ps with
  | nil | cons => rfl

@[simp] theorem pointProg_movePoint (ids : List UUID) :
    q.pointProg tenantId (movePoint ids)
      = moveDelayed ids >>= fun _ ↦ q.readStreams tenantId TaskPriority.all := by
  cases ids with
  | nil | cons => rfl

@[simp] theorem pointProg_dropPoint (ps : List TaskPriority) (as : List Aside) :
    q.pointProg tenantId (dropPoint ps as) = q.dropProg tenantId ps as := by
  cases as with
  | nil => exact pointProg_readPoint ps
  | cons a as => rfl

/-- A call starts with its program. -/
theorem pointProg_firstPoint (q : RedisTaskQueue) (call : WorkerCall) :
    q.pointProg (filterOf call) (q.firstPoint call) = q.prog call := by
  cases call with
  | enqueue task delaySeconds =>
      rw [prog, enqueue_eq]
      exact pointProg_planPoint _ _
  | dequeue tenantId =>
      rw [prog, dequeue, firstPoint]
      cases q.closed with
      | true | false => rfl
  | complete id result => exact (q.complete_eq id result).symm
  | fail id errorCode errorMessage retry =>
      exact (q.fail_eq id errorCode errorMessage retry).symm

/-- The next command of a point is that of its program. -/
theorem issue_pointProg (q : RedisTaskQueue) (tenantId : Option String) (point : QueuePoint)
    (now : Time) (s : RedisTaskStore) :
    (q.pointProg tenantId point).issue now s
      = (q.pointNext tenantId point now s).map fun x ↦ (q.pointProg tenantId x.1, x.2) := by
  cases point with
  | lookup id plan =>
      simp only [pointNext]
      show some _ = _
      cases hread : s.tasks.read now id with
      | none => simp only [hread]; rfl
      | some task =>
          simp only [hread, Option.map_some, pointProg_planPoint]
          rfl
  | plan c cs reply =>
      cases c with
      | zadd | xadd | aside =>
          simp only [pointNext, Option.map_some, pointProg_planPoint]
          rfl
      | zaddIn id seconds => rfl
  | scan =>
      simp only [pointNext, Option.map_some, pointProg_movePoint]
      rfl
  | getDelayed id ids =>
      simp only [pointNext]
      show some _ = _
      cases hread : s.tasks.read now id with
      | none => simp only [hread]; rfl
      | some task => simp only [hread]; rfl
  | addDelayed id priority ids => rfl
  | removeDelayed id ids =>
      simp only [pointNext, Option.map_some, pointProg_movePoint]
      rfl
  | read p ps =>
      show (q.readStreams tenantId (p :: ps)).issue now s = _
      rw [readStreams, xreadgroup]
      simp only [pointNext, RedisStream.readGroup]
      show some _ = _
      cases hnext : (s.streams p).next with
      | none =>
          have hsame : s.setStream p (s.streams p) = s := by
            rw [setStream, Function.update_eq_self]
          simp only [hnext, Option.map_some, pointProg_readPoint, hsame]
          rfl
      | some e =>
          simp only [hnext]
          rfl
  | fetch e id ps =>
      simp only [pointNext]
      show some _ = _
      cases hread : s.tasks.read now id with
      | none => simp only [hread]; rfl
      | some task => simp only [hread]; rfl
  | judge e id task ps =>
      simp only [pointNext]
      show some ((if task.filteredOut tenantId = true then (_ : RedisProg WorkerReply) else _), s)
        = _
      by_cases hother : task.filteredOut tenantId = true
      · rw [if_pos hother, if_pos hother, Option.map_some, pointProg_readPoint]
      · rw [if_neg hother, if_neg hother]
        by_cases hexpired : task.isExpired now = true
        · rw [if_pos hexpired, if_pos hexpired, Option.map_some, pointProg_dropPoint]
          rfl
        · rw [if_neg hexpired, if_neg hexpired]
          rfl
  | drop a as ps =>
      simp only [pointNext, Option.map_some, pointProg_dropPoint]
      rfl
  | claim e id task => rfl
  | returned reply => rfl

/-- The calls, by the points at which they stand. -/
def queueOutline {κ : Type u} (calls : κ → RedisTaskQueue × WorkerCall) :
    Outline κ QueuePoint Time RedisTaskStore WorkerReply where
  prog i := (calls i).1.pointProg (filterOf (calls i).2)
  next i := (calls i).1.pointNext (filterOf (calls i).2)
  issue_prog i := (calls i).1.issue_pointProg (filterOf (calls i).2)

end RedisTaskQueue

end SemanticBus
