import Mathlib.Algebra.Order.Ring.Rat
import SemanticBus.Data.Prog
import SemanticBus.Data.Redis
import SemanticBus.Data.Run
import SemanticBus.Queue.Ports

/-!
# The Redis task queue

The queue is a client of a Redis server: every operation is a program of Redis
commands, and what the clients share is on the server.  The key families of the
schema are one field each of `RedisTaskStore`.

The hash of a task holds the serialized task, which is the task here, and the hash
of a result what `get_result` makes of it.  The consumer group exists on all
streams.  A blocking read is a read that returns nothing, or a later one.
-/

namespace SemanticBus

structure RedisTaskQueue where
  keyPrefix : String := "lip"
  consumer : String
  retryBaseDelay : ℚ := 1
  retryMaxDelay : ℚ := 60
  resultTtl : Int := 3600
  closed : Bool := false

structure RedisTaskStore where
  /-- The hashes of the tasks. -/
  tasks : Expiring UUID TaskPayload := ∅
  status : Expiring UUID TaskStatus := ∅
  /-- The hashes of the results. -/
  results : Expiring UUID TaskResult := ∅
  byTenant : Dict String (Finset UUID) := ∅
  byAgent : Dict UUID (Finset UUID) := ∅
  /-- The streams of task ids. -/
  streams : TaskPriority → RedisStream UUID := fun _ ↦ {}
  /-- The delayed tasks, by the time at which they are due. -/
  delayed : Dict UUID ℚ := ∅

structure EntryRef where
  priority : TaskPriority
  id : StreamId
deriving DecidableEq

abbrev RedisProg := Prog Time RedisTaskStore

/-- The priorities in the order of the enumeration. -/
def TaskPriority.all : List TaskPriority := [.critical, .high, .normal, .low, .background]

namespace RedisTaskStore

def setStream (s : RedisTaskStore) (p : TaskPriority) (stream : RedisStream UUID) :
    RedisTaskStore := { s with streams := Function.update s.streams p stream }

@[simp] theorem setStream_streams (s : RedisTaskStore) (p : TaskPriority)
    (stream : RedisStream UUID) :
    (s.setStream p stream).streams = Function.update s.streams p stream := rfl

@[simp] theorem setStream_tasks (s : RedisTaskStore) (p : TaskPriority)
    (stream : RedisStream UUID) : (s.setStream p stream).tasks = s.tasks := rfl

end RedisTaskStore

namespace RedisTaskQueue

/-! ## Commands -/

def getTask (id : UUID) : RedisProg (Option TaskPayload) :=
  .query fun now s ↦ s.tasks.read now id

/-- `HSET` of a task: an empty `target_conn_id` reads back as none. -/
def hsetTask (id : UUID) (task : TaskPayload) : RedisProg Unit :=
  .modify fun now s ↦
    { s with
      tasks := s.tasks.change now id fun _ ↦
        { task with targetConnId := task.targetConnId.filter (· ≠ "") } }

/-- `SET` of a status, without expiry. -/
def setStatus (id : UUID) (status : TaskStatus) : RedisProg Unit :=
  .modify fun _ s ↦ { s with status := s.status.write id status none }

/-- `HSET` of the fields of a result, over those that are there, and `EXPIRE`. -/
def hsetResult (q : RedisTaskQueue) (id : UUID) (fields : Time → TaskResult → TaskResult) :
    RedisProg Unit := do
  .modify fun now s ↦
    { s with
      results := s.results.change now id fun old ↦
        fields now (old.getD { taskId := id, status := .pending, processedAt := now }) }
  .modify fun now s ↦ { s with results := s.results.expire now id q.resultTtl }

def xadd (priority : TaskPriority) (id : UUID) : RedisProg Unit :=
  .modify fun now s ↦ s.setStream priority ((s.streams priority).add now id)

/-- `XREADGROUP` of one entry of the stream of a priority. -/
def xreadgroup (q : RedisTaskQueue) (priority : TaskPriority) :
    RedisProg (Option (StreamId × UUID)) :=
  .command fun _ s ↦
    let read := (s.streams priority).readGroup q.consumer
    (read.1, s.setStream priority read.2)

def xack (entry : EntryRef) : RedisProg Unit :=
  .modify fun _ s ↦ s.setStream entry.priority ((s.streams entry.priority).ack entry.id)

def addToIndexes (task : TaskPayload) : RedisProg Unit := do
  .modify fun _ s ↦ { s with byTenant := sadd s.byTenant task.tenantId task.taskId }
  match task.targetAgentId with
  | none => pure ()
  | some agentId => .modify fun _ s ↦ { s with byAgent := sadd s.byAgent agentId task.taskId }

def removeFromIndexes (task : TaskPayload) (id : UUID) : RedisProg Unit := do
  .modify fun _ s ↦ { s with byTenant := srem s.byTenant task.tenantId id }
  match task.targetAgentId with
  | none => pure ()
  | some agentId => .modify fun _ s ↦ { s with byAgent := srem s.byAgent agentId id }

def zaddDelayed (id : UUID) (executeAt : ℚ) : RedisProg Unit :=
  .modify fun _ s ↦ { s with delayed := s.delayed.insert id executeAt }

/-! ## The entry that a task names -/

def streamKey (q : RedisTaskQueue) (priority : TaskPriority) : String :=
  s!"{q.keyPrefix}:queue:{priority.value}"

/-- What an `XACK` with arguments from the metadata of a task comes to. -/
inductive AckTarget where
  /-- There is nothing to acknowledge: an argument is missing, or no stream has the key. -/
  | nothing
  | entry (entry : EntryRef)
  /-- The client library or the server does not take the arguments. -/
  | refused
deriving DecidableEq

/-- The text of a command argument; a float is never a stream id and never the key of a
stream, `none` stands for the types that the client library refuses. -/
def argText : Json → Option String
  | .str s => some s
  | .int n => some (toString n)
  | .float _ => some "."
  | _ => none

/-- The target of `if msg_id and stream_key: xack(stream_key, group, msg_id)`. -/
def ackTarget (q : RedisTaskQueue) (metadata : JsonObj) : AckTarget :=
  let msgId := JsonObj.get metadata "_redis_msg_id"
  let stream := JsonObj.get metadata "_redis_stream"
  if msgId.truthy ∧ stream.truthy then
    match argText stream, argText msgId with
    | some key, some text =>
        match TaskPriority.all.find? fun p ↦ q.streamKey p = key with
        | none => .nothing
        | some priority =>
            match StreamId.parse text with
            | none => .refused
            | some id => .entry ⟨priority, id⟩
    | _, _ => .refused
  else .nothing

def acknowledge : AckTarget → RedisProg Unit
  | .entry entry => xack entry
  | _ => pure ()

/-! ## Operations -/

/-- Add the id of a task to its stream, or to the delayed tasks. -/
def scheduleTask (task : TaskPayload) (delaySeconds : ℚ) : RedisProg Unit :=
  if delaySeconds > 0 then do
    let now ← .ask
    zaddDelayed task.taskId (Time.timestamp now + delaySeconds)
  else xadd task.priority task.taskId

def enqueue (q : RedisTaskQueue) (task : TaskPayload) (delaySeconds : ℚ) :
    RedisProg WorkerReply :=
  if q.closed then pure (.raised .queueClosed)
  else do
    hsetTask task.taskId task
    .modify fun now s ↦
      { s with tasks := s.tasks.expire now task.taskId (task.ttlSeconds + 60) }
    -- `SET` refuses an expiry that is not positive
    if task.ttlSeconds + 60 ≤ 0 then pure (.raised .brokerError)
    else do
      .modify fun now s ↦
        { s with
          status := s.status.write task.taskId .pending
            (some (now + Time.seconds (task.ttlSeconds + 60))) }
      addToIndexes task
      scheduleTask task delaySeconds
      pure (.accepted task)

/-- Add a delayed task to its stream, if its hash is there. -/
def addDelayed (id : UUID) : RedisProg Unit := do
  match ← getTask id with
  | none => pure ()
  | some task => xadd task.priority id

def moveDelayed : List UUID → RedisProg Unit
  | [] => pure ()
  | id :: ids => do
      addDelayed id
      .modify fun _ s ↦ { s with delayed := s.delayed.erase id }
      moveDelayed ids

def processDelayedTasks : RedisProg Unit := do
  let due ← .query fun now s ↦
    zrangebyscore s.delayed (fun i j ↦ i.int ≤ j.int) 0 (Time.timestamp now) 100
  moveDelayed due

def markExpired (q : RedisTaskQueue) (id : UUID) (entry : EntryRef) : RedisProg Unit := do
  setStatus id .expired
  xack entry
  q.hsetResult id fun now result ↦
    { result with
      status := .expired
      errorCode := some "TASK_EXPIRED"
      errorMessage := some "Task exceeded TTL"
      processedAt := now }

/-- Hand out a task: its object notes the entry it came from. -/
def claim (q : RedisTaskQueue) (task : TaskPayload) (entry : EntryRef) : TaskPayload :=
  let metadata := JsonObj.set task.metadata "_redis_msg_id" (.str (StreamId.text entry.id))
  { task with
    metadata := JsonObj.set metadata "_redis_stream" (.str (q.streamKey entry.priority)) }

/-- The loop of `dequeue` over the priorities. -/
def readStreams (q : RedisTaskQueue) (tenantId : Option String) :
    List TaskPriority → RedisProg WorkerReply
  | [] => pure (.dequeued none)
  | priority :: priorities => do
      match ← q.xreadgroup priority with
      | none => q.readStreams tenantId priorities
      | some (messageId, id) =>
          match ← getTask id with
          | none => do
              xack ⟨priority, messageId⟩
              q.readStreams tenantId priorities
          | some task => do
              let now ← .ask
              if task.filteredOut tenantId then q.readStreams tenantId priorities
              else if task.isExpired now then do
                q.markExpired id ⟨priority, messageId⟩
                q.readStreams tenantId priorities
              else do
                setStatus id .processing
                pure (.dequeued (some (q.claim task ⟨priority, messageId⟩)))

def dequeue (q : RedisTaskQueue) (tenantId : Option String) : RedisProg WorkerReply :=
  if q.closed then pure (.dequeued none)
  else do
    processDelayedTasks
    q.readStreams tenantId TaskPriority.all

def complete (q : RedisTaskQueue) (id : UUID) (result : TaskResult) : RedisProg WorkerReply := do
  match ← getTask id with
  | none => pure (.done false)
  | some task =>
      if q.ackTarget task.metadata = .refused then pure (.raised .brokerError)
      else do
        acknowledge (q.ackTarget task.metadata)
        setStatus id .completed
        q.hsetResult id fun _ old ↦
          { old with
            status := result.status
            result := result.result.filter Json.truthy
            processedAt := result.processedAt
            durationMs := result.durationMs }
        removeFromIndexes task id
        pure (.done true)

/-- The metadata of a task without the entry it came from. -/
def popEntry (metadata : JsonObj) : JsonObj :=
  metadata.filter fun e ↦ e.1 ≠ "_redis_msg_id" ∧ e.1 ≠ "_redis_stream"

/-- Mark a task as failed, optionally re-enqueuing it for retry. -/
def fail (q : RedisTaskQueue) (id : UUID) (errorCode errorMessage : String) (retry : Bool) :
    RedisProg WorkerReply := do
  match ← getTask id with
  | none => pure (.done false)
  | some task =>
      if q.ackTarget task.metadata = .refused then pure (.raised .brokerError)
      else do
        acknowledge (q.ackTarget task.metadata)
        let task := { task with metadata := popEntry task.metadata }
        if retry ∧ task.canRetry then do
          let task := { task with retryCount := task.retryCount + 1 }
          hsetTask id task
          setStatus id .pending
          let now ← .ask
          zaddDelayed id (Time.timestamp now
            + backoff q.retryBaseDelay q.retryMaxDelay task.retryCount)
          pure (.done true)
        else do
          setStatus id .failed
          q.hsetResult id fun now old ↦
            { old with
              status := .failed
              errorCode := some errorCode |>.filter (· ≠ "")
              errorMessage := some errorMessage |>.filter (· ≠ "")
              retryCount := task.retryCount
              processedAt := now }
          removeFromIndexes task id
          pure (.done true)

def prog (q : RedisTaskQueue) : WorkerCall → RedisProg WorkerReply
  | .enqueue task delaySeconds => q.enqueue task delaySeconds
  | .dequeue tenantId => q.dequeue tenantId
  | .complete id result => q.complete id result
  | .fail id errorCode errorMessage retry => q.fail id errorCode errorMessage retry

/-- A call, without others in between. -/
def exec (q : RedisTaskQueue) (now : Time) (call : WorkerCall) (s : RedisTaskStore) :
    WorkerReply × RedisTaskStore := (q.prog call).run now s

/-! ## Rules

A relation that the commands of a program respect, the program respects. -/

section Rules

open Prog

variable {R : RedisTaskStore → RedisTaskStore → Prop} {task : TaskPayload} {delaySeconds : ℚ}

theorem indexes_rule
    (h : ∀ s byTenant byAgent, R s { s with byTenant := byTenant, byAgent := byAgent })
    (task : TaskPayload) (id : UUID) :
    Within R (addToIndexes task) ∧ Within R (removeFromIndexes task id) := by
  constructor
  · refine .bind (.modify fun _ s ↦ h s _ s.byAgent) fun _ ↦ ?_
    cases task.targetAgentId with
    | none => exact .ret _
    | some agentId => exact .modify fun _ s ↦ h s s.byTenant _
  · refine .bind (.modify fun _ s ↦ h s _ s.byAgent) fun _ ↦ ?_
    cases task.targetAgentId with
    | none => exact .ret _
    | some agentId => exact .modify fun _ s ↦ h s s.byTenant _

theorem scheduleTask_rule (hrefl : ∀ s, R s s)
    (hzadd : ∀ executeAt, Within R (zaddDelayed task.taskId executeAt))
    (hxadd : Within R (xadd task.priority task.taskId)) :
    Within R (scheduleTask task delaySeconds) := by
  rw [scheduleTask]
  split
  · exact .bind (.ask hrefl) fun _ ↦ hzadd _
  · exact hxadd

theorem enqueue_rule {q : RedisTaskQueue} (hhset : Within R (hsetTask task.taskId task))
    (hexpire : ∀ now (s : RedisTaskStore),
      R s { s with tasks := s.tasks.expire now task.taskId (task.ttlSeconds + 60) })
    (hstatus : ∀ (s : RedisTaskStore) expiry,
      R s { s with status := s.status.write task.taskId .pending expiry })
    (hindexes : Within R (addToIndexes task))
    (hschedule : Within R (scheduleTask task delaySeconds)) :
    Within R (q.enqueue task delaySeconds) := by
  rw [enqueue]
  split
  · exact .ret _
  · refine .bind hhset fun _ ↦ .bind (.modify hexpire) fun _ ↦ ?_
    split
    · exact .ret _
    · exact .bind (.modify fun _ s ↦ hstatus s _) fun _ ↦ .bind hindexes fun _ ↦
        .bind hschedule fun _ ↦ .ret _

theorem processDelayedTasks_rule (hrefl : ∀ s, R s s) (hxadd : ∀ p id, Within R (xadd p id))
    (hzrem : ∀ (s : RedisTaskStore) id, R s { s with delayed := s.delayed.erase id }) :
    Within R processDelayedTasks := by
  refine .bind (.query _ hrefl) fun ids ↦ ?_
  induction ids with
  | nil => exact .ret _
  | cons id ids ih =>
      have hadd : Within R (addDelayed id) := by
        refine .bind (.query _ hrefl) fun task ↦ ?_
        cases task with
        | none => exact .ret _
        | some task => exact hxadd _ _
      exact .bind hadd fun _ ↦ .bind (.modify fun _ s ↦ hzrem s id) fun _ ↦ ih

end Rules

end RedisTaskQueue

end SemanticBus
