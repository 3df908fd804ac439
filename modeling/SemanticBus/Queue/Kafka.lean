import Mathlib.Algebra.Order.Ring.Rat
import Mathlib.Data.Finset.Erase
import Mathlib.Data.Finset.Insert
import SemanticBus.Data.Dict
import SemanticBus.Data.GroupLog
import SemanticBus.Data.Run
import SemanticBus.Queue.Ports

/-!
# The Kafka task queue

One process, with a producer and the one consumer that all its workers share, and
the broker it talks to.  A call of the queue runs until it awaits an answer of the
broker; `KafkaCall` says where it waits and what it goes on with, and any other
call may run in between.  `fire` is what happens next: a worker makes a call, the
broker answers one or refuses it, or the process crashes and a new one takes its
place.

A message holds the serialized task, which is the task here.  The partition of a
message is picked by the producer's partitioner, so an answer to a send names it; a
poll hands out at most one record, of a partition that the answer names.  Task
objects are shared by reference: `fail` counts retries in the object it looked up.
The connections are made when the process starts.
-/

namespace SemanticBus

structure TopicPartition where
  topic : String
  partition : Nat
deriving DecidableEq

/-- The value of a message on a task topic. -/
structure KafkaRecord where
  task : TaskPayload
  /-- `_delay_until`, a timestamp. -/
  delayUntil : Option ℚ := none

structure ResultMessage where
  taskId : UUID
  status : TaskStatus
  result : Option Json
  processedAt : Time

/-- The value of a message on the dead letter topic. -/
structure DeadLetter where
  task : TaskPayload
  errorCode : String
  errorMessage : String
  failedAt : Time

/-- The broker: the task topics with the offsets of the consumer group, the results
topic and the dead letter topic. -/
structure KafkaBroker where
  tasks : GroupLog TopicPartition KafkaRecord := .empty
  results : List ResultMessage := []
  dlq : List DeadLetter := []

structure KafkaTaskQueue where
  topicPrefix : String := "lip"
  retryBaseDelay : ℚ := 1
  retryMaxDelay : ℚ := 60
  closed : Bool := false
  /-- The task objects, by reference. -/
  objects : List TaskPayload := []
  tasks : Dict UUID Nat := ∅
  results : Dict UUID TaskResult := ∅
  pendingCount : Nat := 0

inductive KafkaCall where
  /-- `enqueue` sends; `retried` when it is `fail` that re-enqueues. -/
  | sending (ref : Nat) (record : KafkaRecord) (retried : Bool)
  /-- `dequeue` polls. -/
  | polling (tenantId : Option String)
  /-- `dequeue` commits, after a task that has expired. -/
  | skipping
  /-- `complete` commits. -/
  | completing (id : UUID) (result : TaskResult)
  /-- `complete` publishes the result. -/
  | publishing (id : UUID) (result : TaskResult)
  /-- `fail` commits. -/
  | failing (id : UUID) (ref : Nat) (errorCode errorMessage : String) (retry : Bool)
  /-- `fail` sends to the dead letter topic. -/
  | burying (id : UUID) (ref : Nat) (letter : DeadLetter)

inductive KafkaNext where
  | await (call : KafkaCall)
  | reply (reply : WorkerReply)

/-- What `dequeue` makes of a record it polled. -/
inductive Verdict where
  | notReady
  | otherTenant
  | expired
  | ready
deriving DecidableEq

/-- The tests of `dequeue`, in its order. -/
def KafkaRecord.judge (record : KafkaRecord) (now : Time) (tenantId : Option String) : Verdict :=
  if ∃ due ∈ record.delayUntil, due ≠ 0 ∧ Time.timestamp now < due then .notReady
  else if record.task.filteredOut tenantId then .otherTenant
  else if record.task.isExpired now then .expired
  else .ready

namespace KafkaTaskQueue

/-- `KafkaTaskQueue(topic_prefix, retry_base_delay, retry_max_delay)`. -/
def new (topicPrefix : String) (retryBaseDelay retryMaxDelay : ℚ) : KafkaTaskQueue where
  topicPrefix := topicPrefix
  retryBaseDelay := retryBaseDelay
  retryMaxDelay := retryMaxDelay

def priorityName : TaskPriority → String
  | .critical => "critical"
  | .high => "high"
  | .normal => "normal"
  | .low => "low"
  | .background => "background"

def topicName (q : KafkaTaskQueue) (priority : TaskPriority) : String :=
  s!"{q.topicPrefix}.tasks.{priorityName priority}"

def recordOf (now : Time) (task : TaskPayload) (delaySeconds : ℚ) : KafkaRecord where
  task := task
  delayUntil := if delaySeconds > 0 then some (Time.timestamp now + delaySeconds) else none

/-- Add a task to the queue, up to the send. -/
def enqueue (q : KafkaTaskQueue) (now : Time) (ref : Nat) (task : TaskPayload) (delaySeconds : ℚ)
    (retried : Bool) : KafkaNext :=
  if q.closed then .reply (.raised .queueClosed)
  else .await (.sending ref (recordOf now task delaySeconds) retried)

def sent (q : KafkaTaskQueue) (ref : Nat) (record : KafkaRecord) : KafkaTaskQueue :=
  { q with
    tasks := q.tasks.insert record.task.taskId ref
    pendingCount := q.pendingCount + 1 }

/-- Forget a task that is settled: `del self._tasks[task_id]`. -/
def forget (q : KafkaTaskQueue) (id : UUID) : KafkaTaskQueue :=
  { q with tasks := q.tasks.erase id, pendingCount := q.pendingCount - 1 }

/-- The result stored for a task that exceeded its TTL. -/
def expiredResult (now : Time) (task : TaskPayload) : TaskResult where
  taskId := task.taskId
  status := .expired
  errorCode := some "TASK_EXPIRED"
  errorMessage := some s!"Task exceeded TTL of {task.ttlSeconds}s"
  processedAt := now

def markExpired (q : KafkaTaskQueue) (now : Time) (task : TaskPayload) : KafkaTaskQueue :=
  { q with results := q.results.insert task.taskId (expiredResult now task) }.forget task.taskId

/-- Hand out a task: a new object, which holds where its record is. -/
def claim (q : KafkaTaskQueue) (tp : TopicPartition) (offset : Nat) (task : TaskPayload) :
    KafkaTaskQueue × TaskPayload :=
  let metadata := JsonObj.set task.metadata "_kafka_tp" (.arr [.str tp.topic, .int tp.partition])
  let task := { task with metadata := JsonObj.set metadata "_kafka_offset" (.int offset) }
  ({ q with
      objects := q.objects ++ [task]
      tasks := q.tasks.insert task.taskId q.objects.length }, task)

def receive (q : KafkaTaskQueue) (now : Time) (tenantId : Option String) (tp : TopicPartition)
    (offset : Nat) (record : KafkaRecord) : KafkaTaskQueue × KafkaNext :=
  match record.judge now tenantId with
  | .notReady | .otherTenant => (q, .reply (.dequeued none))
  | .expired => (q.markExpired now record.task, .await .skipping)
  | .ready => (q.claim tp offset record.task).map id fun task ↦ .reply (.dequeued (some task))

def resultMessage (id : UUID) (result : TaskResult) : ResultMessage where
  taskId := id
  status := result.status
  result := result.result
  processedAt := result.processedAt

def failedResult (now : Time) (task : TaskPayload) (id : UUID) (letter : DeadLetter) :
    TaskResult where
  taskId := id
  status := .failed
  errorCode := some letter.errorCode
  errorMessage := some letter.errorMessage
  processedAt := now
  retryCount := task.retryCount

/-- Mark a task as failed, after the commit. -/
def fail (q : KafkaTaskQueue) (now : Time) (id : UUID) (ref : Nat) (task : TaskPayload)
    (errorCode errorMessage : String) (retry : Bool) : KafkaTaskQueue × KafkaNext :=
  if retry ∧ task.canRetry then
    let task := { task with retryCount := task.retryCount + 1 }
    let q := { q with objects := q.objects.set ref task }
    let delay := backoff q.retryBaseDelay q.retryMaxDelay task.retryCount
    if q.tasks.contains id then
      let q := { q with tasks := q.tasks.erase id }
      (q, q.enqueue now ref task delay true)
    else (q, .reply (.raised .keyError))
  else (q, .await (.burying id ref ⟨task, errorCode, errorMessage, now⟩))

/-- The end of `complete` and `fail`: a task that is gone by then raises. -/
def finish (q : KafkaTaskQueue) (id : UUID) : KafkaTaskQueue × KafkaNext :=
  if q.tasks.contains id then (q.forget id, .reply (.done true))
  else (q, .reply (.raised .keyError))

/-- A call, up to the first answer it awaits. -/
def start (q : KafkaTaskQueue) (now : Time) : WorkerCall → KafkaTaskQueue × KafkaNext
  | .enqueue task delaySeconds =>
      ({ q with objects := q.objects ++ [task] },
        q.enqueue now q.objects.length task delaySeconds false)
  | .dequeue tenantId =>
      (q, if q.closed then .reply (.dequeued none) else .await (.polling tenantId))
  | .complete id result =>
      (q, match q.tasks.get? id with
        | none => .reply (.done false)
        | some _ => .await (.completing id result))
  | .fail id errorCode errorMessage retry =>
      (q, match q.tasks.get? id with
        | none => .reply (.done false)
        | some ref => .await (.failing id ref errorCode errorMessage retry))

end KafkaTaskQueue

inductive KafkaEvent where
  /-- A worker makes a call. -/
  | call (worker : Nat) (call : WorkerCall)
  /-- The message that a call sends is stored, in a partition of its topic. -/
  | sent (worker : Nat) (partition : Nat)
  /-- The poll of a call returns the next record of a partition, or no record. -/
  | polled (worker : Nat) (source : Option TopicPartition)
  /-- The commit of a call returns. -/
  | committed (worker : Nat)
  /-- The broker does not serve a call. -/
  | refused (worker : Nat)
  /-- The process dies, and is started again. -/
  | crash

/-- The broker, the process and the calls that wait, by worker. -/
structure KafkaSystem where
  broker : KafkaBroker
  queue : KafkaTaskQueue
  calls : Dict Nat KafkaCall := ∅

namespace KafkaSystem

/-- A new process at a broker: its consumer resumes at the committed offsets. -/
def new (broker : KafkaBroker) (topicPrefix : String) (retryBaseDelay retryMaxDelay : ℚ) :
    KafkaSystem where
  broker := { broker with tasks := broker.tasks.restart }
  queue := .new topicPrefix retryBaseDelay retryMaxDelay

/-- A worker's call goes on. -/
def proceed (s : KafkaSystem) (worker : Nat) (broker : KafkaBroker)
    (step : KafkaTaskQueue × KafkaNext) : KafkaSystem × Option WorkerReply :=
  match step.2 with
  | .await call =>
      ({ broker := broker, queue := step.1, calls := s.calls.insert worker call }, none)
  | .reply reply =>
      ({ broker := broker, queue := step.1, calls := s.calls.erase worker }, some reply)

/-- What a call does when its message is stored. -/
def onSent (s : KafkaSystem) (now : Time) (partition : Nat) :
    KafkaCall → Option (KafkaBroker × KafkaTaskQueue × KafkaNext)
  | .sending ref record retried =>
      let tp := ⟨s.queue.topicName record.task.priority, partition⟩
      some ({ s.broker with tasks := s.broker.tasks.append tp record }, s.queue.sent ref record,
        .reply (if retried then .done true else .accepted record.task))
  | .publishing id result =>
      some ({ s.broker with
          results := s.broker.results ++ [KafkaTaskQueue.resultMessage id result] },
        s.queue.finish id)
  | .burying id ref letter =>
      (s.queue.objects[ref]?).map fun task ↦
        ({ s.broker with dlq := s.broker.dlq ++ [letter] },
          { s.queue with
            results := s.queue.results.insert id
              (KafkaTaskQueue.failedResult now task id letter) }.finish id)
  | _ => none

def onPolled (s : KafkaSystem) (now : Time) (source : Option TopicPartition) :
    KafkaCall → Option (KafkaBroker × KafkaTaskQueue × KafkaNext)
  | .polling tenantId =>
      match source with
      | none => some (s.broker, s.queue, .reply (.dequeued none))
      | some tp => (s.broker.tasks.poll tp).map fun polled ↦
          ({ s.broker with tasks := polled.2 },
            s.queue.receive now tenantId tp (s.broker.tasks.position tp) polled.1)
  | _ => none

def onCommitted (s : KafkaSystem) (now : Time) :
    KafkaCall → Option (KafkaBroker × KafkaTaskQueue × KafkaNext)
  | .skipping =>
      some ({ s.broker with tasks := s.broker.tasks.commit }, s.queue, .reply (.dequeued none))
  | .completing id result =>
      some ({ s.broker with tasks := s.broker.tasks.commit },
        { s.queue with results := s.queue.results.insert id result },
        .await (.publishing id result))
  | .failing id ref errorCode errorMessage retry =>
      (s.queue.objects[ref]?).map fun task ↦
        ({ s.broker with tasks := s.broker.tasks.commit },
          s.queue.fail now id ref task errorCode errorMessage retry)
  | _ => none

/-- How a call ends that the broker does not serve. -/
def onRefused : KafkaCall → WorkerReply
  | .polling _ | .skipping => .dequeued none
  | .sending _ _ _ => .raised .failedToEnqueue
  | .completing _ _ | .publishing _ _ | .failing _ _ _ _ _ | .burying _ _ _ => .raised .brokerError

/-- One event at a clock reading: the state after, and what a call returns. -/
def fire (s : KafkaSystem) (now : Time) : KafkaEvent → Option (KafkaSystem × Option WorkerReply)
  | .call worker call =>
      if s.calls.contains worker then none
      else some (s.proceed worker s.broker (s.queue.start now call))
  | .sent worker partition => do
      let call ← s.calls.get? worker
      let (broker, step) ← s.onSent now partition call
      pure (s.proceed worker broker step)
  | .polled worker source => do
      let call ← s.calls.get? worker
      let (broker, step) ← s.onPolled now source call
      pure (s.proceed worker broker step)
  | .committed worker => do
      let call ← s.calls.get? worker
      let (broker, step) ← s.onCommitted now call
      pure (s.proceed worker broker step)
  | .refused worker => do
      let call ← s.calls.get? worker
      pure (s.proceed worker s.broker (s.queue, .reply (onRefused call)))
  | .crash =>
      some (new s.broker s.queue.topicPrefix s.queue.retryBaseDelay s.queue.retryMaxDelay, none)

/-- The events of the system, with the clock readings at which they happen. -/
abbrev Steps : Step KafkaSystem (Time × KafkaEvent) :=
  Step.graph fun s a ↦ (s.fire a.1 a.2).map Prod.fst

end KafkaSystem

end SemanticBus
