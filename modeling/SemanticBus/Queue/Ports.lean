import SemanticBus.Data.Clock
import SemanticBus.Data.Json
import SemanticBus.Data.Uuid

/-!
# Tasks and their results

The data that every task queue backend shares: the task a caller enqueues, the
status the queue keeps for it, the result stored when it is settled, and the
errors an enqueue can raise.
-/

namespace SemanticBus

inductive TaskStatus where
  | pending
  | processing
  | completed
  | failed
  | cancelled
  | expired
deriving DecidableEq, Repr

namespace TaskStatus

def isTerminal : TaskStatus → Bool
  | pending | processing => false
  | completed | failed | cancelled | expired => true

end TaskStatus

/-- Task priority levels, lower value first. -/
inductive TaskPriority where
  | critical
  | high
  | normal
  | low
  | background
deriving DecidableEq, Repr

def TaskPriority.value : TaskPriority → Nat
  | critical => 0
  | high => 1
  | normal => 2
  | low => 3
  | background => 4

structure TaskPayload where
  taskId : UUID
  tenantId : String := ""
  targetAgentId : Option UUID := none
  targetConnId : Option String := none
  messageType : String := ""
  envelopeJson : String := ""
  sessionId : Option UUID := none
  execId : Option UUID := none
  priority : TaskPriority := .normal
  createdAt : Time
  ttlSeconds : Int := 300
  retryCount : Int := 0
  maxRetries : Int := 3
  correlationId : Option UUID := none
  metadata : JsonObj := []

namespace TaskPayload

def isExpired (task : TaskPayload) (now : Time) : Bool :=
  now - task.createdAt > Time.seconds task.ttlSeconds

def canRetry (task : TaskPayload) : Bool := task.retryCount < task.maxRetries

/-- Whether a tenant filter passes the task over; the empty filter is none. -/
def filteredOut (task : TaskPayload) : Option String → Bool
  | none => false
  | some tenantId => tenantId ≠ "" ∧ task.tenantId ≠ tenantId

end TaskPayload

structure TaskResult where
  taskId : UUID
  status : TaskStatus
  result : Option Json := none
  errorCode : Option String := none
  errorMessage : Option String := none
  processedAt : Time
  durationMs : ℚ := 0
  retryCount : Int := 0

/-- The exponential backoff of a retry, in seconds. -/
def backoff (retryBaseDelay retryMaxDelay : ℚ) (retryCount : Int) : ℚ :=
  min (retryBaseDelay * (2 : ℚ) ^ retryCount) retryMaxDelay

/-- Whether `2 ** retry_count` is too large for a `float`, which the base delay is multiplied
with. -/
def backoffOverflows (retryCount : Int) : Bool := 1024 ≤ retryCount

/-- What `enqueue` can raise. -/
inductive TaskQueueError where
  /-- `QueueFullError`. -/
  | queueFull (queueSize : Nat) (maxSize : Int)
  /-- `QueueClosedError`. -/
  | queueClosed
  /-- `OverflowError`, which is no error of the queue's own. -/
  | overflow

/-- A call of a worker to a queue that a broker keeps. -/
inductive WorkerCall where
  | enqueue (task : TaskPayload) (delaySeconds : ℚ)
  | dequeue (tenantId : Option String)
  | complete (id : UUID) (result : TaskResult)
  | fail (id : UUID) (errorCode errorMessage : String) (retry : Bool)

inductive WorkerFault where
  /-- `QueueClosedError`. -/
  | queueClosed
  /-- The `TaskQueueError` of a send that failed. -/
  | failedToEnqueue
  /-- An error of the broker or of its client library. -/
  | brokerError
  | keyError
deriving DecidableEq

/-- What such a call returns or raises. -/
inductive WorkerReply where
  | accepted (task : TaskPayload)
  | dequeued (task : Option TaskPayload)
  | done (ok : Bool)
  | raised (fault : WorkerFault)

end SemanticBus
