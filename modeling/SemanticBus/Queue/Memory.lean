import Mathlib.Algebra.Order.Ring.Rat
import Mathlib.Data.Finset.Erase
import Mathlib.Data.Finset.Insert
import Mathlib.Data.Prod.Lex
import SemanticBus.Data.Dict
import SemanticBus.Data.MinHeap
import SemanticBus.Queue.Ports

/-!
# The in-memory task queue

A priority heap of items, a dictionary of the tasks ever accepted, their
statuses and results, and two indexes.  Every operation runs under the queue's
lock, so it is one function of the state; it reads the clock once, and that
reading is its argument `now`.

A heap item holds a reference to its task, which is `taskId` here: tasks are
never removed, and enqueued tasks have distinct ids, so the id finds the object
the reference points to, with the retry count it has by then.

A waiting `dequeue` gives up the lock between its scans, so it is a sequence of
calls of the non-blocking one, of which the last may return a task.
-/

universe u

namespace SemanticBus

/-- An entry of the heap, ordered by priority, then by creation time. -/
structure PriorityItem where
  priority : Nat
  createdAt : Time
  taskId : UUID
  visibleAt : Time
deriving DecidableEq

/-- What the heap compares: `order=True` with `task` and `visible_at` left out. -/
def PriorityItem.key (item : PriorityItem) : Nat ×ₗ Int := toLex (item.priority, item.createdAt)

/-- The state of an `InMemoryTaskQueue` with heap implementation `η`. -/
structure InMemoryTaskQueue (η : Type u) where
  maxSize : Int := 10000
  retryBaseDelay : ℚ := 1
  retryMaxDelay : ℚ := 60
  heap : η
  tasks : Dict UUID TaskPayload := ∅
  status : Dict UUID TaskStatus := ∅
  results : Dict UUID TaskResult := ∅
  byTenant : Dict String (Finset UUID) := ∅
  byAgent : Dict UUID (Finset UUID) := ∅
  closed : Bool := false
  enqueuedCount : Nat := 0
  completedCount : Nat := 0
  failedCount : Nat := 0

namespace InMemoryTaskQueue

/-- `index[key].add(id)` on a `defaultdict(set)`. -/
def indexAdd {κ : Type} [DecidableEq κ] (index : Dict κ (Finset UUID)) (key : κ) (id : UUID) :
    Dict κ (Finset UUID) := index.insert key (insert id ((index.get? key).getD ∅))

/-- `index[key].discard(id)` on a `defaultdict(set)`. -/
def indexDiscard {κ : Type} [DecidableEq κ] (index : Dict κ (Finset UUID)) (key : κ) (id : UUID) :
    Dict κ (Finset UUID) := index.insert key (((index.get? key).getD ∅).erase id)

variable {η : Type u} [MinHeap η PriorityItem.key]

/-- `InMemoryTaskQueue(max_size, retry_base_delay, retry_max_delay)`. -/
def new (maxSize : Int) (retryBaseDelay retryMaxDelay : ℚ) : InMemoryTaskQueue η where
  maxSize := maxSize
  retryBaseDelay := retryBaseDelay
  retryMaxDelay := retryMaxDelay
  heap := MinHeap.nil

/-- The item that makes a task visible at a time. -/
def itemOf (task : TaskPayload) (visibleAt : Time) : PriorityItem where
  priority := task.priority.value
  createdAt := task.createdAt
  taskId := task.taskId
  visibleAt := visibleAt

/-- Drop a settled task from the two indexes. -/
def unindex (q : InMemoryTaskQueue η) (task : TaskPayload) (id : UUID) : InMemoryTaskQueue η :=
  { q with
    byTenant := indexDiscard q.byTenant task.tenantId id
    byAgent := task.targetAgentId.elim q.byAgent (indexDiscard q.byAgent · id) }

/-- When a task enqueued at `now` becomes visible. -/
def visibleFrom (now : Time) (delaySeconds : ℚ) : Time :=
  if delaySeconds > 0 then now + Time.timedelta delaySeconds else now

/-- Whether a delayed task would become visible after the last date. -/
def DelayOverflows (now : Time) (delaySeconds : ℚ) : Prop :=
  delaySeconds > 0 ∧ ¬ (visibleFrom now delaySeconds).IsDate

instance (now : Time) (delaySeconds : ℚ) : Decidable (DelayOverflows now delaySeconds) :=
  inferInstanceAs (Decidable (_ ∧ _))

def enqueue (q : InMemoryTaskQueue η) (now : Time) (task : TaskPayload) (delaySeconds : ℚ) :
    Except TaskQueueError (InMemoryTaskQueue η) :=
  if q.closed then .error .queueClosed
  else if (q.tasks.size : Int) ≥ q.maxSize then .error (.queueFull q.tasks.size q.maxSize)
  else if DelayOverflows now delaySeconds then .error .overflow
  else .ok
    { q with
      heap := MinHeap.push q.heap (itemOf task (visibleFrom now delaySeconds))
      tasks := q.tasks.insert task.taskId task
      status := q.status.insert task.taskId .pending
      byTenant := indexAdd q.byTenant task.tenantId task.taskId
      byAgent := task.targetAgentId.elim q.byAgent (indexAdd q.byAgent · task.taskId)
      enqueuedCount := q.enqueuedCount + 1 }

/-- The result stored for a task that exceeded its TTL. -/
def expiredResult (now : Time) (task : TaskPayload) (id : UUID) : TaskResult where
  taskId := id
  status := .expired
  errorCode := some "TASK_EXPIRED"
  errorMessage := some s!"Task exceeded TTL of {task.ttlSeconds}s"
  processedAt := now

/-- Mark a task as expired and clean up. -/
def markExpired (q : InMemoryTaskQueue η) (now : Time) (id : UUID) : InMemoryTaskQueue η :=
  let q := { q with status := q.status.insert id .expired }
  match q.tasks.get? id with
  | none => q
  | some task =>
      let q := q.unindex task id
      { q with results := q.results.insert id (expiredResult now task id) }

/-- Whether a tenant filter lets a task through: no filter, and the empty one, let all through. -/
def matchesTenant (tenantId : Option String) (task : TaskPayload) : Bool :=
  match tenantId with
  | none => true
  | some t => t = "" ∨ task.tenantId = t

/-- The scan of `_find_next_visible`: pop items until one can be claimed,
collecting in `checked` those to put back.  The first argument bounds the
number of pops. -/
def findLoop (now : Time) (tenantId : Option String) :
    Nat → List PriorityItem → InMemoryTaskQueue η →
      Option TaskPayload × List PriorityItem × InMemoryTaskQueue η
  | 0, checked, q => (none, checked, q)
  | n + 1, checked, q =>
      match MinHeap.pop q.heap with
      | none => (none, checked, q)
      | some (item, heap) =>
          let q := { q with heap := heap }
          match q.tasks.get? item.taskId with
          | none => findLoop now tenantId n checked q
          | some task =>
              if item.visibleAt > now then findLoop now tenantId n (checked ++ [item]) q
              else if task.isExpired now then
                findLoop now tenantId n checked (q.markExpired now item.taskId)
              else if !matchesTenant tenantId task then
                findLoop now tenantId n (checked ++ [item]) q
              else if q.status.get? item.taskId ≠ some .pending then
                findLoop now tenantId n checked q
              else
                (some task, checked,
                  { q with status := q.status.insert item.taskId .processing })

def findNextVisible (q : InMemoryTaskQueue η) (now : Time) (tenantId : Option String) :
    Option TaskPayload × InMemoryTaskQueue η :=
  match findLoop now tenantId (MinHeap.size q.heap) [] q with
  | (result, checked, q) => (result, { q with heap := MinHeap.pushAll q.heap checked })

/-- Get the next visible task, without waiting. -/
def dequeue (q : InMemoryTaskQueue η) (now : Time) (tenantId : Option String) :
    Option TaskPayload × InMemoryTaskQueue η :=
  if q.closed then (none, q) else q.findNextVisible now tenantId

def complete (q : InMemoryTaskQueue η) (id : UUID) (result : TaskResult) :
    Bool × InMemoryTaskQueue η :=
  match q.tasks.get? id with
  | none => (false, q)
  | some task =>
      let q := { q with
        status := q.status.insert id .completed
        results := q.results.insert id result }
      let q := q.unindex task id
      (true, { q with completedCount := q.completedCount + 1 })

/-- The delay before retry number `retryCount`, in seconds. -/
def retryDelay (q : InMemoryTaskQueue η) (retryCount : Int) : ℚ :=
  min (q.retryBaseDelay * (2 : ℚ) ^ retryCount) q.retryMaxDelay

def failedResult (now : Time) (task : TaskPayload) (id : UUID) (errorCode errorMessage : String) :
    TaskResult where
  taskId := id
  status := .failed
  errorCode := some errorCode
  errorMessage := some errorMessage
  processedAt := now
  retryCount := task.retryCount

/-- When a task that fails at `now` becomes visible again. -/
def retryAt (q : InMemoryTaskQueue η) (now : Time) (retryCount : Int) : Time :=
  now + Time.timedelta (q.retryDelay retryCount)

/-- Schedule a retry of a task that has its new retry count.  The count is stored before the
delay is computed, and the status is set before the date is: each can raise. -/
def reschedule (q : InMemoryTaskQueue η) (now : Time) (id : UUID) (task : TaskPayload) :
    Except PyError Bool × InMemoryTaskQueue η :=
  let q := { q with tasks := q.tasks.insert id task }
  if backoffOverflows task.retryCount then (.error .overflowError, q)
  else
    let q := { q with status := q.status.insert id .pending }
    let visibleAt := q.retryAt now task.retryCount
    if visibleAt.IsDate then
      (.ok true, { q with heap := MinHeap.push q.heap (itemOf task visibleAt) })
    else (.error .overflowError, q)

/-- Mark a task as failed, optionally re-enqueuing it for retry. -/
def fail (q : InMemoryTaskQueue η) (now : Time) (id : UUID) (errorCode errorMessage : String)
    (retry : Bool) : Except PyError Bool × InMemoryTaskQueue η :=
  match q.tasks.get? id with
  | none => (.ok false, q)
  | some task =>
      if retry ∧ task.canRetry then
        q.reschedule now id { task with retryCount := task.retryCount + 1 }
      else
        let q := { q with
          status := q.status.insert id .failed
          results := q.results.insert id (failedResult now task id errorCode errorMessage) }
        let q := q.unindex task id
        (.ok true, { q with failedCount := q.failedCount + 1 })

def cancelledResult (now : Time) (id : UUID) : TaskResult where
  taskId := id
  status := .cancelled
  errorCode := some "TASK_CANCELLED"
  errorMessage := some "Task cancelled by user"
  processedAt := now

def cancel (q : InMemoryTaskQueue η) (now : Time) (id : UUID) : Bool × InMemoryTaskQueue η :=
  match q.tasks.get? id with
  | none => (false, q)
  | some task =>
      if q.status.get? id ≠ some .pending then (false, q)
      else
        let q := { q with status := q.status.insert id .cancelled }
        let q := q.unindex task id
        (true, { q with results := q.results.insert id (cancelledResult now id) })

/-- One round of `clear_expired`, for one task of the snapshot it iterates over. -/
def clearStep (now : Time) (acc : Nat × InMemoryTaskQueue η) (entry : UUID × TaskPayload) :
    Nat × InMemoryTaskQueue η :=
  if acc.2.status.get? entry.1 = some .pending ∧ entry.2.isExpired now then
    (acc.1 + 1, acc.2.markExpired now entry.1)
  else acc

/-- Mark every pending task past its TTL as expired; the number of such tasks. -/
def clearExpired (q : InMemoryTaskQueue η) (now : Time) : Nat × InMemoryTaskQueue η :=
  q.tasks.entries.foldl (clearStep now) (0, q)

/-- Refuse all further work. -/
def shutdown (q : InMemoryTaskQueue η) : InMemoryTaskQueue η := { q with closed := true }

end InMemoryTaskQueue

end SemanticBus
