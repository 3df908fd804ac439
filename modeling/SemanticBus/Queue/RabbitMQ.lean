import Mathlib.Algebra.Order.Floor.Defs
import Mathlib.Algebra.Order.Ring.Rat
import Mathlib.Data.Rat.Floor
import Mathlib.Logic.Function.Basic
import SemanticBus.Data.Dict
import SemanticBus.Queue.Ports

/-!
# The RabbitMQ task queue

A process, and the part of the broker that it uses: one queue for each priority, the
delay queues, the messages that were delivered and not acknowledged, and the dead
letter queue.  A message is the serialized task, which is the task here, and all
messages of a queue have one priority.

By itself the broker moves delayed messages to their queues, drops delay queues that
are not used, and dead-letters messages that expire.  A delay queue is named after its
TTL alone, so its first declaration says where all its messages go, and a declaration
that says otherwise fails.  It also closes the channel: what was delivered through it
goes back to the queues, and can no longer be acknowledged.
-/

namespace SemanticBus

structure RabbitBroker where
  /-- The messages of the priority queues, next one first. -/
  ready : TaskPriority → List TaskPayload := fun _ ↦ []
  /-- The delay queues by their TTL, with the routing keys of their messages. -/
  delayQueues : Dict Int TaskPriority := ∅
  /-- The messages of the delay queues. -/
  delayed : List (Int × TaskPayload) := []
  /-- The messages that were delivered, by delivery tag. -/
  unacked : Dict Nat (TaskPriority × TaskPayload) := ∅
  nextTag : Nat := 0
  /-- The dead letter queue. -/
  dlq : List TaskPayload := []

inductive RabbitEvent where
  /-- The TTL of a delay queue is over for one of its messages. -/
  | delayOver (index : Nat)
  /-- A delay queue without messages has not been used for a while. -/
  | queueExpired (ttl : Int)
  /-- A message of a priority queue expires. -/
  | expired (priority : TaskPriority) (index : Nat)

namespace RabbitBroker

def publish (b : RabbitBroker) (priority : TaskPriority) (task : TaskPayload) : RabbitBroker :=
  { b with ready := Function.update b.ready priority (b.ready priority ++ [task]) }

/-- Put a delivered message back where it was. -/
def requeue (b : RabbitBroker) (delivery : TaskPriority × TaskPayload) : RabbitBroker :=
  { b with
    ready := Function.update b.ready delivery.1 (delivery.2 :: b.ready delivery.1) }

/-- Close the channel: later deliveries go back first. -/
def closeChannel (b : RabbitBroker) : RabbitBroker :=
  { b.unacked.values.reverse.foldl requeue b with unacked := ∅ }

/-- Declare a delay queue; none if there is one that routes its messages otherwise. -/
def declareDelay (b : RabbitBroker) (ttl : Int) (routingKey : TaskPriority) :
    Option RabbitBroker :=
  match b.delayQueues.get? ttl with
  | none => some { b with delayQueues := b.delayQueues.insert ttl routingKey }
  | some key => if key = routingKey then some b else none

/-- Deliver the next message of a queue. -/
def get (b : RabbitBroker) (priority : TaskPriority) : Option (Nat × TaskPayload × RabbitBroker) :=
  match b.ready priority with
  | [] => none
  | task :: rest =>
      some (b.nextTag, task,
        { b with
          ready := Function.update b.ready priority rest
          unacked := b.unacked.insert b.nextTag (priority, task)
          nextTag := b.nextTag + 1 })

/-- Acknowledge a delivery; none if the channel does not know it. -/
def ack (b : RabbitBroker) (tag : Nat) : Option RabbitBroker :=
  (b.unacked.get? tag).map fun _ ↦ { b with unacked := b.unacked.erase tag }

/-- Reject a delivery: without requeue it goes to the dead letter exchange. -/
def reject (b : RabbitBroker) (tag : Nat) (requeued : Bool) : Option RabbitBroker :=
  (b.unacked.get? tag).map fun delivery ↦
    let b := { b with unacked := b.unacked.erase tag }
    if requeued then b.requeue delivery else { b with dlq := b.dlq ++ [delivery.2] }

def happen (b : RabbitBroker) : RabbitEvent → RabbitBroker
  | .delayOver index =>
      match b.delayed[index]? with
      | none => b
      | some (ttl, task) =>
          match b.delayQueues.get? ttl with
          | none => b
          | some priority => { b with delayed := b.delayed.eraseIdx index }.publish priority task
  | .queueExpired ttl =>
      if ∃ e ∈ b.delayed, e.1 = ttl then b
      else { b with delayQueues := b.delayQueues.erase ttl }
  | .expired priority index =>
      match (b.ready priority)[index]? with
      | none => b
      | some task =>
          { b with
            ready := Function.update b.ready priority ((b.ready priority).eraseIdx index)
            dlq := b.dlq ++ [task] }

end RabbitBroker

structure RabbitMQTaskQueue where
  retryBaseDelay : ℚ := 1
  retryMaxDelay : ℚ := 60
  closed : Bool := false
  tasks : Dict UUID TaskPayload := ∅
  results : Dict UUID TaskResult := ∅
  /-- `_pending_messages`: the deliveries of the tasks that are not acknowledged. -/
  pendingMessages : Dict UUID Nat := ∅
  broker : RabbitBroker := {}

namespace RabbitMQTaskQueue

def enqueue (q : RabbitMQTaskQueue) (task : TaskPayload) (delaySeconds : ℚ) :
    WorkerReply × RabbitMQTaskQueue :=
  if q.closed then (.raised .queueClosed, q)
  else if delaySeconds > 0 then
    let ttl := ⌊delaySeconds * 1000⌋
    match q.broker.declareDelay ttl task.priority with
    | none => (.raised .brokerError, { q with broker := q.broker.closeChannel })
    | some broker =>
        (.accepted task,
          { q with
            broker := { broker with delayed := broker.delayed ++ [(ttl, task)] }
            tasks := q.tasks.insert task.taskId task })
  else
    (.accepted task,
      { q with
        broker := q.broker.publish task.priority task
        tasks := q.tasks.insert task.taskId task })

/-- The result stored for a task that exceeded its TTL. -/
def expiredResult (now : Time) (id : UUID) : TaskResult where
  taskId := id
  status := .expired
  errorCode := some "TASK_EXPIRED"
  errorMessage := some "Task exceeded TTL"
  processedAt := now

/-- What `dequeue` does with the next message of a queue: the task if it is claimed. -/
def receive (q : RabbitMQTaskQueue) (now : Time) (tenantId : Option String)
    (priority : TaskPriority) : Option TaskPayload × RabbitMQTaskQueue :=
  match q.broker.get priority with
  | none => (none, q)
  | some (tag, task, broker) =>
      if task.filteredOut tenantId then
        (none, { q with broker := (broker.reject tag true).getD broker })
      else if task.isExpired now then
        (none, { q with
          broker := (broker.reject tag false).getD broker
          results := q.results.insert task.taskId (expiredResult now task.taskId) })
      else
        (some task, { q with
          broker := broker
          pendingMessages := q.pendingMessages.insert task.taskId tag
          tasks := q.tasks.insert task.taskId task })

/-- The loop of `dequeue` over the priorities. -/
def readQueues (now : Time) (tenantId : Option String) :
    List TaskPriority → RabbitMQTaskQueue → Option TaskPayload × RabbitMQTaskQueue
  | [], q => (none, q)
  | priority :: priorities, q =>
      match q.receive now tenantId priority with
      | (some task, q') => (some task, q')
      | (none, q') => readQueues now tenantId priorities q'

def dequeue (q : RabbitMQTaskQueue) (now : Time) (tenantId : Option String) :
    Option TaskPayload × RabbitMQTaskQueue :=
  if q.closed then (none, q)
  else readQueues now tenantId [.critical, .high, .normal, .low, .background] q

def complete (q : RabbitMQTaskQueue) (id : UUID) (result : TaskResult) :
    WorkerReply × RabbitMQTaskQueue :=
  match q.pendingMessages.get? id with
  | none => (.done false, q)
  | some tag =>
      let q := { q with pendingMessages := q.pendingMessages.erase id }
      match q.broker.ack tag with
      | none => (.raised .brokerError, q)
      | some broker =>
          (.done true,
            { q with
              broker := broker
              results := q.results.insert id result
              tasks := q.tasks.erase id })

def failedResult (now : Time) (task : TaskPayload) (id : UUID) (errorCode errorMessage : String) :
    TaskResult where
  taskId := id
  status := .failed
  errorCode := some errorCode
  errorMessage := some errorMessage
  processedAt := now
  retryCount := task.retryCount

/-- Mark a task as failed, optionally re-enqueuing it for retry. -/
def fail (q : RabbitMQTaskQueue) (now : Time) (id : UUID) (errorCode errorMessage : String)
    (retry : Bool) : WorkerReply × RabbitMQTaskQueue :=
  let message := q.pendingMessages.get? id
  let q := { q with pendingMessages := q.pendingMessages.erase id }
  match message, q.tasks.get? id with
  | some tag, some task =>
      match q.broker.ack tag with
      | none => (.raised .brokerError, q)
      | some broker =>
          let q := { q with broker := broker }
          if retry ∧ task.canRetry then
            let task := { task with retryCount := task.retryCount + 1 }
            let delay := backoff q.retryBaseDelay q.retryMaxDelay task.retryCount
            match { q with tasks := q.tasks.erase id }.enqueue task delay with
            | (.accepted _, q') => (.done true, q')
            | (reply, q') => (reply, q')
          else
            (.done true,
              { q with
                results := q.results.insert id
                  (failedResult now task id errorCode errorMessage)
                tasks := q.tasks.erase id })
  | _, _ => (.done false, q)

def cancelledResult (now : Time) (id : UUID) : TaskResult where
  taskId := id
  status := .cancelled
  errorCode := some "TASK_CANCELLED"
  errorMessage := some "Task cancelled by user"
  processedAt := now

def cancel (q : RabbitMQTaskQueue) (now : Time) (id : UUID) : WorkerReply × RabbitMQTaskQueue :=
  let message := q.pendingMessages.get? id
  let q := { q with
    pendingMessages := q.pendingMessages.erase id
    tasks := q.tasks.erase id }
  match message with
  | none => (.done false, q)
  | some tag =>
      match q.broker.reject tag false with
      | none => (.raised .brokerError, q)
      | some broker =>
          (.done true,
            { q with
              broker := broker
              results := q.results.insert id (cancelledResult now id) })

/-- The loop of `clear_expired` over the tasks; none if a message cannot be rejected. -/
def clearLoop (now : Time) :
    List (UUID × TaskPayload) → Nat → RabbitMQTaskQueue → Option Nat × RabbitMQTaskQueue
  | [], count, q => (some count, q)
  | (id, task) :: entries, count, q =>
      if task.isExpired now then
        let message := q.pendingMessages.get? id
        let q := { q with pendingMessages := q.pendingMessages.erase id }
        let rejected := match message with
          | none => some q.broker
          | some tag => q.broker.reject tag false
        match rejected with
        | none => (none, q)
        | some broker =>
            clearLoop now entries (count + 1)
              { q with
                broker := broker
                tasks := q.tasks.erase id
                results := q.results.insert id (expiredResult now id) }
      else clearLoop now entries count q

def clearExpired (q : RabbitMQTaskQueue) (now : Time) : Option Nat × RabbitMQTaskQueue :=
  clearLoop now q.tasks.entries 0 q

/-- Refuse all further work; what was delivered can be delivered again. -/
def shutdown (q : RabbitMQTaskQueue) : RabbitMQTaskQueue :=
  let broker := q.pendingMessages.values.foldl (fun b tag ↦ (b.reject tag true).getD b) q.broker
  { q with closed := true, pendingMessages := ∅, broker := broker.closeChannel }

def exec (q : RabbitMQTaskQueue) (now : Time) : WorkerCall → WorkerReply × RabbitMQTaskQueue
  | .enqueue task delaySeconds => q.enqueue task delaySeconds
  | .dequeue tenantId => (q.dequeue now tenantId).map .dequeued id
  | .complete id result => q.complete id result
  | .fail id errorCode errorMessage retry => q.fail now id errorCode errorMessage retry

def elapse (q : RabbitMQTaskQueue) (events : List RabbitEvent) : RabbitMQTaskQueue :=
  { q with broker := events.foldl RabbitBroker.happen q.broker }

end RabbitMQTaskQueue

end SemanticBus
