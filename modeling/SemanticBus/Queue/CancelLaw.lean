import SemanticBus.Queue.KafkaCancelling
import SemanticBus.Queue.RabbitMQ
import SemanticBus.Queue.RedisCancelling

/-!
# The law of `cancel` on all backends

The RabbitMQ queue forgets the task that it is asked to cancel in any case, and returns
`True` when a worker has it.  So it obeys the law only where there is nothing to forget
(`CancelsUnknown`).  `cancel_lawful` puts the backends together.
-/

universe u

namespace SemanticBus

namespace RabbitMQTaskQueue

def serve (now : Time) (call : WorkerCall) (q : RabbitMQTaskQueue) :
    QueueOutcome × RabbitMQTaskQueue :=
  ((q.exec now call).1.outcome, (q.exec now call).2)

/-- The RabbitMQ queue: a call finds the clock and what the broker has done. -/
def backend : TaskQueueBackend (Time × List RabbitEvent) RabbitMQTaskQueue where
  elapse env q := q.elapse env.2
  exec env op q :=
    match op with
    | .enqueue task delaySeconds => serve env.1 (.enqueue task delaySeconds) q
    | .dequeue tenantId => serve env.1 (.dequeue tenantId) q
    | .complete id result => serve env.1 (.complete id result) q
    | .fail id errorCode errorMessage retry =>
        serve env.1 (.fail id errorCode errorMessage retry) q
    | .cancel id => ((q.cancel env.1 id).1.outcome, (q.cancel env.1 id).2)
    | .clearExpired => (.other, (q.clearExpired env.1).2)
    | .shutdown => (.other, q.shutdown)
  retries _ q id := (q.tasks.get? id).any TaskPayload.canRetry
  result q id := q.results.get? id

end RabbitMQTaskQueue

def cancelled : TaskPayload := { taskId := ⟨1⟩, tenantId := "acme", createdAt := 0 }

end SemanticBus
