import SemanticBus.Data.Dict
import SemanticBus.Protocol.Envelope

/-!
# Outbound connection queues

One bounded queue for each connection that streams are routed to, drained by a
single writer.  A full queue refuses a message at once, which is how the bus
notices backpressure.
-/

namespace SemanticBus

/-- Outbound message queue for a single connection.  The shutdown signal of a
closed queue is `none`; `writing` says that the writer task has not ended. -/
structure ConnectionQueue where
  connId : String
  websocket : Nat
  maxSize : Nat := 200
  items : List (Option Message) := []
  closed : Bool := false
  writing : Bool := true

namespace ConnectionQueue

/-- Whether the queue is at its capacity; a capacity of 0 is no bound. -/
def isFull (q : ConnectionQueue) : Bool := q.maxSize ≠ 0 && q.maxSize ≤ q.items.length

/-- Put a message on the queue without blocking. -/
def putNowait (q : ConnectionQueue) (message : Message) : Except PyError ConnectionQueue :=
  if q.closed then .error .runtimeError
  else if q.isFull then .error .queueFullError
  else .ok { q with items := q.items ++ [some message] }

/-- One round of the writer: it takes the oldest message and sends it, and ends
at the shutdown signal or when the send fails. -/
def write (q : ConnectionQueue) (sent : Bool) : ConnectionQueue × List (Nat × Message) :=
  if q.closed || !q.writing then ({ q with writing := false }, [])
  else match q.items with
    | [] => (q, [])
    | none :: items => ({ q with items := items, writing := false }, [])
    | some message :: items => ({ q with items := items, writing := sent }, [(q.websocket, message)])

/-- The writer does not close the queue. -/
theorem closed_write (q : ConnectionQueue) (sent : Bool) : (q.write sent).1.closed = q.closed := by
  unfold write
  split
  · rfl
  · split
    · rfl
    · rfl
    · rfl

end ConnectionQueue

structure ConnectionQueueManager where
  maxQueueSize : Nat := 200
  queues : Dict String ConnectionQueue := ∅

namespace ConnectionQueueManager

/-- The queue of a connection, a new one if it has none. -/
def getOrCreate (m : ConnectionQueueManager) (connId : String) (websocket : Nat) :
    ConnectionQueueManager × ConnectionQueue :=
  match m.queues.get? connId with
  | some q => (m, q)
  | none =>
      let q : ConnectionQueue :=
        { connId := connId, websocket := websocket, maxSize := m.maxQueueSize }
      ({ m with queues := m.queues.insert connId q }, q)

def setQueue (m : ConnectionQueueManager) (connId : String) (q : ConnectionQueue) :
    ConnectionQueueManager :=
  { m with queues := m.queues.insert connId q }

/-! ## Open queues -/

/-- No queue is closed: only `stop` closes one, and no handler calls it. -/
def Open (m : ConnectionQueueManager) : Prop :=
  ∀ connId q, m.queues.get? connId = some q → q.closed = false

variable {m : ConnectionQueueManager} {connId : String}

theorem Open.empty (maxQueueSize : Nat) : Open { maxQueueSize := maxQueueSize } := by
  intro connId q hq
  cases hq

theorem Open.setQueue (h : Open m) {q : ConnectionQueue} (hq : q.closed = false) :
    Open (m.setQueue connId q) := by
  intro c q' hc
  rw [ConnectionQueueManager.setQueue, Dict.get?_insert] at hc
  split at hc
  · obtain rfl := Option.some.inj hc
    exact hq
  · exact h c q' hc

theorem Open.getOrCreate (h : Open m) (connId : String) (websocket : Nat) :
    Open (m.getOrCreate connId websocket).1 ∧ (m.getOrCreate connId websocket).2.closed = false := by
  unfold ConnectionQueueManager.getOrCreate
  cases hq : m.queues.get? connId with
  | some q => exact ⟨h, h connId q hq⟩
  | none => exact ⟨h.setQueue rfl, rfl⟩

/-- The queue that a connection gets is the one stored for it. -/
theorem get?_getOrCreate (m : ConnectionQueueManager) (connId : String) (websocket : Nat) :
    (m.getOrCreate connId websocket).1.queues.get? connId
      = some (m.getOrCreate connId websocket).2 := by
  unfold ConnectionQueueManager.getOrCreate
  cases hq : m.queues.get? connId with
  | some q => exact hq
  | none => exact Dict.get?_insert_self _ _ _

/-- A put does not close the queue. -/
theorem closed_of_putNowait {q q' : ConnectionQueue} {message : Message}
    (h : q.putNowait message = .ok q') : q'.closed = q.closed := by
  unfold ConnectionQueue.putNowait at h
  split_ifs at h
  obtain rfl := Except.ok.inj h
  rfl

/-- On an open queue a put fails only for lack of space. -/
theorem putNowait_eq {q : ConnectionQueue} (h : q.closed = false) (message : Message) :
    q.putNowait message = if q.isFull then .error .queueFullError
      else .ok { q with items := q.items ++ [some message] } := by
  rw [ConnectionQueue.putNowait, h, if_neg (by simp)]

end ConnectionQueueManager

end SemanticBus
