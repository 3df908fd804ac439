import SemanticBus.Queue.Pending

/-!
# Acknowledgement of claimed entries

`dequeue` notes in the object it returns which stream entry it was claimed through,
and `complete` and `fail` look for that in the hash of the task, where it is only if
the task was enqueued with it.  An entry that is not found there stays pending, and so
does one that a tenant filter passes over.

`AckNotes` keeps, along a run, the entries through which tasks were claimed, as long
as the task is not resolved and after that.  The pending lists hold nothing but
entries of the first kind exactly as long as every entry is found and none is passed
over.
-/

namespace SemanticBus

/-- A call at a clock reading, by a client. -/
abbrev RedisLabel := Time × RedisTaskQueue × WorkerCall

/-- The entries through which tasks were claimed, in a run. -/
structure AckNotes where
  /-- The tasks that are not resolved, with the entries they were claimed through. -/
  claimed : List (UUID × EntryRef) := []
  /-- The entries of tasks that `complete` or `fail` returned `True` for. -/
  resolved : List EntryRef := []

namespace RedisTaskQueue

open RedisTaskStore

variable {q : RedisTaskQueue} {now : Time} {tenantId : Option String} {s s' : RedisTaskStore}
  {e : EntryRef} {id : UUID} {call : WorkerCall} {notes : AckNotes}

/-- A call of a client that uses the prefix. -/
def fire (keyPrefix : String) (s : RedisTaskStore) (a : RedisLabel) : Option RedisTaskStore :=
  if a.2.1.keyPrefix = keyPrefix then some (a.2.1.exec a.1 a.2.2 s).2 else none

/-- The calls of the clients that use one prefix, one after the other. -/
abbrev Steps (keyPrefix : String) : Step RedisTaskStore RedisLabel := Step.graph (fire keyPrefix)

/-- The store as the loop of `dequeue` finds it. -/
def scheduled (s : RedisTaskStore) (now : Time) : RedisTaskStore := (processDelayedTasks.run now s).2

/-- The task that a call claims, and the entry through which it does. -/
def claims (q : RedisTaskQueue) (now : Time) (s : RedisTaskStore) :
    WorkerCall → Option (UUID × EntryRef)
  | .dequeue tenantId =>
      if q.closed then none else (scheduled s now).claimedIn now tenantId TaskPriority.all
  | _ => none

def isTrue : WorkerReply → Bool
  | .done ok => ok
  | _ => false

/-- The notes after a call. -/
def note (s : RedisTaskStore) (a : RedisLabel) (notes : AckNotes) : AckNotes :=
  match settled a.2.2 with
  | none => { notes with claimed := notes.claimed ++ (a.2.1.claims a.1 s a.2.2).toList }
  | some id =>
      if isTrue (a.2.1.exec a.1 a.2.2 s).1 then
        { claimed := notes.claimed.filter fun c ↦ c.1 ≠ id
          resolved := notes.resolved ++ (notes.claimed.filter fun c ↦ c.1 = id).map Prod.snd }
      else notes

/-- The entries of resolved tasks are acknowledged, and what is pending is an entry of a
claimed task that is not resolved. -/
structure Accounted (x : RedisTaskStore × AckNotes) : Prop where
  resolved : ∀ e ∈ x.2.resolved, ¬ x.1.isPending e
  pending : ∀ e, x.1.isPending e → ∃ id, (id, e) ∈ x.2.claimed

/-- A `dequeue` passes no entry over, and a `complete` or `fail` that goes through finds in
the hash of its task each entry through which the task was claimed and that is pending. -/
def Found (x : RedisTaskStore × AckNotes) (a : RedisLabel) : Prop :=
  match a.2.2 with
  | .enqueue _ _ => True
  | .dequeue tenantId => a.2.1.closed = false →
      (scheduled x.1 a.1).passedOver a.1 tenantId TaskPriority.all = []
  | .complete id _ | .fail id _ _ _ => ∀ task ∈ x.1.tasks.read a.1 id,
      a.2.1.ackTarget task.metadata ≠ .refused → ∀ c ∈ x.2.claimed, c.1 = id →
        x.1.isPending c.2 → a.2.1.ackTarget task.metadata = .entry c.2

instance : DecidableRel Found := fun x a ↦
  match a with
  | (_, _, .enqueue _ _) => .isTrue trivial
  | (now, q, .dequeue tenantId) => inferInstanceAs (Decidable (q.closed = false →
      (scheduled x.1 now).passedOver now tenantId TaskPriority.all = []))
  | (now, q, .complete id _) | (now, q, .fail id _ _ _) =>
      inferInstanceAs (Decidable (∀ task ∈ x.1.tasks.read now id,
        q.ackTarget task.metadata ≠ .refused → ∀ c ∈ x.2.claimed, c.1 = id →
          x.1.isPending c.2 → q.ackTarget task.metadata = .entry c.2))

/-! ## One call -/

/-- What `dequeue` returns is the task that it claims. -/
theorem exec_dequeue (q : RedisTaskQueue) (now : Time) (tenantId : Option String)
    (s : RedisTaskStore) :
    (q.exec now (.dequeue tenantId) s).1 = .dequeued
      ((q.claims now s (.dequeue tenantId)).bind fun c ↦
        ((scheduled s now).tasks.read now c.1).map fun task ↦ q.claim task c.2) := by
  rw [exec, prog, dequeue, claims]
  cases q.closed with
  | true => rfl
  | false =>
      rw [if_neg Bool.false_ne_true, if_neg Bool.false_ne_true, Prog.run_bind]
      exact (readStreams_effect (by decide)).reply

variable {keyPrefix : String} {x y : RedisTaskStore × AckNotes} {a : RedisLabel}

def sampleClient : RedisTaskQueue where
  consumer := "worker_1"

def sampleTask (metadata : JsonObj) : TaskPayload where
  taskId := ⟨1⟩
  tenantId := "acme"
  createdAt := 5000
  metadata := metadata

/-- The task is enqueued at 5 ms, dequeued at 6 ms, and completed at 7 ms. -/
def sampleCalls (metadata : JsonObj) : List RedisLabel :=
  [(5000, sampleClient, .enqueue (sampleTask metadata) 0), (6000, sampleClient, .dequeue none),
    (7000, sampleClient, .complete ⟨1⟩ { taskId := ⟨1⟩, status := .completed, processedAt := 7000 })]

end RedisTaskQueue

end SemanticBus
