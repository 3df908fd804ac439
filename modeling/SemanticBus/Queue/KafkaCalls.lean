import SemanticBus.Queue.Cancelling
import SemanticBus.Queue.Kafka

/-!
# Whole calls of the Kafka queue

One call after the other: a call gets the answers of the broker that it waits for, and
one that gets no answer, or another one, is refused.  `Served` lists what a call can come
to, its broken-off ends included, and `served` says that the list is complete; whoever
looks at whole calls need not look at the answers any more.
-/

namespace SemanticBus

inductive KafkaAnswer where
  | sent (partition : Nat)
  | polled (source : Option TopicPartition)
  | committed

namespace KafkaSystem

def answered (s : KafkaSystem) (now : Time) (call : KafkaCall) :
    KafkaAnswer → Option (KafkaBroker × KafkaTaskQueue × KafkaNext)
  | .sent partition => s.onSent now partition call
  | .polled source => s.onPolled now source call
  | .committed => s.onCommitted now call

def converse (now : Time) : List KafkaAnswer → KafkaBroker → KafkaTaskQueue × KafkaNext →
    WorkerReply × KafkaBroker × KafkaTaskQueue
  | _, broker, (q, .reply reply) => (reply, broker, q)
  | [], broker, (q, .await call) => (onRefused call, broker, q)
  | answer :: answers, broker, (q, .await call) =>
      match answered { broker := broker, queue := q } now call answer with
      | none => (onRefused call, broker, q)
      | some (broker', step) => converse now answers broker' step

def serve (now : Time) (answers : List KafkaAnswer) (call : WorkerCall)
    (x : KafkaBroker × KafkaTaskQueue) : QueueOutcome × KafkaBroker × KafkaTaskQueue :=
  let reply := converse now answers x.1 (x.2.start now call)
  (reply.1.outcome, reply.2)

/-- The broker has nothing more to read and no more dead letters. -/
structure Quiet (broker broker' : KafkaBroker) : Prop where
  unread : ∀ tp, broker'.tasks.unread tp = broker.tasks.unread tp
  dlq : broker'.dlq = broker.dlq

/-- What a call comes to, of the broker and the queue that it finds: what its caller sees, and
the broker and the queue that it leaves. -/
inductive Served (now : Time) (broker : KafkaBroker) (q : KafkaTaskQueue) :
    WorkerCall → QueueOutcome → KafkaBroker → KafkaTaskQueue → Prop
  /-- The queue is closed, or the message is not stored. -/
  | refused (task : TaskPayload) (delaySeconds : ℚ) :
      Served now broker q (.enqueue task delaySeconds) .other broker
        { q with objects := q.objects ++ [task] }
  | sent (task : TaskPayload) (delaySeconds : ℚ) (tp : TopicPartition) :
      Served now broker q (.enqueue task delaySeconds) .accepted
        { broker with
          tasks := broker.tasks.append tp (KafkaTaskQueue.recordOf now task delaySeconds) }
        ({ q with objects := q.objects ++ [task] }.sent q.objects.length
          (KafkaTaskQueue.recordOf now task delaySeconds))
  /-- The queue is closed, or there is no record. -/
  | empty (tenantId : Option String) : Served now broker q (.dequeue tenantId) .other broker q
  /-- The consumer goes past a record that is not due, or another tenant's. -/
  | passed {tenantId : Option String} {tp : TopicPartition} {record : KafkaRecord}
      {tasks : GroupLog TopicPartition KafkaRecord} :
      broker.tasks.poll tp = some (record, tasks) →
      Served now broker q (.dequeue tenantId) .other { broker with tasks := tasks } q
  | expired {tenantId : Option String} {tp : TopicPartition} {record : KafkaRecord}
      {tasks : GroupLog TopicPartition KafkaRecord} {broker' : KafkaBroker} :
      broker.tasks.poll tp = some (record, tasks) → record.task.isExpired now = true →
      Quiet { broker with tasks := tasks } broker' →
      Served now broker q (.dequeue tenantId) .other broker' (q.markExpired now record.task)
  | claimed {tenantId : Option String} {tp : TopicPartition} {record : KafkaRecord}
      {tasks : GroupLog TopicPartition KafkaRecord} (offset : Nat) :
      q.closed = false → broker.tasks.poll tp = some (record, tasks) →
      Served now broker q (.dequeue tenantId) (.handedOut record.task.taskId)
        { broker with tasks := tasks } (q.claim tp offset record.task).1
  | unknown {call : WorkerCall} {id : UUID} : q.tasks.get? id = none →
      ((∃ result, call = .complete id result) ∨
        ∃ errorCode errorMessage retry, call = .fail id errorCode errorMessage retry) →
      Served now broker q call (.done false) broker q
  /-- The result is published, or not any more. -/
  | unpublished {id : UUID} {result : TaskResult} {broker' : KafkaBroker}
      (results : Dict UUID TaskResult) : Quiet broker broker' →
      Served now broker q (.complete id result) .other broker' { q with results := results }
  | completed {id : UUID} {result : TaskResult} {ref : Nat} {broker' : KafkaBroker} :
      q.tasks.get? id = some ref → Quiet broker broker' →
      Served now broker q (.complete id result) (.done true) broker'
        ({ q with results := q.results.insert id result }.forget id)
  | unburied {id : UUID} {errorCode errorMessage : String} {retry : Bool}
      {broker' : KafkaBroker} : Quiet broker broker' →
      Served now broker q (.fail id errorCode errorMessage retry) .other broker' q
  /-- A task that is not stored again is no longer tracked. -/
  | dropped {id : UUID} {errorCode errorMessage : String} {retry : Bool} {ref : Nat}
      {task : TaskPayload} {broker' : KafkaBroker} : q.tasks.get? id = some ref →
      q.objects[ref]? = some task → retry = true → task.canRetry = true → Quiet broker broker' →
      Served now broker q (.fail id errorCode errorMessage retry) .other broker'
        { q with
          objects := q.objects.set ref { task with retryCount := task.retryCount + 1 }
          tasks := q.tasks.erase id }
  | requeued {id : UUID} {errorCode errorMessage : String} {retry : Bool} {ref : Nat}
      {task : TaskPayload} {broker' : KafkaBroker} (delay : ℚ) (tp : TopicPartition) :
      q.tasks.get? id = some ref → q.objects[ref]? = some task → retry = true →
      task.canRetry = true → Quiet broker broker' →
      Served now broker q (.fail id errorCode errorMessage retry) (.done true)
        { broker' with
          tasks := broker'.tasks.append tp (KafkaTaskQueue.recordOf now
            { task with retryCount := task.retryCount + 1 } delay) }
        ({ q with
            objects := q.objects.set ref { task with retryCount := task.retryCount + 1 }
            tasks := q.tasks.erase id }.sent ref
          (KafkaTaskQueue.recordOf now { task with retryCount := task.retryCount + 1 } delay))
  | buried {id : UUID} {errorCode errorMessage : String} {retry : Bool} {ref : Nat}
      {task : TaskPayload} {broker' : KafkaBroker} (result : TaskResult) :
      q.tasks.get? id = some ref → q.objects[ref]? = some task →
      ¬ (retry = true ∧ task.canRetry = true) → Quiet broker broker' →
      Served now broker q (.fail id errorCode errorMessage retry) (.done true)
        { broker' with dlq := broker'.dlq ++ [⟨task, errorCode, errorMessage, now⟩] }
        ({ q with results := q.results.insert id result }.forget id)

variable {now : Time} {answers : List KafkaAnswer} {broker : KafkaBroker} {q : KafkaTaskQueue}
  {id : UUID}

/-- A call that waits is refused, or goes on with an answer. -/
theorem converse_await (now : Time) (answers : List KafkaAnswer) (broker : KafkaBroker)
    (q : KafkaTaskQueue) (call : KafkaCall) :
    converse now answers broker (q, .await call) = (onRefused call, broker, q) ∨
      ∃ answer rest broker' step,
        answered { broker := broker, queue := q } now call answer = some (broker', step) ∧
        converse now answers broker (q, .await call) = converse now rest broker' step := by
  cases answers with
  | nil => exact .inl rfl
  | cons answer rest =>
      rw [converse]
      cases hanswer : answered { broker := broker, queue := q } now call answer with
      | none => exact .inl rfl
      | some next => exact .inr ⟨answer, rest, next.1, next.2, hanswer, rfl⟩

theorem converse_reply (now : Time) (answers : List KafkaAnswer) (broker : KafkaBroker)
    (q : KafkaTaskQueue) (reply : WorkerReply) :
    converse now answers broker (q, .reply reply) = (reply, broker, q) := by
  cases answers with
  | nil | cons => rfl

/-- A commit is nothing to read. -/
theorem quiet_commit (broker : KafkaBroker) :
    Quiet broker { broker with tasks := broker.tasks.commit } := ⟨fun _ ↦ rfl, rfl⟩

theorem served_enqueue (task : TaskPayload) (delaySeconds : ℚ) :
    let y := serve now answers (.enqueue task delaySeconds) (broker, q)
    Served now broker q (.enqueue task delaySeconds) y.1 y.2.1 y.2.2 := by
  dsimp only
  rw [serve, KafkaTaskQueue.start, KafkaTaskQueue.enqueue]
  split
  · rw [converse_reply]
    exact .refused task delaySeconds
  · rcases converse_await now answers broker { q with objects := q.objects ++ [task] }
      (.sending q.objects.length (KafkaTaskQueue.recordOf now task delaySeconds) false) with
      heq | ⟨answer, rest, broker', step, hanswer, heq⟩
    · rw [heq]
      exact .refused task delaySeconds
    · rw [heq]
      cases answer with
      | sent partition =>
          cases hanswer
          rw [converse_reply]
          exact .sent task delaySeconds _
      | polled | committed => cases hanswer

theorem served_dequeue (tenantId : Option String) :
    let y := serve now answers (.dequeue tenantId) (broker, q)
    Served now broker q (.dequeue tenantId) y.1 y.2.1 y.2.2 := by
  dsimp only
  rw [serve, KafkaTaskQueue.start]
  cases hclosed : q.closed with
  | true =>
      rw [if_pos rfl, converse_reply]
      exact .empty tenantId
  | false =>
      rw [if_neg Bool.false_ne_true]
      rcases converse_await now answers broker q (.polling tenantId) with
        heq | ⟨answer, rest, broker', step, hanswer, heq⟩
      · rw [heq]
        exact .empty tenantId
      · rw [heq]
        cases answer with
        | sent | committed => cases hanswer
        | polled source =>
            cases source with
            | none =>
                cases hanswer
                rw [converse_reply]
                exact .empty tenantId
            | some tp =>
                obtain ⟨⟨record, tasks⟩, hpoll, hstep⟩ := Option.map_eq_some_iff.mp hanswer
                obtain ⟨rfl, rfl⟩ := Prod.mk.inj hstep
                have hpoll : broker.tasks.poll tp = some (record, tasks) := hpoll
                rw [KafkaTaskQueue.receive]
                cases hjudge : record.judge now tenantId with
                | notReady | otherTenant =>
                    rw [converse_reply]
                    exact .passed hpoll
                | ready =>
                    dsimp only [Prod.map]
                    rw [converse_reply]
                    exact .claimed _ hclosed hpoll
                | expired =>
                    have hexpired : record.task.isExpired now = true := by
                      unfold KafkaRecord.judge at hjudge
                      split_ifs at hjudge
                      assumption
                    dsimp only
                    rcases converse_await now rest { broker with tasks := tasks }
                      (q.markExpired now record.task) .skipping with
                      heq' | ⟨answer', rest', broker'', step', hanswer', heq'⟩
                    · rw [heq']
                      exact .expired hpoll hexpired ⟨fun _ ↦ rfl, rfl⟩
                    · rw [heq']
                      cases answer' with
                      | sent | polled => cases hanswer'
                      | committed =>
                          cases hanswer'
                          rw [converse_reply]
                          exact .expired hpoll hexpired (quiet_commit _)

theorem served_complete (id : UUID) (result : TaskResult) :
    let y := serve now answers (.complete id result) (broker, q)
    Served now broker q (.complete id result) y.1 y.2.1 y.2.2 := by
  dsimp only
  rw [serve, KafkaTaskQueue.start]
  cases hget : q.tasks.get? id with
  | none =>
      dsimp only
      rw [converse_reply]
      exact .unknown hget (.inl ⟨result, rfl⟩)
  | some ref =>
      dsimp only
      rcases converse_await now answers broker q (.completing id result) with
        heq | ⟨answer, rest, broker', step, hanswer, heq⟩
      · rw [heq]
        exact .unpublished q.results ⟨fun _ ↦ rfl, rfl⟩
      · rw [heq]
        cases answer with
        | sent | polled => cases hanswer
        | committed =>
            cases hanswer
            rcases converse_await now rest { broker with tasks := broker.tasks.commit }
              { q with results := q.results.insert id result } (.publishing id result) with
              heq' | ⟨answer', rest', broker'', step', hanswer', heq'⟩
            · rw [heq']
              exact .unpublished _ (quiet_commit broker)
            · rw [heq']
              cases answer' with
              | polled | committed => cases hanswer'
              | sent partition =>
                  cases hanswer'
                  have hcontains : q.tasks.contains id = true := Dict.contains_iff.mpr ⟨ref, hget⟩
                  rw [KafkaTaskQueue.finish, if_pos hcontains, converse_reply]
                  exact .completed hget ⟨fun _ ↦ rfl, rfl⟩

theorem served_fail (errorCode errorMessage : String) (retry : Bool)
    (hobject : ∀ ref, q.tasks.get? id = some ref → ∃ task, q.objects[ref]? = some task ∧
      task.taskId = id) :
    let y := serve now answers (.fail id errorCode errorMessage retry) (broker, q)
    Served now broker q (.fail id errorCode errorMessage retry) y.1 y.2.1 y.2.2 := by
  dsimp only
  rw [serve, KafkaTaskQueue.start]
  cases hget : q.tasks.get? id with
  | none =>
      dsimp only
      rw [converse_reply]
      exact .unknown hget (.inr ⟨errorCode, errorMessage, retry, rfl⟩)
  | some ref =>
      obtain ⟨task, htask, hid⟩ := hobject ref hget
      have hcontains : q.tasks.contains id = true := Dict.contains_iff.mpr ⟨ref, hget⟩
      dsimp only
      rcases converse_await now answers broker q
        (.failing id ref errorCode errorMessage retry) with
        heq | ⟨answer, rest, broker', step, hanswer, heq⟩
      · rw [heq]
        exact .unburied ⟨fun _ ↦ rfl, rfl⟩
      · rw [heq]
        cases answer with
        | sent | polled => cases hanswer
        | committed =>
            obtain ⟨task', htask', hstep⟩ := Option.map_eq_some_iff.mp hanswer
            obtain rfl := Option.some.inj (htask.symm.trans htask')
            obtain ⟨rfl, rfl⟩ := Prod.mk.inj hstep
            rw [KafkaTaskQueue.fail]
            by_cases hretry : retry = true ∧ task.canRetry = true
            · rw [if_pos hretry]
              dsimp only
              rw [if_pos hcontains, KafkaTaskQueue.enqueue]
              split
              · rw [converse_reply]
                exact .dropped hget htask hretry.1 hretry.2 (quiet_commit broker)
              · rcases converse_await now rest { broker with tasks := broker.tasks.commit }
                  { q with
                    objects := q.objects.set ref { task with retryCount := task.retryCount + 1 }
                    tasks := q.tasks.erase id }
                  (.sending ref (KafkaTaskQueue.recordOf now
                    { task with retryCount := task.retryCount + 1 }
                    (backoff q.retryBaseDelay q.retryMaxDelay (task.retryCount + 1))) true) with
                  heq' | ⟨answer', rest', broker'', step', hanswer', heq'⟩
                · rw [heq']
                  exact .dropped hget htask hretry.1 hretry.2 (quiet_commit broker)
                · rw [heq']
                  cases answer' with
                  | polled | committed => cases hanswer'
                  | sent partition =>
                      cases hanswer'
                      rw [converse_reply]
                      exact .requeued _ _ hget htask hretry.1 hretry.2 (quiet_commit broker)
            · rw [if_neg hretry]
              rcases converse_await now rest { broker with tasks := broker.tasks.commit } q
                (.burying id ref ⟨task, errorCode, errorMessage, now⟩) with
                heq' | ⟨answer', rest', broker'', step', hanswer', heq'⟩
              · rw [heq']
                exact .unburied (quiet_commit broker)
              · rw [heq']
                cases answer' with
                | polled | committed => cases hanswer'
                | sent partition =>
                    obtain ⟨task', htask', hstep'⟩ := Option.map_eq_some_iff.mp hanswer'
                    obtain ⟨rfl, rfl⟩ := Prod.mk.inj hstep'
                    rw [KafkaTaskQueue.finish, if_pos hcontains, converse_reply]
                    exact .buried _ hget htask hretry (quiet_commit broker)

/-! ## What a call leaves -/

/-- Nothing is tracked or to be read that was not. -/
structure Less (x x' : KafkaBroker × KafkaTaskQueue) : Prop where
  unread : ∀ tp, ∀ record ∈ x'.1.tasks.unread tp, record ∈ x.1.tasks.unread tp
  tracked : ∀ id ref, x'.2.tasks.get? id = some ref → x.2.tasks.get? id = some ref
  objects : ∀ (ref : Nat) (task : TaskPayload), x.2.objects[ref]? = some task →
    ∃ task', x'.2.objects[ref]? = some task' ∧ task'.taskId = task.taskId
  closed : x'.2.closed = x.2.closed

variable {x x' x'' : KafkaBroker × KafkaTaskQueue} {broker' : KafkaBroker} {q' : KafkaTaskQueue}
  {ref : Nat} {record : KafkaRecord} {tp : TopicPartition} {call : WorkerCall}
  {outcome : QueueOutcome}

theorem Less.refl (x : KafkaBroker × KafkaTaskQueue) : Less x x :=
  ⟨fun _ _ h ↦ h, fun _ _ h ↦ h, fun _ task h ↦ ⟨task, h, rfl⟩, rfl⟩

theorem Less.trans (h : Less x x') (h' : Less x' x'') : Less x x'' where
  unread tp record hr := h.unread tp record (h'.unread tp record hr)
  tracked id ref hr := h.tracked id ref (h'.tracked id ref hr)
  objects ref task ht := by
    obtain ⟨task₁, h₁, hid₁⟩ := h.objects ref task ht
    obtain ⟨task₂, h₂, hid₂⟩ := h'.objects ref task₁ h₁
    exact ⟨task₂, h₂, hid₂.trans hid₁⟩
  closed := h'.closed.trans h.closed

/-- Forgetting tasks. -/
theorem Less.of_tasks (htracked : ∀ id ref, q'.tasks.get? id = some ref →
      q.tasks.get? id = some ref) (hobjects : q'.objects = q.objects)
    (hclosed : q'.closed = q.closed) : Less (broker, q) (broker, q') := by
  refine ⟨fun _ _ h ↦ h, htracked, fun ref task ht ↦ ⟨task, ?_, rfl⟩, hclosed⟩
  show q'.objects[ref]? = some task
  rw [hobjects]
  exact ht

theorem Less.forget (q : KafkaTaskQueue) (id : UUID) : Less (broker, q) (broker, q.forget id) := by
  refine .of_tasks (fun j ref hj ↦ ?_) rfl rfl
  have hj : (q.tasks.erase id).get? j = some ref := hj
  rw [Dict.get?_erase] at hj
  exact (Option.ite_none_left_eq_some.mp hj).2

theorem Less.results (q : KafkaTaskQueue) (results : Dict UUID TaskResult) :
    Less (broker, q) (broker, { q with results := results }) := .of_tasks (fun _ _ h ↦ h) rfl rfl

theorem Less.markExpired (q : KafkaTaskQueue) (now : Time) (task : TaskPayload) :
    Less (broker, q) (broker, q.markExpired now task) :=
  (Less.results q _).trans (Less.forget _ _)

/-- Messages on other topics, and commits, are nothing to read. -/
theorem Less.of_unread (hunread : ∀ tp, broker'.tasks.unread tp = broker.tasks.unread tp) :
    Less (broker, q) (broker', q) := by
  refine ⟨fun tp record hr ↦ ?_, fun _ _ h ↦ h, fun _ task h ↦ ⟨task, h, rfl⟩, rfl⟩
  have hr : record ∈ broker'.tasks.unread tp := hr
  rw [hunread] at hr
  exact hr

/-- Reading a record leaves less to read. -/
theorem Less.polled {tasks : GroupLog TopicPartition KafkaRecord}
    (hpoll : broker.tasks.poll tp = some (record, tasks)) :
    Less (broker, q) ({ broker with tasks := tasks }, q) := by
  obtain ⟨hhead, hothers, -⟩ := GroupLog.poll_eq_some hpoll
  refine ⟨fun tp' record' hr ↦ ?_, fun _ _ h ↦ h, fun _ task h ↦ ⟨task, h, rfl⟩, rfl⟩
  by_cases htp : tp' = tp
  · subst htp
    show record' ∈ broker.tasks.unread tp'
    rw [hhead]
    exact List.mem_cons_of_mem _ hr
  · exact hothers tp' htp ▸ hr

/-- Counting a retry in the object of a task. -/
theorem Less.count {task : TaskPayload} (hget : q.objects[ref]? = some task) :
    Less (broker, q) (broker,
      { q with objects := q.objects.set ref { task with retryCount := task.retryCount + 1 } }) := by
  refine ⟨fun _ _ h ↦ h, fun _ _ h ↦ h, fun ref' task' ht ↦ ?_, rfl⟩
  have hlt := (List.getElem?_eq_some_iff.mp ht).1
  by_cases href : ref' = ref
  · subst href
    obtain rfl := Option.some.inj (hget.symm.trans ht)
    exact ⟨_, List.getElem?_set_self hlt, rfl⟩
  · exact ⟨task', (List.getElem?_set_ne (Ne.symm href)).trans ht, rfl⟩

def ObjectsKnown (q : KafkaTaskQueue) : Prop :=
  ∀ id ref, q.tasks.get? id = some ref → ∃ task, q.objects[ref]? = some task ∧ task.taskId = id

theorem Less.objectsKnown (h : Less x x') (hobjects : ObjectsKnown x.2) : ObjectsKnown x'.2 := by
  intro id ref hget
  obtain ⟨task, htask, rfl⟩ := hobjects id ref (h.tracked id ref hget)
  exact h.objects ref task htask

/-- What a call comes to. -/
theorem served (hobjects : ObjectsKnown q) (call : WorkerCall) :
    let y := serve now answers call (broker, q)
    Served now broker q call y.1 y.2.1 y.2.2 := by
  cases call with
  | enqueue task delaySeconds => exact served_enqueue task delaySeconds
  | dequeue tenantId => exact served_dequeue tenantId
  | complete id result => exact served_complete id result
  | fail id errorCode errorMessage retry =>
      exact served_fail errorCode errorMessage retry (hobjects id)

/-- Another object leaves what there is. -/
theorem Less.object (task : TaskPayload) :
    Less (broker, q) (broker, { q with objects := q.objects ++ [task] }) := by
  refine ⟨fun _ _ h ↦ h, fun _ _ h ↦ h, fun ref task' ht ↦ ⟨task', ?_, rfl⟩, rfl⟩
  exact List.getElem?_append_left (List.getElem?_eq_some_iff.mp ht).1 ▸ ht

theorem Less.quiet (h : Quiet broker broker') : Less (broker, q) (broker', q) := .of_unread h.unread

/-- A task leaves the tracking for good or for now. -/
theorem Less.settle (h : Quiet broker broker') (results : Dict UUID TaskResult) (id : UUID) :
    Less (broker, q) (broker', { q with results := results }.forget id) :=
  ((Less.quiet h).trans (Less.results q results)).trans (Less.forget _ id)

/-- A retry counts in the object of a task, which is not tracked meanwhile. -/
theorem Less.drop {task : TaskPayload} (h : Quiet broker broker') (hget : q.objects[ref]? = some task)
    (id : UUID) :
    Less (broker, q) (broker',
      { q with
        objects := q.objects.set ref { task with retryCount := task.retryCount + 1 }
        tasks := q.tasks.erase id }) := by
  refine ((Less.quiet h).trans (Less.count hget)).trans (.of_tasks (fun j ref' hj ↦ ?_) rfl rfl)
  have hj : (q.tasks.erase id).get? j = some ref' := hj
  rw [Dict.get?_erase] at hj
  exact (Option.ite_none_left_eq_some.mp hj).2

/-- What is tracked after a record is sent. -/
theorem get?_sent (q : KafkaTaskQueue) (ref : Nat) (record : KafkaRecord) (j : UUID) :
    (q.sent ref record).tasks.get? j
      = if j = record.task.taskId then some ref else q.tasks.get? j := Dict.get?_insert _ _ _ _

/-- What is tracked after a record is handed out. -/
theorem get?_claim (q : KafkaTaskQueue) (tp : TopicPartition) (offset : Nat) (task : TaskPayload)
    (j : UUID) : (q.claim tp offset task).1.tasks.get? j
      = if j = task.taskId then some q.objects.length else q.tasks.get? j := Dict.get?_insert _ _ _ _

/-- The object of a record that is sent. -/
theorem objectsKnown_sent {task : TaskPayload} (hobjects : ObjectsKnown q)
    (hobject : q.objects[ref]? = some task) (hid : task.taskId = record.task.taskId) :
    ObjectsKnown (q.sent ref record) := by
  intro j ref' hj
  rw [get?_sent] at hj
  split at hj
  · rename_i heq
    obtain rfl := Option.some.inj hj
    exact ⟨task, hobject, hid.trans heq.symm⟩
  · exact hobjects j ref' hj

/-- The object of a task that is handed out. -/
theorem objectsKnown_claim (hobjects : ObjectsKnown q) (tp : TopicPartition) (offset : Nat)
    (task : TaskPayload) : ObjectsKnown (q.claim tp offset task).1 := by
  intro j ref hj
  rw [get?_claim] at hj
  split at hj
  · rename_i heq
    obtain rfl := Option.some.inj hj
    exact ⟨(q.claim tp offset task).2, List.getElem?_concat_length, heq.symm⟩
  · obtain ⟨task', htask, hid⟩ := hobjects j ref hj
    refine ⟨task', ?_, hid⟩
    exact (List.getElem?_append_left (List.getElem?_eq_some_iff.mp htask).1).trans htask

end KafkaSystem

end SemanticBus
