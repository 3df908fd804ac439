import SemanticBus.Queue.KafkaCalls

/-!
# Cancelling on the Kafka queue

One call after the other: a call gets the answers of the broker that it waits for, and
one that gets no answer, or another one, is refused.  `cancel` forgets a task that the
process tracks, whether it waits or a worker has it, and the record stays in its topic.
So the law of `cancel` needs that no worker has the task and that its record is behind
the consumer (`CancelsSkipped`), as it is when a `dequeue` has passed over it.
-/

namespace SemanticBus

namespace KafkaTaskQueue

def cancelledResult (now : Time) (id : UUID) : TaskResult where
  taskId := id
  status := .cancelled
  errorCode := some "TASK_CANCELLED"
  errorMessage := some "Task cancelled by user"
  processedAt := now

def cancel (q : KafkaTaskQueue) (now : Time) (id : UUID) : Bool × KafkaTaskQueue :=
  match q.tasks.get? id with
  | none => (false, q)
  | some _ =>
      (true, { q with results := q.results.insert id (cancelledResult now id) }.forget id)

/-- One round of `clear_expired`, for one task of the snapshot it iterates over. -/
def clearStep (now : Time) (acc : Nat × KafkaTaskQueue) (entry : UUID × Nat) :
    Nat × KafkaTaskQueue :=
  match acc.2.objects[entry.2]? with
  | none => acc
  | some task => if task.isExpired now then (acc.1 + 1, acc.2.markExpired now task) else acc

/-- Remove expired tasks from tracking; the number of such tasks. -/
def clearExpired (q : KafkaTaskQueue) (now : Time) : Nat × KafkaTaskQueue :=
  q.tasks.entries.foldl (clearStep now) (0, q)

end KafkaTaskQueue

namespace KafkaSystem

/-- The Kafka queue: a call finds the clock and the answers of the broker.  The consumer that
would come after a `shutdown` resumes at the committed offsets. -/
def backend : TaskQueueBackend (Time × List KafkaAnswer) (KafkaBroker × KafkaTaskQueue) where
  exec env op x :=
    match op with
    | .enqueue task delaySeconds => serve env.1 env.2 (.enqueue task delaySeconds) x
    | .dequeue tenantId => serve env.1 env.2 (.dequeue tenantId) x
    | .complete id result => serve env.1 env.2 (.complete id result) x
    | .fail id errorCode errorMessage retry =>
        serve env.1 env.2 (.fail id errorCode errorMessage retry) x
    | .cancel id =>
        let reply := x.2.cancel env.1 id
        (.done reply.1, x.1, reply.2)
    | .clearExpired => (.other, x.1, (x.2.clearExpired env.1).2)
    | .shutdown =>
        (.other, { x.1 with tasks := x.1.tasks.restart }, { x.2 with closed := true })
  retries _ x id :=
    ((x.2.tasks.get? id).bind fun ref ↦ x.2.objects[ref]?).any TaskPayload.canRetry
  result x id := x.2.results.get? id

/-- Of a task there is nothing that a `dequeue` could return. -/
def Gone (x : KafkaBroker × KafkaTaskQueue) (id : UUID) : Prop :=
  x.2.closed = true ∨ ∀ tp, ∀ record ∈ x.1.tasks.unread tp, record.task.taskId ≠ id

/-- A tracked task waits or is claimed, and nothing of a cancelled one is tracked or to be
read. -/
structure CancelInv (x : (KafkaBroker × KafkaTaskQueue) × CancelNotes) : Prop where
  object : ∀ id ref, x.1.2.tasks.get? id = some ref →
    ∃ task, x.1.2.objects[ref]? = some task ∧ task.taskId = id
  tracked : ∀ id ref, x.1.2.tasks.get? id = some ref →
    x.2.phase id = .waiting ∨ x.2.phase id = .claimed
  cancelled : ∀ id, x.2.cancelled id = true →
    x.2.phase id ≠ .absent ∧ x.1.2.tasks.get? id = none ∧ Gone x.1 id

variable {x x' x'' : KafkaBroker × KafkaTaskQueue} {broker broker' : KafkaBroker}
  {q q' : KafkaTaskQueue} {notes : CancelNotes} {now : Time} {answers : List KafkaAnswer}
  {id : UUID} {ref : Nat} {record : KafkaRecord} {tp : TopicPartition}

theorem CancelInv.less (h : CancelInv (x, notes)) (hless : Less x x') : CancelInv (x', notes) := by
  refine ⟨fun j ref hj ↦ ?_, fun j ref hj ↦ ?_, fun j hj ↦ ?_⟩
  · obtain ⟨task, htask, rfl⟩ := h.object j ref (hless.tracked j ref hj)
    exact hless.objects ref task htask
  · exact h.tracked j ref (hless.tracked j ref hj)
  · obtain ⟨hpast, hnone, hgone⟩ := h.cancelled j hj
    refine ⟨hpast, ?_, ?_⟩
    · refine Option.eq_none_iff_forall_ne_some.mpr fun ref href ↦ ?_
      cases hnone.symm.trans (hless.tracked j ref href)
    · refine hgone.imp hless.closed.trans fun hunread tp record hr ↦ ?_
      exact hunread tp record (hless.unread tp record hr)

/-- A task that is not tracked is resolved. -/
theorem CancelInv.resolve (h : CancelInv (x, notes)) (hnone : x.2.tasks.get? id = none) :
    CancelInv (x, notes.reach id .resolved) := by
  refine ⟨h.object, fun j ref hj ↦ ?_, fun j hj ↦ ?_⟩
  · have hne : j ≠ id := by
      rintro rfl
      cases hnone.symm.trans hj
    show (notes.reach id .resolved).phase j = _ ∨ (notes.reach id .resolved).phase j = _
    rw [CancelNotes.phase_reach_of_ne hne]
    exact h.tracked j ref hj
  · obtain ⟨hpast, hrest⟩ := h.cancelled j hj
    exact ⟨CancelNotes.phase_reach_ne_absent nofun hpast, hrest⟩

/-- A task that is tracked from now on. -/
theorem CancelInv.track {task : TaskPayload} {phase : TaskPhase} (h : CancelInv (x, notes))
    (htracked : ∀ j ref', x'.2.tasks.get? j = some ref' →
      j = task.taskId ∧ ref' = ref ∨ j ≠ task.taskId ∧ x.2.tasks.get? j = some ref')
    (hobject : x'.2.objects[ref]? = some task)
    (hobjects : ∀ (ref' : Nat) (task' : TaskPayload), x.2.objects[ref']? = some task' →
      x'.2.objects[ref']? = some task')
    (hunread : ∀ tp, ∀ record ∈ x'.1.tasks.unread tp,
      record.task.taskId = task.taskId ∨ record ∈ x.1.tasks.unread tp)
    (hclosed : x'.2.closed = x.2.closed) (hcancelled : notes.cancelled task.taskId = false)
    (hphase : phase = .waiting ∨ phase = .claimed) :
    CancelInv (x', notes.reach task.taskId phase) := by
  refine ⟨fun j ref' hj ↦ ?_, fun j ref' hj ↦ ?_, fun j hj ↦ ?_⟩
  · rcases htracked j ref' hj with ⟨rfl, rfl⟩ | ⟨-, hj⟩
    · exact ⟨task, hobject, rfl⟩
    · obtain ⟨task', htask, hid⟩ := h.object j ref' hj
      exact ⟨task', hobjects ref' task' htask, hid⟩
  · show (notes.reach task.taskId phase).phase j = _ ∨ (notes.reach task.taskId phase).phase j = _
    rcases htracked j ref' hj with ⟨rfl, rfl⟩ | ⟨hne, hj⟩
    · rw [CancelNotes.phase_reach_self]
      exact hphase
    · rw [CancelNotes.phase_reach_of_ne hne]
      exact h.tracked j ref' hj
  · have hj : notes.cancelled j = true := hj
    have hne : j ≠ task.taskId := by
      rintro rfl
      cases hcancelled.symm.trans hj
    obtain ⟨hpast, hnone, hgone⟩ := h.cancelled j hj
    refine ⟨?_, ?_, hgone.imp hclosed.trans fun hold tp record hr ↦ ?_⟩
    · show (notes.reach task.taskId phase).phase j ≠ .absent
      rw [CancelNotes.phase_reach_of_ne hne]
      exact hpast
    · refine Option.eq_none_iff_forall_ne_some.mpr fun ref' href ↦ ?_
      rcases htracked j ref' href with ⟨heq, -⟩ | ⟨-, href⟩
      · exact hne heq
      · cases hnone.symm.trans href
    · rcases hunread tp record hr with heq | hr
      · exact fun hid ↦ hne (hid.symm.trans heq)
      · exact hold tp record hr

/-- A record that is sent is tracked. -/
theorem CancelInv.sent {task : TaskPayload} (h : CancelInv ((broker, q), notes))
    (hrecord : record.task.taskId = id) (hobject : q.objects[ref]? = some task)
    (hid : task.taskId = id) (hcancelled : notes.cancelled id = false) :
    CancelInv (({ broker with tasks := broker.tasks.append tp record }, q.sent ref record),
      notes.reach id .waiting) := by
  subst hid
  refine h.track (fun j ref' hj ↦ ?_) hobject (fun _ _ ht ↦ ht) (fun tp' record' hr ↦ ?_) rfl
    hcancelled (.inl rfl)
  · have hj : (q.tasks.insert record.task.taskId ref).get? j = some ref' := hj
    rw [Dict.get?_insert, hrecord] at hj
    split at hj
    · rename_i heq
      exact .inl ⟨heq, (Option.some.inj hj).symm⟩
    · rename_i hne
      exact .inr ⟨hne, hj⟩
  · have hr : record' ∈ (broker.tasks.append tp record).unread tp' := hr
    rw [GroupLog.unread_append] at hr
    split at hr
    · rcases List.mem_append.mp hr with hr | hr
      · exact .inr hr
      · rw [List.mem_singleton.mp hr]
        exact .inl hrecord
    · exact .inr hr

/-- A task that is handed out is tracked. -/
theorem CancelInv.claim (h : CancelInv ((broker, q), notes)) (tp : TopicPartition) (offset : Nat)
    (task : TaskPayload) (hcancelled : notes.cancelled task.taskId = false) :
    CancelInv ((broker, (q.claim tp offset task).1), notes.reach task.taskId .claimed) := by
  have hkeep : ∀ (ref : Nat) (task' : TaskPayload), q.objects[ref]? = some task' →
      (q.claim tp offset task).1.objects[ref]? = some task' := by
    intro ref task' ht
    exact (List.getElem?_append_left (List.getElem?_eq_some_iff.mp ht).1).trans ht
  have hobject : (q.claim tp offset task).1.objects[q.objects.length]?
      = some (q.claim tp offset task).2 := List.getElem?_concat_length
  show CancelInv (_, notes.reach (q.claim tp offset task).2.taskId .claimed)
  refine h.track (fun j ref' hj ↦ ?_) hobject hkeep (fun _ _ hr ↦ .inr hr) rfl hcancelled
    (.inr rfl)
  have hj : (q.claim tp offset task).1.tasks.get? j = some ref' := hj
  rw [get?_claim] at hj
  split at hj
  · rename_i heq
    exact .inl ⟨heq, (Option.some.inj hj).symm⟩
  · rename_i hne
    exact .inr ⟨hne, hj⟩

/-- A task that is tracked is put back if its object can be retried. -/
theorem retries_eq {task : TaskPayload} (hget : q.tasks.get? id = some ref)
    (htask : q.objects[ref]? = some task) :
    backend.retries (now, answers) (broker, q) id = task.canRetry := by
  show ((q.tasks.get? id).bind fun ref ↦ q.objects[ref]?).any TaskPayload.canRetry = _
  rw [hget, Option.bind_some, htask, Option.any_some]

/-- No cancelled task is handed out, and every call keeps the invariant. -/
theorem CancelInv.served {call : WorkerCall} {outcome : QueueOutcome}
    (h : CancelInv ((broker, q), notes))
    (hfresh : ∀ task delaySeconds, call = .enqueue task delaySeconds →
      notes.phase task.taskId = .absent)
    (hserved : Served now broker q call outcome broker' q') :
    (∀ id, outcome = .handedOut id → notes.cancelled id = false) ∧
      CancelInv ((broker', q'),
        notes.after (backend.retries (now, answers) (broker, q)) call.op outcome) := by
  cases hserved with
  | refused task delaySeconds => exact ⟨nofun, h.less (Less.object task)⟩
  | sent task delaySeconds tp =>
      have hcancelled : notes.cancelled task.taskId = false :=
        Bool.eq_false_iff.mpr fun hc ↦ (h.cancelled task.taskId hc).1 (hfresh task delaySeconds rfl)
      have hobject : (q.objects ++ [task])[q.objects.length]? = some task :=
        List.getElem?_concat_length
      exact ⟨nofun, (h.less (Less.object task)).sent rfl hobject rfl hcancelled⟩
  | empty tenantId => exact ⟨nofun, h⟩
  | passed hpoll => exact ⟨nofun, h.less (Less.polled hpoll)⟩
  | expired hpoll _ hquiet =>
      exact ⟨nofun, h.less (((Less.polled hpoll).trans (Less.quiet hquiet)).trans
        (Less.markExpired q now _))⟩
  | claimed offset hopen hpoll =>
      rename_i tenantId tp record tasks
      have hmem : record ∈ broker.tasks.unread tp := by
        rw [(GroupLog.poll_eq_some hpoll).1]
        exact List.mem_cons_self
      have hcancelled : notes.cancelled record.task.taskId = false := by
        refine Bool.eq_false_iff.mpr fun hc ↦ ?_
        rcases (h.cancelled record.task.taskId hc).2.2 with hgone | hgone
        · cases hopen.symm.trans hgone
        · exact hgone tp record hmem rfl
      refine ⟨fun id hid ↦ ?_, (h.less (Less.polled hpoll)).claim tp offset record.task hcancelled⟩
      rw [← QueueOutcome.handedOut.inj hid]
      exact hcancelled
  | unknown hnone hcall =>
      rcases hcall with ⟨result, rfl⟩ | ⟨errorCode, errorMessage, retry, rfl⟩
      · exact ⟨nofun, h⟩
      · exact ⟨nofun, h⟩
  | unpublished results hquiet => exact ⟨nofun, h.less ((Less.quiet hquiet).trans (Less.results q _))⟩
  | completed _ hquiet =>
      exact ⟨nofun, (h.less (Less.settle hquiet _ _)).resolve (Dict.get?_erase_self _ _)⟩
  | unburied hquiet => exact ⟨nofun, h.less (Less.quiet hquiet)⟩
  | dropped hget htask hretry hcan hquiet => exact ⟨nofun, h.less (Less.drop hquiet htask _)⟩
  | requeued delay tp hget htask hretry hcan hquiet =>
      rename_i id errorCode errorMessage retry ref task broker'
      obtain ⟨task', htask', hid⟩ := h.object id ref hget
      obtain rfl := Option.some.inj (htask.symm.trans htask')
      have hafter : (retry && backend.retries (now, answers) (broker, q) id) = true := by
        rw [retries_eq hget htask, hretry, hcan]
        rfl
      have hcancelled : notes.cancelled id = false := by
        refine Bool.eq_false_iff.mpr fun hc ↦ ?_
        cases (h.cancelled id hc).2.1.symm.trans hget
      refine ⟨nofun, ?_⟩
      show CancelInv (_, notes.reach id (if (retry && _) = true then _ else _))
      rw [if_pos hafter]
      refine (h.less (Less.drop hquiet htask id)).sent hid (List.getElem?_set_self ?_) hid hcancelled
      exact (List.getElem?_eq_some_iff.mp htask).1
  | buried result hget htask hgiven hquiet =>
      rename_i id errorCode errorMessage retry ref task broker'
      have hafter : ¬ (retry && backend.retries (now, answers) (broker, q) id) = true := by
        rw [retries_eq hget htask, Bool.and_eq_true]
        exact hgiven
      refine ⟨nofun, ?_⟩
      show CancelInv (_, notes.reach id (if (retry && _) = true then _ else _))
      rw [if_neg hafter]
      refine CancelInv.resolve ?_ (Dict.get?_erase_self _ _)
      exact (h.less (Less.settle hquiet _ id)).less (Less.of_unread fun _ ↦ rfl)

end KafkaSystem

end SemanticBus
