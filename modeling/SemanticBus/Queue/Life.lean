import SemanticBus.Data.Run
import SemanticBus.Queue.Scan

/-!
# The life of one task

A queue is exercised by calls in any order.  What a call does to the queue as a
whole is a matter of folds and scans, but to any one task it does one of a few
things, and those are the constructors of `TaskMove`: a task is accepted, then
claimed, retried, and finally completed, failed, cancelled or expired.  `view`
is what the queue holds about one task, and `exec_move` says that every call
moves every task by a `TaskMove`.

Everything about the history of a task is proved about these moves.
-/

universe u

namespace SemanticBus

inductive QueueOp where
  | enqueue (task : TaskPayload) (delaySeconds : ℚ)
  | dequeue (tenantId : Option String)
  | complete (id : UUID) (result : TaskResult)
  | fail (id : UUID) (errorCode errorMessage : String) (retry : Bool)
  | cancel (id : UUID)
  | clearExpired
  | shutdown

/-- The id of the task that an operation reports on. -/
def QueueOp.acknowledges : QueueOp → Option UUID
  | .complete id _ | .fail id _ _ _ => some id
  | _ => none

/-- What an operation returns or raises. -/
inductive QueueReply where
  /-- `enqueue` hands the task back. -/
  | accepted (task : TaskPayload)
  | refused (error : TaskQueueError)
  | dequeued (task : Option TaskPayload)
  | done (ok : Bool)
  | cleared (count : Nat)
  | stopped
  | raised (error : PyError)

def QueueReply.reported : Except PyError Bool → QueueReply
  | .ok ok => .done ok
  | .error error => .raised error

structure Call where
  op : QueueOp
  reply : QueueReply

def Call.handedOut (c : Call) : Option UUID :=
  match c.reply with
  | .dequeued (some task) => some task.taskId
  | _ => none

namespace InMemoryTaskQueue

variable {η : Type u} [MinHeap η PriorityItem.key]

def exec (q : InMemoryTaskQueue η) (now : Time) : QueueOp → QueueReply × InMemoryTaskQueue η
  | .enqueue task delaySeconds =>
      match q.enqueue now task delaySeconds with
      | .error e => (.refused e, q)
      | .ok q' => (.accepted task, q')
  | .dequeue tenantId => (q.dequeue now tenantId).map .dequeued id
  | .complete id result => (q.complete id result).map .done fun q' ↦ q'
  | .fail id errorCode errorMessage retry =>
      (q.fail now id errorCode errorMessage retry).map .reported fun q' ↦ q'
  | .cancel id => (q.cancel now id).map .done fun q' ↦ q'
  | .clearExpired => (q.clearExpired now).map .cleared id
  | .shutdown => (.stopped, q.shutdown)

def Distinct (q : InMemoryTaskQueue η) : QueueOp → Prop
  | .enqueue task _ => q.tasks.get? task.taskId = none
  | _ => True

def Calls (now : Time) : Step (InMemoryTaskQueue η) Call := fun q c q' ↦
  q.Distinct c.op ∧ q.exec now c.op = (c.reply, q')

/-- A run of calls with distinct tasks and a clock that never goes back. -/
abbrev QueueRun : Time × InMemoryTaskQueue η → List (Time × Call) → Time × InMemoryTaskQueue η →
    Prop := Run (Step.Timed Calls)

variable {q q' : InMemoryTaskQueue η} {now : Time} {c : Call} {id : UUID}

/-- What one call does to one task.  `q` is the state before the call, of
which only the items that a `dequeue` scans matter. -/
inductive TaskMove (q : InMemoryTaskQueue η) (now : Time) (c : Call) (id : UUID) :
    TaskView → TaskView → Prop
  /-- The call is about other tasks; it may drop items that are no longer needed. -/
  | keep {v : TaskView} {items : Multiset PriorityItem} :
      c.handedOut ≠ some id → (c.op.acknowledges = some id → v.task = none) → items ≤ v.items →
      TaskMove q now c id v { v with items := items }
  /-- The task is enqueued. -/
  | accept {v : TaskView} {task : TaskPayload} {delaySeconds : ℚ} :
      c.op = .enqueue task delaySeconds → c.reply = .accepted task → task.taskId = id →
      v.task = none →
      TaskMove q now c id v
        { v with
          task := some task
          status := some .pending
          items := itemOf task (visibleFrom now delaySeconds) ::ₘ v.items }
  /-- A `dequeue` claims the task through one of its items. -/
  | claim {v : TaskView} {task : TaskPayload} {tenantId : Option String} {item : PriorityItem}
      {items : Multiset PriorityItem} :
      c.op = .dequeue tenantId → c.reply = .dequeued (some task) → v.task = some task →
      v.status = some .pending → task.isExpired now = false → item.visibleAt ≤ now →
      item ::ₘ items ≤ v.items →
      TaskMove q now c id v { v with status := some .processing, items := items }
  /-- The task is past its TTL and a scan meets a visible item of it. -/
  | lapse {v : TaskView} {task : TaskPayload} {tenantId : Option String} {item : PriorityItem}
      {items : Multiset PriorityItem} :
      c.op = .dequeue tenantId → c.handedOut ≠ some id → q.closed = false → v.task = some task →
      item ∈ q.scanned now tenantId → q.lapsed now item = true → item.taskId = id →
      items ≤ v.items →
      TaskMove q now c id v
        { v with
          status := some .expired
          result := some (expiredResult now task id)
          items := items }
  /-- The task is pending and past its TTL when the expired tasks are cleared. -/
  | clear {v : TaskView} {task : TaskPayload} :
      c.op = .clearExpired → v.task = some task → v.status = some .pending →
      c.handedOut ≠ some id →
      TaskMove q now c id v
        { v with status := some .expired, result := some (expiredResult now task id) }
  /-- The task is completed. -/
  | complete {v : TaskView} {task : TaskPayload} {result : TaskResult} :
      c.op = .complete id result → v.task = some task → c.handedOut ≠ some id →
      TaskMove q now c id v { v with status := some .completed, result := some result }
  /-- The task failed and is scheduled for a retry. -/
  | retry {v : TaskView} {task : TaskPayload} {errorCode errorMessage : String} :
      c.op = .fail id errorCode errorMessage true → v.task = some task → task.canRetry = true →
      c.handedOut ≠ some id → c.reply = .done true →
      TaskMove q now c id v
        { v with
          task := some { task with retryCount := task.retryCount + 1 }
          status := some .pending
          items := itemOf { task with retryCount := task.retryCount + 1 }
            (q.retryAt now (task.retryCount + 1)) ::ₘ v.items }
  /-- The task failed and its retry could not be scheduled: it has the new retry count, and is
  left as it was or as one that is pending. -/
  | overflow {v : TaskView} {task : TaskPayload} {errorCode errorMessage : String}
      {status : Option TaskStatus} :
      c.op = .fail id errorCode errorMessage true → v.task = some task → task.canRetry = true →
      c.handedOut ≠ some id → c.reply = .raised .overflowError →
      status = v.status ∨ status = some .pending →
      TaskMove q now c id v
        { v with
          task := some { task with retryCount := task.retryCount + 1 }
          status := status }
  /-- The task failed for good. -/
  | fail {v : TaskView} {task : TaskPayload} {errorCode errorMessage : String} {retry : Bool} :
      c.op = .fail id errorCode errorMessage retry → v.task = some task →
      ¬ (retry = true ∧ task.canRetry = true) → c.handedOut ≠ some id →
      TaskMove q now c id v
        { v with
          status := some .failed
          result := some (failedResult now task id errorCode errorMessage) }
  /-- The task is cancelled. -/
  | cancel {v : TaskView} {task : TaskPayload} :
      c.op = .cancel id → v.task = some task → v.status = some .pending →
      c.handedOut ≠ some id →
      TaskMove q now c id v
        { v with status := some .cancelled, result := some (cancelledResult now id) }

/-! ## Scripts

A script is a list of operations with their clock readings.  The replies follow
from it, and so does the run. -/

instance (q : InMemoryTaskQueue η) : ∀ op, Decidable (q.Distinct op)
  | .enqueue task _ => inferInstanceAs (Decidable (q.tasks.get? task.taskId = none))
  | .dequeue _ | .complete _ _ | .fail _ _ _ _ | .cancel _ | .clearExpired | .shutdown =>
      isTrue trivial

/-- The clock of the script does not go back, its tasks are distinct, and every
operation is `Good` where it is executed. -/
def Playable (Good : InMemoryTaskQueue η → Time → QueueOp → Prop) :
    Time × InMemoryTaskQueue η → List (Time × QueueOp) → Prop
  | _, [] => True
  | s, (now, op) :: script =>
      s.1 ≤ now ∧ s.2.Distinct op ∧ Good s.2 now op ∧ Playable Good (now, (s.2.exec now op).2) script

instance decidablePlayable (Good : InMemoryTaskQueue η → Time → QueueOp → Prop)
    [∀ q now op, Decidable (Good q now op)] :
    ∀ (s : Time × InMemoryTaskQueue η) script, Decidable (Playable Good s script)
  | _, [] => isTrue trivial
  | s, (now, op) :: script =>
      have := decidablePlayable Good (now, (s.2.exec now op).2) script
      inferInstanceAs (Decidable (s.1 ≤ now ∧ s.2.Distinct op ∧ Good s.2 now op ∧ _))

def playCalls : Time × InMemoryTaskQueue η → List (Time × QueueOp) → List (Time × Call)
  | _, [] => []
  | s, (now, op) :: script =>
      (now, ⟨op, (s.2.exec now op).1⟩) :: playCalls (now, (s.2.exec now op).2) script

def playState : Time × InMemoryTaskQueue η → List (Time × QueueOp) → Time × InMemoryTaskQueue η
  | s, [] => s
  | s, (now, op) :: script => playState (now, (s.2.exec now op).2) script

/-- Playing a script of good operations is a run of good calls. -/
theorem only_play {Good : InMemoryTaskQueue η → Time → QueueOp → Prop}
    {s : Time × InMemoryTaskQueue η} {script : List (Time × QueueOp)} (h : Playable Good s script) :
    Run (Step.Only (fun s a ↦ Good s.2 a.1 a.2.op) (Step.Timed Calls)) s (playCalls s script)
      (playState s script) := by
  induction script generalizing s with
  | nil => exact .nil s
  | cons e script ih =>
      obtain ⟨now, op⟩ := e
      obtain ⟨hclock, hdistinct, hgood, hrest⟩ := h
      exact .cons ⟨hgood, hclock, rfl, hdistinct, rfl⟩ (ih hrest)

/-- Playing a script is a run. -/
theorem run_play {s : Time × InMemoryTaskQueue η} {script : List (Time × QueueOp)}
    (h : Playable (fun _ _ _ ↦ True) s script) :
    QueueRun s (playCalls s script) (playState s script) := (only_play h).of_only

/-- A queue with the default settings, whose heap is a sorted list. -/
def sampleQueue : InMemoryTaskQueue (SortedList PriorityItem.key) := new 10000 1 60

def sampleTask : TaskPayload := { taskId := ⟨1⟩, tenantId := "acme", createdAt := 0 }

/-! ## The books of a queue

Each id with a task has a status, tasks are stored under their own id, and heap
items carry the priority and the creation time of the task they refer to. -/

/-- What the queue holds about one task is consistent. -/
structure ViewOk (id : UUID) (v : TaskView) : Prop where
  status_isSome : v.task.isSome → v.status.isSome
  task_isSome : v.status.isSome → v.task.isSome
  taskId_eq : ∀ task, v.task = some task → task.taskId = id
  items_ok : ∀ item ∈ v.items, ∃ task, v.task = some task ∧
    item = itemOf task item.visibleAt

/-- What the queue holds about each task is consistent. -/
def Ok (q : InMemoryTaskQueue η) : Prop := ∀ id, ViewOk id (q.view id)

theorem Ok.taskId_eq (hq : q.Ok) {task : TaskPayload} (h : q.tasks.get? id = some task) :
    task.taskId = id := (hq id).taskId_eq task h

theorem Ok.item (hq : q.Ok) {item : PriorityItem} (h : item ∈ MinHeap.items q.heap) :
    ∃ task, q.tasks.get? item.taskId = some task ∧ item = itemOf task item.visibleAt :=
  (hq item.taskId).items_ok item (Multiset.mem_filter.mpr ⟨h, rfl⟩)

/-- A move keeps the books. -/
theorem TaskMove.ok {v v' : TaskView} (h : TaskMove q now c id v v') (hv : ViewOk id v) :
    ViewOk id v' := by
  cases h with
  | keep _ _ hle =>
      exact ⟨hv.status_isSome, hv.task_isSome, hv.taskId_eq,
        fun item hi ↦ hv.items_ok item (Multiset.mem_of_le hle hi)⟩
  | accept _ _ hid hnone =>
      refine ⟨fun _ ↦ rfl, fun _ ↦ rfl, fun _ ht ↦ Option.some.inj ht ▸ hid, fun item hi ↦ ?_⟩
      rcases Multiset.mem_cons.mp hi with rfl | hi
      · exact ⟨_, rfl, rfl⟩
      · obtain ⟨task', ht', _⟩ := hv.items_ok item hi
        rw [hnone] at ht'
        cases ht'
  | claim _ _ ht _ _ _ hle =>
      refine ⟨fun _ ↦ rfl, fun _ ↦ by rw [ht]; rfl, hv.taskId_eq, fun item hi ↦ ?_⟩
      exact hv.items_ok item (Multiset.mem_of_le hle (Multiset.mem_cons_of_mem hi))
  | lapse _ _ _ ht _ _ _ hle =>
      exact ⟨fun _ ↦ rfl, fun _ ↦ by rw [ht]; rfl, hv.taskId_eq,
        fun item hi ↦ hv.items_ok item (Multiset.mem_of_le hle hi)⟩
  | clear _ ht _ _ => exact ⟨fun _ ↦ rfl, fun _ ↦ by rw [ht]; rfl, hv.taskId_eq, hv.items_ok⟩
  | complete _ ht _ => exact ⟨fun _ ↦ rfl, fun _ ↦ by rw [ht]; rfl, hv.taskId_eq, hv.items_ok⟩
  | retry _ ht _ _ =>
      refine ⟨fun _ ↦ rfl, fun _ ↦ rfl, fun _ ht' ↦ ?_, fun item hi ↦ ?_⟩
      · have hid := hv.taskId_eq _ ht
        cases ht'
        exact hid
      · rcases Multiset.mem_cons.mp hi with rfl | hi
        · exact ⟨_, rfl, rfl⟩
        · obtain ⟨task', ht', hitem⟩ := hv.items_ok item hi
          obtain rfl := Option.some.inj (ht.symm.trans ht')
          exact ⟨_, rfl, hitem⟩
  | overflow _ ht _ _ _ hstatus =>
      refine ⟨fun _ ↦ ?_, fun _ ↦ rfl, fun _ ht' ↦ ?_, fun item hi ↦ ?_⟩
      · rcases hstatus with rfl | rfl
        · exact hv.status_isSome (Option.isSome_of_eq_some ht)
        · rfl
      · have hid := hv.taskId_eq _ ht
        cases ht'
        exact hid
      · obtain ⟨task', ht', hitem⟩ := hv.items_ok item hi
        obtain rfl := Option.some.inj (ht.symm.trans ht')
        exact ⟨_, rfl, hitem⟩
  | fail _ ht _ _ => exact ⟨fun _ ↦ rfl, fun _ ↦ by rw [ht]; rfl, hv.taskId_eq, hv.items_ok⟩
  | cancel _ ht _ _ => exact ⟨fun _ ↦ rfl, fun _ ↦ by rw [ht]; rfl, hv.taskId_eq, hv.items_ok⟩

/-! ## Every call moves every task -/

/-- A move to a view that is described field by field. -/
theorem TaskMove.of_eq {v v' v'' : TaskView} (h : TaskMove q now c id v v'') (he : v' = v'') :
    TaskMove q now c id v v' := he ▸ h

/-- What an accepted `enqueue` requires and does. -/
theorem enqueue_ok {task : TaskPayload} {delaySeconds : ℚ}
    (h : q.enqueue now task delaySeconds = .ok q') :
    q.closed = false ∧ (q.tasks.size : Int) < q.maxSize ∧ q' = { q with
      heap := MinHeap.push q.heap (itemOf task (visibleFrom now delaySeconds))
      tasks := q.tasks.insert task.taskId task
      status := q.status.insert task.taskId .pending
      byTenant := indexAdd q.byTenant task.tenantId task.taskId
      byAgent := task.targetAgentId.elim q.byAgent (indexAdd q.byAgent · task.taskId)
      enqueuedCount := q.enqueuedCount + 1 } := by
  unfold enqueue at h
  split at h
  · cases h
  · rename_i hopen
    split at h
    · cases h
    · rename_i hroom
      split at h
      · cases h
      · exact ⟨Bool.not_eq_true _ ▸ hopen, not_le.mp hroom, (Except.ok.inj h).symm⟩

theorem not_delayOverflows {task : TaskPayload} {delaySeconds : ℚ}
    (h : q.enqueue now task delaySeconds = .ok q') : ¬ DelayOverflows now delaySeconds := by
  unfold enqueue at h
  split at h
  · cases h
  · split at h
    · cases h
    · split at h
      · cases h
      · assumption

theorem enqueue_move {task : TaskPayload} {delaySeconds : ℚ}
    (hfresh : q.tasks.get? task.taskId = none) (h : q.enqueue now task delaySeconds = .ok q')
    (hop : c.op = .enqueue task delaySeconds) (hreply : c.reply = .accepted task) (id : UUID) :
    TaskMove q now c id (q.view id) (q'.view id) := by
  obtain ⟨_, _, rfl⟩ := enqueue_ok h
  by_cases hid : task.taskId = id
  · subst hid
    refine TaskMove.of_eq (.accept hop hreply rfl hfresh) (TaskView.ext ?_ ?_ ?_ ?_)
    · exact Dict.get?_insert_self _ _ _
    · exact Dict.get?_insert_self _ _ _
    · rfl
    · exact itemsOf_push_self rfl
  · have hne : id ≠ task.taskId := fun he ↦ hid he.symm
    refine TaskMove.of_eq (.keep (by simp [Call.handedOut, hreply])
      (by simp [hop, QueueOp.acknowledges]) le_rfl) (TaskView.ext ?_ ?_ ?_ ?_)
    · exact Dict.get?_insert_of_ne _ _ hne
    · exact Dict.get?_insert_of_ne _ _ hne
    · rfl
    · exact itemsOf_push_of_ne hid

/-- Where a scan does not claim the task, it expires it or leaves it alone. -/
theorem lapse_move {tenantId : Option String} (hopen : q.closed = false)
    (hop : c.op = .dequeue tenantId) (hout : c.handedOut ≠ some id) {items : Multiset PriorityItem}
    (hle : items ≤ (q.view id).items) :
    TaskMove q now c id (q.view id)
      { (q.lapse now (q.scanned now tenantId)).view id with items := items } := by
  by_cases hl : q.Lapses now (q.scanned now tenantId) id
  · obtain ⟨item, hi, hlapsed, hid⟩ := hl
    obtain ⟨task, ht, _⟩ := lapsed_iff.mp hlapsed
    rw [view_lapse (hid ▸ ht) ⟨item, hi, hlapsed, hid⟩]
    exact .lapse hop hout hopen (hid ▸ ht) hi hlapsed hid hle
  · rw [view_lapse_of_not hl]
    exact .keep hout (by simp [hop, QueueOp.acknowledges]) hle

theorem dequeue_move (hq : q.Ok) {tenantId : Option String} {result : Option TaskPayload}
    (h : q.dequeue now tenantId = (result, q')) (hop : c.op = .dequeue tenantId)
    (hreply : c.reply = .dequeued result) (id : UUID) :
    TaskMove q now c id (q.view id) (q'.view id) := by
  unfold dequeue at h
  split at h
  · cases h
    exact .keep (by simp [Call.handedOut, hreply]) (by simp [hop, QueueOp.acknowledges]) le_rfl
  · rename_i hopen
    rw [Bool.not_eq_true] at hopen
    rcases findNextVisible_cases q now tenantId with
      ⟨heap, _, hitems, heq⟩ | ⟨item, after, task, heap, hord, hc, ht, hitems, heq⟩
    · rw [heq] at h
      cases h
      exact lapse_move hopen hop (by simp [Call.handedOut, hreply])
        (itemsOf_le (hitems ▸ Multiset.filter_le _ _) id)
    · have hall : MinHeap.items q.heap
          = (q.scanned now tenantId : Multiset PriorityItem) + item ::ₘ (after : Multiset _) := by
        rw [← MinHeap.coe_popOrder, hord, Multiset.cons_coe, Multiset.coe_add]
      have hle : item ::ₘ MinHeap.items heap ≤ MinHeap.items q.heap := by
        rw [hall, hitems, ← Multiset.add_cons]
        exact add_le_add_left (Multiset.coe_le.mpr List.filter_sublist.subperm) _
      rw [heq] at h
      cases h
      have hid : task.taskId = item.taskId := hq.taskId_eq ht
      by_cases heqid : item.taskId = id
      · subst heqid
        obtain ⟨task', ht', hvis, hexp, _, hpending⟩ := claimable_iff.mp hc
        obtain rfl := Option.some.inj (ht.symm.trans ht')
        have hnot : ¬ q.Lapses now (q.scanned now tenantId) item.taskId := by
          rintro ⟨j, _, hl, hj⟩
          obtain ⟨task', ht', _, he⟩ := lapsed_iff.mp hl
          rw [hj, ht] at ht'
          rw [← Option.some.inj ht', hexp] at he
          cases he
        have hview := view_lapse_of_not hnot
        have hless : item ::ₘ itemsOf heap item.taskId ≤ (q.view item.taskId).items := by
          have := Multiset.filter_le_filter (·.taskId = item.taskId) hle
          simpa [view, itemsOf] using this
        refine TaskMove.of_eq (.claim hop hreply ht hpending hexp hvis hless)
          (TaskView.ext ?_ ?_ ?_ ?_)
        · exact (congrArg TaskView.task hview :)
        · exact Dict.get?_insert_self _ _ _
        · exact (congrArg TaskView.result hview :)
        · rfl
      · have hne : id ≠ item.taskId := fun he ↦ heqid he.symm
        have hout : c.handedOut ≠ some id := by simp [Call.handedOut, hreply, hid, heqid]
        have hless : itemsOf heap id ≤ (q.view id).items :=
          itemsOf_le (le_trans (Multiset.le_cons_self _ _) hle) id
        refine TaskMove.of_eq (lapse_move hopen hop hout hless) (TaskView.ext ?_ ?_ ?_ ?_)
        · rfl
        · exact Dict.get?_insert_of_ne _ _ hne
        · rfl
        · rfl

theorem complete_move {taskId : UUID} {result : TaskResult} {ok : Bool}
    (h : q.complete taskId result = (ok, q')) (hop : c.op = .complete taskId result)
    (hreply : c.reply = .done ok) (id : UUID) :
    TaskMove q now c id (q.view id) (q'.view id) := by
  have hout : c.handedOut ≠ some id := by simp [Call.handedOut, hreply]
  unfold complete at h
  split at h
  · rename_i hnone
    cases h
    refine .keep hout (fun hid ↦ ?_) le_rfl
    rw [hop] at hid
    cases hid
    exact hnone
  · rename_i task ht
    cases h
    by_cases hid : taskId = id
    · subst hid
      refine TaskMove.of_eq (.complete hop ht hout) (TaskView.ext ?_ ?_ ?_ ?_)
      · rfl
      · exact Dict.get?_insert_self _ _ _
      · exact Dict.get?_insert_self _ _ _
      · rfl
    · have hne : id ≠ taskId := fun he ↦ hid he.symm
      refine TaskMove.of_eq (.keep hout (by simp [hop, QueueOp.acknowledges, hid]) le_rfl)
        (TaskView.ext ?_ ?_ ?_ ?_)
      · rfl
      · exact Dict.get?_insert_of_ne _ _ hne
      · exact Dict.get?_insert_of_ne _ _ hne
      · rfl

/-- Whether a retry that is due after a failure at `now` can be scheduled. -/
def Reschedules (q : InMemoryTaskQueue η) (now : Time) (retryCount : Int) : Prop :=
  backoffOverflows retryCount = false ∧ (q.retryAt now retryCount).IsDate

instance (q : InMemoryTaskQueue η) (now : Time) (retryCount : Int) :
    Decidable (q.Reschedules now retryCount) := inferInstanceAs (Decidable (_ ∧ _))

theorem reschedule_of (task : TaskPayload) (h : q.Reschedules now task.retryCount) :
    q.reschedule now id task = (.ok true, { q with
      tasks := q.tasks.insert id task
      status := q.status.insert id .pending
      heap := MinHeap.push q.heap (itemOf task (q.retryAt now task.retryCount)) }) := by
  rw [reschedule, h.1]
  exact if_pos h.2

/-- The statuses after a retry that cannot be scheduled. -/
def stalled (q : InMemoryTaskQueue η) (id : UUID) (retryCount : Int) : Dict UUID TaskStatus :=
  if backoffOverflows retryCount then q.status else q.status.insert id .pending

omit [MinHeap η PriorityItem.key] in
theorem stalled_cases (q : InMemoryTaskQueue η) (id : UUID) (retryCount : Int) :
    q.stalled id retryCount = q.status ∨ q.stalled id retryCount = q.status.insert id .pending := by
  unfold stalled
  split
  · exact .inl rfl
  · exact .inr rfl

omit [MinHeap η PriorityItem.key] in
theorem stalled_of_ne (retryCount : Int) {id' : UUID} (hne : id ≠ id') :
    (q.stalled id' retryCount).get? id = q.status.get? id := by
  rcases q.stalled_cases id' retryCount with h | h
  · rw [h]
  · rw [h, Dict.get?_insert_of_ne _ _ hne]

/-- A retry that cannot be scheduled changes the task, and its status perhaps. -/
theorem reschedule_of_not (task : TaskPayload) (h : ¬ q.Reschedules now task.retryCount) :
    q.reschedule now id task = (.error .overflowError, { q with
      tasks := q.tasks.insert id task
      status := q.stalled id task.retryCount }) := by
  rw [reschedule, stalled]
  cases hoverflows : backoffOverflows task.retryCount with
  | true => rfl
  | false => exact if_neg fun hdate ↦ h ⟨hoverflows, hdate⟩

theorem fail_of_reschedules {task : TaskPayload} (ht : q.tasks.get? id = some task) {retry : Bool}
    (hretry : retry = true ∧ task.canRetry = true)
    (hfits : q.Reschedules now (task.retryCount + 1)) (errorCode errorMessage : String) :
    q.fail now id errorCode errorMessage retry = (.ok true, { q with
      tasks := q.tasks.insert id { task with retryCount := task.retryCount + 1 }
      status := q.status.insert id .pending
      heap := MinHeap.push q.heap (itemOf { task with retryCount := task.retryCount + 1 }
        (q.retryAt now (task.retryCount + 1))) }) := by
  rw [fail, ht]
  dsimp only
  rw [if_pos hretry]
  exact reschedule_of _ hfits

theorem fail_of_not_reschedules {task : TaskPayload} (ht : q.tasks.get? id = some task)
    {retry : Bool} (hretry : retry = true ∧ task.canRetry = true)
    (hfits : ¬ q.Reschedules now (task.retryCount + 1)) (errorCode errorMessage : String) :
    q.fail now id errorCode errorMessage retry = (.error .overflowError, { q with
      tasks := q.tasks.insert id { task with retryCount := task.retryCount + 1 }
      status := q.stalled id (task.retryCount + 1) }) := by
  rw [fail, ht]
  dsimp only
  rw [if_pos hretry]
  exact reschedule_of_not _ hfits

theorem reschedule_move (hq : q.Ok) {taskId : UUID} {task : TaskPayload}
    {errorCode errorMessage : String} {result : Except PyError Bool}
    (ht : q.tasks.get? taskId = some task) (hcan : task.canRetry = true)
    (h : q.reschedule now taskId { task with retryCount := task.retryCount + 1 } = (result, q'))
    (hop : c.op = .fail taskId errorCode errorMessage true) (hreply : c.reply = .reported result)
    (hout : c.handedOut ≠ some id) : TaskMove q now c id (q.view id) (q'.view id) := by
  by_cases hfits : q.Reschedules now (task.retryCount + 1)
  · rw [reschedule_of _ hfits] at h
    cases h
    by_cases hid : taskId = id
    · subst hid
      refine TaskMove.of_eq (.retry hop ht hcan hout hreply) (TaskView.ext ?_ ?_ ?_ ?_)
      · exact Dict.get?_insert_self _ _ _
      · exact Dict.get?_insert_self _ _ _
      · rfl
      · exact itemsOf_push_self (hq.taskId_eq ht)
    · have hne : id ≠ taskId := fun he ↦ hid he.symm
      refine TaskMove.of_eq (.keep hout (by simp [hop, QueueOp.acknowledges, hid]) le_rfl)
        (TaskView.ext ?_ ?_ ?_ ?_)
      · exact Dict.get?_insert_of_ne _ _ hne
      · exact Dict.get?_insert_of_ne _ _ hne
      · rfl
      · exact itemsOf_push_of_ne fun he ↦ hid ((hq.taskId_eq ht).symm.trans he)
  · rw [reschedule_of_not _ hfits] at h
    cases h
    have hstatus := q.stalled_cases taskId (task.retryCount + 1)
    by_cases hid : taskId = id
    · subst hid
      have hstatus : (q.stalled taskId (task.retryCount + 1)).get? taskId = (q.view taskId).status ∨
          (q.stalled taskId (task.retryCount + 1)).get? taskId = some .pending := by
        refine hstatus.imp (congrArg (Dict.get? · taskId)) fun h ↦ ?_
        exact (congrArg (Dict.get? · taskId) h).trans (Dict.get?_insert_self _ _ _)
      refine TaskMove.of_eq (.overflow hop ht hcan hout hreply hstatus) (TaskView.ext ?_ ?_ ?_ ?_)
      · exact Dict.get?_insert_self _ _ _
      · rfl
      · rfl
      · rfl
    · have hne : id ≠ taskId := fun he ↦ hid he.symm
      refine TaskMove.of_eq (.keep hout (by simp [hop, QueueOp.acknowledges, hid]) le_rfl)
        (TaskView.ext ?_ ?_ ?_ ?_)
      · exact Dict.get?_insert_of_ne _ _ hne
      · exact stalled_of_ne _ hne
      · rfl
      · rfl

theorem fail_move (hq : q.Ok) {taskId : UUID} {errorCode errorMessage : String} {retry : Bool}
    {result : Except PyError Bool}
    (h : q.fail now taskId errorCode errorMessage retry = (result, q'))
    (hop : c.op = .fail taskId errorCode errorMessage retry) (hreply : c.reply = .reported result)
    (id : UUID) : TaskMove q now c id (q.view id) (q'.view id) := by
  have hout : c.handedOut ≠ some id := by
    cases result <;> simp [Call.handedOut, hreply, QueueReply.reported]
  unfold fail at h
  split at h
  · rename_i hnone
    cases h
    refine .keep hout (fun hid ↦ ?_) le_rfl
    rw [hop] at hid
    cases hid
    exact hnone
  · rename_i task ht
    split at h
    · rename_i hretry
      obtain ⟨rfl, hcan⟩ := hretry
      exact reschedule_move hq ht hcan h hop hreply hout
    · rename_i hretry
      cases h
      by_cases hid : taskId = id
      · subst hid
        refine TaskMove.of_eq (.fail hop ht hretry hout) (TaskView.ext ?_ ?_ ?_ ?_)
        · rfl
        · exact Dict.get?_insert_self _ _ _
        · exact Dict.get?_insert_self _ _ _
        · rfl
      · have hne : id ≠ taskId := fun he ↦ hid he.symm
        refine TaskMove.of_eq (.keep hout (by simp [hop, QueueOp.acknowledges, hid]) le_rfl)
          (TaskView.ext ?_ ?_ ?_ ?_)
        · rfl
        · exact Dict.get?_insert_of_ne _ _ hne
        · exact Dict.get?_insert_of_ne _ _ hne
        · rfl

omit [MinHeap η PriorityItem.key] in
def FailReturns (q : InMemoryTaskQueue η) (now : Time) (id : UUID) : Prop :=
  ∀ task, q.tasks.get? id = some task → task.canRetry = true →
    q.Reschedules now (task.retryCount + 1)

omit [MinHeap η PriorityItem.key] in
theorem failReturns_iff {task : TaskPayload} (ht : q.tasks.get? id = some task) :
    q.FailReturns now id ↔ (task.canRetry = true → q.Reschedules now (task.retryCount + 1)) := by
  constructor
  · exact fun h ↦ h task ht
  · intro h task' ht' hcan
    obtain rfl := Option.some.inj (ht.symm.trans ht')
    exact h hcan

instance (q : InMemoryTaskQueue η) (now : Time) (id : UUID) : Decidable (q.FailReturns now id) :=
  match h : q.tasks.get? id with
  | none => isTrue fun _ ht ↦ absurd (h.symm.trans ht) (Option.some_ne_none _).symm
  | some _ => decidable_of_iff _ (failReturns_iff h).symm

theorem fail_returns_iff {errorCode errorMessage : String} :
    (∃ ok, (q.fail now id errorCode errorMessage true).1 = .ok ok) ↔ q.FailReturns now id := by
  rw [fail, FailReturns]
  cases ht : q.tasks.get? id with
  | none => exact iff_of_true ⟨false, rfl⟩ fun task h ↦ by cases h
  | some task =>
      dsimp only
      by_cases hcan : task.canRetry = true
      · rw [if_pos ⟨rfl, hcan⟩]
        have hiff : (∀ task', some task = some task' → task'.canRetry = true →
            q.Reschedules now (task'.retryCount + 1)) ↔ q.Reschedules now (task.retryCount + 1) :=
          ⟨fun h ↦ h task rfl hcan, fun h task' ht' _ ↦ Option.some.inj ht' ▸ h⟩
        rw [hiff]
        by_cases hfits : q.Reschedules now (task.retryCount + 1)
        · rw [reschedule_of _ hfits]
          exact iff_of_true ⟨true, rfl⟩ hfits
        · rw [reschedule_of_not _ hfits]
          refine iff_of_false ?_ hfits
          rintro ⟨ok, h⟩
          cases h
      · rw [if_neg fun h ↦ hcan h.2]
        refine iff_of_true ⟨true, rfl⟩ fun task' ht' hcan' ↦ ?_
        exact absurd (Option.some.inj ht' ▸ hcan') hcan

omit [MinHeap η PriorityItem.key] in
/-- Whether a retry can be scheduled depends on the settings. -/
theorem reschedules_congr (h : q.settings = q'.settings) (now : Time) (retryCount : Int) :
    q.Reschedules now retryCount ↔ q'.Reschedules now retryCount := by
  have hdelays : (q.retryBaseDelay, q.retryMaxDelay) = (q'.retryBaseDelay, q'.retryMaxDelay) :=
    (Prod.mk.inj h).2
  obtain ⟨hbase, hmax⟩ := Prod.mk.inj hdelays
  rw [Reschedules, Reschedules, retryAt, retryAt, retryDelay, retryDelay, hbase, hmax]

/-- A `fail` hands nothing out. -/
theorem handedOut_fail {errorCode errorMessage : String} {retry : Bool} {reply : QueueReply}
    (h : Calls now q ⟨.fail id errorCode errorMessage retry, reply⟩ q') :
    Call.handedOut ⟨.fail id errorCode errorMessage retry, reply⟩ = none := by
  have hreply : QueueReply.reported (q.fail now id errorCode errorMessage retry).1 = reply :=
    congrArg Prod.fst h.2
  subst hreply
  cases (q.fail now id errorCode errorMessage retry).1 with
  | ok ok => rfl
  | error error => rfl

theorem cancel_move {taskId : UUID} {ok : Bool} (h : q.cancel now taskId = (ok, q'))
    (hop : c.op = .cancel taskId) (hreply : c.reply = .done ok) (id : UUID) :
    TaskMove q now c id (q.view id) (q'.view id) := by
  have hout : c.handedOut ≠ some id := by simp [Call.handedOut, hreply]
  unfold cancel at h
  split at h
  · cases h
    exact .keep hout (by simp [hop, QueueOp.acknowledges]) le_rfl
  · rename_i task ht
    split at h
    · cases h
      exact .keep hout (by simp [hop, QueueOp.acknowledges]) le_rfl
    · rename_i hpending
      rw [ne_eq, not_not] at hpending
      cases h
      by_cases hid : taskId = id
      · subst hid
        refine TaskMove.of_eq (.cancel hop ht hpending hout) (TaskView.ext ?_ ?_ ?_ ?_)
        · rfl
        · exact Dict.get?_insert_self _ _ _
        · exact Dict.get?_insert_self _ _ _
        · rfl
      · have hne : id ≠ taskId := fun he ↦ hid he.symm
        refine TaskMove.of_eq (.keep hout (by simp [hop, QueueOp.acknowledges]) le_rfl)
          (TaskView.ext ?_ ?_ ?_ ?_)
        · rfl
        · exact Dict.get?_insert_of_ne _ _ hne
        · exact Dict.get?_insert_of_ne _ _ hne
        · rfl

/-- The loop of `clear_expired` over some of the tasks: pending ones among them
that are past their TTL expire, and nothing else happens to any task. -/
theorem view_clearStep_foldl {l : List (UUID × TaskPayload)} (hl : (l.map Prod.fst).Nodup)
    (acc : Nat × InMemoryTaskQueue η) (htasks : ∀ e ∈ l, acc.2.tasks.get? e.1 = some e.2)
    (id : UUID) :
    (l.foldl (clearStep now) acc).2.view id = acc.2.view id ∨
      ∃ task, (id, task) ∈ l ∧ acc.2.status.get? id = some .pending ∧ task.isExpired now = true ∧
        (l.foldl (clearStep now) acc).2.view id
          = { acc.2.view id with
              status := some .expired
              result := some (expiredResult now task id) } := by
  induction l generalizing acc with
  | nil => exact .inl rfl
  | cons e l ih =>
      obtain ⟨hnotin, hnodup⟩ := List.nodup_cons.mp hl
      rw [List.foldl_cons]
      by_cases hexp : acc.2.status.get? e.1 = some .pending ∧ e.2.isExpired now = true
      · have hstep : clearStep now acc e = (acc.1 + 1, acc.2.markExpired now e.1) := if_pos hexp
        rw [hstep]
        have hrest := ih hnodup (acc.1 + 1, acc.2.markExpired now e.1) fun e' he' ↦ by
          rw [tasks_markExpired]
          exact htasks e' (List.mem_cons_of_mem _ he')
        by_cases hid : id = e.1
        · subst hid
          rcases hrest with hsame | ⟨task, hmem, _⟩
          · refine .inr ⟨e.2, List.mem_cons_self, hexp.1, hexp.2, ?_⟩
            rw [hsame]
            exact view_markExpired_self (htasks e List.mem_cons_self)
          · exact absurd (List.mem_map_of_mem hmem) hnotin
        · have hview : (acc.2.markExpired now e.1).view id = acc.2.view id :=
            view_markExpired_of_ne hid
          have hstatus : (acc.2.markExpired now e.1).status.get? id = acc.2.status.get? id :=
            congrArg TaskView.status hview
          rw [hview, hstatus] at hrest
          rcases hrest with hsame | ⟨task, hmem, hrest⟩
          · exact .inl hsame
          · exact .inr ⟨task, List.mem_cons_of_mem _ hmem, hrest⟩
      · have hstep : clearStep now acc e = acc := if_neg hexp
        rw [hstep]
        rcases ih hnodup acc fun e' he' ↦ htasks e' (List.mem_cons_of_mem _ he') with
          hsame | ⟨task, hmem, hrest⟩
        · exact .inl hsame
        · exact .inr ⟨task, List.mem_cons_of_mem _ hmem, hrest⟩

theorem clearExpired_move {count : Nat} (h : q.clearExpired now = (count, q'))
    (hop : c.op = .clearExpired) (hreply : c.reply = .cleared count) (id : UUID) :
    TaskMove q now c id (q.view id) (q'.view id) := by
  have hout : c.handedOut ≠ some id := by simp [Call.handedOut, hreply]
  have hq' : q' = (q.tasks.entries.foldl (clearStep now) (0, q)).2 := by
    rw [← clearExpired, h]
  have htasks : ∀ e ∈ q.tasks.entries, q.tasks.get? e.1 = some e.2 :=
    fun e he ↦ Dict.mem_entries_iff.mp he
  rw [hq']
  rcases view_clearStep_foldl q.tasks.nodup (0, q) htasks id with hsame | ⟨task, hmem, hpending, _, hview⟩
  · rw [hsame]
    exact .keep hout (by simp [hop, QueueOp.acknowledges]) le_rfl
  · rw [hview]
    exact .clear hop (Dict.mem_entries_iff.mp hmem) hpending hout

/-- Every call moves every task. -/
theorem exec_move (hq : q.Ok) (h : Calls now q c q') (id : UUID) :
    TaskMove q now c id (q.view id) (q'.view id) := by
  obtain ⟨hdistinct, hexec⟩ := h
  obtain ⟨op, reply⟩ := c
  cases op with
  | enqueue task delaySeconds =>
      rw [exec] at hexec
      cases hres : q.enqueue now task delaySeconds with
      | error e =>
          rw [hres] at hexec
          cases hexec
          exact .keep (by simp [Call.handedOut]) (by simp [QueueOp.acknowledges]) le_rfl
      | ok q'' =>
          rw [hres] at hexec
          cases hexec
          exact enqueue_move hdistinct hres rfl rfl id
  | dequeue tenantId =>
      cases hexec
      exact dequeue_move hq rfl rfl rfl id
  | complete taskId result =>
      cases hexec
      exact complete_move rfl rfl rfl id
  | fail taskId errorCode errorMessage retry =>
      cases hexec
      exact fail_move hq rfl rfl rfl id
  | cancel taskId =>
      cases hexec
      exact cancel_move rfl rfl rfl id
  | clearExpired =>
      cases hexec
      exact clearExpired_move rfl rfl rfl id
  | shutdown =>
      cases hexec
      exact .keep (by simp [Call.handedOut]) (by simp [QueueOp.acknowledges]) le_rfl

/-- Calls keep the books. -/
theorem exec_ok (hq : q.Ok) (h : Calls now q c q') : q'.Ok := fun id ↦
  (exec_move hq h id).ok (hq id)

/-- The books of a new queue are in order. -/
theorem new_ok (maxSize : Int) (retryBaseDelay retryMaxDelay : ℚ) :
    (new maxSize retryBaseDelay retryMaxDelay : InMemoryTaskQueue η).Ok := by
  intro id
  refine ⟨fun h ↦ ?_, fun h ↦ ?_, fun task h ↦ ?_, fun item hi ↦ ?_⟩
  · cases h
  · cases h
  · cases h
  · simp [view, itemsOf, new] at hi

/-- The books are in order along every run. -/
theorem QueueRun.ok {s s' : Time × InMemoryTaskQueue η} {cs : List (Time × Call)}
    (h : QueueRun s cs s') (hs : s.2.Ok) : s'.2.Ok :=
  Run.invariant (P := fun s ↦ s.2.Ok) (fun _ _ _ hq hstep ↦ exec_ok hq hstep.2.2) h hs

/-! ## What no call changes -/

omit [MinHeap η PriorityItem.key] in
/-- A field that expiring a task leaves alone is left alone by `clear_expired`. -/
theorem clearExpired_eq {β : Sort*} (f : InMemoryTaskQueue η → β)
    (hf : ∀ (q : InMemoryTaskQueue η) id, f (q.markExpired now id) = f q) :
    f (q.clearExpired now).2 = f q := by
  have hloop : ∀ (l : List (UUID × TaskPayload)) (acc : Nat × InMemoryTaskQueue η),
      f (l.foldl (clearStep now) acc).2 = f acc.2 := by
    intro l
    induction l with
    | nil => exact fun _ ↦ rfl
    | cons e l ih =>
        intro acc
        rw [List.foldl_cons, ih]
        unfold clearStep
        split
        · exact hf _ _
        · rfl
  exact hloop _ _

/-- A field that neither expiring a task nor the heap, the tasks, the statuses
and the books of results and counts determine is left alone by a scan. -/
theorem dequeue_eq {β : Sort*} (f : InMemoryTaskQueue η → β)
    (hf : ∀ (q : InMemoryTaskQueue η) id, f (q.markExpired now id) = f q)
    (hset : ∀ (q : InMemoryTaskQueue η) heap status,
      f { q with heap := heap, status := status } = f q) (tenantId : Option String) :
    f (q.dequeue now tenantId).2 = f q := by
  unfold dequeue
  split
  · rfl
  · rcases findNextVisible_cases q now tenantId with
      ⟨heap, _, _, heq⟩ | ⟨item, after, task, heap, _, _, _, _, heq⟩
    · rw [heq]
      exact (hset _ heap _).trans (lapse_eq f hf _)
    · rw [heq]
      exact (hset _ heap _).trans (lapse_eq f hf _)

omit [MinHeap η PriorityItem.key] in
/-- A field that the heap, the tasks and the statuses do not determine is left alone by a
retry. -/
theorem reschedule_eq [MinHeap η PriorityItem.key] {β : Sort*} (f : InMemoryTaskQueue η → β)
    (hset : ∀ (q : InMemoryTaskQueue η) heap tasks status,
      f { q with heap := heap, tasks := tasks, status := status } = f q)
    (now : Time) (id : UUID) (task : TaskPayload) : f (q.reschedule now id task).2 = f q := by
  by_cases h : q.Reschedules now task.retryCount
  · rw [reschedule_of task h]
    exact hset q _ _ _
  · rw [reschedule_of_not task h]
    exact hset q _ _ _

/-- The settings of a queue never change. -/
theorem settings_exec (q : InMemoryTaskQueue η) (now : Time) (op : QueueOp) :
    (q.exec now op).2.settings = q.settings := by
  cases op with
  | enqueue task delaySeconds =>
      rw [exec]
      cases hres : q.enqueue now task delaySeconds with
      | error e => rfl
      | ok q' =>
          obtain ⟨_, _, rfl⟩ := enqueue_ok hres
          rfl
  | dequeue tenantId =>
      exact dequeue_eq settings settings_markExpired (fun _ _ _ ↦ rfl) tenantId
  | complete taskId result =>
      change (q.complete taskId result).2.settings = _
      unfold complete
      split <;> rfl
  | fail taskId errorCode errorMessage retry =>
      change (q.fail now taskId errorCode errorMessage retry).2.settings = _
      unfold fail
      split
      · rfl
      · split
        · exact reschedule_eq settings (fun _ _ _ _ ↦ rfl) _ _ _
        · rfl
  | cancel taskId =>
      change (q.cancel now taskId).2.settings = _
      unfold cancel
      split
      · rfl
      · split <;> rfl
  | clearExpired => exact clearExpired_eq settings settings_markExpired
  | shutdown => rfl

end InMemoryTaskQueue

end SemanticBus
