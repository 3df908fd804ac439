import SemanticBus.Queue.Sizes

/-!
# The statistics of a pool of workers

A worker counts a task when it reports on it.  After a failure it asks the task whether it
can be retried, but by then the queue has counted the retry that it schedules.  So the last
retry of a task is not counted.  A failure whose report raises is not counted at all, for its
retry cannot be scheduled.  The statistics are exact as long as no execution fails in one of these
ways (`exact_iff`).
-/

universe u v

namespace SemanticBus

structure WorkerStats where
  tasksProcessed : Nat := 0
  tasksSucceeded : Nat := 0
  tasksFailed : Nat := 0
  tasksRetried : Nat := 0
  avgDurationMs : ℚ := 0
  lastTaskAt : Option Time := none

namespace WorkerStats

/-- Update the rolling average duration, an exponential moving average. -/
def updateAvgDuration (stats : WorkerStats) (durationMs : ℚ) : WorkerStats :=
  { stats with
    avgDurationMs :=
      if stats.tasksProcessed = 1 then durationMs
      else 1 / 10 * durationMs + (1 - 1 / 10) * stats.avgDurationMs }

def recordSuccess (stats : WorkerStats) (now : Time) (durationMs : ℚ) : WorkerStats :=
  let stats := { stats with
    tasksProcessed := stats.tasksProcessed + 1
    tasksSucceeded := stats.tasksSucceeded + 1 }
  { stats.updateAvgDuration durationMs with lastTaskAt := some now }

def recordFailure (stats : WorkerStats) (now : Time) (retried : Bool) : WorkerStats where
  tasksProcessed := stats.tasksProcessed + 1
  tasksSucceeded := stats.tasksSucceeded
  tasksFailed := stats.tasksFailed + 1
  tasksRetried := stats.tasksRetried + if retried then 1 else 0
  avgDurationMs := stats.avgDurationMs
  lastTaskAt := some now

end WorkerStats

structure MeasuredPool (ω : Type v) (η : Type u) where
  pool : Pool ω η
  stats : WorkerStats := {}

/-- A step of a pool, with the task that it reports on, as it was before, and whether that task
is pending afterwards. -/
structure WorkerEvent (ω : Type v) extends PoolEvent ω where
  task : Option TaskPayload
  pending : Bool

namespace WorkerEvent

variable {ω : Type v} (e : WorkerEvent ω)

def failed : Bool :=
  match e.call.op with
  | .fail _ _ _ _ => true
  | _ => false

/-- An execution failed, and its report raised. -/
def stuck : Bool :=
  match e.call.reply with
  | .raised _ => e.failed
  | _ => false

/-- An execution failed, and its task was put back in the queue. -/
def putBack : Bool := e.failed && !e.stuck && e.pending

/-- An execution failed whose task had one retry left, and was put back. -/
def spendsLast : Bool :=
  e.failed && !e.stuck && e.task.any fun task ↦ task.retryCount + 1 = task.maxRetries

theorem stuck_of_not_failed (h : e.failed = false) : e.stuck = false := by
  rw [stuck, h]
  split
  · rfl
  · rfl

end WorkerEvent

namespace InMemoryTaskQueue

variable {ω : Type v} [DecidableEq ω] {η : Type u} [MinHeap η PriorityItem.key]
variable {filter : ω → Option String} {now : Time} {q q' : InMemoryTaskQueue η} {id : UUID}
  {task : TaskPayload} {stats : WorkerStats}

/-- What a worker records once its report is taken: how long the execution took, or whether the
task can be retried as it is then.  When the report raises, the worker logs the exception and goes
on. -/
def recorded (stats : WorkerStats) (now : Time) (c : Call) (q' : InMemoryTaskQueue η) :
    WorkerStats :=
  match c.op, c.reply with
  | _, .raised _ => stats
  | .complete _ result, _ => stats.recordSuccess now result.durationMs
  | .fail id _ _ _, _ => stats.recordFailure now ((q'.tasks.get? id).any TaskPayload.canRetry)
  | _, _ => stats

inductive WorkerStep (filter : ω → Option String) (now : Time) : Step (Pool ω η) (PoolEvent ω)
  | pool {p p' : Pool ω η} {e : PoolEvent ω} :
      PoolStep filter now p e p' → WorkerStep filter now p e p'
  | shutdown {p : Pool ω η} :
      WorkerStep filter now p ⟨none, ⟨.shutdown, .stopped⟩⟩ { p with queue := p.queue.shutdown }

/-- A step of a pool that keeps statistics. -/
structure Works (filter : ω → Option String) (now : Time) (x : MeasuredPool ω η) (e : WorkerEvent ω)
    (y : MeasuredPool ω η) : Prop where
  step : WorkerStep filter now x.pool e.toPoolEvent y.pool
  stats : y.stats = recorded x.stats now e.call y.pool.queue
  task : e.task = e.call.op.acknowledges.bind x.pool.queue.tasks.get?
  pending : e.pending = e.call.op.acknowledges.any
    fun id ↦ y.pool.queue.status.get? id = some .pending

/-- The statistics are exact: every task that was processed succeeded or failed, and the numbers
are those of the completed tasks, of the failed executions, and of those whose task was put
back. -/
structure Exact (stats : WorkerStats) (q : InMemoryTaskQueue η)
    (es : List (Time × WorkerEvent ω)) : Prop where
  processed : stats.tasksProcessed = stats.tasksSucceeded + stats.tasksFailed
  succeeded : stats.tasksSucceeded = (q.withStatus .completed).card
  failed : stats.tasksFailed = es.countP fun e ↦ e.2.failed
  retried : stats.tasksRetried = es.countP fun e ↦ e.2.putBack

/-! ## Reports -/

omit [MinHeap η PriorityItem.key] in
/-- A call that reports on nothing is not recorded. -/
theorem recorded_quiet {c : Call} (hop : c.op.acknowledges = none) :
    recorded stats now c q' = stats := by
  obtain ⟨op, reply⟩ := c
  cases op
  case complete => cases hop
  case fail => cases hop
  all_goals
    cases reply
    all_goals rfl

omit [MinHeap η PriorityItem.key] in
/-- A task that is completed is counted. -/
theorem completedCount_complete (htask : q.tasks.get? id = some task) (result : TaskResult) :
    (q.complete id result).2.completedCount = q.completedCount + 1 := by
  rw [complete, htask]
  rfl

/-- A task that failed is put back if it can be retried, and then it has one retry less. -/
theorem fail_retry (htask : q.tasks.get? id = some task) (hreturns : q.FailReturns now id)
    (errorCode errorMessage : String) :
    (q.fail now id errorCode errorMessage true).1 = .ok true ∧
      (q.fail now id errorCode errorMessage true).2.completedCount = q.completedCount ∧
      (q.fail now id errorCode errorMessage true).2.tasks.get? id =
        some { task with retryCount := task.retryCount + if task.canRetry then 1 else 0 } ∧
      (q.fail now id errorCode errorMessage true).2.status.get? id =
        some (if task.canRetry then .pending else .failed) := by
  cases hretry : task.canRetry with
  | true =>
      rw [fail_of_reschedules htask ⟨rfl, hretry⟩ (hreturns task htask hretry)]
      exact ⟨rfl, rfl, Dict.get?_insert_self _ _ _, Dict.get?_insert_self _ _ _⟩
  | false =>
      rw [fail, htask]
      dsimp only
      rw [hretry, if_neg (by simp), if_neg Bool.false_ne_true, if_neg Bool.false_ne_true, add_zero]
      exact ⟨rfl, rfl, htask, Dict.get?_insert_self _ _ _⟩

/-- A report that raises counts no task as completed. -/
theorem fail_stuck (htask : q.tasks.get? id = some task) (hreturns : ¬ q.FailReturns now id)
    (errorCode errorMessage : String) :
    (q.fail now id errorCode errorMessage true).1 = .error .overflowError ∧
      (q.fail now id errorCode errorMessage true).2.completedCount = q.completedCount := by
  obtain ⟨hretry, hfits⟩ := Classical.not_imp.mp fun h ↦ hreturns ((failReturns_iff htask).mpr h)
  rw [fail_of_not_reschedules htask ⟨rfl, hretry⟩ hfits]
  exact ⟨rfl, rfl⟩

/-- A task that is put back can be retried once more, unless that was its last retry. -/
theorem canRetry_after (task : TaskPayload) :
    TaskPayload.canRetry
        { task with retryCount := task.retryCount + if task.canRetry then 1 else 0 } =
      (task.canRetry && !decide (task.retryCount + 1 = task.maxRetries)) := by
  cases hretry : task.canRetry with
  | true =>
      have hlt : task.retryCount < task.maxRetries := of_decide_eq_true hretry
      rw [if_pos rfl, Bool.true_and, TaskPayload.canRetry, ← decide_not, decide_eq_decide]
      dsimp only
      omega
  | false =>
      rw [if_neg Bool.false_ne_true, add_zero, Bool.false_and]
      exact hretry

/-! ## Runs -/

/-- What the statistics say in a run: the failures whose report raised are missing, and of those
whose task was put back, the ones that spent its last retry. -/
structure Recorded (start : InMemoryTaskQueue η) (es : List (Time × WorkerEvent ω))
    (x : MeasuredPool ω η) : Prop where
  custody : Custody x.pool
  tallied : x.pool.queue.Tallied
  settings : x.pool.queue.settings = start.settings
  processed : x.stats.tasksProcessed = x.stats.tasksSucceeded + x.stats.tasksFailed
  succeeded : x.stats.tasksSucceeded = x.pool.queue.completedCount
  failed : x.stats.tasksFailed + es.countP (fun e ↦ e.2.stuck) = es.countP fun e ↦ e.2.failed
  /-- The reports that raise are those of tasks whose retry cannot be scheduled. -/
  stuck : ∀ e ∈ es, e.2.failed = true → (e.2.stuck = false ↔ ∀ task, e.2.task = some task →
    task.canRetry = true → start.Reschedules e.1 (task.retryCount + 1))
  retried : x.stats.tasksRetried + es.countP (fun e ↦ e.2.spendsLast) =
    es.countP fun e ↦ e.2.putBack

section Steps

variable {p p' : Pool ω η} {a : PoolEvent ω}

theorem WorkerStep.calls (h : WorkerStep filter now p a p') :
    Calls now p.queue a.call p'.queue := by
  cases h with
  | pool h => exact h.calls
  | shutdown => exact ⟨trivial, rfl⟩

theorem WorkerStep.custody (h : WorkerStep filter now p a p') (hp : Custody p) : Custody p' := by
  cases h with
  | pool h => exact hp.step h
  | shutdown => exact ⟨hp.ok, hp.counted, hp.held, hp.unique⟩

/-- A step reports on nothing, or on the task that a worker holds. -/
theorem WorkerStep.reports (h : WorkerStep filter now p a p') :
    a.call.op.acknowledges = none ∨
      (∃ w task result, p.workers w = some task ∧ a.call.op = .complete task.taskId result) ∨
      ∃ w task message, p.workers w = some task ∧
        a.call.op = .fail task.taskId "EXECUTION_ERROR" message true := by
  cases h with
  | shutdown => exact .inl rfl
  | pool h =>
      cases h with
      | @client _ c _ hclient _ =>
          obtain ⟨op, reply⟩ := c
          cases op
          case complete => exact hclient.elim
          case fail => exact hclient.elim
          all_goals exact .inl rfl
      | poll _ _ => exact .inl rfl
      | finish hw _ => exact .inr (.inl ⟨_, _, _, hw, rfl⟩)
      | crash hw _ => exact .inr (.inr ⟨_, _, _, hw, rfl⟩)

/-- Only tasks being processed are reported on. -/
theorem WorkerStep.acksClaimed (h : WorkerStep filter now p a p') (hp : Custody p) :
    p.queue.AcksClaimed a.call.op := by
  intro id hack
  rcases h.reports with hop | ⟨w, task, result, hw, hop⟩ | ⟨w, task, message, hw, hop⟩
  · rw [hop] at hack
    cases hack
  · rw [hop] at hack
    cases hack
    exact hp.held w task hw
  · rw [hop] at hack
    cases hack
    exact hp.held w task hw

variable {es : List (Time × WorkerEvent ω)} {x y : MeasuredPool ω η} {e : WorkerEvent ω} {w : ω}
  {start : InMemoryTaskQueue η}

omit [DecidableEq ω] in
/-- A task that is reported on is known. -/
theorem Recorded.known (h : Recorded start es x) (hw : x.pool.workers w = some task) :
    ∃ stored, x.pool.queue.tasks.get? task.taskId = some stored :=
  Option.isSome_iff_exists.mp
    ((h.custody.ok _).task_isSome (by rw [view, h.custody.held w task hw]; rfl))

/-- One more step. -/
theorem Recorded.snoc (h : Recorded start es x) (hstep : Works filter now x e y)
    (hcustody : Custody y.pool) (htallied : y.pool.queue.Tallied)
    (hprocessed : y.stats.tasksProcessed = y.stats.tasksSucceeded + y.stats.tasksFailed)
    (hsucceeded : y.stats.tasksSucceeded = y.pool.queue.completedCount)
    (hfailed : y.stats.tasksFailed + e.stuck.toNat = x.stats.tasksFailed + e.failed.toNat)
    (hstuck : e.failed = true → (e.stuck = false ↔ ∀ task, e.task = some task →
      task.canRetry = true → start.Reschedules now (task.retryCount + 1)))
    (hretried : y.stats.tasksRetried + e.spendsLast.toNat =
      x.stats.tasksRetried + e.putBack.toNat) : Recorded start (es ++ [(now, e)]) y := by
  have hcount : ∀ f : WorkerEvent ω → Bool, ((es ++ [(now, e)]).countP fun e ↦ f e.2) =
      (es.countP fun e ↦ f e.2) + (f e).toNat := by
    intro f
    rw [List.countP_append, List.countP_singleton]
    cases f e with
    | true => rfl
    | false => rfl
  have hsettings : y.pool.queue.settings = start.settings := by
    have hexec := settings_exec x.pool.queue now e.call.op
    rw [hstep.step.calls.2] at hexec
    exact hexec.trans h.settings
  refine ⟨hcustody, htallied, hsettings, hprocessed, hsucceeded, ?_, fun e' he' ↦ ?_, ?_⟩
  · rw [hcount, hcount, ← h.failed]
    omega
  · rcases List.mem_append.mp he' with he' | he'
    · exact h.stuck e' he'
    · obtain rfl := List.mem_singleton.mp he'
      exact hstuck
  · rw [hcount, hcount, ← h.retried]
    omega

/-- A step that reports on nothing. -/
theorem Recorded.quiet (h : Recorded start es x) (hstep : Works filter now x e y)
    (hcustody : Custody y.pool) (htallied : y.pool.queue.Tallied)
    (hop : e.call.op.acknowledges = none) : Recorded start (es ++ [(now, e)]) y := by
  have hstats : y.stats = x.stats := by rw [hstep.stats, recorded_quiet hop]
  have hfailed : e.failed = false := by
    unfold WorkerEvent.failed
    split
    · rename_i hfail
      rw [hfail] at hop
      cases hop
    · rfl
  have hcounters : (x.pool.queue.exec now e.call.op).2.counters = x.pool.queue.counters :=
    counters_exec hop
  rw [hstep.step.calls.2] at hcounters
  have hcompleted : y.pool.queue.completedCount = x.pool.queue.completedCount :=
    congrArg Prod.fst hcounters
  refine h.snoc hstep hcustody htallied ?_ ?_ ?_ ?_ ?_
  · rw [hstats, h.processed]
  · rw [hstats, hcompleted, h.succeeded]
  · rw [hstats, e.stuck_of_not_failed hfailed, hfailed]
  · rw [hfailed]
    exact nofun
  · rw [hstats, WorkerEvent.spendsLast, WorkerEvent.putBack, hfailed, Bool.false_and,
      Bool.false_and, Bool.false_and]

/-- A step after an execution that returned a result. -/
theorem Recorded.finish (h : Recorded start es x) (hstep : Works filter now x e y)
    (hcustody : Custody y.pool) (htallied : y.pool.queue.Tallied) {result : TaskResult}
    (hw : x.pool.workers w = some task) (hop : e.call.op = .complete task.taskId result) :
    Recorded start (es ++ [(now, e)]) y := by
  obtain ⟨stored, hstored⟩ := h.known hw
  have hexec := hstep.step.calls.2
  rw [hop] at hexec
  have hreply : e.call.reply = .done (x.pool.queue.complete task.taskId result).1 :=
    (congrArg Prod.fst hexec).symm
  have hstats : y.stats = x.stats.recordSuccess now result.durationMs := by
    rw [hstep.stats, recorded, hop, hreply]
  have hfailed : e.failed = false := by
    rw [WorkerEvent.failed, hop]
  have hcompleted : y.pool.queue.completedCount = x.pool.queue.completedCount + 1 := by
    rw [← completedCount_complete hstored result]
    exact congrArg (fun p ↦ p.2.completedCount) hexec.symm
  refine h.snoc hstep hcustody htallied ?_ ?_ ?_ ?_ ?_
  · rw [hstats]
    show x.stats.tasksProcessed + 1 = x.stats.tasksSucceeded + 1 + x.stats.tasksFailed
    rw [h.processed, Nat.add_right_comm]
  · rw [hstats, hcompleted, ← h.succeeded]
    rfl
  · rw [hstats, e.stuck_of_not_failed hfailed, hfailed]
    rfl
  · rw [hfailed]
    exact nofun
  · rw [hstats, WorkerEvent.spendsLast, WorkerEvent.putBack, hfailed, Bool.false_and,
      Bool.false_and, Bool.false_and]
    rfl

/-- A step after an execution that failed, whose report is taken. -/
theorem Recorded.crash (h : Recorded start es x) (hstep : Works filter now x e y)
    (hcustody : Custody y.pool) (htallied : y.pool.queue.Tallied) {message : String}
    (hw : x.pool.workers w = some task)
    (hop : e.call.op = .fail task.taskId "EXECUTION_ERROR" message true)
    (hreturns : x.pool.queue.FailReturns now task.taskId) :
    Recorded start (es ++ [(now, e)]) y := by
  obtain ⟨stored, hstored⟩ := h.known hw
  obtain ⟨hresult, hcompleted, hafter, hstatus⟩ :=
    fail_retry hstored hreturns "EXECUTION_ERROR" message
  have hexec := hstep.step.calls.2
  rw [hop] at hexec
  have hreply : e.call.reply = .done true :=
    (congrArg Prod.fst hexec).symm.trans (congrArg QueueReply.reported hresult)
  have hqueue : (x.pool.queue.fail now task.taskId "EXECUTION_ERROR" message true).2 =
      y.pool.queue := congrArg Prod.snd hexec
  rw [hqueue] at hcompleted hafter hstatus
  have hstats : y.stats = x.stats.recordFailure now
      (stored.canRetry && !decide (stored.retryCount + 1 = stored.maxRetries)) := by
    rw [hstep.stats, recorded, hop, hreply]
    dsimp only
    rw [hafter, Option.any_some, canRetry_after]
  have hfailed : e.failed = true := by
    rw [WorkerEvent.failed, hop]
  have hstuck : e.stuck = false := by
    rw [WorkerEvent.stuck, hreply]
  have htask : e.task = some stored := by
    rw [hstep.task, hop]
    exact hstored
  have hputBack : e.putBack = stored.canRetry := by
    rw [WorkerEvent.putBack, hfailed, hstuck, hstep.pending, hop]
    show decide (y.pool.queue.status.get? task.taskId = some .pending) = _
    rw [hstatus]
    cases stored.canRetry with
    | true => rfl
    | false => rfl
  have hspends : e.spendsLast = decide (stored.retryCount + 1 = stored.maxRetries) := by
    rw [WorkerEvent.spendsLast, hfailed, hstuck, htask]
    rfl
  refine h.snoc hstep hcustody htallied ?_ ?_ ?_ ?_ ?_
  · rw [hstats]
    show x.stats.tasksProcessed + 1 = x.stats.tasksSucceeded + (x.stats.tasksFailed + 1)
    rw [h.processed, Nat.add_assoc]
  · rw [hstats, hcompleted, ← h.succeeded]
    rfl
  · rw [hstats, hstuck, hfailed]
    rfl
  · intro _
    refine iff_of_true hstuck fun task' htask' hretry ↦ ?_
    obtain rfl := Option.some.inj (htask.symm.trans htask')
    exact (reschedules_congr h.settings now _).mp (hreturns stored hstored hretry)
  · have hretry : stored.retryCount + 1 = stored.maxRetries → stored.canRetry = true := by
      intro hlast
      refine decide_eq_true ?_
      omega
    rw [hstats, hputBack, hspends]
    show x.stats.tasksRetried +
        (if (stored.canRetry && !decide (stored.retryCount + 1 = stored.maxRetries)) = true then 1
          else 0) + _ = _
    by_cases hlast : stored.retryCount + 1 = stored.maxRetries
    · simp [hlast, hretry hlast]
    · cases hcan : stored.canRetry with
      | true => simp [hlast]
      | false => simp [hlast]

/-- A step after an execution that failed, whose report raises. -/
theorem Recorded.raise (h : Recorded start es x) (hstep : Works filter now x e y)
    (hcustody : Custody y.pool) (htallied : y.pool.queue.Tallied) {message : String}
    (hw : x.pool.workers w = some task)
    (hop : e.call.op = .fail task.taskId "EXECUTION_ERROR" message true)
    (hreturns : ¬ x.pool.queue.FailReturns now task.taskId) :
    Recorded start (es ++ [(now, e)]) y := by
  obtain ⟨stored, hstored⟩ := h.known hw
  obtain ⟨hresult, hcompleted⟩ := fail_stuck hstored hreturns "EXECUTION_ERROR" message
  have hexec := hstep.step.calls.2
  rw [hop] at hexec
  have hreply : e.call.reply = .raised .overflowError :=
    (congrArg Prod.fst hexec).symm.trans (congrArg QueueReply.reported hresult)
  have hqueue : (x.pool.queue.fail now task.taskId "EXECUTION_ERROR" message true).2 =
      y.pool.queue := congrArg Prod.snd hexec
  rw [hqueue] at hcompleted
  have hstats : y.stats = x.stats := by
    rw [hstep.stats, recorded, hreply]
  have hfailed : e.failed = true := by
    rw [WorkerEvent.failed, hop]
  have hstuck : e.stuck = true := by
    rw [WorkerEvent.stuck, hreply]
    exact hfailed
  have htask : e.task = some stored := by
    rw [hstep.task, hop]
    exact hstored
  refine h.snoc hstep hcustody htallied ?_ ?_ ?_ ?_ ?_
  · rw [hstats, h.processed]
  · rw [hstats, hcompleted, h.succeeded]
  · rw [hstats, hstuck, hfailed]
  · intro _
    refine iff_of_false (hstuck ▸ nofun) fun hall ↦ hreturns ?_
    refine (failReturns_iff hstored).mpr fun hretry ↦ ?_
    exact (reschedules_congr h.settings now _).mpr (hall stored htask hretry)
  · rw [hstats, WorkerEvent.spendsLast, WorkerEvent.putBack, hstuck, Bool.not_true, Bool.and_false,
      Bool.false_and, Bool.false_and]

/-- Every step is recorded. -/
theorem Recorded.step (h : Recorded start es x) (hstep : Works filter now x e y) :
    Recorded start (es ++ [(now, e)]) y := by
  have hcustody := hstep.step.custody h.custody
  have htallied := h.tallied.exec (hstep.step.acksClaimed h.custody) hstep.step.calls
  rcases hstep.step.reports with hop | ⟨w, task, result, hw, hop⟩ | ⟨w, task, message, hw, hop⟩
  · exact h.quiet hstep hcustody htallied hop
  · exact h.finish hstep hcustody htallied hw hop
  · by_cases hreturns : x.pool.queue.FailReturns now task.taskId
    · exact h.crash hstep hcustody htallied hw hop hreturns
    · exact h.raise hstep hcustody htallied hw hop hreturns

end Steps

/-- In every run of a pool of workers on a new queue, the statistics are exact exactly if no
execution failed whose task had one retry left, or had retries left and none that can be
scheduled. -/
theorem exact_iff (filter : ω → Option String) (maxSize : Int) (retryBaseDelay retryMaxDelay : ℚ)
    (start : Time) {es : List (Time × WorkerEvent ω)} {s : Time × MeasuredPool ω η}
    (h : Run (Step.Timed (Works filter))
      (start, { pool := idlePool (new maxSize retryBaseDelay retryMaxDelay) }) es s) :
    Exact s.2.stats s.2.pool.queue es ↔ ∀ e ∈ es, e.2.failed = true →
      ∀ task, e.2.task = some task → task.retryCount + 1 ≠ task.maxRetries ∧
        (task.canRetry = true → (new maxSize retryBaseDelay retryMaxDelay :
          InMemoryTaskQueue η).Reschedules e.1 (task.retryCount + 1)) := by
  have hrecorded : Recorded (new maxSize retryBaseDelay retryMaxDelay) es s.2 := by
    refine Run.history (P := fun es s ↦ Recorded _ es s.2) ?_ h ?_
    · rintro es s e s' hs ⟨-, -, hstep⟩
      exact hs.step hstep
    · exact ⟨Custody.idle _ _ _, tallied_new _ _ _, rfl, rfl, rfl, rfl,
        fun _ he ↦ absurd he List.not_mem_nil, rfl⟩
  have hcounts : Exact s.2.stats s.2.pool.queue es ↔
      (es.countP fun e ↦ e.2.stuck) = 0 ∧ (es.countP fun e ↦ e.2.spendsLast) = 0 := by
    have hfailed := hrecorded.failed
    have hretried := hrecorded.retried
    constructor
    · intro hexact
      rw [← hexact.failed] at hfailed
      rw [← hexact.retried] at hretried
      exact ⟨Nat.add_left_cancel hfailed, Nat.add_left_cancel hretried⟩
    · rintro ⟨hstuck, hspends⟩
      refine ⟨hrecorded.processed, ?_, ?_, ?_⟩
      · rw [hrecorded.succeeded, hrecorded.tallied.completed]
      · rw [← hfailed, hstuck, Nat.add_zero]
      · rw [← hretried, hspends, Nat.add_zero]
  rw [hcounts, List.countP_eq_zero, List.countP_eq_zero]
  constructor
  · rintro ⟨hstuck, hspends⟩ e he hfailed task htask
    have hnot : e.2.stuck = false := Bool.not_eq_true _ ▸ hstuck e he
    refine ⟨fun hlast ↦ hspends e he ?_, (hrecorded.stuck e he hfailed).mp hnot task htask⟩
    rw [WorkerEvent.spendsLast, hfailed, hnot, htask]
    exact decide_eq_true hlast
  · intro hgood
    refine ⟨fun e he hstuck ↦ ?_, fun e he hspends ↦ ?_⟩
    · have hfailed : e.2.failed = true := by
        by_contra hnot
        rw [e.2.stuck_of_not_failed (Bool.not_eq_true _ ▸ hnot)] at hstuck
        cases hstuck
      have hnot := (hrecorded.stuck e he hfailed).mpr fun task htask ↦
        (hgood e he hfailed task htask).2
      cases hnot.symm.trans hstuck
    · rw [WorkerEvent.spendsLast, Bool.and_eq_true, Bool.and_eq_true] at hspends
      obtain ⟨⟨hfailed, -⟩, hlast⟩ := hspends
      obtain ⟨task, htask, hlast⟩ := (Option.any_eq_true _ _).mp hlast
      exact (hgood e he hfailed task htask).1 (of_decide_eq_true hlast)

section Witness

def taskWith (maxRetries : Int) : TaskPayload := { sampleTask with maxRetries := maxRetries }

/-- The queue after the task was enqueued and claimed. -/
def claimedQueue (maxRetries : Int) : InMemoryTaskQueue (SortedList PriorityItem.key) :=
  (playState (0, sampleQueue) [(0, .enqueue (taskWith maxRetries) 0), (0, .dequeue none)]).2

/-- What the report of its failure returns, and the queue after it. -/
def crashedQueue (maxRetries : Int) :
    Except PyError Bool × InMemoryTaskQueue (SortedList PriorityItem.key) :=
  (claimedQueue maxRetries).fail 1 ⟨1⟩ "EXECUTION_ERROR" "boom" true

/-- The task is enqueued, claimed, and its execution fails. -/
def crashEvents (maxRetries : Int) : List (Time × WorkerEvent Bool) :=
  [(0, ⟨⟨none, ⟨.enqueue (taskWith maxRetries) 0, .accepted (taskWith maxRetries)⟩⟩, none, false⟩),
    (0, ⟨⟨some false, ⟨.dequeue none, .dequeued (some (taskWith maxRetries))⟩⟩, none, false⟩),
    (1, ⟨⟨some false, ⟨.fail ⟨1⟩ "EXECUTION_ERROR" "boom" true,
      .reported (crashedQueue maxRetries).1⟩⟩, some (taskWith maxRetries),
      (crashedQueue maxRetries).2.status.get? ⟨1⟩ = some .pending⟩)]

/-- The pool while the first worker executes the task. -/
def claimedPool (maxRetries : Int) : Pool Bool (SortedList PriorityItem.key) :=
  ⟨claimedQueue maxRetries, Function.update (fun _ ↦ none) false (some (taskWith maxRetries))⟩

def crashedPool (maxRetries : Int) : MeasuredPool Bool (SortedList PriorityItem.key) where
  pool := ⟨(crashedQueue maxRetries).2, Function.update (claimedPool maxRetries).workers false none⟩
  stats := recorded {} 1
    ⟨.fail ⟨1⟩ "EXECUTION_ERROR" "boom" true, .reported (crashedQueue maxRetries).1⟩
    (crashedQueue maxRetries).2

theorem crash_run (maxRetries : Int) : Run (Step.Timed (Works noFilter))
    (0, { pool := idlePool sampleQueue }) (crashEvents maxRetries) (1, crashedPool maxRetries) := by
  let enqueued := (playState (0, sampleQueue) [(0, .enqueue (taskWith maxRetries) 0)]).2
  have henqueue : Calls 0 sampleQueue
      ⟨.enqueue (taskWith maxRetries) 0, .accepted (taskWith maxRetries)⟩ enqueued := ⟨rfl, rfl⟩
  have hpoll : Calls 0 enqueued
      ⟨.dequeue none, .dequeued (some (taskWith maxRetries))⟩ (claimedQueue maxRetries) :=
    ⟨trivial, rfl⟩
  have hcrash : Calls 1 (claimedQueue maxRetries)
      ⟨.fail (taskWith maxRetries).taskId "EXECUTION_ERROR" "boom" true,
        .reported (crashedQueue maxRetries).1⟩ (crashedQueue maxRetries).2 := ⟨trivial, rfl⟩
  have hclient : ClientOp (.enqueue (taskWith maxRetries) 0) := trivial
  have hheld : (claimedPool maxRetries).workers false = some (taskWith maxRetries) := rfl
  have hfirst : Step.Timed (Works noFilter) (0, { pool := idlePool sampleQueue })
      (0, ⟨⟨none, ⟨.enqueue (taskWith maxRetries) 0, .accepted (taskWith maxRetries)⟩⟩, none, false⟩)
      (0, { pool := idlePool enqueued }) :=
    ⟨le_rfl, rfl, .pool (.client hclient henqueue), rfl, rfl, rfl⟩
  have hclock : (0 : Time) ≤ 1 := by decide
  have hsecond : Step.Timed (Works noFilter) (0, { pool := idlePool enqueued })
      (0, ⟨⟨some false, ⟨.dequeue none, .dequeued (some (taskWith maxRetries))⟩⟩, none, false⟩)
      (0, { pool := claimedPool maxRetries }) :=
    ⟨le_rfl, rfl, .pool (.poll rfl hpoll), rfl, rfl, rfl⟩
  exact .cons hfirst (.cons hsecond (.single ⟨hclock, rfl, .pool (.crash hheld hcrash), rfl, rfl, rfl⟩))

/-- A task with three retries: its first failure is counted as a retry. -/
theorem exact_sample :
    Exact (crashedPool 3).stats (crashedPool 3).pool.queue (crashEvents 3) := by
  refine (exact_iff noFilter 10000 1 60 0 (crash_run 3)).mpr ?_
  intro e he hfailed task htask
  have hevents : e ∈ crashEvents 3 := he
  simp only [crashEvents, List.mem_cons, List.not_mem_nil, or_false] at hevents
  rcases hevents with rfl | rfl | rfl
  · cases htask
  · cases htask
  · cases htask
    decide +kernel

/-- A task with one retry is put back, and its failure is not counted as a retry. -/
theorem exact_fails :
    Run (Step.Timed (Works noFilter)) (0, { pool := idlePool sampleQueue }) (crashEvents 1)
        (1, crashedPool 1) ∧
      ¬ Exact (crashedPool 1).stats (crashedPool 1).pool.queue (crashEvents 1) := by
  refine ⟨crash_run 1, ?_⟩
  intro h
  have hretried := h.retried
  revert hretried
  decide +kernel

end Witness

end InMemoryTaskQueue

end SemanticBus
