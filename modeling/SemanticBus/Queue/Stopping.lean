import Mathlib.Data.Fintype.Basic
import SemanticBus.Queue.Worker

/-!
# Stopping a pool of workers

The life of a `TaskWorker` pool from `start` to the return of `stop`, with the places
where a worker can be cancelled: while it polls the queue, in the executor, and in the
call that reports the result.  A cancellation travels as `CancelledError`, which
`_process_task` does not catch, so a worker that is cancelled with a task in hand ends
without reporting it.

The report of a failure can raise as well, when its retry cannot be scheduled; the worker
then goes on without its task.

When `stop` returns, every task that the pool ever claimed has been reported exactly if
no worker was cancelled with a task in hand and no report raised.
-/

universe u v

namespace SemanticBus

inductive WorkerState where
  /-- Not started, or left. -/
  | ended
  /-- At the head of the loop or in `dequeue`. -/
  | polling
  /-- In the executor. -/
  | executing (task : TaskPayload)
  /-- In `complete`. -/
  | completing (task : TaskPayload) (result : TaskResult)
  /-- In `fail`. -/
  | failing (task : TaskPayload) (message : String)

namespace WorkerState

def held : WorkerState → Option TaskPayload
  | ended | polling => none
  | executing task | completing task _ | failing task _ => some task

def report : WorkerState → Option QueueOp
  | completing task result => some (.complete task.taskId result)
  | failing task message => some (.fail task.taskId "EXECUTION_ERROR" message true)
  | ended | polling | executing _ => none

def isEnded : WorkerState → Bool
  | ended => true
  | polling | executing _ | completing _ _ | failing _ _ => false

end WorkerState

/-- A worker pool and its queue.  `running` says that `_workers` is not empty. -/
structure TaskWorker (ω : Type v) (η : Type u) where
  tenantId : Option String := none
  queue : InMemoryTaskQueue η
  workers : ω → WorkerState := fun _ ↦ .ended
  running : Bool := false
  shutdownEvent : Bool := false

/-- A step of the pool or of a client of the queue. -/
inductive TaskWorkerEvent (ω : Type v) where
  | client (op : QueueOp)
  | start
  /-- A scan of `dequeue`. -/
  | polled (worker : ω)
  /-- The loop finds the shutdown event set. -/
  | left (worker : ω)
  /-- The executor returns. -/
  | returned (worker : ω) (result : TaskResult)
  /-- The executor raises an `Exception`. -/
  | raised (worker : ω) (message : String)
  /-- The executor raises `CancelledError` on its own. -/
  | aborted (worker : ω)
  /-- The queue takes the report. -/
  | reported (worker : ω)
  | stop
  /-- The timeout of `stop` is over and the worker gets `CancelledError` where it awaits. -/
  | cancelled (worker : ω)
  /-- All workers are done and `stop` returns. -/
  | stopped

namespace TaskWorker

open InMemoryTaskQueue

variable {ω : Type v} [DecidableEq ω] [Fintype ω] {η : Type u} [MinHeap η PriorityItem.key]

/-- Whether the operation is one that is made from outside the pool. -/
def isClient : QueueOp → Bool
  | .enqueue _ _ | .cancel _ | .clearExpired => true
  | .dequeue _ | .complete _ _ | .fail _ _ _ _ | .shutdown => false

omit [Fintype ω] [MinHeap η PriorityItem.key] in
def goesTo (p : TaskWorker ω η) (worker : ω) (state : WorkerState) : TaskWorker ω η :=
  { p with workers := Function.update p.workers worker state }

def loop (p : TaskWorker ω η) : WorkerState := if p.shutdownEvent then .ended else .polling

def fire (p : TaskWorker ω η) (now : Time) : TaskWorkerEvent ω → Option (TaskWorker ω η)
  | .client op =>
      if isClient op = true ∧ p.queue.Distinct op then some { p with queue := (p.queue.exec now op).2 }
      else none
  | .start =>
      if p.running then none
      else some { p with workers := fun _ ↦ .polling, running := true, shutdownEvent := false }
  | .polled w =>
      match p.workers w with
      | .polling => some (({ p with queue := (p.queue.dequeue now p.tenantId).2 }).goesTo w
          ((p.queue.dequeue now p.tenantId).1.elim .polling .executing))
      | _ => none
  | .left w =>
      match p.workers w with
      | .polling => if p.shutdownEvent then some (p.goesTo w .ended) else none
      | _ => none
  | .returned w result =>
      match p.workers w with
      | .executing task => some (p.goesTo w (.completing task result))
      | _ => none
  | .raised w message =>
      match p.workers w with
      | .executing task => some (p.goesTo w (.failing task message))
      | _ => none
  | .aborted w =>
      match p.workers w with
      | .executing _ => some (p.goesTo w .ended)
      | _ => none
  | .reported w => (p.workers w).report.map fun op ↦
      ({ p with queue := (p.queue.exec now op).2 }).goesTo w p.loop
  | .stop => some (if p.running then { p with shutdownEvent := true } else p)
  | .cancelled w =>
      if p.running = true ∧ p.shutdownEvent = true ∧ (p.workers w).isEnded = false then
        some (p.goesTo w .ended)
      else none
  | .stopped =>
      if p.running = true ∧ p.shutdownEvent = true ∧ ∀ w, (p.workers w).isEnded = true then
        some { p with running := false }
      else none

/-- The notes of a run: every task that the pool has claimed, with the status it had after the
last report, or `PROCESSING` when it has not been reported since it was claimed (a report that
raises is none). -/
def note (p : TaskWorker ω η) (now : Time) (notes : Dict UUID TaskStatus) :
    TaskWorkerEvent ω → Dict UUID TaskStatus
  | .polled _ =>
      match (p.queue.dequeue now p.tenantId).1 with
      | none => notes
      | some task => notes.insert task.taskId .processing
  | .reported w =>
      match (p.workers w).report with
      | none => notes
      | some op =>
          match (p.queue.exec now op).1, op.acknowledges.bind fun id ↦
            ((p.queue.exec now op).2.status.get? id).map fun status ↦ (id, status) with
          | .raised _, _ | _, none => notes
          | _, some (id, status) => notes.insert id status
  | _ => notes

abbrev Steps : Step (TaskWorker ω η × Dict UUID TaskStatus) (Time × TaskWorkerEvent ω) :=
  Step.Noting (fun p a notes ↦ p.note a.1 notes a.2) (Step.graph fun p a ↦ p.fire a.1 a.2)

/-- Every claimed task has been completed, has failed for good or was put back, and none is being
processed. -/
def Reported (x : TaskWorker ω η × Dict UUID TaskStatus) : Prop :=
  ∀ id status, x.2.get? id = some status →
    (status = .completed ∨ status = .failed ∨ status = .pending) ∧
      x.1.queue.status.get? id ≠ some .processing

def cancels : TaskWorkerEvent ω → Option ω
  | .aborted w | .cancelled w => some w
  | _ => none

/-- The report of a failure raises. -/
def Raises (p : TaskWorker ω η) (now : Time) : TaskWorkerEvent ω → Prop
  | .reported w =>
      match p.workers w with
      | .failing task _ => ¬ p.queue.FailReturns now task.taskId
      | _ => False
  | _ => False

/-- No worker is cancelled with a task in hand, and no report of one raises. -/
def SparesHeld (x : TaskWorker ω η × Dict UUID TaskStatus) (a : Time × TaskWorkerEvent ω) : Prop :=
  (∀ w, cancels a.2 = some w → (x.1.workers w).held = none) ∧ ¬ x.1.Raises a.1 a.2

def held (p : TaskWorker ω η) : ω → Option TaskPayload := fun w ↦ (p.workers w).held

def pool (p : TaskWorker ω η) : Pool ω η := ⟨p.queue, p.held⟩

/-! ## What a step does to the queue, to the tasks in hand and to the notes -/

variable {p p' : TaskWorker ω η} {now : Time} {x y : TaskWorker ω η × Dict UUID TaskStatus}
  {a : Time × TaskWorkerEvent ω} {id : UUID} {task : TaskPayload}

omit [Fintype ω] [MinHeap η PriorityItem.key] in
theorem held_goesTo (p : TaskWorker ω η) (w : ω) (state : WorkerState) :
    (p.goesTo w state).held = Function.update p.held w state.held := by
  funext w'
  show (Function.update p.workers w state w').held = _
  by_cases hw : w' = w
  · subst hw
    rw [Function.update_self, Function.update_self]
  · rw [Function.update_of_ne hw, Function.update_of_ne hw]
    rfl

omit [Fintype ω] [MinHeap η PriorityItem.key] in
/-- A worker that keeps what it has. -/
theorem held_goesTo_same {w : ω} {state : WorkerState} (h : state.held = (p.workers w).held) :
    (p.goesTo w state).held = p.held := by
  rw [held_goesTo, h]
  exact Function.update_eq_self w p.held

/-- A step of the pool of queue, tasks and notes. -/
inductive Turn (now : Time) (who : Option ω) (raises : Prop)
    (x y : TaskWorker ω η × Dict UUID TaskStatus) : Prop
  /-- Nothing that matters. -/
  | quiet : y.1.queue = x.1.queue → y.1.held = x.1.held → y.2 = x.2 → Turn now who raises x y
  /-- A call from outside the pool. -/
  | client {e : PoolEvent ω} : PoolStep (fun _ ↦ x.1.tenantId) now (pool x.1) e (pool y.1) →
      e.call.op.acknowledges = none → e.call.handedOut = none → y.2 = x.2 →
      Turn now who raises x y
  /-- A worker gets a task or none. -/
  | poll {e : PoolEvent ω} {task : Option TaskPayload} :
      PoolStep (fun _ ↦ x.1.tenantId) now (pool x.1) e (pool y.1) →
      e.call.op.acknowledges = none → e.call.handedOut = task.map TaskPayload.taskId →
      y.2 = task.elim x.2 (fun task ↦ x.2.insert task.taskId .processing) → Turn now who raises x y
  /-- A worker reports its task. -/
  | report {e : PoolEvent ω} {id : UUID} :
      PoolStep (fun _ ↦ x.1.tenantId) now (pool x.1) e (pool y.1) →
      e.call.op.acknowledges = some id → e.call.handedOut = none →
      (∀ error, e.call.reply ≠ .raised error) →
      y.2 = ((y.1.queue.status.get? id).elim x.2 fun status ↦ x.2.insert id status) →
      Turn now who raises x y
  /-- A worker loses its task, for its report raises. -/
  | stuck {e : PoolEvent ω} {id : UUID} {error : PyError} : raises →
      PoolStep (fun _ ↦ x.1.tenantId) now (pool x.1) e (pool y.1) →
      e.call.op.acknowledges = some id → e.call.handedOut = none →
      e.call.reply = .raised error → y.2 = x.2 → Turn now who raises x y
  /-- A worker is cancelled. -/
  | cancelled (w : ω) : who = some w → y.1.queue = x.1.queue →
      y.1.held = Function.update x.1.held w none → y.2 = x.2 → Turn now who raises x y

omit [DecidableEq ω] [Fintype ω] [MinHeap η PriorityItem.key] in
theorem clientOp_of {op : QueueOp} (h : isClient op = true) :
    ClientOp op ∧ op.acknowledges = none := by
  cases op with
  | enqueue | cancel | clearExpired => exact ⟨trivial, rfl⟩
  | dequeue | complete | fail | shutdown => cases h

omit [DecidableEq ω] [Fintype ω] [MinHeap η PriorityItem.key] in
theorem isClient_of {op : QueueOp} (h : ClientOp op) : isClient op = true := by
  cases op with
  | enqueue | cancel | clearExpired => rfl
  | dequeue | complete | fail | shutdown => exact h.elim

omit [DecidableEq ω] [Fintype ω] in
theorem handedOut_of_client {c : Call} {q q' : InMemoryTaskQueue η} (h : isClient c.op = true)
    (hc : Calls now q c q') : c.handedOut = none := by
  obtain ⟨op, reply⟩ := c
  have hreply : (q.exec now op).1 = reply := congrArg Prod.fst hc.2
  subst hreply
  cases op with
  | enqueue task delaySeconds =>
      rw [Call.handedOut, InMemoryTaskQueue.exec]
      cases q.enqueue now task delaySeconds with
      | error e => rfl
      | ok q' => rfl
  | cancel | clearExpired => rfl
  | dequeue | complete | fail | shutdown => cases h

omit [DecidableEq ω] [Fintype ω] [MinHeap η PriorityItem.key] in
/-- A worker at the head of the loop has nothing in hand. -/
theorem held_loop (p : TaskWorker ω η) : p.loop.held = none := by
  unfold loop
  split
  · rfl
  · rfl

omit [Fintype ω] [MinHeap η PriorityItem.key] in
theorem pool_goesTo (q : InMemoryTaskQueue η) (w : ω) (state : WorkerState) :
    pool (({ p with queue := q }).goesTo w state) = ⟨q, Function.update p.held w state.held⟩ :=
  congrArg (Pool.mk q) (held_goesTo { p with queue := q } w state)

omit [Fintype ω] in
/-- A worker scans the queue. -/
theorem turn_polled {w : ω} (hw : p.workers w = .polling) (notes : Dict UUID TaskStatus)
    {who : Option ω} {raises : Prop} :
    Turn now who raises (p, notes)
      (({ p with queue := (p.queue.dequeue now p.tenantId).2 }).goesTo w
        ((p.queue.dequeue now p.tenantId).1.elim .polling .executing),
        p.note now notes (.polled w)) := by
  have hnone : (pool p).workers w = none := by
    show (p.workers w).held = none
    rw [hw]
    rfl
  have hstep : PoolStep (fun _ ↦ p.tenantId) now (pool p) _ _ := .poll hnone
    (show Calls now p.queue ⟨.dequeue p.tenantId, .dequeued (p.queue.dequeue now p.tenantId).1⟩
      (p.queue.dequeue now p.tenantId).2 from ⟨trivial, rfl⟩)
  have hheld : ∀ task : Option TaskPayload, (task.elim WorkerState.polling .executing).held = task := by
    rintro (_ | task)
    · rfl
    · rfl
  rw [show Function.update (pool p).workers w (p.queue.dequeue now p.tenantId).1
      = Function.update p.held w ((p.queue.dequeue now p.tenantId).1.elim WorkerState.polling
        .executing).held by rw [hheld]; rfl, ← pool_goesTo] at hstep
  have hout : Call.handedOut
      ⟨.dequeue p.tenantId, .dequeued (p.queue.dequeue now p.tenantId).1⟩
        = (p.queue.dequeue now p.tenantId).1.map TaskPayload.taskId := by
    cases (p.queue.dequeue now p.tenantId).1 with
    | none => rfl
    | some task => rfl
  refine .poll hstep rfl hout ?_
  show (match (p.queue.dequeue now p.tenantId).1 with | none => _ | some task => _) = _
  cases (p.queue.dequeue now p.tenantId).1 with
  | none => rfl
  | some task => rfl

omit [Fintype ω] in
/-- The queue takes the report of a worker. -/
theorem turn_reported {w : ω} {op : QueueOp} (hop : (p.workers w).report = some op)
    (notes : Dict UUID TaskStatus) {who : Option ω} :
    Turn now who (p.Raises now (.reported w)) (p, notes)
      (({ p with queue := (p.queue.exec now op).2 }).goesTo w p.loop,
        p.note now notes (.reported w)) := by
  have hnote : ∀ id ok, op.acknowledges = some id → (p.queue.exec now op).1 = .done ok →
      p.note now notes (.reported w)
        = ((p.queue.exec now op).2.status.get? id).elim notes fun status ↦
            notes.insert id status := by
    intro id ok hid hreply
    rw [note, hop]
    dsimp only
    rw [hreply, hid, Option.bind_some]
    cases (p.queue.exec now op).2.status.get? id with
    | none => rfl
    | some status => rfl
  have hloop : ({ p with queue := (p.queue.exec now op).2 } : TaskWorker ω η).loop.held = none :=
    held_loop _
  have hpool : pool (({ p with queue := (p.queue.exec now op).2 }).goesTo w p.loop)
      = ⟨(p.queue.exec now op).2, Function.update p.held w none⟩ := by
    rw [pool_goesTo, held_loop]
  cases hw : p.workers w with
  | completing task result =>
      have hheld : (pool p).workers w = some task := by
        show (p.workers w).held = some task
        rw [hw]
        rfl
      rw [hw] at hop
      obtain rfl := Option.some.inj hop
      have hstep : PoolStep (fun _ ↦ p.tenantId) now (pool p) _ _ := .finish hheld
        (show Calls now p.queue ⟨.complete task.taskId result,
          .done (p.queue.complete task.taskId result).1⟩ _ from ⟨trivial, rfl⟩)
      exact .report (hpool ▸ hstep) rfl rfl (fun _ h ↦ by cases h) (hnote _ _ rfl rfl)
  | failing task message =>
      have hheld : (pool p).workers w = some task := by
        show (p.workers w).held = some task
        rw [hw]
        rfl
      rw [hw] at hop
      obtain rfl := Option.some.inj hop
      have hcalls : Calls now p.queue ⟨.fail task.taskId "EXECUTION_ERROR" message true,
          .reported (p.queue.fail now task.taskId "EXECUTION_ERROR" message true).1⟩ _ :=
        ⟨trivial, rfl⟩
      have hstep : PoolStep (fun _ ↦ p.tenantId) now (pool p) _ _ := .crash hheld hcalls
      cases hresult : (p.queue.fail now task.taskId "EXECUTION_ERROR" message true).1 with
      | ok ok =>
          have hreply : (p.queue.exec now (.fail task.taskId "EXECUTION_ERROR" message true)).1
              = .done ok := congrArg QueueReply.reported hresult
          refine .report (hpool ▸ hstep) rfl (handedOut_fail hcalls) (fun error h ↦ ?_)
            (hnote _ ok rfl hreply)
          cases hreply.symm.trans h
      | error error =>
          have hreply : (p.queue.exec now (.fail task.taskId "EXECUTION_ERROR" message true)).1
              = .raised error := congrArg QueueReply.reported hresult
          refine .stuck ?_ (hpool ▸ hstep) rfl (handedOut_fail hcalls) hreply ?_
          · rw [Raises, hw]
            intro hreturns
            obtain ⟨ok, hok⟩ := fail_returns_iff.mpr hreturns
            cases hok.symm.trans hresult
          · show p.note now notes (.reported w) = notes
            rw [note, hw]
            dsimp only [WorkerState.report]
            rw [hreply]
  | ended | polling | executing =>
      rw [hw] at hop
      cases hop

/-- Every step is one of these, when idle workers have nothing in hand. -/
theorem fire_turn (hidle : p.running = false → ∀ w, (p.workers w).isEnded = true)
    {notes : Dict UUID TaskStatus} {e : TaskWorkerEvent ω} (h : p.fire now e = some p') :
    Turn now (cancels e) (p.Raises now e) (p, notes) (p', p.note now notes e) := by
  cases e with
  | client op =>
      obtain ⟨⟨hclient, hdistinct⟩, hp'⟩ := Option.ite_none_right_eq_some.mp h
      obtain rfl := Option.some.inj hp'
      have hcall : Calls now p.queue ⟨op, (p.queue.exec now op).1⟩ (p.queue.exec now op).2 :=
        ⟨hdistinct, rfl⟩
      obtain ⟨hop, hack⟩ := clientOp_of hclient
      exact .client (PoolStep.client hop hcall) hack (handedOut_of_client hclient hcall) rfl
  | start =>
      obtain ⟨hstopped, hp'⟩ := Option.ite_none_left_eq_some.mp h
      obtain rfl := Option.some.inj hp'
      refine .quiet rfl (funext fun w ↦ ?_) rfl
      have hended := hidle (Bool.not_eq_true _ ▸ hstopped) w
      show none = (p.workers w).held
      cases hw : p.workers w with
      | ended => rfl
      | polling => rfl
      | executing | completing | failing =>
          rw [hw] at hended
          cases hended
  | polled w =>
      rw [fire] at h
      split at h
      · rename_i hw
        obtain rfl := Option.some.inj h
        exact turn_polled hw notes
      · cases h
  | left w =>
      rw [fire] at h
      split at h
      · rename_i hw
        obtain ⟨-, hp'⟩ := Option.ite_none_right_eq_some.mp h
        obtain rfl := Option.some.inj hp'
        exact .quiet rfl (held_goesTo_same (by rw [hw]; rfl)) rfl
      · cases h
  | returned w result =>
      rw [fire] at h
      split at h
      · rename_i task hw
        obtain rfl := Option.some.inj h
        exact .quiet rfl (held_goesTo_same (by rw [hw]; rfl)) rfl
      · cases h
  | raised w message =>
      rw [fire] at h
      split at h
      · rename_i task hw
        obtain rfl := Option.some.inj h
        exact .quiet rfl (held_goesTo_same (by rw [hw]; rfl)) rfl
      · cases h
  | aborted w =>
      rw [fire] at h
      split at h
      · obtain rfl := Option.some.inj h
        exact .cancelled w rfl rfl (held_goesTo p w .ended) rfl
      · cases h
  | reported w =>
      obtain ⟨op, hop, rfl⟩ := Option.map_eq_some_iff.mp h
      exact turn_reported hop notes
  | stop =>
      obtain rfl := Option.some.inj h
      split
      · exact .quiet rfl rfl rfl
      · exact .quiet rfl rfl rfl
  | cancelled w =>
      obtain ⟨-, hp'⟩ := Option.ite_none_right_eq_some.mp h
      obtain rfl := Option.some.inj hp'
      exact .cancelled w rfl rfl (held_goesTo p w .ended) rfl
  | stopped =>
      obtain ⟨-, hp'⟩ := Option.ite_none_right_eq_some.mp h
      obtain rfl := Option.some.inj hp'
      exact .quiet rfl rfl rfl

/-! ## Invariants -/

omit [DecidableEq ω] [Fintype ω] in
/-- A task being processed was just handed out, or is so still and is not reported. -/
theorem processing_cases {q : InMemoryTaskQueue η} {c : Call} {v v' : TaskView}
    (h : TaskMove q now c id v v') (hok : ViewOk id v)
    (hraised : c.op.acknowledges = some id → ∀ error, c.reply ≠ .raised error)
    (hp : v'.status = some .processing) :
    c.handedOut = some id ∨ v.status = some .processing ∧ c.op.acknowledges ≠ some id := by
  cases h with
  | keep _ hack _ =>
      refine .inr ⟨hp, fun ha ↦ ?_⟩
      have hsome := hok.task_isSome (by rw [show v.status = some .processing from hp]; rfl)
      rw [hack ha] at hsome
      cases hsome
  | claim _ hreply ht =>
      left
      rw [Call.handedOut, hreply]
      exact congrArg some (hok.taskId_eq _ ht)
  | overflow hop _ _ _ hreply _ => exact absurd hreply (hraised (by rw [hop]; rfl) _)
  | accept | lapse | clear | complete | retry | fail | cancel => cases hp

omit [DecidableEq ω] [Fintype ω] in
/-- A task that is reported is completed, has failed for good or is put back. -/
theorem reported_cases {q : InMemoryTaskQueue η} {c : Call} {v v' : TaskView}
    (h : TaskMove q now c id v v') (hack : c.op.acknowledges = some id) (ht : v.task.isSome)
    (hraised : ∀ error, c.reply ≠ .raised error) :
    ∃ status, v'.status = some status ∧
      (status = .completed ∨ status = .failed ∨ status = .pending) := by
  cases h with
  | keep _ hnone _ =>
      rw [hnone hack] at ht
      cases ht
  | complete => exact ⟨_, rfl, .inl rfl⟩
  | fail => exact ⟨_, rfl, .inr (.inl rfl)⟩
  | retry => exact ⟨_, rfl, .inr (.inr rfl)⟩
  | overflow _ _ _ _ hreply _ => exact absurd hreply (hraised _)
  | accept hc | claim hc | lapse hc | clear hc | cancel hc =>
      rw [hc] at hack
      cases hack

/-- What every step keeps. -/
structure Kept (x : TaskWorker ω η × Dict UUID TaskStatus) : Prop where
  custody : Custody (pool x.1)
  idle : x.1.running = false → ∀ w, (x.1.workers w).isEnded = true

omit [Fintype ω] in
/-- A worker that lets go of its task leaves the custody of the others as it is. -/
theorem custody_drop {p : Pool ω η} (hp : Custody p) (w : ω) :
    Custody (⟨p.queue, Function.update p.workers w none⟩ : Pool ω η) := by
  have hsub : ∀ w' task, Function.update p.workers w none w' = some task →
      p.workers w' = some task := by
    intro w' task hw'
    by_cases heq : w' = w
    · subst heq
      rw [Function.update_self] at hw'
      cases hw'
    · rwa [Function.update_of_ne heq] at hw'
  exact ⟨hp.ok, hp.counted, fun w' task hw' ↦ hp.held w' task (hsub w' task hw'),
    fun w₁ w₂ task₁ task₂ h₁ h₂ ↦ hp.unique w₁ w₂ task₁ task₂ (hsub _ _ h₁) (hsub _ _ h₂)⟩

omit [Fintype ω] in
theorem Turn.custody {who : Option ω} {raises : Prop} (h : Turn now who raises x y)
    (hx : Custody (pool x.1)) : Custody (pool y.1) := by
  cases h with
  | quiet hqueue hheld _ =>
      have hpool : pool y.1 = pool x.1 := by rw [pool, hqueue, hheld, pool]
      rw [hpool]
      exact hx
  | client hstep | poll hstep | report hstep | stuck _ hstep => exact hx.step hstep
  | cancelled w _ hqueue hheld _ =>
      have hpool : pool y.1 = ⟨x.1.queue, Function.update x.1.held w none⟩ := by
        rw [pool, hqueue, hheld]
      rw [hpool]
      exact custody_drop hx w

/-- A pool that is not running has no worker that acts. -/
theorem idle_fire (hidle : p.running = false → ∀ w, (p.workers w).isEnded = true)
    {e : TaskWorkerEvent ω} (h : p.fire now e = some p') :
    p'.running = false → ∀ w, (p'.workers w).isEnded = true := by
  have hstuck : ∀ {w : ω} {state : WorkerState}, p.workers w = state → state.isEnded = false →
      p.running ≠ false := by
    intro w state hw hstate hrunning
    have hended := hidle hrunning w
    rw [hw, hstate] at hended
    cases hended
  cases e with
  | client op =>
      obtain ⟨-, hp'⟩ := Option.ite_none_right_eq_some.mp h
      obtain rfl := Option.some.inj hp'
      exact hidle
  | start =>
      obtain ⟨-, hp'⟩ := Option.ite_none_left_eq_some.mp h
      obtain rfl := Option.some.inj hp'
      intro hrunning
      cases hrunning
  | polled w | returned w | raised w | aborted w =>
      rw [fire] at h
      split at h
      · rename_i hw
        obtain rfl := Option.some.inj h
        exact fun hrunning ↦ absurd hrunning (hstuck hw rfl)
      · cases h
  | left w =>
      rw [fire] at h
      split at h
      · rename_i hw
        obtain ⟨-, hp'⟩ := Option.ite_none_right_eq_some.mp h
        obtain rfl := Option.some.inj hp'
        exact fun hrunning ↦ absurd hrunning (hstuck hw rfl)
      · cases h
  | reported w =>
      obtain ⟨op, hop, rfl⟩ := Option.map_eq_some_iff.mp h
      intro hrunning
      refine absurd hrunning (hstuck (w := w) rfl ?_)
      cases hw : p.workers w with
      | completing | failing => rfl
      | ended | polling | executing =>
          rw [hw] at hop
          cases hop
  | stop =>
      obtain rfl := Option.some.inj h
      split
      · exact hidle
      · exact hidle
  | cancelled w =>
      obtain ⟨⟨hrunning, -⟩, hp'⟩ := Option.ite_none_right_eq_some.mp h
      obtain rfl := Option.some.inj hp'
      exact fun hstopped ↦ absurd (hrunning.symm.trans hstopped) (by decide)
  | stopped =>
      obtain ⟨⟨-, -, hended⟩, hp'⟩ := Option.ite_none_right_eq_some.mp h
      obtain rfl := Option.some.inj hp'
      exact fun _ ↦ hended

/-- A step with the notes is a turn. -/
theorem turn_of_step (hx : Kept x) (h : Steps x a y) :
    Turn a.1 (cancels a.2) (x.1.Raises a.1 a.2) x y ∧ Kept y := by
  obtain ⟨hfire, hnote⟩ := h
  have hturn : Turn a.1 (cancels a.2) (x.1.Raises a.1 a.2) x y := by
    have hnote : y.2 = x.1.note a.1 x.2 a.2 := hnote
    have hturn : Turn a.1 (cancels a.2) (x.1.Raises a.1 a.2) (x.1, x.2)
        (y.1, x.1.note a.1 x.2 a.2) := fire_turn hx.idle hfire
    rw [← hnote] at hturn
    exact hturn
  exact ⟨hturn, hturn.custody hx.custody, idle_fire hx.idle hfire⟩

/-- As long as no worker is cancelled with a task in hand and no report raises: what is being
processed is in hand, and what was claimed is reported or in hand. -/
structure Tracked (x : TaskWorker ω η × Dict UUID TaskStatus) : Prop where
  kept : Kept x
  noted : ∀ w task, x.1.held w = some task → x.2.get? task.taskId = some .processing
  owned : ∀ id, x.1.queue.status.get? id = some .processing →
    ∃ w task, x.1.held w = some task ∧ task.taskId = id
  reported : ∀ id status, x.2.get? id = some status →
    (status = .completed ∨ status = .failed ∨ status = .pending) ∨
      x.1.queue.status.get? id = some .processing

/-- A claimed task that was not reported, that no worker has in hand, and that none will be
handed again. -/
structure Lost (x : TaskWorker ω η × Dict UUID TaskStatus) (id : UUID) : Prop where
  kept : Kept x
  noted : x.2.get? id = some .processing
  known : (x.1.queue.view id).task.isSome
  spent : (x.1.queue.view id).items = 0
  dropped : ∀ w task, x.1.held w = some task → task.taskId ≠ id

omit [Fintype ω] in
/-- What is being processed stays in hand. -/
theorem owned_step {e : PoolEvent ω} {filter : ω → Option String} {p p' : Pool ω η}
    (hp : Custody p) (h : PoolStep filter now p e p')
    (hraised : e.call.op.acknowledges ≠ none → ∀ error, e.call.reply ≠ .raised error)
    (howned : ∀ id, p.queue.status.get? id = some .processing →
      ∃ w task, p.workers w = some task ∧ task.taskId = id) :
    ∀ id, p'.queue.status.get? id = some .processing →
      ∃ w task, p'.workers w = some task ∧ task.taskId = id := by
  intro id hid
  have hraised : e.call.op.acknowledges = some id → ∀ error, e.call.reply ≠ .raised error :=
    fun hack ↦ hraised (hack ▸ Option.some_ne_none id)
  rcases processing_cases (h.move hp.ok id) (hp.ok id) hraised hid with hout | ⟨hold, hack⟩
  · cases h with
    | @client p c q' hclient hcall =>
        cases (handedOut_of_client (isClient_of hclient) hcall).symm.trans hout
    | @poll p w got q' hidle hcall =>
        cases got with
        | none => cases hout
        | some task =>
            exact ⟨w, task, Function.update_self _ _ _, Option.some.inj hout⟩
    | finish => cases hout
    | crash _ hcall => cases (handedOut_fail hcall).symm.trans hout
  · obtain ⟨w, task, hw, rfl⟩ := howned id hold
    refine ⟨w, task, ?_, rfl⟩
    cases h with
    | client => exact hw
    | @poll p w' got q' hidle hcall =>
        rcases eq_or_ne w w' with rfl | hne
        · cases hidle.symm.trans hw
        · exact (Function.update_of_ne hne _ _).trans hw
    | @finish p w' task' result ok q' hw' hcall =>
        rcases eq_or_ne w w' with rfl | hne
        · obtain rfl := Option.some.inj (hw.symm.trans hw')
          exact absurd rfl hack
        · exact (Function.update_of_ne hne _ _).trans hw
    | @crash p w' task' message reply q' hw' hcall =>
        rcases eq_or_ne w w' with rfl | hne
        · obtain rfl := Option.some.inj (hw.symm.trans hw')
          exact absurd rfl hack
        · exact (Function.update_of_ne hne _ _).trans hw

omit [Fintype ω] in
/-- What a worker holds after a step it had before, or was just handed. -/
theorem held_step {e : PoolEvent ω} {filter : ω → Option String} {p p' : Pool ω η}
    (hp : Custody p) (h : PoolStep filter now p e p') {w : ω} (hw : p'.workers w = some task) :
    p.workers w = some task ∧ e.call.op.acknowledges ≠ some task.taskId ∨
      e.call.handedOut = some task.taskId := by
  rcases h.holds hw with ⟨hbefore, hself⟩ | ⟨-, hout⟩
  · refine .inl ⟨hbefore, fun hack ↦ ?_⟩
    obtain ⟨w', task', hworker, hw', hid, -⟩ := h.acknowledges hack
    obtain rfl := hp.unique w' w task' task hw' hbefore hid
    rw [hself hworker] at hack
    cases hack
  · exact .inr hout

omit [Fintype ω] in
/-- The status with which a task is noted when it is reported. -/
theorem report_note {e : PoolEvent ω} {filter : ω → Option String} {p p' : Pool ω η}
    (hp : Custody p) (h : PoolStep filter now p e p') (hack : e.call.op.acknowledges = some id)
    (hraised : ∀ error, e.call.reply ≠ .raised error) :
    ∃ status, p'.queue.status.get? id = some status ∧
      (status = .completed ∨ status = .failed ∨ status = .pending) := by
  obtain ⟨w, task, -, hw, rfl, -⟩ := h.acknowledges hack
  refine reported_cases (h.move hp.ok task.taskId) hack ((hp.ok task.taskId).task_isSome ?_) hraised
  rw [view, hp.held w task hw]
  rfl

/-- Good steps keep track of every claimed task. -/
theorem Tracked.step (hx : Tracked x) (hgood : SparesHeld x a) (h : Steps x a y) : Tracked y := by
  obtain ⟨hturn, hy⟩ := turn_of_step hx.kept h
  have hcustody := hx.kept.custody
  -- what is not reported in a step of the pool is being processed after it if it was before
  have hstays : ∀ {e : PoolEvent ω} {id}, PoolStep (fun _ ↦ x.1.tenantId) a.1 (pool x.1) e
      (pool y.1) → e.call.op.acknowledges ≠ some id →
      x.1.queue.status.get? id = some .processing → y.1.queue.status.get? id = some .processing :=
    fun hstep hack hp ↦ ((hstep.move hcustody.ok _).processing (hcustody.ok _)
      (hcustody.counted _) hp hack).1
  have hquiet : y.1.queue = x.1.queue → y.1.held = x.1.held → y.2 = x.2 → Tracked y := by
    intro hqueue hheld hnotes
    refine ⟨hy, ?_, ?_, ?_⟩
    · rw [hheld, hnotes]
      exact hx.noted
    · rw [hheld, hqueue]
      exact hx.owned
    · rw [hnotes, hqueue]
      exact hx.reported
  cases hturn with
  | quiet hqueue hheld hnotes => exact hquiet hqueue hheld hnotes
  | @client e hstep hack hout hnotes =>
      refine ⟨hy, fun w task hw ↦ ?_, owned_step hcustody hstep (absurd hack) hx.owned,
        fun id status hget ↦ ?_⟩
      · rcases held_step hcustody hstep hw with ⟨hbefore, -⟩ | hhanded
        · rw [hnotes]
          exact hx.noted w task hbefore
        · cases hout.symm.trans hhanded
      · rw [hnotes] at hget
        refine (hx.reported id status hget).imp_right (hstays hstep ?_)
        rw [hack]
        exact fun h ↦ by cases h
  | @poll e got hstep hack hout hnotes =>
      have hother : ∀ id, e.call.handedOut ≠ some id → y.2.get? id = x.2.get? id := by
        intro id hne
        rw [hnotes]
        cases got with
        | none => rfl
        | some task =>
            refine Dict.get?_insert_of_ne _ _ fun hid ↦ hne ?_
            rw [hout, hid]
            rfl
      have hself : ∀ id, e.call.handedOut = some id → y.2.get? id = some .processing := by
        intro id hid
        rw [hout] at hid
        obtain ⟨task, rfl, rfl⟩ := Option.map_eq_some_iff.mp hid
        rw [hnotes]
        exact Dict.get?_insert_self _ _ _
      refine ⟨hy, fun w task hw ↦ ?_, owned_step hcustody hstep (absurd hack) hx.owned,
        fun id status hget ↦ ?_⟩
      · by_cases hid : e.call.handedOut = some task.taskId
        · exact hself _ hid
        · rcases held_step hcustody hstep hw with ⟨hbefore, -⟩ | hhanded
          · rw [hother _ hid]
            exact hx.noted w task hbefore
          · exact absurd hhanded hid
      · by_cases hid : e.call.handedOut = some id
        · exact .inr ((hstep.move hcustody.ok id).handedOut hid).2.1
        · rw [hother id hid] at hget
          refine (hx.reported id status hget).imp_right (hstays hstep ?_)
          rw [hack]
          exact fun h ↦ by cases h
  | stuck hraises => exact absurd hraises hgood.2
  | @report e id hstep hack hout hraised hnotes =>
      obtain ⟨status, hstatus, hanswer⟩ := report_note hcustody hstep hack hraised
      have hnotes : y.2 = x.2.insert id status := by
        rw [hnotes, show y.1.queue.status.get? id = some status from hstatus]
        rfl
      refine ⟨hy, fun w task hw ↦ ?_, owned_step hcustody hstep (fun _ ↦ hraised) hx.owned,
        fun id' status' hget ↦ ?_⟩
      · rcases held_step hcustody hstep hw with ⟨hbefore, hne⟩ | hhanded
        · rw [hnotes, Dict.get?_insert_of_ne _ _ fun hid ↦
          hne (hack.trans (congrArg some hid.symm))]
          exact hx.noted w task hbefore
        · cases hout.symm.trans hhanded
      · rw [hnotes, Dict.get?_insert] at hget
        split at hget
        · obtain rfl := Option.some.inj hget
          exact .inl hanswer
        · rename_i hne
          refine (hx.reported id' status' hget).imp_right (hstays hstep fun hack' ↦ hne ?_)
          exact Option.some.inj (hack'.symm.trans hack)
  | cancelled w hwho hqueue hheld hnotes =>
      refine hquiet hqueue (hheld.trans ?_) hnotes
      rw [← show x.1.held w = none from hgood.1 w hwho]
      exact Function.update_eq_self w x.1.held

/-- A cancelled worker ends, and nothing else happens. -/
theorem fire_cancels {e : TaskWorkerEvent ω} {w : ω} (h : p.fire now e = some p')
    (hw : cancels e = some w) (notes : Dict UUID TaskStatus) :
    p' = p.goesTo w .ended ∧ p.note now notes e = notes := by
  cases e with
  | aborted w' =>
      obtain rfl := Option.some.inj hw
      rw [fire] at h
      split at h
      · exact ⟨(Option.some.inj h).symm, rfl⟩
      · cases h
  | cancelled w' =>
      obtain rfl := Option.some.inj hw
      obtain ⟨-, hp'⟩ := Option.ite_none_right_eq_some.mp h
      exact ⟨(Option.some.inj hp').symm, rfl⟩
  | client | start | polled | left | returned | raised | reported | stop | stopped => cases hw

omit [DecidableEq ω] [Fintype ω] in
/-- A task in hand is known and has no items. -/
theorem Kept.spent (hx : Kept x) {w : ω} (hw : x.1.held w = some task) :
    (x.1.queue.view task.taskId).task.isSome ∧ (x.1.queue.view task.taskId).items = 0 := by
  have hp : x.1.queue.status.get? task.taskId = some .processing := hx.custody.held w task hw
  refine ⟨(hx.custody.ok task.taskId).task_isSome ?_, (hx.custody.counted _).processing hp⟩
  exact Option.isSome_of_eq_some hp

omit [Fintype ω] in
/-- Once its worker lets go of a task, nobody has it in hand. -/
theorem Kept.dropped (hx : Kept x) {w : ω} (hw : x.1.held w = some task)
    (hheld : y.1.held = Function.update x.1.held w none) {w' : ω} {task' : TaskPayload}
    (hw' : y.1.held w' = some task') : task'.taskId ≠ task.taskId := by
  intro hid
  rw [hheld] at hw'
  rcases eq_or_ne w' w with rfl | hne
  · rw [Function.update_self] at hw'
    cases hw'
  · rw [Function.update_of_ne hne] at hw'
    exact hne (hx.custody.unique w' w task' task hw' hw hid)

/-- A worker that is cancelled with a task in hand loses it. -/
theorem Tracked.lost_of_cancels (hx : Tracked x) (h : Steps x a y) {w : ω}
    (hcancels : cancels a.2 = some w) (hheld : (x.1.workers w).held ≠ none) : ∃ id, Lost y id := by
  obtain ⟨task, htask⟩ := Option.ne_none_iff_exists'.mp hheld
  obtain ⟨hworkers, hnotes⟩ := fire_cancels h.1 hcancels x.2
  obtain ⟨hknown, hspent⟩ := hx.kept.spent htask
  have hnotes : y.2 = x.2 := h.2.trans hnotes
  have hqueue : y.1.queue = x.1.queue := by rw [hworkers]; rfl
  refine ⟨task.taskId, (turn_of_step hx.kept h).2, ?_, hqueue ▸ hknown, hqueue ▸ hspent, ?_⟩
  · rw [hnotes]
    exact hx.noted w task htask
  · refine fun w' task' hw' ↦ hx.kept.dropped htask ?_ hw'
    rw [hworkers, held_goesTo]
    rfl

/-- A worker whose report raises lets go of its task, and the notes stay. -/
theorem fire_raises {e : TaskWorkerEvent ω} (h : p.fire now e = some p') (hraises : p.Raises now e)
    (notes : Dict UUID TaskStatus) : ∃ w task message error, p.held w = some task ∧
      Calls now p.queue ⟨.fail task.taskId "EXECUTION_ERROR" message true, .raised error⟩
        p'.queue ∧ p'.held = Function.update p.held w none ∧ p.note now notes e = notes := by
  cases e with
  | reported w =>
      cases hw : p.workers w with
      | failing task message =>
          rw [Raises, hw] at hraises
          have hreport : (p.workers w).report
              = some (.fail task.taskId "EXECUTION_ERROR" message true) := by rw [hw]; rfl
          rw [fire, hreport] at h
          obtain rfl := Option.some.inj h
          cases hresult : (p.queue.fail now task.taskId "EXECUTION_ERROR" message true).1 with
          | ok ok => exact absurd (fail_returns_iff.mp ⟨ok, hresult⟩) hraises
          | error error =>
              have hreply : (p.queue.exec now (.fail task.taskId "EXECUTION_ERROR" message true)).1
                  = .raised error := congrArg QueueReply.reported hresult
              refine ⟨w, task, message, error, congrArg WorkerState.held hw,
                ⟨trivial, Prod.ext hreply rfl⟩, ?_, ?_⟩
              · rw [held_goesTo, held_loop]
                rfl
              · unfold note
                dsimp only
                rw [hreport]
                dsimp only
                rw [hreply]
      | ended | polling | executing | completing =>
          rw [Raises, hw] at hraises
          exact hraises.elim
  | client | start | polled | left | returned | raised | aborted | stop | cancelled | stopped =>
      exact hraises.elim

/-- A worker whose report raises loses its task. -/
theorem Tracked.lost_of_raises (hx : Tracked x) (h : Steps x a y) (hraises : x.1.Raises a.1 a.2) :
    ∃ id, Lost y id := by
  obtain ⟨w, task, message, error, hw, hcalls, hheld, hnotes⟩ := fire_raises h.1 hraises x.2
  obtain ⟨hknown, hspent⟩ := hx.kept.spent hw
  have hnotes : y.2 = x.2 := h.2.trans hnotes
  have hok : x.1.queue.Ok := hx.kept.custody.ok
  have hmove := exec_move hok hcalls task.taskId
  have hitems := hmove.items_le hknown fun _ hdone ↦ by cases hdone
  rw [hspent] at hitems
  refine ⟨task.taskId, (turn_of_step hx.kept h).2, ?_, hmove.known hknown,
    Multiset.le_zero.mp hitems, fun w' task' hw' ↦ hx.kept.dropped hw hheld hw'⟩
  rw [hnotes]
  exact hx.noted w task hw

/-- A step that is not good loses a task. -/
theorem Tracked.lost (hx : Tracked x) (hbad : ¬ SparesHeld x a) (h : Steps x a y) :
    ∃ id, Lost y id := by
  rcases not_and_or.mp hbad with hcancelled | hraises
  · obtain ⟨w, hw⟩ := not_forall.mp hcancelled
    obtain ⟨hcancels, hheld⟩ := Classical.not_imp.mp hw
    exact hx.lost_of_cancels h hcancels hheld
  · exact hx.lost_of_raises h (not_not.mp hraises)

/-- A lost task stays lost. -/
theorem Lost.step (hx : Lost x id) (h : Steps x a y) : Lost y id := by
  obtain ⟨hturn, hy⟩ := turn_of_step hx.kept h
  have hcustody := hx.kept.custody
  have hpool : ∀ {e : PoolEvent ω}, PoolStep (fun _ ↦ x.1.tenantId) a.1 (pool x.1) e (pool y.1) →
      y.2.get? id = some .processing → Lost y id := by
    intro e hstep hnotes
    have hack : e.call.op.acknowledges ≠ some id := by
      intro hack
      obtain ⟨w, task, -, hw, hid, -⟩ := hstep.acknowledges hack
      exact hx.dropped w task hw hid
    have hmove := hstep.move hcustody.ok id
    have hspent := hmove.items_le hx.known (absurd · hack)
    rw [show ((pool x.1).queue.view id).items = 0 from hx.spent] at hspent
    have hknown := (hmove.budget_le hx.known fun h ↦ absurd h hack).1
    refine ⟨hy, hnotes, hknown, Multiset.le_zero.mp hspent, fun w task hw hid ↦ ?_⟩
    rcases held_step hcustody hstep hw with ⟨hbefore, -⟩ | hhanded
    · exact hx.dropped w task hbefore hid
    · obtain ⟨-, -, item, hi, -⟩ := hmove.handedOut (hid ▸ hhanded)
      rw [show ((pool x.1).queue.view id).items = 0 from hx.spent] at hi
      exact Multiset.notMem_zero item hi
  cases hturn with
  | quiet hqueue hheld hnotes =>
      exact ⟨hy, hnotes ▸ hx.noted, hqueue ▸ hx.known, hqueue ▸ hx.spent, hheld ▸ hx.dropped⟩
  | client hstep _ _ hnotes | stuck _ hstep _ _ _ hnotes => exact hpool hstep (hnotes ▸ hx.noted)
  | @poll e got hstep _ _ hnotes =>
      refine hpool hstep ?_
      rw [hnotes]
      cases got with
      | none => exact hx.noted
      | some task =>
          show (x.2.insert task.taskId .processing).get? id = _
          rw [Dict.get?_insert]
          split
          · rfl
          · exact hx.noted
  | @report e id' hstep hack _ hraised hnotes =>
      refine hpool hstep ?_
      obtain ⟨status, hstatus, -⟩ := report_note hcustody hstep hack hraised
      obtain ⟨w, task, -, hw, hid, -⟩ := hstep.acknowledges hack
      rw [hnotes, show y.1.queue.status.get? id' = some status from hstatus]
      exact (Dict.get?_insert_of_ne _ _ fun heq ↦ hx.dropped w task hw (hid.trans heq.symm)).trans
        hx.noted
  | cancelled w _ hqueue hheld hnotes =>
      refine ⟨hy, hnotes ▸ hx.noted, hqueue ▸ hx.known, hqueue ▸ hx.spent, fun w' task hw' ↦ ?_⟩
      rw [hheld] at hw'
      rcases eq_or_ne w' w with rfl | hne
      · rw [Function.update_self] at hw'
        cases hw'
      · rw [Function.update_of_ne hne] at hw'
        exact hx.dropped w' task hw'

/-! ## Runs -/

/-- A pool that has not been started, over an empty queue. -/
def idle (tenantId : Option String) (maxSize : Int) (retryBaseDelay retryMaxDelay : ℚ) :
    TaskWorker ω η × Dict UUID TaskStatus :=
  ({ tenantId := tenantId, queue := new maxSize retryBaseDelay retryMaxDelay }, ∅)

omit [DecidableEq ω] [Fintype ω] in
theorem tracked_idle (tenantId : Option String) (maxSize : Int) (retryBaseDelay retryMaxDelay : ℚ) :
    Tracked (idle tenantId maxSize retryBaseDelay retryMaxDelay : TaskWorker ω η × _) where
  kept := ⟨Custody.idle _ _ _, fun _ _ ↦ rfl⟩
  noted _ _ h := by cases h
  owned _ h := by cases h
  reported _ _ h := by cases h

omit [DecidableEq ω] [Fintype ω] in
/-- When `stop` has returned, nothing is in hand. -/
theorem Tracked.reported_of_stopped (hx : Tracked x) (hstop : x.1.running = false) :
    Reported x := by
  have hnone : ∀ w, x.1.held w = none := by
    intro w
    have hended := hx.kept.idle hstop w
    show (x.1.workers w).held = none
    cases hw : x.1.workers w with
    | ended | polling => rfl
    | executing | completing | failing =>
        rw [hw] at hended
        cases hended
  have hproc : ∀ id, x.1.queue.status.get? id ≠ some .processing := by
    intro id hp
    obtain ⟨w, task, hw, -⟩ := hx.owned id hp
    cases (hnone w).symm.trans hw
  exact fun id status hget ↦ ⟨(hx.reported id status hget).resolve_right (hproc id), hproc id⟩

omit [DecidableEq ω] [Fintype ω] in
theorem Lost.not_reported (hx : Lost x id) : ¬ Reported x := by
  intro h
  rcases (h id _ hx.noted).1 with hp | hp | hp
  · cases hp
  · cases hp
  · cases hp

/-- In a run of a pool that is not running at its end, because `stop` has returned: every task
that the pool claimed is completed, has failed for good or was put back, and none is still being
processed, exactly when no worker was cancelled with a task in hand and no report of a failure
raised. -/
theorem stopped_reported_iff (tenantId : Option String) (maxSize : Int)
    (retryBaseDelay retryMaxDelay : ℚ) {as : List (Time × TaskWorkerEvent ω)}
    (hstop : x.1.running = false) :
    Run (Step.Only SparesHeld Steps) (idle tenantId maxSize retryBaseDelay retryMaxDelay) as x ↔
      Run Steps (idle tenantId maxSize retryBaseDelay retryMaxDelay) as x ∧ Reported x := by
  have htracked : Tracked (idle tenantId maxSize retryBaseDelay retryMaxDelay :
      TaskWorker ω η × Dict UUID TaskStatus) := tracked_idle _ _ _ _
  constructor
  · intro h
    have hx : Tracked x := h.invariant (fun _ _ _ hs hstep ↦ hs.step hstep.1 hstep.2) htracked
    exact ⟨h.of_only, hx.reported_of_stopped hstop⟩
  · rintro ⟨h, hreported⟩
    exact h.only_of_doomed (I := Tracked) (D := fun x ↦ ∃ id, Lost x id) (P := Reported)
      (fun _ _ _ hs hgood hstep ↦ hs.step hgood hstep) (fun _ _ _ hs hbad hstep ↦ hs.lost hbad hstep)
      (fun _ _ _ ⟨id, hlost⟩ hstep ↦ ⟨id, hlost.step hstep⟩)
      (fun _ ⟨_, hlost⟩ ↦ hlost.not_reported) htracked hreported

def samplePool : TaskWorker (Fin 1) (SortedList PriorityItem.key) × Dict UUID TaskStatus :=
  idle none 10000 1 60

/-- A step of the samples, if it can happen. -/
def playStep (x : TaskWorker (Fin 1) (SortedList PriorityItem.key) × Dict UUID TaskStatus)
    (a : Time × TaskWorkerEvent (Fin 1)) :
    Option (TaskWorker (Fin 1) (SortedList PriorityItem.key) × Dict UUID TaskStatus) :=
  noted (fun p a notes ↦ p.note a.1 notes a.2) (fun p a ↦ p.fire a.1 a.2) x a

/-- The executor raises once and the task is retried, and completed while `stop` waits. -/
def drained : List (Time × TaskWorkerEvent (Fin 1)) :=
  [(0, .client (.enqueue sampleTask 0)), (0, .start), (1, .polled 0), (2, .raised 0 "boom"),
    (3, .reported 0), (2000003, .polled 0), (2000004, .stop),
    (2000005, .returned 0 { taskId := ⟨1⟩, status := .completed, processedAt := 2000005 }),
    (2000005, .reported 0), (2000005, .stopped)]

/-- The timeout of `stop` is over while the worker executes its task. -/
def timedOut : List (Time × TaskWorkerEvent (Fin 1)) :=
  [(0, .client (.enqueue sampleTask 0)), (0, .start), (1, .polled 0), (2, .stop),
    (9, .cancelled 0), (9, .stopped)]

instance (p : TaskWorker (Fin 1) (SortedList PriorityItem.key)) (now : Time) :
    ∀ e, Decidable (p.Raises now e)
  | .reported w =>
      match h : p.workers w with
      | .failing task _ => decidable_of_iff (¬ p.queue.FailReturns now task.taskId)
          (by rw [Raises, h])
      | .ended | .polling | .executing _ | .completing _ _ => isFalse (by rw [Raises, h]; exact not_false)
  | .client _ | .start | .polled _ | .left _ | .returned _ _ | .raised _ _ | .aborted _ | .stop
  | .cancelled _ | .stopped => isFalse not_false

instance (x : TaskWorker (Fin 1) (SortedList PriorityItem.key) × Dict UUID TaskStatus)
    (a : Time × TaskWorkerEvent (Fin 1)) : Decidable (SparesHeld x a) :=
  inferInstanceAs (Decidable (_ ∧ _))

theorem stopped_reported_sample : ∃ x, Run Steps samplePool drained x ∧ Reported x := by
  have hplay : (drained.foldlM (fun x a ↦ if SparesHeld x a then playStep x a else none)
      samplePool).map (fun x ↦ x.1.running) = some false := by decide +kernel
  obtain ⟨x, hx, hstop⟩ := Option.map_eq_some_iff.mp hplay
  have honly : Run (Step.Only SparesHeld Steps) samplePool drained x := by
    rw [Steps, Step.noting_graph]
    exact Run.only_graph_iff.mpr hx
  exact ⟨x, (stopped_reported_iff none 10000 1 60 hstop).mp honly⟩

/-- The task of a worker that is cancelled in the executor is still being processed when `stop`
returns. -/
theorem cancelled_unreported : ∃ x, Run Steps samplePool timedOut x ∧ x.1.running = false ∧
    x.1.queue.status.get? ⟨1⟩ = some .processing ∧ ¬ Reported x := by
  have hplay : (timedOut.foldlM playStep samplePool).map (fun x ↦
      (x.1.running, x.1.queue.status.get? ⟨1⟩, x.2.get? ⟨1⟩))
        = some (false, some .processing, some .processing) := by
    decide +kernel
  obtain ⟨x, hx, hstate⟩ := Option.map_eq_some_iff.mp hplay
  obtain ⟨hstop, hstate⟩ := Prod.mk.inj hstate
  obtain ⟨hp, hnote⟩ := Prod.mk.inj hstate
  refine ⟨x, ?_, hstop, hp, fun h ↦ (h _ _ hnote).2 hp⟩
  rw [Steps, Step.noting_graph]
  exact Run.graph_iff.mpr hx

end TaskWorker

end SemanticBus
