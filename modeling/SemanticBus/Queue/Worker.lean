import Mathlib.Logic.Function.Basic
import SemanticBus.Queue.Life

/-!
# A pool of workers

Any number of worker loops share one queue: an idle worker polls the queue with
its tenant filter, a worker that got a task runs the executor on it, and then it
reports the result with `complete` or the exception with `fail`.  Meanwhile
tasks are enqueued, cancelled and cleared.  Every queue call is atomic, so a run
of the pool interleaves these steps.

The invariant is `Custody`: a pending task has at most one heap item, a task
being processed has none and is the only kind a worker holds.  Hence nothing but
its holder touches a task that is being processed, a retry adds the one item
there is, and that item is not visible before the retry delay is over.
-/

universe u v

namespace SemanticBus

structure Pool (ω : Type v) (η : Type u) where
  queue : InMemoryTaskQueue η
  workers : ω → Option TaskPayload

/-- One step of a pool: the queue call and the worker that makes it, if it is one. -/
structure PoolEvent (ω : Type v) where
  worker : Option ω
  call : Call

namespace InMemoryTaskQueue

variable {ω : Type v} [DecidableEq ω] {η : Type u} [MinHeap η PriorityItem.key]
variable {filter : ω → Option String} {now : Time} {p p' : Pool ω η} {e : PoolEvent ω}
variable {q : InMemoryTaskQueue η} {c : Call} {id : UUID}

/-- The operations made from outside the pool. -/
def ClientOp : QueueOp → Prop
  | .enqueue _ _ | .cancel _ | .clearExpired => True
  | _ => False

/-- A step of the pool; `filter` is the tenant filter of each worker. -/
inductive PoolStep (filter : ω → Option String) (now : Time) : Step (Pool ω η) (PoolEvent ω)
  /-- A call from outside the pool. -/
  | client {p : Pool ω η} {c : Call} {q' : InMemoryTaskQueue η} :
      ClientOp c.op → Calls now p.queue c q' →
      PoolStep filter now p ⟨none, c⟩ { p with queue := q' }
  /-- An idle worker polls the queue. -/
  | poll {p : Pool ω η} {w : ω} {task : Option TaskPayload} {q' : InMemoryTaskQueue η} :
      p.workers w = none → Calls now p.queue ⟨.dequeue (filter w), .dequeued task⟩ q' →
      PoolStep filter now p ⟨some w, ⟨.dequeue (filter w), .dequeued task⟩⟩
        { queue := q', workers := Function.update p.workers w task }
  /-- The executor returns a result. -/
  | finish {p : Pool ω η} {w : ω} {task : TaskPayload} {result : TaskResult} {ok : Bool}
      {q' : InMemoryTaskQueue η} :
      p.workers w = some task → Calls now p.queue ⟨.complete task.taskId result, .done ok⟩ q' →
      PoolStep filter now p ⟨some w, ⟨.complete task.taskId result, .done ok⟩⟩
        { queue := q', workers := Function.update p.workers w none }
  /-- The executor raises an exception.  If `fail` raises one too, the worker logs it and goes
  on all the same. -/
  | crash {p : Pool ω η} {w : ω} {task : TaskPayload} {message : String} {reply : QueueReply}
      {q' : InMemoryTaskQueue η} :
      p.workers w = some task →
      Calls now p.queue ⟨.fail task.taskId "EXECUTION_ERROR" message true, reply⟩ q' →
      PoolStep filter now p ⟨some w, ⟨.fail task.taskId "EXECUTION_ERROR" message true, reply⟩⟩
        { queue := q', workers := Function.update p.workers w none }

/-- A run of the pool under a clock that never goes back. -/
abbrev PoolRun (filter : ω → Option String) :
    Time × Pool ω η → List (Time × PoolEvent ω) → Time × Pool ω η → Prop :=
  Run (Step.Timed (PoolStep filter))

def idlePool (q : InMemoryTaskQueue η) : Pool ω η := ⟨q, fun _ ↦ none⟩

theorem PoolStep.calls (h : PoolStep filter now p e p') : Calls now p.queue e.call p'.queue := by
  cases h <;> assumption

theorem PoolStep.move (h : PoolStep filter now p e p') (hp : p.queue.Ok) (id : UUID) :
    TaskMove p.queue now e.call id (p.queue.view id) (p'.queue.view id) := exec_move hp h.calls id

/-! ## Custody -/

/-- A pending task has at most one item and a task being processed has none. -/
structure Counted (v : TaskView) : Prop where
  pending : v.status = some .pending → Multiset.card v.items ≤ 1
  processing : v.status = some .processing → v.items = 0

/-- What the queue and the workers know about each other. -/
structure Custody (p : Pool ω η) : Prop where
  ok : p.queue.Ok
  counted : ∀ id, Counted (p.queue.view id)
  held : ∀ w task, p.workers w = some task → p.queue.status.get? task.taskId = some .processing
  unique : ∀ w w' task task', p.workers w = some task → p.workers w' = some task' →
    task.taskId = task'.taskId → w = w'

/-- A move keeps the count of items, if only tasks being processed are acknowledged. -/
theorem TaskMove.counted {v v' : TaskView} (h : TaskMove q now c id v v') (hok : ViewOk id v)
    (hv : Counted v) (hack : c.op.acknowledges = some id → v.status = some .processing) :
    Counted v' := by
  cases h with
  | keep _ _ hle =>
      refine ⟨fun hp ↦ ?_, fun hp ↦ ?_⟩
      · exact le_trans (Multiset.card_le_card hle) (hv.pending hp)
      · exact Multiset.le_zero.mp (hv.processing hp ▸ hle)
  | accept _ _ _ hnone =>
      refine ⟨fun _ ↦ ?_, fun hp ↦ by cases hp⟩
      have hitems : v.items = 0 := by
        refine Multiset.eq_zero_of_forall_notMem fun item hi ↦ ?_
        obtain ⟨task, ht, _⟩ := hok.items_ok item hi
        rw [hnone] at ht
        cases ht
      rw [hitems]
      rfl
  | @claim _ _ _ items _ _ _ hp _ _ hle =>
      refine ⟨(fun hp' ↦ by cases hp'), fun _ ↦ ?_⟩
      have hcard := le_trans (Multiset.card_le_card hle) (hv.pending hp)
      rw [Multiset.card_cons] at hcard
      have hzero : Multiset.card items = 0 := by omega
      exact Multiset.card_eq_zero.mp hzero
  | retry hop _ _ _ =>
      refine ⟨fun _ ↦ ?_, fun hp ↦ by cases hp⟩
      rw [hv.processing (hack (by rw [hop]; rfl))]
      rfl
  | overflow hop _ _ _ _ _ =>
      have hzero : v.items = 0 := hv.processing (hack (by rw [hop]; rfl))
      refine ⟨fun _ ↦ ?_, fun _ ↦ hzero⟩
      show Multiset.card v.items ≤ 1
      rw [hzero]
      exact Nat.zero_le 1
  | _ => exact ⟨(fun hp ↦ by cases hp), (fun hp ↦ by cases hp)⟩

/-- A task being processed stays so until it is acknowledged. -/
theorem TaskMove.processing {v' : TaskView} (h : TaskMove q now c id (q.view id) v')
    (hok : ViewOk id (q.view id)) (hv : Counted (q.view id))
    (hp : q.status.get? id = some .processing) (hack : c.op.acknowledges ≠ some id) :
    v'.status = some .processing ∧ c.handedOut ≠ some id := by
  have hne : q.status.get? id ≠ some .pending := by rw [hp]; decide
  cases h with
  | keep hout _ _ => exact ⟨hp, hout⟩
  | accept _ _ _ hnone =>
      have hsome := hok.task_isSome (by rw [view, hp]; rfl)
      rw [hnone] at hsome
      cases hsome
  | claim _ _ _ hpending _ _ _ => exact absurd hpending hne
  | @lapse task tenantId item items _ _ _ _ hmem _ hid _ =>
      have hin : item ∈ itemsOf q.heap id :=
        Multiset.mem_filter.mpr ⟨mem_items_of_mem_scanned hmem, hid⟩
      have hzero : itemsOf q.heap id = 0 := hv.processing hp
      rw [hzero] at hin
      exact absurd hin (Multiset.notMem_zero item)
  | clear _ _ hpending _ => exact absurd hpending hne
  | complete hop _ _ => exact absurd (by rw [hop]; rfl) hack
  | retry hop _ _ _ => exact absurd (by rw [hop]; rfl) hack
  | overflow hop _ _ _ _ _ => exact absurd (by rw [hop]; rfl) hack
  | fail hop _ _ _ => exact absurd (by rw [hop]; rfl) hack
  | cancel _ _ hpending _ => exact absurd hpending hne

/-- A task that is handed out was pending, is being processed, and had a visible item. -/
theorem TaskMove.handedOut {v v' : TaskView} (h : TaskMove q now c id v v')
    (hout : c.handedOut = some id) :
    v.status = some .pending ∧ v'.status = some .processing ∧
      ∃ item ∈ v.items, item.visibleAt ≤ now := by
  cases h with
  | keep hne => exact absurd hout hne
  | accept _ hreply =>
      rw [Call.handedOut, hreply] at hout
      cases hout
  | claim _ _ _ hp _ hvis hle =>
      exact ⟨hp, rfl, _, Multiset.mem_of_le hle (Multiset.mem_cons_self _ _), hvis⟩
  | lapse _ hne => exact absurd hout hne
  | clear _ _ _ hne => exact absurd hout hne
  | complete _ _ hne => exact absurd hout hne
  | retry _ _ _ hne => exact absurd hout hne
  | overflow _ _ _ hne _ _ => exact absurd hout hne
  | fail _ _ _ hne => exact absurd hout hne
  | cancel _ _ _ hne => exact absurd hout hne

/-- Only the holder of a task acknowledges it. -/
theorem PoolStep.acknowledges (h : PoolStep filter now p e p')
    (hack : e.call.op.acknowledges = some id) :
    ∃ w task, e.worker = some w ∧ p.workers w = some task ∧ task.taskId = id ∧
      p'.workers = Function.update p.workers w none := by
  cases h with
  | @client p c q' hclient _ =>
      obtain ⟨op, reply⟩ := c
      cases op with
      | complete _ _ => exact hclient.elim
      | fail _ _ _ _ => exact hclient.elim
      | _ => cases hack
  | poll _ _ => cases hack
  | finish hw _ =>
      cases hack
      exact ⟨_, _, rfl, hw, rfl, rfl⟩
  | crash hw _ =>
      cases hack
      exact ⟨_, _, rfl, hw, rfl, rfl⟩

/-- After a step a worker holds what it held before or what it was just handed. -/
theorem PoolStep.holds (h : PoolStep filter now p e p') {w : ω} {task : TaskPayload}
    (hw : p'.workers w = some task) :
    p.workers w = some task ∧ (e.worker = some w → e.call.op.acknowledges = none) ∨
      e.worker = some w ∧ e.call.handedOut = some task.taskId := by
  cases h with
  | client _ _ => exact .inl ⟨hw, fun h ↦ by cases h⟩
  | @poll p w' got q' hidle _ =>
      change Function.update p.workers w' got w = some task at hw
      by_cases heq : w = w'
      · subst heq
        rw [Function.update_self] at hw
        right
        exact ⟨rfl, by rw [hw]; rfl⟩
      · rw [Function.update_of_ne heq] at hw
        exact .inl ⟨hw, fun _ ↦ rfl⟩
  | @finish p w' task' result ok q' _ _ =>
      change Function.update p.workers w' none w = some task at hw
      by_cases heq : w = w'
      · subst heq
        rw [Function.update_self] at hw
        cases hw
      · rw [Function.update_of_ne heq] at hw
        exact .inl ⟨hw, fun he ↦ absurd (Option.some.inj he).symm heq⟩
  | @crash p w' task' message reply q' _ _ =>
      change Function.update p.workers w' none w = some task at hw
      by_cases heq : w = w'
      · subst heq
        rw [Function.update_self] at hw
        cases hw
      · rw [Function.update_of_ne heq] at hw
        exact .inl ⟨hw, fun he ↦ absurd (Option.some.inj he).symm heq⟩

/-- A step leaves the tasks that other workers hold in processing. -/
theorem PoolStep.keeps_held (h : PoolStep filter now p e p') (hp : Custody p) {w : ω}
    {task : TaskPayload} (hw : p.workers w = some task)
    (hself : e.worker = some w → e.call.op.acknowledges = none) :
    p'.queue.status.get? task.taskId = some .processing ∧
      e.call.handedOut ≠ some task.taskId := by
  refine (h.move hp.ok task.taskId).processing (hp.ok _) (hp.counted _) (hp.held w task hw) ?_
  intro hack
  obtain ⟨w', task', hworker, hw', hid, _⟩ := h.acknowledges hack
  obtain rfl := hp.unique w' w task' task hw' hw hid
  rw [hself hworker] at hack
  cases hack

/-- Every step of the pool keeps custody. -/
theorem Custody.step (hp : Custody p) (h : PoolStep filter now p e p') : Custody p' := by
  have hheld : ∀ w task, p'.workers w = some task →
      p'.queue.status.get? task.taskId = some .processing := by
    intro w task hw
    rcases h.holds hw with ⟨hbefore, hself⟩ | ⟨_, hout⟩
    · exact (h.keeps_held hp hbefore hself).1
    · exact ((h.move hp.ok task.taskId).handedOut hout).2.1
  refine ⟨exec_ok hp.ok h.calls, fun id ↦ ?_, hheld, ?_⟩
  · refine (h.move hp.ok id).counted (hp.ok id) (hp.counted id) fun hack ↦ ?_
    obtain ⟨w, task, _, hw, rfl, _⟩ := h.acknowledges hack
    exact hp.held w task hw
  · intro w w' task task' hw hw' hid
    rcases h.holds hw with ⟨hbefore, hself⟩ | ⟨hworker, hout⟩
    · rcases h.holds hw' with ⟨hbefore', _⟩ | ⟨_, hout'⟩
      · exact hp.unique w w' task task' hbefore hbefore' hid
      · exact absurd (hid ▸ hout') (h.keeps_held hp hbefore hself).2
    · rcases h.holds hw' with ⟨hbefore', hself'⟩ | ⟨hworker', _⟩
      · exact absurd (hid ▸ hout) (h.keeps_held hp hbefore' hself').2
      · exact Option.some.inj (hworker.symm.trans hworker')

omit [DecidableEq ω] in
/-- An idle pool over a queue without pending and processed tasks has custody. -/
theorem Custody.idle (maxSize : Int) (retryBaseDelay retryMaxDelay : ℚ) :
    Custody (idlePool (new maxSize retryBaseDelay retryMaxDelay) : Pool ω η) where
  ok := new_ok _ _ _
  counted id := ⟨(fun h ↦ by cases h), (fun h ↦ by cases h)⟩
  held w task h := by cases h
  unique w w' task task' h := by cases h

theorem PoolRun.custody {s s' : Time × Pool ω η} {es : List (Time × PoolEvent ω)}
    (h : PoolRun filter s es s') (hs : Custody s.2) : Custody s'.2 :=
  Run.invariant (P := fun s ↦ Custody s.2) (fun _ _ _ hp hstep ↦ hp.step hstep.2.2) h hs

/-! ## The number of executions -/

def retriesLeft (task : TaskPayload) : Int := max 0 (task.maxRetries - task.retryCount)

/-- The number of executions a task can still start. -/
def budget (v : TaskView) : Int :=
  match v.task with
  | none => 0
  | some task =>
      if v.status = some .pending then retriesLeft task + 1
      else if v.status = some .processing then retriesLeft task
      else 0

theorem budget_pending {v : TaskView} {task : TaskPayload} (ht : v.task = some task)
    (hs : v.status = some .pending) : budget v = retriesLeft task + 1 := by
  rw [budget, ht, hs]
  rfl

theorem budget_processing {v : TaskView} {task : TaskPayload} (ht : v.task = some task)
    (hs : v.status = some .processing) : budget v = retriesLeft task := by
  rw [budget, ht, hs]
  rfl

theorem retriesLeft_nonneg (task : TaskPayload) : 0 ≤ retriesLeft task := le_max_left _ _

theorem budget_nonneg (v : TaskView) : 0 ≤ budget v := by
  unfold budget
  split
  · exact le_rfl
  · rename_i task _
    have := retriesLeft_nonneg task
    split
    · omega
    · split
      · exact this
      · exact le_rfl

/-- A settled task has no execution left. -/
theorem budget_settled {v : TaskView} {status : TaskStatus} (hs : v.status = some status)
    (hterm : status.isTerminal = true) : budget v = 0 := by
  unfold budget
  split
  · rfl
  · rw [hs]
    cases status <;> first | rfl | cases hterm

/-- The number of times a run hands out the task `id`. -/
def handouts (id : UUID) (es : List (Time × PoolEvent ω)) : Nat :=
  es.countP fun e ↦ e.2.call.handedOut = some id

/-- Handing out a task costs one execution, and no move of a known task adds one. -/
theorem TaskMove.budget_le {v v' : TaskView} (h : TaskMove q now c id v v') (htask : v.task.isSome)
    (hack : c.op.acknowledges = some id → v.status = some .processing) :
    v'.task.isSome ∧ budget v' ≤ budget v ∧
      (c.handedOut = some id → budget v' + 1 ≤ budget v) := by
  have hdone : ∀ {w : TaskView} {status : TaskStatus}, w.status = some status →
      status.isTerminal = true → budget w ≤ budget v := fun hs hterm ↦
    (budget_settled hs hterm).le.trans (budget_nonneg v)
  cases h with
  | keep hne => exact ⟨htask, le_rfl, fun h ↦ absurd h hne⟩
  | accept _ _ _ hnone =>
      rw [hnone] at htask
      cases htask
  | @claim task _ _ items _ _ ht hp =>
      have hafter : budget { v with status := some .processing, items := items } = retriesLeft task :=
        budget_processing ht rfl
      rw [hafter, budget_pending ht hp]
      exact ⟨htask, by omega, fun _ ↦ le_rfl⟩
  | lapse _ hne => exact ⟨htask, hdone rfl rfl, fun h ↦ absurd h hne⟩
  | clear _ _ _ hne => exact ⟨htask, hdone rfl rfl, fun h ↦ absurd h hne⟩
  | complete _ _ hne => exact ⟨htask, hdone rfl rfl, fun h ↦ absurd h hne⟩
  | @retry task _ _ hop ht hcan hne =>
      refine ⟨rfl, ?_, fun h ↦ absurd h hne⟩
      have hprocessing : v.status = some .processing := hack (by rw [hop]; rfl)
      have hlt : task.retryCount < task.maxRetries := of_decide_eq_true hcan
      rw [budget_pending rfl rfl, budget_processing ht hprocessing]
      unfold retriesLeft
      dsimp only
      omega
  | @overflow task _ _ status hop ht hcan hne _ hstatus =>
      refine ⟨rfl, ?_, fun h ↦ absurd h hne⟩
      have hprocessing : v.status = some .processing := hack (by rw [hop]; rfl)
      have hlt : task.retryCount < task.maxRetries := of_decide_eq_true hcan
      rw [budget_processing ht hprocessing]
      rcases hstatus with rfl | rfl
      · have hafter : budget { v with task := some { task with retryCount := task.retryCount + 1 } }
            = retriesLeft { task with retryCount := task.retryCount + 1 } :=
          budget_processing rfl hprocessing
        refine hafter.le.trans ?_
        unfold retriesLeft
        dsimp only
        omega
      · rw [budget_pending rfl rfl]
        unfold retriesLeft
        dsimp only
        omega
  | fail _ _ _ hne => exact ⟨htask, hdone rfl rfl, fun h ↦ absurd h hne⟩
  | cancel _ _ _ hne => exact ⟨htask, hdone rfl rfl, fun h ↦ absurd h hne⟩

/-- A known task is handed out at most as often as its budget says. -/
theorem PoolRun.handouts_le {s s' : Time × Pool ω η} {es : List (Time × PoolEvent ω)}
    (h : PoolRun filter s es s') (hs : Custody s.2)
    (htask : (s.2.queue.tasks.get? id).isSome) :
    (handouts id es : Int) ≤ budget (s.2.queue.view id) := by
  induction h with
  | nil s => exact budget_nonneg _
  | @cons s s₁ s' e es hstep _ ih =>
      obtain ⟨_, _, hstep⟩ := hstep
      obtain ⟨htask₁, hle, hout⟩ := (hstep.move hs.ok id).budget_le htask fun hack ↦ by
        obtain ⟨w, task, _, hw, rfl, _⟩ := hstep.acknowledges hack
        exact hs.held w task hw
      have hrest := ih (hs.step hstep) htask₁
      rw [handouts, List.countP_cons]
      split
      · rename_i hhere
        have := hout (of_decide_eq_true hhere)
        rw [handouts] at hrest
        push_cast
        omega
      · rw [handouts] at hrest
        omega

/-- A task stays known. -/
theorem PoolRun.task_isSome {s s' : Time × Pool ω η} {es : List (Time × PoolEvent ω)}
    (h : PoolRun filter s es s') (hs : Custody s.2)
    (htask : (s.2.queue.tasks.get? id).isSome) : (s'.2.queue.tasks.get? id).isSome := by
  induction h with
  | nil s => exact htask
  | cons hstep _ ih =>
      obtain ⟨_, _, hstep⟩ := hstep
      refine ih (hs.step hstep) ((hstep.move hs.ok id).budget_le htask fun hack ↦ ?_).1
      obtain ⟨w, task, _, hw, rfl, _⟩ := hstep.acknowledges hack
      exact hs.held w task hw

/-- A task that is unknown at the end of a run was not handed out in it. -/
theorem PoolRun.handouts_eq_zero {s s' : Time × Pool ω η} {es : List (Time × PoolEvent ω)}
    (h : PoolRun filter s es s') (hs : Custody s.2) (hnone : s'.2.queue.tasks.get? id = none) :
    handouts id es = 0 := by
  induction h with
  | nil s => rfl
  | @cons s s₁ s' e es hstep hrun ih =>
      have hcons : PoolRun filter s (e :: es) s' := .cons hstep hrun
      obtain ⟨_, _, hstep⟩ := hstep
      have hhere : e.2.call.handedOut ≠ some id := by
        intro hout
        obtain ⟨hp, _⟩ := (hstep.move hs.ok id).handedOut hout
        have hknown := hcons.task_isSome hs ((hs.ok id).task_isSome (by rw [hp]; rfl))
        rw [hnone] at hknown
        cases hknown
      rw [handouts, List.countP_cons, if_neg (by simpa using hhere)]
      exact ih (hs.step hstep) hnone

/-- What an accepted task looks like. -/
theorem Calls.accepted {q' : InMemoryTaskQueue η} {task : TaskPayload} {delaySeconds : ℚ}
    (h : Calls now q ⟨.enqueue task delaySeconds, .accepted task⟩ q') :
    q.tasks.get? task.taskId = none ∧ q'.tasks.get? task.taskId = some task ∧
      q'.status.get? task.taskId = some .pending := by
  obtain ⟨hdistinct, hexec⟩ := h
  refine ⟨hdistinct, ?_⟩
  rw [exec] at hexec
  cases hres : q.enqueue now task delaySeconds with
  | error error =>
      rw [hres] at hexec
      cases hexec
  | ok q'' =>
      rw [hres] at hexec
      obtain ⟨_, _, rfl⟩ := enqueue_ok hres
      obtain ⟨-, rfl⟩ := Prod.mk.inj hexec
      exact ⟨Dict.get?_insert_self _ _ _, Dict.get?_insert_self _ _ _⟩

/-- A task that is enqueued in a run is handed out in it at most once more than
it has retries left. -/
theorem PoolRun.handouts_enqueued {s s' : Time × Pool ω η} {es : List (Time × PoolEvent ω)}
    (h : PoolRun filter s es s') (hs : Custody s.2) {e : Time × PoolEvent ω} {task : TaskPayload}
    {delaySeconds : ℚ} (he : e ∈ es) (hcall : e.2.call = ⟨.enqueue task delaySeconds, .accepted task⟩) :
    (handouts task.taskId es : Int) ≤ max 0 (task.maxRetries - task.retryCount) + 1 := by
  obtain ⟨xs, ys, rfl⟩ := List.append_of_mem he
  obtain ⟨s₁, hxs, hrest⟩ := Run.exists_of_append h
  cases hrest with
  | @cons _ s₂ _ _ _ hstep hys =>
      obtain ⟨_, _, hstep⟩ := hstep
      have hs₁ := PoolRun.custody hxs hs
      have hcalls := hstep.calls
      rw [hcall] at hcalls
      obtain ⟨hnone, htask, hpending⟩ := hcalls.accepted
      have hbefore := PoolRun.handouts_eq_zero hxs hs hnone
      have hafter := PoolRun.handouts_le hys (hs₁.step hstep) (by rw [htask]; rfl)
      have hbudget : budget (s₂.2.queue.view task.taskId) = retriesLeft task + 1 :=
        budget_pending htask hpending
      have hhere : e.2.call.handedOut ≠ some task.taskId := by
        rw [hcall]
        simp [Call.handedOut]
      rw [handouts] at hbefore hafter ⊢
      rw [List.countP_append, List.countP_cons, if_neg (by simpa using hhere), hbefore]
      rw [hbudget, retriesLeft] at hafter
      push_cast
      omega

/-! ## The retry delay -/

/-- The task is known, and either the time `t` has come, or no worker holds the task and none of
its items is visible before `t`. -/
def HeldBack (id : UUID) (t : Time) (s : Time × Pool ω η) : Prop :=
  (s.2.queue.tasks.get? id).isSome ∧
    (t ≤ s.1 ∨ (∀ w task, s.2.workers w = some task → task.taskId ≠ id) ∧
      ∀ item ∈ itemsOf s.2.queue.heap id, t ≤ item.visibleAt)

/-- A task that is known stays known. -/
theorem TaskMove.known {v v' : TaskView} (h : TaskMove q now c id v v') (htask : v.task.isSome) :
    v'.task.isSome := by
  cases h with
  | accept | retry | overflow => rfl
  | keep | claim | lapse | clear | complete | fail | cancel => exact htask

/-- A move of a known task that no report puts back adds no item. -/
theorem TaskMove.items_le {v v' : TaskView} (h : TaskMove q now c id v v')
    (htask : v.task.isSome) (hback : c.op.acknowledges = some id → c.reply ≠ .done true) :
    v'.items ≤ v.items := by
  cases h with
  | keep _ _ hle => exact hle
  | accept _ _ _ hnone =>
      rw [hnone] at htask
      cases htask
  | claim _ _ _ _ _ _ hle => exact (Multiset.le_cons_self _ _).trans hle
  | lapse _ _ _ _ _ _ _ hle => exact hle
  | retry hop _ _ _ hreply => exact absurd hreply (hback (by rw [hop]; rfl))
  | clear | complete | overflow | fail | cancel => exact le_rfl

/-- A task that is held back stays so, and is not handed out before its time. -/
theorem HeldBack.step {s s' : Time × Pool ω η} {e : Time × PoolEvent ω} {t : Time}
    (hs : HeldBack id t s) (hcustody : Custody s.2)
    (h : Step.Timed (PoolStep filter) s e s') :
    HeldBack id t s' ∧ (e.2.call.handedOut = some id → t ≤ e.1) := by
  obtain ⟨hclock, hnow, hstep⟩ := h
  obtain ⟨htask, hheld⟩ := hs
  have hmove := hstep.move hcustody.ok id
  have hack : e.2.call.op.acknowledges = some id →
      (s.2.queue.view id).status = some .processing := by
    intro hack
    obtain ⟨w, task, _, hw, rfl, _⟩ := hstep.acknowledges hack
    exact hcustody.held w task hw
  have htask' := (hmove.budget_le htask hack).1
  rcases hheld with hle | ⟨hdropped, hitems⟩
  · have hle' : t ≤ e.1 := le_trans hle hclock
    exact ⟨⟨htask', .inl (hnow ▸ hle')⟩, fun _ ↦ hle'⟩
  · have hout : e.2.call.handedOut = some id → t ≤ e.1 := by
      intro hout
      obtain ⟨_, _, item, hi, hvis⟩ := hmove.handedOut hout
      exact le_trans (hitems item hi) hvis
    refine ⟨⟨htask', ?_⟩, hout⟩
    by_cases hhanded : e.2.call.handedOut = some id
    · exact .inl (hnow ▸ hout hhanded)
    · have hacked : e.2.call.op.acknowledges ≠ some id := by
        intro hacked
        obtain ⟨w, task, _, hw, hid, _⟩ := hstep.acknowledges hacked
        exact hdropped w task hw hid
      refine .inr ⟨fun w task hw hid ↦ ?_, fun item hi ↦ ?_⟩
      · rcases hstep.holds hw with ⟨hbefore, -⟩ | ⟨-, hgot⟩
        · exact hdropped w task hbefore hid
        · exact hhanded (hid ▸ hgot)
      · exact hitems item (Multiset.mem_of_le (hmove.items_le htask (absurd · hacked)) hi)

/-- A report of a failure holds the task back for the retry delay. -/
theorem PoolStep.heldBack {s s' : Time × Pool ω η} {e : Time × PoolEvent ω}
    {errorCode errorMessage : String} {retry : Bool} {task : TaskPayload}
    (h : Step.Timed (PoolStep filter) s e s') (hs : Custody s.2)
    (hop : e.2.call.op = .fail id errorCode errorMessage retry)
    (htask : s'.2.queue.tasks.get? id = some task) :
    HeldBack id (e.1 + Time.timedelta (s.2.queue.retryDelay task.retryCount)) s' := by
  obtain ⟨_, hnow, hstep⟩ := h
  have hack : e.2.call.op.acknowledges = some id := by rw [hop]; rfl
  obtain ⟨w, held, _, hw, hid, hworkers⟩ := hstep.acknowledges hack
  have hprocessing : s.2.queue.status.get? id = some .processing := hid ▸ hs.held w held hw
  have hdropped : ∀ w' task, s'.2.workers w' = some task → task.taskId ≠ id := by
    intro w' task' hw' hid'
    rw [hworkers] at hw'
    rcases eq_or_ne w' w with rfl | hne
    · rw [Function.update_self] at hw'
      cases hw'
    · rw [Function.update_of_ne hne] at hw'
      exact hne (hs.unique w' w task' held hw' hw (hid'.trans hid.symm))
  have hzero : (s.2.queue.view id).items = 0 := (hs.counted id).processing hprocessing
  have hknown := (hs.ok id).task_isSome (by rw [view, hprocessing]; rfl)
  refine ⟨by rw [htask]; rfl, .inr ⟨hdropped, ?_⟩⟩
  have hmove := hstep.move hs.ok id
  have hview : (s'.2.queue.view id).task = some task := htask
  change ∀ item ∈ (s'.2.queue.view id).items, _
  generalize s'.2.queue.view id = v' at hmove hview ⊢
  cases hmove with
  | keep _ hnone _ =>
      rw [hnone hack] at hknown
      cases hknown
  | accept hop' => exact absurd (hop.symm.trans hop') (by simp)
  | claim hop' => exact absurd (hop.symm.trans hop') (by simp)
  | lapse hop' => exact absurd (hop.symm.trans hop') (by simp)
  | clear hop' => exact absurd (hop.symm.trans hop') (by simp)
  | complete hop' => exact absurd (hop.symm.trans hop') (by simp)
  | retry _ _ _ _ =>
      intro item hi
      dsimp only at hi hview
      rw [hzero] at hi
      obtain rfl := Option.some.inj hview
      obtain rfl := Multiset.mem_singleton.mp hi
      exact le_rfl
  | overflow _ _ _ _ _ _ | fail _ _ _ _ =>
      intro item hi
      dsimp only at hi
      rw [hzero] at hi
      exact absurd hi (Multiset.notMem_zero item)
  | cancel hop' => exact absurd (hop.symm.trans hop') (by simp)

theorem PoolRun.heldBack {s s' : Time × Pool ω η} {es : List (Time × PoolEvent ω)} {t : Time}
    (h : PoolRun filter s es s') (hs : HeldBack id t s) (hcustody : Custody s.2) :
    HeldBack id t s' :=
  (Run.invariant (P := fun s ↦ HeldBack id t s ∧ Custody s.2)
    (fun _ _ _ hp hstep ↦ ⟨(hp.1.step hp.2 hstep).1, hp.2.step hstep.2.2⟩) h ⟨hs, hcustody⟩).1

theorem PoolRun.settings_eq {s s' : Time × Pool ω η} {es : List (Time × PoolEvent ω)}
    (h : PoolRun filter s es s') : s'.2.queue.settings = s.2.queue.settings := by
  refine Run.invariant (P := fun s₁ ↦ s₁.2.queue.settings = s.2.queue.settings) ?_ h rfl
  rintro s₁ e s₂ hset ⟨_, _, hstep⟩
  have hexec := settings_exec s₁.2.queue e.1 e.2.call.op
  rw [hstep.calls.2] at hexec
  exact hexec.trans hset

/-! ## What a pool guarantees -/

/-- In every run of a pool of workers on a new queue: no two workers hold the
same task; an enqueued task is handed out at most `max(0, m - r) + 1` times,
where `r` and `m` are the retry count it starts with and its maximum; and after
a failure reported at time `f` that leaves the retry count `k`, the task is not
handed out before `f` plus the delay `min(base * 2 ^ k, max)`. -/
theorem pool_safe (filter : ω → Option String) (maxSize : Int) (retryBaseDelay retryMaxDelay : ℚ)
    (start : Time) :
    let s₀ : Time × Pool ω η := (start, idlePool (new maxSize retryBaseDelay retryMaxDelay))
    (∀ es s, PoolRun filter s₀ es s →
      ∀ w w' task task', s.2.workers w = some task → s.2.workers w' = some task' →
        task.taskId = task'.taskId → w = w') ∧
    (∀ es s, PoolRun filter s₀ es s →
      ∀ e ∈ es, ∀ task delaySeconds, e.2.call = ⟨.enqueue task delaySeconds, .accepted task⟩ →
        (handouts task.taskId es : Int) ≤ max 0 (task.maxRetries - task.retryCount) + 1) ∧
    ∀ xs ys f t e e' s₁ s₂ s₃ s₄, PoolRun filter s₀ xs s₁ →
      Step.Timed (PoolStep filter) s₁ (f, e) s₂ → PoolRun filter s₂ ys s₃ →
      Step.Timed (PoolStep filter) s₃ (t, e') s₄ →
      ∀ id errorCode errorMessage retry task, e.call.op = .fail id errorCode errorMessage retry →
        s₂.2.queue.tasks.get? id = some task → e'.call.handedOut = some id →
        f + Time.timedelta (min (retryBaseDelay * 2 ^ task.retryCount) retryMaxDelay) ≤ t := by
  intro s₀
  have hs₀ : Custody s₀.2 := Custody.idle _ _ _
  refine ⟨?_, ?_, ?_⟩
  · intro es s h
    exact (h.custody hs₀).unique
  · intro es s h e he task delaySeconds hcall
    exact h.handouts_enqueued hs₀ he hcall
  · intro xs ys f t e e' s₁ s₂ s₃ s₄ hxs hf hys ht id errorCode errorMessage retry task hop htask hout
    have hs₁ := hxs.custody hs₀
    have hs₂ := hs₁.step hf.2.2
    have hdelay : s₁.2.queue.retryDelay task.retryCount
        = min (retryBaseDelay * 2 ^ task.retryCount) retryMaxDelay := by
      have hset := hxs.settings_eq
      have hbase : s₁.2.queue.retryBaseDelay = retryBaseDelay := congrArg (·.2.1) hset
      have hmax : s₁.2.queue.retryMaxDelay = retryMaxDelay := congrArg (·.2.2) hset
      rw [retryDelay, hbase, hmax]
    have hheld := PoolStep.heldBack hf hs₁ hop htask
    rw [hdelay] at hheld
    exact ((hys.heldBack hheld hs₂).step (hys.custody hs₂) ht).2 hout

section Witness

/-- Two workers without a tenant filter. -/
def noFilter : Bool → Option String := fun _ ↦ none

/-- The task after its first failure. -/
def retriedTask : TaskPayload := { sampleTask with retryCount := 1 }

/-- The queue after a task is enqueued, claimed, failed and claimed again. -/
def retryScript : List (Time × QueueOp) :=
  [(0, .enqueue sampleTask 0), (0, .dequeue none), (1, .fail ⟨1⟩ "EXECUTION_ERROR" "boom" true),
    (3000000, .dequeue none)]

/-- The pool after the first `n` calls of `retryScript`. -/
def poolAfter (n : Nat) (workers : Bool → Option TaskPayload) :
    Time × Pool Bool (SortedList PriorityItem.key) :=
  ((playState (0, sampleQueue) (retryScript.take n)).1,
    ⟨(playState (0, sampleQueue) (retryScript.take n)).2, workers⟩)

/-- The first worker executes the task. -/
def busy : Bool → Option TaskPayload := Function.update (fun _ ↦ none) false (some sampleTask)

/-- What a poll three seconds after the failure returns. -/
def again : Option TaskPayload :=
  ((poolAfter 3 (Function.update busy false none)).2.queue.dequeue 3000000 none).1

theorem pool_safe_sample :
    ∃ s₃, PoolRun noFilter (0, idlePool sampleQueue)
      [(0, ⟨none, ⟨.enqueue sampleTask 0, .accepted sampleTask⟩⟩),
        (0, ⟨some false, ⟨.dequeue none, .dequeued (some sampleTask)⟩⟩),
        (1, ⟨some false, ⟨.fail ⟨1⟩ "EXECUTION_ERROR" "boom" true, .done true⟩⟩)] s₃ ∧
      s₃.2.queue.tasks.get? ⟨1⟩ = some retriedTask ∧
      (1 : Time) + Time.timedelta (min (1 * 2 ^ retriedTask.retryCount) 60) ≤ 3000000 := by
  have hfirst : Step.Timed (PoolStep noFilter) (0, idlePool sampleQueue)
      (0, ⟨none, ⟨.enqueue sampleTask 0, .accepted sampleTask⟩⟩) (poolAfter 1 fun _ ↦ none) :=
    ⟨le_rfl, rfl, .client trivial ⟨rfl, rfl⟩⟩
  have hpoll : Step.Timed (PoolStep noFilter) (poolAfter 1 fun _ ↦ none)
      (0, ⟨some false, ⟨.dequeue none, .dequeued (some sampleTask)⟩⟩) (poolAfter 2 busy) :=
    ⟨le_rfl, rfl, .poll rfl ⟨trivial, rfl⟩⟩
  have hcrash : Step.Timed (PoolStep noFilter) (poolAfter 2 busy)
      (1, ⟨some false, ⟨.fail ⟨1⟩ "EXECUTION_ERROR" "boom" true, .done true⟩⟩)
      (poolAfter 3 (Function.update busy false none)) := by
    have hcalls : Calls 1 (poolAfter 2 busy).2.queue
        ⟨.fail sampleTask.taskId "EXECUTION_ERROR" "boom" true, .done true⟩
        (poolAfter 3 (Function.update busy false none)).2.queue :=
      ⟨trivial, by with_unfolding_all rfl⟩
    have hheld : (poolAfter 2 busy).2.workers false = some sampleTask := rfl
    exact ⟨by decide, rfl, .crash hheld hcalls⟩
  have hagain : Step.Timed (PoolStep noFilter) (poolAfter 3 (Function.update busy false none))
      (3000000, ⟨some true, ⟨.dequeue none, .dequeued again⟩⟩)
      (poolAfter 4 (Function.update (Function.update busy false none) true again)) :=
    ⟨by decide, rfl, .poll rfl ⟨trivial, rfl⟩⟩
  have hrun := Run.cons hfirst (Run.single hpoll)
  have htask : (poolAfter 3 (Function.update busy false none)).2.queue.tasks.get? ⟨1⟩
      = some retriedTask := by with_unfolding_all rfl
  refine ⟨_, hrun.snoc hcrash, htask, ?_⟩
  exact (pool_safe noFilter 10000 1 60 0).2.2 _ [] 1 3000000 _ _ _ _ _ _ hrun hcrash (.nil _)
    hagain ⟨1⟩ "EXECUTION_ERROR" "boom" true retriedTask rfl htask (by decide +kernel)

end Witness

end InMemoryTaskQueue

end SemanticBus
