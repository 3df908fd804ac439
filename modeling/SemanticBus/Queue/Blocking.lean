import SemanticBus.Queue.Isolation

/-!
# Blocked calls of `dequeue`

A `dequeue` with a timeout that finds nothing waits on the condition `_not_empty`, first come first
served, until it is notified or its time is over.  `enqueue` and a `fail` that retries notify one
call, whatever its filter is, and nobody is notified when a delayed task becomes visible.  A call
whose time is over returns `None` without looking again.

Notes say for which task a call was notified.  `Attended` says that no call sleeps while a task is
eligible for it, unless another call that can take the task was notified and has still to look.
As long as notifications reach calls that can use them in time (`Timely`, `Aimed`), the calls are
attended, and none returns `None` while there is a task for it (`calls_attended`).
-/

universe u v

namespace SemanticBus

structure Waiter (κ : Type v) where
  caller : κ
  tenantId : Option String
  deadline : Time
deriving DecidableEq

/-- A call that was notified and has not looked yet, and the task for which it was notified. -/
structure Notified (κ : Type v) where
  waiter : Waiter κ
  task : Option UUID
deriving DecidableEq

structure BlockingQueue (κ : Type v) (η : Type u) where
  queue : InMemoryTaskQueue η
  /-- The calls that wait on `_not_empty`, the longest waiting first. -/
  waiters : List (Waiter κ) := []
  notified : List (Notified κ) := []

/-- What happens to a queue with blocked calls. -/
inductive BlockingEvent (κ : Type v) where
  /-- An operation that does not wait. -/
  | call (op : QueueOp)
  /-- A `dequeue` with a timeout, whose deadline is a date. -/
  | block (caller : κ) (tenantId : Option String) (timeout : ℚ)
  /-- A call that was notified gets the lock. -/
  | look (e : Notified κ)
  /-- The time of a sleeping call is over. -/
  | timeOut (w : Waiter κ)
  /-- The time of a call is over after it was notified and before it gets the lock. -/
  | giveUp (e : Notified κ)

namespace InMemoryTaskQueue

variable {η : Type u} [MinHeap η PriorityItem.key] {q : InMemoryTaskQueue η} {now now' : Time}

/-- The task for which an operation notifies a blocked call, and when its new item is visible. -/
def announced (q : InMemoryTaskQueue η) (now : Time) : QueueOp → Option (TaskPayload × Time)
  | .enqueue task delaySeconds =>
      match q.enqueue now task delaySeconds with
      | .error _ => none
      | .ok _ => some (task, visibleFrom now delaySeconds)
  | .fail id _ _ retry =>
      match q.tasks.get? id with
      | none => none
      | some task =>
          if (retry ∧ task.canRetry) ∧ q.Reschedules now (task.retryCount + 1) then
            some ({ task with retryCount := task.retryCount + 1 },
              q.retryAt now (task.retryCount + 1))
          else none
  | .dequeue _ | .complete _ _ | .cancel _ | .clearExpired | .shutdown => none

variable {id : UUID} {task : TaskPayload} {op : QueueOp} {tenantId : Option String}

def VisibleAfter (q : InMemoryTaskQueue η) (now : Time) (task : TaskPayload) (visibleAt : Time) :
    Prop := visibleAt ≤ now ∨ ∃ item ∈ (q.view task.taskId).items, item.visibleAt ≤ now

/-- A failure whose retry cannot be scheduled is of a task that has no items left in the heap. -/
def RetryFits (q : InMemoryTaskQueue η) (now : Time) : QueueOp → Prop
  | .fail id _ _ retry => ∀ task, q.tasks.get? id = some task →
      retry = true ∧ task.canRetry = true → ¬ q.Reschedules now (task.retryCount + 1) →
        (q.view id).items = 0
  | _ => True

/-- A task is ready after an operation because it was, or because the operation announces it. -/
def ReadyAfter (q : InMemoryTaskQueue η) (now now' : Time) (op : QueueOp) (id : UUID)
    (task : TaskPayload) : Prop :=
  (q.view id).Ready now' task ∨
    ∃ visibleAt, q.announced now op = some (task, visibleAt) ∧ task.taskId = id ∧
      q.VisibleAfter now' task visibleAt

/-- An item of a task whose items are the new one and those before. -/
theorem visibleAfter_of_cons {v : TaskView} {task' : TaskPayload} {visibleAt : Time}
    (hv : v.items = itemOf task' visibleAt ::ₘ (q.view task.taskId).items)
    (h : v.Ready now' task) : q.VisibleAfter now' task visibleAt := by
  obtain ⟨item', hmem, hvisible⟩ := h.visible
  rw [hv] at hmem
  rcases Multiset.mem_cons.mp hmem with rfl | hmem
  · exact .inl hvisible
  · exact .inr ⟨item', hmem, hvisible⟩

theorem ready_enqueue {task' : TaskPayload} {delaySeconds : ℚ}
    (h : ((q.exec now (.enqueue task' delaySeconds)).2.view id).Ready now' task) :
    q.ReadyAfter now now' (.enqueue task' delaySeconds) id task := by
  by_cases hid : id = task'.taskId
  · subst hid
    rw [ReadyAfter, announced]
    cases hres : q.enqueue now task' delaySeconds with
    | error e =>
        rw [exec, hres] at h
        exact .inl h
    | ok q' =>
        obtain ⟨hopen, hroom, -⟩ := enqueue_ok hres
        rw [view_enqueue_self hopen hroom _ (not_delayOverflows hres)] at h
        obtain rfl := Option.some.inj h.stored
        exact .inr ⟨_, rfl, rfl, visibleAfter_of_cons rfl h⟩
  · rw [view_enqueue_of_ne hid] at h
    exact .inl h

theorem ready_dequeue (hq : q.Ok) (hle : now ≤ now')
    (h : ((q.dequeue now tenantId).2.view id).Ready now' task) : (q.view id).Ready now' task := by
  cases hclosed : q.closed with
  | true =>
      rw [dequeue, if_pos hclosed] at h
      exact h
  | false =>
      obtain ⟨-, -, hkept⟩ := @dequeue_spec η _ q now tenantId hq hclosed
      have htasks := tasks_dequeue q now tenantId
      have hstored : q.tasks.get? id = some task := htasks ▸ h.stored
      obtain rfl := hq.taskId_eq hstored
      have heligible := eligible_iff_ready.mpr ⟨h, (rfl : matchesTenant none task = true)⟩
      exact (eligible_iff_ready.mp ((hkept now' none task hle).mp heligible).1).1

theorem ready_complete {id' : UUID} {result : TaskResult}
    (h : ((q.complete id' result).2.view id).Ready now' task) : (q.view id).Ready now' task := by
  by_cases hid : id = id'
  · subst hid
    rw [complete] at h
    cases ht : q.tasks.get? id with
    | none =>
        rw [ht] at h
        exact h
    | some task' =>
        rw [ht] at h
        have hstatus : (q.status.insert id TaskStatus.completed).get? id = some .pending :=
          h.pending
        cases (Dict.get?_insert_self _ _ _).symm.trans hstatus
  · rw [view_complete_of_ne hid result] at h
    exact h

theorem ready_fail (hq : q.Ok) {id' : UUID} {errorCode errorMessage : String} {retry : Bool}
    (hfits : q.RetryFits now (.fail id' errorCode errorMessage retry))
    (h : ((q.fail now id' errorCode errorMessage retry).2.view id).Ready now' task) :
    q.ReadyAfter now now' (.fail id' errorCode errorMessage retry) id task := by
  by_cases hid : id = id'
  · subst hid
    rw [ReadyAfter, announced]
    cases ht : q.tasks.get? id with
    | none =>
        rw [fail, ht] at h
        exact .inl h
    | some task' =>
        by_cases hretry : retry = true ∧ task'.canRetry = true
        · by_cases hschedules : q.Reschedules now (task'.retryCount + 1)
          · rw [view_retry_self hq ht hretry hschedules] at h
            have hid : task'.taskId = id := hq.taskId_eq ht
            obtain rfl := Option.some.inj h.stored
            have hitems : (q.view id).items = (q.view task'.taskId).items := by rw [hid]
            exact .inr ⟨_, if_pos ⟨hretry, hschedules⟩, hid,
              visibleAfter_of_cons (congrArg (itemOf _ _ ::ₘ ·) hitems) h⟩
          · rw [view_overflow_self ht hretry hschedules] at h
            obtain ⟨item, hmem, -⟩ := h.visible
            have hmem : item ∈ (q.view id).items := hmem
            rw [hfits task' ht hretry hschedules] at hmem
            exact absurd hmem (Multiset.notMem_zero item)
        · rw [view_fail_self ht hretry] at h
          cases h.pending
  · rw [view_fail_of_ne hq hid] at h
    exact .inl h

/-- The view of a task that an operation does not announce becomes no readier. -/
theorem ready_exec (hq : q.Ok) (hle : now ≤ now') (hfits : q.RetryFits now op)
    (h : ((q.exec now op).2.view id).Ready now' task) : q.ReadyAfter now now' op id task := by
  cases op with
  | enqueue task' delaySeconds => exact ready_enqueue h
  | dequeue tenantId => exact .inl (ready_dequeue hq hle h)
  | complete id' result => exact .inl (ready_complete h)
  | fail id' errorCode errorMessage retry => exact ready_fail hq hfits h
  | cancel id' =>
      by_cases hid : id = id'
      · subst hid
        exact absurd h.pending (cancel_self hq now id).2.1
      · have hview : (q.exec now (.cancel id')).2.view id = q.view id := view_cancel_of_ne hid
        rw [hview] at h
        exact .inl h
  | clearExpired =>
      have h : ((q.clearExpired now).2.view id).Ready now' task := h
      exact .inl (((clearExpired_future q now id).ready now' task hle).mp h)
  | shutdown => exact .inl h

/-- The tasks that are eligible after an operation were eligible or are announced. -/
theorem eligible_exec (hq : q.Ok) (hle : now ≤ now') (hfits : q.RetryFits now op)
    (h : (q.exec now op).2.Eligible now' tenantId task) :
    q.Eligible now' tenantId task ∨
      ∃ visibleAt, q.announced now op = some (task, visibleAt) ∧
        q.VisibleAfter now' task visibleAt := by
  obtain ⟨hready, hmatches⟩ := eligible_iff_ready.mp h
  rcases ready_exec hq hle hfits hready with hready | ⟨visibleAt, hannounced, -, hvisible⟩
  · exact .inl (eligible_iff_ready.mpr ⟨hready, hmatches⟩)
  · exact .inr ⟨visibleAt, hannounced, hvisible⟩

end InMemoryTaskQueue

namespace BlockingQueue

open InMemoryTaskQueue

variable {κ : Type v} [DecidableEq κ] {η : Type u} [MinHeap η PriorityItem.key]

/-- `_not_empty.notify()`. -/
def notify (b : BlockingQueue κ η) (task : TaskPayload) : BlockingQueue κ η :=
  match b.waiters with
  | [] => b
  | w :: ws => { b with waiters := ws, notified := b.notified ++ [⟨w, some task.taskId⟩] }

/-- `_not_empty.notify_all()`. -/
def notifyAll (b : BlockingQueue κ η) : BlockingQueue κ η :=
  { b with waiters := [], notified := b.notified ++ b.waiters.map (⟨·, none⟩) }

/-- An operation that does not wait, and its notifications. -/
def exec (b : BlockingQueue κ η) (now : Time) (op : QueueOp) : BlockingQueue κ η :=
  let b' := { b with queue := (b.queue.exec now op).2 }
  match op with
  | .shutdown => b'.notifyAll
  | _ => (b.queue.announced now op).elim b' fun e ↦ b'.notify e.1

/-- One round of the loop of `dequeue`, for a call with a deadline: what it returns, if it
returns, and else it waits. -/
def attempt (b : BlockingQueue κ η) (now : Time) (w : Waiter κ) :
    Option (Option TaskPayload) × BlockingQueue κ η :=
  if b.queue.closed then (some none, b)
  else
    match b.queue.dequeue now w.tenantId with
    | (some task, queue) => (some (some task), { b with queue := queue })
    | (none, queue) =>
        if w.deadline ≤ now then (some none, { b with queue := queue })
        else (none, { b with queue := queue, waiters := b.waiters ++ [w] })

/-- A task is taken that others were notified for: they may as well go for the other task. -/
def exchange (taken : Option TaskPayload) (task : Option UUID) (notified : List (Notified κ)) :
    List (Notified κ) :=
  match taken with
  | none => notified
  | some other =>
      notified.map fun e ↦ if e.task = some other.taskId then { e with task := task } else e

def fire (b : BlockingQueue κ η) (now : Time) : BlockingEvent κ → Option (BlockingQueue κ η)
  | .call op => if b.queue.Distinct op then some (b.exec now op) else none
  | .block caller tenantId timeout =>
      if timeout > 0 ∧ (now + Time.timedelta timeout).IsDate then
        some (b.attempt now ⟨caller, tenantId, now + Time.timedelta timeout⟩).2
      else none
  | .look e =>
      if e ∈ b.notified then
        let b' := { b with notified := b.notified.erase e }
        let r := b'.attempt now e.waiter
        some { r.2 with notified := exchange (r.1.getD none) e.task r.2.notified }
      else none
  | .timeOut w =>
      if w ∈ b.waiters ∧ w.deadline ≤ now then some { b with waiters := b.waiters.erase w }
      else none
  | .giveUp e =>
      if e ∈ b.notified ∧ e.waiter.deadline ≤ now then
        some { b with notified := b.notified.erase e }
      else none

/-- The call that an event ends, and what it returns. -/
def answer (b : BlockingQueue κ η) (now : Time) :
    BlockingEvent κ → Option (Waiter κ × Option TaskPayload)
  | .call _ => none
  | .block caller tenantId timeout =>
      let w := ⟨caller, tenantId, now + Time.timedelta timeout⟩
      (b.attempt now w).1.map (w, ·)
  | .look e => (b.attempt now e.waiter).1.map (e.waiter, ·)
  | .timeOut w => some (w, none)
  | .giveUp e => some (e.waiter, none)

def Steps (now : Time) : Step (BlockingQueue κ η) (BlockingEvent κ) :=
  fun b event b' ↦ b.fire now event = some b'

/-! ## What is asked of the steps -/

/-- No call sleeps while a task is eligible for it, unless a call that can take the task was
notified for it and has still to look. -/
def Attended (x : Time × BlockingQueue κ η) : Prop := ∀ w ∈ x.2.waiters, x.1 ≤ w.deadline →
  ∀ task, x.2.queue.Eligible x.1 w.tenantId task →
    ∃ e ∈ x.2.notified, e.task = some task.taskId ∧ matchesTenant e.waiter.tenantId task = true

/-- Time passes such that the calls are in time. -/
structure Timely (x : Time × BlockingQueue κ η) (a : Time × BlockingEvent κ) : Prop where
  /-- No task becomes eligible for a sleeping call because time passes. -/
  matures : ∀ w ∈ x.2.waiters, ∀ t task, x.1 ≤ t → t ≤ a.1 → t ≤ w.deadline →
    x.2.queue.Eligible t w.tenantId task → x.2.queue.Eligible x.1 w.tenantId task
  /-- When the time of a sleeping call is over, no call has still to look for a task that is
  eligible for the sleeping one. -/
  awaited : ∀ w ∈ x.2.waiters, x.1 ≤ w.deadline → (w.deadline < a.1 ∨ a.2 = .timeOut w) →
    ∀ e ∈ x.2.notified, ∀ task, e.task = some task.taskId →
      ¬ x.2.queue.Eligible w.deadline w.tenantId task
  /-- A call that was notified looks before its time is over. -/
  prompt : ∀ e ∈ x.2.notified, a.1 ≤ e.waiter.deadline ∧ a.2 ≠ .giveUp e

/-- Notifications reach calls that can use them. -/
structure Aimed (x : Time × BlockingQueue κ η) (a : Time × BlockingEvent κ) : Prop where
  /-- If a sleeping call can take the task that an operation announces, then the one that waits
  longest can. -/
  notified : ∀ op task visibleAt, a.2 = .call op →
    x.2.queue.announced a.1 op = some (task, visibleAt) →
    x.2.queue.VisibleAfter a.1 task visibleAt → task.isExpired a.1 = false →
    (∃ w ∈ x.2.waiters, a.1 ≤ w.deadline ∧ matchesTenant w.tenantId task = true) →
    ∀ first ∈ x.2.waiters.head?, matchesTenant first.tenantId task = true
  /-- If a call was notified for a task that a sleeping one can take, and there is another task that
  it takes first, then yet another call was notified that can take the task instead. -/
  exchanged : ∀ e task other, a.2 = .look e → e.task = some task.taskId →
    (∃ w ∈ x.2.waiters, a.1 ≤ w.deadline ∧ x.2.queue.Eligible a.1 w.tenantId task) →
    x.2.queue.Eligible a.1 e.waiter.tenantId other → other.rank ≤ task.rank → other ≠ task →
    ∃ e' ∈ x.2.notified, e' ≠ e ∧ (e'.task = some other.taskId ∨ e'.task = some task.taskId) ∧
      matchesTenant e'.waiter.tenantId task = true
  /-- A task that is left pending without a notification is not in the heap. -/
  fits : ∀ op, a.2 = .call op → x.2.queue.RetryFits a.1 op

/-- The steps of an open queue are in time and its notifications are of use. -/
def Served (x : Time × BlockingQueue κ η) (a : Time × BlockingEvent κ) : Prop :=
  x.2.queue.closed = false → Timely x a ∧ Aimed x a

/-! ## One round of the loop -/

variable {b b' : BlockingQueue κ η} {now : Time} {w : Waiter κ}
  {x y z : Time × BlockingQueue κ η} {a : Time × BlockingEvent κ}

omit [DecidableEq κ] in
inductive Round (b : BlockingQueue κ η) (now : Time) (w : Waiter κ) :
    Option (Option TaskPayload) → BlockingQueue κ η → Prop
  | closed : b.queue.closed = true → Round b now w (some none) b
  | found {task : TaskPayload} : b.queue.closed = false →
      (b.queue.dequeue now w.tenantId).1 = some task →
      Round b now w (some (some task)) { b with queue := (b.queue.dequeue now w.tenantId).2 }
  | late : b.queue.closed = false → (b.queue.dequeue now w.tenantId).1 = none → w.deadline ≤ now →
      Round b now w (some none) { b with queue := (b.queue.dequeue now w.tenantId).2 }
  | waits : b.queue.closed = false → (b.queue.dequeue now w.tenantId).1 = none →
      now < w.deadline →
      Round b now w none
        { b with queue := (b.queue.dequeue now w.tenantId).2, waiters := b.waiters ++ [w] }

omit [DecidableEq κ] in
theorem round_attempt (b : BlockingQueue κ η) (now : Time) (w : Waiter κ) :
    Round b now w (b.attempt now w).1 (b.attempt now w).2 := by
  rw [attempt]
  cases hclosed : b.queue.closed with
  | true =>
      rw [if_pos rfl]
      exact .closed hclosed
  | false =>
      rw [if_neg Bool.false_ne_true]
      cases hres : b.queue.dequeue now w.tenantId with
      | mk taken queue =>
          have htaken : (b.queue.dequeue now w.tenantId).1 = taken := congrArg Prod.fst hres
          obtain rfl : (b.queue.dequeue now w.tenantId).2 = queue := congrArg Prod.snd hres
          cases taken with
          | some task => exact .found hclosed htaken
          | none =>
              by_cases hover : w.deadline ≤ now
              · simp only [if_pos hover]
                exact .late hclosed htaken hover
              · simp only [if_neg hover]
                exact .waits hclosed htaken (not_le.mp hover)

namespace Round

variable {taken : Option (Option TaskPayload)}

omit [DecidableEq κ] in
/-- A round keeps the notifications, and the queue is open or closed as before. -/
theorem frame (h : Round b now w taken b') :
    b'.notified = b.notified ∧ b'.queue.closed = b.queue.closed := by
  have hclosed := closed_dequeue b.queue now w.tenantId
  cases h with
  | closed => exact ⟨rfl, rfl⟩
  | found | late | waits => exact ⟨rfl, hclosed⟩

omit [DecidableEq κ] in
theorem ok (h : Round b now w taken b') (hq : b.queue.Ok) : b'.queue.Ok := by
  have hcall : Calls now b.queue
      ⟨.dequeue w.tenantId, .dequeued (b.queue.dequeue now w.tenantId).1⟩
      (b.queue.dequeue now w.tenantId).2 := ⟨trivial, rfl⟩
  cases h with
  | closed => exact hq
  | found | late | waits => exact exec_ok hq hcall

omit [DecidableEq κ] in
/-- The tasks that are eligible after a round were eligible, and are not the one that is taken. -/
theorem eligible (h : Round b now w taken b') (hq : b.queue.Ok) {tenantId : Option String}
    {task : TaskPayload} (heligible : b'.queue.Eligible now tenantId task) :
    b.queue.Eligible now tenantId task ∧ taken ≠ some (some task) := by
  have hkept : b.queue.closed = false →
      (b.queue.dequeue now w.tenantId).2.Eligible now tenantId task →
        b.queue.Eligible now tenantId task ∧ (b.queue.dequeue now w.tenantId).1 ≠ some task :=
    fun hopen he ↦ ((dequeue_spec hq hopen).2.2 now tenantId task le_rfl).mp he
  cases h with
  | closed => exact ⟨heligible, nofun⟩
  | found hopen hres =>
      obtain ⟨hbefore, hne⟩ := hkept hopen heligible
      exact ⟨hbefore, fun he ↦ hne (hres.trans (Option.some.inj he))⟩
  | late hopen => exact ⟨(hkept hopen heligible).1, nofun⟩
  | waits hopen => exact ⟨(hkept hopen heligible).1, nofun⟩

omit [DecidableEq κ] in
/-- A call that goes to sleep has found nothing. -/
theorem waiters (h : Round b now w taken b') (hq : b.queue.Ok) {v : Waiter κ}
    (hv : v ∈ b'.waiters) :
    v ∈ b.waiters ∨ v = w ∧ b.queue.closed = false ∧ now < w.deadline ∧
      ∀ task, ¬ b.queue.Eligible now w.tenantId task := by
  cases h with
  | closed | found | late => exact .inl hv
  | waits hopen hres hlate =>
      rcases List.mem_append.mp hv with hv | hv
      · exact .inl hv
      · exact .inr ⟨List.mem_singleton.mp hv, hopen, hlate, (dequeue_spec hq hopen).1.mp hres⟩

end Round

/-! ## The invariant -/

/-- The books are in order, nobody waits for a closed queue, and the calls are attended. -/
structure Sound (x : Time × BlockingQueue κ η) : Prop where
  ok : x.2.queue.Ok
  closed : x.2.queue.closed = true → x.2.waiters = []
  attended : Attended x

omit [DecidableEq κ] in
/-- The calls are attended up to the next step. -/
theorem Attended.pass (h : Attended x) (htimely : Timely x a) (hle : x.1 ≤ a.1) :
    Attended (a.1, x.2) := by
  intro w hw hlate task heligible
  exact h w hw (le_trans hle hlate) task (htimely.matures w hw a.1 task hle le_rfl hlate heligible)

omit [DecidableEq κ] [MinHeap η PriorityItem.key] in
/-- A notification for a task. -/
theorem notify_cases (b : BlockingQueue κ η) (task : TaskPayload) :
    b.waiters = [] ∧ b.notify task = b ∨
      ∃ first rest, b.waiters = first :: rest ∧
        b.notify task
          = { b with waiters := rest, notified := b.notified ++ [⟨first, some task.taskId⟩] } := by
  rw [notify]
  cases hwaiters : b.waiters with
  | nil => exact .inl ⟨rfl, rfl⟩
  | cons first rest => exact .inr ⟨first, rest, rfl, rfl⟩

omit [DecidableEq κ] in
/-- What an operation that does not wait comes to. -/
theorem exec_cases (b : BlockingQueue κ η) (now : Time) (op : QueueOp) :
    (b.exec now op).queue = (b.queue.exec now op).2 ∧
      (op = .shutdown ∧ (b.exec now op).waiters = [] ∨
        op ≠ .shutdown ∧ ((b.exec now op).waiters = b.waiters ∧
            (b.exec now op).notified = b.notified ∧
            (b.queue.announced now op = none ∨ b.waiters = []) ∨
          ∃ first task visibleAt, b.waiters = first :: (b.exec now op).waiters ∧
            b.queue.announced now op = some (task, visibleAt) ∧
            (b.exec now op).notified = b.notified ++ [⟨first, some task.taskId⟩])) := by
  by_cases hop : op = .shutdown
  · subst hop
    exact ⟨rfl, .inl ⟨rfl, rfl⟩⟩
  have hexec : b.exec now op = (b.queue.announced now op).elim
      { b with queue := (b.queue.exec now op).2 }
      fun e ↦ notify { b with queue := (b.queue.exec now op).2 } e.1 := by
    cases op with
    | shutdown => exact absurd rfl hop
    | enqueue | dequeue | complete | fail | cancel | clearExpired => rfl
  rw [hexec]
  cases hannounced : b.queue.announced now op with
  | none => exact ⟨rfl, .inr ⟨hop, .inl ⟨rfl, rfl, .inl rfl⟩⟩⟩
  | some e =>
      obtain ⟨task, visibleAt⟩ := e
      rw [Option.elim_some]
      rcases notify_cases { b with queue := (b.queue.exec now op).2 } task with
        ⟨hnone, hsame⟩ | ⟨first, rest, hwaiters, hnotify⟩
      · rw [hsame]
        exact ⟨rfl, .inr ⟨hop, .inl ⟨rfl, rfl, .inr hnone⟩⟩⟩
      · rw [hnotify]
        exact ⟨rfl, .inr ⟨hop, .inr ⟨first, task, visibleAt, hwaiters, rfl, rfl⟩⟩⟩

omit [DecidableEq κ] in
/-- An operation that does not wait keeps the calls attended. -/
theorem Attended.exec {op : QueueOp} (h : Attended (now, b)) (hq : b.queue.Ok)
    (haimed : Aimed (now, b) (now, .call op)) : Attended (now, b.exec now op) := by
  intro w hw hlate task heligible
  obtain ⟨hqueue, hcases⟩ := b.exec_cases now op
  have hfits : b.queue.RetryFits now op := haimed.fits op rfl
  have heligible : (b.queue.exec now op).2.Eligible now w.tenantId task := hqueue ▸ heligible
  rcases hcases with ⟨-, hnone⟩ | ⟨-, ⟨hwaiters, hnotified, hnothing⟩ |
    ⟨first, task', visibleAt, hwaiters, hannounced, hnotified⟩⟩
  · have hw : w ∈ (b.exec now op).waiters := hw
    rw [hnone] at hw
    cases hw
  · have hw : w ∈ b.waiters := hwaiters ▸ hw
    rcases eligible_exec hq le_rfl hfits heligible with hbefore | ⟨visibleAt, hannounced, -⟩
    · obtain ⟨e, he, hrest⟩ := h w hw hlate task hbefore
      exact ⟨e, hnotified ▸ he, hrest⟩
    · rcases hnothing with hnothing | hnothing
      · cases hnothing.symm.trans hannounced
      · rw [hnothing] at hw
        cases hw
  · have hw : w ∈ b.waiters := hwaiters ▸ List.mem_cons_of_mem _ hw
    show ∃ e ∈ (b.exec now op).notified, _
    rw [hnotified]
    rcases eligible_exec hq le_rfl hfits heligible with
      hbefore | ⟨visibleAt', hannounced', hvisible⟩
    · obtain ⟨e, he, hrest⟩ := h w hw hlate task hbefore
      exact ⟨e, List.mem_append_left _ he, hrest⟩
    · obtain ⟨rfl, rfl⟩ := Prod.mk.inj (Option.some.inj (hannounced.symm.trans hannounced'))
      refine ⟨⟨first, some task'.taskId⟩, List.mem_append_right _ List.mem_cons_self, rfl, ?_⟩
      refine haimed.notified op task' visibleAt rfl hannounced hvisible heligible.fresh
        ⟨w, hw, hlate, heligible.matches_tenant⟩ first ?_
      show first ∈ b.waiters.head?
      rw [hwaiters]
      rfl

omit [DecidableEq κ] in
/-- A call that is made keeps the calls attended. -/
theorem Attended.round {taken : Option (Option TaskPayload)} (h : Attended (now, b))
    (hq : b.queue.Ok) (hround : Round b now w taken b') : Attended (now, b') := by
  intro v hv hlate task heligible
  obtain ⟨hbefore, -⟩ := hround.eligible hq heligible
  have hnotified : b'.notified = b.notified := hround.frame.1
  rcases hround.waiters hq hv with hv | ⟨rfl, -, -, hnothing⟩
  · obtain ⟨e, he, hrest⟩ := h v hv hlate task hbefore
    exact ⟨e, hnotified ▸ he, hrest⟩
  · exact absurd hbefore (hnothing task)

omit [DecidableEq κ] in
/-- A notification that is left after another call took a task. -/
theorem mem_exchange {taken : Option TaskPayload} {label : Option UUID} {id : UUID}
    {notified : List (Notified κ)} {e : Notified κ} (he : e ∈ notified) (htask : e.task = some id)
    (hother : ∀ task, taken = some task → task.taskId ≠ id) :
    e ∈ exchange taken label notified := by
  cases taken with
  | none => exact he
  | some task =>
      refine List.mem_map.mpr ⟨e, he, if_neg ?_⟩
      rw [htask]
      exact fun heq ↦ hother task rfl (Option.some.inj heq).symm

omit [DecidableEq κ] in
/-- A notification for the task that was taken goes for the other task. -/
theorem mem_exchange_taken {task : TaskPayload} {label : Option UUID}
    {notified : List (Notified κ)} {e : Notified κ} (he : e ∈ notified)
    (htask : e.task = some task.taskId) :
    { e with task := label } ∈ exchange (some task) label notified :=
  List.mem_map.mpr ⟨e, he, if_pos htask⟩

/-- A call that was notified and looks keeps the calls attended. -/
theorem Attended.look {e : Notified κ} {taken : Option (Option TaskPayload)}
    (h : Attended (now, b)) (hq : b.queue.Ok) (hopen : b.queue.closed = false)
    (haimed : Aimed (now, b) (now, .look e))
    (hround : Round { b with notified := b.notified.erase e } now e.waiter taken b') :
    Attended (now, { b' with notified := exchange (taken.getD none) e.task b'.notified }) := by
  intro w hw hlate task heligible
  obtain ⟨hbefore, hnottaken⟩ := hround.eligible hq heligible
  have hbefore : b.queue.Eligible now w.tenantId task := hbefore
  have hnotified : b'.notified = b.notified.erase e := hround.frame.1
  -- a notification for the task that is left
  have hleft : ∀ e' ∈ b.notified, e' ≠ e → e'.task = some task.taskId →
      e' ∈ exchange (taken.getD none) e.task b'.notified := by
    intro e' he' hne htask
    rw [hnotified]
    refine mem_exchange ((List.mem_erase_of_ne hne).mpr he') htask fun other hother hid ↦ ?_
    cases taken with
    | none => cases hother
    | some found =>
        obtain rfl : found = some other := hother
        cases hround with
        | found hopen hres =>
            have hstored := (returned_spec hq hres).1.stored
            rw [hid] at hstored
            obtain rfl := Option.some.inj (hstored.symm.trans hbefore.stored)
            exact hnottaken rfl
  rcases hround.waiters hq hw with hw | ⟨rfl, -, -, hnothing⟩
  · obtain ⟨e', he', htask, hmatches⟩ := h w hw hlate task hbefore
    by_cases hself : e' = e
    · subst hself
      -- the call that looks was to take the task
      have hmine : b.queue.Eligible now e'.waiter.tenantId task :=
        eligible_iff_ready.mpr ⟨(eligible_iff_ready.mp hbefore).1, hmatches⟩
      cases hround with
      | closed hclosed => cases hopen.symm.trans hclosed
      | late _ hres => exact absurd hmine ((dequeue_spec hq hopen).1.mp hres task)
      | waits _ hres => exact absurd hmine ((dequeue_spec hq hopen).1.mp hres task)
      | @found other _ hres =>
          obtain ⟨helig, hleast, -⟩ := (dequeue_spec hq hopen).2.1 other hres
          have hne : other ≠ task := fun he ↦ hnottaken (congrArg (some ∘ some) he)
          obtain ⟨e'', he'', hdiffers, hlabel, hmatches''⟩ := haimed.exchanged e' task other rfl
            htask ⟨w, hw, hlate, hbefore⟩ helig (hleast task hmine) hne
          rcases hlabel with hlabel | hlabel
          · refine ⟨{ e'' with task := e'.task }, mem_exchange_taken ?_ hlabel, htask, hmatches''⟩
            exact (List.mem_erase_of_ne hdiffers).mpr he''
          · exact ⟨e'', hleft e'' he'' hdiffers hlabel, hlabel, hmatches''⟩
    · exact ⟨e', hleft e' he' hself htask, htask, hmatches⟩
  · exact absurd hbefore (hnothing task)

/-- What an event comes to, where it can happen. -/
inductive Fires (b : BlockingQueue κ η) (now : Time) :
    BlockingEvent κ → BlockingQueue κ η → Prop
  | call {op : QueueOp} : b.queue.Distinct op → Fires b now (.call op) (b.exec now op)
  | block {caller : κ} {tenantId : Option String} {timeout : ℚ}
      {taken : Option (Option TaskPayload)} {b' : BlockingQueue κ η} : timeout > 0 →
      Round b now ⟨caller, tenantId, now + Time.timedelta timeout⟩ taken b' →
      Fires b now (.block caller tenantId timeout) b'
  | look {e : Notified κ} {taken : Option (Option TaskPayload)} {b' : BlockingQueue κ η} :
      e ∈ b.notified → Round { b with notified := b.notified.erase e } now e.waiter taken b' →
      Fires b now (.look e)
        { b' with notified := exchange (taken.getD none) e.task b'.notified }
  | timeOut {w : Waiter κ} : w ∈ b.waiters → w.deadline ≤ now →
      Fires b now (.timeOut w) { b with waiters := b.waiters.erase w }
  | giveUp {e : Notified κ} : e ∈ b.notified → e.waiter.deadline ≤ now →
      Fires b now (.giveUp e) { b with notified := b.notified.erase e }

theorem fires_of_fire {event : BlockingEvent κ} (h : b.fire now event = some b') :
    Fires b now event b' := by
  cases event with
  | call op =>
      obtain ⟨hdistinct, hb'⟩ := Option.ite_none_right_eq_some.mp h
      obtain rfl := Option.some.inj hb'
      exact .call hdistinct
  | block caller tenantId timeout =>
      obtain ⟨htimeout, hb'⟩ := Option.ite_none_right_eq_some.mp h
      obtain rfl := Option.some.inj hb'
      exact .block htimeout.1 (round_attempt b now _)
  | look e =>
      obtain ⟨he, hb'⟩ := Option.ite_none_right_eq_some.mp h
      obtain rfl := Option.some.inj hb'
      exact .look he (round_attempt _ now _)
  | timeOut w =>
      obtain ⟨⟨hw, hover⟩, hb'⟩ := Option.ite_none_right_eq_some.mp h
      obtain rfl := Option.some.inj hb'
      exact .timeOut hw hover
  | giveUp e =>
      obtain ⟨⟨he, hover⟩, hb'⟩ := Option.ite_none_right_eq_some.mp h
      obtain rfl := Option.some.inj hb'
      exact .giveUp he hover

namespace Fires

variable {event : BlockingEvent κ}

theorem ok (h : Fires b now event b') (hq : b.queue.Ok) : b'.queue.Ok := by
  cases h with
  | @call op hdistinct =>
      have hcall : Calls now b.queue ⟨op, (b.queue.exec now op).1⟩ (b.queue.exec now op).2 :=
        ⟨hdistinct, rfl⟩
      rw [(b.exec_cases now op).1]
      exact exec_ok hq hcall
  | block _ hround => exact hround.ok hq
  | look _ hround => exact hround.ok hq
  | timeOut | giveUp => exact hq

/-- Nobody waits for a closed queue. -/
theorem closed (h : Fires b now event b') (hclosed : b.queue.closed = true → b.waiters = [])
    (hclosed' : b'.queue.closed = true) : b'.waiters = [] := by
  -- a round of the loop lets nobody wait for a closed queue
  have hround : ∀ {b b' : BlockingQueue κ η} {w taken}, Round b now w taken b' →
      (b.queue.closed = true → b.waiters = []) → b'.queue.closed = true → b'.waiters = [] := by
    intro b b' w taken hround hclosed hclosed'
    have hsame : b.queue.closed = true := hround.frame.2.symm.trans hclosed'
    cases hround with
    | closed => exact hclosed hsame
    | found hopen => cases hopen.symm.trans hsame
    | late hopen => cases hopen.symm.trans hsame
    | waits hopen => cases hopen.symm.trans hsame
  cases h with
  | @call op hdistinct =>
      obtain ⟨hqueue, hcases⟩ := b.exec_cases now op
      rcases hcases with ⟨-, hnone⟩ | ⟨hop, hcases⟩
      · exact hnone
      · have hsame : b.queue.closed = true := by
          rw [hqueue, closed_exec _ _ hop] at hclosed'
          exact hclosed'
        rcases hcases with ⟨hwaiters, -⟩ | ⟨first, _, _, hwaiters, -⟩
        · rw [hwaiters]
          exact hclosed hsame
        · cases (hclosed hsame).symm.trans hwaiters
  | block _ hloop => exact hround hloop hclosed hclosed'
  | look _ hloop =>
      have hnone := hround hloop hclosed hclosed'
      exact hnone
  | timeOut =>
      show b.waiters.erase _ = []
      rw [hclosed hclosed']
      rfl
  | giveUp => exact hclosed hclosed'

/-- A closed queue stays closed. -/
theorem stays_closed (h : Fires b now event b') (hclosed : b.queue.closed = true) :
    b'.queue.closed = true := by
  cases h with
  | @call op hdistinct =>
      rw [(b.exec_cases now op).1]
      by_cases hop : op = .shutdown
      · subst hop
        rfl
      · rw [closed_exec _ _ hop]
        exact hclosed
  | block _ hround => exact hround.frame.2.trans hclosed
  | look _ hround => exact hround.frame.2.trans hclosed
  | timeOut | giveUp => exact hclosed

/-- An event that is served keeps the calls attended. -/
theorem attended (h : Fires b now event b') (hq : b.queue.Ok) (hopen : b.queue.closed = false)
    (hnow : Attended (now, b)) {t : Time} (htimely : Timely (t, b) (now, event))
    (haimed : Aimed (now, b) (now, event)) : Attended (now, b') := by
  cases h with
  | call => exact hnow.exec hq haimed
  | block _ hround => exact hnow.round hq hround
  | look _ hround => exact hnow.look hq hopen haimed hround
  | timeOut =>
      intro w hw hlate task heligible
      exact hnow w (List.mem_of_mem_erase hw) hlate task heligible
  | giveUp he => exact absurd rfl (htimely.prompt _ he).2

/-- A call that sleeps past its deadline slept before. -/
theorem slept (h : Fires b now event b') (hq : b.queue.Ok) (hw : w ∈ b'.waiters)
    (hlate : w.deadline < now) : w ∈ b.waiters := by
  cases h with
  | @call op hdistinct =>
      obtain ⟨-, hcases⟩ := b.exec_cases now op
      rcases hcases with ⟨-, hnone⟩ | ⟨-, ⟨hwaiters, -⟩ | ⟨first, _, _, hwaiters, -⟩⟩
      · rw [hnone] at hw
        cases hw
      · exact hwaiters ▸ hw
      · rw [hwaiters]
        exact List.mem_cons_of_mem _ hw
  | block _ hround =>
      rcases hround.waiters hq hw with hw | ⟨rfl, -, hwaits, -⟩
      · exact hw
      · exact absurd hwaits (not_lt.mpr (le_of_lt hlate))
  | look _ hround =>
      rcases hround.waiters hq hw with hw | ⟨rfl, -, hwaits, -⟩
      · exact hw
      · exact absurd hwaits (not_lt.mpr (le_of_lt hlate))
  | timeOut => exact List.mem_of_mem_erase hw
  | giveUp => exact hw

end Fires

omit [DecidableEq κ] in
/-- What an event asks of its notifications is asked when it happens. -/
theorem Aimed.here (h : Aimed x a) : Aimed (a.1, x.2) a := ⟨h.notified, h.exchanged, h.fits⟩

/-- A step that is served keeps the invariant. -/
theorem Sound.step (h : Sound x) (hserved : Served x a) (hstep : Step.Timed Steps x a y) :
    Sound y := by
  obtain ⟨hle, hclock, hfire⟩ := hstep
  have hfires := fires_of_fire hfire
  refine ⟨hfires.ok h.ok, hfires.closed h.closed, ?_⟩
  have hy : y = (a.1, y.2) := Prod.ext hclock rfl
  rw [hy]
  cases hclosed : x.2.queue.closed with
  | true =>
      intro w hw
      have hnone : y.2.waiters = [] :=
        hfires.closed h.closed (hfires.stays_closed hclosed)
      have hw : w ∈ y.2.waiters := hw
      rw [hnone] at hw
      cases hw
  | false =>
      obtain ⟨htimely, haimed⟩ := hserved hclosed
      exact hfires.attended h.ok hclosed (h.attended.pass htimely hle) htimely haimed.here

/-! ## Runs -/

/-- The runs of a queue with blocked calls whose steps are served. -/
abbrev ServedStep : Step (Time × BlockingQueue κ η) (Time × BlockingEvent κ) :=
  Step.Only Served (Step.Timed Steps)

/-- In what follows a state, a blocked call whose time is over after it returns `None` from an open
queue only if no task was eligible for the call when its time was over. -/
def NoneInVain (S : Step (Time × BlockingQueue κ η) (Time × BlockingEvent κ))
    (x : Time × BlockingQueue κ η) : Prop :=
  ∀ w bs y a z, Run S x bs y → S y a z → x.1 ≤ w.deadline → (∀ b ∈ bs, w.deadline < b.1) →
    y.2.answer a.1 a.2 = some (w, none) → y.2.queue.closed = false →
    ∀ task, ¬ x.2.queue.Eligible w.deadline w.tenantId task

/-- The invariant holds along the runs that are served. -/
theorem Sound.run {as : List (Time × BlockingEvent κ)} (h : Run ServedStep x as y) (hx : Sound x) :
    Sound y :=
  Run.invariant (P := Sound) (fun _ _ _ hs hstep ↦ hs.step hstep.1 hstep.2) h hx

omit [DecidableEq κ] in
/-- Nothing is eligible for a sleeping call when its time is over. -/
theorem Sound.asleep (h : Sound x) (htimely : Timely x a) (hw : w ∈ x.2.waiters)
    (hle : x.1 ≤ w.deadline) (hover : w.deadline ≤ a.1)
    (hwhich : w.deadline < a.1 ∨ a.2 = .timeOut w) (task : TaskPayload) :
    ¬ x.2.queue.Eligible w.deadline w.tenantId task := by
  intro heligible
  have hbefore := htimely.matures w hw w.deadline task hle hover le_rfl heligible
  obtain ⟨e, he, htask, -⟩ := h.attended w hw hle task hbefore
  exact htimely.awaited w hw hle hwhich e he task htask heligible

/-- The clock does not go back. -/
theorem clock_le {bs : List (Time × BlockingEvent κ)} (h : Run ServedStep x bs y) :
    x.1 ≤ y.1 ∧ ∀ b ∈ bs, b.1 ≤ y.1 := by
  induction h with
  | nil x => exact ⟨le_rfl, fun b hb ↦ absurd hb List.not_mem_nil⟩
  | cons hstep _ ih =>
      obtain ⟨-, hle, hclock, -⟩ := hstep
      obtain ⟨hy, hbs⟩ := ih
      rw [hclock] at hy
      refine ⟨le_trans hle hy, fun b hb ↦ ?_⟩
      rcases List.mem_cons.mp hb with rfl | hb
      · exact hy
      · exact hbs b hb

/-- An open queue was open. -/
theorem open_of_run {bs : List (Time × BlockingEvent κ)} (h : Run ServedStep x bs y)
    (hopen : y.2.queue.closed = false) : x.2.queue.closed = false := by
  rw [← Bool.not_eq_true]
  intro hclosed
  have hclosed' : y.2.queue.closed = true :=
    Run.invariant (P := fun x ↦ x.2.queue.closed = true)
      (fun _ _ _ hs hstep ↦ (fires_of_fire hstep.2.2.2).stays_closed hs) h hclosed
  cases hopen.symm.trans hclosed'

/-- A call that sleeps past its deadline slept when its time was over. -/
theorem slept_of_run {bs : List (Time × BlockingEvent κ)} (h : Run ServedStep x bs y)
    (hx : Sound x) (hlate : ∀ b ∈ bs, w.deadline < b.1) (hw : w ∈ y.2.waiters) :
    w ∈ x.2.waiters := by
  induction h with
  | nil x => exact hw
  | cons hstep hrest ih =>
      obtain ⟨hserved, htimed⟩ := hstep
      have hnext := ih (hx.step hserved htimed) (fun b hb ↦ hlate b (List.mem_cons_of_mem _ hb)) hw
      exact (fires_of_fire htimed.2.2).slept hx.ok hnext (hlate _ List.mem_cons_self)

/-- A round that ends a call at its deadline follows no step after the deadline. -/
theorem eq_of_run {bs : List (Time × BlockingEvent κ)} (h : Run ServedStep x bs y)
    (hlate : ∀ b ∈ bs, w.deadline < b.1) (hle : y.1 ≤ w.deadline) : x = y := by
  cases h with
  | nil => rfl
  | cons hstep hrest =>
      have hclock := (clock_le (.cons hstep hrest)).2 _ List.mem_cons_self
      exact absurd (lt_of_lt_of_le (hlate _ List.mem_cons_self) hclock) (not_lt.mpr hle)

omit [DecidableEq κ] in
/-- A round that returns `None` from an open queue at the deadline has found nothing. -/
theorem Round.nothing {taken : Option (Option TaskPayload)} (h : Round b now w taken b')
    (hq : b.queue.Ok) (hopen : b.queue.closed = false) (htaken : taken = some none) :
    w.deadline ≤ now ∧ ∀ task, ¬ b.queue.Eligible now w.tenantId task := by
  cases h with
  | closed hclosed => cases hopen.symm.trans hclosed
  | found => cases htaken
  | late _ hres hover => exact ⟨hover, (dequeue_spec hq hopen).1.mp hres⟩
  | waits => cases htaken

/-- A positive timeout is not in the past. -/
theorem timedelta_nonneg {s : ℚ} (h : 0 < s) : 0 ≤ Time.timedelta s := by
  have hfloor : 0 ≤ ⌊s * 1000000⌋ := Int.floor_nonneg.mpr (by positivity)
  rw [Time.timedelta]
  split
  · exact hfloor
  · split
    · exact Int.le_add_one hfloor
    · split
      · exact hfloor
      · exact Int.le_add_one hfloor

/-- A call that ends with `None` has nothing to take when its time is over. -/
theorem Sound.noneInVain (hx : Sound x) : NoneInVain ServedStep x := by
  intro w bs y a z hrun hstep hle hlate hanswer hopen
  have hy := hx.run hrun
  obtain ⟨hserved, hclock, -, hfire⟩ := hstep
  obtain ⟨htimely, -⟩ := hserved hopen
  -- a round that comes to nothing is the first step that reaches the deadline
  have hround : ∀ {taken b'}, Round y.2 a.1 w taken b' → taken = some none →
      a.1 ≤ w.deadline → ∀ task, ¬ x.2.queue.Eligible w.deadline w.tenantId task := by
    intro taken b' hround htaken hprompt
    obtain ⟨hover, hnothing⟩ := hround.nothing hy.ok hopen htaken
    have hnow : w.deadline = a.1 := le_antisymm hover hprompt
    obtain rfl := eq_of_run hrun hlate (le_trans hclock hprompt)
    rw [hnow]
    exact hnothing
  obtain ⟨now, event⟩ := a
  cases event with
  | call op => cases hanswer
  | block caller tenantId timeout =>
      obtain ⟨taken, htaken, hpair⟩ := Option.map_eq_some_iff.mp hanswer
      obtain ⟨rfl, rfl⟩ := Prod.mk.inj hpair
      have htimeout : timeout > 0 := (Option.ite_none_right_eq_some.mp hfire).1.1
      have hnonneg := timedelta_nonneg htimeout
      exact hround (round_attempt y.2 now _) htaken (Int.le_add_of_nonneg_right hnonneg)
  | look e =>
      obtain ⟨taken, htaken, hpair⟩ := Option.map_eq_some_iff.mp hanswer
      obtain ⟨rfl, rfl⟩ := Prod.mk.inj hpair
      have he : e ∈ y.2.notified := (Option.ite_none_right_eq_some.mp hfire).1
      exact hround (round_attempt y.2 now _) htaken (htimely.prompt e he).1
  | timeOut w' =>
      obtain ⟨rfl, -⟩ := Prod.mk.inj (Option.some.inj hanswer)
      obtain ⟨⟨hw, hover⟩, -⟩ := Option.ite_none_right_eq_some.mp hfire
      have hslept := slept_of_run hrun hx hlate hw
      -- the first step that reaches the deadline
      cases hrun with
      | nil => exact hx.asleep htimely hslept hle hover (.inr rfl)
      | cons hfirst hrest =>
          have hpast := hlate _ List.mem_cons_self
          obtain ⟨htimely', -⟩ := hfirst.1 (open_of_run (.cons hfirst hrest) hopen)
          exact hx.asleep htimely' hslept hle (le_of_lt hpast) (.inl hpast)
  | giveUp e =>
      have he : e ∈ y.2.notified := (Option.ite_none_right_eq_some.mp hfire).1.1
      exact absurd rfl (htimely.prompt e he).2

/-- In every run of a new queue whose steps are served, no call sleeps while there is a task for it
that no other call goes for, and none returns `None` if there was a task for it when its time was
over. -/
theorem calls_attended (maxSize : Int) (retryBaseDelay retryMaxDelay : ℚ) (start : Time)
    {as : List (Time × BlockingEvent κ)} {x : Time × BlockingQueue κ η}
    (h : Run ServedStep (start, { queue := new maxSize retryBaseDelay retryMaxDelay }) as x) :
    Attended x ∧ NoneInVain ServedStep x := by
  have hstart : Sound ((start, { queue := new maxSize retryBaseDelay retryMaxDelay }) :
      Time × BlockingQueue κ η) := by
    refine ⟨new_ok _ _ _, fun _ ↦ rfl, fun w hw ↦ ?_⟩
    exact absurd hw List.not_mem_nil
  have hx := hstart.run h
  exact ⟨hx.attended, hx.noneInVain⟩

/-! ## Scripts -/

/-- The state a script leads to, if its events can happen. -/
def play : Time × BlockingQueue κ η → List (Time × BlockingEvent κ) →
    Option (Time × BlockingQueue κ η)
  | x, [] => some x
  | x, (now, event) :: script =>
      if x.1 ≤ now then (x.2.fire now event).bind fun b ↦ play (now, b) script else none

/-- Playing a script is a run. -/
theorem run_play {script : List (Time × BlockingEvent κ)} (h : play x script = some y) :
    Run (Step.Timed Steps) x script y := by
  induction script generalizing x with
  | nil => exact Option.some.inj h ▸ .nil x
  | cons a script ih =>
      obtain ⟨hle, hrest⟩ := Option.ite_none_right_eq_some.mp h
      obtain ⟨b, hfire, hplay⟩ := Option.bind_eq_some_iff.mp hrest
      have hstep : Step.Timed Steps x a (a.1, b) := ⟨hle, rfl, hfire⟩
      exact .cons hstep (ih hplay)

/-- A queue without tasks and calls. -/
def sampleStart : Time × BlockingQueue Nat (SortedList PriorityItem.key) :=
  (0, { queue := sampleQueue })

def stateAfter (script : List (Time × BlockingEvent Nat)) :
    Time × BlockingQueue Nat (SortedList PriorityItem.key) :=
  (play sampleStart script).getD sampleStart

theorem run_stateAfter {script : List (Time × BlockingEvent Nat)}
    (h : (play sampleStart script).isSome = true) :
    Run (Step.Timed Steps) sampleStart script (stateAfter script) := by
  obtain ⟨y, hy⟩ := Option.isSome_iff_exists.mp h
  rw [stateAfter, hy]
  exact run_play hy

omit [DecidableEq κ] in
/-- A step that is no operation is served if nobody sleeps and the calls that were notified are in
time. -/
theorem served_of_awake (hwaiters : x.2.waiters = [])
    (hprompt : ∀ e ∈ x.2.notified, a.1 ≤ e.waiter.deadline) (hevent : ∀ e, a.2 ≠ .giveUp e)
    (hcall : ∀ op, a.2 ≠ .call op) : Served x a := by
  have hnobody : ∀ w, w ∉ x.2.waiters := by
    intro w hw
    rw [hwaiters] at hw
    cases hw
  refine fun _ ↦ ⟨⟨fun w hw ↦ absurd hw (hnobody w), fun w hw ↦ absurd hw (hnobody w),
      fun e he ↦ ⟨hprompt e he, hevent e⟩⟩,
    fun _ _ _ _ _ _ _ ⟨w, hw, _⟩ ↦ absurd hw (hnobody w),
    fun _ _ _ _ _ ⟨w, hw, _⟩ ↦ absurd hw (hnobody w),
    fun op hop ↦ absurd hop (hcall op)⟩

omit [DecidableEq κ] in
/-- A step is served if one call sleeps, no task is pending, and none was notified. -/
theorem served_of_lone (hwaiters : x.2.waiters = [w]) (hnotified : x.2.notified = [])
    (hpending : TaskStatus.pending ∉ x.2.queue.status.values)
    (hfits : ∀ op, a.2 = .call op → x.2.queue.RetryFits a.1 op) : Served x a := by
  have hnothing : ∀ t task, ¬ x.2.queue.Eligible t w.tenantId task :=
    fun t task heligible ↦ hpending (Dict.mem_values_iff.mpr ⟨_, heligible.pending⟩)
  have hself : ∀ v ∈ x.2.waiters, v = w := by
    intro v hv
    rw [hwaiters] at hv
    exact List.mem_singleton.mp hv
  have hnone : ∀ e, e ∉ x.2.notified := by
    intro e he
    rw [hnotified] at he
    cases he
  refine fun _ ↦ ⟨⟨?_, ?_, fun e he ↦ absurd he (hnone e)⟩, ?_, ?_, hfits⟩
  · intro v hv t task _ _ _ heligible
    obtain rfl := hself v hv
    exact absurd heligible (hnothing t task)
  · exact fun v _ _ _ e he ↦ absurd he (hnone e)
  · rintro op task visibleAt - - - - ⟨v, hv, -, hmatches⟩ first hfirst
    rw [hself first (List.mem_of_mem_head? hfirst), ← hself v hv]
    exact hmatches
  · rintro e task other - - ⟨v, hv, -, heligible⟩
    obtain rfl := hself v hv
    exact absurd heligible (hnothing _ task)

/-- A call that sleeps while there is a task for it returns `None` when its time is over. -/
theorem not_noneInVain {task : TaskPayload} (hw : w ∈ x.2.waiters) (hle : x.1 ≤ w.deadline)
    (hopen : x.2.queue.closed = false)
    (heligible : x.2.queue.Eligible w.deadline w.tenantId task) :
    ¬ NoneInVain (Step.Timed Steps) x := by
  intro h
  have hstep : Step.Timed Steps x (w.deadline, .timeOut w)
      (w.deadline, { x.2 with waiters := x.2.waiters.erase w }) := ⟨hle, rfl, if_pos ⟨hw, le_rfl⟩⟩
  have hnone : ∀ b ∈ ([] : List (Time × BlockingEvent κ)), w.deadline < b.1 :=
    fun b hb ↦ absurd hb List.not_mem_nil
  exact h w [] x _ _ (.nil x) hstep hle hnone rfl hopen task heligible

/-- A call sleeps while the task of a visible item is there for it. -/
def Overlooked (x : Time × BlockingQueue κ η) (w : Waiter κ) (item : PriorityItem) : Prop :=
  w ∈ x.2.waiters ∧ x.1 ≤ w.deadline ∧ x.2.queue.closed = false ∧
    item ∈ MinHeap.items x.2.queue.heap ∧ item.visibleAt ≤ w.deadline ∧
    x.2.queue.status.get? item.taskId = some .pending ∧
    (x.2.queue.tasks.get? item.taskId).any (fun task ↦
      matchesTenant w.tenantId task = true ∧ task.isExpired w.deadline = false) = true

instance (x : Time × BlockingQueue κ η) (w : Waiter κ) (item : PriorityItem) :
    Decidable (Overlooked x w item) := inferInstanceAs (Decidable (_ ∧ _ ∧ _ ∧ _ ∧ _ ∧ _ ∧ _))

theorem Overlooked.not_noneInVain {item : PriorityItem} (h : Overlooked x w item)
    (hq : x.2.queue.Ok) : ¬ NoneInVain (Step.Timed Steps) x := by
  obtain ⟨hw, hle, hopen, hitem, hvisible, hpending, hany⟩ := h
  obtain ⟨task, ht, hgood⟩ := (Option.any_eq_true _ _).mp hany
  obtain ⟨hmatches, hfresh⟩ := of_decide_eq_true hgood
  have hid := hq.taskId_eq ht
  have heligible : x.2.queue.Eligible w.deadline w.tenantId task := by
    refine ⟨?_, ?_, hmatches, ⟨item, hitem, hid.symm, hvisible⟩, hfresh⟩
    · rw [hid]
      exact ht
    · rw [hid]
      exact hpending
  exact BlockingQueue.not_noneInVain hw hle hopen heligible

/-- The books stay in order. -/
theorem ok_of_run {as : List (Time × BlockingEvent κ)} (h : Run (Step.Timed Steps) x as y)
    (hq : x.2.queue.Ok) : y.2.queue.Ok :=
  Run.invariant (P := fun x ↦ x.2.queue.Ok)
    (fun _ _ _ hs hstep ↦ (fires_of_fire hstep.2.2).ok hs) h hq

/-- A call for the tasks of another tenant waits longer than the one for the task. -/
def misdirected : List (Time × BlockingEvent Nat) :=
  [(0, .block 1 (some "globex") 5), (1, .block 2 (some "acme") 5),
    (2, .call (.enqueue sampleTask 0)), (3, .look ⟨⟨1, some "globex", 5000000⟩, some ⟨1⟩⟩)]

/-- The call is notified of a task that becomes visible later. -/
def early : List (Time × BlockingEvent Nat) :=
  [(0, .block 1 none 5), (1, .call (.enqueue sampleTask 1)),
    (2, .look ⟨⟨1, none, 5000000⟩, some ⟨1⟩⟩)]

/-- Calls return `None` in vain: the other one was notified, or the task was not visible yet. -/
theorem calls_not_attended :
    (Run (Step.Timed Steps) sampleStart misdirected (stateAfter misdirected) ∧
        ¬ NoneInVain (Step.Timed Steps) (stateAfter misdirected)) ∧
      Run (Step.Timed Steps) sampleStart early (stateAfter early) ∧
        ¬ NoneInVain (Step.Timed Steps) (stateAfter early) := by
  have hvain : ∀ {script w item}, (play sampleStart script).isSome = true →
      Overlooked (stateAfter script) w item →
        Run (Step.Timed Steps) sampleStart script (stateAfter script) ∧
          ¬ NoneInVain (Step.Timed Steps) (stateAfter script) := by
    intro script w item hplay hoverlooked
    have hrun := run_stateAfter hplay
    exact ⟨hrun, hoverlooked.not_noneInVain (ok_of_run hrun (new_ok _ _ _))⟩
  refine ⟨?_, ?_⟩
  · have hoverlooked : Overlooked (stateAfter misdirected) ⟨2, some "acme", 5000001⟩
        (itemOf sampleTask 2) := by decide +kernel
    exact hvain (by decide +kernel) hoverlooked
  · have hoverlooked : Overlooked (stateAfter early) ⟨1, none, 5000000⟩
        (itemOf sampleTask 1000001) := by decide +kernel
    exact hvain (by decide +kernel) hoverlooked

/-- A call waits for a task and gets it, and another one waits then. -/
def servedScript : List (Time × BlockingEvent Nat) :=
  [(0, .block 1 (some "acme") 5), (1, .call (.enqueue sampleTask 0)),
    (2, .look ⟨⟨1, some "acme", 5000000⟩, some ⟨1⟩⟩), (3, .block 2 none 1)]

/-- The last step of a script. -/
theorem play_snoc {script : List (Time × BlockingEvent κ)} {e : Time × BlockingEvent κ}
    (h : play x (script ++ [e]) = some z) :
    ∃ y, play x script = some y ∧ Step.Timed Steps y e z := by
  induction script generalizing x with
  | nil =>
      obtain ⟨hle, hrest⟩ := Option.ite_none_right_eq_some.mp h
      obtain ⟨b, hfire, hz⟩ := Option.bind_eq_some_iff.mp hrest
      obtain rfl := Option.some.inj hz
      exact ⟨x, rfl, hle, rfl, hfire⟩
  | cons e' script ih =>
      obtain ⟨hle, hrest⟩ := Option.ite_none_right_eq_some.mp h
      obtain ⟨b, hfire, hplay⟩ := Option.bind_eq_some_iff.mp hrest
      obtain ⟨y, hy, hstep⟩ := ih hplay
      refine ⟨y, ?_, hstep⟩
      rw [play, if_pos hle, hfire]
      exact hy

/-- One more step of a script that is served. -/
theorem run_snoc {script : List (Time × BlockingEvent Nat)} {e : Time × BlockingEvent Nat}
    (h : Run ServedStep sampleStart script (stateAfter script))
    (hserved : Served (stateAfter script) e)
    (hplay : (play sampleStart (script ++ [e])).isSome = true) :
    Run ServedStep sampleStart (script ++ [e]) (stateAfter (script ++ [e])) := by
  obtain ⟨z, hz⟩ := Option.isSome_iff_exists.mp hplay
  obtain ⟨y, hy, hstep⟩ := play_snoc hz
  have hbefore : stateAfter script = y := by rw [stateAfter, hy, Option.getD_some]
  have hafter : stateAfter (script ++ [e]) = z := by rw [stateAfter, hz, Option.getD_some]
  rw [hafter]
  exact h.snoc ⟨hserved, hbefore ▸ hstep⟩

omit [DecidableEq κ] in
/-- An `enqueue` asks for no retry. -/
theorem fits_enqueue (task : TaskPayload) (delaySeconds : ℚ) (now : Time)
    (q : InMemoryTaskQueue η) :
    ∀ op, (BlockingEvent.call (.enqueue task delaySeconds) : BlockingEvent κ) = .call op →
      q.RetryFits now op := by
  intro op hop
  obtain rfl := BlockingEvent.call.inj hop
  trivial

theorem calls_attended_sample : Attended (stateAfter servedScript) ∧
    NoneInVain ServedStep (stateAfter servedScript) := by
  have hrun : Run ServedStep sampleStart servedScript (stateAfter servedScript) := by
    have hstart : Run ServedStep sampleStart [] (stateAfter []) := .nil _
    have hblock := run_snoc hstart (e := (0, .block 1 (some "acme") 5))
      (served_of_awake (by decide +kernel) (by decide +kernel) nofun (by rintro op ⟨⟩))
      (by decide +kernel)
    have hcall := run_snoc hblock (e := (1, .call (.enqueue sampleTask 0)))
      (served_of_lone (w := ⟨1, some "acme", 5000000⟩) (by decide +kernel) (by decide +kernel)
        (by decide +kernel) (fits_enqueue sampleTask 0 1 _)) (by decide +kernel)
    have hlook := run_snoc hcall (e := (2, .look ⟨⟨1, some "acme", 5000000⟩, some ⟨1⟩⟩))
      (served_of_awake (by decide +kernel) (by decide +kernel) nofun (by rintro op ⟨⟩))
      (by decide +kernel)
    exact run_snoc hlook (e := (3, .block 2 none 1))
      (served_of_awake (by decide +kernel) (by decide +kernel) nofun (by rintro op ⟨⟩))
      (by decide +kernel)
  exact calls_attended 10000 1 60 0 hrun

end BlockingQueue

end SemanticBus
