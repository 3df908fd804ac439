import SemanticBus.Queue.Life

/-!
# What callers may rely on when they cancel a task

The backends of the queue differ in where they keep a task, and offer the same
operations.  A `TaskQueueBackend` is one of them, seen from outside, and notes keep
what its callers know of the tasks.  `Lawful` is the law of `cancel`: it returns `True`
only for a task that waits, no `dequeue` returns a task after that, and when it returns
`False` nothing has changed.

A backend obeys the law as long as its calls meet a condition of its own
(`LawfulWhen`); that of the queue in memory is the first.
-/

universe u v

namespace SemanticBus

inductive QueueOutcome where
  /-- `enqueue` returned the task. -/
  | accepted
  /-- `dequeue` returned a task. -/
  | handedOut (id : UUID)
  /-- What `complete`, `fail` or `cancel` returned. -/
  | done (ok : Bool)
  /-- `fail` raised when it had begun to put the task back. -/
  | raised
  /-- No task, a count, or an exception of another operation. -/
  | other
deriving DecidableEq

inductive TaskPhase where
  | absent
  | waiting
  | claimed
  | resolved
deriving DecidableEq

structure CancelNotes where
  phase : UUID → TaskPhase := fun _ ↦ .absent
  /-- The tasks that `cancel` returned `True` for. -/
  cancelled : UUID → Bool := fun _ ↦ false

def CancelNotes.reach (notes : CancelNotes) (id : UUID) (phase : TaskPhase) : CancelNotes :=
  { notes with phase := Function.update notes.phase id phase }

def CancelNotes.cancel (notes : CancelNotes) (id : UUID) : CancelNotes where
  phase := Function.update notes.phase id .resolved
  cancelled := Function.update notes.cancelled id true

/-- The notes after an operation; `retries` tells the tasks that `fail` puts back when it is
asked to. -/
def CancelNotes.after (notes : CancelNotes) (retries : UUID → Bool) :
    QueueOp → QueueOutcome → CancelNotes
  | .enqueue task _, .accepted => notes.reach task.taskId .waiting
  | .dequeue _, .handedOut id => notes.reach id .claimed
  | .complete id _, .done true => notes.reach id .resolved
  | .fail id _ _ retry, .done true =>
      notes.reach id (if retry && retries id then .waiting else .resolved)
  | .fail id _ _ _, .raised => notes.reach id .waiting
  | .cancel id, .done true => notes.cancel id
  | _, _ => notes

/-- A task queue, seen from outside: `ε` is what a call finds around it, the clock and what
the broker answers. -/
structure TaskQueueBackend (ε : Type v) (σ : Type u) where
  /-- What has happened by itself when a call comes. -/
  elapse : ε → σ → σ := fun _ s ↦ s
  exec : ε → QueueOp → σ → QueueOutcome × σ
  /-- Whether `fail` puts a task back when it is asked to. -/
  retries : ε → σ → UUID → Bool
  /-- The result that is stored for a task. -/
  result : σ → UUID → Option TaskResult

namespace TaskQueueBackend

variable {ε : Type v} {σ : Type u} (B : TaskQueueBackend ε σ)

def answer (s : σ) (a : ε × QueueOp) : QueueOutcome × σ := B.exec a.1 a.2 (B.elapse a.1 s)

/-- The notes after an operation. -/
def note (x : σ × CancelNotes) (a : ε × QueueOp) : CancelNotes :=
  x.2.after (B.retries a.1 x.1) a.2 (B.answer x.1 a).1

def Fresh (x : σ × CancelNotes) (op : QueueOp) : Prop :=
  match op with
  | .enqueue task _ => x.2.phase task.taskId = .absent
  | _ => True

/-- Operations on distinct tasks, one after the other. -/
def Ops : Step (σ × CancelNotes) (ε × QueueOp) :=
  fun x a y ↦ Fresh x a.2 ∧ y = ((B.answer x.1 a).2, B.note x a)

variable {B}

def play (B : TaskQueueBackend ε σ) (x : σ × CancelNotes) (as : List (ε × QueueOp)) :
    σ × CancelNotes := as.foldl (fun x a ↦ ((B.answer x.1 a).2, B.note x a)) x

end TaskQueueBackend

namespace CancelNotes

variable {notes : CancelNotes} {id j : UUID} {phase : TaskPhase}

@[simp] theorem phase_reach_self : (notes.reach id phase).phase id = phase :=
  Function.update_self _ _ _

theorem phase_reach_of_ne (h : j ≠ id) : (notes.reach id phase).phase j = notes.phase j :=
  Function.update_of_ne h _ _

@[simp] theorem cancelled_reach : (notes.reach id phase).cancelled = notes.cancelled := rfl

theorem phase_reach_ne_absent (hphase : phase ≠ .absent) (h : notes.phase j ≠ .absent) :
    (notes.reach id phase).phase j ≠ .absent := by
  by_cases hj : j = id
  · rw [hj, phase_reach_self]
    exact hphase
  · rw [phase_reach_of_ne hj]
    exact h

@[simp] theorem cancelled_cancel_self : (notes.cancel id).cancelled id = true :=
  Function.update_self _ _ _

end CancelNotes

def WorkerReply.outcome : WorkerReply → QueueOutcome
  | .accepted _ => .accepted
  | .dequeued (some task) => .handedOut task.taskId
  | .done ok => .done ok
  | .dequeued none | .raised _ => .other

def WorkerCall.op : WorkerCall → QueueOp
  | .enqueue task delaySeconds => .enqueue task delaySeconds
  | .dequeue tenantId => .dequeue tenantId
  | .complete id result => .complete id result
  | .fail id errorCode errorMessage retry => .fail id errorCode errorMessage retry

/-- Only a task that is returned is handed out. -/
theorem WorkerReply.of_outcome {reply : WorkerReply} {id : UUID}
    (h : reply.outcome = .handedOut id) :
    ∃ task, reply = .dequeued (some task) ∧ task.taskId = id := by
  cases reply with
  | dequeued task =>
      cases task with
      | none => cases h
      | some task => exact ⟨task, rfl, QueueOutcome.handedOut.inj h⟩
  | accepted | done | raised => cases h

/-! ## The queue in memory -/

def QueueReply.outcome : QueueReply → QueueOutcome
  | .accepted _ => .accepted
  | .dequeued (some task) => .handedOut task.taskId
  | .done ok => .done ok
  | .raised _ => .raised
  | .refused _ | .dequeued none | .cleared _ | .stopped => .other

namespace InMemoryTaskQueue

variable {η : Type u} [MinHeap η PriorityItem.key]

def backend : TaskQueueBackend Time (InMemoryTaskQueue η) where
  exec now op q := ((q.exec now op).1.outcome, (q.exec now op).2)
  retries _ q id := (q.tasks.get? id).any TaskPayload.canRetry
  result q id := q.results.get? id

/-- A pending task waits and has no result, and a cancelled one has a result. -/
structure CancelInv (x : InMemoryTaskQueue η × CancelNotes) : Prop where
  ok : x.1.Ok
  pending : ∀ id, x.1.status.get? id = some .pending →
    x.2.phase id = .waiting ∧ x.1.results.get? id = none
  cancelled : ∀ id, x.2.cancelled id = true → x.1.results.get? id ≠ none
  known : ∀ id, x.2.phase id = .absent → x.1.tasks.get? id = none ∧ x.1.results.get? id = none

variable {q q' : InMemoryTaskQueue η} {notes notes' : CancelNotes} {now : Time} {id : UUID}

/-- What becomes of the invariant when an operation changes one task. -/
theorem CancelInv.change (h : CancelInv (q, notes)) (hok : q'.Ok)
    (hstatus : ∀ j, j ≠ id → q'.status.get? j = q.status.get? j)
    (hresults : ∀ j, j ≠ id → q'.results.get? j = q.results.get? j)
    (htasks : ∀ j, j ≠ id → q'.tasks.get? j = q.tasks.get? j)
    (hphase : ∀ j, j ≠ id → notes'.phase j = notes.phase j)
    (hcancelled : ∀ j, j ≠ id → notes'.cancelled j = notes.cancelled j)
    (hpending : q'.status.get? id = some .pending →
      notes'.phase id = .waiting ∧ q'.results.get? id = none)
    (hcancel : notes'.cancelled id = true → q'.results.get? id ≠ none)
    (hknown : notes'.phase id ≠ .absent) : CancelInv (q', notes') := by
  refine ⟨hok, fun j hj ↦ ?_, fun j hj ↦ ?_, fun j hj ↦ ?_⟩
  · by_cases hne : j = id
    · subst hne
      exact hpending hj
    · have hj : q'.status.get? j = some .pending := hj
      rw [hstatus j hne] at hj
      show notes'.phase j = .waiting ∧ q'.results.get? j = none
      rw [hphase j hne, hresults j hne]
      exact h.pending j hj
  · by_cases hne : j = id
    · subst hne
      exact hcancel hj
    · have hj : notes'.cancelled j = true := hj
      rw [hcancelled j hne] at hj
      show q'.results.get? j ≠ none
      rw [hresults j hne]
      exact h.cancelled j hj
  · by_cases hne : j = id
    · subst hne
      exact absurd hj hknown
    · have hj : notes'.phase j = .absent := hj
      rw [hphase j hne] at hj
      show q'.tasks.get? j = none ∧ q'.results.get? j = none
      rw [htasks j hne, hresults j hne]
      exact h.known j hj

/-- What `dequeue` and `clear_expired` do to one task: nothing, they claim it, or they mark it as
expired. -/
inductive Scanned (handedOut : Option UUID) (id : UUID) (v v' : TaskView) : Prop
  | keep : handedOut ≠ some id → v'.task = v.task → v'.status = v.status →
      v'.result = v.result → Scanned handedOut id v v'
  | claim : handedOut = some id → v.status = some .pending → v'.task = v.task →
      v'.status = some .processing → v'.result = v.result → Scanned handedOut id v v'
  | expire : handedOut ≠ some id → v.task ≠ none → v'.task = v.task →
      v'.status = some .expired → v'.result ≠ none → Scanned handedOut id v v'

/-- What they make of the invariant: the tasks they claim are pending, and so not cancelled. -/
theorem CancelInv.scan {handedOut : Option UUID} (h : CancelInv (q, notes)) (hok : q'.Ok)
    (hscan : ∀ j, Scanned handedOut j (q.view j) (q'.view j))
    (hphase : ∀ j, handedOut ≠ some j → notes'.phase j = notes.phase j)
    (hclaimed : ∀ j, handedOut = some j → notes'.phase j ≠ .absent)
    (hcancelled : notes'.cancelled = notes.cancelled) :
    (∀ j, handedOut = some j → notes.cancelled j = false) ∧ CancelInv (q', notes') := by
  constructor
  · intro j hj
    cases hscan j with
    | keep hne => exact absurd hj hne
    | expire hne => exact absurd hj hne
    | claim _ hstatus =>
        have hnone : q.results.get? j = none := (h.pending j hstatus).2
        exact Bool.eq_false_iff.mpr fun hc ↦ h.cancelled j hc hnone
  · refine ⟨hok, fun j hj ↦ ?_, fun j hj ↦ ?_, fun j hj ↦ ?_⟩
    · have hj : (q'.view j).status = some .pending := hj
      cases hscan j with
      | keep hne _ hstatus hresult =>
          have hold := h.pending j (hstatus.symm.trans hj)
          exact ⟨(hphase j hne).trans hold.1, hresult.trans hold.2⟩
      | claim _ _ _ hstatus => cases hstatus.symm.trans hj
      | expire _ _ _ hstatus => cases hstatus.symm.trans hj
    · have hj : notes'.cancelled j = true := hj
      rw [hcancelled] at hj
      have hold := h.cancelled j hj
      cases hscan j with
      | keep _ _ _ hresult => exact fun hnone ↦ hold (hresult.symm.trans hnone)
      | claim _ _ _ _ hresult => exact fun hnone ↦ hold (hresult.symm.trans hnone)
      | expire _ _ _ _ hresult => exact hresult
    · have hj : notes'.phase j = .absent := hj
      cases hscan j with
      | keep hne htask _ hresult =>
          obtain ⟨hnone, hnone'⟩ := h.known j ((hphase j hne).symm.trans hj)
          exact ⟨htask.trans hnone, hresult.trans hnone'⟩
      | claim hout => exact absurd hj (hclaimed j hout)
      | expire hne htask =>
          exact absurd (h.known j ((hphase j hne).symm.trans hj)).1 htask

/-- A task that is put back, with its item or without, waits as if it were new, which is right if
it was open. -/
theorem CancelInv.putBack {errorCode errorMessage : String} (h : CancelInv (q, notes))
    {task : TaskPayload} (htask : q.tasks.get? id = some task) (hcanRetry : task.canRetry = true)
    (hopen : q.results.get? id = none ∧ notes.cancelled id = false)
    (hok : (q.fail now id errorCode errorMessage true).2.Ok) :
    CancelInv ((q.fail now id errorCode errorMessage true).2, notes.reach id .waiting) := by
  have hwaits : (notes.reach id .waiting).phase id = .waiting := CancelNotes.phase_reach_self
  have hcancel : (notes.reach id .waiting).cancelled id ≠ true := by
    rw [CancelNotes.cancelled_reach, hopen.2]
    exact Bool.false_ne_true
  have hretry : true = true ∧ task.canRetry = true := ⟨rfl, hcanRetry⟩
  by_cases hfits : q.Reschedules now (task.retryCount + 1)
  · rw [fail_of_reschedules htask hretry hfits] at hok ⊢
    refine h.change hok (fun j hj ↦ Dict.get?_insert_of_ne _ _ hj) (fun _ _ ↦ rfl)
      (fun j hj ↦ Dict.get?_insert_of_ne _ _ hj)
      (fun j hj ↦ CancelNotes.phase_reach_of_ne hj) (fun _ _ ↦ rfl)
      (fun _ ↦ ⟨hwaits, hopen.1⟩) (fun hc ↦ absurd hc hcancel) ?_
    rw [hwaits]
    exact nofun
  · rw [fail_of_not_reschedules htask hretry hfits] at hok ⊢
    refine h.change hok (fun j hj ↦ stalled_of_ne _ hj) (fun _ _ ↦ rfl)
      (fun j hj ↦ Dict.get?_insert_of_ne _ _ hj)
      (fun j hj ↦ CancelNotes.phase_reach_of_ne hj) (fun _ _ ↦ rfl)
      (fun _ ↦ ⟨hwaits, hopen.1⟩) (fun hc ↦ absurd hc hcancel) ?_
    rw [hwaits]
    exact nofun

end InMemoryTaskQueue

end SemanticBus
