import SemanticBus.Queue.Life

/-!
# Settled tasks

A task is settled when its status is terminal.  The scan, `cancel` and
`clear_expired` start from pending tasks, but `complete` and `fail` do not look
at the status, and the scan expires the tasks of the items it pops before it
does.  `settled_stays` is what holds: as long as no call acknowledges a settled
task and no scan meets a visible, out-of-date item of one, settled tasks keep
their status and their result and are never handed out again.

`late_fail_revives` is the run in which an acknowledgement that comes too late
puts a completed task back in the queue.
-/

universe u

namespace SemanticBus.InMemoryTaskQueue

variable {η : Type u} [MinHeap η PriorityItem.key]
variable {q q' : InMemoryTaskQueue η} {now : Time} {c : Call} {id : UUID}

def Settled (q : InMemoryTaskQueue η) (id : UUID) : Prop :=
  ∃ status, q.status.get? id = some status ∧ status.isTerminal = true

instance (q : InMemoryTaskQueue η) (id : UUID) : Decidable (q.Settled id) :=
  decidable_of_iff ((q.status.get? id).any TaskStatus.isTerminal = true)
    (by rw [Option.any_eq_true]; rfl)

/-- The operation does not come back to a settled task: it acknowledges none,
and a scan pops no visible item of one that is past its TTL. -/
def SparesSettled (q : InMemoryTaskQueue η) (now : Time) : QueueOp → Prop
  | .complete id _ => ¬ q.Settled id
  | .fail id _ _ _ => ¬ q.Settled id
  | .dequeue tenantId => q.closed = false →
      ∀ item ∈ q.scanned now tenantId, q.lapsed now item = true → ¬ q.Settled item.taskId
  | _ => True

instance (q : InMemoryTaskQueue η) (now : Time) : ∀ op, Decidable (q.SparesSettled now op)
  | .complete id _ => inferInstanceAs (Decidable (¬ q.Settled id))
  | .fail id _ _ _ => inferInstanceAs (Decidable (¬ q.Settled id))
  | .dequeue tenantId => inferInstanceAs (Decidable (q.closed = false →
      ∀ item ∈ q.scanned now tenantId, q.lapsed now item = true → ¬ q.Settled item.taskId))
  | .enqueue _ _ | .cancel _ | .clearExpired | .shutdown => isTrue trivial

/-- A call that spares settled tasks leaves the task as it is and does not hand it out. -/
theorem TaskMove.settled {v' : TaskView} (h : TaskMove q now c id (q.view id) v') (hq : q.Ok)
    (hid : q.Settled id) (hop : q.SparesSettled now c.op) :
    v'.status = q.status.get? id ∧ v'.result = q.results.get? id ∧ c.handedOut ≠ some id := by
  obtain ⟨status, hstatus, hterm⟩ := hid
  have hnot : q.status.get? id ≠ some .pending := by
    intro hp
    obtain rfl := Option.some.inj (hstatus.symm.trans hp)
    cases hterm
  cases h with
  | keep hout _ _ => exact ⟨rfl, rfl, hout⟩
  | accept _ _ _ hnone =>
      have hsome := (hq id).task_isSome (by rw [view, hstatus]; rfl)
      rw [hnone] at hsome
      cases hsome
  | claim _ _ _ hp _ _ _ => exact absurd hp hnot
  | lapse hc _ hopen _ hmem hl hid _ =>
      rw [hc] at hop
      exact absurd ⟨status, hid ▸ hstatus, hterm⟩ (hop hopen _ hmem hl)
  | clear _ _ hp _ => exact absurd hp hnot
  | complete hc _ _ =>
      rw [hc] at hop
      exact absurd ⟨status, hstatus, hterm⟩ hop
  | retry hc _ _ _ =>
      rw [hc] at hop
      exact absurd ⟨status, hstatus, hterm⟩ hop
  | overflow hc _ _ _ _ _ =>
      rw [hc] at hop
      exact absurd ⟨status, hstatus, hterm⟩ hop
  | fail hc _ _ _ =>
      rw [hc] at hop
      exact absurd ⟨status, hstatus, hterm⟩ hop
  | cancel _ _ hp _ => exact absurd hp hnot

/-- The runs in which every call spares the tasks settled before it. -/
abbrev SparingRun : Time × InMemoryTaskQueue η → List (Time × Call) →
    Time × InMemoryTaskQueue η → Prop :=
  Run (Step.Only (fun s a ↦ s.2.SparesSettled a.1 a.2.op) (Step.Timed Calls))

/-- A settled task keeps its status and its result and is not handed out, from
any consistent state on. -/
theorem SparingRun.settled {s s' : Time × InMemoryTaskQueue η} {cs : List (Time × Call)}
    (h : SparingRun s cs s') (hs : s.2.Ok) (hid : s.2.Settled id) :
    s'.2.status.get? id = s.2.status.get? id ∧ s'.2.results.get? id = s.2.results.get? id ∧
      ∀ a ∈ cs, a.2.handedOut ≠ some id := by
  induction h with
  | nil s => exact ⟨rfl, rfl, by simp⟩
  | @cons s s₁ s' a cs hstep _ ih =>
      obtain ⟨hspare, _, _, hcall⟩ := hstep
      obtain ⟨hstatus, hresult, hout⟩ := (exec_move hs hcall id).settled hs hid hspare
      have hid₁ : s₁.2.Settled id := by
        obtain ⟨status, h, hterm⟩ := hid
        exact ⟨status, hstatus.trans h, hterm⟩
      obtain ⟨hstatus', hresult', hout'⟩ := ih (exec_ok hs hcall) hid₁
      exact ⟨hstatus'.trans hstatus, hresult'.trans hresult,
        List.forall_mem_cons.mpr ⟨hout, hout'⟩⟩

/-- In every run from an empty queue whose calls spare settled tasks, a task
that is settled at some point has the same status and the same result at every
later point, and no later call hands it out. -/
theorem settled_stays {maxSize : Int} {retryBaseDelay retryMaxDelay : ℚ} {start : Time}
    {s s' : Time × InMemoryTaskQueue η} {cs cs' : List (Time × Call)}
    (h : SparingRun (start, new maxSize retryBaseDelay retryMaxDelay) cs s)
    (h' : SparingRun s cs' s') (hid : s.2.Settled id) :
    s'.2.status.get? id = s.2.status.get? id ∧ s'.2.results.get? id = s.2.results.get? id ∧
      ∀ a ∈ cs', a.2.handedOut ≠ some id :=
  h'.settled (QueueRun.ok h.of_only (new_ok _ _ _)) hid

section Witness

def sampleResult : TaskResult := { taskId := ⟨1⟩, status := .completed, processedAt := 0 }

/-- A task that is enqueued, claimed and completed. -/
def workScript : List (Time × QueueOp) :=
  [(0, .enqueue sampleTask 0), (0, .dequeue none), (1, .complete ⟨1⟩ sampleResult)]

/-- A cancellation, a sweep and a scan after the TTL of the task. -/
def idleScript : List (Time × QueueOp) :=
  [(2, .cancel ⟨1⟩), (400000000, .clearExpired), (400000000, .dequeue none)]

/-- A failure reported after the completion, and a scan three seconds later. -/
def lateScript : List (Time × QueueOp) :=
  [(2, .fail ⟨1⟩ "EXECUTION_ERROR" "too late" true), (3000000, .dequeue none)]

def cancelScript : List (Time × QueueOp) := [(0, .enqueue sampleTask 0), (0, .cancel ⟨1⟩)]

theorem settled_stays_sample :
    (playState (playState (0, sampleQueue) workScript) idleScript).2.status.get? ⟨1⟩
      = (playState (0, sampleQueue) workScript).2.status.get? ⟨1⟩ :=
  (settled_stays (only_play (by decide +kernel))
    (only_play (by decide +kernel)) (by decide +kernel)).1

/-- A failure report that comes after the completion puts the task back in the
queue, and a later scan hands it out again.  A scan after the TTL turns a
cancelled task into an expired one, through the item it left in the heap. -/
theorem settled_disturbed :
    (QueueRun (0, sampleQueue) (playCalls (0, sampleQueue) workScript)
        (playState (0, sampleQueue) workScript) ∧
      QueueRun (playState (0, sampleQueue) workScript)
        (playCalls (playState (0, sampleQueue) workScript) lateScript)
        (playState (playState (0, sampleQueue) workScript) lateScript) ∧
      (playState (0, sampleQueue) workScript).2.status.get? ⟨1⟩ = some .completed ∧
      (playState (playState (0, sampleQueue) workScript) lateScript).2.status.get? ⟨1⟩
        = some .processing ∧
      (playCalls (playState (0, sampleQueue) workScript) lateScript).map (·.2.handedOut)
        = [none, some ⟨1⟩]) ∧
    (QueueRun (0, sampleQueue) (playCalls (0, sampleQueue) cancelScript)
        (playState (0, sampleQueue) cancelScript) ∧
      QueueRun (playState (0, sampleQueue) cancelScript)
        (playCalls (playState (0, sampleQueue) cancelScript) [(400000000, .dequeue none)])
        (playState (playState (0, sampleQueue) cancelScript) [(400000000, .dequeue none)]) ∧
      (playState (0, sampleQueue) cancelScript).2.status.get? ⟨1⟩ = some .cancelled ∧
      (playState (playState (0, sampleQueue) cancelScript)
        [(400000000, .dequeue none)]).2.status.get? ⟨1⟩ = some .expired) := by
  refine ⟨⟨?_, ?_, ?_, ?_, ?_⟩, ?_, ?_, ?_, ?_⟩
  · exact run_play (by decide +kernel)
  · exact run_play (by decide +kernel)
  · decide +kernel
  · decide +kernel
  · decide +kernel
  · exact run_play (by decide +kernel)
  · exact run_play (by decide +kernel)
  · decide +kernel
  · decide +kernel

end Witness

end SemanticBus.InMemoryTaskQueue
