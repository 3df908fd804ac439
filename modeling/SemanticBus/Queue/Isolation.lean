import SemanticBus.Queue.Capacity
import SemanticBus.Queue.Clearing

/-!
# The tenants of a queue

All tasks are in one heap, and every scan takes items out of it and puts some back.  What is left of
a task after that is either the same to every later `dequeue` and acknowledgement or past its TTL:
its view has the `SameFuture`.

Two queues differ by the tasks of a tenant (`Without`) when the other tasks have the same future in
both.  A `dequeue` returns a task of least rank, and ranks are distinct, so it returns the same task
from both unless it returns one of that tenant: the operations of the tenant are hidden from the
others (`isolated`).  A `dequeue` without a filter that returns a task of the tenant has to count as
one of its operations.  If it stays in the run, it returns a task of somebody else (`not_isolated`).
-/

universe u

namespace SemanticBus

def QueueOp.subject : QueueOp → Option UUID
  | .enqueue task _ => some task.taskId
  | .complete id _ | .fail id _ _ _ | .cancel id => some id
  | .dequeue _ | .clearExpired | .shutdown => none

namespace TaskView

/-- What the queue holds about a task makes it eligible without a filter. -/
structure Ready (v : TaskView) (now : Time) (task : TaskPayload) : Prop where
  stored : v.task = some task
  pending : v.status = some .pending
  visible : ∃ item ∈ v.items, item.visibleAt ≤ now
  fresh : task.isExpired now = false

/-- Two views that no later `dequeue` or acknowledgement tells apart. -/
structure SameFuture (now : Time) (v v' : TaskView) : Prop where
  task : v.task = v'.task
  processing : v.status = some .processing ↔ v'.status = some .processing
  ready : ∀ now' task, now ≤ now' → (v.Ready now' task ↔ v'.Ready now' task)

variable {v v' v'' : TaskView} {now now' : Time}

namespace SameFuture

theorem refl (now : Time) (v : TaskView) : SameFuture now v v :=
  ⟨rfl, Iff.rfl, fun _ _ _ ↦ Iff.rfl⟩

theorem of_eq (now : Time) (h : v = v') : SameFuture now v v' := h ▸ refl now v

theorem symm (h : SameFuture now v v') : SameFuture now v' v :=
  ⟨h.task.symm, h.processing.symm, fun now' task hle ↦ (h.ready now' task hle).symm⟩

theorem trans (h : SameFuture now v v') (h' : SameFuture now v' v'') : SameFuture now v v'' := by
  constructor
  · exact h.task.trans h'.task
  · exact h.processing.trans h'.processing
  · intro now' task hle
    exact (h.ready now' task hle).trans (h'.ready now' task hle)

theorem mono (h : SameFuture now v v') (hle : now ≤ now') : SameFuture now' v v' :=
  ⟨h.task, h.processing, fun t task hle' ↦ h.ready t task (le_trans hle hle')⟩

/-- Tasks that are not pending have the same future if both or none is being processed. -/
theorem of_not_pending (htask : v.task = v'.task) (hv : v.status ≠ some .pending)
    (hv' : v'.status ≠ some .pending)
    (hprocessing : v.status = some .processing ↔ v'.status = some .processing) :
    SameFuture now v v' := by
  refine ⟨htask, hprocessing, fun now' task _ ↦ ⟨fun hready ↦ ?_, fun hready ↦ ?_⟩⟩
  · exact absurd hready.pending hv
  · exact absurd hready.pending hv'

/-- Tasks that are settled in the same way have the same future. -/
theorem of_status {status : TaskStatus} (htask : v.task = v'.task) (hv : v.status = some status)
    (hv' : v'.status = some status) (hpending : status ≠ .pending) : SameFuture now v v' := by
  refine of_not_pending htask ?_ ?_ ?_
  · rw [hv]
    exact fun he ↦ hpending (Option.some.inj he)
  · rw [hv']
    exact fun he ↦ hpending (Option.some.inj he)
  · rw [hv, hv']

/-- Pending tasks with the same items have the same future. -/
theorem of_items (htask : v.task = v'.task) (hstatus : v.status = v'.status)
    (hitems : v.items = v'.items) : SameFuture now v v' := by
  obtain ⟨task, status, result, items⟩ := v
  obtain ⟨task', status', result', items'⟩ := v'
  obtain rfl : task = task' := htask
  obtain rfl : status = status' := hstatus
  obtain rfl : items = items' := hitems
  refine ⟨rfl, Iff.rfl, fun now' t _ ↦ ?_⟩
  constructor
  · intro h
    exact ⟨h.stored, h.pending, h.visible, h.fresh⟩
  · intro h
    exact ⟨h.stored, h.pending, h.visible, h.fresh⟩

/-- A task past its TTL may as well be expired. -/
theorem of_expired {task : TaskPayload} (htask : v.task = some task) (htask' : v'.task = some task)
    (hexp : task.isExpired now = true) (hv : v.status ≠ some .processing)
    (hv' : v'.status ≠ some .processing) : SameFuture now v v' := by
  have hnot : ∀ {w : TaskView} {now' : Time} {t : TaskPayload}, w.task = some task → now ≤ now' →
      ¬ w.Ready now' t := by
    intro w now' t hw hle hready
    obtain rfl := Option.some.inj (hw.symm.trans hready.stored)
    cases hready.fresh.symm.trans (TaskPayload.isExpired_mono hle hexp)
  refine ⟨htask.trans htask'.symm, ⟨fun h ↦ absurd h hv, fun h ↦ absurd h hv'⟩, ?_⟩
  intro now' t hle
  exact ⟨fun h ↦ absurd h (hnot htask hle), fun h ↦ absurd h (hnot htask' hle)⟩

end SameFuture

end TaskView

namespace InMemoryTaskQueue

open TaskView

variable {η : Type u} [MinHeap η PriorityItem.key] {q q' p p' : InMemoryTaskQueue η}
  {now : Time} {id : UUID} {task : TaskPayload} {c : Call}

/-- A task is eligible if its view is ready and the filter lets it through. -/
theorem eligible_iff_ready {tenantId : Option String} :
    q.Eligible now tenantId task ↔
      (q.view task.taskId).Ready now task ∧ matchesTenant tenantId task = true := by
  constructor
  · intro h
    obtain ⟨item, hmem, hid, hvisible⟩ := h.visible
    exact ⟨⟨h.stored, h.pending, ⟨item, Multiset.mem_filter.mpr ⟨hmem, hid⟩, hvisible⟩, h.fresh⟩,
      h.matches_tenant⟩
  · rintro ⟨h, hmatches⟩
    obtain ⟨item, hmem, hvisible⟩ := h.visible
    obtain ⟨hmem, hid⟩ := Multiset.mem_filter.mp hmem
    exact ⟨h.stored, h.pending, hmatches, ⟨item, hmem, hid, hvisible⟩, h.fresh⟩

/-! ## What an operation does to the tasks that it is not about -/

/-- A scan changes no task. -/
theorem tasks_dequeue (q : InMemoryTaskQueue η) (now : Time) (tenantId : Option String) :
    (q.dequeue now tenantId).2.tasks = q.tasks :=
  dequeue_eq InMemoryTaskQueue.tasks (fun _ _ ↦ tasks_markExpired _) (fun _ _ _ ↦ rfl) tenantId

/-- A scan closes no queue. -/
theorem closed_dequeue (q : InMemoryTaskQueue η) (now : Time) (tenantId : Option String) :
    (q.dequeue now tenantId).2.closed = q.closed :=
  dequeue_eq InMemoryTaskQueue.closed (fun _ _ ↦ closed_markExpired _) (fun _ _ _ ↦ rfl) tenantId

/-- A `dequeue` leaves the future of the tasks that it does not return. -/
theorem dequeue_future (hq : q.Tallied) {tenantId : Option String}
    (hout : ∀ task, (q.dequeue now tenantId).1 = some task → task.taskId ≠ id) :
    SameFuture now ((q.dequeue now tenantId).2.view id) (q.view id) := by
  cases hclosed : q.closed with
  | true =>
      rw [dequeue, if_pos hclosed]
      exact SameFuture.refl now _
  | false =>
      have htasks := tasks_dequeue q now tenantId
      have hcall : Calls now q ⟨.dequeue tenantId, .dequeued (q.dequeue now tenantId).1⟩
          (q.dequeue now tenantId).2 := ⟨trivial, rfl⟩
      have hnot : Call.handedOut ⟨.dequeue tenantId, .dequeued (q.dequeue now tenantId).1⟩
          ≠ some id := by
        intro hhanded
        cases hres : (q.dequeue now tenantId).1 with
        | none =>
            rw [hres] at hhanded
            cases hhanded
        | some task =>
            rw [hres] at hhanded
            exact hout task hres (Option.some.inj hhanded)
      have hmove := exec_move hq.ok hcall id
      refine ⟨congrArg (Dict.get? · id) htasks, ⟨fun hp ↦ ?_, fun hp ↦ ?_⟩, fun now' task hle ↦ ?_⟩
      · generalize (q.dequeue now tenantId).2.view id = v' at hmove hp
        cases hmove with
        | keep => exact hp
        | accept hop => cases hop
        | claim _ hreply ht =>
            exact absurd (hq.ok.taskId_eq ht) (hout _ (QueueReply.dequeued.inj hreply))
        | lapse => cases hp
        | clear hop => cases hop
        | complete hop => cases hop
        | retry hop => cases hop
        | overflow hop => cases hop
        | fail hop => cases hop
        | cancel hop => cases hop
      · exact (hmove.processing (hq.ok id) (hq.spent id).counted hp (by rintro ⟨⟩)).1
      · obtain ⟨-, -, hkept⟩ := @dequeue_spec η _ q now tenantId hq.ok hclosed
        by_cases hid : task.taskId = id
        · subst hid
          have hiff := hkept now' none task hle
          rw [eligible_iff_ready, eligible_iff_ready] at hiff
          constructor
          · intro h
            exact (hiff.mp ⟨h, rfl⟩).1.1
          · intro h
            exact (hiff.mpr ⟨⟨h, rfl⟩, fun hres ↦ hout task hres rfl⟩).1
        · -- the view of an id is of no task with another id
          have htask : (q.view id).task ≠ some task := fun ht ↦ hid (hq.ok.taskId_eq ht)
          constructor
          · intro h
            have ht : (q.dequeue now tenantId).2.tasks.get? id = some task := h.stored
            rw [htasks] at ht
            exact absurd ht htask
          · intro h
            exact absurd h.stored htask

/-- `clear_expired` leaves the future of all tasks. -/
theorem clearExpired_future (q : InMemoryTaskQueue η) (now : Time) (id : UUID) :
    SameFuture now ((q.clearExpired now).2.view id) (q.view id) := by
  have htasks : ∀ e ∈ q.tasks.entries, q.tasks.get? e.1 = some e.2 :=
    fun e he ↦ Dict.mem_entries_iff.mp he
  rcases view_clearStep_foldl q.tasks.nodup (0, q) htasks id with
    hsame | ⟨task, hmem, hpending, hexp, hview⟩
  · exact SameFuture.of_eq now hsame
  · have hstored : (q.view id).task = some task := Dict.mem_entries_iff.mp hmem
    have hcleared : (q.clearExpired now).2.view id = { q.view id with
        status := some .expired, result := some (expiredResult now task id) } := hview
    have hpending : (q.view id).status = some .pending := hpending
    rw [hcleared]
    refine SameFuture.of_expired hstored hstored hexp ?_ ?_
    · exact nofun
    · rw [hpending]
      exact nofun

theorem view_enqueue_of_ne (hne : id ≠ task.taskId) (delaySeconds : ℚ) :
    (q.exec now (.enqueue task delaySeconds)).2.view id = q.view id := by
  rw [exec]
  cases hres : q.enqueue now task delaySeconds with
  | error e => rfl
  | ok q' =>
      obtain ⟨-, -, rfl⟩ := enqueue_ok hres
      apply TaskView.ext
      · exact Dict.get?_insert_of_ne _ _ hne
      · exact Dict.get?_insert_of_ne _ _ hne
      · rfl
      · exact itemsOf_push_of_ne hne.symm

theorem view_complete_of_ne {id' : UUID} (hne : id ≠ id') (result : TaskResult) :
    (q.complete id' result).2.view id = q.view id := by
  rw [complete]
  split
  · rfl
  · apply TaskView.ext
    · rfl
    · exact Dict.get?_insert_of_ne _ _ hne
    · exact Dict.get?_insert_of_ne _ _ hne
    · rfl

theorem view_fail_of_ne (hq : q.Ok) {id' : UUID} (hne : id ≠ id')
    (errorCode errorMessage : String) (retry : Bool) :
    (q.fail now id' errorCode errorMessage retry).2.view id = q.view id := by
  rw [fail]
  split
  · rfl
  · rename_i task ht
    split
    · by_cases hfits : q.Reschedules now (task.retryCount + 1)
      · rw [reschedule_of _ hfits]
        apply TaskView.ext
        · exact Dict.get?_insert_of_ne _ _ hne
        · exact Dict.get?_insert_of_ne _ _ hne
        · rfl
        · exact itemsOf_push_of_ne fun he ↦ hne (he.symm.trans (hq.taskId_eq ht))
      · rw [reschedule_of_not _ hfits]
        apply TaskView.ext
        · exact Dict.get?_insert_of_ne _ _ hne
        · exact stalled_of_ne _ hne
        · rfl
        · rfl
    · apply TaskView.ext
      · rfl
      · exact Dict.get?_insert_of_ne _ _ hne
      · exact Dict.get?_insert_of_ne _ _ hne
      · rfl

theorem view_cancel_of_ne {id' : UUID} (hne : id ≠ id') :
    (q.cancel now id').2.view id = q.view id := by
  rw [cancel]
  split
  · rfl
  · split
    · rfl
    · apply TaskView.ext
      · rfl
      · exact Dict.get?_insert_of_ne _ _ hne
      · exact Dict.get?_insert_of_ne _ _ hne
      · rfl

/-- Tasks are returned by `dequeue`. -/
theorem dequeue_of_returned {op : QueueOp} (h : (q.exec now op).1 = .dequeued (some task)) :
    ∃ tenantId, op = .dequeue tenantId ∧ (q.dequeue now tenantId).1 = some task := by
  cases op with
  | enqueue task' delaySeconds =>
      rw [exec] at h
      cases hres : q.enqueue now task' delaySeconds with
      | error e =>
          rw [hres] at h
          cases h
      | ok q' =>
          rw [hres] at h
          cases h
  | dequeue tenantId => exact ⟨tenantId, rfl, QueueReply.dequeued.inj h⟩
  | fail id' errorCode errorMessage retry =>
      rw [exec] at h
      cases hres : (q.fail now id' errorCode errorMessage retry).1 <;> rw [Prod.map, hres] at h <;>
        cases h
  | complete | cancel | clearExpired | shutdown => cases h

/-- A queue that returns a task is open. -/
theorem open_of_returned {tenantId : Option String}
    (h : (q.dequeue now tenantId).1 = some task) : q.closed = false := by
  rw [← Bool.not_eq_true]
  intro hclosed
  rw [dequeue, if_pos hclosed] at h
  cases h

/-- A task that is returned was eligible and is being processed. -/
theorem returned_spec (hq : q.Ok) {tenantId : Option String}
    (h : (q.dequeue now tenantId).1 = some task) :
    q.Eligible now tenantId task ∧
      (q.dequeue now tenantId).2.status.get? task.taskId = some .processing := by
  obtain ⟨heligible, -, hprocessing⟩ := (dequeue_spec hq (open_of_returned h)).2.1 task h
  exact ⟨heligible, hprocessing⟩

/-- An operation leaves the future of the tasks that it neither is about nor returns. -/
theorem exec_future (hq : q.Tallied) {op : QueueOp} (hsubject : op.subject ≠ some id)
    (hout : ∀ task, (q.exec now op).1 = .dequeued (some task) → task.taskId ≠ id) :
    SameFuture now ((q.exec now op).2.view id) (q.view id) := by
  cases op with
  | enqueue task delaySeconds =>
      have hne : id ≠ task.taskId := fun he ↦ hsubject (congrArg some he.symm)
      exact SameFuture.of_eq now (view_enqueue_of_ne hne delaySeconds)
  | dequeue tenantId =>
      exact dequeue_future hq fun task hres ↦ hout task (congrArg QueueReply.dequeued hres)
  | complete id' result =>
      have hne : id ≠ id' := fun he ↦ hsubject (congrArg some he.symm)
      exact SameFuture.of_eq now (view_complete_of_ne hne result)
  | fail id' errorCode errorMessage retry =>
      have hne : id ≠ id' := fun he ↦ hsubject (congrArg some he.symm)
      exact SameFuture.of_eq now (view_fail_of_ne hq.ok hne errorCode errorMessage retry)
  | cancel id' =>
      have hne : id ≠ id' := fun he ↦ hsubject (congrArg some he.symm)
      exact SameFuture.of_eq now (view_cancel_of_ne hne)
  | clearExpired => exact clearExpired_future q now id
  | shutdown => exact SameFuture.refl now _

/-! ## What an operation does to the task that it is about -/

/-- An `enqueue` of an open queue finds room, and no task has the rank of another one. -/
def Fits (q : InMemoryTaskQueue η) : QueueOp → Prop
  | .enqueue task _ =>
      (q.closed = false → (q.tasks.size : Int) < q.maxSize) ∧
        ∀ task' ∈ q.tasks.values, task'.rank ≠ task.rank
  | .dequeue _ | .complete _ _ | .fail _ _ _ _ | .cancel _ | .clearExpired | .shutdown => True

/-- The operation fits, and only claimed tasks are acknowledged. -/
def Admissible (q : InMemoryTaskQueue η) (op : QueueOp) : Prop := q.AcksClaimed op ∧ q.Fits op

theorem view_enqueue_self (hopen : q.closed = false) (hroom : (q.tasks.size : Int) < q.maxSize)
    (task : TaskPayload) {delaySeconds : ℚ} (hdate : ¬ DelayOverflows now delaySeconds) :
    (q.exec now (.enqueue task delaySeconds)).2.view task.taskId = { q.view task.taskId with
      task := some task
      status := some .pending
      items := itemOf task (visibleFrom now delaySeconds) ::ₘ (q.view task.taskId).items } := by
  rw [exec, enqueue, hopen, if_neg Bool.false_ne_true, if_neg (not_le.mpr hroom), if_neg hdate]
  apply TaskView.ext
  · exact Dict.get?_insert_self _ _ _
  · exact Dict.get?_insert_self _ _ _
  · rfl
  · exact itemsOf_push_self rfl

/-- There are no items of a task that is not there. -/
theorem items_of_none (hq : q.Ok) (hnone : q.tasks.get? id = none) : (q.view id).items = 0 := by
  refine Multiset.eq_zero_of_forall_notMem fun item hmem ↦ ?_
  obtain ⟨task, ht, -⟩ := (hq id).items_ok item hmem
  cases hnone.symm.trans ht

theorem enqueue_future (hq : q.Tallied) (hp : p.Tallied) (hclosed : q.closed = p.closed)
    {delaySeconds : ℚ} (hfresh : q.tasks.get? task.taskId = none)
    (hfresh' : p.tasks.get? task.taskId = none)
    (hroom : q.closed = false → (q.tasks.size : Int) < q.maxSize)
    (hroom' : p.closed = false → (p.tasks.size : Int) < p.maxSize)
    (h : SameFuture now (q.view task.taskId) (p.view task.taskId)) :
    SameFuture now ((q.exec now (.enqueue task delaySeconds)).2.view task.taskId)
      ((p.exec now (.enqueue task delaySeconds)).2.view task.taskId) := by
  cases hopen : q.closed with
  | true =>
      have hopen' : p.closed = true := hclosed.symm.trans hopen
      rw [exec, exec, enqueue, enqueue, if_pos hopen, if_pos hopen']
      exact h
  | false =>
      have hopen' : p.closed = false := hclosed.symm.trans hopen
      by_cases hdate : DelayOverflows now delaySeconds
      · have hexec : ∀ r : InMemoryTaskQueue η, r.closed = false →
            (r.tasks.size : Int) < r.maxSize → (r.exec now (.enqueue task delaySeconds)).2 = r := by
          intro r hr hsize
          rw [exec, enqueue, hr, if_neg Bool.false_ne_true, if_neg (not_le.mpr hsize), if_pos hdate]
        rw [hexec q hopen (hroom hopen), hexec p hopen' (hroom' hopen')]
        exact h
      · rw [view_enqueue_self hopen (hroom hopen) task hdate,
          view_enqueue_self hopen' (hroom' hopen') task hdate]
        apply SameFuture.of_items
        · rfl
        · rfl
        · show _ ::ₘ (q.view task.taskId).items = _ ::ₘ (p.view task.taskId).items
          rw [items_of_none hq.ok hfresh, items_of_none hp.ok hfresh']

theorem complete_future (htask : q.tasks.get? id = some task)
    (htask' : p.tasks.get? id = some task) (result : TaskResult) :
    SameFuture now ((q.complete id result).2.view id) ((p.complete id result).2.view id) := by
  have hself : ∀ {q : InMemoryTaskQueue η}, q.tasks.get? id = some task →
      ((q.complete id result).2.view id).task = some task ∧
        ((q.complete id result).2.view id).status = some .completed := by
    intro q ht
    rw [complete, ht]
    exact ⟨ht, Dict.get?_insert_self _ _ _⟩
  obtain ⟨ht, hstatus⟩ := hself htask
  obtain ⟨ht', hstatus'⟩ := hself htask'
  exact SameFuture.of_status (ht.trans ht'.symm) hstatus hstatus' (by rintro ⟨⟩)

theorem view_retry_self (hq : q.Ok) (ht : q.tasks.get? id = some task) {retry : Bool}
    (hretry : retry = true ∧ task.canRetry = true)
    (hfits : q.Reschedules now (task.retryCount + 1)) (errorCode errorMessage : String) :
    (q.fail now id errorCode errorMessage retry).2.view id = { q.view id with
      task := some { task with retryCount := task.retryCount + 1 }
      status := some .pending
      items := itemOf { task with retryCount := task.retryCount + 1 }
        (q.retryAt now (task.retryCount + 1)) ::ₘ (q.view id).items } := by
  rw [fail_of_reschedules ht hretry hfits]
  apply TaskView.ext
  · exact Dict.get?_insert_self _ _ _
  · exact Dict.get?_insert_self _ _ _
  · rfl
  · exact itemsOf_push_self (hq.taskId_eq ht)

/-- A retry that cannot be scheduled adds no item. -/
theorem view_overflow_self (ht : q.tasks.get? id = some task) {retry : Bool}
    (hretry : retry = true ∧ task.canRetry = true)
    (hfits : ¬ q.Reschedules now (task.retryCount + 1)) (errorCode errorMessage : String) :
    (q.fail now id errorCode errorMessage retry).2.view id = { q.view id with
      task := some { task with retryCount := task.retryCount + 1 }
      status := (q.stalled id (task.retryCount + 1)).get? id } := by
  rw [fail_of_not_reschedules ht hretry hfits]
  apply TaskView.ext
  · exact Dict.get?_insert_self _ _ _
  · rfl
  · rfl
  · rfl

theorem view_fail_self (ht : q.tasks.get? id = some task) {retry : Bool}
    (hretry : ¬ (retry = true ∧ task.canRetry = true)) (errorCode errorMessage : String) :
    (q.fail now id errorCode errorMessage retry).2.view id = { q.view id with
      status := some .failed
      result := some (failedResult now task id errorCode errorMessage) } := by
  rw [fail, ht]
  simp only [if_neg hretry]
  apply TaskView.ext
  · rfl
  · exact Dict.get?_insert_self _ _ _
  · exact Dict.get?_insert_self _ _ _
  · rfl

theorem fail_future (hq : q.Tallied) (hp : p.Tallied) (hsettings : q.settings = p.settings)
    (hclaimed : q.status.get? id = some .processing)
    (hclaimed' : p.status.get? id = some .processing) (htask : q.tasks.get? id = some task)
    (htask' : p.tasks.get? id = some task) (errorCode errorMessage : String) (retry : Bool) :
    SameFuture now ((q.fail now id errorCode errorMessage retry).2.view id)
      ((p.fail now id errorCode errorMessage retry).2.view id) := by
  by_cases hretry : retry = true ∧ task.canRetry = true
  · obtain ⟨-, hdelays⟩ := Prod.mk.inj hsettings
    obtain ⟨hbase, hmax⟩ := Prod.mk.inj hdelays
    -- a task that is being processed has no items
    have hitems : (q.view id).items = 0 := (hq.spent id).counted.processing hclaimed
    have hitems' : (p.view id).items = 0 := (hp.spent id).counted.processing hclaimed'
    have hat : p.retryAt now (task.retryCount + 1) = q.retryAt now (task.retryCount + 1) := by
      rw [retryAt, retryAt, retryDelay, retryDelay, hbase, hmax]
    by_cases hfits : q.Reschedules now (task.retryCount + 1)
    · have hfits' : p.Reschedules now (task.retryCount + 1) := ⟨hfits.1, hat ▸ hfits.2⟩
      rw [view_retry_self hq.ok htask hretry hfits, view_retry_self hp.ok htask' hretry hfits']
      apply SameFuture.of_items
      · rfl
      · rfl
      · show _ ::ₘ (q.view id).items = _ ::ₘ (p.view id).items
        rw [hitems, hitems', hat]
    · have hfits' : ¬ p.Reschedules now (task.retryCount + 1) :=
        fun h ↦ hfits ⟨h.1, hat ▸ h.2⟩
      rw [view_overflow_self htask hretry hfits, view_overflow_self htask' hretry hfits']
      apply SameFuture.of_items
      · rfl
      · show (q.stalled id _).get? id = (p.stalled id _).get? id
        rw [stalled, stalled]
        split
        · exact hclaimed.trans hclaimed'.symm
        · rw [Dict.get?_insert_self, Dict.get?_insert_self]
      · exact hitems.trans hitems'.symm
  · rw [view_fail_self htask hretry, view_fail_self htask' hretry]
    exact SameFuture.of_status (htask.trans htask'.symm) rfl rfl (by rintro ⟨⟩)

/-- A cancelled task is neither pending nor claimed by the cancellation. -/
theorem cancel_self (hq : q.Ok) (now : Time) (id : UUID) :
    ((q.cancel now id).2.view id).task = (q.view id).task ∧
      ((q.cancel now id).2.view id).status ≠ some .pending ∧
      (((q.cancel now id).2.view id).status = some .processing ↔
        (q.view id).status = some .processing) := by
  rw [cancel]
  split
  · rename_i hnone
    refine ⟨rfl, fun hpending ↦ ?_, Iff.rfl⟩
    have hsome := (hq id).task_isSome (Option.isSome_of_eq_some hpending)
    rw [view, hnone] at hsome
    cases hsome
  · split
    · rename_i hnot
      exact ⟨rfl, hnot, Iff.rfl⟩
    · rename_i hpending
      rw [ne_eq, not_not] at hpending
      have hstatus : (q.view id).status = some .pending := hpending
      have hcancelled : (q.status.insert id TaskStatus.cancelled).get? id = some .cancelled :=
        Dict.get?_insert_self _ _ _
      refine ⟨rfl, fun h ↦ ?_, fun h ↦ ?_, fun h ↦ ?_⟩
      · cases hcancelled.symm.trans h
      · cases hcancelled.symm.trans h
      · cases hstatus.symm.trans h

theorem cancel_future (hq : q.Tallied) (hp : p.Tallied)
    (h : SameFuture now (q.view id) (p.view id)) :
    SameFuture now ((q.cancel now id).2.view id) ((p.cancel now id).2.view id) := by
  obtain ⟨htask, hpending, hprocessing⟩ := cancel_self hq.ok now id
  obtain ⟨htask', hpending', hprocessing'⟩ := cancel_self hp.ok now id
  refine SameFuture.of_not_pending ?_ hpending hpending' ?_
  · rw [htask, htask', h.task]
  · rw [hprocessing, hprocessing', h.processing]

/-- A task that is being processed is there. -/
theorem Ok.claimed (hq : q.Ok) (hclaimed : q.status.get? id = some .processing) :
    ∃ task, q.tasks.get? id = some task :=
  Option.isSome_iff_exists.mp ((hq id).task_isSome (Option.isSome_of_eq_some hclaimed))

/-- An operation does the same to the task that it is about in both queues. -/
theorem subject_future (hq : q.Tallied) (hp : p.Tallied) (hclosed : q.closed = p.closed)
    (hsettings : q.settings = p.settings) {op : QueueOp} (hsubject : op.subject = some id)
    (hdistinct : q.Distinct op) (hdistinct' : p.Distinct op) (hadmissible : q.Admissible op)
    (hadmissible' : p.Admissible op) (h : SameFuture now (q.view id) (p.view id)) :
    SameFuture now ((q.exec now op).2.view id) ((p.exec now op).2.view id) := by
  cases op with
  | enqueue task delaySeconds =>
      obtain rfl := Option.some.inj hsubject
      exact enqueue_future hq hp hclosed hdistinct hdistinct' hadmissible.2.1 hadmissible'.2.1 h
  | complete id' result =>
      obtain rfl := Option.some.inj hsubject
      obtain ⟨task, ht⟩ := hq.ok.claimed (hadmissible.1 id' rfl)
      exact complete_future ht (h.task.symm.trans ht) result
  | fail id' errorCode errorMessage retry =>
      obtain rfl := Option.some.inj hsubject
      have hclaimed := hadmissible.1 id' rfl
      obtain ⟨task, ht⟩ := hq.ok.claimed hclaimed
      exact fail_future hq hp hsettings hclaimed (hadmissible'.1 id' rfl) ht
        (h.task.symm.trans ht) errorCode errorMessage retry
  | cancel id' =>
      obtain rfl := Option.some.inj hsubject
      exact cancel_future hq hp h
  | dequeue | clearExpired | shutdown => cases hsubject

/-! ## The tasks of a tenant -/

def owner (q : InMemoryTaskQueue η) (id : UUID) : Option String :=
  (q.tasks.get? id).map TaskPayload.tenantId

/-- Whether an operation is one of a tenant: it is about a task of the tenant, or it is a `dequeue`
with the tenant as its filter. -/
def owns (A : String) (q : InMemoryTaskQueue η) : QueueOp → Bool
  | .enqueue task _ => task.tenantId = A
  | .dequeue tenantId => tenantId = some A
  | .complete id _ | .fail id _ _ _ | .cancel id => q.owner id = some A
  | .clearExpired | .shutdown => false

/-- Whether an operation is a `dequeue` that returns a task of a tenant. -/
def takes (A : String) (q : InMemoryTaskQueue η) (now : Time) : QueueOp → Bool
  | .dequeue tenantId => (q.dequeue now tenantId).1.any (·.tenantId = A)
  | .enqueue _ _ | .complete _ _ | .fail _ _ _ _ | .cancel _ | .clearExpired | .shutdown => false

def Ranked (q : InMemoryTaskQueue η) : Prop := ∀ id id' task task', q.tasks.get? id = some task →
  q.tasks.get? id' = some task' → task.rank = task'.rank → id = id'

omit [MinHeap η PriorityItem.key] in
theorem owner_eq_some {A : String} :
    q.owner id = some A ↔ ∃ task, q.tasks.get? id = some task ∧ task.tenantId = A := by
  rw [owner, Option.map_eq_some_iff]

/-- Where a task comes from: it was there, with the same rank and tenant, or it is enqueued. -/
theorem TaskMove.origin {v v' : TaskView} (h : TaskMove q now c id v v')
    (ht : v'.task = some task) :
    (∃ task₀, v.task = some task₀ ∧ task₀.rank = task.rank ∧ task₀.tenantId = task.tenantId) ∨
      v.task = none ∧ task.taskId = id ∧ ∃ delaySeconds, c.op = .enqueue task delaySeconds := by
  cases h with
  | accept hop _ hid hnone =>
      obtain rfl := Option.some.inj ht
      exact .inr ⟨hnone, hid, _, hop⟩
  | retry _ ht₀ | overflow _ ht₀ =>
      obtain rfl := Option.some.inj ht
      exact .inl ⟨_, ht₀, rfl, rfl⟩
  | _ => exact .inl ⟨task, ht, rfl, rfl⟩

/-- A task stays there, with its rank and tenant. -/
theorem TaskMove.persists {v v' : TaskView} (h : TaskMove q now c id v v')
    (ht : v.task = some task) :
    ∃ task', v'.task = some task' ∧ task'.rank = task.rank ∧ task'.tenantId = task.tenantId := by
  cases h with
  | accept _ _ _ hnone => cases hnone.symm.trans ht
  | retry _ ht₀ | overflow _ ht₀ =>
      obtain rfl := Option.some.inj (ht₀.symm.trans ht)
      exact ⟨_, rfl, rfl, rfl⟩
  | _ => exact ⟨task, ht, rfl, rfl⟩

/-- Ranks stay distinct. -/
theorem Ranked.exec (h : q.Ranked) (hq : q.Ok) (hfits : q.Fits c.op) (hcall : Calls now q c q') :
    q'.Ranked := by
  -- a stored task has another rank than the one that is enqueued
  have hother : ∀ {id task task' delaySeconds}, q.tasks.get? id = some task →
      c.op = .enqueue task' delaySeconds → task.rank ≠ task'.rank := by
    intro id task task' delaySeconds ht hop
    rw [hop] at hfits
    exact hfits.2 task (Dict.mem_values_iff.mpr ⟨id, ht⟩)
  intro id id' task task' ht ht' hrank
  rcases (exec_move hq hcall id).origin ht with ⟨task₀, ht₀, hrank₀, -⟩ | ⟨-, hid, d, hop⟩
  · rcases (exec_move hq hcall id').origin ht' with ⟨task₁, ht₁, hrank₁, -⟩ | ⟨-, hid, d, hop⟩
    · exact h id id' task₀ task₁ ht₀ ht₁ (hrank₀.trans (hrank.trans hrank₁.symm))
    · exact absurd (hrank₀.trans hrank) (hother ht₀ hop)
  · rcases (exec_move hq hcall id').origin ht' with ⟨task₁, ht₁, hrank₁, -⟩ | ⟨-, hid', d', hop'⟩
    · exact absurd (hrank₁.trans hrank.symm) (hother ht₁ hop)
    · obtain ⟨rfl, -⟩ := QueueOp.enqueue.inj (hop.symm.trans hop')
      exact hid.symm.trans hid'

/-- Only `shutdown` closes a queue. -/
theorem closed_exec (q : InMemoryTaskQueue η) (now : Time) {op : QueueOp} (hop : op ≠ .shutdown) :
    (q.exec now op).2.closed = q.closed := by
  cases op with
  | enqueue task delaySeconds =>
      rw [exec]
      cases hres : q.enqueue now task delaySeconds with
      | error e => rfl
      | ok q' =>
          obtain ⟨-, -, rfl⟩ := enqueue_ok hres
          rfl
  | dequeue tenantId =>
      exact closed_dequeue q now tenantId
  | complete id result =>
      change (q.complete id result).2.closed = _
      rw [complete]
      split
      · rfl
      · rfl
  | fail id errorCode errorMessage retry =>
      change (q.fail now id errorCode errorMessage retry).2.closed = _
      rw [fail]
      split
      · rfl
      · split
        · exact reschedule_eq InMemoryTaskQueue.closed (fun _ _ _ _ ↦ rfl) _ _ _
        · rfl
  | cancel id => exact (cancel_frame q now id).2.2.1
  | clearExpired =>
      exact clearExpired_eq InMemoryTaskQueue.closed fun _ _ ↦ closed_markExpired _
  | shutdown => exact absurd rfl hop

/-! ## Queues that differ by the tasks of a tenant -/

/-- The second queue is the first one without the tasks of a tenant. -/
structure Without (A : String) (now : Time) (q p : InMemoryTaskQueue η) : Prop where
  full : q.Tallied
  rest : p.Tallied
  ranked : q.Ranked
  closed : q.closed = p.closed
  settings : q.settings = p.settings
  gone : ∀ id, q.owner id = some A → p.tasks.get? id = none
  same : ∀ id, q.owner id ≠ some A → SameFuture now (q.view id) (p.view id)

namespace Without

variable {A : String} {now' : Time} {op : QueueOp}

theorem mono (h : Without A now q p) (hle : now ≤ now') : Without A now' q p :=
  { h with same := fun id hid ↦ (h.same id hid).mono hle }

/-- A task that is left belongs to another tenant. -/
theorem stored (h : Without A now q p) (ht : p.tasks.get? id = some task) :
    q.tasks.get? id = some task ∧ q.owner id ≠ some A := by
  have hother : q.owner id ≠ some A := by
    intro howner
    cases (h.gone id howner).symm.trans ht
  exact ⟨(h.same id hother).task.trans ht, hother⟩

/-- There is as much room as there was. -/
theorem size_le (h : Without A now q p) : p.tasks.size ≤ q.tasks.size := by
  apply Dict.size_le_of_keys
  intro id task ht
  exact ⟨task, (h.stored ht).1⟩

/-- The tasks that are left are eligible as before. -/
theorem eligible_iff (h : Without A now q p) {tenantId : Option String} :
    p.Eligible now tenantId task ↔ q.Eligible now tenantId task ∧ task.tenantId ≠ A := by
  rw [eligible_iff_ready, eligible_iff_ready]
  constructor
  · rintro ⟨hready, hmatches⟩
    obtain ⟨ht, hother⟩ := h.stored hready.stored
    refine ⟨⟨((h.same _ hother).ready now task le_rfl).mpr hready, hmatches⟩, fun htenant ↦ ?_⟩
    exact hother (owner_eq_some.mpr ⟨task, ht, htenant⟩)
  · rintro ⟨⟨hready, hmatches⟩, htenant⟩
    have hother : q.owner task.taskId ≠ some A := by
      intro howner
      obtain ⟨task', ht', rfl⟩ := owner_eq_some.mp howner
      obtain rfl := Option.some.inj (ht'.symm.trans hready.stored)
      exact htenant rfl
    exact ⟨((h.same _ hother).ready now task le_rfl).mp hready, hmatches⟩

/-- A `dequeue` that returns no task of the tenant returns the same without these tasks. -/
theorem dequeue (h : Without A now q p) {tenantId : Option String}
    (hother : ∀ task, (q.dequeue now tenantId).1 = some task → task.tenantId ≠ A) :
    (p.dequeue now tenantId).1 = (q.dequeue now tenantId).1 := by
  cases hclosed : q.closed with
  | true =>
      have hclosed' : p.closed = true := h.closed.symm.trans hclosed
      rw [InMemoryTaskQueue.dequeue, InMemoryTaskQueue.dequeue, if_pos hclosed, if_pos hclosed']
  | false =>
      have hclosed' : p.closed = false := h.closed.symm.trans hclosed
      obtain ⟨hnone, hsome, -⟩ := @dequeue_spec η _ q now tenantId h.full.ok hclosed
      obtain ⟨hnone', hsome', -⟩ := @dequeue_spec η _ p now tenantId h.rest.ok hclosed'
      cases hres : (q.dequeue now tenantId).1 with
      | none =>
          rw [hnone']
          intro task heligible
          exact hnone.mp hres task (h.eligible_iff.mp heligible).1
      | some task =>
          obtain ⟨heligible, hleast, -⟩ := hsome task hres
          have heligible' := h.eligible_iff.mpr ⟨heligible, hother task hres⟩
          cases hres' : (p.dequeue now tenantId).1 with
          | none => exact absurd heligible' (hnone'.mp hres' task)
          | some task' =>
              obtain ⟨hfound, hleast', -⟩ := hsome' task' hres'
              have hfull := (h.eligible_iff.mp hfound).1
              have hrank : task'.rank = task.rank :=
                le_antisymm (hleast' task heligible') (hleast task' hfull)
              have hid : task'.taskId = task.taskId :=
                h.ranked _ _ task' task hfull.stored heligible.stored hrank
              have hstored := hfull.stored
              rw [hid] at hstored
              exact hstored.symm.trans heligible.stored

/-- An operation that is not one of the tenant is allowed without the tenant's tasks. -/
theorem allowed (h : Without A now q p) (hdistinct : q.Distinct op) (hadmissible : q.Admissible op)
    (howns : owns A q op = false) : p.Distinct op ∧ p.Admissible op := by
  obtain ⟨hclaimed, hfits⟩ := hadmissible
  cases op with
  | enqueue task delaySeconds =>
      have howner : q.owner task.taskId ≠ some A := by
        rw [owner, show q.tasks.get? task.taskId = none from hdistinct]
        exact nofun
      refine ⟨(h.same _ howner).task.symm.trans hdistinct, nofun, fun hopen ↦ ?_, ?_⟩
      · have hroom := hfits.1 (h.closed.trans hopen)
        have hle := h.size_le
        rw [← (Prod.mk.inj h.settings).1]
        omega
      · intro task' hmem
        obtain ⟨id, ht⟩ := Dict.mem_values_iff.mp hmem
        exact hfits.2 task' (Dict.mem_values_iff.mpr ⟨id, (h.stored ht).1⟩)
  | complete id result =>
      refine ⟨trivial, fun id' hid ↦ ?_, trivial⟩
      obtain rfl := Option.some.inj hid
      exact (h.same id (of_decide_eq_false howns)).processing.mp (hclaimed id rfl)
  | fail id errorCode errorMessage retry =>
      refine ⟨trivial, fun id' hid ↦ ?_, trivial⟩
      obtain rfl := Option.some.inj hid
      exact (h.same id (of_decide_eq_false howns)).processing.mp (hclaimed id rfl)
  | dequeue | cancel | clearExpired | shutdown => exact ⟨trivial, nofun, trivial⟩

/-- The calls of the first queue. -/
theorem calls (hdistinct : q.Distinct op) :
    Calls now q ⟨op, (q.exec now op).1⟩ (q.exec now op).2 := ⟨hdistinct, rfl⟩

/-- A task of the tenant stays one. -/
theorem owner_exec (hq : q.Ok) (hdistinct : q.Distinct op) (howner : q.owner id = some A) :
    (q.exec now op).2.owner id = some A := by
  obtain ⟨task, ht, rfl⟩ := owner_eq_some.mp howner
  obtain ⟨task', ht', -, htenant⟩ := (exec_move hq (calls hdistinct) id).persists ht
  exact owner_eq_some.mpr ⟨task', ht', htenant⟩

/-- A task becomes one of the tenant by being enqueued. -/
theorem owner_of_exec (hq : q.Ok) (hdistinct : q.Distinct op)
    (howner : (q.exec now op).2.owner id = some A) :
    q.owner id = some A ∨ q.tasks.get? id = none ∧ op.subject = some id ∧ owns A q op = true := by
  obtain ⟨task, ht, rfl⟩ := owner_eq_some.mp howner
  rcases (exec_move hq (calls hdistinct) id).origin ht with
    ⟨task₀, ht₀, -, htenant⟩ | ⟨hnone, rfl, _, hop⟩
  · exact .inl (owner_eq_some.mpr ⟨task₀, ht₀, htenant⟩)
  · obtain rfl : op = _ := hop
    exact .inr ⟨hnone, rfl, decide_eq_true rfl⟩

/-- A `dequeue` that is hidden returns tasks of the tenant only. -/
theorem hidden_dequeue (hq : q.Ok) (hA : A ≠ "") {tenantId : Option String}
    (hhidden : (owns A q (.dequeue tenantId) || takes A q now (.dequeue tenantId)) = true)
    (hres : (q.dequeue now tenantId).1 = some task) : q.owner task.taskId = some A := by
  obtain ⟨heligible, -⟩ := returned_spec hq hres
  refine owner_eq_some.mpr ⟨task, heligible.stored, ?_⟩
  rcases Bool.or_eq_true _ _ ▸ hhidden with howns | htakes
  · obtain rfl : tenantId = some A := of_decide_eq_true howns
    rcases of_decide_eq_true heligible.matches_tenant with hempty | htenant
    · exact absurd hempty hA
    · exact htenant
  · rw [takes, hres] at htakes
    exact of_decide_eq_true htakes

/-- A hidden operation leaves the future of the tasks of other tenants. -/
theorem hidden_future (hq : q.Tallied) (hA : A ≠ "")
    (hhidden : (owns A q op || takes A q now op) = true)
    (hother : (q.exec now op).2.owner id ≠ some A) (hother₀ : q.owner id ≠ some A) :
    SameFuture now ((q.exec now op).2.view id) (q.view id) := by
  -- the operations about a task that is there
  have hsettle : ∀ id', owns A q op = decide (q.owner id' = some A) →
      takes A q now op = false → id ≠ id' := by
    rintro id' howns htakes rfl
    rw [howns, htakes, Bool.or_false] at hhidden
    exact hother₀ (of_decide_eq_true hhidden)
  cases op with
  | enqueue task delaySeconds =>
      by_cases hid : task.taskId = id
      · subst hid
        rw [exec] at hother ⊢
        cases hres : q.enqueue now task delaySeconds with
        | error e => exact SameFuture.refl now _
        | ok q' =>
            obtain ⟨-, -, rfl⟩ := enqueue_ok hres
            rw [hres] at hother
            have htenant : task.tenantId = A := by
              rcases Bool.or_eq_true _ _ ▸ hhidden with howns | htakes
              · exact of_decide_eq_true howns
              · cases htakes
            exact absurd (owner_eq_some.mpr ⟨task, Dict.get?_insert_self _ _ _, htenant⟩) hother
      · refine exec_future hq (fun he ↦ hid (Option.some.inj he)) fun task' hres _ ↦ ?_
        obtain ⟨tenantId, hop, -⟩ := dequeue_of_returned hres
        cases hop
  | dequeue tenantId =>
      refine exec_future hq (by rintro ⟨⟩) fun task hres hid ↦ hother₀ ?_
      rw [← hid]
      exact hidden_dequeue hq.ok hA hhidden (QueueReply.dequeued.inj hres)
  | complete id' result =>
      exact SameFuture.of_eq now (view_complete_of_ne (hsettle id' rfl rfl) result)
  | fail id' errorCode errorMessage retry =>
      exact SameFuture.of_eq now (view_fail_of_ne hq.ok (hsettle id' rfl rfl) errorCode
        errorMessage retry)
  | cancel id' => exact SameFuture.of_eq now (view_cancel_of_ne (hsettle id' rfl rfl))
  | clearExpired => exact clearExpired_future q now id
  | shutdown => exact SameFuture.refl now _

/-- A hidden operation is not needed. -/
theorem hide (h : Without A now q p) (hA : A ≠ "") (hdistinct : q.Distinct op)
    (hadmissible : q.Admissible op) (hhidden : (owns A q op || takes A q now op) = true) :
    Without A now (q.exec now op).2 p := by
  have hnot : op ≠ .shutdown := by
    rintro rfl
    cases hhidden
  constructor
  · exact h.full.exec hadmissible.1 (calls hdistinct)
  · exact h.rest
  · exact h.ranked.exec h.full.ok hadmissible.2 (calls hdistinct)
  · exact (closed_exec q now hnot).trans h.closed
  · exact (settings_exec q now op).trans h.settings
  · intro id howner
    rcases owner_of_exec h.full.ok hdistinct howner with hold | ⟨hnone, -, -⟩
    · exact h.gone id hold
    · have hother : q.owner id ≠ some A := by
        rw [owner, hnone]
        exact nofun
      exact (h.same id hother).task.symm.trans hnone
  · intro id hother
    have hother₀ : q.owner id ≠ some A :=
      fun howner ↦ hother (owner_exec h.full.ok hdistinct howner)
    exact (hidden_future h.full hA hhidden hother hother₀).trans (h.same id hother₀)

/-- A `dequeue` that is not hidden returns the same from both queues. -/
theorem reply_eq (h : Without A now q p) {tenantId : Option String}
    (htakes : takes A q now (.dequeue tenantId) = false) :
    (p.dequeue now tenantId).1 = (q.dequeue now tenantId).1 := by
  apply h.dequeue
  intro task hres htenant
  rw [takes, hres] at htakes
  exact of_decide_eq_false htakes htenant

/-- A task that both queues return has the same future in both. -/
theorem returned_future (h : Without A now q p) {tenantId : Option String}
    (hres : (q.dequeue now tenantId).1 = some task)
    (hres' : (p.dequeue now tenantId).1 = some task) :
    SameFuture now ((q.dequeue now tenantId).2.view task.taskId)
      ((p.dequeue now tenantId).2.view task.taskId) := by
  have hclaimed : ∀ {q : InMemoryTaskQueue η}, q.Ok → (q.dequeue now tenantId).1 = some task →
      (q.dequeue now tenantId).2.tasks.get? task.taskId = some task ∧
        (q.dequeue now tenantId).2.status.get? task.taskId = some .processing := by
    intro q hq hres
    obtain ⟨heligible, hprocessing⟩ := returned_spec hq hres
    rw [tasks_dequeue]
    exact ⟨heligible.stored, hprocessing⟩
  obtain ⟨ht, hstatus⟩ := hclaimed h.full.ok hres
  obtain ⟨ht', hstatus'⟩ := hclaimed h.rest.ok hres'
  exact SameFuture.of_status (ht.trans ht'.symm) hstatus hstatus' nofun

/-- An operation that is not hidden keeps the future of the other tasks the same. -/
theorem kept_future (h : Without A now q p) (hdistinct : q.Distinct op)
    (hadmissible : q.Admissible op) (howns : owns A q op = false)
    (htakes : takes A q now op = false) (hother : q.owner id ≠ some A) :
    SameFuture now ((q.exec now op).2.view id) ((p.exec now op).2.view id) := by
  obtain ⟨hdistinct', hadmissible'⟩ := h.allowed hdistinct hadmissible howns
  have hsame := h.same id hother
  by_cases hsubject : op.subject = some id
  · exact subject_future h.full h.rest h.closed h.settings hsubject hdistinct hdistinct' hadmissible
      hadmissible' hsame
  by_cases hout : ∃ task, (q.exec now op).1 = .dequeued (some task) ∧ task.taskId = id
  · obtain ⟨task, hres, rfl⟩ := hout
    obtain ⟨tenantId, rfl, hfound⟩ := dequeue_of_returned hres
    exact h.returned_future hfound ((h.reply_eq htakes).trans hfound)
  · have hframe := exec_future h.full hsubject fun task hres hid ↦ hout ⟨task, hres, hid⟩
    have hframe' : SameFuture now ((p.exec now op).2.view id) (p.view id) := by
      refine exec_future h.rest hsubject fun task hres hid ↦ hout ⟨task, ?_, hid⟩
      obtain ⟨tenantId, rfl, hfound⟩ := dequeue_of_returned hres
      exact congrArg QueueReply.dequeued ((h.reply_eq htakes).symm.trans hfound)
    exact (hframe.trans hsame).trans hframe'.symm

/-- An operation that is not hidden is done on both sides. -/
theorem keep (h : Without A now q p) (hdistinct : q.Distinct op) (hadmissible : q.Admissible op)
    (howns : owns A q op = false) (htakes : takes A q now op = false) :
    Without A now (q.exec now op).2 (p.exec now op).2 := by
  obtain ⟨hdistinct', hadmissible'⟩ := h.allowed hdistinct hadmissible howns
  have hnew : ∀ id, (q.exec now op).2.owner id = some A → q.owner id = some A := by
    intro id howner
    rcases owner_of_exec h.full.ok hdistinct howner with hold | ⟨-, -, hown⟩
    · exact hold
    · cases howns.symm.trans hown
  constructor
  · exact h.full.exec hadmissible.1 (calls hdistinct)
  · exact h.rest.exec hadmissible'.1 (calls hdistinct')
  · exact h.ranked.exec h.full.ok hadmissible.2 (calls hdistinct)
  · by_cases hop : op = .shutdown
    · subst hop
      rfl
    · exact (closed_exec q now hop).trans (h.closed.trans (closed_exec p now hop).symm)
  · exact (settings_exec q now op).trans (h.settings.trans (settings_exec p now op).symm)
  · intro id howner
    have hnone := h.gone id (hnew id howner)
    cases ht : (p.exec now op).2.tasks.get? id with
    | none => rfl
    | some task =>
        -- the id of a task of the tenant is not enqueued again
        exfalso
        rcases (exec_move h.rest.ok (calls hdistinct') id).origin ht with
          ⟨task₀, ht₀, -⟩ | ⟨-, rfl, _, hop⟩
        · cases hnone.symm.trans ht₀
        · obtain rfl : op = _ := hop
          obtain ⟨task', ht', -⟩ := owner_eq_some.mp (hnew _ howner)
          cases (show q.tasks.get? task.taskId = none from hdistinct).symm.trans ht'
  · intro id hother
    have hother₀ : q.owner id ≠ some A :=
      fun howner ↦ hother (owner_exec h.full.ok hdistinct howner)
    exact h.kept_future hdistinct hadmissible howns htakes hother₀

end Without

/-! ## Runs -/

instance (q : InMemoryTaskQueue η) : ∀ op, Decidable (q.Fits op)
  | .enqueue task _ => inferInstanceAs (Decidable
      ((q.closed = false → (q.tasks.size : Int) < q.maxSize) ∧
        ∀ task' ∈ q.tasks.values, task'.rank ≠ task.rank))
  | .dequeue _ | .complete _ _ | .fail _ _ _ _ | .cancel _ | .clearExpired | .shutdown =>
      isTrue trivial

instance (q : InMemoryTaskQueue η) (op : QueueOp) : Decidable (q.Admissible op) :=
  inferInstanceAs (Decidable (q.AcksClaimed op ∧ q.Fits op))

/-- Whether an operation is hidden from the other tenants: it is one of the tenant, or it returns a
task of the tenant. -/
def hidden (A : String) (s : Time × InMemoryTaskQueue η) (a : Time × QueueOp) : Bool :=
  owns A s.2 a.2 || takes A s.2 a.1 a.2

/-- What a `dequeue` with a tenant as its filter returns, and when. -/
def answerTo (B : String) : Time × Call → Option (Time × Option TaskPayload)
  | (now, ⟨.dequeue tenantId, .dequeued result⟩) =>
      if tenantId = some B then some (now, result) else none
  | _ => none

/-- A script can be played if its operations are good where they are taken. -/
theorem along_iff_playable {Good : InMemoryTaskQueue η → Time → QueueOp → Prop}
    {s : Time × InMemoryTaskQueue η} {script : List (Time × QueueOp)} :
    Along stepAt (fun s a ↦ s.1 ≤ a.1 ∧ s.2.Distinct a.2 ∧ Good s.2 a.1 a.2) s script ↔
      Playable Good s script := by
  induction script generalizing s with
  | nil => exact Iff.rfl
  | cons a script ih =>
      rw [Along, Playable, ih, and_assoc, and_assoc]
      exact Iff.rfl

/-- A `dequeue` with another tenant as its filter is not hidden. -/
theorem hidden_asked {A B : String} (hB : B ≠ "") (hne : A ≠ B) (hq : q.Ok) (start : Time) :
    hidden A (start, q) (now, .dequeue (some B)) = false := by
  rw [hidden, Bool.or_eq_false_iff]
  constructor
  · exact decide_eq_false fun he ↦ hne (Option.some.inj he).symm
  · rw [← Bool.not_eq_true]
    intro htakes
    obtain ⟨task, hres, htenant⟩ := (Option.any_eq_true _ _).mp htakes
    have htenant : task.tenantId = A := of_decide_eq_true htenant
    rcases of_decide_eq_true (returned_spec hq hres).1.matches_tenant with hempty | hasked
    · exact hB hempty
    · exact hne (htenant.symm.trans hasked)

/-- A call that answers a tenant is a `dequeue` with this tenant as its filter. -/
theorem asked_of_answer {B : String} {op : QueueOp}
    (h : answerTo B (now, ⟨op, (q.exec now op).1⟩) ≠ none) : op = .dequeue (some B) := by
  cases op with
  | dequeue tenantId =>
      by_cases htenant : tenantId = some B
      · rw [htenant]
      · exact absurd (if_neg htenant) h
  | enqueue | complete | fail | cancel | clearExpired | shutdown => exact absurd rfl h

/-- What a tenant does is hidden behind queues without its tasks. -/
theorem unwinding_tenant {A B : String} (hA : A ≠ "") (hB : B ≠ "") (hne : A ≠ B) :
    Unwinding (stepAt (η := η)) (hidden A) (fun a reply ↦ answerTo B (a.1, ⟨a.2, reply⟩))
      (fun s a ↦ s.1 ≤ a.1 ∧ s.2.Distinct a.2 ∧ s.2.Admissible a.2)
      (fun s t ↦ t.1 ≤ s.1 ∧ Without A s.1 s.2 t.2) where
  hide := by
    rintro ⟨start, q⟩ t ⟨now, op⟩ ⟨hclock, hwithout⟩ ⟨hle, hdistinct, hadmissible⟩ hhidden
    refine ⟨⟨le_trans hclock hle, (hwithout.mono hle).hide hA hdistinct hadmissible hhidden⟩, ?_⟩
    by_contra hanswer
    obtain rfl : op = _ := asked_of_answer hanswer
    cases (hidden_asked hB hne hwithout.full.ok start).symm.trans hhidden
  keep := by
    rintro ⟨start, q⟩ t ⟨now, op⟩ ⟨hclock, hwithout⟩ ⟨hle, hdistinct, hadmissible⟩ hkept
    obtain ⟨howns, htakes⟩ := Bool.or_eq_false_iff.mp hkept
    have hnow := hwithout.mono hle
    refine ⟨⟨le_trans hclock hle, hnow.allowed hdistinct hadmissible howns⟩,
      ⟨le_rfl, hnow.keep hdistinct hadmissible howns htakes⟩, ?_⟩
    cases op with
    | dequeue tenantId =>
        show answerTo B (now, ⟨_, .dequeued (q.dequeue now tenantId).1⟩)
          = answerTo B (now, ⟨_, .dequeued (t.2.dequeue now tenantId).1⟩)
        rw [hnow.reply_eq htakes]
    | enqueue | complete | fail | cancel | clearExpired | shutdown => rfl

/-- A new queue is itself without the tasks of a tenant. -/
theorem without_new (A : String) (now : Time) (maxSize : Int) (retryBaseDelay retryMaxDelay : ℚ) :
    Without A now (new maxSize retryBaseDelay retryMaxDelay : InMemoryTaskQueue η)
      (new maxSize retryBaseDelay retryMaxDelay) := by
  have hnone : ∀ id, (new maxSize retryBaseDelay retryMaxDelay : InMemoryTaskQueue η).tasks.get? id
      = none := fun _ ↦ rfl
  constructor
  · exact tallied_new _ _ _
  · exact tallied_new _ _ _
  · intro id id' task task' ht
    cases (hnone id).symm.trans ht
  · rfl
  · rfl
  · exact fun id _ ↦ hnone id
  · exact fun id _ ↦ SameFuture.refl now _

/-- In every run that finds room, with distinct tasks and ranks, and acknowledges claimed tasks
only: without the operations of a tenant, and the calls of `dequeue` without a filter that return
its tasks, it is such a run again, and the `dequeue` calls of another tenant return the same. -/
theorem isolated (maxSize : Int) (retryBaseDelay retryMaxDelay : ℚ) (start : Time) {A B : String}
    (hA : A ≠ "") (hB : B ≠ "") (hne : A ≠ B) {script : List (Time × QueueOp)}
    (h : Playable (fun q _ op ↦ q.Admissible op)
      ((start, new maxSize retryBaseDelay retryMaxDelay) : Time × InMemoryTaskQueue η) script) :
    let s : Time × InMemoryTaskQueue η := (start, new maxSize retryBaseDelay retryMaxDelay)
    Playable (fun q _ op ↦ q.Admissible op) s (purge stepAt (hidden A) s script) ∧
      (playCalls s (purge stepAt (hidden A) s script)).filterMap (answerTo B)
        = (playCalls s script).filterMap (answerTo B) := by
  intro s
  have hunwinding := unwinding_tenant (η := η) hA hB hne
  have hsame : s.1 ≤ s.1 ∧ Without A s.1 s.2 s.2 := ⟨le_rfl, without_new A start _ _ _⟩
  have halong := along_iff_playable.mpr h
  have hpurge := hunwinding.observations_purge hsame halong
  rw [observations_stepAt, observations_stepAt] at hpurge
  exact ⟨along_iff_playable.mp (hunwinding.along_purge hsame halong), hpurge⟩

/-- A task of another tenant, less urgent. -/
def otherTask : TaskPayload :=
  { taskId := ⟨2⟩, tenantId := "globex", priority := .low, createdAt := 0 }

/-- Both tenants enqueue a task, somebody takes one of them, and the second tenant asks. -/
def sharedScript (tenantId : Option String) : List (Time × QueueOp) :=
  [(0, .enqueue sampleTask 0), (0, .enqueue otherTask 0), (1, .dequeue tenantId),
    (2, .dequeue (some "globex"))]

theorem isolated_sample :
    (playCalls (0, sampleQueue) (purge stepAt (hidden "acme") (0, sampleQueue)
        (sharedScript none))).filterMap (answerTo "globex")
      = (playCalls (0, sampleQueue) (sharedScript none)).filterMap (answerTo "globex") :=
  (isolated 10000 1 60 0 (by decide) (by decide) (by decide)
    (show Playable (fun q _ op ↦ q.Admissible op) (0, sampleQueue) (sharedScript none) by
      decide +kernel)).2

/-- If only the operations of the first tenant are deleted, the `dequeue` without a filter takes the
task of the second one. -/
theorem not_isolated :
    Playable (fun q _ op ↦ q.Admissible op) (0, sampleQueue) (sharedScript none) ∧
      (playCalls (0, sampleQueue) (purge stepAt (fun s a ↦ owns "acme" s.2 a.2) (0, sampleQueue)
          (sharedScript none))).filterMap (answerTo "globex")
        ≠ (playCalls (0, sampleQueue) (sharedScript none)).filterMap (answerTo "globex") := by
  constructor
  · decide +kernel
  · intro h
    have hfound := congrArg (List.map (·.2.isSome)) h
    revert hfound
    decide +kernel

end InMemoryTaskQueue

end SemanticBus
