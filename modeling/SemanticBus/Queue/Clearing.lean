import SemanticBus.Data.Purge
import SemanticBus.Queue.Dequeue
import SemanticBus.Queue.Sizes

/-!
# Eager and lazy expiry

`clear_expired` marks tasks that a later scan would mark anyway, and it leaves the heap as it
is.  Two queues are `Alike` when they have the same heap and the same tasks and the same statuses
of the tasks within their TTL: a scan asks for a status only after it has asked whether the task is
past its TTL.  Every operation takes alike queues to alike ones, with the same reply if it is not a
cancellation, and `clear_expired` stays among the alike ones.
-/

universe u

namespace SemanticBus.InMemoryTaskQueue

/-- Two queues that differ at most in what is marked of the tasks past their TTL. -/
structure Alike {η : Type u} (now : Time) (q q' : InMemoryTaskQueue η) : Prop where
  heap : q.heap = q'.heap
  tasks : q.tasks = q'.tasks
  closed : q.closed = q'.closed
  settings : q.settings = q'.settings
  status : ∀ id task, q.tasks.get? id = some task → task.isExpired now = false →
    q.status.get? id = q'.status.get? id

variable {η : Type u} {q q' : InMemoryTaskQueue η} {now now' : Time} {id : UUID}

/-- A cancellation changes the status of its task only. -/
theorem cancel_frame (q : InMemoryTaskQueue η) (now : Time) (id : UUID) :
    (q.cancel now id).2.heap = q.heap ∧ (q.cancel now id).2.tasks = q.tasks ∧
      (q.cancel now id).2.closed = q.closed ∧ (q.cancel now id).2.settings = q.settings ∧
      ∀ id' ≠ id, (q.cancel now id).2.status.get? id' = q.status.get? id' := by
  rw [InMemoryTaskQueue.cancel]
  split
  · exact ⟨rfl, rfl, rfl, rfl, fun _ _ ↦ rfl⟩
  · split
    · exact ⟨rfl, rfl, rfl, rfl, fun _ _ ↦ rfl⟩
    · exact ⟨rfl, rfl, rfl, rfl, fun _ hne ↦ Dict.get?_insert_of_ne _ _ hne⟩

namespace Alike

theorem refl (now : Time) (q : InMemoryTaskQueue η) : Alike now q q :=
  ⟨rfl, rfl, rfl, rfl, fun _ _ _ _ ↦ rfl⟩

/-- Later there are more tasks past their TTL. -/
theorem mono (h : Alike now q q') (hle : now ≤ now') : Alike now' q q' := by
  refine ⟨h.heap, h.tasks, h.closed, h.settings, fun id task ht hfresh ↦ h.status id task ht ?_⟩
  rw [← Bool.not_eq_true]
  intro hexp
  rw [TaskPayload.isExpired_mono hle hexp] at hfresh
  cases hfresh

/-- A status that is set on both sides. -/
theorem status_insert (h : Alike now q q') (id : UUID) (status : TaskStatus) :
    ∀ id' task, q.tasks.get? id' = some task → task.isExpired now = false →
      (q.status.insert id status).get? id' = (q'.status.insert id status).get? id' := by
  intro id' task ht hfresh
  rw [Dict.get?_insert, Dict.get?_insert]
  split
  · rfl
  · exact h.status id' task ht hfresh

/-- A task that is expired on both sides. -/
theorem markExpired (h : Alike now q q') (id : UUID) :
    Alike now (q.markExpired now id) (q'.markExpired now id) := by
  constructor
  · rw [heap_markExpired, heap_markExpired, h.heap]
  · rw [tasks_markExpired, tasks_markExpired, h.tasks]
  · rw [closed_markExpired, closed_markExpired, h.closed]
  · rw [settings_markExpired, settings_markExpired, h.settings]
  · rw [tasks_markExpired, status_markExpired, status_markExpired]
    exact h.status_insert id .expired

/-- A task past its TTL that is expired on one side. -/
theorem markExpired_left (h : Alike now q q') {task : TaskPayload}
    (ht : q.tasks.get? id = some task) (hexp : task.isExpired now = true) :
    Alike now (q.markExpired now id) q' := by
  constructor
  · rw [heap_markExpired, h.heap]
  · rw [tasks_markExpired, h.tasks]
  · rw [closed_markExpired, h.closed]
  · rw [settings_markExpired, h.settings]
  · intro id' task' ht' hfresh
    rw [tasks_markExpired] at ht'
    have hne : id' ≠ id := by
      rintro rfl
      obtain rfl := Option.some.inj (ht.symm.trans ht')
      cases hexp.symm.trans hfresh
    rw [status_markExpired, Dict.get?_insert_of_ne _ _ hne]
    exact h.status id' task' ht' hfresh

/-- Clearing stays among the alike queues. -/
theorem clearExpired (h : Alike now q q') : Alike now (q.clearExpired now).2 q' :=
  clearExpired_keeps (P := fun q ↦ Alike now q q')
    (fun _ _ _ h ht hexp ↦ h.markExpired_left ht hexp) h

variable [MinHeap η PriorityItem.key]

theorem enqueue (h : Alike now q q') (task : TaskPayload) (delaySeconds : ℚ) :
    (q.exec now (.enqueue task delaySeconds)).1 = (q'.exec now (.enqueue task delaySeconds)).1 ∧
      Alike now (q.exec now (.enqueue task delaySeconds)).2
        (q'.exec now (.enqueue task delaySeconds)).2 := by
  have hmaxSize : q.maxSize = q'.maxSize := (Prod.mk.inj h.settings).1
  have hclosed := h.closed
  have hsize : q.tasks.size = q'.tasks.size := congrArg Dict.size h.tasks
  rw [exec, exec, InMemoryTaskQueue.enqueue, InMemoryTaskQueue.enqueue]
  by_cases hc : q.closed = true
  · have hc' : q'.closed = true := hclosed ▸ hc
    rw [if_pos hc, if_pos hc']
    exact ⟨rfl, h⟩
  · have hc' : ¬ q'.closed = true := hclosed ▸ hc
    rw [if_neg hc, if_neg hc']
    by_cases hfull : (q.tasks.size : Int) ≥ q.maxSize
    · have hfull' : (q'.tasks.size : Int) ≥ q'.maxSize := by rwa [← hsize, ← hmaxSize]
      rw [if_pos hfull, if_pos hfull', hsize, hmaxSize]
      exact ⟨rfl, h⟩
    · have hfull' : ¬ (q'.tasks.size : Int) ≥ q'.maxSize := by rwa [← hsize, ← hmaxSize]
      rw [if_neg hfull, if_neg hfull']
      by_cases hdate : DelayOverflows now delaySeconds
      · rw [if_pos hdate, if_pos hdate]
        exact ⟨rfl, h⟩
      rw [if_neg hdate, if_neg hdate]
      refine ⟨rfl, ?_, ?_, hclosed, h.settings, ?_⟩
      · show MinHeap.push q.heap _ = MinHeap.push q'.heap _
        rw [h.heap]
      · show q.tasks.insert _ _ = q'.tasks.insert _ _
        rw [h.tasks]
      · intro id task' ht hfresh
        show (q.status.insert task.taskId _).get? id = (q'.status.insert task.taskId _).get? id
        change (q.tasks.insert task.taskId task).get? id = some task' at ht
        rw [Dict.get?_insert, Dict.get?_insert]
        split
        · rfl
        · rename_i hne
          rw [Dict.get?_insert_of_ne _ _ hne] at ht
          exact h.status id task' ht hfresh

/-- The scan finds the same in alike queues. -/
theorem findLoop (h : Alike now q q') (tenantId : Option String) (n : Nat)
    (checked : List PriorityItem) :
    ∃ result checked' p p', InMemoryTaskQueue.findLoop now tenantId n checked q
        = (result, checked', p) ∧
      InMemoryTaskQueue.findLoop now tenantId n checked q' = (result, checked', p') ∧
      Alike now p p' := by
  induction n generalizing q q' checked with
  | zero => exact ⟨none, checked, q, q', rfl, rfl, h⟩
  | succ n ih =>
      rw [InMemoryTaskQueue.findLoop, InMemoryTaskQueue.findLoop]
      cases hpop : MinHeap.pop q.heap with
      | none =>
          have hpop' : MinHeap.pop q'.heap = none := h.heap ▸ hpop
          rw [hpop']
          exact ⟨none, checked, q, q', rfl, rfl, h⟩
      | some popped =>
          have hpop' : MinHeap.pop q'.heap = some popped := h.heap ▸ hpop
          obtain ⟨item, heap⟩ := popped
          have hrest : Alike now { q with heap := heap } { q' with heap := heap } :=
            ⟨rfl, h.tasks, h.closed, h.settings, h.status⟩
          rw [hpop']
          dsimp only
          cases ht : q.tasks.get? item.taskId with
          | none =>
              have ht' : q'.tasks.get? item.taskId = none := h.tasks ▸ ht
              rw [ht']
              exact ih hrest checked
          | some task =>
              have ht' : q'.tasks.get? item.taskId = some task := h.tasks ▸ ht
              rw [ht']
              dsimp only
              by_cases hvisible : item.visibleAt > now
              · rw [if_pos hvisible, if_pos hvisible]
                exact ih hrest (checked ++ [item])
              rw [if_neg hvisible, if_neg hvisible]
              by_cases hexp : task.isExpired now = true
              · rw [if_pos hexp, if_pos hexp]
                exact ih (hrest.markExpired item.taskId) checked
              rw [if_neg hexp, if_neg hexp]
              by_cases hother : (!matchesTenant tenantId task) = true
              · rw [if_pos hother, if_pos hother]
                exact ih hrest (checked ++ [item])
              rw [if_neg hother, if_neg hother]
              -- only here the status is asked for
              have hstatus := h.status item.taskId task ht (eq_false_of_ne_true hexp)
              by_cases hpending : q.status.get? item.taskId ≠ some .pending
              · have hpending' : q'.status.get? item.taskId ≠ some .pending := hstatus ▸ hpending
                rw [if_pos hpending, if_pos hpending']
                exact ih hrest checked
              have hpending' : ¬ q'.status.get? item.taskId ≠ some .pending := hstatus ▸ hpending
              rw [if_neg hpending, if_neg hpending']
              exact ⟨_, _, _, _, rfl, rfl, rfl, h.tasks, h.closed, h.settings,
                h.status_insert item.taskId .processing⟩

theorem dequeue (h : Alike now q q') (tenantId : Option String) :
    (q.dequeue now tenantId).1 = (q'.dequeue now tenantId).1 ∧
      Alike now (q.dequeue now tenantId).2 (q'.dequeue now tenantId).2 := by
  have hclosed := h.closed
  rw [InMemoryTaskQueue.dequeue, InMemoryTaskQueue.dequeue]
  by_cases hc : q.closed = true
  · have hc' : q'.closed = true := hclosed ▸ hc
    rw [if_pos hc, if_pos hc']
    exact ⟨rfl, h⟩
  · have hc' : ¬ q'.closed = true := hclosed ▸ hc
    rw [if_neg hc, if_neg hc', findNextVisible, findNextVisible, ← h.heap]
    obtain ⟨result, checked, p, p', hp, hp', halike⟩ :=
      h.findLoop tenantId (MinHeap.size q.heap) []
    rw [hp, hp']
    refine ⟨rfl, ?_, halike.tasks, halike.closed, halike.settings, halike.status⟩
    show MinHeap.pushAll p.heap checked = MinHeap.pushAll p'.heap checked
    rw [halike.heap]

omit [MinHeap η PriorityItem.key] in
theorem complete (h : Alike now q q') (id : UUID) (result : TaskResult) :
    (q.complete id result).1 = (q'.complete id result).1 ∧
      Alike now (q.complete id result).2 (q'.complete id result).2 := by
  rw [InMemoryTaskQueue.complete, InMemoryTaskQueue.complete]
  cases ht : q.tasks.get? id with
  | none =>
      have ht' : q'.tasks.get? id = none := h.tasks ▸ ht
      rw [ht']
      exact ⟨rfl, h⟩
  | some task =>
      have ht' : q'.tasks.get? id = some task := h.tasks ▸ ht
      rw [ht']
      exact ⟨rfl, h.heap, h.tasks, h.closed, h.settings, h.status_insert id .completed⟩

/-- A retry is scheduled, or raises, in both queues. -/
theorem reschedule (h : Alike now q q') (ht : q.tasks.get? id = some task) (retryCount : Int) :
    (q.reschedule now id { task with retryCount := retryCount }).1
        = (q'.reschedule now id { task with retryCount := retryCount }).1 ∧
      Alike now (q.reschedule now id { task with retryCount := retryCount }).2
        (q'.reschedule now id { task with retryCount := retryCount }).2 := by
  obtain ⟨-, hdelays⟩ := Prod.mk.inj h.settings
  obtain ⟨hbase, hmax⟩ := Prod.mk.inj hdelays
  have hat : q.retryAt now retryCount = q'.retryAt now retryCount := by
    rw [retryAt, retryAt, retryDelay, retryDelay, hbase, hmax]
  have htasks : q.tasks.insert id { task with retryCount := retryCount }
      = q'.tasks.insert id { task with retryCount := retryCount } := by
    rw [h.tasks]
  -- what is fresh with the new count was fresh with the old one
  have hbefore : ∀ id' task', (q.tasks.insert id { task with retryCount := retryCount }).get? id'
      = some task' → task'.isExpired now = false →
        q.status.get? id' = q'.status.get? id' := by
    intro id' task' htask hfresh
    rw [Dict.get?_insert] at htask
    split at htask
    · rename_i hid
      cases htask
      exact h.status id' task (hid ▸ ht) hfresh
    · exact h.status id' task' htask hfresh
  by_cases hfits : q.Reschedules now retryCount
  · have hfits' : q'.Reschedules now retryCount := ⟨hfits.1, hat ▸ hfits.2⟩
    rw [reschedule_of { task with retryCount := retryCount } hfits,
      reschedule_of { task with retryCount := retryCount } hfits']
    refine ⟨rfl, ?_, htasks, h.closed, h.settings, fun id' task' htask hfresh ↦ ?_⟩
    · show MinHeap.push q.heap _ = MinHeap.push q'.heap _
      rw [h.heap, hat]
    · show (q.status.insert id _).get? id' = (q'.status.insert id _).get? id'
      rw [Dict.get?_insert, Dict.get?_insert, hbefore id' task' htask hfresh]
  · have hfits' : ¬ q'.Reschedules now retryCount := fun h ↦ hfits ⟨h.1, hat ▸ h.2⟩
    rw [reschedule_of_not { task with retryCount := retryCount } hfits,
      reschedule_of_not { task with retryCount := retryCount } hfits']
    refine ⟨rfl, h.heap, htasks, h.closed, h.settings, fun id' task' htask hfresh ↦ ?_⟩
    show (q.stalled id _).get? id' = (q'.stalled id _).get? id'
    rw [stalled, stalled]
    split
    · exact hbefore id' task' htask hfresh
    · rw [Dict.get?_insert, Dict.get?_insert, hbefore id' task' htask hfresh]

theorem fail (h : Alike now q q') (id : UUID) (errorCode errorMessage : String) (retry : Bool) :
    (q.fail now id errorCode errorMessage retry).1
        = (q'.fail now id errorCode errorMessage retry).1 ∧
      Alike now (q.fail now id errorCode errorMessage retry).2
        (q'.fail now id errorCode errorMessage retry).2 := by
  obtain ⟨-, hdelays⟩ := Prod.mk.inj h.settings
  obtain ⟨hbase, hmax⟩ := Prod.mk.inj hdelays
  rw [InMemoryTaskQueue.fail, InMemoryTaskQueue.fail]
  cases ht : q.tasks.get? id with
  | none =>
      have ht' : q'.tasks.get? id = none := h.tasks ▸ ht
      rw [ht']
      exact ⟨rfl, h⟩
  | some task =>
      have ht' : q'.tasks.get? id = some task := h.tasks ▸ ht
      rw [ht']
      dsimp only
      by_cases hretry : retry = true ∧ task.canRetry = true
      · rw [if_pos hretry, if_pos hretry]
        exact h.reschedule ht (task.retryCount + 1)
      · rw [if_neg hretry, if_neg hretry]
        exact ⟨rfl, h.heap, h.tasks, h.closed, h.settings, h.status_insert id .failed⟩

omit [MinHeap η PriorityItem.key] in
theorem cancel (h : Alike now q q') (id : UUID) :
    Alike now (q.cancel now id).2 (q'.cancel now id).2 := by
  obtain ⟨hheap, htasks, hclosed, hsettings, hother⟩ := cancel_frame q now id
  obtain ⟨hheap', htasks', hclosed', hsettings', hother'⟩ := cancel_frame q' now id
  constructor
  · rw [hheap, hheap', h.heap]
  · rw [htasks, htasks', h.tasks]
  · rw [hclosed, hclosed', h.closed]
  · rw [hsettings, hsettings', h.settings]
  · intro id' task ht hfresh
    rw [htasks] at ht
    have hstatus := h.status id' task ht hfresh
    by_cases hid : id' = id
    · subst hid
      have ht' : q'.tasks.get? id' = some task := h.tasks ▸ ht
      rw [InMemoryTaskQueue.cancel, InMemoryTaskQueue.cancel, ht, ht']
      dsimp only
      by_cases hpending : q.status.get? id' ≠ some .pending
      · have hpending' : q'.status.get? id' ≠ some .pending := hstatus ▸ hpending
        rw [if_pos hpending, if_pos hpending']
        exact hstatus
      · have hpending' : ¬ q'.status.get? id' ≠ some .pending := hstatus ▸ hpending
        rw [if_neg hpending, if_neg hpending']
        exact h.status_insert id' .cancelled id' task ht hfresh
    · rw [hother id' hid, hother' id' hid]
      exact hstatus

end Alike

/-! ## Runs -/

/-- The operations whose results clearing leaves alone. -/
def answers : QueueOp → Bool
  | .enqueue _ _ | .dequeue _ | .complete _ _ | .fail _ _ _ _ => true
  | .cancel _ | .clearExpired | .shutdown => false

def clears : QueueOp → Bool
  | .clearExpired => true
  | .enqueue _ _ | .dequeue _ | .complete _ _ | .fail _ _ _ _ | .cancel _ | .shutdown => false

variable [MinHeap η PriorityItem.key] {s : Time × InMemoryTaskQueue η}
  {script : List (Time × QueueOp)}

/-- Alike queues stay so under an operation, with the same reply if it is one that answers. -/
theorem Alike.exec (h : Alike now q q') (op : QueueOp) (hop : clears op = false) :
    (answers op = true → (q.exec now op).1 = (q'.exec now op).1) ∧
      Alike now (q.exec now op).2 (q'.exec now op).2 := by
  cases op with
  | enqueue task delaySeconds =>
      obtain ⟨hreply, halike⟩ := h.enqueue task delaySeconds
      exact ⟨fun _ ↦ hreply, halike⟩
  | dequeue tenantId =>
      obtain ⟨hreply, halike⟩ := h.dequeue tenantId
      exact ⟨fun _ ↦ congrArg QueueReply.dequeued hreply, halike⟩
  | complete id result =>
      obtain ⟨hreply, halike⟩ := h.complete id result
      exact ⟨fun _ ↦ congrArg QueueReply.done hreply, halike⟩
  | fail id errorCode errorMessage retry =>
      obtain ⟨hreply, halike⟩ := h.fail id errorCode errorMessage retry
      exact ⟨fun _ ↦ congrArg QueueReply.reported hreply, halike⟩
  | cancel id =>
      refine ⟨fun hanswers ↦ ?_, h.cancel id⟩
      cases hanswers
  | clearExpired => cases hop
  | shutdown => exact ⟨fun _ ↦ rfl, h.heap, h.tasks, rfl, h.settings, h.status⟩

/-- Execute an operation at a clock reading. -/
def stepAt (s : Time × InMemoryTaskQueue η) (a : Time × QueueOp) :
    QueueReply × (Time × InMemoryTaskQueue η) :=
  ((s.2.exec a.1 a.2).1, (a.1, (s.2.exec a.1 a.2).2))

/-- What is observed of a script is observed of its calls. -/
theorem observations_stepAt {ω : Type*} (o : Time × Call → Option ω)
    (s : Time × InMemoryTaskQueue η) (script : List (Time × QueueOp)) :
    observations stepAt (fun a reply ↦ o (a.1, ⟨a.2, reply⟩)) s script
      = (playCalls s script).filterMap o := by
  induction script generalizing s with
  | nil => rfl
  | cons a script ih =>
      have hcalls : playCalls s (a :: script)
          = (a.1, ⟨a.2, (stepAt s a).1⟩) :: playCalls (stepAt s a).2 script := rfl
      rw [observations, ih, hcalls, List.filterMap_cons]
      cases o (a.1, ⟨a.2, (stepAt s a).1⟩) with
      | none => rfl
      | some _ => rfl

/-- The clock of a script does not go back. -/
theorem along_clock (h : (s.1 :: script.map Prod.fst).Pairwise (· ≤ ·)) :
    Along stepAt (fun s a ↦ s.1 ≤ a.1) s script := by
  induction script generalizing s with
  | nil => trivial
  | cons a script ih =>
      rw [List.map_cons, List.pairwise_cons] at h
      exact ⟨h.1 a.1 List.mem_cons_self, ih h.2⟩

/-- Clearing is hidden behind alike queues. -/
theorem unwinding_clears : Unwinding (stepAt (η := η)) (fun _ a ↦ clears a.2)
    (fun a reply ↦ Option.guard (answers ·.2.op) ((a.1, ⟨a.2, reply⟩) : Time × Call))
    (fun s a ↦ s.1 ≤ a.1) (fun s t ↦ t.1 ≤ s.1 ∧ Alike s.1 s.2 t.2) where
  hide := by
    rintro s t ⟨now, op⟩ ⟨hclock, halike⟩ hle hclears
    cases op with
    | clearExpired => exact ⟨⟨le_trans hclock hle, (halike.mono hle).clearExpired⟩, rfl⟩
    | enqueue | dequeue | complete | fail | cancel | shutdown => cases hclears
  keep := by
    rintro s t ⟨now, op⟩ ⟨hclock, halike⟩ hle hclears
    obtain ⟨hreply, halike'⟩ := (halike.mono hle).exec op hclears
    refine ⟨le_trans hclock hle, ⟨le_rfl, halike'⟩, ?_⟩
    cases hanswers : answers op with
    | true =>
        show Option.guard _ _ = Option.guard _ _
        rw [stepAt, stepAt, hreply hanswers]
    | false =>
        have hnone : ∀ reply, Option.guard (answers ·.2.op) ((now, ⟨op, reply⟩) : Time × Call)
            = none := by
          intro reply
          rw [Option.guard_eq_none_iff]
          exact hanswers
        exact (hnone _).trans (hnone _).symm

/-- Inserting `clear_expired` calls at any points of a run of a queue changes the result of no
`enqueue`, `dequeue`, `complete` or `fail`. -/
theorem clearing_unseen (s : Time × InMemoryTaskQueue η) {script : List (Time × QueueOp)}
    (hclock : (s.1 :: script.map Prod.fst).Pairwise (· ≤ ·)) :
    (playCalls s script).filter (answers ·.2.op)
      = (playCalls s (script.filter (!clears ·.2))).filter (answers ·.2.op) := by
  have hpurge := unwinding_clears.observations_purge ⟨le_rfl, Alike.refl s.1 s.2⟩
    (along_clock hclock)
  rw [purge_eq_filter, observations_stepAt, observations_stepAt] at hpurge
  rw [← List.filterMap_eq_filter]
  exact hpurge.symm

/-- A task expires between two looks at the queue and is cleared in between. -/
theorem clearing_unseen_sample :
    let script : List (Time × QueueOp) :=
      [(0, .enqueue sampleTask 0), (400000000, .clearExpired), (400000001, .dequeue none)]
    (playCalls (0, sampleQueue) script).filter (answers ·.2.op)
      = (playCalls (0, sampleQueue) [(0, .enqueue sampleTask 0), (400000001, .dequeue none)]).filter
          (answers ·.2.op) :=
  clearing_unseen (0, sampleQueue) (by decide)

end SemanticBus.InMemoryTaskQueue
