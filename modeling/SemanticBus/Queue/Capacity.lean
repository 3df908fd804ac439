import SemanticBus.Queue.Settled

/-!
# Capacity

`enqueue` compares the capacity with the number of tasks ever accepted, since
no operation removes a task from the dictionary.  A full queue therefore stays
full: `full_only_if_busy_iff` says that a refusal means that enough tasks are
live only as long as no task at all has been settled.
-/

universe u

namespace SemanticBus.InMemoryTaskQueue

variable {η : Type u} [MinHeap η PriorityItem.key]
variable {q q' : InMemoryTaskQueue η} {now : Time} {c : Call} {id : UUID}

def Live (q : InMemoryTaskQueue η) (id : UUID) : Prop :=
  q.status.get? id = some .pending ∨ q.status.get? id = some .processing

instance (q : InMemoryTaskQueue η) (id : UUID) : Decidable (q.Live id) :=
  inferInstanceAs (Decidable (_ ∨ _))

def live (q : InMemoryTaskQueue η) : Nat := q.tasks.keys.countP fun id ↦ q.Live id

/-- A stored task is live or settled, not both. -/
theorem live_iff_not_settled (hq : q.Ok) (hid : id ∈ q.tasks.keys) : q.Live id ↔ ¬ q.Settled id := by
  obtain ⟨task, ht⟩ := Dict.mem_keys_iff.mp hid
  have hsome : (q.status.get? id).isSome := (hq id).status_isSome (by rw [view, ht]; rfl)
  obtain ⟨status, hs⟩ := Option.isSome_iff_exists.mp hsome
  unfold Live Settled
  rw [hs]
  cases status <;> simp [TaskStatus.isTerminal]

/-- `enqueue` raises `QueueFullError` exactly when the dictionary of an open
queue has reached the capacity. -/
theorem enqueue_full_iff (hopen : q.closed = false) (task : TaskPayload) (delaySeconds : ℚ) :
    (∃ size max, q.enqueue now task delaySeconds = .error (.queueFull size max))
      ↔ q.maxSize ≤ q.tasks.size := by
  unfold enqueue
  rw [hopen, if_neg (by decide)]
  constructor
  · rintro ⟨size, max, h⟩
    split at h
    · assumption
    · split at h
      · cases h
      · cases h
  · intro h
    exact ⟨_, _, if_pos h⟩

/-- Only an accepted task makes the dictionary grow. -/
theorem TaskMove.task_isSome {v v' : TaskView} (h : TaskMove q now c id v v')
    (hop : ∀ task delaySeconds, c.op ≠ .enqueue task delaySeconds) :
    v'.task.isSome = v.task.isSome := by
  cases h with
  | accept hc => exact absurd hc (hop _ _)
  | retry _ ht => rw [ht]; rfl
  | overflow _ ht => rw [ht]; rfl
  | _ => rfl

/-- A call adds at most one task, and none to a full queue. -/
theorem exec_size (hq : q.Ok) (h : Calls now q c q') :
    q'.tasks.size = q.tasks.size ∨
      q'.tasks.size = q.tasks.size + 1 ∧ (q.tasks.size : Int) < q.maxSize := by
  by_cases hop : ∃ task delaySeconds, c.op = .enqueue task delaySeconds
  · obtain ⟨task, delaySeconds, hop⟩ := hop
    obtain ⟨hdistinct, hexec⟩ := h
    rw [hop] at hdistinct hexec
    rw [exec] at hexec
    cases hres : q.enqueue now task delaySeconds with
    | error e =>
        rw [hres] at hexec
        obtain ⟨-, rfl⟩ := Prod.mk.inj hexec
        exact .inl rfl
    | ok q'' =>
        rw [hres] at hexec
        obtain ⟨_, hroom, rfl⟩ := enqueue_ok hres
        obtain ⟨-, rfl⟩ := Prod.mk.inj hexec
        exact .inr ⟨Dict.size_insert_of_get?_none _ hdistinct, hroom⟩
  · left
    refine (Dict.size_eq_of_keys fun id ↦ ?_).symm
    have hsome := (exec_move hq h id).task_isSome fun task d hc ↦ hop ⟨task, d, hc⟩
    rw [← Option.isSome_iff_exists, ← Option.isSome_iff_exists]
    exact (Bool.eq_iff_iff.mp hsome).symm

/-- The dictionary never outgrows the capacity. -/
theorem size_le {s s' : Time × InMemoryTaskQueue η} {cs : List (Time × Call)}
    (h : QueueRun s cs s') (hs : s.2.Ok) (hsize : (s.2.tasks.size : Int) ≤ max 0 s.2.maxSize) :
    (s'.2.tasks.size : Int) ≤ max 0 s'.2.maxSize := by
  refine (Run.invariant (P := fun s ↦ s.2.Ok ∧ (s.2.tasks.size : Int) ≤ max 0 s.2.maxSize)
    ?_ h ⟨hs, hsize⟩).2
  rintro s a s' ⟨hok, hle⟩ ⟨_, _, hcall⟩
  refine ⟨exec_ok hok hcall, ?_⟩
  have hmax : s'.2.maxSize = s.2.maxSize := by
    have hset := settings_exec s.2 a.1 a.2.op
    rw [hcall.2] at hset
    exact congrArg Prod.fst hset
  rw [hmax]
  rcases exec_size hok hcall with heq | ⟨heq, hlt⟩
  · rw [heq]
    exact hle
  · rw [heq]
    push_cast
    omega

/-- In every open state of a run, whatever task is enqueued: a `QueueFullError`
implies that at least `max_size` tasks are live if and only if the dictionary is
below capacity or none of its tasks is settled. -/
theorem full_only_if_busy_iff {maxSize : Int} {retryBaseDelay retryMaxDelay : ℚ} {start : Time}
    {s : Time × InMemoryTaskQueue η} {cs : List (Time × Call)}
    (h : QueueRun (start, new maxSize retryBaseDelay retryMaxDelay) cs s)
    (hopen : s.2.closed = false) (now : Time) (task : TaskPayload) (delaySeconds : ℚ) :
    ((∃ size max, s.2.enqueue now task delaySeconds = .error (.queueFull size max)) →
        s.2.maxSize ≤ s.2.live)
      ↔ (s.2.tasks.size : Int) < s.2.maxSize ∨ ∀ id ∈ s.2.tasks.keys, ¬ s.2.Settled id := by
  have hok : s.2.Ok := h.ok (new_ok _ _ _)
  have hsize : (s.2.tasks.size : Int) ≤ max 0 s.2.maxSize :=
    size_le h (new_ok _ _ _) (by simp [new])
  have hlen : s.2.tasks.keys.length = s.2.tasks.size := List.length_map _
  rw [enqueue_full_iff hopen]
  constructor
  · intro himp
    by_cases hroom : (s.2.tasks.size : Int) < s.2.maxSize
    · exact .inl hroom
    · right
      intro id hid hsettled
      -- a settled task makes the live ones fewer than the tasks, hence than the capacity
      have hfew : s.2.live < s.2.tasks.size := by
        rw [← hlen]
        refine lt_of_le_of_ne List.countP_le_length fun hall ↦ ?_
        have hlive := List.countP_eq_length.mp hall id hid
        exact (live_iff_not_settled hok hid).mp (of_decide_eq_true hlive) hsettled
      have hbusy := himp (not_lt.mp hroom)
      omega
  · rintro (hroom | hnone) hfull
    · exact absurd hfull (not_le.mpr hroom)
    · have hall : s.2.live = s.2.tasks.keys.length := List.countP_eq_length.mpr fun id hid ↦
        decide_eq_true ((live_iff_not_settled hok hid).mpr (hnone id hid))
      rw [hall, hlen]
      exact hfull

section Witness

def tinyQueue : InMemoryTaskQueue (SortedList PriorityItem.key) := new 1 1 60

def servedScript : List (Time × QueueOp) :=
  [(0, .enqueue sampleTask 0), (0, .dequeue none), (1, .complete ⟨1⟩
    { taskId := ⟨1⟩, status := .completed, processedAt := 1 })]

theorem full_only_if_busy_sample :
    (∃ size max, (playState (0, tinyQueue) [(0, .enqueue sampleTask 0)]).2.enqueue 1
      { sampleTask with taskId := ⟨2⟩ } 0 = .error (.queueFull size max)) ∧
    (playState (0, tinyQueue) [(0, .enqueue sampleTask 0)]).2.maxSize
      ≤ (playState (0, tinyQueue) [(0, .enqueue sampleTask 0)]).2.live := by
  have hrun : QueueRun (0, tinyQueue) (playCalls (0, tinyQueue) [(0, .enqueue sampleTask 0)])
      (playState (0, tinyQueue) [(0, .enqueue sampleTask 0)]) := run_play (by decide +kernel)
  have hfull : ∃ size max, (playState (0, tinyQueue) [(0, .enqueue sampleTask 0)]).2.enqueue 1
      { sampleTask with taskId := ⟨2⟩ } 0 = .error (.queueFull size max) := ⟨1, 1, rfl⟩
  exact ⟨hfull,
    (full_only_if_busy_iff hrun (by decide +kernel) 1 _ 0).mpr (.inr (by decide +kernel)) hfull⟩

/-- A queue with room for one task refuses a second one although the first is
completed and no task is live. -/
theorem full_though_idle :
    QueueRun (0, tinyQueue) (playCalls (0, tinyQueue) servedScript)
      (playState (0, tinyQueue) servedScript) ∧
    (playState (0, tinyQueue) servedScript).2.closed = false ∧
    (playState (0, tinyQueue) servedScript).2.enqueue 2 { sampleTask with taskId := ⟨2⟩ } 0
      = .error (.queueFull 1 1) ∧
    (playState (0, tinyQueue) servedScript).2.live = 0 := by
  refine ⟨run_play (by decide +kernel), by decide +kernel, ?_, by decide +kernel⟩
  rfl

end Witness

end SemanticBus.InMemoryTaskQueue
