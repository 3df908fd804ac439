import SemanticBus.Queue.Life

/-!
# What `dequeue` returns

The purpose of the scan, stated without the heap: `dequeue` returns an eligible
task of least rank, if there is one, and only that task stops being eligible.
`TaskPayload.rank` is the order in which tasks are served.
-/

universe u

namespace SemanticBus

/-- Tasks are served by priority, then by creation time. -/
def TaskPayload.rank (task : TaskPayload) : Nat ×ₗ Int := toLex (task.priority.value, task.createdAt)

/-- A task past its TTL stays so. -/
theorem TaskPayload.isExpired_mono {task : TaskPayload} {now now' : Time} (h : now ≤ now')
    (hexp : task.isExpired now = true) : task.isExpired now' = true := by
  simp only [TaskPayload.isExpired, decide_eq_true_eq, gt_iff_lt] at hexp ⊢
  exact lt_of_lt_of_le hexp (Int.sub_le_sub_right h _)

namespace InMemoryTaskQueue

variable {η : Type u} [MinHeap η PriorityItem.key]
variable {q : InMemoryTaskQueue η} {now : Time} {tenantId : Option String}

/-- A `dequeue` with this filter may return the task: it is pending, the filter
lets it through, it is visible, and it is not past its TTL. -/
structure Eligible (q : InMemoryTaskQueue η) (now : Time) (tenantId : Option String)
    (task : TaskPayload) : Prop where
  stored : q.tasks.get? task.taskId = some task
  pending : q.status.get? task.taskId = some .pending
  matches_tenant : matchesTenant tenantId task = true
  visible : ∃ item ∈ MinHeap.items q.heap, item.taskId = task.taskId ∧ item.visibleAt ≤ now
  fresh : task.isExpired now = false

/-- The tasks of claimable items are the eligible ones. -/
theorem Eligible.of_claimable (hq : q.Ok) {item : PriorityItem} {task : TaskPayload}
    (hmem : item ∈ MinHeap.items q.heap) (hc : q.claimable now tenantId item = true)
    (ht : q.tasks.get? item.taskId = some task) : q.Eligible now tenantId task := by
  obtain ⟨task', ht', hvis, hfresh, hmatch, hpending⟩ := claimable_iff.mp hc
  obtain rfl := Option.some.inj (ht.symm.trans ht')
  have hid := hq.taskId_eq ht
  exact ⟨hid.symm ▸ ht, hid.symm ▸ hpending, hmatch, ⟨item, hmem, hid.symm, hvis⟩, hfresh⟩

/-- An eligible task has a claimable item of its rank. -/
theorem Eligible.exists_claimable (hq : q.Ok) {task : TaskPayload}
    (h : q.Eligible now tenantId task) :
    ∃ item ∈ MinHeap.items q.heap, q.claimable now tenantId item = true ∧
      item.taskId = task.taskId ∧ item.key = task.rank := by
  obtain ⟨item, hmem, hid, hvis⟩ := h.visible
  have ht : q.tasks.get? item.taskId = some task := hid ▸ h.stored
  refine ⟨item, hmem, ?_, hid, ?_⟩
  · rw [claimable_iff]
    exact ⟨task, ht, hvis, h.fresh, h.matches_tenant, hid ▸ h.pending⟩
  · obtain ⟨task', ht', hitem⟩ := hq.item hmem
    obtain rfl := Option.some.inj (ht.symm.trans ht')
    rw [hitem]
    rfl

/-- An item of an eligible task survives the scan, unless it is the one claimed. -/
theorem Eligible.passedOver {now' : Time} {tenantId' : Option String} {task : TaskPayload}
    {item : PriorityItem} (hle : now ≤ now') (h : q.Eligible now' tenantId' task)
    (hid : item.taskId = task.taskId) (hc : q.claimable now tenantId item = false) :
    q.passedOver now tenantId item = true := by
  have hfresh : task.isExpired now = false := by
    rw [← Bool.not_eq_true]
    intro hexp
    have := TaskPayload.isExpired_mono hle hexp
    rw [h.fresh] at this
    cases this
  have ht : q.tasks.get? item.taskId = some task := hid ▸ h.stored
  rw [passedOver_iff]
  refine ⟨task, ht, ?_⟩
  by_cases hvis : item.visibleAt ≤ now
  · right
    refine ⟨hfresh, ?_⟩
    rw [← Bool.not_eq_true]
    intro hmatch
    have : q.claimable now tenantId item = true :=
      claimable_iff.mpr ⟨task, ht, hvis, hfresh, hmatch, hid ▸ h.pending⟩
    rw [hc] at this
    cases this
  · left
    exact not_le.mp hvis

/-- A scan expires no task that is eligible then or later. -/
theorem Eligible.not_lapses {now' : Time} {tenantId' : Option String} {task : TaskPayload}
    (hle : now ≤ now') (h : q.Eligible now' tenantId' task) (items : List PriorityItem) :
    ¬ q.Lapses now items task.taskId := by
  rintro ⟨item, _, hl, hid⟩
  obtain ⟨task', ht', _, hexp⟩ := lapsed_iff.mp hl
  rw [hid, h.stored] at ht'
  have := TaskPayload.isExpired_mono hle hexp
  rw [← Option.some.inj ht', h.fresh] at this
  cases this

/-- Eligibility carries over to a state with the same tasks in which the task is
still pending and visible. -/
theorem Eligible.congr {q' : InMemoryTaskQueue η} {task : TaskPayload}
    (h : q.Eligible now tenantId task) (htasks : q'.tasks = q.tasks)
    (hpending : q'.status.get? task.taskId = some .pending)
    (hvis : ∃ item ∈ MinHeap.items q'.heap, item.taskId = task.taskId ∧ item.visibleAt ≤ now) :
    q'.Eligible now tenantId task where
  stored := htasks ▸ h.stored
  pending := hpending
  matches_tenant := h.matches_tenant
  visible := hvis
  fresh := h.fresh

/-- A scan that finds nothing keeps the eligible tasks. -/
theorem eligible_none {heap : η} {items : List PriorityItem} {now' : Time}
    {tenantId' : Option String} {task : TaskPayload} (hle : now ≤ now')
    (hnone : ∀ item ∈ MinHeap.items q.heap, q.claimable now tenantId item = false)
    (hitems : MinHeap.items heap = (MinHeap.items q.heap).filter (q.passedOver now tenantId ·)) :
    ({ q.lapse now items with heap := heap }).Eligible now' tenantId' task
      ↔ q.Eligible now' tenantId' task := by
  constructor
  · intro h
    refine h.congr (tasks_lapse items).symm ?_ ?_
    · rcases (status_lapse_eq_or items task.taskId : (q.lapse now items).status.get? _ = _ ∨ _) with
        heq | ⟨_, hexp⟩
      · exact heq ▸ h.pending
      · exact absurd (hexp.symm.trans h.pending) (by decide)
    · obtain ⟨item, hmem, hrest⟩ := h.visible
      exact ⟨item, Multiset.mem_of_le (hitems ▸ Multiset.filter_le _ _) hmem, hrest⟩
  · intro h
    refine h.congr (tasks_lapse items) ?_ ?_
    · exact (status_lapse_of_not (h.not_lapses hle items)).trans h.pending
    · obtain ⟨item, hmem, hid, hvis⟩ := h.visible
      refine ⟨item, ?_, hid, hvis⟩
      rw [hitems]
      exact Multiset.mem_filter.mpr ⟨hmem, h.passedOver hle hid (hnone item hmem)⟩

/-- A scan that claims a task keeps the other eligible tasks. -/
theorem eligible_claim (hq : q.Ok) {item : PriorityItem} {after : List PriorityItem} {heap : η}
    {claimed task : TaskPayload} {now' : Time} {tenantId' : Option String} (hle : now ≤ now')
    (hord : MinHeap.popOrder q.heap = q.scanned now tenantId ++ item :: after)
    (ht : q.tasks.get? item.taskId = some claimed)
    (hitems : MinHeap.items heap = ((q.scanned now tenantId).filter (q.passedOver now tenantId) :
      Multiset PriorityItem) + (after : Multiset PriorityItem)) :
    ({ q.lapse now (q.scanned now tenantId) with
        heap := heap
        status := (q.lapse now (q.scanned now tenantId)).status.insert item.taskId
          .processing }).Eligible now' tenantId' task
      ↔ q.Eligible now' tenantId' task ∧ task ≠ claimed := by
  have hid : claimed.taskId = item.taskId := hq.taskId_eq ht
  constructor
  · intro h
    have hne : task.taskId ≠ item.taskId := by
      intro he
      have hp := h.pending
      rw [he] at hp
      exact absurd ((Dict.get?_insert_self _ _ _).symm.trans hp) (by decide)
    have hpending := (Dict.get?_insert_of_ne _ _ hne).symm.trans h.pending
    refine ⟨h.congr (tasks_lapse _).symm ?_ ?_, fun he ↦ hne (he ▸ hid)⟩
    · rcases status_lapse_eq_or (q := q) (q.scanned now tenantId) task.taskId with
        heq | ⟨_, hexp⟩
      · exact heq ▸ hpending
      · exact absurd (hexp.symm.trans hpending) (by decide)
    · obtain ⟨j, hmem, hrest⟩ := h.visible
      refine ⟨j, ?_, hrest⟩
      rw [← MinHeap.mem_popOrder, hord, List.mem_append, List.mem_cons]
      rw [hitems, Multiset.mem_add, Multiset.mem_coe, Multiset.mem_coe] at hmem
      exact hmem.imp List.mem_of_mem_filter .inr
  · rintro ⟨h, hne⟩
    have hneid : task.taskId ≠ item.taskId := by
      intro he
      have hstored := h.stored
      rw [he, ht] at hstored
      exact hne (Option.some.inj hstored).symm
    refine h.congr (tasks_lapse _) ?_ ?_
    · exact (Dict.get?_insert_of_ne _ _ hneid).trans
        ((status_lapse_of_not (h.not_lapses hle _)).trans h.pending)
    · obtain ⟨j, hmem, hjid, hvis⟩ := h.visible
      refine ⟨j, ?_, hjid, hvis⟩
      rw [← MinHeap.mem_popOrder, hord, List.mem_append, List.mem_cons] at hmem
      rw [hitems, Multiset.mem_add, Multiset.mem_coe, Multiset.mem_coe]
      rcases hmem with hmem | rfl | hmem
      · exact .inl (List.mem_filter.mpr
          ⟨hmem, h.passedOver hle hjid (not_claimable_of_mem_scanned hmem)⟩)
      · exact absurd hjid.symm hneid
      · exact .inr hmem

/-- The first claimable item in pop order has least rank. -/
theorem rank_le_of_first (hq : q.Ok) {item : PriorityItem} {after : List PriorityItem}
    {claimed task : TaskPayload}
    (hord : MinHeap.popOrder q.heap = q.scanned now tenantId ++ item :: after)
    (hmem : item ∈ MinHeap.items q.heap) (ht : q.tasks.get? item.taskId = some claimed)
    (h : q.Eligible now tenantId task) : claimed.rank ≤ task.rank := by
  obtain ⟨claimed', ht', hitem⟩ := hq.item hmem
  obtain rfl := Option.some.inj (ht.symm.trans ht')
  have hkey : item.key = claimed.rank := by rw [hitem]; rfl
  obtain ⟨j, hj, hc, _, hrank⟩ := h.exists_claimable hq
  have hsorted := MinHeap.pairwise_popOrder q.heap
  rw [hord, List.pairwise_append, List.pairwise_cons] at hsorted
  rw [← MinHeap.mem_popOrder, hord, List.mem_append, List.mem_cons] at hj
  rw [← hkey, ← hrank]
  rcases hj with hj | rfl | hj
  · rw [not_claimable_of_mem_scanned hj] at hc
    cases hc
  · exact le_rfl
  · exact hsorted.2.1.1 j hj

/-- What a `dequeue` of an open queue with consistent books does. -/
theorem dequeue_spec (hq : q.Ok) (hopen : q.closed = false) :
    ((q.dequeue now tenantId).1 = none ↔ ∀ task, ¬ q.Eligible now tenantId task) ∧
    (∀ task, (q.dequeue now tenantId).1 = some task →
      q.Eligible now tenantId task ∧
      (∀ task', q.Eligible now tenantId task' → task.rank ≤ task'.rank) ∧
      (q.dequeue now tenantId).2.status.get? task.taskId = some .processing) ∧
    ∀ now' tenantId' task, now ≤ now' →
      ((q.dequeue now tenantId).2.Eligible now' tenantId' task ↔
        q.Eligible now' tenantId' task ∧ (q.dequeue now tenantId).1 ≠ some task) := by
  have hdeq : q.dequeue now tenantId = q.findNextVisible now tenantId := by
    rw [dequeue, hopen]
    rfl
  rw [hdeq]
  rcases findNextVisible_cases q now tenantId with
    ⟨heap, hnone, hitems, heq⟩ | ⟨item, after, claimed, heap, hord, hc, ht, hitems, heq⟩
  · rw [heq]
    refine ⟨⟨fun _ task h ↦ ?_, fun _ ↦ rfl⟩, ?_, ?_⟩
    · obtain ⟨item, hmem, hc, _⟩ := h.exists_claimable hq
      rw [hnone item hmem] at hc
      cases hc
    · intro task h
      cases h
    · intro now' tenantId' task hle
      rw [eligible_none hle hnone hitems]
      simp
  · have hmem : item ∈ MinHeap.items q.heap := by
      rw [← MinHeap.mem_popOrder, hord]
      simp
    have helig := Eligible.of_claimable hq hmem hc ht
    rw [heq]
    refine ⟨⟨fun h ↦ ?_, fun h ↦ absurd helig (h claimed)⟩, ?_, ?_⟩
    · cases h
    · intro task h
      obtain rfl := Option.some.inj h
      refine ⟨helig, fun task' h' ↦ rank_le_of_first hq hord hmem ht h', ?_⟩
      rw [hq.taskId_eq ht]
      exact Dict.get?_insert_self _ _ _
    · intro now' tenantId' task hle
      rw [eligible_claim hq hle hord ht hitems]
      exact and_congr_right fun _ ↦ ⟨fun hne he ↦ hne (Option.some.inj he).symm,
        fun hne he ↦ hne (congrArg some he.symm)⟩

/-- In every state of a run that leaves the queue open, a `dequeue` at any
instant returns nothing exactly when no task is eligible, and else an eligible
task of least rank, which it makes `PROCESSING`.  From that instant on the
eligible tasks are those of before without the returned one, for every filter. -/
theorem dequeue_least_eligible {maxSize : Int} {retryBaseDelay retryMaxDelay : ℚ} {start : Time}
    {s : Time × InMemoryTaskQueue η} {cs : List (Time × Call)}
    (h : QueueRun (start, new maxSize retryBaseDelay retryMaxDelay) cs s)
    (hopen : s.2.closed = false) (now : Time) (tenantId : Option String) :
    ((s.2.dequeue now tenantId).1 = none ↔ ∀ task, ¬ s.2.Eligible now tenantId task) ∧
    (∀ task, (s.2.dequeue now tenantId).1 = some task →
      s.2.Eligible now tenantId task ∧
      (∀ task', s.2.Eligible now tenantId task' → task.rank ≤ task'.rank) ∧
      (s.2.dequeue now tenantId).2.status.get? task.taskId = some .processing) ∧
    ∀ now' tenantId' task, now ≤ now' →
      ((s.2.dequeue now tenantId).2.Eligible now' tenantId' task ↔
        s.2.Eligible now' tenantId' task ∧ (s.2.dequeue now tenantId).1 ≠ some task) :=
  dequeue_spec (h.ok (new_ok _ _ _)) hopen

/-- A task that is created later than `sampleTask` and is more urgent. -/
def urgentTask : TaskPayload :=
  { taskId := ⟨2⟩, tenantId := "acme", priority := .critical, createdAt := 1 }

def twoTasks : List (Time × QueueOp) := [(0, .enqueue sampleTask 0), (1, .enqueue urgentTask 0)]

theorem dequeue_least_eligible_sample :
    (playState (0, sampleQueue) twoTasks).2.Eligible 2 (some "acme") urgentTask ∧
      ((playState (0, sampleQueue) twoTasks).2.dequeue 2 (some "acme")).2.status.get? ⟨2⟩
        = some .processing := by
  have hrun : QueueRun (0, sampleQueue) (playCalls (0, sampleQueue) twoTasks)
      (playState (0, sampleQueue) twoTasks) := run_play (by decide +kernel)
  have hspec := dequeue_least_eligible hrun (by decide +kernel) 2 (some "acme")
  have hurgent := hspec.2.1 urgentTask rfl
  exact ⟨hurgent.1, hurgent.2.2⟩

end InMemoryTaskQueue

end SemanticBus
