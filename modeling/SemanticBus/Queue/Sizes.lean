import Mathlib.Algebra.BigOperators.Group.Finset.Basic
import Mathlib.Data.Finset.Card
import SemanticBus.Queue.Capacity
import SemanticBus.Queue.Worker

/-!
# Counting tasks

The queue answers questions about numbers of tasks from its status map, from the two
indexes and from three counters, each of which every operation updates on its own.
`Indexed` says that an index holds exactly the live tasks of each key, `Tallied` that
the counters are the numbers of completed and failed tasks.  Both are kept by every call
as long as only claimed tasks are acknowledged, and then every answer is the number of
tasks it is meant to be.
-/

universe u

namespace SemanticBus.InMemoryTaskQueue

/-! ## The readings -/

/-- `index[key]` on a `defaultdict(set)`: the set that is read. -/
def members {κ : Type} [DecidableEq κ] (index : Dict κ (Finset UUID)) (key : κ) : Finset UUID :=
  (index.get? key).getD ∅

/-- `index[key]` on a `defaultdict(set)`: a key that is missing is created. -/
def touched {κ : Type} [DecidableEq κ] (index : Dict κ (Finset UUID)) (key : κ) :
    Dict κ (Finset UUID) := index.insert key (members index key)

structure QueueStats where
  totalTasks : Nat
  pending : Nat
  processing : Nat
  completed : Nat
  failed : Nat
  maxSize : Int
  closed : Bool

section Readings

variable {η : Type u}

def pendingAmong (q : InMemoryTaskQueue η) (ids : Finset UUID) : Nat :=
  (ids.filter fun id ↦ q.status.get? id = some .pending).card

def size (q : InMemoryTaskQueue η) (tenantId : Option String) : Nat × InMemoryTaskQueue η :=
  match tenantId.filter (· ≠ "") with
  | some t => (q.pendingAmong (members q.byTenant t), { q with byTenant := touched q.byTenant t })
  | none => (q.status.values.countP (· = .pending), q)

def pendingByAgent (q : InMemoryTaskQueue η) (agentId : UUID) : Nat × InMemoryTaskQueue η :=
  (q.pendingAmong (members q.byAgent agentId), { q with byAgent := touched q.byAgent agentId })

def stats (q : InMemoryTaskQueue η) : QueueStats where
  totalTasks := q.tasks.size
  pending := q.status.values.countP (· = .pending)
  processing := q.status.values.countP (· = .processing)
  completed := q.completedCount
  failed := q.failedCount
  maxSize := q.maxSize
  closed := q.closed

def withStatus (q : InMemoryTaskQueue η) (status : TaskStatus) : Finset UUID :=
  q.tasks.keys.toFinset.filter fun id ↦ q.status.get? id = some status

def pendingWhere (q : InMemoryTaskQueue η) (p : TaskPayload → Bool) : Finset UUID :=
  (q.withStatus .pending).filter fun id ↦ (q.tasks.get? id).any p

end Readings

section Members

variable {κ : Type} [DecidableEq κ] {index : Dict κ (Finset UUID)} {key key' : κ} {id id' : UUID}

theorem members_insert (ids : Finset UUID) :
    members (index.insert key ids) key' = if key' = key then ids else members index key' := by
  rw [members, Dict.get?_insert]
  split
  · rfl
  · rfl

theorem mem_members_add : id' ∈ members (indexAdd index key id) key' ↔
    id' ∈ members index key' ∨ key' = key ∧ id' = id := by
  rw [indexAdd, members_insert]
  by_cases hkey : key' = key
  · subst hkey
    rw [if_pos rfl, Finset.mem_insert, or_comm]
    simp [members]
  · rw [if_neg hkey]
    simp [hkey]

theorem mem_members_discard : id' ∈ members (indexDiscard index key id) key' ↔
    id' ∈ members index key' ∧ ¬ (key' = key ∧ id' = id) := by
  rw [indexDiscard, members_insert]
  by_cases hkey : key' = key
  · subst hkey
    rw [if_pos rfl, Finset.mem_erase, and_comm]
    simp [members]
  · rw [if_neg hkey]
    simp [hkey]

theorem mem_members_elim_add {owner : Option κ} :
    id' ∈ members (owner.elim index (indexAdd index · id)) key' ↔
      id' ∈ members index key' ∨ owner = some key' ∧ id' = id := by
  cases owner with
  | none => simp
  | some key =>
      rw [Option.elim_some, mem_members_add]
      simp [eq_comm]

theorem mem_members_elim_discard {owner : Option κ} :
    id' ∈ members (owner.elim index (indexDiscard index · id)) key' ↔
      id' ∈ members index key' ∧ ¬ (owner = some key' ∧ id' = id) := by
  cases owner with
  | none => simp
  | some key =>
      rw [Option.elim_some, mem_members_discard]
      simp [eq_comm]

end Members

variable {η : Type u} {q q' : InMemoryTaskQueue η} {now : Time} {c : Call} {id : UUID}
  {task : TaskPayload}

/-! ## The indexes -/

section Indexes

variable {κ : Type} [DecidableEq κ] {owner : TaskPayload → Option κ}
  {index : Dict κ (Finset UUID)}

/-- The index holds, under each key, the live tasks of that owner. -/
def Indexes (owner : TaskPayload → Option κ) (index : Dict κ (Finset UUID))
    (q : InMemoryTaskQueue η) : Prop :=
  ∀ key id, id ∈ members index key ↔
    ∃ task, q.tasks.get? id = some task ∧ owner task = some key ∧ q.Live id

/-- A task that was not there is filed under its owner. -/
theorem Indexes.add (h : Indexes owner index q) (hfresh : q.tasks.get? task.taskId = none)
    (htasks : q'.tasks = q.tasks.insert task.taskId task)
    (hstatus : q'.status = q.status.insert task.taskId .pending) :
    Indexes owner ((owner task).elim index (indexAdd index · task.taskId)) q' := by
  intro key id
  rw [mem_members_elim_add, h, htasks]
  unfold Live
  rw [hstatus]
  by_cases hid : id = task.taskId
  · subst hid
    rw [Dict.get?_insert_self, Dict.get?_insert_self, hfresh]
    simp
  · rw [Dict.get?_insert_of_ne _ _ hid, Dict.get?_insert_of_ne _ _ hid]
    simp [hid]

/-- A task that is no longer live is dropped from under its owner. -/
theorem Indexes.discard (h : Indexes owner index q) (ht : q.tasks.get? id = some task)
    (htasks : q'.tasks = q.tasks) (hdead : ¬ q'.Live id)
    (hrest : ∀ id' ≠ id, q'.status.get? id' = q.status.get? id') :
    Indexes owner ((owner task).elim index (indexDiscard index · id)) q' := by
  intro key id'
  rw [mem_members_elim_discard, h, htasks]
  by_cases hid : id' = id
  · subst hid
    rw [ht]
    constructor
    · rintro ⟨⟨task', ht', howner, -⟩, hnot⟩
      cases ht'
      exact absurd ⟨howner, rfl⟩ hnot
    · rintro ⟨_, _, _, hlive⟩
      exact absurd hlive hdead
  · unfold Live
    rw [hrest id' hid]
    simp [hid]

/-- Nothing is filed or dropped when no task changes its owner or ceases to be live. -/
theorem Indexes.keep (h : Indexes owner index q)
    (howner : ∀ id, (q'.tasks.get? id).map owner = (q.tasks.get? id).map owner)
    (hlive : ∀ id, q'.Live id ↔ q.Live id) : Indexes owner index q' := by
  intro key id
  have hsame : (∃ task, q'.tasks.get? id = some task ∧ owner task = some key) ↔
      ∃ task, q.tasks.get? id = some task ∧ owner task = some key := by
    have hmap := howner id
    constructor
    · rintro ⟨task, ht, hkey⟩
      rw [ht, Option.map_some] at hmap
      obtain ⟨task', ht', heq⟩ := Option.map_eq_some_iff.mp hmap.symm
      exact ⟨task', ht', heq.trans hkey⟩
    · rintro ⟨task, ht, hkey⟩
      rw [ht, Option.map_some] at hmap
      obtain ⟨task', ht', heq⟩ := Option.map_eq_some_iff.mp hmap
      exact ⟨task', ht', heq.trans hkey⟩
  rw [h, hlive]
  constructor
  · rintro ⟨task, ht, hkey, hl⟩
    obtain ⟨task', ht', hkey'⟩ := hsame.mpr ⟨task, ht, hkey⟩
    exact ⟨task', ht', hkey', hl⟩
  · rintro ⟨task, ht, hkey, hl⟩
    obtain ⟨task', ht', hkey'⟩ := hsame.mp ⟨task, ht, hkey⟩
    exact ⟨task', ht', hkey', hl⟩

end Indexes

/-- Both indexes hold the live tasks. -/
structure Indexed (q : InMemoryTaskQueue η) : Prop where
  tenants : Indexes (fun task ↦ some task.tenantId) q.byTenant q
  agents : Indexes TaskPayload.targetAgentId q.byAgent q

/-- A task that is settled is dropped from both indexes. -/
theorem Indexed.unindex (h : q.Indexed) (ht : q.tasks.get? id = some task)
    (htasks : q'.tasks = q.tasks) (hdead : ¬ q'.Live id)
    (hrest : ∀ id' ≠ id, q'.status.get? id' = q.status.get? id')
    (htenant : q'.byTenant = (q.unindex task id).byTenant)
    (hagent : q'.byAgent = (q.unindex task id).byAgent) : q'.Indexed where
  tenants := by
    rw [htenant]
    exact h.tenants.discard ht htasks hdead hrest
  agents := by
    rw [hagent]
    exact h.agents.discard ht htasks hdead hrest

/-- The status map after a task is settled. -/
theorem Indexed.settle {status : TaskStatus} (h : q.Indexed) (ht : q.tasks.get? id = some task)
    (hterm : status.isTerminal = true) (htasks : q'.tasks = q.tasks)
    (hstatus : q'.status = q.status.insert id status)
    (htenant : q'.byTenant = (q.unindex task id).byTenant)
    (hagent : q'.byAgent = (q.unindex task id).byAgent) : q'.Indexed := by
  refine h.unindex ht htasks ?_ (fun id' hid ↦ ?_) htenant hagent
  · unfold Live
    rw [hstatus, Dict.get?_insert_self]
    rintro (hs | hs)
    · cases hs
      cases hterm
    · cases hs
      cases hterm
  · rw [hstatus, Dict.get?_insert_of_ne _ _ hid]

theorem Indexed.markExpired (h : q.Indexed) (ht : q.tasks.get? id = some task) :
    (q.markExpired now id).Indexed := by
  have hsame : q.markExpired now id = { q.unindex task id with
      status := q.status.insert id .expired
      results := q.results.insert id (expiredResult now task id) } := by
    unfold InMemoryTaskQueue.markExpired
    dsimp only
    rw [ht]
    rfl
  rw [hsame]
  exact h.settle ht rfl rfl rfl rfl rfl

/-- What expiring a stored task keeps is kept by a scan. -/
theorem lapse_keeps {P : InMemoryTaskQueue η → Prop}
    (hP : ∀ q id task, P q → q.tasks.get? id = some task → P (q.markExpired now id))
    (items : List PriorityItem) (h : P q) : P (q.lapse now items) := by
  induction items generalizing q with
  | nil => exact h
  | cons item items ih =>
      rw [lapse_cons]
      split
      · rename_i hl
        obtain ⟨task, ht, -, -⟩ := lapsed_iff.mp hl
        exact ih (hP q _ task h ht)
      · exact ih h

/-- What expiring a stored task past its TTL keeps is kept by `clear_expired`. -/
theorem clearExpired_keeps {P : InMemoryTaskQueue η → Prop}
    (hP : ∀ q id task, P q → q.tasks.get? id = some task → task.isExpired now = true →
      P (q.markExpired now id)) (h : P q) : P (q.clearExpired now).2 := by
  have hloop : ∀ (l : List (UUID × TaskPayload)) (acc : Nat × InMemoryTaskQueue η),
      (∀ e ∈ l, acc.2.tasks.get? e.1 = some e.2) → P acc.2 →
        P (l.foldl (clearStep now) acc).2 := by
    intro l
    induction l with
    | nil => exact fun _ _ h ↦ h
    | cons e l ih =>
        intro acc htasks hacc
        rw [List.foldl_cons]
        have ht := htasks e List.mem_cons_self
        have hrest := fun e' he' ↦ htasks e' (List.mem_cons_of_mem e he')
        unfold clearStep
        split
        · rename_i hlapsed
          refine ih _ (fun e' he' ↦ ?_) (hP _ _ _ hacc ht hlapsed.2)
          rw [tasks_markExpired]
          exact hrest e' he'
        · exact ih _ hrest hacc
  exact hloop _ _ (fun e he ↦ Dict.mem_entries_iff.mp he) h

/-- Claiming a pending task files and drops nothing. -/
theorem Indexed.claim (h : q.Indexed) (hp : q.status.get? id = some .pending) (heap : η) :
    ({ q with heap := heap, status := q.status.insert id .processing }).Indexed := by
  have hlive : ∀ id', ({ q with heap := heap, status := q.status.insert id .processing }).Live id' ↔
      q.Live id' := by
    intro id'
    unfold Live
    by_cases hid : id' = id
    · subst hid
      rw [show (q.status.insert id' .processing).get? id' = _ from Dict.get?_insert_self _ _ _, hp]
      simp
    · rw [show (q.status.insert id .processing).get? id' = _ from Dict.get?_insert_of_ne _ _ hid]
  exact ⟨h.tenants.keep (fun _ ↦ rfl) hlive, h.agents.keep (fun _ ↦ rfl) hlive⟩

/-- A retry puts another version of a live task in its place. -/
theorem Indexed.retry (h : q.Indexed) (hp : q.status.get? id = some .processing)
    (ht : q.tasks.get? id = some task) (retryCount : Int) (heap : η)
    {status : Dict UUID TaskStatus}
    (hstatus : status = q.status ∨ status = q.status.insert id .pending) :
    ({ q with
      tasks := q.tasks.insert id { task with retryCount := retryCount }
      status := status
      heap := heap }).Indexed := by
  have howner : ∀ {κ : Type} (owner : TaskPayload → Option κ),
      owner { task with retryCount := retryCount } = owner task → ∀ id',
        ((q.tasks.insert id { task with retryCount := retryCount }).get? id').map owner
          = (q.tasks.get? id').map owner := by
    intro κ owner howner id'
    rw [Dict.get?_insert]
    split
    · rename_i hid
      rw [hid, ht, Option.map_some, Option.map_some, howner]
    · rfl
  have hlive : ∀ id', ({ q with
      tasks := q.tasks.insert id { task with retryCount := retryCount }
      status := status
      heap := heap }).Live id' ↔ q.Live id' := by
    intro id'
    unfold Live
    rcases hstatus with rfl | rfl
    · rfl
    by_cases hid : id' = id
    · subst hid
      rw [show (q.status.insert id' .pending).get? id' = _ from Dict.get?_insert_self _ _ _, hp]
      simp
    · rw [show (q.status.insert id .pending).get? id' = _ from Dict.get?_insert_of_ne _ _ hid]
  exact ⟨h.tenants.keep (howner _ rfl) hlive, h.agents.keep (howner _ rfl) hlive⟩

theorem Indexed.complete (h : q.Indexed) (id : UUID) (result : TaskResult) :
    (q.complete id result).2.Indexed := by
  unfold InMemoryTaskQueue.complete
  split
  · exact h
  · rename_i task ht
    exact h.settle ht (show TaskStatus.completed.isTerminal = true from rfl) rfl rfl rfl rfl

theorem Indexed.cancel (h : q.Indexed) (id : UUID) : (q.cancel now id).2.Indexed := by
  unfold InMemoryTaskQueue.cancel
  split
  · exact h
  · rename_i task ht
    split
    · exact h
    · exact h.settle ht (show TaskStatus.cancelled.isTerminal = true from rfl) rfl rfl rfl rfl

variable [MinHeap η PriorityItem.key]

/-- Only claimed tasks are acknowledged. -/
def AcksClaimed (q : InMemoryTaskQueue η) (op : QueueOp) : Prop :=
  ∀ id, op.acknowledges = some id → q.status.get? id = some .processing

instance (q : InMemoryTaskQueue η) : ∀ op, Decidable (q.AcksClaimed op)
  | .complete id _ | .fail id _ _ _ =>
      decidable_of_iff (q.status.get? id = some .processing)
        ⟨fun h _ hid ↦ Option.some.inj hid ▸ h, fun h ↦ h id rfl⟩
  | .enqueue _ _ | .dequeue _ | .cancel _ | .clearExpired | .shutdown =>
      isTrue fun _ h ↦ by cases h

theorem indexed_new (maxSize : Int) (retryBaseDelay retryMaxDelay : ℚ) :
    (new maxSize retryBaseDelay retryMaxDelay : InMemoryTaskQueue η).Indexed := by
  constructor
  · intro key id
    simp [new, members]
  · intro key id
    simp [new, members]

theorem Indexed.enqueue {delaySeconds : ℚ} (h : q.Indexed)
    (hfresh : q.tasks.get? task.taskId = none) (heq : q.enqueue now task delaySeconds = .ok q') :
    q'.Indexed := by
  obtain ⟨-, -, rfl⟩ := enqueue_ok heq
  exact ⟨h.tenants.add hfresh rfl rfl, h.agents.add hfresh rfl rfl⟩

theorem Indexed.dequeue (h : q.Indexed) (tenantId : Option String) :
    (q.dequeue now tenantId).2.Indexed := by
  have hlapse : ∀ items, (q.lapse now items).Indexed := fun items ↦
    lapse_keeps (P := Indexed) (fun _ _ _ h ht ↦ h.markExpired ht) items h
  unfold InMemoryTaskQueue.dequeue
  split
  · exact h
  · rcases findNextVisible_cases q now tenantId with
      ⟨heap, -, -, heq⟩ | ⟨item, after, task, heap, hord, hc, ht, -, heq⟩
    · rw [heq]
      exact ⟨(hlapse _).tenants, (hlapse _).agents⟩
    · rw [heq]
      obtain ⟨task', ht', -, hfresh, -, hp⟩ := claimable_iff.mp hc
      obtain rfl := Option.some.inj (ht.symm.trans ht')
      refine (hlapse _).claim ((status_lapse_of_not ?_).trans hp) heap
      rintro ⟨j, -, hl, hj⟩
      obtain ⟨task', ht', -, hexp⟩ := lapsed_iff.mp hl
      rw [hj, ht] at ht'
      rw [← Option.some.inj ht', hfresh] at hexp
      cases hexp

theorem Indexed.fail (h : q.Indexed) {errorCode errorMessage : String} {retry : Bool}
    (hack : q.status.get? id = some .processing) :
    (q.fail now id errorCode errorMessage retry).2.Indexed := by
  unfold InMemoryTaskQueue.fail
  split
  · exact h
  · rename_i task ht
    split
    · by_cases hfits : q.Reschedules now (task.retryCount + 1)
      · rw [reschedule_of _ hfits]
        exact h.retry hack ht _ _ (.inr rfl)
      · rw [reschedule_of_not _ hfits]
        exact h.retry hack ht _ _ (q.stalled_cases id _)
    · exact h.settle ht (show TaskStatus.failed.isTerminal = true from rfl) rfl rfl rfl rfl

/-- Every call keeps the indexes, if it acknowledges claimed tasks only. -/
theorem Indexed.exec (h : q.Indexed) (hack : q.AcksClaimed c.op) (hcall : Calls now q c q') :
    q'.Indexed := by
  obtain ⟨hdistinct, hexec⟩ := hcall
  obtain ⟨op, reply⟩ := c
  have hq' : (q.exec now op).2 = q' := congrArg Prod.snd hexec
  rw [← hq']
  cases op with
  | enqueue task delaySeconds =>
      rw [InMemoryTaskQueue.exec]
      cases hres : q.enqueue now task delaySeconds with
      | error e => exact h
      | ok q'' => exact h.enqueue hdistinct hres
  | dequeue tenantId => exact h.dequeue tenantId
  | complete id result => exact h.complete id result
  | fail id errorCode errorMessage retry => exact h.fail (hack id rfl)
  | cancel id => exact h.cancel id
  | clearExpired => exact clearExpired_keeps (fun _ _ _ h ht _ ↦ h.markExpired ht) h
  | shutdown => exact ⟨h.tenants, h.agents⟩

/-! ## The counters -/

theorem mem_withStatus (hq : q.Ok) {status : TaskStatus} :
    id ∈ q.withStatus status ↔ q.status.get? id = some status := by
  rw [withStatus, Finset.mem_filter, List.mem_toFinset, Dict.mem_keys_iff]
  refine and_iff_right_of_imp fun hs ↦ Option.isSome_iff_exists.mp ?_
  exact (hq id).task_isSome (by rw [view, hs]; rfl)

/-- The tasks with a status are the same when no task gets or loses it. -/
theorem withStatus_congr (hq : q.Ok) (hq' : q'.Ok) {status : TaskStatus}
    (h : ∀ id, q'.status.get? id = some status ↔ q.status.get? id = some status) :
    q'.withStatus status = q.withStatus status := by
  ext id
  rw [mem_withStatus hq, mem_withStatus hq', h]

/-- One more task has the status. -/
theorem withStatus_insert (hq : q.Ok) (hq' : q'.Ok) {status : TaskStatus}
    (hstatus : ∀ id', q'.status.get? id' = (q.status.insert id status).get? id')
    (hnot : q.status.get? id ≠ some status) :
    (q'.withStatus status).card = (q.withStatus status).card + 1 := by
  have hinsert : q'.withStatus status = insert id (q.withStatus status) := by
    ext id'
    rw [mem_withStatus hq', Finset.mem_insert, mem_withStatus hq, hstatus, Dict.get?_insert]
    split
    · rename_i hid
      simp [hid]
    · rename_i hid
      simp [hid]
  rw [hinsert, Finset.card_insert_of_notMem]
  rw [mem_withStatus hq]
  exact hnot

def Done (status : TaskStatus) : Prop := status = .completed ∨ status = .failed

/-- What the queue holds about a task is such that no scan comes back to it once it is done. -/
structure Spent (v : TaskView) : Prop where
  counted : Counted v
  done : ∀ status, Done status → v.status = some status → v.items = 0

/-- A move keeps this, if only tasks being processed are acknowledged. -/
theorem TaskMove.spent {v v' : TaskView} (h : TaskMove q now c id v v') (hok : ViewOk id v)
    (hv : Spent v) (hack : c.op.acknowledges = some id → v.status = some .processing) :
    Spent v' := by
  refine ⟨h.counted hok hv.counted hack, fun status hdone hs ↦ ?_⟩
  cases h with
  | keep _ _ hle => exact Multiset.le_zero.mp (hv.done status hdone hs ▸ hle)
  | complete hop => exact hv.counted.processing (hack (by rw [hop]; rfl))
  | overflow hop => exact hv.counted.processing (hack (by rw [hop]; rfl))
  | fail hop => exact hv.counted.processing (hack (by rw [hop]; rfl))
  | _ =>
      cases hs
      rcases hdone with h | h
      · cases h
      · cases h

/-- A call that acknowledges nothing makes no task done and takes none back. -/
theorem TaskMove.done_iff {v' : TaskView} (h : TaskMove q now c id (q.view id) v')
    (hok : ViewOk id (q.view id)) (hv : Spent (q.view id)) (hop : c.op.acknowledges = none)
    {status : TaskStatus} (hdone : Done status) :
    v'.status = some status ↔ q.status.get? id = some status := by
  have hpending : TaskStatus.pending ≠ status := by
    rintro rfl
    rcases hdone with h | h
    · cases h
    · cases h
  have hother : ∀ {s : TaskStatus}, ¬ Done s → (some s = some status ↔ False) := fun hs ↦
    ⟨fun h ↦ hs (Option.some.inj h ▸ hdone), False.elim⟩
  cases h with
  | keep => exact Iff.rfl
  | accept _ _ _ hnone =>
      have hstatus : q.status.get? id = none := by
        by_contra hne
        have hsome := hok.task_isSome (Option.isSome_iff_ne_none.mpr hne)
        rw [hnone] at hsome
        cases hsome
      rw [hstatus, hother (by rintro (h | h) <;> cases h)]
      simp
  | claim _ _ _ hp =>
      rw [show q.status.get? id = some .pending from hp,
        hother (by rintro (h | h) <;> cases h), hother (by rintro (h | h) <;> cases h)]
  | @lapse _ _ item _ _ _ _ _ hmem _ hid _ =>
      rw [hother (by rintro (h | h) <;> cases h)]
      refine ⟨False.elim, fun hs ↦ ?_⟩
      have hin : item ∈ itemsOf q.heap id :=
        Multiset.mem_filter.mpr ⟨mem_items_of_mem_scanned hmem, hid⟩
      rw [show itemsOf q.heap id = 0 from hv.done status hdone hs] at hin
      exact Multiset.notMem_zero item hin
  | clear _ _ hp =>
      rw [show q.status.get? id = some .pending from hp,
        hother (by rintro (h | h) <;> cases h), hother (by rintro (h | h) <;> cases h)]
  | complete hc | retry hc | overflow hc | fail hc =>
      rw [hc] at hop
      cases hop
  | cancel _ _ hp =>
      rw [show q.status.get? id = some .pending from hp,
        hother (by rintro (h | h) <;> cases h), hother (by rintro (h | h) <;> cases h)]

/-- The indexes and the counters of a queue are what they are meant to be. -/
structure Tallied (q : InMemoryTaskQueue η) : Prop where
  ok : q.Ok
  spent : ∀ id, Spent (q.view id)
  indexed : q.Indexed
  completed : q.completedCount = (q.withStatus .completed).card
  failed : q.failedCount = (q.withStatus .failed).card

def counters (q : InMemoryTaskQueue η) : Nat × Nat := (q.completedCount, q.failedCount)

omit [MinHeap η PriorityItem.key] in
theorem counters_markExpired (q : InMemoryTaskQueue η) (id : UUID) :
    (q.markExpired now id).counters = q.counters := by
  unfold markExpired
  dsimp only
  split <;> rfl

/-- A call that acknowledges nothing leaves the two counters alone. -/
theorem counters_exec {op : QueueOp} (hop : op.acknowledges = none) :
    (q.exec now op).2.counters = q.counters := by
  cases op with
  | enqueue task delaySeconds =>
      rw [exec]
      cases hres : q.enqueue now task delaySeconds with
      | error e => rfl
      | ok q' =>
          obtain ⟨_, _, rfl⟩ := enqueue_ok hres
          rfl
  | dequeue tenantId =>
      exact dequeue_eq counters counters_markExpired (fun _ _ _ ↦ rfl) tenantId
  | complete id result => cases hop
  | fail id errorCode errorMessage retry => cases hop
  | cancel id =>
      change (q.cancel now id).2.counters = _
      unfold cancel
      split
      · rfl
      · split <;> rfl
  | clearExpired => exact clearExpired_eq counters counters_markExpired
  | shutdown => rfl

/-- The counters after a task being processed is settled for good. -/
theorem Tallied.counts (h : q.Tallied) (hq' : q'.Ok) (hp : q.status.get? id = some .processing)
    {status : TaskStatus}
    (hstatus : ∀ id', q'.status.get? id' = (q.status.insert id status).get? id')
    {done : TaskStatus} (hdone : Done done) :
    (q'.withStatus done).card = (q.withStatus done).card + if done = status then 1 else 0 := by
  split
  · rename_i heq
    subst heq
    refine withStatus_insert h.ok hq' hstatus fun hs ↦ ?_
    rw [hp] at hs
    cases hs
    rcases hdone with h | h
    · cases h
    · cases h
  · rename_i hne
    refine congrArg Finset.card (withStatus_congr h.ok hq' fun id' ↦ ?_)
    rw [hstatus, Dict.get?_insert]
    split
    · rename_i hid
      rw [hid, hp]
      constructor
      · intro hs
        exact absurd (Option.some.inj hs).symm hne
      · intro hs
        cases hs
        rcases hdone with h | h
        · cases h
        · cases h
    · rfl

/-- Every call keeps the books, if it acknowledges claimed tasks only. -/
theorem Tallied.exec (h : q.Tallied) (hack : q.AcksClaimed c.op) (hcall : Calls now q c q') :
    q'.Tallied := by
  have hok : q'.Ok := exec_ok h.ok hcall
  have hmove := exec_move h.ok hcall
  have hcount : q'.completedCount = (q'.withStatus .completed).card ∧
      q'.failedCount = (q'.withStatus .failed).card := by
    obtain ⟨op, reply⟩ := c
    have hq' : (q.exec now op).2 = q' := congrArg Prod.snd hcall.2
    cases hop : op.acknowledges with
    | none =>
        have hsame : q'.counters = q.counters := hq' ▸ counters_exec hop
        have hdone := fun status (hdone : Done status) ↦ withStatus_congr h.ok hok fun id ↦
          (hmove id).done_iff (h.ok id) (h.spent id) hop hdone
        rw [hdone _ (.inl rfl), hdone _ (.inr rfl)]
        exact ⟨(congrArg Prod.fst hsame).trans h.completed,
          (congrArg Prod.snd hsame).trans h.failed⟩
    | some id =>
        have hp := hack id hop
        obtain ⟨task, ht⟩ := Option.isSome_iff_exists.mp
          ((h.ok id).task_isSome (by rw [view, hp]; rfl))
        have ht : q.tasks.get? id = some task := ht
        have hcounts : ∀ status,
            (∀ id', q'.status.get? id' = (q.status.insert id status).get? id') →
            q'.completedCount = q.completedCount + (if .completed = status then 1 else 0) →
            q'.failedCount = q.failedCount + (if .failed = status then 1 else 0) →
            q'.completedCount = (q'.withStatus .completed).card ∧
              q'.failedCount = (q'.withStatus .failed).card := by
          intro status hstatus hcompleted hfailed
          rw [hcompleted, hfailed, h.counts hok hp hstatus (.inl rfl),
            h.counts hok hp hstatus (.inr rfl), h.completed, h.failed]
          exact ⟨rfl, rfl⟩
        cases op with
        | complete id' result =>
            obtain rfl := Option.some.inj hop
            subst hq'
            refine hcounts .completed (fun _ ↦ ?_) ?_ ?_
            all_goals
              simp only [InMemoryTaskQueue.exec, InMemoryTaskQueue.complete, ht]
              rfl
        | fail id' errorCode errorMessage retry =>
            obtain rfl := Option.some.inj hop
            subst hq'
            by_cases hretry : retry = true ∧ task.canRetry = true
            · by_cases hfits : q.Reschedules now (task.retryCount + 1)
              · have hfail := fail_of_reschedules ht hretry hfits errorCode errorMessage
                rw [exec, hfail] at hcounts ⊢
                exact hcounts .pending (fun _ ↦ rfl) rfl rfl
              · have hfail := fail_of_not_reschedules ht hretry hfits errorCode errorMessage
                rw [exec, hfail] at hcounts ⊢
                rcases q.stalled_cases id' (task.retryCount + 1) with hsame | hpending
                · refine hcounts .processing (fun j ↦ ?_) rfl rfl
                  show (q.stalled id' _).get? j = _
                  rw [hsame, Dict.get?_insert]
                  split
                  · rename_i hid
                    rw [hid, hp]
                  · rfl
                · exact hcounts .pending (fun j ↦ congrArg (Dict.get? · j) hpending) rfl rfl
            · refine hcounts .failed (fun _ ↦ ?_) ?_ ?_
              all_goals
                simp only [InMemoryTaskQueue.exec, InMemoryTaskQueue.fail, ht, if_neg hretry]
                rfl
        | enqueue | dequeue | cancel | clearExpired | shutdown => cases hop
  refine ⟨hok, fun id ↦ ?_, h.indexed.exec hack hcall, hcount.1, hcount.2⟩
  exact (hmove id).spent (h.ok id) (h.spent id) (hack id)

theorem tallied_new (maxSize : Int) (retryBaseDelay retryMaxDelay : ℚ) :
    (new maxSize retryBaseDelay retryMaxDelay : InMemoryTaskQueue η).Tallied where
  ok := new_ok _ _ _
  spent id := ⟨⟨(fun h ↦ by cases h), (fun h ↦ by cases h)⟩, (fun _ _ h ↦ by cases h)⟩
  indexed := indexed_new _ _ _
  completed := rfl
  failed := rfl

/-! ## The answers -/

def accepts (c : Call) : Bool :=
  match c.reply with
  | .accepted _ => true
  | _ => false

omit [MinHeap η PriorityItem.key] in
theorem accepts_reported (op : QueueOp) (result : Except PyError Bool) :
    accepts ⟨op, .reported result⟩ = false := by
  cases result with
  | ok ok => rfl
  | error error => rfl

/-- The dictionary grows by the tasks that are accepted. -/
theorem size_exec (hq : q.Ok) (h : Calls now q c q') :
    q'.tasks.size = q.tasks.size + if accepts c then 1 else 0 := by
  by_cases hop : ∃ task delaySeconds, c.op = .enqueue task delaySeconds
  · obtain ⟨task, delaySeconds, hop⟩ := hop
    obtain ⟨hdistinct, hexec⟩ := h
    rw [hop] at hdistinct hexec
    rw [exec] at hexec
    cases hres : q.enqueue now task delaySeconds with
    | error e =>
        rw [hres] at hexec
        obtain ⟨hreply, rfl⟩ := Prod.mk.inj hexec
        rw [accepts, ← hreply]
        rfl
    | ok q'' =>
        rw [hres] at hexec
        obtain ⟨-, -, rfl⟩ := enqueue_ok hres
        obtain ⟨hreply, rfl⟩ := Prod.mk.inj hexec
        rw [accepts, ← hreply]
        exact Dict.size_insert_of_get?_none _ hdistinct
  · have hreply : accepts c = false := by
      obtain ⟨op, reply⟩ := c
      have hreply : (q.exec now op).1 = reply := congrArg Prod.fst h.2
      subst hreply
      cases op with
      | enqueue task delaySeconds => exact absurd ⟨task, delaySeconds, rfl⟩ hop
      | fail => exact accepts_reported _ _
      | dequeue | complete | cancel | clearExpired | shutdown => rfl
    rw [hreply]
    refine (Dict.size_eq_of_keys fun id ↦ ?_).symm
    have hsome := (exec_move hq h id).task_isSome fun task d hc ↦ hop ⟨task, d, hc⟩
    rw [← Option.isSome_iff_exists, ← Option.isSome_iff_exists]
    exact (Bool.eq_iff_iff.mp hsome).symm

/-- The counter of the tasks ever accepted. -/
theorem enqueuedCount_exec (h : Calls now q c q') :
    q'.enqueuedCount = q.enqueuedCount + if accepts c then 1 else 0 := by
  obtain ⟨op, reply⟩ := c
  obtain ⟨-, hexec⟩ := h
  have hq' : (q.exec now op).2 = q' := congrArg Prod.snd hexec
  have hreply : (q.exec now op).1 = reply := congrArg Prod.fst hexec
  have hmark : ∀ (q : InMemoryTaskQueue η) id,
      (q.markExpired now id).enqueuedCount = q.enqueuedCount := by
    intro q id
    unfold markExpired
    dsimp only
    split <;> rfl
  subst hq' hreply
  cases op with
  | enqueue task delaySeconds =>
      rw [exec]
      cases hres : q.enqueue now task delaySeconds with
      | error e => rfl
      | ok q' =>
          obtain ⟨_, _, rfl⟩ := enqueue_ok hres
          rfl
  | dequeue tenantId => exact dequeue_eq enqueuedCount hmark (fun _ _ _ ↦ rfl) tenantId
  | complete id result =>
      change (q.complete id result).2.enqueuedCount = _
      unfold complete
      split <;> rfl
  | fail id errorCode errorMessage retry =>
      have hreply : accepts ⟨.fail id errorCode errorMessage retry,
          (q.exec now (.fail id errorCode errorMessage retry)).1⟩ = false := accepts_reported _ _
      rw [hreply]
      change (q.fail now id errorCode errorMessage retry).2.enqueuedCount = _
      unfold fail
      split
      · rfl
      · split
        · exact reschedule_eq enqueuedCount (fun _ _ _ _ ↦ rfl) _ _ _
        · rfl
  | cancel id =>
      change (q.cancel now id).2.enqueuedCount = _
      unfold cancel
      split
      · rfl
      · split <;> rfl
  | clearExpired => exact clearExpired_eq enqueuedCount hmark
  | shutdown => rfl

/-- The dictionary and the counter both hold the number of tasks ever accepted. -/
theorem accepted_run {s s' : Time × InMemoryTaskQueue η} {cs : List (Time × Call)}
    (h : QueueRun s cs s') (hs : s.2.Ok) :
    s'.2.tasks.size = s.2.tasks.size + cs.countP (fun a ↦ accepts a.2) ∧
      s'.2.enqueuedCount = s.2.enqueuedCount + cs.countP fun a ↦ accepts a.2 := by
  induction h with
  | nil s => exact ⟨rfl, rfl⟩
  | @cons s s₁ s' a cs hstep _ ih =>
      obtain ⟨hsize, hcount⟩ := ih (exec_ok hs hstep.2.2)
      rw [hsize, hcount, size_exec hs hstep.2.2, enqueuedCount_exec hstep.2.2, List.countP_cons]
      constructor
      · omega
      · omega

/-- Every task has one status. -/
theorem size_eq_sum (hq : q.Ok) : q.tasks.size = (q.withStatus .pending).card +
    (q.withStatus .processing).card + (q.withStatus .completed).card + (q.withStatus .failed).card +
    (q.withStatus .cancelled).card + (q.withStatus .expired).card := by
  have hstatus : ∀ id ∈ q.tasks.keys, ∃ status, q.status.get? id = some status := by
    intro id hid
    obtain ⟨task, ht⟩ := Dict.mem_keys_iff.mp hid
    exact Option.isSome_iff_exists.mp ((hq id).status_isSome (by rw [view, ht]; rfl))
  have hcard : ∀ status, (q.withStatus status).card =
      q.tasks.keys.countP fun id ↦ q.status.get? id = some status := by
    intro status
    have hnodup : (q.tasks.keys.filter fun id ↦ q.status.get? id = some status).Nodup :=
      List.Nodup.filter _ q.tasks.nodup
    rw [List.countP_eq_length_filter, ← List.toFinset_card_of_nodup hnodup]
    refine congrArg Finset.card (Finset.ext fun id ↦ ?_)
    simp [withStatus]
  have hlen : q.tasks.size = q.tasks.keys.length := (List.length_map _).symm
  rw [hlen, hcard, hcard, hcard, hcard, hcard, hcard]
  generalize q.tasks.keys = ids at hstatus
  induction ids with
  | nil => rfl
  | cons id ids ih =>
      obtain ⟨status, hs⟩ := hstatus id List.mem_cons_self
      have hrest := ih fun id' hid ↦ hstatus id' (List.mem_cons_of_mem id hid)
      simp only [List.countP_cons, List.length_cons, hs, Option.some.injEq]
      cases status with
      | pending | processing | completed | failed | cancelled | expired => simp; omega

/-- A reading over all tasks counts the pending ones. -/
theorem size_all (hq : q.Ok) : (q.size none).1 = (q.withStatus .pending).card := by
  show q.status.values.countP (· = .pending) = _
  rw [Dict.countP_values]
  congr 1
  ext id
  rw [Finset.mem_filter, mem_withStatus hq, List.mem_toFinset, Dict.mem_keys_iff]
  cases q.status.get? id with
  | none => simp
  | some status => simp

/-- A reading through an index counts the pending tasks of the owner. -/
theorem pendingAmong_members (hq : q.Ok) {κ : Type} [DecidableEq κ] {owner : TaskPayload → Option κ}
    {index : Dict κ (Finset UUID)} (h : Indexes owner index q) (key : κ) :
    q.pendingAmong (members index key)
      = (q.pendingWhere fun task ↦ owner task = some key).card := by
  refine congrArg Finset.card ?_
  ext id
  rw [Finset.mem_filter, h, pendingWhere, Finset.mem_filter, mem_withStatus hq]
  constructor
  · rintro ⟨⟨task, ht, hkey, -⟩, hp⟩
    rw [ht]
    exact ⟨hp, decide_eq_true hkey⟩
  · rintro ⟨hp, hany⟩
    obtain ⟨task, ht, hkey⟩ := (Option.any_eq_true _ _).mp hany
    exact ⟨⟨task, ht, of_decide_eq_true hkey, .inl hp⟩, hp⟩

theorem size_tenant (h : q.Tallied) {t : String} (ht : t ≠ "") :
    (q.size (some t)).1 = (q.pendingWhere (·.tenantId = t)).card := by
  have hsize : (q.size (some t)).1 = q.pendingAmong (members q.byTenant t) := by
    unfold size
    rw [Option.filter_some, if_pos (by simpa using ht)]
  rw [hsize, pendingAmong_members h.ok h.indexed.tenants]
  simp

/-- The pending tasks, tenant by tenant. -/
theorem size_all_eq_sum (h : q.Tallied) {tenants : Finset String} (hempty : "" ∉ tenants)
    (hall : ∀ task ∈ q.tasks.values, task.tenantId ∈ tenants) :
    (q.size none).1 = ∑ t ∈ tenants, (q.size (some t)).1 := by
  let tenantOf (id : UUID) : String := ((q.tasks.get? id).map TaskPayload.tenantId).getD ""
  have hmaps : ∀ id ∈ q.withStatus .pending, tenantOf id ∈ tenants := by
    intro id hid
    obtain ⟨task, ht⟩ := Dict.mem_keys_iff.mp
      (List.mem_toFinset.mp (Finset.mem_filter.mp hid).1)
    show ((q.tasks.get? id).map TaskPayload.tenantId).getD "" ∈ tenants
    rw [ht]
    exact hall task (Dict.mem_values_iff.mpr ⟨id, ht⟩)
  rw [size_all h.ok, Finset.card_eq_sum_card_fiberwise hmaps]
  refine Finset.sum_congr rfl fun t ht ↦ ?_
  rw [size_tenant h fun he ↦ hempty (he ▸ ht)]
  refine congrArg Finset.card (Finset.filter_congr fun id hid ↦ ?_)
  obtain ⟨task, hget⟩ := Dict.mem_keys_iff.mp (List.mem_toFinset.mp (Finset.mem_filter.mp hid).1)
  show ((q.tasks.get? id).map TaskPayload.tenantId).getD "" = t ↔ _
  rw [hget]
  simp

/-- The runs in which only claimed tasks are acknowledged. -/
abbrev ClaimedRun : Time × InMemoryTaskQueue η → List (Time × Call) →
    Time × InMemoryTaskQueue η → Prop :=
  Run (Step.Only (fun s a ↦ s.2.AcksClaimed a.2.op) (Step.Timed Calls))

/-- After every run from an empty queue that acknowledges claimed tasks only: the sizes are
the numbers of pending tasks, of a tenant and of an agent; the total is the sum over the
tenants; and every accepted task is in one status or in one counter. -/
theorem sizes_exact {maxSize : Int} {retryBaseDelay retryMaxDelay : ℚ} {start : Time}
    {s : Time × InMemoryTaskQueue η} {cs : List (Time × Call)}
    (h : ClaimedRun (start, new maxSize retryBaseDelay retryMaxDelay) cs s) :
    (∀ t, t ≠ "" → (s.2.size (some t)).1 = (s.2.pendingWhere (·.tenantId = t)).card) ∧
    (∀ a, (s.2.pendingByAgent a).1 = (s.2.pendingWhere (·.targetAgentId = some a)).card) ∧
    (∀ tenants : Finset String, "" ∉ tenants →
      (∀ task ∈ s.2.tasks.values, task.tenantId ∈ tenants) →
      (s.2.size none).1 = ∑ t ∈ tenants, (s.2.size (some t)).1) ∧
    cs.countP (fun a ↦ accepts a.2) = s.2.enqueuedCount ∧
    s.2.enqueuedCount = (s.2.withStatus .pending).card + (s.2.withStatus .processing).card +
      (s.2.withStatus .cancelled).card + (s.2.withStatus .expired).card +
      s.2.completedCount + s.2.failedCount := by
  have hs : s.2.Tallied := Run.invariant (P := fun s ↦ s.2.Tallied)
    (fun _ _ _ ht hstep ↦ ht.exec hstep.1 hstep.2.2.2) h (tallied_new _ _ _)
  obtain ⟨hsize, hcount⟩ := accepted_run h.of_only (new_ok maxSize retryBaseDelay retryMaxDelay)
  refine ⟨fun t ht ↦ size_tenant hs ht, fun a ↦ ?_, fun tenants hempty hall ↦ ?_, ?_, ?_⟩
  · exact pendingAmong_members hs.ok hs.indexed.agents a
  · exact size_all_eq_sum hs hempty hall
  · exact (hcount.trans (Nat.zero_add _)).symm
  · have hsum := size_eq_sum hs.ok
    have hzero : ((start, new maxSize retryBaseDelay retryMaxDelay) :
        Time × InMemoryTaskQueue η).2.tasks.size = 0 := rfl
    have hnone : ((start, new maxSize retryBaseDelay retryMaxDelay) :
        Time × InMemoryTaskQueue η).2.enqueuedCount = 0 := rfl
    rw [hs.completed, hs.failed]
    omega

/-- A task is claimed and fails, and while it waits for its retry another one is completed. -/
def countedScript : List (Time × QueueOp) :=
  [(0, .enqueue sampleTask 0), (0, .enqueue { sampleTask with taskId := ⟨2⟩ } 0),
    (1, .dequeue (some "acme")), (1, .fail ⟨1⟩ "EXECUTION_ERROR" "no" true),
    (9000000, .dequeue none), (9000000, .complete ⟨2⟩ sampleResult)]

theorem sizes_exact_sample :
    ((playState (0, sampleQueue) countedScript).2.size (some "acme")).1
      = ((playState (0, sampleQueue) countedScript).2.pendingWhere (·.tenantId = "acme")).card := by
  have hrun : ClaimedRun (0, sampleQueue) (playCalls (0, sampleQueue) countedScript)
      (playState (0, sampleQueue) countedScript) :=
    only_play (show Playable (fun q _ op ↦ q.AcksClaimed op) (0, sampleQueue) countedScript by
      decide +kernel)
  exact (sizes_exact hrun).1 "acme" (by decide)

end SemanticBus.InMemoryTaskQueue
