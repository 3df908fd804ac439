import Mathlib.Data.List.TakeWhile
import SemanticBus.Queue.Memory

/-!
# What a scan of the heap does

`findNextVisible` pops items, expires the tasks of some, drops others, sets the
rest aside and finally pushes those back.  Seen from outside, the items fall
into four kinds, decided by the state before the scan: `claimable` ones stop
the scan, `lapsed` ones expire their task, `passedOver` ones go back, and the
others are dropped.

`findNextVisible_cases` says what a scan does in these terms, and every result
about `dequeue` is derived from it.  It rests on `findLoop_skip` and
`findLoop_claim`, which say what one round of the loop does.  What the expiry of
a task changes is said once, of the `view` of each task.
-/

universe u

namespace SemanticBus

@[ext]
structure TaskView where
  task : Option TaskPayload
  status : Option TaskStatus
  result : Option TaskResult
  /-- The heap items that refer to the task. -/
  items : Multiset PriorityItem

namespace InMemoryTaskQueue

variable {η : Type u}
variable {q : InMemoryTaskQueue η} {now : Time} {tenantId : Option String}

/-- The items of a heap that refer to the task `id`. -/
def itemsOf [MinHeap η PriorityItem.key] (h : η) (id : UUID) : Multiset PriorityItem :=
  (MinHeap.items h).filter (·.taskId = id)

def view [MinHeap η PriorityItem.key] (q : InMemoryTaskQueue η) (id : UUID) : TaskView where
  task := q.tasks.get? id
  status := q.status.get? id
  result := q.results.get? id
  items := itemsOf q.heap id

/-! ## The four kinds of items -/

/-- The scan stops at such an item and claims its task. -/
def claimable (q : InMemoryTaskQueue η) (now : Time) (tenantId : Option String)
    (item : PriorityItem) : Bool :=
  match q.tasks.get? item.taskId with
  | none => false
  | some task => item.visibleAt ≤ now ∧ task.isExpired now = false ∧
      matchesTenant tenantId task ∧ q.status.get? item.taskId = some .pending

def lapsed (q : InMemoryTaskQueue η) (now : Time) (item : PriorityItem) : Bool :=
  match q.tasks.get? item.taskId with
  | none => false
  | some task => item.visibleAt ≤ now ∧ task.isExpired now

/-- The scan puts such an item back. -/
def passedOver (q : InMemoryTaskQueue η) (now : Time) (tenantId : Option String)
    (item : PriorityItem) : Bool :=
  match q.tasks.get? item.taskId with
  | none => false
  | some task => now < item.visibleAt ∨
      task.isExpired now = false ∧ matchesTenant tenantId task = false

theorem claimable_iff {item : PriorityItem} :
    q.claimable now tenantId item = true ↔ ∃ task, q.tasks.get? item.taskId = some task ∧
      item.visibleAt ≤ now ∧ task.isExpired now = false ∧ matchesTenant tenantId task = true ∧
      q.status.get? item.taskId = some .pending := by
  unfold claimable
  cases q.tasks.get? item.taskId with
  | none => simp
  | some task => simp

theorem lapsed_iff {item : PriorityItem} :
    q.lapsed now item = true ↔ ∃ task, q.tasks.get? item.taskId = some task ∧
      item.visibleAt ≤ now ∧ task.isExpired now = true := by
  unfold lapsed
  cases q.tasks.get? item.taskId with
  | none => simp
  | some task => simp

theorem passedOver_iff {item : PriorityItem} :
    q.passedOver now tenantId item = true ↔ ∃ task, q.tasks.get? item.taskId = some task ∧
      (now < item.visibleAt ∨ task.isExpired now = false ∧ matchesTenant tenantId task = false) := by
  unfold passedOver
  cases q.tasks.get? item.taskId with
  | none => simp
  | some task => simp

/-! ## Expiring the tasks of a list of items -/

theorem markExpired_heap (id : UUID) (h : η) :
    ({ q with heap := h }).markExpired now id = { q.markExpired now id with heap := h } := by
  unfold markExpired
  dsimp only
  cases q.tasks.get? id with
  | none => rfl
  | some task => rfl

@[simp] theorem heap_markExpired (id : UUID) : (q.markExpired now id).heap = q.heap := by
  unfold markExpired
  dsimp only
  split <;> rfl

@[simp] theorem tasks_markExpired (id : UUID) : (q.markExpired now id).tasks = q.tasks := by
  unfold markExpired
  dsimp only
  split <;> rfl

@[simp] theorem closed_markExpired (id : UUID) : (q.markExpired now id).closed = q.closed := by
  unfold markExpired
  dsimp only
  split <;> rfl

/-- The settings of a queue: its capacity and its retry delays. -/
def settings (q : InMemoryTaskQueue η) : Int × ℚ × ℚ := (q.maxSize, q.retryBaseDelay, q.retryMaxDelay)

theorem settings_markExpired (q : InMemoryTaskQueue η) (id : UUID) :
    (q.markExpired now id).settings = q.settings := by
  unfold markExpired
  dsimp only
  split <;> rfl

@[simp] theorem status_markExpired (id : UUID) :
    (q.markExpired now id).status = q.status.insert id .expired := by
  unfold markExpired
  dsimp only
  split <;> rfl

theorem results_markExpired {id : UUID} {task : TaskPayload} (h : q.tasks.get? id = some task) :
    (q.markExpired now id).results = q.results.insert id (expiredResult now task id) := by
  unfold markExpired
  dsimp only
  rw [h]
  rfl

/-- Expire the tasks of the lapsed items of a list. -/
def lapse (q : InMemoryTaskQueue η) (now : Time) (items : List PriorityItem) :
    InMemoryTaskQueue η :=
  items.foldl (fun q item ↦ if q.lapsed now item then q.markExpired now item.taskId else q) q

/-- Some item of the list makes the scan expire the task `id`. -/
def Lapses (q : InMemoryTaskQueue η) (now : Time) (items : List PriorityItem) (id : UUID) : Prop :=
  ∃ item ∈ items, q.lapsed now item = true ∧ item.taskId = id

/-- `lapse` is determined by what happens at its first item. -/
theorem lapse_cons (item : PriorityItem) (items : List PriorityItem) :
    q.lapse now (item :: items)
      = (if q.lapsed now item then q.markExpired now item.taskId else q).lapse now items := rfl

theorem lapsed_markExpired (id : UUID) : (q.markExpired now id).lapsed now = q.lapsed now := by
  funext item
  unfold lapsed
  rw [tasks_markExpired]

/-- A field that expiring a task leaves alone is left alone by `lapse`. -/
theorem lapse_eq {β : Sort*} (f : InMemoryTaskQueue η → β)
    (hf : ∀ (q : InMemoryTaskQueue η) id, f (q.markExpired now id) = f q)
    (items : List PriorityItem) : f (q.lapse now items) = f q := by
  induction items generalizing q with
  | nil => rfl
  | cons item items ih =>
      rw [lapse_cons]
      split
      · rw [ih, hf]
      · rw [ih]

@[simp] theorem heap_lapse (items : List PriorityItem) : (q.lapse now items).heap = q.heap :=
  lapse_eq heap (fun _ id ↦ heap_markExpired id) items

@[simp] theorem tasks_lapse (items : List PriorityItem) : (q.lapse now items).tasks = q.tasks :=
  lapse_eq tasks (fun _ id ↦ tasks_markExpired id) items

@[simp] theorem closed_lapse (items : List PriorityItem) : (q.lapse now items).closed = q.closed :=
  lapse_eq closed (fun _ id ↦ closed_markExpired id) items

theorem lapse_heap (items : List PriorityItem) (h : η) :
    ({ q with heap := h }).lapse now items = { q.lapse now items with heap := h } := by
  induction items generalizing q with
  | nil => rfl
  | cons item items ih =>
      rw [lapse_cons, lapse_cons]
      have hl : ({ q with heap := h }).lapsed now item = q.lapsed now item := rfl
      rw [hl]
      split
      · rw [markExpired_heap, ih]
      · exact ih

section View

variable [MinHeap η PriorityItem.key]

theorem itemsOf_push_self {h : η} {item : PriorityItem} {id : UUID} (hid : item.taskId = id) :
    itemsOf (MinHeap.push h item) id = item ::ₘ itemsOf h id := by
  simp [itemsOf, hid]

theorem itemsOf_push_of_ne {h : η} {item : PriorityItem} {id : UUID} (hid : item.taskId ≠ id) :
    itemsOf (MinHeap.push h item) id = itemsOf h id := by
  simp [itemsOf, hid]

theorem itemsOf_le {h h' : η} (hle : MinHeap.items h ≤ MinHeap.items h') (id : UUID) :
    itemsOf h id ≤ itemsOf h' id := Multiset.filter_le_filter _ hle

theorem view_markExpired_self {id : UUID} {task : TaskPayload} (h : q.tasks.get? id = some task) :
    (q.markExpired now id).view id
      = { q.view id with status := some .expired, result := some (expiredResult now task id) } := by
  rw [view, heap_markExpired, tasks_markExpired, status_markExpired, results_markExpired h,
    Dict.get?_insert_self, Dict.get?_insert_self]
  rfl

theorem view_markExpired_of_ne {id id' : UUID} (h : id' ≠ id) :
    (q.markExpired now id).view id' = q.view id' := by
  have hres : (q.markExpired now id).results.get? id' = q.results.get? id' := by
    cases ht : q.tasks.get? id with
    | none =>
        unfold markExpired
        dsimp only
        rw [ht]
    | some task => rw [results_markExpired ht, Dict.get?_insert_of_ne _ _ h]
  rw [view, heap_markExpired, tasks_markExpired, status_markExpired, hres,
    Dict.get?_insert_of_ne _ _ h]
  rfl

theorem view_lapse_of_not {items : List PriorityItem} {id : UUID}
    (h : ¬ q.Lapses now items id) : (q.lapse now items).view id = q.view id := by
  induction items generalizing q with
  | nil => rfl
  | cons item items ih =>
      rw [lapse_cons]
      split
      · rename_i hl
        have hne : id ≠ item.taskId := fun he ↦ h ⟨item, by simp, hl, he.symm⟩
        rw [ih, view_markExpired_of_ne hne]
        rintro ⟨j, hj, hlj, hid⟩
        rw [lapsed_markExpired] at hlj
        exact h ⟨j, by simp [hj], hlj, hid⟩
      · exact ih fun ⟨j, hj, hlj, hid⟩ ↦ h ⟨j, by simp [hj], hlj, hid⟩

theorem view_lapse {items : List PriorityItem} {id : UUID} {task : TaskPayload}
    (ht : q.tasks.get? id = some task) (h : q.Lapses now items id) :
    (q.lapse now items).view id
      = { q.view id with status := some .expired, result := some (expiredResult now task id) } := by
  induction items generalizing q with
  | nil =>
      obtain ⟨j, hj, _⟩ := h
      cases hj
  | cons item items ih =>
      rw [lapse_cons]
      by_cases hlater : ∃ j ∈ items, q.lapsed now j = true ∧ j.taskId = id
      · split
        · have hview := ih (q := q.markExpired now item.taskId) (by rw [tasks_markExpired, ht]) (by
            obtain ⟨j, hj, hlj, hid⟩ := hlater
            exact ⟨j, hj, by rw [lapsed_markExpired]; exact hlj, hid⟩)
          rw [hview]
          by_cases hid : id = item.taskId
          · subst hid
            rw [view_markExpired_self ht]
          · rw [view_markExpired_of_ne hid]
        · exact ih ht hlater
      · obtain ⟨j, hj, hlj, hid⟩ := h
        rcases List.mem_cons.mp hj with rfl | hj
        · rw [if_pos hlj, view_lapse_of_not, ← hid, view_markExpired_self (hid ▸ ht), hid]
          rintro ⟨k, hk, hlk, hkid⟩
          rw [lapsed_markExpired] at hlk
          exact hlater ⟨k, hk, hlk, hkid⟩
        · exact absurd ⟨j, hj, hlj, hid⟩ hlater

theorem status_lapse_of_not {items : List PriorityItem} {id : UUID}
    (h : ¬ q.Lapses now items id) : (q.lapse now items).status.get? id = q.status.get? id :=
  congrArg TaskView.status (view_lapse_of_not h)

/-- `lapse` leaves a task as it was or expired. -/
theorem status_lapse_eq_or (items : List PriorityItem) (id : UUID) :
    (q.lapse now items).status.get? id = q.status.get? id ∨
      q.Lapses now items id ∧ (q.lapse now items).status.get? id = some .expired := by
  by_cases h : q.Lapses now items id
  · obtain ⟨item, hi, hl, hid⟩ := h
    obtain ⟨task, ht, _⟩ := lapsed_iff.mp hl
    exact .inr ⟨⟨item, hi, hl, hid⟩,
      congrArg TaskView.status (view_lapse (hid ▸ ht) ⟨item, hi, hl, hid⟩)⟩
  · exact .inl (status_lapse_of_not h)

/-- Expiring the tasks of lapsed items makes no other item claimable or not. -/
theorem claimable_lapse (h : η) (items : List PriorityItem) :
    ({ q.lapse now items with heap := h }).claimable now tenantId = q.claimable now tenantId := by
  funext item
  rw [Bool.eq_iff_iff, claimable_iff, claimable_iff, tasks_lapse]
  refine exists_congr fun task ↦ and_congr_right fun ht ↦ and_congr_right fun hv ↦
    and_congr_right fun he ↦ and_congr_right fun _ ↦ ?_
  rw [status_lapse_of_not]
  rintro ⟨j, _, hl, hid⟩
  obtain ⟨task', ht', _, he'⟩ := lapsed_iff.mp hl
  rw [hid, ht] at ht'
  rw [← Option.some.inj ht', he] at he'
  cases he'

omit [MinHeap η PriorityItem.key] in
theorem passedOver_lapse (h : η) (items : List PriorityItem) :
    ({ q.lapse now items with heap := h }).passedOver now tenantId
      = q.passedOver now tenantId := by
  funext item
  unfold passedOver
  rw [tasks_lapse]

end View

/-! ## One round of the loop -/

variable [MinHeap η PriorityItem.key]

/-- A round at an item that is not claimable: the item is set aside if it is
passed over, and its task expires if it is lapsed. -/
theorem findLoop_skip {item : PriorityItem} {h : η} (hp : MinHeap.pop q.heap = some (item, h))
    (hc : q.claimable now tenantId item = false) (n : Nat) (checked : List PriorityItem) :
    findLoop now tenantId (n + 1) checked q
      = findLoop now tenantId n (checked ++ [item].filter (q.passedOver now tenantId))
          { q.lapse now [item] with heap := h } := by
  rw [findLoop, hp]
  dsimp only
  unfold claimable at hc
  cases ht : q.tasks.get? item.taskId with
  | none =>
      have hl : q.lapsed now item = false := by unfold lapsed; rw [ht]
      have ho : q.passedOver now tenantId item = false := by unfold passedOver; rw [ht]
      simp [lapse, hl, ho]
  | some task =>
      rw [ht] at hc
      have hl : q.lapsed now item = decide (item.visibleAt ≤ now ∧ task.isExpired now) := by
        unfold lapsed; rw [ht]
      have ho : q.passedOver now tenantId item = decide (now < item.visibleAt ∨
          task.isExpired now = false ∧ matchesTenant tenantId task = false) := by
        unfold passedOver; rw [ht]
      by_cases hv : item.visibleAt > now
      · have hnv : ¬ item.visibleAt ≤ now := not_le.mpr hv
        simp [lapse, hl, ho, hv, hnv]
      · have hv' : item.visibleAt ≤ now := not_lt.mp hv
        by_cases he : task.isExpired now = true
        · simp [lapse, hl, ho, hv, hv', he, markExpired_heap]
        · rw [Bool.not_eq_true] at he
          by_cases hm : matchesTenant tenantId task = true
          · have hs : q.status.get? item.taskId ≠ some .pending := by simpa [hv', he, hm] using hc
            simp [lapse, hl, ho, hv, hv', he, hm, hs]
          · rw [Bool.not_eq_true] at hm
            simp [lapse, hl, ho, hv, hv', he, hm]

/-- A round at a claimable item: the task is claimed and the loop ends. -/
theorem findLoop_claim {item : PriorityItem} {h : η} {task : TaskPayload}
    (hp : MinHeap.pop q.heap = some (item, h)) (hc : q.claimable now tenantId item = true)
    (ht : q.tasks.get? item.taskId = some task) (n : Nat) (checked : List PriorityItem) :
    findLoop now tenantId (n + 1) checked q
      = (some task, checked,
          { q with heap := h, status := q.status.insert item.taskId .processing }) := by
  obtain ⟨task', ht', hv, he, hm, hs⟩ := claimable_iff.mp hc
  obtain rfl : task' = task := Option.some.inj (ht'.symm.trans ht)
  rw [findLoop, hp]
  simp [ht, not_lt.mpr hv, he, hm, hs]

/-! ## The whole scan -/

/-- The loop scans the items in pop order up to the first claimable one. -/
theorem findLoop_cases (q : InMemoryTaskQueue η) (now : Time) (tenantId : Option String) (n : Nat)
    (checked : List PriorityItem) (hn : MinHeap.size q.heap ≤ n) :
    (∃ h, MinHeap.popOrder h = [] ∧
      (∀ item ∈ MinHeap.popOrder q.heap, q.claimable now tenantId item = false) ∧
      findLoop now tenantId n checked q
        = (none, checked ++ (MinHeap.popOrder q.heap).filter (q.passedOver now tenantId),
            { q.lapse now (MinHeap.popOrder q.heap) with heap := h })) ∨
    ∃ before item task h, MinHeap.popOrder q.heap = before ++ item :: MinHeap.popOrder h ∧
      (∀ item ∈ before, q.claimable now tenantId item = false) ∧
      q.claimable now tenantId item = true ∧ q.tasks.get? item.taskId = some task ∧
      findLoop now tenantId n checked q
        = (some task, checked ++ before.filter (q.passedOver now tenantId),
            { q.lapse now before with
              heap := h
              status := (q.lapse now before).status.insert item.taskId .processing }) := by
  induction n generalizing q checked with
  | zero =>
      have h0 : MinHeap.popOrder q.heap = [] := by
        rw [MinHeap.popOrder, Nat.le_zero.mp hn, MinHeap.popN]
      refine .inl ⟨q.heap, h0, by simp [h0], ?_⟩
      simp [h0, findLoop, lapse]
  | succ n ih =>
      cases hp : MinHeap.pop q.heap with
      | none =>
          have h0 := MinHeap.popOrder_of_pop_none hp
          refine .inl ⟨q.heap, h0, by simp [h0], ?_⟩
          rw [h0, findLoop, hp]
          simp [lapse]
      | some r =>
          obtain ⟨item, h⟩ := r
          have hpop := MinHeap.popOrder_of_pop hp
          by_cases hc : q.claimable now tenantId item = true
          · obtain ⟨task, ht, -⟩ := claimable_iff.mp hc
            refine .inr ⟨[], item, task, h, hpop, by simp, hc, ht, ?_⟩
            rw [findLoop_claim hp hc ht]
            simp [lapse]
          · rw [Bool.not_eq_true] at hc
            have hsize : MinHeap.size h ≤ n := by
              have := MinHeap.size_of_pop hp
              omega
            rw [findLoop_skip hp hc]
            have hskip : ∀ items (h' : η),
                { ({ q.lapse now [item] with heap := h }).lapse now items with heap := h' }
                  = { q.lapse now (item :: items) with heap := h' } := by
              intro items h'
              rw [lapse_heap]
              rfl
            rcases ih { q.lapse now [item] with heap := h }
                (checked ++ [item].filter (q.passedOver now tenantId)) hsize with
              ⟨h', hnil, hnone, heq⟩ | ⟨before, j, task, h', hord, hbefore, hj, ht, heq⟩
            · rw [claimable_lapse] at hnone
              refine .inl ⟨h', hnil, ?_, ?_⟩
              · rw [hpop]
                exact List.forall_mem_cons.mpr ⟨hc, hnone⟩
              · rw [heq, passedOver_lapse, hskip, hpop]
                simp only [List.append_assoc, ← List.filter_append, List.singleton_append]
            · rw [claimable_lapse] at hbefore hj
              refine .inr ⟨item :: before, j, task, h', ?_, ?_, hj, ?_, ?_⟩
              · rw [hpop, List.cons_append]
                exact congrArg (item :: ·) hord
              · exact List.forall_mem_cons.mpr ⟨hc, hbefore⟩
              · simpa using ht
              · rw [heq, passedOver_lapse, lapse_heap]
                simp only [List.append_assoc, ← List.filter_append, List.singleton_append]
                rfl

/-- The items a scan pops before it finds a claimable one: all of them, if there is none. -/
def scanned (q : InMemoryTaskQueue η) (now : Time) (tenantId : Option String) :
    List PriorityItem :=
  (MinHeap.popOrder q.heap).takeWhile fun item ↦ !q.claimable now tenantId item

theorem mem_items_of_mem_scanned {item : PriorityItem} (h : item ∈ q.scanned now tenantId) :
    item ∈ MinHeap.items q.heap :=
  MinHeap.mem_popOrder.mp (List.takeWhile_sublist _ |>.subset h)

theorem not_claimable_of_mem_scanned {item : PriorityItem} (h : item ∈ q.scanned now tenantId) :
    q.claimable now tenantId item = false := by
  simpa using List.mem_takeWhile_imp h

/-- What a scan does.  Either no item is claimable; or the task of the first
claimable item in pop order is claimed.  The items before it that are passed
over stay in the heap, as do the items after it. -/
theorem findNextVisible_cases (q : InMemoryTaskQueue η) (now : Time) (tenantId : Option String) :
    (∃ h, (∀ item ∈ MinHeap.items q.heap, q.claimable now tenantId item = false) ∧
      MinHeap.items h = (MinHeap.items q.heap).filter (q.passedOver now tenantId ·) ∧
      q.findNextVisible now tenantId
        = (none, { q.lapse now (q.scanned now tenantId) with heap := h })) ∨
    ∃ item after task h, MinHeap.popOrder q.heap = q.scanned now tenantId ++ item :: after ∧
      q.claimable now tenantId item = true ∧ q.tasks.get? item.taskId = some task ∧
      MinHeap.items h = ((q.scanned now tenantId).filter (q.passedOver now tenantId) :
        Multiset PriorityItem) + (after : Multiset PriorityItem) ∧
      q.findNextVisible now tenantId
        = (some task, { q.lapse now (q.scanned now tenantId) with
            heap := h
            status := (q.lapse now (q.scanned now tenantId)).status.insert item.taskId
              .processing }) := by
  rcases findLoop_cases q now tenantId (MinHeap.size q.heap) [] le_rfl with ⟨h, hnil, hnone, heq⟩ | ⟨before, item, task, h, hord, hbefore, hc, ht, heq⟩
  · have hscan : q.scanned now tenantId = MinHeap.popOrder q.heap :=
      List.takeWhile_eq_self_iff.mpr fun item hmem ↦ by rw [hnone item hmem]; rfl
    refine .inl ⟨MinHeap.pushAll h
      ((MinHeap.popOrder q.heap).filter (q.passedOver now tenantId)), ?_, ?_, ?_⟩
    · intro item hmem
      exact hnone item (MinHeap.mem_popOrder.mpr hmem)
    · rw [MinHeap.items_pushAll, ← MinHeap.coe_popOrder h, hnil, ← MinHeap.coe_popOrder q.heap,
        Multiset.filter_coe]
      simp
    · rw [findNextVisible, heq, hscan]
      rfl
  · have hscan : q.scanned now tenantId = before := by
      rw [scanned, hord, List.takeWhile_append_of_pos fun j hj ↦ by rw [hbefore j hj]; rfl,
        List.takeWhile_cons_of_neg (by rw [hc]; decide), List.append_nil]
    rw [hscan]
    refine .inr ⟨item, MinHeap.popOrder h, task,
      MinHeap.pushAll h (before.filter (q.passedOver now tenantId)), hord, hc, ht, ?_, ?_⟩
    · rw [MinHeap.items_pushAll, MinHeap.coe_popOrder]
    · rw [findNextVisible, heq]
      rfl

end InMemoryTaskQueue

end SemanticBus
