import SemanticBus.Queue.Scheduling

/-!
# Filtered dequeues

A `dequeue` that meets a task of another tenant goes on to the next stream, and the
entry stays in the pending list of its consumer.  What is read once is never read
again, so such a task can be returned later only if its id waits a second time: in an
entry that is still unread, or among the delayed tasks.

`Waiting` is that condition.  Nothing but another `enqueue` of the task makes it true
(`waiting_of_step`), and while it holds unfiltered dequeues come closer to the task,
because each leaves less to do (`returnable_iff`).
-/

namespace SemanticBus

namespace RedisTaskStore

variable {s s' s'' : RedisTaskStore} {now t : Time} {tenantId : Option String}
  {p : TaskPriority} {ps : List TaskPriority} {id j : UUID}

def Keyed (s : RedisTaskStore) : Prop :=
  ∀ id e, s.tasks.get? id = some e → e.1.taskId = id

/-- The hash of a task is there, and the task has not expired. -/
def Open (s : RedisTaskStore) (now : Time) (id : UUID) : Prop :=
  ∃ task, s.tasks.read now id = some task ∧ task.isExpired now = false

/-- A task will be found by a loop at some time from now on: its id is unread in a stream, or
it will be due. -/
def Waiting (s : RedisTaskStore) (now : Time) (id : UUID) : Prop :=
  ∃ t, now ≤ t ∧ s.Open t id ∧ ((∃ p, id ∈ s.unread p) ∨ s.Due t id)

theorem Due.mono (h : s.Due now id) (hle : now ≤ t) : s.Due t id := by
  obtain ⟨score, hget, hmin, hmax⟩ := h
  refine ⟨score, hget, hmin, hmax.trans ?_⟩
  exact div_le_div_of_nonneg_right (Int.cast_le.mpr hle) (by norm_num)

theorem Waiting.mono (h : s.Waiting t id) (hle : now ≤ t) : s.Waiting now id := by
  obtain ⟨t', hle', hrest⟩ := h
  exact ⟨t', hle.trans hle', hrest⟩

theorem keyed_empty : Keyed {} := by
  intro id e hget
  have hnone : ({} : RedisTaskStore).tasks.get? id = none := Dict.get?_empty id
  rw [hnone] at hget
  cases hget

theorem Keyed.of_read {task : TaskPayload} (h : s.Keyed)
    (hread : s.tasks.read now id = some task) : task.taskId = id := by
  obtain ⟨e, hget, he⟩ := Option.bind_eq_some_iff.mp hread
  split at he
  · cases he
  · exact Option.some.inj he ▸ h id e hget

/-- A stream that is looked at hands out the task of its next entry, if that is ready. -/
theorem claimedIn_of_looksAt {m : StreamId} (hlooks : p ∈ s.looksAt now tenantId ps)
    (hnext : (s.streams p).next = some (m, id)) (hready : s.fate now tenantId id = .ready) :
    s.claimedIn now tenantId ps = some (id, ⟨p, m⟩) := by
  induction ps with
  | nil => cases hlooks
  | cons p₁ ps ih =>
      rw [looksAt] at hlooks
      rw [claimedIn]
      rcases List.mem_cons.mp hlooks with rfl | hlooks
      · simp only [hnext, hready]
      · cases hhands : s.hands now tenantId p₁ with
        | true =>
            rw [hhands, if_pos rfl] at hlooks
            cases hlooks
        | false =>
            rw [hhands, if_neg Bool.false_ne_true] at hlooks
            rw [hands] at hhands
            cases hfirst : (s.streams p₁).next with
            | none => exact ih hlooks
            | some e =>
                rw [hfirst, Option.any_some] at hhands
                have hnot : s.fate now tenantId e.2 ≠ .ready := of_decide_eq_false hhands
                cases hfate : s.fate now tenantId e.2 with
                | gone | otherTenant | expired =>
                    simp only [hfate]
                    exact ih hlooks
                | ready => exact absurd hfate hnot

/-! ## An enqueue -/

/-- What an `enqueue` leaves alone: the other tasks. -/
structure Apart (id : UUID) (s s' : RedisTaskStore) : Prop where
  tasks : ∀ t j, j ≠ id → s'.tasks.read t j = s.tasks.read t j
  delayed : ∀ j, j ≠ id → s'.delayed.get? j = s.delayed.get? j
  keyed : s.Keyed → s'.Keyed
  inOrder : s.InOrder → s'.InOrder
  unread : s.InOrder → ∀ p j, j ≠ id → (j ∈ s'.unread p ↔ j ∈ s.unread p)

namespace Apart

theorem refl (s : RedisTaskStore) : Apart id s s :=
  ⟨fun _ _ _ ↦ rfl, fun _ _ ↦ rfl, fun h ↦ h, fun h ↦ h, fun _ _ _ _ ↦ Iff.rfl⟩

theorem trans (h : Apart id s s') (h' : Apart id s' s'') : Apart id s s'' where
  tasks t j hj := (h'.tasks t j hj).trans (h.tasks t j hj)
  delayed j hj := (h'.delayed j hj).trans (h.delayed j hj)
  keyed hs := h'.keyed (h.keyed hs)
  inOrder hs := h'.inOrder (h.inOrder hs)
  unread hs p j hj := (h'.unread (h.inOrder hs) p j hj).trans (h.unread hs p j hj)

/-- A change that leaves the streams alone. -/
theorem of_streams (hstreams : s'.streams = s.streams)
    (htasks : ∀ t j, j ≠ id → s'.tasks.read t j = s.tasks.read t j)
    (hdelayed : ∀ j, j ≠ id → s'.delayed.get? j = s.delayed.get? j)
    (hkeyed : s.Keyed → s'.Keyed) : Apart id s s' := by
  refine ⟨htasks, hdelayed, hkeyed, fun h p ↦ ?_, fun _ p j _ ↦ ?_⟩
  · rw [hstreams]
    exact h p
  · rw [RedisTaskStore.unread, RedisTaskStore.unread, hstreams]

/-- A change of other keys. -/
theorem of_same (hstreams : s'.streams = s.streams) (htasks : s'.tasks = s.tasks)
    (hdelayed : s'.delayed = s.delayed) : Apart id s s' := by
  refine of_streams hstreams (fun t j _ ↦ by rw [htasks]) (fun j _ ↦ by rw [hdelayed]) ?_
  intro h
  rw [Keyed, htasks]
  exact h

end Apart

end RedisTaskStore

namespace RedisTaskQueue

open RedisTaskStore Prog

variable {q : RedisTaskQueue} {now t : Time} {tenantId : Option String} {p : TaskPriority}
  {s s' : RedisTaskStore} {id : UUID} {keyPrefix : String}

theorem apart_hsetTask (task : TaskPayload) :
    Within (Apart task.taskId) (hsetTask task.taskId task) := by
  refine .modify fun now s ↦ .of_streams rfl ?_ (fun _ _ ↦ rfl) ?_
  · exact fun t j hj ↦ Expiring.read_change_of_ne _ hj
  · intro h j e hget
    rw [Expiring.change] at hget
    split at hget
    · rw [Expiring.write, Dict.get?_insert] at hget
      split at hget
      · rename_i hj
        cases hget
        exact hj.symm
      · exact h j e hget
    · rw [Dict.get?_modify] at hget
      split at hget
      · rename_i hj
        obtain ⟨e', -, rfl⟩ := Option.map_eq_some_iff.mp hget
        exact hj.symm
      · exact h j e hget

theorem apart_expire (now : Time) (s : RedisTaskStore) (id : UUID) (seconds : Int) :
    Apart id s { s with tasks := s.tasks.expire now id seconds } := by
  refine .of_streams rfl ?_ (fun _ _ ↦ rfl) ?_
  · exact fun t j hj ↦ Expiring.read_expire_of_ne _ hj
  · intro h j e hget
    rw [Expiring.expire] at hget
    split at hget
    · rw [Dict.get?_erase] at hget
      split at hget
      · cases hget
      · exact h j e hget
    · split at hget
      · exact h j e hget
      · rename_i v hread
        rw [Expiring.write, Dict.get?_insert] at hget
        split at hget
        · rename_i hj
          cases hget
          exact (h.of_read hread).trans hj.symm
        · exact h j e hget

theorem apart_xadd (p : TaskPriority) (id : UUID) : Within (Apart id) (xadd p id) := by
  refine .modify fun now s ↦
    ⟨fun _ _ _ ↦ rfl, fun _ _ ↦ rfl, fun h ↦ h, fun h ↦ h.setStream ((h p).add now id), ?_⟩
  intro h p' j hj
  rw [unread, setStream_streams]
  by_cases hp : p' = p
  · rw [hp, Function.update_self, (h p).unread_add, List.map_append, List.mem_append,
      ← unread]
    exact or_iff_left fun hmem ↦ hj (List.mem_singleton.mp hmem)
  · rw [Function.update_of_ne hp, ← unread]

/-- An `enqueue` is about its task. -/
theorem apart_enqueue (task : TaskPayload) (delaySeconds : ℚ) :
    Within (Apart task.taskId) (q.enqueue task delaySeconds) := by
  refine enqueue_rule (apart_hsetTask task) (fun now s ↦ apart_expire now s _ _) ?_ ?_ ?_
  · exact fun _ _ ↦ .of_same rfl rfl rfl
  · exact (indexes_rule (fun _ _ _ ↦ .of_same rfl rfl rfl) task task.taskId).1
  · refine scheduleTask_rule .refl (fun _ ↦ .modify fun _ s ↦ .of_streams rfl ?_ ?_ ?_)
      (apart_xadd _ _)
    · exact fun _ _ _ ↦ rfl
    · exact fun j hj ↦ Dict.get?_insert_of_ne _ _ hj
    · exact fun h ↦ h

/-! ## Later calls -/

/-- A call that neither enqueues a task nor settles any. -/
def leaves (id : UUID) : WorkerCall → Prop
  | .enqueue task _ => task.taskId ≠ id
  | .dequeue _ => True
  | .complete _ _ | .fail _ _ _ _ => False

/-- Later calls: the clock does not go back, and the task is not enqueued again. -/
abbrev LaterSteps (keyPrefix : String) (id : UUID) :
    Step (Time × RedisTaskStore) (Time × RedisTaskQueue × WorkerCall) :=
  Step.Only (fun _ a ↦ leaves id a.2.2)
    (Step.Timed fun now s a s' ↦ Steps keyPrefix s (now, a) s')

/-- After some later calls a `dequeue` without a filter, or with the tenant as the filter,
returns the task. -/
def Returnable (keyPrefix : String) (s : RedisTaskStore) (now : Time) (id : UUID)
    (tenantId : String) : Prop :=
  ∃ as x, Run (LaterSteps keyPrefix id) (now, s) as x ∧
    ∃ (t : Time) (q : RedisTaskQueue) (filter : Option String),
      x.1 ≤ t ∧ q.keyPrefix = keyPrefix ∧ (filter = none ∨ filter = some tenantId) ∧
      ∃ task, (q.exec t (.dequeue filter) x.2).1 = .dequeued (some task) ∧ task.taskId = id

/-- What is unread after the due tasks are moved was unread before, or due. -/
theorem unread_or_due (h : s.InOrder) (hmem : id ∈ (scheduled s now).unread p) :
    id ∈ s.unread p ∨ s.Due now id := by
  rw [unread_scheduled h] at hmem
  rcases List.mem_append.mp hmem with hmem | hmem
  · exact .inl hmem
  · exact .inr (due_of_mem (List.mem_filter.mp hmem).1)

theorem due_of_scheduled (h : s.InOrder) (hdue : (scheduled s now).Due t id) : s.Due t id := by
  obtain ⟨score, hget, hrange⟩ := hdue
  rw [get?_delayed_scheduled h] at hget
  split at hget
  · cases hget
  · exact ⟨score, hget, hrange⟩

/-- A `dequeue` keeps the order of the streams and the keys of the hashes. -/
theorem dequeue_keeps (q : RedisTaskQueue) (now : Time) (tenantId : Option String)
    (h : s.InOrder) (hkeyed : s.Keyed) :
    (q.exec now (.dequeue tenantId) s).2.InOrder ∧ (q.exec now (.dequeue tenantId) s).2.Keyed := by
  cases hclosed : q.closed with
  | true =>
      rw [exec, prog, dequeue, hclosed]
      exact ⟨h, hkeyed⟩
  | false =>
      have heffect := dequeue_effect now tenantId h hclosed
      refine ⟨heffect.inOrder, ?_⟩
      rw [Keyed, heffect.tasks]
      exact hkeyed

/-- A `dequeue` does not make a task wait. -/
theorem waiting_of_dequeue (h : s.InOrder) (hle : now ≤ t)
    (hwaiting : (q.exec now (.dequeue tenantId) s).2.Waiting t id) : s.Waiting now id := by
  cases hclosed : q.closed with
  | true =>
      rw [exec, prog, dequeue, hclosed] at hwaiting
      exact hwaiting.mono hle
  | false =>
      have heffect := dequeue_effect now tenantId h hclosed
      obtain ⟨t', hle', hopen, hmem⟩ := hwaiting
      rw [Open, heffect.tasks] at hopen
      refine ⟨t', hle.trans hle', hopen, ?_⟩
      rcases hmem with ⟨p, hmem⟩ | hdue
      · rw [heffect.unread] at hmem
        have hthere := (unreadAfter_sublist _ _ _ _ _).subset hmem
        rcases unread_or_due h hthere with hunread | hdue
        · exact .inl ⟨p, hunread⟩
        · exact .inr (hdue.mono (hle.trans hle'))
      · rw [Due, heffect.delayed] at hdue
        exact .inr (due_of_scheduled h hdue)

/-- A task that is returned was waiting. -/
theorem waiting_of_returned {task : TaskPayload} (h : s.InOrder) (hkeyed : s.Keyed)
    (hreply : (q.exec now (.dequeue tenantId) s).1 = .dequeued (some task)) :
    s.Waiting now task.taskId := by
  rw [exec_dequeue, claims] at hreply
  have hsome := WorkerReply.dequeued.inj hreply
  obtain ⟨⟨id, e⟩, hclaim, hmap⟩ := Option.bind_eq_some_iff.mp hsome
  split at hclaim
  · cases hclaim
  · obtain ⟨task', hread, rfl⟩ := Option.map_eq_some_iff.mp hmap
    obtain ⟨-, hnext, hready⟩ := next_of_claimedIn hclaim
    rw [scheduled_tasks h] at hread
    have hid : task'.taskId = id := hkeyed.of_read hread
    show s.Waiting now task'.taskId
    rw [hid]
    refine ⟨now, le_refl _, ⟨task', hread, ?_⟩, ?_⟩
    · -- the task of a ready entry has not expired
      rw [fate, scheduled_tasks h, hread] at hready
      dsimp only at hready
      split at hready
      · cases hready
      · split at hready
        · cases hready
        · rename_i hfresh
          exact Bool.eq_false_of_not_eq_true hfresh
    · have hmem : id ∈ (scheduled s now).unread e.priority := by
        rw [unread, RedisStream.unread_eq_cons hnext]
        exact List.mem_cons_self
      exact (unread_or_due h hmem).imp_left fun hunread ↦ ⟨e.priority, hunread⟩

/-- The invariant of the histories of `enqueue` and `dequeue`. -/
theorem keeps_step {a : RedisLabel} (hcall : settled a.2.2 = none) (h : s.InOrder)
    (hkeyed : s.Keyed) (hstep : Steps keyPrefix s a s') : s'.InOrder ∧ s'.Keyed := by
  obtain ⟨now, q, call⟩ := a
  obtain rfl := Option.some.inj (Option.ite_none_right_eq_some.mp hstep).2
  cases call with
  | complete | fail => cases hcall
  | enqueue task delaySeconds =>
      have hapart := (apart_enqueue (q := q) task delaySeconds).run Apart.refl Apart.trans now s
      exact ⟨hapart.inOrder h, hapart.keyed hkeyed⟩
  | dequeue tenantId => exact q.dequeue_keeps now tenantId h hkeyed

/-- A task that waits after a later call was waiting before. -/
theorem waiting_of_step {a : RedisLabel} (hcall : leaves id a.2.2) (h : s.InOrder)
    (hle : a.1 ≤ t) (hstep : Steps keyPrefix s a s') (hwaiting : s'.Waiting t id) :
    s.Waiting a.1 id := by
  obtain ⟨now, q, call⟩ := a
  obtain rfl := Option.some.inj (Option.ite_none_right_eq_some.mp hstep).2
  cases call with
  | complete | fail => cases hcall
  | dequeue tenantId => exact waiting_of_dequeue h hle hwaiting
  | enqueue task delaySeconds =>
      have hapart := (apart_enqueue (q := q) task delaySeconds).run Apart.refl Apart.trans now s
      obtain ⟨t', hle', ⟨v, hread, hfresh⟩, hmem⟩ := hwaiting
      have hne : id ≠ task.taskId := Ne.symm hcall
      refine ⟨t', hle.trans hle', ⟨v, (hapart.tasks t' id hne).symm.trans hread, hfresh⟩, ?_⟩
      rcases hmem with ⟨p, hmem⟩ | ⟨score, hget, hrange⟩
      · exact .inl ⟨p, (hapart.unread h p id hne).mp hmem⟩
      · exact .inr ⟨score, (hapart.delayed id hne).symm.trans hget, hrange⟩

/-! ## Coming closer -/

/-- A task that can be found at a time: it will be returned, or the next unfiltered `dequeue`
leaves it to be found. -/
def Findable (t : Time) (id : UUID) (s : RedisTaskStore) : Prop :=
  s.InOrder ∧ s.Keyed ∧ s.Open t id ∧ ((∃ p, id ∈ s.unread p) ∨ s.Due t id)

theorem findable_step (hclosed : q.closed = false) (h : Findable t id s) :
    (∃ task, (q.exec t (.dequeue none) s).1 = .dequeued (some task) ∧ task.taskId = id) ∨
      Findable t id (q.exec t (.dequeue none) s).2 ∧
        (q.exec t (.dequeue none) s).2.backlog < s.backlog := by
  obtain ⟨horder, hkeyed, ⟨task, hread, hfresh⟩, hmem⟩ := h
  have heffect := dequeue_effect t none horder hclosed
  have hkeeps := q.dequeue_keeps t none horder hkeyed
  -- after the due tasks are moved
  have hmoved : (∃ p, id ∈ (scheduled s t).unread p) ∨ (scheduled s t).Due t id := by
    by_cases hdue : id ∈ due s t
    · refine .inl ⟨task.priority, ?_⟩
      rw [unread_scheduled horder]
      refine List.mem_append_right _ (List.mem_filter.mpr ⟨hdue, ?_⟩)
      rw [goesTo, hread]
      exact decide_eq_true rfl
    · rcases hmem with ⟨p, hmem⟩ | ⟨score, hget, hrange⟩
      · refine .inl ⟨p, ?_⟩
        rw [unread_scheduled horder]
        exact List.mem_append_left _ hmem
      · refine .inr ⟨score, ?_, hrange⟩
        rw [get?_delayed_scheduled horder, if_neg hdue]
        exact hget
  have hfinds : (∃ p, s.unread p ≠ []) ∨ due s t ≠ [] := by
    rcases hmem with ⟨p, hmem⟩ | ⟨score, hget, hmin, hmax⟩
    · exact .inl ⟨p, List.ne_nil_of_mem hmem⟩
    · exact .inr (zrangebyscore_ne_nil hget hmin hmax (by decide))
  have hopen : (q.exec t (.dequeue none) s).2.Open t id := by
    rw [Open, heffect.tasks]
    exact ⟨task, hread, hfresh⟩
  have hlater : ((∃ p, id ∈ (q.exec t (.dequeue none) s).2.unread p) ∨
      (q.exec t (.dequeue none) s).2.Due t id) →
      Findable t id (q.exec t (.dequeue none) s).2 ∧
        (q.exec t (.dequeue none) s).2.backlog < s.backlog :=
    fun hmem ↦ ⟨⟨hkeeps.1, hkeeps.2, hopen, hmem⟩, backlog_dequeue horder heffect hfinds⟩
  rcases hmoved with ⟨p, hmem⟩ | hdue
  · by_cases hlooks : p ∈ (scheduled s t).looksAt t none TaskPriority.all
    · cases hnext : ((scheduled s t).streams p).next with
      | none =>
          rw [unread, RedisStream.unread_eq_nil hnext] at hmem
          cases hmem
      | some e =>
          obtain ⟨m, id'⟩ := e
          have hcons : (scheduled s t).unread p = id' :: ((scheduled s t).unread p).tail := by
            rw [unread, ← List.map_tail]
            exact congrArg (List.map Prod.snd) (RedisStream.unread_eq_cons hnext)
          rw [hcons] at hmem
          rcases List.mem_cons.mp hmem with rfl | hmem
          · -- the task is handed out
            have hready : (scheduled s t).fate t none id = .ready := by
              rw [fate, scheduled_tasks horder, hread]
              simp only [TaskPayload.filteredOut, hfresh, Bool.false_eq_true, if_false]
            have hclaim := claimedIn_of_looksAt hlooks hnext hready
            have hid : task.taskId = id := hkeyed.of_read hread
            refine .inl ⟨q.claim task ⟨p, m⟩, ?_, hid⟩
            rw [exec_dequeue, claims, hclosed, if_neg Bool.false_ne_true, hclaim,
              Option.bind_some, scheduled_tasks horder, hread, Option.map_some]
          · refine .inr (hlater (.inl ⟨p, ?_⟩))
            rw [heffect.unread, unreadAfter, if_pos hlooks]
            exact hmem
    · refine .inr (hlater (.inl ⟨p, ?_⟩))
      rw [heffect.unread, unreadAfter, if_neg hlooks]
      exact hmem
  · refine .inr (hlater (.inr ?_))
    rw [Due, heffect.delayed]
    exact hdue

theorem later_keeps {x y : Time × RedisTaskStore} {a : Time × RedisTaskQueue × WorkerCall}
    (hx : x.2.InOrder ∧ x.2.Keyed) (h : LaterSteps keyPrefix id x a y) :
    y.2.InOrder ∧ y.2.Keyed := by
  obtain ⟨hleaves, -, -, hstep⟩ := h
  refine keeps_step ?_ hx.1 hx.2 hstep
  obtain ⟨now, q, call⟩ := a
  cases call with
  | enqueue | dequeue => rfl
  | complete | fail => cases hleaves

/-- A task can be returned later exactly if it is waiting. -/
theorem returnable_iff_waiting (h : s.InOrder) (hkeyed : s.Keyed) (tenantId : String) :
    Returnable keyPrefix s now id tenantId ↔ s.Waiting now id := by
  constructor
  · rintro ⟨as, x, hr, t, q, filter, hle, -, -, task, hreply, rfl⟩
    have hx : x.2.InOrder ∧ x.2.Keyed := hr.invariant
      (P := fun x ↦ x.2.InOrder ∧ x.2.Keyed) (fun _ _ _ hs hstep ↦ later_keeps hs hstep) ⟨h, hkeyed⟩
    have hback : x.2.Waiting x.1 task.taskId → s.Waiting now task.taskId := by
      refine hr.relates (P := fun x ↦ x.2.InOrder ∧ x.2.Keyed)
        (R := fun x y ↦ y.2.Waiting y.1 task.taskId → x.2.Waiting x.1 task.taskId)
        (fun _ hw ↦ hw) (fun hxy hyz hw ↦ hxy (hyz hw)) (fun _ _ _ hs hstep ↦ later_keeps hs hstep)
        ?_ ⟨h, hkeyed⟩
      rintro y a z hy ⟨hleaves, hclock, hnow, hstep⟩ hw
      exact (waiting_of_step hleaves hy.1 hnow.ge hstep hw).mono hclock
    exact hback ((waiting_of_returned hx.1 hx.2 hreply).mono hle)
  · rintro ⟨t, hle, hopen, hmem⟩
    let q : RedisTaskQueue := { keyPrefix := keyPrefix, consumer := "" }
    have hstep : ∀ x : Time × RedisTaskStore, x.1 ≤ t ∧ Findable t id x.2 →
        (∃ task, (q.exec t (.dequeue none) x.2).1 = .dequeued (some task) ∧ task.taskId = id) ∨
          ∃ a y, LaterSteps keyPrefix id x a y ∧ (y.1 ≤ t ∧ Findable t id y.2) ∧
            y.2.backlog < x.2.backlog := by
      rintro ⟨now, s⟩ ⟨hnow, hfind⟩
      refine (findable_step (q := q) rfl hfind).imp_right fun hnext ↦ ?_
      refine ⟨(t, q, .dequeue none), (t, (q.exec t (.dequeue none) s).2), ?_,
        ⟨le_refl t, hnext.1⟩, hnext.2⟩
      exact ⟨trivial, hnow, rfl, if_pos rfl⟩
    obtain ⟨as, x, hr, hx, hreply⟩ := Run.exists_of_measure (I := fun x ↦ x.1 ≤ t ∧ Findable t id x.2)
      (fun x : Time × RedisTaskStore ↦ x.2.backlog) hstep (⟨hle, h, hkeyed, hopen, hmem⟩ :
        (now, s).1 ≤ t ∧ Findable t id (now, s).2)
    exact ⟨as, x, hr, t, q, none, hx.1, rfl, .inl rfl, hreply⟩

/-! ## A task that is passed over -/

/-- A `dequeue` with a filter meets a pending task of another tenant, not expired, and passes
it over. -/
structure Met (s : RedisTaskStore) (now : Time) (filter : String) (task : TaskPayload)
    (e : EntryRef) : Prop where
  passed : e ∈ (scheduled s now).passedOver now (some filter) TaskPriority.all
  entry : ((scheduled s now).streams e.priority).next = some (e.id, task.taskId)
  read : s.tasks.read now task.taskId = some task
  pending : s.status.read now task.taskId = some .pending
  fresh : task.isExpired now = false

/-- The id of a task waits a second time: in an entry that the call does not read, or among the
delayed tasks, to be due before the task expires. -/
def WaitsAgain (s : RedisTaskStore) (now : Time) (tenantId : Option String) (id : UUID) : Prop :=
  (∃ p, id ∈ (scheduled s now).unreadAfter now tenantId TaskPriority.all p) ∨
    ∃ t, now ≤ t ∧ s.Open t id ∧ (scheduled s now).Due t id

/-- After any calls of `enqueue` and `dequeue`, a task that a filtered `dequeue` passes over
can be returned later exactly if its id waits a second time. -/
theorem passed_returnable_iff {as : List RedisLabel} {e : EntryRef} {task : TaskPayload}
    {filter : String} (hr : Run (Steps keyPrefix) {} as s)
    (hcalls : ∀ a ∈ as, settled a.2.2 = none) (hclosed : q.closed = false)
    (hmet : Met s now filter task e) :
    Returnable keyPrefix (q.exec now (.dequeue (some filter)) s).2 now task.taskId task.tenantId ↔
      WaitsAgain s now (some filter) task.taskId := by
  have hkeeps : s.InOrder ∧ s.Keyed := by
    refine (hr.only_of_labels hcalls).invariant (P := fun s ↦ s.InOrder ∧ s.Keyed) ?_ ?_
    · exact fun _ _ _ hs hstep ↦ keeps_step hstep.1 hs.1 hs.2 hstep.2
    · exact ⟨fun _ ↦ .empty, keyed_empty⟩
  have heffect := dequeue_effect now (some filter) hkeeps.1 hclosed
  have hafter := q.dequeue_keeps now (some filter) hkeeps.1 hkeeps.2
  rw [returnable_iff_waiting hafter.1 hafter.2, Waiting, WaitsAgain]
  simp only [Open, Due, heffect.tasks, heffect.delayed, heffect.unread]
  constructor
  · rintro ⟨t, hle, hopen, hunread | hdue⟩
    · exact .inl hunread
    · exact .inr ⟨t, hle, hopen, hdue⟩
  · rintro (hunread | ⟨t, hle, hopen, hdue⟩)
    · exact ⟨now, le_refl now, ⟨task, hmet.read, hmet.fresh⟩, .inl hunread⟩
    · exact ⟨t, hle, hopen, .inr hdue⟩

/-- The task is enqueued at 5 ms and again at 6 ms. -/
def enqueuedTwice : RedisTaskStore :=
  (sampleClient.exec 6000 (.enqueue (sampleTask []) 0)
    (sampleClient.exec 5000 (.enqueue (sampleTask []) 0) {}).2).2

theorem passed_returnable_sample :
    Returnable "lip" (sampleClient.exec 7000 (.dequeue (some "other")) enqueuedTwice).2 7000 ⟨1⟩
      "acme" := by
  have hr : Run (Steps "lip") {} [(5000, sampleClient, .enqueue (sampleTask []) 0),
      (6000, sampleClient, .enqueue (sampleTask []) 0)] enqueuedTwice :=
    .cons (if_pos rfl) (.cons (if_pos rfl) (.nil _))
  have hmet : Met enqueuedTwice 7000 "other" (sampleTask []) ⟨.normal, toLex (5, 0)⟩ := by
    constructor
    · decide +kernel
    · decide +kernel
    · rfl
    · decide +kernel
    · decide +kernel
  refine (passed_returnable_iff hr (by decide) rfl hmet).mpr (.inl ⟨.normal, ?_⟩)
  decide +kernel

/-- A task that is enqueued once, and that a `dequeue` for another tenant meets, is not returned
any more. -/
theorem passed_lost : ∃ (as : List RedisLabel) (s : RedisTaskStore) (q : RedisTaskQueue)
    (now : Time) (filter : String) (task : TaskPayload) (e : EntryRef),
    Run (Steps "lip") {} as s ∧ (∀ a ∈ as, settled a.2.2 = none) ∧ q.keyPrefix = "lip" ∧
      q.closed = false ∧ Met s now filter task e ∧
      ¬ Returnable "lip" (q.exec now (.dequeue (some filter)) s).2 now task.taskId
        task.tenantId := by
  have hstep : Steps "lip" {} (5000, sampleClient, .enqueue (sampleTask []) 0)
      (sampleClient.exec 5000 (.enqueue (sampleTask []) 0) {}).2 := if_pos rfl
  have hkeeps := keeps_step rfl (fun _ ↦ .empty) keyed_empty hstep
  have hafter := sampleClient.dequeue_keeps 7000 (some "other") hkeeps.1 hkeeps.2
  refine ⟨[(5000, sampleClient, .enqueue (sampleTask []) 0)], _, sampleClient, 7000, "other",
    sampleTask [], ⟨.normal, toLex (5, 0)⟩, .single (if_pos rfl), by decide, rfl, rfl, ?_, ?_⟩
  · constructor
    · decide +kernel
    · decide +kernel
    · rfl
    · decide +kernel
    · decide +kernel
  · rw [returnable_iff_waiting hafter.1 hafter.2]
    rintro ⟨t, -, -, ⟨p, hunread⟩ | ⟨score, hget, -⟩⟩
    · have hnone : ∀ p ∈ TaskPriority.all, (sampleTask []).taskId ∉ RedisTaskStore.unread
          (sampleClient.exec 7000 (.dequeue (some "other"))
            (sampleClient.exec 5000 (.enqueue (sampleTask []) 0) {}).2).2 p := by decide +kernel
      refine hnone p ?_ hunread
      cases p with
      | critical | high | normal | low | background => decide
    · have hnone : (sampleClient.exec 7000 (.dequeue (some "other"))
          (sampleClient.exec 5000 (.enqueue (sampleTask []) 0) {}).2).2.delayed.get?
            (sampleTask []).taskId = none := by decide +kernel
      exact Option.some_ne_none score (hget.symm.trans hnone)

end RedisTaskQueue

end SemanticBus
