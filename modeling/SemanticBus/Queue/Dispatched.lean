import SemanticBus.Queue.Dispatch

/-!
# Every message is delivered once or given up

Each step of the system moves the letters of `Tracks` as they may move, one at a time
(`Tracks.step`).  With the books of all messages (`Books`), this gives what becomes of every
message in every run (`dispatched`).
-/

universe u v

namespace SemanticBus

namespace Dispatch

open InMemoryTaskQueue AgentTaskExecutor

variable {ω : Type v} [DecidableEq ω] {η : Type u} [MinHeap η PriorityItem.key]
variable {dump : MessageEnvelope → String} {filter : ω → Option String} {now : Time}
  {s s' : Dispatch ω η} {e : DispatchEvent ω} {as : List (Time × DispatchEvent ω)}
  {a : Time × DispatchEvent ω} {id : UUID} {request : QueueRequest} {home : Nat} {l : Letter}
  {w : ω} {task : TaskPayload} {stage : Stage}

/-! ## Calls about other tasks -/

/-- What a call does to a task that it is not about: the task may be withdrawn while it waits. -/
structure Spared (v v' : TaskView) : Prop where
  task : v'.task = v.task
  items : v'.items ≤ v.items
  status : v'.status = v.status ∨
    (v.status = some .pending ∨ v.status = some .cancelled ∨ v.status = some .expired) ∧
      (v'.status = some .cancelled ∨ v'.status = some .expired)

theorem Spared.refl (v : TaskView) : Spared v v := ⟨rfl, le_rfl, .inl rfl⟩

/-- A call that neither hands a task out nor is told of its end spares it. -/
theorem spared_of_move {q : InMemoryTaskQueue η} {c : Call} {v' : TaskView} (hq : q.Ok)
    (h : TaskMove q now c id (q.view id) v') (htask : (q.tasks.get? id).isSome)
    (hack : c.op.acknowledges ≠ some id) (hout : c.handedOut ≠ some id)
    (hitems : q.status.get? id = some .processing ∨ q.status.get? id = some .completed ∨
      q.status.get? id = some .failed → (q.view id).items = 0) : Spared (q.view id) v' := by
  cases h with
  | keep _ _ hle => exact ⟨rfl, hle, .inl rfl⟩
  | accept _ _ _ hnone =>
      rw [show q.tasks.get? id = none from hnone] at htask
      cases htask
  | claim hop hreply ht =>
      refine absurd ?_ hout
      rw [Call.handedOut, hreply, ← hq.taskId_eq ht]
  | @lapse task tenantId item items _ _ _ _ hmem _ hid hle =>
      refine ⟨rfl, hle, .inr ⟨?_, .inr rfl⟩⟩
      have hin : item ∈ (q.view id).items :=
        Multiset.mem_filter.mpr ⟨mem_items_of_mem_scanned hmem, hid⟩
      have hne : (q.view id).items ≠ 0 := fun hzero ↦ Multiset.notMem_zero item (hzero ▸ hin)
      obtain ⟨status, hstatus⟩ := Option.isSome_iff_exists.mp ((hq id).status_isSome htask)
      rw [hstatus]
      cases status with
      | pending => exact .inl rfl
      | cancelled => exact .inr (.inl rfl)
      | expired => exact .inr (.inr rfl)
      | processing => exact absurd (hitems (.inl hstatus)) hne
      | completed => exact absurd (hitems (.inr (.inl hstatus))) hne
      | failed => exact absurd (hitems (.inr (.inr hstatus))) hne
  | clear _ _ hp _ => exact ⟨rfl, le_rfl, .inr ⟨.inl hp, .inr rfl⟩⟩
  | complete hop _ _ => exact absurd (by rw [hop]; rfl) hack
  | retry hop | overflow hop | fail hop => exact absurd (by rw [hop]; rfl) hack
  | cancel _ _ hp _ => exact ⟨rfl, le_rfl, .inr ⟨.inl hp, .inl rfl⟩⟩

omit [DecidableEq ω] in
/-- A settled task has no items, and one that is being processed has none either. -/
theorem Tracks.no_items (h : Tracks dump as s id request home l) (hs : Custody s.pool)
    (hstatus : s.queue.status.get? id = some .processing ∨
      s.queue.status.get? id = some .completed ∨ s.queue.status.get? id = some .failed) :
    (s.queue.view id).items = 0 := by
  obtain ⟨status, hget, his⟩ := h.status
  rcases hstatus with hp | hp | hp
  · exact (hs.counted id).processing hp
  · obtain rfl := Option.some.inj (hget.symm.trans hp)
    exact h.items (.inl (Place.is_completed his))
  · obtain rfl := Option.some.inj (hget.symm.trans hp)
    exact h.items (.inr (Place.is_failed his))

omit [DecidableEq ω] in
/-- What a call that is not about the task makes of the letter. -/
theorem Tracks.spared (h : Tracks dump as s id request home l)
    (hspared : Spared (s.queue.view id) (s'.queue.view id))
    (hworkers : ∀ w task stage, task.taskId = id →
      (s'.workers w = some (task, stage) ↔ s.workers w = some (task, stage)))
    (hsent : a.2.sentFor id = none) (hfailed : a.2.failedFor id = false) :
    Followed dump (as ++ [a]) s' id request home l := by
  have hsends : sends id (as ++ [a]) = sends id as := by
    rw [sends_snoc, hsent]
    exact List.append_nil _
  have hfailures : failures id (as ++ [a]) = failures id as := by
    rw [failures_snoc, hfailed]
    rfl
  have hitems : (s.queue.view id).items = 0 → (s'.queue.view id).items = 0 := fun hzero ↦
    Multiset.le_zero.mp (hzero ▸ hspared.items)
  have hstopped : (∃ a ∈ as, ∃ w, a.2 = .stop w) → ∃ b ∈ as ++ [a], ∃ w, b.2 = .stop w :=
    fun ⟨b, hb, hw⟩ ↦ ⟨b, List.mem_append_left _ hb, hw⟩
  obtain ⟨task, htask, hcarries, hcount⟩ := h.task
  have htask' : s'.queue.tasks.get? id = some task := hspared.task.trans htask
  obtain ⟨status, hstatus, his⟩ := h.status
  -- unless the task is withdrawn while it waits, the letter stays where it is
  have hstay : ∀ status', s'.queue.status.get? id = some status' → l.place.Is status' →
      Tracks dump (as ++ [a]) s' id request home l := fun status' hstatus' his' ↦
    { task := ⟨task, htask', hcarries, hcount⟩
      status := ⟨status', hstatus', his'⟩
      items := fun hp ↦ hitems (h.items hp)
      held := fun w task stage hw hid ↦ h.held w task stage ((hworkers w task stage hid).mp hw) hid
      holder := fun phase hp ↦ by
        obtain ⟨w, task, stage, hw, hid⟩ := h.holder phase hp
        exact ⟨w, task, stage, (hworkers w task stage hid).mpr hw, hid⟩
      stopped := fun hp ↦ hstopped (h.stopped hp)
      sent := hsends.trans h.sent
      failed := hfailures.trans h.failed }
  rcases hspared.status with hsame | ⟨hbefore, hafter⟩
  · exact ⟨l, .inl rfl, hstay status (hsame.trans hstatus) his⟩
  · have hstatus' : ∃ status', s'.queue.status.get? id = some status' ∧
        Place.withdrawn.Is status' := by
      rcases hafter with hp | hp
      · exact ⟨_, hp, trivial⟩
      · exact ⟨_, hp, trivial⟩
    obtain ⟨status', hget', his'⟩ := hstatus'
    rcases hbefore with hp | hp
    · obtain rfl := Option.some.inj (hstatus.symm.trans hp)
      have hplace := Place.is_pending his
      have hnone : ∀ w task stage, s'.workers w = some (task, stage) → task.taskId ≠ id := by
        intro w task stage hw hid
        obtain ⟨-, haway, -⟩ := h.held w task stage ((hworkers w task stage hid).mp hw) hid
        cases hplace.symm.trans haway
      refine ⟨_, .inr (.withdraw hplace), ?_⟩
      exact
        { task := ⟨task, htask', hcarries, fun _ ↦ hcount (by simp [hplace])⟩
          status := ⟨status', hget', his'⟩
          items := by simp
          held := fun w task stage hw hid ↦ absurd hid (hnone w task stage hw)
          holder := by simp
          stopped := by simp
          sent := hsends.trans h.sent
          failed := hfailures.trans h.failed }
    · have hplace : l.place = .withdrawn := by
        rcases hp with hp | hp
        · obtain rfl := Option.some.inj (hstatus.symm.trans hp)
          exact Place.is_withdrawn (.inl his)
        · obtain rfl := Option.some.inj (hstatus.symm.trans hp)
          exact Place.is_withdrawn (.inr his)
      exact ⟨l, .inl rfl, hstay status' hget' (by rw [hplace]; exact his')⟩

/-! ## Calls about the task -/

/-- A task is handed out as it is stored. -/
theorem handed_of_move {q : InMemoryTaskQueue η} {c : Call} {v' : TaskView}
    (h : TaskMove q now c id (q.view id) v') (hout : c.handedOut = some id) :
    ∃ task, c.reply = .dequeued (some task) ∧ q.tasks.get? id = some task ∧ v'.task = some task ∧
      q.status.get? id = some .pending ∧ v'.status = some .processing := by
  obtain ⟨hpending, hprocessing, -⟩ := h.handedOut hout
  cases h with
  | claim _ hreply ht => exact ⟨_, hreply, ht, ht, hpending, rfl⟩
  | keep hne => exact absurd hout hne
  | accept _ hreply =>
      rw [Call.handedOut, hreply] at hout
      cases hout
  | lapse _ hne => exact absurd hout hne
  | clear _ _ _ hne => exact absurd hout hne
  | complete _ _ hne => exact absurd hout hne
  | retry _ _ _ hne => exact absurd hout hne
  | overflow _ _ _ hne => exact absurd hout hne
  | fail _ _ _ hne => exact absurd hout hne
  | cancel _ _ _ hne => exact absurd hout hne

/-- A task that is known is completed. -/
theorem completed_of_move {q : InMemoryTaskQueue η} {result : TaskResult} {reply : QueueReply}
    {v v' : TaskView} (h : TaskMove q now ⟨.complete id result, reply⟩ id v v')
    (ht : v.task = some task) :
    v'.task = some task ∧ v'.status = some .completed ∧ v'.items = v.items := by
  cases h with
  | keep _ hnone _ => cases (hnone rfl).symm.trans ht
  | complete _ _ _ => exact ⟨ht, rfl, rfl⟩
  | accept hop => cases hop
  | claim hop => cases hop
  | lapse hop => cases hop
  | clear hop => cases hop
  | retry hop => cases hop
  | overflow hop => cases hop
  | fail hop => cases hop
  | cancel hop => cases hop

/-- A task that is known is pending again, with its item unless the report raised, or it has
failed. -/
theorem failed_of_calls {q q' : InMemoryTaskQueue η} {errorCode errorMessage : String}
    {reply : QueueReply}
    (h : Calls now q ⟨.fail id errorCode errorMessage true, reply⟩ q')
    (ht : q.tasks.get? id = some task) (hcount : task.retryCount < 1023) :
    task.canRetry = true ∧ q'.status.get? id = some .pending ∧
        q'.tasks.get? id = some { task with retryCount := task.retryCount + 1 } ∨
      task.canRetry = false ∧ q'.status.get? id = some .failed ∧ q'.tasks.get? id = some task ∧
        (q'.view id).items = (q.view id).items := by
  obtain rfl : (q.fail now id errorCode errorMessage true).2 = q' := congrArg Prod.snd h.2
  cases hcan : task.canRetry with
  | true =>
      refine .inl ⟨rfl, ?_⟩
      by_cases hfits : q.Reschedules now (task.retryCount + 1)
      · rw [fail_of_reschedules ht ⟨rfl, hcan⟩ hfits]
        exact ⟨Dict.get?_insert_self _ _ _, Dict.get?_insert_self _ _ _⟩
      · have hsmall : backoffOverflows (task.retryCount + 1) = false := by
          refine decide_eq_false ?_
          omega
        rw [fail_of_not_reschedules ht ⟨rfl, hcan⟩ hfits, stalled, hsmall]
        exact ⟨Dict.get?_insert_self _ _ _, Dict.get?_insert_self _ _ _⟩
  | false =>
      have hno : ¬ (true = true ∧ task.canRetry = true) := by simp [hcan]
      refine .inr ⟨rfl, ?_⟩
      rw [fail, ht]
      dsimp only
      rw [if_neg hno]
      exact ⟨Dict.get?_insert_self _ _ _, ht, rfl⟩

/-- Only a poll hands out a task. -/
theorem handedOut_eq_none {q q' : InMemoryTaskQueue η} {op : QueueOp} {reply : QueueReply}
    (h : Calls now q ⟨op, reply⟩ q') (hop : ∀ tenantId, op ≠ .dequeue tenantId) :
    (⟨op, reply⟩ : Call).handedOut = none := by
  have hreply : (q.exec now op).1 = reply := congrArg Prod.fst h.2
  subst hreply
  cases op with
  | dequeue tenantId => exact absurd rfl (hop tenantId)
  | enqueue task delaySeconds =>
      rw [exec]
      split
      · rfl
      · rfl
  | fail id' errorCode errorMessage retry => exact handedOut_fail h
  | _ => rfl

/-! ## Every step moves every letter -/

omit [MinHeap η PriorityItem.key] in
/-- What a worker that has other tasks before and after does to the holders of a task. -/
theorem put_other {q' : InMemoryTaskQueue η} {work : Option (TaskPayload × Stage)}
    (hbefore : ∀ task stage, s.workers w = some (task, stage) → task.taskId ≠ id)
    (hafter : ∀ task stage, work = some (task, stage) → task.taskId ≠ id) (w' : ω)
    (task : TaskPayload) (stage : Stage) (hid : task.taskId = id) :
    (put { s with queue := q' } w work).workers w' = some (task, stage) ↔
      s.workers w' = some (task, stage) := by
  show Function.update s.workers w work w' = _ ↔ _
  rw [Function.update_apply]
  split
  · rename_i heq
    subst heq
    exact ⟨fun h ↦ absurd hid (hafter task stage h), fun h ↦ absurd hid (hbefore task stage h)⟩
  · exact Iff.rfl

/-- The only worker that holds a task is the one that does. -/
theorem put_own (hs : Custody s.pool) (hw : s.workers w = some (task, stage)) {w' : ω}
    {task' : TaskPayload} {stage' : Stage} {q' : InMemoryTaskQueue η}
    {work : Option (TaskPayload × Stage)} (hid : task'.taskId = task.taskId)
    (hw' : (put { s with queue := q' } w work).workers w' = some (task', stage')) :
    work = some (task', stage') := by
  change Function.update s.workers w work w' = _ at hw'
  rw [Function.update_apply] at hw'
  split at hw'
  · exact hw'
  · rename_i hne
    exact absurd (hs.unique w' w task' task (workers_pool hw') (workers_pool hw) hid) hne

/-- The worker goes on with the delivery. -/
theorem Tracks.advance (h : Tracks dump as s id request home l) (hs : Custody s.pool)
    (hw : s.workers w = some (task, stage)) (hid : task.taskId = id) {stage' : Stage} {l' : Letter}
    (hat : stage'.At home) (hplace : l'.place = .away (some stage'.phase))
    (hfailures : l'.failures = l.failures) (hfailed : a.2.failedFor id = false)
    (hsent : sends id (as ++ [a]) = l'.sentTo home (dump request.envelope)) :
    Tracks dump (as ++ [a]) (s.put w (some (task, stage'))) id request home l' := by
  obtain ⟨hcarries, haway, -⟩ := h.held w task stage hw hid
  obtain ⟨stored, hstored, hcarries', hcount⟩ := h.task
  obtain ⟨status, hstatus, his⟩ := h.status
  refine
    { task := ⟨stored, hstored, hcarries', fun _ ↦ hfailures ▸ hcount (by simp [haway])⟩
      status := ⟨status, hstatus, ?_⟩
      items := by simp [hplace]
      held := fun w' task' stage'' hw' hid' ↦ ?_
      holder := fun _ _ ↦ ⟨w, task, stage', Function.update_self .., hid⟩
      stopped := by simp [hplace]
      sent := hsent
      failed := ?_ }
  · rw [hplace]
    rw [haway] at his
    cases status <;> exact his
  · obtain ⟨rfl, rfl⟩ := Prod.mk.inj (Option.some.inj (put_own hs hw (hid'.trans hid.symm) hw'))
    exact ⟨hcarries, hplace, hat⟩
  · rw [failures_snoc, hfailed, hfailures, ← h.failed]
    rfl

/-- The worker is done with the delivery. -/
theorem Tracks.release (h : Tracks dump as s id request home l) (hs : Custody s.pool)
    (hw : s.workers w = some (task, stage)) (hid : task.taskId = id) {q' : InMemoryTaskQueue η}
    {l' : Letter} {status : TaskStatus} (hplace : ∀ phase, l'.place ≠ .away (some phase))
    (htask : ∃ task, q'.tasks.get? id = some task ∧ Carries dump id request task ∧
      (l'.place ≠ .abandoned → task.retryCount = l'.failures))
    (hstatus : q'.status.get? id = some status) (his : l'.place.Is status)
    (hitems : l'.place = .delivered ∨ l'.place = .abandoned → (q'.view id).items = 0)
    (hstopped : l'.place = .away none → ∃ w, a.2 = .stop w)
    (hsent : a.2.sentFor id = none) (hsame : l'.refused = l.refused ∧ l'.taken = l.taken)
    (hfailed : l'.failures = l.failures + (a.2.failedFor id).toNat) :
    Tracks dump (as ++ [a]) (put { s with queue := q' } w none) id request home l' where
  task := htask
  status := ⟨status, hstatus, his⟩
  items := hitems
  held w' task' stage' hw' hid' := nomatch put_own hs hw (hid'.trans hid.symm) hw'
  holder phase hp := absurd hp (hplace phase)
  stopped hp := ⟨a, List.mem_append_right _ List.mem_cons_self, hstopped hp⟩
  sent := by
    rw [sends_snoc, hsent, h.sent, Letter.sentTo, Letter.sentTo, hsame.1, hsame.2]
    exact List.append_nil _
  failed := by
    rw [failures_snoc, h.failed, hfailed]

omit [DecidableEq ω] [MinHeap η PriorityItem.key] in
/-- The websocket of a message is looked up by the connection of its record. -/
theorem named_home {roster : Roster} (hlisted : Listed s.registry roster)
    (hhome : request.agent.connId
      = connId request.agent.tenantId request.agent.agentId home)
    (htask : Carries dump id request task) {websocket : Nat}
    (hnamed : named s.registry task = some websocket) : websocket = home := by
  obtain ⟨c, hc, hget⟩ := Option.bind_eq_some_iff.mp hnamed
  obtain ⟨htarget, -⟩ := Option.filter_eq_some_iff.mp hc
  obtain rfl := Option.some.inj (htask.targetConnId.symm.trans htarget)
  rw [hlisted.getWebsocket_eq] at hget
  obtain ⟨m, hfind, rfl⟩ := Option.map_eq_some_iff.mp hget
  obtain ⟨hm, hconn⟩ := Listed.findConn_iff.mp hfind
  rw [roster.keyed m hm, hhome] at hconn
  exact (connId_injective hconn).2.2

omit [DecidableEq ω] in
/-- A call of the queue that neither hands out the task nor is told of its end. -/
theorem Tracks.other (h : Tracks dump as s id request home l) (hs : Custody s.pool) {c : Call}
    {q' : InMemoryTaskQueue η} (hcalls : Calls now s.queue c q')
    (hack : c.op.acknowledges ≠ some id) (hout : c.handedOut ≠ some id) :
    Spared (s.queue.view id) (q'.view id) := by
  obtain ⟨task, htask, -⟩ := h.task
  refine spared_of_move hs.ok (exec_move hs.ok hcalls id) ?_ hack hout (h.no_items hs)
  rw [htask]
  rfl

/-- A worker goes on with another task, or drops it. -/
theorem Tracks.aside (h : Tracks dump as s id request home l)
    (hw : s.workers w = some (task, stage)) (hid : task.taskId ≠ id)
    {work : Option (TaskPayload × Stage)} (hwork : ∀ next ∈ work, next.1 = task)
    {q' : InMemoryTaskQueue η} (hspared : Spared (s.queue.view id) (q'.view id))
    (hsent : a.2.sentFor id = none) (hfailed : a.2.failedFor id = false) :
    Followed dump (as ++ [a]) (put { s with queue := q' } w work) id request home l := by
  refine h.spared hspared (put_other ?_ ?_) hsent hfailed
  · intro task' stage' hw'
    obtain ⟨rfl, -⟩ := Prod.mk.inj (Option.some.inj (hw.symm.trans hw'))
    exact hid
  · intro task' stage' hnext
    obtain rfl := hwork _ hnext
    exact hid

section Events

variable {roster : Roster} (h : Tracks dump as s id request home l) (hs : Custody s.pool)
include h hs

/-- A worker polls. -/
theorem Tracks.poll {task : Option TaskPayload} {q' : InMemoryTaskQueue η}
    (hw : s.workers w = none)
    (hcalls : Calls now s.queue ⟨.dequeue (filter w), .dequeued task⟩ q') :
    Followed dump (as ++ [(now, .poll w task)])
      (put { s with queue := q' } w (task.map (·, .handed))) id request home l := by
  have hbefore : ∀ task stage, s.workers w = some (task, stage) → task.taskId ≠ id := by
    intro task stage hw'
    cases hw.symm.trans hw'
  by_cases hout : (Call.mk (.dequeue (filter w)) (.dequeued task)).handedOut = some id
  · obtain ⟨got, hreply, hstored, hafter, hpending, hprocessing⟩ :=
      handed_of_move (exec_move hs.ok hcalls id) hout
    cases hreply
    obtain ⟨stored, hstored', hcarries, hcount⟩ := h.task
    obtain rfl := Option.some.inj (hstored.symm.trans hstored')
    obtain ⟨status, hstatus, his⟩ := h.status
    obtain rfl := Option.some.inj (hstatus.symm.trans hpending)
    have hplace := Place.is_pending his
    refine ⟨_, .inr (.hand hplace), ?_⟩
    exact
      { task := ⟨got, hafter, hcarries, fun _ ↦ hcount (by simp [hplace])⟩
        status := ⟨.processing, hprocessing, trivial⟩
        items := by simp
        held := fun w' task' stage' hw' hid ↦ by
          change Function.update s.workers w (some (got, .handed)) w' = _ at hw'
          rw [Function.update_apply] at hw'
          split at hw'
          · obtain ⟨rfl, rfl⟩ := Prod.mk.inj (Option.some.inj hw')
            exact ⟨hcarries, rfl, trivial⟩
          · obtain ⟨-, haway, -⟩ := h.held w' task' stage' hw' hid
            cases hplace.symm.trans haway
        holder := fun _ _ ↦ ⟨w, got, .handed, Function.update_self .., hcarries.taskId⟩
        stopped := by simp
        sent := by
          rw [sends_snoc, h.sent]
          exact List.append_nil _
        failed := by
          rw [failures_snoc, h.failed]
          rfl }
  · refine h.spared (h.other hs hcalls nofun hout) (put_other hbefore ?_) rfl rfl
    intro task' stage' hwork hid
    obtain ⟨got, rfl, hpair⟩ := Option.map_eq_some_iff.mp hwork
    obtain ⟨rfl, -⟩ := Prod.mk.inj hpair
    exact hout (congrArg some hid)

/-- A worker sends. -/
theorem Tracks.send (hsound : l.Sound 3) {websocket : Nat} (response : Except String Unit)
    (hw : s.workers w = some (task, .found websocket)) :
    Followed dump
      (as ++ [(now, .send w task.taskId ⟨websocket, task.envelopeJson, response.isOk⟩)])
      (s.put w (some (task, .ended (deliver (fun _ ↦ response) now task (some websocket)).2)))
      id request home l := by
  by_cases hid : task.taskId = id
  · obtain ⟨hcarries, haway, hat⟩ := h.held w task _ hw hid
    obtain rfl : websocket = home := hat
    obtain ⟨huntaken, -⟩ := hsound.untaken (.inr (.inr haway))
    have hsent : l.sentTo websocket (dump request.envelope)
        = List.replicate l.refused ⟨websocket, dump request.envelope, false⟩ := by
      rw [Letter.sentTo, huntaken]
      exact List.append_nil _
    cases response with
    | ok _ =>
        refine ⟨_, .inr (.take haway), h.advance hs hw hid trivial rfl rfl rfl ?_⟩
        rw [sends_snoc, h.sent, hsent, DispatchEvent.sentFor, if_pos hid, hcarries.envelopeJson]
        rfl
    | error _ =>
        refine ⟨_, .inr (.refuse haway), h.advance hs hw hid trivial rfl rfl rfl ?_⟩
        rw [sends_snoc, h.sent, hsent, DispatchEvent.sentFor, if_pos hid, hcarries.envelopeJson,
          Letter.sentTo, huntaken, List.replicate_succ']
        exact (List.append_nil _).symm
  · exact h.aside hw hid (by simp) (.refl _) (if_neg hid) rfl

/-- A worker reports a result. -/
theorem Tracks.finish {result result' : TaskResult} {ok : Bool} {q' : InMemoryTaskQueue η}
    (hw : s.workers w = some (task, .ended (.ok result)))
    (hcalls : Calls now s.queue ⟨.complete task.taskId result', .done ok⟩ q') :
    Followed dump (as ++ [(now, .settle w task.taskId true)]) (put { s with queue := q' } w none)
      id request home l := by
  by_cases hid : task.taskId = id
  · subst hid
    obtain ⟨-, haway, -⟩ := h.held w task _ hw rfl
    obtain ⟨stored, hstored, hcarries, hcount⟩ := h.task
    obtain ⟨hafter, hstatus, hitems⟩ :=
      completed_of_move (exec_move hs.ok hcalls task.taskId) hstored
    have hzero := (hs.counted task.taskId).processing (hs.held w task (workers_pool hw))
    refine ⟨_, .inr (.deliver haway), h.release hs hw rfl (by simp)
      ⟨stored, hafter, hcarries, fun _ ↦ hcount (by simp [haway])⟩ hstatus trivial
      (fun _ ↦ hitems.trans hzero) (by simp) rfl ⟨rfl, rfl⟩ ?_⟩
    simp [DispatchEvent.failedFor]
  · have hout := handedOut_eq_none hcalls nofun
    exact h.aside hw hid (by simp)
      (h.other hs hcalls (fun h ↦ hid (Option.some.inj h)) (by rw [hout]; exact nofun)) rfl
      (by simp [DispatchEvent.failedFor])

/-- A worker reports an exception. -/
theorem Tracks.crash (hsound : l.Sound 3) {error : ExecuteError} {errorCode errorMessage : String}
    {reply : QueueReply} {q' : InMemoryTaskQueue η}
    (hw : s.workers w = some (task, .ended (.error error)))
    (hcalls : Calls now s.queue ⟨.fail task.taskId errorCode errorMessage true, reply⟩ q') :
    Followed dump (as ++ [(now, .settle w task.taskId false)]) (put { s with queue := q' } w none)
      id request home l := by
  by_cases hid : task.taskId = id
  · subst hid
    obtain ⟨-, haway, -⟩ := h.held w task _ hw rfl
    obtain ⟨stored, hstored, hcarries, hcount⟩ := h.task
    have hretries : stored.retryCount = l.failures := hcount (by simp [haway])
    have hfailed : (DispatchEvent.settle w task.taskId false).failedFor task.taskId = true := by
      simp [DispatchEvent.failedFor]
    have hzero := (hs.counted task.taskId).processing (hs.held w task (workers_pool hw))
    have hfew : l.failures ≤ 3 := hsound.failures (by simp [haway])
    rcases failed_of_calls hcalls hstored (by omega) with
      ⟨hcan, hstatus, hafter⟩ | ⟨hcan, hstatus, hafter, hitems⟩
    · have hlt : l.failures < 3 := by
        have := of_decide_eq_true hcan
        rw [hcarries.maxRetries, hretries] at this
        exact_mod_cast this
      refine ⟨_, .inr (.retry haway hlt), h.release hs hw rfl (by simp)
        ⟨_, hafter, ⟨hcarries.taskId, hcarries.targetConnId, hcarries.envelopeJson,
          hcarries.maxRetries⟩, fun _ ↦ ?_⟩ hstatus trivial (by simp) (by simp) rfl
        ⟨rfl, rfl⟩ ?_⟩
      · exact congrArg (· + 1) hretries
      · rw [hfailed]
        rfl
    · have hle : 3 ≤ l.failures := by
        have := of_decide_eq_false hcan
        rw [hcarries.maxRetries, hretries] at this
        exact_mod_cast not_lt.mp this
      refine ⟨_, .inr (.abandon haway hle), h.release hs hw rfl (by simp)
        ⟨stored, hafter, hcarries, by simp⟩ hstatus trivial (fun _ ↦ hitems.trans hzero)
        (by simp) rfl ⟨rfl, rfl⟩ ?_⟩
      rw [hfailed]
      rfl
  · have hout := handedOut_eq_none hcalls nofun
    exact h.aside hw hid (by simp)
      (h.other hs hcalls (fun h ↦ hid (Option.some.inj h)) (by rw [hout]; exact nofun)) rfl
      (by simp [DispatchEvent.failedFor, hid])

/-- A worker is stopped. -/
theorem Tracks.stop (w : ω) :
    Followed dump (as ++ [(now, .stop w)]) (s.put w none) id request home l := by
  cases hw : s.workers w with
  | none =>
      have hidle : s.put w none = s := by
        rw [put, ← hw, Function.update_eq_self]
      rw [hidle]
      exact h.spared (.refl _) (fun _ _ _ _ ↦ Iff.rfl) rfl rfl
  | some work =>
      obtain ⟨task, stage⟩ := work
      by_cases hid : task.taskId = id
      · obtain ⟨-, haway, -⟩ := h.held w task stage hw hid
        obtain ⟨stored, hstored, hcarries, hcount⟩ := h.task
        have hstatus : s.queue.status.get? id = some .processing :=
          hid ▸ hs.held w task (workers_pool hw)
        exact ⟨_, .inr (.stop haway), h.release hs hw hid (by simp)
          ⟨stored, hstored, hcarries, fun _ ↦ hcount (by simp [haway])⟩ hstatus trivial
          (by simp) (fun _ ↦ ⟨w, rfl⟩) rfl ⟨rfl, rfl⟩ rfl⟩
      · exact h.aside hw hid (by simp) (.refl _) rfl rfl

end Events

/-- Every step moves every letter as it may move, or leaves it alone. -/
theorem Tracks.step {roster : Roster} (h : Tracks dump as s id request home l)
    (hs : Custody s.pool) (hsound : l.Sound 3) (hlisted : Listed s.registry roster)
    (hhome : request.agent.connId
      = connId request.agent.tenantId request.agent.agentId home)
    (hstep : Steps dump filter now s e s') :
    Followed dump (as ++ [(now, e)]) s' id request home l := by
  cases hstep with
  | registry => exact h.spared (.refl _) (fun _ _ _ _ ↦ Iff.rfl) rfl rfl
  | lookUp _ => exact h.spared (.refl _) (fun _ _ _ _ ↦ Iff.rfl) rfl rfl
  | queueToAgent _ hcalls =>
      have hout := handedOut_eq_none hcalls nofun
      exact h.spared (h.other hs hcalls nofun (by rw [hout]; exact nofun))
        (fun _ _ _ _ ↦ Iff.rfl) rfl rfl
  | @client op reply q' hop hcalls =>
      have hpoll : ∀ tenantId, op ≠ .dequeue tenantId := by
        rintro tenantId rfl
        exact hop
      have hack : op.acknowledges = none := by
        cases op <;> first | rfl | exact hop.elim
      have hout := handedOut_eq_none hcalls hpoll
      refine h.spared (h.other hs hcalls ?_ ?_) (fun _ _ _ _ ↦ Iff.rfl) rfl rfl
      · rw [hack]
        exact nofun
      · rw [hout]
        exact nofun
  | poll hw hcalls => exact h.poll hs hw hcalls
  | @find w task websocket hw hnamed =>
      by_cases hid : task.taskId = id
      · obtain ⟨hcarries, haway, -⟩ := h.held w task _ hw hid
        refine ⟨_, .inr (.find haway), h.advance hs hw hid
          (named_home hlisted hhome hcarries hnamed) rfl rfl rfl ?_⟩
        rw [sends_snoc, h.sent]
        exact List.append_nil _
      · exact h.aside hw hid (by simp) (.refl _) rfl rfl
  | @miss w task error hw _ =>
      by_cases hid : task.taskId = id
      · obtain ⟨-, haway, -⟩ := h.held w task _ hw hid
        refine ⟨_, .inr (.miss haway), h.advance hs hw hid trivial rfl rfl rfl ?_⟩
        rw [sends_snoc, h.sent]
        exact List.append_nil _
      · exact h.aside hw hid (by simp) (.refl _) rfl rfl
  | send hw => exact h.send hs hsound _ hw
  | finish hw hcalls => exact h.finish hs hw hcalls
  | crash hw hcalls => exact h.crash hs hsound hw hcalls
  | stop => exact h.stop hs _

/-! ## Runs -/

/-- Only an `enqueue` that is accepted makes a task known. -/
theorem accepted_of_move {q : InMemoryTaskQueue η} {c : Call} {v v' : TaskView}
    (h : TaskMove q now c id v v') (hnone : v.task = none) (hsome : v'.task.isSome) :
    ∃ task delaySeconds, c.op = .enqueue task delaySeconds ∧ c.reply = .accepted task ∧
      task.taskId = id := by
  have hsame : v'.task = v.task → ∃ task delaySeconds, c.op = .enqueue task delaySeconds ∧
      c.reply = .accepted task ∧ task.taskId = id := by
    intro heq
    rw [heq, hnone] at hsome
    cases hsome
  cases h with
  | accept hop hreply hid _ => exact ⟨_, _, hop, hreply, hid⟩
  | retry _ ht | overflow _ ht => cases hnone.symm.trans ht
  | _ => exact hsame rfl

/-- What is known of all messages. -/
structure Books (dump : MessageEnvelope → String) (as : List (Time × DispatchEvent ω))
    (s : Dispatch ω η) : Prop where
  custody : Custody s.pool
  listed : ∃ roster, Listed s.registry roster
  records : ∀ agent ∈ s.records, ∃ home,
    agent.connId = connId agent.tenantId agent.agentId home
  tracked : ∀ id request, Queued as id request → ∃ home l,
    request.agent.connId = connId request.agent.tenantId request.agent.agentId home ∧
      Letter.Comes 3 l ∧ Tracks dump as s id request home l
  known : ∀ id, (s.queue.tasks.get? id).isSome → ∃ request, Queued as id request
  unknown : ∀ id, s.queue.tasks.get? id = none → sends id as = [] ∧ failures id as = 0

omit [DecidableEq ω] in
/-- What a worker holds is known. -/
theorem known_of_held (hs : Custody s.pool) (hw : s.workers w = some (task, stage)) :
    (s.queue.tasks.get? task.taskId).isSome := by
  refine (hs.ok task.taskId).task_isSome ?_
  show (s.queue.status.get? task.taskId).isSome
  rw [show s.queue.status.get? task.taskId = _ from hs.held w task (workers_pool hw)]
  rfl

/-- No step is about a task that is not known. -/
theorem unsent_of_unknown (hs : Custody s.pool) (h : Steps dump filter now s e s')
    (hnone : s.queue.tasks.get? id = none) : e.sentFor id = none ∧ e.failedFor id = false := by
  have hne : ∀ {w task stage}, s.workers w = some (task, stage) → task.taskId ≠ id := by
    rintro w task stage hw rfl
    have hsome := known_of_held hs hw
    rw [hnone] at hsome
    cases hsome
  cases h with
  | send hw => exact ⟨if_neg (hne hw), rfl⟩
  | finish hw _ => exact ⟨rfl, by simp [DispatchEvent.failedFor]⟩
  | crash hw _ => exact ⟨rfl, by simp [DispatchEvent.failedFor, hne hw]⟩
  | _ => exact ⟨rfl, rfl⟩

/-- A step that makes a task known queues it. -/
theorem queued_of_known (hs : Custody s.pool) (h : Steps dump filter now s e s')
    (hnone : s.queue.tasks.get? id = none) (hsome : (s'.queue.tasks.get? id).isSome) :
    ∃ router createdAt request task,
      e = .queueToAgent router id createdAt request (.accepted task) := by
  have hmove : ∀ {c : Call} {q' : InMemoryTaskQueue η}, Calls now s.queue c q' →
      (q'.tasks.get? id).isSome → ∃ task delaySeconds, c.op = .enqueue task delaySeconds ∧
        c.reply = .accepted task ∧ task.taskId = id :=
    fun hcalls hsome ↦ accepted_of_move (exec_move hs.ok hcalls id) hnone hsome
  have hsame : s'.queue = s.queue → ∃ router createdAt request task,
      e = .queueToAgent router id createdAt request (.accepted task) := by
    intro heq
    rw [heq, hnone] at hsome
    cases hsome
  cases h with
  | queueToAgent _ hcalls =>
      obtain ⟨task, _, hop, hreply, hid⟩ := hmove hcalls hsome
      cases hop
      cases hreply
      obtain rfl : _ = id := hid
      exact ⟨_, _, _, _, rfl⟩
  | client hop hcalls =>
      obtain ⟨task, _, heq, -⟩ := hmove hcalls hsome
      obtain rfl : _ = _ := heq
      exact hop.elim
  | poll _ hcalls =>
      obtain ⟨_, _, heq, -⟩ := hmove hcalls hsome
      cases heq
  | finish _ hcalls =>
      obtain ⟨_, _, heq, -⟩ := hmove hcalls hsome
      cases heq
  | crash _ hcalls =>
      obtain ⟨_, _, heq, -⟩ := hmove hcalls hsome
      cases heq
  | registry => exact hsame rfl
  | lookUp _ => exact hsame rfl
  | find _ _ => exact hsame rfl
  | miss _ _ => exact hsame rfl
  | send _ => exact hsame rfl
  | stop => exact hsame rfl

omit [DecidableEq ω] in
/-- A message that is queued starts as a letter that waits. -/
theorem Books.start (h : Books dump as s) {router : QueuedRouter} {createdAt : Time}
    {q' : InMemoryTaskQueue η}
    (hcalls : Calls now s.queue
      ⟨.enqueue (router.taskOf dump id createdAt request) 0, .accepted task⟩ q') :
    Tracks dump (as ++ [(now, .queueToAgent router id createdAt request (.accepted task))])
      { s with queue := q' } id request home {} := by
  have heq : task = router.taskOf dump id createdAt request := by
    have hreply := congrArg Prod.fst hcalls.2
    dsimp only [exec] at hreply
    split at hreply
    · cases hreply
    · exact (QueueReply.accepted.inj hreply).symm
  subst heq
  obtain ⟨hnone, htask, hstatus⟩ := hcalls.accepted
  obtain ⟨hsends, hfailures⟩ := h.unknown id hnone
  refine
    { task := ⟨_, htask, ⟨rfl, rfl, rfl, rfl⟩, fun _ ↦ rfl⟩
      status := ⟨.pending, hstatus, trivial⟩
      items := by simp
      held := fun w task stage hw hid ↦ ?_
      holder := by simp
      stopped := by simp
      sent := ?_
      failed := ?_ }
  · have hsome := known_of_held h.custody hw
    rw [hid, show s.queue.tasks.get? id = none from hnone] at hsome
    cases hsome
  · rw [sends_snoc, hsends]
    rfl
  · rw [failures_snoc, hfailures]
    rfl

/-- Every step keeps the books. -/
theorem Books.step (h : Books dump as s) (hstep : Steps dump filter now s e s') :
    Books dump (as ++ [(now, e)]) s' := by
  obtain ⟨roster, hlisted⟩ := h.listed
  have hfollow : ∀ id request, Queued as id request → ∃ home l,
      request.agent.connId = connId request.agent.tenantId request.agent.agentId home ∧
        Letter.Comes 3 l ∧ Tracks dump (as ++ [(now, e)]) s' id request home l := by
    intro id request hqueued
    obtain ⟨home, l, hhome, hcomes, htracks⟩ := h.tracked id request hqueued
    obtain ⟨l', hl', htracks'⟩ := htracks.step h.custody hcomes.sound hlisted hhome hstep
    rcases hl' with rfl | hmove
    · exact ⟨home, l', hhome, hcomes, htracks'⟩
    · exact ⟨home, l', hhome, hcomes.tail hmove, htracks'⟩
  refine ⟨custody_step h.custody hstep, ?_, ?_, ?_, ?_, ?_⟩
  · cases hstep with
    | registry => exact ⟨_, hlisted.exec now _⟩
    | _ => exact ⟨roster, hlisted⟩
  · cases hstep with
    | @lookUp c agent hget =>
        intro agent' hmem
        rcases List.mem_cons.mp hmem with rfl | hmem
        · rw [hlisted.getAgentByConn_eq] at hget
          obtain ⟨m, hfind, rfl⟩ := Option.map_eq_some_iff.mp hget
          exact ⟨m.websocket, roster.keyed m (Listed.findConn_iff.mp hfind).1⟩
        · exact h.records agent' hmem
    | _ => exact h.records
  · rintro id request ⟨now', router, createdAt, task, hmem⟩
    rcases List.mem_append.mp hmem with hmem | hmem
    · exact hfollow id request ⟨now', router, createdAt, task, hmem⟩
    · obtain heq := List.mem_singleton.mp hmem
      obtain ⟨rfl, rfl⟩ := Prod.mk.inj heq
      cases hstep with
      | queueToAgent hrecord hcalls =>
          obtain ⟨home, hhome⟩ := h.records _ hrecord
          exact ⟨home, {}, hhome, .refl, h.start hcalls⟩
  · intro id hsome
    cases hbefore : s.queue.tasks.get? id with
    | none =>
        obtain ⟨router, createdAt, request, task, rfl⟩ :=
          queued_of_known h.custody hstep hbefore hsome
        exact ⟨request, now, router, createdAt, task,
          List.mem_append_right _ List.mem_cons_self⟩
    | some task =>
        obtain ⟨request, now', router, createdAt, task, hmem⟩ :=
          h.known id (by rw [hbefore]; rfl)
        exact ⟨request, now', router, createdAt, task, List.mem_append_left _ hmem⟩
  · intro id hnone
    have hbefore : s.queue.tasks.get? id = none := by
      cases hbefore : s.queue.tasks.get? id with
      | none => rfl
      | some task =>
          obtain ⟨request, hqueued⟩ := h.known id (by rw [hbefore]; rfl)
          obtain ⟨_, _, -, -, htracks⟩ := hfollow id request hqueued
          obtain ⟨task, htask, -⟩ := htracks.task
          cases hnone.symm.trans htask
    obtain ⟨hsends, hfailures⟩ := h.unknown id hbefore
    obtain ⟨hsent, hfailed⟩ := unsent_of_unknown h.custody hstep hbefore
    constructor
    · rw [sends_snoc, hsends, hsent]
      rfl
    · rw [failures_snoc, hfailures, hfailed]
      rfl

omit [DecidableEq ω] in
/-- What a letter tells of its message. -/
theorem Tracks.outcome (h : Tracks dump as s id request home l) (hsound : l.Sound 3)
    (hhome : request.agent.connId
      = connId request.agent.tenantId request.agent.agentId home) :
    Dispatched dump as s id request := by
  obtain ⟨status, hstatus, his⟩ := h.status
  have htaken : l.taken = true → ∃ sent ∈ sends id as, sent.taken = true := by
    intro htaken
    refine ⟨⟨home, dump request.envelope, true⟩, ?_, rfl⟩
    rw [h.sent, Letter.sentTo, if_pos htaken]
    exact List.mem_append_right _ List.mem_cons_self
  refine ⟨⟨home, hhome, l.refused, _, h.sent, ?_⟩, ?_, ?_, ?_, ?_, ?_⟩
  · split
    · exact .inr rfl
    · exact .inl rfl
  · have hlength : (sends id as).length = l.refused + l.taken.toNat := by
      rw [h.sent, Letter.sentTo, List.length_append, List.length_replicate]
      cases l.taken <;> rfl
    rw [hlength]
    exact hsound.sends_le
  · intro hcompleted
    obtain rfl := Option.some.inj (hstatus.symm.trans hcompleted)
    exact htaken (hsound.delivered (.inl (Place.is_completed his)))
  · rintro ⟨sent, hmem, hsent⟩
    have hl : l.taken = true := by
      rw [h.sent, Letter.sentTo] at hmem
      rcases List.mem_append.mp hmem with hmem | hmem
      · rw [List.eq_of_mem_replicate hmem] at hsent
        cases hsent
      · by_contra hl
        rw [if_neg hl] at hmem
        cases hmem
    rw [hstatus]
    rcases hsound.taken hl with hp | hp | hp
    · rw [hp] at his
      cases status <;> first | exact .inl rfl | exact his.elim
    · rw [hp] at his
      cases status <;> first | exact .inr rfl | exact his.elim
    · rw [hp] at his
      cases status <;> first | exact .inr rfl | exact his.elim
  · intro hfailed
    obtain rfl := Option.some.inj (hstatus.symm.trans hfailed)
    rw [h.failed]
    exact hsound.abandoned (Place.is_failed his)
  · intro hprocessing
    obtain rfl := Option.some.inj (hstatus.symm.trans hprocessing)
    obtain ⟨phase, hplace⟩ := Place.is_processing his
    cases phase with
    | none => exact .inr (h.stopped hplace)
    | some phase => exact .inl (h.holder phase hplace)

/-- In every run from an empty registry and an empty queue, whatever callers, agents and workers
do: only queued messages are sent, each of them at most four times, always as it was queued and
over the connection of the record it was queued with, and no more after it was taken; a completed
task was taken, a failed one was given up after four failures, and one that is being processed is
in the hands of a worker, unless one was stopped. -/
theorem dispatched (dump : MessageEnvelope → String) (filter : ω → Option String)
    (heartbeatTimeout : ℚ) (maxSize : Int) (retryBaseDelay retryMaxDelay : ℚ) (start : Time)
    {s : Time × Dispatch ω η}
    (h : Runs dump filter (start,
      { registry := { heartbeatTimeout := heartbeatTimeout }
        queue := new maxSize retryBaseDelay retryMaxDelay }) as s) :
    (∀ id, sends id as ≠ [] → ∃ request, Queued as id request) ∧
      ∀ id request, Queued as id request → Dispatched dump as s.2 id request := by
  have hbooks : Books dump as s.2 := by
    refine Run.history (P := fun as s ↦ Books dump as s.2) ?_ h ?_
    · rintro bs s ⟨now, e⟩ s' hs ⟨-, -, hstep⟩
      exact hs.step hstep
    · exact
        { custody := Custody.idle maxSize retryBaseDelay retryMaxDelay
          listed := ⟨_, Listed.empty heartbeatTimeout⟩
          records := nofun
          tracked := by
            rintro id request ⟨_, _, _, _, hmem⟩
            cases hmem
          known := nofun
          unknown := fun _ _ ↦ ⟨rfl, rfl⟩ }
  constructor
  · intro id hsends
    cases htask : s.2.queue.tasks.get? id with
    | none => exact absurd (hbooks.unknown id htask).1 hsends
    | some task => exact hbooks.known id (by rw [htask]; rfl)
  · intro id request hqueued
    obtain ⟨home, l, hhome, hcomes, htracks⟩ := hbooks.tracked id request hqueued
    exact htracks.outcome hcomes.sound hhome

section Witness

open AgentRegistry (RegistryOp)

def sampleRegister : RegistryOp :=
  .register ⟨7⟩ "acme" 10 (.arr []) (.arr []) (.obj []) (.obj [])

/-- The registry and the queue, the records of the callers, and what the one worker does. -/
def sampleDispatch (r : AgentRegistry) (records : List AgentRecord)
    (queue : InMemoryTaskQueue (SortedList PriorityItem.key)) :
    Dispatch Unit (SortedList PriorityItem.key) :=
  { registry := r, queue := queue, records := records }

/-- A message is queued for an agent, and delivered. -/
theorem dispatched_sample : ∃ (as : List (Time × DispatchEvent Unit))
    (s : Time × Dispatch Unit (SortedList PriorityItem.key)) (request : QueueRequest),
    Runs (fun _ ↦ "message") (fun _ ↦ none) (0, sampleDispatch {} [] (new 10000 1 60)) as s ∧
      s.2.queue.status.get? ⟨1⟩ = some .completed ∧
      Dispatched (fun _ ↦ "message") as s.2 ⟨1⟩ request := by
  let r := ({} : AgentRegistry).exec 0 sampleRegister
  obtain ⟨agent, hget⟩ : ∃ agent, r.getAgentByConn (connId "acme" ⟨7⟩ 10) = some agent :=
    Option.isSome_iff_exists.mp (by decide +kernel)
  obtain ⟨hconn, -⟩ :=
    ((AgentRegistry.Coherent.new 30).exec 0 sampleRegister).keyed _ agent hget
  let request : QueueRequest := { QueuedRouter.sampleRequest none with agent := agent }
  let task := QueuedRouter.sampleRouter.taskOf (fun _ ↦ "message") ⟨1⟩ 0 request
  have hnamed : named r task = some 10 := by
    show ((some agent.connId).filter _).bind r.getWebsocket = _
    rw [hconn]
    decide +kernel
  let q₁ := ((new 10000 1 60 : InMemoryTaskQueue (SortedList PriorityItem.key)).exec 0
    (.enqueue task 0)).2
  let q₂ := (q₁.exec 0 (.dequeue none)).2
  let result : TaskResult :=
    { taskId := ⟨1⟩
      status := .completed
      result := some (.obj [("delivered", .bool true)])
      processedAt := 0 }
  let q₃ := (q₂.exec 0 (.complete ⟨1⟩ { result with durationMs := 7 })).2
  let s₁ := sampleDispatch r [agent] q₁
  let s₂ := put { s₁ with queue := q₂ } () (some (task, .handed))
  let s₃ := s₂.put () (some (task, .found 10))
  let s₄ := s₃.put () (some (task, .ended (.ok result)))
  let s₅ := put { s₄ with queue := q₃ } () none
  let as : List (Time × DispatchEvent Unit) :=
    [(0, .registry sampleRegister), (0, .lookUp (connId "acme" ⟨7⟩ 10)),
      (0, .queueToAgent QueuedRouter.sampleRouter ⟨1⟩ 0 request (.accepted task)),
      (0, .poll () (some task)), (0, .find ()), (0, .send () ⟨1⟩ ⟨10, "message", true⟩),
      (0, .settle () ⟨1⟩ true)]
  have hrun : Runs (fun _ ↦ "message") (fun _ ↦ none)
      (0, sampleDispatch {} [] (new 10000 1 60)) as (0, s₅) := by
    have hworks : s₄.workers () = some (task, .ended (.ok result)) := rfl
    have hcomplete : Calls 0 s₄.queue
        ⟨.complete task.taskId { result with durationMs := 7 }, .done true⟩ q₃ := ⟨trivial, rfl⟩
    have hresponse : s₄ = s₃.put () (some (task,
        .ended (deliver (fun _ ↦ .ok ()) 0 task (some 10)).2)) := rfl
    have hsend : Steps (fun _ ↦ "message") (fun _ ↦ none) 0 s₃ (.send () task.taskId
        ⟨10, task.envelopeJson, (Except.ok () : Except String Unit).isOk⟩) s₄ := by
      rw [hresponse]
      exact .send rfl
    have hcons : ∀ {s s' : Dispatch Unit (SortedList PriorityItem.key)}
        {e : DispatchEvent Unit} {as : List (Time × DispatchEvent Unit)},
        Steps (fun _ ↦ "message") (fun _ ↦ none) 0 s e s' →
        Runs (fun _ ↦ "message") (fun _ ↦ none) (0, s') as (0, s₅) →
        Runs (fun _ ↦ "message") (fun _ ↦ none) (0, s) ((0, e) :: as) (0, s₅) :=
      fun h hr ↦ .cons ⟨le_rfl, rfl, h⟩ hr
    refine hcons .registry (hcons (.lookUp hget) ?_)
    refine hcons (.queueToAgent List.mem_cons_self ⟨rfl, rfl⟩) ?_
    refine hcons (.poll rfl ⟨trivial, rfl⟩) (hcons (.find rfl hnamed) ?_)
    exact hcons hsend (hcons (.finish hworks hcomplete) (.nil _))
  have hqueued : Queued as ⟨1⟩ request :=
    ⟨0, QueuedRouter.sampleRouter, 0, task, by simp [as]⟩
  exact ⟨as, (0, s₅), request, hrun, rfl,
    (dispatched _ _ 30 10000 1 60 0 hrun).2 ⟨1⟩ request hqueued⟩

end Witness

end Dispatch

end SemanticBus
