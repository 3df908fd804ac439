import SemanticBus.Queue.Cancelling
import SemanticBus.Queue.Filtering

/-!
# Cancelling on the Redis queue

`cancel` marks a pending task and takes it out of the delayed set, and the entry of a
stream that holds its id stays.  Nothing that reads the entry looks at the status, so
the law of `cancel` needs that no stream holds an unread entry of the task
(`CancelsRead`), which is so for a task that is still delayed.
-/

namespace SemanticBus

namespace RedisTaskQueue

def cancel (q : RedisTaskQueue) (id : UUID) : RedisProg Bool := do
  let status ← .query fun now s ↦ s.status.read now id
  if status ≠ some .pending then pure false
  else do
    setStatus id .cancelled
    .modify fun _ s ↦ { s with delayed := s.delayed.erase id }
    q.hsetResult id fun now old ↦
      { old with
        status := .cancelled
        errorCode := some "TASK_CANCELLED"
        errorMessage := some "Task cancelled by user"
        processedAt := now }
    pure true

/-- Remove expired tasks: the keys expire by themselves. -/
def clearExpired : RedisProg Nat := do
  processDelayedTasks
  pure 0

/-- A call of a worker on a client and its server. -/
def serve (now : Time) (call : WorkerCall) (x : RedisTaskQueue × RedisTaskStore) :
    QueueOutcome × RedisTaskQueue × RedisTaskStore :=
  let reply := x.1.exec now call x.2
  (reply.1.outcome, x.1, reply.2)

def backend : TaskQueueBackend Time (RedisTaskQueue × RedisTaskStore) where
  exec now op x :=
    match op with
    | .enqueue task delaySeconds => serve now (.enqueue task delaySeconds) x
    | .dequeue tenantId => serve now (.dequeue tenantId) x
    | .complete id result => serve now (.complete id result) x
    | .fail id errorCode errorMessage retry => serve now (.fail id errorCode errorMessage retry) x
    | .cancel id =>
        let reply := (x.1.cancel id).run now x.2
        (.done reply.1, x.1, reply.2)
    | .clearExpired => (.other, x.1, (clearExpired.run now x.2).2)
    | .shutdown => (.other, { x.1 with closed := true }, x.2)
  retries now x id := (x.2.tasks.read now id).any TaskPayload.canRetry
  result x id := (x.2.results.get? id).map Prod.fst

end RedisTaskQueue

namespace RedisTaskStore

variable {s s' s'' : RedisTaskStore} {now t : Time} {id j : UUID}

/-- The status of a task is pending, if its key has not expired. -/
def Pending (s : RedisTaskStore) (id : UUID) : Prop :=
  ∃ expiry, s.status.get? id = some (.pending, expiry)

/-- A `dequeue` makes no task pending, and stores results of tasks that were not and whose
hash it found. -/
structure Marks (s s' : RedisTaskStore) : Prop where
  tasks : s'.tasks = s.tasks
  pending : ∀ j, s'.Pending j → s.Pending j ∧ s'.results.get? j = s.results.get? j
  results : ∀ j, (∀ t, s.tasks.read t j = none) → s'.results.get? j = s.results.get? j

theorem Marks.of_same (htasks : s'.tasks = s.tasks) (hstatus : s'.status = s.status)
    (hresults : s'.results = s.results) : Marks s s' := by
  refine ⟨htasks, fun j hj ↦ ⟨?_, ?_⟩, fun j _ ↦ ?_⟩
  · rw [Pending, hstatus] at hj
    exact hj
  · rw [hresults]
  · rw [hresults]

theorem Marks.refl (s : RedisTaskStore) : Marks s s := .of_same rfl rfl rfl

theorem Marks.trans (h : Marks s s') (h' : Marks s' s'') : Marks s s'' where
  tasks := h'.tasks.trans h.tasks
  pending j hj := by
    obtain ⟨hpending, hresult⟩ := h'.pending j hj
    obtain ⟨hpending₀, hresult₀⟩ := h.pending j hpending
    exact ⟨hpending₀, hresult.trans hresult₀⟩
  results j hj := (h'.results j fun t ↦ by rw [h.tasks, hj t]).trans (h.results j hj)

/-- What a call about one task leaves alone. -/
structure Local (id : UUID) (s s' : RedisTaskStore) : Prop extends Apart id s s' where
  status : ∀ j, j ≠ id → s'.status.get? j = s.status.get? j
  results : ∀ j, j ≠ id → s'.results.get? j = s.results.get? j

theorem Local.refl (s : RedisTaskStore) : Local id s s :=
  ⟨.refl s, fun _ _ ↦ rfl, fun _ _ ↦ rfl⟩

theorem Local.trans (h : Local id s s') (h' : Local id s' s'') : Local id s s'' where
  toApart := h.toApart.trans h'.toApart
  status j hj := (h'.status j hj).trans (h.status j hj)
  results j hj := (h'.results j hj).trans (h.results j hj)

end RedisTaskStore

namespace RedisTaskQueue

open RedisTaskStore Prog

variable {q : RedisTaskQueue} {s s' : RedisTaskStore} {now t : Time} {id j : UUID}
  {tenantId : Option String} {p : TaskPriority} {ps : List TaskPriority}

/-! ## A dequeue -/

theorem get?_change_of_ne {ν : Type} {d : Expiring UUID ν} (f : Option ν → ν) (h : j ≠ id) :
    (d.change now id f).get? j = d.get? j := by
  rw [Expiring.change]
  split
  · exact Dict.get?_insert_of_ne _ _ h
  · rw [Dict.get?_modify, if_neg h]

theorem get?_expire_of_ne {ν : Type} {d : Expiring UUID ν} (seconds : Int) (h : j ≠ id) :
    (d.expire now id seconds).get? j = d.get? j := by
  rw [Expiring.expire]
  split
  · rw [Dict.get?_erase, if_neg h]
  · split
    · rfl
    · exact Dict.get?_insert_of_ne _ _ h

theorem local_setStatus (id : UUID) (status : TaskStatus) :
    Within (Local id) (setStatus id status) := by
  refine .modify fun _ s ↦ ⟨.of_same rfl rfl rfl, fun j hj ↦ ?_, fun _ _ ↦ rfl⟩
  exact Dict.get?_insert_of_ne _ _ hj

theorem local_hsetResult (id : UUID) (fields : Time → TaskResult → TaskResult) :
    Within (Local id) (q.hsetResult id fields) := by
  refine .bind (.modify fun _ s ↦ ⟨.of_same rfl rfl rfl, fun _ _ ↦ rfl, fun j hj ↦ ?_⟩) fun _ ↦
    .modify fun _ s ↦ ⟨.of_same rfl rfl rfl, fun _ _ ↦ rfl, fun j hj ↦ ?_⟩
  · exact get?_change_of_ne _ hj
  · exact get?_expire_of_ne _ hj

theorem unread_setStream_ack (p p' : TaskPriority) (m : StreamId) :
    (s.setStream p ((s.streams p).ack m)).unread p' = s.unread p' := by
  rw [RedisTaskStore.unread, setStream_streams]
  by_cases hp : p' = p
  · rw [hp, Function.update_self]
    rfl
  · rw [Function.update_of_ne hp]
    rfl

theorem local_xack (e : EntryRef) : Within (Local id) (xack e) := by
  refine .modify fun _ s ↦ ⟨⟨fun _ _ _ ↦ rfl, fun _ _ ↦ rfl, fun h ↦ h, ?_, ?_⟩,
    fun _ _ ↦ rfl, fun _ _ ↦ rfl⟩
  · exact fun h ↦ h.setStream ((h e.priority).ack e.id)
  · intro _ p j _
    rw [unread_setStream_ack]

theorem marks_xack (e : EntryRef) : Within Marks (xack e) :=
  .modify fun _ _ ↦ .of_same rfl rfl rfl

/-- The status of a task that is marked says so. -/
theorem marks_setStatus {status : TaskStatus} (hne : status ≠ .pending) (s : RedisTaskStore)
    (id : UUID) : Marks s { s with status := s.status.write id status none } ∧
      ¬ { s with status := s.status.write id status none }.Pending id := by
  have hnot : ¬ { s with status := s.status.write id status none }.Pending id := by
    rintro ⟨expiry, hget⟩
    have hself := (Dict.get?_insert_self s.status id (status, none)).symm.trans hget
    exact hne (congrArg Prod.fst (Option.some.inj hself))
  refine ⟨⟨rfl, fun j hj ↦ ?_, fun j _ ↦ rfl⟩, hnot⟩
  by_cases hid : j = id
  · exact absurd (hid ▸ hj) hnot
  · obtain ⟨expiry, hget⟩ := hj
    exact ⟨⟨expiry, (Dict.get?_insert_of_ne _ _ hid).symm.trans hget⟩, rfl⟩

/-- A task that has expired was there. -/
theorem marks_markExpired {task : TaskPayload} {e : EntryRef}
    (hread : s.tasks.read now id = some task) : Marks s ((q.markExpired id e).run now s).2 := by
  have hlocal : Local id s ((q.markExpired id e).run now s).2 :=
    Within.run (.bind (local_setStatus id _) fun _ ↦ .bind (local_xack e) fun _ ↦
      local_hsetResult id _) .refl .trans now s
  have hne : TaskStatus.expired ≠ .pending := nofun
  have hnot := (marks_setStatus hne s id).2
  refine ⟨rfl, fun j hj ↦ ?_, fun j hj ↦ hlocal.results j ?_⟩
  · by_cases hid : j = id
    · exact absurd (hid ▸ hj) hnot
    · obtain ⟨expiry, hget⟩ := hj
      exact ⟨⟨expiry, (hlocal.status j hid).symm.trans hget⟩, hlocal.results j hid⟩
  · rintro rfl
    rw [hj now] at hread
    cases hread

/-- What the loop over the priorities marks. -/
theorem marks_readStreams (q : RedisTaskQueue) (now : Time) (tenantId : Option String)
    (ps : List TaskPriority) (s : RedisTaskStore) (hkeyed : s.Keyed) :
    Marks s ((q.readStreams tenantId ps).run now s).2 ∧
      ∀ task, ((q.readStreams tenantId ps).run now s).1 = .dequeued (some task) →
        ¬ ((q.readStreams tenantId ps).run now s).2.Pending task.taskId := by
  induction ps generalizing s with
  | nil => exact ⟨.refl s, fun _ h ↦ by cases h⟩
  | cons p ps ih =>
      rw [readStreams, Prog.run_bind]
      obtain ⟨s₁, hs₁⟩ : ∃ s₁, ((q.xreadgroup p).run now s).2 = s₁ := ⟨_, rfl⟩
      have hread : Marks s s₁ := hs₁ ▸ .of_same rfl rfl rfl
      have hkeyed₁ : s₁.Keyed := by
        rw [Keyed, hread.tasks]
        exact hkeyed
      rw [hs₁]
      -- the rest of the loop goes on where a round has marked a task
      have hgo : ∀ s₂, Marks s₁ s₂ →
          Marks s ((q.readStreams tenantId ps).run now s₂).2 ∧
            ∀ task, ((q.readStreams tenantId ps).run now s₂).1 = .dequeued (some task) →
              ¬ ((q.readStreams tenantId ps).run now s₂).2.Pending task.taskId := by
        intro s₂ hmarks
        have hkeyed₂ : s₂.Keyed := by
          rw [Keyed, hmarks.tasks]
          exact hkeyed₁
        obtain ⟨hrest, hreply⟩ := ih s₂ hkeyed₂
        exact ⟨(hread.trans hmarks).trans hrest, hreply⟩
      cases ((q.xreadgroup p).run now s).1 with
      | none => exact hgo s₁ (.refl s₁)
      | some entry =>
          obtain ⟨m, id⟩ := entry
          dsimp only
          rw [Prog.run_bind, getTask, Prog.run_query]
          cases htask : s₁.tasks.read now id with
          | none =>
              dsimp only
              rw [Prog.run_bind]
              exact hgo _ ((marks_xack _).run .refl .trans now s₁)
          | some task =>
              dsimp only
              rw [Prog.run_bind, Prog.run_ask]
              dsimp only
              split
              · exact hgo s₁ (.refl s₁)
              · split
                · rw [Prog.run_bind]
                  exact hgo _ (marks_markExpired htask)
                · rw [Prog.run_bind]
                  have hne : TaskStatus.processing ≠ .pending := by rintro ⟨⟩
                  obtain ⟨hmarks, hnot⟩ := marks_setStatus hne s₁ id
                  refine ⟨hread.trans hmarks, fun task' hreply ↦ ?_⟩
                  obtain rfl := Option.some.inj (WorkerReply.dequeued.inj hreply)
                  show ¬ RedisTaskStore.Pending _ task.taskId
                  rw [hkeyed₁.of_read htask]
                  exact hnot

theorem marks_processDelayedTasks : Within Marks processDelayedTasks :=
  processDelayedTasks_rule .refl (fun _ _ ↦ .modify fun _ _ ↦ .of_same rfl rfl rfl)
    fun _ _ ↦ .of_same rfl rfl rfl

/-- What a `dequeue` marks. -/
theorem marks_dequeue (q : RedisTaskQueue) (now : Time) (tenantId : Option String)
    (s : RedisTaskStore) (hkeyed : s.Keyed) :
    Marks s (q.exec now (.dequeue tenantId) s).2 ∧
      ∀ task, (q.exec now (.dequeue tenantId) s).1 = .dequeued (some task) →
        ¬ (q.exec now (.dequeue tenantId) s).2.Pending task.taskId := by
  rw [exec, prog, dequeue]
  split
  · exact ⟨.refl s, fun _ h ↦ by cases h⟩
  · rw [Prog.run_bind]
    have hmoved := marks_processDelayedTasks.run .refl .trans now s
    have hkeyed' : (processDelayedTasks.run now s).2.Keyed := by
      rw [Keyed, hmoved.tasks]
      exact hkeyed
    obtain ⟨hmarks, hreply⟩ := marks_readStreams q now tenantId TaskPriority.all _ hkeyed'
    exact ⟨hmoved.trans hmarks, hreply⟩

/-! ## A call about one task -/

structure Quiet (s s' : RedisTaskStore) : Prop where
  unread : ∀ p, s'.unread p = s.unread p
  delayed : ∀ j, s.delayed.get? j = none → s'.delayed.get? j = none

theorem Quiet.refl (s : RedisTaskStore) : Quiet s s := ⟨fun _ ↦ rfl, fun _ h ↦ h⟩

theorem Quiet.trans {s'' : RedisTaskStore} (h : Quiet s s') (h' : Quiet s' s'') : Quiet s s'' :=
  ⟨fun p ↦ (h'.unread p).trans (h.unread p), fun j hj ↦ h'.delayed j (h.delayed j hj)⟩

theorem Quiet.of_same (hstreams : s'.streams = s.streams) (hdelayed : s'.delayed = s.delayed) :
    Quiet s s' := by
  refine ⟨fun p ↦ ?_, fun j hj ↦ ?_⟩
  · rw [RedisTaskStore.unread, RedisTaskStore.unread, hstreams]
  · rw [hdelayed]
    exact hj

structure Unmarked (id : UUID) (s s' : RedisTaskStore) : Prop extends Local id s s' where
  quiet : Quiet s s'
  sameStatus : s'.status = s.status

theorem Unmarked.refl (s : RedisTaskStore) : Unmarked id s s := ⟨.refl s, .refl s, rfl⟩

theorem Unmarked.trans {s'' : RedisTaskStore} (h : Unmarked id s s') (h' : Unmarked id s' s'') :
    Unmarked id s s'' :=
  ⟨h.toLocal.trans h'.toLocal, h.quiet.trans h'.quiet, h'.sameStatus.trans h.sameStatus⟩

/-- A change for one task after which it is not pending. -/
structure Settles (id : UUID) (s s' : RedisTaskStore) : Prop extends Local id s s' where
  quiet : Quiet s s'
  not_pending : ¬ s'.Pending id

theorem unmarked_hsetResult (id : UUID) (fields : Time → TaskResult → TaskResult) :
    Within (Unmarked id) (q.hsetResult id fields) := by
  refine .bind (.modify fun _ s ↦ ?_) fun _ ↦ .modify fun _ s ↦ ?_
  · exact ⟨⟨.of_same rfl rfl rfl, fun _ _ ↦ rfl, fun j hj ↦ get?_change_of_ne _ hj⟩,
      .of_same rfl rfl, rfl⟩
  · exact ⟨⟨.of_same rfl rfl rfl, fun _ _ ↦ rfl, fun j hj ↦ get?_expire_of_ne _ hj⟩,
      .of_same rfl rfl, rfl⟩

theorem unmarked_acknowledge (target : AckTarget) :
    Within (Unmarked id) (acknowledge target) := by
  cases target with
  | nothing | refused => exact .ret _
  | entry e =>
      refine .modify fun now s ↦ ⟨?_, ⟨fun p ↦ unread_setStream_ack _ _ _, fun _ h ↦ h⟩, rfl⟩
      exact (local_xack e).run .refl .trans now s

theorem unmarked_removeFromIndexes (task : TaskPayload) (id : UUID) :
    Within (Unmarked id) (removeFromIndexes task id) := by
  refine (indexes_rule (fun s _ _ ↦ ?_) task id).2
  exact ⟨⟨.of_same rfl rfl rfl, fun _ _ ↦ rfl, fun _ _ ↦ rfl⟩, .of_same rfl rfl, rfl⟩

/-- A task that is marked is not pending after the rest of its call. -/
theorem settles_mark {α : Type} {x : RedisProg α} {status : TaskStatus} (hne : status ≠ .pending)
    (hx : Within (Unmarked id) x) (now : Time) (s : RedisTaskStore) :
    Settles id s ((setStatus id status >>= fun _ ↦ x).run now s).2 := by
  have hnot := (marks_setStatus hne s id).2
  have hmarked : Local id s ((setStatus id status).run now s).2 :=
    (local_setStatus id status).run .refl .trans now s
  rw [Prog.run_bind]
  have hrest := hx.run .refl .trans now ((setStatus id status).run now s).2
  have hquiet : Quiet s ((setStatus id status).run now s).2 := .of_same rfl rfl
  refine ⟨hmarked.trans hrest.toLocal, hquiet.trans hrest.quiet, ?_⟩
  rw [Pending, hrest.sameStatus]
  exact hnot

theorem Unmarked.settles {s'' : RedisTaskStore} (h : Unmarked id s s') (h' : Settles id s' s'') :
    Settles id s s'' :=
  ⟨h.toLocal.trans h'.toLocal, h.quiet.trans h'.quiet, h'.not_pending⟩

theorem complete_cases (q : RedisTaskQueue) (now : Time) (id : UUID) (result : TaskResult)
    (s : RedisTaskStore) :
    (∃ reply, (reply = .done false ∨ reply = .raised .brokerError) ∧
      q.exec now (.complete id result) s = (reply, s)) ∨
    (q.exec now (.complete id result) s).1 = .done true ∧
      Settles id s (q.exec now (.complete id result) s).2 := by
  rw [exec, prog, complete, Prog.run_bind, getTask, Prog.run_query]
  cases s.tasks.read now id with
  | none => exact .inl ⟨_, .inl rfl, rfl⟩
  | some task =>
      dsimp only
      split
      · exact .inl ⟨_, .inr rfl, rfl⟩
      · rw [Prog.run_bind]
        have hack : Unmarked id s ((acknowledge (q.ackTarget task.metadata)).run now s).2 :=
          (unmarked_acknowledge _).run .refl .trans now s
        refine .inr ⟨by simp only [Prog.run_bind, Prog.run_pure], hack.settles ?_⟩
        have hne : TaskStatus.completed ≠ .pending := by rintro ⟨⟩
        refine settles_mark hne ?_ now _
        exact .bind (unmarked_hsetResult id _) fun _ ↦
          .bind (unmarked_removeFromIndexes task id) fun _ ↦ .ret _

/-- A change for one task that stores no result. -/
structure PutsBack (id : UUID) (s s' : RedisTaskStore) : Prop extends Local id s s' where
  sameResults : s'.results = s.results

theorem PutsBack.refl (s : RedisTaskStore) : PutsBack id s s := ⟨.refl s, rfl⟩

theorem PutsBack.trans {s'' : RedisTaskStore} (h : PutsBack id s s') (h' : PutsBack id s' s'') :
    PutsBack id s s'' :=
  ⟨h.toLocal.trans h'.toLocal, h'.sameResults.trans h.sameResults⟩

theorem putsBack_acknowledge (target : AckTarget) :
    Within (PutsBack id) (acknowledge target) := by
  cases target with
  | nothing | refused => exact .ret _
  | entry e =>
      exact .modify fun now s ↦ ⟨(local_xack e).run .refl .trans now s, rfl⟩

theorem putsBack_hsetTask {task : TaskPayload} (hid : task.taskId = id) :
    Within (PutsBack id) (hsetTask id task) := by
  subst hid
  refine .modify fun now s ↦ ⟨⟨?_, fun _ _ ↦ rfl, fun _ _ ↦ rfl⟩, rfl⟩
  exact (apart_hsetTask task).run .refl .trans now s

theorem putsBack_setStatus (id : UUID) (status : TaskStatus) :
    Within (PutsBack id) (setStatus id status) :=
  .modify fun now s ↦ ⟨(local_setStatus id status).run .refl .trans now s, rfl⟩

theorem putsBack_zaddDelayed (id : UUID) (executeAt : ℚ) :
    Within (PutsBack id) (zaddDelayed id executeAt) := by
  refine .modify fun _ s ↦ ⟨⟨.of_streams rfl (fun _ _ _ ↦ rfl) ?_ (fun h ↦ h), ?_, ?_⟩, rfl⟩
  · exact fun j hj ↦ Dict.get?_insert_of_ne _ _ hj
  · exact fun _ _ ↦ rfl
  · exact fun _ _ ↦ rfl

theorem fail_cases (q : RedisTaskQueue) (now : Time) (id : UUID) (errorCode errorMessage : String)
    (retry : Bool) (s : RedisTaskStore) (hkeyed : s.Keyed) :
    (∃ reply, (reply = .done false ∨ reply = .raised .brokerError) ∧
      q.exec now (.fail id errorCode errorMessage retry) s = (reply, s)) ∨
    (q.exec now (.fail id errorCode errorMessage retry) s).1 = .done true ∧
      if retry && (s.tasks.read now id).any TaskPayload.canRetry then
        PutsBack id s (q.exec now (.fail id errorCode errorMessage retry) s).2
      else Settles id s (q.exec now (.fail id errorCode errorMessage retry) s).2 := by
  rw [exec, prog, fail, Prog.run_bind, getTask, Prog.run_query]
  cases hread : s.tasks.read now id with
  | none => exact .inl ⟨_, .inl rfl, rfl⟩
  | some task =>
      obtain rfl := hkeyed.of_read hread
      dsimp only
      split
      · exact .inl ⟨_, .inr rfl, rfl⟩
      · rw [Prog.run_bind]
        have hack : Unmarked task.taskId s
            ((acknowledge (q.ackTarget task.metadata)).run now s).2 :=
          (unmarked_acknowledge _).run .refl .trans now s
        have hcan : TaskPayload.canRetry { task with metadata := popEntry task.metadata }
            = task.canRetry := rfl
        rw [hcan]
        by_cases hretry : retry = true ∧ task.canRetry = true
        · have hafter : (retry && (some task).any TaskPayload.canRetry) = true := by
            rw [hretry.1, Option.any_some, hretry.2]
            rfl
          rw [if_pos hafter, if_pos hretry]
          refine .inr ⟨by simp only [Prog.run_bind, Prog.run_pure], ?_⟩
          have hback : PutsBack task.taskId s
              ((acknowledge (q.ackTarget task.metadata)).run now s).2 :=
            (putsBack_acknowledge _).run .refl .trans now s
          refine hback.trans (Within.run ?_ .refl .trans now _)
          exact .bind (putsBack_hsetTask rfl) fun _ ↦ .bind (putsBack_setStatus _ _) fun _ ↦
            .bind (.ask .refl) fun _ ↦ .bind (putsBack_zaddDelayed _ _) fun _ ↦ .ret _
        · have hafter : ¬ (retry && (some task).any TaskPayload.canRetry) = true := by
            rw [Option.any_some, Bool.and_eq_true]
            exact hretry
          rw [if_neg hafter, if_neg hretry]
          refine .inr ⟨by simp only [Prog.run_bind, Prog.run_pure], hack.settles ?_⟩
          have hne : TaskStatus.failed ≠ .pending := by rintro ⟨⟩
          refine settles_mark hne ?_ now _
          exact .bind (unmarked_hsetResult _ _) fun _ ↦
            .bind (unmarked_removeFromIndexes _ _) fun _ ↦ .ret _

theorem putsBack_enqueue (task : TaskPayload) (delaySeconds : ℚ) :
    Within (PutsBack task.taskId) (q.enqueue task delaySeconds) := by
  refine enqueue_rule (putsBack_hsetTask rfl) (fun now s ↦ ?_) (fun s expiry ↦ ?_) ?_ ?_
  · exact ⟨⟨apart_expire now s _ _, fun _ _ ↦ rfl, fun _ _ ↦ rfl⟩, rfl⟩
  · refine ⟨⟨.of_same rfl rfl rfl, fun j hj ↦ ?_, fun _ _ ↦ rfl⟩, rfl⟩
    exact Dict.get?_insert_of_ne _ _ hj
  · refine (indexes_rule (fun s _ _ ↦ ?_) task task.taskId).1
    exact ⟨⟨.of_same rfl rfl rfl, fun _ _ ↦ rfl, fun _ _ ↦ rfl⟩, rfl⟩
  · refine scheduleTask_rule .refl (fun _ ↦ putsBack_zaddDelayed _ _) (.modify fun now s ↦ ?_)
    exact ⟨⟨(apart_xadd _ _).run .refl .trans now s, fun _ _ ↦ rfl, fun _ _ ↦ rfl⟩, rfl⟩

/-- An `enqueue` that raises leaves no hash and no status. -/
theorem enqueue_cases (q : RedisTaskQueue) (now : Time) (task : TaskPayload) (delaySeconds : ℚ)
    (s : RedisTaskStore) :
    (∃ fault, q.exec now (.enqueue task delaySeconds) s = (.raised fault, s)) ∨
    (q.exec now (.enqueue task delaySeconds) s).1 = .accepted task ∨
    (q.exec now (.enqueue task delaySeconds) s).1 = .raised .brokerError ∧
      (q.exec now (.enqueue task delaySeconds) s).2.status = s.status ∧
      ∀ t, (q.exec now (.enqueue task delaySeconds) s).2.tasks.read t task.taskId = none := by
  rw [exec, prog, enqueue]
  split
  · exact .inl ⟨_, rfl⟩
  · rw [Prog.run_bind, Prog.run_bind]
    right
    split
    · rename_i hlapsed
      refine .inr ⟨rfl, rfl, fun t ↦ ?_⟩
      show Expiring.read (Expiring.expire _ now task.taskId _) t task.taskId = none
      rw [Expiring.expire, if_pos hlapsed]
      exact Expiring.read_erase.trans (if_pos rfl)
    · left
      simp only [Prog.run_bind, Prog.run_pure]

/-! ## The law -/

/-- A pending task waits and has no result, and nothing of a cancelled one is to be read. -/
structure CancelInv (x : (RedisTaskQueue × RedisTaskStore) × CancelNotes) : Prop where
  inOrder : x.1.2.InOrder
  keyed : x.1.2.Keyed
  pending : ∀ id, x.1.2.Pending id → x.2.phase id = .waiting ∧ x.1.2.results.get? id = none
  cancelled : ∀ id, x.2.cancelled id = true → x.2.phase id ≠ .absent ∧
    (∀ p, id ∉ x.1.2.unread p) ∧ x.1.2.delayed.get? id = none
  known : ∀ id, x.2.phase id = .absent →
    (∀ t, x.1.2.tasks.read t id = none) ∧ x.1.2.results.get? id = none

variable {q' : RedisTaskQueue} {notes notes' : CancelNotes}

/-- What becomes of the invariant when a call changes one task. -/
theorem CancelInv.change (h : CancelInv ((q, s), notes)) (hlocal : Local id s s')
    (hphase : ∀ j, j ≠ id → notes'.phase j = notes.phase j)
    (hcancelled : ∀ j, j ≠ id → notes'.cancelled j = notes.cancelled j)
    (hpending : s'.Pending id → notes'.phase id = .waiting ∧ s'.results.get? id = none)
    (hcancel : notes'.cancelled id = true → notes'.phase id ≠ .absent ∧
      (∀ p, id ∉ s'.unread p) ∧ s'.delayed.get? id = none)
    (hknown : notes'.phase id = .absent →
      (∀ t, s'.tasks.read t id = none) ∧ s'.results.get? id = none) :
    CancelInv ((q', s'), notes') := by
  refine ⟨hlocal.inOrder h.inOrder, hlocal.keyed h.keyed, fun j hj ↦ ?_, fun j hj ↦ ?_,
    fun j hj ↦ ?_⟩
  · by_cases hne : j = id
    · subst hne
      exact hpending hj
    · have hold : s.Pending j := hj.imp fun _ hget ↦ (hlocal.status j hne).symm.trans hget
      show notes'.phase j = .waiting ∧ s'.results.get? j = none
      rw [hphase j hne, hlocal.results j hne]
      exact h.pending j hold
  · by_cases hne : j = id
    · subst hne
      exact hcancel hj
    · have hj : notes'.cancelled j = true := hj
      rw [hcancelled j hne] at hj
      obtain ⟨hpast, hunread, hdelayed⟩ := h.cancelled j hj
      refine ⟨?_, fun p hmem ↦ ?_, (hlocal.delayed j hne).trans hdelayed⟩
      · show notes'.phase j ≠ .absent
        rw [hphase j hne]
        exact hpast
      · exact hunread p ((hlocal.unread h.inOrder p j hne).mp hmem)
  · by_cases hne : j = id
    · subst hne
      exact hknown hj
    · have hj : notes'.phase j = .absent := hj
      rw [hphase j hne] at hj
      obtain ⟨htasks, hresult⟩ := h.known j hj
      exact ⟨fun t ↦ (hlocal.tasks t j hne).trans (htasks t),
        (hlocal.results j hne).trans hresult⟩

/-- A settled task stays as far from the queue as it was. -/
theorem CancelInv.settle {phase : TaskPhase} (h : CancelInv ((q, s), notes))
    (hsettles : Settles id s s') (hphase : phase ≠ .absent) :
    CancelInv ((q', s'), notes.reach id phase) := by
  have hself : (notes.reach id phase).phase id ≠ .absent := by
    rw [CancelNotes.phase_reach_self]
    exact hphase
  refine h.change hsettles.toLocal (fun j hj ↦ CancelNotes.phase_reach_of_ne hj) (fun _ _ ↦ rfl)
    (fun hp ↦ absurd hp hsettles.not_pending) (fun hc ↦ ?_) (fun ha ↦ absurd ha hself)
  obtain ⟨-, hunread, hdelayed⟩ := h.cancelled id hc
  refine ⟨hself, fun p hmem ↦ ?_, hsettles.quiet.delayed id hdelayed⟩
  rw [hsettles.quiet.unread] at hmem
  exact hunread p hmem

/-- A `dequeue` keeps the invariant, with the task that it returns claimed. -/
theorem CancelInv.dequeue (h : CancelInv ((q, s), notes))
    (hphase : ∀ j, (q.exec now (.dequeue tenantId) s).1.outcome ≠ .handedOut j →
      notes'.phase j = notes.phase j)
    (hclaimed : ∀ j, (q.exec now (.dequeue tenantId) s).1.outcome = .handedOut j →
      notes'.phase j ≠ .absent)
    (hcancelled : notes'.cancelled = notes.cancelled) :
    CancelInv ((q', (q.exec now (.dequeue tenantId) s).2), notes') := by
  obtain ⟨hmarks, hreply⟩ := marks_dequeue q now tenantId s h.keyed
  obtain ⟨horder, hkeyed⟩ := q.dequeue_keeps now tenantId h.inOrder h.keyed
  have hpast : ∀ j, notes'.phase j = .absent → notes.phase j = .absent := by
    intro j hj
    exact (hphase j fun hout ↦ hclaimed j hout hj).symm.trans hj
  refine ⟨horder, hkeyed, fun j hj ↦ ?_, fun j hj ↦ ?_, fun j hj ↦ ?_⟩
  · obtain ⟨hold, hresult⟩ := hmarks.pending j hj
    obtain ⟨hwaiting, hnone⟩ := h.pending j hold
    refine ⟨(hphase j fun hout ↦ ?_).trans hwaiting, hresult.trans hnone⟩
    obtain ⟨task, htask, rfl⟩ := WorkerReply.of_outcome hout
    exact hreply task htask hj
  · have hj : notes'.cancelled j = true := hj
    rw [hcancelled] at hj
    obtain ⟨hthere, hunread, hdelayed⟩ := h.cancelled j hj
    refine ⟨fun ha ↦ hthere (hpast j ha), ?_⟩
    cases hclosed : q.closed with
    | true =>
        rw [exec, prog, RedisTaskQueue.dequeue, hclosed]
        exact ⟨hunread, hdelayed⟩
    | false =>
        have heffect := dequeue_effect now tenantId h.inOrder hclosed
        constructor
        · intro p hmem
          have hmem : j ∈ (q.exec now (.dequeue tenantId) s).2.unread p := hmem
          rw [heffect.unread] at hmem
          rcases unread_or_due h.inOrder ((unreadAfter_sublist _ _ _ _ _).subset hmem) with
            hold | ⟨score, hscore, -⟩
          · exact hunread p hold
          · cases hdelayed.symm.trans hscore
        · show (q.exec now (.dequeue tenantId) s).2.delayed.get? j = none
          rw [heffect.delayed, get?_delayed_scheduled h.inOrder, hdelayed, ite_self]
  · obtain ⟨htasks, hresult⟩ := h.known j (hpast j hj)
    refine ⟨fun t ↦ ?_, (hmarks.results j htasks).trans hresult⟩
    show Expiring.read (q.exec now (.dequeue tenantId) s).2.tasks t j = none
    rw [hmarks.tasks]
    exact htasks t

/-- So does moving due tasks. -/
theorem CancelInv.scheduled (h : CancelInv ((q, s), notes)) (now : Time) :
    CancelInv ((q', (processDelayedTasks.run now s).2), notes) := by
  have hmarks := marks_processDelayedTasks.run .refl .trans now s
  have hkeyed : (processDelayedTasks.run now s).2.Keyed := by
    rw [Keyed, hmarks.tasks]
    exact h.keyed
  refine ⟨inOrder_scheduled h.inOrder now, hkeyed, fun j hj ↦ ?_, fun j hj ↦ ?_, fun j hj ↦ ?_⟩
  · obtain ⟨hold, hresult⟩ := hmarks.pending j hj
    exact ⟨(h.pending j hold).1, hresult.trans (h.pending j hold).2⟩
  · obtain ⟨hthere, hunread, hdelayed⟩ := h.cancelled j hj
    refine ⟨hthere, fun p hmem ↦ ?_, ?_⟩
    · rcases unread_or_due h.inOrder hmem with hold | ⟨score, hscore, -⟩
      · exact hunread p hold
      · cases hdelayed.symm.trans hscore
    · show (RedisTaskQueue.scheduled s now).delayed.get? j = none
      rw [get?_delayed_scheduled h.inOrder, hdelayed, ite_self]
  · obtain ⟨htasks, hresult⟩ := h.known j hj
    refine ⟨fun t ↦ ?_, (hmarks.results j htasks).trans hresult⟩
    show Expiring.read (processDelayedTasks.run now s).2.tasks t j = none
    rw [hmarks.tasks]
    exact htasks t

section

variable {retries : UUID → Bool}

theorem CancelInv.enqueue {task : TaskPayload} (delaySeconds : ℚ) (h : CancelInv ((q, s), notes))
    (hfresh : notes.phase task.taskId = .absent) :
    CancelInv ((q, (q.exec now (.enqueue task delaySeconds) s).2),
      notes.after retries (.enqueue task delaySeconds)
        (q.exec now (.enqueue task delaySeconds) s).1.outcome) := by
  obtain ⟨htasks, hresult⟩ := h.known task.taskId hfresh
  have hcancelled : notes.cancelled task.taskId ≠ true :=
    fun hc ↦ (h.cancelled task.taskId hc).1 hfresh
  have hback : PutsBack task.taskId s (q.exec now (.enqueue task delaySeconds) s).2 :=
    (putsBack_enqueue task delaySeconds).run .refl .trans now s
  have hcases := enqueue_cases q now task delaySeconds s
  generalize q.exec now (.enqueue task delaySeconds) s = r at hback hcases ⊢
  have hnone : r.2.results.get? task.taskId = none := by
    rw [hback.sameResults]
    exact hresult
  rcases hcases with ⟨fault, rfl⟩ | hreply | ⟨hreply, hstatus, hgone⟩
  · exact h
  · rw [hreply]
    refine h.change hback.toLocal (fun j hj ↦ CancelNotes.phase_reach_of_ne hj) (fun _ _ ↦ rfl)
      (fun _ ↦ ⟨CancelNotes.phase_reach_self, hnone⟩) (fun hc ↦ absurd hc hcancelled)
      (fun ha ↦ ?_)
    cases CancelNotes.phase_reach_self.symm.trans ha
  · rw [hreply]
    refine h.change hback.toLocal (fun _ _ ↦ rfl) (fun _ _ ↦ rfl) (fun hp ↦ ?_)
      (fun hc ↦ absurd hc hcancelled) (fun _ ↦ ⟨hgone, hnone⟩)
    have hold : s.Pending task.taskId := by
      rw [Pending, ← hstatus]
      exact hp
    exact ⟨(h.pending task.taskId hold).1, hnone⟩

theorem CancelInv.complete (result : TaskResult) (h : CancelInv ((q, s), notes)) :
    CancelInv ((q, (q.exec now (.complete id result) s).2), notes.after retries
      (.complete id result) (q.exec now (.complete id result) s).1.outcome) := by
  have hcases := complete_cases q now id result s
  generalize q.exec now (.complete id result) s = r at hcases ⊢
  rcases hcases with ⟨reply, hreply, rfl⟩ | ⟨hreply, hsettles⟩
  · rcases hreply with rfl | rfl
    · exact h
    · exact h
  · rw [hreply]
    exact h.settle hsettles nofun

/-- A retry is put back as if it were new, which is right if its task is open. -/
theorem CancelInv.fail (errorCode errorMessage : String) {retry : Bool}
    (h : CancelInv ((q, s), notes))
    (hopen : retry = true → (s.tasks.read now id).any TaskPayload.canRetry = true →
      s.results.get? id = none ∧ notes.cancelled id = false) :
    CancelInv ((q, (q.exec now (.fail id errorCode errorMessage retry) s).2),
      notes.after (fun i ↦ (s.tasks.read now i).any TaskPayload.canRetry)
        (.fail id errorCode errorMessage retry)
        (q.exec now (.fail id errorCode errorMessage retry) s).1.outcome) := by
  have hcases := fail_cases q now id errorCode errorMessage retry s h.keyed
  generalize q.exec now (.fail id errorCode errorMessage retry) s = r at hcases ⊢
  rcases hcases with ⟨reply, hreply, rfl⟩ | ⟨hreply, hafter⟩
  · rcases hreply with rfl | rfl
    · exact h
    · exact h
  · rw [hreply]
    show CancelInv ((q, r.2), notes.reach id _)
    split at hafter
    · rename_i hretry
      obtain ⟨hasked, hcan⟩ := (Bool.and_eq_true _ _).mp hretry
      obtain ⟨hnone, hcancelled⟩ := hopen hasked hcan
      rw [if_pos hretry]
      refine h.change hafter.toLocal (fun j hj ↦ CancelNotes.phase_reach_of_ne hj)
        (fun _ _ ↦ rfl) (fun _ ↦ ⟨CancelNotes.phase_reach_self, ?_⟩) (fun hc ↦ ?_) (fun ha ↦ ?_)
      · rw [hafter.sameResults]
        exact hnone
      · cases hcancelled.symm.trans hc
      · cases CancelNotes.phase_reach_self.symm.trans ha
    · rename_i hretry
      rw [if_neg hretry]
      exact h.settle hafter (by rintro ⟨⟩)

end

end RedisTaskQueue

end SemanticBus
