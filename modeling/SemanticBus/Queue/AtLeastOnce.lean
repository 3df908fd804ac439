import Mathlib.Data.Finset.Filter
import Mathlib.Data.Finset.Lattice.Basic
import Mathlib.Data.Finset.Option
import SemanticBus.Queue.Kafka

/-!
# What a commit gives up

A task is unsettled from the moment its message is stored until it is completed,
sent to the dead letter topic, or found expired; `note` keeps the set of these
tasks along a run.  None of them is lost as long as the group has not committed
past all of its messages.

Every commit moves the offsets past all records read so far, whichever call makes
it.  So nothing is lost exactly as long as no commit is made while some other task
is held: read, unsettled, and without a message still to be read.
-/

namespace SemanticBus

def KafkaEvent.isCommit : KafkaEvent → Bool
  | .committed _ => true
  | _ => false

namespace KafkaSystem

variable {s s' : KafkaSystem} {now : Time} {e : KafkaEvent} {reply : Option WorkerReply}
  {worker : Nat} {id : UUID} {unsettled : Finset UUID}

/-! ## The unsettled tasks -/

/-- The task that an enqueue has sent with this event. -/
def sends (s : KafkaSystem) : KafkaEvent → Option UUID
  | .sent worker _ =>
      match s.calls.get? worker with
      | some (.sending _ record false) => some record.task.taskId
      | _ => none
  | _ => none

def settles (s : KafkaSystem) (now : Time) : KafkaEvent → Option UUID
  | .committed worker =>
      match s.calls.get? worker with
      | some (.completing id _) => some id
      | _ => none
  | .sent worker _ =>
      match s.calls.get? worker with
      | some (.burying id _ _) => some id
      | _ => none
  | .polled worker (some tp) =>
      match s.calls.get? worker, s.broker.tasks.poll tp with
      | some (.polling tenantId), some (record, _) =>
          if record.judge now tenantId = .expired then some record.task.taskId else none
      | _, _ => none
  | _ => none

/-- The unsettled tasks after an event. -/
def note (s : KafkaSystem) (a : Time × KafkaEvent) (unsettled : Finset UUID) : Finset UUID :=
  (unsettled.filter fun id ↦ s.settles a.1 a.2 ≠ some id) ∪ (s.sends a.2).toFinset

theorem mem_note : id ∈ s.note (now, e) unsettled ↔
    (id ∈ unsettled ∧ s.settles now e ≠ some id) ∨ s.sends e = some id := by
  rw [note, Finset.mem_union, Finset.mem_filter, Option.mem_toFinset, Option.mem_def]

/-- A new consumer of the group still gets a message of the task: the committed offset
of the partition is not past it. -/
def Obtainable (s : KafkaSystem) (id : UUID) : Prop :=
  ∃ tp, ∃ record ∈ s.broker.tasks.retained tp, record.task.taskId = id

/-- Every unsettled task can still be obtained. -/
def NothingLost (x : KafkaSystem × Finset UUID) : Prop := ∀ id ∈ x.2, x.1.Obtainable id

/-- A task of which everything has been read, and that is not settled. -/
def Held (x : KafkaSystem × Finset UUID) (id : UUID) : Prop :=
  id ∈ x.2 ∧ ∀ tp, ∀ record ∈ x.1.broker.tasks.unread tp, record.task.taskId ≠ id

/-- When a commit is made, no task is held but the one that it completes. -/
def CommitsAlone (x : KafkaSystem × Finset UUID) (a : Time × KafkaEvent) : Prop :=
  a.2.isCommit = true → ∀ id, Held x id → x.1.settles a.1 a.2 = some id

/-- A task can be obtained exactly when polling its partition returns it, in a process
that is started after a crash. -/
theorem obtainable_iff_polled (h : s.fire now .crash = some (s', reply)) :
    s.Obtainable id ↔ ∃ tp n record tasks,
      (GroupLog.skip tp n s'.broker.tasks).poll tp = some (record, tasks) ∧
        record.task.taskId = id := by
  obtain ⟨rfl, -⟩ := Prod.mk.inj (Option.some.inj h)
  constructor
  · rintro ⟨tp, record, hmem, hid⟩
    obtain ⟨n, tasks, hpoll⟩ := GroupLog.mem_unread_iff.mp
      (show record ∈ s.broker.tasks.restart.unread tp from hmem)
    exact ⟨tp, n, record, tasks, hpoll, hid⟩
  · rintro ⟨tp, n, record, tasks, hpoll, hid⟩
    exact ⟨tp, record, GroupLog.mem_unread_iff.mpr ⟨n, tasks, hpoll⟩, hid⟩

/-! ## One event -/

/-- What an event does to the task topics and the offsets. -/
inductive LogMove (s : KafkaSystem) : KafkaEvent → GroupLog TopicPartition KafkaRecord → Prop
  /-- Nothing. -/
  | keep {e : KafkaEvent} : e.isCommit = false → s.sends e = none → LogMove s e s.broker.tasks
  /-- A message is stored. -/
  | append (worker partition : Nat) (tp : TopicPartition) (record : KafkaRecord) :
      (∀ id, s.sends (.sent worker partition) = some id → record.task.taskId = id) →
        LogMove s (.sent worker partition) (s.broker.tasks.append tp record)
  /-- A record is read. -/
  | read (worker : Nat) (tp : TopicPartition) (record : KafkaRecord)
      {tasks : GroupLog TopicPartition KafkaRecord} :
      s.broker.tasks.poll tp = some (record, tasks) → LogMove s (.polled worker (some tp)) tasks
  /-- The positions are committed. -/
  | commit (worker : Nat) : LogMove s (.committed worker) s.broker.tasks.commit
  /-- The positions go back to the committed offsets. -/
  | restart : LogMove s .crash s.broker.tasks.restart

@[simp] theorem proceed_broker (s : KafkaSystem) (worker : Nat) (broker : KafkaBroker)
    (step : KafkaTaskQueue × KafkaNext) : (s.proceed worker broker step).1.broker = broker := by
  rw [proceed]
  cases step.2 with
  | await call => rfl
  | reply reply => rfl

/-- An answer of the broker reaches a call that waits for it. -/
theorem exists_of_answer {on : KafkaCall → Option (KafkaBroker × KafkaTaskQueue × KafkaNext)}
    (h : ((s.calls.get? worker).bind fun call ↦ (on call).bind fun answer ↦
      some (s.proceed worker answer.1 answer.2)) = some (s', reply)) :
    ∃ call broker step, s.calls.get? worker = some call ∧ on call = some (broker, step) ∧
      s'.broker = broker := by
  obtain ⟨call, hcall, h⟩ := Option.bind_eq_some_iff.mp h
  obtain ⟨⟨broker, step⟩, hon, h⟩ := Option.bind_eq_some_iff.mp h
  refine ⟨call, broker, step, hcall, hon, ?_⟩
  rw [← proceed_broker s worker broker step, Option.some.inj h]

/-- Every event moves the log in one of these ways. -/
theorem fire_log (h : s.fire now e = some (s', reply)) : LogMove s e s'.broker.tasks := by
  cases e with
  | call worker call =>
      rw [fire] at h
      split at h
      · cases h
      · have hbroker := s.proceed_broker worker s.broker (s.queue.start now call)
        rw [Option.some.inj h] at hbroker
        rw [show s'.broker = s.broker from hbroker]
        exact .keep rfl rfl
  | sent worker partition =>
      obtain ⟨call, broker, step, hcall, hon, hbroker⟩ := exists_of_answer h
      rw [hbroker]
      cases call with
      | sending ref record retried =>
          cases hon
          refine .append _ _ _ _ fun id hid ↦ ?_
          rw [sends, hcall] at hid
          cases retried with
          | false => exact Option.some.inj hid
          | true => cases hid
      | publishing id result =>
          cases hon
          exact .keep rfl (by rw [sends, hcall])
      | burying id ref letter =>
          obtain ⟨task, -, htask⟩ := Option.map_eq_some_iff.mp hon
          cases htask
          exact .keep rfl (by rw [sends, hcall])
      | polling | skipping | completing | failing => cases hon
  | polled worker source =>
      obtain ⟨call, broker, step, hcall, hon, hbroker⟩ := exists_of_answer h
      rw [hbroker]
      cases call with
      | polling tenantId =>
          cases source with
          | none =>
              cases hon
              exact .keep rfl rfl
          | some tp =>
              obtain ⟨⟨record, tasks⟩, hpoll, hstep⟩ := Option.map_eq_some_iff.mp hon
              cases hstep
              exact .read _ _ _ hpoll
      | sending | skipping | completing | publishing | failing | burying => cases hon
  | committed worker =>
      obtain ⟨call, broker, step, hcall, hon, hbroker⟩ := exists_of_answer h
      rw [hbroker]
      cases call with
      | skipping | completing =>
          cases hon
          exact .commit _
      | failing id ref errorCode errorMessage retry =>
          obtain ⟨task, -, htask⟩ := Option.map_eq_some_iff.mp hon
          cases htask
          exact .commit _
      | sending | polling | publishing | burying => cases hon
  | refused worker =>
      obtain ⟨call, hcall, h⟩ := Option.bind_eq_some_iff.mp h
      have hbroker := s.proceed_broker worker s.broker (s.queue, .reply (onRefused call))
      rw [Option.some.inj h] at hbroker
      rw [show s'.broker = s.broker from hbroker]
      exact .keep rfl rfl
  | crash =>
      obtain ⟨rfl, -⟩ := Prod.mk.inj (Option.some.inj h)
      exact .restart

/-- A message that is stored can be obtained. -/
theorem obtainable_of_sends (h : s.fire now e = some (s', reply)) (hsends : s.sends e = some id) :
    s'.Obtainable id := by
  obtain ⟨tasks, htasks⟩ : ∃ tasks, s'.broker.tasks = tasks := ⟨_, rfl⟩
  have hmove := fire_log h
  rw [Obtainable]
  rw [htasks] at hmove ⊢
  cases hmove with
  | keep _ hnone => cases hnone.symm.trans hsends
  | append worker partition tp record hid =>
      exact ⟨tp, record, GroupLog.mem_retained_append.mpr (.inr ⟨rfl, rfl⟩), hid id hsends⟩
  | read | commit | restart => cases hsends

/-- Nothing but a commit loses a message. -/
theorem Obtainable.fire (hid : s.Obtainable id) (h : s.fire now e = some (s', reply))
    (hcommit : e.isCommit = false) : s'.Obtainable id := by
  obtain ⟨tasks, htasks⟩ : ∃ tasks, s'.broker.tasks = tasks := ⟨_, rfl⟩
  obtain ⟨tp, record, hmem, hid⟩ := hid
  refine ⟨tp, record, ?_, hid⟩
  have hmove := fire_log h
  rw [htasks] at hmove ⊢
  cases hmove with
  | keep => exact hmem
  | append worker partition tp' record' =>
      exact GroupLog.mem_retained_append.mpr (.inl hmem)
  | read worker tp' record' hpoll =>
      obtain ⟨-, -, hretained⟩ := GroupLog.poll_eq_some hpoll
      rw [hretained]
      exact hmem
  | commit => cases hcommit
  | restart => exact hmem

/-- After a commit, a task can be obtained when a message of it was still to be read. -/
theorem obtainable_of_commit (h : s.fire now e = some (s', reply)) (hcommit : e.isCommit = true) :
    s'.Obtainable id ↔
      ∃ tp, ∃ record ∈ s.broker.tasks.unread tp, record.task.taskId = id := by
  obtain ⟨tasks, htasks⟩ : ∃ tasks, s'.broker.tasks = tasks := ⟨_, rfl⟩
  have hmove := fire_log h
  rw [Obtainable]
  rw [htasks] at hmove ⊢
  cases hmove with
  | commit => exact Iff.rfl
  | keep hkeep => cases hkeep.symm.trans hcommit
  | append | read | restart => cases hcommit

/-- A commit settles nothing that it also sends. -/
theorem sends_of_isCommit (hcommit : e.isCommit = true) : s.sends e = none := by
  cases e with
  | committed worker => rfl
  | call | sent | polled | refused | crash => cases hcommit

/-- The step of the invariant: from a state where nothing is lost, exactly the commits
made while another task is held lose something. -/
theorem nothingLost_step {x y : KafkaSystem × Finset UUID} {a : Time × KafkaEvent}
    (hx : NothingLost x) (h : Step.Noting note Steps x a y) : CommitsAlone x a ↔ NothingLost y := by
  obtain ⟨⟨s', reply⟩, hfire, hs'⟩ := Option.map_eq_some_iff.mp h.1
  obtain ⟨s, unsettled⟩ := x
  obtain ⟨t, unsettled'⟩ := y
  obtain ⟨now, e⟩ := a
  obtain rfl : s' = t := hs'
  obtain rfl : unsettled' = s.note (now, e) unsettled := h.2
  cases hcommit : e.isCommit with
  | false =>
      refine ⟨fun _ id hid ↦ ?_, fun _ hyes ↦ absurd (hcommit.symm.trans hyes) (by decide)⟩
      rcases mem_note.mp hid with ⟨hold, -⟩ | hsends
      · exact (hx id hold).fire hfire hcommit
      · exact obtainable_of_sends hfire hsends
  | true =>
      constructor
      · intro halone id hid
        rcases mem_note.mp hid with ⟨hold, hsettles⟩ | hsends
        · by_contra hlost
          refine hsettles (halone hcommit id ⟨hold, fun tp record hmem hrecord ↦ hlost ?_⟩)
          exact (obtainable_of_commit hfire hcommit).mpr ⟨tp, record, hmem, hrecord⟩
        · rw [sends_of_isCommit hcommit] at hsends
          cases hsends
      · intro hkept _ id ⟨hold, hread⟩
        by_contra hsettles
        obtain ⟨tp, record, hmem, hrecord⟩ := (obtainable_of_commit hfire hcommit).mp
          (hkept id (mem_note.mpr (.inl ⟨hold, hsettles⟩)))
        exact hread tp record hmem hrecord

/-! ## Runs -/

/-- In a run from the start of a process, every unsettled task can be obtained at every
moment exactly when no commit is made while another task is held. -/
theorem at_least_once_iff (broker : KafkaBroker) (topicPrefix : String)
    (retryBaseDelay retryMaxDelay : ℚ) (as : List (Time × KafkaEvent))
    (x : KafkaSystem × Finset UUID) :
    Run (Step.Only CommitsAlone (Step.Noting note Steps))
        (new broker topicPrefix retryBaseDelay retryMaxDelay, ∅) as x ↔
      Run (Step.Noting note Steps)
          (new broker topicPrefix retryBaseDelay retryMaxDelay, ∅) as x ∧
        ∀ bs y, bs <+: as → Run (Step.Noting note Steps)
          (new broker topicPrefix retryBaseDelay retryMaxDelay, ∅) bs y → NothingLost y := by
  refine Run.only_iff (I := fun _ ↦ True) (fun s a t t' ht ht' ↦ ?_) (fun s a t _ _ ↦ trivial)
    (fun s a t _ hs ht ↦ nothingLost_step hs ht) trivial ?_
  · exact Prod.ext (Option.some.inj (ht.1.symm.trans ht'.1)) (ht.2.trans ht'.2.symm)
  · intro id hid
    cases hid

def sampleTask (n : Fin (2 ^ 128)) : TaskPayload where
  taskId := ⟨n⟩
  tenantId := "acme"
  createdAt := 0

def sampleResult (n : Fin (2 ^ 128)) : TaskResult where
  taskId := ⟨n⟩
  status := .completed
  processedAt := 3

def samplePartition : TopicPartition := ⟨"lip.tasks.normal", 0⟩

/-- Task 1 is claimed, the process dies, and the next one claims and completes the task. -/
def sampleRedelivery : List (Time × KafkaEvent) :=
  [(0, .call 0 (.enqueue (sampleTask 1) 0)), (0, .sent 0 0),
    (1, .call 0 (.dequeue none)), (1, .polled 0 (some samplePartition)), (1, .crash),
    (2, .call 0 (.dequeue none)), (2, .polled 0 (some samplePartition)),
    (3, .call 0 (.complete ⟨1⟩ (sampleResult 1))), (3, .committed 0)]

/-- The process of the samples, before its first call. -/
def sampleStart : KafkaSystem × Finset UUID := (new {} "lip" 1 60, ∅)

theorem at_least_once_sample : ∃ x, Run (Step.Noting note Steps) sampleStart sampleRedelivery x ∧
    ∀ bs y, bs <+: sampleRedelivery → Run (Step.Noting note Steps) sampleStart bs y →
      NothingLost y := by
  let alone (x : KafkaSystem × Finset UUID) (a : Time × KafkaEvent) :
      Option (KafkaSystem × Finset UUID) :=
    if a.2.isCommit = true → ∀ id ∈ x.2, x.1.settles a.1 a.2 = some id then
      noted note (fun s a ↦ (s.fire a.1 a.2).map Prod.fst) x a
    else none
  have hplay : (sampleRedelivery.foldlM alone sampleStart).isSome = true := by decide +kernel
  obtain ⟨x, hx⟩ := Option.isSome_iff_exists.mp hplay
  refine ⟨x, (at_least_once_iff {} "lip" 1 60 sampleRedelivery x).mp ?_⟩
  refine (Run.graph_iff.mpr hx).mono fun y a z hstep ↦ ?_
  obtain ⟨halone, hstep⟩ := Option.ite_none_right_eq_some.mp hstep
  rw [Step.noting_graph]
  exact ⟨fun hcommit id hheld ↦ halone hcommit id hheld.1, hstep⟩

/-- Task 1 is enqueued with a delay and task 2 without; task 1 is polled and skipped, task 2
is claimed and completed. -/
def sampleSkip : List (Time × KafkaEvent) :=
  [(0, .call 0 (.enqueue (sampleTask 1) 10)), (0, .sent 0 0),
    (0, .call 0 (.enqueue (sampleTask 2) 0)), (0, .sent 0 0),
    (1, .call 0 (.dequeue none)), (1, .polled 0 (some samplePartition)),
    (2, .call 0 (.dequeue none)), (2, .polled 0 (some samplePartition)),
    (3, .call 0 (.complete ⟨2⟩ (sampleResult 2))), (3, .committed 0)]

/-- The task topics before the commit: both records are read. -/
def sampleTopics : GroupLog TopicPartition KafkaRecord :=
  let first := KafkaTaskQueue.recordOf 0 (sampleTask 1) 10
  let second := KafkaTaskQueue.recordOf 0 (sampleTask 2) 0
  .skip samplePartition 2
    ((GroupLog.empty.append samplePartition first).append samplePartition second)

theorem unread_sampleTopics (tp : TopicPartition) : sampleTopics.unread tp = [] := by
  by_cases h : tp = samplePartition
  · subst h
    with_unfolding_all rfl
  · rw [sampleTopics, GroupLog.unread_skip_of_ne 2 h, GroupLog.unread_append, if_neg h,
      GroupLog.unread_append, if_neg h, GroupLog.unread_empty]

/-- The commit of task 2 covers task 1, which nobody has handled. -/
theorem skipped_task_lost : ¬ ∀ as x, Run (Step.Noting note Steps) sampleStart as x →
    NothingLost x := by
  intro h
  have hplay : (sampleSkip.foldlM (noted note fun s a ↦ (s.fire a.1 a.2).map Prod.fst)
      sampleStart).map (fun x ↦ (x.1.broker.tasks, x.2)) = some (sampleTopics.commit, {⟨1⟩}) := by
    with_unfolding_all rfl
  obtain ⟨x, hx, htopics⟩ := Option.map_eq_some_iff.mp hplay
  obtain ⟨hlog, hopen⟩ := Prod.mk.inj htopics
  have hrun : Run (Step.Noting note Steps) sampleStart sampleSkip x := by
    rw [Step.noting_graph]
    exact Run.graph_iff.mpr hx
  obtain ⟨tp, record, hmem, -⟩ := h _ x hrun ⟨1⟩ (hopen ▸ Finset.mem_singleton_self _)
  rw [hlog, GroupLog.retained_commit, unread_sampleTopics] at hmem
  cases hmem

end KafkaSystem

end SemanticBus
