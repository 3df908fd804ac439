import SemanticBus.Queue.CancelLaw

/-!
# The dead letter queues

`fail` gives a task up when it may not or cannot be retried, and then the task belongs in
the dead letter queue, once; a task that was completed or put back does not (`Buried`).

On Kafka this is so as long as only claimed tasks are failed: `_tasks` also tracks the
tasks that wait, and the record of one that is failed meanwhile is still to be read.
On RabbitMQ `fail` acknowledges the message of a task that it gives up, so no dead letter
queue ever gets it; what holds there is that only messages that expire get there.
-/

universe u v

namespace SemanticBus

/-- How a task was acknowledged last. -/
inductive Ending where
  | completed
  | requeued
  | givenUp
deriving DecidableEq

/-- How often a task with an ending is in the dead letter queue. -/
def Ending.letters : Ending → Nat
  | .givenUp => 1
  | .completed | .requeued => 0

abbrev Endings := UUID → Option Ending

/-- The endings after an operation. -/
def Endings.after (endings : Endings) (retries : UUID → Bool) :
    QueueOp → QueueOutcome → Endings
  | .complete id _, .done true => Function.update endings id (some .completed)
  | .fail id _ _ retry, .done true =>
      Function.update endings id (some (if retry && retries id then .requeued else .givenUp))
  | _, _ => endings

/-- A task is in the dead letter queue once if it was given up, and not at all if it was
completed or put back. -/
def Buried {σ : Type u} (letters : σ → List UUID) (x : (σ × CancelNotes) × Endings) : Prop :=
  ∀ id ending, x.2 id = some ending → (letters x.1.1).count id = ending.letters

namespace TaskQueueBackend

variable {ε : Type v} {σ : Type u} (B : TaskQueueBackend ε σ)

/-- Calls of workers on distinct tasks, one after the other, with the endings of the tasks. -/
def Deliveries : Step ((σ × CancelNotes) × Endings) (ε × QueueOp) :=
  Step.Only (fun _ a ↦ ∃ call : WorkerCall, call.op = a.2)
    (Step.Noting (fun x a endings ↦
      endings.after (B.retries a.1 x.1) a.2 (B.answer x.1 a).1) B.Ops)

/-- The tasks of a run are buried if its calls meet a condition. -/
def BuriesWhen (letters : σ → List UUID)
    (Good : (σ × CancelNotes) × Endings → ε × QueueOp → Prop) (s : σ) : Prop :=
  ∀ as x, Run (Step.Only Good B.Deliveries) ((s, {}), fun _ ↦ none) as x → Buried letters x

variable {B} {letters : σ → List UUID} {Good : (σ × CancelNotes) × Endings → ε × QueueOp → Prop}

def deliver (B : TaskQueueBackend ε σ) (x : (σ × CancelNotes) × Endings) (a : ε × QueueOp) :
    (σ × CancelNotes) × Endings :=
  (((B.answer x.1.1 a).2, B.note x.1 a),
    x.2.after (B.retries a.1 x.1.1) a.2 (B.answer x.1.1 a).1)

theorem deliveries_deliver {x : (σ × CancelNotes) × Endings} {env : ε} (call : WorkerCall)
    (hfresh : Fresh x.1 call.op) :
    B.Deliveries x (env, call.op) (B.deliver x (env, call.op)) :=
  ⟨⟨call, rfl⟩, ⟨hfresh, rfl⟩, rfl⟩

/-- An invariant of good calls. -/
theorem buriesWhen_of_inv {I : (σ × CancelNotes) × Endings → Prop} {s : σ}
    (hinit : I ((s, {}), fun _ ↦ none)) (hburied : ∀ x, I x → Buried letters x)
    (hstep : ∀ s notes endings env (call : WorkerCall) outcome s', I ((s, notes), endings) →
      Good ((s, notes), endings) (env, call.op) → Fresh (s, notes) call.op →
      B.exec env call.op (B.elapse env s) = (outcome, s') →
      I ((s', notes.after (B.retries env s) call.op outcome),
        endings.after (B.retries env s) call.op outcome)) :
    B.BuriesWhen letters Good s := by
  intro as x h
  refine hburied x (h.invariant ?_ hinit)
  rintro ⟨⟨s, notes⟩, endings⟩ ⟨env, op⟩ ⟨⟨s', notes'⟩, endings'⟩ hI
    ⟨hgood, ⟨call, hcall⟩, ⟨hfresh, hafter⟩, hendings⟩
  have hcall : call.op = op := hcall
  subst hcall
  obtain ⟨hs', hnotes'⟩ := Prod.mk.inj hafter
  have hendings : endings' = _ := hendings
  rw [hs', hnotes', hendings]
  exact hstep s notes endings env call _ _ hI hgood hfresh rfl

end TaskQueueBackend

/-! ## Kafka -/

namespace KafkaSystem

def letters (x : KafkaBroker × KafkaTaskQueue) : List UUID := x.1.dlq.map (·.task.taskId)

/-- Only a task that a worker has is failed. -/
def FailsClaimed (x : ((KafkaBroker × KafkaTaskQueue) × CancelNotes) × Endings)
    (a : (Time × List KafkaAnswer) × QueueOp) : Prop :=
  match a.2 with
  | .fail id _ _ _ => x.1.2.phase id = .claimed
  | _ => True

/-- Of every task at most one record is to be read. -/
structure Single (tasks : GroupLog TopicPartition KafkaRecord) : Prop where
  nodup : ∀ tp, ((tasks.unread tp).map fun record ↦ record.task.taskId).Nodup
  apart : ∀ tp tp', ∀ record ∈ tasks.unread tp, ∀ record' ∈ tasks.unread tp',
    record.task.taskId = record'.task.taskId → tp = tp'

variable {tasks tasks' : GroupLog TopicPartition KafkaRecord} {record : KafkaRecord}
  {tp : TopicPartition}

theorem Single.of_unread (h : Single tasks) (hunread : ∀ tp, tasks'.unread tp = tasks.unread tp) :
    Single tasks' := by
  constructor
  · intro tp
    rw [hunread]
    exact h.nodup tp
  · intro tp tp'
    rw [hunread, hunread]
    exact h.apart tp tp'

/-- After a record is read there is no other one of its task. -/
theorem Single.poll (h : Single tasks) (hpoll : tasks.poll tp = some (record, tasks')) :
    Single tasks' ∧ ∀ tp', ∀ record' ∈ tasks'.unread tp',
      record' ∈ tasks.unread tp' ∧ record'.task.taskId ≠ record.task.taskId := by
  obtain ⟨hhead, hothers, -⟩ := GroupLog.poll_eq_some hpoll
  have hnodup := h.nodup tp
  rw [hhead, List.map_cons, List.nodup_cons] at hnodup
  have hmem : record ∈ tasks.unread tp := hhead ▸ List.mem_cons_self
  have hsub : ∀ tp', ∀ record' ∈ tasks'.unread tp', record' ∈ tasks.unread tp' := by
    intro tp' record' hr
    by_cases htp : tp' = tp
    · rw [htp] at hr ⊢
      rw [hhead]
      exact List.mem_cons_of_mem _ hr
    · exact hothers tp' htp ▸ hr
  refine ⟨⟨fun tp' ↦ ?_, fun tp₁ tp₂ r₁ hr₁ r₂ hr₂ ↦ ?_⟩, fun tp' record' hr ↦ ⟨hsub tp' record' hr, ?_⟩⟩
  · by_cases htp : tp' = tp
    · rw [htp]
      exact hnodup.2
    · rw [hothers tp' htp]
      exact h.nodup tp'
  · exact h.apart tp₁ tp₂ r₁ (hsub tp₁ r₁ hr₁) r₂ (hsub tp₂ r₂ hr₂)
  · intro hid
    have htp := h.apart tp' tp record' (hsub tp' record' hr) record hmem hid
    rw [htp] at hr
    exact hnodup.1 (List.mem_map.mpr ⟨record', hr, hid⟩)

/-- A record of a task that has none. -/
theorem Single.append (h : Single tasks)
    (hnew : ∀ tp', ∀ record' ∈ tasks.unread tp', record'.task.taskId ≠ record.task.taskId) :
    Single (tasks.append tp record) := by
  have hmem : ∀ tp' record', record' ∈ (tasks.append tp record).unread tp' →
      record' ∈ tasks.unread tp' ∨ tp' = tp ∧ record' = record := by
    intro tp' record' hr
    rw [GroupLog.unread_append] at hr
    split at hr
    · rename_i htp
      exact (List.mem_append.mp hr).imp_right fun hr ↦ ⟨htp, List.mem_singleton.mp hr⟩
    · exact .inl hr
  constructor
  · intro tp'
    rw [GroupLog.unread_append]
    split
    · rw [List.map_append, List.map_singleton, ← List.concat_eq_append]
      refine List.Nodup.concat ?_ (h.nodup tp')
      intro hin
      obtain ⟨record', hr, hid⟩ := List.mem_map.mp hin
      exact hnew tp' record' hr hid
    · exact h.nodup tp'
  · intro tp₁ tp₂ r₁ hr₁ r₂ hr₂ hid
    rcases hmem tp₁ r₁ hr₁ with hold₁ | ⟨rfl, rfl⟩
    · rcases hmem tp₂ r₂ hr₂ with hold₂ | ⟨rfl, rfl⟩
      · exact h.apart tp₁ tp₂ r₁ hold₁ r₂ hold₂ hid
      · exact absurd hid (hnew tp₁ r₁ hold₁)
    · rcases hmem tp₂ r₂ hr₂ with hold₂ | ⟨rfl, -⟩
      · exact absurd hid.symm (hnew tp₂ r₂ hold₂)
      · rfl

/-- A task with a record to be read is with no worker and was not given up, one that was given up
is not tracked, and a task is in the dead letter topic as often as its ending says. -/
structure BuryInv (x : ((KafkaBroker × KafkaTaskQueue) × CancelNotes) × Endings) : Prop where
  objects : ObjectsKnown x.1.1.2
  single : Single x.1.1.1.tasks
  unread : ∀ tp, ∀ record ∈ x.1.1.1.tasks.unread tp,
    (x.1.2.phase record.task.taskId = .waiting ∨ x.1.2.phase record.task.taskId = .resolved) ∧
      x.2 record.task.taskId ≠ some .givenUp
  given : ∀ id, x.2 id = some .givenUp →
    x.1.2.phase id = .resolved ∧ x.1.1.2.tasks.get? id = none
  counted : ∀ id, (letters x.1.1).count id = if x.2 id = some .givenUp then 1 else 0

variable {broker broker' : KafkaBroker} {q q' : KafkaTaskQueue} {notes : CancelNotes}
  {endings : Endings} {now : Time} {answers : List KafkaAnswer} {id : UUID} {ref : Nat}

/-- A task that is new or with a worker has no record to be read. -/
theorem BuryInv.notUnread (h : BuryInv (((broker, q), notes), endings))
    (hphase : notes.phase id = .absent ∨ notes.phase id = .claimed) :
    ∀ tp, ∀ record ∈ broker.tasks.unread tp, record.task.taskId ≠ id := by
  rintro tp record hr rfl
  rcases (h.unread tp record hr).1 with hwaiting | hresolved
  · have hwaiting : notes.phase record.task.taskId = .waiting := hwaiting
    rw [hwaiting] at hphase
    rcases hphase with hphase | hphase <;> cases hphase
  · have hresolved : notes.phase record.task.taskId = .resolved := hresolved
    rw [hresolved] at hphase
    rcases hphase with hphase | hphase <;> cases hphase

theorem BuryInv.notGiven (h : BuryInv (((broker, q), notes), endings))
    (hphase : notes.phase id = .absent ∨ notes.phase id = .claimed) :
    endings id ≠ some .givenUp := by
  intro hgiven
  have hresolved : notes.phase id = .resolved := (h.given id hgiven).1
  rw [hresolved] at hphase
  rcases hphase with hphase | hphase <;> cases hphase

/-- A task that was not given up has no letter. -/
theorem BuryInv.count_eq_zero (h : BuryInv (((broker, q), notes), endings))
    (hnot : endings id ≠ some .givenUp) : (letters (broker, q)).count id = 0 :=
  (h.counted id).trans (if_neg hnot)

theorem BuryInv.untracked (h : BuryInv (((broker, q), notes), endings))
    (hless : Less (broker, q) (broker', q')) (hgiven : endings id = some .givenUp) :
    q'.tasks.get? id = none := by
  rw [Option.eq_none_iff_forall_ne_some]
  intro ref hget
  cases (hless.tracked id ref hget).symm.trans (h.given id hgiven).2

/-- Less is tracked and to be read, and there are no more letters. -/
theorem BuryInv.less (h : BuryInv (((broker, q), notes), endings))
    (hless : Less (broker, q) (broker', q')) (hsingle : Single broker'.tasks)
    (hdlq : broker'.dlq = broker.dlq) : BuryInv (((broker', q'), notes), endings) where
  objects := hless.objectsKnown h.objects
  single := hsingle
  unread tp record hr := h.unread tp record (hless.unread tp record hr)
  given j hj := ⟨(h.given j hj).1, h.untracked hless hj⟩
  counted j := by
    rw [letters, hdlq]
    exact h.counted j

theorem BuryInv.quiet (h : BuryInv (((broker, q), notes), endings)) (hquiet : Quiet broker broker')
    (hless : Less (broker, q) (broker', q')) : BuryInv (((broker', q'), notes), endings) :=
  h.less hless (h.single.of_unread hquiet.unread) hquiet.dlq

/-- A record of a task that has none, of a task that waits from now on. -/
theorem BuryInv.waits {task : TaskPayload} {endings' : Endings}
    (h : BuryInv (((broker, q), notes), endings)) (hrecord : record.task.taskId = id)
    (hobject : q.objects[ref]? = some task) (hid : task.taskId = id)
    (hphase : notes.phase id = .absent ∨ notes.phase id = .claimed)
    (hended : endings' id ≠ some .givenUp) (hothers : ∀ j, j ≠ id → endings' j = endings j) :
    BuryInv ((({ broker with tasks := broker.tasks.append tp record }, q.sent ref record),
      notes.reach id .waiting), endings') := by
  have hnew := h.notUnread hphase
  have hletters := h.count_eq_zero (h.notGiven hphase)
  refine ⟨objectsKnown_sent h.objects hobject (hid.trans hrecord.symm),
    h.single.append (hrecord ▸ hnew), fun tp' record' hr ↦ ?_, fun j hj ↦ ?_, fun j ↦ ?_⟩
  · have hr : record' ∈ (broker.tasks.append tp record).unread tp' := hr
    show ((notes.reach id .waiting).phase record'.task.taskId = .waiting ∨
      (notes.reach id .waiting).phase record'.task.taskId = .resolved) ∧
        endings' record'.task.taskId ≠ some .givenUp
    by_cases hsame : record'.task.taskId = id
    · rw [hsame, CancelNotes.phase_reach_self]
      exact ⟨.inl rfl, hended⟩
    · rw [CancelNotes.phase_reach_of_ne hsame, hothers _ hsame]
      rw [GroupLog.unread_append] at hr
      split at hr
      · rcases List.mem_append.mp hr with hr | hr
        · exact h.unread tp' record' hr
        · rw [List.mem_singleton.mp hr] at hsame
          exact absurd hrecord hsame
      · exact h.unread tp' record' hr
  · have hj : endings' j = some .givenUp := hj
    have hsame : j ≠ id := by
      rintro rfl
      exact hended hj
    rw [hothers j hsame] at hj
    show (notes.reach id .waiting).phase j = .resolved ∧ (q.sent ref record).tasks.get? j = none
    rw [CancelNotes.phase_reach_of_ne hsame, get?_sent, if_neg (hrecord ▸ hsame)]
    exact h.given j hj
  · show (letters (broker, q)).count j = if endings' j = some .givenUp then 1 else 0
    by_cases hsame : j = id
    · rw [hsame, hletters, if_neg hended]
    · rw [hothers j hsame]
      exact h.counted j

/-- A task is completed or given up, and no longer tracked. -/
theorem BuryInv.resolve {ending : Ending} (h : BuryInv (((broker, q), notes), endings))
    (hless : Less (broker, q) (broker', q')) (hsingle : Single broker'.tasks)
    (hgone : q'.tasks.get? id = none) (hne : ending ≠ .requeued)
    (hunread : ending = .givenUp → ∀ tp, ∀ record ∈ broker.tasks.unread tp, record.task.taskId ≠ id)
    (hletters : ∀ j, (letters (broker', q')).count j = if j = id then ending.letters
      else (letters (broker, q)).count j) :
    BuryInv (((broker', q'), notes.reach id .resolved),
      Function.update endings id (some ending)) := by
  refine ⟨hless.objectsKnown h.objects, hsingle, fun tp record hr ↦ ?_, fun j hj ↦ ?_, fun j ↦ ?_⟩
  · have hr := hless.unread tp record hr
    show ((notes.reach id .resolved).phase record.task.taskId = .waiting ∨
      (notes.reach id .resolved).phase record.task.taskId = .resolved) ∧
        Function.update endings id (some ending) record.task.taskId ≠ some .givenUp
    by_cases hsame : record.task.taskId = id
    · rw [hsame, CancelNotes.phase_reach_self, Function.update_self]
      refine ⟨.inr rfl, fun hgiven ↦ ?_⟩
      exact hunread (Option.some.inj hgiven) tp record hr hsame
    · rw [CancelNotes.phase_reach_of_ne hsame, Function.update_of_ne hsame]
      exact h.unread tp record hr
  · have hj : Function.update endings id (some ending) j = some .givenUp := hj
    show (notes.reach id .resolved).phase j = .resolved ∧ q'.tasks.get? j = none
    by_cases hsame : j = id
    · rw [hsame, CancelNotes.phase_reach_self]
      exact ⟨rfl, hgone⟩
    · rw [Function.update_of_ne hsame] at hj
      rw [CancelNotes.phase_reach_of_ne hsame]
      exact ⟨(h.given j hj).1, h.untracked hless hj⟩
  · show (letters (broker', q')).count j
      = if Function.update endings id (some ending) j = some .givenUp then 1 else 0
    rw [hletters]
    by_cases hsame : j = id
    · rw [if_pos hsame, hsame, Function.update_self]
      cases ending with
      | completed => rfl
      | requeued => exact absurd rfl hne
      | givenUp => rfl
    · rw [if_neg hsame, Function.update_of_ne hsame]
      exact h.counted j

/-- A worker gets a task whose record is read. -/
theorem BuryInv.claim {tasks : GroupLog TopicPartition KafkaRecord} (offset : Nat)
    (h : BuryInv (((broker, q), notes), endings))
    (hpoll : broker.tasks.poll tp = some (record, tasks)) :
    BuryInv ((({ broker with tasks := tasks }, (q.claim tp offset record.task).1),
      notes.reach record.task.taskId .claimed), endings) := by
  obtain ⟨hsingle, hsub⟩ := h.single.poll hpoll
  have hnot : endings record.task.taskId ≠ some .givenUp := by
    refine (h.unread tp record ?_).2
    show record ∈ broker.tasks.unread tp
    rw [(GroupLog.poll_eq_some hpoll).1]
    exact List.mem_cons_self
  refine ⟨objectsKnown_claim h.objects tp offset record.task, hsingle, fun tp' record' hr ↦ ?_,
    fun j hj ↦ ?_, h.counted⟩
  · obtain ⟨hold, hother⟩ := hsub tp' record' hr
    show ((notes.reach record.task.taskId .claimed).phase record'.task.taskId = .waiting ∨ _) ∧ _
    rw [CancelNotes.phase_reach_of_ne hother]
    exact h.unread tp' record' hold
  · have hsame : j ≠ record.task.taskId := by
      rintro rfl
      exact hnot hj
    show (notes.reach record.task.taskId .claimed).phase j = .resolved ∧
      (q.claim tp offset record.task).1.tasks.get? j = none
    rw [CancelNotes.phase_reach_of_ne hsame, get?_claim, if_neg hsame]
    exact h.given j hj

/-- Every call keeps the invariant, if it fails a claimed task only. -/
theorem BuryInv.served {call : WorkerCall} {outcome : QueueOutcome}
    (h : BuryInv (((broker, q), notes), endings))
    (hfresh : TaskQueueBackend.Fresh ((broker, q), notes) call.op)
    (hfails : FailsClaimed (((broker, q), notes), endings) ((now, answers), call.op))
    (hserved : Served now broker q call outcome broker' q') :
    BuryInv (((broker', q'), notes.after (backend.retries (now, answers) (broker, q)) call.op outcome),
      endings.after (backend.retries (now, answers) (broker, q)) call.op outcome) := by
  cases hserved with
  | refused task delaySeconds => exact h.quiet ⟨fun _ ↦ rfl, rfl⟩ (Less.object task)
  | sent task delaySeconds tp =>
      have hphase : notes.phase task.taskId = .absent := hfresh
      have hobject : (q.objects ++ [task])[q.objects.length]? = some task :=
        List.getElem?_concat_length
      have h' := h.quiet ⟨fun _ ↦ rfl, rfl⟩ (Less.object task)
      exact h'.waits rfl hobject rfl (.inl hphase) (h.notGiven (.inl hphase)) (fun _ _ ↦ rfl)
  | empty tenantId => exact h
  | passed hpoll => exact h.less (Less.polled hpoll) (h.single.poll hpoll).1 rfl
  | expired hpoll hexpired hquiet =>
      rename_i tenantId tp record tasks
      have h' : BuryInv ((({ broker with tasks := tasks }, q), notes), endings) :=
        h.less (Less.polled hpoll) (h.single.poll hpoll).1 rfl
      exact h'.quiet hquiet ((Less.quiet hquiet).trans (Less.markExpired q now _))
  | claimed offset hopen hpoll => exact h.claim offset hpoll
  | unknown hget hcall =>
      rcases hcall with ⟨result, rfl⟩ | ⟨errorCode, errorMessage, retry, rfl⟩
      · exact h
      · exact h
  | unpublished results hquiet =>
      exact h.quiet hquiet ((Less.quiet hquiet).trans (Less.results q _))
  | completed hget hquiet =>
      rename_i id result ref
      have hnot : endings id ≠ some .givenUp := by
        intro hgiven
        cases hget.symm.trans (h.given id hgiven).2
      refine h.resolve (Less.settle hquiet (q.results.insert id result) id)
        (h.single.of_unread hquiet.unread) (Dict.get?_erase_self _ _) nofun
        (fun hgiven ↦ by cases hgiven) (fun j ↦ ?_)
      rw [letters, hquiet.dlq]
      split
      · rename_i hj
        rw [hj]
        exact h.count_eq_zero hnot
      · rfl
  | unburied hquiet => exact h.quiet hquiet (Less.quiet hquiet)
  | dropped hget htask hretry hcan hquiet => exact h.quiet hquiet (Less.drop hquiet htask _)
  | requeued delay tp hget htask hretry hcan hquiet =>
      rename_i id errorCode errorMessage retry ref task broker'
      have hclaimed : notes.phase id = .claimed := hfails
      obtain ⟨task', htask', hid⟩ := h.objects id ref hget
      obtain rfl := Option.some.inj (htask.symm.trans htask')
      have hafter : (retry && backend.retries (now, answers) (broker, q) id) = true := by
        rw [retries_eq hget htask, hretry, hcan]
        rfl
      have h' := h.quiet hquiet (Less.drop hquiet htask id)
      show BuryInv ((_, notes.reach id (if (retry && _) = true then _ else _)),
        Function.update endings id (some (if (retry && _) = true then _ else _)))
      rw [if_pos hafter, if_pos hafter]
      refine h'.waits hid (List.getElem?_set_self (List.getElem?_eq_some_iff.mp htask).1) hid
        (.inr hclaimed) ?_ (fun j hj ↦ Function.update_of_ne hj _ _)
      rw [Function.update_self]
      exact fun hgiven ↦ by cases hgiven
  | buried result hget htask hgiven hquiet =>
      rename_i id errorCode errorMessage retry ref task broker'
      have hclaimed : notes.phase id = .claimed := hfails
      obtain ⟨task', htask', hid⟩ := h.objects id ref hget
      obtain rfl := Option.some.inj (htask.symm.trans htask')
      have hafter : ¬ (retry && backend.retries (now, answers) (broker, q) id) = true := by
        rw [retries_eq hget htask, Bool.and_eq_true]
        exact hgiven
      have hless : Less (broker, q) (broker', _) := Less.settle hquiet (q.results.insert id result) id
      show BuryInv ((_, notes.reach id (if (retry && _) = true then _ else _)),
        Function.update endings id (some (if (retry && _) = true then _ else _)))
      rw [if_neg hafter, if_neg hafter]
      refine h.resolve ⟨hless.unread, hless.tracked, hless.objects, hless.closed⟩
        (h.single.of_unread hquiet.unread) (Dict.get?_erase_self _ _) nofun
        (fun _ ↦ h.notUnread (.inr hclaimed)) (fun j ↦ ?_)
      rw [letters, hquiet.dlq, List.map_append, List.count_append]
      show (letters (broker, q)).count j + [task.taskId].count j = _
      rw [hid, List.count_singleton]
      by_cases hj : j = id
      · rw [if_pos hj, hj, h.count_eq_zero (h.notGiven (.inr hclaimed)),
          if_pos (beq_self_eq_true id)]
        rfl
      · rw [if_neg hj, beq_false_of_ne (Ne.symm hj), if_neg Bool.false_ne_true, Nat.add_zero]

/-- What is given up is in the dead letter topic once, and what is completed or put back is not,
as long as only claimed tasks are failed. -/
theorem buries_when (topicPrefix : String) (retryBaseDelay retryMaxDelay : ℚ) :
    backend.BuriesWhen letters FailsClaimed
      ({}, KafkaTaskQueue.new topicPrefix retryBaseDelay retryMaxDelay) := by
  refine TaskQueueBackend.buriesWhen_of_inv (I := BuryInv) ?_ (fun x h id ending hending ↦ ?_) ?_
  · refine ⟨fun _ _ h ↦ ?_, ⟨fun tp ↦ List.nodup_nil, fun _ _ _ h ↦ ?_⟩, fun _ _ h ↦ ?_,
      fun _ h ↦ ?_, fun _ ↦ rfl⟩
    · cases h
    · cases h
    · cases h
    · cases h
  · rw [h.counted id, hending]
    cases ending with
    | completed | requeued | givenUp => rfl
  · rintro ⟨broker, q⟩ notes endings ⟨now, answers⟩ call outcome ⟨broker', q'⟩ h hfails hfresh hexec
    have hserve : serve now answers call (broker, q) = (outcome, broker', q') := by
      cases call with
      | enqueue | dequeue | complete | fail => exact hexec
    have hserved : Served now broker q call (serve now answers call (broker, q)).1
        (serve now answers call (broker, q)).2.1 (serve now answers call (broker, q)).2.2 :=
      served h.objects call
    rw [hserve] at hserved
    exact h.served hfresh hfails hserved

end KafkaSystem

end SemanticBus
