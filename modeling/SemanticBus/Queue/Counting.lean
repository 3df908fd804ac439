import Mathlib.Algebra.BigOperators.Group.Finset.Basic
import Mathlib.Algebra.Order.BigOperators.Group.Finset
import SemanticBus.Queue.KafkaCancelling
import SemanticBus.Queue.RedisCancelling

/-!
# How many tasks there are

`size()` of the Kafka queue is a counter, and `size(t)` the number of tracked tasks of a
tenant.  `size()` of the Redis queue is the length of the streams, and `size(t)` the
number of pending tasks in the index of a tenant.  `Tally` says that the total is the
number of tasks that count, and the sum of what there is for each tenant.

On Kafka a retry is counted once more, so the counter is right as long as nothing is put
back, and no record is handed out of a task that is settled (`counts_when`).  On Redis no
entry ever leaves a stream, and a delayed task is in none, so the total is right as long
as nothing is delayed, claimed or settled.
-/

universe u v

namespace SemanticBus

/-- The total is the number of tasks that count, and the sum over the tenants. -/
structure Tally (Counted : TaskPhase → Prop) (size : Option String → Nat) (notes : CancelNotes)
    (tenants : Finset String) : Prop where
  total : ∃ ids : Finset UUID, (∀ id, id ∈ ids ↔ Counted (notes.phase id)) ∧
    size none = ids.card
  byTenant : size none = ∑ tenantId ∈ tenants, size (some tenantId)

/-- Every task that counts is one of its tenant. -/
theorem Tally.of_owner {Counted : TaskPhase → Prop} {size : Option String → Nat}
    {notes : CancelNotes} {tenants : Finset String} {ids : Finset UUID} (owner : UUID → String)
    (hids : ∀ id, id ∈ ids ↔ Counted (notes.phase id)) (htotal : size none = ids.card)
    (howner : ∀ id ∈ ids, owner id ∈ tenants)
    (hsize : ∀ tenantId ∈ tenants,
      size (some tenantId) = (ids.filter fun id ↦ owner id = tenantId).card) :
    Tally Counted size notes tenants := by
  refine ⟨⟨ids, hids, htotal⟩, ?_⟩
  calc size none = ids.card := htotal
    _ = ∑ tenantId ∈ tenants, (ids.filter fun id ↦ owner id = tenantId).card :=
        Finset.card_eq_sum_card_fiberwise howner
    _ = ∑ tenantId ∈ tenants, size (some tenantId) :=
        Finset.sum_congr rfl fun tenantId hmem ↦ (hsize tenantId hmem).symm

/-- The tenants of the tasks that were enqueued. -/
def tenantsAfter (tenants : Finset String) : QueueOp → QueueOutcome → Finset String
  | .enqueue task _, .accepted => insert task.tenantId tenants
  | _, _ => tenants

/-- A call that leaves no tenant out. -/
def WorkerCall.Unfiltered : WorkerCall → Prop
  | .dequeue tenantId => tenantId = none
  | _ => True

namespace TaskQueueBackend

variable {ε : Type v} {σ : Type u} (B : TaskQueueBackend ε σ)

/-- Calls on distinct tasks without filters, one after the other, while nothing expires. -/
def Unexpired (Alive : ε → σ → Prop) : Step ((σ × CancelNotes) × Finset String) (ε × QueueOp) :=
  Step.Only (fun x a ↦ Alive a.1 x.1.1 ∧ ∃ call : WorkerCall, call.op = a.2 ∧ call.Unfiltered)
    (Step.Noting (fun x a tenants ↦ tenantsAfter tenants a.2 (B.answer x.1 a).1) B.Ops)

/-- The sizes after a run are right if its calls meet a condition. -/
def CountsWhen (size : ε → σ → Option String → Nat) (Alive : ε → σ → Prop)
    (Counted : TaskPhase → Prop)
    (Good : (σ × CancelNotes) × Finset String → ε × QueueOp → Prop) (s : σ) : Prop :=
  ∀ as x, Run (Step.Only Good (B.Unexpired Alive)) ((s, {}), ∅) as x →
    ∀ env, Alive env x.1.1 → Tally Counted (size env x.1.1) x.1.2 x.2

variable {B} {size : ε → σ → Option String → Nat} {Alive : ε → σ → Prop}
  {Counted : TaskPhase → Prop} {Good : (σ × CancelNotes) × Finset String → ε × QueueOp → Prop}

/-- An invariant of good calls. -/
theorem countsWhen_of_inv {I : (σ × CancelNotes) × Finset String → Prop} {s : σ}
    (hinit : I ((s, {}), ∅))
    (htally : ∀ x, I x → ∀ env, Alive env x.1.1 → Tally Counted (size env x.1.1) x.1.2 x.2)
    (hstep : ∀ s notes tenants env (call : WorkerCall) outcome s', I ((s, notes), tenants) →
      Good ((s, notes), tenants) (env, call.op) → Fresh (s, notes) call.op → call.Unfiltered →
      Alive env s → B.exec env call.op (B.elapse env s) = (outcome, s') →
      I ((s', notes.after (B.retries env s) call.op outcome),
        tenantsAfter tenants call.op outcome)) :
    B.CountsWhen size Alive Counted Good s := by
  intro as x h
  refine htally x (h.invariant ?_ hinit)
  rintro ⟨⟨s, notes⟩, tenants⟩ ⟨env, op⟩ ⟨⟨s', notes'⟩, tenants'⟩ hI
    ⟨hgood, ⟨halive, call, hcall, hunfiltered⟩, ⟨hfresh, hafter⟩, htenants⟩
  have hcall : call.op = op := hcall
  subst hcall
  obtain ⟨hs', hnotes'⟩ := Prod.mk.inj hafter
  have htenants : tenants' = _ := htenants
  rw [hs', hnotes', htenants]
  exact hstep s notes tenants env call _ _ hI hgood hfresh hunfiltered halive rfl

def tally (B : TaskQueueBackend ε σ) (x : (σ × CancelNotes) × Finset String) (a : ε × QueueOp) :
    (σ × CancelNotes) × Finset String :=
  (((B.answer x.1.1 a).2, B.note x.1 a), tenantsAfter x.2 a.2 (B.answer x.1.1 a).1)

theorem unexpired_tally {x : (σ × CancelNotes) × Finset String} {env : ε} (call : WorkerCall)
    (hunfiltered : call.Unfiltered) (halive : Alive env x.1.1) (hfresh : Fresh x.1 call.op) :
    B.Unexpired Alive x (env, call.op) (B.tally x (env, call.op)) :=
  ⟨⟨halive, call, rfl, hunfiltered⟩, ⟨hfresh, rfl⟩, rfl⟩

end TaskQueueBackend

/-! ## Kafka -/

def KafkaTaskQueue.size (q : KafkaTaskQueue) (tenantId : Option String) : Nat :=
  match tenantId.filter (· ≠ "") with
  | some tenantId =>
      q.tasks.values.countP fun ref ↦ (q.objects[ref]?).any (·.tenantId = tenantId)
  | none => q.pendingCount

namespace KafkaSystem

/-- A task that is not settled. -/
def Open (phase : TaskPhase) : Prop := phase = .waiting ∨ phase = .claimed

/-- No task that is to be read has expired. -/
def Alive (env : Time × List KafkaAnswer) (x : KafkaBroker × KafkaTaskQueue) : Prop :=
  ∀ tp, ∀ record ∈ x.1.tasks.unread tp, record.task.isExpired env.1 = false

/-- Tasks have tenants, a `dequeue` hands out tracked tasks only, and a `fail` puts none back. -/
def Tracks (x : ((KafkaBroker × KafkaTaskQueue) × CancelNotes) × Finset String)
    (a : (Time × List KafkaAnswer) × QueueOp) : Prop :=
  match a.2 with
  | .enqueue task _ => task.tenantId ≠ ""
  | .dequeue tenantId => ∀ tp record rest, a.1.2.head? = some (.polled (some tp)) →
      x.1.1.1.tasks.unread tp = record :: rest → record.judge a.1.1 tenantId = .ready →
      x.1.1.2.tasks.get? record.task.taskId ≠ none
  | .fail id _ _ retry => ∀ ref task, x.1.1.2.tasks.get? id = some ref →
      x.1.1.2.objects[ref]? = some task → ¬ (retry = true ∧ task.canRetry = true)
  | _ => True

variable {broker broker' : KafkaBroker} {q q' : KafkaTaskQueue} {notes : CancelNotes}
  {tenants : Finset String} {now : Time} {answers : List KafkaAnswer} {id : UUID}

/-- A task that is handed out is the one of the record that the broker answered with. -/
theorem serve_handedOut {tenantId : Option String}
    (h : (serve now answers (.dequeue tenantId) (broker, q)).1 = .handedOut id) :
    ∃ tp record rest, answers.head? = some (.polled (some tp)) ∧
      broker.tasks.unread tp = record :: rest ∧ record.judge now tenantId = .ready ∧
      record.task.taskId = id := by
  rw [serve, KafkaTaskQueue.start] at h
  cases hclosed : q.closed with
  | true =>
      rw [hclosed, if_pos rfl, converse_reply] at h
      cases h
  | false =>
      rw [hclosed, if_neg Bool.false_ne_true] at h
      cases answers with
      | nil => cases h
      | cons answer answers =>
          have h : (converse now (answer :: answers) broker
            (q, .await (.polling tenantId))).1.outcome = .handedOut id := h
          rw [converse] at h
          cases hanswer : answered { broker := broker, queue := q } now (.polling tenantId)
            answer with
          | none =>
              rw [hanswer] at h
              cases h
          | some next =>
              rw [hanswer] at h
              cases answer with
              | sent | committed => cases hanswer
              | polled source =>
                  cases source with
                  | none =>
                      cases hanswer
                      dsimp only at h
                      rw [converse_reply] at h
                      cases h
                  | some tp =>
                      obtain ⟨⟨record, tasks⟩, hpoll, rfl⟩ := Option.map_eq_some_iff.mp hanswer
                      have hpoll : broker.tasks.poll tp = some (record, tasks) := hpoll
                      rw [KafkaTaskQueue.receive] at h
                      cases hjudge : record.judge now tenantId with
                      | notReady | otherTenant =>
                          rw [hjudge] at h
                          dsimp only at h
                          rw [converse_reply] at h
                          cases h
                      | expired =>
                          rw [hjudge] at h
                          cases answers with
                          | nil => cases h
                          | cons answer' answers' =>
                              cases answer' with
                              | sent | polled => cases h
                              | committed =>
                                  cases answers' with
                                  | nil | cons => cases h
                      | ready =>
                          rw [hjudge] at h
                          dsimp only [Prod.map] at h
                          rw [converse_reply] at h
                          exact ⟨tp, record, _, rfl, (GroupLog.poll_eq_some hpoll).1, hjudge,
                            QueueOutcome.handedOut.inj h⟩

/-- The tracked tasks are those that are not settled, the counter is how many they are, and all
tasks have tenants. -/
structure CountInv (x : ((KafkaBroker × KafkaTaskQueue) × CancelNotes) × Finset String) :
    Prop where
  tracked : ∀ id, x.1.1.2.tasks.get? id ≠ none ↔ Open (x.1.2.phase id)
  count : x.1.1.2.pendingCount = x.1.1.2.tasks.size
  owned : ∀ id ref, x.1.1.2.tasks.get? id = some ref →
    ∃ task, x.1.1.2.objects[ref]? = some task ∧ task.taskId = id ∧ task.tenantId ∈ x.2
  records : ∀ tp, ∀ record ∈ x.1.1.1.tasks.unread tp, record.task.tenantId ∈ x.2
  named : "" ∉ x.2

theorem CountInv.objectsKnown (h : CountInv (((broker, q), notes), tenants)) :
    ObjectsKnown q := by
  intro id ref hget
  obtain ⟨task, htask, hid, -⟩ := h.owned id ref hget
  exact ⟨task, htask, hid⟩

/-- The sizes are right. -/
theorem CountInv.tally (h : CountInv (((broker, q), notes), tenants)) :
    Tally Open q.size notes tenants := by
  have hnone : q.size none = q.tasks.size := h.count
  have hids : ∀ id, id ∈ q.tasks.keys.toFinset ↔ Open (notes.phase id) := by
    intro id
    rw [List.mem_toFinset, Dict.mem_keys_iff, ← Option.ne_none_iff_exists']
    exact h.tracked id
  refine Tally.of_owner
    (fun id ↦ (((q.tasks.get? id).bind (q.objects[·]?)).map TaskPayload.tenantId).getD "")
    hids ?_ (fun id hmem ↦ ?_) (fun tenantId htenant ↦ ?_)
  · rw [hnone]
    exact (List.length_map _).symm.trans (List.toFinset_card_of_nodup q.tasks.nodup).symm
  · obtain ⟨ref, hget⟩ := Dict.mem_keys_iff.mp (List.mem_toFinset.mp hmem)
    obtain ⟨task, htask, -, howned⟩ := h.owned id ref hget
    simpa [hget, htask] using howned
  · have hne : tenantId ≠ "" := fun hempty ↦ h.named (hempty ▸ htenant)
    have hsome : (some tenantId).filter (· ≠ "") = some tenantId := by simp [hne]
    rw [KafkaTaskQueue.size, hsome]
    dsimp only
    rw [Dict.countP_values]
    congr 1
    refine Finset.filter_congr fun id hmem ↦ ?_
    obtain ⟨ref, hget⟩ := Dict.mem_keys_iff.mp (List.mem_toFinset.mp hmem)
    obtain ⟨task, htask, -, -⟩ := h.owned id ref hget
    simp [hget, htask]

/-- Nothing is tracked or settled, and there may be more objects. -/
theorem CountInv.same (h : CountInv (((broker, q), notes), tenants))
    (hunread : ∀ tp, ∀ record ∈ broker'.tasks.unread tp, record ∈ broker.tasks.unread tp)
    (htasks : q'.tasks = q.tasks) (hcount : q'.pendingCount = q.pendingCount)
    (hobjects : ∀ (ref : Nat) (task : TaskPayload), q.objects[ref]? = some task →
      q'.objects[ref]? = some task) :
    CountInv (((broker', q'), notes), tenants) where
  tracked id := by
    rw [htasks]
    exact h.tracked id
  count := by
    rw [htasks, hcount]
    exact h.count
  owned id ref hget := by
    rw [htasks] at hget
    obtain ⟨task, htask, hid, howned⟩ := h.owned id ref hget
    exact ⟨task, hobjects ref task htask, hid, howned⟩
  records tp record hr := h.records tp record (hunread tp record hr)
  named := h.named

/-- A task is tracked. -/
theorem CountInv.track {phase : TaskPhase} {ref : Nat} {tenants' : Finset String}
    (h : CountInv (((broker, q), notes), tenants)) (task : TaskPayload)
    (hphase : Open phase) (hsub : tenants ⊆ tenants') (hnamed : "" ∉ tenants')
    (hrecords : ∀ tp, ∀ record ∈ broker'.tasks.unread tp, record.task.tenantId ∈ tenants')
    (htasks : q'.tasks = q.tasks.insert task.taskId ref)
    (hcount : q'.pendingCount = (q.tasks.insert task.taskId ref).size)
    (hobject : q'.objects[ref]? = some task) (howned : task.tenantId ∈ tenants')
    (hobjects : ∀ (ref : Nat) (task : TaskPayload), q.objects[ref]? = some task →
      q'.objects[ref]? = some task) :
    CountInv (((broker', q'), notes.reach task.taskId phase), tenants') where
  tracked id := by
    show q'.tasks.get? id ≠ none ↔ Open ((notes.reach task.taskId phase).phase id)
    rw [htasks, Dict.get?_insert]
    by_cases hid : id = task.taskId
    · rw [if_pos hid, hid, CancelNotes.phase_reach_self]
      exact iff_of_true (Option.some_ne_none _) hphase
    · rw [if_neg hid, CancelNotes.phase_reach_of_ne hid]
      exact h.tracked id
  count := by
    show q'.pendingCount = q'.tasks.size
    rw [htasks]
    exact hcount
  owned id ref' hget := by
    have hget : q'.tasks.get? id = some ref' := hget
    rw [htasks, Dict.get?_insert] at hget
    split at hget
    · rename_i hid
      obtain rfl := Option.some.inj hget
      exact ⟨task, hobject, hid.symm, howned⟩
    · obtain ⟨task', htask, hid, howned'⟩ := h.owned id ref' hget
      exact ⟨task', hobjects ref' task' htask, hid, hsub howned'⟩
  records := hrecords
  named := hnamed

/-- A task is settled. -/
theorem CountInv.settle {ref : Nat} (h : CountInv (((broker, q), notes), tenants))
    (hget : q.tasks.get? id = some ref)
    (hunread : ∀ tp, broker'.tasks.unread tp = broker.tasks.unread tp)
    (results : Dict UUID TaskResult) :
    CountInv (((broker', { q with results := results }.forget id), notes.reach id .resolved),
      tenants) where
  tracked j := by
    show (q.tasks.erase id).get? j ≠ none ↔ Open ((notes.reach id .resolved).phase j)
    rw [Dict.get?_erase]
    by_cases hj : j = id
    · rw [if_pos hj, hj, CancelNotes.phase_reach_self]
      refine iff_of_false (fun hne ↦ hne rfl) ?_
      rintro (hphase | hphase) <;> cases hphase
    · rw [if_neg hj, CancelNotes.phase_reach_of_ne hj]
      exact h.tracked j
  count := by
    show q.pendingCount - 1 = (q.tasks.erase id).size
    have hperm := (Dict.perm_erase hget).length_eq
    have hcount : q.pendingCount = q.tasks.size := h.count
    rw [List.length_cons] at hperm
    rw [hcount, Dict.size, hperm]
    rfl
  owned j ref' hj := by
    have hj : (q.tasks.erase id).get? j = some ref' := hj
    rw [Dict.get?_erase] at hj
    exact h.owned j ref' (Option.ite_none_left_eq_some.mp hj).2
  records tp record hr := h.records tp record (hunread tp ▸ hr)
  named := h.named

theorem Alive.append {record : KafkaRecord} {answers answers' : List KafkaAnswer}
    (h : Alive (now, answers) (broker, q)) (tp : TopicPartition) (q' : KafkaTaskQueue)
    (hrecord : record.task.isExpired now = false) :
    Alive (now, answers') ({ broker with tasks := broker.tasks.append tp record }, q') := by
  intro tp' record' hr
  have hr : record' ∈ (broker.tasks.append tp record).unread tp' := hr
  rw [GroupLog.unread_append] at hr
  split at hr
  · rcases List.mem_append.mp hr with hr | hr
    · exact h tp' record' hr
    · rw [List.mem_singleton.mp hr]
      exact hrecord
  · exact h tp' record' hr

theorem Alive.poll {tp : TopicPartition} {record : KafkaRecord} {answers : List KafkaAnswer}
    {tasks : GroupLog TopicPartition KafkaRecord} (h : Alive (now, answers) (broker, q))
    (answers' : List KafkaAnswer) (hpoll : broker.tasks.poll tp = some (record, tasks)) :
    Alive (now, answers') ({ broker with tasks := tasks }, q') :=
  fun tp' record' hr ↦ h tp' record' ((Less.polled (q := q) hpoll).unread tp' record' hr)

/-- Every call keeps the invariant, if it puts no task back and hands out tracked ones only. -/
theorem CountInv.served {call : WorkerCall} {outcome : QueueOutcome}
    (h : CountInv (((broker, q), notes), tenants))
    (htracks : Tracks (((broker, q), notes), tenants) ((now, answers), call.op))
    (hfresh : TaskQueueBackend.Fresh ((broker, q), notes) call.op)
    (halive : Alive (now, answers) (broker, q))
    (hserve : serve now answers call (broker, q) = (outcome, broker', q'))
    (hserved : Served now broker q call outcome broker' q') :
    CountInv (((broker', q'),
        notes.after (backend.retries (now, answers) (broker, q)) call.op outcome),
      tenantsAfter tenants call.op outcome) := by
  have hobject : ∀ (task : TaskPayload) (ref : Nat) (task' : TaskPayload),
      q.objects[ref]? = some task' → (q.objects ++ [task])[ref]? = some task' := by
    intro task ref task' hget
    exact (List.getElem?_append_left (List.getElem?_eq_some_iff.mp hget).1).trans hget
  cases hserved with
  | refused task delaySeconds => exact h.same (fun _ _ hr ↦ hr) rfl rfl (hobject task)
  | sent task delaySeconds tp =>
      have hphase : notes.phase task.taskId = .absent := hfresh
      have hnew : q.tasks.get? task.taskId = none := by
        by_contra hne
        have hopen : Open (notes.phase task.taskId) := (h.tracked task.taskId).mp hne
        rw [hphase] at hopen
        rcases hopen with hopen | hopen <;> cases hopen
      refine h.track task (.inl rfl) (Finset.subset_insert _ _) ?_ (fun tp' record hr ↦ ?_) rfl ?_
        List.getElem?_concat_length (Finset.mem_insert_self _ _) (hobject task)
      · show "" ∉ insert task.tenantId tenants
        rw [Finset.mem_insert, not_or]
        exact ⟨fun hempty ↦ htracks hempty.symm, h.named⟩
      · have hr : record ∈ (broker.tasks.append tp (KafkaTaskQueue.recordOf now task
          delaySeconds)).unread tp' := hr
        rw [GroupLog.unread_append] at hr
        split at hr
        · rcases List.mem_append.mp hr with hr | hr
          · exact Finset.mem_insert_of_mem (h.records tp' record hr)
          · rw [List.mem_singleton.mp hr]
            exact Finset.mem_insert_self _ _
        · exact Finset.mem_insert_of_mem (h.records tp' record hr)
      · rw [Dict.size_insert_of_get?_none _ hnew]
        exact congrArg (· + 1) h.count
  | empty tenantId => exact h
  | passed hpoll =>
      exact h.same (Less.polled (q := q) hpoll).unread rfl rfl (fun _ _ hget ↦ hget)
  | expired hpoll hexpired hquiet =>
      rename_i tenantId tp record tasks
      have hmem : record ∈ broker.tasks.unread tp := by
        rw [(GroupLog.poll_eq_some hpoll).1]
        exact List.mem_cons_self
      cases hexpired.symm.trans (halive tp record hmem)
  | claimed offset hopen hpoll =>
      rename_i tenantId tp record tasks
      have hmem : record ∈ broker.tasks.unread tp := by
        rw [(GroupLog.poll_eq_some hpoll).1]
        exact List.mem_cons_self
      have htracked : q.tasks.get? record.task.taskId ≠ none := by
        obtain ⟨tp', record', rest, hanswers, hunread, hready, hid⟩ :=
          serve_handedOut (congrArg Prod.fst hserve)
        rw [← hid]
        exact htracks tp' record' rest hanswers hunread hready
      obtain ⟨ref, href⟩ := Option.ne_none_iff_exists'.mp htracked
      refine h.track (q.claim tp offset record.task).2 (.inr rfl) (subset_refl _) h.named
        (fun tp' record' hr ↦ h.records tp' record'
          ((Less.polled (q := q) hpoll).unread tp' record' hr)) rfl ?_
        List.getElem?_concat_length (h.records tp record hmem) (hobject _)
      have hentries := Dict.entries_insert_of_get?_some q.objects.length href
      show q.pendingCount = (q.tasks.insert record.task.taskId q.objects.length).entries.length
      rw [hentries, List.length_map]
      exact h.count
  | unknown hget hcall =>
      rcases hcall with ⟨result, rfl⟩ | ⟨errorCode, errorMessage, retry, rfl⟩
      · exact h
      · exact h
  | unpublished results hquiet =>
      exact h.same (fun tp _ hr ↦ hquiet.unread tp ▸ hr) rfl rfl (fun _ _ hget ↦ hget)
  | completed hget hquiet => exact h.settle hget hquiet.unread _
  | unburied hquiet =>
      exact h.same (fun tp _ hr ↦ hquiet.unread tp ▸ hr) rfl rfl (fun _ _ hget ↦ hget)
  | dropped hget htask hretry hcan hquiet =>
      exact absurd ⟨hretry, hcan⟩ (htracks _ _ hget htask)
  | requeued delay tp hget htask hretry hcan hquiet =>
      exact absurd ⟨hretry, hcan⟩ (htracks _ _ hget htask)
  | buried result hget htask hgiven hquiet =>
      rename_i id errorCode errorMessage retry ref task broker'
      have hafter : ¬ (retry && backend.retries (now, answers) (broker, q) id) = true := by
        rw [retries_eq hget htask, Bool.and_eq_true]
        exact hgiven
      show CountInv ((_, notes.reach id (if (retry && _) = true then _ else _)), tenants)
      rw [if_neg hafter]
      refine h.settle hget ?_ _
      exact hquiet.unread

/-- The sizes are right as long as nothing is put back and tracked tasks only are handed out. -/
theorem counts_when (topicPrefix : String) (retryBaseDelay retryMaxDelay : ℚ) :
    backend.CountsWhen (fun _ x ↦ x.2.size) Alive Open Tracks
      ({}, KafkaTaskQueue.new topicPrefix retryBaseDelay retryMaxDelay) := by
  refine TaskQueueBackend.countsWhen_of_inv (I := CountInv) ?_ (fun x h _ _ ↦ h.tally) ?_
  · refine ⟨fun id ↦ ?_, rfl, fun _ _ hget ↦ ?_, fun _ _ hr ↦ ?_, Finset.notMem_empty _⟩
    · refine iff_of_false (fun hne ↦ hne rfl) ?_
      rintro (hphase | hphase) <;> cases hphase
    · cases hget
    · cases hr
  · rintro ⟨broker, q⟩ notes tenants ⟨now, answers⟩ call outcome ⟨broker', q'⟩ h htracks hfresh -
      halive hexec
    have hserve : serve now answers call (broker, q) = (outcome, broker', q') := by
      cases call with
      | enqueue | dequeue | complete | fail => exact hexec
    have hserved : Served now broker q call (serve now answers call (broker, q)).1
        (serve now answers call (broker, q)).2.1 (serve now answers call (broker, q)).2.2 :=
      served h.objectsKnown call
    rw [hserve] at hserved
    exact h.served htracks hfresh halive hserve hserved

end KafkaSystem

/-! ## Redis -/

def RedisTaskQueue.size (tenantId : Option String) : RedisProg Nat :=
  match tenantId.filter (· ≠ "") with
  | some tenantId => .query fun now s ↦ (((s.byTenant.get? tenantId).getD ∅).filter fun id ↦
      s.status.read now id = some .pending).card
  | none => .query fun _ s ↦ (TaskPriority.all.map fun p ↦ (s.streams p).entries.length).sum

namespace RedisTaskStore

variable {s : RedisTaskStore} {id j : UUID}

def streamed (s : RedisTaskStore) : List UUID :=
  TaskPriority.all.flatMap fun p ↦ (s.streams p).entries.map Prod.snd

/-- An id that is added to a stream. -/
theorem perm_streamed_add (s : RedisTaskStore) (p : TaskPriority) (now : Time) (id : UUID) :
    (s.setStream p ((s.streams p).add now id)).streamed.Perm (id :: s.streamed) := by
  rw [List.perm_iff_count]
  intro j
  simp only [streamed, TaskPriority.all, List.flatMap_cons, List.flatMap_nil, List.count_append,
    List.append_nil, List.count_cons, setStream_streams]
  cases p with
  | critical | high | normal | low | background =>
      simp [Function.update, RedisStream.add, List.count_append, List.count_singleton]
      omega

/-- An acknowledged entry stays where it is. -/
theorem streamed_setStream_ack (s : RedisTaskStore) (p : TaskPriority) (m : StreamId) :
    (s.setStream p ((s.streams p).ack m)).streamed = s.streamed := by
  rw [streamed, streamed]
  congr 1
  funext p'
  rw [setStream_streams]
  by_cases hp : p' = p
  · rw [hp, Function.update_self]
    rfl
  · rw [Function.update_of_ne hp]

theorem mem_sadd {sets : Dict String (Finset UUID)} {tenantId tenantId' : String} :
    j ∈ ((sadd sets tenantId id).get? tenantId').getD ∅ ↔
      j ∈ (sets.get? tenantId').getD ∅ ∨ tenantId' = tenantId ∧ j = id := by
  rw [sadd, Dict.get?_insert]
  by_cases htenant : tenantId' = tenantId
  · subst htenant
    rw [if_pos rfl, Option.getD_some, Finset.mem_insert, or_comm]
    simp
  · rw [if_neg htenant]
    simp [htenant]

end RedisTaskStore

namespace RedisTaskQueue

open RedisTaskStore Prog

variable {q : RedisTaskQueue} {s s' : RedisTaskStore} {now : Time} {id : UUID}
  {notes : CancelNotes} {tenants : Finset String}

/-- A task that no worker has. -/
def Waits (phase : TaskPhase) : Prop := phase = .waiting

/-- No status has expired. -/
def Alive (now : Time) (x : RedisTaskQueue × RedisTaskStore) : Prop :=
  ∀ id status expiry, x.2.status.get? id = some (status, some expiry) → now < expiry

/-- Tasks have tenants and are not delayed, a `dequeue` finds nothing that is due or to be read,
and no task is settled. -/
def Rests (x : ((RedisTaskQueue × RedisTaskStore) × CancelNotes) × Finset String)
    (a : Time × QueueOp) : Prop :=
  match a.2 with
  | .enqueue task delaySeconds => task.tenantId ≠ "" ∧ delaySeconds ≤ 0
  | .dequeue _ => x.1.1.1.closed = true ∨ (∀ id, ¬ x.1.1.2.Due a.1 id) ∧
      ∀ p, (x.1.1.2.streams p).next = none
  | .complete id _ => x.1.1.2.tasks.read a.1 id = none
  | .fail id _ _ retry => ∀ task, x.1.1.2.tasks.read a.1 id = some task →
      retry = true ∧ task.canRetry = true
  | _ => True

/-- Every task that waits has one entry, a status and a place in the index of its tenant, and
nothing else has. -/
structure CountInv (x : ((RedisTaskQueue × RedisTaskStore) × CancelNotes) × Finset String) :
    Prop where
  nodup : x.1.1.2.streamed.Nodup
  streamed : ∀ id, id ∈ x.1.1.2.streamed ↔ x.1.2.phase id = .waiting
  pending : ∀ id, x.1.2.phase id = .waiting → x.1.1.2.Pending id
  hashed : ∀ now id task, x.1.1.2.tasks.read now id = some task → x.1.2.phase id = .waiting
  indexed : ∃ owner : UUID → String, (∀ tenantId id,
      id ∈ (x.1.1.2.byTenant.get? tenantId).getD ∅ ↔
        x.1.2.phase id = .waiting ∧ owner id = tenantId) ∧
    ∀ id, x.1.2.phase id = .waiting → owner id ∈ x.2
  named : "" ∉ x.2

/-- The sizes are right. -/
theorem CountInv.tally (h : CountInv (((q, s), notes), tenants)) (halive : Alive now (q, s)) :
    Tally Waits (fun tenantId ↦ ((size tenantId).run now s).1) notes tenants := by
  obtain ⟨owner, hindexed, howner⟩ := h.indexed
  have hids : ∀ id, id ∈ s.streamed.toFinset ↔ notes.phase id = .waiting := by
    intro id
    rw [List.mem_toFinset]
    exact h.streamed id
  refine Tally.of_owner owner hids ?_
    (fun id hmem ↦ howner id ((hids id).mp hmem)) (fun tenantId htenant ↦ ?_)
  · rw [List.toFinset_card_of_nodup h.nodup, RedisTaskStore.streamed, List.length_flatMap]
    simp [size]
  · have hne : tenantId ≠ "" := fun hempty ↦ h.named (hempty ▸ htenant)
    have hsome : (some tenantId).filter (· ≠ "") = some tenantId := by simp [hne]
    rw [size, hsome]
    show Finset.card _ = _
    congr 1
    ext id
    rw [Finset.mem_filter, Finset.mem_filter, hids]
    rw [hindexed tenantId id]
    refine and_iff_left_of_imp ?_
    rintro ⟨hwaiting, -⟩
    obtain ⟨expiry, hget⟩ := h.pending id hwaiting
    cases expiry with
    | none => simp [Expiring.read, hget]
    | some expiry => simp [Expiring.read, hget, halive id _ expiry hget]

/-- An `enqueue` without a delay raises, or adds the task. -/
theorem enqueue_adds (q : RedisTaskQueue) (now : Time) (task : TaskPayload) {delaySeconds : ℚ}
    (s : RedisTaskStore) (hdelay : delaySeconds ≤ 0) :
    let y := q.exec now (.enqueue task delaySeconds) s
    ((∃ fault, y.1 = .raised fault) ∧ y.2.streams = s.streams ∧ y.2.byTenant = s.byTenant ∧
        y.2.status = s.status ∧
        (y.2.tasks = s.tasks ∨ ∀ t, y.2.tasks.read t task.taskId = none)) ∨
      y.1 = .accepted task ∧
        y.2.streams = (s.setStream task.priority
          ((s.streams task.priority).add now task.taskId)).streams ∧
        y.2.byTenant = sadd s.byTenant task.tenantId task.taskId ∧ y.2.Pending task.taskId := by
  dsimp only
  rw [exec, prog, enqueue]
  split
  · exact .inl ⟨⟨_, rfl⟩, rfl, rfl, rfl, .inl rfl⟩
  · rw [Prog.run_bind, Prog.run_bind]
    split
    · rename_i hlapsed
      refine .inl ⟨⟨_, rfl⟩, rfl, rfl, rfl, .inr fun t ↦ ?_⟩
      show Expiring.read (Expiring.expire _ now task.taskId _) t task.taskId = none
      rw [Expiring.expire, if_pos hlapsed]
      exact Expiring.read_erase.trans (if_pos rfl)
    · right
      rw [scheduleTask, if_neg (not_lt_of_ge hdelay), addToIndexes]
      refine ⟨by simp only [Prog.run_bind, Prog.run_pure], ?_⟩
      cases task.targetAgentId with
      | none => exact ⟨rfl, rfl, _, Dict.get?_insert_self _ _ _⟩
      | some agentId => exact ⟨rfl, rfl, _, Dict.get?_insert_self _ _ _⟩

/-- A `dequeue` that finds nothing changes nothing. -/
theorem dequeue_nothing (q : RedisTaskQueue) (now : Time) (tenantId : Option String)
    (h : q.closed = true ∨ (∀ id, ¬ s.Due now id) ∧ ∀ p, (s.streams p).next = none) :
    q.exec now (.dequeue tenantId) s = (.dequeued none, s) := by
  rw [exec, prog, dequeue]
  split
  · rfl
  · rename_i hopen
    obtain ⟨hdue, hnext⟩ := h.resolve_left hopen
    have hmoved : processDelayedTasks.run now s = (⟨⟩, s) := by
      have hnil : zrangebyscore s.delayed (fun i j ↦ i.int ≤ j.int) 0 (Time.timestamp now) 100
          = [] := by
        refine List.eq_nil_iff_forall_not_mem.mpr fun id hmem ↦ hdue id ?_
        exact mem_zrangebyscore hmem
      rw [processDelayedTasks, Prog.run_bind, Prog.run_query]
      dsimp only
      rw [hnil]
      rfl
    have hread : ∀ ps, (q.readStreams tenantId ps).run now s = (.dequeued none, s) := by
      intro ps
      induction ps with
      | nil => rfl
      | cons p ps ih =>
          have hgroup : (q.xreadgroup p).run now s = (none, s) := by
            show (((s.streams p).readGroup q.consumer).1,
              s.setStream p ((s.streams p).readGroup q.consumer).2) = (none, s)
            rw [RedisStream.readGroup, hnext p]
            show (none, { s with streams := Function.update s.streams p (s.streams p) }) = _
            rw [Function.update_eq_self]
          rw [readStreams, Prog.run_bind, hgroup]
          exact ih
    rw [Prog.run_bind, hmoved]
    exact hread _

/-- A `fail` that puts a waiting task back leaves its entry and its place in the index. -/
theorem fail_rests (q : RedisTaskQueue) (now : Time) (id : UUID) (errorCode errorMessage : String)
    (retry : Bool) (s : RedisTaskStore)
    (hback : ∀ task, s.tasks.read now id = some task → retry = true ∧ task.canRetry = true) :
    let y := q.exec now (.fail id errorCode errorMessage retry) s
    ((y.1 = .done false ∨ y.1 = .raised .brokerError) ∧ y.2 = s) ∨
      y.1 = .done true ∧ s.tasks.read now id ≠ none ∧
        (retry && (s.tasks.read now id).any TaskPayload.canRetry) = true ∧
        y.2.streamed = s.streamed ∧ y.2.byTenant = s.byTenant ∧ y.2.Pending id ∧
        (∀ j, j ≠ id → y.2.status.get? j = s.status.get? j) ∧
        ∀ t j, j ≠ id → y.2.tasks.read t j = s.tasks.read t j := by
  dsimp only
  rw [exec, prog, fail, Prog.run_bind, getTask, Prog.run_query]
  cases hread : s.tasks.read now id with
  | none => exact .inl ⟨.inl rfl, rfl⟩
  | some task =>
      obtain ⟨hretry, hcan⟩ := hback task hread
      dsimp only
      split
      · exact .inl ⟨.inr rfl, rfl⟩
      · right
        have hcan' : TaskPayload.canRetry { task with metadata := popEntry task.metadata }
            = true := hcan
        rw [if_pos ⟨hretry, hcan'⟩]
        refine ⟨by simp only [Prog.run_bind, Prog.run_pure], by rintro ⟨⟩, ?_, ?_⟩
        · rw [hretry, Option.any_some, hcan]
          rfl
        · -- only the acknowledgement touches a stream
          cases q.ackTarget task.metadata with
          | nothing | refused =>
              exact ⟨rfl, rfl, ⟨_, Dict.get?_insert_self _ _ _⟩,
                fun j hj ↦ Dict.get?_insert_of_ne _ _ hj,
                fun t j hj ↦ Expiring.read_change_of_ne _ hj⟩
          | entry e =>
              exact ⟨streamed_setStream_ack s e.priority e.id, rfl,
                ⟨_, Dict.get?_insert_self _ _ _⟩, fun j hj ↦ Dict.get?_insert_of_ne _ _ hj,
                fun t j hj ↦ Expiring.read_change_of_ne _ hj⟩

/-- The streams and the index are as they were. -/
theorem CountInv.same (h : CountInv (((q, s), notes), tenants))
    (hstreamed : s'.streamed = s.streamed)
    (hbyTenant : s'.byTenant = s.byTenant)
    (hpending : ∀ id, notes.phase id = .waiting → s'.Pending id)
    (hhashed : ∀ now id task, s'.tasks.read now id = some task → notes.phase id = .waiting) :
    CountInv (((q, s'), notes), tenants) where
  nodup := by
    rw [hstreamed]
    exact h.nodup
  streamed := by
    rw [hstreamed]
    exact h.streamed
  pending := hpending
  hashed := hhashed
  indexed := by
    rw [hbyTenant]
    exact h.indexed
  named := h.named

/-- A task is added. -/
theorem CountInv.add {task : TaskPayload} (h : CountInv (((q, s), notes), tenants))
    (hphase : notes.phase task.taskId = .absent) (htenant : task.tenantId ≠ "")
    (hput : Local task.taskId s s')
    (hstreams : s'.streams = (s.setStream task.priority
      ((s.streams task.priority).add now task.taskId)).streams)
    (hbyTenant : s'.byTenant = sadd s.byTenant task.tenantId task.taskId)
    (hpending : s'.Pending task.taskId) :
    CountInv (((q, s'), notes.reach task.taskId .waiting), insert task.tenantId tenants) := by
  obtain ⟨owner, hindexed, howner⟩ := h.indexed
  have hwaiting : ∀ id, (notes.reach task.taskId .waiting).phase id = .waiting ↔
      id = task.taskId ∨ notes.phase id = .waiting := by
    intro id
    by_cases hid : id = task.taskId
    · simp [hid]
    · rw [CancelNotes.phase_reach_of_ne hid]
      simp [hid]
  have hold : ∀ id, notes.phase id = .waiting → id ≠ task.taskId := by
    rintro id hid rfl
    cases hphase.symm.trans hid
  have hperm : s'.streamed.Perm (task.taskId :: s.streamed) := by
    have hsame : s'.streamed = (s.setStream task.priority
        ((s.streams task.priority).add now task.taskId)).streamed := by
      rw [RedisTaskStore.streamed, hstreams]
      rfl
    rw [hsame]
    exact perm_streamed_add s task.priority now task.taskId
  refine ⟨?_, fun id ↦ ?_, fun id hid ↦ ?_, fun now' id task' hread ↦ ?_,
    ⟨Function.update owner task.taskId task.tenantId, fun tenantId id ↦ ?_, fun id hid ↦ ?_⟩, ?_⟩
  · refine hperm.nodup_iff.mpr (List.nodup_cons.mpr ⟨fun hmem ↦ ?_, h.nodup⟩)
    exact hold _ ((h.streamed _).mp hmem) rfl
  · show id ∈ s'.streamed ↔ (notes.reach task.taskId .waiting).phase id = .waiting
    rw [hperm.mem_iff, List.mem_cons, hwaiting]
    exact or_congr_right (h.streamed id)
  · rcases (hwaiting id).mp hid with rfl | hid
    · exact hpending
    · obtain ⟨expiry, hget⟩ := h.pending id hid
      exact ⟨expiry, (hput.status id (hold id hid)).trans hget⟩
  · show (notes.reach task.taskId .waiting).phase id = .waiting
    rw [hwaiting]
    by_cases hid : id = task.taskId
    · exact .inl hid
    · have hread : s'.tasks.read now' id = some task' := hread
      rw [hput.tasks now' id hid] at hread
      exact .inr (h.hashed now' id task' hread)
  · show id ∈ (s'.byTenant.get? tenantId).getD ∅ ↔
      (notes.reach task.taskId .waiting).phase id = .waiting ∧ _
    rw [hbyTenant, mem_sadd, hwaiting, hindexed]
    by_cases hid : id = task.taskId
    · have hnot : notes.phase task.taskId ≠ .waiting := fun hw ↦ hold _ hw rfl
      rw [hid, Function.update_self]
      simp [hnot, eq_comm]
    · rw [Function.update_of_ne hid]
      simp [hid]
  · show Function.update owner task.taskId task.tenantId id ∈ insert task.tenantId tenants
    by_cases hsame : id = task.taskId
    · rw [hsame, Function.update_self]
      exact Finset.mem_insert_self _ _
    · rw [Function.update_of_ne hsame]
      exact Finset.mem_insert_of_mem (howner id (((hwaiting id).mp hid).resolve_left hsame))
  · show "" ∉ insert task.tenantId tenants
    rw [Finset.mem_insert, not_or]
    exact ⟨fun hempty ↦ htenant hempty.symm, h.named⟩

/-- Every call keeps the invariant, if it leaves what waits where it is. -/
theorem CountInv.served {call : WorkerCall} {outcome : QueueOutcome} {q' : RedisTaskQueue}
    (h : CountInv (((q, s), notes), tenants))
    (hrests : Rests (((q, s), notes), tenants) (now, call.op))
    (hfresh : TaskQueueBackend.Fresh ((q, s), notes) call.op)
    (hserve : serve now call (q, s) = (outcome, q', s')) :
    CountInv (((q', s'), notes.after (backend.retries now (q, s)) call.op outcome),
      tenantsAfter tenants call.op outcome) := by
  have hserve : ((q.exec now call s).1.outcome, q, (q.exec now call s).2) = (outcome, q', s') :=
    hserve
  obtain ⟨hout, hrest⟩ := Prod.mk.inj hserve
  obtain ⟨rfl, hs'⟩ := Prod.mk.inj hrest
  cases call with
  | enqueue task delaySeconds =>
      have hphase : notes.phase task.taskId = .absent := hfresh
      obtain ⟨htenant, hdelay⟩ := hrests
      have hput : Local task.taskId s s' := by
        rw [← hs']
        exact ((putsBack_enqueue task delaySeconds).run .refl .trans now s).toLocal
      rcases enqueue_adds q now task s hdelay with
        ⟨⟨fault, hfault⟩, hstreams, hbyTenant, hstatus, htasks⟩ |
          ⟨haccepted, hstreams, hbyTenant, hpending⟩
      · rw [hs'] at hstreams hbyTenant hstatus htasks
        rw [hfault] at hout
        obtain rfl : QueueOutcome.other = outcome := hout
        refine h.same ?_ hbyTenant (fun id hid ↦ ?_) (fun now' id task' hread ↦ ?_)
        · rw [RedisTaskStore.streamed, hstreams]
          rfl
        · rw [Pending, hstatus]
          exact h.pending id hid
        · rcases htasks with htasks | hnone
          · rw [htasks] at hread
            exact h.hashed now' id task' hread
          · by_cases hid : id = task.taskId
            · rw [hid, hnone] at hread
              cases hread
            · rw [hput.tasks now' id hid] at hread
              exact h.hashed now' id task' hread
      · rw [hs'] at hstreams hbyTenant hpending
        rw [haccepted] at hout
        obtain rfl : QueueOutcome.accepted = outcome := hout
        exact h.add hphase htenant hput hstreams hbyTenant hpending
  | dequeue tenantId =>
      rw [dequeue_nothing q now tenantId hrests] at hout hs'
      obtain rfl : QueueOutcome.other = outcome := hout
      obtain rfl : s = s' := hs'
      exact h
  | complete id result =>
      have hnone : s.tasks.read now id = none := hrests
      have hcomplete : q.exec now (.complete id result) s = (.done false, s) := by
        rw [exec, prog, complete, Prog.run_bind, getTask, Prog.run_query, hnone]
        rfl
      rw [hcomplete] at hout hs'
      obtain rfl : QueueOutcome.done false = outcome := hout
      obtain rfl : s = s' := hs'
      exact h
  | fail id errorCode errorMessage retry =>
      rcases fail_rests q now id errorCode errorMessage retry s hrests with
        ⟨hreply, hsame⟩ |
          ⟨hreply, hread, hretry, hstreamed, hbyTenant, hpending, hstatus, htasks⟩
      · obtain rfl := hs'.symm.trans hsame
        rcases hreply with hreply | hreply
        · rw [hreply] at hout
          obtain rfl : QueueOutcome.done false = outcome := hout
          exact h
        · rw [hreply] at hout
          obtain rfl : QueueOutcome.other = outcome := hout
          exact h
      · rw [hs'] at hstreamed hbyTenant hpending hstatus htasks
        rw [hreply] at hout
        obtain rfl : QueueOutcome.done true = outcome := hout
        obtain ⟨task, htask⟩ := Option.ne_none_iff_exists'.mp hread
        have hwaiting : notes.phase id = .waiting := h.hashed now id task htask
        have hreach : notes.reach id .waiting = notes := by
          rw [CancelNotes.reach, ← hwaiting, Function.update_eq_self]
        have hafter : (retry && backend.retries now (q, s) id) = true := hretry
        show CountInv ((_, notes.reach id (if (retry && _) = true then _ else _)), tenants)
        rw [if_pos hafter, hreach]
        refine h.same hstreamed hbyTenant (fun j hj ↦ ?_) (fun now' j task' hread' ↦ ?_)
        · by_cases hid : j = id
          · rw [hid]
            exact hpending
          · rw [Pending, hstatus j hid]
            exact h.pending j hj
        · by_cases hid : j = id
          · rw [hid]
            exact hwaiting
          · rw [htasks now' j hid] at hread'
            exact h.hashed now' j task' hread'

/-- The sizes are right as long as nothing is delayed, claimed or settled. -/
theorem counts_when (q : RedisTaskQueue) :
    backend.CountsWhen (fun now x tenantId ↦ ((size tenantId).run now x.2).1) Alive Waits Rests
      (q, {}) := by
  refine TaskQueueBackend.countsWhen_of_inv (I := CountInv) ?_
    (fun x h now halive ↦ h.tally halive) ?_
  · have hwaiting : ∀ id, ({} : CancelNotes).phase id ≠ .waiting := fun id h ↦ by cases h
    refine ⟨List.nodup_nil, fun id ↦ ?_, fun id hid ↦ absurd hid (hwaiting id),
      (fun _ _ _ hread ↦ by cases hread), ⟨fun _ ↦ "", fun tenantId id ↦ ?_,
        fun id hid ↦ absurd hid (hwaiting id)⟩, Finset.notMem_empty _⟩
    · exact iff_of_false (fun hmem ↦ by cases hmem) (hwaiting id)
    · exact iff_of_false (Finset.notMem_empty _) fun hid ↦ hwaiting id hid.1
  · rintro ⟨q, s⟩ notes tenants now call outcome ⟨q', s'⟩ h hrests hfresh - - hexec
    have hserve : serve now call (q, s) = (outcome, q', s') := by
      cases call with
      | enqueue | dequeue | complete | fail => exact hexec
    exact h.served hrests hfresh hserve

end RedisTaskQueue

/-! ## Both -/

/-- In every run of enqueues of distinct tasks, dequeues without filters, completions and failures
in which nothing expires: `size()` is the number of tasks that are not settled (on Redis, that
wait), and the sum of `size(t)` over the tenants of the tasks.

On Kafka this is so if tasks have tenants, tracked tasks only are handed out and none is put back;
on Redis if tasks have tenants, and nothing is delayed, claimed or settled. -/
theorem sizes_agree (topicPrefix : String) (retryBaseDelay retryMaxDelay : ℚ)
    (redis : RedisTaskQueue) :
    KafkaSystem.backend.CountsWhen (fun _ x ↦ x.2.size) KafkaSystem.Alive KafkaSystem.Open
      KafkaSystem.Tracks ({}, KafkaTaskQueue.new topicPrefix retryBaseDelay retryMaxDelay) ∧
    RedisTaskQueue.backend.CountsWhen
      (fun now x tenantId ↦ ((RedisTaskQueue.size tenantId).run now x.2).1) RedisTaskQueue.Alive
      RedisTaskQueue.Waits RedisTaskQueue.Rests (redis, {}) := by
  constructor
  · exact KafkaSystem.counts_when topicPrefix retryBaseDelay retryMaxDelay
  · exact RedisTaskQueue.counts_when redis

open TaskQueueBackend (unexpired_tally)

def counted : TaskPayload := { taskId := ⟨1⟩, tenantId := "acme", createdAt := 0 }

def countedTopics : KafkaBroker where
  tasks := GroupLog.empty.append ⟨"lip.tasks.normal", 0⟩ (KafkaTaskQueue.recordOf 0 counted 0)

/-- What a worker finds on Kafka that reads a record, and one that puts a task back. -/
def claiming : Time × List KafkaAnswer := (0, [.polled (some ⟨"lip.tasks.normal", 0⟩)])

def retrying : Time × List KafkaAnswer := (0, [.committed, .sent 0])

/-- The status of the task does not expire at once. -/
theorem alive_counted : RedisTaskQueue.Alive 0
    (RedisTaskQueue.backend.answer ({ consumer := "worker" }, {}) (0, .enqueue counted 0)).2 := by
  intro id status expiry hget
  have hget : ((∅ : Expiring UUID TaskStatus).insert ⟨1⟩
    (.pending, some (0 + Time.seconds (counted.ttlSeconds + 60)))).get? id
      = some (status, some expiry) := hget
  rw [Dict.get?_insert] at hget
  split at hget
  · cases hget
    decide
  · cases hget

def countedNext : TaskPayload := { taskId := ⟨2⟩, tenantId := "globex", createdAt := 0 }

/-- The first task is claimed, the other one comes in, and the first is completed. -/
def countedCalls : List ((Time × List KafkaAnswer) × QueueOp) :=
  [((0, [.sent 0]), .enqueue counted 0), (claiming, .dequeue none),
    ((0, [.sent 0]), .enqueue countedNext 0),
    ((0, [.committed, .sent 0]), .complete ⟨1⟩
      { taskId := ⟨1⟩, status := .completed, processedAt := 0 })]

/-- Kafka after the first of these calls. -/
def countedAfter (n : Nat) : ((KafkaBroker × KafkaTaskQueue) × CancelNotes) × Finset String :=
  (countedCalls.take n).foldl KafkaSystem.backend.tally
    ((({}, KafkaTaskQueue.new "lip" 1 60), {}), ∅)

/-- No task expires at once. -/
theorem alive_after (answers : List KafkaAnswer) :
    KafkaSystem.Alive (0, answers) (countedAfter 0).1.1 ∧
    KafkaSystem.Alive (0, answers) (countedAfter 1).1.1 ∧
    KafkaSystem.Alive (0, answers) (countedAfter 2).1.1 ∧
    KafkaSystem.Alive (0, answers) (countedAfter 3).1.1 := by
  have hempty : KafkaSystem.Alive (0, answers) (countedAfter 0).1.1 := fun _ _ hr ↦ by cases hr
  have hsent : KafkaSystem.Alive (0, answers) (countedAfter 1).1.1 :=
    hempty.append ⟨"lip.tasks.normal", 0⟩ _ rfl
  have hpoll : (countedAfter 1).1.1.1.tasks.poll ⟨"lip.tasks.normal", 0⟩
    = some (KafkaTaskQueue.recordOf 0 counted 0, (countedAfter 2).1.1.1.tasks) := rfl
  have hread : KafkaSystem.Alive (0, answers) (countedAfter 2).1.1 := hsent.poll answers hpoll
  exact ⟨hempty, hsent, hread, hread.append ⟨"lip.tasks.normal", 0⟩ _ rfl⟩

/-- The calls hand out a tracked task, and put none back. -/
theorem run_counted : Run (Step.Only KafkaSystem.Tracks
    (KafkaSystem.backend.Unexpired KafkaSystem.Alive)) (countedAfter 0) countedCalls
    (countedAfter 4) := by
  have hclaim : KafkaSystem.Tracks (countedAfter 1) (claiming, .dequeue none) := by
    rintro tp record rest ⟨⟩ hunread -
    obtain rfl := (List.cons.inj hunread).1
    exact Option.some_ne_none _
  have hfirst : counted.tenantId ≠ "" := by decide
  have hnext : countedNext.tenantId ≠ "" := by decide
  exact .cons ⟨hfirst, unexpired_tally (.enqueue counted 0) trivial (alive_after _).1 rfl⟩
    (.cons ⟨hclaim, unexpired_tally (.dequeue none) rfl (alive_after _).2.1 trivial⟩
      (.cons ⟨hnext, unexpired_tally (.enqueue countedNext 0) trivial (alive_after _).2.2.1 rfl⟩
        (.cons ⟨trivial, unexpired_tally (.complete ⟨1⟩ _) trivial (alive_after _).2.2.2 trivial⟩
          (.nil _))))

/-- On Kafka a task that has been claimed and completed is counted no more, and the one that came
in between is.  On Redis a task that waits is counted. -/
theorem sizes_agree_sample :
    ((countedAfter 4).1.1.2.size none = 1 ∧ (countedAfter 4).1.1.2.size (some "globex") = 1 ∧
      Tally KafkaSystem.Open (countedAfter 4).1.1.2.size (countedAfter 4).1.2
        (countedAfter 4).2) ∧
    ∃ x : ((RedisTaskQueue × RedisTaskStore) × CancelNotes) × Finset String,
      ((RedisTaskQueue.size none).run 0 x.1.1.2).1 = 1 ∧ Tally RedisTaskQueue.Waits
        (fun tenantId ↦ ((RedisTaskQueue.size tenantId).run 0 x.1.1.2).1) x.1.2 x.2 := by
  obtain ⟨hkafka, hredis⟩ := sizes_agree "lip" 1 60 { consumer := "worker" }
  constructor
  · have halive : KafkaSystem.Alive (0, []) (countedAfter 4).1.1 :=
      fun tp record hr ↦ (alive_after []).2.2.2 tp record hr
    exact ⟨by decide +kernel, by decide +kernel, hkafka _ _ run_counted (0, []) halive⟩
  · have hempty : RedisTaskQueue.Alive 0 ({ consumer := "worker" }, {}) :=
      fun _ _ _ h ↦ by cases h
    have hrun : Run (Step.Only RedisTaskQueue.Rests
        (RedisTaskQueue.backend.Unexpired RedisTaskQueue.Alive))
        ((({ consumer := "worker" }, {}), {}), ∅) [(0, .enqueue counted 0)] _ :=
      .cons ⟨⟨by decide, le_rfl⟩, unexpired_tally (.enqueue counted 0) trivial hempty rfl⟩ (.nil _)
    exact ⟨_, rfl, hredis _ _ hrun 0 alive_counted⟩

/-- On Kafka a task that is put back is counted twice.  On Redis a task that is claimed is still
counted. -/
theorem sizes_disagree :
    (¬ KafkaSystem.backend.CountsWhen (fun _ x ↦ x.2.size) KafkaSystem.Alive KafkaSystem.Open
      (fun _ _ ↦ True) ({}, KafkaTaskQueue.new "lip" 1 60)) ∧
    ¬ RedisTaskQueue.backend.CountsWhen
      (fun now x tenantId ↦ ((RedisTaskQueue.size tenantId).run now x.2).1) RedisTaskQueue.Alive
      RedisTaskQueue.Waits (fun _ _ ↦ True) ({ consumer := "worker" }, {}) := by
  constructor
  · intro h
    let q := KafkaTaskQueue.new "lip" 1 60
    have hempty : KafkaSystem.Alive (0, [.sent 0]) ({}, KafkaTaskQueue.new "lip" 1 60) :=
      fun _ _ hr ↦ by cases hr
    have hrecord : (KafkaTaskQueue.recordOf 0 counted 0).task.isExpired 0 = false := rfl
    have hsent : ∀ q answers, KafkaSystem.Alive (0, answers) (countedTopics, q) :=
      fun q answers ↦ hempty.append _ q hrecord
    have hpoll : countedTopics.tasks.poll ⟨"lip.tasks.normal", 0⟩
      = some (KafkaTaskQueue.recordOf 0 counted 0, _) := rfl
    have hread : ∀ q answers, KafkaSystem.Alive (0, answers) ({ countedTopics with
        tasks := _ }, q) :=
      fun q answers ↦ (hsent q answers).poll answers hpoll
    have hrun : Run (Step.Only (fun _ _ ↦ True)
        (KafkaSystem.backend.Unexpired KafkaSystem.Alive))
        ((({}, KafkaTaskQueue.new "lip" 1 60), {}), ∅)
        [((0, [.sent 0]), .enqueue counted 0), (claiming, .dequeue none),
          (retrying, .fail ⟨1⟩ "FAILED" "" true)] _ :=
      .cons ⟨trivial, unexpired_tally (.enqueue counted 0) trivial hempty rfl⟩
        (.cons ⟨trivial, unexpired_tally (.dequeue none) rfl (hsent _ _) trivial⟩
          (.cons ⟨trivial, unexpired_tally (.fail ⟨1⟩ "FAILED" "" true) trivial (hread _ _)
            trivial⟩ (.nil _)))
    obtain ⟨⟨ids, hids, htotal⟩, -⟩ := h _ _ hrun (0, [])
      ((hread q []).append ⟨"lip.tasks.normal", 0⟩ q rfl)
    have htotal : 2 = ids.card := htotal
    have hsub : ids ⊆ {⟨1⟩} := by
      intro id hid
      rw [Finset.mem_singleton]
      by_contra hne
      have hopen : KafkaSystem.Open (((({} : CancelNotes).reach ⟨1⟩ .waiting).reach ⟨1⟩
        .claimed).reach ⟨1⟩ .waiting |>.phase id) := (hids id).mp hid
      rw [CancelNotes.phase_reach_of_ne hne, CancelNotes.phase_reach_of_ne hne,
        CancelNotes.phase_reach_of_ne hne] at hopen
      rcases hopen with hopen | hopen
      · cases hopen
      · cases hopen
    have hle := Finset.card_le_card hsub
    rw [← htotal, Finset.card_singleton] at hle
    omega
  · intro h
    have hempty : RedisTaskQueue.Alive 0 ({ consumer := "worker" }, {}) :=
      fun _ _ _ h ↦ by cases h
    have hrun : Run (Step.Only (fun _ _ ↦ True)
        (RedisTaskQueue.backend.Unexpired RedisTaskQueue.Alive))
        ((({ consumer := "worker" }, {}), {}), ∅)
        [(0, .enqueue counted 0), (0, .dequeue none)] _ :=
      .cons ⟨trivial, unexpired_tally (.enqueue counted 0) trivial hempty rfl⟩
        (.cons ⟨trivial, unexpired_tally (.dequeue none) rfl alive_counted trivial⟩ (.nil _))
    have halive : RedisTaskQueue.Alive 0 (RedisTaskQueue.backend.answer
        (RedisTaskQueue.backend.answer ({ consumer := "worker" }, {}) (0, .enqueue counted 0)).2
        (0, .dequeue none)).2 := by
      intro id status expiry hget
      have hget : (Dict.insert (RedisTaskQueue.backend.answer ({ consumer := "worker" }, {})
        (0, .enqueue counted 0)).2.2.status ⟨1⟩ (.processing, none)).get? id
          = some (status, some expiry) := hget
      rw [Dict.get?_insert] at hget
      split at hget
      · cases hget
      · exact alive_counted id status expiry hget
    obtain ⟨⟨ids, hids, htotal⟩, -⟩ := h _ _ hrun 0 halive
    have htotal : 1 = ids.card := htotal
    obtain ⟨id, hid⟩ := Finset.card_pos.mp (htotal ▸ Nat.one_pos)
    have hwaits : ((({} : CancelNotes).reach ⟨1⟩ .waiting).reach ⟨1⟩ .claimed).phase id
      = .waiting := (hids id).mp hid
    by_cases hne : id = ⟨1⟩
    · rw [hne, CancelNotes.phase_reach_self] at hwaits
      cases hwaits
    · rw [CancelNotes.phase_reach_of_ne hne, CancelNotes.phase_reach_of_ne hne] at hwaits
      cases hwaits

end SemanticBus
