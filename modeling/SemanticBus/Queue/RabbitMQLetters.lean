import SemanticBus.Queue.DeadLetters

/-!
# The messages of the RabbitMQ queue

A task has at most one message at the broker: waiting in a queue, delayed, or delivered
and not acknowledged.  A `Ledger` says which messages an operation of the broker adds and
takes away, and which of them it puts in the dead letter queue.

A message that is acknowledged is gone, and that is how `fail` treats the task that it
gives up.  So the dead letter queue is as it should be as long as nothing is given up, and
no task expires that was put back (`buried_once`).
-/

namespace SemanticBus

namespace RabbitBroker

/-- The messages of a task: waiting, delayed, or delivered and not acknowledged. -/
def copies (b : RabbitBroker) (id : UUID) : Nat :=
  (TaskPriority.all.flatMap b.ready).countP (·.taskId = id)
    + b.delayed.countP (·.2.taskId = id)
    + b.unacked.entries.countP (·.2.2.taskId = id)

/-- The tasks in the dead letter queue. -/
def letters (b : RabbitBroker) : List UUID := b.dlq.map TaskPayload.taskId

/-- What an operation takes away and adds, and what it puts in the dead letter queue; a
delivery that was not there has a new tag. -/
structure Ledger (b b' : RabbitBroker) (removed added dead : List UUID) : Prop where
  copies : ∀ id, b'.copies id + removed.count id = b.copies id + added.count id
  letters : b'.letters = b.letters ++ dead
  nextTag : b.nextTag ≤ b'.nextTag
  unacked : ∀ tag delivery, b'.unacked.get? tag = some delivery →
    b.unacked.get? tag = some delivery ∨ b.nextTag ≤ tag ∧ tag < b'.nextTag

variable {b b' b'' : RabbitBroker} {id : UUID} {tag : Nat} {task : TaskPayload}
  {priority : TaskPriority} {delivery : TaskPriority × TaskPayload}
  {removed added dead removed' added' dead' : List UUID}

theorem Ledger.refl (b : RabbitBroker) : Ledger b b [] [] [] :=
  ⟨fun _ ↦ rfl, (List.append_nil _).symm, le_rfl, fun _ _ h ↦ .inl h⟩

theorem Ledger.trans (h : Ledger b b' removed added dead)
    (h' : Ledger b' b'' removed' added' dead') :
    Ledger b b'' (removed ++ removed') (added ++ added') (dead ++ dead') where
  copies id := by
    have hcopies := h.copies id
    have hcopies' := h'.copies id
    rw [List.count_append, List.count_append]
    omega
  letters := by rw [h'.letters, h.letters, List.append_assoc]
  nextTag := h.nextTag.trans h'.nextTag
  unacked tag delivery hget := by
    rcases h'.unacked tag delivery hget with hget | ⟨hle, hlt⟩
    · rcases h.unacked tag delivery hget with hget | ⟨hle, hlt⟩
      · exact .inl hget
      · exact .inr ⟨hle, hlt.trans_le h'.nextTag⟩
    · exact .inr ⟨h.nextTag.trans hle, hlt⟩

/-! ## The queues -/

/-- Counting what waits after one of the queues has changed. -/
theorem countP_update (ready : TaskPriority → List TaskPayload) (priority : TaskPriority)
    (messages : List TaskPayload) (p : TaskPayload → Bool) :
    (TaskPriority.all.flatMap (Function.update ready priority messages)).countP p
        + (ready priority).countP p
      = (TaskPriority.all.flatMap ready).countP p + messages.countP p := by
  simp only [TaskPriority.all, List.flatMap_cons, List.flatMap_nil, List.countP_append,
    List.append_nil]
  cases priority with
  | critical | high | normal | low | background =>
      simp [Function.update]
      omega

theorem countP_singleton_eq (task : TaskPayload) (id : UUID) :
    [task].countP (·.taskId = id) = [task.taskId].count id := by
  rw [List.countP_singleton, List.count_singleton]
  by_cases h : task.taskId = id
  · simp [h]
  · simp [h]

/-- A message that is put in a queue. -/
theorem ledger_ready {messages : List TaskPayload}
    (hmessages : ∀ p : TaskPayload → Bool,
      messages.countP p = (b.ready priority).countP p + [task].countP p) :
    Ledger b { b with ready := Function.update b.ready priority messages } [] [task.taskId] [] := by
  refine ⟨fun id ↦ ?_, (List.append_nil _).symm, le_rfl, fun _ _ h ↦ .inl h⟩
  have hupdate := countP_update b.ready priority messages (·.taskId = id)
  rw [hmessages, countP_singleton_eq] at hupdate
  simp only [copies, List.count_nil]
  omega

theorem ledger_publish (b : RabbitBroker) (priority : TaskPriority) (task : TaskPayload) :
    Ledger b (b.publish priority task) [] [task.taskId] [] :=
  ledger_ready fun _ ↦ List.countP_append

theorem ledger_requeue (b : RabbitBroker) (delivery : TaskPriority × TaskPayload) :
    Ledger b (b.requeue delivery) [] [delivery.2.taskId] [] := by
  refine ledger_ready fun p ↦ ?_
  rw [List.countP_cons, List.countP_singleton]

/-- Putting deliveries back in their queues. -/
theorem copies_foldl_requeue (deliveries : List (TaskPriority × TaskPayload)) (b : RabbitBroker)
    (id : UUID) :
    (deliveries.foldl requeue b).copies id
      = b.copies id + deliveries.countP (·.2.taskId = id) := by
  induction deliveries generalizing b with
  | nil => rfl
  | cons delivery deliveries ih =>
      have hledger := (ledger_requeue b delivery).copies id
      rw [List.foldl_cons, ih, List.countP_cons]
      rw [List.count_nil, List.count_singleton] at hledger
      by_cases hid : delivery.2.taskId = id
      · rw [hid, beq_self_eq_true, if_pos rfl] at hledger
        simp only [hid, decide_true, if_true]
        omega
      · rw [beq_false_of_ne hid, if_neg Bool.false_ne_true] at hledger
        simp only [hid, decide_false, Bool.false_eq_true, if_false]
        omega

theorem rest_foldl_requeue (deliveries : List (TaskPriority × TaskPayload)) (b : RabbitBroker) :
    (deliveries.foldl requeue b).dlq = b.dlq ∧
      (deliveries.foldl requeue b).unacked = b.unacked ∧
      (deliveries.foldl requeue b).nextTag = b.nextTag := by
  induction deliveries generalizing b with
  | nil => exact ⟨rfl, rfl, rfl⟩
  | cons delivery deliveries ih => exact ih (b.requeue delivery)

theorem ledger_closeChannel (b : RabbitBroker) : Ledger b b.closeChannel [] [] [] := by
  obtain ⟨hdlq, hunacked, htag⟩ := rest_foldl_requeue b.unacked.values.reverse b
  refine ⟨fun id ↦ ?_, ?_, htag.ge, fun tag delivery h ↦ ?_⟩
  · have hcopies : (b.unacked.values.reverse.foldl requeue b).copies id
        = b.copies id + b.unacked.entries.countP (·.2.2.taskId = id) := by
      rw [copies_foldl_requeue, List.countP_reverse, Dict.values, List.countP_map]
      rfl
    have hempty : b.closeChannel.copies id + b.unacked.entries.countP (·.2.2.taskId = id)
        = (b.unacked.values.reverse.foldl requeue b).copies id := by
      rw [copies, copies, hunacked]
      rfl
    rw [List.count_nil]
    omega
  · rw [letters, closeChannel, hdlq, List.append_nil]
    rfl
  · cases h

theorem ledger_declareDelay {ttl : Int} (h : b.declareDelay ttl priority = some b') :
    Ledger b b' [] [] [] := by
  unfold declareDelay at h
  split at h
  · obtain rfl := Option.some.inj h
    exact ⟨fun _ ↦ rfl, (List.append_nil _).symm, le_rfl, fun _ _ h ↦ .inl h⟩
  · split at h
    · obtain rfl := Option.some.inj h
      exact .refl b
    · cases h

theorem ledger_delayed (b : RabbitBroker) (ttl : Int) (task : TaskPayload) :
    Ledger b { b with delayed := b.delayed ++ [(ttl, task)] } [] [task.taskId] [] := by
  refine ⟨fun id ↦ ?_, (List.append_nil _).symm, le_rfl, fun _ _ h ↦ .inl h⟩
  have hsingleton := countP_singleton_eq task id
  rw [List.countP_singleton] at hsingleton
  simp only [copies, List.count_nil, List.countP_append, List.countP_singleton]
  omega

/-! ## Deliveries -/

def Tagged (b : RabbitBroker) : Prop :=
  ∀ tag delivery, b.unacked.get? tag = some delivery → tag < b.nextTag

theorem Tagged.of_ledger (h : b.Tagged) (hledger : Ledger b b' removed added dead) : b'.Tagged := by
  intro tag delivery hget
  rcases hledger.unacked tag delivery hget with hget | ⟨-, hlt⟩
  · exact (h tag delivery hget).trans_le hledger.nextTag
  · exact hlt

/-- A delivered message was waiting. -/
theorem ledger_get (hb : b.Tagged) (h : b.get priority = some (tag, task, b')) :
    Ledger b b' [] [] [] ∧ tag = b.nextTag ∧ b'.unacked.get? tag = some (priority, task) ∧
      b.ready priority = task :: b'.ready priority ∧
      (∀ p, p ≠ priority → b'.ready p = b.ready p) := by
  unfold get at h
  cases hready : b.ready priority with
  | nil =>
      rw [hready] at h
      cases h
  | cons task' rest =>
      rw [hready] at h
      obtain ⟨rfl, rfl, rfl⟩ : _ ∧ _ ∧ _ := by simpa using h
      have hnew : b.unacked.get? b.nextTag = none := by
        cases hget : b.unacked.get? b.nextTag with
        | none => rfl
        | some delivery => exact absurd (hb _ _ hget) (lt_irrefl _)
      refine ⟨⟨fun id ↦ ?_, (List.append_nil _).symm, Nat.le_succ _, fun tag delivery hget ↦ ?_⟩, rfl,
        Dict.get?_insert_self _ _ _, ?_, fun p hp ↦ Function.update_of_ne hp _ _⟩
      · have hupdate := countP_update b.ready priority rest (·.taskId = id)
        rw [hready, List.countP_cons] at hupdate
        simp only [copies, List.count_nil, Dict.entries_insert_of_get?_none _ hnew,
          List.countP_append, List.countP_singleton]
        omega
      · have hget : (b.unacked.insert b.nextTag (priority, task')).get? tag = some delivery := hget
        rw [Dict.get?_insert] at hget
        split at hget
        · rename_i htag
          exact .inr ⟨htag.ge, htag ▸ Nat.lt_succ_self _⟩
        · exact .inl hget
      · exact congrArg (task' :: ·) (Function.update_self priority rest b.ready).symm

/-- A delivery that is acknowledged is gone. -/
theorem ledger_erase (h : b.unacked.get? tag = some delivery) :
    Ledger b { b with unacked := b.unacked.erase tag } [delivery.2.taskId] [] [] := by
  refine ⟨fun id ↦ ?_, (List.append_nil _).symm, le_rfl, fun j d hget ↦ ?_⟩
  · have hperm := (Dict.perm_erase h).countP_eq (fun e ↦ e.2.2.taskId = id)
    have hsingleton := countP_singleton_eq delivery.2 id
    rw [List.countP_singleton] at hsingleton
    rw [List.countP_cons] at hperm
    have hperm : _ = _ + (if decide (delivery.2.taskId = id) = true then 1 else 0) := hperm
    simp only [copies, List.count_nil]
    omega
  · have hget : (b.unacked.erase tag).get? j = some d := hget
    rw [Dict.get?_erase] at hget
    exact .inl (Option.ite_none_left_eq_some.mp hget).2

theorem ledger_ack (h : b.ack tag = some b') : ∃ delivery, b.unacked.get? tag = some delivery ∧
    Ledger b b' [delivery.2.taskId] [] [] := by
  obtain ⟨delivery, hget, rfl⟩ := Option.map_eq_some_iff.mp h
  exact ⟨delivery, hget, ledger_erase hget⟩

/-- A delivery that is put back. -/
theorem ledger_reject_requeue (hget : b.unacked.get? tag = some delivery) :
    ∃ b', b.reject tag true = some b' ∧ Ledger b b' [] [] [] ∧
      (∀ p, b'.ready p = if p = delivery.1 then delivery.2 :: b.ready p else b.ready p) := by
  refine ⟨({ b with unacked := b.unacked.erase tag }).requeue delivery, ?_, ?_, fun p ↦ ?_⟩
  · rw [reject, hget]
    rfl
  · have hledger := (ledger_erase hget).trans (ledger_requeue _ delivery)
    refine ⟨fun id ↦ ?_, hledger.letters, hledger.nextTag, hledger.unacked⟩
    have hcopies := hledger.copies id
    rw [List.append_nil, List.nil_append] at hcopies
    rw [List.count_nil]
    omega
  · show Function.update b.ready delivery.1 (delivery.2 :: b.ready delivery.1) p = _
    by_cases hp : p = delivery.1
    · rw [if_pos hp, hp, Function.update_self]
    · rw [if_neg hp, Function.update_of_ne hp]

/-- A delivery that is rejected is a dead letter. -/
theorem ledger_reject (hget : b.unacked.get? tag = some delivery) :
    ∃ b', b.reject tag false = some b' ∧
      Ledger b b' [delivery.2.taskId] [] [delivery.2.taskId] ∧ b'.ready = b.ready := by
  refine ⟨{ b with unacked := b.unacked.erase tag, dlq := b.dlq ++ [delivery.2] }, ?_, ?_, rfl⟩
  · rw [reject, hget]
    rfl
  · have hledger := ledger_erase hget
    refine ⟨hledger.copies, ?_, hledger.nextTag, hledger.unacked⟩
    rw [letters, List.map_append]
    rfl

/-! ## What the broker does by itself -/

/-- The message that an event makes a dead letter. -/
def expires (b : RabbitBroker) : RabbitEvent → Option TaskPayload
  | .expired priority index => (b.ready priority)[index]?
  | _ => none

/-- Taking out the element at an index. -/
theorem countP_eraseIdx {α : Type} {l : List α} {index : Nat} {a : α} (h : l[index]? = some a)
    (p : α → Bool) : (l.eraseIdx index).countP p + [a].countP p = l.countP p := by
  obtain ⟨hlt, rfl⟩ := List.getElem?_eq_some_iff.mp h
  have hperm := (List.getElem_cons_eraseIdx_perm hlt).countP_eq p
  rw [List.countP_cons] at hperm
  rw [List.countP_singleton]
  exact hperm

theorem ledger_happen (b : RabbitBroker) (event : RabbitEvent) :
    let dead := ((b.expires event).map TaskPayload.taskId).toList
    Ledger b (b.happen event) dead [] dead := by
  cases event with
  | delayOver index =>
      show Ledger b (b.happen (.delayOver index)) [] [] []
      unfold happen
      dsimp only
      split
      · exact .refl b
      · rename_i ttl task hdelayed
        split
        · exact .refl b
        · rename_i priority _
          have hledger := ledger_publish { b with delayed := b.delayed.eraseIdx index } priority task
          refine ⟨fun id ↦ ?_, hledger.letters, hledger.nextTag, hledger.unacked⟩
          have hcopies := hledger.copies id
          have herase := countP_eraseIdx hdelayed (·.2.taskId = id)
          have hsingleton := countP_singleton_eq task id
          rw [List.countP_singleton] at hsingleton herase
          have herase : _ + (if decide (task.taskId = id) = true then 1 else 0) = _ := herase
          rw [List.count_nil] at hcopies ⊢
          simp only [copies] at hcopies ⊢
          omega
  | queueExpired ttl =>
      show Ledger b (b.happen (.queueExpired ttl)) [] [] []
      unfold happen
      dsimp only
      split
      · exact .refl b
      · exact ⟨fun _ ↦ rfl, (List.append_nil _).symm, le_rfl, fun _ _ h ↦ .inl h⟩
  | expired priority index =>
      unfold happen expires
      dsimp only
      cases hmessage : (b.ready priority)[index]? with
      | none => exact .refl b
      | some task =>
          refine ⟨fun id ↦ ?_, ?_, le_rfl, fun _ _ h ↦ .inl h⟩
          · have hupdate := countP_update b.ready priority ((b.ready priority).eraseIdx index)
              (·.taskId = id)
            have herase := countP_eraseIdx hmessage (·.taskId = id)
            rw [countP_singleton_eq] at herase
            simp only [copies, List.count_nil, Option.map_some, Option.toList_some]
            omega
          · rw [letters, List.map_append]
            rfl

/-- The messages that become dead letters while the broker works by itself. -/
def expiring (b : RabbitBroker) : List RabbitEvent → List TaskPayload
  | [] => []
  | event :: events => (b.expires event).toList ++ (b.happen event).expiring events

theorem ledger_happens (b : RabbitBroker) (events : List RabbitEvent) :
    let dead := (b.expiring events).map TaskPayload.taskId
    Ledger b (events.foldl happen b) dead [] dead := by
  induction events generalizing b with
  | nil => exact .refl b
  | cons event events ih =>
      have hledger := (ledger_happen b event).trans (ih (b.happen event))
      rw [expiring, List.map_append]
      rw [Option.toList_map] at hledger
      exact hledger

end RabbitBroker

/-! ## The process -/

namespace RabbitMQTaskQueue

open RabbitBroker

variable {q q' : RabbitMQTaskQueue} {b b' : RabbitBroker} {now : Time} {tenantId : Option String}
  {id : UUID} {removed added dead : List UUID}

/-- The process knows tasks and deliveries by their ids. -/
structure Held (q : RabbitMQTaskQueue) : Prop where
  tagged : q.broker.Tagged
  known : ∀ id task, q.tasks.get? id = some task → task.taskId = id
  pending : ∀ id tag, q.pendingMessages.get? id = some tag → tag < q.broker.nextTag ∧
    ∀ delivery, q.broker.unacked.get? tag = some delivery → delivery.2.taskId = id

theorem Held.of_ledger (h : Held q) (hledger : Ledger q.broker q'.broker removed added dead)
    (hknown : ∀ id task, q'.tasks.get? id = some task → task.taskId = id)
    (hpending : ∀ id tag, q'.pendingMessages.get? id = some tag →
      q.pendingMessages.get? id = some tag) : Held q' := by
  refine ⟨h.tagged.of_ledger hledger, hknown, fun id tag hget ↦ ?_⟩
  obtain ⟨hlt, hid⟩ := h.pending id tag (hpending id tag hget)
  refine ⟨hlt.trans_le hledger.nextTag, fun delivery hdelivery ↦ ?_⟩
  rcases hledger.unacked tag delivery hdelivery with hold | ⟨hle, -⟩
  · exact hid delivery hold
  · exact absurd hlt (not_lt_of_ge hle)

theorem known_insert {task : TaskPayload} {tasks : Dict UUID TaskPayload}
    (h : ∀ id task, tasks.get? id = some task → task.taskId = id) :
    ∀ id task', (tasks.insert task.taskId task).get? id = some task' → task'.taskId = id := by
  intro id task' hget
  rw [Dict.get?_insert] at hget
  split at hget
  · rename_i hid
    exact (Option.some.inj hget) ▸ hid.symm
  · exact h id task' hget

theorem known_erase {tasks : Dict UUID TaskPayload}
    (h : ∀ id task, tasks.get? id = some task → task.taskId = id) :
    ∀ j task, (tasks.erase id).get? j = some task → task.taskId = j := by
  intro j task hget
  rw [Dict.get?_erase] at hget
  exact h j task (Option.ite_none_left_eq_some.mp hget).2

theorem of_get?_erase {pending : Dict UUID Nat} {j : UUID} {tag : Nat}
    (h : (pending.erase id).get? j = some tag) : pending.get? j = some tag := by
  rw [Dict.get?_erase] at h
  exact (Option.ite_none_left_eq_some.mp h).2

/-- What `enqueue` does: the task has a message more, or the queue is as it was. -/
theorem enqueue_cases (h : Held q) (task : TaskPayload) (delaySeconds : ℚ) :
    ∃ reply q', q.enqueue task delaySeconds = (reply, q') ∧ Held q' ∧
      (reply = .accepted task ∧ Ledger q.broker q'.broker [] [task.taskId] [] ∨
        (∃ error, reply = .raised error) ∧ Ledger q.broker q'.broker [] [] []) := by
  unfold enqueue
  split
  · exact ⟨_, _, rfl, h, .inr ⟨⟨_, rfl⟩, .refl _⟩⟩
  · split
    · dsimp only
      split
      · have hledger := ledger_closeChannel q.broker
        exact ⟨_, _, rfl, h.of_ledger hledger h.known (fun _ _ hget ↦ hget),
          .inr ⟨⟨_, rfl⟩, hledger⟩⟩
      · rename_i broker hdeclare
        have hledger := (ledger_declareDelay hdeclare).trans
          (ledger_delayed broker ⌊delaySeconds * 1000⌋ task)
        exact ⟨_, _, rfl, h.of_ledger hledger (known_insert h.known) (fun _ _ hget ↦ hget),
          .inl ⟨rfl, hledger⟩⟩
    · have hledger := ledger_publish q.broker task.priority task
      exact ⟨_, _, rfl, h.of_ledger hledger (known_insert h.known) (fun _ _ hget ↦ hget),
        .inl ⟨rfl, hledger⟩⟩

/-- The tasks that a `dequeue` rejects because they are expired: of the messages that are next in
their queues, those before the one that it returns. -/
def rejecting (b : RabbitBroker) (now : Time) (tenantId : Option String) :
    List TaskPriority → List TaskPayload
  | [] => []
  | priority :: priorities =>
      match (b.ready priority).head? with
      | none => rejecting b now tenantId priorities
      | some task =>
          if task.filteredOut tenantId then rejecting b now tenantId priorities
          else if task.isExpired now then task :: rejecting b now tenantId priorities
          else []

theorem rejecting_congr {priorities : List TaskPriority}
    (h : ∀ priority ∈ priorities, b'.ready priority = b.ready priority) :
    rejecting b' now tenantId priorities = rejecting b now tenantId priorities := by
  induction priorities with
  | nil => rfl
  | cons priority priorities ih =>
      rw [rejecting, rejecting, h priority List.mem_cons_self,
        ih fun p hp ↦ h p (List.mem_cons_of_mem _ hp)]

/-- The loop of `dequeue`: expired messages are dead letters, and no others change. -/
theorem readQueues_spec (now : Time) (tenantId : Option String) {priorities : List TaskPriority}
    (h : Held q) (hnodup : priorities.Nodup) :
    let dead := (rejecting q.broker now tenantId priorities).map TaskPayload.taskId
    Held (readQueues now tenantId priorities q).2 ∧
      Ledger q.broker (readQueues now tenantId priorities q).2.broker dead [] dead := by
  induction priorities generalizing q with
  | nil => exact ⟨h, .refl _⟩
  | cons priority priorities ih =>
      obtain ⟨hnot, hnodup⟩ := List.nodup_cons.mp hnodup
      have hne : ∀ p ∈ priorities, p ≠ priority := fun p hp hsame ↦ hnot (hsame ▸ hp)
      rw [readQueues, receive, rejecting]
      cases hget : q.broker.get priority with
      | none =>
          have hready : q.broker.ready priority = [] := by
            unfold RabbitBroker.get at hget
            split at hget
            · assumption
            · cases hget
          rw [hready]
          exact ih h hnodup
      | some message =>
          obtain ⟨tag, task, broker⟩ := message
          obtain ⟨hledger, htag, hdelivery, hready, hothers⟩ := ledger_get h.tagged hget
          rw [hready]
          by_cases hfiltered : task.filteredOut tenantId = true
          · -- the message goes back to where it was
            simp only [List.head?_cons, if_pos hfiltered]
            obtain ⟨broker', hreject, hback, hready'⟩ := ledger_reject_requeue hdelivery
            rw [hreject]
            have hledger' := hledger.trans hback
            have hsame : ∀ p ∈ priorities, broker'.ready p = q.broker.ready p := by
              intro p hp
              rw [hready', if_neg (hne p hp), hothers p (hne p hp)]
            rw [← rejecting_congr hsame]
            obtain ⟨hheld, hrest⟩ := ih (q := { q with broker := broker' })
              (h.of_ledger hledger' h.known fun _ _ hget ↦ hget) hnodup
            exact ⟨hheld, hledger'.trans hrest⟩
          · by_cases hexpired : task.isExpired now = true
            · -- the message is a dead letter
              simp only [List.head?_cons, if_neg hfiltered, if_pos hexpired]
              obtain ⟨broker', hreject, hdead, hready'⟩ := ledger_reject hdelivery
              rw [hreject]
              have hledger' := hledger.trans hdead
              have hsame : ∀ p ∈ priorities, broker'.ready p = q.broker.ready p := by
                intro p hp
                rw [hready', hothers p (hne p hp)]
              rw [← rejecting_congr hsame]
              obtain ⟨hheld, hrest⟩ := ih (q := { q with
                  broker := broker'
                  results := q.results.insert task.taskId (expiredResult now task.taskId) })
                (h.of_ledger hledger' h.known fun _ _ hget ↦ hget) hnodup
              exact ⟨hheld, hledger'.trans hrest⟩
            · -- the message is delivered
              simp only [List.head?_cons, if_neg hfiltered, if_neg hexpired]
              refine ⟨⟨h.tagged.of_ledger hledger, known_insert h.known, fun id tag' hpending ↦ ?_⟩,
                hledger⟩
              have hpending : (q.pendingMessages.insert task.taskId tag).get? id = some tag' :=
                hpending
              rw [Dict.get?_insert] at hpending
              split at hpending
              · rename_i hid
                obtain rfl := Option.some.inj hpending
                refine ⟨h.tagged.of_ledger hledger tag _ hdelivery, fun delivery hget' ↦ ?_⟩
                obtain rfl := Option.some.inj (hdelivery.symm.trans hget')
                exact hid.symm
              · obtain ⟨hlt, hid⟩ := h.pending id tag' hpending
                refine ⟨hlt.trans_le hledger.nextTag, fun delivery hget' ↦ ?_⟩
                rcases hledger.unacked tag' delivery hget' with hold | ⟨hle, -⟩
                · exact hid delivery hold
                · exact absurd hlt (not_lt_of_ge hle)

/-- The reply says that nothing came of the call. -/
def Vain (reply : WorkerReply) : Prop := reply = .done false ∨ ∃ error, reply = .raised error

/-- What `complete` does: it acknowledges the task's message. -/
theorem complete_cases (h : Held q) (id : UUID) (result : TaskResult) :
    ∃ reply q', q.complete id result = (reply, q') ∧ Held q' ∧
      (reply = .done true ∧ Ledger q.broker q'.broker [id] [] [] ∨
        Vain reply ∧ Ledger q.broker q'.broker [] [] []) := by
  unfold complete
  split
  · exact ⟨_, _, rfl, h, .inr ⟨.inl rfl, .refl _⟩⟩
  · rename_i tag hpending
    dsimp only
    split
    · exact ⟨_, _, rfl, h.of_ledger (.refl _) h.known (fun _ _ ↦ of_get?_erase),
        .inr ⟨.inr ⟨_, rfl⟩, .refl _⟩⟩
    · rename_i broker hack
      obtain ⟨delivery, hdelivery, hledger⟩ := ledger_ack hack
      rw [(h.pending id tag hpending).2 delivery hdelivery] at hledger
      exact ⟨_, _, rfl, h.of_ledger hledger (known_erase h.known) (fun _ _ ↦ of_get?_erase),
        .inl ⟨rfl, hledger⟩⟩

/-- A call fails a task that has a delivery to acknowledge, and does not put it back. -/
def GivesUp (q : RabbitMQTaskQueue) : QueueOp → Prop
  | .fail id _ _ retry => ∃ tag task, q.pendingMessages.get? id = some tag ∧
      q.broker.unacked.get? tag ≠ none ∧ q.tasks.get? id = some task ∧
      ¬ (retry = true ∧ task.canRetry = true)
  | _ => False

/-- What `fail` does: it acknowledges the task's message, and puts the task back or gives it
up. -/
theorem fail_cases (h : Held q) (now : Time) (id : UUID) (errorCode errorMessage : String)
    (retry : Bool) :
    ∃ reply q', q.fail now id errorCode errorMessage retry = (reply, q') ∧ Held q' ∧
      (reply = .done true ∧ (retry && (q.tasks.get? id).any TaskPayload.canRetry) = true ∧
          0 < q.broker.copies id ∧ Ledger q.broker q'.broker [id] [id] [] ∨
        q.GivesUp (.fail id errorCode errorMessage retry) ∨
        Vain reply ∧ ∃ removed, Ledger q.broker q'.broker removed [] []) := by
  have hforget : Held { q with pendingMessages := q.pendingMessages.erase id } :=
    h.of_ledger (.refl _) h.known (fun _ _ ↦ of_get?_erase)
  unfold fail
  dsimp only
  split
  · rename_i tag task hpending htask
    split
    · exact ⟨_, _, rfl, hforget, .inr (.inr ⟨.inr ⟨_, rfl⟩, [], .refl _⟩)⟩
    · rename_i broker hack
      obtain ⟨delivery, hdelivery, hledger⟩ := ledger_ack hack
      rw [(h.pending id tag hpending).2 delivery hdelivery] at hledger
      have hacked : Held { q with
          pendingMessages := q.pendingMessages.erase id
          broker := broker
          tasks := q.tasks.erase id } :=
        hforget.of_ledger hledger (known_erase h.known) (fun _ _ hget ↦ hget)
      split
      · rename_i hretry
        obtain ⟨reply, q', henqueue, hheld, hcases⟩ := enqueue_cases hacked
          { task with retryCount := task.retryCount + 1 }
          (backoff q.retryBaseDelay q.retryMaxDelay (task.retryCount + 1))
        rw [henqueue]
        rcases hcases with ⟨rfl, hadded⟩ | ⟨⟨error, rfl⟩, hkept⟩
        · have hid : task.taskId = id := h.known id task htask
          have hadded : Ledger broker q'.broker [] [id] [] := hid ▸ hadded
          refine ⟨_, _, rfl, hheld, .inl ⟨rfl, ?_, ?_, hledger.trans hadded⟩⟩
          · rw [htask, hretry.1]
            exact hretry.2
          · have hcopies := hledger.copies id
            rw [List.count_singleton_self, List.count_nil] at hcopies
            omega
        · exact ⟨_, _, rfl, hheld, .inr (.inr ⟨.inr ⟨_, rfl⟩, _, hledger.trans hkept⟩)⟩
      · rename_i hgiven
        have hheld : Held { q with
            pendingMessages := q.pendingMessages.erase id
            broker := broker
            tasks := q.tasks.erase id
            results := q.results.insert id (failedResult now task id errorCode errorMessage) } :=
          hacked.of_ledger (.refl _) (known_erase h.known) (fun _ _ hget ↦ hget)
        refine ⟨_, _, rfl, hheld, .inr (.inl ⟨tag, task, hpending, ?_, htask, hgiven⟩)⟩
        rw [hdelivery]
        exact Option.some_ne_none _
  · exact ⟨_, _, rfl, hforget, .inr (.inr ⟨.inl rfl, [], .refl _⟩)⟩

/-! ## The letters -/

def rejected (q : RabbitMQTaskQueue) (now : Time) : QueueOp → List TaskPayload
  | .dequeue tenantId =>
      if q.closed then []
      else rejecting q.broker now tenantId [.critical, .high, .normal, .low, .background]
  | _ => []

/-- Nothing is given up, and no task expires that was put back. -/
def Spares (x : (RabbitMQTaskQueue × CancelNotes) × Endings)
    (a : (Time × List RabbitEvent) × QueueOp) : Prop :=
  (∀ task ∈ x.1.1.broker.expiring a.1.2 ++ (x.1.1.elapse a.1.2).rejected a.1.1 a.2,
      x.2 task.taskId ≠ some .requeued) ∧
    ¬ (x.1.1.elapse a.1.2).GivesUp a.2

/-- What the messages of a task can be, by how it was acknowledged last. -/
def Accounted (copies letters : Nat) (phase : TaskPhase) : Option Ending → Prop
  | none => copies + letters ≤ 1 ∧ (phase = .absent → copies + letters = 0)
  | some .completed => copies = 0 ∧ letters = 0 ∧ phase ≠ .absent
  | some .requeued => copies ≤ 1 ∧ letters = 0 ∧ phase ≠ .absent
  | some .givenUp => False

theorem Accounted.mono {copies copies' letters letters' : Nat} {phase : TaskPhase}
    {ending : Option Ending} (h : Accounted copies letters phase ending)
    (hcopies : copies' ≤ copies) (hsum : copies' + letters' ≤ copies + letters)
    (hrequeued : ending = some .requeued → letters' ≤ letters) :
    Accounted copies' letters' phase ending := by
  cases ending with
  | none => exact ⟨hsum.trans h.1, fun hphase ↦ Nat.le_zero.mp (hsum.trans (h.2 hphase).le)⟩
  | some ending =>
      cases ending with
      | completed =>
          obtain ⟨hc, hl, hphase⟩ := h
          exact ⟨by omega, by omega, hphase⟩
      | requeued =>
          obtain ⟨hc, hl, hphase⟩ := h
          have hle := hrequeued rfl
          exact ⟨hcopies.trans hc, by omega, hphase⟩
      | givenUp => cases h

theorem Accounted.reach {copies letters : Nat} {phase phase' : TaskPhase} {ending : Option Ending}
    (h : Accounted copies letters phase ending) (hphase : phase' ≠ .absent) :
    Accounted copies letters phase' ending := by
  cases ending with
  | none => exact ⟨h.1, fun habsent ↦ absurd habsent hphase⟩
  | some ending =>
      cases ending with
      | completed | requeued => exact ⟨h.1, h.2.1, hphase⟩
      | givenUp => cases h

/-- A message that can be acknowledged is the only one of its task, which has no letter. -/
theorem Accounted.acked {copies letters : Nat} {phase : TaskPhase} {ending : Option Ending}
    (h : Accounted copies letters phase ending) (hpos : 0 < copies) :
    copies = 1 ∧ letters = 0 := by
  cases ending with
  | none =>
      have hsum := h.1
      omega
  | some ending =>
      cases ending with
      | completed => exact absurd h.1 hpos.ne'
      | requeued => exact ⟨le_antisymm h.1 hpos, h.2.1⟩
      | givenUp => cases h

/-- The messages of every task are accounted for. -/
structure LetterInv (x : (RabbitMQTaskQueue × CancelNotes) × Endings) : Prop where
  held : Held x.1.1
  accounted : ∀ id, Accounted (x.1.1.broker.copies id) (x.1.1.broker.letters.count id)
    (x.1.2.phase id) (x.2 id)

variable {notes : CancelNotes} {endings : Endings}

/-- Messages are lost, or become dead letters. -/
theorem LetterInv.lose (h : LetterInv ((q, notes), endings)) (hheld : Held q')
    (hledger : Ledger q.broker q'.broker removed [] dead)
    (hcount : ∀ id, dead.count id ≤ removed.count id)
    (hspared : ∀ id ∈ dead, endings id ≠ some .requeued) : LetterInv ((q', notes), endings) := by
  refine ⟨hheld, fun id ↦ ?_⟩
  have hcopies := hledger.copies id
  have hle := hcount id
  rw [List.count_nil] at hcopies
  show Accounted (q'.broker.copies id) (q'.broker.letters.count id) _ _
  rw [hledger.letters, List.count_append]
  refine (h.accounted id).mono ?_ ?_ fun hrequeued ↦ ?_
  · show _ ≤ q.broker.copies id
    omega
  · show _ ≤ q.broker.copies id + q.broker.letters.count id
    omega
  · show _ ≤ q.broker.letters.count id
    rw [List.count_eq_zero.mpr fun hmem ↦ hspared id hmem hrequeued, Nat.add_zero]

/-- A task comes to another phase. -/
theorem LetterInv.reach {phase : TaskPhase} (h : LetterInv ((q, notes), endings))
    (hphase : phase ≠ .absent) : LetterInv ((q, notes.reach id phase), endings) := by
  refine ⟨h.held, fun j ↦ ?_⟩
  show Accounted _ _ ((notes.reach id phase).phase j) _
  by_cases hj : j = id
  · rw [hj, CancelNotes.phase_reach_self]
    exact (h.accounted id).reach hphase
  · rw [CancelNotes.phase_reach_of_ne hj]
    exact h.accounted j

/-- One message of a task is taken away or added, and the task is acknowledged or waits. -/
theorem LetterInv.change {phase : TaskPhase} {endings' : Endings}
    (h : LetterInv ((q, notes), endings)) (hheld : Held q')
    (hledger : Ledger q.broker q'.broker removed added [])
    (hremoved : ∀ j ∈ removed, j = id) (hadded : ∀ j ∈ added, j = id)
    (hendings : ∀ j, j ≠ id → endings' j = endings j)
    (hid : Accounted (q'.broker.copies id) (q.broker.letters.count id) phase (endings' id)) :
    LetterInv ((q', notes.reach id phase), endings') := by
  refine ⟨hheld, fun j ↦ ?_⟩
  show Accounted (q'.broker.copies j) (q'.broker.letters.count j)
    ((notes.reach id phase).phase j) (endings' j)
  rw [hledger.letters, List.append_nil]
  by_cases hj : j = id
  · rw [hj, CancelNotes.phase_reach_self]
    exact hid
  · have hcopies := hledger.copies j
    rw [List.count_eq_zero.mpr fun hmem ↦ hj (hremoved j hmem),
      List.count_eq_zero.mpr fun hmem ↦ hj (hadded j hmem)] at hcopies
    have hcopies : q'.broker.copies j = q.broker.copies j := hcopies
    rw [CancelNotes.phase_reach_of_ne hj, hendings j hj, hcopies]
    exact h.accounted j

/-- A task that comes for the first time has left no message. -/
theorem Accounted.of_absent {copies letters : Nat} {ending : Option Ending}
    (h : Accounted copies letters .absent ending) : ending = none ∧ copies + letters = 0 := by
  cases ending with
  | none => exact ⟨rfl, h.2 rfl⟩
  | some ending =>
      cases ending with
      | completed | requeued => exact absurd rfl h.2.2
      | givenUp => cases h

section Served

variable {outcome : QueueOutcome} {retries : UUID → Bool} {task : TaskPayload} {delaySeconds : ℚ}
  {result : TaskResult} {errorCode errorMessage : String} {retry : Bool}

theorem LetterInv.served_enqueue (h : LetterInv ((q, notes), endings))
    (hfresh : notes.phase task.taskId = .absent)
    (hserve : ((q.enqueue task delaySeconds).1.outcome, (q.enqueue task delaySeconds).2)
      = (outcome, q')) :
    LetterInv ((q', notes.after retries (.enqueue task delaySeconds) outcome),
      endings.after retries (.enqueue task delaySeconds) outcome) := by
  have hheld₀ : Held q := h.held
  obtain ⟨reply, q₁, henqueue, hheld, hcases⟩ := enqueue_cases hheld₀ task delaySeconds
  rw [henqueue] at hserve
  obtain ⟨rfl, rfl⟩ : reply.outcome = outcome ∧ q₁ = q' := Prod.mk.inj hserve
  rcases hcases with ⟨rfl, hadded⟩ | ⟨⟨error, rfl⟩, hkept⟩
  · have haccounted : Accounted (q.broker.copies task.taskId)
        (q.broker.letters.count task.taskId) (notes.phase task.taskId)
        (endings task.taskId) := h.accounted task.taskId
    rw [hfresh] at haccounted
    obtain ⟨hending, hsum⟩ := haccounted.of_absent
    have hcopies := hadded.copies task.taskId
    rw [List.count_singleton_self, List.count_nil] at hcopies
    refine h.change hheld hadded (fun _ hmem ↦ by cases hmem)
      (fun _ hmem ↦ List.mem_singleton.mp hmem) (fun _ _ ↦ rfl) ?_
    show Accounted _ _ _ (endings task.taskId)
    rw [hending]
    refine ⟨?_, fun habsent ↦ by cases habsent⟩
    show q₁.broker.copies task.taskId + q.broker.letters.count task.taskId ≤ 1
    omega
  · exact h.lose hheld hkept (fun _ ↦ le_rfl) (fun _ hmem ↦ by cases hmem)

theorem LetterInv.served_dequeue (h : LetterInv ((q, notes), endings))
    (hspared : ∀ task ∈ q.rejected now (.dequeue tenantId), endings task.taskId ≠ some .requeued)
    (hserve : ((WorkerReply.dequeued (q.dequeue now tenantId).1).outcome,
      (q.dequeue now tenantId).2) = (outcome, q')) :
    LetterInv ((q', notes.after retries (.dequeue tenantId) outcome),
      endings.after retries (.dequeue tenantId) outcome) := by
  have hlost : LetterInv (((q.dequeue now tenantId).2, notes), endings) := by
    rw [dequeue]
    split
    · exact h
    · rename_i hopen
      have hnodup : [TaskPriority.critical, .high, .normal, .low, .background].Nodup := by
        decide
      obtain ⟨hheld, hrejected⟩ := readQueues_spec now tenantId h.held hnodup
      refine h.lose hheld hrejected (fun _ ↦ le_rfl)
        (List.forall_mem_map.mpr fun task htask ↦ hspared task ?_)
      show task ∈ if q.closed = true then [] else _
      rw [if_neg hopen]
      exact htask
  generalize q.dequeue now tenantId = r at hserve hlost
  obtain ⟨received, q₁⟩ := r
  obtain ⟨rfl, rfl⟩ : (WorkerReply.dequeued received).outcome = outcome ∧ q₁ = q' :=
    Prod.mk.inj hserve
  cases received with
  | none => exact hlost
  | some task => exact hlost.reach nofun

theorem LetterInv.served_complete (h : LetterInv ((q, notes), endings))
    (hserve : ((q.complete id result).1.outcome, (q.complete id result).2) = (outcome, q')) :
    LetterInv ((q', notes.after retries (.complete id result) outcome),
      endings.after retries (.complete id result) outcome) := by
  have hheld₀ : Held q := h.held
  obtain ⟨reply, q₁, hcomplete, hheld, hcases⟩ := complete_cases hheld₀ id result
  rw [hcomplete] at hserve
  obtain ⟨rfl, rfl⟩ : reply.outcome = outcome ∧ q₁ = q' := Prod.mk.inj hserve
  rcases hcases with ⟨rfl, hacked⟩ | ⟨hvain, hkept⟩
  · have hcopies := hacked.copies id
    rw [List.count_singleton_self, List.count_nil] at hcopies
    have hpos : 0 < q.broker.copies id := by omega
    obtain ⟨hone, hletters⟩ := (h.accounted id).acked hpos
    have hone : q.broker.copies id = 1 := hone
    refine h.change hheld hacked (fun _ hmem ↦ List.mem_singleton.mp hmem)
      (fun _ hmem ↦ by cases hmem) (fun j hj ↦ Function.update_of_ne hj _ _) ?_
    show Accounted _ _ _ (Function.update endings id (some .completed) id)
    rw [Function.update_self]
    exact ⟨by omega, hletters, nofun⟩
  · have hlost := h.lose hheld hkept (fun _ ↦ le_rfl) (fun _ hmem ↦ by cases hmem)
    rcases hvain with rfl | ⟨error, rfl⟩
    · exact hlost
    · exact hlost

theorem LetterInv.served_fail (h : LetterInv ((q, notes), endings))
    (hretries : retries id = (q.tasks.get? id).any TaskPayload.canRetry)
    (hnot : ¬ q.GivesUp (.fail id errorCode errorMessage retry))
    (hserve : ((q.fail now id errorCode errorMessage retry).1.outcome,
      (q.fail now id errorCode errorMessage retry).2) = (outcome, q')) :
    LetterInv ((q', notes.after retries (.fail id errorCode errorMessage retry) outcome),
      endings.after retries (.fail id errorCode errorMessage retry) outcome) := by
  have hheld₀ : Held q := h.held
  obtain ⟨reply, q₁, hfail, hheld, hcases⟩ :=
    fail_cases hheld₀ now id errorCode errorMessage retry
  rw [hfail] at hserve
  obtain ⟨rfl, rfl⟩ : reply.outcome = outcome ∧ q₁ = q' := Prod.mk.inj hserve
  rcases hcases with ⟨rfl, hretry, hpos, hput⟩ | hgiven | ⟨hvain, removed, hkept⟩
  · have hcopies := hput.copies id
    rw [List.count_singleton_self] at hcopies
    obtain ⟨hone, hletters⟩ := (h.accounted id).acked hpos
    have hone : q.broker.copies id = 1 := hone
    show LetterInv ((_, notes.reach id (if (retry && retries id) = true then _ else _)),
      Function.update endings id (some (if (retry && retries id) = true then _ else _)))
    rw [hretries, if_pos hretry, if_pos hretry]
    refine h.change hheld hput (fun _ hmem ↦ List.mem_singleton.mp hmem)
      (fun _ hmem ↦ List.mem_singleton.mp hmem) (fun j hj ↦ Function.update_of_ne hj _ _) ?_
    rw [Function.update_self]
    exact ⟨by omega, hletters, nofun⟩
  · exact absurd hgiven hnot
  · have hlost := h.lose hheld hkept (fun _ ↦ Nat.zero_le _) (fun _ hmem ↦ by cases hmem)
    rcases hvain with rfl | ⟨error, rfl⟩
    · exact hlost
    · exact hlost

end Served

/-- Every call keeps the invariant, if it gives nothing up and rejects no task that was put
back. -/
theorem LetterInv.served {events : List RabbitEvent} {call : WorkerCall} {outcome : QueueOutcome}
    (h : LetterInv ((q, notes), endings))
    (hfresh : TaskQueueBackend.Fresh (q, notes) call.op)
    (hspares : Spares ((q, notes), endings) ((now, events), call.op))
    (hserve : serve now call (q.elapse events) = (outcome, q')) :
    LetterInv ((q', notes.after (backend.retries (now, events) q) call.op outcome),
      endings.after (backend.retries (now, events) q) call.op outcome) := by
  obtain ⟨hdead, hnot⟩ := hspares
  -- what the broker does first
  have hledger : Ledger q.broker (q.elapse events).broker _ [] _ :=
    ledger_happens q.broker events
  have h' : LetterInv ((q.elapse events, notes), endings) := by
    refine h.lose (h.held.of_ledger hledger h.held.known fun _ _ hget ↦ hget) hledger
      (fun _ ↦ le_rfl) (List.forall_mem_map.mpr fun task htask ↦ ?_)
    exact hdead task (List.mem_append_left _ htask)
  cases call with
  | enqueue task delaySeconds => exact h'.served_enqueue hfresh hserve
  | dequeue tenantId =>
      refine h'.served_dequeue (fun task htask ↦ ?_) hserve
      exact hdead task (List.mem_append_right _ htask)
  | complete id result => exact h'.served_complete hserve
  | fail id errorCode errorMessage retry => exact h'.served_fail rfl hnot hserve

/-- What is completed or put back is not in the dead letter queue, as long as nothing is given up
and no task expires that was put back. -/
theorem buries_when (retryBaseDelay retryMaxDelay : ℚ) :
    backend.BuriesWhen (fun q ↦ q.broker.letters) Spares { retryBaseDelay, retryMaxDelay } := by
  refine TaskQueueBackend.buriesWhen_of_inv (I := LetterInv) ?_ (fun x h id ending hending ↦ ?_) ?_
  · refine ⟨⟨fun _ _ h ↦ ?_, fun _ _ h ↦ ?_, fun _ _ h ↦ ?_⟩, fun _ ↦ ⟨Nat.zero_le _, fun _ ↦ rfl⟩⟩
    · cases h
    · cases h
    · cases h
  · have haccounted := h.accounted id
    rw [hending] at haccounted
    cases ending with
    | completed | requeued => exact haccounted.2.1
    | givenUp => cases haccounted
  · rintro q notes endings ⟨now, events⟩ call outcome q' h hspares hfresh hexec
    have hserve : serve now call (q.elapse events) = (outcome, q') := by
      cases call with
      | enqueue | dequeue | complete | fail => exact hexec
    exact h.served hfresh hspares hserve

end RabbitMQTaskQueue

/-- In every run of enqueues, dequeues, completions and failures of distinct tasks: a task that was
given up is in the dead letter queue once, and one that was completed or put back is not.

On Kafka this is so if only claimed tasks are failed; on RabbitMQ if nothing is given up, and no
task expires that was put back. -/
theorem buried_once (topicPrefix : String) (retryBaseDelay retryMaxDelay : ℚ) :
    KafkaSystem.backend.BuriesWhen KafkaSystem.letters KafkaSystem.FailsClaimed
      ({}, KafkaTaskQueue.new topicPrefix retryBaseDelay retryMaxDelay) ∧
    RabbitMQTaskQueue.backend.BuriesWhen (fun q ↦ q.broker.letters) RabbitMQTaskQueue.Spares
      { retryBaseDelay, retryMaxDelay } := by
  constructor
  · exact KafkaSystem.buries_when topicPrefix retryBaseDelay retryMaxDelay
  · exact RabbitMQTaskQueue.buries_when retryBaseDelay retryMaxDelay

open TaskQueueBackend (deliveries_deliver)

def failing : TaskPayload := { taskId := ⟨1⟩, tenantId := "acme", createdAt := 0 }

/-- What a worker finds on Kafka that reads a record, and one that fails a task. -/
def reading : Time × List KafkaAnswer := (0, [.polled (some ⟨"lip.tasks.normal", 0⟩)])

def burying : Time × List KafkaAnswer := (0, [.committed, .sent 0])

/-- On Kafka a task that is given up is in the dead letter topic. -/
theorem buried_once_sample :
    ∃ x : ((KafkaBroker × KafkaTaskQueue) × CancelNotes) × Endings,
      x.2 ⟨1⟩ = some .givenUp ∧ Buried KafkaSystem.letters x := by
  have hrun : Run (Step.Only KafkaSystem.FailsClaimed KafkaSystem.backend.Deliveries)
      ((({}, KafkaTaskQueue.new "lip" 1 60), {}), fun _ ↦ none)
      [((0, [.sent 0]), .enqueue failing 0), (reading, .dequeue none),
        (burying, .fail ⟨1⟩ "FAILED" "" false)] _ :=
    .cons ⟨trivial, deliveries_deliver (.enqueue failing 0) rfl⟩
      (.cons ⟨trivial, deliveries_deliver (.dequeue none) trivial⟩
        (.cons ⟨rfl, deliveries_deliver (.fail ⟨1⟩ "FAILED" "" false) trivial⟩
          (.nil _)))
  exact ⟨_, rfl, (buried_once "lip" 1 60).1 _ _ hrun⟩

/-- On Kafka a task that is failed while it waits is handed out, and failed again.  On RabbitMQ a
task that is given up is nowhere. -/
theorem buried_otherwise :
    (¬ KafkaSystem.backend.BuriesWhen KafkaSystem.letters (fun _ _ ↦ True)
      ({}, KafkaTaskQueue.new "lip" 1 60)) ∧
    ¬ RabbitMQTaskQueue.backend.BuriesWhen (fun q ↦ q.broker.letters) (fun _ _ ↦ True) {} := by
  constructor
  · intro h
    have hrun : Run (Step.Only (fun _ _ ↦ True) KafkaSystem.backend.Deliveries)
        ((({}, KafkaTaskQueue.new "lip" 1 60), {}), fun _ ↦ none)
        [((0, [.sent 0]), .enqueue failing 0), (burying, .fail ⟨1⟩ "FAILED" "" false),
          (reading, .dequeue none), (burying, .fail ⟨1⟩ "FAILED" "" false)] _ :=
      .cons ⟨trivial, deliveries_deliver (.enqueue failing 0) rfl⟩
        (.cons ⟨trivial, deliveries_deliver (.fail ⟨1⟩ "FAILED" "" false) trivial⟩
          (.cons ⟨trivial, deliveries_deliver (.dequeue none) trivial⟩
            (.cons ⟨trivial, deliveries_deliver (.fail ⟨1⟩ "FAILED" "" false) trivial⟩
          (.nil _))))
    have hcount : 2 = 1 := h _ _ hrun ⟨1⟩ .givenUp rfl
    cases hcount
  · intro h
    have hrun : Run (Step.Only (fun _ _ ↦ True) RabbitMQTaskQueue.backend.Deliveries)
        ((({} : RabbitMQTaskQueue), {}), fun _ ↦ none)
        [((0, []), .enqueue failing 0), ((0, []), .dequeue none),
          ((0, []), .fail ⟨1⟩ "FAILED" "" false)] _ :=
      .cons ⟨trivial, deliveries_deliver (.enqueue failing 0) rfl⟩
        (.cons ⟨trivial, deliveries_deliver (.dequeue none) trivial⟩
          (.cons ⟨trivial, deliveries_deliver (.fail ⟨1⟩ "FAILED" "" false) trivial⟩
          (.nil _)))
    have hcount : 0 = 1 := h _ _ hrun ⟨1⟩ .givenUp rfl
    cases hcount

end SemanticBus
