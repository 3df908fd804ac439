import Mathlib.Data.List.ReduceOption
import SemanticBus.Data.Run
import SemanticBus.Transport.ConnectionQueue

/-!
# The writer of an outbound queue

Producers, the writer task, its cancellation and the shutdown share one bounded queue.
`OutboundQueue` is that queue between any two points at which the event loop may switch:
the writer waits for an item or for the end of a send, a `put` waits for room, and a
`stop` waits for the task that it has cancelled.

Until the queue is closed at most one writer task exists, and after that no task sends
anything new, so what is sent is what was accepted, in order, one at a time
(`sent_prefix`).  Without the tasks and the calls in progress it is the `ConnectionQueue`
of the bus (`view_putNowait`, `loop_write`).
-/

namespace SemanticBus

/-- Where a writer task is: not started, waiting for an item, sending, or ended. -/
inductive WriterStage where
  | created
  | getting
  | sending (message : Message)
  | ended

/-- A writer task, and whether it was asked to cancel. -/
structure WriterTask where
  stage : WriterStage := .created
  cancelled : Bool := false

namespace WriterTask

def isSending (task : WriterTask) : Bool :=
  match task.stage with
  | .sending _ => true
  | _ => false

end WriterTask

/-- How a send ends: it returns, raises, or passes the cancellation on. -/
inductive SendResult where
  | returned
  | raised
  | cancelled
deriving DecidableEq

/-- An outbound queue with its writer tasks, the `put` calls that wait for room, the
`stop` calls that wait for a task, and what was accepted and sent. -/
structure OutboundQueue where
  maxSize : ℕ
  items : List (Option Message) := []
  closed : Bool := false
  tasks : List WriterTask := []
  writerTask : Option ℕ := none
  puts : List Message := []
  stops : List ℕ := []
  accepted : List Message := []
  sent : List Message := []

namespace OutboundQueue

/-- Whether the queue is at its capacity; a capacity of 0 is no bound. -/
def isFull (q : OutboundQueue) : Bool := q.maxSize ≠ 0 && q.maxSize ≤ q.items.length

def enqueue (q : OutboundQueue) (message : Message) : OutboundQueue :=
  { q with items := q.items ++ [some message], accepted := q.accepted ++ [message] }

def setTask (q : OutboundQueue) (i : ℕ) (task : WriterTask) : OutboundQueue :=
  { q with tasks := q.tasks.set i task }

/-! ## Starting and stopping -/

def start (q : OutboundQueue) : OutboundQueue :=
  match q.writerTask with
  | some _ => q
  | none => { q with tasks := q.tasks ++ [{}], writerTask := some q.tasks.length }

def cancel (q : OutboundQueue) (i : ℕ) : OutboundQueue :=
  match q.tasks[i]? with
  | none => q
  | some task => q.setTask i { task with cancelled := true }

/-- Signal the end, if there is room for it. -/
def signal (q : OutboundQueue) : OutboundQueue :=
  { q with
    closed := true
    items := if q.isFull then q.items else q.items ++ [none] }

/-- Close the queue and cancel the writer task; the rest waits for the task. -/
def stop (q : OutboundQueue) : OutboundQueue :=
  match q.writerTask with
  | none => q.signal
  | some i => { q.signal.cancel i with stops := q.stops ++ [i] }

/-- A call of `stop` whose task has ended returns. -/
def stopped (q : OutboundQueue) (k : ℕ) : Option OutboundQueue :=
  match q.stops[k]? with
  | none => none
  | some i =>
      match q.tasks[i]?.map WriterTask.stage with
      | some .ended => some { q with stops := q.stops.eraseIdx k, writerTask := none }
      | _ => none

/-! ## Putting -/

/-- Put a message on the queue without blocking. -/
def putNowait (q : OutboundQueue) (message : Message) : Except PyError OutboundQueue :=
  if q.closed then .error .runtimeError
  else if q.isFull then .error .queueFullError
  else .ok (q.enqueue message)

/-- Call `put`: it gives `False` if the queue is closed, and else waits for room. -/
def put (q : OutboundQueue) (message : Message) : OutboundQueue × Option Bool :=
  if q.closed then (q, some false) else ({ q with puts := q.puts ++ [message] }, none)

/-- A waiting `put` finds room and gives `True`, or its time is up and it gives `False`. -/
def finishPut (q : OutboundQueue) (k : ℕ) (timeout : Bool) : Option (OutboundQueue × Bool) :=
  match q.puts[k]? with
  | none => none
  | some message =>
      let q := { q with puts := q.puts.eraseIdx k }
      if timeout then some (q, false)
      else if q.isFull then none
      else some (q.enqueue message, true)

/-! ## The writer -/

/-- Take the oldest item and send it, or wait for one. -/
def take (q : OutboundQueue) (i : ℕ) (task : WriterTask) : OutboundQueue :=
  match q.items with
  | [] => q.setTask i { task with stage := .getting }
  | none :: items => { q with items := items }.setTask i { task with stage := .ended }
  | some message :: items =>
      { q with items := items, sent := q.sent ++ [message] }.setTask i
        { task with stage := .sending message }

def loop (q : OutboundQueue) (i : ℕ) (task : WriterTask) : OutboundQueue :=
  if q.closed then q.setTask i { task with stage := .ended } else q.take i task

/-- A writer task starts, or goes on after waiting for an item. -/
def resume (q : OutboundQueue) (i : ℕ) : Option OutboundQueue :=
  match q.tasks[i]? with
  | none => none
  | some task =>
      match task.stage with
      | .created =>
          some (if task.cancelled then q.setTask i { task with stage := .ended } else q.loop i task)
      | .getting =>
          if task.cancelled then some (q.setTask i { task with stage := .ended })
          else if q.items.isEmpty then none
          else some (q.take i task)
      | .sending _ | .ended => none

def finishSend (q : OutboundQueue) (i : ℕ) (result : SendResult) : Option OutboundQueue :=
  match q.tasks[i]? with
  | none => none
  | some task =>
      match task.stage, result with
      | .sending _, .returned => some (q.loop i task)
      | .sending _, .raised => some (q.setTask i { task with stage := .ended })
      | .sending _, .cancelled =>
          if task.cancelled then some (q.setTask i { task with stage := .ended }) else none
      | _, _ => none

/-! ## Runs -/

end OutboundQueue

inductive QueueStep where
  | start
  | stop
  | stopped (k : ℕ)
  | putNowait (message : Message)
  | put (message : Message)
  | finishPut (k : ℕ) (timeout : Bool)
  | resume (i : ℕ)
  | finishSend (i : ℕ) (result : SendResult)

namespace OutboundQueue

/-- The queue after a step, if the step is possible. -/
def step (q : OutboundQueue) : QueueStep → Option OutboundQueue
  | .start => some q.start
  | .stop => some q.stop
  | .stopped k => q.stopped k
  | .putNowait message =>
      match q.putNowait message with
      | .ok q' => some q'
      | .error _ => some q
  | .put message => some (q.put message).1
  | .finishPut k timeout => (q.finishPut k timeout).map Prod.fst
  | .resume i => q.resume i
  | .finishSend i result => q.finishSend i result

def sending (q : OutboundQueue) : ℕ := q.tasks.countP WriterTask.isSending

/-! ## What the writer does -/

variable {q q' : OutboundQueue} {i k : ℕ} {task : WriterTask} {message : Message}

/-- A task comes to rest: it has ended, or it waits and the queue is open. -/
inductive Rests (q : OutboundQueue) (i : ℕ) : OutboundQueue → Prop where
  | mk (task : WriterTask) (hidle : task.isSending = false)
      (hgetting : task.stage = .getting → q.closed = false) : Rests q i (q.setTask i task)

/-- A task takes the oldest item, and sends it if it is a message: the queue is open, or
the task waited for the item and nobody has cancelled it. -/
inductive Takes (q : OutboundQueue) (i : ℕ) : OutboundQueue → Prop where
  | mk (task task' : WriterTask) (item : Option Message) (items : List (Option Message))
      (htask : q.tasks[i]? = some task) (hitems : q.items = item :: items)
      (hfree : q.closed = false ∨ task.stage = .getting ∧ task.cancelled = false) :
      Takes q i
        ({ q with items := items, sent := q.sent ++ item.toList }.setTask i task')

theorem rests_or_takes_take (htask : q.tasks[i]? = some task)
    (hfree : q.closed = false ∨
      task.stage = .getting ∧ task.cancelled = false ∧ q.items.isEmpty = false) :
    q.Rests i (q.take i task) ∨ q.Takes i (q.take i task) := by
  have hfree' : q.closed = false ∨ task.stage = .getting ∧ task.cancelled = false :=
    hfree.imp_right fun h ↦ ⟨h.1, h.2.1⟩
  unfold take
  split
  · rename_i hitems
    refine .inl (.mk _ rfl ?_)
    intro _
    rcases hfree with hopen | ⟨-, -, hne⟩
    · exact hopen
    · rw [hitems] at hne
      cases hne
  · rename_i items hitems
    have htakes := Takes.mk task { task with stage := .ended } none items htask hitems hfree'
    rw [Option.toList_none, List.append_nil] at htakes
    exact .inr htakes
  · rename_i message items hitems
    exact .inr (.mk task { task with stage := .sending message } (some message) items htask hitems
      hfree')

theorem rests_end (task : WriterTask) : q.Rests i (q.setTask i { task with stage := .ended }) := by
  refine .mk _ rfl ?_
  rintro ⟨⟩

theorem rests_or_takes_loop (htask : q.tasks[i]? = some task) :
    q.Rests i (q.loop i task) ∨ q.Takes i (q.loop i task) := by
  unfold loop
  split
  · exact .inl (rests_end task)
  · rename_i hopen
    exact rests_or_takes_take htask (.inl (Bool.not_eq_true _ ▸ hopen))

theorem rests_or_takes_resume (h : q.resume i = some q') : q.Rests i q' ∨ q.Takes i q' := by
  unfold resume at h
  split at h
  · cases h
  · rename_i task htask
    split at h
    · obtain rfl := Option.some.inj h
      split
      · exact .inl (rests_end task)
      · exact rests_or_takes_loop htask
    · rename_i hstage
      split_ifs at h with hcancelled hempty
      · obtain rfl := Option.some.inj h
        exact .inl (rests_end task)
      · obtain rfl := Option.some.inj h
        exact rests_or_takes_take htask (.inr ⟨hstage, Bool.not_eq_true _ ▸ hcancelled,
          Bool.not_eq_true _ ▸ hempty⟩)
    · cases h
    · cases h

theorem rests_or_takes_finishSend {result : SendResult} (h : q.finishSend i result = some q') :
    q.Rests i q' ∨ q.Takes i q' := by
  unfold finishSend at h
  split at h
  · cases h
  · rename_i task htask
    split at h
    · obtain rfl := Option.some.inj h
      exact rests_or_takes_loop htask
    · obtain rfl := Option.some.inj h
      exact .inl (rests_end task)
    · split_ifs at h
      obtain rfl := Option.some.inj h
      exact .inl (rests_end task)
    · cases h

/-! ## The invariant -/

/-- The writer task is the only one that was ever created. -/
def Single (q : OutboundQueue) : Prop :=
  q.writerTask = none ∧ q.tasks = [] ∨ q.writerTask = some 0 ∧ ∃ task, q.tasks = [task]

theorem Single.setTask (h : q.Single) (i : ℕ) (task : WriterTask) : (q.setTask i task).Single := by
  rcases h with ⟨hnone, htasks⟩ | ⟨hsome, task₀, htasks⟩
  · refine .inl ⟨hnone, ?_⟩
    rw [OutboundQueue.setTask, htasks, List.set_nil]
  · refine .inr ⟨hsome, ?_⟩
    rw [OutboundQueue.setTask, htasks]
    cases i with
    | zero => exact ⟨task, rfl⟩
    | succ i => exact ⟨task₀, rfl⟩

theorem Single.sending_le (h : q.Single) : q.sending ≤ 1 := by
  refine List.countP_le_length.trans ?_
  rcases h with ⟨-, htasks⟩ | ⟨-, task, htasks⟩
  · rw [htasks]
    exact Nat.zero_le _
  · rw [htasks]
    exact le_rfl

/-- What holds of a queue of size `n` at any point: it holds what was accepted and not
yet sent, and not too much; an open queue has at most one task; and a task that still
waits on a closed queue has been cancelled. -/
structure Orderly (n : ℕ) (q : OutboundQueue) : Prop where
  pos : 0 < n
  maxSize : q.maxSize = n
  fits : q.items.length ≤ n
  conserved : q.sent ++ q.items.reduceOption = q.accepted
  opened : q.closed = false → q.stops = [] ∧ q.Single
  shut : q.closed = true → ∀ task ∈ q.tasks, task.stage = .getting → task.cancelled = true
  alone : q.sending ≤ 1

variable {n : ℕ}

theorem countP_set_le {α : Type*} {p : α → Bool} {l : List α} {i : ℕ} {a : α}
    (h : p a = true → ∀ b, l[i]? = some b → p b = true) : (l.set i a).countP p ≤ l.countP p := by
  by_cases hi : i < l.length
  · rw [List.countP_set hi]
    by_cases hb : p l[i] = true
    · have hpos : 0 < l.countP p := List.countP_pos_iff.mpr ⟨_, List.getElem_mem hi, hb⟩
      split_ifs
      · omega
      · omega
    · have ha : ¬ p a = true := fun ha ↦ hb (h ha _ (List.getElem?_eq_getElem hi))
      rw [if_neg hb, if_neg ha]
      omega
  · rw [List.set_eq_of_length_le (not_lt.mp hi)]

/-- A new queue. -/
theorem Orderly.new (hn : 0 < n) : Orderly n { maxSize := n } where
  pos := hn
  maxSize := rfl
  fits := hn.le
  conserved := rfl
  opened _ := ⟨rfl, .inl ⟨rfl, rfl⟩⟩
  shut := by rintro ⟨⟩
  alone := Nat.zero_le _

theorem Orderly.room (h : q.Orderly n) (hroom : q.isFull = false) : q.items.length < n := by
  simp only [isFull, Bool.and_eq_false_iff, decide_eq_false_iff_not, not_not, not_le,
    h.maxSize] at hroom
  rcases hroom with hzero | hlt
  · exact absurd hzero h.pos.ne'
  · exact hlt

theorem Orderly.enqueue (h : q.Orderly n) (hroom : q.isFull = false) (message : Message) :
    (q.enqueue message).Orderly n where
  pos := h.pos
  maxSize := h.maxSize
  fits := by
    rw [OutboundQueue.enqueue, List.length_append]
    exact h.room hroom
  conserved := by
    rw [OutboundQueue.enqueue, List.reduceOption_append, ← List.append_assoc, h.conserved]
    rfl
  opened := h.opened
  shut := h.shut
  alone := h.alone

theorem Orderly.start (h : q.Orderly n) : q.start.Orderly n := by
  unfold OutboundQueue.start
  split
  · exact h
  · rename_i hnone
    refine ⟨h.pos, h.maxSize, h.fits, h.conserved, ?_, ?_, ?_⟩
    · intro hopen
      obtain ⟨hstops, hsingle⟩ := h.opened hopen
      rcases hsingle with ⟨-, htasks⟩ | ⟨hsome, -⟩
      · rw [htasks]
        exact ⟨hstops, .inr ⟨rfl, {}, rfl⟩⟩
      · cases hnone.symm.trans hsome
    · intro hclosed task htask hgetting
      rcases List.mem_append.mp htask with htask | htask
      · exact h.shut hclosed task htask hgetting
      · cases List.mem_singleton.mp htask
        cases hgetting
    · rw [sending, List.countP_append]
      exact h.alone

theorem Orderly.stopped (h : q.Orderly n) (hq : q.stopped k = some q') : q'.Orderly n := by
  unfold OutboundQueue.stopped at hq
  split at hq
  · cases hq
  · rename_i i hstop
    split at hq
    · obtain rfl := Option.some.inj hq
      refine ⟨h.pos, h.maxSize, h.fits, h.conserved, ?_, h.shut, h.alone⟩
      intro hopen
      rw [(h.opened hopen).1] at hstop
      cases hstop
    · cases hq

theorem Orderly.rests (h : q.Orderly n) (hq : q.Rests i q') : q'.Orderly n := by
  obtain ⟨task, hidle, hgetting⟩ := hq
  refine ⟨h.pos, h.maxSize, h.fits, h.conserved, ?_, ?_, ?_⟩
  · intro hopen
    exact ⟨(h.opened hopen).1, (h.opened hopen).2.setTask i task⟩
  · intro hclosed task' htask' hstage
    rcases List.mem_or_eq_of_mem_set htask' with htask' | rfl
    · exact h.shut hclosed task' htask' hstage
    · cases (hgetting hstage).symm.trans hclosed
  · refine (countP_set_le ?_).trans h.alone
    intro hsending
    cases hidle.symm.trans hsending

/-- Nothing is taken from a closed queue. -/
theorem Orderly.takes (h : q.Orderly n) (hq : q.Takes i q') : q'.Orderly n := by
  obtain ⟨task, task', item, items, htask, hitems, hfree⟩ := hq
  have hopen : q.closed = false := by
    rcases hfree with hopen | ⟨hgetting, hcancelled⟩
    · exact hopen
    · refine Bool.eq_false_iff.mpr fun hclosed ↦ ?_
      cases hcancelled.symm.trans
        (h.shut hclosed task (List.mem_of_getElem? htask) hgetting)
  obtain ⟨hstops, hsingle⟩ := h.opened hopen
  refine ⟨h.pos, h.maxSize, ?_, ?_, ?_, ?_, ?_⟩
  · have hfits := h.fits
    rw [hitems, List.length_cons] at hfits
    exact Nat.le_of_succ_le hfits
  · rw [← h.conserved, hitems]
    show q.sent ++ item.toList ++ items.reduceOption = q.sent ++ (item :: items).reduceOption
    cases item with
    | none => rw [Option.toList_none, List.append_nil, List.reduceOption_cons_of_none]
    | some message =>
        rw [List.reduceOption_cons_of_some, List.append_assoc]
        rfl
  · intro _
    exact ⟨hstops, hsingle.setTask i task'⟩
  · intro hclosed
    cases hopen.symm.trans hclosed
  · exact (hsingle.setTask i task').sending_le

theorem reduceOption_signal (q : OutboundQueue) :
    q.signal.items.reduceOption = q.items.reduceOption := by
  unfold signal
  dsimp only
  split
  · rfl
  · rw [List.reduceOption_append, List.reduceOption_cons_of_none, List.reduceOption_nil,
      List.append_nil]

theorem Orderly.length_signal (h : q.Orderly n) : q.signal.items.length ≤ n := by
  unfold signal
  dsimp only
  split
  · exact h.fits
  · rename_i hroom
    rw [List.length_append]
    exact h.room (Bool.not_eq_true _ ▸ hroom)

/-- A task that waits after a `stop` has been cancelled, by this one or an earlier one. -/
theorem Orderly.shut_stop (h : q.Orderly n) :
    ∀ task ∈ q.stop.tasks, task.stage = .getting → task.cancelled = true := by
  intro task htask hgetting
  unfold OutboundQueue.stop cancel at htask
  cases hclosed : q.closed with
  | false =>
      rcases (h.opened hclosed).2 with ⟨hnone, htasks⟩ | ⟨hsome, task₀, htasks⟩
      · simp only [hnone, signal, htasks] at htask
        cases htask
      · simp only [hsome, signal, htasks, List.getElem?_cons_zero, setTask, List.set_cons_zero,
          List.mem_singleton] at htask
        rw [htask]
  | true =>
      split at htask
      · exact h.shut hclosed task htask hgetting
      · split at htask
        · exact h.shut hclosed task htask hgetting
        · rcases List.mem_or_eq_of_mem_set htask with htask | rfl
          · exact h.shut hclosed task htask hgetting
          · rfl

theorem sending_stop (q : OutboundQueue) : q.stop.sending ≤ q.sending := by
  unfold OutboundQueue.stop cancel
  split
  · exact le_rfl
  · split
    · exact le_rfl
    · rename_i task₀ htask₀
      refine countP_set_le ?_
      intro hsending task htask
      cases htask₀.symm.trans htask
      exact hsending

/-- A `stop` does to the rest of the queue what the signal does. -/
theorem stop_fields (q : OutboundQueue) : q.stop.maxSize = q.maxSize ∧ q.stop.closed = true ∧
    q.stop.items = q.signal.items ∧ q.stop.sent = q.sent ∧ q.stop.accepted = q.accepted := by
  unfold OutboundQueue.stop cancel
  split
  · exact ⟨rfl, rfl, rfl, rfl, rfl⟩
  · split
    · exact ⟨rfl, rfl, rfl, rfl, rfl⟩
    · exact ⟨rfl, rfl, rfl, rfl, rfl⟩

theorem Orderly.stop (h : q.Orderly n) : q.stop.Orderly n := by
  obtain ⟨hmaxSize, hclosed, hitems, hsent, haccepted⟩ := q.stop_fields
  refine ⟨h.pos, hmaxSize.trans h.maxSize, ?_, ?_, ?_, fun _ ↦ h.shut_stop,
    q.sending_stop.trans h.alone⟩
  · rw [hitems]
    exact h.length_signal
  · rw [hsent, hitems, reduceOption_signal, haccepted]
    exact h.conserved
  · intro hopen
    cases hopen.symm.trans hclosed

theorem Orderly.writer (h : q.Orderly n) (hq : q.Rests i q' ∨ q.Takes i q') : q'.Orderly n := by
  rcases hq with hrests | htakes
  · exact h.rests hrests
  · exact h.takes htakes

theorem Orderly.finishPut {timeout : Bool} (h : q.Orderly n)
    (hq : (q.finishPut k timeout).map Prod.fst = some q') : q'.Orderly n := by
  unfold OutboundQueue.finishPut at hq
  have herase : Orderly n { q with puts := q.puts.eraseIdx k } :=
    ⟨h.pos, h.maxSize, h.fits, h.conserved, h.opened, h.shut, h.alone⟩
  split at hq
  · cases hq
  · dsimp only at hq
    split_ifs at hq with htimeout hfull
    · obtain rfl := Option.some.inj hq
      exact herase
    · cases hq
    · obtain rfl := Option.some.inj hq
      exact herase.enqueue (Bool.not_eq_true _ ▸ hfull) _

theorem Orderly.putNowait (h : q.Orderly n) (hq : q.putNowait message = .ok q') :
    q'.Orderly n := by
  unfold OutboundQueue.putNowait at hq
  split_ifs at hq with hclosed hfull
  obtain rfl := Except.ok.inj hq
  exact h.enqueue (Bool.not_eq_true _ ▸ hfull) message

/-- Every step keeps the order. -/
theorem Orderly.step {a : QueueStep} (h : q.Orderly n) (hq : q.step a = some q') :
    q'.Orderly n := by
  cases a with
  | start => exact Option.some.inj hq ▸ h.start
  | stop => exact Option.some.inj hq ▸ h.stop
  | stopped k => exact h.stopped hq
  | putNowait message =>
      rw [OutboundQueue.step] at hq
      split at hq
      · rename_i hput
        exact Option.some.inj hq ▸ h.putNowait hput
      · exact Option.some.inj hq ▸ h
  | put message =>
      obtain rfl := Option.some.inj hq
      unfold OutboundQueue.put
      split
      · exact h
      · exact ⟨h.pos, h.maxSize, h.fits, h.conserved, h.opened, h.shut, h.alone⟩
  | finishPut k timeout => exact h.finishPut hq
  | resume i => exact h.writer (rests_or_takes_resume hq)
  | finishSend i result => exact h.writer (rests_or_takes_finishSend hq)

/-- In every run, what was sent is the beginning of what was accepted, at most one send
is in progress, and the queue holds no more than its size. -/
theorem sent_prefix {as : List QueueStep} (hn : 0 < n)
    (h : Run (Step.graph step) { maxSize := n } as q) :
    q.sent <+: q.accepted ∧ q.sending ≤ 1 ∧ q.items.length ≤ n := by
  have horderly : q.Orderly n := h.invariant (fun _ _ _ ↦ Orderly.step) (Orderly.new hn)
  refine ⟨?_, horderly.alone, horderly.fits⟩
  rw [← horderly.conserved]
  exact List.prefix_append _ _

/-! ## The queue of the bus -/

/-- The queue as the bus has it, while the writer runs. -/
def view (q : OutboundQueue) (connId : String) (websocket : Nat) : ConnectionQueue where
  connId := connId
  websocket := websocket
  maxSize := q.maxSize
  items := q.items
  closed := q.closed

/-- A message is put on both or on none. -/
theorem view_putNowait (connId : String) (websocket : Nat) :
    (q.putNowait message).map (·.view connId websocket) =
      (q.view connId websocket).putNowait message := by
  have hclosed : (q.view connId websocket).closed = q.closed := rfl
  have hfull : (q.view connId websocket).isFull = q.isFull := rfl
  rw [OutboundQueue.putNowait, ConnectionQueue.putNowait, hclosed, hfull]
  split_ifs
  · rfl
  · rfl
  · rfl

/-- The writer takes and sends what a round of `ConnectionQueue.write` does. -/
theorem loop_write (connId : String) (websocket : Nat) (ok : Bool) :
    let w := (q.view connId websocket).write ok
    (q.loop i task).items = w.1.items ∧ (q.loop i task).sent = q.sent ++ w.2.map Prod.snd := by
  unfold loop take ConnectionQueue.write
  cases hclosed : q.closed with
  | true => simp [view, hclosed, setTask]
  | false =>
      cases hitems : q.items with
      | nil => simp [view, hclosed, hitems, setTask]
      | cons item items =>
          cases item with
          | none => simp [view, hclosed, hitems, setTask]
          | some message => simp [view, hclosed, hitems, setTask]

/-! ## A sample -/

def sampleMessage (chunk : Int) : Message where
  messageType := .execStreamChunk
  senderId := ⟨1⟩
  tenantId := "acme"
  correlationId := none
  payload := [("seq", .int chunk)]

/-- A `put` waits for the writer, and the queue is stopped in the middle of a send. -/
def sampleSteps : List QueueStep :=
  [.start, .resume 0, .putNowait (sampleMessage 0), .put (sampleMessage 1), .resume 0,
    .finishPut 0 false, .stop, .finishSend 0 .cancelled, .stopped 0]

/-- One of two messages was sent. -/
theorem sent_prefix_stopped : ∃ q : OutboundQueue, q.accepted.length = 2 ∧ q.sent.length = 1 ∧
    q.sent <+: q.accepted ∧ q.sending ≤ 1 ∧ q.items.length ≤ 1 := by
  have hrun : Run (Step.graph step) { maxSize := 1 } sampleSteps _ := Run.graph_iff.mpr rfl
  exact ⟨_, rfl, rfl, sent_prefix Nat.one_pos hrun⟩

end OutboundQueue

end SemanticBus
