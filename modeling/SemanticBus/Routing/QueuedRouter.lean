import SemanticBus.Protocol.Envelope
import SemanticBus.Queue.Dequeue
import SemanticBus.Registry.Agent

/-!
# The queued router

`queue_to_agent` turns a message for an agent into a task and enqueues it.  The priority
and the TTL of the task are the given ones or the defaults of the router, and which of
them is decided by `or`, that is by truth: `CRITICAL` has the value 0 and counts as not
given.

The notes of a run hold the priority that each message was queued with.  A queue honours
them as long as no message is queued as `CRITICAL` by a router with another default.
-/

universe u

namespace SemanticBus

def TaskPriority.truthy (priority : TaskPriority) : Bool := priority.value ≠ 0

structure QueuedRouter where
  defaultPriority : TaskPriority := .normal
  defaultTtl : Int := 300

structure QueueRequest where
  agent : AgentRecord
  envelope : MessageEnvelope
  priority : Option TaskPriority := none
  ttlSeconds : Option Int := none
  sessionId : Option UUID := none
  execId : Option UUID := none

namespace QueuedRouter

open InMemoryTaskQueue

/-- The task that `queue_to_agent` builds; `dump` is `model_dump_json`, and the id and the
creation time are the defaults of the task. -/
def taskOf (router : QueuedRouter) (dump : MessageEnvelope → String) (taskId : UUID)
    (createdAt : Time) (request : QueueRequest) : TaskPayload where
  taskId := taskId
  createdAt := createdAt
  tenantId := request.envelope.tenantId
  targetAgentId := some request.agent.agentId
  targetConnId := some request.agent.connId
  messageType := request.envelope.messageType.value
  envelopeJson := dump request.envelope
  sessionId := request.sessionId
  execId := request.execId
  priority := (request.priority.filter TaskPriority.truthy).getD router.defaultPriority
  ttlSeconds := (request.ttlSeconds.filter (· ≠ 0)).getD router.defaultTtl
  correlationId := some request.envelope.messageId
  metadata := [("sender_id", .str request.envelope.senderId.str)]

/-- The priority that a message is queued with: the one that is given, else the default. -/
def asked (router : QueuedRouter) (request : QueueRequest) : TaskPriority :=
  request.priority.getD router.defaultPriority

/-- The task has the priority that was asked for, unless that is `CRITICAL` and not the default. -/
theorem priority_taskOf_iff (router : QueuedRouter) (dump : MessageEnvelope → String)
    (taskId : UUID) (createdAt : Time) (request : QueueRequest) :
    (router.taskOf dump taskId createdAt request).priority = router.asked request ↔
      (request.priority = some .critical → router.defaultPriority = .critical) := by
  show (request.priority.filter _).getD _ = request.priority.getD _ ↔ _
  cases request.priority with
  | none => exact ⟨(fun _ h ↦ by cases h), fun _ ↦ rfl⟩
  | some priority =>
      cases priority with
      | critical => exact ⟨fun h _ ↦ h, fun h ↦ h rfl⟩
      | high | normal | low | background => exact ⟨(fun _ h ↦ by cases h), fun _ ↦ rfl⟩

/-- An operation on the queue behind the routers: a message is queued, or a worker acts. -/
inductive RouterOp where
  | queueToAgent (router : QueuedRouter) (taskId : UUID) (createdAt : Time) (request : QueueRequest)
  | worker (op : QueueOp)

structure RouterCall where
  op : RouterOp
  reply : QueueReply

def RouterOp.queueOp (dump : MessageEnvelope → String) : RouterOp → QueueOp
  | .queueToAgent router taskId createdAt request =>
      .enqueue (router.taskOf dump taskId createdAt request) 0
  | .worker op => op

def RouterOp.Routed : RouterOp → Prop
  | .worker (.enqueue _ _) => False
  | _ => True

variable {η : Type u} [MinHeap η PriorityItem.key] {dump : MessageEnvelope → String}

def RouterCalls (dump : MessageEnvelope → String) (now : Time) :
    Step (InMemoryTaskQueue η) RouterCall := fun q c q' ↦
  c.op.Routed ∧ Calls now q ⟨c.op.queueOp dump, c.reply⟩ q'

/-- The notes after a call: an accepted message has the priority it was queued with. -/
def note (_ : Time × InMemoryTaskQueue η) (a : Time × RouterCall)
    (notes : Dict UUID TaskPriority) : Dict UUID TaskPriority :=
  match a.2.op, a.2.reply with
  | .queueToAgent router taskId _ request, .accepted _ => notes.insert taskId (router.asked request)
  | _, _ => notes

abbrev Steps (dump : MessageEnvelope → String) :
    Step ((Time × InMemoryTaskQueue η) × Dict UUID TaskPriority) (Time × RouterCall) :=
  Step.Noting note (Step.Timed (RouterCalls dump))

/-- The priorities of the notes are those of the queue: every message is stored with its own,
and no message is handed out while a more urgent one is eligible. -/
structure Honoured (x : (Time × InMemoryTaskQueue η) × Dict UUID TaskPriority) : Prop where
  stored : ∀ id priority, x.2.get? id = some priority →
    ∃ task, x.1.2.tasks.get? id = some task ∧ task.priority = priority
  served : ∀ now tenantId task priority, (x.1.2.dequeue now tenantId).1 = some task →
    x.2.get? task.taskId = some priority → ∀ waiting priority',
      x.1.2.Eligible now tenantId waiting → x.2.get? waiting.taskId = some priority' →
        priority.value ≤ priority'.value

/-- A message that the queue has room for is not queued as `CRITICAL`, unless that is the
default of the router. -/
def Keeps (x : (Time × InMemoryTaskQueue η) × Dict UUID TaskPriority) (a : Time × RouterCall) :
    Prop :=
  match a.2.op with
  | .queueToAgent router _ _ request => x.1.2.closed = false →
      (x.1.2.tasks.size : Int) < x.1.2.maxSize →
        request.priority = some .critical → router.defaultPriority = .critical
  | .worker _ => True

/-! ## One call -/

variable {q q' : InMemoryTaskQueue η} {now : Time} {c : Call} {id : UUID}
  {x y : (Time × InMemoryTaskQueue η) × Dict UUID TaskPriority} {a : Time × RouterCall}

/-- No call changes the priority of a task. -/
theorem priority_move {v v' : TaskView} (h : TaskMove q now c id v v') {task : TaskPayload}
    (ht : v.task = some task) : ∃ task', v'.task = some task' ∧ task'.priority = task.priority := by
  cases h with
  | accept _ _ _ hnone =>
      rw [ht] at hnone
      cases hnone
  | retry _ ht' | overflow _ ht' =>
      obtain rfl := Option.some.inj (ht.symm.trans ht')
      exact ⟨_, rfl, rfl⟩
  | _ => exact ⟨task, ht, rfl⟩

/-- When the messages are stored with their priorities, they are served by them. -/
theorem Honoured.of_stored (hq : x.1.2.Ok)
    (h : ∀ id priority, x.2.get? id = some priority →
      ∃ task, x.1.2.tasks.get? id = some task ∧ task.priority = priority) : Honoured x := by
  refine ⟨h, fun now tenantId task priority hout hnote waiting priority' helig hnote' ↦ ?_⟩
  have hopen : x.1.2.closed = false := by
    rw [← Bool.not_eq_true]
    intro hclosed
    rw [dequeue, if_pos hclosed] at hout
    cases hout
  obtain ⟨hcan, hleast, -⟩ := (dequeue_spec hq hopen).2.1 task hout
  obtain ⟨task₁, ht₁, rfl⟩ := h _ _ hnote
  obtain ⟨task₂, ht₂, rfl⟩ := h _ _ hnote'
  obtain rfl := Option.some.inj (hcan.stored.symm.trans ht₁)
  obtain rfl := Option.some.inj (helig.stored.symm.trans ht₂)
  exact Prod.Lex.monotone_fst _ _ (hleast _ helig)

/-- The step of the invariant: exactly the calls that keep the priority they are given keep
the priorities of the queue. -/
theorem keeps_iff_honoured (hq : x.1.2.Ok) (hx : Honoured x) (h : Steps dump x a y) :
    Keeps x a ↔ Honoured y := by
  obtain ⟨⟨t, q⟩, notes⟩ := x
  obtain ⟨⟨t', q'⟩, notes'⟩ := y
  obtain ⟨now, op, reply⟩ := a
  obtain ⟨⟨-, -, hrouted, hcall⟩, hnote⟩ := h
  have hq' : q'.Ok := exec_ok hq hcall
  -- what is in the notes already stays as it is
  have hold : ∀ id priority, notes.get? id = some priority →
      ∃ task, q'.tasks.get? id = some task ∧ task.priority = priority := by
    intro id priority hget
    obtain ⟨task, ht, rfl⟩ := hx.stored id priority hget
    exact priority_move (exec_move hq hcall id) ht
  cases op with
  | worker op =>
      obtain rfl : notes' = notes := hnote
      exact ⟨fun _ ↦ .of_stored hq' hold, fun _ ↦ trivial⟩
  | queueToAgent router taskId createdAt request =>
      obtain ⟨hfresh, hexec⟩ := hcall
      change q.exec now (.enqueue (router.taskOf dump taskId createdAt request) 0) = (reply, q')
        at hexec
      rw [exec] at hexec
      cases hres : q.enqueue now (router.taskOf dump taskId createdAt request) 0 with
      | error e =>
          rw [hres] at hexec
          obtain ⟨rfl, rfl⟩ := Prod.mk.inj hexec
          obtain rfl : notes' = notes := hnote
          refine ⟨fun _ ↦ .of_stored hq' hold, fun _ hopen hroom ↦ ?_⟩
          rw [enqueue, if_neg (Bool.eq_false_iff.mp hopen), if_neg (not_le.mpr hroom)] at hres
          cases hres
      | ok q'' =>
          rw [hres] at hexec
          obtain ⟨rfl, rfl⟩ := Prod.mk.inj hexec
          obtain rfl : notes' = notes.insert taskId (router.asked request) := hnote
          obtain ⟨hopen, hroom, rfl⟩ := enqueue_ok hres
          constructor
          · intro hkeeps
            refine .of_stored hq' fun id priority hget ↦ ?_
            by_cases hid : id = taskId
            · subst hid
              obtain rfl := Option.some.inj ((Dict.get?_insert_self _ _ _).symm.trans hget)
              exact ⟨_, Dict.get?_insert_self _ _ _,
                (priority_taskOf_iff _ _ _ _ _).mpr (hkeeps hopen hroom)⟩
            · exact hold id priority ((Dict.get?_insert_of_ne _ _ hid).symm.trans hget)
          · intro hy _ _
            obtain ⟨task, ht, hpriority⟩ := hy.stored taskId _ (Dict.get?_insert_self _ _ _)
            obtain rfl := Option.some.inj ((Dict.get?_insert_self _ _ _).symm.trans ht)
            exact (priority_taskOf_iff _ _ _ _ _).mp hpriority

/-! ## Runs -/

/-- In a run from an empty queue, whatever the routers and the workers do: all along, every
message is stored with the priority it was queued with and no message is handed out while a
more urgent one is eligible, exactly when no message is queued as `CRITICAL` by a router with
another default. -/
theorem priority_honoured_iff (dump : MessageEnvelope → String) (maxSize : Int)
    (retryBaseDelay retryMaxDelay : ℚ) (start : Time) (as : List (Time × RouterCall))
    (x : (Time × InMemoryTaskQueue η) × Dict UUID TaskPriority) :
    Run (Step.Only Keeps (Steps dump))
        ((start, new maxSize retryBaseDelay retryMaxDelay), ∅) as x ↔
      Run (Steps dump) ((start, new maxSize retryBaseDelay retryMaxDelay), ∅) as x ∧
        ∀ bs (y : (Time × InMemoryTaskQueue η) × Dict UUID TaskPriority), bs <+: as →
          Run (Steps dump) ((start, new maxSize retryBaseDelay retryMaxDelay), ∅) bs y →
            Honoured y := by
  refine Run.only_iff (P := Honoured) (I := fun x ↦ x.1.2.Ok) (fun s a t t' h h' ↦ ?_) (fun s a t hs h ↦ ?_)
    (fun s a t hs hx h ↦ keeps_iff_honoured hs hx h) (new_ok _ _ _) ?_
  · obtain ⟨⟨-, htime, -, -, hexec⟩, hnote⟩ := h
    obtain ⟨⟨-, htime', -, -, hexec'⟩, hnote'⟩ := h'
    have hqueue := congrArg Prod.snd (hexec.symm.trans hexec')
    exact Prod.ext (Prod.ext (htime.trans htime'.symm) hqueue) (hnote.trans hnote'.symm)
  · exact exec_ok hs h.1.2.2.2
  · exact .of_stored (new_ok _ _ _) fun id priority hget ↦ by cases hget

/-- A router with the default settings. -/
def sampleRouter : QueuedRouter := {}

def sampleRequest (priority : Option TaskPriority) : QueueRequest where
  agent := { agentId := ⟨7⟩, tenantId := "acme", connId := "c", lastSeen := 0, registeredAt := 0 }
  envelope := { messageType := .intentDeliver, senderId := ⟨8⟩, tenantId := "acme", messageId := ⟨9⟩ }
  priority := priority

/-- Play operations one after the other. -/
def playRouted (dump : MessageEnvelope → String) :
    (Time × InMemoryTaskQueue η) × Dict UUID TaskPriority → List (Time × RouterOp) →
      List (Time × RouterCall) × ((Time × InMemoryTaskQueue η) × Dict UUID TaskPriority)
  | x, [] => ([], x)
  | x, (now, op) :: ops =>
      let call : Time × RouterCall := (now, ⟨op, (x.1.2.exec now (op.queueOp dump)).1⟩)
      let rest := playRouted dump
        ((now, (x.1.2.exec now (op.queueOp dump)).2), note x.1 call x.2) ops
      (call :: rest.1, rest.2)

/-- The clock does not go back, and the operations are routed, about distinct tasks and good. -/
def PlayableRouted (dump : MessageEnvelope → String)
    (Good : (Time × InMemoryTaskQueue η) × Dict UUID TaskPriority → Time × RouterCall → Prop) :
    (Time × InMemoryTaskQueue η) × Dict UUID TaskPriority → List (Time × RouterOp) → Prop
  | _, [] => True
  | x, (now, op) :: ops =>
      let call : Time × RouterCall := (now, ⟨op, (x.1.2.exec now (op.queueOp dump)).1⟩)
      Good x call ∧ x.1.1 ≤ now ∧ op.Routed ∧ x.1.2.Distinct (op.queueOp dump) ∧
        PlayableRouted dump Good
          ((now, (x.1.2.exec now (op.queueOp dump)).2), note x.1 call x.2) ops

theorem run_playRouted {Good : (Time × InMemoryTaskQueue η) × Dict UUID TaskPriority →
    Time × RouterCall → Prop} {ops : List (Time × RouterOp)} (h : PlayableRouted dump Good x ops) :
    Run (Step.Only Good (Steps dump)) x (playRouted dump x ops).1 (playRouted dump x ops).2 := by
  induction ops generalizing x with
  | nil => exact .nil x
  | cons a ops ih =>
      obtain ⟨hgood, hclock, hrouted, hdistinct, hrest⟩ := h
      exact .cons ⟨hgood, ⟨hclock, rfl, hrouted, hdistinct, rfl⟩, rfl⟩ (ih hrest)

def routedStart : (Time × InMemoryTaskQueue (SortedList PriorityItem.key)) × Dict UUID TaskPriority :=
  ((0, new 10000 1 60), ∅)

/-- Two messages are queued, the second as more urgent, and a worker asks for one. -/
def urgentLater : List (Time × RouterOp) :=
  [(0, .queueToAgent sampleRouter ⟨1⟩ 0 (sampleRequest none)),
    (0, .queueToAgent sampleRouter ⟨2⟩ 0 (sampleRequest (some .high))), (1, .worker (.dequeue none))]

theorem priority_honoured_sample :
    Honoured (playRouted (fun _ ↦ "\x7b\x7d") routedStart urgentLater).2 := by
  have hplay : PlayableRouted (fun _ ↦ "\x7b\x7d") Keeps routedStart urgentLater :=
    ⟨(fun _ _ h ↦ by cases h), le_rfl, trivial, rfl, (fun _ _ h ↦ by cases h), le_rfl, trivial, rfl,
      trivial, (by decide : (0 : Int) ≤ 1), trivial, trivial, trivial⟩
  have hrun := run_playRouted hplay
  exact ((priority_honoured_iff _ 10000 1 60 0 _ _).mp hrun).2 _ _ (List.prefix_refl _) hrun.of_only

/-- A message queued as `CRITICAL` is stored as `NORMAL`, and one queued as `HIGH` after it is
handed out before it. -/
theorem critical_served_late : ∃ as x,
    Run (Steps fun _ ↦ "\x7b\x7d") routedStart as x ∧
      (∃ task, x.1.2.tasks.get? ⟨1⟩ = some task ∧ x.2.get? ⟨1⟩ = some .critical ∧
        task.priority = .normal) ∧
      ((x.1.2.dequeue 1 none).1.map TaskPayload.taskId) = some ⟨2⟩ ∧
      x.2.get? ⟨2⟩ = some .high ∧ ¬ Honoured x := by
  let ops : List (Time × RouterOp) :=
    [(0, .queueToAgent sampleRouter ⟨1⟩ 0 (sampleRequest (some .critical))),
      (0, .queueToAgent sampleRouter ⟨2⟩ 0 (sampleRequest (some .high)))]
  have hplay : PlayableRouted (fun _ ↦ "\x7b\x7d") (fun _ _ ↦ True) routedStart ops :=
    ⟨trivial, le_rfl, trivial, rfl, trivial, le_rfl, trivial, rfl, trivial⟩
  refine ⟨_, _, (run_playRouted hplay).of_only, ⟨_, rfl, rfl, rfl⟩, rfl, rfl, fun h ↦ ?_⟩
  obtain ⟨task, ht, hpriority⟩ := h.stored ⟨1⟩ .critical rfl
  obtain rfl := Option.some.inj ((show _ = some _ from rfl).symm.trans ht)
  cases hpriority

end QueuedRouter

end SemanticBus
