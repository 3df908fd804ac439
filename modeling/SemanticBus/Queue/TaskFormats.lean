import SemanticBus.Data.JsonText
import SemanticBus.Queue.Redis

/-!
# The formats of a task

The brokers keep a task in three formats: a Redis hash of strings, the dictionary that
Kafka's producer writes as JSON, and RabbitMQ's bytes of JSON.  A missing id is the empty
string in the hash and `null` in the dictionary; an empty `target_conn_id` and a missing one
are the same in the hash.

`formats_roundTrip` reads each format back.
-/

namespace SemanticBus

/-- How a platform writes floats and times. -/
structure TextFormats where
  floats : FloatText
  /-- `datetime.isoformat()`. -/
  isoformat : Time → String
  /-- `datetime.fromisoformat(text)`: `none` stands for the `ValueError`. -/
  fromisoformat : String → Option Time
  fromisoformat_isoformat : ∀ t, fromisoformat (isoformat t) = some t

variable (fmt : TextFormats)

/-- `TaskPriority(value)`: `none` stands for the `ValueError`. -/
def TaskPriority.ofValue? (value : ℚ) : Option TaskPriority :=
  TaskPriority.all.find? fun p ↦ (p.value : ℚ) = value

theorem TaskPriority.ofValue?_value (p : TaskPriority) : ofValue? p.value = some p := by
  have hinj : ∀ p p' : TaskPriority, ((p.value : ℚ) = p'.value) ↔ p = p' := by
    intro p p'
    rw [Nat.cast_inj]
    cases p <;> cases p' <;> decide
  simp only [ofValue?, hinj]
  cases p <;> rfl

/-- The task with an empty `target_conn_id` as none. -/
def TaskPayload.dropEmptyConn (task : TaskPayload) : TaskPayload :=
  { task with targetConnId := task.targetConnId.filter (· ≠ "") }

theorem UUID.str_ne_empty (id : UUID) : id.str ≠ "" := by
  intro h
  have hparse := id.parse_str
  rw [h] at hparse
  cases hparse

def taskKeys : List String :=
  ["task_id", "tenant_id", "target_agent_id", "target_conn_id", "message_type", "envelope_json",
    "session_id", "exec_id", "priority", "created_at", "ttl_seconds", "retry_count", "max_retries",
    "correlation_id", "metadata"]

theorem nodup_taskKeys : taskKeys.Nodup := by decide

/-! ## The hash -/

namespace RedisTaskQueue

/-- `str(value) if value else ""`. -/
def idText : Option UUID → String
  | none => ""
  | some id => id.str

def serializeTask (task : TaskPayload) : List (String × String) :=
  [("task_id", task.taskId.str),
    ("tenant_id", task.tenantId),
    ("target_agent_id", idText task.targetAgentId),
    ("target_conn_id", task.targetConnId.getD ""),
    ("message_type", task.messageType),
    ("envelope_json", task.envelopeJson),
    ("session_id", idText task.sessionId),
    ("exec_id", idText task.execId),
    ("priority", String.ofList (intText task.priority.value)),
    ("created_at", fmt.isoformat task.createdAt),
    ("ttl_seconds", String.ofList (intText task.ttlSeconds)),
    ("retry_count", String.ofList (intText task.retryCount)),
    ("max_retries", String.ofList (intText task.maxRetries)),
    ("correlation_id", idText task.correlationId),
    ("metadata", JsonText.dumps fmt.floats (.obj task.metadata))]

/-- `data.get(key) or None`. -/
def readText (data : Dict String String) (key : String) : Option String :=
  (data.get? key).filter (· ≠ "")

/-- `UUID(data[key]) if data.get(key) else None`. -/
def readId (data : Dict String String) (key : String) : Option (Option UUID) :=
  match readText data key with
  | none => some none
  | some text => (UUID.parse text).map some

/-- Deserialize a task from the Redis hash format: `none` stands for an exception, and for
metadata that is no dictionary. -/
def deserializeTask (data : Dict String String) : Option TaskPayload := do
  let taskId ← (data.get? "task_id").bind UUID.parse
  let tenantId ← data.get? "tenant_id"
  let targetAgentId ← readId data "target_agent_id"
  let messageType ← data.get? "message_type"
  let envelopeJson ← data.get? "envelope_json"
  let sessionId ← readId data "session_id"
  let execId ← readId data "exec_id"
  let priority ← ((data.get? "priority").bind readInt).bind fun n ↦ TaskPriority.ofValue? n
  let createdAt ← (data.get? "created_at").bind fmt.fromisoformat
  let ttlSeconds ← (data.get? "ttl_seconds").bind readInt
  let retryCount ← (data.get? "retry_count").bind readInt
  let maxRetries ← (data.get? "max_retries").bind readInt
  let correlationId ← readId data "correlation_id"
  let metadata ← (JsonText.loads fmt.floats ((data.get? "metadata").getD "\x7b\x7d")).bind Json.obj?
  pure
    { taskId, tenantId, targetAgentId
      targetConnId := readText data "target_conn_id"
      messageType, envelopeJson, sessionId, execId, priority, createdAt, ttlSeconds, retryCount
      maxRetries, correlationId, metadata }

theorem readId_of_get? {data : Dict String String} {key : String} {id : Option UUID}
    (h : data.get? key = some (idText id)) : readId data key = some id := by
  cases id with
  | none => rw [readId, readText, h]; rfl
  | some id =>
      have hfilter : (some id.str).filter (· ≠ "") = some id.str := by
        simp [Option.filter, UUID.str_ne_empty]
      rw [readId, readText, h, idText, hfilter]
      show (UUID.parse id.str).map some = _
      rw [UUID.parse_str, Option.map_some]

/-- What `HSET` of a task leaves reads back as the task, whatever was there before. -/
theorem deserializeTask_hset {task : TaskPayload} (old : Dict String String)
    (h : (Json.obj task.metadata).wellFormed = true) :
    deserializeTask fmt (hset old (serializeTask fmt task)) = some task.dropEmptyConn := by
  have hkeys : (serializeTask fmt task).map Prod.fst = taskKeys := rfl
  obtain ⟨hget, -⟩ := get?_hset old hkeys nodup_taskKeys
  generalize hset old (serializeTask fmt task) = data at hget ⊢
  simp only [serializeTask, List.forall_mem_cons] at hget
  obtain ⟨htaskId, htenantId, hagentId, hconnId, htype, henvelope, hsession, hexec, hpriority,
    hcreated, httl, hretry, hmax, hcorrelation, hmetadata, -⟩ := hget
  have hconn : readText data "target_conn_id" = task.targetConnId.filter (· ≠ "") := by
    rw [readText, hconnId]
    cases task.targetConnId with
    | none | some => rfl
  have hvalue := TaskPriority.ofValue?_value task.priority
  simp only [deserializeTask, htaskId, htenantId, readId_of_get? hagentId, hconn, htype,
    henvelope, readId_of_get? hsession, readId_of_get? hexec, hpriority, hcreated, httl, hretry,
    hmax, readId_of_get? hcorrelation, hmetadata, Option.bind_some, UUID.parse_str,
    readInt_intText, fmt.fromisoformat_isoformat, Option.getD_some, JsonText.loads_dumps _ h,
    Int.cast_natCast, hvalue]
  rfl

/-- The hash of a task is what the store is taken to keep. -/
theorem hsetTask_eq (now : Time) (s : RedisTaskStore) {task : TaskPayload}
    (old : Dict String String) (h : (Json.obj task.metadata).wellFormed = true) :
    ((hsetTask task.taskId task).run now s).2.tasks.read now task.taskId
      = deserializeTask fmt (hset old (serializeTask fmt task)) := by
  rw [deserializeTask_hset fmt old h]
  exact Expiring.read_change_self _

end RedisTaskQueue

/-! ## The dictionary -/

namespace TaskPayload

/-- The dictionary of a task, `json`-compatible. -/
def toDict (task : TaskPayload) : JsonObj :=
  [("task_id", .str task.taskId.str),
    ("tenant_id", .str task.tenantId),
    ("target_agent_id", Json.ofStr? (task.targetAgentId.map UUID.str)),
    ("target_conn_id", Json.ofStr? task.targetConnId),
    ("message_type", .str task.messageType),
    ("envelope_json", .str task.envelopeJson),
    ("session_id", Json.ofStr? (task.sessionId.map UUID.str)),
    ("exec_id", Json.ofStr? (task.execId.map UUID.str)),
    ("priority", .int task.priority.value),
    ("created_at", .str (fmt.isoformat task.createdAt)),
    ("ttl_seconds", .int task.ttlSeconds),
    ("retry_count", .int task.retryCount),
    ("max_retries", .int task.maxRetries),
    ("correlation_id", Json.ofStr? (task.correlationId.map UUID.str)),
    ("metadata", .obj task.metadata)]

/-- `UUID(data[key]) if data.get(key) else None`. -/
def readId (data : JsonObj) (key : String) : Option (Option UUID) :=
  if (data.get key).truthy then ((data.get key).str?.bind UUID.parse).map some else some none

/-- A value that may be `None`. -/
def readStr : Json → Option (Option String)
  | .null => some none
  | .str s => some (some s)
  | _ => none

/-- The task of a dictionary: `none` stands for an exception, and for a value whose type is
not that of its field. -/
def ofDict (data : JsonObj) : Option TaskPayload := do
  let taskId ← ((data.get? "task_id").bind Json.str?).bind UUID.parse
  let tenantId ← (data.get? "tenant_id").bind Json.str?
  let targetAgentId ← readId data "target_agent_id"
  let targetConnId ← readStr (data.get "target_conn_id")
  let messageType ← (data.get? "message_type").bind Json.str?
  let envelopeJson ← (data.get? "envelope_json").bind Json.str?
  let sessionId ← readId data "session_id"
  let execId ← readId data "exec_id"
  let priority ← ((data.get? "priority").bind Json.num?).bind TaskPriority.ofValue?
  let createdAt ← ((data.get? "created_at").bind Json.str?).bind fmt.fromisoformat
  let ttlSeconds ← (data.get? "ttl_seconds").bind Json.int?
  let retryCount ← (data.get? "retry_count").bind Json.int?
  let maxRetries ← (data.get? "max_retries").bind Json.int?
  let correlationId ← readId data "correlation_id"
  let metadata ← (data.getD "metadata" (.obj [])).obj?
  pure
    { taskId, tenantId, targetAgentId, targetConnId, messageType, envelopeJson, sessionId, execId
      priority, createdAt, ttlSeconds, retryCount, maxRetries, correlationId, metadata }

theorem readId_of_get {data : JsonObj} {key : String} {id : Option UUID}
    (h : data.get key = Json.ofStr? (id.map UUID.str)) : readId data key = some id := by
  cases id with
  | none => rw [readId, h]; rfl
  | some id =>
      have htruthy : (Json.str id.str).truthy = true := by
        simp [Json.truthy, UUID.str_ne_empty]
      rw [readId, h, Option.map_some, Json.ofStr?, if_pos htruthy, Json.str?, Option.bind_some,
        UUID.parse_str, Option.map_some]

theorem readStr_ofStr? (s : Option String) : readStr (Json.ofStr? s) = some s := by
  cases s <;> rfl

theorem nodup_toDict (task : TaskPayload) : ((task.toDict fmt).map Prod.fst).Nodup :=
  nodup_taskKeys

/-- A dictionary with the fields of a task reads back as the task. -/
theorem ofDict_of_lookup {task : TaskPayload} {data : JsonObj}
    (h : ∀ e ∈ task.toDict fmt, data.lookup e.1 = some e.2) : ofDict fmt data = some task := by
  simp only [toDict, List.forall_mem_cons] at h
  obtain ⟨htaskId, htenantId, hagentId, hconnId, htype, henvelope, hsession, hexec, hpriority,
    hcreated, httl, hretry, hmax, hcorrelation, hmetadata, -⟩ := h
  have hget : ∀ {key : String} {j : Json}, data.lookup key = some j → data.get key = j := by
    intro key j hkey
    rw [JsonObj.get, JsonObj.getD, hkey, Option.getD_some]
  have hvalue : TaskPriority.ofValue? ((task.priority.value : Int) : ℚ) = some task.priority := by
    rw [Int.cast_natCast, TaskPriority.ofValue?_value]
  simp only [ofDict, JsonObj.get?, JsonObj.getD, htaskId, htenantId, readId_of_get (hget hagentId),
    hget hconnId, readStr_ofStr?, htype, henvelope, readId_of_get (hget hsession),
    readId_of_get (hget hexec), hpriority, hcreated, httl, hretry, hmax,
    readId_of_get (hget hcorrelation), hmetadata, Option.bind_some, Option.getD_some, Json.str?,
    Json.num?, Json.int?, Json.obj?, UUID.parse_str, hvalue, fmt.fromisoformat_isoformat]
  rfl

/-- The dictionary of a task reads back as the task. -/
theorem ofDict_toDict (task : TaskPayload) : ofDict fmt (task.toDict fmt) = some task :=
  ofDict_of_lookup fmt fun _ he ↦ JsonObj.lookup_of_mem (nodup_toDict fmt task) he

/-- The dictionary of a task has no key twice, and neither has a dictionary in it. -/
theorem wellFormed_toDict {task : TaskPayload} (h : (Json.obj task.metadata).wellFormed = true) :
    (Json.obj (task.toDict fmt)).wellFormed = true := by
  have hstr : ∀ s : Option String, (Json.ofStr? s).wellFormed = true := by
    intro s
    cases s <;> rfl
  rw [Json.wellFormed, decide_eq_true (nodup_toDict fmt task), Bool.true_and]
  simp only [toDict, Json.wellFormedFields, hstr, h]
  rfl

end TaskPayload

def KafkaTaskQueue.serializeTask (task : TaskPayload) : JsonObj := task.toDict fmt

def KafkaTaskQueue.deserializeTask (data : JsonObj) : Option TaskPayload :=
  TaskPayload.ofDict fmt data

def RabbitMQTaskQueue.serializeTask (task : TaskPayload) : ByteArray :=
  JsonText.encode fmt.floats (.obj (task.toDict fmt))

def RabbitMQTaskQueue.deserializeTask (body : ByteArray) : Option TaskPayload :=
  ((JsonText.decode fmt.floats body).bind Json.obj?).bind (TaskPayload.ofDict fmt)

theorem RabbitMQTaskQueue.deserializeTask_serializeTask {task : TaskPayload}
    (h : (Json.obj task.metadata).wellFormed = true) :
    deserializeTask fmt (serializeTask fmt task) = some task := by
  rw [deserializeTask, serializeTask,
    JsonText.decode_encode _ (TaskPayload.wellFormed_toDict fmt h), Option.bind_some, Json.obj?,
    Option.bind_some, TaskPayload.ofDict_toDict]

/-- What Kafka's consumer reads of a task that its producer wrote. -/
theorem KafkaTaskQueue.deserializeTask_decode {task : TaskPayload}
    (h : (Json.obj task.metadata).wellFormed = true) :
    ((JsonText.decode fmt.floats (JsonText.encode fmt.floats (.obj (serializeTask fmt task)))).bind
      Json.obj?).bind (deserializeTask fmt) = some task :=
  RabbitMQTaskQueue.deserializeTask_serializeTask fmt h

/-! ## All formats -/

inductive TaskFormat where
  | redisHash
  | kafkaDict
  | rabbitBytes

def TaskFormat.roundTrip (task : TaskPayload) : TaskFormat → Option TaskPayload
  | redisHash =>
      RedisTaskQueue.deserializeTask fmt (hset ∅ (RedisTaskQueue.serializeTask fmt task))
  | kafkaDict => KafkaTaskQueue.deserializeTask fmt (KafkaTaskQueue.serializeTask fmt task)
  | rabbitBytes => RabbitMQTaskQueue.deserializeTask fmt (RabbitMQTaskQueue.serializeTask fmt task)

@[simp] theorem TaskPayload.dropEmptyConn_dropEmptyConn (task : TaskPayload) :
    task.dropEmptyConn.dropEmptyConn = task.dropEmptyConn := by
  simp [dropEmptyConn]

/-- Each format gives the task back, up to an empty `target_conn_id`. -/
theorem TaskFormat.exists_roundTrip (format : TaskFormat) {task : TaskPayload}
    (h : (Json.obj task.metadata).wellFormed = true) :
    ∃ task', format.roundTrip fmt task = some task' ∧
      task'.dropEmptyConn = task.dropEmptyConn := by
  cases format with
  | redisHash =>
      exact ⟨_, RedisTaskQueue.deserializeTask_hset fmt ∅ h, task.dropEmptyConn_dropEmptyConn⟩
  | kafkaDict => exact ⟨task, TaskPayload.ofDict_toDict fmt task, rfl⟩
  | rabbitBytes => exact ⟨task, RabbitMQTaskQueue.deserializeTask_serializeTask fmt h, rfl⟩

/-- Every format reads back the task it was given, the hash with an empty `target_conn_id` as
none, and so they agree on it. -/
theorem formats_roundTrip {task : TaskPayload} (h : (Json.obj task.metadata).wellFormed = true) :
    (∀ old : Dict String String,
      RedisTaskQueue.deserializeTask fmt (hset old (RedisTaskQueue.serializeTask fmt task))
        = some task.dropEmptyConn) ∧
    KafkaTaskQueue.deserializeTask fmt (KafkaTaskQueue.serializeTask fmt task) = some task ∧
    RabbitMQTaskQueue.deserializeTask fmt (RabbitMQTaskQueue.serializeTask fmt task) = some task ∧
    ∀ format : TaskFormat, ∃ task', format.roundTrip fmt task = some task' ∧
      task'.dropEmptyConn = task.dropEmptyConn := by
  refine ⟨fun old ↦ ?_, ?_, ?_, fun format ↦ ?_⟩
  · exact RedisTaskQueue.deserializeTask_hset fmt old h
  · exact TaskPayload.ofDict_toDict fmt task
  · exact RabbitMQTaskQueue.deserializeTask_serializeTask fmt h
  · exact format.exists_roundTrip fmt h

section Witness

/-- Whole floats and the epoch in their usual texts, other times by their number. -/
def epochFormats : TextFormats where
  floats := JsonText.wholeFloats
  isoformat t := if t = 0 then "1970-01-01T00:00:00" else String.ofList (intText t)
  fromisoformat text := if text = "1970-01-01T00:00:00" then some 0 else readInt text
  fromisoformat_isoformat t := by
    by_cases ht : t = 0
    · rw [if_pos ht, if_pos rfl, ht]
    · have hne : String.ofList (intText t) ≠ "1970-01-01T00:00:00" := by
        intro heq
        have hread := readInt_intText t
        rw [heq] at hread
        cases hread
      rw [if_neg ht, if_neg hne, readInt_intText]

/-- A task whose optional fields are of all kinds. -/
def mixedTask : TaskPayload where
  taskId := ⟨7⟩
  tenantId := "acmé:\"eu\""
  targetAgentId := some ⟨0⟩
  targetConnId := some ""
  messageType := "run"
  sessionId := some ⟨255⟩
  priority := .background
  createdAt := 0
  ttlSeconds := -5
  retryCount := 2
  metadata := [("trace", .arr [.int (-1), .null, .str "\n😀"]), ("", .obj [("ok", .bool false)])]

theorem formats_sample :
    (∀ old : Dict String String,
      RedisTaskQueue.deserializeTask epochFormats
          (hset old (RedisTaskQueue.serializeTask epochFormats mixedTask))
        = some { mixedTask with targetConnId := none }) ∧
    KafkaTaskQueue.deserializeTask epochFormats
        (KafkaTaskQueue.serializeTask epochFormats mixedTask) = some mixedTask ∧
    RabbitMQTaskQueue.deserializeTask epochFormats
        (RabbitMQTaskQueue.serializeTask epochFormats mixedTask) = some mixedTask ∧
    ∀ format : TaskFormat, ∃ task', format.roundTrip epochFormats mixedTask = some task' ∧
      task'.dropEmptyConn = { mixedTask with targetConnId := none } :=
  formats_roundTrip epochFormats (by decide)

end Witness

end SemanticBus
