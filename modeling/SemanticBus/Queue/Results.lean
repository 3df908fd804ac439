import SemanticBus.Queue.KafkaCalls
import SemanticBus.Queue.Memory
import SemanticBus.Queue.RabbitMQ
import SemanticBus.Queue.RedisCancelling
import SemanticBus.Queue.TaskFormats

/-!
# The results of completed tasks

Three queues keep the result of a completed task as it is.  The Redis queue keeps a hash of
strings: `complete` sets four of its fields and leaves the others as an earlier result of the
task left them, and it writes a value that is not truthy as the empty string.

The store of results is a refinement of the hashes (`refines_complete`), so `results_iff` is
about the store: when the result that is read is the one that was completed.
-/

universe u

namespace SemanticBus

namespace TaskStatus

def value : TaskStatus → String
  | pending => "pending"
  | processing => "processing"
  | completed => "completed"
  | failed => "failed"
  | cancelled => "cancelled"
  | expired => "expired"

/-- `TaskStatus(value)`: `none` stands for the `ValueError`. -/
def ofValue? (text : String) : Option TaskStatus :=
  [pending, processing, completed, failed, cancelled, expired].find? fun s ↦ s.value = text

theorem ofValue?_value (s : TaskStatus) : ofValue? s.value = some s := by
  cases s <;> rfl

end TaskStatus

namespace TaskResult

/-- The value of a result, `None` when there is none. -/
def value (r : TaskResult) : Json := r.result.getD .null

def writtenOver (r old : TaskResult) : TaskResult :=
  { old with
    status := r.status
    result := r.result.filter Json.truthy
    processedAt := r.processedAt
    durationMs := r.durationMs }

/-- Two results are equal in every field. -/
structure Same (r r' : TaskResult) : Prop where
  taskId : r.taskId = r'.taskId
  status : r.status = r'.status
  value : r.value = r'.value
  errorCode : r.errorCode = r'.errorCode
  errorMessage : r.errorMessage = r'.errorMessage
  processedAt : r.processedAt = r'.processedAt
  durationMs : r.durationMs = r'.durationMs
  retryCount : r.retryCount = r'.retryCount

theorem filter_truthy (r : TaskResult) :
    r.result.filter Json.truthy = if r.value.truthy then some r.value else none := by
  rw [value]
  cases r.result with
  | none | some => rfl

/-- What is made of an earlier result is the later one if it keeps what is there. -/
theorem same_writtenOver_iff {r old : TaskResult} : (r.writtenOver old).Same r ↔
    r.taskId = old.taskId ∧ (r.value = .null ∨ r.value.truthy = true) ∧
      r.errorCode = old.errorCode ∧ r.errorMessage = old.errorMessage ∧
      r.retryCount = old.retryCount := by
  have hvalue : (r.writtenOver old).value = if r.value.truthy then r.value else .null := by
    rw [value, writtenOver, filter_truthy]
    split
    · rfl
    · rfl
  constructor
  · rintro ⟨hid, -, hsame, hcode, hmessage, -, -, hretry⟩
    refine ⟨hid.symm, ?_, hcode.symm, hmessage.symm, hretry.symm⟩
    rw [hvalue] at hsame
    split at hsame
    · exact .inr ‹_›
    · exact .inl hsame.symm
  · rintro ⟨hid, hkept, hcode, hmessage, hretry⟩
    refine ⟨hid.symm, rfl, ?_, hcode.symm, hmessage.symm, rfl, rfl, hretry.symm⟩
    rw [hvalue]
    rcases hkept with hnull | htruthy
    · rw [hnull]
      rfl
    · rw [if_pos htruthy]

end TaskResult

namespace RedisTaskQueue

variable (fmt : TextFormats)

/-! ## The hash of a result -/

def completedFields (r : TaskResult) : List (String × String) :=
  [("status", r.status.value),
    ("result", if r.value.truthy then JsonText.dumps fmt.floats r.value else ""),
    ("processed_at", fmt.isoformat r.processedAt),
    ("duration_ms", String.ofList (fmt.floats.repr r.durationMs))]

def failedFields (errorCode errorMessage : String) (retryCount : Int) (now : Time) :
    List (String × String) :=
  [("status", TaskStatus.failed.value),
    ("error_code", errorCode),
    ("error_message", errorMessage),
    ("retry_count", String.ofList (intText retryCount)),
    ("processed_at", fmt.isoformat now)]

def endedFields (status : TaskStatus) (errorCode errorMessage : String) (now : Time) :
    List (String × String) :=
  [("status", status.value),
    ("error_code", errorCode),
    ("error_message", errorMessage),
    ("processed_at", fmt.isoformat now)]

/-- `json.loads(data["result"]) if data.get("result") else None`. -/
def readResult (data : Dict String String) : Option (Option Json) :=
  match readText data "result" with
  | none => some none
  | some text => (JsonText.loads fmt.floats text).map some

def readDuration (data : Dict String String) : Option ℚ :=
  match data.get? "duration_ms" with
  | none => some 0
  | some text => fmt.floats.read text.toList

def readRetryCount (data : Dict String String) : Option Int :=
  match data.get? "retry_count" with
  | none => some 0
  | some text => readInt text

/-- What `get_result` makes of a hash: `none` stands for no result, and for an exception. -/
def deserializeResult (id : UUID) (data : Dict String String) : Option TaskResult := do
  let status ← (data.get? "status").bind TaskStatus.ofValue?
  let result ← readResult fmt data
  let processedAt ← (data.get? "processed_at").bind fmt.fromisoformat
  let durationMs ← readDuration fmt data
  let retryCount ← readRetryCount data
  pure
    { taskId := id, status, result
      errorCode := readText data "error_code"
      errorMessage := readText data "error_message"
      processedAt, durationMs, retryCount }

variable {fmt} {id : UUID} {data : Dict String String} {r old : TaskResult}

/-- The fields of a hash that need not be there say this result. -/
structure Carries (fmt : TextFormats) (id : UUID) (data : Dict String String) (r : TaskResult) :
    Prop where
  taskId : r.taskId = id
  result : readResult fmt data = some r.result
  errorCode : readText data "error_code" = r.errorCode
  errorMessage : readText data "error_message" = r.errorMessage
  durationMs : readDuration fmt data = some r.durationMs
  retryCount : readRetryCount data = some r.retryCount

structure Holds (fmt : TextFormats) (id : UUID) (data : Dict String String) (r : TaskResult) :
    Prop extends Carries fmt id data r where
  status : (data.get? "status").bind TaskStatus.ofValue? = some r.status
  processedAt : (data.get? "processed_at").bind fmt.fromisoformat = some r.processedAt

theorem Holds.deserializeResult (h : Holds fmt id data r) :
    deserializeResult fmt id data = some r := by
  obtain ⟨⟨rfl, hresult, hcode, hmessage, hduration, hretry⟩, hstatus, hprocessed⟩ := h
  rw [RedisTaskQueue.deserializeResult]
  simp only [hstatus, hresult, hprocessed, hduration, hretry, hcode, hmessage]
  rfl

/-- An empty hash says nothing. -/
theorem carries_empty (now : Time) :
    Carries fmt id ∅ { taskId := id, status := .pending, processedAt := now } :=
  ⟨rfl, rfl, rfl, rfl, rfl, rfl⟩

/-- What comes of a hash when `complete` sets its fields. -/
theorem Carries.completed (h : Carries fmt id data old) (hr : r.value.wellFormed = true) :
    Holds fmt id (hset data (completedFields fmt r)) (r.writtenOver old) := by
  have hkeys : (completedFields fmt r).map Prod.fst
      = ["status", "result", "processed_at", "duration_ms"] := rfl
  obtain ⟨hget, hother⟩ := get?_hset data hkeys (by decide)
  generalize hset data (completedFields fmt r) = data' at hget hother
  simp only [completedFields, List.forall_mem_cons] at hget
  obtain ⟨hstatus, hresult, hprocessed, hduration, -⟩ := hget
  rw [TaskResult.writtenOver]
  refine ⟨⟨h.taskId, ?_, ?_, ?_, ?_, ?_⟩, ?_, ?_⟩
  · rw [TaskResult.filter_truthy, readResult, readText, hresult]
    by_cases htruthy : r.value.truthy = true
    · have hfilter : (some (JsonText.dumps fmt.floats r.value)).filter (· ≠ "")
          = some (JsonText.dumps fmt.floats r.value) := by
        simp [Option.filter, JsonText.dumps_ne_empty]
      rw [if_pos htruthy, if_pos htruthy, hfilter]
      show (JsonText.loads fmt.floats _).map some = _
      rw [JsonText.loads_dumps _ hr, Option.map_some]
    · rw [if_neg htruthy, if_neg htruthy]
      rfl
  · rw [readText, hother _ (by decide), ← readText, h.errorCode]
  · rw [readText, hother _ (by decide), ← readText, h.errorMessage]
  · simp only [readDuration, hduration, String.toList_ofList, fmt.floats.read_repr]
  · rw [readRetryCount, hother _ (by decide), ← readRetryCount, h.retryCount]
  · rw [hstatus, Option.bind_some, TaskStatus.ofValue?_value]
  · rw [hprocessed, Option.bind_some, fmt.fromisoformat_isoformat]

/-- A hash in which the fields of an error are set. -/
theorem Carries.withError {data' : Dict String String} {status : TaskStatus}
    {errorCode errorMessage : String} {now : Time} {n : Int} (h : Carries fmt id data old)
    (hstatus : data'.get? "status" = some status.value)
    (hcode : data'.get? "error_code" = some errorCode)
    (hmessage : data'.get? "error_message" = some errorMessage)
    (hprocessed : data'.get? "processed_at" = some (fmt.isoformat now))
    (hresult : data'.get? "result" = data.get? "result")
    (hduration : data'.get? "duration_ms" = data.get? "duration_ms")
    (hretry : readRetryCount data' = some n) :
    Holds fmt id data'
      { old with
        status := status
        errorCode := (some errorCode).filter (· ≠ "")
        errorMessage := (some errorMessage).filter (· ≠ "")
        retryCount := n
        processedAt := now } := by
  refine ⟨⟨h.taskId, ?_, ?_, ?_, ?_, hretry⟩, ?_, ?_⟩
  · rw [readResult, readText, hresult, ← readText, ← readResult, h.result]
  · rw [readText, hcode]
  · rw [readText, hmessage]
  · rw [readDuration, hduration, ← readDuration, h.durationMs]
  · rw [hstatus, Option.bind_some, TaskStatus.ofValue?_value]
  · rw [hprocessed, Option.bind_some, fmt.fromisoformat_isoformat]

/-- What comes of a hash when the task ends without a result. -/
theorem Carries.ended (h : Carries fmt id data old) (status : TaskStatus)
    (errorCode errorMessage : String) (now : Time) :
    Holds fmt id (hset data (endedFields fmt status errorCode errorMessage now))
      { old with
        status := status
        errorCode := (some errorCode).filter (· ≠ "")
        errorMessage := (some errorMessage).filter (· ≠ "")
        processedAt := now } := by
  have hkeys : (endedFields fmt status errorCode errorMessage now).map Prod.fst
      = ["status", "error_code", "error_message", "processed_at"] := rfl
  obtain ⟨hget, hother⟩ := get?_hset data hkeys (by decide)
  generalize hset data (endedFields fmt status errorCode errorMessage now) = data' at hget hother
  simp only [endedFields, List.forall_mem_cons] at hget
  obtain ⟨hstatus, hcode, hmessage, hprocessed, -⟩ := hget
  refine h.withError hstatus hcode hmessage hprocessed (hother _ (by decide))
    (hother _ (by decide)) ?_
  rw [readRetryCount, hother _ (by decide), ← readRetryCount, h.retryCount]

/-- What comes of a hash when `fail` sets its fields. -/
theorem Carries.failed (h : Carries fmt id data old) (errorCode errorMessage : String)
    (retryCount : Int) (now : Time) :
    Holds fmt id (hset data (failedFields fmt errorCode errorMessage retryCount now))
      { old with
        status := .failed
        errorCode := (some errorCode).filter (· ≠ "")
        errorMessage := (some errorMessage).filter (· ≠ "")
        retryCount := retryCount
        processedAt := now } := by
  have hkeys : (failedFields fmt errorCode errorMessage retryCount now).map Prod.fst
      = ["status", "error_code", "error_message", "retry_count", "processed_at"] := rfl
  obtain ⟨hget, hother⟩ := get?_hset data hkeys (by decide)
  generalize hset data (failedFields fmt errorCode errorMessage retryCount now) = data'
    at hget hother
  simp only [failedFields, List.forall_mem_cons] at hget
  obtain ⟨hstatus, hcode, hmessage, hretry, hprocessed, -⟩ := hget
  refine h.withError hstatus hcode hmessage hprocessed (hother _ (by decide))
    (hother _ (by decide)) ?_
  rw [readRetryCount, hretry]
  exact readInt_intText retryCount

/-! ## The hashes on the server -/

/-- `HSET` of the fields of a result, over those that are there, and `EXPIRE`. -/
def storeFields (q : RedisTaskQueue) (now : Time) (id : UUID) (fields : List (String × String))
    (hashes : Expiring UUID (Dict String String)) : Expiring UUID (Dict String String) :=
  (hashes.change now id fun old ↦ hset (old.getD ∅) fields).expire now id q.resultTtl

def getResult (fmt : TextFormats) (now : Time) (id : UUID)
    (hashes : Expiring UUID (Dict String String)) : Option TaskResult :=
  (hashes.read now id).bind (deserializeResult fmt id)

variable {q : RedisTaskQueue} {now t : Time} {s s' : RedisTaskStore}
  {hashes : Expiring UUID (Dict String String)}

/-- Reading the store is what `get_result` makes of the hashes. -/
theorem getResult_eq (h : Expiring.Refines (Holds fmt) hashes s.results) (now : Time)
    (id : UUID) : getResult fmt now id hashes = s.results.read now id := by
  have hread := h.read now id
  rw [getResult]
  generalize hashes.read now id = data at hread
  generalize s.results.read now id = result at hread
  cases hread with
  | none => rfl
  | some hholds => exact hholds.deserializeResult

/-- Setting fields of the hash is changing the result in the store. -/
theorem refines_hsetResult {fields : List (String × String)}
    {update : Time → TaskResult → TaskResult}
    (h : Expiring.Refines (Holds fmt) hashes s.results)
    (hfields : ∀ {data old}, Carries fmt id data old →
      Holds fmt id (hset data fields) (update now old)) :
    Expiring.Refines (Holds fmt) (q.storeFields now id fields hashes)
      ((q.hsetResult id update).run now s).2.results := by
  refine Expiring.Refines.expire (Expiring.Refines.change h now ?_) now id q.resultTtl
  intro data old hrel
  cases hrel with
  | none => exact hfields (carries_empty now)
  | some hholds => exact hfields hholds.toCarries

/-- Acknowledging touches no result. -/
theorem results_acknowledge (target : AckTarget) (now : Time) (s : RedisTaskStore) :
    ((acknowledge target).run now s).2.results = s.results := by
  cases target with
  | nothing | entry | refused => rfl

theorem results_removeFromIndexes (task : TaskPayload) (id : UUID) (now : Time)
    (s : RedisTaskStore) : ((removeFromIndexes task id).run now s).2.results = s.results := by
  have hrule : Prog.Within (fun s s' : RedisTaskStore ↦ s'.results = s.results)
      (removeFromIndexes task id) := (indexes_rule (fun _ _ _ ↦ rfl) task id).2
  exact hrule.run (fun _ ↦ rfl) (fun h h' ↦ h'.trans h) now s

/-- What `complete` stores. -/
theorem results_complete {r : TaskResult} (h : q.exec now (.complete id r) s = (.done true, s')) :
    s'.results = ((q.hsetResult id fun _ old ↦ r.writtenOver old).run now s).2.results := by
  rw [exec, prog, complete, Prog.run_bind, getTask, Prog.run_query] at h
  cases hread : s.tasks.read now id with
  | none =>
      rw [hread] at h
      cases h
  | some task =>
      rw [hread] at h
      dsimp only at h
      split at h
      · cases h
      · rw [Prog.run_bind, Prog.run_bind, Prog.run_bind, Prog.run_bind] at h
        obtain ⟨-, rfl⟩ := Prod.mk.inj h
        rw [results_removeFromIndexes]
        show Expiring.expire (Expiring.change ((acknowledge _).run now s).2.results _ _ _) _ _ _ = _
        rw [results_acknowledge]
        rfl

/-- Setting the fields that `complete` sets is what `complete` does to the store. -/
theorem refines_complete {r : TaskResult} (h : Expiring.Refines (Holds fmt) hashes s.results)
    (hr : r.value.wellFormed = true) (hexec : q.exec now (.complete id r) s = (.done true, s')) :
    Expiring.Refines (Holds fmt) (q.storeFields now id (completedFields fmt r) hashes)
      s'.results := by
  rw [results_complete hexec]
  exact refines_hsetResult h fun hcarries ↦ hcarries.completed hr

/-! ## Every stored result -/

def Blank (id : UUID) (r : TaskResult) : Prop :=
  ∃ now, r = { taskId := id, status := .pending, processedAt := now }

/-- A property that the writers of results keep. -/
structure Closed (Good : TaskResult → Prop) (P : UUID → TaskResult → Prop) : Prop where
  completed : ∀ {id old r}, P id old ∨ Blank id old → Good r → P id (r.writtenOver old)
  ended : ∀ {id old} (status : TaskStatus) (errorCode errorMessage : String) (now : Time),
    P id old ∨ Blank id old →
    P id { old with
      status := status
      errorCode := (some errorCode).filter (· ≠ "")
      errorMessage := (some errorMessage).filter (· ≠ "")
      processedAt := now }
  failed : ∀ {id old} (errorCode errorMessage : String) (retryCount : Int) (now : Time),
    P id old ∨ Blank id old →
    P id { old with
      status := .failed
      errorCode := (some errorCode).filter (· ≠ "")
      errorMessage := (some errorMessage).filter (· ≠ "")
      retryCount := retryCount
      processedAt := now }

/-- Results have the id of their task. -/
theorem closed_taskId : Closed (fun _ ↦ True) fun id r ↦ r.taskId = id := by
  have hid : ∀ {id : UUID} {old : TaskResult}, old.taskId = id ∨ Blank id old →
      old.taskId = id := by
    rintro id old (h | ⟨now, rfl⟩)
    · exact h
    · rfl
  refine ⟨fun {id old r} h _ ↦ ?_, fun {id old} _ _ _ _ h ↦ ?_, fun {id old} _ _ _ _ h ↦ ?_⟩
  · show old.taskId = id
    exact hid h
  · show old.taskId = id
    exact hid h
  · show old.taskId = id
    exact hid h

/-- Results are what some hash says, if the values of completed ones are JSON. -/
theorem closed_holds (fmt : TextFormats) :
    Closed (fun r ↦ r.value.wellFormed = true) fun id r ↦ ∃ data, Holds fmt id data r := by
  have hcarries : ∀ {id : UUID} {old : TaskResult},
      (∃ data, Holds fmt id data old) ∨ Blank id old → ∃ data, Carries fmt id data old := by
    rintro id old (⟨data, h⟩ | ⟨now, rfl⟩)
    · exact ⟨data, h.toCarries⟩
    · exact ⟨∅, carries_empty now⟩
  refine ⟨fun h hr ↦ ?_, fun status errorCode errorMessage now h ↦ ?_,
    fun errorCode errorMessage retryCount now h ↦ ?_⟩
  · obtain ⟨data, hdata⟩ := hcarries h
    exact ⟨_, hdata.completed hr⟩
  · obtain ⟨data, hdata⟩ := hcarries h
    exact ⟨_, hdata.ended status errorCode errorMessage now⟩
  · obtain ⟨data, hdata⟩ := hcarries h
    exact ⟨_, hdata.failed errorCode errorMessage retryCount now⟩

section Stores

open Prog

variable {Good : TaskResult → Prop} {P : UUID → TaskResult → Prop}

def Keeps (P : UUID → TaskResult → Prop) (s s' : RedisTaskStore) : Prop :=
  Expiring.All P s.results → Expiring.All P s'.results

theorem Keeps.refl (s : RedisTaskStore) : Keeps P s s := id

theorem Keeps.trans {s'' : RedisTaskStore} (h : Keeps P s s') (h' : Keeps P s' s'') :
    Keeps P s s'' := h' ∘ h

theorem keeps_modify {f : Time → RedisTaskStore → RedisTaskStore}
    (h : ∀ now s, (f now s).results = s.results) : Within (Keeps P) (.modify f) := by
  refine .modify fun now s hs ↦ ?_
  rw [h now s]
  exact hs

theorem keeps_hsetResult {update : Time → TaskResult → TaskResult}
    (h : ∀ now old, P id old ∨ Blank id old → P id (update now old)) :
    Within (Keeps P) (q.hsetResult id update) := by
  refine .bind (.modify fun now s hs ↦ Expiring.All.change hs now fun old hold ↦ h now _ ?_)
    fun _ ↦ .modify fun now s hs ↦ Expiring.All.expire hs now id q.resultTtl
  cases old with
  | none => exact .inr ⟨now, rfl⟩
  | some old => exact .inl (hold old rfl)

theorem keeps_acknowledge (target : AckTarget) : Within (Keeps P) (acknowledge target) := by
  cases target with
  | nothing | refused => exact .ret _
  | entry e => exact keeps_modify fun _ _ ↦ rfl

theorem keeps_indexes (task : TaskPayload) (id : UUID) :
    Within (Keeps P) (addToIndexes task) ∧ Within (Keeps P) (removeFromIndexes task id) :=
  indexes_rule (fun s _ _ ↦ Keeps.refl s) task id

theorem keeps_enqueue (task : TaskPayload) (delaySeconds : ℚ) :
    Within (Keeps P) (q.enqueue task delaySeconds) := by
  refine enqueue_rule ?_ ?_ ?_ (keeps_indexes task task.taskId).1 ?_
  · exact keeps_modify fun _ _ ↦ rfl
  · exact fun _ s ↦ Keeps.refl s
  · exact fun s _ ↦ Keeps.refl s
  · refine scheduleTask_rule .refl (fun _ ↦ ?_) ?_
    · exact keeps_modify fun _ _ ↦ rfl
    · exact keeps_modify fun _ _ ↦ rfl

theorem keeps_processDelayedTasks : Within (Keeps P) processDelayedTasks :=
  processDelayedTasks_rule .refl (fun _ _ ↦ keeps_modify fun _ _ ↦ rfl) fun s _ ↦ Keeps.refl s

theorem keeps_dequeue (h : Closed Good P) (tenantId : Option String) :
    Within (Keeps P) (q.dequeue tenantId) := by
  have hexpired : ∀ id e, Within (Keeps P) (q.markExpired id e) := by
    intro id e
    refine .bind (keeps_modify fun _ _ ↦ rfl) fun _ ↦ .bind (keeps_modify fun _ _ ↦ rfl) fun _ ↦
      keeps_hsetResult fun now old hold ↦ ?_
    exact h.ended .expired "TASK_EXPIRED" "Task exceeded TTL" now hold
  have hread : ∀ ps, Within (Keeps P) (q.readStreams tenantId ps) := by
    intro ps
    induction ps with
    | nil => exact .ret _
    | cons p ps ih =>
        refine .bind (.command fun _ _ ↦ ?_) fun entry ↦ ?_
        · exact Keeps.refl _
        · cases entry with
          | none => exact ih
          | some entry =>
              refine .bind (.query _ .refl) fun task ↦ ?_
              cases task with
              | none => exact .bind (keeps_modify fun _ _ ↦ rfl) fun _ ↦ ih
              | some task =>
                  refine .bind (.ask .refl) fun now ↦ ?_
                  split
                  · exact ih
                  · split
                    · exact .bind (hexpired _ _) fun _ ↦ ih
                    · exact .bind (keeps_modify fun _ _ ↦ rfl) fun _ ↦ .ret _
  rw [dequeue]
  split
  · exact .ret _
  · exact .bind keeps_processDelayedTasks fun _ ↦ hread _

theorem keeps_complete (h : Closed Good P) {r : TaskResult} (hr : Good r) :
    Within (Keeps P) (q.complete id r) := by
  refine .bind (.query _ .refl) fun task ↦ ?_
  cases task with
  | none => exact .ret _
  | some task =>
      dsimp only
      split
      · exact .ret _
      · exact .bind (keeps_acknowledge _) fun _ ↦ .bind (keeps_modify fun _ _ ↦ rfl) fun _ ↦
          .bind (keeps_hsetResult fun _ _ hold ↦ h.completed hold hr) fun _ ↦
            .bind (keeps_indexes _ _).2 fun _ ↦ .ret _

theorem keeps_fail (h : Closed Good P) (errorCode errorMessage : String) (retry : Bool) :
    Within (Keeps P) (q.fail id errorCode errorMessage retry) := by
  refine .bind (.query _ .refl) fun task ↦ ?_
  cases task with
  | none => exact .ret _
  | some task =>
      dsimp only
      split
      · exact .ret _
      · refine .bind (keeps_acknowledge _) fun _ ↦ ?_
        split
        · exact .bind (keeps_modify fun _ _ ↦ rfl) fun _ ↦ .bind (keeps_modify fun _ _ ↦ rfl)
            fun _ ↦ .bind (.ask .refl) fun _ ↦ .bind (keeps_modify fun _ _ ↦ rfl) fun _ ↦ .ret _
        · exact .bind (keeps_modify fun _ _ ↦ rfl) fun _ ↦
            .bind (keeps_hsetResult fun now _ hold ↦ h.failed _ _ _ now hold) fun _ ↦
              .bind (keeps_indexes _ _).2 fun _ ↦ .ret _

theorem keeps_cancel (h : Closed Good P) : Within (Keeps P) (q.cancel id) := by
  refine .bind (.query _ .refl) fun status ↦ ?_
  split
  · exact .ret _
  · refine .bind (keeps_modify fun _ _ ↦ rfl) fun _ ↦ .bind (keeps_modify fun _ _ ↦ rfl) fun _ ↦
      .bind (keeps_hsetResult fun now old hold ↦ ?_) fun _ ↦ .ret _
    exact h.ended .cancelled "TASK_CANCELLED" "Task cancelled by user" now hold

def Serves : Step RedisTaskStore (Time × RedisTaskQueue × QueueOp) :=
  fun s a s' ↦ s' = (backend.exec a.1 a.2.2 (a.2.1, s)).2.2

def Completes (Good : TaskResult → Prop) : QueueOp → Prop
  | .complete _ r => Good r
  | _ => True

theorem keeps_serves (h : Closed Good P) {a : Time × RedisTaskQueue × QueueOp}
    (hgood : Completes Good a.2.2) (hstep : Serves s a s') : Keeps P s s' := by
  obtain ⟨now, q, op⟩ := a
  obtain rfl := hstep
  cases op with
  | enqueue task delaySeconds =>
      exact (keeps_enqueue task delaySeconds).run .refl .trans now s
  | dequeue tenantId => exact (keeps_dequeue h tenantId).run .refl .trans now s
  | complete id r => exact (keeps_complete h hgood).run .refl .trans now s
  | fail id errorCode errorMessage retry =>
      exact (keeps_fail h errorCode errorMessage retry).run .refl .trans now s
  | cancel id => exact (keeps_cancel h).run .refl .trans now s
  | clearExpired =>
      exact Within.run (.bind keeps_processDelayedTasks fun _ ↦ .ret _) .refl .trans now s
  | shutdown => exact .refl s

/-- What the writers keep holds of every result that is stored in a run. -/
theorem all_run (h : Closed Good P) {as : List (Time × RedisTaskQueue × QueueOp)}
    (hgood : ∀ a ∈ as, Completes Good a.2.2) (hrun : Run Serves {} as s) :
    Expiring.All P s.results := by
  have hstep : ∀ s a s', Expiring.All P s.results →
      Step.Only (fun _ a ↦ Completes Good a.2.2) Serves s a s' → Expiring.All P s'.results :=
    fun s a s' hs hstep ↦ keeps_serves h hstep.1 hstep.2 hs
  exact Run.invariant (P := fun s ↦ Expiring.All P s.results) hstep
    (hrun.only_of_labels hgood) Expiring.All.empty

/-- In every run there are hashes that the store of results is the meaning of. -/
theorem exists_hashes (fmt : TextFormats) {as : List (Time × RedisTaskQueue × QueueOp)}
    (hgood : ∀ a ∈ as, Completes (fun r ↦ r.value.wellFormed = true) a.2.2)
    (hrun : Run Serves {} as s) :
    ∃ hashes, Expiring.Refines (Holds fmt) hashes s.results :=
  Expiring.exists_refines (all_run (closed_holds fmt) hgood hrun)

end Stores

/-! ## The result that is read -/

/-- What the hash keeps of a result: its id is that of the task, its value is `None` or truthy,
and the other fields are those of the result that is already there. -/
structure Kept (s : RedisTaskStore) (now : Time) (id : UUID) (r : TaskResult) : Prop where
  taskId : r.taskId = id
  value : r.value = .null ∨ r.value.truthy = true
  errorCode : r.errorCode = (s.results.read now id).bind TaskResult.errorCode
  errorMessage : r.errorMessage = (s.results.read now id).bind TaskResult.errorMessage
  retryCount : r.retryCount = ((s.results.read now id).map TaskResult.retryCount).getD 0

/-- What is read of a completed task, before its result expires. -/
theorem read_complete {r : TaskResult} (h : q.exec now (.complete id r) s = (.done true, s'))
    (hle : now ≤ t) (ht : t < now + Time.seconds q.resultTtl) :
    s'.results.read t id = some (r.writtenOver
      ((s.results.read now id).getD { taskId := id, status := .pending, processedAt := now })) := by
  have hpos : 0 < q.resultTtl := by
    have hlt : 0 < q.resultTtl * 1000000 := lt_add_iff_pos_right _ |>.mp (lt_of_le_of_lt hle ht)
    omega
  rw [results_complete h]
  exact (Expiring.read_expire (Expiring.read_change_self _) hpos ht).trans (if_pos rfl)

/-- A Redis queue returns a result as it was completed exactly when the hash keeps it. -/
theorem read_complete_iff {r : TaskResult} {as : List (Time × RedisTaskQueue × QueueOp)}
    (hrun : Run Serves {} as s) (h : q.exec now (.complete id r) s = (.done true, s'))
    (hle : now ≤ t) (ht : t < now + Time.seconds q.resultTtl) :
    (∃ r', s'.results.read t id = some r' ∧ r'.Same r) ↔ Kept s now id r := by
  have hall := all_run closed_taskId (fun a _ ↦ by cases a.2.2 <;> trivial) hrun
  obtain ⟨earlier, hearlier⟩ : ∃ earlier, (s.results.read now id).getD
      { taskId := id, status := .pending, processedAt := now } = earlier := ⟨_, rfl⟩
  have hfields : earlier.taskId = id ∧
      earlier.errorCode = (s.results.read now id).bind TaskResult.errorCode ∧
      earlier.errorMessage = (s.results.read now id).bind TaskResult.errorMessage ∧
      earlier.retryCount = ((s.results.read now id).map TaskResult.retryCount).getD 0 := by
    subst hearlier
    cases hread : s.results.read now id with
    | none => exact ⟨rfl, rfl, rfl, rfl⟩
    | some old => exact ⟨hall.read hread, rfl, rfl, rfl⟩
  obtain ⟨hid, hcode, hmessage, hretry⟩ := hfields
  have hsame : (∃ r', s'.results.read t id = some r' ∧ r'.Same r) ↔ (r.writtenOver earlier).Same r := by
    rw [read_complete h hle ht, hearlier]
    constructor
    · rintro ⟨r', hr', hsame⟩
      exact Option.some.inj hr' ▸ hsame
    · exact fun hsame ↦ ⟨_, rfl, hsame⟩
  rw [hsame, TaskResult.same_writtenOver_iff, hid, hcode, hmessage, hretry]
  constructor
  · rintro ⟨hid, hvalue, hcode, hmessage, hretry⟩
    exact ⟨hid, hvalue, hcode, hmessage, hretry⟩
  · rintro ⟨hid, hvalue, hcode, hmessage, hretry⟩
    exact ⟨hid, hvalue, hcode, hmessage, hretry⟩

/-- What `get_result` makes of the hashes after a `complete` is what is read of the store. -/
theorem getResult_complete {r : TaskResult}
    (h : Expiring.Refines (Holds fmt) hashes s.results) (hr : r.value.wellFormed = true)
    (hexec : q.exec now (.complete id r) s = (.done true, s')) (t : Time) :
    getResult fmt t id (q.storeFields now id (completedFields fmt r) hashes)
      = s'.results.read t id := getResult_eq (refines_complete h hr hexec) t id

end RedisTaskQueue

/-! ## All queues -/

theorem InMemoryTaskQueue.results_complete {η : Type u} {q q' : InMemoryTaskQueue η} {id : UUID}
    {r : TaskResult} (h : q.complete id r = (true, q')) : q'.results.get? id = some r := by
  rw [complete] at h
  split at h
  · cases h
  · obtain ⟨-, rfl⟩ := Prod.mk.inj h
    exact Dict.get?_insert_self _ _ _

theorem RabbitMQTaskQueue.results_complete {q q' : RabbitMQTaskQueue} {id : UUID}
    {r : TaskResult} (h : q.complete id r = (.done true, q')) : q'.results.get? id = some r := by
  rw [complete] at h
  split at h
  · cases h
  · dsimp only at h
    split at h
    · cases h
    · obtain ⟨-, rfl⟩ := Prod.mk.inj h
      exact Dict.get?_insert_self _ _ _

theorem KafkaSystem.Served.results_complete {now : Time} {broker broker' : KafkaBroker}
    {q q' : KafkaTaskQueue} {id : UUID} {r : TaskResult}
    (h : Served now broker q (.complete id r) (.done true) broker' q') :
    q'.results.get? id = some r := by
  cases h with
  | completed => exact Dict.get?_insert_self _ _ _

theorem KafkaSystem.results_complete {now : Time} {answers : List KafkaAnswer}
    {x x' : KafkaBroker × KafkaTaskQueue} {id : UUID} {r : TaskResult}
    (h : serve now answers (.complete id r) x = (.done true, x')) :
    x'.2.results.get? id = some r := by
  have hserved : Served now x.1 x.2 (.complete id r)
      (serve now answers (.complete id r) x).1 (serve now answers (.complete id r) x).2.1
      (serve now answers (.complete id r) x).2.2 := served_complete id r
  rw [h] at hserved
  exact hserved.results_complete

/-- The queues that keep results as they are return the result of a task as it was completed.
The Redis queue does, until the result expires, exactly when the hash keeps it. -/
theorem results_iff (η : Type u) (id : UUID) (r : TaskResult) :
    (∀ q q' : InMemoryTaskQueue η, q.complete id r = (true, q') →
      q'.results.get? id = some r) ∧
    (∀ q q' : RabbitMQTaskQueue, q.complete id r = (.done true, q') →
      q'.results.get? id = some r) ∧
    (∀ now answers x x', KafkaSystem.serve now answers (.complete id r) x = (.done true, x') →
      x'.2.results.get? id = some r) ∧
    ∀ as s, Run RedisTaskQueue.Serves {} as s →
      ∀ (q : RedisTaskQueue) now s', q.exec now (.complete id r) s = (.done true, s') →
        ∀ t, now ≤ t → t < now + Time.seconds q.resultTtl →
          ((∃ r', s'.results.read t id = some r' ∧ r'.Same r) ↔
            RedisTaskQueue.Kept s now id r) := by
  refine ⟨fun q q' h ↦ ?_, fun q q' h ↦ ?_, fun now answers x x' h ↦ ?_, ?_⟩
  · exact InMemoryTaskQueue.results_complete h
  · exact RabbitMQTaskQueue.results_complete h
  · exact KafkaSystem.results_complete h
  · intro as s hrun q now s' hexec t hle ht
    exact RedisTaskQueue.read_complete_iff hrun hexec hle ht

section Witness

open RedisTaskQueue

def oneClient : RedisTaskQueue where
  consumer := "worker_1"

def heldTask : TaskPayload where
  taskId := ⟨1⟩
  tenantId := "acme"
  createdAt := 0

def heldStore : RedisTaskStore :=
  (oneClient.exec 2000 (.dequeue none) (oneClient.exec 1000 (.enqueue heldTask 0) {}).2).2

def countResult (count : Int) : TaskResult where
  taskId := ⟨1⟩
  status := .completed
  result := some (.int count)
  processedAt := 3000
  durationMs := 1

theorem held_run : Run Serves {}
    [(1000, oneClient, .enqueue heldTask 0), (2000, oneClient, .dequeue none)] heldStore :=
  .cons rfl (.cons rfl (.nil _))

/-- A count is read as it was completed. -/
theorem results_sample : ∃ as s s', Run Serves {} as s ∧
    oneClient.exec 3000 (.complete ⟨1⟩ (countResult 2)) s = (.done true, s') ∧
    ∃ r', s'.results.read 1000000000 ⟨1⟩ = some r' ∧ r'.Same (countResult 2) := by
  have hkept : Kept heldStore 3000 ⟨1⟩ (countResult 2) := by
    refine ⟨rfl, .inr ?_, rfl, rfl, rfl⟩
    decide
  refine ⟨_, heldStore, _, held_run, rfl, ?_⟩
  refine ((results_iff Unit ⟨1⟩ (countResult 2)).2.2.2 _ _ held_run oneClient 3000 _ rfl
    1000000000 ?_ ?_).mpr hkept
  · decide
  · decide

/-- A count of zero is lost: the result is read without it. -/
theorem results_lost :
    (oneClient.exec 2000 (.dequeue none)
        (oneClient.exec 1000 (.enqueue heldTask 0) {}).2).1.outcome = .handedOut ⟨1⟩ ∧
    ∃ s', oneClient.exec 3000 (.complete ⟨1⟩ (countResult 0)) heldStore = (.done true, s') ∧
      s'.results.read 4000 ⟨1⟩ = some { countResult 0 with result := none } ∧
      ¬ TaskResult.Same { countResult 0 with result := none } (countResult 0) := by
  refine ⟨by decide +kernel, _, rfl, rfl, ?_⟩
  intro hsame
  cases hsame.value

end Witness

end SemanticBus
