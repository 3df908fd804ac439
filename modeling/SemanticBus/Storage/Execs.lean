import Mathlib.Data.Finset.Sort
import SemanticBus.Data.Prog
import SemanticBus.Data.Redis
import SemanticBus.Data.Run
import SemanticBus.Storage.Ports

/-!
# The execution stores

Two adapters of the execution port: dictionaries in memory, and keys of a Redis
server.  The first one finds an idempotency key of any session, the second one only a
key of the session of the record, and no key at all in `get`.  So the two agree on a
history exactly when no call of it meets the key of an execution in another way
(`results_same_iff`).

The key families of the server are one field each of `RedisExecs`; a record is read
back as it was written.
-/

namespace SemanticBus

structure StatusFields where
  acceptedAt : Option (Option Time) := none
  completedAt : Option (Option Time) := none
  resultViewId : Option (Option String) := none
  resultValid : Option (Option Bool) := none

def ExecRecord.withStatus (record : ExecRecord) (status : String) (fields : StatusFields) :
    ExecRecord :=
  { record with
    status := status
    acceptedAt := fields.acceptedAt.getD record.acceptedAt
    completedAt := fields.completedAt.getD record.completedAt
    resultViewId := fields.resultViewId.getD record.resultViewId
    resultValid := fields.resultValid.getD record.resultValid }

inductive ExecCall where
  | putIfAbsent (record : ExecRecord)
  | get (execId : Option UUID) (idempotencyKey : Option String)
  | setStatus (execId : UUID) (status : String) (fields : StatusFields)
  | listBySession (sessionId : UUID) (status : Option String)

/-- What a call to an execution store returns. -/
inductive ExecReply where
  | put (record : ExecRecord) (created : Bool)
  | record (record : Option ExecRecord)
  | records (records : List ExecRecord)

/-- The same result, up to the order of a list. -/
def ExecReply.Same : ExecReply → ExecReply → Prop
  | .records xs, .records ys => ∀ x, x ∈ xs ↔ x ∈ ys
  | reply, reply' => reply = reply'

theorem ExecReply.Same.refl (reply : ExecReply) : reply.Same reply := by
  cases reply with
  | put record created => rfl
  | record record => rfl
  | records records => exact fun _ ↦ Iff.rfl

/-- The records with a status, if one is given. -/
def ofStatus (status : Option String) (records : List ExecRecord) : List ExecRecord :=
  records.filter fun record ↦ status.all (record.status = ·)

/-! ## In memory -/

structure InMemoryExecStore where
  execs : Dict UUID ExecRecord := ∅
  /-- The execution of an idempotency key. -/
  byIdempotency : Dict String UUID := ∅
  /-- The executions of a session. -/
  bySession : Dict UUID (List UUID) := ∅

namespace InMemoryExecStore

def findKey (store : InMemoryExecStore) (key : String) : Option ExecRecord :=
  (store.byIdempotency.get? key).bind store.execs.get?

/-- Create an execution record, with the checks made. -/
def create (store : InMemoryExecStore) (record : ExecRecord) : InMemoryExecStore where
  execs := store.execs.insert record.execId record
  byIdempotency := match nonempty record.idempotencyKey with
    | none => store.byIdempotency
    | some key => store.byIdempotency.insert key record.execId
  bySession := store.bySession.insert record.sessionId
    ((store.bySession.get? record.sessionId).getD [] ++ [record.execId])

/-- Create an execution record if it doesn't exist. -/
def putIfAbsent (store : InMemoryExecStore) (record : ExecRecord) :
    InMemoryExecStore × ExecReply :=
  match (nonempty record.idempotencyKey).bind store.findKey with
  | some existing => (store, .put existing false)
  | none =>
      match store.execs.get? record.execId with
      | some existing => (store, .put existing false)
      | none => (store.create record, .put record true)

def get (store : InMemoryExecStore) (execId : Option UUID) (idempotencyKey : Option String) :
    Option ExecRecord :=
  match execId with
  | some execId => store.execs.get? execId
  | none => (nonempty idempotencyKey).bind store.findKey

/-- Update execution status and optional fields. -/
def setStatus (store : InMemoryExecStore) (execId : UUID) (status : String)
    (fields : StatusFields) : InMemoryExecStore × ExecReply :=
  match store.execs.get? execId with
  | none => (store, .record none)
  | some record =>
      ({ store with execs := store.execs.insert execId (record.withStatus status fields) },
        .record (some (record.withStatus status fields)))

def listBySession (store : InMemoryExecStore) (sessionId : UUID) (status : Option String) :
    List ExecRecord :=
  ofStatus status (((store.bySession.get? sessionId).getD []).filterMap store.execs.get?)

def exec (store : InMemoryExecStore) : ExecCall → InMemoryExecStore × ExecReply
  | .putIfAbsent record => store.putIfAbsent record
  | .get execId idempotencyKey => (store, .record (store.get execId idempotencyKey))
  | .setStatus execId status fields => store.setStatus execId status fields
  | .listBySession sessionId status => (store, .records (store.listBySession sessionId status))

/-- The store after some calls. -/
def after (calls : List (Time × ExecCall)) : InMemoryExecStore :=
  calls.foldl (fun store call ↦ (store.exec call.2).1) {}

end InMemoryExecStore

/-! ## On a Redis server -/

structure RedisExecs where
  execs : Expiring UUID ExecRecord := ∅
  /-- The execution of an idempotency key of a session. -/
  idem : Expiring (UUID × String) UUID := ∅
  /-- The executions of a session. -/
  bySession : Expiring UUID (Finset UUID) := ∅

abbrev ExecProg := Prog Time RedisExecs

structure RedisExecStore where
  ttl : Int := 604800
  /-- `SET` refuses an expiry that is not positive. -/
  ttl_pos : 0 < ttl := by decide

namespace RedisExecStore

variable (store : RedisExecStore)

def expiry (now : Time) : Option Time := some (now + Time.seconds store.ttl)

def getRecord (execId : UUID) : ExecProg (Option ExecRecord) :=
  .query fun now s ↦ s.execs.read now execId

def setRecord (execId : UUID) (record : ExecRecord) : ExecProg Unit :=
  .modify fun now s ↦ { s with execs := s.execs.write execId record (store.expiry now) }

def setRecordNx (record : ExecRecord) : ExecProg Bool :=
  .command fun now s ↦
    match s.execs.read now record.execId with
    | some _ => (false, s)
    | none => (true,
        { s with execs := s.execs.write record.execId record (store.expiry now) })

def getMapping (sessionId : UUID) (key : String) : ExecProg (Option UUID) :=
  .query fun now s ↦ s.idem.read now (sessionId, key)

def setMapping (sessionId : UUID) (key : String) (execId : UUID) : ExecProg Unit :=
  .modify fun now s ↦
    { s with idem := s.idem.write (sessionId, key) execId (store.expiry now) }

/-- Map the idempotency key of a record, if it has one. -/
def mapKey (record : ExecRecord) : ExecProg Unit :=
  match nonempty record.idempotencyKey with
  | none => pure ()
  | some key => store.setMapping record.sessionId key record.execId

def addToIndex (record : ExecRecord) : ExecProg Unit :=
  .modify fun now s ↦
    { s with
      bySession := s.bySession.change now record.sessionId fun members ↦
        insert record.execId (members.getD ∅) }

def expireIndex (record : ExecRecord) : ExecProg Unit :=
  .modify fun now s ↦
    { s with bySession := s.bySession.expire now record.sessionId store.ttl }

/-- The rest of a `put_if_absent` that created the record. -/
def register (record : ExecRecord) : ExecProg ExecReply := do
  store.mapKey record
  addToIndex record
  store.expireIndex record
  pure (.put record true)

/-- The rest of a `put_if_absent` whose record was there, or expired meanwhile. -/
def readBack (record : ExecRecord) : ExecProg ExecReply := do
  match ← getRecord record.execId with
  | some existing => pure (.put existing false)
  | none => store.register record

/-- The rest of a `put_if_absent` that found no record of its idempotency key. -/
def putNew (record : ExecRecord) : ExecProg ExecReply := do
  match ← store.setRecordNx record with
  | true => store.register record
  | false => store.readBack record

/-- The rest of a `put_if_absent` whose idempotency key is mapped. -/
def putFound (record : ExecRecord) (execId : UUID) : ExecProg ExecReply := do
  match ← getRecord execId with
  | some existing => pure (.put existing false)
  | none => store.putNew record

/-- The rest of a `put_if_absent` with an idempotency key. -/
def putKeyed (record : ExecRecord) (key : String) : ExecProg ExecReply := do
  match ← getMapping record.sessionId key with
  | some execId => store.putFound record execId
  | none => store.putNew record

/-- Create execution record with idempotency check. -/
def putIfAbsent (record : ExecRecord) : ExecProg ExecReply :=
  match nonempty record.idempotencyKey with
  | none => store.putNew record
  | some key => store.putKeyed record key

/-- Get execution record by ID: the idempotency key is not looked up. -/
def get (execId : Option UUID) (_idempotencyKey : Option String) :
    ExecProg (Option ExecRecord) :=
  match execId with
  | none => pure none
  | some execId => getRecord execId

def setStatus (execId : UUID) (status : String) (fields : StatusFields) : ExecProg ExecReply := do
  match ← getRecord execId with
  | none => pure (.record none)
  | some record => do
      store.setRecord execId (record.withStatus status fields)
      pure (.record (some (record.withStatus status fields)))

/-- The members of the index of a session, in some order. -/
def indexed (now : Time) (s : RedisExecs) (sessionId : UUID) : List UUID :=
  (((s.bySession.read now sessionId).getD ∅).image UUID.int).sort.map UUID.mk

def members (sessionId : UUID) : ExecProg (List UUID) :=
  .query fun now s ↦ indexed now s sessionId

def getRecords (execIds : List UUID) : ExecProg (List ExecRecord) :=
  .query fun now s ↦ execIds.filterMap (s.execs.read now)

def listBySession (sessionId : UUID) (status : Option String) : ExecProg ExecReply := do
  let execIds ← members sessionId
  if execIds = [] then pure (.records [])
  else do
    let records ← getRecords execIds
    pure (.records ((ofStatus status records).insertionSort fun a b ↦ a.createdAt ≤ b.createdAt))

def prog : ExecCall → ExecProg ExecReply
  | .putIfAbsent record => store.putIfAbsent record
  | .get execId idempotencyKey => do
      let record ← get execId idempotencyKey
      pure (.record record)
  | .setStatus execId status fields => store.setStatus execId status fields
  | .listBySession sessionId status => listBySession sessionId status

/-- A call at a clock reading, without others in between. -/
def exec (now : Time) (call : ExecCall) (s : RedisExecs) : RedisExecs × ExecReply :=
  (((store.prog call).run now s).2, ((store.prog call).run now s).1)

/-- The server after some calls. -/
def after (calls : List (Time × ExecCall)) : RedisExecs :=
  calls.foldl (fun s call ↦ (store.exec call.1 call.2 s).1) {}

/-- The server after a record is created. -/
def create (now : Time) (record : ExecRecord) (s : RedisExecs) : RedisExecs where
  execs := s.execs.write record.execId record (store.expiry now)
  idem := match nonempty record.idempotencyKey with
    | none => s.idem
    | some key => s.idem.write (record.sessionId, key) record.execId (store.expiry now)
  bySession := (s.bySession.change now record.sessionId fun members ↦
    insert record.execId (members.getD ∅)).expire now record.sessionId store.ttl

/-- The server after a record is written again. -/
def rewrite (now : Time) (execId : UUID) (record : ExecRecord) (s : RedisExecs) : RedisExecs :=
  { s with execs := s.execs.write execId record (store.expiry now) }

/-- The record of an idempotency key of a session. -/
def findKey (now : Time) (s : RedisExecs) (sessionId : UUID) (key : String) :
    Option ExecRecord :=
  (s.idem.read now (sessionId, key)).bind (s.execs.read now)

/-! ## What the calls do -/

variable {store} {now : Time} {s : RedisExecs} {record existing : ExecRecord}

theorem exec_putNew_of_some (h : s.execs.read now record.execId = some existing) :
    (store.putNew record).run now s = (.put existing false, s) := by
  rw [putNew, Prog.run_bind, setRecordNx, Prog.run_command, h]
  dsimp only
  rw [readBack, Prog.run_bind, getRecord, Prog.run_query]
  dsimp only
  rw [h, Prog.run_pure]

theorem exec_putNew_of_none (h : s.execs.read now record.execId = none) :
    (store.putNew record).run now s = (.put record true, store.create now record s) := by
  rw [putNew, Prog.run_bind, setRecordNx, Prog.run_command, h]
  dsimp only
  rw [register, create, mapKey]
  cases nonempty record.idempotencyKey with
  | none => rfl
  | some key => rfl

/-- What `put_if_absent` does: it returns the record of the key, or the one with the same id,
or creates the record. -/
theorem exec_putIfAbsent (store : RedisExecStore) (now : Time) (record : ExecRecord)
    (s : RedisExecs) :
    store.exec now (.putIfAbsent record) s =
      match (nonempty record.idempotencyKey).bind (findKey now s record.sessionId) with
      | some existing => (s, .put existing false)
      | none => match s.execs.read now record.execId with
        | some existing => (s, .put existing false)
        | none => (store.create now record s, .put record true) := by
  have hnew : ((store.putNew record).run now s).swap
      = match s.execs.read now record.execId with
        | some existing => (s, .put existing false)
        | none => (store.create now record s, .put record true) := by
    cases hread : s.execs.read now record.execId with
    | some existing => rw [exec_putNew_of_some hread, Prod.swap_prod_mk]
    | none => rw [exec_putNew_of_none hread, Prod.swap_prod_mk]
  show ((store.putIfAbsent record).run now s).swap = _
  rw [putIfAbsent]
  cases nonempty record.idempotencyKey with
  | none => exact hnew
  | some key =>
      dsimp only
      rw [Option.bind_some, findKey, putKeyed, Prog.run_bind, getMapping, Prog.run_query]
      dsimp only
      cases s.idem.read now (record.sessionId, key) with
      | none => exact hnew
      | some execId =>
          dsimp only
          rw [Option.bind_some, putFound, Prog.run_bind, getRecord, Prog.run_query]
          dsimp only
          cases s.execs.read now execId with
          | none => exact hnew
          | some existing => rfl

theorem exec_setStatus (store : RedisExecStore) (now : Time) (execId : UUID) (status : String)
    (fields : StatusFields) (s : RedisExecs) :
    store.exec now (.setStatus execId status fields) s =
      match s.execs.read now execId with
      | none => (s, .record none)
      | some record => (store.rewrite now execId (record.withStatus status fields) s,
          .record (some (record.withStatus status fields))) := by
  show ((store.setStatus execId status fields).run now s).swap = _
  rw [setStatus, Prog.run_bind, getRecord, Prog.run_query]
  dsimp only
  cases s.execs.read now execId with
  | none => rfl
  | some record => rfl

theorem mem_indexed {sessionId execId : UUID} :
    execId ∈ indexed now s sessionId ↔ execId ∈ (s.bySession.read now sessionId).getD ∅ := by
  rw [indexed, List.mem_map]
  constructor
  · rintro ⟨n, hn, rfl⟩
    obtain ⟨execId, hmem, rfl⟩ := Finset.mem_image.mp ((Finset.mem_sort _).mp hn)
    exact hmem
  · intro hmem
    exact ⟨execId.int, (Finset.mem_sort _).mpr (Finset.mem_image_of_mem _ hmem), rfl⟩

theorem exec_listBySession (store : RedisExecStore) (now : Time) (sessionId : UUID)
    (status : Option String) (s : RedisExecs) :
    store.exec now (.listBySession sessionId status) s =
      (s, .records ((ofStatus status
        ((indexed now s sessionId).filterMap (s.execs.read now))).insertionSort
          fun a b ↦ a.createdAt ≤ b.createdAt)) := by
  show ((listBySession sessionId status).run now s).swap = _
  rw [listBySession, Prog.run_bind, members, Prog.run_query]
  dsimp only
  by_cases hnil : indexed now s sessionId = []
  · rw [if_pos hnil, hnil]
    rfl
  · rw [if_neg hnil]
    rfl

end RedisExecStore

/-! ## Agreement -/

/-- The two stores hold the same, at every time of a window. -/
structure SameExecs (window : Time → Prop) (memory : InMemoryExecStore) (s : RedisExecs) :
    Prop where
  execs : ∀ t, window t → ∀ execId, s.execs.read t execId = memory.execs.get? execId
  idem : ∀ t, window t → ∀ sessionId key execId,
    s.idem.read t (sessionId, key) = some execId ↔
      memory.byIdempotency.get? key = some execId ∧
        ∃ record, memory.execs.get? execId = some record ∧ record.sessionId = sessionId
  bySession : ∀ t, window t → ∀ sessionId execId,
    execId ∈ (s.bySession.read t sessionId).getD ∅ ↔
      execId ∈ (memory.bySession.get? sessionId).getD []
  /-- A record is found by its own id. -/
  keyed : ∀ execId record, memory.execs.get? execId = some record → record.execId = execId
  /-- The execution of a key is stored. -/
  stored : ∀ key execId, memory.byIdempotency.get? key = some execId →
    ∃ record, memory.execs.get? execId = some record

/-- The call meets the idempotency key of a stored execution that the two stores treat
differently: a record of another session with another id is put under it, or the key alone
is looked up. -/
def InMemoryExecStore.Crosses (memory : InMemoryExecStore) : ExecCall → Prop
  | .putIfAbsent record =>
      ∃ existing, (nonempty record.idempotencyKey).bind memory.findKey = some existing ∧
        existing.sessionId ≠ record.sessionId ∧ existing.execId ≠ record.execId
  | .get none idempotencyKey =>
      ∃ existing, (nonempty idempotencyKey).bind memory.findKey = some existing
  | _ => False

section Steps

variable {window : Time → Prop} {memory : InMemoryExecStore} {s : RedisExecs} {now : Time}
  {store : RedisExecStore} {record : ExecRecord} {call : ExecCall}

/-- The server finds the keys of the session. -/
theorem SameExecs.findKey_eq (h : SameExecs window memory s) (hnow : window now)
    (sessionId : UUID) (key : String) :
    RedisExecStore.findKey now s sessionId key
      = (memory.findKey key).filter (·.sessionId = sessionId) := by
  refine Option.ext fun record ↦ ?_
  rw [RedisExecStore.findKey, InMemoryExecStore.findKey, Option.bind_eq_some_iff,
    Option.filter_eq_some_iff, Option.bind_eq_some_iff, decide_eq_true_iff]
  constructor
  · rintro ⟨execId, hmap, hread⟩
    rw [h.execs now hnow] at hread
    obtain ⟨hkey, record', hget, hsession⟩ := (h.idem now hnow _ _ _).mp hmap
    obtain rfl := Option.some.inj (hget.symm.trans hread)
    exact ⟨⟨execId, hkey, hget⟩, hsession⟩
  · rintro ⟨⟨execId, hkey, hget⟩, hsession⟩
    refine ⟨execId, (h.idem now hnow _ _ _).mpr ⟨hkey, record, hget, hsession⟩, ?_⟩
    rw [h.execs now hnow]
    exact hget

theorem InMemoryExecStore.get?_byIdempotency_create (memory : InMemoryExecStore)
    (record : ExecRecord) (key : String) :
    (memory.create record).byIdempotency.get? key
      = if nonempty record.idempotencyKey = some key then some record.execId
        else memory.byIdempotency.get? key := by
  show (match nonempty record.idempotencyKey with
    | none => memory.byIdempotency
    | some key => memory.byIdempotency.insert key record.execId).get? key = _
  cases nonempty record.idempotencyKey with
  | none => exact (if_neg fun h ↦ by cases h).symm
  | some key' =>
      dsimp only
      rw [Dict.get?_insert]
      by_cases hkey : key = key'
      · rw [if_pos hkey, if_pos (congrArg some hkey.symm)]
      · rw [if_neg hkey, if_neg fun h ↦ hkey (Option.some.inj h).symm]

theorem RedisExecStore.read_idem_create {t : Time} (hlive : ∀ e ∈ store.expiry now, t < e)
    (sessionId : UUID) (key : String) :
    (store.create now record s).idem.read t (sessionId, key)
      = if nonempty record.idempotencyKey = some key ∧ sessionId = record.sessionId then
          some record.execId
        else s.idem.read t (sessionId, key) := by
  show (match nonempty record.idempotencyKey with
    | none => s.idem
    | some key => s.idem.write (record.sessionId, key) record.execId
        (store.expiry now)).read t (sessionId, key) = _
  cases nonempty record.idempotencyKey with
  | none => exact (if_neg fun h ↦ by cases h.1).symm
  | some key' =>
      dsimp only
      rw [Expiring.read_write _ hlive]
      by_cases hboth : (sessionId, key) = (record.sessionId, key')
      · obtain ⟨hsession, hkey⟩ := Prod.mk.inj hboth
        rw [if_pos hboth, if_pos ⟨congrArg some hkey.symm, hsession⟩]
      · rw [if_neg hboth, if_neg fun h ↦ hboth (Prod.ext h.2 (Option.some.inj h.1).symm)]

theorem RedisExecStore.read_bySession_create {t : Time} (hlast : t < now + Time.seconds store.ttl)
    (sessionId : UUID) :
    (store.create now record s).bySession.read t sessionId
      = if sessionId = record.sessionId then
          some (insert record.execId ((s.bySession.read now record.sessionId).getD ∅))
        else s.bySession.read t sessionId := by
  refine (Expiring.read_expire (Expiring.read_change_self _) store.ttl_pos hlast).trans ?_
  by_cases hsession : sessionId = record.sessionId
  · rw [if_pos hsession, if_pos hsession]
  · rw [if_neg hsession, if_neg hsession]
    exact Expiring.read_change_of_ne _ hsession

/-- Both stores create the record. -/
theorem SameExecs.create (h : SameExecs window memory s)
    (hlast : ∀ t, window t → t < now + Time.seconds store.ttl) (hnow : window now)
    (hnone : memory.execs.get? record.execId = none)
    (hkey : ∀ key, nonempty record.idempotencyKey = some key →
      memory.byIdempotency.get? key = none) :
    SameExecs window (memory.create record) (store.create now record s) := by
  have hlive : ∀ t, window t → ∀ e ∈ store.expiry now, t < e :=
    fun t ht e he ↦ Option.some.inj he ▸ hlast t ht
  have hget : ∀ execId, (memory.create record).execs.get? execId
      = if execId = record.execId then some record else memory.execs.get? execId :=
    fun execId ↦ Dict.get?_insert _ _ execId _
  have hnew : (memory.create record).execs.get? record.execId = some record :=
    (hget _).trans (if_pos rfl)
  -- the executions of the keys are other ones
  have hold : ∀ key execId, memory.byIdempotency.get? key = some execId →
      (memory.create record).execs.get? execId = memory.execs.get? execId := by
    intro key execId hmap
    rw [hget, if_neg]
    rintro rfl
    obtain ⟨existing, hexisting⟩ := h.stored _ _ hmap
    cases hnone.symm.trans hexisting
  have hkept : ∀ t, window t → ∀ sessionId key execId,
      s.idem.read t (sessionId, key) = some execId ↔
        memory.byIdempotency.get? key = some execId ∧
          ∃ r, (memory.create record).execs.get? execId = some r ∧ r.sessionId = sessionId := by
    intro t ht sessionId key execId
    rw [h.idem t ht]
    refine and_congr_right fun hmap ↦ ?_
    rw [hold key execId hmap]
  refine ⟨?_, ?_, ?_, ?_, ?_⟩
  · intro t ht execId
    rw [hget, ← h.execs t ht execId]
    exact Expiring.read_write _ (hlive t ht)
  · intro t ht sessionId key execId
    rw [RedisExecStore.read_idem_create (hlive t ht),
      InMemoryExecStore.get?_byIdempotency_create]
    by_cases hk : nonempty record.idempotencyKey = some key
    · rw [if_pos hk]
      by_cases hsession : sessionId = record.sessionId
      · rw [if_pos ⟨hk, hsession⟩]
        exact ⟨fun hid ↦ ⟨hid, record, Option.some.inj hid ▸ hnew, hsession.symm⟩, And.left⟩
      · rw [if_neg fun hboth ↦ hsession hboth.2, hkept t ht, hkey _ hk]
        constructor
        · rintro ⟨hfalse, -⟩
          cases hfalse
        · rintro ⟨hid, r, hr, rfl⟩
          rw [← Option.some.inj hid, hnew] at hr
          exact absurd (congrArg ExecRecord.sessionId (Option.some.inj hr).symm) hsession
    · rw [if_neg fun hboth ↦ hk hboth.1, if_neg hk]
      exact hkept t ht _ _ _
  · intro t ht sessionId execId
    rw [RedisExecStore.read_bySession_create (hlast t ht),
      show (memory.create record).bySession.get? sessionId = _ from Dict.get?_insert _ _ _ _]
    by_cases hsession : sessionId = record.sessionId
    · rw [if_pos hsession, if_pos hsession, Option.getD_some, Option.getD_some, Finset.mem_insert,
        h.bySession now hnow, List.mem_append, List.mem_singleton, or_comm]
    · rw [if_neg hsession, if_neg hsession]
      exact h.bySession t ht _ _
  · intro execId r hr
    rw [hget] at hr
    split at hr
    · rename_i hid
      rw [← Option.some.inj hr, hid]
    · exact h.keyed _ _ hr
  · intro key execId hmap
    rw [hget]
    split
    · exact ⟨record, rfl⟩
    · rename_i hid
      rw [InMemoryExecStore.get?_byIdempotency_create] at hmap
      split at hmap
      · exact absurd (Option.some.inj hmap).symm hid
      · exact h.stored _ _ hmap

/-- Both stores write a record again. -/
theorem SameExecs.rewrite {r : ExecRecord} {execId : UUID} (h : SameExecs window memory s)
    (hlast : ∀ t, window t → t < now + Time.seconds store.ttl)
    (hget : memory.execs.get? execId = some record) (hid : r.execId = record.execId)
    (hsession : r.sessionId = record.sessionId) :
    SameExecs window { memory with execs := memory.execs.insert execId r }
      (store.rewrite now execId r s) := by
  have hexpiry : ∀ t, window t → ∀ e ∈ store.expiry now, t < e :=
    fun t ht e he ↦ Option.some.inj he ▸ hlast t ht
  refine ⟨?_, ?_, h.bySession, ?_, ?_⟩
  · intro t ht j
    show (s.execs.write execId r _).read t j = (Dict.insert _ _ _).get? j
    rw [Expiring.read_write _ (hexpiry t ht), Dict.get?_insert, h.execs t ht]
  · intro t ht sessionId key j
    rw [show (store.rewrite now execId r s).idem = s.idem from rfl, h.idem t ht]
    refine and_congr_right fun _ ↦ ?_
    show _ ↔ ∃ r', (Dict.insert _ _ _).get? j = some r' ∧ _
    rw [Dict.get?_insert]
    by_cases hj : j = execId
    · rw [if_pos hj, hj]
      constructor
      · rintro ⟨r', hr', hs⟩
        obtain rfl := Option.some.inj (hget.symm.trans hr')
        exact ⟨r, rfl, hsession.trans hs⟩
      · rintro ⟨r', hr', hs⟩
        obtain rfl := Option.some.inj hr'
        exact ⟨record, hget, hsession.symm.trans hs⟩
    · rw [if_neg hj]
  · intro j r' hr'
    rw [Dict.get?_insert] at hr'
    split at hr'
    · rename_i hj
      obtain rfl := Option.some.inj hr'
      rw [hid, hj]
      exact h.keyed _ _ hget
    · exact h.keyed _ _ hr'
  · intro key j hmap
    show ∃ r', (Dict.insert _ _ _).get? j = some r'
    rw [Dict.get?_insert]
    split
    · exact ⟨r, rfl⟩
    · exact h.stored _ _ hmap

/-- The record of a key is found by its own id. -/
theorem SameExecs.get_of_findKey (h : SameExecs window memory s) {key : Option String}
    (hkey : key.bind memory.findKey = some record) :
    memory.execs.get? record.execId = some record := by
  obtain ⟨key, rfl, hfind⟩ := Option.bind_eq_some_iff.mp hkey
  obtain ⟨execId, -, hget⟩ := Option.bind_eq_some_iff.mp hfind
  rw [h.keyed _ _ hget]
  exact hget

theorem SameExecs.putIfAbsent (h : SameExecs window memory s) (hnow : window now)
    (hlast : ∀ t, window t → t < now + Time.seconds store.ttl) (record : ExecRecord) :
    ((memory.putIfAbsent record).2.Same (store.exec now (.putIfAbsent record) s).2 ↔
        ¬ memory.Crosses (.putIfAbsent record)) ∧
      (¬ memory.Crosses (.putIfAbsent record) →
        SameExecs window (memory.putIfAbsent record).1
          (store.exec now (.putIfAbsent record) s).1) := by
  have hfind : (nonempty record.idempotencyKey).bind
      (RedisExecStore.findKey now s record.sessionId)
        = ((nonempty record.idempotencyKey).bind memory.findKey).filter
            (·.sessionId = record.sessionId) := by
    cases nonempty record.idempotencyKey with
    | none => rfl
    | some key => exact h.findKey_eq hnow record.sessionId key
  rw [RedisExecStore.exec_putIfAbsent, h.execs now hnow, hfind, InMemoryExecStore.putIfAbsent]
  cases hkey : (nonempty record.idempotencyKey).bind memory.findKey with
  | none =>
      have hcross : ¬ memory.Crosses (.putIfAbsent record) := by
        rintro ⟨existing, hexisting, -⟩
        cases hkey.symm.trans hexisting
      rw [Option.filter_none]
      dsimp only
      cases hget : memory.execs.get? record.execId with
      | some existing => exact ⟨iff_of_true rfl hcross, fun _ ↦ h⟩
      | none =>
          refine ⟨iff_of_true rfl hcross, fun _ ↦ h.create hlast hnow hget fun key hkeyed ↦ ?_⟩
          rw [hkeyed] at hkey
          cases hmap : memory.byIdempotency.get? key with
          | none => rfl
          | some execId =>
              obtain ⟨existing, hexisting⟩ := h.stored _ _ hmap
              rw [Option.bind_some, InMemoryExecStore.findKey, hmap, Option.bind_some,
                hexisting] at hkey
              cases hkey
  | some existing =>
      have hown := h.get_of_findKey hkey
      have hcross : memory.Crosses (.putIfAbsent record) ↔
          existing.sessionId ≠ record.sessionId ∧ existing.execId ≠ record.execId := by
        constructor
        · rintro ⟨existing', hexisting, hne⟩
          obtain rfl := Option.some.inj (hkey.symm.trans hexisting)
          exact hne
        · exact fun hne ↦ ⟨existing, hkey, hne⟩
      rw [hcross]
      by_cases hsession : existing.sessionId = record.sessionId
      · rw [Option.filter_some, if_pos (decide_eq_true hsession)]
        exact ⟨iff_of_true rfl fun hne ↦ hne.1 hsession, fun _ ↦ h⟩
      · rw [Option.filter_some, if_neg (by rw [decide_eq_true_iff]; exact hsession)]
        dsimp only
        cases hget : memory.execs.get? record.execId with
        | some other =>
            refine ⟨?_, fun _ ↦ h⟩
            show ExecReply.put existing false = .put other false ↔ _
            constructor
            · intro heq hne
              injection heq with heq
              exact hne.2 (heq ▸ h.keyed _ _ hget)
            · intro hne
              have hid : existing.execId = record.execId :=
                not_not.mp fun hid ↦ hne ⟨hsession, hid⟩
              rw [hid] at hown
              rw [Option.some.inj (hown.symm.trans hget)]
        | none =>
            have hid : existing.execId ≠ record.execId := by
              intro hid
              rw [hid] at hown
              cases hget.symm.trans hown
            refine ⟨iff_of_false (fun heq ↦ ?_) (not_not.mpr ⟨hsession, hid⟩),
              fun hne ↦ absurd ⟨hsession, hid⟩ hne⟩
            cases (show ExecReply.put existing false = .put record true from heq)

theorem SameExecs.get (h : SameExecs window memory s) (hnow : window now)
    (execId : Option UUID) (key : Option String) :
    ((ExecReply.record (memory.get execId key)).Same (store.exec now (.get execId key) s).2 ↔
        ¬ memory.Crosses (.get execId key)) ∧
      (store.exec now (.get execId key) s).1 = s := by
  cases execId with
  | some execId =>
      refine ⟨iff_of_true ?_ id, rfl⟩
      show ExecReply.record (memory.execs.get? execId) = .record (s.execs.read now execId)
      rw [h.execs now hnow]
  | none =>
      refine ⟨?_, rfl⟩
      show ExecReply.record ((nonempty key).bind memory.findKey) = .record none ↔
        ¬ ∃ existing, (nonempty key).bind memory.findKey = some existing
      rw [ExecReply.record.injEq, Option.eq_none_iff_forall_ne_some, not_exists]

theorem SameExecs.setStatus (h : SameExecs window memory s) (hnow : window now)
    (hlast : ∀ t, window t → t < now + Time.seconds store.ttl) (execId : UUID) (status : String)
    (fields : StatusFields) :
    (memory.setStatus execId status fields).2
        = (store.exec now (.setStatus execId status fields) s).2 ∧
      SameExecs window (memory.setStatus execId status fields).1
        (store.exec now (.setStatus execId status fields) s).1 := by
  rw [RedisExecStore.exec_setStatus, h.execs now hnow, InMemoryExecStore.setStatus]
  cases hget : memory.execs.get? execId with
  | none => exact ⟨rfl, h⟩
  | some record => exact ⟨rfl, h.rewrite hlast hget rfl rfl⟩

theorem SameExecs.listBySession (h : SameExecs window memory s) (hnow : window now)
    (sessionId : UUID) (status : Option String) :
    (ExecReply.records (memory.listBySession sessionId status)).Same
        (store.exec now (.listBySession sessionId status) s).2 ∧
      (store.exec now (.listBySession sessionId status) s).1 = s := by
  have hmem : ∀ x, x ∈ memory.listBySession sessionId status ↔
      x ∈ ofStatus status ((RedisExecStore.indexed now s sessionId).filterMap
        (s.execs.read now)) := by
    intro x
    simp only [InMemoryExecStore.listBySession, ofStatus, List.mem_filter, List.mem_filterMap,
      RedisExecStore.mem_indexed, h.bySession now hnow, h.execs now hnow]
  rw [RedisExecStore.exec_listBySession]
  refine ⟨fun x ↦ (hmem x).trans ?_, rfl⟩
  exact (List.mem_insertionSort _).symm

/-- A call gives the same result in both stores exactly when it does not cross; they then
go on to hold the same. -/
theorem SameExecs.exec (h : SameExecs window memory s) (hnow : window now)
    (hlast : ∀ t, window t → t < now + Time.seconds store.ttl) (call : ExecCall) :
    ((memory.exec call).2.Same (store.exec now call s).2 ↔ ¬ memory.Crosses call) ∧
      (¬ memory.Crosses call → SameExecs window (memory.exec call).1 (store.exec now call s).1) := by
  cases call with
  | putIfAbsent record => exact h.putIfAbsent hnow hlast record
  | get execId key =>
      obtain ⟨hsame, hstate⟩ := @SameExecs.get _ _ _ _ store h hnow execId key
      refine ⟨hsame, fun _ ↦ ?_⟩
      rw [hstate]
      exact h
  | setStatus execId status fields =>
      obtain ⟨hsame, hstate⟩ := h.setStatus hnow hlast execId status fields
      exact ⟨iff_of_true (hsame ▸ ExecReply.Same.refl _) id, fun _ ↦ hstate⟩
  | listBySession sessionId status =>
      obtain ⟨hsame, hstate⟩ := @SameExecs.listBySession _ _ _ _ store h hnow sessionId status
      refine ⟨iff_of_true hsame id, fun _ ↦ ?_⟩
      rw [hstate]
      exact h

end Steps

/-! ## Histories -/

/-- The two stores, given the same calls within the lifetime of a key, return the same results
exactly when no call crosses. -/
theorem results_same_iff (store : RedisExecStore) (start : Time) (calls : List (Time × ExecCall))
    (hwithin : ∀ call ∈ calls, start ≤ call.1 ∧ call.1 < start + Time.seconds store.ttl) :
    (∀ before call, before ++ [call] <+: calls →
      ((InMemoryExecStore.after before).exec call.2).2.Same
        (store.exec call.1 call.2 (store.after before)).2) ↔
      ∀ before call, before ++ [call] <+: calls →
        ¬ (InMemoryExecStore.after before).Crosses call.2 := by
  let window : Time → Prop := fun t ↦ start ≤ t ∧ t < start + Time.seconds store.ttl
  have hcall : ∀ before call, before ++ [call] <+: calls → window call.1 :=
    fun before call h ↦ hwithin call (h.subset (List.mem_append_right _ (List.mem_singleton_self _)))
  have hlast : ∀ {now : Time}, window now → ∀ t, window t → t < now + Time.seconds store.ttl :=
    fun hnow t ht ↦ ht.2.trans_le (Int.add_le_add_right hnow.1 _)
  refine @forall_prefix_iff _
    (fun before ↦ SameExecs window (InMemoryExecStore.after before) (store.after before))
    _ _ _ ?_ ?_ ?_
  · exact
      { execs := fun _ _ _ ↦ rfl
        idem := fun _ _ _ _ _ ↦ iff_of_false (fun h ↦ nomatch h) (fun h ↦ nomatch h.1)
        bySession := fun _ _ _ _ ↦ iff_of_false (Finset.notMem_empty _) List.not_mem_nil
        keyed := fun _ _ h ↦ nomatch h
        stored := fun _ _ h ↦ nomatch h }
  · intro before call hprefix h
    have hnow := hcall before call hprefix
    exact (h.exec hnow (hlast hnow) call.2).1
  · intro before call hprefix h hgood
    have hnow := hcall before call hprefix
    have hafter := (@SameExecs.exec _ _ _ _ store h hnow (hlast hnow) call.2).2 hgood
    have hmemory : InMemoryExecStore.after (before ++ [call])
        = ((InMemoryExecStore.after before).exec call.2).1 := List.foldl_concat _ _ _ _
    have hredis : store.after (before ++ [call])
        = (store.exec call.1 call.2 (store.after before)).1 := List.foldl_concat _ _ _ _
    rw [hmemory, hredis]
    exact hafter

def sampleExec (execId sessionId : UUID) (idempotencyKey : Option String) : ExecRecord where
  execId := execId
  sessionId := sessionId
  correlationId := ⟨70⟩
  idempotencyKey := idempotencyKey
  status := "pending"
  requesterConnId := "req"
  action := none
  resultViewId := none
  resultValid := none
  policyAllowed := true
  policyReason := none
  createdAt := 0
  acceptedAt := none
  completedAt := none
  metadata := []

theorem results_same_sample :
    let calls : List (Time × ExecCall) := [(0, .putIfAbsent (sampleExec ⟨1⟩ ⟨100⟩ (some "key"))),
      (1, .get (some ⟨1⟩) none)]
    (∀ before call, before ++ [call] <+: calls →
      ((InMemoryExecStore.after before).exec call.2).2.Same
        (RedisExecStore.exec {} call.1 call.2 (RedisExecStore.after {} before)).2) ↔
      ∀ before call, before ++ [call] <+: calls →
        ¬ (InMemoryExecStore.after before).Crosses call.2 :=
  results_same_iff {} 0 _ (by decide)

/-- A key that is used in one session, and then in another: the store in memory returns the
execution of the first session, the one on the server creates another. -/
theorem put_other_session :
    let before : List (Time × ExecCall) :=
      [(0, .putIfAbsent (sampleExec ⟨1⟩ ⟨100⟩ (some "key")))]
    let call : ExecCall := .putIfAbsent (sampleExec ⟨2⟩ ⟨101⟩ (some "key"))
    ((InMemoryExecStore.after before).exec call).2
        = .put (sampleExec ⟨1⟩ ⟨100⟩ (some "key")) false ∧
      (RedisExecStore.exec {} 1 call (RedisExecStore.after {} before)).2
        = .put (sampleExec ⟨2⟩ ⟨101⟩ (some "key")) true ∧
      ¬ ((InMemoryExecStore.after before).exec call).2.Same
        (RedisExecStore.exec {} 1 call (RedisExecStore.after {} before)).2 := by
  intro before call
  refine ⟨rfl, rfl, fun h ↦ ?_⟩
  cases (show ExecReply.put (sampleExec ⟨1⟩ ⟨100⟩ (some "key")) false
    = .put (sampleExec ⟨2⟩ ⟨101⟩ (some "key")) true from h)

end SemanticBus
