import SemanticBus.Data.Coupling
import SemanticBus.Data.KeyFamily
import SemanticBus.Queue.TaskFormats
import SemanticBus.Registry.Agent
import SemanticBus.Storage.Execs
import SemanticBus.Storage.Presence

/-!
# The execution store, down to its texts

`RedisExecStore` keeps a record as JSON, an id as its text and the executions of a session as a
set of texts, all under keys of one space.  `ExecTexts` is the store with these texts, and its
programs raise where the server refuses a command on a value of another type, and where a text
cannot be read.

`texts_follow` says that none of this happens: whatever calls are under way at the same time,
and however their commands fall together, they go on as the calls of `Storage.Execs` do.
-/

universe u

namespace SemanticBus

variable (fmt : TextFormats)

/-! ## The text of a record -/

def serializeDatetime (dt : Option Time) : Json := Json.ofStr? (dt.map fmt.isoformat)

/-- Deserialize ISO format to datetime; no result stands for an exception. -/
def deserializeDatetime : Json → Option (Option Time)
  | .null => some none
  | .str s => (fmt.fromisoformat s).map some
  | _ => none

def serializeUuid (u : Option UUID) : Json := Json.ofStr? (u.map UUID.str)

/-- Deserialize string to UUID; no result stands for an exception. -/
def deserializeUuid : Json → Option (Option UUID)
  | .null => some none
  | .str s => (UUID.parse s).map some
  | _ => none

/-- A flag that may be `None`. -/
def serializeFlag : Option Bool → Json
  | none => .null
  | some b => .bool b

/-- A flag that may be `None`, read back. -/
def deserializeFlag : Json → Option (Option Bool)
  | .null => some none
  | .bool b => some (some b)
  | _ => none

theorem deserializeDatetime_serializeDatetime (dt : Option Time) :
    deserializeDatetime fmt (serializeDatetime fmt dt) = some dt := by
  cases dt with
  | none => rfl
  | some t =>
      show (fmt.fromisoformat (fmt.isoformat t)).map some = _
      rw [fmt.fromisoformat_isoformat, Option.map_some]

theorem deserializeUuid_serializeUuid (u : Option UUID) :
    deserializeUuid (serializeUuid u) = some u := by
  cases u with
  | none => rfl
  | some id =>
      show (UUID.parse id.str).map some = _
      rw [UUID.parse_str, Option.map_some]

theorem deserializeFlag_serializeFlag (b : Option Bool) :
    deserializeFlag (serializeFlag b) = some b := by
  cases b with
  | none | some => rfl

namespace RedisExecStore

def recordDict (record : ExecRecord) : JsonObj :=
  [("exec_id", serializeUuid record.execId),
    ("session_id", serializeUuid record.sessionId),
    ("correlation_id", serializeUuid record.correlationId),
    ("idempotency_key", Json.ofStr? record.idempotencyKey),
    ("status", .str record.status),
    ("requester_conn_id", .str record.requesterConnId),
    ("action", Json.ofStr? record.action),
    ("result_view_id", Json.ofStr? record.resultViewId),
    ("result_valid", serializeFlag record.resultValid),
    ("policy_allowed", .bool record.policyAllowed),
    ("policy_reason", Json.ofStr? record.policyReason),
    ("created_at", serializeDatetime fmt record.createdAt),
    ("accepted_at", serializeDatetime fmt record.acceptedAt),
    ("completed_at", serializeDatetime fmt record.completedAt),
    ("metadata", .obj record.metadata)]

def serializeRecord (record : ExecRecord) : String :=
  JsonText.dumps fmt.floats (.obj (recordDict fmt record))

/-- The record of a dictionary: no result stands for an exception, and for a value whose type is
not that of its field. -/
def recordOfDict (d : JsonObj) : Option ExecRecord := do
  let execId ← ((d.get? "exec_id").bind deserializeUuid).join
  let sessionId ← ((d.get? "session_id").bind deserializeUuid).join
  let correlationId ← ((d.get? "correlation_id").bind deserializeUuid).join
  let idempotencyKey ← (d.get? "idempotency_key").bind TaskPayload.readStr
  let status ← (d.get? "status").bind Json.str?
  let requesterConnId ← (d.get? "requester_conn_id").bind Json.str?
  let action ← TaskPayload.readStr (d.get "action")
  let resultViewId ← TaskPayload.readStr (d.get "result_view_id")
  let resultValid ← deserializeFlag (d.get "result_valid")
  let policyAllowed ← ((d.get? "policy_allowed").bind deserializeFlag).join
  let policyReason ← TaskPayload.readStr (d.get "policy_reason")
  let createdAt ← ((d.get? "created_at").bind (deserializeDatetime fmt)).join
  let acceptedAt ← deserializeDatetime fmt (d.get "accepted_at")
  let completedAt ← deserializeDatetime fmt (d.get "completed_at")
  let metadata ← (d.getD "metadata" (.obj [])).obj?
  pure
    { execId, sessionId, correlationId, idempotencyKey, status, requesterConnId, action
      resultViewId, resultValid, policyAllowed, policyReason, createdAt, acceptedAt, completedAt
      metadata }

def deserializeRecord (data : String) : Option ExecRecord :=
  ((JsonText.loads fmt.floats data).bind Json.obj?).bind (recordOfDict fmt)

theorem nodup_recordDict (record : ExecRecord) : ((recordDict fmt record).map Prod.fst).Nodup := by
  show ["exec_id", "session_id", "correlation_id", "idempotency_key", "status",
    "requester_conn_id", "action", "result_view_id", "result_valid", "policy_allowed",
    "policy_reason", "created_at", "accepted_at", "completed_at", "metadata"].Nodup
  decide

/-- A dictionary with the fields of a record reads back as the record. -/
theorem recordOfDict_of_lookup {record : ExecRecord} {d : JsonObj}
    (h : ∀ e ∈ recordDict fmt record, d.lookup e.1 = some e.2) :
    recordOfDict fmt d = some record := by
  simp only [recordDict, List.forall_mem_cons] at h
  obtain ⟨hexec, hsession, hcorrelation, hkey, hstatus, hconn, haction, hview, hvalid, hallowed,
    hreason, hcreated, haccepted, hcompleted, hmetadata, -⟩ := h
  have hget : ∀ {key : String} {j : Json}, d.lookup key = some j → d.get key = j := by
    intro key j hkey
    rw [JsonObj.get, JsonObj.getD, hkey, Option.getD_some]
  have hbool : ∀ b : Bool, deserializeFlag (.bool b) = some (some b) := fun _ ↦ rfl
  simp only [recordOfDict, JsonObj.get?, JsonObj.getD, hexec, hsession, hcorrelation, hkey, hstatus,
    hconn, hget haction, hget hview, hget hvalid, hallowed, hget hreason, hcreated,
    hget haccepted, hget hcompleted, hmetadata, Option.bind_some, Option.getD_some,
    deserializeUuid_serializeUuid, TaskPayload.readStr_ofStr?, Json.str?, Json.obj?,
    deserializeFlag_serializeFlag, hbool, deserializeDatetime_serializeDatetime, Option.join_some]
  rfl

/-- A record reads back from its text. -/
theorem deserializeRecord_serializeRecord {record : ExecRecord}
    (h : (Json.obj record.metadata).wellFormed = true) :
    deserializeRecord fmt (serializeRecord fmt record) = some record := by
  have hstr : ∀ s : Option String, (Json.ofStr? s).wellFormed = true := by
    intro s
    cases s with
    | none | some => rfl
  have hflag : ∀ b : Option Bool, (serializeFlag b).wellFormed = true := by
    intro b
    cases b with
    | none | some => rfl
  have hdict : (Json.obj (recordDict fmt record)).wellFormed = true := by
    rw [Json.wellFormed, decide_eq_true (nodup_recordDict fmt record), Bool.true_and]
    simp only [recordDict, Json.wellFormedFields, serializeUuid, serializeDatetime, hstr, hflag, h]
    rfl
  rw [deserializeRecord, serializeRecord, JsonText.loads_dumps _ hdict, Option.bind_some,
    Json.obj?, Option.bind_some]
  exact recordOfDict_of_lookup fmt fun _ he ↦
    JsonObj.lookup_of_mem (nodup_recordDict fmt record) he

end RedisExecStore

/-! ## The store -/

inductive TextValue where
  | text (s : String)
  | members (ms : Finset String)

abbrev TextServer := Expiring String TextValue

/-- A program of commands to the server, which may raise. -/
abbrev TextProg (α : Type) := OptionT (Prog Time TextServer) α

/-- A client of the store, with the prefix of its keys. -/
structure ExecTexts extends RedisExecStore where
  keyPrefix : String := "lip"

namespace ExecTexts

open RedisExecStore (serializeRecord deserializeRecord)

variable (client : ExecTexts)

def execKey (execId : UUID) : String := client.keyPrefix ++ ":exec:" ++ execId.str

def idemKey (sessionId : UUID) (idempotencyKey : String) : String :=
  client.keyPrefix ++ ":exec:idem:" ++ sessionId.str ++ ":" ++ idempotencyKey

def sessionIndexKey (sessionId : UUID) : String :=
  client.keyPrefix ++ ":exec:session:" ++ sessionId.str

/-! ### Commands -/

/-- The reply to a `GET`, where an empty text passes for none; refused for a set. -/
def got (now : Time) (s : TextServer) (key : String) : Option (Option String) :=
  match s.read now key with
  | none => some none
  | some (.text text) => some (nonempty (some text))
  | some (.members _) => none

def readRecord : Option String → Option (Option ExecRecord)
  | none => some none
  | some data => (deserializeRecord fmt data).map some

def getRecord (execId : UUID) : TextProg (Option ExecRecord) :=
  OptionT.mk (.query fun now s ↦ (got now s (client.execKey execId)).bind (readRecord fmt))

def setRecord (execId : UUID) (record : ExecRecord) : TextProg Unit :=
  OptionT.mk (.command fun now s ↦ (some (), s.write (client.execKey execId)
    (.text (serializeRecord fmt record)) (client.expiry now)))

def setRecordNx (record : ExecRecord) : TextProg Bool :=
  OptionT.mk (.command fun now s ↦
    match s.read now (client.execKey record.execId) with
    | some _ => (some false, s)
    | none => (some true, s.write (client.execKey record.execId)
        (.text (serializeRecord fmt record)) (client.expiry now)))

def getMapping (sessionId : UUID) (key : String) : TextProg (Option UUID) :=
  OptionT.mk (.query fun now s ↦ (got now s (client.idemKey sessionId key)).bind fun
    | none => some none
    | some text => (UUID.parse text).map some)

def setMapping (sessionId : UUID) (key : String) (execId : UUID) : TextProg Unit :=
  OptionT.mk (.command fun now s ↦ (some (), s.write (client.idemKey sessionId key)
    (.text execId.str) (client.expiry now)))

def addToIndex (record : ExecRecord) : TextProg Unit :=
  OptionT.mk (.command fun now s ↦
    match s.read now (client.sessionIndexKey record.sessionId) with
    | some (.text _) => (none, s)
    | _ => (some (), s.change now (client.sessionIndexKey record.sessionId) fun
        | some (.members ms) => .members (insert record.execId.str ms)
        | _ => .members {record.execId.str}))

def expireIndex (record : ExecRecord) : TextProg Unit :=
  OptionT.mk (.command fun now s ↦
    (some (), s.expire now (client.sessionIndexKey record.sessionId) client.ttl))

/-- `SMEMBERS` of the index of a session, in some order, read as ids. -/
def members (sessionId : UUID) : TextProg (List UUID) :=
  OptionT.mk (.query fun now s ↦
    match s.read now (client.sessionIndexKey sessionId) with
    | none => some []
    | some (.text _) => none
    | some (.members ms) => (ms.sort (· ≥ ·)).mapM UUID.parse)

def getRecords (execIds : List UUID) : TextProg (List ExecRecord) :=
  OptionT.mk (.query fun now s ↦ (execIds.mapM fun execId ↦
    (got now s (client.execKey execId)).bind (readRecord fmt)).map (·.filterMap id))

/-! ### Operations -/

/-- Map the idempotency key of a record, if it has one. -/
def mapKey (record : ExecRecord) : TextProg Unit :=
  match nonempty record.idempotencyKey with
  | none => pure ()
  | some key => client.setMapping record.sessionId key record.execId

/-- The rest of a `put_if_absent` that created the record. -/
def register (record : ExecRecord) : TextProg ExecReply := do
  client.mapKey record
  client.addToIndex record
  client.expireIndex record
  pure (.put record true)

/-- The rest of a `put_if_absent` whose record was there, or expired meanwhile. -/
def readBack (record : ExecRecord) : TextProg ExecReply := do
  match ← client.getRecord fmt record.execId with
  | some existing => pure (.put existing false)
  | none => client.register record

/-- The rest of a `put_if_absent` that found no record of its idempotency key. -/
def putNew (record : ExecRecord) : TextProg ExecReply := do
  match ← client.setRecordNx fmt record with
  | true => client.register record
  | false => client.readBack fmt record

/-- The rest of a `put_if_absent` whose idempotency key is mapped. -/
def putFound (record : ExecRecord) (execId : UUID) : TextProg ExecReply := do
  match ← client.getRecord fmt execId with
  | some existing => pure (.put existing false)
  | none => client.putNew fmt record

/-- The rest of a `put_if_absent` with an idempotency key. -/
def putKeyed (record : ExecRecord) (key : String) : TextProg ExecReply := do
  match ← client.getMapping record.sessionId key with
  | some execId => client.putFound fmt record execId
  | none => client.putNew fmt record

/-- Create execution record with idempotency check. -/
def putIfAbsent (record : ExecRecord) : TextProg ExecReply :=
  match nonempty record.idempotencyKey with
  | none => client.putNew fmt record
  | some key => client.putKeyed fmt record key

def get (execId : Option UUID) : TextProg (Option ExecRecord) :=
  match execId with
  | none => pure none
  | some execId => client.getRecord fmt execId

def setStatus (execId : UUID) (status : String) (fields : StatusFields) : TextProg ExecReply := do
  match ← client.getRecord fmt execId with
  | none => pure (.record none)
  | some record => do
      client.setRecord fmt execId (record.withStatus status fields)
      pure (.record (some (record.withStatus status fields)))

def listBySession (sessionId : UUID) (status : Option String) : TextProg ExecReply := do
  let execIds ← client.members sessionId
  if execIds = [] then pure (.records [])
  else do
    let records ← client.getRecords fmt execIds
    pure (.records ((ofStatus status records).insertionSort fun a b ↦ a.createdAt ≤ b.createdAt))

def prog : ExecCall → TextProg ExecReply
  | .putIfAbsent record => client.putIfAbsent fmt record
  | .get execId _ => do
      let record ← client.get fmt execId
      pure (.record record)
  | .setStatus execId status fields => client.setStatus fmt execId status fields
  | .listBySession sessionId status => client.listBySession fmt sessionId status

/-! ### The keys -/

variable {client}

/-- Every key is the prefix, a marker and what tells it from the others. -/
theorem key_eq_iff {key key' : String} : client.keyPrefix ++ (":exec:" ++ key)
    = client.keyPrefix ++ (":exec:" ++ key') ↔ key.toList = key'.toList := by
  rw [String.append_right_inj, String.append_right_inj, String.toList_inj]

theorem execKey_eq (execId : UUID) :
    client.execKey execId = client.keyPrefix ++ (":exec:" ++ execId.str) := String.append_assoc

theorem idemKey_eq (sessionId : UUID) (key : String) : client.idemKey sessionId key
    = client.keyPrefix ++ (":exec:" ++ ("idem:" ++ (sessionId.str ++ (":" ++ key)))) := by
  rw [idemKey, String.append_assoc, String.append_assoc, String.append_assoc,
    show ":exec:idem:" = ":exec:" ++ "idem:" from rfl, String.append_assoc]

theorem sessionIndexKey_eq (sessionId : UUID) : client.sessionIndexKey sessionId
    = client.keyPrefix ++ (":exec:" ++ ("session:" ++ sessionId.str)) := by
  rw [sessionIndexKey, String.append_assoc, show ":exec:session:" = ":exec:" ++ "session:" from rfl,
    String.append_assoc]

theorem execKey_injective : Function.Injective client.execKey := by
  intro u u' h
  rw [execKey_eq, execKey_eq, key_eq_iff, String.toList_inj] at h
  exact UUID.str_injective h

theorem sessionIndexKey_injective : Function.Injective client.sessionIndexKey := by
  intro u u' h
  rw [sessionIndexKey_eq, sessionIndexKey_eq, key_eq_iff, String.toList_inj,
    String.append_right_inj] at h
  exact UUID.str_injective h

theorem idemKey_injective : Function.Injective fun k : UUID × String ↦ client.idemKey k.1 k.2 := by
  rintro ⟨u, key⟩ ⟨u', key'⟩ h
  have h : client.idemKey u key = client.idemKey u' key' := h
  rw [idemKey_eq, idemKey_eq, key_eq_iff, String.toList_inj, String.append_right_inj,
    ← String.toList_inj, String.toList_append, String.toList_append, String.toList_append,
    String.toList_append] at h
  -- the text of an id has no colon, so the first colon ends it
  have hreverse := congrArg List.reverse h
  rw [List.reverse_append, List.reverse_append] at hreverse
  have hsplit := @append_cons_inj Char ':' key.toList.reverse key'.toList.reverse
    u.str.toList.reverse u'.str.toList.reverse
    (fun hmem ↦ u.colon_notMem_str (List.mem_reverse.mp hmem))
    (fun hmem ↦ u'.colon_notMem_str (List.mem_reverse.mp hmem)) (by simpa using hreverse)
  obtain ⟨hkey, hid⟩ := hsplit
  rw [UUID.str_injective (String.toList_inj.mp (List.reverse_injective hid)),
    String.toList_inj.mp (List.reverse_injective hkey)]

theorem execKey_ne_idemKey (execId sessionId : UUID) (key : String) :
    client.execKey execId ≠ client.idemKey sessionId key := by
  rw [execKey_eq, idemKey_eq, ne_eq, key_eq_iff, String.toList_append]
  intro h
  refine execId.colon_notMem_str ?_
  rw [h]
  exact List.mem_append_left _ (by decide)

theorem execKey_ne_sessionIndexKey (execId sessionId : UUID) :
    client.execKey execId ≠ client.sessionIndexKey sessionId := by
  rw [execKey_eq, sessionIndexKey_eq, ne_eq, key_eq_iff, String.toList_append]
  intro h
  refine execId.colon_notMem_str ?_
  rw [h]
  exact List.mem_append_left _ (by decide)

theorem idemKey_ne_sessionIndexKey (sessionId : UUID) (key : String) (sessionId' : UUID) :
    client.idemKey sessionId key ≠ client.sessionIndexKey sessionId' := by
  have hidem : "idem:".toList = ['i', 'd', 'e', 'm', ':'] := by decide
  have hsession : "session:".toList = ['s', 'e', 's', 's', 'i', 'o', 'n', ':'] := by decide
  rw [idemKey_eq, sessionIndexKey_eq, ne_eq, key_eq_iff]
  rw [String.toList_append (s := "idem:"), String.toList_append (s := "session:"), hidem, hsession]
  intro h
  exact absurd (List.cons.inj h).1 (by decide)

/-! ### What is on the server -/

/-- The metadata of a record can be written as JSON. -/
def Plain (record : ExecRecord) : Prop := (Json.obj record.metadata).wellFormed = true

/-- The server holds the texts of some executions. -/
structure Written (client : ExecTexts) (r : RedisExecs) (s : TextServer) : Prop where
  execs : Expiring.Family client.execKey (fun record ↦ .text (serializeRecord fmt record)) r.execs s
  idem : Expiring.Family (fun k ↦ client.idemKey k.1 k.2) (fun id ↦ .text id.str) r.idem s
  bySession : Expiring.Family client.sessionIndexKey (fun ids ↦ .members (ids.image UUID.str))
    r.bySession s
  plain : ∀ execId e, r.execs.get? execId = some e → Plain e.1

open Prog (Coupled Returns)

variable {fmt} {r : RedisExecs} {s : TextServer} {now : Time} {record : ExecRecord}

theorem Written.empty : Written fmt client {} ∅ := by
  refine ⟨.empty, .empty, .empty, fun execId e h ↦ ?_⟩
  cases h

theorem Written.plain_read (h : Written fmt client r s) {execId : UUID}
    (hread : r.execs.read now execId = some record) : Plain record := by
  obtain ⟨e, hget, he⟩ := Option.bind_eq_some_iff.mp hread
  split at he
  · cases he
  · rw [← Option.some.inj he]
    exact h.plain execId e hget

/-- A `GET` of a record is read back as the record. -/
theorem Written.got_record (h : Written fmt client r s) (now : Time) (execId : UUID) :
    (got now s (client.execKey execId)).bind (readRecord fmt) = some (r.execs.read now execId) := by
  rw [got, h.execs.read_eq]
  cases hread : r.execs.read now execId with
  | none => rfl
  | some record =>
      have htext : nonempty (some (serializeRecord fmt record)) = some (serializeRecord fmt record) :=
        Option.filter_some_pos (decide_eq_true (JsonText.dumps_ne_empty _ _))
      rw [Option.map_some]
      dsimp only
      rw [htext, Option.bind_some, readRecord,
        RedisExecStore.deserializeRecord_serializeRecord fmt (h.plain_read hread), Option.map_some]

theorem getRecord_coupled (execId : UUID) : Coupled (Written fmt client)
    (Returns fun o o' ↦ o' = o ∧ ∀ record ∈ o, Plain record) (RedisExecStore.getRecord execId)
    (client.getRecord fmt execId).run := by
  refine .query fun now r s h ↦ ⟨_, h.got_record now execId, rfl, fun record hread ↦ ?_⟩
  exact h.plain_read hread

/-- A record is written, and nothing else. -/
theorem Written.write_record (h : Written fmt client r s) (hplain : Plain record) (execId : UUID)
    (expiry : Option Time) :
    Written fmt client { r with execs := r.execs.write execId record expiry }
      (s.write (client.execKey execId) (.text (serializeRecord fmt record)) expiry) := by
  refine ⟨h.execs.put execKey_injective record expiry,
    h.idem.elsewhere (fun k ↦ (execKey_ne_idemKey _ _ _).symm) (Expiring.elsewhere_write _ _),
    h.bySession.elsewhere (fun k ↦ (execKey_ne_sessionIndexKey _ _).symm)
      (Expiring.elsewhere_write _ _), fun id e hget ↦ ?_⟩
  have hget : (Dict.insert r.execs execId (record, expiry)).get? id = some e := hget
  rw [Dict.get?_insert] at hget
  split at hget
  · rw [← Option.some.inj hget]
    exact hplain
  · exact h.plain id e hget

theorem setRecord_coupled (hplain : Plain record) (execId : UUID) : Coupled (Written fmt client)
    (Returns fun _ _ ↦ True) (client.toRedisExecStore.setRecord execId record)
    (client.setRecord fmt execId record).run :=
  .command fun _ _ _ h ↦ ⟨⟨(), rfl, trivial⟩, h.write_record hplain execId _⟩

theorem setRecordNx_coupled (hplain : Plain record) : Coupled (Written fmt client)
    (Returns fun created created' ↦ created' = created)
    (client.toRedisExecStore.setRecordNx record) (client.setRecordNx fmt record).run := by
  refine .command fun now r s h ↦ ?_
  rw [h.execs.read_eq]
  cases r.execs.read now record.execId with
  | none => exact ⟨⟨true, rfl, rfl⟩, h.write_record hplain record.execId _⟩
  | some existing => exact ⟨⟨false, rfl, rfl⟩, h⟩

theorem getMapping_coupled (sessionId : UUID) (key : String) : Coupled (Written fmt client)
    (Returns fun o o' ↦ o' = o) (RedisExecStore.getMapping sessionId key)
    (client.getMapping sessionId key).run := by
  refine .query fun now r s h ↦ ⟨_, ?_, rfl⟩
  have hread := h.idem.read_eq now (sessionId, key)
  rw [got, hread]
  cases r.idem.read now (sessionId, key) with
  | none => rfl
  | some execId =>
      have htext : nonempty (some execId.str) = some execId.str :=
        Option.filter_some_pos (decide_eq_true execId.str_ne_empty)
      rw [Option.map_some]
      dsimp only
      rw [htext, Option.bind_some]
      show (UUID.parse execId.str).map some = _
      rw [UUID.parse_str, Option.map_some]

theorem setMapping_coupled (sessionId : UUID) (key : String) (execId : UUID) :
    Coupled (Written fmt client) (Returns fun _ _ ↦ True)
      (client.toRedisExecStore.setMapping sessionId key execId)
      (client.setMapping sessionId key execId).run := by
  refine .command fun now r s h ↦ ⟨⟨(), rfl, trivial⟩, ?_⟩
  refine ⟨h.execs.elsewhere (fun k ↦ execKey_ne_idemKey _ _ _) (Expiring.elsewhere_write _ _),
    ?_, h.bySession.elsewhere (fun k ↦ (idemKey_ne_sessionIndexKey _ _ _).symm)
      (Expiring.elsewhere_write _ _), h.plain⟩
  exact h.idem.put idemKey_injective (k := (sessionId, key)) execId _

theorem addToIndex_coupled (record : ExecRecord) : Coupled (Written fmt client)
    (Returns fun _ _ ↦ True) (RedisExecStore.addToIndex record) (client.addToIndex record).run := by
  refine .command fun now r s h ↦ ?_
  have hwritten : Written fmt client
      { r with
        bySession := r.bySession.change now record.sessionId fun members ↦
          insert record.execId (members.getD ∅) }
      (s.change now (client.sessionIndexKey record.sessionId) fun
        | some (.members ms) => .members (insert record.execId.str ms)
        | _ => .members {record.execId.str}) := by
    refine ⟨h.execs.elsewhere (fun k ↦ execKey_ne_sessionIndexKey _ _)
      (Expiring.elsewhere_change _), h.idem.elsewhere (fun k ↦ idemKey_ne_sessionIndexKey _ _ _)
      (Expiring.elsewhere_change _), h.bySession.change sessionIndexKey_injective fun ms ↦ ?_,
      h.plain⟩
    cases ms with
    | none => rfl
    | some ms =>
        show TextValue.members (insert _ (ms.image _)) = .members ((insert _ ms).image _)
        rw [Finset.image_insert]
  rw [h.bySession.read_eq]
  cases r.bySession.read now record.sessionId with
  | none | some => exact ⟨⟨(), rfl, trivial⟩, hwritten⟩

theorem expireIndex_coupled (record : ExecRecord) : Coupled (Written fmt client)
    (Returns fun _ _ ↦ True) (client.toRedisExecStore.expireIndex record)
    (client.expireIndex record).run := by
  refine .command fun now r s h ↦ ⟨⟨(), rfl, trivial⟩, ?_⟩
  exact ⟨h.execs.elsewhere (fun k ↦ execKey_ne_sessionIndexKey _ _) (Expiring.elsewhere_expire _),
    h.idem.elsewhere (fun k ↦ idemKey_ne_sessionIndexKey _ _ _) (Expiring.elsewhere_expire _),
    h.bySession.expire sessionIndexKey_injective _, h.plain⟩

/-- Texts of ids are read as the ids. -/
theorem exists_parsed {texts : List String} (h : ∀ text ∈ texts, ∃ u : UUID, text = u.str) :
    ∃ ids, texts.mapM UUID.parse = some ids ∧ texts = ids.map UUID.str := by
  induction texts with
  | nil => exact ⟨[], rfl, rfl⟩
  | cons text texts ih =>
      obtain ⟨u, rfl⟩ := h text List.mem_cons_self
      obtain ⟨ids, hids, rfl⟩ := ih fun text htext ↦ h text (List.mem_cons_of_mem _ htext)
      refine ⟨u :: ids, ?_, rfl⟩
      rw [List.mapM_cons, UUID.parse_str, hids]
      rfl

theorem members_coupled (sessionId : UUID) : Coupled (Written fmt client)
    (Returns fun (ids ids' : List UUID) ↦ ∀ u, u ∈ ids ↔ u ∈ ids')
    (RedisExecStore.members sessionId) (client.members sessionId).run := by
  refine .query fun now r s h ↦ ?_
  have hmem := fun u ↦ @RedisExecStore.mem_indexed now r sessionId u
  rw [h.bySession.read_eq]
  cases hread : r.bySession.read now sessionId with
  | none =>
      rw [hread] at hmem
      exact ⟨[], rfl, hmem⟩
  | some ms =>
      rw [hread] at hmem
      have htexts : ∀ text ∈ (ms.image UUID.str).sort (· ≥ ·), ∃ u : UUID, text = u.str := by
        intro text htext
        obtain ⟨u, -, rfl⟩ := Finset.mem_image.mp ((Finset.mem_sort _).mp htext)
        exact ⟨u, rfl⟩
      obtain ⟨ids, hids, htexts⟩ := exists_parsed htexts
      refine ⟨ids, hids, fun u ↦ ?_⟩
      rw [hmem, Option.getD_some, ← List.mem_map_of_injective UUID.str_injective, ← htexts,
        Finset.mem_sort, UUID.str_injective.mem_finset_image]

theorem getRecords_coupled {ids ids' : List UUID} (hids : ∀ u, u ∈ ids ↔ u ∈ ids') :
    Coupled (Written fmt client)
      (Returns fun (records records' : List ExecRecord) ↦ ∀ x, x ∈ records ↔ x ∈ records')
      (RedisExecStore.getRecords ids) (client.getRecords fmt ids').run := by
  refine .query fun now r s h ↦ ?_
  have hread : (ids'.mapM fun execId ↦ (got now s (client.execKey execId)).bind (readRecord fmt))
      = some (ids'.map (r.execs.read now)) := by
    rw [funext fun u ↦ h.got_record now u]
    exact List.mapM_pure
  rw [hread]
  refine ⟨_, rfl, fun x ↦ ?_⟩
  show _ ↔ x ∈ (ids'.map (r.execs.read now)).filterMap id
  rw [List.filterMap_map, Function.id_comp, List.mem_filterMap, List.mem_filterMap]
  exact exists_congr fun u ↦ and_congr_left fun _ ↦ hids u

/-! ### The calls -/

/-- The program of a call with texts goes on as the one without does. -/
abbrev Follows (fmt : TextFormats) (client : ExecTexts) (x : ExecProg ExecReply)
    (x' : TextProg ExecReply) : Prop :=
  Coupled (Written fmt client) (Returns ExecReply.Same) x x'.run

theorem mapKey_coupled (record : ExecRecord) : Coupled (Written fmt client)
    (Returns fun _ _ ↦ True) (client.toRedisExecStore.mapKey record) (client.mapKey record).run := by
  rw [RedisExecStore.mapKey, mapKey]
  cases nonempty record.idempotencyKey with
  | none => exact .retT trivial
  | some key => exact setMapping_coupled record.sessionId key record.execId

theorem register_follows (record : ExecRecord) :
    Follows fmt client (client.toRedisExecStore.register record) (client.register record) := by
  rw [RedisExecStore.register, register]
  refine (mapKey_coupled record).bindT fun _ _ _ ↦ (addToIndex_coupled record).bindT fun _ _ _ ↦ ?_
  exact (expireIndex_coupled record).bindT fun _ _ _ ↦ .retT (.refl _)

theorem readBack_follows (record : ExecRecord) :
    Follows fmt client (client.toRedisExecStore.readBack record) (client.readBack fmt record) := by
  rw [RedisExecStore.readBack, readBack]
  refine (getRecord_coupled record.execId).bindT ?_
  rintro _ o ⟨rfl, -⟩
  cases o with
  | none => exact register_follows record
  | some existing => exact .retT (.refl _)

theorem putNew_follows (hplain : Plain record) :
    Follows fmt client (client.toRedisExecStore.putNew record) (client.putNew fmt record) := by
  rw [RedisExecStore.putNew, putNew]
  refine (setRecordNx_coupled hplain).bindT ?_
  rintro _ created rfl
  cases created with
  | true => exact register_follows record
  | false => exact readBack_follows record

theorem putFound_follows (hplain : Plain record) (execId : UUID) :
    Follows fmt client (client.toRedisExecStore.putFound record execId)
      (client.putFound fmt record execId) := by
  rw [RedisExecStore.putFound, putFound]
  refine (getRecord_coupled execId).bindT ?_
  rintro _ o ⟨rfl, -⟩
  cases o with
  | none => exact putNew_follows hplain
  | some existing => exact .retT (.refl _)

theorem putIfAbsent_follows (hplain : Plain record) :
    Follows fmt client (client.toRedisExecStore.putIfAbsent record)
      (client.putIfAbsent fmt record) := by
  rw [RedisExecStore.putIfAbsent, putIfAbsent]
  cases nonempty record.idempotencyKey with
  | none => exact putNew_follows hplain
  | some key =>
      refine (getMapping_coupled record.sessionId key).bindT ?_
      rintro _ o rfl
      cases o with
      | none => exact putNew_follows hplain
      | some execId => exact putFound_follows hplain execId

theorem setStatus_follows (execId : UUID) (status : String) (fields : StatusFields) :
    Follows fmt client (client.toRedisExecStore.setStatus execId status fields)
      (client.setStatus fmt execId status fields) := by
  rw [RedisExecStore.setStatus, setStatus]
  refine (getRecord_coupled execId).bindT ?_
  rintro _ o ⟨rfl, hplain⟩
  cases o with
  | none => exact .retT (.refl _)
  | some record =>
      have hplain : Plain (record.withStatus status fields) := hplain record rfl
      exact (setRecord_coupled hplain execId).bindT fun _ _ _ ↦ .retT (.refl _)

theorem listBySession_follows (sessionId : UUID) (status : Option String) :
    Follows fmt client (RedisExecStore.listBySession sessionId status)
      (client.listBySession fmt sessionId status) := by
  rw [RedisExecStore.listBySession, listBySession]
  refine (members_coupled sessionId).bindT fun ids ids' hids ↦ ?_
  have hempty : ids = [] ↔ ids' = [] := by
    rw [List.eq_nil_iff_forall_not_mem, List.eq_nil_iff_forall_not_mem]
    exact forall_congr' fun u ↦ not_congr (hids u)
  by_cases h : ids = []
  · rw [if_pos h, if_pos (hempty.mp h)]
    exact .retT (.refl _)
  · rw [if_neg h, if_neg fun h' ↦ h (hempty.mpr h')]
    refine (getRecords_coupled hids).bindT fun records records' hrecords ↦ .retT fun x ↦ ?_
    rw [List.mem_insertionSort, List.mem_insertionSort, ofStatus, ofStatus, List.mem_filter,
      List.mem_filter, hrecords]

/-- The metadata of a record that is put can be written as JSON. -/
def PlainCall : ExecCall → Prop
  | .putIfAbsent record => Plain record
  | _ => True

theorem prog_follows {call : ExecCall} (hplain : PlainCall call) :
    Follows fmt client (client.toRedisExecStore.prog call) (client.prog fmt call) := by
  cases call with
  | putIfAbsent record => exact putIfAbsent_follows hplain
  | setStatus execId status fields => exact setStatus_follows execId status fields
  | listBySession sessionId status => exact listBySession_follows sessionId status
  | get execId idempotencyKey =>
      cases execId with
      | none => exact .pure ⟨_, rfl, .refl _⟩
      | some execId =>
          refine (getRecord_coupled execId).bindT ?_
          rintro _ o ⟨rfl, -⟩
          exact .retT (.refl _)

end ExecTexts

/-- Calls that are under way at the same time, on a server that holds texts: however their commands
fall together, the calls of the store without texts can go the same way, on records that are those
of the texts, and a call that has returned returns the same there, none having raised. -/
theorem texts_follow {κ : Type} [DecidableEq κ] (fmt : TextFormats) (client : ExecTexts)
    (calls : κ → ExecCall) (hplain : ∀ i, ExecTexts.PlainCall (calls i)) (commands : List (κ × Time))
    {q' : ProgPool κ Time TextServer (Option ExecReply)}
    (hrun : Run (Step.graph ProgPool.issue)
      ({ server := ∅, progs := fun i ↦ (client.prog fmt (calls i)).run } :
        ProgPool κ Time TextServer (Option ExecReply)) commands q') :
    ∃ q : ProgPool κ Time RedisExecs ExecReply,
      Run (Step.graph ProgPool.issue)
        { server := {}, progs := fun i ↦ client.toRedisExecStore.prog (calls i) } commands q ∧
      ExecTexts.Written fmt client q.server q'.server ∧
      ∀ i o, q'.progs i = .pure o → ∃ reply reply', q.progs i = .pure reply ∧
        o = some reply' ∧ reply.Same reply' := by
  have hstart : ProgPool.Coupled (ExecTexts.Written fmt client) (Prog.Returns ExecReply.Same)
      { server := {}, progs := fun i ↦ client.toRedisExecStore.prog (calls i) }
      { server := ∅, progs := fun i ↦ (client.prog fmt (calls i)).run } :=
    ⟨.empty, fun i ↦ ExecTexts.prog_follows (hplain i)⟩
  obtain ⟨q, hq, hcoupled⟩ := hstart.exists_run hrun
  refine ⟨q, hq, hcoupled.server, fun i o hreturned ↦ ?_⟩
  have hprog := hcoupled.progs i
  rw [hreturned] at hprog
  obtain ⟨reply, hreply, reply', ho, hsame⟩ := hprog.of_pure_right
  exact ⟨reply, reply', hreply, ho, hsame⟩

/-- An execution is put, while another client looks it up and then lists its session. -/
def sampleCalls : ℕ → ExecCall
  | 0 => .putIfAbsent (sampleExec ⟨1⟩ ⟨100⟩ none)
  | 1 => .get (some ⟨1⟩) none
  | _ => .listBySession ⟨100⟩ none

def sampleCommands : List (ℕ × Time) := [(1, 0), (0, 1), (2, 2)]

theorem texts_follow_sample : ∃ q' : ProgPool ℕ Time TextServer (Option ExecReply),
    Run (Step.graph ProgPool.issue)
      { server := ∅, progs := fun i ↦ (ExecTexts.prog epochFormats {} (sampleCalls i)).run }
      sampleCommands q' ∧
    ∃ q : ProgPool ℕ Time RedisExecs ExecReply,
      Run (Step.graph ProgPool.issue)
        { server := {}, progs := fun i ↦ RedisExecStore.prog {} (sampleCalls i) } sampleCommands q ∧
      ExecTexts.Written epochFormats {} q.server q'.server ∧
      ∀ i o, q'.progs i = .pure o → ∃ reply reply', q.progs i = .pure reply ∧
        o = some reply' ∧ reply.Same reply' := by
  have hplain : ∀ i, ExecTexts.PlainCall (sampleCalls i)
    | 0 => rfl
    | 1 => trivial
    | _ + 2 => trivial
  have hrun : ∃ q', Run (Step.graph ProgPool.issue)
      { server := ∅, progs := fun i ↦ (ExecTexts.prog epochFormats {} (sampleCalls i)).run }
      sampleCommands q' := ⟨_, .cons rfl (.cons rfl (.cons rfl (.nil _)))⟩
  obtain ⟨q', hq'⟩ := hrun
  exact ⟨q', hq', texts_follow epochFormats {} sampleCalls hplain sampleCommands hq'⟩

end SemanticBus
