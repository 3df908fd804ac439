import SemanticBus.Data.Table
import SemanticBus.Storage.ExecHistories

/-!
# The execution store over SQL

The table of the executions has their id as its primary key and a unique column for the
idempotency key.  An empty key is no key for the search, but it is a value of the column: a
second execution with an empty key is refused.  With an id that is not there `get` goes on to
the key, and an empty status selects everything.

`sql_results_same_iff` says that these three are all that tells the table from the
dictionaries of `InMemoryExecStore`.
-/

namespace SemanticBus

def keysOf (records : List ExecRecord) : List String := records.filterMap (·.idempotencyKey)

theorem ExecRecord.withStatus_execId (status : String) (fields : StatusFields)
    (record : ExecRecord) : (record.withStatus status fields).execId = record.execId := rfl

structure SqlAlchemyExecStore where
  table : Table ExecRecord ExecRecord.execId := ∅
  /-- The constraint on the column of the idempotency key; `NULL` is no value. -/
  unique : (keysOf table.rows).Nodup := by exact List.nodup_nil

namespace SqlAlchemyExecStore

def Admits (store : SqlAlchemyExecStore) (record : ExecRecord) : Prop :=
  record.execId ∉ store.table.rows.map ExecRecord.execId ∧
    ∀ key ∈ record.idempotencyKey, key ∉ keysOf store.table.rows

instance (store : SqlAlchemyExecStore) (record : ExecRecord) : Decidable (store.Admits record) :=
  inferInstanceAs (Decidable (_ ∧ _))

/-- The row with an idempotency key; by the constraint there is no other. -/
def selectKey (store : SqlAlchemyExecStore) (key : String) : Option ExecRecord :=
  store.table.rows.find? (·.idempotencyKey = some key)

def insert (store : SqlAlchemyExecStore) (record : ExecRecord) (h : store.Admits record) :
    SqlAlchemyExecStore where
  table := store.table.add record h.1
  unique := by
    show (keysOf (store.table.rows ++ [record])).Nodup
    rw [keysOf, List.filterMap_append]
    refine store.unique.append ?_ ?_
    · cases hkey : record.idempotencyKey with
      | none =>
          rw [List.filterMap_cons_none hkey]
          exact List.nodup_nil
      | some key =>
          rw [List.filterMap_cons_some hkey]
          exact List.nodup_singleton key
    · intro key hkey hnew
      obtain ⟨r, hr, hrkey⟩ := List.mem_filterMap.mp hnew
      obtain rfl := List.mem_singleton.mp hr
      exact h.2 key hrkey hkey

/-- Create an execution record if it doesn't exist; no result stands for the error of a
constraint. -/
def putIfAbsent (store : SqlAlchemyExecStore) (record : ExecRecord) :
    SqlAlchemyExecStore × Option ExecReply :=
  match (nonempty record.idempotencyKey).bind store.selectKey with
  | some existing => (store, some (.put existing false))
  | none =>
      match store.table.find record.execId with
      | some existing => (store, some (.put existing false))
      | none =>
          if h : store.Admits record then (store.insert record h, some (.put record true))
          else (store, none)

/-- Get an execution record, by its id or else by its key. -/
def get (store : SqlAlchemyExecStore) (execId : Option UUID) (idempotencyKey : Option String) :
    Option ExecRecord :=
  (execId.bind store.table.find).or ((nonempty idempotencyKey).bind store.selectKey)

/-- Change the row of an execution, but neither its id nor its key. -/
def change (store : SqlAlchemyExecStore) (execId : UUID) (f : ExecRecord → ExecRecord)
    (hid : ∀ r, (f r).execId = r.execId)
    (hkey : ∀ r, (f r).idempotencyKey = r.idempotencyKey) : SqlAlchemyExecStore where
  table := store.table.update execId f hid
  unique := by
    have hkeys : keysOf (store.table.rows.map fun r ↦ if r.execId = execId then f r else r)
        = keysOf store.table.rows := by
      rw [keysOf, List.filterMap_map]
      refine List.filterMap_congr fun r _ ↦ ?_
      show ExecRecord.idempotencyKey (if r.execId = execId then _ else _) = _
      split
      · exact hkey r
      · rfl
    show (keysOf (List.map _ _)).Nodup
    rw [hkeys]
    exact store.unique

/-- Update execution status and optional fields. -/
def setStatus (store : SqlAlchemyExecStore) (execId : UUID) (status : String)
    (fields : StatusFields) : SqlAlchemyExecStore × Option ExecReply :=
  match store.table.find execId with
  | none => (store, some (.record none))
  | some record =>
      (store.change execId (·.withStatus status fields)
        (ExecRecord.withStatus_execId status fields) (fun _ ↦ rfl),
        some (.record (some (record.withStatus status fields))))

def listBySession (store : SqlAlchemyExecStore) (sessionId : UUID) (status : Option String) :
    List ExecRecord :=
  ofStatus (nonempty status) (store.table.rows.filter (·.sessionId = sessionId))

def exec (store : SqlAlchemyExecStore) : ExecCall → SqlAlchemyExecStore × Option ExecReply
  | .putIfAbsent record => store.putIfAbsent record
  | .get execId idempotencyKey => (store, some (.record (store.get execId idempotencyKey)))
  | .setStatus execId status fields => store.setStatus execId status fields
  | .listBySession sessionId status => (store, some (.records (store.listBySession sessionId status)))

/-- The store after some calls. -/
def after (calls : List (Time × ExecCall)) : SqlAlchemyExecStore :=
  calls.foldl (fun store call ↦ (store.exec call.2).1) {}

variable {store : SqlAlchemyExecStore} {record r : ExecRecord} {key : String}

theorem mem_keysOf {records : List ExecRecord} :
    key ∈ keysOf records ↔ ∃ r ∈ records, r.idempotencyKey = some key := List.mem_filterMap

/-- A key belongs to one row. -/
theorem eq_of_idempotencyKey {records : List ExecRecord} {r r' : ExecRecord}
    (hnodup : (keysOf records).Nodup) (hr : r ∈ records) (hr' : r' ∈ records)
    (hkey : r.idempotencyKey = some key) (hkey' : r'.idempotencyKey = some key) : r = r' := by
  induction records with
  | nil => cases hr
  | cons first records ih =>
      have hrest : (keysOf records).Nodup :=
        hnodup.sublist ((List.sublist_cons_self _ _).filterMap _)
      have habsurd : ∀ other ∈ records, first.idempotencyKey = some key →
          other.idempotencyKey = some key → False := by
        intro other hother hfirst hkey
        rw [keysOf, List.filterMap_cons_some hfirst] at hnodup
        exact (List.nodup_cons.mp hnodup).1 (mem_keysOf.mpr ⟨other, hother, hkey⟩)
      rcases List.mem_cons.mp hr with rfl | hmem
      · rcases List.mem_cons.mp hr' with rfl | hmem'
        · rfl
        · exact (habsurd r' hmem' hkey hkey').elim
      · rcases List.mem_cons.mp hr' with rfl | hmem'
        · exact (habsurd r hmem hkey' hkey).elim
        · exact ih hrest hmem hmem'

theorem selectKey_eq_some_iff : store.selectKey key = some r ↔
    r ∈ store.table.rows ∧ r.idempotencyKey = some key := by
  have hfound : ∀ r', store.selectKey key = some r' →
      r' ∈ store.table.rows ∧ r'.idempotencyKey = some key := by
    intro r' h
    have hkey := List.find?_some (show store.table.rows.find?
      (fun r ↦ decide (r.idempotencyKey = some key)) = some r' from h)
    exact ⟨List.mem_of_find?_eq_some h, of_decide_eq_true hkey⟩
  refine ⟨hfound r, fun ⟨hr, hkey⟩ ↦ ?_⟩
  cases h : store.selectKey key with
  | none => exact absurd (decide_eq_true hkey) (List.find?_eq_none.mp h r hr)
  | some r' =>
      obtain ⟨hr', hkey'⟩ := hfound r' h
      rw [eq_of_idempotencyKey store.unique hr' hr hkey' hkey]

end SqlAlchemyExecStore

/-! ## Agreement -/

/-- What the call returns depends on the store: a second record with an empty key is put, the
key is looked up after an id that is not there, or a status is empty. -/
def InMemoryExecStore.SqlDiffers (memory : InMemoryExecStore) : ExecCall → Prop
  | .putIfAbsent record => record.idempotencyKey = some "" ∧ ¬ memory.IdStored record ∧
      ∃ r, memory.Stored r ∧ r.idempotencyKey = some ""
  | .get (some execId) idempotencyKey => memory.execs.get? execId = none ∧
      ∃ r, (nonempty idempotencyKey).bind memory.findKey = some r
  | .listBySession sessionId status => status = some "" ∧
      ∃ r, memory.Stored r ∧ r.sessionId = sessionId ∧ r.status ≠ ""
  | _ => False

/-- The two stores hold the same records. -/
structure SameRows (memory : InMemoryExecStore) (sql : SqlAlchemyExecStore) : Prop where
  agree : memory.Agree
  rows : ∀ r, r ∈ sql.table.rows ↔ memory.Stored r

section Steps

open InMemoryExecStore (HasKey)

variable {memory : InMemoryExecStore} {sql : SqlAlchemyExecStore} {record : ExecRecord}

theorem hasKey_iff {key : String} : HasKey key record ↔
    record.idempotencyKey = some key ∧ key ≠ "" := by
  rw [HasKey, nonempty, Option.filter_eq_some_iff, decide_eq_true_iff]

/-- Both find the same record by its id. -/
theorem SameRows.find_eq (h : SameRows memory sql) (execId : UUID) :
    sql.table.find execId = memory.execs.get? execId := by
  refine Option.ext fun r ↦ ?_
  rw [Table.find_eq_some_iff, h.rows, h.agree.got_stored_iff]
  constructor
  · rintro ⟨hget, rfl⟩
    exact hget
  · intro hget
    obtain rfl := h.agree.keyed execId r hget
    exact ⟨hget, rfl⟩

/-- Both find the same record by a key. -/
theorem SameRows.findKey_eq (h : SameRows memory sql) (idempotencyKey : Option String) :
    (nonempty idempotencyKey).bind sql.selectKey
      = (nonempty idempotencyKey).bind memory.findKey := by
  cases hkey : nonempty idempotencyKey with
  | none => rfl
  | some key =>
      have hne : key ≠ "" := by
        rw [nonempty, Option.filter_eq_some_iff, decide_eq_true_iff] at hkey
        exact hkey.2
      rw [Option.bind_some, Option.bind_some]
      refine Option.ext fun r ↦ ?_
      rw [SqlAlchemyExecStore.selectKey_eq_some_iff, h.rows, h.agree.findKey_iff, hasKey_iff,
        and_iff_left hne]

theorem stored_create (hid : memory.execs.get? record.execId = none) (r : ExecRecord) :
    (memory.create record).Stored r ↔ r = record ∨ memory.Stored r := by
  have hget : ∀ execId, (memory.create record).execs.get? execId
      = if execId = record.execId then some record else memory.execs.get? execId :=
    fun execId ↦ Dict.get?_insert _ _ execId _
  constructor
  · rintro ⟨execId, hr⟩
    rw [hget] at hr
    split at hr
    · exact .inl (Option.some.inj hr).symm
    · exact .inr ⟨execId, hr⟩
  · rintro (rfl | ⟨execId, hr⟩)
    · exact ⟨r.execId, (hget _).trans (if_pos rfl)⟩
    · refine ⟨execId, ?_⟩
      rw [hget, if_neg, hr]
      rintro rfl
      cases hid.symm.trans hr

/-- What the constraints say of a record that neither store finds. -/
theorem SameRows.admits_iff (h : SameRows memory sql)
    (hkey : (nonempty record.idempotencyKey).bind memory.findKey = none)
    (hid : memory.execs.get? record.execId = none) : sql.Admits record ↔
      ¬ (record.idempotencyKey = some "" ∧ ∃ r, memory.Stored r ∧ r.idempotencyKey = some "") := by
  have hnew : record.execId ∉ sql.table.rows.map ExecRecord.execId := by
    rw [← Table.find_eq_none_iff, h.find_eq, hid]
  rw [SqlAlchemyExecStore.Admits, and_iff_right hnew]
  constructor
  · rintro hkeys ⟨hempty, r, hr, hrkey⟩
    exact hkeys "" hempty (SqlAlchemyExecStore.mem_keysOf.mpr ⟨r, (h.rows r).mpr hr, hrkey⟩)
  · intro hnot key hrecord hmem
    obtain ⟨r, hr, hrkey⟩ := SqlAlchemyExecStore.mem_keysOf.mp hmem
    have hr := (h.rows r).mp hr
    by_cases hempty : key = ""
    · exact hnot ⟨hempty ▸ hrecord, r, hr, hempty ▸ hrkey⟩
    · have hhas : HasKey key record := hasKey_iff.mpr ⟨hrecord, hempty⟩
      rw [show nonempty record.idempotencyKey = some key from hhas, Option.bind_some] at hkey
      have hfound := h.agree.findKey_iff.mpr ⟨hr, hasKey_iff.mpr ⟨hrkey, hempty⟩⟩
      cases hkey.symm.trans hfound

def SameReply (reply : ExecReply) (reply' : Option ExecReply) : Prop :=
  ∃ r, reply' = some r ∧ reply.Same r

theorem SameReply.refl (reply : ExecReply) : SameReply reply (some reply) :=
  ⟨reply, rfl, .refl reply⟩

theorem SameRows.putIfAbsent (h : SameRows memory sql) (record : ExecRecord) :
    (SameReply (memory.putIfAbsent record).2 (sql.putIfAbsent record).2 ↔
        ¬ memory.SqlDiffers (.putIfAbsent record)) ∧
      (¬ memory.SqlDiffers (.putIfAbsent record) →
        SameRows (memory.putIfAbsent record).1 (sql.putIfAbsent record).1) := by
  have hagree := h.agree.exec (.putIfAbsent record)
  rw [show memory.exec (.putIfAbsent record) = memory.putIfAbsent record from rfl] at hagree
  rw [SqlAlchemyExecStore.putIfAbsent, h.findKey_eq, h.find_eq]
  rw [InMemoryExecStore.putIfAbsent] at hagree ⊢
  cases hkey : (nonempty record.idempotencyKey).bind memory.findKey with
  | some existing =>
      have hsame : ¬ memory.SqlDiffers (.putIfAbsent record) := by
        rintro ⟨hempty, -, -⟩
        rw [hempty] at hkey
        cases hkey
      exact ⟨iff_of_true (.refl _) hsame, fun _ ↦ h⟩
  | none =>
      rw [hkey] at hagree
      cases hid : memory.execs.get? record.execId with
      | some existing =>
          have hsame : ¬ memory.SqlDiffers (.putIfAbsent record) := by
            rintro ⟨-, hnot, -⟩
            exact hnot (h.agree.idStored_iff.mpr ⟨existing, hid⟩)
          exact ⟨iff_of_true (.refl _) hsame, fun _ ↦ h⟩
      | none =>
          rw [hid] at hagree
          have hnoid : ¬ memory.IdStored record := by
            intro hstored
            obtain ⟨r, hr⟩ := h.agree.idStored_iff.mp hstored
            cases hid.symm.trans hr
          have hadmits := h.admits_iff hkey hid
          have hdiffers : memory.SqlDiffers (.putIfAbsent record) ↔ ¬ sql.Admits record := by
            rw [hadmits, not_not]
            exact and_congr_right fun _ ↦ and_iff_right hnoid
          rw [hdiffers, not_not]
          dsimp only at hagree ⊢
          by_cases hadmit : sql.Admits record
          · rw [dif_pos hadmit]
            refine ⟨iff_of_true (.refl _) hadmit, fun _ ↦ ⟨hagree, fun r ↦ ?_⟩⟩
            rw [stored_create hid, ← h.rows]
            exact Table.mem_add (h := hadmit.1)
          · rw [dif_neg hadmit]
            refine ⟨iff_of_false ?_ hadmit, fun hadmit' ↦ absurd hadmit' hadmit⟩
            rintro ⟨reply, hreply, -⟩
            cases hreply

theorem SameRows.get (h : SameRows memory sql) (execId : Option UUID) (key : Option String) :
    SameReply (.record (memory.get execId key)) (some (.record (sql.get execId key))) ↔
      ¬ memory.SqlDiffers (.get execId key) := by
  have hsame : ∀ found found' : Option ExecRecord,
      SameReply (.record found) (some (.record found')) ↔ found = found' := by
    intro found found'
    constructor
    · rintro ⟨reply, hreply, hsame⟩
      rw [← Option.some.inj hreply] at hsame
      exact ExecReply.record.inj hsame
    · rintro rfl
      exact .refl _
  rw [hsame, SqlAlchemyExecStore.get, h.findKey_eq]
  cases execId with
  | none => exact iff_of_true rfl id
  | some execId =>
      rw [Option.bind_some, h.find_eq]
      show memory.execs.get? execId = _ ↔ ¬ (_ ∧ ∃ r, _)
      cases hget : memory.execs.get? execId with
      | some r => exact iff_of_true rfl fun hdiffers ↦ nomatch hdiffers.1
      | none =>
          rw [Option.none_or, and_iff_right rfl, eq_comm, Option.eq_none_iff_forall_ne_some,
            not_exists]

theorem SameRows.setStatus (h : SameRows memory sql) (execId : UUID) (status : String)
    (fields : StatusFields) :
    (sql.setStatus execId status fields).2 = some (memory.setStatus execId status fields).2 ∧
      SameRows (memory.setStatus execId status fields).1 (sql.setStatus execId status fields).1 := by
  have hagree := h.agree.exec (.setStatus execId status fields)
  rw [show memory.exec (.setStatus execId status fields)
    = memory.setStatus execId status fields from rfl] at hagree
  rw [SqlAlchemyExecStore.setStatus, h.find_eq]
  rw [InMemoryExecStore.setStatus] at hagree ⊢
  cases hget : memory.execs.get? execId with
  | none => exact ⟨rfl, h⟩
  | some record =>
      rw [hget] at hagree
      refine ⟨rfl, hagree, fun r ↦ ?_⟩
      have hrow : ∀ r', r' ∈ sql.table.rows ∧ r'.execId = execId ↔ r' = record := by
        intro r'
        rw [← Table.find_eq_some_iff, h.find_eq, hget, Option.some.injEq, eq_comm]
      show r ∈ (sql.table.update execId (·.withStatus status fields)
        (ExecRecord.withStatus_execId status fields)).rows ↔ InMemoryExecStore.Stored
          { memory with execs := memory.execs.insert execId (record.withStatus status fields) } r
      rw [Table.mem_update]
      constructor
      · rintro (⟨hr, hne⟩ | ⟨r', hr', hid, rfl⟩)
        · obtain ⟨j, hj⟩ := (h.rows r).mp hr
          refine ⟨j, ?_⟩
          rw [Dict.get?_insert, if_neg, hj]
          rintro rfl
          exact hne (h.agree.keyed j r hj)
        · obtain rfl := (hrow r').mp ⟨hr', hid⟩
          exact ⟨execId, Dict.get?_insert_self _ _ _⟩
      · rintro ⟨j, hj⟩
        rw [Dict.get?_insert] at hj
        split at hj
        · obtain ⟨hmem, hid⟩ := (hrow record).mpr rfl
          exact .inr ⟨record, hmem, hid, (Option.some.inj hj).symm⟩
        · rename_i hne
          exact .inl ⟨(h.rows r).mpr ⟨j, hj⟩, fun hid ↦ hne ((h.agree.keyed j r hj).symm.trans hid)⟩

/-- What the memory lists. -/
theorem SameRows.mem_listBySession (h : SameRows memory sql) (sessionId : UUID)
    (status : Option String) (r : ExecRecord) : r ∈ memory.listBySession sessionId status ↔
      (memory.Stored r ∧ r.sessionId = sessionId) ∧ status.all (r.status = ·) = true := by
  rw [InMemoryExecStore.listBySession, ofStatus, List.mem_filter, List.mem_filterMap]
  refine and_congr_left fun _ ↦ ?_
  constructor
  · rintro ⟨execId, hmem, hget⟩
    obtain ⟨r', hget', hsession⟩ := (h.agree.indexed sessionId execId).mp hmem
    obtain rfl := Option.some.inj (hget.symm.trans hget')
    exact ⟨⟨execId, hget⟩, hsession⟩
  · rintro ⟨⟨execId, hget⟩, hsession⟩
    exact ⟨execId, (h.agree.indexed sessionId execId).mpr ⟨r, hget, hsession⟩, hget⟩

theorem SameRows.listBySession (h : SameRows memory sql) (sessionId : UUID)
    (status : Option String) :
    SameReply (.records (memory.listBySession sessionId status))
        (some (.records (sql.listBySession sessionId status))) ↔
      ¬ memory.SqlDiffers (.listBySession sessionId status) := by
  have hsql : ∀ r, r ∈ sql.listBySession sessionId status ↔
      (memory.Stored r ∧ r.sessionId = sessionId) ∧
        (nonempty status).all (r.status = ·) = true := by
    intro r
    rw [SqlAlchemyExecStore.listBySession, ofStatus, List.mem_filter, List.mem_filter, h.rows,
      decide_eq_true_iff]
  have hsame : SameReply (.records (memory.listBySession sessionId status))
      (some (.records (sql.listBySession sessionId status))) ↔ ∀ r, memory.Stored r →
        r.sessionId = sessionId → (status.all (r.status = ·) = true ↔
          (nonempty status).all (r.status = ·) = true) := by
    constructor
    · rintro ⟨reply, hreply, hsame⟩ r hstored hsession
      rw [← Option.some.inj hreply] at hsame
      have hiff := hsame r
      rw [h.mem_listBySession, hsql] at hiff
      rwa [and_iff_right ⟨hstored, hsession⟩, and_iff_right ⟨hstored, hsession⟩] at hiff
    · intro hiff
      refine ⟨_, rfl, fun r ↦ ?_⟩
      rw [h.mem_listBySession, hsql]
      exact and_congr_right fun hr ↦ hiff r hr.1 hr.2
  rw [hsame]
  by_cases hempty : status = some ""
  · subst hempty
    show _ ↔ ¬ (_ ∧ ∃ r, _)
    rw [and_iff_right rfl]
    push Not
    refine forall_congr' fun r ↦ forall_congr' fun _ ↦ forall_congr' fun _ ↦ ?_
    simp [nonempty]
  · have hkept : nonempty status = status := by
      cases status with
      | none => rfl
      | some text => exact Option.filter_some_pos (decide_eq_true fun heq ↦ hempty (congrArg some heq))
    rw [hkept]
    exact iff_of_true (fun _ _ _ ↦ Iff.rfl) fun hdiffers ↦ hempty hdiffers.1

/-- A call gives the same result in both stores exactly if it does not tell them apart; they
then go on to hold the same. -/
theorem SameRows.exec (h : SameRows memory sql) (call : ExecCall) :
    (SameReply (memory.exec call).2 (sql.exec call).2 ↔ ¬ memory.SqlDiffers call) ∧
      (¬ memory.SqlDiffers call → SameRows (memory.exec call).1 (sql.exec call).1) := by
  cases call with
  | putIfAbsent record => exact h.putIfAbsent record
  | get execId key => exact ⟨h.get execId key, fun _ ↦ h⟩
  | setStatus execId status fields =>
      obtain ⟨hreply, hrows⟩ := h.setStatus execId status fields
      refine ⟨iff_of_true ?_ id, fun _ ↦ hrows⟩
      show SameReply _ (sql.setStatus execId status fields).2
      rw [hreply]
      exact .refl _
  | listBySession sessionId status => exact ⟨h.listBySession sessionId status, fun _ ↦ h⟩

end Steps

/-- The store over SQL and the one in memory, given the same calls, return the same results
exactly when no call puts a second execution with an empty key, looks up a stored key with an id
that is not stored, or lists with an empty status executions that have another one. -/
theorem sql_results_same_iff (calls : List (Time × ExecCall)) :
    (∀ before call, before ++ [call] <+: calls →
      SameReply ((InMemoryExecStore.after before).exec call.2).2
        ((SqlAlchemyExecStore.after before).exec call.2).2) ↔
      ∀ before call, before ++ [call] <+: calls →
        ¬ (InMemoryExecStore.after before).SqlDiffers call.2 := by
  refine forall_prefix_iff
    (I := fun before ↦ SameRows (InMemoryExecStore.after before) (SqlAlchemyExecStore.after before))
    ?_ ?_ ?_
  · refine ⟨InMemoryExecStore.agree_empty, fun r ↦ iff_of_false List.not_mem_nil ?_⟩
    rintro ⟨execId, hget⟩
    cases hget
  · intro before call _ h
    exact (h.exec call.2).1
  · intro before call _ h hgood
    have hmemory : InMemoryExecStore.after (before ++ [call])
        = ((InMemoryExecStore.after before).exec call.2).1 := List.foldl_concat _ _ _ _
    have hsql : SqlAlchemyExecStore.after (before ++ [call])
        = ((SqlAlchemyExecStore.after before).exec call.2).1 := List.foldl_concat _ _ _ _
    rw [hmemory, hsql]
    exact (h.exec call.2).2 hgood

end SemanticBus
