import SemanticBus.Data.Serial
import SemanticBus.Storage.SqlExecs

/-!
# Concurrent transactions on executions

Some calls to the execution store over SQL, each a transaction of a few statements.  At
`READ COMMITTED` a statement sees what is committed when it is issued, so between two statements
of a call others may commit.  An `INSERT` is refused by the constraints of the table, and an
`UPDATE` writes the columns that differ from the row that was read.

The calls are as good as atomic exactly if none of them is overtaken in a way that it could have
noticed (`transactions_serial_iff`).  Overtaken or not, an execution is created by one call at
most (`created_once`).
-/

universe u

namespace SemanticBus

/-- Write the columns of a row that differ from the row that was read. -/
def ExecRecord.flush (read new current : ExecRecord) : ExecRecord :=
  { current with
    status := if new.status = read.status then current.status else new.status
    acceptedAt := if new.acceptedAt = read.acceptedAt then current.acceptedAt else new.acceptedAt
    completedAt :=
      if new.completedAt = read.completedAt then current.completedAt else new.completedAt
    resultViewId :=
      if new.resultViewId = read.resultViewId then current.resultViewId else new.resultViewId
    resultValid :=
      if new.resultValid = read.resultValid then current.resultValid else new.resultValid }

abbrev ExecTx := Prog Unit SqlAlchemyExecStore

namespace SqlAlchemyExecStore

def selectKeyRow (key : String) : ExecTx (Option ExecRecord) :=
  .query fun _ store ↦ store.selectKey key

def selectIdRow (execId : UUID) : ExecTx (Option ExecRecord) :=
  .query fun _ store ↦ store.table.find execId

/-- `INSERT` of a row, unless the constraints refuse it. -/
def insertRow (store : SqlAlchemyExecStore) (record : ExecRecord) :
    SqlAlchemyExecStore × Option ExecReply :=
  if h : store.Admits record then (store.insert record h, some (.put record true))
  else (store, none)

/-- `INSERT` of a new row, and `COMMIT`; no result stands for the error of a constraint. -/
def commitRow (record : ExecRecord) : ExecTx (Option ExecReply) :=
  .command fun _ store ↦ (store.insertRow record).swap

/-- `UPDATE` of the columns of a row that are not as they were read, and `COMMIT`. -/
def commitChanges (execId : UUID) (read new : ExecRecord) : ExecTx PUnit :=
  .modify fun _ store ↦ store.change execId (read.flush new) (fun _ ↦ rfl) (fun _ ↦ rfl)

/-- The rest of a `put_if_absent` that has found no row with the key. -/
def putById (record : ExecRecord) : ExecTx (Option ExecReply) := do
  match ← selectIdRow record.execId with
  | some existing => pure (some (.put existing false))
  | none => commitRow record

/-- `put_if_absent`. -/
def putTx (record : ExecRecord) : ExecTx (Option ExecReply) :=
  match nonempty record.idempotencyKey with
  | none => putById record
  | some key => do
      match ← selectKeyRow key with
      | some existing => pure (some (.put existing false))
      | none => putById record

/-- The rest of a `get` that has found no row with the id. -/
def getByKey (idempotencyKey : Option String) : ExecTx (Option ExecReply) :=
  match nonempty idempotencyKey with
  | none => pure (some (.record none))
  | some key => do
      let found ← selectKeyRow key
      pure (some (.record found))

def getTx (execId : Option UUID) (idempotencyKey : Option String) : ExecTx (Option ExecReply) :=
  match execId with
  | none => getByKey idempotencyKey
  | some execId => do
      match ← selectIdRow execId with
      | some record => pure (some (.record (some record)))
      | none => getByKey idempotencyKey

/-- The rest of a `set_status` that has read the row. -/
def writeStatus (execId : UUID) (status : String) (fields : StatusFields) (read : ExecRecord) :
    ExecTx (Option ExecReply) := do
  commitChanges execId read (read.withStatus status fields)
  pure (some (.record (some (read.withStatus status fields))))

def setStatusTx (execId : UUID) (status : String) (fields : StatusFields) :
    ExecTx (Option ExecReply) := do
  match ← selectIdRow execId with
  | none => pure (some (.record none))
  | some record => writeStatus execId status fields record

def listTx (sessionId : UUID) (status : Option String) : ExecTx (Option ExecReply) :=
  .query fun _ store ↦ some (.records (store.listBySession sessionId status))

def tx : ExecCall → ExecTx (Option ExecReply)
  | .putIfAbsent record => putTx record
  | .get execId idempotencyKey => getTx execId idempotencyKey
  | .setStatus execId status fields => setStatusTx execId status fields
  | .listBySession sessionId status => listTx sessionId status

variable {store : SqlAlchemyExecStore} {record read new current : ExecRecord} {execId : UUID}

/-- A row that was read just now gets all the columns. -/
theorem flush_self (read : ExecRecord) (status : String) (fields : StatusFields) :
    read.flush (read.withStatus status fields) read = read.withStatus status fields := by
  have hkeep : ∀ {α : Type} [DecidableEq α] (a b : α), (if a = b then b else a) = a := by
    intro α _ a b
    split
    · rename_i h
      exact h.symm
    · rfl
  rw [ExecRecord.flush, ExecRecord.withStatus]
  dsimp only
  rw [hkeep, hkeep, hkeep, hkeep, hkeep]

/-- Changes that come to the same for the row. -/
theorem change_congr {f g : ExecRecord → ExecRecord} (hf : ∀ r, (f r).execId = r.execId)
    (hf' : ∀ r, (f r).idempotencyKey = r.idempotencyKey) (hg : ∀ r, (g r).execId = r.execId)
    (hg' : ∀ r, (g r).idempotencyKey = r.idempotencyKey)
    (h : ∀ r, store.table.find execId = some r → f r = g r) :
    store.change execId f hf hf' = store.change execId g hg hg' := by
  have hrows : store.table.rows.map (fun r ↦ if r.execId = execId then f r else r)
      = store.table.rows.map fun r ↦ if r.execId = execId then g r else r := by
    refine List.map_congr_left fun r hr ↦ ?_
    split
    · rename_i hid
      exact h r (Table.find_eq_some_iff.mpr ⟨hr, hid⟩)
    · rfl
  rw [change, change]
  congr 1
  rw [Table.update, Table.update, Table.map, Table.map]
  congr 1

theorem find_change {f : ExecRecord → ExecRecord} (hf : ∀ r, (f r).execId = r.execId)
    (hf' : ∀ r, (f r).idempotencyKey = r.idempotencyKey)
    (h : store.table.find execId = some record) :
    (store.change execId f hf hf').table.find execId = some (f record) := by
  obtain ⟨hmem, hid⟩ := Table.find_eq_some_iff.mp h
  rw [Table.find_eq_some_iff]
  refine ⟨?_, (hf record).trans hid⟩
  show f record ∈ (store.table.update execId f hf).rows
  rw [Table.mem_update]
  exact .inr ⟨record, hmem, hid, rfl⟩

theorem run_putById (record : ExecRecord) (store : SqlAlchemyExecStore) :
    (putById record).run () store = match store.table.find record.execId with
      | some existing => (some (.put existing false), store)
      | none => (store.insertRow record).swap := by
  rw [putById, Prog.run_bind, selectIdRow, Prog.run_query]
  dsimp only
  cases store.table.find record.execId with
  | some existing => rfl
  | none => rfl

theorem run_getByKey (idempotencyKey : Option String) (store : SqlAlchemyExecStore) :
    (getByKey idempotencyKey).run () store
      = (some (.record ((nonempty idempotencyKey).bind store.selectKey)), store) := by
  rw [getByKey]
  cases nonempty idempotencyKey with
  | none => rfl
  | some key => rfl

/-- Without others in between, the transaction is the operation of the store. -/
theorem run_tx (call : ExecCall) (store : SqlAlchemyExecStore) :
    (tx call).run () store = ((store.exec call).2, (store.exec call).1) := by
  cases call with
  | putIfAbsent record =>
      rw [tx, putTx, exec, putIfAbsent]
      have hnew : (putById record).run () store = ((match store.table.find record.execId with
          | some existing => (store, some (.put existing false))
          | none => store.insertRow record) : SqlAlchemyExecStore × Option ExecReply).swap := by
        rw [run_putById]
        cases store.table.find record.execId with
        | some existing => rfl
        | none => rfl
      cases nonempty record.idempotencyKey with
      | none => exact hnew
      | some key =>
          rw [Option.bind_some]
          dsimp only
          rw [Prog.run_bind, selectKeyRow, Prog.run_query]
          cases store.selectKey key with
          | some existing => rfl
          | none => exact hnew
  | get execId idempotencyKey =>
      cases execId with
      | none => exact run_getByKey idempotencyKey store
      | some execId =>
          rw [tx, getTx, exec, get, Prog.run_bind, selectIdRow, Prog.run_query, Option.bind_some]
          cases store.table.find execId with
          | some record => rfl
          | none => exact run_getByKey idempotencyKey store
  | setStatus execId status fields =>
      rw [tx, setStatusTx, Prog.run_bind, selectIdRow, Prog.run_query, exec, setStatus]
      cases hfind : store.table.find execId with
      | none => rfl
      | some record =>
          dsimp only
          rw [writeStatus, Prog.run_bind, commitChanges, Prog.run_modify]
          have hwritten : store.change execId (record.flush (record.withStatus status fields))
                (fun _ ↦ rfl) (fun _ ↦ rfl)
              = store.change execId (·.withStatus status fields)
                (ExecRecord.withStatus_execId status fields) (fun _ ↦ rfl) := by
            refine change_congr _ _ _ _ fun r hr ↦ ?_
            obtain rfl := Option.some.inj (hfind.symm.trans hr)
            exact flush_self _ status fields
          exact Prod.ext rfl hwritten
  | listBySession sessionId status => rfl

end SqlAlchemyExecStore

/-- Where a call stands: the statement that it issues next, or what it returned. -/
inductive TxPoint where
  | selectKey
  | selectId
  | insert
  /-- The `UPDATE` after the row is read. -/
  | update (read : ExecRecord)
  | list
  | returned (reply : Option ExecReply)

def TxPoint.reply : TxPoint → Option (Option ExecReply)
  | .returned reply => some reply
  | _ => none

namespace SqlAlchemyExecStore

/-- The first statement of a call. -/
def start : ExecCall → TxPoint
  | .putIfAbsent record => if nonempty record.idempotencyKey = none then .selectId else .selectKey
  | .get (some _) _ => .selectId
  | .get none idempotencyKey =>
      if nonempty idempotencyKey = none then .returned (some (.record none)) else .selectKey
  | .setStatus _ _ _ => .selectId
  | .listBySession _ _ => .list

def prog : ExecCall → TxPoint → ExecTx (Option ExecReply)
  | _, .returned reply => pure reply
  | .putIfAbsent record, .selectKey => putTx record
  | .putIfAbsent record, .selectId => putById record
  | .putIfAbsent record, .insert => commitRow record
  | .get (some execId) idempotencyKey, .selectId => getTx (some execId) idempotencyKey
  | .get _ idempotencyKey, .selectKey => getByKey idempotencyKey
  | .setStatus execId status fields, .selectId => setStatusTx execId status fields
  | .setStatus execId status fields, .update read => writeStatus execId status fields read
  | .listBySession sessionId status, .list => listTx sessionId status
  | _, _ => pure none

theorem prog_start (call : ExecCall) : prog call (start call) = tx call := by
  cases call with
  | putIfAbsent record =>
      rw [start, tx]
      split
      · rename_i hkey
        rw [prog, putTx, hkey]
      · rfl
  | get execId idempotencyKey =>
      cases execId with
      | some execId => rfl
      | none =>
          rw [start, tx, getTx]
          split
          · rename_i hkey
            rw [prog, getByKey, hkey]
          · rfl
  | setStatus execId status fields => rfl
  | listBySession sessionId status => rfl

/-- After the search for the id of a new row. -/
def nextById (record : ExecRecord) (store : SqlAlchemyExecStore) : TxPoint × SqlAlchemyExecStore :=
  match store.table.find record.execId with
  | some existing => (.returned (some (.put existing false)), store)
  | none => (.insert, store)

def next (store : SqlAlchemyExecStore) :
    ExecCall → TxPoint → Option (TxPoint × SqlAlchemyExecStore)
  | .putIfAbsent record, .selectKey =>
      match nonempty record.idempotencyKey with
      | none => some (nextById record store)
      | some key =>
          match store.selectKey key with
          | some existing => some (.returned (some (.put existing false)), store)
          | none => some (.selectId, store)
  | .putIfAbsent record, .selectId => some (nextById record store)
  | .putIfAbsent record, .insert =>
      some (.returned (store.insertRow record).2, (store.insertRow record).1)
  | .get (some execId) idempotencyKey, .selectId =>
      match store.table.find execId with
      | some record => some (.returned (some (.record (some record))), store)
      | none =>
          if nonempty idempotencyKey = none then some (.returned (some (.record none)), store)
          else some (.selectKey, store)
  | .get _ idempotencyKey, .selectKey =>
      (nonempty idempotencyKey).map fun key ↦
        (.returned (some (.record (store.selectKey key))), store)
  | .setStatus execId _ _, .selectId =>
      match store.table.find execId with
      | none => some (.returned (some (.record none)), store)
      | some record => some (.update record, store)
  | .setStatus execId status fields, .update read =>
      some (.returned (some (.record (some (read.withStatus status fields)))),
        store.change execId (read.flush (read.withStatus status fields)) (fun _ ↦ rfl)
          (fun _ ↦ rfl))
  | .listBySession sessionId status, .list =>
      some (.returned (some (.records (store.listBySession sessionId status))), store)
  | _, _ => none

inductive Move (store : SqlAlchemyExecStore) :
    ExecCall → TxPoint → TxPoint × SqlAlchemyExecStore → Prop
  | keyFound {record existing : ExecRecord} {key : String} :
      nonempty record.idempotencyKey = some key → store.selectKey key = some existing →
      Move store (.putIfAbsent record) .selectKey (.returned (some (.put existing false)), store)
  | keyFree {record : ExecRecord} {key : String} :
      nonempty record.idempotencyKey = some key → store.selectKey key = none →
      Move store (.putIfAbsent record) .selectKey (.selectId, store)
  | keyless {record : ExecRecord} : nonempty record.idempotencyKey = none →
      Move store (.putIfAbsent record) .selectKey (nextById record store)
  | byId {record : ExecRecord} : Move store (.putIfAbsent record) .selectId (nextById record store)
  | insert {record : ExecRecord} : Move store (.putIfAbsent record) .insert
      (.returned (store.insertRow record).2, (store.insertRow record).1)
  | gotById {execId : UUID} {idempotencyKey : Option String} {record : ExecRecord} :
      store.table.find execId = some record →
      Move store (.get (some execId) idempotencyKey) .selectId
        (.returned (some (.record (some record))), store)
  | gotNothing {execId : UUID} {idempotencyKey : Option String} :
      store.table.find execId = none → nonempty idempotencyKey = none →
      Move store (.get (some execId) idempotencyKey) .selectId
        (.returned (some (.record none)), store)
  | goneOn {execId : UUID} {idempotencyKey : Option String} :
      store.table.find execId = none →
      Move store (.get (some execId) idempotencyKey) .selectId (.selectKey, store)
  | gotByKey {execId : Option UUID} {idempotencyKey : Option String} {key : String} :
      nonempty idempotencyKey = some key →
      Move store (.get execId idempotencyKey) .selectKey
        (.returned (some (.record (store.selectKey key))), store)
  | missing {execId : UUID} {status : String} {fields : StatusFields} :
      store.table.find execId = none →
      Move store (.setStatus execId status fields) .selectId
        (.returned (some (.record none)), store)
  | read {execId : UUID} {status : String} {fields : StatusFields} {record : ExecRecord} :
      store.table.find execId = some record →
      Move store (.setStatus execId status fields) .selectId (.update record, store)
  | update {execId : UUID} {status : String} {fields : StatusFields} {read : ExecRecord} :
      Move store (.setStatus execId status fields) (.update read)
        (.returned (some (.record (some (read.withStatus status fields)))),
          store.change execId (read.flush (read.withStatus status fields)) (fun _ ↦ rfl)
            fun _ ↦ rfl)
  | listed {sessionId : UUID} {status : Option String} :
      Move store (.listBySession sessionId status) .list
        (.returned (some (.records (store.listBySession sessionId status))), store)

theorem move_of_next {store : SqlAlchemyExecStore} {call : ExecCall} {point : TxPoint}
    {x : TxPoint × SqlAlchemyExecStore} (h : store.next call point = some x) :
    store.Move call point x := by
  cases call with
  | putIfAbsent record =>
      cases point with
      | selectKey =>
          rw [next] at h
          cases hkey : nonempty record.idempotencyKey with
          | none =>
              rw [hkey] at h
              cases h
              exact .keyless hkey
          | some key =>
              rw [hkey] at h
              dsimp only at h
              split at h
              · rename_i hselect
                cases h
                exact .keyFound hkey hselect
              · rename_i hselect
                cases h
                exact .keyFree hkey hselect
      | selectId =>
          cases h
          exact .byId
      | insert =>
          cases h
          exact .insert
      | update read => cases h
      | list => cases h
      | returned reply => cases h
  | get execId idempotencyKey =>
      cases point with
      | selectKey =>
          rw [next] at h
          obtain ⟨key, hkey, rfl⟩ := Option.map_eq_some_iff.mp h
          exact .gotByKey hkey
      | selectId =>
          cases execId with
          | none => cases h
          | some execId =>
              rw [next] at h
              split at h
              · rename_i hid
                cases h
                exact .gotById hid
              · rename_i hid
                split at h
                · rename_i hkey
                  cases h
                  exact .gotNothing hid hkey
                · cases h
                  exact .goneOn hid
      | insert => cases execId <;> cases h
      | update read => cases execId <;> cases h
      | list => cases execId <;> cases h
      | returned reply => cases execId <;> cases h
  | setStatus execId status fields =>
      cases point with
      | selectId =>
          rw [next] at h
          split at h
          · rename_i hid
            cases h
            exact .missing hid
          · rename_i hid
            cases h
            exact .read hid
      | update read =>
          cases h
          exact .update
      | selectKey => cases h
      | insert => cases h
      | list => cases h
      | returned reply => cases h
  | listBySession sessionId status =>
      cases point with
      | list =>
          cases h
          exact .listed
      | _ => cases h

theorem issue_putById (record : ExecRecord) (store : SqlAlchemyExecStore) :
    (putById record).issue () store
      = some (prog (.putIfAbsent record) (nextById record store).1, (nextById record store).2) := by
  rw [putById, selectIdRow, Prog.issue_query_bind, nextById]
  cases store.table.find record.execId with
  | some existing => rfl
  | none => rfl

theorem issue_prog (call : ExecCall) (point : TxPoint) (store : SqlAlchemyExecStore) :
    (prog call point).issue () store
      = (store.next call point).map fun x ↦ (prog call x.1, x.2) := by
  cases call with
  | putIfAbsent record =>
      cases point with
      | selectKey =>
          rw [prog, putTx, next]
          cases nonempty record.idempotencyKey with
          | none => exact issue_putById record store
          | some key =>
              dsimp only
              rw [selectKeyRow, Prog.issue_query_bind]
              cases store.selectKey key with
              | some existing => rfl
              | none => rfl
      | selectId => exact issue_putById record store
      | insert => rfl
      | update read => rfl
      | list => rfl
      | returned reply => rfl
  | get execId idempotencyKey =>
      cases point with
      | selectKey =>
          rw [prog, getByKey, next]
          cases nonempty idempotencyKey with
          | none => rfl
          | some key => rfl
      | selectId =>
          cases execId with
          | none => rfl
          | some execId =>
              rw [prog, getTx, next, selectIdRow, Prog.issue_query_bind]
              cases store.table.find execId with
              | some record => rfl
              | none =>
                  dsimp only
                  split
                  · rename_i hkey
                    rw [getByKey, hkey]
                    rfl
                  · rfl
      | insert => cases execId <;> rfl
      | update read => cases execId <;> rfl
      | list => cases execId <;> rfl
      | returned reply => cases execId <;> rfl
  | setStatus execId status fields =>
      cases point with
      | selectId =>
          rw [prog, setStatusTx, next, selectIdRow, Prog.issue_query_bind]
          cases store.table.find execId with
          | none => rfl
          | some record => rfl
      | update read => rfl
      | selectKey => rfl
      | insert => rfl
      | list => rfl
      | returned reply => rfl
  | listBySession sessionId status =>
      cases point with
      | list => rfl
      | selectId => rfl
      | update read => rfl
      | selectKey => rfl
      | insert => rfl
      | returned reply => rfl

/-- Some calls, by the points at which they stand. -/
def outline {κ : Type u} (calls : κ → ExecCall) :
    Outline κ TxPoint Unit SqlAlchemyExecStore (Option ExecReply) where
  prog i := prog (calls i)
  next i point _ store := store.next (calls i) point
  issue_prog i point _ store := issue_prog (calls i) point store

/-! ## Calls that are overtaken -/

section

variable {κ : Type u} {calls : κ → ExecCall} {p q : Points κ TxPoint SqlAlchemyExecStore}
  {a : κ × Unit} {record : ExecRecord} {store : SqlAlchemyExecStore}

/-- What was searched for before is as it was: the row with the id of a new record is the one with
its key; a row is inserted where there is none with its id or key; a row that has come with the
id is the one with the key; and the `UPDATE` makes of the row what the call returns. -/
def Unchanged (store : SqlAlchemyExecStore) : ExecCall → TxPoint → Prop
  | .putIfAbsent record, .selectId => ∀ existing row,
      store.table.find record.execId = some existing →
      (nonempty record.idempotencyKey).bind store.selectKey = some row → row = existing
  | .putIfAbsent record, .insert => store.table.find record.execId = none ∧
      (nonempty record.idempotencyKey).bind store.selectKey = none
  | .get execId idempotencyKey, .selectKey => ∀ row,
      execId.bind store.table.find = some row →
      (nonempty idempotencyKey).bind store.selectKey = some row
  | .setStatus execId status fields, .update read => ∃ current,
      store.table.find execId = some current ∧
      read.flush (read.withStatus status fields) current = read.withStatus status fields
  | _, _ => True

/-- The call is not overtaken before its next statement. -/
def Timely (calls : κ → ExecCall) (p : Points κ TxPoint SqlAlchemyExecStore) (a : κ × Unit) :
    Prop := p.server.Unchanged (calls a.1) (p.points a.1)

/-- A statement does the whole call, or nothing. -/
def DoesWhole (store : SqlAlchemyExecStore) (call : ExecCall) (point' : TxPoint)
    (store' : SqlAlchemyExecStore) : Prop :=
  Outline.Does point'.reply (fun store ↦ store.exec call) store store'

theorem Admits.find_eq_none (h : store.Admits record) : store.table.find record.execId = none :=
  Table.find_eq_none_iff.mpr h.1

theorem Admits.selectKey_eq_none (h : store.Admits record) :
    (nonempty record.idempotencyKey).bind store.selectKey = none := by
  rw [Option.bind_eq_none_iff]
  intro key hkey
  rw [nonempty, Option.filter_eq_some_iff] at hkey
  cases hselect : store.selectKey key with
  | none => rfl
  | some row =>
      obtain ⟨hrow, hrowkey⟩ := selectKey_eq_some_iff.mp hselect
      exact absurd (mem_keysOf.mpr ⟨row, hrow, hrowkey⟩) (h.2 key hkey.1)

/-- Nothing with the id or the key is there. -/
theorem putIfAbsent_of_none (hid : store.table.find record.execId = none)
    (hkey : (nonempty record.idempotencyKey).bind store.selectKey = none) :
    store.putIfAbsent record = store.insertRow record := by
  rw [putIfAbsent, hkey, hid]
  rfl

/-- A row with the key is there, or else one with the id. -/
theorem putIfAbsent_of_some {existing : ExecRecord}
    (h : ((nonempty record.idempotencyKey).bind store.selectKey).or
      (store.table.find record.execId) = some existing) :
    store.putIfAbsent record = (store, some (.put existing false)) := by
  rw [putIfAbsent]
  cases hkey : (nonempty record.idempotencyKey).bind store.selectKey with
  | some row =>
      rw [hkey, Option.some_or] at h
      rw [Option.some.inj h]
  | none =>
      rw [hkey, Option.none_or] at h
      rw [h]

/-- The search for the id finds what the call finds, unless the key has got another row. -/
theorem doesWhole_nextById (record : ExecRecord) (store : SqlAlchemyExecStore) :
    store.DoesWhole (.putIfAbsent record) (nextById record store).1 (nextById record store).2 ↔
      ∀ existing row, store.table.find record.execId = some existing →
        (nonempty record.idempotencyKey).bind store.selectKey = some row → row = existing := by
  rw [nextById]
  cases hid : store.table.find record.execId with
  | none => exact iff_of_true (show store = store from rfl) fun _ _ h ↦ by cases h
  | some existing =>
      show (store, some (ExecReply.put existing false)) = store.putIfAbsent record ↔ _
      cases hkey : (nonempty record.idempotencyKey).bind store.selectKey with
      | none =>
          have hfound : ((nonempty record.idempotencyKey).bind store.selectKey).or
              (store.table.find record.execId) = some existing := by
            rw [hkey, hid, Option.none_or]
          exact iff_of_true (putIfAbsent_of_some hfound).symm fun _ _ _ h ↦ by cases h
      | some row =>
          have hfound : ((nonempty record.idempotencyKey).bind store.selectKey).or
              (store.table.find record.execId) = some row := by
            rw [hkey, Option.some_or]
          rw [putIfAbsent_of_some hfound]
          constructor
          · rintro h _ _ ⟨⟩ ⟨⟩
            cases h
            rfl
          · intro h
            rw [h existing row rfl rfl]

theorem doesWhole_insert (record : ExecRecord) (store : SqlAlchemyExecStore) :
    store.DoesWhole (.putIfAbsent record) (.returned (store.insertRow record).2)
        (store.insertRow record).1 ↔
      store.table.find record.execId = none ∧
        (nonempty record.idempotencyKey).bind store.selectKey = none := by
  show store.insertRow record = store.putIfAbsent record ↔ _
  constructor
  · intro h
    by_cases hadmits : store.Admits record
    · exact ⟨hadmits.find_eq_none, hadmits.selectKey_eq_none⟩
    · rw [insertRow, dif_neg hadmits] at h
      rw [and_comm, ← Option.or_eq_none_iff, Option.eq_none_iff_forall_ne_some]
      intro existing hexisting
      rw [putIfAbsent_of_some hexisting] at h
      cases congrArg Prod.snd h
  · rintro ⟨hid, hkey⟩
    exact (putIfAbsent_of_none hid hkey).symm

theorem doesWhole_selectKey (execId : Option UUID) (idempotencyKey : Option String)
    (store : SqlAlchemyExecStore) :
    store.DoesWhole (.get execId idempotencyKey)
        (.returned (some (.record ((nonempty idempotencyKey).bind store.selectKey)))) store ↔
      ∀ row, execId.bind store.table.find = some row →
        (nonempty idempotencyKey).bind store.selectKey = some row := by
  show (store, some _) = (store, some (ExecReply.record (store.get execId idempotencyKey))) ↔ _
  rw [get]
  cases hid : execId.bind store.table.find with
  | none => exact iff_of_true rfl fun _ h ↦ by cases h
  | some row =>
      rw [Option.some_or]
      constructor
      · rintro h _ ⟨⟩
        exact ExecReply.record.inj (Option.some.inj (congrArg Prod.snd h))
      · intro h
        rw [h row rfl]

/-- The columns that are not written are as they were read. -/
theorem withStatus_of_flush {read current : ExecRecord} {status : String} {fields : StatusFields}
    (h : read.flush (read.withStatus status fields) current = read.withStatus status fields) :
    current.withStatus status fields = read.withStatus status fields := by
  have hcolumn : ∀ {α : Type} [DecidableEq α] (set : Option α) (old now : α),
      (if set.getD old = old then now else set.getD old) = set.getD old →
        set.getD now = set.getD old := by
    intro α _ set old now h
    cases set with
    | none => rwa [Option.getD_none, if_pos rfl] at h
    | some value => rfl
  rw [ExecRecord.flush, ExecRecord.withStatus, ExecRecord.mk.injEq] at h
  obtain ⟨h₁, h₂, h₃, h₄, -, h₅, h₆, hview, hvalid, h₇, h₈, h₉, haccepted, hcompleted, h₁₀⟩ := h
  rw [ExecRecord.withStatus, ExecRecord.withStatus, ExecRecord.mk.injEq]
  exact ⟨h₁, h₂, h₃, h₄, rfl, h₅, h₆, hcolumn _ _ _ hview, hcolumn _ _ _ hvalid, h₇, h₈, h₉,
    hcolumn _ _ _ haccepted, hcolumn _ _ _ hcompleted, h₁₀⟩

theorem doesWhole_update (execId : UUID) (status : String) (fields : StatusFields)
    (read : ExecRecord) (store : SqlAlchemyExecStore) :
    store.DoesWhole (.setStatus execId status fields)
        (.returned (some (.record (some (read.withStatus status fields)))))
        (store.change execId (read.flush (read.withStatus status fields)) (fun _ ↦ rfl)
          fun _ ↦ rfl) ↔
      ∃ current, store.table.find execId = some current ∧
        read.flush (read.withStatus status fields) current = read.withStatus status fields := by
  show (_, some (ExecReply.record (some (read.withStatus status fields))))
    = store.setStatus execId status fields ↔ _
  rw [setStatus]
  cases hfind : store.table.find execId with
  | none =>
      refine iff_of_false (fun h ↦ ?_) (not_exists.mpr fun _ h ↦ ?_)
      · cases congrArg Prod.snd h
      · cases h.1
  | some current =>
      dsimp only
      constructor
      · intro h
        obtain ⟨hstore, hreply⟩ := Prod.mk.inj h
        have hrow := congrArg (fun store ↦ store.table.find execId) hstore
        have hwritten := (find_change _ _ hfind).symm.trans (hrow.trans (find_change _ _ hfind))
        have hreturned := ExecReply.record.inj (Option.some.inj hreply)
        exact ⟨current, rfl, Option.some.inj (hwritten.trans hreturned.symm)⟩
      · rintro ⟨_, ⟨⟩, hflush⟩
        have hwritten := withStatus_of_flush hflush
        have hstore : store.change execId (read.flush (read.withStatus status fields))
              (fun _ ↦ rfl) (fun _ ↦ rfl)
            = store.change execId (·.withStatus status fields)
              (ExecRecord.withStatus_execId status fields) (fun _ ↦ rfl) := by
          refine change_congr _ _ _ _ fun r hr ↦ ?_
          obtain rfl := Option.some.inj (hfind.symm.trans hr)
          exact hflush.trans hwritten.symm
        rw [hstore, hwritten]

variable {point point' : TxPoint} {store' : SqlAlchemyExecStore}

/-- The next statement does the whole call, or nothing, exactly if nobody overtakes the call. -/
theorem unchanged_iff {call : ExecCall} (h : store.next call point = some (point', store')) :
    store.Unchanged call point ↔ store.DoesWhole call point' store' := by
  suffices hmove : ∀ x, store.Move call point x →
      (store.Unchanged call point ↔ store.DoesWhole call x.1 x.2) from hmove _ (move_of_next h)
  intro x hmove
  cases hmove with
  | keyFound hkey hselect =>
      refine iff_of_true trivial (putIfAbsent_of_some ?_).symm
      rw [hkey, Option.bind_some, hselect, Option.some_or]
  | keyFree _ _ => exact iff_of_true trivial rfl
  | @keyless record hkey =>
      refine iff_of_true trivial ((doesWhole_nextById record store).mpr ?_)
      rw [hkey]
      exact fun _ _ _ h ↦ by cases h
  | byId => exact (doesWhole_nextById _ store).symm
  | insert => exact (doesWhole_insert _ store).symm
  | @gotById execId idempotencyKey record hid =>
      refine iff_of_true trivial ?_
      show (store, some (ExecReply.record (some record)))
        = (store, some (ExecReply.record (store.get (some execId) idempotencyKey)))
      rw [get, Option.bind_some, hid, Option.some_or]
  | @gotNothing execId idempotencyKey hid hkey =>
      refine iff_of_true trivial ?_
      show (store, some (ExecReply.record none))
        = (store, some (ExecReply.record (store.get (some execId) idempotencyKey)))
      rw [get, Option.bind_some, hid, hkey]
      rfl
  | goneOn _ => exact iff_of_true trivial rfl
  | @gotByKey execId idempotencyKey key hkey =>
      have hselect := doesWhole_selectKey execId idempotencyKey store
      rw [hkey] at hselect
      show (∀ row, _ → (nonempty idempotencyKey).bind store.selectKey = some row) ↔ _
      rw [hkey]
      exact hselect.symm
  | @missing execId status fields hid =>
      refine iff_of_true trivial ?_
      show (store, some (ExecReply.record none)) = store.setStatus execId status fields
      rw [setStatus, hid]
  | read _ => exact iff_of_true trivial rfl
  | update => exact (doesWhole_update _ _ _ _ store).symm
  | listed => exact iff_of_true trivial rfl

variable [DecidableEq κ]

theorem timely_iff (h : (outline calls).step p a = some q) : Timely calls p a ↔
    Outline.Whole (outline calls) TxPoint.reply (fun i _ store ↦ store.exec (calls i)) p a := by
  obtain ⟨point', store', hnext, rfl⟩ := Outline.exists_move h
  rw [Timely, unchanged_iff hnext, Outline.whole_iff_does hnext]
  rfl

/-- The calls before their statements. -/
def begun (calls : κ → ExecCall) (store : SqlAlchemyExecStore) :
    Points κ TxPoint SqlAlchemyExecStore where
  server := store
  points i := start (calls i)

omit [DecidableEq κ] in
theorem pool_begun (calls : κ → ExecCall) (store : SqlAlchemyExecStore) :
    (outline calls).pool (begun calls store)
      = { server := store, progs := fun i ↦ tx (calls i) } :=
  congrArg (ProgPool.mk store) (funext fun i ↦ prog_start (calls i))

omit [DecidableEq κ] in
theorem next_returned {reply : Option ExecReply} (call : ExecCall) :
    store.next call (.returned reply) = none := by
  cases call with
  | get execId idempotencyKey => cases execId <;> rfl
  | putIfAbsent record => rfl
  | setStatus execId status fields => rfl
  | listBySession sessionId status => rfl

/-- Some calls to the store, each in a transaction.  In every run of their statements, the table
and the replies are all along those of a store that serves a call in one go when its transaction
returns, exactly if no call is overtaken. -/
theorem transactions_serial_iff {as : List (κ × Unit)}
    {x : ProgPool κ Unit SqlAlchemyExecStore (Option ExecReply)}
    (h : Run (Step.graph ProgPool.issue) { server := store, progs := fun i ↦ tx (calls i) } as x) :
    ∃ p, x = (outline calls).pool p ∧
      (Run (Step.Only (Timely calls) (Step.graph (outline calls).step)) (begun calls store) as p ↔
        ∀ bs y, bs <+: as →
          Run (Outline.Serves (outline calls) TxPoint.reply fun i _ store ↦ store.exec (calls i))
            (begun calls store, Outline.copyOf TxPoint.reply (begun calls store)) bs y →
          Outline.AsOne TxPoint.reply y) := by
  rw [← pool_begun] at h
  obtain ⟨p, hrun, rfl⟩ := (outline calls).run_pool.mp h
  refine ⟨p, rfl, ?_⟩
  rw [← Outline.serial_iff ?_ hrun]
  · constructor
    · exact fun h ↦ h.mono fun p a q ⟨htimely, hstep⟩ ↦ ⟨(timely_iff hstep).mp htimely, hstep⟩
    · exact fun h ↦ h.mono fun p a q ⟨hwhole, hstep⟩ ↦ ⟨(timely_iff hstep).mpr hwhole, hstep⟩
  · intro i point _ store hreturned
    cases point with
    | returned reply => exact next_returned (calls i)
    | _ => cases hreturned

/-- Two executions with one key that are put at the same time. -/
def samplePuts (i : Bool) : ExecCall :=
  .putIfAbsent (sampleExec (if i then ⟨2⟩ else ⟨1⟩) ⟨100⟩ (some "order-1"))

/-- Both searches are done before either inserts. -/
def sampleOrder : List (Bool × Unit) :=
  [(false, ()), (true, ()), (false, ()), (true, ()), (false, ()), (true, ())]

theorem transactions_serial_sample :
    ∃ x : ProgPool Bool Unit SqlAlchemyExecStore (Option ExecReply),
      x.progs true = .pure none ∧
      ∃ p, x = (outline samplePuts).pool p ∧
        (Run (Step.Only (Timely samplePuts) (Step.graph (outline samplePuts).step))
            (begun samplePuts {}) sampleOrder p ↔
          ∀ bs y, bs <+: sampleOrder →
            Run (Outline.Serves (outline samplePuts) TxPoint.reply
                fun i _ store ↦ store.exec (samplePuts i))
              (begun samplePuts {}, Outline.copyOf TxPoint.reply (begun samplePuts {})) bs y →
            Outline.AsOne TxPoint.reply y) :=
  ⟨_, rfl, transactions_serial_iff (Run.graph_iff.mpr rfl)⟩

/-! ## Creation -/

/-- What no call changes of an execution: its id and its key. -/
def identity (record : ExecRecord) : UUID × Option String :=
  (record.execId, record.idempotencyKey)

def identities (store : SqlAlchemyExecStore) : List (UUID × Option String) :=
  store.table.rows.map identity

def Taken (record : ExecRecord) (taken : UUID × Option String) : Prop :=
  taken.1 = record.execId ∨ ∃ key, record.idempotencyKey = some key ∧ taken.2 = some key

/-- What a `put_if_absent` returns goes with the ids and the keys in the table: the record is
there if it was created, or else something with its id or its key. -/
def Accounted (there : List (UUID × Option String)) : ExecCall → Option ExecReply → Prop
  | .putIfAbsent record, none => ∃ other ∈ there, Taken record other
  | .putIfAbsent record, some (.put existing false) =>
      identity existing ∈ there ∧ Taken record (identity existing)
  | .putIfAbsent record, some (.put new true) => new = record ∧ identity record ∈ there
  | .putIfAbsent _, some _ => False
  | _, _ => True

omit [DecidableEq κ] in
theorem Accounted.mono {there there' : List (UUID × Option String)} {call : ExecCall}
    {reply : Option ExecReply} (h : Accounted there call reply) (hsub : there ⊆ there') :
    Accounted there' call reply := by
  cases call with
  | putIfAbsent record =>
      cases reply with
      | none =>
          obtain ⟨other, hother, htaken⟩ := h
          exact ⟨other, hsub hother, htaken⟩
      | some reply =>
          cases reply with
          | put other created =>
              cases created with
              | false => exact ⟨hsub h.1, h.2⟩
              | true => exact ⟨h.1, hsub h.2⟩
          | record _ => exact h
          | records _ => exact h
  | get execId idempotencyKey => exact trivial
  | setStatus execId status fields => exact trivial
  | listBySession sessionId status => exact trivial

omit [DecidableEq κ] in
theorem identities_change {execId : UUID} {f : ExecRecord → ExecRecord}
    (hf : ∀ r, (f r).execId = r.execId)
    (hf' : ∀ r, (f r).idempotencyKey = r.idempotencyKey) :
    (store.change execId f hf hf').identities = store.identities := by
  show List.map _ (List.map _ _) = _
  rw [identities, List.map_map]
  refine List.map_congr_left fun r _ ↦ ?_
  show identity (if r.execId = execId then f r else r) = identity r
  split
  · exact Prod.ext (hf r) (hf' r)
  · rfl

omit [DecidableEq κ] in
theorem identities_insert (h : store.Admits record) :
    (store.insert record h).identities = store.identities ++ [identity record] := by
  show List.map _ (_ ++ [record]) = _
  rw [List.map_append]
  rfl

omit [DecidableEq κ] in
/-- A record that the constraints refuse. -/
theorem exists_taken (h : ¬ store.Admits record) :
    ∃ other ∈ store.identities, Taken record other := by
  rw [Admits, Classical.not_and_iff_not_or_not, not_not] at h
  rcases h with hid | hkey
  · obtain ⟨row, hrow, hid⟩ := List.mem_map.mp hid
    exact ⟨identity row, List.mem_map_of_mem hrow, .inl hid⟩
  · push Not at hkey
    obtain ⟨key, hkey, hthere⟩ := hkey
    obtain ⟨row, hrow, hrowkey⟩ := mem_keysOf.mp hthere
    exact ⟨identity row, List.mem_map_of_mem hrow, .inr ⟨key, hkey, hrowkey⟩⟩

/-- What the next statement of a call does: it puts a record, or it leaves the ids and the keys
and does not say that it put one. -/
inductive Effect (store : SqlAlchemyExecStore) (call : ExecCall) :
    TxPoint → SqlAlchemyExecStore → Prop
  | put {record : ExecRecord} (h : store.Admits record) : call = .putIfAbsent record →
      Effect store call (.returned (some (.put record true))) (store.insert record h)
  | keep {point' : TxPoint} {store' : SqlAlchemyExecStore} :
      store'.identities = store.identities →
      (∀ reply, point' = .returned reply → Accounted store.identities call reply ∧
        ∀ record, reply ≠ some (.put record true)) →
      Effect store call point' store'

omit [DecidableEq κ] in
/-- A call returns without an effect. -/
theorem Effect.of_returned {call : ExecCall} {reply : Option ExecReply}
    (h : Accounted store.identities call reply) (hnew : ∀ record, reply ≠ some (.put record true)) :
    Effect store call (.returned reply) store := by
  refine .keep rfl fun reply' hreply ↦ ?_
  obtain rfl := TxPoint.returned.inj hreply
  exact ⟨h, hnew⟩

omit [DecidableEq κ] in
theorem Effect.of_existing {existing : ExecRecord} (h : existing ∈ store.table.rows)
    (htaken : Taken record (identity existing)) :
    Effect store (.putIfAbsent record) (.returned (some (.put existing false))) store :=
  .of_returned ⟨List.mem_map_of_mem h, htaken⟩ fun _ h ↦ by cases h

omit [DecidableEq κ] in
theorem effect_nextById (record : ExecRecord) (store : SqlAlchemyExecStore) :
    Effect store (.putIfAbsent record) (nextById record store).1 (nextById record store).2 := by
  rw [nextById]
  cases hid : store.table.find record.execId with
  | none => exact .keep rfl fun _ h ↦ by cases h
  | some existing =>
      obtain ⟨hmem, hid⟩ := Table.find_eq_some_iff.mp hid
      exact .of_existing hmem (.inl hid)

omit [DecidableEq κ] in
theorem effect_insertRow (record : ExecRecord) (store : SqlAlchemyExecStore) :
    Effect store (.putIfAbsent record) (.returned (store.insertRow record).2)
      (store.insertRow record).1 := by
  rw [insertRow]
  split
  · rename_i h
    exact .put h rfl
  · rename_i h
    exact .of_returned (exists_taken h) fun _ h ↦ by cases h

omit [DecidableEq κ] in
theorem effect_of_next {call : ExecCall} (h : store.next call point = some (point', store')) :
    Effect store call point' store' := by
  suffices hmove : ∀ x, store.Move call point x → Effect store call x.1 x.2 from
    hmove _ (move_of_next h)
  intro x hmove
  cases hmove with
  | keyFound hkey hselect =>
      obtain ⟨hmem, hrowkey⟩ := selectKey_eq_some_iff.mp hselect
      rw [nonempty, Option.filter_eq_some_iff] at hkey
      exact .of_existing hmem (.inr ⟨_, hkey.1, hrowkey⟩)
  | keyless _ | byId => exact effect_nextById _ store
  | insert => exact effect_insertRow _ store
  | keyFree _ _ | goneOn _ | read _ => exact .keep rfl fun _ h ↦ by cases h
  | gotById _ | gotNothing _ _ | gotByKey _ | missing _ | listed =>
      exact .of_returned trivial fun _ h ↦ by cases h
  | @update execId status fields read =>
      have hsame : (store.change execId (read.flush (read.withStatus status fields))
          (fun _ ↦ rfl) fun _ ↦ rfl).identities = store.identities := identities_change _ _
      refine .keep hsame fun reply hreply ↦ ?_
      obtain rfl := TxPoint.returned.inj hreply
      exact ⟨trivial, fun _ h ↦ by cases h⟩

/-- The records that calls have put, each with its call. -/
structure Puts (initial : List (UUID × Option String))
    (p : Points κ TxPoint SqlAlchemyExecStore) (puts : List (κ × ExecRecord)) : Prop where
  nodup : (puts.map Prod.fst).Nodup
  mem_iff : ∀ i record, (i, record) ∈ puts ↔ p.points i = .returned (some (.put record true))
  identities : p.server.identities = initial ++ puts.map fun put ↦ identity put.2

/-- What is there is what was there and what was put, and the calls have told. -/
structure Told (calls : κ → ExecCall) (initial : List (UUID × Option String))
    (p : Points κ TxPoint SqlAlchemyExecStore) : Prop where
  puts : ∃ puts, Puts initial p puts
  accounted : ∀ i reply, p.points i = .returned reply →
    Accounted p.server.identities (calls i) reply

theorem Told.step {initial : List (UUID × Option String)} (h : Told calls initial p)
    (hstep : (outline calls).step p a = some q) : Told calls initial q := by
  obtain ⟨point', store', hnext, rfl⟩ := Outline.exists_move hstep
  have hopen : ∀ reply, p.points a.1 ≠ .returned reply := by
    intro reply hreply
    rw [hreply] at hnext
    cases (next_returned (calls a.1)).symm.trans hnext
  obtain ⟨puts, hputs⟩ := h.puts
  have hall : ∀ {there}, p.server.identities ⊆ there →
      (∀ reply, point' = .returned reply → Accounted there (calls a.1) reply) →
      ∀ i reply, (p.move a.1 point' store').points i = .returned reply →
        Accounted there (calls i) reply := by
    intro there hsub hreply i reply hi
    by_cases hia : i = a.1
    · subst hia
      rw [Points.points_move_self] at hi
      exact hreply reply hi
    · rw [Points.points_move_of_ne hia] at hi
      exact (h.accounted i reply hi).mono hsub
  cases effect_of_next hnext with
  | keep hsame hreply =>
      refine ⟨⟨puts, hputs.nodup, fun i record ↦ (hputs.mem_iff i record).trans (Iff.symm ?_), ?_⟩,
        ?_⟩
      · by_cases hia : i = a.1
        · subst hia
          rw [Points.points_move_self]
          exact iff_of_false (fun h ↦ (hreply _ h).2 record rfl) (hopen _)
        · rw [Points.points_move_of_ne hia]
      · exact hsame.trans hputs.identities
      · show ∀ i reply, _ → Accounted store'.identities (calls i) reply
        rw [hsame]
        exact hall (List.Subset.refl _) fun reply h ↦ (hreply reply h).1
  | put hadmits hcall =>
      rename_i record
      have hnew := identities_insert hadmits
      have hfresh : a.1 ∉ puts.map Prod.fst := by
        intro hmem
        obtain ⟨⟨_, other⟩, hput, rfl⟩ := List.mem_map.mp hmem
        exact hopen _ ((hputs.mem_iff _ other).mp hput)
      refine ⟨⟨puts ++ [(a.1, record)], ?_, fun i other ↦ ?_, ?_⟩, ?_⟩
      · rw [List.map_append]
        exact hputs.nodup.append (List.nodup_singleton _) (List.disjoint_singleton.mpr hfresh)
      · rw [List.mem_append, List.mem_singleton, hputs.mem_iff, Prod.mk.injEq]
        by_cases hia : i = a.1
        · subst hia
          rw [Points.points_move_self]
          constructor
          · rintro (hput | ⟨-, rfl⟩)
            · exact absurd hput (hopen _)
            · rfl
          · intro hput
            cases hput
            exact .inr ⟨rfl, rfl⟩
        · rw [Points.points_move_of_ne hia]
          exact or_iff_left fun h ↦ hia h.1
      · rw [Points.server_move, hnew, hputs.identities, List.map_append, List.append_assoc]
        rfl
      · rw [Points.server_move, hnew]
        refine hall (List.subset_append_left _ _) fun reply hreply ↦ ?_
        obtain rfl := TxPoint.returned.inj hreply
        rw [hcall]
        exact ⟨rfl, List.mem_append_right _ List.mem_cons_self⟩

omit [DecidableEq κ] in
theorem told_begun (calls : κ → ExecCall) (store : SqlAlchemyExecStore) :
    Told calls store.identities (begun calls store) := by
  have hstart : ∀ i reply, start (calls i) = .returned reply →
      reply = some (.record none) ∧ Accounted store.identities (calls i) reply := by
    intro i reply h
    cases hcall : calls i with
    | putIfAbsent record =>
        rw [hcall, start] at h
        split at h <;> cases h
    | get execId idempotencyKey =>
        rw [hcall] at h
        cases execId with
        | some execId => cases h
        | none =>
            rw [start] at h
            split at h
            · cases h
              exact ⟨rfl, trivial⟩
            · cases h
    | setStatus execId status fields =>
        rw [hcall] at h
        cases h
    | listBySession sessionId status =>
        rw [hcall] at h
        cases h
  refine ⟨⟨[], List.nodup_nil, fun i record ↦ ?_, (List.append_nil _).symm⟩,
    fun i reply h ↦ (hstart i reply h).2⟩
  refine iff_of_false List.not_mem_nil fun h ↦ ?_
  cases (hstart i _ h).1

omit [DecidableEq κ] in
/-- The constraints of the table are those of what was put. -/
theorem Puts.distinct {initial : List (UUID × Option String)} {puts : List (κ × ExecRecord)}
    (h : Puts initial p puts) :
    (puts.map fun put ↦ put.2.execId).Nodup ∧ (keysOf (puts.map Prod.snd)).Nodup := by
  have hids : p.server.table.rows.map ExecRecord.execId = p.server.identities.map Prod.fst := by
    rw [SqlAlchemyExecStore.identities, List.map_map]
    rfl
  have hkeys : keysOf p.server.table.rows = p.server.identities.filterMap Prod.snd := by
    rw [SqlAlchemyExecStore.identities, List.filterMap_map]
    rfl
  constructor
  · have hnodup := p.server.table.nodup
    rw [hids, h.identities, List.map_append, List.map_map] at hnodup
    exact hnodup.of_append_right
  · have hnodup := p.server.unique
    rw [hkeys, h.identities, List.filterMap_append, List.filterMap_map] at hnodup
    rw [keysOf, List.filterMap_map]
    exact hnodup.of_append_right

/-- Some calls to the store, each in a transaction.  In every run of their statements, overtaken
or not, the ids and the keys in the table are those from before and those of the records that
calls have put, each put by one call; no two of these have an id or a key in common; and a call
that puts nothing returns a record of its id or key that is there, or the constraints refuse it
for one. -/
theorem created_once {as : List (κ × Unit)}
    {x : ProgPool κ Unit SqlAlchemyExecStore (Option ExecReply)}
    (h : Run (Step.graph ProgPool.issue) { server := store, progs := fun i ↦ tx (calls i) } as x) :
    ∃ p, x = (outline calls).pool p ∧
      (∃ puts, Puts store.identities p puts ∧ (puts.map fun put ↦ put.2.execId).Nodup ∧
        (keysOf (puts.map Prod.snd)).Nodup) ∧
      ∀ i reply, p.points i = .returned reply →
        Accounted p.server.identities (calls i) reply := by
  rw [← pool_begun] at h
  obtain ⟨p, hrun, rfl⟩ := (outline calls).run_pool.mp h
  have htold := hrun.invariant (fun _ _ _ htold hstep ↦ htold.step hstep) (told_begun calls store)
  obtain ⟨puts, hputs⟩ := htold.puts
  exact ⟨p, rfl, ⟨puts, hputs, hputs.distinct⟩, htold.accounted⟩

theorem created_once_sample :
    ∃ x : ProgPool Bool Unit SqlAlchemyExecStore (Option ExecReply),
      ∃ p, x = (outline samplePuts).pool p ∧
        (∃ puts, Puts (identities {}) p puts ∧ (puts.map fun put ↦ put.2.execId).Nodup ∧
          (keysOf (puts.map Prod.snd)).Nodup) ∧
        ∀ i reply, p.points i = .returned reply →
          Accounted p.server.identities (samplePuts i) reply :=
  ⟨_, @created_once _ samplePuts {} _ sampleOrder _ (Run.graph_iff.mpr rfl)⟩

end

end SqlAlchemyExecStore

end SemanticBus
