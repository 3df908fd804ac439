import SemanticBus.Data.Dict
import SemanticBus.Data.Run
import SemanticBus.Storage.Ports

/-!
# The session stores

Two adapters of the session port: records in memory, and rows of a table.  The
converters lose nothing (`toRecord_ofRecord`), and every operation does the same to a
record and to its row, but for two: `update` leaves eight columns of the row as they are, and
`expire_before`, where a deadline is no date and computing it raises, keeps what it has marked of
the records so far, and rolls back what it has marked of the rows.  So the two give the same
records as long as no update changes one of these columns and no `expire_before` is cut short
(`gets_eq_iff`).
-/

namespace SemanticBus

inductive SessionStoreCall where
  | create (record : SessionRecord)
  | update (record : SessionRecord)
  | addOffer (sessionId : UUID) (offer : JsonObj)
  | selectOffer (sessionId : UUID) (offerId : String) (providerAgentId : UUID)
      (providerConnId : String) (chosenSchemaId chosenViewId : Option String)
  | close (sessionId : UUID) (reason : Option String)
  | expireBefore (cutoff : Time)

/-- What a call to a session store returns, or raises. -/
inductive SessionStoreReply where
  | record (record : Option SessionRecord)
  | expired (count : Nat)
  /-- `NotFoundError`. -/
  | notFound
  /-- `OverflowError`. -/
  | overflow

/-! ## In memory -/

structure InMemorySessionStore where
  sessions : Dict UUID SessionRecord := ∅

namespace InMemorySessionStore

def get (store : InMemorySessionStore) (sessionId : UUID) : Option SessionRecord :=
  store.sessions.get? sessionId

/-- Create a new session, unless there is one. -/
def create (store : InMemorySessionStore) (record : SessionRecord) :
    InMemorySessionStore × SessionStoreReply :=
  match store.sessions.get? record.ephemeralInterfaceId with
  | some existing => (store, .record (some existing))
  | none =>
      ({ sessions := store.sessions.insert record.ephemeralInterfaceId record },
        .record (some record))

def update (store : InMemorySessionStore) (record : SessionRecord) :
    InMemorySessionStore × SessionStoreReply :=
  match store.sessions.get? record.ephemeralInterfaceId with
  | none => (store, .notFound)
  | some _ =>
      ({ sessions := store.sessions.insert record.ephemeralInterfaceId record },
        .record (some record))

/-- Change the record of a session in place, and return it. -/
def change (store : InMemorySessionStore) (sessionId : UUID)
    (f : SessionRecord → SessionRecord) : InMemorySessionStore × SessionStoreReply :=
  match store.sessions.get? sessionId with
  | none => (store, .record none)
  | some record =>
      ({ sessions := store.sessions.insert sessionId (f record) }, .record (some (f record)))

def addOffer (store : InMemorySessionStore) (sessionId : UUID) (offer : JsonObj) :
    InMemorySessionStore × SessionStoreReply :=
  store.change sessionId fun record ↦ { record with offers := record.offers ++ [offer] }

def selectOffer (store : InMemorySessionStore) (now : Time) (sessionId : UUID) (offerId : String)
    (providerAgentId : UUID) (providerConnId : String)
    (chosenSchemaId chosenViewId : Option String) : InMemorySessionStore × SessionStoreReply :=
  store.change sessionId fun record ↦
    { record with
      status := "active"
      chosenOfferId := some offerId
      providerAgentId := some providerAgentId
      providerConnId := some providerConnId
      chosenSchemaId := chosenSchemaId
      chosenViewId := chosenViewId
      activatedAt := some now }

def close (store : InMemorySessionStore) (now : Time) (sessionId : UUID)
    (reason : Option String) : InMemorySessionStore × SessionStoreReply :=
  store.change sessionId fun record ↦
    let record := { record with status := "closed", closedAt := some now }
    match nonempty reason with
    | none => record
    | some reason =>
        { record with metadata := JsonObj.set record.metadata "close_reason" (.str reason) }

/-- Whether a session should have ended before a cutoff. -/
def lapsed (cutoff : Time) (record : SessionRecord) : Bool :=
  if record.status = "negotiating" then
    record.createdAt + Time.seconds record.negotiationTtlSeconds < cutoff
  else if record.status = "active" then
    match record.activatedAt with
    | none => false
    | some activatedAt => activatedAt + Time.seconds record.sessionTtlSeconds < cutoff
  else false

/-- Whether computing the deadline of a session raises, as it is no date. -/
def raises (record : SessionRecord) : Bool :=
  if record.status = "negotiating" then
    ¬ (record.createdAt + Time.seconds record.negotiationTtlSeconds).IsDate
  else if record.status = "active" then
    match record.activatedAt with
    | none => false
    | some activatedAt => ¬ (activatedAt + Time.seconds record.sessionTtlSeconds).IsDate
  else false

/-- Whether the loop of `expire_before` gets past the session with an id. -/
def reaches (store : InMemorySessionStore) (sessionId : UUID) : Bool :=
  store.sessions.reaches (fun record ↦ raises record = false) sessionId

/-- Expire the sessions that should have ended before the cutoff, up to the first that raises. -/
def expireBefore (store : InMemorySessionStore) (now cutoff : Time) :
    InMemorySessionStore × SessionStoreReply :=
  ({ sessions := store.sessions.map fun sessionId record ↦
      if store.reaches sessionId ∧ lapsed cutoff record then
        { record with status := "expired", closedAt := some now }
      else record },
    if store.sessions.values.any raises then .overflow
    else .expired (store.sessions.values.filter (lapsed cutoff)).length)

def exec (store : InMemorySessionStore) (now : Time) :
    SessionStoreCall → InMemorySessionStore × SessionStoreReply
  | .create record => store.create record
  | .update record => store.update record
  | .addOffer sessionId offer => store.addOffer sessionId offer
  | .selectOffer sessionId offerId providerAgentId providerConnId chosenSchemaId chosenViewId =>
      store.selectOffer now sessionId offerId providerAgentId providerConnId chosenSchemaId
        chosenViewId
  | .close sessionId reason => store.close now sessionId reason
  | .expireBefore cutoff => store.expireBefore now cutoff

/-- The store after some calls. -/
def after (calls : List (Time × SessionStoreCall)) : InMemorySessionStore :=
  calls.foldl (fun store call ↦ (store.exec call.1 call.2).1) {}

end InMemorySessionStore

/-! ## Over SQL -/

structure SessionModel where
  ephemeralInterfaceId : UUID
  tenantId : String
  requesterAgentId : UUID
  requesterConnId : String
  providerAgentId : Option UUID
  providerConnId : Option String
  intentMessageId : UUID
  intentData : JsonObj
  status : String
  offers : List JsonObj
  chosenOfferId : Option String
  chosenSchemaId : Option String
  chosenViewId : Option String
  createdAt : Time
  activatedAt : Option Time
  closedAt : Option Time
  negotiationTtlSeconds : Int
  sessionTtlSeconds : Int
  metadataJson : JsonObj

def sessionModelToRecord (model : SessionModel) : SessionRecord where
  ephemeralInterfaceId := model.ephemeralInterfaceId
  tenantId := model.tenantId
  requesterAgentId := model.requesterAgentId
  requesterConnId := model.requesterConnId
  providerAgentId := model.providerAgentId
  providerConnId := model.providerConnId
  intentMessageId := model.intentMessageId
  intentData := model.intentData
  status := model.status
  offers := model.offers
  chosenOfferId := model.chosenOfferId
  chosenSchemaId := model.chosenSchemaId
  chosenViewId := model.chosenViewId
  createdAt := model.createdAt
  activatedAt := model.activatedAt
  closedAt := model.closedAt
  negotiationTtlSeconds := model.negotiationTtlSeconds
  sessionTtlSeconds := model.sessionTtlSeconds
  metadata := model.metadataJson

def sessionRecordToModel (record : SessionRecord) : SessionModel where
  ephemeralInterfaceId := record.ephemeralInterfaceId
  tenantId := record.tenantId
  requesterAgentId := record.requesterAgentId
  requesterConnId := record.requesterConnId
  providerAgentId := record.providerAgentId
  providerConnId := record.providerConnId
  intentMessageId := record.intentMessageId
  intentData := record.intentData
  status := record.status
  offers := record.offers
  chosenOfferId := record.chosenOfferId
  chosenSchemaId := record.chosenSchemaId
  chosenViewId := record.chosenViewId
  createdAt := record.createdAt
  activatedAt := record.activatedAt
  closedAt := record.closedAt
  negotiationTtlSeconds := record.negotiationTtlSeconds
  sessionTtlSeconds := record.sessionTtlSeconds
  metadataJson := record.metadata

structure SqlAlchemySessionStore where
  rows : Dict UUID SessionModel := ∅

namespace SqlAlchemySessionStore

def get (store : SqlAlchemySessionStore) (sessionId : UUID) : Option SessionRecord :=
  (store.rows.get? sessionId).map sessionModelToRecord

/-- Create a new session, unless there is one. -/
def create (store : SqlAlchemySessionStore) (record : SessionRecord) :
    SqlAlchemySessionStore × SessionStoreReply :=
  match store.rows.get? record.ephemeralInterfaceId with
  | some existing => (store, .record (some (sessionModelToRecord existing)))
  | none =>
      ({ rows := store.rows.insert record.ephemeralInterfaceId (sessionRecordToModel record) },
        .record (some record))

def update (store : SqlAlchemySessionStore) (record : SessionRecord) :
    SqlAlchemySessionStore × SessionStoreReply :=
  match store.rows.get? record.ephemeralInterfaceId with
  | none => (store, .notFound)
  | some existing =>
      ({ rows := store.rows.insert record.ephemeralInterfaceId
          { existing with
            status := record.status
            providerAgentId := record.providerAgentId
            providerConnId := record.providerConnId
            offers := record.offers
            chosenOfferId := record.chosenOfferId
            chosenSchemaId := record.chosenSchemaId
            chosenViewId := record.chosenViewId
            activatedAt := record.activatedAt
            closedAt := record.closedAt
            metadataJson := record.metadata } },
        .record (some record))

/-- Change the row of a session, and return its record. -/
def change (store : SqlAlchemySessionStore) (sessionId : UUID) (f : SessionModel → SessionModel) :
    SqlAlchemySessionStore × SessionStoreReply :=
  match store.rows.get? sessionId with
  | none => (store, .record none)
  | some model =>
      ({ rows := store.rows.insert sessionId (f model) },
        .record (some (sessionModelToRecord (f model))))

def addOffer (store : SqlAlchemySessionStore) (sessionId : UUID) (offer : JsonObj) :
    SqlAlchemySessionStore × SessionStoreReply :=
  store.change sessionId fun model ↦ { model with offers := model.offers ++ [offer] }

def selectOffer (store : SqlAlchemySessionStore) (now : Time) (sessionId : UUID)
    (offerId : String) (providerAgentId : UUID) (providerConnId : String)
    (chosenSchemaId chosenViewId : Option String) : SqlAlchemySessionStore × SessionStoreReply :=
  store.change sessionId fun model ↦
    { model with
      status := "active"
      chosenOfferId := some offerId
      providerAgentId := some providerAgentId
      providerConnId := some providerConnId
      chosenSchemaId := chosenSchemaId
      chosenViewId := chosenViewId
      activatedAt := some now }

def close (store : SqlAlchemySessionStore) (now : Time) (sessionId : UUID)
    (reason : Option String) : SqlAlchemySessionStore × SessionStoreReply :=
  store.change sessionId fun model ↦
    let model := { model with status := "closed", closedAt := some now }
    match nonempty reason with
    | none => model
    | some reason =>
        { model with
          metadataJson := JsonObj.set model.metadataJson "close_reason" (.str reason) }

/-- Whether the row of a session that is negotiating or active should have ended before
a cutoff. -/
def lapsed (cutoff : Time) (model : SessionModel) : Bool :=
  if model.status = "negotiating" then
    model.createdAt + Time.seconds model.negotiationTtlSeconds < cutoff
  else match model.activatedAt with
    | none => false
    | some activatedAt => activatedAt + Time.seconds model.sessionTtlSeconds < cutoff

/-- The rows that `expire_before` selects. -/
def selected (model : SessionModel) : Bool := model.status ∈ ["negotiating", "active"]

/-- Whether computing the deadline of such a row raises. -/
def raises (model : SessionModel) : Bool :=
  if model.status = "negotiating" then
    ¬ (model.createdAt + Time.seconds model.negotiationTtlSeconds).IsDate
  else match model.activatedAt with
    | none => false
    | some activatedAt => ¬ (activatedAt + Time.seconds model.sessionTtlSeconds).IsDate

/-- Expire the sessions that should have ended before the cutoff, in one transaction, which is
rolled back if it raises. -/
def expireBefore (store : SqlAlchemySessionStore) (now cutoff : Time) :
    SqlAlchemySessionStore × SessionStoreReply :=
  if (store.rows.values.filter selected).any raises then (store, .overflow)
  else
    ({ rows := store.rows.map fun _ model ↦
        if selected model && lapsed cutoff model then
          { model with status := "expired", closedAt := some now }
        else model },
      .expired ((store.rows.values.filter selected).filter (lapsed cutoff)).length)

def exec (store : SqlAlchemySessionStore) (now : Time) :
    SessionStoreCall → SqlAlchemySessionStore × SessionStoreReply
  | .create record => store.create record
  | .update record => store.update record
  | .addOffer sessionId offer => store.addOffer sessionId offer
  | .selectOffer sessionId offerId providerAgentId providerConnId chosenSchemaId chosenViewId =>
      store.selectOffer now sessionId offerId providerAgentId providerConnId chosenSchemaId
        chosenViewId
  | .close sessionId reason => store.close now sessionId reason
  | .expireBefore cutoff => store.expireBefore now cutoff

/-- The store after some calls. -/
def after (calls : List (Time × SessionStoreCall)) : SqlAlchemySessionStore :=
  calls.foldl (fun store call ↦ (store.exec call.1 call.2).1) {}

end SqlAlchemySessionStore

/-! ## The same records -/

theorem toRecord_ofRecord (record : SessionRecord) :
    sessionModelToRecord (sessionRecordToModel record) = record := rfl

/-- The record has the values of another one in the columns that `update` leaves alone. -/
structure SessionRecord.SameFixed (stored record : SessionRecord) : Prop where
  tenantId : record.tenantId = stored.tenantId
  requesterAgentId : record.requesterAgentId = stored.requesterAgentId
  requesterConnId : record.requesterConnId = stored.requesterConnId
  intentMessageId : record.intentMessageId = stored.intentMessageId
  intentData : record.intentData = stored.intentData
  createdAt : record.createdAt = stored.createdAt
  negotiationTtlSeconds : record.negotiationTtlSeconds = stored.negotiationTtlSeconds
  sessionTtlSeconds : record.sessionTtlSeconds = stored.sessionTtlSeconds

/-- A record is determined by these columns and by the ones that `update` sets. -/
theorem SessionRecord.SameFixed.eq_of_rest {stored record record' : SessionRecord}
    (h : stored.SameFixed record)
    (hid : stored.ephemeralInterfaceId = record.ephemeralInterfaceId)
    (hrest : { stored with
        providerAgentId := record.providerAgentId
        providerConnId := record.providerConnId
        status := record.status
        offers := record.offers
        chosenOfferId := record.chosenOfferId
        chosenSchemaId := record.chosenSchemaId
        chosenViewId := record.chosenViewId
        activatedAt := record.activatedAt
        closedAt := record.closedAt
        metadata := record.metadata } = record') : record = record' := by
  rw [← hrest, hid, ← h.tenantId, ← h.requesterAgentId, ← h.requesterConnId, ← h.intentMessageId,
    ← h.intentData, ← h.createdAt, ← h.negotiationTtlSeconds, ← h.sessionTtlSeconds]

def SqlAlchemySessionStore.Keyed (sql : SqlAlchemySessionStore) : Prop :=
  ∀ sessionId model, sql.rows.get? sessionId = some model → model.ephemeralInterfaceId = sessionId

/-- The two stores return the same records. -/
def SameSessions (memory : InMemorySessionStore) (sql : SqlAlchemySessionStore) : Prop :=
  ∀ sessionId, memory.get sessionId = sql.get sessionId

/-- The call, if it is an update of a stored session, keeps the columns that `update` leaves
alone, and if it is an `expire_before` it does not raise after it has marked a session. -/
def KeepsSame (memory : InMemorySessionStore) : SessionStoreCall → Prop
  | .update record => ∀ stored, memory.get record.ephemeralInterfaceId = some stored →
      stored.SameFixed record
  | .expireBefore cutoff =>
      (∀ sessionId record, memory.get sessionId = some record →
        InMemorySessionStore.raises record = false) ∨
      ∀ sessionId record, memory.get sessionId = some record → memory.reaches sessionId = true →
        InMemorySessionStore.lapsed cutoff record = false
  | _ => True

section Steps

variable {memory : InMemorySessionStore} {sql : SqlAlchemySessionStore} {now : Time}
  {call : SessionStoreCall} {sessionId : UUID}

/-- The same change of a record and of its row. -/
theorem SameSessions.change (h : SameSessions memory sql) {f : SessionRecord → SessionRecord}
    {g : SessionModel → SessionModel}
    (hfg : ∀ model, f (sessionModelToRecord model) = sessionModelToRecord (g model)) :
    SameSessions (memory.change sessionId f).1 (sql.change sessionId g).1 := by
  have hid := h sessionId
  rw [InMemorySessionStore.get, SqlAlchemySessionStore.get] at hid
  intro j
  unfold InMemorySessionStore.change SqlAlchemySessionStore.change
  cases hmodel : sql.rows.get? sessionId with
  | none =>
      rw [hmodel, Option.map_none] at hid
      rw [hid]
      exact h j
  | some model =>
      rw [hmodel, Option.map_some] at hid
      rw [hid]
      show (Dict.insert _ _ _).get? j = ((Dict.insert _ _ _).get? j).map _
      rw [Dict.get?_insert, Dict.get?_insert]
      split
      · rw [hfg, Option.map_some]
      · exact h j

theorem SameSessions.create (h : SameSessions memory sql) (record : SessionRecord) :
    SameSessions (memory.create record).1 (sql.create record).1 := by
  have hid := h record.ephemeralInterfaceId
  rw [InMemorySessionStore.get, SqlAlchemySessionStore.get] at hid
  intro j
  unfold InMemorySessionStore.create SqlAlchemySessionStore.create
  cases hmodel : sql.rows.get? record.ephemeralInterfaceId with
  | some model =>
      rw [hmodel, Option.map_some] at hid
      rw [hid]
      exact h j
  | none =>
      rw [hmodel, Option.map_none] at hid
      rw [hid]
      show (Dict.insert _ _ _).get? j = ((Dict.insert _ _ _).get? j).map _
      rw [Dict.get?_insert, Dict.get?_insert]
      split
      · rfl
      · exact h j

/-- Updates agree when they keep the columns that one of them leaves alone, and only then. -/
theorem SameSessions.update_iff (h : SameSessions memory sql) (hkeyed : sql.Keyed)
    (record : SessionRecord) :
    SameSessions (memory.update record).1 (sql.update record).1 ↔
      KeepsSame memory (.update record) := by
  have hid := h record.ephemeralInterfaceId
  unfold InMemorySessionStore.update SqlAlchemySessionStore.update
  cases hmodel : sql.rows.get? record.ephemeralInterfaceId with
  | none =>
      rw [SqlAlchemySessionStore.get, hmodel, Option.map_none] at hid
      rw [show memory.sessions.get? record.ephemeralInterfaceId = none from hid]
      refine iff_of_true h fun stored hstored ↦ ?_
      rw [hid] at hstored
      cases hstored
  | some model =>
      rw [SqlAlchemySessionStore.get, hmodel, Option.map_some] at hid
      rw [show memory.sessions.get? record.ephemeralInterfaceId = _ from hid]
      constructor
      · intro hsame stored hstored
        obtain rfl := Option.some.inj (hid.symm.trans hstored)
        have heq := hsame record.ephemeralInterfaceId
        rw [InMemorySessionStore.get, SqlAlchemySessionStore.get, Dict.get?_insert_self,
          Dict.get?_insert_self, Option.map_some] at heq
        have hrecord := Option.some.inj heq
        exact
          { tenantId := (congrArg SessionRecord.tenantId hrecord :)
            requesterAgentId := (congrArg SessionRecord.requesterAgentId hrecord :)
            requesterConnId := (congrArg SessionRecord.requesterConnId hrecord :)
            intentMessageId := (congrArg SessionRecord.intentMessageId hrecord :)
            intentData := (congrArg SessionRecord.intentData hrecord :)
            createdAt := (congrArg SessionRecord.createdAt hrecord :)
            negotiationTtlSeconds := (congrArg SessionRecord.negotiationTtlSeconds hrecord :)
            sessionTtlSeconds := (congrArg SessionRecord.sessionTtlSeconds hrecord :) }
      · intro hkeeps j
        have hfixed := hkeeps _ hid
        show (Dict.insert _ _ _).get? j = ((Dict.insert _ _ _).get? j).map _
        rw [Dict.get?_insert, Dict.get?_insert]
        split
        · exact congrArg some (hfixed.eq_of_rest (hkeyed _ _ hmodel) rfl)
        · exact h j

/-- The two stores end the same sessions. -/
theorem lapsed_eq (cutoff : Time) (model : SessionModel) :
    InMemorySessionStore.lapsed cutoff (sessionModelToRecord model)
      = (SqlAlchemySessionStore.selected model && SqlAlchemySessionStore.lapsed cutoff model) := by
  show (if model.status = "negotiating" then _ else _) = _
  unfold SqlAlchemySessionStore.selected SqlAlchemySessionStore.lapsed
  by_cases hneg : model.status = "negotiating"
  · rw [if_pos hneg, if_pos hneg, hneg]
    rfl
  · rw [if_neg hneg, if_neg hneg]
    by_cases hactive : model.status = "active"
    · show (if model.status = "active" then _ else _) = _
      rw [if_pos hactive, hactive]
      rfl
    · show (if model.status = "active" then _ else _) = _
      have hnot : (decide (model.status ∈ ["negotiating", "active"])) = false := by
        rw [decide_eq_false_iff_not, List.mem_pair]
        exact not_or_intro hneg hactive
      rw [if_neg hactive, hnot, Bool.false_and]

/-- The two stores raise at the same sessions. -/
theorem raises_eq (model : SessionModel) :
    InMemorySessionStore.raises (sessionModelToRecord model)
      = (SqlAlchemySessionStore.selected model && SqlAlchemySessionStore.raises model) := by
  show (if model.status = "negotiating" then _ else _) = _
  unfold SqlAlchemySessionStore.selected SqlAlchemySessionStore.raises
  by_cases hneg : model.status = "negotiating"
  · rw [if_pos hneg, if_pos hneg, hneg]
    rfl
  · rw [if_neg hneg, if_neg hneg]
    by_cases hactive : model.status = "active"
    · show (if model.status = "active" then _ else _) = _
      rw [if_pos hactive, hactive]
      rfl
    · show (if model.status = "active" then _ else _) = _
      have hnot : (decide (model.status ∈ ["negotiating", "active"])) = false := by
        rw [decide_eq_false_iff_not, List.mem_pair]
        exact not_or_intro hneg hactive
      rw [if_neg hactive, hnot, Bool.false_and]

/-- A session that should have ended is not marked as expired. -/
theorem InMemorySessionStore.status_ne_of_lapsed {cutoff : Time} {record : SessionRecord}
    (h : lapsed cutoff record = true) : record.status ≠ "expired" := by
  intro hexpired
  rw [lapsed, hexpired, if_neg (by decide), if_neg (by decide)] at h
  cases h

/-- The store over SQL raises exactly when one of its records does. -/
theorem SqlAlchemySessionStore.any_raises (sql : SqlAlchemySessionStore) :
    (sql.rows.values.filter selected).any raises = true ↔
      ∃ sessionId record, sql.get sessionId = some record ∧
        InMemorySessionStore.raises record = true := by
  simp only [List.any_filter, List.any_eq_true, Dict.mem_values_iff]
  constructor
  · rintro ⟨model, ⟨sessionId, hmodel⟩, hraises⟩
    refine ⟨sessionId, sessionModelToRecord model, ?_, (raises_eq model).trans hraises⟩
    rw [SqlAlchemySessionStore.get, hmodel, Option.map_some]
  · rintro ⟨sessionId, record, hrecord, hraises⟩
    obtain ⟨model, hmodel, rfl⟩ := Option.map_eq_some_iff.mp hrecord
    exact ⟨model, ⟨sessionId, hmodel⟩, (raises_eq model).symm.trans hraises⟩

theorem InMemorySessionStore.get_expireBefore (memory : InMemorySessionStore) (now cutoff : Time)
    (sessionId : UUID) :
    (memory.expireBefore now cutoff).1.get sessionId = (memory.get sessionId).map fun record ↦
      if memory.reaches sessionId ∧ lapsed cutoff record then
        { record with status := "expired", closedAt := some now }
      else record := Dict.get?_map _ _ _

/-- When nothing raises, both expire the same sessions. -/
theorem SameSessions.expire_all (h : SameSessions memory sql) (now cutoff : Time)
    (hdated : ∀ sessionId record, memory.get sessionId = some record →
      InMemorySessionStore.raises record = false) :
    SameSessions (memory.expireBefore now cutoff).1 (sql.expireBefore now cutoff).1 := by
  have hnone : ¬ (sql.rows.values.filter SqlAlchemySessionStore.selected).any
      SqlAlchemySessionStore.raises = true := by
    rw [sql.any_raises]
    rintro ⟨sessionId, record, hrecord, hraises⟩
    cases (hdated sessionId record ((h sessionId).trans hrecord)).symm.trans hraises
  intro j
  have hj := h j
  rw [SqlAlchemySessionStore.get] at hj
  rw [SqlAlchemySessionStore.expireBefore, if_neg hnone, InMemorySessionStore.get_expireBefore,
    SqlAlchemySessionStore.get, Dict.get?_map, hj, Option.map_map, Option.map_map]
  cases hmodel : sql.rows.get? j with
  | none => rfl
  | some model =>
      have hget : memory.sessions.get? j = some (sessionModelToRecord model) := by
        rw [hmodel, Option.map_some] at hj
        exact hj
      have hreach : memory.reaches j = true := Dict.reaches_of_forall hdated hget
      refine congrArg some ?_
      show (if memory.reaches j = true ∧ InMemorySessionStore.lapsed cutoff
        (sessionModelToRecord model) = true then _ else _)
          = sessionModelToRecord (if _ then _ else _)
      rw [hreach, lapsed_eq, apply_ite sessionModelToRecord]
      simp only [true_and]
      rfl

/-- When something raises, the one in memory must have expired nothing. -/
theorem SameSessions.expire_none_iff (h : SameSessions memory sql) (now cutoff : Time)
    (hraises : ∃ sessionId record, memory.get sessionId = some record ∧
      InMemorySessionStore.raises record = true) :
    SameSessions (memory.expireBefore now cutoff).1 (sql.expireBefore now cutoff).1 ↔
      ∀ sessionId record, memory.get sessionId = some record → memory.reaches sessionId = true →
        InMemorySessionStore.lapsed cutoff record = false := by
  obtain ⟨sessionId, record, hrecord, hraise⟩ := hraises
  rw [SqlAlchemySessionStore.expireBefore,
    if_pos (sql.any_raises.mpr ⟨sessionId, record, (h sessionId).symm.trans hrecord, hraise⟩)]
  constructor
  · intro hsame sessionId record hrecord hreach
    rw [← Bool.not_eq_true]
    intro hlapsed
    have hj := hsame sessionId
    rw [← h sessionId, InMemorySessionStore.get_expireBefore, hrecord, Option.map_some,
      if_pos ⟨hreach, hlapsed⟩] at hj
    have hstatus := congrArg SessionRecord.status (Option.some.inj hj)
    exact InMemorySessionStore.status_ne_of_lapsed hlapsed hstatus.symm
  · intro hnone j
    rw [← h j, InMemorySessionStore.get_expireBefore]
    cases hrecord : memory.get j with
    | none => rfl
    | some record =>
        rw [Option.map_some, if_neg]
        rintro ⟨hreach, hlapsed⟩
        cases (hnone j record hrecord hreach).symm.trans hlapsed

/-- An `expire_before` keeps the stores the same when it does not raise after it has marked a
session, and only then. -/
theorem SameSessions.expireBefore_iff (h : SameSessions memory sql) (now cutoff : Time) :
    SameSessions (memory.expireBefore now cutoff).1 (sql.expireBefore now cutoff).1 ↔
      KeepsSame memory (.expireBefore cutoff) := by
  by_cases hraises : ∃ sessionId record, memory.get sessionId = some record ∧
      InMemorySessionStore.raises record = true
  · rw [h.expire_none_iff now cutoff hraises]
    refine ⟨.inr, fun hkeeps ↦ hkeeps.resolve_left fun hdated ↦ ?_⟩
    obtain ⟨sessionId, record, hrecord, hraise⟩ := hraises
    cases (hdated sessionId record hrecord).symm.trans hraise
  · have hdated : ∀ sessionId record, memory.get sessionId = some record →
        InMemorySessionStore.raises record = false := fun sessionId record hrecord ↦
      Bool.eq_false_iff.mpr fun hraise ↦ hraises ⟨sessionId, record, hrecord, hraise⟩
    exact iff_of_true (h.expire_all now cutoff hdated) (.inl hdated)

/-- A call keeps the stores the same exactly when it is no update of the columns that are not
written, and no `expire_before` that is cut short. -/
theorem SameSessions.exec_iff (h : SameSessions memory sql) (hkeyed : sql.Keyed) (now : Time)
    (call : SessionStoreCall) :
    SameSessions (memory.exec now call).1 (sql.exec now call).1 ↔ KeepsSame memory call := by
  cases call with
  | create record => exact iff_of_true (h.create record) trivial
  | update record => exact h.update_iff hkeyed record
  | addOffer sessionId offer => exact iff_of_true (h.change fun _ ↦ rfl) trivial
  | selectOffer => exact iff_of_true (h.change fun _ ↦ rfl) trivial
  | close sessionId reason =>
      refine iff_of_true (h.change fun model ↦ ?_) trivial
      cases nonempty reason with
      | none => rfl
      | some reason => rfl
  | expireBefore cutoff => exact h.expireBefore_iff now cutoff

theorem SqlAlchemySessionStore.Keyed.change (h : sql.Keyed) {g : SessionModel → SessionModel}
    (hg : ∀ model, (g model).ephemeralInterfaceId = model.ephemeralInterfaceId) :
    (sql.change sessionId g).1.Keyed := by
  unfold SqlAlchemySessionStore.change
  cases hmodel : sql.rows.get? sessionId with
  | none => exact h
  | some model =>
      intro j row hrow
      rw [Dict.get?_insert] at hrow
      split at hrow
      · rename_i hj
        obtain rfl := Option.some.inj hrow
        rw [hg, hj]
        exact h _ _ hmodel
      · exact h j row hrow

theorem SqlAlchemySessionStore.Keyed.exec (h : sql.Keyed) (now : Time) (call : SessionStoreCall) :
    (sql.exec now call).1.Keyed := by
  cases call with
  | create record =>
      show (SqlAlchemySessionStore.create sql record).1.Keyed
      unfold SqlAlchemySessionStore.create
      cases sql.rows.get? record.ephemeralInterfaceId with
      | some model => exact h
      | none =>
          intro j row hrow
          rw [Dict.get?_insert] at hrow
          split at hrow
          · rename_i hj
            obtain rfl := Option.some.inj hrow
            exact hj.symm
          · exact h j row hrow
  | update record =>
      show (SqlAlchemySessionStore.update sql record).1.Keyed
      unfold SqlAlchemySessionStore.update
      cases hmodel : sql.rows.get? record.ephemeralInterfaceId with
      | none => exact h
      | some model =>
          intro j row hrow
          rw [Dict.get?_insert] at hrow
          split at hrow
          · rename_i hj
            obtain rfl := Option.some.inj hrow
            exact (h _ model hmodel).trans hj.symm
          · exact h j row hrow
  | addOffer sessionId offer => exact h.change fun _ ↦ rfl
  | selectOffer => exact h.change fun _ ↦ rfl
  | close sessionId reason =>
      refine h.change fun model ↦ ?_
      cases nonempty reason with
      | none => rfl
      | some reason => rfl
  | expireBefore cutoff =>
      show (SqlAlchemySessionStore.expireBefore sql now cutoff).1.Keyed
      rw [SqlAlchemySessionStore.expireBefore]
      split
      · exact h
      intro j row hrow
      rw [Dict.get?_map] at hrow
      obtain ⟨model, hmodel, rfl⟩ := Option.map_eq_some_iff.mp hrow
      rw [apply_ite SessionModel.ephemeralInterfaceId, ite_self]
      exact h j model hmodel

end Steps

/-! ## Whole runs -/

theorem InMemorySessionStore.after_append (calls : List (Time × SessionStoreCall))
    (call : Time × SessionStoreCall) :
    after (calls ++ [call]) = ((after calls).exec call.1 call.2).1 :=
  List.foldl_concat _ _ _ _

theorem SqlAlchemySessionStore.after_append (calls : List (Time × SessionStoreCall))
    (call : Time × SessionStoreCall) :
    after (calls ++ [call]) = ((after calls).exec call.1 call.2).1 :=
  List.foldl_concat _ _ _ _

theorem SqlAlchemySessionStore.keyed_after (calls : List (Time × SessionStoreCall)) :
    (after calls).Keyed := by
  induction calls using List.reverseRecOn with
  | nil => exact fun _ _ h ↦ nomatch h
  | append_singleton calls call ih =>
      rw [after_append]
      exact ih.exec call.1 call.2

/-- The two stores, given the same calls, return the same record from every `get`, whenever it
comes, exactly when each update of a stored session keeps the columns that one of them does
not write, and no `expire_before` raises after it has marked a session. -/
theorem gets_eq_iff (calls : List (Time × SessionStoreCall)) :
    (∀ before, before <+: calls → ∀ sessionId,
      (InMemorySessionStore.after before).get sessionId
        = (SqlAlchemySessionStore.after before).get sessionId) ↔
      ∀ before call, before ++ [call] <+: calls →
        KeepsSame (InMemorySessionStore.after before) call.2 := by
  constructor
  · intro h before call hcalls
    have hsame : SameSessions _ _ := h before ((List.prefix_append _ _).trans hcalls)
    have hafter : SameSessions _ _ := h (before ++ [call]) hcalls
    rw [InMemorySessionStore.after_append, SqlAlchemySessionStore.after_append] at hafter
    exact (hsame.exec_iff (SqlAlchemySessionStore.keyed_after before) _ _).mp hafter
  · intro h before
    induction before using List.reverseRecOn with
    | nil => exact fun _ _ ↦ rfl
    | append_singleton before call ih =>
        intro hcalls
        have hsame : SameSessions _ _ := ih ((List.prefix_append _ _).trans hcalls)
        rw [InMemorySessionStore.after_append, SqlAlchemySessionStore.after_append]
        exact (hsame.exec_iff (SqlAlchemySessionStore.keyed_after before) _ _).mpr
          (h before call hcalls)

def sampleSession : SessionRecord where
  ephemeralInterfaceId := ⟨100⟩
  tenantId := "acme"
  requesterAgentId := ⟨1⟩
  requesterConnId := "req"
  providerAgentId := none
  providerConnId := none
  intentMessageId := ⟨50⟩
  intentData := []
  status := "negotiating"
  offers := []
  chosenOfferId := none
  chosenSchemaId := none
  chosenViewId := none
  createdAt := 0
  activatedAt := none
  closedAt := none
  negotiationTtlSeconds := 30
  sessionTtlSeconds := 300
  metadata := []

/-- A caller extends the lifetime of a session: both stores take the update, and the one over
SQL goes on with the lifetime it had. -/
theorem update_lifetime :
    let calls : List (Time × SessionStoreCall) := [(0, .create sampleSession),
      (1, .update { sampleSession with negotiationTtlSeconds := 60 })]
    ((InMemorySessionStore.after calls).get ⟨100⟩).map SessionRecord.negotiationTtlSeconds
        = some 60 ∧
      ((SqlAlchemySessionStore.after calls).get ⟨100⟩).map SessionRecord.negotiationTtlSeconds
        = some 30 :=
  ⟨rfl, rfl⟩

end SemanticBus
