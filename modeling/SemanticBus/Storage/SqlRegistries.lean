import SemanticBus.Storage.Sweeps

/-!
# The presence of agents over SQL and in memory

An upsert of a connection that has a row writes its status, capabilities, tags, load, time and
metadata, but neither the agent nor the tenant nor the time of registration; in memory the
record is replaced.  In memory an old connection with the empty id is left, over SQL its row is
deleted.

`presences_same_iff` says that no request tells the two stores apart until an upsert does one
of these.
-/

namespace SemanticBus

open RedisRegistryStore (Filters skips)

inductive PresenceRequest where
  | change (call : RegistryCall)
  | listByTenant (tenantId : String) (filters : Filters)

/-- The same reply; the rows of a table come in no order. -/
inductive PresenceReply.Same : PresenceReply → PresenceReply → Prop
  | refl (reply : PresenceReply) : Same reply reply
  | listed {records records' : List PresenceRecord} (h : records.Perm records') :
      Same (.listed records) (.listed records')

theorem PresenceReply.same_listed_iff {records records' : List PresenceRecord} :
    Same (.listed records) (.listed records') ↔ records.Perm records' := by
  constructor
  · intro h
    cases h with
    | refl => exact .refl _
    | listed h => exact h
  · exact .listed

namespace InMemoryRegistryStore

variable (store : InMemoryRegistryStore)

def reply (now : Time) : PresenceRequest → PresenceReply
  | .change (.upsertPresence record) => .stored record
  | .change (.upkeep (.heartbeat connId load)) => .done (store.heartbeat now connId load).1
  | .change (.upkeep (.remove connId)) => .done (store.remove connId).1
  | .change (.upkeep (.expireStale timeoutSeconds _)) =>
      .marked (store.expireStale now timeoutSeconds).1
  | .listByTenant tenantId filters => .listed (store.listByTenant tenantId filters)

/-- The store after a request. -/
def request (now : Time) : PresenceRequest → InMemoryRegistryStore
  | .change call => store.exec now call
  | .listByTenant _ _ => store

/-- The store after some requests. -/
def after (requests : List (Time × PresenceRequest)) : InMemoryRegistryStore :=
  requests.foldl (fun store request ↦ store.request request.1 request.2) {}

theorem after_append (requests : List (Time × PresenceRequest)) (request : Time × PresenceRequest) :
    after (requests ++ [request]) = (after requests).request request.1 request.2 :=
  List.foldl_concat _ _ _ _

/-- The upsert is of a connection that is stored for another agent, tenant or time of registration,
or of an agent that had the connection with the empty id. -/
def SqlDiffers : PresenceRequest → Prop
  | .change (.upsertPresence record) =>
      (∃ r, store.presence.get? record.connId = some r ∧
        (r.agentId, r.tenantId, r.registeredAt)
          ≠ (record.agentId, record.tenantId, record.registeredAt)) ∨
      record.connId ≠ "" ∧ ∃ r, store.presence.get? "" = some r ∧ r.agentId = record.agentId
  | _ => False

end InMemoryRegistryStore

namespace SqlAlchemyRegistryStore

variable (store : SqlAlchemyRegistryStore)

/-- What a request returns, unless it raises. -/
def reply (now : Time) : PresenceRequest → Option PresenceReply
  | .change (.upsertPresence record) => (store.upsertPresence record).map fun _ ↦ .stored record
  | .change (.upkeep (.heartbeat connId load)) => some (.done (store.heartbeat now connId load).1)
  | .change (.upkeep (.remove connId)) => some (.done (store.remove connId).1)
  | .change (.upkeep (.expireStale timeoutSeconds _)) =>
      some (.marked (store.expireStale now timeoutSeconds).1)
  | .listByTenant tenantId filters => some (.listed (store.listByTenant tenantId filters))

/-- The store after a request. -/
def request (now : Time) : PresenceRequest → SqlAlchemyRegistryStore
  | .change call => store.exec now call
  | .listByTenant _ _ => store

/-- The store after some requests. -/
def after (requests : List (Time × PresenceRequest)) : SqlAlchemyRegistryStore :=
  requests.foldl (fun store request ↦ store.request request.1 request.2) {}

theorem after_append (requests : List (Time × PresenceRequest)) (request : Time × PresenceRequest) :
    after (requests ++ [request]) = (after requests).request request.1 request.2 :=
  List.foldl_concat _ _ _ _

end SqlAlchemyRegistryStore

/-! ## The same records -/

section Rows

variable {rows rows' : Dict String PresenceRecord}

/-- Dictionaries that hold the same have the same values. -/
theorem values_perm (h : ∀ c, rows.get? c = rows'.get? c) : rows.values.Perm rows'.values := by
  have hentries : rows.entries.Perm rows'.entries := by
    refine (List.perm_ext_iff_of_nodup rows.nodup.of_map rows'.nodup.of_map).mpr ?_
    rintro ⟨c, r⟩
    rw [Dict.mem_entries_iff, Dict.mem_entries_iff, h]
  exact hentries.map Prod.snd

/-- What is listed of each tenant determines the records. -/
theorem get?_eq_of_listed (hkeyed : KeyedRows rows) (hkeyed' : KeyedRows rows')
    (h : ∀ tenantId, (ofTenant rows tenantId {}).Perm (ofTenant rows' tenantId {})) (c : String) :
    rows.get? c = rows'.get? c := by
  refine Option.ext fun r ↦ ⟨fun hget ↦ ?_, fun hget ↦ ?_⟩
  · have hlisted := mem_ofTenant.mpr ⟨⟨c, hget⟩, rfl⟩
    obtain ⟨⟨c', hget'⟩, -⟩ := mem_ofTenant.mp ((h r.tenantId).subset hlisted)
    rwa [← hkeyed c r hget, hkeyed' c' r hget']
  · have hlisted := mem_ofTenant.mpr ⟨⟨c, hget⟩, rfl⟩
    obtain ⟨⟨c', hget'⟩, -⟩ := mem_ofTenant.mp ((h r.tenantId).symm.subset hlisted)
    rwa [← hkeyed' c r hget, hkeyed c' r hget']

end Rows

/-- The row that is written over another one: it keeps whose it is. -/
def overwrite (r record : PresenceRecord) : PresenceRecord :=
  { record with agentId := r.agentId, tenantId := r.tenantId, registeredAt := r.registeredAt }

theorem overwrite_eq_iff {r record : PresenceRecord} : overwrite r record = record ↔
    (r.agentId, r.tenantId, r.registeredAt)
      = (record.agentId, record.tenantId, record.registeredAt) := by
  rw [Prod.mk.injEq, Prod.mk.injEq]
  constructor
  · intro h
    rw [← h]
    exact ⟨rfl, rfl, rfl⟩
  · rintro ⟨hagent, htenant, hregistered⟩
    rw [overwrite, hagent, htenant, hregistered]

theorem keyedRows_put {rows : Dict String PresenceRecord} (h : KeyedRows rows)
    {record : PresenceRecord} : KeyedRows (SqlAlchemyRegistryStore.put rows record) := by
  rw [SqlAlchemyRegistryStore.put]
  cases hget : rows.get? record.connId with
  | none => exact h.insert rfl
  | some existing => exact h.insert (h _ existing hget)

/-- The table has the records that are in memory, and the connection of every agent is known. -/
structure SamePresence (memory : InMemoryRegistryStore) (sql : SqlAlchemyRegistryStore) : Prop where
  rows : ∀ c, memory.presence.get? c = sql.rows.get? c
  keyed : KeyedRows memory.presence
  byAgent : ∀ agentId c, memory.byAgent.get? agentId = some c ↔
    ∃ r, memory.presence.get? c = some r ∧ r.agentId = agentId

namespace SamePresence

variable {memory : InMemoryRegistryStore} {sql : SqlAlchemyRegistryStore}
  {record r : PresenceRecord} {c : String} {now : Time}

theorem empty : SamePresence {} {} := by
  refine ⟨fun c ↦ rfl, fun c r h ↦ ?_, fun agentId c ↦ iff_of_false (fun h ↦ ?_) ?_⟩
  · cases h
  · cases h
  · rintro ⟨r, h, -⟩
    cases h

/-- An agent has one connection. -/
theorem single (h : SamePresence memory sql) {c c' : String} {r r' : PresenceRecord}
    (hget : memory.presence.get? c = some r) (hget' : memory.presence.get? c' = some r')
    (hagent : r.agentId = r'.agentId) : c = c' := by
  have hknown := (h.byAgent r.agentId c).mpr ⟨r, hget, rfl⟩
  have hknown' := (h.byAgent r.agentId c').mpr ⟨r', hget', hagent.symm⟩
  exact Option.some.inj (hknown.symm.trans hknown')

/-- The agents of the rows own their connections. -/
theorem owned (h : SamePresence memory sql) : ∃ owner, Rows owner sql.rows := by
  refine ⟨fun c ↦ ((sql.rows.get? c).map (·.agentId)).getD ⟨0⟩, fun c r hget ↦ ?_, fun c r hget ↦ ?_,
    fun c c' r r' hget hget' hagent ↦ ?_⟩
  · rw [← h.rows] at hget
    exact h.keyed c r hget
  · rw [hget]
    rfl
  · rw [← h.rows] at hget hget'
    exact h.single hget hget' hagent

/-- In memory an upsert removes the records of its agent under other connections, unless the id
of the connection is empty. -/
theorem upsert_memory (h : SamePresence memory sql) (record : PresenceRecord) :
    ∃ presence : Dict String PresenceRecord,
      (memory.upsertPresence record).presence = presence.insert record.connId record ∧
      ∀ c r, presence.get? c = some r ↔ memory.presence.get? c = some r ∧
        (r.agentId = record.agentId → c = record.connId ∨ c = "") := by
  refine ⟨_, rfl, fun c r ↦ ?_⟩
  cases hbyAgent : memory.byAgent.get? record.agentId with
  | none =>
      refine (and_iff_left_of_imp fun hget hagent ↦ ?_).symm
      have hknown := (h.byAgent record.agentId c).mpr ⟨r, hget, hagent⟩
      cases hbyAgent.symm.trans hknown
  | some oldConn =>
      have hold : memory.presence.get? c = some r → (r.agentId = record.agentId ↔ c = oldConn) := by
        intro hget
        constructor
        · intro hagent
          have hknown := (h.byAgent record.agentId c).mpr ⟨r, hget, hagent⟩
          exact Option.some.inj (hknown.symm.trans hbyAgent)
        · rintro rfl
          obtain ⟨r', hget', hagent'⟩ := (h.byAgent record.agentId c).mp hbyAgent
          obtain rfl := Option.some.inj (hget.symm.trans hget')
          exact hagent'
      by_cases hempty : oldConn = ""
      · have hnone : nonempty (some oldConn) = none := by simp [nonempty, hempty]
        rw [hnone]
        refine (and_iff_left_of_imp fun hget hagent ↦ .inr ?_).symm
        rw [(hold hget).mp hagent, hempty]
      · have hsome : nonempty (some oldConn) = some oldConn := by simp [nonempty, hempty]
        rw [hsome]
        dsimp only
        split
        · rename_i hne
          rw [Dict.get?_erase, Option.ite_none_left_eq_some, and_comm]
          refine and_congr_right fun hget ↦ ?_
          rw [hold hget]
          constructor
          · exact fun hc hc' ↦ absurd hc' hc
          · rintro himp rfl
            rcases himp rfl with hconn | hconn
            · exact hne hconn
            · exact hempty hconn
        · rename_i hsame
          refine (and_iff_left_of_imp fun hget hagent ↦ .inl ?_).symm
          exact ((hold hget).mp hagent).trans (not_not.mp hsame)

/-- Over SQL an upsert finds one other row of its agent at most, and removes it. -/
theorem upsert_sql (h : SamePresence memory sql) (record : PresenceRecord) :
    ∃ rows, sql.upsertPresence record
        = some { rows := SqlAlchemyRegistryStore.put rows record } ∧
      ∀ c r, rows.get? c = some r ↔ sql.rows.get? c = some r ∧
        (r.agentId = record.agentId → c = record.connId) := by
  obtain ⟨owner, hrows⟩ := h.owned
  have hmem := fun r ↦ @SqlAlchemyRegistryStore.mem_others owner record sql.rows r hrows
  obtain ⟨_, hupsert, -⟩ := SqlAlchemyRegistryStore.upsertPresence_put hrows record
  rw [SqlAlchemyRegistryStore.upsertPresence] at hupsert ⊢
  generalize (sql.rows.values.filter fun r ↦
    r.agentId = record.agentId && r.connId ≠ record.connId) = others at hmem hupsert
  cases others with
  | nil =>
      refine ⟨_, rfl, fun c r ↦ (and_iff_left_of_imp fun hget hagent ↦ ?_).symm⟩
      have hconn := hrows.keyed c r hget
      by_contra hne
      cases (hmem r).mpr ⟨hconn ▸ hget, hagent, hconn ▸ hne⟩
  | cons old others =>
      obtain ⟨hold, hagent, hne⟩ := (hmem old).mp List.mem_cons_self
      cases others with
      | nil =>
          refine ⟨_, rfl, fun c r ↦ ?_⟩
          rw [Dict.get?_erase, Option.ite_none_left_eq_some, and_comm]
          refine and_congr_right fun hget ↦ ?_
          constructor
          · intro hc hagent'
            exact absurd (hrows.single c _ r old hget hold (hagent'.trans hagent.symm)) hc
          · rintro himp rfl
            obtain rfl := Option.some.inj (hget.symm.trans hold)
            exact hne (himp hagent)
      | cons old' others => cases hupsert

/-- The stores hold the same after an upsert exactly if it does not tell them apart. -/
theorem upsert_rows_iff (h : SamePresence memory sql) {sql' : SqlAlchemyRegistryStore}
    (hupsert : sql.upsertPresence record = some sql') :
    (∀ c, (memory.upsertPresence record).presence.get? c = sql'.rows.get? c) ↔
      ¬ memory.SqlDiffers (.change (.upsertPresence record)) := by
  obtain ⟨presence, hpresence, hleft⟩ := h.upsert_memory record
  obtain ⟨rows, hrows, hstays⟩ := h.upsert_sql record
  obtain rfl := Option.some.inj (hupsert.symm.trans hrows)
  -- the record under its own connection
  have hown : (memory.upsertPresence record).presence.get? record.connId
        = (SqlAlchemyRegistryStore.put rows record).get? record.connId ↔
      ¬ ∃ r, memory.presence.get? record.connId = some r ∧
        (r.agentId, r.tenantId, r.registeredAt)
          ≠ (record.agentId, record.tenantId, record.registeredAt) := by
    have hconn : rows.get? record.connId = memory.presence.get? record.connId := by
      rw [h.rows]
      exact Option.ext fun r ↦ (hstays record.connId r).trans (and_iff_left fun _ ↦ rfl)
    rw [hpresence, Dict.get?_insert_self, SqlAlchemyRegistryStore.put, hconn]
    cases hget : memory.presence.get? record.connId with
    | none =>
        refine iff_of_true (Dict.get?_insert_self _ _ _).symm ?_
        rintro ⟨r, hr, -⟩
        cases hr
    | some r =>
        have hwritten : (rows.insert record.connId { r with
            status := record.status, capabilities := record.capabilities, tags := record.tags
            load := record.load, lastSeen := record.lastSeen
            metadata := record.metadata }).get? record.connId = some (overwrite r record) := by
          rw [Dict.get?_insert_self, h.keyed _ r hget, overwrite]
        dsimp only
        rw [hwritten, Option.some.injEq, eq_comm, overwrite_eq_iff]
        constructor
        · rintro hsame ⟨r', hr', hne⟩
          exact hne (Option.some.inj hr' ▸ hsame)
        · exact fun hnot ↦ not_not.mp fun hne ↦ hnot ⟨r, rfl, hne⟩
  -- the records under other connections
  have hothers : (∀ c, c ≠ record.connId → (memory.upsertPresence record).presence.get? c
        = (SqlAlchemyRegistryStore.put rows record).get? c) ↔
      ¬ (record.connId ≠ "" ∧
        ∃ r, memory.presence.get? "" = some r ∧ r.agentId = record.agentId) := by
    have hput : ∀ c, c ≠ record.connId →
        (SqlAlchemyRegistryStore.put rows record).get? c = rows.get? c := by
      intro c hc
      rw [SqlAlchemyRegistryStore.put]
      split
      · exact Dict.get?_insert_of_ne _ _ hc
      · exact Dict.get?_insert_of_ne _ _ hc
    rw [hpresence]
    constructor
    · rintro hsame ⟨hne, r, hget, hagent⟩
      have hkept := (hleft "" r).mpr ⟨hget, fun _ ↦ .inr rfl⟩
      have hsame := hsame "" hne.symm
      rw [Dict.get?_insert_of_ne _ _ hne.symm, hput "" hne.symm, hkept] at hsame
      exact hne (((hstays "" r).mp hsame.symm).2 hagent).symm
    · intro hnot c hc
      rw [Dict.get?_insert_of_ne _ _ hc, hput c hc]
      refine Option.ext fun r ↦ ?_
      rw [hleft, hstays, ← h.rows]
      refine and_congr_right fun hget ↦ forall_congr' fun hagent ↦ or_iff_left ?_
      rintro rfl
      exact hnot ⟨hc.symm, r, hget, hagent⟩
  rw [InMemoryRegistryStore.SqlDiffers, not_or, ← hown, ← hothers]
  constructor
  · exact fun hsame ↦ ⟨hsame _, fun c _ ↦ hsame c⟩
  · rintro ⟨hself, hrest⟩ c
    by_cases hc : c = record.connId
    · rw [hc]
      exact hself
    · exact hrest c hc

/-- What an upsert that does not tell the stores apart leaves. -/
theorem upsertPresence (h : SamePresence memory sql) {sql' : SqlAlchemyRegistryStore}
    (hupsert : sql.upsertPresence record = some sql')
    (hsame : ¬ memory.SqlDiffers (.change (.upsertPresence record))) :
    SamePresence (memory.upsertPresence record) sql' := by
  obtain ⟨presence, hpresence, hleft⟩ := h.upsert_memory record
  have hget : ∀ c, (memory.upsertPresence record).presence.get? c
      = if c = record.connId then some record else presence.get? c :=
    fun c ↦ (congrArg (·.get? c) hpresence).trans (Dict.get?_insert _ _ _ _)
  -- no record of another agent is overwritten, and none of this one is left
  have hagent : ∀ c r, presence.get? c = some r → (c = record.connId ↔ r.agentId = record.agentId) := by
    intro c r hr
    obtain ⟨hr, hkept⟩ := (hleft c r).mp hr
    constructor
    · rintro rfl
      by_contra hne
      refine hsame (.inl ⟨r, hr, fun heq ↦ hne ?_⟩)
      exact congrArg Prod.fst heq
    · intro hagent
      by_contra hne
      obtain rfl := (hkept hagent).resolve_left hne
      exact hsame (.inr ⟨Ne.symm hne, r, hr, hagent⟩)
  refine ⟨(h.upsert_rows_iff hupsert).mpr hsame, fun c r hr ↦ ?_, fun agentId c ↦ ?_⟩
  · rw [hget] at hr
    split at hr
    · rename_i hc
      rw [← Option.some.inj hr, hc]
    · exact h.keyed c r ((hleft c r).mp hr).1
  · show (memory.byAgent.insert record.agentId record.connId).get? agentId = some c ↔ _
    rw [Dict.get?_insert, hget]
    split
    · rename_i hsameAgent
      subst hsameAgent
      rw [Option.some.injEq, eq_comm]
      constructor
      · rintro rfl
        rw [if_pos rfl]
        exact ⟨record, rfl, rfl⟩
      · rintro ⟨r, hr, hr'⟩
        by_contra hne
        rw [if_neg hne] at hr
        exact hne ((hagent c r hr).mpr hr')
    · rename_i hother
      rw [h.byAgent]
      constructor
      · rintro ⟨r, hr, rfl⟩
        have hkept : presence.get? c = some r :=
          (hleft c r).mpr ⟨hr, fun hsameAgent ↦ absurd hsameAgent hother⟩
        rw [if_neg fun hc ↦ hother ((hagent c r hkept).mp hc)]
        exact ⟨r, hkept, rfl⟩
      · rintro ⟨r, hr, rfl⟩
        split at hr
        · rw [← Option.some.inj hr] at hother
          exact absurd rfl hother
        · exact ⟨r, ((hleft c r).mp hr).1, rfl⟩

/-- Changes of records on both sides, but not whose they are. -/
theorem less (h : SamePresence memory sql) {presence rows : Dict String PresenceRecord}
    {f : String → PresenceRecord → PresenceRecord}
    (hf : ∀ c r, (f c r).connId = r.connId ∧ (f c r).agentId = r.agentId)
    (hpresence : ∀ c, presence.get? c = (memory.presence.get? c).map (f c))
    (hrows : ∀ c, rows.get? c = (sql.rows.get? c).map (f c)) :
    SamePresence { memory with presence := presence } { rows := rows } := by
  refine ⟨fun c ↦ ?_, fun c r hr ↦ ?_, fun agentId c ↦ ?_⟩
  · exact (hpresence c).trans ((congrArg (Option.map (f c)) (h.rows c)).trans (hrows c).symm)
  · obtain ⟨r', hr', rfl⟩ := Option.map_eq_some_iff.mp ((hpresence c).symm.trans hr)
    exact (hf c r').1.trans (h.keyed c r' hr')
  · rw [h.byAgent]
    constructor
    · rintro ⟨r, hr, rfl⟩
      exact ⟨f c r, (hpresence c).trans (congrArg (Option.map (f c)) hr), (hf c r).2⟩
    · rintro ⟨r, hr, rfl⟩
      obtain ⟨r', hr', rfl⟩ := Option.map_eq_some_iff.mp ((hpresence c).symm.trans hr)
      exact ⟨r', hr', (hf c r').2.symm⟩

theorem heartbeat (h : SamePresence memory sql) (now : Time) (connId : String) (load : Option ℚ) :
    (memory.heartbeat now connId load).1 = (sql.heartbeat now connId load).1 ∧
      SamePresence (memory.heartbeat now connId load).2 (sql.heartbeat now connId load).2 := by
  rw [InMemoryRegistryStore.heartbeat, SqlAlchemyRegistryStore.heartbeat, ← h.rows]
  cases hget : memory.presence.get? connId with
  | none => exact ⟨rfl, h⟩
  | some r =>
      have hmodify : ∀ (rows : Dict String PresenceRecord) (c : String),
          (rows.modify connId fun r ↦ RedisRegistryStore.beat r now load).get? c
            = (rows.get? c).map fun r ↦
              if c = connId then RedisRegistryStore.beat r now load else r := by
        intro rows c
        rw [Dict.get?_modify]
        split
        · rename_i hc
          rw [hc]
        · exact Option.map_id'.symm
      refine ⟨rfl, h.less (fun c r ↦ ?_) (hmodify _) (hmodify _)⟩
      split
      · exact ⟨rfl, rfl⟩
      · exact ⟨rfl, rfl⟩

theorem remove (h : SamePresence memory sql) (connId : String) :
    (memory.remove connId).1 = (sql.remove connId).1 ∧
      SamePresence (memory.remove connId).2 (sql.remove connId).2 := by
  rw [InMemoryRegistryStore.remove, SqlAlchemyRegistryStore.remove, ← h.rows]
  cases hget : memory.presence.get? connId with
  | none => exact ⟨rfl, h⟩
  | some record =>
      refine ⟨rfl, fun c ↦ ?_, fun c r hr ↦ ?_, fun agentId c ↦ ?_⟩
      · show (memory.presence.erase connId).get? c = (sql.rows.erase connId).get? c
        rw [Dict.get?_erase, Dict.get?_erase, h.rows]
      · have hr : (memory.presence.erase connId).get? c = some r := hr
        rw [Dict.get?_erase] at hr
        exact h.keyed c r (Option.ite_none_left_eq_some.mp hr).2
      · show (memory.byAgent.erase record.agentId).get? agentId = some c ↔
          ∃ r, (memory.presence.erase connId).get? c = some r ∧ _
        rw [Dict.get?_erase, Dict.get?_erase, Option.ite_none_left_eq_some, h.byAgent]
        constructor
        · rintro ⟨hother, r, hr, rfl⟩
          refine ⟨r, Option.ite_none_left_eq_some.mpr ⟨?_, hr⟩, rfl⟩
          rintro rfl
          obtain rfl := Option.some.inj (hr.symm.trans hget)
          exact hother rfl
        · rintro ⟨r, hr, rfl⟩
          obtain ⟨hc, hr⟩ := Option.ite_none_left_eq_some.mp hr
          exact ⟨fun hagent ↦ hc (h.single hr hget hagent), r, hr, rfl⟩

theorem expireStale (h : SamePresence memory sql) (now : Time) (timeoutSeconds : ℚ) :
    (memory.expireStale now timeoutSeconds).1 = (sql.expireStale now timeoutSeconds).1 ∧
      SamePresence (memory.expireStale now timeoutSeconds).2
        (sql.expireStale now timeoutSeconds).2 := by
  refine ⟨(values_perm h.rows).countP_eq _, ?_⟩
  exact h.less (fun _ ↦ InMemoryRegistryStore.markStale_same _) (fun c ↦ Dict.get?_map _ _ c)
    fun c ↦ Dict.get?_map _ _ c

/-- No request has another reply from stores that hold the same. -/
theorem reply_same (h : SamePresence memory sql) (now : Time) (request : PresenceRequest) :
    ∃ reply, sql.reply now request = some reply ∧ (memory.reply now request).Same reply := by
  cases request with
  | change call =>
      cases call with
      | upsertPresence record =>
          obtain ⟨rows, hupsert, -⟩ := h.upsert_sql record
          refine ⟨.stored record, ?_, .refl _⟩
          rw [SqlAlchemyRegistryStore.reply, hupsert, Option.map_some]
      | upkeep call =>
          cases call with
          | heartbeat connId load =>
              refine ⟨_, rfl, ?_⟩
              rw [InMemoryRegistryStore.reply, (h.heartbeat now connId load).1]
              exact .refl _
          | remove connId =>
              refine ⟨_, rfl, ?_⟩
              rw [InMemoryRegistryStore.reply, (h.remove connId).1]
              exact .refl _
          | expireStale timeoutSeconds batches =>
              refine ⟨_, rfl, ?_⟩
              rw [InMemoryRegistryStore.reply, (h.expireStale now timeoutSeconds).1]
              exact .refl _
  | listByTenant tenantId filters =>
      exact ⟨_, rfl, .listed ((values_perm h.rows).filter _)⟩

/-- What a request that does not tell the stores apart leaves. -/
theorem request (h : SamePresence memory sql) (now : Time) {request : PresenceRequest}
    (hsame : ¬ memory.SqlDiffers request) :
    SamePresence (memory.request now request) (sql.request now request) := by
  cases request with
  | change call =>
      cases call with
      | upsertPresence record =>
          obtain ⟨rows, hupsert, -⟩ := h.upsert_sql record
          show SamePresence _ ((sql.upsertPresence record).getD sql)
          rw [hupsert]
          exact h.upsertPresence hupsert hsame
      | upkeep call =>
          cases call with
          | heartbeat connId load => exact (h.heartbeat now connId load).2
          | remove connId => exact (h.remove connId).2
          | expireStale timeoutSeconds batches => exact (h.expireStale now timeoutSeconds).2
  | listByTenant tenantId filters => exact h

/-- After a request that tells the stores apart, some listing does. -/
theorem not_differs_of_replies (h : SamePresence memory sql) {request : PresenceRequest}
    (hsame : ∀ tenantId, ∃ reply,
      (sql.request now request).reply now (.listByTenant tenantId {}) = some reply ∧
        ((memory.request now request).reply now (.listByTenant tenantId {})).Same reply) :
    ¬ memory.SqlDiffers request := by
  cases request with
  | listByTenant tenantId filters => exact id
  | change call =>
      cases call with
      | upkeep call => exact id
      | upsertPresence record =>
          obtain ⟨rows, hupsert, hstays⟩ := h.upsert_sql record
          obtain ⟨presence, hpresence, hleft⟩ := h.upsert_memory record
          rw [← h.upsert_rows_iff hupsert]
          refine get?_eq_of_listed (fun c r hr ↦ ?_) ?_ fun tenantId ↦ ?_
          · rw [hpresence, Dict.get?_insert] at hr
            split at hr
            · rename_i hc
              rw [← Option.some.inj hr, hc]
            · exact h.keyed c r ((hleft c r).mp hr).1
          · refine keyedRows_put fun c r hr ↦ ?_
            have hr := ((hstays c r).mp hr).1
            rw [← h.rows] at hr
            exact h.keyed c r hr
          · obtain ⟨reply, hreply, hlisted⟩ := hsame tenantId
            obtain rfl := Option.some.inj hreply
            have hlisted := PresenceReply.same_listed_iff.mp hlisted
            have hrequest : sql.request now (.change (.upsertPresence record))
                = { rows := SqlAlchemyRegistryStore.put rows record } := by
              show (sql.upsertPresence record).getD sql = _
              rw [hupsert]
              rfl
            rw [hrequest] at hlisted
            exact hlisted

end SamePresence

/-- The two stores, given the same requests, reply the same to every request that may follow,
whenever it comes, exactly when no upsert is of a connection stored for another agent, tenant or
time of registration, or of an agent that had the connection with the empty id. -/
theorem presences_same_iff (requests : List (Time × PresenceRequest)) :
    (∀ before, before <+: requests → ∀ now request, ∃ reply,
      (SqlAlchemyRegistryStore.after before).reply now request = some reply ∧
        ((InMemoryRegistryStore.after before).reply now request).Same reply) ↔
      ∀ before request, before ++ [request] <+: requests →
        ¬ (InMemoryRegistryStore.after before).SqlDiffers request.2 := by
  let Replies (before : List (Time × PresenceRequest)) : Prop := ∀ now request, ∃ reply,
    (SqlAlchemyRegistryStore.after before).reply now request = some reply ∧
      ((InMemoryRegistryStore.after before).reply now request).Same reply
  have hruns : (∀ before request, before ++ [request] <+: requests → Replies (before ++ [request])) ↔
      ∀ before request, before ++ [request] <+: requests →
        ¬ (InMemoryRegistryStore.after before).SqlDiffers request.2 := by
    refine forall_prefix_iff (I := fun before ↦
      SamePresence (InMemoryRegistryStore.after before) (SqlAlchemyRegistryStore.after before))
      .empty ?_ ?_
    · intro before request _ h
      show (∀ now request, ∃ reply, _) ↔ _
      rw [InMemoryRegistryStore.after_append, SqlAlchemyRegistryStore.after_append]
      constructor
      · exact fun hsame ↦ h.not_differs_of_replies fun tenantId ↦ hsame _ _
      · exact fun hsame now later ↦ (h.request request.1 hsame).reply_same now later
    · intro before request _ h hsame
      rw [InMemoryRegistryStore.after_append, SqlAlchemyRegistryStore.after_append]
      exact h.request request.1 hsame
  rw [← hruns]
  constructor
  · exact fun h before request hrequests ↦ h _ hrequests
  · intro h before hbefore
    cases before using List.reverseRecOn with
    | nil => exact SamePresence.empty.reply_same
    | append_singleton before request => exact h before request hbefore

end SemanticBus
