import SemanticBus.Data.Run
import SemanticBus.Storage.Staleness

/-!
# One connection for each agent

An agent that connects again has a new connection, and the store of its presence should
forget the old one.  The stores have no key for that: in memory a second dictionary has
the connection of each agent, and over SQL the rows of the agent are looked up.
`KeepsOne` says that the old connection is forgotten, and the agent listed once.

Over SQL it always is, and in memory unless the old connection has the empty id, which
passes for none.
-/

universe u v

namespace SemanticBus

/-- A call to a store of the presence of agents that changes it. -/
inductive RegistryCall where
  | upsertPresence (record : PresenceRecord)
  | upkeep (call : UpkeepCall)

/-- The agent of a record is listed once, under one tenant, with the connection of the record. -/
def ListedOnce (listed : String → List PresenceRecord) (record : PresenceRecord) : Prop :=
  ∃ tenantId, ((listed tenantId).filter (·.agentId = record.agentId)).map (·.connId)
      = [record.connId] ∧
    ∀ tenantId', tenantId' ≠ tenantId → ∀ r ∈ listed tenantId', r.agentId ≠ record.agentId

/-- A store of the presence of agents, seen from outside: `ε` is what a call finds around it. -/
structure RegistryBackend (ε : Type v) (σ : Type u) where
  now : ε → Time
  exec : ε → RegistryCall → σ → σ
  /-- The records that are there at a time. -/
  holds : Time → σ → PresenceRecord → Prop
  /-- `list_by_tenant` without other filters. -/
  listed : Time → σ → String → List PresenceRecord

namespace RegistryBackend

variable {ε : Type v} {σ : Type u} (B : RegistryBackend ε σ)

def Belongs (owner : String → UUID) : RegistryCall → Prop
  | .upsertPresence record => record.agentId = owner record.connId
  | .upkeep _ => True

/-- Calls one after the other, on connections that belong to their agents. -/
def Calls (owner : String → UUID) : Step (Time × σ) (ε × RegistryCall) :=
  fun x a y ↦ x.1 ≤ B.now a.1 ∧ Belongs owner a.2 ∧ y = (B.now a.1, B.exec a.1 a.2 x.2)

/-- From now on an agent has at most one connection. -/
def OneConnection (x : Time × σ) : Prop :=
  ∀ t, x.1 ≤ t → ∀ r r', B.holds t x.2 r → B.holds t x.2 r' → r.agentId = r'.agentId →
    r.connId = r'.connId

/-- In every run of calls that meet a condition agents have one connection, and an agent is listed
once after its upsert. -/
def KeepsOne (Good : Time × σ → ε × RegistryCall → Prop) (s : σ) : Prop :=
  ∀ owner start as x, Run (Step.Only Good (B.Calls owner)) (start, s) as x →
    B.OneConnection x ∧ ∀ env record, x.1 ≤ B.now env → record.agentId = owner record.connId →
      Good x (env, .upsertPresence record) →
        ListedOnce (B.listed (B.now env) (B.exec env (.upsertPresence record) x.2)) record

variable {B} {Good : Time × σ → ε × RegistryCall → Prop}

/-- An invariant of good calls. -/
theorem keepsOne_of_inv {I : (String → UUID) → Time × σ → Prop} {s : σ}
    (hinit : ∀ owner start, I owner (start, s)) (hone : ∀ owner x, I owner x → B.OneConnection x)
    (hstep : ∀ owner now s env call, I owner (now, s) → now ≤ B.now env → Belongs owner call →
      Good (now, s) (env, call) → I owner (B.now env, B.exec env call s))
    (hlisted : ∀ owner now s env record, I owner (now, s) → now ≤ B.now env →
      record.agentId = owner record.connId → Good (now, s) (env, .upsertPresence record) →
      ListedOnce (B.listed (B.now env) (B.exec env (.upsertPresence record) s)) record) :
    B.KeepsOne Good s := by
  intro owner start as x h
  have hI : I owner x := by
    refine h.invariant ?_ (hinit owner start)
    rintro ⟨now, s⟩ ⟨env, call⟩ y hI ⟨hgood, hle, hbelongs, rfl⟩
    exact hstep owner now s env call hI hle hbelongs hgood
  refine ⟨hone owner x hI, fun env record hle hbelongs hgood ↦ ?_⟩
  exact hlisted owner x.1 x.2 env record hI hle hbelongs hgood

end RegistryBackend

/-- Of records with different connections, those of one agent with one connection are one. -/
theorem map_filter_eq_singleton {records : List PresenceRecord} {record : PresenceRecord}
    {agentId : UUID} (hnodup : (records.map (·.connId)).Nodup) (hmem : record ∈ records)
    (hagent : record.agentId = agentId)
    (honly : ∀ r ∈ records, r.agentId = agentId → r.connId = record.connId) :
    (records.filter (·.agentId = agentId)).map (·.connId) = [record.connId] := by
  have hsub : ((records.filter (·.agentId = agentId)).map (·.connId)).Nodup :=
    hnodup.sublist (List.filter_sublist.map _)
  have hall : ∀ c ∈ (records.filter (·.agentId = agentId)).map (·.connId),
      c = record.connId := by
    intro c hc
    obtain ⟨r, hr, rfl⟩ := List.mem_map.mp hc
    obtain ⟨hr, hagent⟩ := List.mem_filter.mp hr
    exact honly r hr (of_decide_eq_true hagent)
  have hin : record.connId ∈ (records.filter (·.agentId = agentId)).map (·.connId) :=
    List.mem_map_of_mem (List.mem_filter.mpr ⟨hmem, decide_eq_true hagent⟩)
  generalize (records.filter (·.agentId = agentId)).map (·.connId) = conns at hsub hall hin
  cases conns with
  | nil => cases hin
  | cons c conns =>
      cases conns with
      | nil => rw [hall c List.mem_cons_self]
      | cons c' conns =>
          have hc := hall c List.mem_cons_self
          have hc' := hall c' (List.mem_cons_of_mem _ List.mem_cons_self)
          rw [hc, hc'] at hsub
          exact absurd List.mem_cons_self (List.nodup_cons.mp hsub).1

/-! ## Records by connection -/

section Rows

open RedisRegistryStore (Filters skips)

variable {owner : String → UUID} {rows rows' : Dict String PresenceRecord}
  {record : PresenceRecord} {connId : String}

/-- Every record is under its connection and of its agent, and an agent has at most one. -/
structure Rows (owner : String → UUID) (rows : Dict String PresenceRecord) : Prop where
  keyed : ∀ c r, rows.get? c = some r → r.connId = c
  owned : ∀ c r, rows.get? c = some r → r.agentId = owner c
  single : ∀ c c' r r', rows.get? c = some r → rows.get? c' = some r' →
    r.agentId = r'.agentId → c = c'

/-- The records of a tenant that the filters let through. -/
def ofTenant (rows : Dict String PresenceRecord) (tenantId : String) (filters : Filters) :
    List PresenceRecord :=
  rows.values.filter fun record ↦ record.tenantId = tenantId && !skips filters record

theorem mem_ofTenant {tenantId : String} {r : PresenceRecord} :
    r ∈ ofTenant rows tenantId {} ↔ (∃ c, rows.get? c = some r) ∧ r.tenantId = tenantId := by
  have hskips : skips {} r = false := rfl
  rw [ofTenant, List.mem_filter, Dict.mem_values_iff, hskips]
  simp

/-- Different records have different connections. -/
theorem Rows.nodup (h : Rows owner rows) : (rows.values.map (·.connId)).Nodup := by
  have hkeys : rows.values.map (·.connId) = rows.keys := by
    rw [Dict.values, Dict.keys, List.map_map]
    refine List.map_congr_left fun e he ↦ ?_
    exact h.keyed e.1 e.2 (Dict.get?_of_mem_entries he)
  rw [hkeys]
  exact rows.nodup

/-- An agent that has a record is listed once. -/
theorem Rows.listedOnce {r : PresenceRecord} (h : Rows owner rows)
    (hget : rows.get? record.connId = some r) (hagent : r.agentId = record.agentId) :
    ListedOnce (ofTenant rows · {}) record := by
  have hconn : r.connId = record.connId := h.keyed _ r hget
  have honly : ∀ tenantId, ∀ r' ∈ ofTenant rows tenantId {}, r'.agentId = record.agentId →
      r' = r := by
    intro tenantId r' hr' hagent'
    obtain ⟨⟨c, hc⟩, -⟩ := mem_ofTenant.mp hr'
    obtain rfl := h.single c record.connId r' r hc hget (hagent'.trans hagent.symm)
    exact Option.some.inj (hc.symm.trans hget)
  refine ⟨r.tenantId, ?_, fun tenantId hne r' hr' hagent' ↦ ?_⟩
  · rw [← hconn]
    refine map_filter_eq_singleton (h.nodup.sublist (List.filter_sublist.map _))
      (mem_ofTenant.mpr ⟨⟨_, hget⟩, rfl⟩) hagent fun r' hr' hagent' ↦ ?_
    rw [honly _ r' hr' hagent']
  · have hr := honly tenantId r' hr' hagent'
    exact hne ((mem_ofTenant.mp hr').2.symm.trans (congrArg PresenceRecord.tenantId hr))

/-- Records of the same agents, and no new ones. -/
theorem Rows.less (h : Rows owner rows)
    (hless : ∀ c r', rows'.get? c = some r' → ∃ r, rows.get? c = some r ∧
      r'.connId = r.connId ∧ r'.agentId = r.agentId) : Rows owner rows' where
  keyed c r' hc := by
    obtain ⟨r, hget, hconn, -⟩ := hless c r' hc
    exact hconn.trans (h.keyed c r hget)
  owned c r' hc := by
    obtain ⟨r, hget, -, hagent⟩ := hless c r' hc
    exact hagent.trans (h.owned c r hget)
  single c₁ c₂ r₁' r₂' h₁ h₂ hsame := by
    obtain ⟨r₁, hget₁, -, hagent₁⟩ := hless c₁ r₁' h₁
    obtain ⟨r₂, hget₂, -, hagent₂⟩ := hless c₂ r₂' h₂
    exact h.single c₁ c₂ r₁ r₂ hget₁ hget₂ (hagent₁.symm.trans (hsame.trans hagent₂))

/-- A record for an agent that has no other one. -/
theorem Rows.insert (h : Rows owner rows) (hconn : record.connId = connId)
    (howned : record.agentId = owner connId)
    (hnone : ∀ c r, rows.get? c = some r → r.agentId = record.agentId → c = connId) :
    Rows owner (rows.insert connId record) := by
  refine ⟨fun c r hc ↦ ?_, fun c r hc ↦ ?_, fun c₁ c₂ r₁ r₂ h₁ h₂ hsame ↦ ?_⟩
  · rw [Dict.get?_insert] at hc
    split at hc
    · rename_i hc'
      rw [← Option.some.inj hc, hc']
      exact hconn
    · exact h.keyed c r hc
  · rw [Dict.get?_insert] at hc
    split at hc
    · rename_i hc'
      rw [← Option.some.inj hc, hc']
      exact howned
    · exact h.owned c r hc
  · rw [Dict.get?_insert] at h₁ h₂
    split at h₁
    · rename_i hc₁
      split at h₂
      · rename_i hc₂
        exact hc₁.trans hc₂.symm
      · rw [← Option.some.inj h₁] at hsame
        rw [hc₁, hnone c₂ r₂ h₂ hsame.symm]
    · split at h₂
      · rename_i hc₂
        rw [← Option.some.inj h₂] at hsame
        rw [hc₂, hnone c₁ r₁ h₁ hsame]
      · exact h.single c₁ c₂ r₁ r₂ h₁ h₂ hsame

theorem Rows.oneConnection (h : Rows owner rows) {r r' : PresenceRecord}
    (hr : ∃ c, rows.get? c = some r) (hr' : ∃ c, rows.get? c = some r')
    (hagent : r.agentId = r'.agentId) : r.connId = r'.connId := by
  obtain ⟨c, hc⟩ := hr
  obtain ⟨c', hc'⟩ := hr'
  rw [h.keyed c r hc, h.keyed c' r' hc']
  exact h.single c c' r r' hc hc' hagent

theorem Rows.empty : Rows owner ∅ := by
  refine ⟨fun _ _ h ↦ ?_, fun _ _ h ↦ ?_, fun _ _ _ _ h ↦ ?_⟩
  · cases h
  · cases h
  · cases h

/-- Erasing a record. -/
theorem Rows.erase (h : Rows owner rows) (connId : String) : Rows owner (rows.erase connId) := by
  refine h.less fun c r hc ↦ ⟨r, ?_, rfl, rfl⟩
  rw [Dict.get?_erase] at hc
  exact (Option.ite_none_left_eq_some.mp hc).2

/-- Changing the record of a connection, but not whose it is. -/
theorem Rows.modify (h : Rows owner rows) (connId : String) {f : PresenceRecord → PresenceRecord}
    (hf : ∀ r, (f r).connId = r.connId ∧ (f r).agentId = r.agentId) :
    Rows owner (rows.modify connId f) := by
  refine h.less fun c r hc ↦ ?_
  rw [Dict.get?_modify] at hc
  split at hc
  · rename_i hconn
    obtain ⟨r', hget, rfl⟩ := Option.map_eq_some_iff.mp hc
    exact ⟨r', hconn ▸ hget, hf r'⟩
  · exact ⟨r, hc, rfl, rfl⟩

/-- Changing all records, but not whose they are. -/
theorem Rows.map (h : Rows owner rows) {f : PresenceRecord → PresenceRecord}
    (hf : ∀ r, (f r).connId = r.connId ∧ (f r).agentId = r.agentId) :
    Rows owner (rows.map fun _ r ↦ f r) := by
  refine h.less fun c r hc ↦ ?_
  rw [Dict.get?_map] at hc
  obtain ⟨r', hget, rfl⟩ := Option.map_eq_some_iff.mp hc
  exact ⟨r', hget, hf r'⟩

end Rows

/-! ## In memory -/

structure InMemoryRegistryStore where
  presence : Dict String PresenceRecord := ∅
  byAgent : Dict UUID String := ∅

namespace InMemoryRegistryStore

open RedisRegistryStore (Filters beat)

variable (store : InMemoryRegistryStore)

def upsertPresence (record : PresenceRecord) : InMemoryRegistryStore :=
  -- an old connection with the empty id passes for none
  let presence := match nonempty (store.byAgent.get? record.agentId) with
    | some oldConn =>
        if oldConn ≠ record.connId then store.presence.erase oldConn else store.presence
    | none => store.presence
  { presence := presence.insert record.connId record
    byAgent := store.byAgent.insert record.agentId record.connId }

def heartbeat (now : Time) (connId : String) (load : Option ℚ) : Bool × InMemoryRegistryStore :=
  match store.presence.get? connId with
  | none => (false, store)
  | some _ =>
      (true, { store with presence := store.presence.modify connId fun r ↦ beat r now load })

def remove (connId : String) : Bool × InMemoryRegistryStore :=
  match store.presence.get? connId with
  | none => (false, store)
  | some record =>
      (true, { presence := store.presence.erase connId
               byAgent := store.byAgent.erase record.agentId })

/-- List agents for a tenant with optional filters. -/
def listByTenant (tenantId : String) (filters : Filters) : List PresenceRecord :=
  ofTenant store.presence tenantId filters

def isStale (cutoff : Time) (record : PresenceRecord) : Bool :=
  record.status = "online" && record.lastSeen < cutoff

/-- Mark a record as offline if stale. -/
def markStale (cutoff : Time) (record : PresenceRecord) : PresenceRecord :=
  if isStale cutoff record then { record with status := "offline" } else record

/-- A mark does not change whose a record is. -/
theorem markStale_same (cutoff : Time) (record : PresenceRecord) :
    (markStale cutoff record).connId = record.connId ∧
      (markStale cutoff record).agentId = record.agentId := by
  rw [markStale]
  split
  · exact ⟨rfl, rfl⟩
  · exact ⟨rfl, rfl⟩

/-- Mark agents as offline if stale; their number. -/
def expireStale (now : Time) (timeoutSeconds : ℚ) : Nat × InMemoryRegistryStore :=
  let cutoff := now - Time.timedelta timeoutSeconds
  (store.presence.values.countP (isStale cutoff),
    { store with presence := store.presence.map fun _ record ↦ markStale cutoff record })

def exec (now : Time) (call : RegistryCall) : InMemoryRegistryStore :=
  match call with
  | .upsertPresence record => store.upsertPresence record
  | .upkeep (.heartbeat connId load) => (store.heartbeat now connId load).2
  | .upkeep (.remove connId) => (store.remove connId).2
  | .upkeep (.expireStale timeoutSeconds _) => (store.expireStale now timeoutSeconds).2

def backend : RegistryBackend Time InMemoryRegistryStore where
  now now := now
  exec now call store := store.exec now call
  holds _ store r := ∃ connId, store.presence.get? connId = some r
  listed _ store tenantId := store.listByTenant tenantId {}

/-- An agent whose connection has the empty id keeps it. -/
def KeepsEmpty (x : Time × InMemoryRegistryStore) (a : Time × RegistryCall) : Prop :=
  match a.2 with
  | .upsertPresence record => x.2.byAgent.get? record.agentId = some "" → record.connId = ""
  | .upkeep _ => True

/-- The connection of every agent is known. -/
structure Known (owner : String → UUID) (store : InMemoryRegistryStore) : Prop
    extends Rows owner store.presence where
  byAgent : ∀ c r, store.presence.get? c = some r → store.byAgent.get? r.agentId = some c

variable {store} {owner : String → UUID} {record : PresenceRecord} {now : Time}

/-- The record that an upsert stores is that of its agent alone. -/
theorem Known.upsertPresence (h : Known owner store) (howned : record.agentId = owner record.connId)
    (hkeeps : store.byAgent.get? record.agentId = some "" → record.connId = "") :
    Known owner (store.upsertPresence record) := by
  -- what is left after the old connection is removed
  obtain ⟨presence, hpresence, hless, hold⟩ : ∃ presence : Dict String PresenceRecord,
      (store.upsertPresence record).presence = presence.insert record.connId record ∧
      Rows owner presence ∧ ∀ c r, presence.get? c = some r → store.presence.get? c = some r ∧
        (r.agentId = record.agentId → c = record.connId) := by
    refine ⟨_, rfl, ?_⟩
    cases hbyAgent : store.byAgent.get? record.agentId with
    | none =>
        refine ⟨h.toRows, fun c r hc ↦ ⟨hc, fun hagent ↦ ?_⟩⟩
        have hknown := h.byAgent c r hc
        rw [hagent, hbyAgent] at hknown
        cases hknown
    | some oldConn =>
        have hknown : ∀ c r, store.presence.get? c = some r → r.agentId = record.agentId →
            c = oldConn := by
          intro c r hc hagent
          have hknown := h.byAgent c r hc
          rw [hagent, hbyAgent] at hknown
          exact (Option.some.inj hknown).symm
        by_cases hempty : oldConn = ""
        · have hnone : nonempty (some oldConn) = none := by simp [nonempty, hempty]
          rw [hnone]
          refine ⟨h.toRows, fun c r hc ↦ ⟨hc, fun hagent ↦ ?_⟩⟩
          rw [hknown c r hc hagent, hempty]
          exact (hkeeps (hempty ▸ hbyAgent)).symm
        · have hsome : nonempty (some oldConn) = some oldConn := by simp [nonempty, hempty]
          rw [hsome]
          dsimp only
          split
          · refine ⟨h.toRows.erase oldConn, fun c r hc ↦ ?_⟩
            rw [Dict.get?_erase] at hc
            obtain ⟨hne, hc⟩ := Option.ite_none_left_eq_some.mp hc
            exact ⟨hc, fun hagent ↦ absurd (hknown c r hc hagent) hne⟩
          · rename_i hsame
            refine ⟨h.toRows, fun c r hc ↦ ⟨hc, fun hagent ↦ ?_⟩⟩
            exact (hknown c r hc hagent).trans (not_not.mp hsame)
  refine ⟨?_, fun c r hc ↦ ?_⟩
  · rw [hpresence]
    exact hless.insert rfl howned fun c r hc ↦ (hold c r hc).2
  · rw [hpresence, Dict.get?_insert] at hc
    show (store.byAgent.insert record.agentId record.connId).get? r.agentId = some c
    rw [Dict.get?_insert]
    split at hc
    · rename_i hconn
      rw [← Option.some.inj hc, if_pos rfl, hconn]
    · rename_i hne
      obtain ⟨hc, hsame⟩ := hold c r hc
      rw [if_neg fun hagent ↦ hne (hsame hagent)]
      exact h.byAgent c r hc

/-- A change of records, but not whose they are. -/
theorem Known.less {presence : Dict String PresenceRecord} (h : Known owner store)
    (hrows : Rows owner presence) (hless : ∀ c r', presence.get? c = some r' →
      ∃ r, store.presence.get? c = some r ∧ r'.agentId = r.agentId) :
    Known owner { store with presence := presence } := by
  refine ⟨hrows, fun c r' hc ↦ ?_⟩
  obtain ⟨r, hget, hagent⟩ := hless c r' hc
  rw [hagent]
  exact h.byAgent c r hget

theorem Known.exec {call : RegistryCall} (h : Known owner store)
    (hbelongs : RegistryBackend.Belongs owner call) (hkeeps : KeepsEmpty (now, store) (now, call)) :
    Known owner (store.exec now call) := by
  cases call with
  | upsertPresence record => exact h.upsertPresence hbelongs hkeeps
  | upkeep call =>
      cases call with
      | heartbeat connId load =>
          show Known owner (store.heartbeat now connId load).2
          rw [heartbeat]
          split
          · exact h
          · refine h.less (h.toRows.modify connId fun r ↦ ⟨rfl, rfl⟩) fun c r' hc ↦ ?_
            rw [Dict.get?_modify] at hc
            split at hc
            · rename_i hconn
              obtain ⟨r, hget, rfl⟩ := Option.map_eq_some_iff.mp hc
              exact ⟨r, hconn ▸ hget, rfl⟩
            · exact ⟨r', hc, rfl⟩
      | remove connId =>
          show Known owner (store.remove connId).2
          rw [remove]
          split
          · exact h
          · rename_i record hget
            refine ⟨h.toRows.erase connId, fun c r hc ↦ ?_⟩
            show (store.byAgent.erase record.agentId).get? r.agentId = some c
            have hc : (store.presence.erase connId).get? c = some r := hc
            rw [Dict.get?_erase] at hc
            obtain ⟨hne, hc⟩ := Option.ite_none_left_eq_some.mp hc
            rw [Dict.get?_erase,
              if_neg fun hagent ↦ hne (h.single c connId r record hc hget hagent)]
            exact h.byAgent c r hc
      | expireStale timeoutSeconds batches =>
          refine h.less (h.toRows.map (markStale_same _)) fun c r' hc ↦ ?_
          rw [Dict.get?_map] at hc
          obtain ⟨r, hget, rfl⟩ := Option.map_eq_some_iff.mp hc
          exact ⟨r, hget, (markStale_same _ r).2⟩

/-- In memory the old connection is forgotten unless it has the empty id. -/
theorem keeps_one : backend.KeepsOne KeepsEmpty {} := by
  refine RegistryBackend.keepsOne_of_inv (I := fun owner x ↦ Known owner x.2)
    (fun owner start ↦ ⟨Rows.empty, fun _ _ h ↦ ?_⟩)
    (fun owner x h t _ r r' hr hr' hagent ↦ h.oneConnection hr hr' hagent) ?_ ?_
  · cases h
  · intro owner _ store now call h _ hbelongs hkeeps
    exact h.exec hbelongs hkeeps
  · intro owner _ store now record h _ howned hkeeps
    have h' := h.upsertPresence howned hkeeps
    exact h'.toRows.listedOnce (Dict.get?_insert_self _ _ _) rfl

end InMemoryRegistryStore

/-! ## Over SQL -/

/-- SQLAlchemy implementation of registry storage: the rows by `conn_id`. -/
structure SqlAlchemyRegistryStore where
  rows : Dict String PresenceRecord := ∅

namespace SqlAlchemyRegistryStore

open RedisRegistryStore (Filters beat)
open InMemoryRegistryStore (isStale markStale markStale_same)

variable (store : SqlAlchemyRegistryStore)

/-- The row of a record: one that is there stays that of its agent and tenant. -/
def put (rows : Dict String PresenceRecord) (record : PresenceRecord) :
    Dict String PresenceRecord :=
  match rows.get? record.connId with
  | some existing =>
      rows.insert record.connId
        { existing with
          status := record.status
          capabilities := record.capabilities
          tags := record.tags
          load := record.load
          lastSeen := record.lastSeen
          metadata := record.metadata }
  | none => rows.insert record.connId record

/-- Create or update agent presence; none if the agent has several other rows. -/
def upsertPresence (record : PresenceRecord) : Option SqlAlchemyRegistryStore :=
  match store.rows.values.filter fun r ↦
    r.agentId = record.agentId && r.connId ≠ record.connId with
  | [] => some { rows := put store.rows record }
  | [old] => some { rows := put (store.rows.erase old.connId) record }
  | _ => none

def heartbeat (now : Time) (connId : String) (load : Option ℚ) : Bool × SqlAlchemyRegistryStore :=
  match store.rows.get? connId with
  | none => (false, store)
  | some _ => (true, { rows := store.rows.modify connId fun r ↦ beat r now load })

def remove (connId : String) : Bool × SqlAlchemyRegistryStore :=
  match store.rows.get? connId with
  | none => (false, store)
  | some _ => (true, { rows := store.rows.erase connId })

/-- List agents for a tenant with optional filters. -/
def listByTenant (tenantId : String) (filters : Filters) : List PresenceRecord :=
  ofTenant store.rows tenantId filters

/-- Mark agents as offline if stale; their number. -/
def expireStale (now : Time) (timeoutSeconds : ℚ) : Nat × SqlAlchemyRegistryStore :=
  let cutoff := now - Time.timedelta timeoutSeconds
  (store.rows.values.countP (isStale cutoff),
    { rows := store.rows.map fun _ record ↦ markStale cutoff record })

/-- A call to the store; a transaction that raises changes nothing. -/
def exec (now : Time) (call : RegistryCall) : SqlAlchemyRegistryStore :=
  match call with
  | .upsertPresence record => (store.upsertPresence record).getD store
  | .upkeep (.heartbeat connId load) => (store.heartbeat now connId load).2
  | .upkeep (.remove connId) => (store.remove connId).2
  | .upkeep (.expireStale timeoutSeconds _) => (store.expireStale now timeoutSeconds).2

def backend : RegistryBackend Time SqlAlchemyRegistryStore where
  now now := now
  exec now call store := store.exec now call
  holds _ store r := ∃ connId, store.rows.get? connId = some r
  listed _ store tenantId := store.listByTenant tenantId {}

variable {store} {owner : String → UUID} {record : PresenceRecord} {now : Time}
  {rows : Dict String PresenceRecord}

/-- An agent without rows under other connections has one row after a `put`. -/
theorem rows_put (h : Rows owner rows) (howned : record.agentId = owner record.connId)
    (hnone : ∀ c r, rows.get? c = some r → r.agentId = record.agentId → c = record.connId) :
    Rows owner (put rows record) ∧
      ∃ r, (put rows record).get? record.connId = some r ∧ r.agentId = record.agentId := by
  rw [put]
  cases hget : rows.get? record.connId with
  | none => exact ⟨h.insert rfl howned hnone, record, Dict.get?_insert_self _ _ _, rfl⟩
  | some existing =>
      have hagent : existing.agentId = record.agentId := (h.owned _ _ hget).trans howned.symm
      constructor
      · have hconn : existing.connId = record.connId := h.keyed _ _ hget
        refine h.insert hconn (hagent.trans howned) fun c r hc hsame ↦ ?_
        exact hnone c r hc (hsame.trans hagent)
      · exact ⟨_, Dict.get?_insert_self _ _ _, hagent⟩

/-- The rows of an agent under other connections. -/
theorem mem_others {r : PresenceRecord} (h : Rows owner rows) :
    (r ∈ rows.values.filter fun r ↦ r.agentId = record.agentId && r.connId ≠ record.connId) ↔
      rows.get? r.connId = some r ∧ r.agentId = record.agentId ∧ r.connId ≠ record.connId := by
  rw [List.mem_filter, Dict.mem_values_iff, Bool.and_eq_true, decide_eq_true_iff,
    decide_eq_true_iff]
  refine and_congr_left fun _ ↦ ⟨?_, fun hget ↦ ⟨_, hget⟩⟩
  rintro ⟨c, hget⟩
  rw [h.keyed c r hget]
  exact hget

/-- An upsert finds one other row of its agent at most, and puts its own after removing it. -/
theorem upsertPresence_put (h : Rows owner store.rows) (record : PresenceRecord) :
    ∃ rows, store.upsertPresence record = some { rows := put rows record } ∧ Rows owner rows ∧
      ∀ c r, rows.get? c = some r →
        store.rows.get? c = some r ∧ (r.agentId = record.agentId → c = record.connId) := by
  have hmem := fun r ↦ @mem_others owner record store.rows r h
  have hnodup : (store.rows.values.filter fun r ↦
      r.agentId = record.agentId && r.connId ≠ record.connId).Nodup :=
    h.nodup.of_map.sublist List.filter_sublist
  rw [upsertPresence]
  generalize (store.rows.values.filter fun r ↦
    r.agentId = record.agentId && r.connId ≠ record.connId) = others at hmem hnodup
  cases others with
  | nil =>
      refine ⟨_, rfl, h, fun c r hc ↦ ⟨hc, fun hagent ↦ ?_⟩⟩
      by_contra hne
      have hconn := h.keyed c r hc
      have hmem := (hmem r).mpr ⟨hconn ▸ hc, hagent, hconn ▸ hne⟩
      cases hmem
  | cons old others =>
      obtain ⟨hold, hagent, hne⟩ := (hmem old).mp List.mem_cons_self
      cases others with
      | nil =>
          refine ⟨_, rfl, h.erase old.connId, fun c r hc ↦ ?_⟩
          rw [Dict.get?_erase] at hc
          obtain ⟨hne', hc⟩ := Option.ite_none_left_eq_some.mp hc
          refine ⟨hc, fun hagent' ↦ ?_⟩
          exact absurd (h.single c old.connId r old hc hold (hagent'.trans hagent.symm)) hne'
      | cons old' others =>
          have hmem' : old' ∈ old :: old' :: others := List.mem_cons_of_mem _ List.mem_cons_self
          obtain ⟨hold', hagent', -⟩ := (hmem old').mp hmem'
          have hconn := h.single _ _ old old' hold hold' (hagent.trans hagent'.symm)
          rw [← hconn, hold] at hold'
          obtain rfl := Option.some.inj hold'
          exact absurd List.mem_cons_self (List.nodup_cons.mp hnodup).1

/-- The row of an upsert is the only one of its agent. -/
theorem upsertPresence_rows (h : Rows owner store.rows)
    (howned : record.agentId = owner record.connId) :
    ∃ store', store.upsertPresence record = some store' ∧ Rows owner store'.rows ∧
      ∃ r, store'.rows.get? record.connId = some r ∧ r.agentId = record.agentId := by
  obtain ⟨rows, hupsert, hrows, honly⟩ := upsertPresence_put h record
  exact ⟨_, hupsert, rows_put hrows howned fun c r hc ↦ (honly c r hc).2⟩

theorem rows_exec {call : RegistryCall} (h : Rows owner store.rows)
    (hbelongs : RegistryBackend.Belongs owner call) : Rows owner (store.exec now call).rows := by
  cases call with
  | upsertPresence record =>
      obtain ⟨store', hstore', hrows, -⟩ := upsertPresence_rows h hbelongs
      show Rows owner ((store.upsertPresence record).getD store).rows
      rw [hstore']
      exact hrows
  | upkeep call =>
      cases call with
      | heartbeat connId load =>
          show Rows owner (store.heartbeat now connId load).2.rows
          rw [heartbeat]
          split
          · exact h
          · exact h.modify connId fun r ↦ ⟨rfl, rfl⟩
      | remove connId =>
          show Rows owner (store.remove connId).2.rows
          rw [remove]
          split
          · exact h
          · exact h.erase connId
      | expireStale timeoutSeconds batches => exact h.map (markStale_same _)

/-- Over SQL the old connection is always forgotten. -/
theorem keeps_one : backend.KeepsOne (fun _ _ ↦ True) {} := by
  refine RegistryBackend.keepsOne_of_inv (I := fun owner x ↦ Rows owner x.2.rows)
    (fun owner start ↦ Rows.empty) ?_ ?_ ?_
  · intro owner x h t _ r r' hr hr' hagent
    have h : Rows owner x.2.rows := h
    exact h.oneConnection hr hr' hagent
  · intro owner _ store now call h _ hbelongs _
    exact rows_exec h hbelongs
  · intro owner _ store now record h _ howned _
    obtain ⟨store', hstore', hrows, r, hget, hagent⟩ := upsertPresence_rows h howned
    have hexec : backend.exec now (.upsertPresence record) store = store' := by
      show (store.upsertPresence record).getD store = store'
      rw [hstore']
      rfl
    rw [hexec]
    exact hrows.listedOnce hget hagent

end SqlAlchemyRegistryStore

end SemanticBus
