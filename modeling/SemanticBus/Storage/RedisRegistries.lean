import SemanticBus.Storage.Listing
import SemanticBus.Storage.Registries

/-!
# One connection for each agent, over Redis

Over Redis nothing forgets the old connection of an agent that connects again: its
record is there until it expires.  An agent has one connection only if the old record
has expired or was removed before (`one_connection`), and is listed once only if its
connection is not left in the index of another tenant, and no key of a record is taken
for that of an index.
-/

namespace SemanticBus


namespace RedisRegistryStore

variable (store : RedisRegistryStore)

def recordsOf : PresenceReply → List PresenceRecord
  | .listed records => records
  | _ => []

/-- The store over Redis, with its calls one after the other. -/
def backend : RegistryBackend PresenceEnv RedisPresence where
  now env := env.now
  exec env call s := match call with
    | .upsertPresence record => store.exec env.now s (.upsertPresence record)
    | .upkeep (.heartbeat connId load) => store.exec env.now s (.heartbeat connId load)
    | .upkeep (.remove connId) => store.exec env.now s (.remove connId)
    | .upkeep (.expireStale timeoutSeconds batches) =>
        ((store.expireStale timeoutSeconds batches).run env s).2
  holds t s r := ∃ key, s.read t key = some (.record r)
  listed t s tenantId := recordsOf (store.listing t s tenantId)

/-- The agent of a record is on no other connection, and the keys are those of their types. -/
structure Free (now : Time) (s : RedisPresence) (record : PresenceRecord) : Prop where
  /-- The agent has no record under another connection. -/
  agent : ∀ r, store.backend.holds now s r → r.agentId = record.agentId →
    r.connId = record.connId
  /-- The connection is not in the index of another tenant. -/
  conn : ∀ tenantId, tenantId ≠ record.tenantId →
    store.tenantIndexKey tenantId ≠ store.presenceKey record.connId →
    ¬ Member s now (store.tenantIndexKey tenantId) record.connId
  key : store.presenceKey record.connId ≠ store.tenantIndexKey record.tenantId
  index : ∀ r, s.read now (store.tenantIndexKey record.tenantId) ≠ some (.record r)
  members : ∀ connId, connId ≠ record.connId →
    Member s now (store.tenantIndexKey record.tenantId) connId →
    ∀ members, s.read now (store.presenceKey connId) ≠ some (.conns members)

def UpsertsFree (x : Time × RedisPresence) (a : PresenceEnv × RegistryCall) : Prop :=
  match a.2 with
  | .upsertPresence record => store.Free a.1.now x.2 record
  | .upkeep _ => True

variable {store} {s s' s'' : RedisPresence} {now t : Time} {owner : String → UUID}
  {record : PresenceRecord} {connId : String}

/-! ### Fading -/

/-- A record of the same connection, or a part of a set. -/
def Same : PresenceValue → PresenceValue → Prop
  | .record r, .record r' => r'.connId = r.connId ∧ r'.agentId = r.agentId
  | .conns members, .conns members' => members' ⊆ members
  | _, _ => False

/-- What is there later was there before. -/
def Fades (now : Time) (s s' : RedisPresence) : Prop :=
  ∀ t, now ≤ t → ∀ key v', s'.read t key = some v' → ∃ v, s.read now key = some v ∧ Same v v'

theorem Same.refl (v : PresenceValue) : Same v v := by
  cases v with
  | record r => exact ⟨rfl, rfl⟩
  | conns members => exact Finset.Subset.refl _

theorem Same.trans {v v' v'' : PresenceValue} (h : Same v v') (h' : Same v' v'') :
    Same v v'' := by
  cases v <;> cases v' <;> cases v'' <;> first | exact h.elim | exact h'.elim | skip
  · exact ⟨h'.1.trans h.1, h'.2.trans h.2⟩
  · exact Finset.Subset.trans h' h

theorem Fades.refl (now : Time) (s : RedisPresence) : Fades now s s :=
  fun _ ht _ v hread ↦ ⟨v, Expiring.read_of_le hread ht, Same.refl v⟩

theorem Fades.trans (h : Fades now s s') (h' : Fades now s' s'') : Fades now s s'' := by
  intro t ht key v'' hread
  obtain ⟨v', hread', hsame'⟩ := h' t ht key v'' hread
  obtain ⟨v, hread, hsame⟩ := h now le_rfl key v' hread'
  exact ⟨v, hread, hsame.trans hsame'⟩

/-- Writing a record back. -/
theorem Fades.write {key : String} {r r' : PresenceRecord} (expiry : Time)
    (hread : s.read now key = some (.record r)) (hconn : r'.connId = r.connId)
    (hagent : r'.agentId = r.agentId) :
    Fades now s (s.write key (.record r') (some expiry)) := by
  intro t ht key' v' hread'
  by_cases hkey : key' = key
  · rw [hkey, Expiring.read_write_self] at hread'
    split at hread'
    · cases hread'
      exact ⟨.record r, hkey ▸ hread, hconn, hagent⟩
    · cases hread'
  · rw [Expiring.read_write_of_ne _ _ hkey] at hread'
    exact Fades.refl now s t ht key' v' hread'

theorem fades_heartbeat (store : RedisRegistryStore) (now : Time) (s : RedisPresence)
    (connId : String) (load : Option ℚ) :
    Fades now s (store.exec now s (.heartbeat connId load)) := by
  rw [exec_heartbeat]
  split
  · rename_i record hgot
    exact .write _ (got_found_iff.mp hgot) rfl rfl
  · exact .refl now s

theorem fades_erase (now : Time) (s : RedisPresence) (key : String) :
    Fades now s (Dict.erase s key) := by
  intro t ht key' v' hread
  rw [Expiring.read_erase] at hread
  split at hread
  · cases hread
  · exact Fades.refl now s t ht key' v' hread

/-- Leaving a member out. -/
theorem fades_change {key : String} {members : Finset String}
    (hread : s.read now key = some (.conns members)) (connId : String) :
    Fades now s (s.change now key fun _ ↦ .conns (members.erase connId)) := by
  intro t ht key' v' hread'
  by_cases hkey : key' = key
  · rw [hkey, Expiring.read_change_of_some _ hread] at hread'
    obtain ⟨v, -, rfl⟩ := Option.map_eq_some_iff.mp hread'
    exact ⟨.conns members, hkey ▸ hread, Finset.erase_subset _ _⟩
  · rw [Expiring.read_change_of_ne _ hkey] at hread'
    exact Fades.refl now s t ht key' v' hread'

theorem fades_remove (store : RedisRegistryStore) (now : Time) (s : RedisPresence)
    (connId : String) : Fades now s (store.exec now s (.remove connId)) := by
  show Fades now s ((store.remove connId).run { now := now } s).2
  rw [remove, Prog.run_bind, getRecord, Prog.run_query]
  dsimp only
  cases got { now := now } s (store.presenceKey connId) with
  | missing => exact .refl now s
  | wrongType => exact .refl now s
  | found record =>
      dsimp only
      rw [removeFound, Prog.run_bind, removeMember, Prog.run_command]
      dsimp only
      cases hread : s.read now (store.tenantIndexKey record.tenantId) with
      | none => exact fades_erase now s _
      | some v =>
          cases v with
          | record record => exact .refl now s
          | conns members =>
              refine Fades.trans ?_ (fades_erase now _ _)
              dsimp only
              split
              · exact fades_erase now s _
              · exact fades_change hread connId

/-- A sweep over some keys marks the records that are there. -/
theorem fades_expireKeys {env : PresenceEnv} {cutoff : Time} {timeoutSeconds : ℚ}
    {next : Nat → PresenceProg PresenceReply}
    (hnext : ∀ count s, Fades env.now s ((next count).run env s).2) (keys : List String)
    (count : Nat) (s : RedisPresence) :
    Fades env.now s
      ((store.expireKeys cutoff timeoutSeconds next keys count).run env s).2 := by
  induction keys generalizing count s with
  | nil => exact hnext count s
  | cons key keys ih =>
      rw [expireKeys]
      split
      · exact ih count s
      · rw [Prog.run_bind, getRecord, Prog.run_query]
        dsimp only
        cases hgot : got env s key with
        | missing => exact ih count s
        | wrongType => exact .refl _ s
        | found record =>
            dsimp only
            split
            · rw [Prog.run_bind, setRecord, Prog.run_modify]
              have hwrite : Fades env.now s (s.write key
                  (.record { record with status := "offline" })
                  (some (env.now + Time.seconds store.ttl))) :=
                .write _ (got_found_iff.mp hgot) rfl rfl
              exact hwrite.trans (ih _ _)
            · exact ih count s

theorem fades_expireBatches {env : PresenceEnv} {cutoff : Time} {timeoutSeconds : ℚ}
    (batches count : Nat) (s : RedisPresence) :
    Fades env.now s ((store.expireBatches cutoff timeoutSeconds batches count).run env s).2 := by
  induction batches generalizing count s with
  | zero => exact .refl _ s
  | succ batches ih =>
      rw [expireBatches, Prog.run_bind, scan, Prog.run_query]
      exact fades_expireKeys ih _ _ _

/-- Without upserts the records fade. -/
theorem fades_upkeep (store : RedisRegistryStore) (env : PresenceEnv) (s : RedisPresence)
    (call : UpkeepCall) :
    Fades env.now s (store.backend.exec env (.upkeep call) s) := by
  cases call with
  | heartbeat connId load => exact fades_heartbeat store env.now s connId load
  | remove connId => exact fades_remove store env.now s connId
  | expireStale timeoutSeconds batches =>
      show Fades env.now s ((store.expireStale timeoutSeconds batches).run env s).2
      rw [expireStale, Prog.run_bind, Prog.run_ask]
      exact fades_expireBatches batches 0 s

/-! ### Records that are alone -/

/-- Every record is that of its agent, and an agent has at most one. -/
structure Alone (store : RedisRegistryStore) (owner : String → UUID) (now : Time)
    (s : RedisPresence) : Prop where
  keyed : store.Keyed s now
  owned : ∀ r, store.backend.holds now s r → r.agentId = owner r.connId
  single : ∀ r r', store.backend.holds now s r → store.backend.holds now s r' →
    r.agentId = r'.agentId → r.connId = r'.connId

theorem holds_of_le {r : PresenceRecord} (h : store.backend.holds t s r) (hle : now ≤ t) :
    store.backend.holds now s r :=
  h.imp fun _ hread ↦ Expiring.read_of_le hread hle

theorem Alone.mono (h : store.Alone owner now s) (hle : now ≤ t) : store.Alone owner t s where
  keyed key r hread := h.keyed key r (Expiring.read_of_le hread hle)
  owned r hr := h.owned r (holds_of_le hr hle)
  single r r' hr hr' := h.single r r' (holds_of_le hr hle) (holds_of_le hr' hle)

theorem Fades.holds (h : Fades now s s') {r' : PresenceRecord}
    (hr' : store.backend.holds now s' r') :
    ∃ r, store.backend.holds now s r ∧ r'.connId = r.connId ∧ r'.agentId = r.agentId := by
  obtain ⟨key, hread'⟩ := hr'
  obtain ⟨v, hread, hsame⟩ := h now le_rfl key _ hread'
  cases v with
  | record r => exact ⟨r, ⟨key, hread⟩, hsame⟩
  | conns members => exact hsame.elim

theorem Alone.fades (h : store.Alone owner now s) (hfades : Fades now s s') :
    store.Alone owner now s' where
  keyed := by
    intro key r' hread'
    obtain ⟨v, hread, hsame⟩ := hfades now le_rfl key _ hread'
    cases v with
    | record r =>
        rw [show r'.connId = r.connId from hsame.1]
        exact h.keyed key r hread
    | conns members => exact hsame.elim
  owned r' hr' := by
    obtain ⟨r, hr, hconn, hagent⟩ := hfades.holds hr'
    rw [hconn, hagent]
    exact h.owned r hr
  single r₁' r₂' h₁ h₂ hagent := by
    obtain ⟨r₁, hr₁, hconn₁, hagent₁⟩ := hfades.holds h₁
    obtain ⟨r₂, hr₂, hconn₂, hagent₂⟩ := hfades.holds h₂
    rw [hconn₁, hconn₂]
    exact h.single r₁ r₂ hr₁ hr₂ (hagent₁.symm.trans (hagent.trans hagent₂))

/-- What is there after an upsert. -/
theorem Upserted.holds (h : store.Upserted now record s s') {r : PresenceRecord}
    (hr : store.backend.holds now s' r) :
    r = { record with lastSeen := now } ∨ store.backend.holds now s r := by
  obtain ⟨key, hread⟩ := hr
  by_cases hkey : key = store.presenceKey record.connId
  · rw [hkey, h.stored] at hread
    split at hread
    · cases hread
      exact .inl rfl
    · cases hread
  · by_cases hkey' : key = store.tenantIndexKey record.tenantId
    · obtain ⟨members, -, hindex⟩ := h.index
      rw [hkey', hindex] at hread
      split at hread
      · cases hread
      · cases hread
    · rw [h.other now key hkey hkey'] at hread
      exact .inr ⟨key, hread⟩

theorem Free.upserted (h : store.Free now s record) :
    store.Upserted now record s (store.exec now s (.upsertPresence record)) :=
  upserted_of_ne h.key h.index

theorem Alone.upsert (h : store.Alone owner now s) (howned : record.agentId = owner record.connId)
    (hfree : store.Free now s record) :
    store.Alone owner now (store.exec now s (.upsertPresence record)) := by
  have hup := hfree.upserted
  refine ⟨fun key r hread ↦ ?_, fun r hr ↦ ?_, fun r r' hr hr' hagent ↦ ?_⟩
  · by_cases hkey : key = store.presenceKey record.connId
    · rw [hkey, hup.stored] at hread
      split at hread
      · cases hread
        exact hkey
      · cases hread
    · by_cases hkey' : key = store.tenantIndexKey record.tenantId
      · obtain ⟨members, -, hindex⟩ := hup.index
        rw [hkey', hindex] at hread
        split at hread
        · cases hread
        · cases hread
      · rw [hup.other now key hkey hkey'] at hread
        exact h.keyed key r hread
  · rcases hup.holds hr with rfl | hr
    · exact howned
    · exact h.owned r hr
  · rcases hup.holds hr with rfl | hr
    · rcases hup.holds hr' with rfl | hr'
      · rfl
      · exact (hfree.agent r' hr' hagent.symm).symm
    · rcases hup.holds hr' with rfl | hr'
      · exact hfree.agent r hr hagent
      · exact h.single r r' hr hr' hagent

/-! ### The listings -/

/-- A set where a record should be. -/
theorem getRecords_none {env : PresenceEnv} {keys : List String} {key : String}
    (hkey : key ∈ keys) (hgot : got env s key = .wrongType) :
    ((getRecords keys).run env s).1 = none := by
  rw [getRecords, Prog.run_query]
  dsimp only
  rw [Option.map_eq_none_iff]
  induction keys with
  | nil => cases hkey
  | cons key' keys ih =>
      rw [List.mapM_cons]
      rcases List.mem_cons.mp hkey with rfl | hkey
      · rw [hgot]
        rfl
      · rw [ih hkey]
        cases (got env s key').records with
        | none => rfl
        | some records => rfl

/-- A record that a listing returns. -/
theorem Keyed.of_mem_listing (h : store.Keyed s now) {tenantId : String} {r : PresenceRecord}
    (hr : r ∈ recordsOf (store.listing now s tenantId)) :
    Member s now (store.tenantIndexKey tenantId) r.connId ∧
      s.read now (store.presenceKey r.connId) = some (.record r) := by
  -- otherwise the listing raises
  have hindex : ∀ r', s.read now (store.tenantIndexKey tenantId) ≠ some (.record r') := by
    intro r' hread
    rw [RedisRegistryStore.listing, listByTenant, Prog.run_bind, getMembers, Prog.run_query] at hr
    dsimp only at hr
    rw [hread] at hr
    cases hr
  have hsets : ∀ connId, Member s now (store.tenantIndexKey tenantId) connId →
      got { now := now } s (store.presenceKey connId) ≠ .wrongType := by
    rintro connId ⟨members, hread, hmem⟩ hgot
    rw [RedisRegistryStore.listing, listByTenant, Prog.run_bind, getMembers, Prog.run_query] at hr
    dsimp only at hr
    rw [hread] at hr
    have hmem : connId ∈ members.sort := (Finset.mem_sort _).mpr hmem
    dsimp only at hr
    generalize members.sort = connIds at hr hmem
    cases connIds with
    | nil => cases hmem
    | cons c connIds =>
        dsimp only at hr
        rw [Prog.run_bind, getRecords_none (List.mem_map_of_mem hmem) hgot] at hr
        cases hr
  obtain ⟨records, hlisting, hmem, -⟩ := h.listing hindex hsets
  rw [hlisting] at hr
  obtain ⟨c, hmember, hread⟩ := (hmem r).mp hr
  have hconn := presenceKey_injective (h _ _ hread)
  rw [hconn] at hmember hread
  exact ⟨hmember, hread⟩

/-- After its upsert an agent is listed once, under its tenant. -/
theorem Alone.listedOnce (h : store.Alone owner now s)
    (howned : record.agentId = owner record.connId) (hfree : store.Free now s record) :
    ListedOnce (store.backend.listed now (store.exec now s (.upsertPresence record))) record := by
  have hup := hfree.upserted
  have hafter := h.upsert howned hfree
  generalize store.exec now s (.upsertPresence record) = s' at hup hafter
  have hlater : now < now + Time.seconds store.ttl :=
    lt_add_of_pos_right now (Int.mul_pos store.ttl_pos (by decide))
  have hread : s'.read now (store.presenceKey record.connId)
      = some (.record { record with lastSeen := now }) := by
    rw [hup.stored, if_pos hlater]
  have hconn : ∀ tenantId, ∀ r ∈ store.backend.listed now s' tenantId,
      r.agentId = record.agentId → r.connId = record.connId := by
    intro tenantId r hr hagent
    have hheld : store.backend.holds now s' r := ⟨_, (hafter.keyed.of_mem_listing hr).2⟩
    exact hafter.single r { record with lastSeen := now } hheld ⟨_, hread⟩ hagent
  refine ⟨record.tenantId, ?_, fun tenantId hne r hr hagent ↦ ?_⟩
  · obtain ⟨members, hmembers, hindex⟩ := hup.index
    have hindex : s'.read now (store.tenantIndexKey record.tenantId) = some (.conns members) := by
      rw [hindex, if_pos hlater]
    have hnorecord : ∀ r, s'.read now (store.tenantIndexKey record.tenantId)
        ≠ some (.record r) := by
      intro r hrecord
      cases hindex.symm.trans hrecord
    -- no other member has a set for a record
    have hsets : ∀ c, Member s' now (store.tenantIndexKey record.tenantId) c →
        got { now := now } s' (store.presenceKey c) ≠ .wrongType := by
      rintro c ⟨members', hmembers', hc⟩ hgot
      obtain ⟨set, hset⟩ := got_wrongType_iff.mp hgot
      cases hindex.symm.trans hmembers'
      by_cases hsame : c = record.connId
      · rw [hsame, hread] at hset
        cases hset
      · have hmember : Member s now (store.tenantIndexKey record.tenantId) c :=
          ((hmembers c).mp hc).resolve_left hsame
        have hkey : store.presenceKey c ≠ store.tenantIndexKey record.tenantId := by
          intro hkey
          obtain ⟨old, hold, hc⟩ := hmember
          exact hfree.members c hsame ⟨old, hold, hc⟩ old (hkey ▸ hold)
        rw [hup.other now _ (fun heq ↦ hsame (presenceKey_injective heq)) hkey] at hset
        exact hfree.members c hsame hmember set hset
    obtain ⟨records, hlisting, hmem, hnodup⟩ := hafter.keyed.listing hnorecord hsets
    have hrecords : store.backend.listed now s' record.tenantId = records :=
      congrArg recordsOf hlisting
    have hlisted : { record with lastSeen := now } ∈ records :=
      (hmem _).mpr ⟨record.connId, ⟨members, hindex, (hmembers _).mpr (.inl rfl)⟩, hread⟩
    have hone := hconn record.tenantId
    rw [hrecords] at hone ⊢
    have hsingle := map_filter_eq_singleton hnodup hlisted rfl hone
    exact hsingle
  · -- the connection would be in the index of another tenant
    obtain ⟨⟨members, hmembers, hmem⟩, -⟩ := hafter.keyed.of_mem_listing hr
    rw [hconn tenantId r hr hagent] at hmem
    by_cases hkey : store.tenantIndexKey tenantId = store.presenceKey record.connId
    · rw [hkey, hread] at hmembers
      cases hmembers
    · rw [hup.other now _ hkey (fun heq ↦ hne (tenantIndexKey_injective heq))] at hmembers
      exact hfree.conn tenantId hne hkey ⟨members, hmembers, hmem⟩

/-- Over Redis an agent has one connection if the old ones are gone before it connects again. -/
theorem keeps_one (store : RedisRegistryStore) : store.backend.KeepsOne store.UpsertsFree ∅ := by
  refine RegistryBackend.keepsOne_of_inv (I := fun owner x ↦ store.Alone owner x.1 x.2) ?_ ?_ ?_ ?_
  · intro owner start
    refine ⟨fun _ _ h ↦ ?_, fun _ h ↦ ?_, fun _ _ h ↦ ?_⟩
    · cases h
    · obtain ⟨_, h⟩ := h
      cases h
    · obtain ⟨_, h⟩ := h
      cases h
  · intro owner x h t hle r r' hr hr'
    exact h.single r r' (holds_of_le hr hle) (holds_of_le hr' hle)
  · intro owner now s env call h hle hbelongs hgood
    have h : store.Alone owner env.now s := h.mono hle
    cases call with
    | upsertPresence record => exact h.upsert hbelongs hgood
    | upkeep call => exact h.fades (fades_upkeep store env s call)
  · intro owner now s env record h hle howned hgood
    have h : store.Alone owner env.now s := h.mono hle
    exact h.listedOnce howned hgood

end RedisRegistryStore

/-- Every store of presence keeps one connection for each agent, over SQL always, in memory unless
the old connection has the empty id, and over Redis if the old one is gone. -/
theorem one_connection (store : RedisRegistryStore) :
    InMemoryRegistryStore.backend.KeepsOne InMemoryRegistryStore.KeepsEmpty {} ∧
      SqlAlchemyRegistryStore.backend.KeepsOne (fun _ _ ↦ True) {} ∧
      store.backend.KeepsOne store.UpsertsFree ∅ :=
  ⟨InMemoryRegistryStore.keeps_one, SqlAlchemyRegistryStore.keeps_one,
    RedisRegistryStore.keeps_one store⟩

def presenceOn (connId : String) : PresenceRecord :=
  { RedisRegistryStore.samplePresence with connId := connId }

/-- In memory an agent whose connection has the empty id gets a second one, and over Redis any
agent does. -/
theorem two_connections :
    ¬ InMemoryRegistryStore.backend.KeepsOne (fun _ _ ↦ True) {} ∧
      ¬ (RedisRegistryStore.backend {}).KeepsOne (fun _ _ ↦ True) ∅ := by
  constructor
  · intro h
    have hrun : Run (Step.Only (fun _ _ ↦ True)
        (InMemoryRegistryStore.backend.Calls fun _ ↦ ⟨1⟩)) (0, {})
        [(0, .upsertPresence (presenceOn "")), (0, .upsertPresence (presenceOn "b"))] _ :=
      .cons ⟨trivial, le_rfl, rfl, rfl⟩ (.cons ⟨trivial, le_rfl, rfl, rfl⟩ (.nil _))
    have hone := (h _ _ _ _ hrun).1 0 le_rfl (presenceOn "") (presenceOn "b") ⟨"", rfl⟩
      ⟨"b", rfl⟩ rfl
    have hne : (presenceOn "").connId ≠ (presenceOn "b").connId := by decide
    exact hne hone
  · intro h
    have hrun : Run (Step.Only (fun _ _ ↦ True)
        ((RedisRegistryStore.backend {}).Calls fun _ ↦ ⟨1⟩)) (0, ∅)
        [({ now := 0 }, .upsertPresence (presenceOn "a")),
          ({ now := 0 }, .upsertPresence (presenceOn "b"))] _ :=
      .cons ⟨trivial, le_rfl, rfl, rfl⟩ (.cons ⟨trivial, le_rfl, rfl, rfl⟩ (.nil _))
    have hone := (h _ _ _ _ hrun).1 0 le_rfl (presenceOn "a") (presenceOn "b")
      ⟨"lip:presence:a", rfl⟩ ⟨"lip:presence:b", rfl⟩ rfl
    have hne : (presenceOn "a").connId ≠ (presenceOn "b").connId := by decide
    exact hne hone

end SemanticBus
