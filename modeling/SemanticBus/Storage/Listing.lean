import Mathlib.Data.List.Chain
import Mathlib.Data.List.Induction
import SemanticBus.Storage.Presence

/-!
# Listing the agents of a tenant

Over Redis a listing goes through the index of the tenant, a key of its own with a
lifetime of its own.  `upsert_presence` renews the index and `heartbeat` does not, so
an agent that only sends heartbeats drops out of the listing.  An agent is listed
exactly as long as the upserts of its tenant, from its own on, follow one another
within the lifetime of a key (`listed_iff`).
-/

namespace SemanticBus

inductive PresenceCall where
  | upsertPresence (record : PresenceRecord)
  | heartbeat (connId : String) (load : Option ℚ)
  | remove (connId : String)

namespace RedisRegistryStore

/-- The server after a call at a clock reading. -/
def exec (store : RedisRegistryStore) (now : Time) (s : RedisPresence) :
    PresenceCall → RedisPresence
  | .upsertPresence record => ((store.upsertPresence record).run { now := now } s).2
  | .heartbeat connId load => ((store.heartbeat connId load).run { now := now } s).2
  | .remove connId => ((store.remove connId).run { now := now } s).2

/-- The server after some calls. -/
def after (store : RedisRegistryStore) (calls : List (Time × PresenceCall)) : RedisPresence :=
  calls.foldl (fun s call ↦ store.exec call.1 s call.2) ∅

/-- What a listing without other filters returns. -/
def listing (store : RedisRegistryStore) (now : Time) (s : RedisPresence) (tenantId : String) :
    PresenceReply := ((store.listByTenant tenantId {}).run { now := now } s).1

/-- The connection does not take its record for the index of a tenant. -/
def plain (connId : String) : Prop := ¬ "tenant:".toList <+: connId.toList

instance (connId : String) : Decidable (plain connId) := inferInstanceAs (Decidable (¬ _))

def upserts (tenantId : String) (calls : List (Time × PresenceCall)) : List Time :=
  calls.filterMap fun call ↦
    match call.2 with
    | .upsertPresence record => if record.tenantId = tenantId then some call.1 else none
    | _ => none

def Upserts (connId : String) : PresenceCall → Prop
  | .upsertPresence record => record.connId = connId
  | _ => False

/-- Each time comes within the lifetime of a key from the one before. -/
def Renewed (store : RedisRegistryStore) (times : List Time) : Prop :=
  times.IsChain fun t t' ↦ t' < t + Time.seconds store.ttl

/-! ## Keys -/

variable {store : RedisRegistryStore} {s s' : RedisPresence} {now t : Time} {connId : String}
  {tenantId key : String} {record : PresenceRecord} {call : PresenceCall}

theorem presenceKey_injective : Function.Injective store.presenceKey := by
  intro c c' h
  have hlist := congrArg String.toList h
  simp only [presenceKey, String.toList_append, List.append_assoc] at hlist
  exact String.toList_injective (List.append_cancel_left (List.append_cancel_left hlist))

theorem tenantIndexKey_injective : Function.Injective store.tenantIndexKey := by
  intro t t' h
  have hlist := congrArg String.toList h
  simp only [tenantIndexKey, String.toList_append, List.append_assoc] at hlist
  exact String.toList_injective (List.append_cancel_left (List.append_cancel_left hlist))

theorem presenceKey_ne_tenantIndexKey (h : plain connId) (tenantId : String) :
    store.presenceKey connId ≠ store.tenantIndexKey tenantId := by
  intro heq
  have hlist := congrArg String.toList heq
  simp only [presenceKey, tenantIndexKey, String.toList_append, List.append_assoc] at hlist
  have hrest := List.append_cancel_left hlist
  rw [show ":presence:tenant:".toList = ":presence:".toList ++ "tenant:".toList from rfl,
    List.append_assoc] at hrest
  exact h ⟨_, (List.append_cancel_left hrest).symm⟩

def Typed (store : RedisRegistryStore) (key : String) : PresenceValue → Prop
  | .record record => key = store.presenceKey record.connId ∧ plain record.connId
  | .conns members => (∃ tenantId, key = store.tenantIndexKey tenantId) ∧ ∀ c ∈ members, plain c

/-- From now on every value is under a key of its type. -/
def Kinds (store : RedisRegistryStore) (s : RedisPresence) (now : Time) : Prop :=
  ∀ t, now ≤ t → ∀ key v, s.read t key = some v → store.Typed key v

/-- Every record is under the key of its connection. -/
def Keyed (store : RedisRegistryStore) (s : RedisPresence) (now : Time) : Prop :=
  ∀ key r, s.read now key = some (.record r) → key = store.presenceKey r.connId

def Member (s : RedisPresence) (t : Time) (key connId : String) : Prop :=
  ∃ members, s.read t key = some (.conns members) ∧ connId ∈ members

theorem Kinds.mono (h : store.Kinds s now) (hle : now ≤ t) : store.Kinds s t :=
  fun t' ht' ↦ h t' (hle.trans ht')

theorem Kinds.keyed (h : store.Kinds s now) : store.Keyed s now :=
  fun key _ hread ↦ (h now le_rfl key _ hread).1

/-- A key that holds no record holds a set, if anything. -/
theorem read_of_no_record (h : ∀ record, s.read t key ≠ some (.record record)) :
    s.read t key = none ∨ ∃ members, s.read t key = some (.conns members) := by
  cases hread : s.read t key with
  | none => exact .inl rfl
  | some v =>
      cases v with
      | conns members => exact .inr ⟨members, rfl⟩
      | record record => exact absurd hread (h record)

/-- An index holds no record. -/
theorem Kinds.index_ne (h : store.Kinds s now) (hle : now ≤ t) (tenantId : String)
    (record : PresenceRecord) :
    s.read t (store.tenantIndexKey tenantId) ≠ some (.record record) := by
  intro hread
  obtain ⟨hkey, hplain⟩ := h t hle _ _ hread
  exact presenceKey_ne_tenantIndexKey hplain tenantId hkey.symm

/-- An index holds a set, if anything. -/
theorem Kinds.index (h : store.Kinds s now) (hle : now ≤ t) (tenantId : String) :
    s.read t (store.tenantIndexKey tenantId) = none ∨
      ∃ members, s.read t (store.tenantIndexKey tenantId) = some (.conns members) :=
  read_of_no_record (h.index_ne hle tenantId)

/-! ## What the calls do -/

/-- What an upsert does: the record and the index have a lifetime from now on. -/
structure Upserted (store : RedisRegistryStore) (now : Time) (record : PresenceRecord)
    (s s' : RedisPresence) : Prop where
  stored : ∀ t, s'.read t (store.presenceKey record.connId)
    = if t < now + Time.seconds store.ttl then some (.record { record with lastSeen := now })
      else none
  index : ∃ members, (∀ c, c ∈ members ↔
      c = record.connId ∨ Member s now (store.tenantIndexKey record.tenantId) c) ∧
    ∀ t, s'.read t (store.tenantIndexKey record.tenantId)
      = if t < now + Time.seconds store.ttl then some (.conns members) else none
  other : ∀ t key, key ≠ store.presenceKey record.connId →
    key ≠ store.tenantIndexKey record.tenantId → s'.read t key = s.read t key

def addConn (connId : String) : Option PresenceValue → PresenceValue
  | some (.conns members) => .conns (insert connId members)
  | _ => .conns {connId}

/-- An upsert works if the keys of the record and of the index are not the same, and the index
holds no record. -/
theorem upserted_of_ne
    (hne : store.presenceKey record.connId ≠ store.tenantIndexKey record.tenantId)
    (hrecord : ∀ r, s.read now (store.tenantIndexKey record.tenantId) ≠ some (.record r)) :
    store.Upserted now record s (store.exec now s (.upsertPresence record)) := by
  have hcases := read_of_no_record hrecord
  let stored : RedisPresence := s.write (store.presenceKey record.connId)
    (.record { record with lastSeen := now }) (some (now + Time.seconds store.ttl))
  have hindex : ∀ t, stored.read t (store.tenantIndexKey record.tenantId)
      = s.read t (store.tenantIndexKey record.tenantId) :=
    fun t ↦ Expiring.read_write_of_ne _ _ hne.symm
  let add := addConn record.connId
  have hexec : store.exec now s (.upsertPresence record)
      = (stored.change now (store.tenantIndexKey record.tenantId) add).expire now
          (store.tenantIndexKey record.tenantId) store.ttl := by
    show ((store.upsertPresence record).run _ s).2 = _
    rw [upsertPresence, Prog.run_bind, Prog.run_ask, Prog.run_bind, setRecord, Prog.run_modify,
      Prog.run_bind, addMember, Prog.run_command]
    dsimp only
    rw [show s.write (store.presenceKey record.connId) _ _ = stored from rfl, hindex]
    rcases hcases with hnone | ⟨members, hmembers⟩
    · rw [hnone]
      rfl
    · rw [hmembers]
      rfl
  have hadded := @Expiring.read_change_self _ _ _ stored (store.tenantIndexKey record.tenantId) now
    add
  rw [hexec]
  refine ⟨fun t ↦ ?_, ?_, fun t key hkey hkey' ↦ ?_⟩
  · rw [Expiring.read_expire_of_ne _ hne, Expiring.read_change_of_ne _ hne]
    exact Expiring.read_write_self _ _
  · rw [hindex] at hadded
    rcases hcases with hnone | ⟨members, hmembers⟩
    · rw [hnone] at hadded
      refine ⟨{record.connId}, fun c ↦ ?_, fun t ↦ Expiring.read_expire_self hadded store.ttl_pos⟩
      rw [Finset.mem_singleton]
      refine (or_iff_left ?_).symm
      rintro ⟨members, hmembers, -⟩
      cases hnone.symm.trans hmembers
    · rw [hmembers] at hadded
      refine ⟨insert record.connId members, fun c ↦ ?_,
        fun t ↦ Expiring.read_expire_self hadded store.ttl_pos⟩
      rw [Finset.mem_insert]
      refine or_congr_right ⟨fun hc ↦ ⟨members, hmembers, hc⟩, ?_⟩
      rintro ⟨members', hmembers', hc⟩
      cases hmembers.symm.trans hmembers'
      exact hc
  · rw [Expiring.read_expire_of_ne _ hkey', Expiring.read_change_of_ne _ hkey']
    exact Expiring.read_write_of_ne _ _ hkey

theorem Kinds.upserted (h : store.Kinds s now) (hplain : plain record.connId) :
    store.Upserted now record s (store.exec now s (.upsertPresence record)) :=
  upserted_of_ne (presenceKey_ne_tenantIndexKey hplain record.tenantId)
    (h.index_ne le_rfl record.tenantId)

/-- What a heartbeat does: nothing, or the record has a lifetime from now on. -/
theorem exec_heartbeat (store : RedisRegistryStore) (now : Time) (s : RedisPresence)
    (connId : String) (load : Option ℚ) :
    store.exec now s (.heartbeat connId load) =
      match got { now := now } s (store.presenceKey connId) with
      | .found record => s.write (store.presenceKey connId) (.record (beat record now load))
          (some (now + Time.seconds store.ttl))
      | _ => s := by
  show ((store.heartbeat connId load).run _ s).2 = _
  rw [heartbeat, Prog.run_bind, getRecord, Prog.run_query]
  dsimp only
  cases got { now := now } s (store.presenceKey connId) with
  | missing => rfl
  | wrongType => rfl
  | found record => rfl

/-- What a removal leaves of the value of an index. -/
def shrink (connId : String) : PresenceValue → Option PresenceValue
  | .record record => some (.record record)
  | .conns members =>
      if members.erase connId = ∅ then none else some (.conns (members.erase connId))

/-- A removal leaves the other connections in the index. -/
theorem mem_shrink {o : Option PresenceValue} {c : String} (h : connId ≠ c) :
    (∃ members, o.bind (shrink connId) = some (.conns members) ∧ c ∈ members) ↔
      ∃ members, o = some (.conns members) ∧ c ∈ members := by
  constructor
  · rintro ⟨members, ho, hc⟩
    obtain ⟨v, rfl, hv⟩ := Option.bind_eq_some_iff.mp ho
    cases v with
    | record record => cases hv
    | conns old =>
        rw [shrink] at hv
        split at hv
        · cases hv
        · cases hv
          exact ⟨old, rfl, Finset.mem_of_mem_erase hc⟩
  · rintro ⟨members, rfl, hc⟩
    have hmem : c ∈ members.erase connId := Finset.mem_erase.mpr ⟨h.symm, hc⟩
    refine ⟨members.erase connId, ?_, hmem⟩
    rw [Option.bind_some, shrink, if_neg]
    exact Finset.ne_empty_of_mem hmem

/-- What a removal does: nothing, or the record is gone, and the connection in its index. -/
inductive Removed (store : RedisRegistryStore) (now : Time) (connId : String)
    (s : RedisPresence) : RedisPresence → Prop
  | missing : (∀ record, s.read now (store.presenceKey connId) ≠ some (.record record)) →
      Removed store now connId s s
  | removed {record : PresenceRecord} {s' : RedisPresence} :
      s.read now (store.presenceKey connId) = some (.record record) →
      (∀ t, now ≤ t → ∀ key, s'.read t key =
        if key = store.presenceKey connId then none
        else if key = store.tenantIndexKey record.tenantId then (s.read t key).bind (shrink connId)
        else s.read t key) →
      Removed store now connId s s'

theorem Kinds.removed (h : store.Kinds s now) (connId : String) :
    store.Removed now connId s (store.exec now s (.remove connId)) := by
  show store.Removed now connId s ((store.remove connId).run { now := now } s).2
  rw [remove, Prog.run_bind, getRecord, Prog.run_query]
  dsimp only
  cases hgot : got { now := now } s (store.presenceKey connId) with
  | missing =>
      refine .missing fun record hread ↦ ?_
      rw [got_found_iff.mpr hread] at hgot
      cases hgot
  | wrongType =>
      refine .missing fun record hread ↦ ?_
      rw [got_found_iff.mpr hread] at hgot
      cases hgot
  | found record =>
      refine .removed (got_found_iff.mp hgot) fun t ht key ↦ ?_
      dsimp only
      rw [removeFound, Prog.run_bind, removeMember, Prog.run_command]
      dsimp only
      have hdelete : ∀ s : RedisPresence,
          ((store.deleteRecord connId).run { now := now } s).2.read t key
            = if key = store.presenceKey connId then none else s.read t key :=
        fun s ↦ Expiring.read_erase
      rcases h.index le_rfl record.tenantId with hnone | ⟨members, hmembers⟩
      · rw [hnone]
        dsimp only
        rw [hdelete]
        refine if_congr Iff.rfl rfl ?_
        split
        · rename_i hkey
          cases hread : s.read t key with
          | none => rfl
          | some v =>
              rw [hkey] at hread
              cases hnone.symm.trans (Expiring.read_of_le hread ht)
        · rfl
      · rw [hmembers]
        dsimp only
        rw [hdelete]
        refine if_congr Iff.rfl rfl ?_
        by_cases hkey : key = store.tenantIndexKey record.tenantId
        · -- the set does not change while it is there
          have hshrunk : (s.read t key).bind (shrink connId) = (s.read t key).bind fun _ ↦
              shrink connId (.conns members) := by
            cases hread : s.read t key with
            | none => rfl
            | some v =>
                rw [hkey] at hread
                cases hmembers.symm.trans (Expiring.read_of_le hread ht)
                rfl
          rw [if_pos hkey, hshrunk, shrink, hkey]
          by_cases hempty : members.erase connId = ∅
          · rw [if_pos hempty, if_pos hempty, Expiring.read_erase, if_pos rfl]
            cases s.read t (store.tenantIndexKey record.tenantId) with
            | none => rfl
            | some v => rfl
          · rw [if_neg hempty, if_neg hempty, Expiring.read_change_of_some _ hmembers]
            cases s.read t (store.tenantIndexKey record.tenantId) with
            | none => rfl
            | some v => rfl
        · rw [if_neg hkey]
          split
          · rw [Expiring.read_erase, if_neg hkey]
          · exact Expiring.read_change_of_ne _ hkey

/-! ## Kinds of keys -/

/-- Upserts are of connections that do not take their records for an index. -/
def Plain : PresenceCall → Prop
  | .upsertPresence record => plain record.connId
  | _ => True

theorem Kinds.exec (h : store.Kinds s now) (hplain : Plain call) :
    store.Kinds (store.exec now s call) now := by
  intro t ht key v hread
  cases call with
  | upsertPresence record =>
      have hup := h.upserted hplain
      by_cases hkey : key = store.presenceKey record.connId
      · rw [hkey, hup.stored] at hread
        split at hread
        · cases hread
          exact ⟨hkey, hplain⟩
        · cases hread
      · by_cases hkey' : key = store.tenantIndexKey record.tenantId
        · obtain ⟨members, hmembers, hindex⟩ := hup.index
          rw [hkey', hindex] at hread
          split at hread
          · cases hread
            refine ⟨⟨_, hkey'⟩, fun c hc ↦ ?_⟩
            rcases (hmembers c).mp hc with rfl | ⟨old, hold, hc⟩
            · exact hplain
            · exact (h now le_rfl _ _ hold).2 c hc
          · cases hread
        · rw [hup.other t key hkey hkey'] at hread
          exact h t ht key v hread
  | heartbeat connId load =>
      rw [exec_heartbeat] at hread
      split at hread
      · rename_i record hgot
        obtain ⟨hkey, hplain⟩ := h now le_rfl _ _ (got_found_iff.mp hgot)
        by_cases hkey' : key = store.presenceKey connId
        · rw [hkey', Expiring.read_write_self] at hread
          split at hread
          · cases hread
            exact ⟨hkey'.trans hkey, hplain⟩
          · cases hread
        · rw [Expiring.read_write_of_ne _ _ hkey'] at hread
          exact h t ht key v hread
      · exact h t ht key v hread
  | remove connId =>
      have hremoved := h.removed connId
      generalize store.exec now s (.remove connId) = s' at hread hremoved
      cases hremoved with
      | missing => exact h t ht key v hread
      | removed _ hread' =>
          rw [hread' t ht key] at hread
          split at hread
          · cases hread
          · split at hread
            · obtain ⟨old, hold, hshrink⟩ := Option.bind_eq_some_iff.mp hread
              have htyped := h t ht key old hold
              cases old with
              | record record =>
                  cases hshrink
                  exact htyped
              | conns members =>
                  rw [shrink] at hshrink
                  split at hshrink
                  · cases hshrink
                  · cases hshrink
                    exact ⟨htyped.1, fun c hc ↦ htyped.2 c (Finset.mem_of_mem_erase hc)⟩
            · exact h t ht key v hread

/-! ## From one upsert on -/

/-- What is known of a connection since it was last upserted: its record is of the tenant, and
while the record is there the connection is in the index exactly at the times of `listed`. -/
structure Tracks (store : RedisRegistryStore) (s : RedisPresence) (now : Time)
    (record : PresenceRecord) (listed : Time → Prop) : Prop where
  tenant : ∀ t, now ≤ t → ∀ r, s.read t (store.presenceKey record.connId) = some (.record r) →
    r.tenantId = record.tenantId
  member : (∃ v, s.read now (store.presenceKey record.connId) = some v) → ∀ t, now ≤ t →
    (Member s t (store.tenantIndexKey record.tenantId) record.connId ↔ listed t)

/-- The times at which a connection is listed after a call. -/
def listedAfter (store : RedisRegistryStore) (tenantId : String) (now : Time)
    (call : PresenceCall) (listed : Time → Prop) (t : Time) : Prop :=
  if upserts tenantId [(now, call)] = [] then listed t
  else listed now ∧ t < now + Time.seconds store.ttl

theorem Tracks.mono {listed : Time → Prop} (h : store.Tracks s now record listed)
    (hle : now ≤ t) : store.Tracks s t record listed where
  tenant t' ht' := h.tenant t' (hle.trans ht')
  member hread t' ht' :=
    h.member (hread.imp fun _ hv ↦ Expiring.read_of_le hv hle) t' (hle.trans ht')

theorem Tracks.congr {listed : Time → Prop} (h : store.Tracks s now record listed)
    (hrecord : ∀ t, now ≤ t → s'.read t (store.presenceKey record.connId)
      = s.read t (store.presenceKey record.connId))
    (hindex : ∀ t, now ≤ t → (Member s' t (store.tenantIndexKey record.tenantId) record.connId ↔
      Member s t (store.tenantIndexKey record.tenantId) record.connId)) :
    store.Tracks s' now record listed := by
  constructor
  · intro t ht r hread
    rw [hrecord t ht] at hread
    exact h.tenant t ht r hread
  · intro hread t ht
    rw [hrecord now le_rfl] at hread
    rw [hindex t ht]
    exact h.member hread t ht

/-- The upsert of the connection itself. -/
theorem Kinds.tracks (h : store.Kinds s now) (hplain : plain record.connId) :
    store.Tracks (store.exec now s (.upsertPresence record)) now record
      fun t ↦ t < now + Time.seconds store.ttl := by
  have hup := h.upserted hplain
  constructor
  · intro t ht r hread
    rw [hup.stored] at hread
    split at hread
    · cases hread
      rfl
    · cases hread
  · intro _ t ht
    obtain ⟨members, hmembers, hindex⟩ := hup.index
    rw [Member, hindex]
    constructor
    · rintro ⟨_, hread, -⟩
      split at hread
      · assumption
      · cases hread
    · intro hlt
      rw [if_pos hlt]
      exact ⟨members, rfl, (hmembers _).mpr (.inl rfl)⟩

/-- The upsert of another connection. -/
theorem Tracks.upsert {listed : Time → Prop} {other : PresenceRecord}
    (h : store.Tracks s now record listed) (hkinds : store.Kinds s now)
    (hplain : plain record.connId) (hother : plain other.connId)
    (hne : other.connId ≠ record.connId) :
    store.Tracks (store.exec now s (.upsertPresence other)) now record
      (store.listedAfter record.tenantId now (.upsertPresence other) listed) := by
  have hup := hkinds.upserted hother
  have hrecord : ∀ t, (store.exec now s (.upsertPresence other)).read t
      (store.presenceKey record.connId) = s.read t (store.presenceKey record.connId) := by
    intro t
    apply hup.other
    · exact fun heq ↦ hne (presenceKey_injective heq).symm
    · exact presenceKey_ne_tenantIndexKey hplain _
  by_cases htenant : other.tenantId = record.tenantId
  · have hlisted : store.listedAfter record.tenantId now (.upsertPresence other) listed
        = fun t ↦ listed now ∧ t < now + Time.seconds store.ttl := by
      funext t
      simp [listedAfter, upserts, htenant]
    rw [hlisted]
    constructor
    · intro t ht r hread
      rw [hrecord] at hread
      exact h.tenant t ht r hread
    · intro hread t ht
      rw [hrecord] at hread
      obtain ⟨members, hmembers, hindex⟩ := hup.index
      rw [htenant] at hmembers hindex
      have hold := h.member hread now le_rfl
      rw [Member, hindex, ← hold]
      constructor
      · rintro ⟨_, hread, hc⟩
        split at hread
        · rename_i hlt
          cases hread
          exact ⟨((hmembers _).mp hc).resolve_left hne.symm, hlt⟩
        · cases hread
      · rintro ⟨hmember, hlt⟩
        rw [if_pos hlt]
        exact ⟨members, rfl, (hmembers _).mpr (.inr hmember)⟩
  · have hlisted : store.listedAfter record.tenantId now (.upsertPresence other) listed
        = listed := by
      funext t
      simp [listedAfter, upserts, htenant]
    rw [hlisted]
    apply h.congr
    · exact fun t _ ↦ hrecord t
    · intro t _
      rw [Member, Member, hup.other]
      · exact (presenceKey_ne_tenantIndexKey hother _).symm
      · exact fun heq ↦ htenant (tenantIndexKey_injective heq).symm

/-- A heartbeat, of the connection or of another one. -/
theorem Tracks.heartbeat {listed : Time → Prop} (h : store.Tracks s now record listed)
    (hkinds : store.Kinds s now) (connId : String) (load : Option ℚ) :
    store.Tracks (store.exec now s (.heartbeat connId load)) now record listed := by
  rw [exec_heartbeat]
  split
  · rename_i r hgot
    have hgot := got_found_iff.mp hgot
    obtain ⟨hkey, hplain⟩ := hkinds now le_rfl _ _ hgot
    have hindex : ∀ t, (s.write (store.presenceKey connId) (.record (beat r now load))
        (some (now + Time.seconds store.ttl))).read t (store.tenantIndexKey record.tenantId)
          = s.read t (store.tenantIndexKey record.tenantId) := by
      intro t
      apply Expiring.read_write_of_ne
      rw [hkey]
      exact (presenceKey_ne_tenantIndexKey hplain _).symm
    by_cases hconn : connId = record.connId
    · subst hconn
      constructor
      · intro t ht r' hread
        rw [Expiring.read_write_self] at hread
        split at hread
        · cases hread
          exact h.tenant now le_rfl r hgot
        · cases hread
      · intro _ t ht
        rw [Member, hindex]
        exact h.member ⟨_, hgot⟩ t ht
    · apply h.congr
      · intro t _
        apply Expiring.read_write_of_ne
        exact fun heq ↦ hconn (presenceKey_injective heq).symm
      · intro t _
        rw [Member, Member, hindex]
  · exact h

/-- A removal, of the connection or of another one. -/
theorem Tracks.remove {listed : Time → Prop} (h : store.Tracks s now record listed)
    (hkinds : store.Kinds s now) (hplain : plain record.connId) (connId : String) :
    store.Tracks (store.exec now s (.remove connId)) now record listed := by
  have hremoved := hkinds.removed connId
  generalize store.exec now s (.remove connId) = s' at hremoved ⊢
  cases hremoved with
  | missing => exact h
  | removed hfound hread =>
      rename_i r
      obtain ⟨hkey, hplain'⟩ := hkinds now le_rfl _ _ hfound
      by_cases hconn : connId = record.connId
      · subst hconn
        constructor
        · intro t ht r' hr'
          rw [hread t ht, if_pos rfl] at hr'
          cases hr'
        · rintro ⟨v, hv⟩
          rw [hread now le_rfl, if_pos rfl] at hv
          cases hv
      · apply h.congr
        · intro t ht
          rw [hread t ht, if_neg, if_neg]
          · exact presenceKey_ne_tenantIndexKey hplain _
          · exact fun heq ↦ hconn (presenceKey_injective heq).symm
        · intro t ht
          rw [Member, Member, hread t ht, if_neg]
          · split
            · exact mem_shrink hconn
            · rfl
          · rw [hkey]
            exact (presenceKey_ne_tenantIndexKey hplain' _).symm

/-! ## Whole histories -/

theorem after_append (store : RedisRegistryStore) (calls : List (Time × PresenceCall))
    (call : Time × PresenceCall) :
    store.after (calls ++ [call]) = store.exec call.1 (store.after calls) call.2 :=
  List.foldl_concat _ _ _ _

theorem Kinds.after {calls : List (Time × PresenceCall)}
    (hclock : calls.Pairwise fun a b ↦ a.1 ≤ b.1) (hplain : ∀ call ∈ calls, Plain call.2)
    (hnow : ∀ call ∈ calls, call.1 ≤ now) : store.Kinds (store.after calls) now := by
  induction calls using List.reverseRecOn generalizing now with
  | nil => exact fun _ _ _ _ h ↦ nomatch h
  | append_singleton calls call ih =>
      rw [List.pairwise_append] at hclock
      rw [after_append]
      have hbefore : store.Kinds (store.after calls) call.1 := by
        apply ih hclock.1
        · exact fun c hc ↦ hplain c (List.mem_append_left _ hc)
        · exact fun c hc ↦ hclock.2.2 c hc call (List.mem_singleton_self _)
      have hcall : call ∈ calls ++ [call] := List.mem_append_right _ (List.mem_singleton_self _)
      exact (hbefore.exec (hplain call hcall)).mono (hnow call hcall)

theorem upserts_append (calls calls' : List (Time × PresenceCall)) :
    upserts tenantId (calls ++ calls') = upserts tenantId calls ++ upserts tenantId calls' :=
  List.filterMap_append

theorem upserts_singleton (tenantId : String) (call : Time × PresenceCall) :
    upserts tenantId [call] = [] ∨ upserts tenantId [call] = [call.1] := by
  obtain ⟨time, call⟩ := call
  cases call with
  | upsertPresence record =>
      by_cases h : record.tenantId = tenantId
      · simp [upserts, h]
      · simp [upserts, h]
  | heartbeat connId load => exact .inl rfl
  | remove connId => exact .inl rfl

/-- The times of the upserts decide when a connection is listed. -/
theorem listedAfter_renewed (store : RedisRegistryStore) (tenantId : String) (time : Time)
    (post : List (Time × PresenceCall)) (call : Time × PresenceCall) :
    store.listedAfter tenantId call.1 call.2
        (fun t ↦ store.Renewed (time :: upserts tenantId post ++ [t]))
      = fun t ↦ store.Renewed (time :: upserts tenantId (post ++ [call]) ++ [t]) := by
  funext t
  rw [listedAfter, upserts_append]
  rcases upserts_singleton tenantId call with h | h
  · rw [if_pos h, h, List.append_nil]
  · rw [if_neg (by rw [h]; exact List.cons_ne_nil _ _), h, ← List.cons_append, List.append_assoc,
      List.singleton_append]
    apply propext
    exact (List.isChain_split.trans (and_congr_right fun _ ↦ List.isChain_pair)).symm

/-- The history of a connection since its last upsert. -/
theorem Tracks.after {pre post : List (Time × PresenceCall)} {time : Time}
    (hclock : (pre ++ (time, .upsertPresence record) :: post).Pairwise fun a b ↦ a.1 ≤ b.1)
    (hplain : ∀ call ∈ pre ++ (time, .upsertPresence record) :: post, Plain call.2)
    (hlast : ∀ call ∈ post, ¬ Upserts record.connId call.2)
    (hnow : ∀ call ∈ pre ++ (time, .upsertPresence record) :: post, call.1 ≤ now) :
    store.Tracks (store.after (pre ++ (time, .upsertPresence record) :: post)) now record
      fun t ↦ store.Renewed (time :: upserts record.tenantId post ++ [t]) := by
  have hself : plain record.connId :=
    hplain (time, .upsertPresence record) (List.mem_append_right _ List.mem_cons_self)
  induction post using List.reverseRecOn generalizing now with
  | nil =>
      rw [List.pairwise_append] at hclock
      have hkinds : store.Kinds (store.after pre) time := by
        apply Kinds.after hclock.1
        · exact fun call hcall ↦ hplain call (List.mem_append_left _ hcall)
        · exact fun call hcall ↦ hclock.2.2 call hcall _ (List.mem_singleton_self _)
      have htracks := hkinds.tracks hself
      rw [after_append]
      have hlisted : (fun t ↦ t < time + Time.seconds store.ttl)
          = fun t ↦ store.Renewed (time :: upserts record.tenantId [] ++ [t]) := by
        funext t
        exact propext (List.isChain_pair (R := fun t t' ↦ t' < t + Time.seconds store.ttl)).symm
      rw [← hlisted]
      exact htracks.mono (hnow (time, .upsertPresence record)
        (List.mem_append_right _ (List.mem_singleton_self _)))
  | append_singleton post call ih =>
      have hsplit : pre ++ (time, .upsertPresence record) :: (post ++ [call])
          = (pre ++ (time, .upsertPresence record) :: post) ++ [call] := by
        rw [← List.cons_append, List.append_assoc]
      rw [hsplit] at hclock hplain hnow ⊢
      rw [List.pairwise_append] at hclock
      have hbefore : ∀ c ∈ pre ++ (time, .upsertPresence record) :: post, c.1 ≤ call.1 :=
        fun c hc ↦ hclock.2.2 c hc call (List.mem_singleton_self _)
      have hplain' : ∀ c ∈ pre ++ (time, .upsertPresence record) :: post, Plain c.2 :=
        fun c hc ↦ hplain c (List.mem_append_left _ hc)
      have hcall : call ∈ (pre ++ (time, .upsertPresence record) :: post) ++ [call] :=
        List.mem_append_right _ (List.mem_singleton_self _)
      have hkinds : store.Kinds _ call.1 := .after hclock.1 hplain' hbefore
      have htracks := ih hclock.1 hplain' (fun c hc ↦ hlast c (List.mem_append_left _ hc)) hbefore
      have hne := hlast call (List.mem_append_right _ (List.mem_singleton_self _))
      rw [after_append, ← listedAfter_renewed]
      refine Tracks.mono ?_ (hnow call hcall)
      obtain ⟨callTime, call⟩ := call
      cases call with
      | upsertPresence other => exact htracks.upsert hkinds hself (hplain _ hcall) hne
      | heartbeat connId load => exact htracks.heartbeat hkinds connId load
      | remove connId => exact htracks.remove hkinds hself connId

/-- A record that is there after a call that does not upsert it was there before. -/
theorem Kinds.read_of_exec (h : store.Kinds s now) (hplain : Plain call) (hconn : plain connId)
    (hcall : ¬ Upserts connId call) (ht : now ≤ t) {r : PresenceRecord}
    (hread : (store.exec now s call).read t (store.presenceKey connId) = some (.record r)) :
    ∃ r', s.read now (store.presenceKey connId) = some (.record r') := by
  cases call with
  | upsertPresence record =>
      have hup := h.upserted hplain
      rw [hup.other] at hread
      · exact ⟨r, Expiring.read_of_le hread ht⟩
      · exact fun heq ↦ hcall (presenceKey_injective heq).symm
      · exact presenceKey_ne_tenantIndexKey hconn _
  | heartbeat connId' load =>
      rw [exec_heartbeat] at hread
      split at hread
      · rename_i record hgot
        by_cases hkey : store.presenceKey connId = store.presenceKey connId'
        · rw [hkey]
          exact ⟨record, got_found_iff.mp hgot⟩
        · rw [Expiring.read_write_of_ne _ _ hkey] at hread
          exact ⟨r, Expiring.read_of_le hread ht⟩
      · exact ⟨r, Expiring.read_of_le hread ht⟩
  | remove connId' =>
      have hremoved := h.removed connId'
      generalize store.exec now s (.remove connId') = s' at hread hremoved
      cases hremoved with
      | missing => exact ⟨r, Expiring.read_of_le hread ht⟩
      | removed _ hread' =>
          rw [hread' t ht] at hread
          split at hread
          · cases hread
          · rw [if_neg (presenceKey_ne_tenantIndexKey hconn _)] at hread
            exact ⟨r, Expiring.read_of_le hread ht⟩

/-- A record that is there was upserted once, for the last time. -/
theorem exists_upsert {calls : List (Time × PresenceCall)}
    (hclock : calls.Pairwise fun a b ↦ a.1 ≤ b.1) (hplain : ∀ call ∈ calls, Plain call.2)
    (hnow : ∀ call ∈ calls, call.1 ≤ now) (hconn : plain connId) {r : PresenceRecord}
    (hread : (store.after calls).read now (store.presenceKey connId) = some (.record r)) :
    ∃ pre time record post, calls = pre ++ (time, .upsertPresence record) :: post ∧
      record.connId = connId ∧ ∀ call ∈ post, ¬ Upserts connId call.2 := by
  induction calls using List.reverseRecOn generalizing now r with
  | nil => cases hread
  | append_singleton calls call ih =>
      have hcall : call ∈ calls ++ [call] := List.mem_append_right _ (List.mem_singleton_self _)
      rw [List.pairwise_append] at hclock
      rw [after_append] at hread
      have hbefore : ∀ c ∈ calls, c.1 ≤ call.1 :=
        fun c hc ↦ hclock.2.2 c hc call (List.mem_singleton_self _)
      have hplain' : ∀ c ∈ calls, Plain c.2 := fun c hc ↦ hplain c (List.mem_append_left _ hc)
      by_cases hups : Upserts connId call.2
      · obtain ⟨time, call⟩ := call
        cases call with
        | upsertPresence record =>
            exact ⟨calls, time, record, [], rfl, hups, fun _ h ↦ absurd h List.not_mem_nil⟩
        | heartbeat connId load => exact hups.elim
        | remove connId => exact hups.elim
      · have hkinds : store.Kinds _ call.1 := .after hclock.1 hplain' hbefore
        obtain ⟨r', hread'⟩ := hkinds.read_of_exec (hplain call hcall) hconn hups
          (hnow call hcall) hread
        obtain ⟨pre, time, record, post, rfl, hid, hpost⟩ := ih hclock.1 hplain' hbefore hread'
        refine ⟨pre, time, record, post ++ [call], ?_, hid, fun c hc ↦ ?_⟩
        · rw [List.append_assoc, List.cons_append]
        · rcases List.mem_append.mp hc with hc | hc
          · exact hpost c hc
          · rw [List.mem_singleton.mp hc]
            exact hups

/-! ## The listing -/

/-- Reading the records of some keys that hold no sets, each once. -/
theorem Keyed.records (hkeyed : store.Keyed s now) {keys : List String}
    (h : ∀ key ∈ keys, got { now := now } s key ≠ .wrongType) :
    ∃ records, (getRecords keys).run { now := now } s = (some records, s) ∧
      (∀ r, r ∈ records ↔ ∃ key ∈ keys, s.read now key = some (.record r)) ∧
      ((records.map (·.connId)).map store.presenceKey).Sublist keys := by
  induction keys with
  | nil => exact ⟨[], rfl, (fun r ↦ by simp), .refl _⟩
  | cons key keys ih =>
      obtain ⟨records, hrecords, hmem, hsub⟩ :=
        ih fun key hkey ↦ h key (List.mem_cons_of_mem _ hkey)
      obtain ⟨lists, hlists, rfl⟩ := Option.map_eq_some_iff.mp (congrArg Prod.fst hrecords)
      have hcons : ∀ list, (got { now := now } s key).records = some list →
          (getRecords (key :: keys)).run { now := now } s = (some (list ++ lists.flatten), s) := by
        intro list hlist
        rw [getRecords, Prog.run_query, List.mapM_cons, hlist, hlists]
        rfl
      cases hgot : got { now := now } s key with
      | missing =>
          refine ⟨[] ++ lists.flatten, hcons [] (by rw [hgot]; rfl), fun r ↦ ?_, hsub.cons key⟩
          have hnone : s.read now key ≠ some (.record r) := by
            intro hread
            rw [got_found_iff.mpr hread] at hgot
            cases hgot
          simp [hmem, hnone]
      | found record =>
          have hread := got_found_iff.mp hgot
          refine ⟨[record] ++ lists.flatten, hcons [record] (by rw [hgot]; rfl), fun r ↦ ?_, ?_⟩
          · rw [List.mem_append, List.mem_singleton, hmem, List.exists_mem_cons_iff, hread,
              Option.some.injEq, PresenceValue.record.injEq, eq_comm]
          · rw [hkeyed key record hread]
            exact hsub.cons_cons _
      | wrongType => exact absurd hgot (h key List.mem_cons_self)

/-- A listing works if the index holds no record and the keys of its members no sets. -/
theorem Keyed.listing (h : store.Keyed s now)
    (hindex : ∀ r, s.read now (store.tenantIndexKey tenantId) ≠ some (.record r))
    (hsets : ∀ connId, Member s now (store.tenantIndexKey tenantId) connId →
      got { now := now } s (store.presenceKey connId) ≠ .wrongType) :
    ∃ records, store.listing now s tenantId = .listed records ∧
      (∀ r, r ∈ records ↔ ∃ connId, Member s now (store.tenantIndexKey tenantId) connId ∧
        s.read now (store.presenceKey connId) = some (.record r)) ∧
      (records.map (·.connId)).Nodup := by
  show ∃ records, ((store.listByTenant tenantId {}).run { now := now } s).1 = _ ∧ _
  rw [listByTenant, Prog.run_bind, getMembers, Prog.run_query]
  dsimp only
  rcases read_of_no_record hindex with hnone | ⟨members, hmembers⟩
  · rw [hnone]
    refine ⟨[], rfl, fun r ↦ ?_, List.nodup_nil⟩
    apply iff_of_false List.not_mem_nil
    rintro ⟨connId, ⟨members, hmembers, -⟩, -⟩
    cases hnone.symm.trans hmembers
  · have hmember : ∀ connId, Member s now (store.tenantIndexKey tenantId) connId ↔
        connId ∈ members.sort := by
      intro connId
      rw [Finset.mem_sort]
      refine ⟨?_, fun hc ↦ ⟨members, hmembers, hc⟩⟩
      rintro ⟨members', hmembers', hc⟩
      cases hmembers.symm.trans hmembers'
      exact hc
    simp only [hmember] at hsets ⊢
    rw [hmembers]
    dsimp only
    have hnodup : members.sort.Nodup := Finset.sort_nodup _ _
    generalize members.sort = connIds at hsets hnodup
    cases connIds with
    | nil => exact ⟨[], rfl, (fun r ↦ by simp), List.nodup_nil⟩
    | cons connId connIds =>
        have hgot : ∀ key ∈ (connId :: connIds).map store.presenceKey,
            got { now := now } s key ≠ .wrongType := by
          intro key hkey
          obtain ⟨c, hc, rfl⟩ := List.mem_map.mp hkey
          exact hsets c hc
        obtain ⟨records, hrecords, hmem, hsub⟩ := h.records hgot
        have hall : (records.filter fun record ↦ !skips {} record) = records :=
          List.filter_eq_self.mpr fun _ _ ↦ rfl
        dsimp only
        rw [Prog.run_bind, hrecords]
        refine ⟨_, rfl, fun r ↦ ?_, ?_⟩
        · rw [List.mem_insertionSort, hall, hmem]
          simp only [List.mem_map, exists_exists_and_eq_and]
        · rw [((List.perm_insertionSort _ _).map _).nodup_iff, hall]
          exact ((hnodup.map presenceKey_injective).sublist hsub).of_map

theorem got_wrongType_iff : got { now := now } s key = .wrongType ↔
    ∃ members, s.read now key = some (.conns members) := by
  rw [got]
  split
  · rename_i hread
    simp [hread]
  · rename_i hread
    simp [hread]
  · rename_i hread
    simp [hread]

theorem Kinds.listing (h : store.Kinds s now) (tenantId : String) :
    ∃ records, store.listing now s tenantId = .listed records ∧
      (∀ r, r ∈ records ↔ ∃ connId, Member s now (store.tenantIndexKey tenantId) connId ∧
        s.read now (store.presenceKey connId) = some (.record r)) ∧
      (records.map (·.connId)).Nodup := by
  refine h.keyed.listing (h.index_ne le_rfl tenantId) ?_
  rintro connId ⟨members, hmembers, hmem⟩ hgot
  obtain ⟨members', hread⟩ := got_wrongType_iff.mp hgot
  obtain ⟨⟨tenantId', hkey⟩, -⟩ := h now le_rfl _ _ hread
  have hplain : plain connId := (h now le_rfl _ _ hmembers).2 connId hmem
  exact presenceKey_ne_tenantIndexKey hplain tenantId' hkey

/-- At any time of any history without collisions of keys, every record that is there is
listed under its tenant exactly when every connection with a record was last upserted at a
time from which the upserts of its tenant, up to now, follow one another within the lifetime
of a key. -/
theorem listed_iff (store : RedisRegistryStore) (calls : List (Time × PresenceCall))
    (hclock : calls.Pairwise fun a b ↦ a.1 ≤ b.1) (hnow : ∀ call ∈ calls, call.1 ≤ now)
    (hplain : ∀ call ∈ calls, Plain call.2) :
    (∀ key r, (store.after calls).read now key = some (.record r) →
      ∃ records, store.listing now (store.after calls) r.tenantId = .listed records ∧
        r ∈ records) ↔
      ∀ pre time record post, calls = pre ++ (time, .upsertPresence record) :: post →
        (∀ call ∈ post, ¬ Upserts record.connId call.2) →
        (∃ r, (store.after calls).read now (store.presenceKey record.connId)
          = some (.record r)) →
        store.Renewed (time :: upserts record.tenantId post ++ [now]) := by
  have hkinds : store.Kinds _ now := .after hclock hplain hnow
  constructor
  · rintro h pre time record post rfl hlast ⟨r, hread⟩
    have htracks := @Tracks.after store _ _ _ _ _ hclock hplain hlast hnow
    apply (htracks.member ⟨_, hread⟩ now le_rfl).mp
    obtain ⟨records, hlisting, hmem⟩ := h _ r hread
    obtain ⟨records', hlisting', hmem', -⟩ := hkinds.listing r.tenantId
    cases hlisting.symm.trans hlisting'
    obtain ⟨connId, hmember, hread'⟩ := (hmem' r).mp hmem
    have hconn := presenceKey_injective (hkinds now le_rfl _ _ hread').1
    have hrecord := presenceKey_injective (hkinds now le_rfl _ _ hread).1
    rw [htracks.tenant now le_rfl r hread, hconn, ← hrecord] at hmember
    exact hmember
  · intro h key r hread
    obtain ⟨rfl, hconn⟩ := hkinds now le_rfl _ _ hread
    obtain ⟨pre, time, record, post, rfl, hid, hlast⟩ :=
      exists_upsert hclock hplain hnow hconn hread
    rw [← hid] at hread hlast
    have htracks := @Tracks.after store _ _ _ _ _ hclock hplain hlast hnow
    have hmember := (htracks.member ⟨_, hread⟩ now le_rfl).mpr
      (h pre time record post rfl hlast ⟨r, hread⟩)
    obtain ⟨records, hlisting, hmem, -⟩ := hkinds.listing r.tenantId
    refine ⟨records, hlisting, (hmem r).mpr ⟨record.connId, ?_, hread⟩⟩
    rw [htracks.tenant now le_rfl r hread]
    exact hmember

def samplePresence : PresenceRecord where
  agentId := ⟨1⟩
  tenantId := "acme"
  connId := "acme:agent:1"
  status := "online"
  capabilities := []
  tags := []
  load := 0
  lastSeen := 0
  registeredAt := 0
  metadata := []

theorem listed_sample :
    let calls : List (Time × PresenceCall) := [(0, .upsertPresence samplePresence),
      (Time.seconds 200, .heartbeat "acme:agent:1" none)]
    let now : Time := Time.seconds 250
    (∀ key r, (after {} calls).read now key = some (.record r) →
      ∃ records, listing {} now (after {} calls) r.tenantId = .listed records ∧ r ∈ records) ↔
      ∀ pre time record post, calls = pre ++ (time, .upsertPresence record) :: post →
        (∀ call ∈ post, ¬ Upserts record.connId call.2) →
        (∃ r, (after {} calls).read now (presenceKey {} record.connId) = some (.record r)) →
        Renewed {} (time :: upserts record.tenantId post ++ [now]) :=
  listed_iff {} _ (by simp [Time.seconds]) (by simp [Time.seconds])
    (by simp [Plain, samplePresence]; decide)

/-- An agent that has sent its last heartbeat two and a half minutes ago is not listed: its
record lives, and the index of its tenant has expired. -/
theorem heartbeat_unlisted :
    let calls : List (Time × PresenceCall) := [(0, .upsertPresence samplePresence),
      (Time.seconds 200, .heartbeat "acme:agent:1" none)]
    let now : Time := Time.seconds 350
    (after {} calls).read now "lip:presence:acme:agent:1"
        = some (.record { samplePresence with lastSeen := Time.seconds 200 }) ∧
      listing {} now (after {} calls) "acme" = .listed [] :=
  ⟨rfl, rfl⟩

end RedisRegistryStore

end SemanticBus
