import SemanticBus.Storage.Execs

/-!
# Idempotent creation in memory

The store in memory has three dictionaries: the records, the execution of each
idempotency key, and the executions of each session.  Whatever is called, no two records
have an id or a key in common, every record is listed once, by its session, and
`put_if_absent` creates a record exactly if its id and its key are new
(`idempotent_after`).
-/

namespace SemanticBus

namespace InMemoryExecStore

variable {store : InMemoryExecStore} {record r r' : ExecRecord} {execId : UUID} {key : String}

def Stored (store : InMemoryExecStore) (record : ExecRecord) : Prop :=
  ∃ execId, store.execs.get? execId = some record

/-- The record has an idempotency key that is not empty. -/
def HasKey (key : String) (record : ExecRecord) : Prop :=
  nonempty record.idempotencyKey = some key

def KeyStored (store : InMemoryExecStore) (record : ExecRecord) : Prop :=
  ∃ key r, HasKey key record ∧ store.Stored r ∧ HasKey key r

def IdStored (store : InMemoryExecStore) (record : ExecRecord) : Prop :=
  ∃ r, store.Stored r ∧ r.execId = record.execId

structure Idempotent (store : InMemoryExecStore) : Prop where
  ids : ∀ r r', store.Stored r → store.Stored r' → r.execId = r'.execId → r = r'
  keys : ∀ r r' key, store.Stored r → store.Stored r' → HasKey key r → HasKey key r' → r = r'
  /-- Every record is listed once, by its own session. -/
  listed : ∀ r, store.Stored r → ∀ sessionId,
    ((store.listBySession sessionId none).map (·.execId)).count r.execId
      = if sessionId = r.sessionId then 1 else 0
  /-- A record whose id and key are new is created: it is stored and listed after the others,
  which stay as they are. -/
  creates : ∀ record, ¬ store.KeyStored record → ¬ store.IdStored record →
    (store.putIfAbsent record).2 = .put record true ∧
      (∀ r, (store.putIfAbsent record).1.Stored r ↔ r = record ∨ store.Stored r) ∧
      ∀ sessionId, (store.putIfAbsent record).1.listBySession sessionId none
        = store.listBySession sessionId none
          ++ if sessionId = record.sessionId then [record] else []
  /-- Of another record nothing is changed, and the one with its key is returned, else the one
  with its id. -/
  finds : ∀ record, store.KeyStored record ∨ store.IdStored record →
    ∃ existing, store.Stored existing ∧ store.putIfAbsent record = (store, .put existing false) ∧
      (store.KeyStored record → ∃ key, HasKey key record ∧ HasKey key existing) ∧
      (¬ store.KeyStored record → existing.execId = record.execId)
  /-- The status of a stored record is set in it and where it is listed, and nowhere else. -/
  sets : ∀ r, store.Stored r → ∀ status fields,
    (store.setStatus r.execId status fields).2 = .record (some (r.withStatus status fields)) ∧
      (∀ r', (store.setStatus r.execId status fields).1.Stored r' ↔
        r' = r.withStatus status fields ∨ store.Stored r' ∧ r' ≠ r) ∧
      ∀ sessionId, (store.setStatus r.execId status fields).1.listBySession sessionId none
        = (store.listBySession sessionId none).map fun r' ↦
            if r'.execId = r.execId then r'.withStatus status fields else r'
  /-- No status is set of what is not stored. -/
  misses : ∀ execId, (∀ r, store.Stored r → r.execId ≠ execId) → ∀ status fields,
    store.setStatus execId status fields = (store, .record none)
  /-- A key finds the record that has it. -/
  found : ∀ key, key ≠ "" → ∀ r, store.get none (some key) = some r ↔
    store.Stored r ∧ HasKey key r

/-! ## The dictionaries -/

structure Agree (store : InMemoryExecStore) : Prop where
  keyed : ∀ execId r, store.execs.get? execId = some r → r.execId = execId
  mapped : ∀ key execId, store.byIdempotency.get? key = some execId ↔
    ∃ r, store.execs.get? execId = some r ∧ HasKey key r
  nodup : ∀ sessionId, ((store.bySession.get? sessionId).getD []).Nodup
  indexed : ∀ sessionId execId, execId ∈ (store.bySession.get? sessionId).getD [] ↔
    ∃ r, store.execs.get? execId = some r ∧ r.sessionId = sessionId

theorem agree_empty : Agree {} := by
  refine ⟨fun _ _ h ↦ ?_, fun _ _ ↦ ?_, fun _ ↦ List.nodup_nil, fun _ _ ↦ ?_⟩
  · cases h
  · refine iff_of_false (fun h ↦ ?_) fun ⟨_, h, _⟩ ↦ ?_
    · cases h
    · cases h
  · refine iff_of_false List.not_mem_nil fun ⟨_, h, _⟩ ↦ ?_
    cases h

/-- A key finds the record that has it. -/
theorem Agree.findKey_iff (h : store.Agree) : store.findKey key = some r ↔
    store.Stored r ∧ HasKey key r := by
  rw [findKey, Option.bind_eq_some_iff]
  constructor
  · rintro ⟨execId, hmap, hget⟩
    obtain ⟨r', hget', hkey⟩ := (h.mapped key execId).mp hmap
    obtain rfl := Option.some.inj (hget.symm.trans hget')
    exact ⟨⟨execId, hget⟩, hkey⟩
  · rintro ⟨⟨execId, hget⟩, hkey⟩
    exact ⟨execId, (h.mapped key execId).mpr ⟨r, hget, hkey⟩, hget⟩

theorem Agree.got_stored_iff (h : store.Agree) :
    store.Stored r ↔ store.execs.get? r.execId = some r := by
  constructor
  · rintro ⟨execId, hget⟩
    rw [h.keyed execId r hget]
    exact hget
  · exact fun hget ↦ ⟨_, hget⟩

theorem Agree.idStored_iff (h : store.Agree) :
    store.IdStored record ↔ ∃ r, store.execs.get? record.execId = some r := by
  constructor
  · rintro ⟨r, hstored, hid⟩
    exact ⟨r, hid ▸ h.got_stored_iff.mp hstored⟩
  · rintro ⟨r, hget⟩
    exact ⟨r, ⟨_, hget⟩, h.keyed _ _ hget⟩

theorem Agree.keyStored_iff (h : store.Agree) : store.KeyStored record ↔
    ∃ r, (nonempty record.idempotencyKey).bind store.findKey = some r := by
  constructor
  · rintro ⟨key, r, hkey, hstored, hkey'⟩
    refine ⟨r, ?_⟩
    rw [show nonempty record.idempotencyKey = some key from hkey, Option.bind_some]
    exact h.findKey_iff.mpr ⟨hstored, hkey'⟩
  · rintro ⟨r, hfind⟩
    obtain ⟨key, hkey, hfind⟩ := Option.bind_eq_some_iff.mp hfind
    obtain ⟨hstored, hkey'⟩ := h.findKey_iff.mp hfind
    exact ⟨key, r, hkey, hstored, hkey'⟩

/-- Keys lead to one execution only. -/
theorem Agree.keys (h : store.Agree) (hr : store.Stored r) (hr' : store.Stored r')
    (hkey : HasKey key r) (hkey' : HasKey key r') : r = r' :=
  Option.some.inj ((h.findKey_iff.mpr ⟨hr, hkey⟩).symm.trans (h.findKey_iff.mpr ⟨hr', hkey'⟩))

/-- A created record is stored under its id. -/
theorem get?_create {execId : UUID} (hid : store.execs.get? record.execId = none) :
    (store.create record).execs.get? execId = some r ↔
      execId = record.execId ∧ r = record ∨ store.execs.get? execId = some r := by
  show (store.execs.insert record.execId record).get? execId = some r ↔ _
  rw [Dict.get?_insert]
  by_cases hexec : execId = record.execId
  · rw [if_pos hexec, hexec, hid, Option.some.injEq, eq_comm]
    simp
  · rw [if_neg hexec]
    exact (or_iff_right fun h ↦ hexec h.1).symm

/-- Without a status every record of the index is listed. -/
theorem listBySession_none (sessionId : UUID) : store.listBySession sessionId none
    = ((store.bySession.get? sessionId).getD []).filterMap store.execs.get? :=
  List.filter_eq_self.mpr fun _ _ ↦ rfl

/-- A listing without a status has the executions of the index. -/
theorem Agree.listed (h : store.Agree) (sessionId : UUID) :
    (store.listBySession sessionId none).map (·.execId)
      = (store.bySession.get? sessionId).getD [] := by
  have hindexed := fun execId ↦ (h.indexed sessionId execId).mp
  rw [listBySession_none]
  generalize (store.bySession.get? sessionId).getD [] = execIds at hindexed
  induction execIds with
  | nil => rfl
  | cons execId execIds ih =>
      obtain ⟨r, hget, -⟩ := hindexed execId List.mem_cons_self
      rw [List.filterMap_cons_some hget, List.map_cons, h.keyed execId r hget,
        ih fun execId' hmem ↦ hindexed execId' (List.mem_cons_of_mem _ hmem)]

/-- What a new record finds. -/
theorem Agree.finds_none (h : store.Agree) (hkey : ¬ store.KeyStored record)
    (hid : ¬ store.IdStored record) :
    (nonempty record.idempotencyKey).bind store.findKey = none ∧
      store.execs.get? record.execId = none := by
  constructor
  · apply Option.eq_none_iff_forall_ne_some.mpr
    exact fun r hr ↦ hkey (h.keyStored_iff.mpr ⟨r, hr⟩)
  · apply Option.eq_none_iff_forall_ne_some.mpr
    exact fun r hr ↦ hid (h.idStored_iff.mpr ⟨r, hr⟩)

theorem stored_create (hid : store.execs.get? record.execId = none) :
    (store.create record).Stored r ↔ r = record ∨ store.Stored r := by
  constructor
  · rintro ⟨execId, hexec⟩
    rcases (get?_create hid).mp hexec with ⟨-, rfl⟩ | hexec
    · exact .inl rfl
    · exact .inr ⟨execId, hexec⟩
  · rintro (rfl | ⟨execId, hexec⟩)
    · exact ⟨r.execId, (get?_create hid).mpr (.inl ⟨rfl, rfl⟩)⟩
    · exact ⟨execId, (get?_create hid).mpr (.inr hexec)⟩

theorem Agree.listBySession_create (h : store.Agree) {sessionId : UUID}
    (hid : store.execs.get? record.execId = none) :
    (store.create record).listBySession sessionId none = store.listBySession sessionId none
      ++ if sessionId = record.sessionId then [record] else [] := by
  have hnew : (store.create record).execs.get? record.execId = some record :=
    (get?_create hid).mpr (.inl ⟨rfl, rfl⟩)
  -- the index of another session, or of this one before, does not know the new id
  have hold : ∀ sessionId, ((store.bySession.get? sessionId).getD []).filterMap
      (store.create record).execs.get?
        = ((store.bySession.get? sessionId).getD []).filterMap store.execs.get? := by
    intro sessionId
    refine List.filterMap_congr fun execId hmem ↦ ?_
    obtain ⟨r, hget, -⟩ := (h.indexed sessionId execId).mp hmem
    rw [hget]
    exact (get?_create hid).mpr (.inr hget)
  rw [listBySession_none, listBySession_none]
  show ((((store.bySession.insert record.sessionId _).get? sessionId).getD []).filterMap _) = _
  rw [Dict.get?_insert]
  split
  · rename_i hsession
    rw [Option.getD_some, List.filterMap_append, hold, hsession, List.filterMap_cons_some hnew]
    rfl
  · rw [hold, List.append_nil]

theorem Agree.stored_set (h : store.Agree) {status : String} {fields : StatusFields}
    (hget : store.execs.get? r.execId = some r) :
    Stored { store with execs := store.execs.insert r.execId (r.withStatus status fields) } r' ↔
      r' = r.withStatus status fields ∨ store.Stored r' ∧ r' ≠ r := by
  constructor
  · rintro ⟨execId, hexec⟩
    rw [Dict.get?_insert] at hexec
    split at hexec
    · exact .inl (Option.some.inj hexec).symm
    · rename_i hother
      refine .inr ⟨⟨execId, hexec⟩, fun hsame ↦ hother ?_⟩
      rw [← h.keyed execId r' hexec, hsame]
  · rintro (rfl | ⟨⟨execId, hexec⟩, hother⟩)
    · exact ⟨r.execId, Dict.get?_insert_self _ _ _⟩
    · refine ⟨execId, ?_⟩
      rw [Dict.get?_insert, if_neg]
      · exact hexec
      · rintro rfl
        exact hother (Option.some.inj (hexec.symm.trans hget))

theorem Agree.listBySession_set (h : store.Agree) {status : String} {fields : StatusFields}
    {sessionId : UUID} (hget : store.execs.get? r.execId = some r) :
    listBySession { store with execs := store.execs.insert r.execId (r.withStatus status fields) }
        sessionId none
      = (store.listBySession sessionId none).map fun r' ↦
          if r'.execId = r.execId then r'.withStatus status fields else r' := by
  rw [listBySession_none, listBySession_none, List.map_filterMap]
  refine List.filterMap_congr fun execId _ ↦ ?_
  dsimp only
  rw [Dict.get?_insert]
  split
  · rename_i hexec
    rw [hexec, hget, Option.map_some, if_pos rfl]
  · rename_i hother
    cases hexec : store.execs.get? execId with
    | none => rfl
    | some r' =>
        rw [Option.map_some, if_neg]
        rw [h.keyed execId r' hexec]
        exact hother

theorem Agree.idempotent (h : store.Agree) : store.Idempotent where
  ids r r' hr hr' hid := by
    have hget := h.got_stored_iff.mp hr
    rw [hid, h.got_stored_iff.mp hr'] at hget
    exact (Option.some.inj hget).symm
  keys r r' key hr hr' hkey hkey' := h.keys hr hr' hkey hkey'
  listed r hr sessionId := by
    rw [h.listed]
    have hget := h.got_stored_iff.mp hr
    split
    · rename_i hsession
      apply List.count_eq_one_of_mem (h.nodup sessionId)
      exact (h.indexed sessionId r.execId).mpr ⟨r, hget, hsession.symm⟩
    · rename_i hsession
      apply List.count_eq_zero_of_not_mem
      intro hmem
      obtain ⟨r', hget', hsession'⟩ := (h.indexed sessionId r.execId).mp hmem
      obtain rfl := Option.some.inj (hget.symm.trans hget')
      exact hsession hsession'.symm
  creates record hkey hid := by
    obtain ⟨hnokey, hnoid⟩ := h.finds_none hkey hid
    rw [putIfAbsent, hnokey, hnoid]
    exact ⟨rfl, fun _ ↦ stored_create hnoid, fun _ ↦ h.listBySession_create hnoid⟩
  finds record hstored := by
    rw [putIfAbsent]
    cases hkey : (nonempty record.idempotencyKey).bind store.findKey with
    | some existing =>
        have hkeyStored := h.keyStored_iff.mpr ⟨existing, hkey⟩
        obtain ⟨key, hhas, hfind⟩ := Option.bind_eq_some_iff.mp hkey
        obtain ⟨hexisting, hhas'⟩ := h.findKey_iff.mp hfind
        exact ⟨existing, hexisting, rfl, fun _ ↦ ⟨key, hhas, hhas'⟩,
          fun hnot ↦ absurd hkeyStored hnot⟩
    | none =>
        have hnot : ¬ store.KeyStored record := by
          intro hkeyStored
          obtain ⟨r, hr⟩ := h.keyStored_iff.mp hkeyStored
          cases hkey.symm.trans hr
        obtain ⟨existing, hget⟩ := h.idStored_iff.mp (hstored.resolve_left hnot)
        rw [hget]
        exact ⟨existing, ⟨_, hget⟩, rfl, fun hkeyStored ↦ absurd hkeyStored hnot,
          fun _ ↦ h.keyed _ _ hget⟩
  sets r hr status fields := by
    have hget := h.got_stored_iff.mp hr
    rw [setStatus, hget]
    exact ⟨rfl, fun _ ↦ h.stored_set hget, fun _ ↦ h.listBySession_set hget⟩
  misses execId hnone status fields := by
    cases hget : store.execs.get? execId with
    | none => rw [setStatus, hget]
    | some r => exact absurd (h.keyed execId r hget) (hnone r ⟨execId, hget⟩)
  found key hne r := by
    have hkey : nonempty (some key) = some key := by simp [nonempty, hne]
    show (nonempty (some key)).bind store.findKey = some r ↔ _
    rw [hkey]
    exact h.findKey_iff

/-! ## The calls -/

theorem Agree.create (h : store.Agree) (hkey : ¬ store.KeyStored record)
    (hid : store.execs.get? record.execId = none) : (store.create record).Agree := by
  have hget : ∀ execId r, (store.create record).execs.get? execId = some r ↔
      execId = record.execId ∧ r = record ∨ store.execs.get? execId = some r :=
    fun _ _ ↦ get?_create hid
  refine ⟨fun execId r hr ↦ ?_, fun key execId ↦ ?_, fun sessionId ↦ ?_, fun sessionId execId ↦ ?_⟩
  · rcases (hget execId r).mp hr with ⟨rfl, rfl⟩ | hr
    · rfl
    · exact h.keyed execId r hr
  · have hmap : (store.create record).byIdempotency.get? key = some execId ↔
        HasKey key record ∧ execId = record.execId ∨
          store.byIdempotency.get? key = some execId := by
      have hnew : ∀ execId', HasKey key record → store.byIdempotency.get? key ≠ some execId' := by
        intro execId' hhas hmapped
        obtain ⟨r, hr, hkey'⟩ := (h.mapped key execId').mp hmapped
        exact hkey ⟨key, r, hhas, ⟨_, hr⟩, hkey'⟩
      rw [InMemoryExecStore.create]
      dsimp only
      cases hnonempty : nonempty record.idempotencyKey with
      | none =>
          refine (or_iff_right fun hhas ↦ ?_).symm
          cases hnonempty.symm.trans hhas.1
      | some key' =>
          dsimp only
          rw [Dict.get?_insert]
          by_cases hsame : key = key'
          · have hhas : HasKey key record := hsame ▸ hnonempty
            rw [if_pos hsame, Option.some.injEq, eq_comm, and_iff_right hhas]
            exact (or_iff_left (hnew execId hhas)).symm
          · rw [if_neg hsame]
            refine (or_iff_right fun hhas ↦ hsame ?_).symm
            exact Option.some.inj (hhas.1.symm.trans hnonempty)
    rw [hmap]
    constructor
    · rintro (⟨hhas, hexec⟩ | hmapped)
      · exact ⟨record, (hget execId record).mpr (.inl ⟨hexec, rfl⟩), hhas⟩
      · obtain ⟨r, hr, hkey'⟩ := (h.mapped key execId).mp hmapped
        exact ⟨r, (hget execId r).mpr (.inr hr), hkey'⟩
    · rintro ⟨r, hr, hkey'⟩
      rcases (hget execId r).mp hr with ⟨rfl, rfl⟩ | hr
      · exact .inl ⟨hkey', rfl⟩
      · exact .inr ((h.mapped key execId).mpr ⟨r, hr, hkey'⟩)
  · show (((store.bySession.insert record.sessionId _).get? sessionId).getD []).Nodup
    rw [Dict.get?_insert]
    split
    · refine List.Nodup.append (h.nodup record.sessionId) (List.nodup_singleton _) ?_
      rw [List.disjoint_singleton]
      intro hmem
      obtain ⟨r, hr, -⟩ := (h.indexed record.sessionId record.execId).mp hmem
      cases hid.symm.trans hr
    · exact h.nodup sessionId
  · show execId ∈ ((store.bySession.insert record.sessionId _).get? sessionId).getD [] ↔ _
    have hsplit :
        (∃ r, (store.create record).execs.get? execId = some r ∧ r.sessionId = sessionId) ↔
        execId = record.execId ∧ record.sessionId = sessionId ∨
          execId ∈ (store.bySession.get? sessionId).getD [] := by
      rw [h.indexed]
      constructor
      · rintro ⟨r, hr, hsession⟩
        rcases (hget execId r).mp hr with ⟨hexec, rfl⟩ | hr
        · exact .inl ⟨hexec, hsession⟩
        · exact .inr ⟨r, hr, hsession⟩
      · rintro (⟨hexec, hsession⟩ | ⟨r, hr, hsession⟩)
        · exact ⟨record, (hget execId record).mpr (.inl ⟨hexec, rfl⟩), hsession⟩
        · exact ⟨r, (hget execId r).mpr (.inr hr), hsession⟩
    rw [hsplit, Dict.get?_insert]
    split
    · rename_i hsession
      rw [Option.getD_some, List.mem_append, List.mem_singleton, hsession, or_comm]
      simp
    · rename_i hsession
      exact (or_iff_right fun hexec ↦ hsession hexec.2.symm).symm

/-- What the dictionaries go by: the id, the key and the session of a record. -/
def identity (record : ExecRecord) : UUID × Option String × UUID :=
  (record.execId, record.idempotencyKey, record.sessionId)

/-- Records with the same identities. -/
theorem Agree.congr (h : store.Agree) {execs : Dict UUID ExecRecord}
    (hsame : ∀ execId, (execs.get? execId).map identity = (store.execs.get? execId).map identity) :
    Agree { store with execs := execs } := by
  have hexists : ∀ (p : UUID × Option String × UUID → Prop) execId,
      (∃ r, execs.get? execId = some r ∧ p (identity r)) ↔
        ∃ r, store.execs.get? execId = some r ∧ p (identity r) := by
    intro p execId
    have hmap : ∀ o : Option ExecRecord, (∃ r, o = some r ∧ p (identity r)) ↔
        ∃ i, o.map identity = some i ∧ p i := by
      intro o
      cases o with
      | none => simp
      | some r => simp
    rw [hmap, hmap, hsame]
  refine ⟨fun execId r hr ↦ ?_, fun key execId ↦ ?_, h.nodup, fun sessionId execId ↦ ?_⟩
  · have hid := (hexists (·.1 = r.execId) execId).mp ⟨r, hr, rfl⟩
    obtain ⟨r', hr', hid'⟩ := hid
    exact hid'.symm.trans (h.keyed execId r' hr')
  · exact (h.mapped key execId).trans
      (hexists (fun i ↦ nonempty i.2.1 = some key) execId).symm
  · exact (h.indexed sessionId execId).trans (hexists (·.2.2 = sessionId) execId).symm

theorem Agree.exec (h : store.Agree) (call : ExecCall) : (store.exec call).1.Agree := by
  cases call with
  | putIfAbsent record =>
      show (store.putIfAbsent record).1.Agree
      by_cases hstored : store.KeyStored record ∨ store.IdStored record
      · obtain ⟨existing, -, hput, -⟩ := h.idempotent.finds record hstored
        rw [hput]
        exact h
      · rw [not_or] at hstored
        obtain ⟨hnokey, hnoid⟩ := h.finds_none hstored.1 hstored.2
        rw [putIfAbsent, hnokey, hnoid]
        exact h.create hstored.1 hnoid
  | get execId idempotencyKey => exact h
  | setStatus execId status fields =>
      show (store.setStatus execId status fields).1.Agree
      rw [setStatus]
      cases hget : store.execs.get? execId with
      | none => exact h
      | some record =>
          -- a status is no part of the identity
          refine h.congr fun execId' ↦ ?_
          rw [Dict.get?_insert]
          split
          · rename_i hexec
            rw [hexec, hget]
            rfl
          · rfl
  | listBySession sessionId status => exact h

/-- After any calls the store keeps what the port promises. -/
theorem idempotent_after (calls : List (Time × ExecCall)) : (after calls).Idempotent := by
  have hagree : (after calls).Agree := by
    induction calls using List.reverseRecOn with
    | nil => exact agree_empty
    | append_singleton calls call ih =>
        rw [after, List.foldl_append]
        exact ih.exec call.2
  exact hagree.idempotent

end InMemoryExecStore

end SemanticBus
