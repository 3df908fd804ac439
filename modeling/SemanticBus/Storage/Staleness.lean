import SemanticBus.Data.Pool
import SemanticBus.Storage.Presence

/-!
# Heartbeats, removals and stale records at the same time

`heartbeat` and `expire_stale` read a record, change it and write it back, and a
removal deletes it, each in commands of its own.  What is written back may be older
than what was stored meanwhile, or stand where a record was deleted.  Notes on what
was stored and deleted say which of these writes do harm (`ordered_iff`).
-/

universe u

namespace SemanticBus

/-- A call that keeps the presence of agents up to date. -/
inductive UpkeepCall where
  | heartbeat (connId : String) (load : Option ℚ)
  | remove (connId : String)
  /-- With the number of batches of keys that its `SCAN` comes in. -/
  | expireStale (timeoutSeconds : ℚ) (batches : Nat)

/-- The parameters of a sweep for stale records. -/
structure Sweep where
  cutoff : Time
  timeoutSeconds : ℚ

/-- Where a call stands: the command that it issues next, or what it returned. -/
inductive UpkeepPoint where
  | start
  /-- The clock reading of a heartbeat. -/
  | stamp (connId : String) (load : Option ℚ) (record : PresenceRecord)
  /-- The `SET` of a heartbeat. -/
  | writeBeat (connId : String) (record : PresenceRecord)
  /-- The `SREM` of a removal. -/
  | removeMember (connId : String) (record : PresenceRecord)
  /-- The `DEL` of a removal. -/
  | deleteRecord (connId : String)
  /-- A `SCAN`, with the number of those to come. -/
  | scan (sweep : Sweep) (batches count : Nat)
  /-- The `GET` of a key of a batch. -/
  | getKey (sweep : Sweep) (key : String) (keys : List String) (batches count : Nat)
  /-- The `SET` of a stale record. -/
  | markKey (sweep : Sweep) (key : String) (record : PresenceRecord) (keys : List String)
      (batches count : Nat)
  | returned (reply : PresenceReply)

namespace RedisRegistryStore

variable {κ : Type u} (store : RedisRegistryStore)

def upkeep : UpkeepCall → PresenceProg PresenceReply
  | .heartbeat connId load => store.heartbeat connId load
  | .remove connId => store.remove connId
  | .expireStale timeoutSeconds batches => store.expireStale timeoutSeconds batches

def sweepKeys (sweep : Sweep) (keys : List String) (batches count : Nat) :
    PresenceProg PresenceReply :=
  store.expireKeys sweep.cutoff sweep.timeoutSeconds
    (store.expireBatches sweep.cutoff sweep.timeoutSeconds batches) keys count

def sweepPoint (sweep : Sweep) (batches count : Nat) : List String → UpkeepPoint
  | [] =>
      match batches with
      | 0 => .returned (.marked count)
      | batches + 1 => .scan sweep batches count
  | key :: keys =>
      if isIndexKey key then sweepPoint sweep batches count keys
      else .getKey sweep key keys batches count

def upkeepProg (call : UpkeepCall) : UpkeepPoint → PresenceProg PresenceReply
  | .start => store.upkeep call
  | .stamp connId load record => store.stampBeat connId load record
  | .writeBeat connId record => store.writeBeat connId record
  | .removeMember connId record => store.removeFound connId record
  | .deleteRecord connId => store.deleteRecord connId
  | .scan sweep batches count =>
      store.expireBatches sweep.cutoff sweep.timeoutSeconds (batches + 1) count
  | .getKey sweep key keys batches count => do
      match ← getRecord key with
      | .missing => store.sweepKeys sweep keys batches count
      | .wrongType => pure .wrongType
      | .found record =>
          if isStale sweep.cutoff sweep.timeoutSeconds record then do
            store.setRecord key { record with status := "offline" }
            store.sweepKeys sweep keys batches (count + 1)
          else store.sweepKeys sweep keys batches count
  | .markKey sweep key record keys batches count => do
      store.setRecord key record
      store.sweepKeys sweep keys batches (count + 1)
  | .returned reply => pure reply

def upkeepNext (call : UpkeepCall) (point : UpkeepPoint) (env : PresenceEnv) (s : RedisPresence) :
    Option (UpkeepPoint × RedisPresence) :=
  match point with
  | .start =>
      match call with
      | .heartbeat connId load =>
          match got env s (store.presenceKey connId) with
          | .missing => some (.returned (.done false), s)
          | .wrongType => some (.returned .wrongType, s)
          | .found record => some (.stamp connId load record, s)
      | .remove connId =>
          match got env s (store.presenceKey connId) with
          | .missing => some (.returned (.done false), s)
          | .wrongType => some (.returned .wrongType, s)
          | .found record => some (.removeMember connId record, s)
      | .expireStale timeoutSeconds batches =>
          some (sweepPoint ⟨env.now, timeoutSeconds⟩ batches 0 [], s)
  | .stamp connId load record => some (.writeBeat connId (beat record env.now load), s)
  | .writeBeat connId record =>
      some (.returned (.done true), s.write (store.presenceKey connId) (.record record)
        (some (env.now + Time.seconds store.ttl)))
  | .removeMember connId record =>
      match s.read env.now (store.tenantIndexKey record.tenantId) with
      | none => some (.deleteRecord connId, s)
      | some (.record _) => some (.returned .wrongType, s)
      | some (.conns members) =>
          some (.deleteRecord connId,
            if members.erase connId = ∅ then s.erase (store.tenantIndexKey record.tenantId)
            else s.change env.now (store.tenantIndexKey record.tenantId) fun _ ↦
              .conns (members.erase connId))
  | .deleteRecord connId =>
      some (.returned (.done (s.read env.now (store.presenceKey connId)).isSome),
        s.erase (store.presenceKey connId))
  | .scan sweep batches count =>
      some (sweepPoint sweep batches count (env.visited.filter fun key ↦
        (s.read env.now key).isSome && matchesPattern (store.keyPrefix ++ ":presence:*") key), s)
  | .getKey sweep key keys batches count =>
      match got env s key with
      | .missing => some (sweepPoint sweep batches count keys, s)
      | .wrongType => some (.returned .wrongType, s)
      | .found record =>
          if isStale sweep.cutoff sweep.timeoutSeconds record then
            some (.markKey sweep key { record with status := "offline" } keys batches count, s)
          else some (sweepPoint sweep batches count keys, s)
  | .markKey sweep key record keys batches count =>
      some (sweepPoint sweep batches (count + 1) keys,
        s.write key (.record record) (some (env.now + Time.seconds store.ttl)))
  | .returned _ => none

theorem upkeepProg_sweepPoint (call : UpkeepCall) (sweep : Sweep) (batches count : Nat)
    (keys : List String) :
    store.upkeepProg call (sweepPoint sweep batches count keys)
      = store.sweepKeys sweep keys batches count := by
  induction keys with
  | nil =>
      cases batches with
      | zero => rfl
      | succ batches => rfl
  | cons key keys ih =>
      rw [sweepPoint, sweepKeys, expireKeys]
      cases hindex : isIndexKey key with
      | true =>
          rw [if_pos rfl, if_pos rfl]
          exact ih
      | false =>
          rw [if_neg Bool.false_ne_true, if_neg Bool.false_ne_true]
          rfl

/-- The calls, by the points at which they stand. -/
def upkeepOutline (calls : κ → UpkeepCall) :
    Outline κ UpkeepPoint PresenceEnv RedisPresence PresenceReply where
  prog i := store.upkeepProg (calls i)
  next i := store.upkeepNext (calls i)
  issue_prog := by
    intro i point env s
    generalize calls i = call
    cases point with
    | start =>
        cases call with
        | heartbeat connId load =>
            simp only [upkeepNext]
            show some _ = _
            cases hgot : got env s (store.presenceKey connId) with
            | missing => simp only [hgot]; rfl
            | wrongType => simp only [hgot]; rfl
            | found record => simp only [hgot]; rfl
        | remove connId =>
            simp only [upkeepNext]
            show some _ = _
            cases hgot : got env s (store.presenceKey connId) with
            | missing => simp only [hgot]; rfl
            | wrongType => simp only [hgot]; rfl
            | found record => simp only [hgot]; rfl
        | expireStale timeoutSeconds batches =>
            simp only [upkeepNext, Option.map_some, upkeepProg_sweepPoint]
            rfl
    | stamp connId load record => rfl
    | writeBeat connId record => rfl
    | removeMember connId record =>
        simp only [upkeepNext, upkeepProg, removeFound, removeMember]
        show some _ = _
        cases hread : s.read env.now (store.tenantIndexKey record.tenantId) with
        | none => simp only [hread]; rfl
        | some v =>
            cases v with
            | record record => simp only [hread]; rfl
            | conns members => simp only [hread]; rfl
    | deleteRecord connId => rfl
    | scan sweep batches count =>
        simp only [upkeepNext, Option.map_some, upkeepProg_sweepPoint]
        rfl
    | getKey sweep key keys batches count =>
        simp only [upkeepNext]
        show some _ = _
        cases hgot : got env s key with
        | missing => simp only [hgot, Option.map_some, upkeepProg_sweepPoint]; rfl
        | wrongType => simp only [hgot]; rfl
        | found record =>
            simp only [hgot]
            show some ((if isStale sweep.cutoff sweep.timeoutSeconds record = true
              then (_ : PresenceProg PresenceReply) else _), s) = _
            by_cases hstale : isStale sweep.cutoff sweep.timeoutSeconds record = true
            · rw [if_pos hstale, if_pos hstale]
              rfl
            · rw [if_neg hstale, if_neg hstale, Option.map_some, upkeepProg_sweepPoint]
    | markKey sweep key record keys batches count =>
        simp only [upkeepNext, Option.map_some, upkeepProg_sweepPoint]
        rfl
    | returned reply => rfl

/-! ## What was stored and deleted -/

/-- What is noted of a call that has read a record and is to write it: the contact that it has
read, the clock reading of a heartbeat, and what other commands did to the key since: the
contacts that they stored, and whether one has deleted the record. -/
structure UpkeepWindow where
  read : Time := 0
  clock : Time := 0
  stored : List Time := []
  deleted : Bool := false

/-- Notes on the keys, the contacts that were stored and the removals that found a record to
delete, and on the calls. -/
structure UpkeepNotes (κ : Type u) where
  seen : String → List Time
  removed : List String := []
  windows : κ → UpkeepWindow := fun _ ↦ {}

abbrev UpkeepState (κ : Type u) := Points κ UpkeepPoint RedisPresence

/-- The record that a call writes next, and its key. -/
def writes : UpkeepPoint → Option (String × PresenceRecord)
  | .writeBeat connId record => some (store.presenceKey connId, record)
  | .markKey _ key record _ _ _ => some (key, record)
  | _ => none

/-- The key whose record a call deletes next. -/
def deletes (env : PresenceEnv) (s : RedisPresence) : UpkeepPoint → Option String
  | .deleteRecord connId =>
      if (s.read env.now (store.presenceKey connId)).isSome then some (store.presenceKey connId)
      else none
  | _ => none

def windowKey : UpkeepPoint → Option String
  | .stamp connId _ _ | .writeBeat connId _ => some (store.presenceKey connId)
  | .markKey _ key _ _ _ _ => some key
  | _ => none

/-- What a command that neither writes nor deletes adds to the notes on its call. -/
def UpkeepWindow.next (w : UpkeepWindow) (env : PresenceEnv) (s : RedisPresence) :
    UpkeepPoint → UpkeepWindow
  | .stamp _ _ record => { w with read := record.lastSeen, clock := env.now }
  | .getKey _ key _ _ _ =>
      match got env s key with
      | .found record => { read := record.lastSeen }
      | _ => {}
  | _ => {}

def upkeepNote [DecidableEq κ] (p : UpkeepState κ) (a : κ × PresenceEnv) (notes : UpkeepNotes κ) :
    UpkeepNotes κ :=
  match store.writes (p.points a.1), store.deletes a.2 p.server (p.points a.1) with
  | some (key, record), _ =>
      { notes with
        seen := Function.update notes.seen key (record.lastSeen :: notes.seen key)
        windows := fun j ↦
          if store.windowKey (p.points j) = some key then
            { notes.windows j with stored := record.lastSeen :: (notes.windows j).stored }
          else notes.windows j }
  | none, some key =>
      { notes with
        removed := key :: notes.removed
        windows := fun j ↦
          if store.windowKey (p.points j) = some key then { notes.windows j with deleted := true }
          else notes.windows j }
  | none, none =>
      { notes with
        windows := Function.update notes.windows a.1
          ((notes.windows a.1).next a.2 p.server (p.points a.1)) }

/-- No record is older than what was stored under its key, or stands where a removal has
deleted one. -/
def Ordered (x : UpkeepState κ × UpkeepNotes κ) : Prop :=
  ∀ key record expiry, x.1.server.get? key = some (.record record, expiry) →
    (∀ t ∈ x.2.seen key, t ≤ record.lastSeen) ∧ key ∉ x.2.removed

/-- Between the `GET` and the `SET` of a call no other one has stored a later record under the
key, later than the clock reading of the heartbeat or than what the sweep has read, and none has
deleted it; and the clock of a heartbeat is not behind the contact that it has read. -/
def GoodUpkeep (x : UpkeepState κ × UpkeepNotes κ) (a : κ × PresenceEnv) : Prop :=
  let w := x.2.windows a.1
  match x.1.points a.1 with
  | .writeBeat _ _ => (w.read ≤ w.clock ∧ ∀ t ∈ w.stored, t ≤ w.clock) ∧ w.deleted = false
  | .markKey _ _ _ _ _ _ => (∀ t ∈ w.stored, t ≤ w.read) ∧ w.deleted = false
  | _ => True

instance decidableGoodUpkeep (x : UpkeepState κ × UpkeepNotes κ) (a : κ × PresenceEnv) :
    Decidable (GoodUpkeep x a) :=
  let w := x.2.windows a.1
  match h : x.1.points a.1 with
  | .writeBeat _ _ =>
      decidable_of_iff ((w.read ≤ w.clock ∧ ∀ t ∈ w.stored, t ≤ w.clock) ∧ w.deleted = false)
        (by rw [GoodUpkeep, h])
  | .markKey _ _ _ _ _ _ =>
      decidable_of_iff ((∀ t ∈ w.stored, t ≤ w.read) ∧ w.deleted = false) (by rw [GoodUpkeep, h])
  | .start | .stamp _ _ _ | .removeMember _ _ | .deleteRecord _ | .scan _ _ _
  | .getKey _ _ _ _ _ | .returned _ => .isTrue (by rw [GoodUpkeep, h]; trivial)

variable {store}

inductive UpkeepEffect (store : RedisRegistryStore) (env : PresenceEnv) (s : RedisPresence)
    (point : UpkeepPoint) : RedisPresence → Prop
  | keeps {s' : RedisPresence} : store.writes point = none → store.deletes env s point = none →
      (∀ key record expiry, s'.get? key = some (.record record, expiry) →
        s.get? key = some (.record record, expiry)) →
      UpkeepEffect store env s point s'
  | writes {key : String} {record : PresenceRecord} {expiry : Option Time} :
      store.writes point = some (key, record) →
      UpkeepEffect store env s point (s.write key (.record record) expiry)
  | deletes {key : String} : store.writes point = none → store.deletes env s point = some key →
      UpkeepEffect store env s point (s.erase key)

theorem get?_of_erase {s : RedisPresence} {key key' : String}
    {e : PresenceValue × Option Time} (h : Dict.get? (Dict.erase s key) key' = some e) :
    s.get? key' = some e ∧ key' ≠ key := by
  rw [Dict.get?_erase] at h
  split at h
  · cases h
  · rename_i hkey
    exact ⟨h, hkey⟩

theorem upkeepEffect_of_next {call : UpkeepCall} {point point' : UpkeepPoint} {env : PresenceEnv}
    {s s' : RedisPresence} (h : store.upkeepNext call point env s = some (point', s')) :
    UpkeepEffect store env s point s' := by
  cases point with
  | start =>
      have hs : s' = s := by
        simp only [upkeepNext] at h
        split at h
        · split at h <;> cases h <;> rfl
        · split at h <;> cases h <;> rfl
        · cases h
          rfl
      subst hs
      exact .keeps rfl rfl fun _ _ _ hget ↦ hget
  | stamp connId load record =>
      cases h
      exact .keeps rfl rfl fun _ _ _ hget ↦ hget
  | writeBeat connId record =>
      cases h
      exact .writes rfl
  | removeMember connId record =>
      simp only [upkeepNext] at h
      split at h
      · cases h
        exact .keeps rfl rfl fun _ _ _ hget ↦ hget
      · cases h
        exact .keeps rfl rfl fun _ _ _ hget ↦ hget
      · rename_i members hread
        cases h
        refine .keeps rfl rfl fun key r expiry hget ↦ ?_
        split at hget
        · exact (get?_of_erase hget).1
        · rw [Expiring.change, hread] at hget
          dsimp only at hget
          rw [Dict.get?_modify] at hget
          split at hget
          · obtain ⟨e, -, he⟩ := Option.map_eq_some_iff.mp hget
            cases he
          · exact hget
  | deleteRecord connId =>
      cases h
      cases hread : (s.read env.now (store.presenceKey connId)).isSome with
      | true => exact .deletes rfl (if_pos hread)
      | false =>
          refine .keeps rfl (if_neg (hread ▸ Bool.false_ne_true)) fun key r expiry hget ↦ ?_
          exact (get?_of_erase hget).1
  | scan sweep batches count =>
      cases h
      exact .keeps rfl rfl fun _ _ _ hget ↦ hget
  | getKey sweep key keys batches count =>
      have hs : s' = s := by
        simp only [upkeepNext] at h
        split at h
        · cases h
          rfl
        · cases h
          rfl
        · split at h <;> cases h <;> rfl
      subst hs
      exact .keeps rfl rfl fun _ _ _ hget ↦ hget
  | markKey sweep key record keys batches count =>
      cases h
      exact .writes rfl
  | returned reply => cases h

/-- What the notes say of a call that has read a record with the last contact `t`. -/
structure About (notes : UpkeepNotes κ) (key : String) (w : UpkeepWindow) (t : Time) : Prop where
  mem_seen : t ∈ notes.seen key
  seen_le : ∀ u ∈ notes.seen key, u ≤ t ∨ u ∈ w.stored
  stored_seen : ∀ u ∈ w.stored, u ∈ notes.seen key
  removed_iff : key ∈ notes.removed ↔ w.deleted = true

namespace About

variable {notes : UpkeepNotes κ} {key key' : String} {w : UpkeepWindow} {t u v : Time}

/-- What the contact that a call writes has to do with the contacts that were stored. -/
theorem fresh_iff (h : About notes key w t) :
    (∀ u ∈ notes.seen key, u ≤ v) ∧ key ∉ notes.removed ↔
      (t ≤ v ∧ ∀ u ∈ w.stored, u ≤ v) ∧ w.deleted = false := by
  rw [h.removed_iff, Bool.not_eq_true]
  refine and_congr_left fun _ ↦ ?_
  constructor
  · exact fun hseen ↦ ⟨hseen t h.mem_seen, fun u hu ↦ hseen u (h.stored_seen u hu)⟩
  · rintro ⟨ht, hstored⟩ u hu
    rcases h.seen_le u hu with hle | hmem
    · exact hle.trans ht
    · exact hstored u hmem

theorem mem_update_iff {seen : String → List Time} :
    u ∈ Function.update seen key' (v :: seen key') key ↔ key = key' ∧ u = v ∨ u ∈ seen key := by
  by_cases hkey : key = key'
  · subst hkey
    rw [Function.update_self, List.mem_cons, and_iff_right rfl]
  · rw [Function.update_of_ne hkey, or_iff_right fun h ↦ hkey h.1]

theorem put (h : About notes key w t) {windows : κ → UpkeepWindow} :
    About { notes with seen := Function.update notes.seen key' (v :: notes.seen key'), windows }
      key (if some key = some key' then { w with stored := v :: w.stored } else w) t := by
  by_cases hkey : key = key'
  · rw [if_pos (congrArg some hkey)]
    refine ⟨mem_update_iff.mpr (.inr h.mem_seen), fun c hc ↦ ?_, fun c hc ↦ ?_, h.removed_iff⟩
    · rcases mem_update_iff.mp hc with ⟨-, rfl⟩ | hc
      · exact .inr List.mem_cons_self
      · exact (h.seen_le c hc).imp_right (List.mem_cons_of_mem _)
    · refine mem_update_iff.mpr ((List.mem_cons.mp hc).imp (fun hc ↦ ⟨hkey, hc⟩) ?_)
      exact h.stored_seen c
  · rw [if_neg fun he ↦ hkey (Option.some.inj he)]
    refine ⟨mem_update_iff.mpr (.inr h.mem_seen), fun c hc ↦ ?_, fun c hc ↦ ?_, h.removed_iff⟩
    · exact h.seen_le c ((mem_update_iff.mp hc).resolve_left fun he ↦ hkey he.1)
    · exact mem_update_iff.mpr (.inr (h.stored_seen c hc))

theorem remove (h : About notes key w t) {windows : κ → UpkeepWindow} :
    About { notes with removed := key' :: notes.removed, windows }
      key (if some key = some key' then { w with deleted := true } else w) t := by
  by_cases hkey : key = key'
  · rw [if_pos (congrArg some hkey)]
    refine ⟨h.mem_seen, h.seen_le, h.stored_seen, ?_⟩
    exact iff_of_true (hkey ▸ List.mem_cons_self) rfl
  · rw [if_neg fun he ↦ hkey (Option.some.inj he)]
    refine ⟨h.mem_seen, h.seen_le, h.stored_seen, ?_⟩
    rw [← h.removed_iff, List.mem_cons, or_iff_right hkey]

end About

/-- The last contact of the record that a call has read. -/
def lastRead (w : UpkeepWindow) : UpkeepPoint → Time
  | .stamp _ _ record => record.lastSeen
  | _ => w.read

/-- The last contact that a call is to write. -/
def lastWritten (w : UpkeepWindow) : UpkeepPoint → Time
  | .writeBeat _ _ => w.clock
  | _ => w.read

structure Follows (notes : UpkeepNotes κ) (w : UpkeepWindow) (point : UpkeepPoint) : Prop where
  about : ∀ key, store.windowKey point = some key → About notes key w (lastRead w point)
  written : ∀ key record, store.writes point = some (key, record) →
    record.lastSeen = lastWritten w point

theorem windowKey_of_writes {point : UpkeepPoint} {key : String} {record : PresenceRecord}
    (h : store.writes point = some (key, record)) :
    store.windowKey point = some key ∧ ∀ w, lastRead w point = w.read := by
  cases point with
  | writeBeat connId r =>
      cases h
      exact ⟨rfl, fun _ ↦ rfl⟩
  | markKey sweep key' r keys batches count =>
      cases h
      exact ⟨rfl, fun _ ↦ rfl⟩
  | start | stamp | removeMember | deleteRecord | scan | getKey | returned => cases h

theorem windowKey_sweepPoint (sweep : Sweep) (batches count : Nat) (keys : List String) :
    store.windowKey (sweepPoint sweep batches count keys) = none := by
  induction keys with
  | nil =>
      cases batches with
      | zero => rfl
      | succ batches => rfl
  | cons key keys ih =>
      rw [sweepPoint]
      split
      · exact ih
      · rfl

/-- A call that is not between its `GET` and its `SET`. -/
theorem Follows.of_none {notes : UpkeepNotes κ} {w : UpkeepWindow} {point : UpkeepPoint}
    (h : store.windowKey point = none) : store.Follows notes w point where
  about key hkey := by
    rw [h] at hkey
    cases hkey
  written key record hwrites := by
    rw [(windowKey_of_writes hwrites).1] at h
    cases h

/-- A call that has written or deleted is not between its `GET` and its `SET`. -/
theorem windowKey_next {call : UpkeepCall} {point point' : UpkeepPoint} {env : PresenceEnv}
    {s s' : RedisPresence} (h : store.upkeepNext call point env s = some (point', s'))
    (hpoint : store.writes point ≠ none ∨ ∃ connId, point = .deleteRecord connId) :
    store.windowKey point' = none := by
  cases point with
  | writeBeat connId record =>
      cases h
      rfl
  | markKey sweep key record keys batches count =>
      cases h
      exact windowKey_sweepPoint _ _ _ _
  | deleteRecord connId =>
      cases h
      rfl
  | start | stamp | removeMember | scan | getKey | returned =>
      rcases hpoint with hwrites | ⟨_, ⟨⟩⟩
      exact absurd rfl hwrites

theorem exists_of_deletes {env : PresenceEnv} {s : RedisPresence} {point : UpkeepPoint}
    {key : String} (h : store.deletes env s point = some key) :
    ∃ connId, point = .deleteRecord connId := by
  cases point with
  | deleteRecord connId => exact ⟨connId, rfl⟩
  | start | stamp | writeBeat | removeMember | scan | getKey | markKey | returned => cases h

/-- The notes stay true of a call that goes on. -/
theorem follows_next {notes : UpkeepNotes κ} {w : UpkeepWindow} {call : UpkeepCall}
    {point point' : UpkeepPoint} {env : PresenceEnv} {s s' : RedisPresence}
    (hgot : ∀ key record, got env s key = .found record → About notes key {} record.lastSeen)
    (hw : store.Follows notes w point)
    (h : store.upkeepNext call point env s = some (point', s')) :
    store.Follows notes (w.next env s point) point' := by
  cases point with
  | start =>
      simp only [upkeepNext] at h
      split at h
      · split at h
        · cases h
          exact .of_none rfl
        · cases h
          exact .of_none rfl
        · rename_i record hfound
          cases h
          refine ⟨fun key hkey ↦ ?_, fun key r hwrites ↦ by cases hwrites⟩
          cases hkey
          exact hgot _ _ hfound
      · split at h
        · cases h
          exact .of_none rfl
        · cases h
          exact .of_none rfl
        · cases h
          exact .of_none rfl
      · cases h
        exact .of_none (windowKey_sweepPoint _ _ _ _)
  | stamp connId load record =>
      cases h
      constructor
      · intro key hkey
        obtain ⟨hmem, hseen, hstored, hremoved⟩ := hw.about key hkey
        exact ⟨hmem, hseen, hstored, hremoved⟩
      · intro key r hwrites
        cases hwrites
        rfl
  | writeBeat connId record =>
      exact .of_none (windowKey_next h (.inl (Option.some_ne_none _)))
  | removeMember connId record =>
      simp only [upkeepNext] at h
      split at h
      · cases h
        exact .of_none rfl
      · cases h
        exact .of_none rfl
      · cases h
        exact .of_none rfl
  | deleteRecord connId => exact .of_none (windowKey_next h (.inr ⟨connId, rfl⟩))
  | scan sweep batches count =>
      cases h
      exact .of_none (windowKey_sweepPoint _ _ _ _)
  | getKey sweep key keys batches count =>
      simp only [upkeepNext] at h
      split at h
      · cases h
        exact .of_none (windowKey_sweepPoint _ _ _ _)
      · cases h
        exact .of_none rfl
      · rename_i record hfound
        split at h
        · cases h
          have hnext : w.next env s (.getKey sweep key keys batches count)
              = { read := record.lastSeen } := by
            rw [UpkeepWindow.next, hfound]
          rw [hnext]
          constructor
          · intro key' hkey
            cases hkey
            obtain ⟨hmem, hseen, hstored, hremoved⟩ := hgot _ _ hfound
            exact ⟨hmem, hseen, hstored, hremoved⟩
          · intro key' r hwrites
            cases hwrites
            rfl
        · cases h
          exact .of_none (windowKey_sweepPoint _ _ _ _)
  | markKey sweep key record keys batches count =>
      exact .of_none (windowKey_next h (.inl (Option.some_ne_none _)))
  | returned reply => cases h

/-- What happens to the notes of all calls happens to those on each one. -/
theorem Follows.change {notes notes' : UpkeepNotes κ} {w w' : UpkeepWindow} {point : UpkeepPoint}
    (h : store.Follows notes w point) (hread : w'.read = w.read) (hclock : w'.clock = w.clock)
    (habout : ∀ key t, store.windowKey point = some key → About notes key w t →
      About notes' key w' t) :
    store.Follows notes' w' point := by
  obtain ⟨hw, hwritten⟩ := h
  constructor
  · intro key hkey
    have hlast : lastRead w' point = lastRead w point := by
      cases point <;> first | rfl | exact hread
    rw [hlast]
    exact habout key _ hkey (hw key hkey)
  · intro key record hwrites
    have hlast : lastWritten w' point = lastWritten w point := by
      cases point <;> first | exact hread | exact hclock
    rw [hlast]
    exact hwritten key record hwrites

/-- The notes are true of the records and of the calls. -/
structure Recorded (x : UpkeepState κ × UpkeepNotes κ) : Prop where
  seen : ∀ key record expiry, x.1.server.get? key = some (.record record, expiry) →
    record.lastSeen ∈ x.2.seen key
  follows : ∀ i, store.Follows x.2 (x.2.windows i) (x.1.points i)

/-- What a `GET` reads is the latest of what was stored, and no removal has deleted it. -/
theorem Recorded.about {x : UpkeepState κ × UpkeepNotes κ} (h : store.Recorded x)
    (hordered : Ordered x) {env : PresenceEnv} {key : String} {record : PresenceRecord}
    (hgot : got env x.1.server key = .found record) : About x.2 key {} record.lastSeen := by
  obtain ⟨⟨v, expiry⟩, hget, hv⟩ := Option.bind_eq_some_iff.mp (got_found_iff.mp hgot)
  split at hv
  · cases hv
  · cases hv
    obtain ⟨hseen, hremoved⟩ := hordered key record expiry hget
    constructor
    · exact h.seen key record expiry hget
    · exact fun u hu ↦ .inl (hseen u hu)
    · exact fun u hu ↦ absurd hu List.not_mem_nil
    · exact iff_of_false hremoved Bool.false_ne_true

/-- A step that writes nothing is good. -/
theorem good_of_writes {x : UpkeepState κ × UpkeepNotes κ} {a : κ × PresenceEnv}
    (h : store.writes (x.1.points a.1) = none) : GoodUpkeep x a := by
  rw [GoodUpkeep]
  split
  · rename_i hpoint
    rw [hpoint] at h
    cases h
  · rename_i hpoint
    rw [hpoint] at h
    cases h
  · trivial

/-- Of a call that is to write, the condition speaks of the contact that it writes. -/
theorem good_of_written {x : UpkeepState κ × UpkeepNotes κ} {a : κ × PresenceEnv}
    (h : store.Recorded x) {key : String} {record : PresenceRecord}
    (hwrites : store.writes (x.1.points a.1) = some (key, record)) :
    GoodUpkeep x a ↔ (∀ t ∈ x.2.seen key, t ≤ record.lastSeen) ∧ key ∉ x.2.removed := by
  obtain ⟨hkey, hlast⟩ := windowKey_of_writes hwrites
  obtain ⟨habout, hwritten⟩ := h.follows a.1
  have hread := habout key hkey
  rw [hlast] at hread
  rw [hread.fresh_iff, hwritten key record hwrites]
  generalize hpoint : x.1.points a.1 = point at hwrites
  cases point with
  | writeBeat connId r => rw [GoodUpkeep, hpoint, lastWritten]
  | markKey sweep key' r keys batches count =>
      have hlast : lastWritten (x.2.windows a.1) (.markKey sweep key' r keys batches count)
          = (x.2.windows a.1).read := rfl
      rw [GoodUpkeep, hpoint, hlast, and_iff_right le_rfl]
  | start | stamp | removeMember | deleteRecord | scan | getKey | returned => cases hwrites

section Steps

variable [DecidableEq κ] {calls : κ → UpkeepCall} {x y : UpkeepState κ × UpkeepNotes κ}
  {a : κ × PresenceEnv}

theorem upkeepNote_writes {p : UpkeepState κ} {notes : UpkeepNotes κ} {key : String}
    {record : PresenceRecord} (h : store.writes (p.points a.1) = some (key, record)) :
    store.upkeepNote p a notes =
      { notes with
        seen := Function.update notes.seen key (record.lastSeen :: notes.seen key)
        windows := fun j ↦
          if store.windowKey (p.points j) = some key then
            { notes.windows j with stored := record.lastSeen :: (notes.windows j).stored }
          else notes.windows j } := by
  rw [upkeepNote, h]

theorem upkeepNote_reads {p : UpkeepState κ} {notes : UpkeepNotes κ}
    (h : store.writes (p.points a.1) = none) (h' : store.deletes a.2 p.server (p.points a.1) = none) :
    store.upkeepNote p a notes =
      { notes with
        windows := Function.update notes.windows a.1
          ((notes.windows a.1).next a.2 p.server (p.points a.1)) } := by
  rw [upkeepNote, h, h']

theorem upkeepNote_deletes {p : UpkeepState κ} {notes : UpkeepNotes κ} {key : String}
    (h : store.writes (p.points a.1) = none)
    (h' : store.deletes a.2 p.server (p.points a.1) = some key) :
    store.upkeepNote p a notes =
      { notes with
        removed := key :: notes.removed
        windows := fun j ↦
          if store.windowKey (p.points j) = some key then { notes.windows j with deleted := true }
          else notes.windows j } := by
  rw [upkeepNote, h, h']

/-- The notes stay true as long as the records are in order. -/
theorem recorded_step (h : store.Recorded x) (hordered : Ordered x)
    (hstep : Step.graph (noted store.upkeepNote (store.upkeepOutline calls).step) x a y) :
    store.Recorded y := by
  obtain ⟨p, notes⟩ := x
  obtain ⟨q, hq, rfl⟩ := Option.map_eq_some_iff.mp hstep
  obtain ⟨point', s', hnext, rfl⟩ := Outline.exists_move hq
  have heffect := upkeepEffect_of_next hnext
  cases heffect with
  | keeps hwrites hdeletes hkept =>
      rw [upkeepNote_reads hwrites hdeletes]
      constructor
      · exact fun key record expiry hget ↦ h.seen key record expiry (hkept key record expiry hget)
      · intro j
        dsimp only
        by_cases hj : j = a.1
        · rw [hj, Function.update_self, Points.points_move_self]
          have hnew := follows_next (fun _ _ hgot ↦ h.about hordered hgot) (h.follows a.1) hnext
          exact hnew.change rfl rfl fun key t _ ha ↦ ⟨ha.1, ha.2, ha.3, ha.4⟩
        · rw [Function.update_of_ne hj, Points.points_move_of_ne hj]
          exact (h.follows j).change rfl rfl fun key t _ ha ↦ ⟨ha.1, ha.2, ha.3, ha.4⟩
  | writes hwrites =>
      rename_i key record expiry
      rw [upkeepNote_writes hwrites]
      constructor
      · intro key' r e hget
        have hget : Dict.get? (Dict.insert p.server key _) key' = _ := hget
        rw [Dict.get?_insert] at hget
        split at hget
        · rename_i hkey
          cases hget
          exact About.mem_update_iff.mpr (.inl ⟨hkey, rfl⟩)
        · exact About.mem_update_iff.mpr (.inr (h.seen key' r e hget))
      · intro j
        by_cases hj : j = a.1
        · rw [hj, Points.points_move_self]
          exact .of_none (windowKey_next hnext (.inl (hwrites ▸ Option.some_ne_none _)))
        · rw [Points.points_move_of_ne hj]
          refine (h.follows j).change ?_ ?_ fun k t hk ha ↦ ?_
          · exact apply_ite UpkeepWindow.read _ _ _ |>.trans (ite_self _)
          · exact apply_ite UpkeepWindow.clock _ _ _ |>.trans (ite_self _)
          · dsimp only
            rw [hk]
            exact ha.put
  | deletes hwrites hdeletes =>
      rename_i key
      rw [upkeepNote_deletes hwrites hdeletes]
      constructor
      · exact fun key' r e hget ↦ h.seen key' r e (get?_of_erase hget).1
      · intro j
        by_cases hj : j = a.1
        · rw [hj, Points.points_move_self]
          exact .of_none (windowKey_next hnext (.inr (exists_of_deletes hdeletes)))
        · rw [Points.points_move_of_ne hj]
          refine (h.follows j).change ?_ ?_ fun k t hk ha ↦ ?_
          · exact apply_ite UpkeepWindow.read _ _ _ |>.trans (ite_self _)
          · exact apply_ite UpkeepWindow.clock _ _ _ |>.trans (ite_self _)
          · dsimp only
            rw [hk]
            exact ha.remove

/-- What a step needs to keep the records in order. -/
theorem good_iff (h : store.Recorded x) (hordered : Ordered x)
    (hstep : Step.graph (noted store.upkeepNote (store.upkeepOutline calls).step) x a y) :
    GoodUpkeep x a ↔ Ordered y := by
  obtain ⟨p, notes⟩ := x
  obtain ⟨q, hq, rfl⟩ := Option.map_eq_some_iff.mp hstep
  obtain ⟨point', s', hnext, rfl⟩ := Outline.exists_move hq
  have heffect := upkeepEffect_of_next hnext
  cases heffect with
  | keeps hwrites hdeletes hkept =>
      refine iff_of_true (good_of_writes hwrites) ?_
      rw [upkeepNote_reads hwrites hdeletes]
      exact fun key r e hget ↦ hordered key r e (hkept key r e hget)
  | writes hwrites =>
      rename_i key record expiry
      rw [good_of_written h hwrites, upkeepNote_writes hwrites]
      constructor
      · intro hgood key' r e hget
        have hget : Dict.get? (Dict.insert p.server key _) key' = _ := hget
        rw [Dict.get?_insert] at hget
        split at hget
        · rename_i hkey
          cases hget
          subst hkey
          refine ⟨fun t ht ↦ ?_, hgood.2⟩
          rcases About.mem_update_iff.mp ht with ⟨-, rfl⟩ | ht
          · exact le_rfl
          · exact hgood.1 t ht
        · rename_i hkey
          obtain ⟨hseen, hremoved⟩ := hordered key' r e hget
          refine ⟨fun t ht ↦ hseen t ?_, hremoved⟩
          exact (About.mem_update_iff.mp ht).resolve_left fun h ↦ hkey h.1
      · intro hafter
        obtain ⟨hseen, hremoved⟩ := hafter key record expiry (Dict.get?_insert_self _ _ _)
        exact ⟨fun t ht ↦ hseen t (About.mem_update_iff.mpr (.inr ht)), hremoved⟩
  | deletes hwrites hdeletes =>
      refine iff_of_true (good_of_writes hwrites) ?_
      rw [upkeepNote_deletes hwrites hdeletes]
      intro key r e hget
      obtain ⟨hget, hkey⟩ := get?_of_erase hget
      obtain ⟨hseen, hremoved⟩ := hordered key r e hget
      refine ⟨hseen, fun hmem ↦ ?_⟩
      exact (List.mem_cons.mp hmem).elim hkey hremoved

end Steps

/-- The calls before their first commands. -/
def upkeepBegun (κ : Type u) (s : RedisPresence) : UpkeepState κ where
  server := s
  points _ := .start

/-- What is noted of a server at first. -/
def notesOf (κ : Type u) (s : RedisPresence) : UpkeepNotes κ where
  seen key :=
    match s.get? key with
    | some (.record record, _) => [record.lastSeen]
    | _ => []

theorem mem_seen_notesOf {s : RedisPresence} {key : String} {record : PresenceRecord}
    {expiry : Option Time} (h : s.get? key = some (.record record, expiry)) (t : Time) :
    t ∈ (notesOf κ s).seen key ↔ t = record.lastSeen := by
  rw [notesOf]
  dsimp only
  rw [h]
  exact List.mem_singleton

/-- Under every interleaving of heartbeats, removals and sweeps for stale records, no record is
ever older than one that was stored under its key before, or back after a removal of it,
exactly when between the `GET` and the `SET` of a call no other one stores a later record under
its key or deletes it, and no clock of a heartbeat is behind the contact that it has read. -/
theorem ordered_iff [DecidableEq κ] (store : RedisRegistryStore) (calls : κ → UpkeepCall)
    {s : RedisPresence} {as : List (κ × PresenceEnv)}
    {x : ProgPool κ PresenceEnv RedisPresence PresenceReply}
    (h : Run (Step.graph ProgPool.issue)
      { server := s, progs := fun i ↦ store.upkeep (calls i) } as x) :
    ∃ y : UpkeepState κ × UpkeepNotes κ, x = (store.upkeepOutline calls).pool y.1 ∧
      let step := Step.graph (noted store.upkeepNote (store.upkeepOutline calls).step)
      Run step (upkeepBegun κ s, notesOf κ s) as y ∧
        (Run (Step.Only GoodUpkeep step) (upkeepBegun κ s, notesOf κ s) as y ↔
          ∀ bs z, bs <+: as → Run step (upkeepBegun κ s, notesOf κ s) bs z → Ordered z) := by
  obtain ⟨p, hrun, rfl⟩ := (store.upkeepOutline calls).run_pool.mp
    (show Run _ ((store.upkeepOutline calls).pool (upkeepBegun κ s)) as x from h)
  obtain ⟨notes, hnoted⟩ := hrun.exists_noted store.upkeepNote (notesOf κ s)
  have hordered : Ordered (upkeepBegun κ s, notesOf κ s) := fun key record expiry hget ↦
    ⟨fun t ht ↦ ((mem_seen_notesOf hget t).mp ht).le, List.not_mem_nil⟩
  have hrecorded : store.Recorded (upkeepBegun κ s, notesOf κ s) :=
    ⟨fun key record expiry hget ↦ (mem_seen_notesOf hget _).mpr rfl, fun _ ↦ .of_none rfl⟩
  refine ⟨(p, notes), rfl, hnoted, ?_⟩
  let step := Step.graph (noted store.upkeepNote (store.upkeepOutline calls).step)
  have hiff : Run (Step.Only GoodUpkeep step) (upkeepBegun κ s, notesOf κ s) as (p, notes) ↔
      Run step (upkeepBegun κ s, notesOf κ s) as (p, notes) ∧
        ∀ bs z, bs <+: as → Run step (upkeepBegun κ s, notesOf κ s) bs z → Ordered z := by
    apply Run.only_iff_along (I := store.Recorded)
    · exact fun _ _ _ _ ht ht' ↦ Option.some.inj (ht.symm.trans ht')
    · exact fun _ _ _ hI hP hstep ↦ recorded_step hI hP hstep
    · exact fun _ _ _ hI hP hstep ↦ good_iff hI hP hstep
    · exact hrecorded
    · exact hordered
  exact hiff.trans (and_iff_right hnoted)

def sampleRecord (lastSeen : Time) : PresenceRecord where
  agentId := ⟨1⟩
  tenantId := "acme"
  connId := "acme:agent:1"
  status := "online"
  capabilities := []
  tags := []
  load := 0
  lastSeen := lastSeen
  registeredAt := 0
  metadata := []

inductive SampleCaller where
  | beats
  | removes
  | sweeps
deriving DecidableEq

def sampleUpkeep : SampleCaller → UpkeepCall
  | .beats => .heartbeat "acme:agent:1" none
  | .removes => .remove "acme:agent:1"
  | .sweeps => .expireStale 60 1

def sampleServer (lastSeen : Time) : RedisPresence :=
  Expiring.write ∅ "lip:presence:acme:agent:1" (.record (sampleRecord lastSeen)) none

/-- A sweep reads and marks the record in the middle of a heartbeat, which then writes a later
one, and a removal comes last. -/
def sharedUpkeep : List (SampleCaller × PresenceEnv) :=
  [(.sweeps, { now := Time.seconds 90 }),
    (.sweeps, { now := Time.seconds 90, visited := ["lip:presence:acme:agent:1"] }),
    (.beats, { now := Time.seconds 91 }), (.sweeps, { now := Time.seconds 91 }),
    (.sweeps, { now := Time.seconds 91 }), (.beats, { now := Time.seconds 92 }),
    (.beats, { now := Time.seconds 92 }), (.removes, { now := Time.seconds 93 }),
    (.removes, { now := Time.seconds 93 }), (.removes, { now := Time.seconds 93 })]

theorem ordered_sample : ∃ z : UpkeepState SampleCaller × UpkeepNotes SampleCaller,
    let step := Step.graph (noted (upkeepNote {}) (upkeepOutline {} sampleUpkeep).step)
    let begun := (upkeepBegun SampleCaller (sampleServer 0), notesOf SampleCaller (sampleServer 0))
    Run step begun sharedUpkeep z ∧
      z.2.seen "lip:presence:acme:agent:1" = [Time.seconds 92, 0, 0] ∧
      z.2.removed = ["lip:presence:acme:agent:1"] ∧
      ∀ bs z, bs <+: sharedUpkeep → Run step begun bs z → Ordered z := by
  let begun := (upkeepBegun SampleCaller (sampleServer 0), notesOf SampleCaller (sampleServer 0))
  let step (x : UpkeepState SampleCaller × UpkeepNotes SampleCaller)
      (a : SampleCaller × PresenceEnv) :=
    if GoodUpkeep x a then noted (upkeepNote {}) (upkeepOutline {} sampleUpkeep).step x a else none
  have hnotes : (sharedUpkeep.foldlM step begun).map
      (fun z ↦ (z.2.seen "lip:presence:acme:agent:1", z.2.removed))
        = some ([Time.seconds 92, 0, 0], ["lip:presence:acme:agent:1"]) := by
    decide +kernel
  obtain ⟨z, hz, hcontent⟩ := Option.map_eq_some_iff.mp hnotes
  obtain ⟨hseen, hremoved⟩ := Prod.mk.inj hcontent
  have hgood : Run (Step.Only GoodUpkeep (Step.graph (noted (upkeepNote {})
      (upkeepOutline {} sampleUpkeep).step))) begun sharedUpkeep z :=
    Run.only_graph_iff.mpr hz
  obtain ⟨x, hpool⟩ : ∃ x : ProgPool SampleCaller PresenceEnv RedisPresence PresenceReply,
      Run (Step.graph ProgPool.issue)
        { server := sampleServer 0, progs := fun i ↦ upkeep {} (sampleUpkeep i) } sharedUpkeep x := by
    apply Exists.intro
    apply Run.graph_iff.mpr
    with_unfolding_all rfl
  obtain ⟨y, -, hrun, hordered⟩ := ordered_iff {} sampleUpkeep hpool
  obtain rfl : z = y :=
    Option.some.inj ((Run.graph_iff.mp hgood.of_only).symm.trans (Run.graph_iff.mp hrun))
  exact ⟨z, hrun, hseen, hremoved, hordered.mp hgood⟩

/-- A removal in the middle of a heartbeat: it returns `True`, and the record is there again.
A heartbeat in the middle of a sweep: the record is offline, and as old as before it. -/
theorem upkeep_overwrites :
    (∃ x : ProgPool SampleCaller PresenceEnv RedisPresence PresenceReply,
      Run (Step.graph ProgPool.issue)
        { server := sampleServer 0, progs := fun i ↦ upkeep {} (sampleUpkeep i) }
        [(.beats, { now := 1 }), (.removes, { now := 2 }), (.removes, { now := 2 }),
          (.removes, { now := 2 }), (.beats, { now := 3 }), (.beats, { now := 3 })] x ∧
      x.progs .removes = .pure (.done true) ∧
      x.server.read 3 "lip:presence:acme:agent:1" = some (.record (sampleRecord 3))) ∧
    ∃ x : ProgPool SampleCaller PresenceEnv RedisPresence PresenceReply,
      Run (Step.graph ProgPool.issue)
        { server := sampleServer 0, progs := fun i ↦ upkeep {} (sampleUpkeep i) }
        [(.sweeps, { now := Time.seconds 90 }),
          (.sweeps, { now := Time.seconds 90, visited := ["lip:presence:acme:agent:1"] }),
          (.sweeps, { now := Time.seconds 90 }), (.beats, { now := Time.seconds 91 }),
          (.beats, { now := Time.seconds 91 }), (.beats, { now := Time.seconds 91 }),
          (.sweeps, { now := Time.seconds 92 })] x ∧
      x.progs .beats = .pure (.done true) ∧
      x.server.read (Time.seconds 92) "lip:presence:acme:agent:1"
        = some (.record { sampleRecord 0 with status := "offline" }) := by
  constructor
  · exact ⟨_, Run.graph_iff.mpr rfl, rfl, rfl⟩
  · apply Exists.intro
    constructor
    · apply Run.graph_iff.mpr
      with_unfolding_all rfl
    · constructor
      · with_unfolding_all rfl
      · with_unfolding_all rfl

end RedisRegistryStore

end SemanticBus
