import Mathlib.Data.Finset.Sort
import Mathlib.Data.String.Basic
import SemanticBus.Data.Prog
import SemanticBus.Data.Redis
import SemanticBus.Storage.Ports

/-!
# Presence on a Redis server

The store of the presence of agents, a client of a Redis server.  The record of a
connection and the index of a tenant are keys of one space (`presenceKey`,
`tenantIndexKey`), so a command may meet a value of the other type, which the server
refuses.  A record is read back as it was written.
-/

namespace SemanticBus

inductive PresenceValue where
  | record (record : PresenceRecord)
  /-- The set of the connections of a tenant. -/
  | conns (members : Finset String)

abbrev RedisPresence := Expiring String PresenceValue

/-- What a command meets outside the keys: the time, and the keys that a `SCAN` visits. -/
structure PresenceEnv where
  now : Time
  visited : List String := []

abbrev PresenceProg := Prog PresenceEnv RedisPresence

/-- What a call to the store returns, or raises. -/
inductive PresenceReply where
  | stored (record : PresenceRecord)
  | done (ok : Bool)
  | listed (records : List PresenceRecord)
  | marked (count : Nat)
  /-- The server refuses a command on a value of another type. -/
  | wrongType

inductive GetReply where
  | missing
  | found (record : PresenceRecord)
  | wrongType

/-- The records of a reply, if it is one that can be read. -/
def GetReply.records : GetReply → Option (List PresenceRecord)
  | .missing => some []
  | .found record => some [record]
  | .wrongType => none

structure RedisRegistryStore where
  keyPrefix : String := "lip"
  ttl : Int := 300
  /-- `SET` refuses an expiry that is not positive. -/
  ttl_pos : 0 < ttl := by decide

namespace RedisRegistryStore

variable (store : RedisRegistryStore)

def presenceKey (connId : String) : String := store.keyPrefix ++ ":presence:" ++ connId

def tenantIndexKey (tenantId : String) : String :=
  store.keyPrefix ++ ":presence:tenant:" ++ tenantId

/-! ## Commands -/

def got (env : PresenceEnv) (s : RedisPresence) (key : String) : GetReply :=
  match s.read env.now key with
  | none => .missing
  | some (.record record) => .found record
  | some (.conns _) => .wrongType

theorem got_found_iff {env : PresenceEnv} {s : RedisPresence} {key : String}
    {record : PresenceRecord} :
    got env s key = .found record ↔ s.read env.now key = some (.record record) := by
  rw [got]
  split
  · rename_i hread
    simp [hread]
  · rename_i hread
    simp [hread]
  · rename_i hread
    simp [hread]

def getRecord (key : String) : PresenceProg GetReply := .query fun env s ↦ got env s key

def setRecord (key : String) (record : PresenceRecord) : PresenceProg Unit :=
  .modify fun env s ↦ s.write key (.record record) (some (env.now + Time.seconds store.ttl))

/-- `SADD`, unless the key holds a record. -/
def addMember (key connId : String) : PresenceProg Bool :=
  .command fun env s ↦
    match s.read env.now key with
    | some (.record _) => (false, s)
    | _ => (true, s.change env.now key fun
        | some (.conns members) => .conns (insert connId members)
        | _ => .conns {connId})

/-- `SREM`, unless the key holds a record; an empty set is no key. -/
def removeMember (key connId : String) : PresenceProg Bool :=
  .command fun env s ↦
    match s.read env.now key with
    | none => (true, s)
    | some (.record _) => (false, s)
    | some (.conns members) =>
        (true, if members.erase connId = ∅ then s.erase key
          else s.change env.now key fun _ ↦ .conns (members.erase connId))

def expireKey (key : String) : PresenceProg Unit :=
  .modify fun env s ↦ s.expire env.now key store.ttl

def deleteKey (key : String) : PresenceProg Bool :=
  .command fun env s ↦ ((s.read env.now key).isSome, s.erase key)

/-- `SMEMBERS`, in some order, unless the key holds a record. -/
def getMembers (key : String) : PresenceProg (Option (List String)) :=
  .query fun env s ↦
    match s.read env.now key with
    | none => some []
    | some (.record _) => none
    | some (.conns members) => some members.sort

/-- `GET` of the records of some keys, in one transaction, unless one of them holds a set. -/
def getRecords (keys : List String) : PresenceProg (Option (List PresenceRecord)) :=
  .query fun env s ↦
    (keys.mapM fun key ↦ (got env s key).records).map List.flatten

def scan (pattern : String) : PresenceProg (List String) :=
  .query fun env s ↦
    env.visited.filter fun key ↦ (s.read env.now key).isSome && matchesPattern pattern key

/-! ## Operations -/

def upsertPresence (record : PresenceRecord) : PresenceProg PresenceReply := do
  let env ← .ask
  let record := { record with lastSeen := env.now }
  store.setRecord (store.presenceKey record.connId) record
  match ← addMember (store.tenantIndexKey record.tenantId) record.connId with
  | false => pure .wrongType
  | true => do
      store.expireKey (store.tenantIndexKey record.tenantId)
      pure (.stored record)

/-- The record after a heartbeat. -/
def beat (record : PresenceRecord) (now : Time) (load : Option ℚ) : PresenceRecord :=
  { record with lastSeen := now, load := load.getD record.load }

/-- The rest of a heartbeat that has read the clock. -/
def writeBeat (connId : String) (record : PresenceRecord) : PresenceProg PresenceReply := do
  store.setRecord (store.presenceKey connId) record
  pure (.done true)

/-- The rest of a heartbeat that has read the record. -/
def stampBeat (connId : String) (load : Option ℚ) (record : PresenceRecord) :
    PresenceProg PresenceReply := do
  let env ← .ask
  store.writeBeat connId (beat record env.now load)

def heartbeat (connId : String) (load : Option ℚ) : PresenceProg PresenceReply := do
  match ← getRecord (store.presenceKey connId) with
  | .missing => pure (.done false)
  | .wrongType => pure .wrongType
  | .found record => store.stampBeat connId load record

/-- The rest of a removal whose connection is out of the index. -/
def deleteRecord (connId : String) : PresenceProg PresenceReply := do
  let deleted ← deleteKey (store.presenceKey connId)
  pure (.done deleted)

/-- The rest of a removal that has read the record. -/
def removeFound (connId : String) (record : PresenceRecord) : PresenceProg PresenceReply := do
  match ← removeMember (store.tenantIndexKey record.tenantId) connId with
  | false => pure .wrongType
  | true => store.deleteRecord connId

def remove (connId : String) : PresenceProg PresenceReply := do
  match ← getRecord (store.presenceKey connId) with
  | .missing => pure (.done false)
  | .wrongType => pure .wrongType
  | .found record => store.removeFound connId record

structure Filters where
  status : Option String := none
  capability : Option String := none
  tag : Option String := none

def skips (filters : Filters) (record : PresenceRecord) : Bool :=
  (nonempty filters.status).any (record.status ≠ ·)
    || (nonempty filters.capability).any (· ∉ record.capabilities)
    || (nonempty filters.tag).any (· ∉ record.tags)

/-- List agents for a tenant with optional filters. -/
def listByTenant (tenantId : String) (filters : Filters) : PresenceProg PresenceReply := do
  match ← getMembers (store.tenantIndexKey tenantId) with
  | none => pure .wrongType
  | some [] => pure (.listed [])
  | some connIds => do
      match ← getRecords (connIds.map store.presenceKey) with
      | none => pure .wrongType
      | some records =>
          pure (.listed ((records.filter fun record ↦ !skips filters record).insertionSort
            fun a b ↦ a.registeredAt ≤ b.registeredAt))

/-- Whether `expire_stale` takes the key for an index. -/
def isIndexKey (key : String) : Bool := ":tenant:".toList <:+: key.toList

def isStale (cutoff : Time) (timeoutSeconds : ℚ) (record : PresenceRecord) : Bool :=
  Time.timestamp (cutoff - record.lastSeen) > timeoutSeconds && record.status = "online"

/-- Mark the stale ones among some keys as offline, and go on with their number. -/
def expireKeys (cutoff : Time) (timeoutSeconds : ℚ) (next : Nat → PresenceProg PresenceReply) :
    List String → Nat → PresenceProg PresenceReply
  | [], count => next count
  | key :: keys, count =>
      if isIndexKey key then expireKeys cutoff timeoutSeconds next keys count
      else do
        match ← getRecord key with
        | .missing => expireKeys cutoff timeoutSeconds next keys count
        | .wrongType => pure .wrongType
        | .found record =>
            if isStale cutoff timeoutSeconds record then do
              store.setRecord key { record with status := "offline" }
              expireKeys cutoff timeoutSeconds next keys (count + 1)
            else expireKeys cutoff timeoutSeconds next keys count

/-- The loop over the batches of keys, as many as it takes until the cursor is back. -/
def expireBatches (cutoff : Time) (timeoutSeconds : ℚ) : Nat → Nat → PresenceProg PresenceReply
  | 0, count => pure (.marked count)
  | batches + 1, count => do
      let keys ← scan (store.keyPrefix ++ ":presence:*")
      store.expireKeys cutoff timeoutSeconds (expireBatches cutoff timeoutSeconds batches) keys
        count

/-- Mark agents as offline if stale. -/
def expireStale (timeoutSeconds : ℚ) (batches : Nat) : PresenceProg PresenceReply := do
  let env ← .ask
  store.expireBatches env.now timeoutSeconds batches 0

end RedisRegistryStore

end SemanticBus
