import SemanticBus.Registry.Agent
import SemanticBus.Storage.Sweeps

/-!
# The keys of presence records

The key of a record is the prefix, a marker and the id of a connection, which begins with
any text as a tenant; the key of an index is the prefix, the same marker, one more and a
tenant.  `expire_stale` finds keys by a pattern that the prefix is a part of, and tells
the indexes by the second marker anywhere in a key.  So records and indexes are told
apart exactly if neither the prefix nor the tenant brings that marker along
(`keys_apart_iff`).
-/

namespace SemanticBus

/-! ## Words between separators -/

section Infix

variable {α : Type*} {d : α} {w xs : List α}

/-- A word between two separators is on one side of any separator. -/
theorem infix_append_iff (hd : d ∉ w) (xs ys : List α) : d :: w ++ [d] <:+: xs ++ d :: ys ↔
    d :: w ++ [d] <:+: xs ++ [d] ∨ d :: w ++ [d] <:+: d :: ys := by
  constructor
  · rintro ⟨l, r, h⟩
    have h : l ++ d :: (w ++ d :: r) = xs ++ d :: ys := by simpa using h
    rcases List.append_eq_append_iff.mp h with ⟨m, rfl, hrest⟩ | ⟨m, rfl, hrest⟩
    · cases m with
      | nil =>
          obtain ⟨-, rfl⟩ := List.cons.inj hrest
          exact .inr ⟨[], r, by simp⟩
      | cons c m =>
          -- the word begins before the separator, so it ends there or before
          obtain ⟨rfl, hrest'⟩ := List.cons.inj hrest
          rcases List.append_eq_append_iff.mp hrest' with ⟨m', rfl, hend⟩ | ⟨m', rfl, hend⟩
          · cases m' with
            | nil => exact .inl ⟨l, [], by simp⟩
            | cons c m' =>
                obtain ⟨rfl, -⟩ := List.cons.inj hend
                exact .inl ⟨l, m' ++ [d], by simp⟩
          · cases m' with
            | nil => exact .inl ⟨l, [], by simp⟩
            | cons c m' =>
                obtain ⟨rfl, -⟩ := List.cons.inj hend
                exact absurd (by simp) hd
    · exact .inr ⟨m, r, by rw [hrest]; simp⟩
  · rintro (h | h)
    · exact h.trans ⟨[], ys, by simp⟩
    · exact h.trans (List.suffix_append _ _).isInfix

/-- A word between two separators is the one that is there. -/
theorem infix_iff_eq (hw : d ∉ w) (hxs : d ∉ xs) :
    d :: w ++ [d] <:+: d :: xs ++ [d] ↔ w = xs := by
  refine ⟨?_, fun h ↦ h ▸ List.infix_rfl⟩
  rintro ⟨l, r, h⟩
  have h : l ++ d :: (w ++ d :: r) = d :: (xs ++ [d]) := by simpa using h
  cases l with
  | nil =>
      have hrest : w ++ d :: r = xs ++ [d] := (List.cons.inj h).2
      rcases List.append_eq_append_iff.mp hrest with ⟨m, rfl, hm⟩ | ⟨m, rfl, hm⟩
      · cases m with
        | nil => rw [List.append_nil]
        | cons c m =>
            obtain ⟨rfl, -⟩ := List.cons.inj hm
            exact absurd (by simp) hxs
      · cases m with
        | nil => rw [List.append_nil]
        | cons c m =>
            obtain ⟨rfl, -⟩ := List.cons.inj hm
            exact absurd (by simp) hw
  | cons c l =>
      have hrest : l ++ d :: (w ++ d :: r) = xs ++ [d] := (List.cons.inj h).2
      rcases List.append_eq_append_iff.mp hrest with ⟨m, rfl, hm⟩ | ⟨m, rfl, hm⟩
      · cases m with
        | nil => simp at hm
        | cons c' m =>
            obtain ⟨rfl, -⟩ := List.cons.inj hm
            exact absurd (by simp) hxs
      · have hlength := congrArg List.length hm
        simp at hlength
        omega

/-- A word between two separators has the second one after the first. -/
theorem mem_of_infix_cons (h : d :: w ++ [d] <:+: d :: xs) : d ∈ xs := by
  obtain ⟨l, r, h⟩ := h
  have h : l ++ d :: (w ++ d :: r) = d :: xs := by simpa using h
  cases l with
  | nil =>
      obtain ⟨-, rfl⟩ := List.cons.inj h
      simp
  | cons c l =>
      obtain ⟨rfl, rfl⟩ := List.cons.inj h
      simp

end Infix

/-! ## Patterns -/

/-- What is no class and no escape in a pattern matches itself. -/
theorem Glob.fits_parse {n : Nat} {rest cs : List Char} (p : List Char)
    (hp : ∀ c ∈ p, c ≠ '[' ∧ c ≠ '\\') (hrest : fits (parse n rest) cs = true) :
    fits (parse (p.length + n) (p ++ rest)) (p ++ cs) = true := by
  induction p with
  | nil => rwa [List.length_nil, Nat.zero_add]
  | cons c p ih =>
      obtain ⟨hc, hp⟩ := List.forall_mem_cons.mp hp
      have ih := ih hp
      rw [List.length_cons, Nat.add_right_comm, List.cons_append, List.cons_append]
      unfold parse
      split
      · contradiction
      · contradiction
      · rename_i heq hcs
        obtain ⟨rfl, rfl⟩ := List.cons.inj hcs
        obtain rfl := Nat.succ.inj heq
        rw [fits, List.tails_cons, List.any_cons, List.any_eq_true.mpr ⟨p ++ cs, ?_, ih⟩,
          Bool.or_true]
        cases p ++ cs <;> simp
      · rename_i heq hcs
        obtain ⟨rfl, rfl⟩ := List.cons.inj hcs
        obtain rfl := Nat.succ.inj heq
        exact ih
      · rename_i hcs
        exact absurd (List.cons.inj hcs).1 hc.2
      · rename_i hcs
        exact absurd (List.cons.inj hcs).1 hc.1
      · rename_i hcs
        exact absurd (List.cons.inj hcs).1 hc.1
      · rename_i heq hcs
        obtain ⟨rfl, rfl⟩ := List.cons.inj hcs
        obtain rfl := Nat.succ.inj heq
        rw [fits, ih, decide_eq_true rfl, Bool.and_self]

namespace RedisRegistryStore

variable (store : RedisRegistryStore) {tenantId : String} {agentId : UUID} {websocket : Nat}

/-- The pattern of the keys that `expire_stale` looks for. -/
def pattern : String := store.keyPrefix ++ ":presence:*"

/-- A prefix without classes and escapes is found. -/
theorem matchesPattern_presenceKey (h : ∀ c ∈ store.keyPrefix.toList, c ≠ '[' ∧ c ≠ '\\')
    (connId : String) : matchesPattern store.pattern (store.presenceKey connId) = true := by
  have hmarker : Glob.fits (Glob.parse 11 ":presence:*".toList)
      (":presence:".toList ++ connId.toList) = true := by
    simp [Glob.parse, Glob.fits]
  rw [matchesPattern, pattern, presenceKey, String.append_assoc, String.toList_append,
    String.toList_append, String.length_append, String.toList_append]
  exact Glob.fits_parse _ h hmarker

/-! ## The marker of the indexes -/

def marker : List Char := ':' :: "tenant".toList ++ [':']

theorem isIndexKey_iff (key : String) : isIndexKey key = true ↔ marker <:+: key.toList :=
  decide_eq_true_iff

theorem marker_infix_append (xs ys : List Char) :
    marker <:+: xs ++ ':' :: ys ↔ marker <:+: xs ++ [':'] ∨ marker <:+: ':' :: ys :=
  infix_append_iff (by decide) xs ys

theorem marker_infix_cons (xs ys : List Char) : marker <:+: ':' :: (xs ++ ':' :: ys) ↔
    marker <:+: ':' :: xs ++ [':'] ∨ marker <:+: ':' :: ys :=
  marker_infix_append (':' :: xs) ys

theorem marker_infix_iff {xs : List Char} (h : ':' ∉ xs) :
    marker <:+: ':' :: xs ++ [':'] ↔ "tenant".toList = xs :=
  infix_iff_eq (by decide) h

/-- The id of an agent is no marker. -/
theorem marker_notInfix_str (agentId : UUID) : ¬ marker <:+: ':' :: agentId.str.toList ++ [':'] := by
  rw [marker_infix_iff agentId.colon_notMem_str]
  intro h
  have hparse := agentId.parse_str
  rw [← String.toList_injective h] at hparse
  have hnone : UUID.parse "tenant" = none := by decide
  cases hnone.symm.trans hparse

/-- The key of a record has the marker of an index exactly if the prefix or the tenant brings it
along. -/
theorem isIndexKey_presenceKey_iff :
    isIndexKey (store.presenceKey (connId tenantId agentId websocket)) = true ↔
      isIndexKey (store.keyPrefix ++ ":") = true ∨ isIndexKey (":" ++ tenantId ++ ":") = true := by
  have hkey : (store.presenceKey (connId tenantId agentId websocket)).toList =
      store.keyPrefix.toList ++ ':' :: ("presence".toList ++ ':' ::
        (tenantId.toList ++ ':' :: (agentId.str.toList ++ ':' :: (toString websocket).toList))) := by
    simp [presenceKey, connId]
  have hprefix : (store.keyPrefix ++ ":").toList = store.keyPrefix.toList ++ [':'] := by
    simp
  have htenant : (":" ++ tenantId ++ ":").toList = ':' :: tenantId.toList ++ [':'] := by
    simp
  have hword : ¬ marker <:+: ':' :: "presence".toList ++ [':'] := by
    rw [marker_infix_iff (by decide)]
    decide
  have hsocket : ¬ marker <:+: ':' :: (toString websocket).toList :=
    fun h ↦ colon_notMem_toString websocket (mem_of_infix_cons h)
  rw [isIndexKey_iff, isIndexKey_iff, isIndexKey_iff, hkey, hprefix, htenant]
  -- at each colon, the marker is before it or after it
  calc _ ↔ marker <:+: store.keyPrefix.toList ++ [':'] ∨
          marker <:+: ':' :: "presence".toList ++ [':'] ∨
          marker <:+: ':' :: tenantId.toList ++ [':'] ∨
          marker <:+: ':' :: agentId.str.toList ++ [':'] ∨
          marker <:+: ':' :: (toString websocket).toList := by
        rw [marker_infix_append, marker_infix_cons, marker_infix_cons, marker_infix_cons]
    _ ↔ _ := by
        rw [or_iff_right hword, or_iff_left hsocket, or_iff_left (marker_notInfix_str agentId)]

/-! ## The keys that a sweep reads -/

/-- Mark the stale ones among the records under some keys as offline, and go on with their
number. -/
def markStale (cutoff : Time) (timeoutSeconds : ℚ) (next : Nat → PresenceProg PresenceReply) :
    List String → Nat → PresenceProg PresenceReply
  | [], count => next count
  | key :: keys, count => do
      match ← getRecord key with
      | .missing => markStale cutoff timeoutSeconds next keys count
      | .wrongType => pure .wrongType
      | .found record =>
          if isStale cutoff timeoutSeconds record then do
            store.setRecord key { record with status := "offline" }
            markStale cutoff timeoutSeconds next keys (count + 1)
          else markStale cutoff timeoutSeconds next keys count

def examined (env : PresenceEnv) (s : RedisPresence) : List String :=
  (env.visited.filter fun key ↦
    (s.read env.now key).isSome && matchesPattern store.pattern key).filter fun key ↦
      !isIndexKey key

variable {store}

/-- A sweep reads the keys that it does not take for an index. -/
theorem expireKeys_eq {cutoff : Time} {timeoutSeconds : ℚ}
    {next : Nat → PresenceProg PresenceReply} (keys : List String) (count : Nat) :
    store.expireKeys cutoff timeoutSeconds next keys count =
      store.markStale cutoff timeoutSeconds next (keys.filter fun key ↦ !isIndexKey key) count := by
  induction keys generalizing count with
  | nil => rfl
  | cons key keys ih =>
      rw [expireKeys, List.filter_cons]
      cases isIndexKey key with
      | true => exact ih count
      | false =>
          rw [if_neg Bool.false_ne_true, Bool.not_false, if_pos rfl, markStale]
          congr 1
          funext reply
          cases reply with
          | missing => exact ih count
          | wrongType => rfl
          | found record => simp only [ih]

/-- Each batch of a sweep reads the keys that are examined. -/
theorem run_expireBatches {cutoff : Time} {timeoutSeconds : ℚ} (env : PresenceEnv)
    (s : RedisPresence) (batches count : Nat) :
    (store.expireBatches cutoff timeoutSeconds (batches + 1) count).run env s =
      (store.markStale cutoff timeoutSeconds
        (store.expireBatches cutoff timeoutSeconds batches) (store.examined env s) count).run
        env s := by
  rw [expireBatches, Prog.run_bind, scan, Prog.run_query, expireKeys_eq]
  rfl

theorem mem_examined {env : PresenceEnv} {s : RedisPresence} {key : String} :
    key ∈ store.examined env s ↔ (key ∈ env.visited ∧ (s.read env.now key).isSome = true) ∧
      matchesPattern store.pattern key = true ∧ isIndexKey key = false := by
  simp only [examined, List.mem_filter, Bool.and_eq_true, Bool.not_eq_true', and_assoc]

/-- A sweep reads no index. -/
theorem tenantIndexKey_notMem_examined (env : PresenceEnv) (s : RedisPresence)
    (tenantId : String) : store.tenantIndexKey tenantId ∉ store.examined env s := by
  intro h
  have hindex := (mem_examined.mp h).2.2
  rw [isIndexKey_tenantIndexKey] at hindex
  cases hindex

variable (store) (tenantId agentId websocket)

/-- The key of the record of a connection is the key of nothing else, and a sweep reads it, and
no index, in every batch in which it is. -/
structure KeyApart : Prop where
  conn : ∀ tenantId' agentId' websocket',
    store.presenceKey (connId tenantId agentId websocket) =
        store.presenceKey (connId tenantId' agentId' websocket') →
      tenantId = tenantId' ∧ agentId = agentId' ∧ websocket = websocket'
  index : ∀ tenantId', store.presenceKey (connId tenantId agentId websocket) ≠
    store.tenantIndexKey tenantId'
  examined : ∀ env (s : RedisPresence),
    store.presenceKey (connId tenantId agentId websocket) ∈ env.visited →
    (s.read env.now (store.presenceKey (connId tenantId agentId websocket))).isSome = true →
      store.presenceKey (connId tenantId agentId websocket) ∈ store.examined env s
  indexes : ∀ env s tenantId', store.tenantIndexKey tenantId' ∉ store.examined env s

/-- The key of a connection is apart exactly if it matches the pattern of the sweeps and neither
the prefix nor the tenant brings the marker of an index along. -/
theorem keyApart_iff : store.KeyApart tenantId agentId websocket ↔
    matchesPattern store.pattern (store.presenceKey (connId tenantId agentId websocket)) = true ∧
      isIndexKey (store.keyPrefix ++ ":") = false ∧
      isIndexKey (":" ++ tenantId ++ ":") = false := by
  have hindex : isIndexKey (store.presenceKey (connId tenantId agentId websocket)) = false ↔
      isIndexKey (store.keyPrefix ++ ":") = false ∧
        isIndexKey (":" ++ tenantId ++ ":") = false := by
    rw [← Bool.not_eq_true, isIndexKey_presenceKey_iff, not_or, Bool.not_eq_true,
      Bool.not_eq_true]
  rw [← hindex]
  constructor
  · intro h
    -- a batch with the key alone
    have hexamined := h.examined
      { now := 0, visited := [store.presenceKey (connId tenantId agentId websocket)] }
      (Expiring.write ∅ (store.presenceKey (connId tenantId agentId websocket)) (.conns ∅) none)
      (List.mem_singleton.mpr rfl)
      (by rw [Expiring.read_write _ (by simp), if_pos rfl]; rfl)
    exact (mem_examined.mp hexamined).2
  · rintro ⟨hpattern, hindex⟩
    constructor
    · intro tenantId' agentId' websocket' hkey
      exact connId_injective (presenceKey_injective hkey)
    · intro tenantId' hkey
      have htenant := isIndexKey_tenantIndexKey store tenantId'
      rw [← hkey, hindex] at htenant
      cases htenant
    · intro env s hvisited hpresent
      exact mem_examined.mpr ⟨⟨hvisited, hpresent⟩, hpattern, hindex⟩
    · exact tenantIndexKey_notMem_examined

/-- In a tenant with the name of the marker, the key of a record is that of an index, and no sweep
reads it. -/
theorem keyApart_tenant : ¬ KeyApart { keyPrefix := "lip" } "tenant" ⟨1⟩ 12 := by
  rw [keyApart_iff]
  rintro ⟨-, -, htenant⟩
  revert htenant
  decide

end RedisRegistryStore

end SemanticBus
