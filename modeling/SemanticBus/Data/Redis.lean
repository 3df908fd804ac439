import Mathlib.Data.Finset.Erase
import Mathlib.Data.Finset.Insert
import Mathlib.Data.List.Sort
import Mathlib.Data.Prod.Lex
import SemanticBus.Data.Clock
import SemanticBus.Data.Dict

/-!
# Redis data types

The types of values that a Redis server keeps, as far as their commands are
documented: keys with an expiry, sets, sorted sets, and streams with a consumer
group.  Every function is the effect of one command.

A stream hands each entry to its group once, and the entry then waits in the
pending list of the group until it is acknowledged; `delivered` is how far the
group has read.
-/

universe u v w

namespace SemanticBus

/-! ## Keys that expire -/

/-- The values of a family of keys, each with the time at which it expires. -/
abbrev Expiring (κ : Type u) (ν : Type v) := Dict κ (ν × Option Time)

namespace Expiring

variable {κ : Type u} {ν : Type v} [DecidableEq κ]

/-- The value of a key that has not expired. -/
def read (d : Expiring κ ν) (now : Time) (k : κ) : Option ν :=
  (d.get? k).bind fun e ↦ if ∃ t ∈ e.2, t ≤ now then none else some e.1

/-- Write a value, with a new expiry or without any. -/
def write (d : Expiring κ ν) (k : κ) (v : ν) (expiry : Option Time) : Expiring κ ν :=
  d.insert k (v, expiry)

/-- Change the value of a key, which keeps its expiry, or give it one that never expires. -/
def change (d : Expiring κ ν) (now : Time) (k : κ) (f : Option ν → ν) : Expiring κ ν :=
  match d.read now k with
  | none => d.write k (f none) none
  | some v => d.modify k fun e ↦ (f (some v), e.2)

/-- `EXPIRE`: a time that is not positive deletes the key. -/
def expire (d : Expiring κ ν) (now : Time) (k : κ) (seconds : Int) : Expiring κ ν :=
  if seconds ≤ 0 then d.erase k
  else match d.read now k with
    | none => d
    | some v => d.write k v (some (now + Time.seconds seconds))

variable {d : Expiring κ ν} {k j : κ} {now t : Time}

@[simp] theorem read_empty (now : Time) (k : κ) : read (∅ : Expiring κ ν) now k = none := rfl

theorem read_write_of_ne (v : ν) (expiry : Option Time) (h : j ≠ k) :
    (d.write k v expiry).read t j = d.read t j := by
  rw [read, write, Dict.get?_insert, if_neg h, ← read]

/-- Before its expiry a key holds what was written. -/
theorem read_write (v : ν) {expiry : Option Time} (h : ∀ e ∈ expiry, t < e) :
    (d.write k v expiry).read t j = if j = k then some v else d.read t j := by
  split
  · rename_i hj
    have halive : ¬ ∃ e ∈ expiry, e ≤ t := fun ⟨e, he, hle⟩ ↦ absurd (h e he) (not_lt.mpr hle)
    rw [read, write, Dict.get?_insert, if_pos hj, Option.bind_some, if_neg halive]
  · rename_i hj
    exact read_write_of_ne v expiry hj

/-- From its expiry on a key holds nothing. -/
theorem read_write_self (v : ν) (e : Time) :
    (d.write k v (some e)).read t k = if t < e then some v else none := by
  by_cases h : t < e
  · rw [if_pos h]
    refine (read_write v fun e' he ↦ ?_).trans (if_pos rfl)
    exact Option.some.inj he ▸ h
  · rw [if_neg h, read, write, Dict.get?_insert, if_pos rfl, Option.bind_some]
    exact if_pos ⟨e, rfl, not_lt.mp h⟩

/-- A value that is there was there before. -/
theorem read_of_le {v : ν} (h : d.read t k = some v) (hle : now ≤ t) : d.read now k = some v := by
  obtain ⟨e, hget, he⟩ := Option.bind_eq_some_iff.mp h
  split at he
  · cases he
  · rename_i halive
    rw [read, hget, Option.bind_some, if_neg]
    · exact he
    · rintro ⟨expiry, hmem, hexpired⟩
      exact halive ⟨expiry, hmem, hexpired.trans hle⟩

theorem read_erase : read (Dict.erase d k) t j = if j = k then none else d.read t j := by
  rw [read, Dict.get?_erase]
  split
  · rfl
  · rfl

theorem read_change_of_ne (f : Option ν → ν) (h : j ≠ k) :
    (d.change now k f).read t j = d.read t j := by
  rw [change]
  split
  · exact read_write_of_ne _ _ h
  · rw [read, Dict.get?_modify, if_neg h, ← read]

/-- A value that is changed keeps its expiry. -/
theorem read_change_of_some {v : ν} (f : Option ν → ν) (h : d.read now k = some v) :
    (d.change now k f).read t k = (d.read t k).map fun _ ↦ f (some v) := by
  rw [change, h]
  show read (Dict.modify d k _) t k = _
  rw [read, read, Dict.get?_modify, if_pos rfl]
  cases d.get? k with
  | none => rfl
  | some e =>
      rw [Option.map_some, Option.bind_some, Option.bind_some, apply_ite (Option.map _)]
      rfl

/-- A change is there at once. -/
theorem read_change_self (f : Option ν → ν) :
    (d.change now k f).read now k = some (f (d.read now k)) := by
  rw [change]
  cases hread : d.read now k with
  | none => exact (read_write _ (fun _ he ↦ absurd he (Option.not_mem_none _))).trans (if_pos rfl)
  | some v =>
      obtain ⟨e, hget, he⟩ := Option.bind_eq_some_iff.mp hread
      split at he
      · cases he
      · rename_i halive
        rw [read, Dict.get?_modify, if_pos rfl, hget, Option.map_some, Option.bind_some,
          if_neg halive]

/-- The value of a key that is given a new lifetime. -/
theorem read_expire {v : ν} {seconds : Int} (hread : d.read now k = some v) (hpos : 0 < seconds)
    (ht : t < now + Time.seconds seconds) :
    (d.expire now k seconds).read t j = if j = k then some v else d.read t j := by
  rw [expire, if_neg (not_le.mpr hpos), hread]
  exact read_write v fun e he ↦ Option.some.inj he ▸ ht

theorem read_expire_self {v : ν} {seconds : Int} (hread : d.read now k = some v)
    (hpos : 0 < seconds) :
    (d.expire now k seconds).read t k
      = if t < now + Time.seconds seconds then some v else none := by
  rw [expire, if_neg (not_le.mpr hpos), hread]
  exact read_write_self v _

theorem read_expire_of_ne (seconds : Int) (h : j ≠ k) :
    (d.expire now k seconds).read t j = d.read t j := by
  rw [expire]
  split
  · rw [read_erase, if_neg h]
  · split
    · rfl
    · exact read_write_of_ne _ _ h

/-! ### Properties of the values -/

section All

variable {P : κ → ν → Prop} {v : ν}

/-- Every value has a property, expired ones included. -/
def All (P : κ → ν → Prop) (d : Expiring κ ν) : Prop := ∀ k e, d.get? k = some e → P k e.1

theorem All.empty : All P ∅ := fun _ _ h ↦ by cases h

theorem All.read (h : All P d) (hread : d.read now k = some v) : P k v := by
  obtain ⟨e, hget, he⟩ := Option.bind_eq_some_iff.mp hread
  split at he
  · cases he
  · exact Option.some.inj he ▸ h k e hget

theorem All.write (h : All P d) (hv : P k v) (expiry : Option Time) :
    All P (d.write k v expiry) := by
  intro j e he
  rw [Expiring.write, Dict.get?_insert] at he
  split at he
  · rename_i hj
    obtain rfl := Option.some.inj he
    exact hj ▸ hv
  · exact h j e he

theorem All.change (h : All P d) (now : Time) {f : Option ν → ν}
    (hf : ∀ v, (∀ u ∈ v, P k u) → P k (f v)) : All P (d.change now k f) := by
  rw [Expiring.change]
  cases hread : d.read now k with
  | none => exact h.write (hf none nofun) none
  | some v =>
      intro j e he
      rw [Dict.get?_modify] at he
      split at he
      · rename_i hj
        obtain ⟨old, -, rfl⟩ := Option.map_eq_some_iff.mp he
        refine hj ▸ hf (some v) fun u hu ↦ ?_
        obtain rfl := Option.some.inj hu
        exact h.read hread
      · exact h j e he

theorem All.expire (h : All P d) (now : Time) (k : κ) (seconds : Int) :
    All P (d.expire now k seconds) := by
  rw [Expiring.expire]
  split
  · intro j e he
    rw [Dict.get?_erase] at he
    split at he
    · cases he
    · exact h j e he
  · cases hread : d.read now k with
    | none => exact h
    | some v => exact h.write (h.read hread) _

end All

/-! ### Refinement -/

section Refinement

variable {ν' : Type w} {R : κ → ν → ν' → Prop} {d' : Expiring κ ν'}

/-- Two families of keys hold related values, which expire together. -/
def Refines (R : κ → ν → ν' → Prop) (d : Expiring κ ν) (d' : Expiring κ ν') : Prop :=
  ∀ k, Option.Rel (fun e e' ↦ R k e.1 e'.1 ∧ e.2 = e'.2) (d.get? k) (d'.get? k)

/-- Reading finds related values. -/
theorem Refines.read (h : Refines R d d') (now : Time) (k : κ) :
    Option.Rel (R k) (d.read now k) (d'.read now k) := by
  have hk := h k
  rw [Expiring.read, Expiring.read]
  generalize d.get? k = e at hk
  generalize d'.get? k = e' at hk
  cases hk with
  | none => exact .none
  | some he =>
      obtain ⟨hvalue, hexpiry⟩ := he
      rw [Option.bind_some, Option.bind_some, hexpiry]
      split
      · exact .none
      · exact .some hvalue

theorem Refines.write (h : Refines R d d') {v : ν} {v' : ν'} (hv : R k v v')
    (expiry : Option Time) : Refines R (d.write k v expiry) (d'.write k v' expiry) := by
  intro j
  rw [Expiring.write, Expiring.write, Dict.get?_insert, Dict.get?_insert]
  split
  · rename_i hj
    exact .some ⟨hj ▸ hv, rfl⟩
  · exact h j

theorem Refines.change (h : Refines R d d') (now : Time) {f : Option ν → ν} {f' : Option ν' → ν'}
    (hf : ∀ v v', Option.Rel (R k) v v' → R k (f v) (f' v')) :
    Refines R (d.change now k f) (d'.change now k f') := by
  have hread := h.read now k
  rw [Expiring.change, Expiring.change]
  generalize d.read now k = v at hread
  generalize d'.read now k = v' at hread
  cases hread with
  | none => exact h.write (hf _ _ .none) none
  | some hv =>
      intro j
      rw [Dict.get?_modify, Dict.get?_modify]
      split
      · rename_i hj
        have hk := h k
        generalize d.get? k = e at hk
        generalize d'.get? k = e' at hk
        cases hk with
        | none => exact .none
        | some he => exact .some ⟨hj ▸ hf _ _ (.some hv), he.2⟩
      · exact h j

theorem Refines.expire (h : Refines R d d') (now : Time) (k : κ) (seconds : Int) :
    Refines R (d.expire now k seconds) (d'.expire now k seconds) := by
  have hread := h.read now k
  rw [Expiring.expire, Expiring.expire]
  split
  · intro j
    rw [Dict.get?_erase, Dict.get?_erase]
    split
    · exact .none
    · exact h j
  · generalize d.read now k = v at hread
    generalize d'.read now k = v' at hread
    cases hread with
    | none => exact h
    | some hv => exact h.write hv _

/-- Values that are each related to some value refine a family of keys. -/
theorem exists_refines [Inhabited ν] (h : All (fun k v' ↦ ∃ v, R k v v') d') :
    ∃ d, Refines R d d' := by
  classical
  refine ⟨d'.map fun k e ↦ (if he : ∃ v, R k v e.1 then he.choose else default, e.2), fun k ↦ ?_⟩
  rw [Dict.get?_map]
  cases hget : d'.get? k with
  | none => exact .none
  | some e =>
      have he : ∃ v, R k v e.1 := h k e hget
      refine .some ⟨?_, rfl⟩
      show R k (if he : ∃ v, R k v e.1 then he.choose else default) e.1
      rw [dif_pos he]
      exact he.choose_spec

end Refinement

end Expiring

/-! ## Hashes -/

section Hashes

variable {κ : Type u} {ν : Type v} [DecidableEq κ]

/-- `HSET` of several fields, over those that are there. -/
def hset (hash : Dict κ ν) (mapping : List (κ × ν)) : Dict κ ν :=
  mapping.foldl (fun d e ↦ d.insert e.1 e.2) hash

/-- A field that is not set keeps its value. -/
theorem get?_hset_of_notMem {hash : Dict κ ν} {mapping : List (κ × ν)} {k : κ}
    (h : k ∉ mapping.map Prod.fst) : (hset hash mapping).get? k = hash.get? k := by
  induction mapping generalizing hash with
  | nil => rfl
  | cons e mapping ih =>
      rw [List.map_cons, List.mem_cons, not_or] at h
      rw [hset, List.foldl_cons, ← hset, ih h.2, Dict.get?_insert_of_ne _ _ h.1]

/-- A field that is set has its new value. -/
theorem get?_hset_of_mem {hash : Dict κ ν} {mapping : List (κ × ν)} {k : κ} {v : ν}
    (hnodup : (mapping.map Prod.fst).Nodup) (h : (k, v) ∈ mapping) :
    (hset hash mapping).get? k = some v := by
  induction mapping generalizing hash with
  | nil => cases h
  | cons e mapping ih =>
      rw [List.map_cons, List.nodup_cons] at hnodup
      rw [hset, List.foldl_cons, ← hset]
      rcases List.mem_cons.mp h with rfl | hmem
      · rw [get?_hset_of_notMem hnodup.1, Dict.get?_insert_self]
      · exact ih hnodup.2 hmem

/-- What is set under distinct names is there, and the other fields are as they were. -/
theorem get?_hset (hash : Dict κ ν) {mapping : List (κ × ν)} {keys : List κ}
    (hkeys : mapping.map Prod.fst = keys) (hnodup : keys.Nodup) :
    (∀ e ∈ mapping, (hset hash mapping).get? e.1 = some e.2) ∧
      ∀ k, k ∉ keys → (hset hash mapping).get? k = hash.get? k := by
  subst hkeys
  exact ⟨fun e he ↦ get?_hset_of_mem hnodup he, fun k hk ↦ get?_hset_of_notMem hk⟩

end Hashes

/-! ## Sets and sorted sets -/

section Sets

variable {κ : Type u} {μ : Type v} [DecidableEq κ] [DecidableEq μ]

def sadd (sets : Dict κ (Finset μ)) (k : κ) (m : μ) : Dict κ (Finset μ) :=
  sets.insert k (insert m ((sets.get? k).getD ∅))

def srem (sets : Dict κ (Finset μ)) (k : κ) (m : μ) : Dict κ (Finset μ) :=
  sets.modify k fun members ↦ members.erase m

/-- `ZRANGEBYSCORE min max LIMIT 0 count`, members of one score in the order of `le`. -/
def zrangebyscore (scores : Dict μ ℚ) (le : μ → μ → Prop) [DecidableRel le] (min max : ℚ)
    (count : Nat) : List μ :=
  let inside := scores.entries.filter fun e ↦ min ≤ e.2 ∧ e.2 ≤ max
  ((inside.insertionSort fun a b ↦ a.2 < b.2 ∨ a.2 = b.2 ∧ le a.1 b.1).map Prod.fst).take count

theorem mem_zrangebyscore {scores : Dict μ ℚ} {le : μ → μ → Prop} [DecidableRel le]
    {min max : ℚ} {count : Nat} {m : μ} (h : m ∈ zrangebyscore scores le min max count) :
    ∃ score, scores.get? m = some score ∧ min ≤ score ∧ score ≤ max := by
  obtain ⟨e, he, rfl⟩ := List.mem_map.mp (List.mem_of_mem_take h)
  obtain ⟨hmem, hinside⟩ := List.mem_filter.mp ((List.mem_insertionSort _).mp he)
  exact ⟨e.2, Dict.get?_of_mem_entries hmem, of_decide_eq_true hinside⟩

omit [DecidableEq μ] in
theorem nodup_zrangebyscore (scores : Dict μ ℚ) (le : μ → μ → Prop) [DecidableRel le]
    (min max : ℚ) (count : Nat) : (zrangebyscore scores le min max count).Nodup := by
  refine List.Nodup.sublist (List.take_sublist _ _) ?_
  refine ((List.perm_insertionSort _ _).map Prod.fst).nodup_iff.mpr ?_
  exact scores.nodup.sublist (List.filter_sublist.map _)

/-- When members are in the range, some are returned. -/
theorem zrangebyscore_ne_nil {scores : Dict μ ℚ} {le : μ → μ → Prop} [DecidableRel le]
    {min max : ℚ} {count : Nat} {m : μ} {score : ℚ} (hget : scores.get? m = some score)
    (hmin : min ≤ score) (hmax : score ≤ max) (hcount : 0 < count) :
    zrangebyscore scores le min max count ≠ [] := by
  have hinside : (m, score) ∈ scores.entries.filter fun e ↦ min ≤ e.2 ∧ e.2 ≤ max :=
    List.mem_filter.mpr ⟨Dict.mem_entries_of_get? hget, decide_eq_true ⟨hmin, hmax⟩⟩
  intro hnil
  rcases List.take_eq_nil_iff.mp hnil with hzero | hempty
  · exact hcount.ne' hzero
  · have hsorted := (List.mem_insertionSort (fun a b : μ × ℚ ↦
      a.2 < b.2 ∨ a.2 = b.2 ∧ le a.1 b.1)).mpr hinside
    rw [List.map_eq_nil_iff.mp hempty] at hsorted
    cases hsorted

end Sets

/-! ## Patterns of keys -/

/-- A piece of the pattern of `KEYS` and `SCAN`. -/
inductive Glob where
  | char (c : Char)
  /-- `?`. -/
  | one
  /-- `*`. -/
  | many
  /-- `[..]`, or `[^..]`: one of some characters and ranges, or none of them. -/
  | oneOf (negated : Bool) (ranges : List (Char × Char))

namespace Glob

/-- Read a class up to its bracket; some characters ahead may belong to a range that is read
already. -/
def parseClass (ranges : List (Char × Char)) : Nat → List Char → List (Char × Char) × List Char
  | _, [] => (ranges, [])
  | skip + 1, _ :: cs => parseClass ranges skip cs
  | 0, c :: cs =>
      match c, cs with
      | '\\', d :: _ => parseClass (ranges ++ [(d, d)]) 1 cs
      | ']', _ => (ranges, cs)
      | _, '-' :: d :: _ => parseClass (ranges ++ [(c, d)]) 2 cs
      | _, _ => parseClass (ranges ++ [(c, c)]) 0 cs

/-- Read a pattern of at most so many pieces. -/
def parse : Nat → List Char → List Glob
  | 0, _ => []
  | _, [] => []
  | n + 1, '*' :: cs => .many :: parse n cs
  | n + 1, '?' :: cs => .one :: parse n cs
  | n + 1, '\\' :: c :: cs => .char c :: parse n cs
  | n + 1, '[' :: '^' :: cs =>
      .oneOf true (parseClass [] 0 cs).1 :: parse n (parseClass [] 0 cs).2
  | n + 1, '[' :: cs => .oneOf false (parseClass [] 0 cs).1 :: parse n (parseClass [] 0 cs).2
  | n + 1, c :: cs => .char c :: parse n cs

def fits : List Glob → List Char → Bool
  | [], cs => cs.isEmpty
  | .many :: gs, cs => cs.tails.any (fits gs)
  | .char _ :: _, [] | .one :: _, [] | .oneOf _ _ :: _, [] => false
  | .char c :: gs, d :: cs => c = d && fits gs cs
  | .one :: gs, _ :: cs => fits gs cs
  | .oneOf negated ranges :: gs, d :: cs =>
      ranges.any (fun r ↦ r.1 ≤ d ∧ d ≤ r.2 ∨ r.2 ≤ d ∧ d ≤ r.1) != negated && fits gs cs

end Glob

def matchesPattern (pattern key : String) : Bool :=
  Glob.fits (Glob.parse pattern.length pattern.toList) key.toList

/-! ## Streams -/

/-- The id of a stream entry: milliseconds, and a sequence number. -/
abbrev StreamId := ℕ ×ₗ ℕ

namespace StreamId

def text (id : StreamId) : String := s!"{(ofLex id).1}-{(ofLex id).2}"

def decimal? (digits : List Char) : Option Nat :=
  if digits = [] then none
  else digits.foldlM (fun n c ↦ if c.isDigit then some (10 * n + (c.toNat - 48)) else none) 0

/-- Read an id; the sequence number may be left out. -/
def parse (text : String) : Option StreamId :=
  let ms := text.toList.takeWhile (· ≠ '-')
  match text.toList.dropWhile (· ≠ '-') with
  | [] => (decimal? ms).map fun n ↦ toLex (n, 0)
  | _ :: seq => (decimal? ms).bind fun n ↦ (decimal? seq).map fun m ↦ toLex (n, m)

end StreamId

structure RedisStream (ρ : Type u) where
  /-- The entries, oldest first. -/
  entries : List (StreamId × ρ) := []
  lastId : StreamId := toLex (0, 0)
  /-- The last id that the group was handed. -/
  delivered : StreamId := toLex (0, 0)
  /-- The entries that are not acknowledged, with the consumers they were handed to. -/
  pending : List (StreamId × String) := []

namespace RedisStream

variable {ρ : Type u} {s : RedisStream ρ} {id j : StreamId} {r : ρ} {consumer : String}

/-- The id that `XADD` picks at a clock reading. -/
def nextId (s : RedisStream ρ) (now : Time) : StreamId :=
  let ms := (now / 1000).toNat
  if (ofLex s.lastId).1 < ms then toLex (ms, 0)
  else toLex ((ofLex s.lastId).1, (ofLex s.lastId).2 + 1)

def add (s : RedisStream ρ) (now : Time) (r : ρ) : RedisStream ρ :=
  { s with entries := s.entries ++ [(s.nextId now, r)], lastId := s.nextId now }

/-- The first entry that the group was not handed. -/
def next (s : RedisStream ρ) : Option (StreamId × ρ) := s.entries.find? fun e ↦ s.delivered < e.1

/-- Hand an entry to a consumer of the group. -/
def deliver (s : RedisStream ρ) (consumer : String) (id : StreamId) : RedisStream ρ :=
  { s with delivered := id, pending := s.pending ++ [(id, consumer)] }

def readGroup (s : RedisStream ρ) (consumer : String) : Option (StreamId × ρ) × RedisStream ρ :=
  match s.next with
  | none => (none, s)
  | some e => (some e, s.deliver consumer e.1)

def ack (s : RedisStream ρ) (id : StreamId) : RedisStream ρ :=
  { s with pending := s.pending.filter fun e ↦ e.1 ≠ id }

def isPending (s : RedisStream ρ) (id : StreamId) : Prop := id ∈ s.pending.map Prod.fst

instance (s : RedisStream ρ) (id : StreamId) : Decidable (s.isPending id) :=
  inferInstanceAs (Decidable (id ∈ s.pending.map Prod.fst))

@[simp] theorem isPending_add (now : Time) : (s.add now r).isPending id ↔ s.isPending id := Iff.rfl

@[simp] theorem delivered_add (now : Time) : (s.add now r).delivered = s.delivered := rfl

@[simp] theorem isPending_deliver :
    (s.deliver consumer id).isPending j ↔ s.isPending j ∨ j = id := by
  simp [isPending, deliver]

@[simp] theorem delivered_deliver : (s.deliver consumer id).delivered = id := rfl

@[simp] theorem isPending_ack : (s.ack id).isPending j ↔ s.isPending j ∧ j ≠ id := by
  rw [isPending, isPending, ack, List.mem_map, List.mem_map]
  constructor
  · rintro ⟨e, he, rfl⟩
    obtain ⟨hmem, hne⟩ := List.mem_filter.mp he
    exact ⟨⟨e, hmem, rfl⟩, of_decide_eq_true hne⟩
  · rintro ⟨⟨e, hmem, rfl⟩, hne⟩
    exact ⟨e, List.mem_filter.mpr ⟨hmem, decide_eq_true hne⟩, rfl⟩

@[simp] theorem delivered_ack : (s.ack id).delivered = s.delivered := rfl

@[simp] theorem next_ack : (s.ack id).next = s.next := rfl

/-- The group is handed entries in order. -/
theorem delivered_lt_of_next (h : s.next = some (id, r)) : s.delivered < id := by
  have hlt := List.find?_some h
  exact of_decide_eq_true hlt

/-! ### The entries to come -/

/-- The entries that the group was not handed. -/
def unread (s : RedisStream ρ) : List (StreamId × ρ) := s.entries.filter fun e ↦ s.delivered < e.1

/-- The ids of a stream rise, and the group reads no further than they go. -/
structure InOrder (s : RedisStream ρ) : Prop where
  entries : s.entries.Pairwise fun e e' ↦ e.1 < e'.1
  lastId : ∀ e ∈ s.entries, e.1 ≤ s.lastId
  delivered : s.delivered ≤ s.lastId

theorem next_eq_head? : s.next = s.unread.head? := List.head?_filter.symm

theorem unread_eq_cons (h : s.next = some (id, r)) : s.unread = (id, r) :: s.unread.tail := by
  rw [next_eq_head?] at h
  exact (List.cons_head?_tail h).symm

theorem unread_eq_nil (h : s.next = none) : s.unread = [] :=
  List.head?_eq_none_iff.mp (next_eq_head?.symm.trans h)

theorem lt_nextId (s : RedisStream ρ) (now : Time) : s.lastId < s.nextId now := by
  rw [nextId, Prod.Lex.lt_iff]
  split
  · rename_i hlt
    exact .inl hlt
  · exact .inr ⟨rfl, Nat.lt_succ_self _⟩

namespace InOrder

theorem empty : InOrder ({} : RedisStream ρ) := ⟨.nil, nofun, le_refl _⟩

theorem add (h : InOrder s) (now : Time) (r : ρ) : InOrder (s.add now r) := by
  constructor
  · refine List.pairwise_append.mpr ⟨h.entries, List.pairwise_singleton _ _, ?_⟩
    intro e he e' he'
    rw [List.mem_singleton.mp he']
    exact lt_of_le_of_lt (h.lastId e he) (s.lt_nextId now)
  · intro e he
    rcases List.mem_append.mp he with he | he
    · exact (h.lastId e he).trans (s.lt_nextId now).le
    · rw [List.mem_singleton.mp he]
      exact le_refl _
  · exact h.delivered.trans (s.lt_nextId now).le

theorem deliver (h : InOrder s) (hnext : s.next = some (id, r)) (consumer : String) :
    InOrder (s.deliver consumer id) :=
  ⟨h.entries, h.lastId, h.lastId (id, r) (List.mem_of_find?_eq_some hnext)⟩

theorem ack (h : InOrder s) (id : StreamId) : InOrder (s.ack id) :=
  ⟨h.entries, h.lastId, h.delivered⟩

/-- What is added is to come last. -/
theorem unread_add (h : InOrder s) (now : Time) (r : ρ) :
    (s.add now r).unread = s.unread ++ [(s.nextId now, r)] := by
  have hnew : s.delivered < s.nextId now := lt_of_le_of_lt h.delivered (s.lt_nextId now)
  show (s.entries ++ [(s.nextId now, r)]).filter (fun e ↦ s.delivered < e.1) = _
  rw [List.filter_append, unread, List.filter_singleton, decide_eq_true hnew]
  rfl

/-- The entry that is handed out leaves the entries to come. -/
theorem unread_deliver (h : InOrder s) (hnext : s.next = some (id, r)) (consumer : String) :
    (s.deliver consumer id).unread = s.unread.tail := by
  have hlt := delivered_lt_of_next hnext
  have hcons := unread_eq_cons hnext
  have hsorted : s.unread.Pairwise fun e e' ↦ e.1 < e'.1 :=
    h.entries.sublist List.filter_sublist
  -- what comes after the entry is what has a larger id
  have hfilter : (s.deliver consumer id).unread = s.unread.filter fun e ↦ id < e.1 := by
    rw [unread, unread, List.filter_filter]
    refine List.filter_congr fun e _ ↦ ?_
    rw [Bool.eq_iff_iff]
    simp only [Bool.and_eq_true, decide_eq_true_iff]
    exact ⟨fun hid ↦ ⟨hid, hlt.trans hid⟩, And.left⟩
  rw [hcons] at hsorted
  rw [hfilter, hcons, List.tail_cons, List.filter_cons, decide_eq_false (lt_irrefl id),
    if_neg Bool.false_ne_true]
  refine List.filter_eq_self.mpr fun e he ↦ decide_eq_true ?_
  exact (List.pairwise_cons.mp hsorted).1 e he

end InOrder

end RedisStream

end SemanticBus
