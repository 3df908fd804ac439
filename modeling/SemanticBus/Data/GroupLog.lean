import Mathlib.Data.List.Infix
import Mathlib.Logic.Function.Basic

/-!
# A partitioned log and a consumer group

Records are appended to the partitions of a log.  A group reads each partition
from its start, in order: `position` is the offset of the next record that its
consumer gets, `committed` the offset from which a consumer resumes after a
restart.  What is committed has been read, and what has been read is there; the
structure carries the proofs.

Two lists say what the offsets are good for.  `unread` is what the consumer still
gets of a partition, `retained` what a restarted one would get.  A commit drops
from `retained` all that is no longer `unread`, and nothing else ever drops
anything.
-/

universe u v

namespace SemanticBus

/-- A partitioned log with the offsets of a consumer group. -/
structure GroupLog (π : Type u) (ρ : Type v) where
  /-- The records of a partition, oldest first. -/
  log : π → List ρ
  /-- The offset of the next record that the consumer reads. -/
  position : π → Nat
  /-- The offset from which a restarted consumer reads. -/
  committed : π → Nat
  committed_le : ∀ p, committed p ≤ position p
  position_le : ∀ p, position p ≤ (log p).length

namespace GroupLog

variable {π : Type u} {ρ : Type v} {g g' : GroupLog π ρ} {p q : π} {r r' : ρ}

/-- The log without records. -/
def empty : GroupLog π ρ where
  log _ := []
  position _ := 0
  committed _ := 0
  committed_le _ := Nat.le_refl 0
  position_le _ := Nat.le_refl 0

/-- What the consumer has not read yet of a partition. -/
def unread (g : GroupLog π ρ) (p : π) : List ρ := (g.log p).drop (g.position p)

/-- What a restarted consumer would read of a partition. -/
def retained (g : GroupLog π ρ) (p : π) : List ρ := (g.log p).drop (g.committed p)

/-- Commit the positions of all partitions. -/
def commit (g : GroupLog π ρ) : GroupLog π ρ where
  log := g.log
  position := g.position
  committed := g.position
  committed_le p := Nat.le_refl _
  position_le := g.position_le

def restart (g : GroupLog π ρ) : GroupLog π ρ where
  log := g.log
  position := g.committed
  committed := g.committed
  committed_le p := Nat.le_refl _
  position_le p := (g.committed_le p).trans (g.position_le p)

section Update

variable [DecidableEq π]

def append (g : GroupLog π ρ) (p : π) (r : ρ) : GroupLog π ρ where
  log := Function.update g.log p (g.log p ++ [r])
  position := g.position
  committed := g.committed
  committed_le := g.committed_le
  position_le q := by
    by_cases h : q = p
    · rw [h, Function.update_self, List.length_append]
      exact (g.position_le p).trans (Nat.le_add_right _ _)
    · rw [Function.update_of_ne h]
      exact g.position_le q

/-- Read the next record of a partition, if there is one. -/
def poll (g : GroupLog π ρ) (p : π) : Option (ρ × GroupLog π ρ) :=
  if h : g.position p < (g.log p).length then
    some ((g.log p).get ⟨g.position p, h⟩,
      { g with
        position := Function.update g.position p (g.position p + 1)
        committed_le := fun q ↦ by
          by_cases hq : q = p
          · rw [hq, Function.update_self]
            exact (g.committed_le p).trans (Nat.le_succ _)
          · rw [Function.update_of_ne hq]
            exact g.committed_le q
        position_le := fun q ↦ by
          by_cases hq : q = p
          · rw [hq, Function.update_self]
            exact h
          · rw [Function.update_of_ne hq]
            exact g.position_le q })
  else none

/-- Read `n` records of a partition, or as many as there are. -/
def skip (p : π) : Nat → GroupLog π ρ → GroupLog π ρ
  | 0, g => g
  | n + 1, g =>
      match g.poll p with
      | none => g
      | some (_, g') => skip p n g'

end Update

/-! ## What the operations leave to read -/

@[simp] theorem unread_empty : (empty : GroupLog π ρ).unread p = [] := rfl

@[simp] theorem retained_empty : (empty : GroupLog π ρ).retained p = [] := rfl

@[simp] theorem unread_commit : g.commit.unread p = g.unread p := rfl

@[simp] theorem retained_commit : g.commit.retained p = g.unread p := rfl

@[simp] theorem unread_restart : g.restart.unread p = g.retained p := rfl

@[simp] theorem retained_restart : g.restart.retained p = g.retained p := rfl

variable [DecidableEq π]

theorem log_append : (g.append p r).log q = if q = p then g.log q ++ [r] else g.log q := by
  show Function.update g.log p (g.log p ++ [r]) q = _
  by_cases h : q = p
  · rw [h, Function.update_self, if_pos rfl]
  · rw [Function.update_of_ne h, if_neg h]

/-- The end of a partition, after one more record. -/
theorem drop_log_append {n : Nat} (hn : n ≤ (g.log q).length) :
    ((g.append p r).log q).drop n
      = if q = p then (g.log q).drop n ++ [r] else (g.log q).drop n := by
  rw [log_append]
  split
  · exact List.drop_append_of_le_length hn
  · rfl

theorem unread_append : (g.append p r).unread q
    = if q = p then g.unread q ++ [r] else g.unread q := drop_log_append (g.position_le q)

theorem retained_append : (g.append p r).retained q
    = if q = p then g.retained q ++ [r] else g.retained q :=
  drop_log_append ((g.committed_le q).trans (g.position_le q))

theorem mem_retained_append :
    r' ∈ (g.append p r).retained q ↔ r' ∈ g.retained q ∨ q = p ∧ r' = r := by
  rw [retained_append]
  split
  · rename_i h
    simp [h]
  · rename_i h
    simp [h]

/-- A poll takes the first record that is not read, and commits nothing. -/
theorem poll_eq_some (h : g.poll p = some (r, g')) :
    g.unread p = r :: g'.unread p ∧ (∀ q, q ≠ p → g'.unread q = g.unread q) ∧
      ∀ q, g'.retained q = g.retained q := by
  rw [poll] at h
  split at h
  · rename_i hlt
    obtain ⟨rfl, rfl⟩ := Prod.mk.inj (Option.some.inj h)
    refine ⟨?_, fun q hq ↦ ?_, fun q ↦ rfl⟩
    · simp only [unread, Function.update_self]
      exact List.drop_eq_getElem_cons hlt
    · simp only [unread, Function.update_of_ne hq]
  · cases h

/-- Reading a partition leaves the others. -/
theorem unread_skip_of_ne (n : Nat) (h : q ≠ p) : (skip p n g).unread q = g.unread q := by
  induction n generalizing g with
  | zero => rfl
  | succ n ih =>
      rw [skip]
      cases hpoll : g.poll p with
      | none => rfl
      | some polled =>
          obtain ⟨-, hothers, -⟩ := poll_eq_some hpoll
          exact ih.trans (hothers q h)

/-- There is nothing to poll exactly when everything is read. -/
theorem poll_eq_none_iff : g.poll p = none ↔ g.unread p = [] := by
  rw [poll, unread, List.drop_eq_nil_iff]
  split
  · rename_i h
    exact ⟨nofun, fun hle ↦ absurd h (Nat.not_lt.mpr hle)⟩
  · rename_i h
    exact ⟨fun _ ↦ Nat.not_lt.mp h, fun _ ↦ rfl⟩

/-- The records that are not read are those that polls of the partition return. -/
theorem mem_unread_iff : r ∈ g.unread p ↔ ∃ n g', (skip p n g).poll p = some (r, g') := by
  constructor
  · intro h
    obtain ⟨rs, hrs⟩ : ∃ rs, g.unread p = rs := ⟨_, rfl⟩
    rw [hrs] at h
    induction rs generalizing g with
    | nil => cases h
    | cons r₀ rs ih =>
        cases hpoll : g.poll p with
        | none => rw [poll_eq_none_iff.mp hpoll] at hrs; cases hrs
        | some polled =>
            obtain ⟨hhead, -, -⟩ := poll_eq_some hpoll
            obtain ⟨rfl, rfl⟩ := List.cons.inj (hhead.symm.trans hrs)
            rcases List.mem_cons.mp h with rfl | hmem
            · exact ⟨0, polled.2, hpoll⟩
            · obtain ⟨n, g', hn⟩ := ih hmem rfl
              refine ⟨n + 1, g', ?_⟩
              rw [skip, hpoll]
              exact hn
  · rintro ⟨n, g', h⟩
    induction n generalizing g with
    | zero =>
        obtain ⟨hhead, -, -⟩ := poll_eq_some h
        rw [show g.unread p = r :: g'.unread p from hhead]
        exact List.mem_cons_self
    | succ n ih =>
        rw [skip] at h
        cases hpoll : g.poll p with
        | none =>
            rw [hpoll] at h
            cases hpoll.symm.trans h
        | some polled =>
            rw [hpoll] at h
            obtain ⟨hhead, -, -⟩ := poll_eq_some hpoll
            rw [hhead]
            exact List.mem_cons_of_mem _ (ih h)

end GroupLog

end SemanticBus
