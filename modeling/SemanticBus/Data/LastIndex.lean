import Mathlib.Data.List.Basic
import SemanticBus.Data.Dict

/-!
# Last positions

`lastIdx? p xs` is the position of the last element of `xs` that satisfies `p`.
`Indexes n ks index` says that a dictionary holds the last position of every key
of `ks`, where the positions are counted from `n` on and an entry without a key is
not indexed.  Appending an entry and overwriting the position of its key keep it
so (`Indexes.concat`).
-/

universe u v

namespace SemanticBus

variable {α : Type u} {β : Type v} {p : α → Bool} {xs ys : List α}

/-- The position of the last element that satisfies `p`. -/
def lastIdx? (p : α → Bool) : List α → Option Nat
  | [] => none
  | x :: xs =>
      match lastIdx? p xs with
      | some i => some (i + 1)
      | none => if p x then some 0 else none

theorem lastIdx?_map (f : β → α) (xs : List β) :
    lastIdx? p (xs.map f) = lastIdx? (fun x ↦ p (f x)) xs := by
  induction xs with
  | nil => rfl
  | cons x xs ih => rw [List.map_cons, lastIdx?, ih, lastIdx?]

theorem lastIdx?_eq_none_iff : lastIdx? p xs = none ↔ ∀ x ∈ xs, p x = false := by
  induction xs with
  | nil => simp [lastIdx?]
  | cons x xs ih =>
      rw [lastIdx?, List.forall_mem_cons, ← ih]
      cases hlast : lastIdx? p xs with
      | some i => simp
      | none => simp

theorem lt_of_lastIdx? {i : Nat} (h : lastIdx? p xs = some i) : i < xs.length := by
  induction xs generalizing i with
  | nil => cases h
  | cons x xs ih =>
      rw [lastIdx?] at h
      split at h
      · rename_i j hj
        cases h
        exact Nat.succ_lt_succ (ih hj)
      · split at h
        · cases h
          exact Nat.succ_pos _
        · cases h

/-- The last position in two lists is one of the second, if that has one. -/
theorem lastIdx?_append (xs ys : List α) : lastIdx? p (xs ++ ys) =
    ((lastIdx? p ys).map (xs.length + ·)).or (lastIdx? p xs) := by
  induction xs with
  | nil => simp [lastIdx?]
  | cons x xs ih =>
      rw [List.cons_append, lastIdx?, ih, lastIdx?]
      cases lastIdx? p ys with
      | some i => simp [Nat.add_right_comm]
      | none => simp

theorem lastIdx?_concat (xs : List α) (x : α) : lastIdx? p (xs ++ [x]) =
    if p x then some xs.length else lastIdx? p xs := by
  rw [lastIdx?_append, lastIdx?, lastIdx?]
  cases p x with
  | true => rfl
  | false => rfl

/-- The last position is that of the first element from the end. -/
theorem bind_lastIdx? (p : α → Bool) (xs : List α) :
    (lastIdx? p xs).bind (xs[·]?) = xs.reverse.find? p := by
  induction xs with
  | nil => rfl
  | cons x xs ih =>
      rw [List.reverse_cons, List.find?_append, ← ih, lastIdx?]
      cases hlast : lastIdx? p xs with
      | some i =>
          have hlt := lt_of_lastIdx? hlast
          simp [List.getElem?_eq_getElem hlt]
      | none =>
          cases hx : p x with
          | true => simp [hx]
          | false => simp [hx]

/-- Positions in both lists are those of the second one exactly if what is found in the
first is found in the second too. -/
theorem lastIdx?_append_eq_iff : lastIdx? p (xs ++ ys) = (lastIdx? p ys).map (xs.length + ·) ↔
    ((∃ x ∈ xs, p x = true) → ∃ y ∈ ys, p y = true) := by
  have hsome : ∀ {zs : List α}, (∃ z ∈ zs, p z = true) ↔ lastIdx? p zs ≠ none := by
    intro zs
    rw [Ne, lastIdx?_eq_none_iff]
    simp
  rw [lastIdx?_append, hsome, hsome]
  cases hys : lastIdx? p ys with
  | some i => simp
  | none =>
      cases lastIdx? p xs with
      | some i => simp
      | none => simp

/-- A position that may be missing leads to the last element exactly if it is not. -/
theorem bind_eq_find?_iff {pos : Option Nat} (h : pos = none ∨ pos = lastIdx? p xs) :
    pos.bind (xs[·]?) = xs.reverse.find? p ↔ pos = lastIdx? p xs := by
  rw [← bind_lastIdx?]
  refine ⟨fun hbind ↦ ?_, fun hpos ↦ by rw [hpos]⟩
  rcases h with rfl | hpos
  · cases hlast : lastIdx? p xs with
    | none => rfl
    | some i =>
        rw [hlast, Option.bind_some, List.getElem?_eq_getElem (lt_of_lastIdx? hlast)] at hbind
        cases hbind
  · exact hpos

section Indexes

variable {κ : Type u} [DecidableEq κ] {n : Nat} {ks : List (Option κ)} {index : Dict κ Nat}

/-- The index holds the last position of every key, counted from `n` on. -/
def Indexes (n : Nat) (ks : List (Option κ)) (index : Dict κ Nat) : Prop :=
  ∀ k, index.get? k = (lastIdx? (· = some k) ks).map (n + ·)

theorem Indexes.nil (n : Nat) : Indexes n [] (∅ : Dict κ Nat) := fun _ ↦ rfl

/-- A new entry is at the end; without a key it is not indexed. -/
theorem Indexes.concat (h : Indexes n ks index) (k : Option κ) : Indexes n (ks ++ [k])
    (k.elim index fun k ↦ index.insert k (n + ks.length)) := by
  intro j
  rw [lastIdx?_concat]
  cases k with
  | none => simpa using h j
  | some k =>
      rw [Option.elim_some, Dict.get?_insert, h j]
      by_cases hj : j = k
      · simp [hj]
      · simp [hj, Ne.symm hj]

end Indexes

end SemanticBus
