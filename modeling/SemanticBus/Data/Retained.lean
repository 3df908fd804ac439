import Mathlib.Data.List.Basic
import Mathlib.Logic.Function.Basic

/-!
# Items that are kept by place

Items come one after the other, each to a place, and every place keeps some number of
the last items that came to it.  `retained` lists what all the places keep, in the order
in which it came.
-/

universe u v

namespace SemanticBus

variable {α : Type u} {ι : Type v} [DecidableEq ι] {place : α → ι} {kept kept' : ι → Nat}
  {a : α} {as : List α} {i : ι}

def cameTo (place : α → ι) (i : ι) (as : List α) : List α := as.filter (place · = i)

/-- The items that are kept, if every place `i` keeps its last `kept i`. -/
def retained (place : α → ι) (kept : ι → Nat) : List α → List α
  | [] => []
  | a :: as =>
      if (cameTo place (place a) as).length < kept (place a) then a :: retained place kept as
      else retained place kept as

theorem cameTo_cons : cameTo place i (a :: as)
    = if place a = i then a :: cameTo place i as else cameTo place i as := by
  rw [cameTo, List.filter_cons]
  simp only [decide_eq_true_eq]
  rfl

theorem cameTo_snoc : cameTo place i (as ++ [a])
    = if place a = i then cameTo place i as ++ [a] else cameTo place i as := by
  rw [cameTo, List.filter_append, List.filter_cons, List.filter_nil]
  simp only [decide_eq_true_eq]
  split
  · rfl
  · exact List.append_nil _

theorem length_cameTo_le {bs : List α} (h : bs <+: as) :
    (cameTo place i bs).length ≤ (cameTo place i as).length :=
  (h.sublist.filter _).length_le

/-- What is kept of one place. -/
theorem cameTo_retained (place : α → ι) (kept : ι → Nat) (i : ι) (as : List α) :
    cameTo place i (retained place kept as)
      = (cameTo place i as).drop ((cameTo place i as).length - kept i) := by
  induction as with
  | nil => exact List.drop_nil.symm
  | cons a as ih =>
      rw [retained, cameTo_cons]
      by_cases hplace : place a = i
      · rw [hplace, if_pos rfl]
        split
        · rename_i hlt
          rw [cameTo_cons, if_pos hplace, ih, List.length_cons, Nat.sub_eq_zero_of_le hlt,
            Nat.sub_eq_zero_of_le (Nat.le_of_lt hlt), List.drop_zero, List.drop_zero]
        · rename_i hlt
          rw [ih, List.length_cons, Nat.succ_sub (Nat.not_lt.mp hlt), List.drop_succ_cons]
      · rw [if_neg hplace]
        split
        · rw [cameTo_cons, if_neg hplace, ih]
        · exact ih

/-- An item that comes to a place that keeps it. -/
theorem retained_snoc (hself : kept' (place a) = kept (place a) + 1)
    (hother : ∀ i, i ≠ place a → kept' i = kept i) :
    retained place kept' (as ++ [a]) = retained place kept as ++ [a] := by
  induction as with
  | nil =>
      show (if 0 < kept' (place a) then [a] else []) = [a]
      rw [hself, if_pos (Nat.succ_pos _)]
  | cons b as ih =>
      have hiff : (cameTo place (place b) (as ++ [a])).length < kept' (place b) ↔
          (cameTo place (place b) as).length < kept (place b) := by
        rw [cameTo_snoc]
        split
        · rename_i hplace
          rw [← hplace, hself, List.length_append, List.length_singleton]
          exact Nat.succ_lt_succ_iff
        · rename_i hplace
          rw [hother _ (Ne.symm hplace)]
      rw [List.cons_append, retained, retained, ih]
      by_cases hlt : (cameTo place (place b) as).length < kept (place b)
      · rw [if_pos hlt, if_pos (hiff.mpr hlt), List.cons_append]
      · rw [if_neg hlt, if_neg fun h ↦ hlt (hiff.mp h)]

/-- An item that is not of interest, and comes to a place where nothing is. -/
theorem filter_retained_snoc {p : α → Bool} (ha : p a = false)
    (has : ∀ b ∈ as, p b = true → place b ≠ place a)
    (hother : ∀ i, i ≠ place a → kept' i = kept i) :
    (retained place kept' (as ++ [a])).filter p = (retained place kept as).filter p := by
  induction as with
  | nil =>
      show (if 0 < kept' (place a) then [a] else []).filter p = []
      split
      · exact List.filter_cons_of_neg (by rw [ha]; exact Bool.false_ne_true)
      · rfl
  | cons b as ih =>
      have ih := ih fun c hc ↦ has c (List.mem_cons_of_mem _ hc)
      rw [List.cons_append, retained, retained]
      by_cases hp : p b = true
      · have hplace := has b List.mem_cons_self hp
        rw [cameTo_snoc, if_neg hplace.symm, hother _ hplace]
        split
        · rw [List.filter_cons_of_pos hp, List.filter_cons_of_pos hp, ih]
        · exact ih
      · have hskip : ∀ (c : Prop) [Decidable c] (bs : List α),
            (if c then b :: bs else bs).filter p = bs.filter p := by
          intro c _ bs
          split
          · exact List.filter_cons_of_neg hp
          · rfl
        rw [hskip, hskip, ih]

end SemanticBus
