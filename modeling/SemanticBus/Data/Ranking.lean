import Mathlib.Data.List.Nodup
import Mathlib.Order.Lattice

/-!
# Rankings

`sortDesc f l` sorts by the score `f`, the highest first, and leaves elements with
one score in the order of `l`; `place f l p` counts the elements of `l` that come
before the entry `p`, a pair of an element and its index.

`exists_top` says what the first `k` elements of a ranking are: the entries whose
place is below `k`.
-/

universe u v

namespace SemanticBus

variable {α : Type u} {κ : Type v} [LinearOrder κ] {f : α → κ} {l : List α} {k : ℕ}

def sortDesc (f : α → κ) (l : List α) : List α := l.mergeSort fun a b ↦ decide (f b ≤ f a)

/-- An entry is ranked before another one. -/
def Before (f : α → κ) (p q : α × ℕ) : Prop := f q.1 < f p.1 ∨ f p.1 = f q.1 ∧ p.2 < q.2

instance (f : α → κ) : DecidableRel (Before f) := fun p q ↦
  inferInstanceAs (Decidable (f q.1 < f p.1 ∨ f p.1 = f q.1 ∧ p.2 < q.2))

/-- The number of entries before one. -/
def place (f : α → κ) (l : List α) (p : α × ℕ) : ℕ := l.zipIdx.countP (Before f · p)

theorem Before.asymm {p q : α × ℕ} (h : Before f p q) : ¬ Before f q p := by
  rintro (hlt | ⟨heq, hidx⟩)
  · rcases h with hlt' | ⟨heq', -⟩
    · exact lt_asymm hlt hlt'
    · exact hlt.ne heq'
  · rcases h with hlt' | ⟨-, hidx'⟩
    · exact hlt'.ne heq
    · omega

/-- In a list in strict order, the first `k` elements are those with fewer than `k`
before them. -/
theorem mem_take_iff_countP {β : Type u} {lt : β → β → Prop} [DecidableRel lt]
    (hasymm : ∀ {a b}, lt a b → ¬ lt b a) {s : List β} (hs : s.Pairwise lt) {x : β} (hx : x ∈ s) :
    x ∈ s.take k ↔ s.countP (lt · x) < k := by
  induction s generalizing k with
  | nil => cases hx
  | cons a s ih =>
      obtain ⟨ha, hs⟩ := List.pairwise_cons.mp hs
      cases k with
      | zero => exact iff_of_false List.not_mem_nil (Nat.not_lt_zero _)
      | succ k =>
          rw [List.take_succ_cons, List.mem_cons, List.countP_cons]
          rcases List.mem_cons.mp hx with rfl | hmem
          · have hnone : s.countP (lt · x) = 0 := by
              rw [List.countP_eq_zero]
              intro b hb
              simpa using hasymm (ha b hb)
            have hself : ¬ lt x x := fun h ↦ hasymm h h
            simp [hnone, hself]
          · have hax := ha x hmem
            have hne : x ≠ a := by
              rintro rfl
              exact hasymm hax hax
            simp only [hne, false_or, ih hs hmem, hax, decide_true, if_true]
            omega

/-! ## Sorting -/

theorem sortDesc_perm (f : α → κ) (l : List α) : (sortDesc f l).Perm l := List.mergeSort_perm _ _

theorem descending_trans (a b c : α) (hab : decide (f b ≤ f a) = true)
    (hbc : decide (f c ≤ f b) = true) : decide (f c ≤ f a) = true := by
  simp only [decide_eq_true_eq] at hab hbc ⊢
  exact hbc.trans hab

theorem descending_total (a b : α) : (decide (f b ≤ f a) || decide (f a ≤ f b)) = true := by
  simpa using le_total (f b) (f a)

theorem pairwise_sortDesc (f : α → κ) (l : List α) :
    (sortDesc f l).Pairwise fun a b ↦ f b ≤ f a := by
  have h := List.pairwise_mergeSort descending_trans (descending_total (f := f)) l
  simpa only [sortDesc, decide_eq_true_eq] using h

/-- Ranking by a score of the images. -/
theorem sortDesc_map {β : Type u} {g : α → β} {f' : β → κ} (h : ∀ a ∈ l, f' (g a) = f a) :
    sortDesc f' (l.map g) = (sortDesc f l).map g := by
  symm
  apply List.map_mergeSort
  intro a ha b hb
  rw [h a ha, h b hb]

/-- Entries with different indices that are sorted are ranked. -/
theorem before_of_zipIdxLE {p q : α × ℕ} (hne : p.2 ≠ q.2)
    (h : List.zipIdxLE (fun a b ↦ decide (f b ≤ f a)) p q = true) : Before f p q := by
  rw [List.zipIdxLE] at h
  split_ifs at h with hle hge
  · simp only [decide_eq_true_eq] at h hle hge
    exact .inr ⟨le_antisymm hge hle, by omega⟩
  · simp only [decide_eq_true_eq] at hge
    exact .inl (lt_of_not_ge hge)

/-- The first elements of a ranking are the entries with few before them, each
once. -/
theorem exists_top (f : α → κ) (l : List α) (k : ℕ) : ∃ top : List (α × ℕ), top.Nodup ∧
    (∀ p, p ∈ top ↔ p ∈ l.zipIdx ∧ place f l p < k) ∧
      (sortDesc f l).take k = top.map Prod.fst := by
  let le := List.zipIdxLE fun a b ↦ decide (f b ≤ f a)
  let ranked := l.zipIdx.mergeSort le
  have hperm : ranked.Perm l.zipIdx := List.mergeSort_perm _ _
  have hindices : (ranked.map Prod.snd).Nodup := by
    rw [(hperm.map Prod.snd).nodup_iff, List.zipIdx_map_snd]
    exact List.nodup_range'
  have hnodup : ranked.Nodup := hindices.of_map
  have hsorted : ranked.Pairwise (Before f) := by
    have hle := List.pairwise_mergeSort (List.zipIdxLE_trans descending_trans)
      (List.zipIdxLE_total (descending_total (f := f))) l.zipIdx
    exact (List.pairwise_map.mp hindices).imp₂ (fun _ _ ↦ before_of_zipIdxLE) hle
  refine ⟨ranked.take k, hnodup.sublist (List.take_sublist k ranked), ?_, ?_⟩
  · intro p
    constructor
    · intro hp
      have hmem := List.mem_of_mem_take hp
      refine ⟨hperm.mem_iff.mp hmem, ?_⟩
      rw [place, ← hperm.countP_eq]
      exact (mem_take_iff_countP Before.asymm hsorted hmem).mp hp
    · rintro ⟨hmem, hplace⟩
      rw [place, ← hperm.countP_eq] at hplace
      exact (mem_take_iff_countP Before.asymm hsorted (hperm.mem_iff.mpr hmem)).mpr hplace
  · rw [List.map_take, List.mergeSort_zipIdx]
    rfl

end SemanticBus
