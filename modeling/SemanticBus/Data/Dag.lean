import Mathlib.Logic.Relation
import Mathlib.Order.WellFoundedSet

/-!
# Dependencies without cycles

`r a d` says that `a` depends on `d`.  On a finite set a relation without cycles
can be followed to its end in either direction (`Acyclic.induction`).

`Wave r root k` is what runs in round `k` when `root` runs in round `0` and
everything else one round after each of its dependencies has run, once for every
round in which one has.  Everything runs in exactly one round precisely when the
elements have a *layer* that grows by one along every dependency
(`existsUnique_wave_iff`).
-/

universe u

namespace SemanticBus

variable {α : Type u} {r : α → α → Prop} {s : Set α} {root a d : α} {rank : α → ℕ} {k : ℕ}

/-- Nothing depends on itself, directly or indirectly. -/
def Acyclic (r : α → α → Prop) : Prop := ∀ a, ¬ Relation.TransGen r a a

namespace Acyclic

/-- Dependencies along which a rank falls have no cycle. -/
theorem of_rank (h : ∀ a d, r a d → rank d < rank a) : Acyclic r := by
  have hlt : ∀ {a d}, Relation.TransGen r a d → rank d < rank a := by
    intro a d hpath
    induction hpath with
    | single hdep => exact h _ _ hdep
    | tail _ hdep ih => exact (h _ _ hdep).trans ih
  intro a hcycle
  exact lt_irrefl _ (hlt hcycle)

theorem mono {r' : α → α → Prop} (h : Acyclic r) (hle : ∀ a d, r' a d → r a d) : Acyclic r' := by
  intro a hcycle
  exact h a (Relation.TransGen.mono hle a a hcycle)

theorem swap (h : Acyclic r) : Acyclic (Function.swap r) := by
  intro a hcycle
  exact h a (Relation.transGen_swap.mp hcycle)

/-- What holds of an element as soon as it holds of the elements of `s` that it
depends on holds of all of `s`. -/
theorem induction {P : α → Prop} (h : Acyclic r) (hs : s.Finite)
    (step : ∀ a ∈ s, (∀ d ∈ s, r a d → P d) → P a) : ∀ a ∈ s, P a := by
  let below (d a : α) := Relation.TransGen r a d
  have hstrict : IsStrictOrder α below :=
    { irrefl := h, trans := fun _ _ _ hba hcb ↦ Relation.TransGen.trans hcb hba }
  have hwf : s.WellFoundedOn below := hs.wellFoundedOn
  intro a ha
  apply hwf.induction ha
  intro a ha ih
  apply step a ha
  intro d hd hdep
  exact ih d hd (Relation.TransGen.single hdep)

end Acyclic

/-! ## Waves and layers -/

def Wave (r : α → α → Prop) (root : α) : ℕ → Set α
  | 0 => {root}
  | k + 1 => {a | ∃ d ∈ Wave r root k, r a d}

/-- The layer of an element is the number of dependencies from it to the root. -/
structure Layered (r : α → α → Prop) (root : α) (s : Set α) (rank : α → ℕ) : Prop where
  root : rank root = 0
  succ : ∀ a ∈ s, ∀ d ∈ s, r a d → rank a = rank d + 1

/-- The dependencies stay inside `s`, and everything there but the root has one. -/
structure Rooted (r : α → α → Prop) (root : α) (s : Set α) : Prop where
  mem : root ∈ s
  closed : ∀ a d, r a d → a ∈ s ∧ d ∈ s
  dep : ∀ a ∈ s, a ≠ root → ∃ d, r a d

/-- With layers, the round of an element is its layer. -/
theorem Layered.mem_wave_iff (h : Rooted r root s) (hrank : Layered r root s rank) :
    a ∈ Wave r root k ↔ a ∈ s ∧ rank a = k := by
  induction k generalizing a with
  | zero =>
      constructor
      · intro hwave
        rw [Set.mem_singleton_iff.mp hwave]
        exact ⟨h.mem, hrank.root⟩
      · rintro ⟨ha, hzero⟩
        by_contra hne
        obtain ⟨d, hdep⟩ := h.dep a ha hne
        have hsucc := hrank.succ a ha d (h.closed a d hdep).2 hdep
        omega
  | succ k ih =>
      constructor
      · rintro ⟨d, hwave, hdep⟩
        obtain ⟨hd, hk⟩ := ih.mp hwave
        have ha := (h.closed a d hdep).1
        exact ⟨ha, by rw [hrank.succ a ha d hd hdep, hk]⟩
      · rintro ⟨ha, hk⟩
        have hne : a ≠ root := by
          rintro rfl
          have hroot := hrank.root
          omega
        obtain ⟨d, hdep⟩ := h.dep a ha hne
        have hd := (h.closed a d hdep).2
        have hsucc := hrank.succ a ha d hd hdep
        exact ⟨d, ih.mpr ⟨hd, by omega⟩, hdep⟩

/-- When everything runs in exactly one round, the rounds are layers. -/
theorem exists_layered (hroot : root ∈ s) (h : ∀ a ∈ s, ∃! k, a ∈ Wave r root k) :
    ∃ rank, Layered r root s rank := by
  classical
  let rank (a : α) : ℕ := if ha : a ∈ s then (h a ha).choose else 0
  have hrank : ∀ a (ha : a ∈ s) k, a ∈ Wave r root k → rank a = k := by
    intro a ha k hwave
    simp only [rank, dif_pos ha]
    exact ((h a ha).choose_spec.2 k hwave).symm
  have hwave : ∀ a ∈ s, a ∈ Wave r root (rank a) := by
    intro a ha
    simp only [rank, dif_pos ha]
    exact (h a ha).choose_spec.1
  refine ⟨rank, hrank root hroot 0 rfl, ?_⟩
  intro a ha d hd hdep
  exact hrank a ha _ ⟨d, hwave d hd, hdep⟩

/-- Everything runs in exactly one round just when there are layers. -/
theorem existsUnique_wave_iff (h : Rooted r root s) :
    (∀ a ∈ s, ∃! k, a ∈ Wave r root k) ↔ ∃ rank, Layered r root s rank := by
  constructor
  · exact exists_layered h.mem
  · rintro ⟨rank, hrank⟩ a ha
    refine ⟨rank a, (hrank.mem_wave_iff h).mpr ⟨ha, rfl⟩, ?_⟩
    intro k hwave
    exact ((hrank.mem_wave_iff h).mp hwave).2.symm

/-- With layers, an element runs after everything it depends on. -/
theorem Layered.exists_lt (h : Rooted r root s) (hrank : Layered r root s rank)
    (hwave : a ∈ Wave r root k) (hdep : r a d) : ∃ j < k, d ∈ Wave r root j := by
  have hd := (h.closed a d hdep).2
  obtain ⟨ha, hk⟩ := (hrank.mem_wave_iff h).mp hwave
  refine ⟨rank d, ?_, (hrank.mem_wave_iff h).mpr ⟨hd, rfl⟩⟩
  have hsucc := hrank.succ a ha d hd hdep
  omega

end SemanticBus
