import Mathlib.Data.List.Induction
import Mathlib.Data.List.Infix
import Mathlib.Logic.Relation

/-!
# Runs of a labelled transition system

`Run Step s as s'` says that the labels `as`, fired in order, take the state `s`
to the state `s'`.  The system is any relation `Step`; a deterministic machine
is the graph of its step function.

Two rules carry every argument about runs: `Run.invariant` lifts a property
preserved by one step to a whole run, and `Run.relates` lifts a reflexive and
transitive relation between the states before and after a step, given an
invariant.  `Step.Only Good` is the system restricted to the steps that satisfy
a side condition, which is how a result that holds of well-behaved runs is
stated.
-/

universe u v w

namespace SemanticBus

variable {σ : Type u} {ℓ : Type v}

abbrev Step (σ : Type u) (ℓ : Type v) := σ → ℓ → σ → Prop

/-- The steps of a system that meet a side condition on the state before and the label. -/
def Step.Only (Good : σ → ℓ → Prop) (S : Step σ ℓ) : Step σ ℓ :=
  fun s a s' ↦ Good s a ∧ S s a s'

/-- The steps of a machine that may refuse a label. -/
def Step.graph (f : σ → ℓ → Option σ) : Step σ ℓ := fun s a s' ↦ f s a = some s'

/-- A system whose steps read a clock, and the clock never goes back. -/
def Step.Timed {τ : Type w} [LE τ] (S : τ → Step σ ℓ) : Step (τ × σ) (τ × ℓ) :=
  fun s a s' ↦ s.1 ≤ a.1 ∧ s'.1 = a.1 ∧ S a.1 s.2 a.2 s'.2

/-- A system that keeps notes: what a step adds to them depends on the state before
and the label. -/
def Step.Noting {γ : Type w} (note : σ → ℓ → γ → γ) (S : Step σ ℓ) : Step (σ × γ) ℓ :=
  fun x a y ↦ S x.1 a y.1 ∧ y.2 = note x.1 a x.2

def noted {γ : Type w} (note : σ → ℓ → γ → γ) (f : σ → ℓ → Option σ) (x : σ × γ) (a : ℓ) :
    Option (σ × γ) := (f x.1 a).map (·, note x.1 a x.2)

theorem Step.noting_graph {γ : Type w} (note : σ → ℓ → γ → γ) (f : σ → ℓ → Option σ) :
    Step.Noting note (Step.graph f) = Step.graph (noted note f) := by
  funext x a y
  apply propext
  constructor
  · rintro ⟨hf, hnote⟩
    show (f x.1 a).map _ = some y
    rw [show f x.1 a = some y.1 from hf, Option.map_some, ← hnote]
  · intro h
    obtain ⟨s', hf, rfl⟩ := Option.map_eq_some_iff.mp h
    exact ⟨hf, rfl⟩

inductive Run (S : Step σ ℓ) : σ → List ℓ → σ → Prop
  /-- The run of no steps. -/
  | nil (s : σ) : Run S s [] s
  /-- One step, then a run. -/
  | cons {s s' s'' : σ} {a : ℓ} {as : List ℓ} : S s a s' → Run S s' as s'' → Run S s (a :: as) s''

namespace Run

variable {S T : Step σ ℓ} {s s' s'' : σ} {a : ℓ} {as bs : List ℓ}

theorem single (h : S s a s') : Run S s [a] s' := .cons h (.nil s')

/-- Runs compose. -/
theorem append (h : Run S s as s') (h' : Run S s' bs s'') : Run S s (as ++ bs) s'' := by
  induction h with
  | nil _ => exact h'
  | cons hs _ ih => exact .cons hs (ih h')

theorem snoc (h : Run S s as s') (h' : S s' a s'') : Run S s (as ++ [a]) s'' := h.append (single h')

/-- A run over a concatenation passes through a state in between. -/
theorem exists_of_append (h : Run S s (as ++ bs) s'') :
    ∃ s', Run S s as s' ∧ Run S s' bs s'' := by
  induction as generalizing s with
  | nil => exact ⟨s, .nil s, h⟩
  | cons a as ih =>
      cases h with
      | cons hs hr =>
          obtain ⟨s', h₁, h₂⟩ := ih hr
          exact ⟨s', .cons hs h₁, h₂⟩

/-- Runs are monotone in the step relation. -/
theorem mono (hST : ∀ s a s', S s a s' → T s a s') (h : Run S s as s') : Run T s as s' := by
  induction h with
  | nil s => exact .nil s
  | cons hs _ ih => exact .cons (hST _ _ _ hs) ih

/-- A run of the restricted system is a run. -/
theorem of_only {Good : σ → ℓ → Prop} (h : Run (Step.Only Good S) s as s') : Run S s as s' :=
  h.mono fun _ _ _ hs ↦ hs.2

/-- A run whose labels are all good. -/
theorem only_of_labels {Good : ℓ → Prop} (h : Run S s as s') (hgood : ∀ a ∈ as, Good a) :
    Run (Step.Only (fun _ a ↦ Good a) S) s as s' := by
  induction h with
  | nil s => exact .nil s
  | cons ha _ ih =>
      exact .cons ⟨hgood _ List.mem_cons_self, ha⟩
        (ih fun b hb ↦ hgood b (List.mem_cons_of_mem _ hb))

/-- The runs of a machine. -/
theorem graph_iff {f : σ → ℓ → Option σ} :
    Run (Step.graph f) s as s' ↔ as.foldlM f s = some s' := by
  constructor
  · intro h
    induction h with
    | nil s => rfl
    | cons ha _ ih =>
        rw [List.foldlM_cons, show f _ _ = some _ from ha]
        exact ih
  · intro h
    induction as generalizing s with
    | nil => exact Option.some.inj h ▸ .nil s
    | cons a as ih =>
        rw [List.foldlM_cons] at h
        obtain ⟨t, ha, hr⟩ := Option.bind_eq_some_iff.mp h
        exact .cons ha (ih hr)

/-- The runs of good steps of a machine. -/
theorem only_graph_iff {f : σ → ℓ → Option σ} {Good : σ → ℓ → Prop} [∀ s a, Decidable (Good s a)] :
    Run (Step.Only Good (Step.graph f)) s as s' ↔
      as.foldlM (fun s a ↦ if Good s a then f s a else none) s = some s' := by
  rw [← graph_iff]
  constructor
  · intro h
    exact h.mono fun _ _ _ hs ↦ (if_pos hs.1).trans hs.2
  · intro h
    refine h.mono fun s a s' hs ↦ ?_
    have hgood : Good s a := by
      by_contra hbad
      cases (if_neg hbad).symm.trans hs
    exact ⟨hgood, (if_pos hgood).symm.trans hs⟩

/-- Notes can be kept of every run. -/
theorem exists_noted {γ : Type w} (note : σ → ℓ → γ → γ) {f : σ → ℓ → Option σ}
    (h : Run (Step.graph f) s as s') (c : γ) :
    ∃ c', Run (Step.graph (noted note f)) (s, c) as (s', c') := by
  induction h generalizing c with
  | nil s => exact ⟨c, .nil _⟩
  | cons ha _ ih =>
      rename_i s _ _ a _ _
      obtain ⟨c', hr⟩ := ih (note s a c)
      refine ⟨c', .cons ?_ hr⟩
      show (f s a).map _ = _
      rw [show f s a = some _ from ha, Option.map_some]

/-- A machine inside another one. -/
theorem graph_map {τ : Type w} {f : σ → ℓ → Option σ} {g : τ → ℓ → Option τ} {e : τ → σ}
    (h : ∀ t a, f (e t) a = (g t a).map e) {t : τ} :
    Run (Step.graph f) (e t) as s' ↔ ∃ t', Run (Step.graph g) t as t' ∧ s' = e t' := by
  constructor
  · intro hr
    induction as generalizing t with
    | nil =>
        cases hr
        exact ⟨t, .nil t, rfl⟩
    | cons a as ih =>
        cases hr with
        | cons ha hr =>
            obtain ⟨t₁, hg, rfl⟩ := Option.map_eq_some_iff.mp ((h t a).symm.trans ha)
            obtain ⟨t', hr', rfl⟩ := ih hr
            exact ⟨t', .cons hg hr', rfl⟩
  · rintro ⟨t', hr, rfl⟩
    induction hr with
    | nil t => exact .nil _
    | cons ha _ ih =>
        refine .cons ?_ ih
        show f (e _) _ = _
        rw [h, show g _ _ = some _ from ha, Option.map_some]

/-- What every step preserves holds at the end of every run from a state where
it holds. -/
theorem invariant {P : σ → Prop} (hstep : ∀ s a s', P s → S s a s' → P s') (h : Run S s as s')
    (hs : P s) : P s' := by
  induction h with
  | nil _ => exact hs
  | cons ha _ ih => exact ih (hstep _ _ _ hs ha)

/-- A property of the labels so far and the state. -/
theorem history {P : List ℓ → σ → Prop}
    (hstep : ∀ bs s a s', P bs s → S s a s' → P (bs ++ [a]) s') (h : Run S s as s') (hs : P [] s) :
    P as s' := by
  suffices hrun : ∀ bs, P bs s → P (bs ++ as) s' from hrun [] hs
  clear hs
  induction h with
  | nil s =>
      intro bs hs
      rwa [List.append_nil]
  | cons ha _ ih =>
      intro bs hs
      rw [List.append_cons]
      exact ih _ (hstep _ _ _ _ hs ha)

/-- A side condition that is, in the states of an invariant, exactly what a step of a
deterministic system needs to keep a property: the steps of a run all meet it when the
property holds all along, and only then.  The invariant is kept as long as the property holds. -/
theorem only_iff_along {I P : σ → Prop} {Good : σ → ℓ → Prop}
    (hdet : ∀ s a t t', S s a t → S s a t' → t = t')
    (hinv : ∀ s a s', I s → P s → S s a s' → I s')
    (hstep : ∀ s a s', I s → P s → S s a s' → (Good s a ↔ P s')) (hI : I s) (hP : P s) :
    Run (Step.Only Good S) s as s' ↔
      Run S s as s' ∧ ∀ bs t, bs <+: as → Run S s bs t → P t := by
  constructor
  · intro h
    refine ⟨h.of_only, ?_⟩
    induction h with
    | nil s =>
        intro bs t hbs hr
        cases List.prefix_nil.mp hbs
        cases hr
        exact hP
    | cons ha _ ih =>
        intro bs t hbs hr
        cases hr with
        | nil => exact hP
        | cons hb hr =>
            obtain ⟨rfl, htail⟩ := List.cons_prefix_cons.mp hbs
            cases hdet _ _ _ _ ha.2 hb
            exact ih (hinv _ _ _ hI hP ha.2) ((hstep _ _ _ hI hP ha.2).mp ha.1) _ _ htail hr
  · rintro ⟨h, hall⟩
    induction h with
    | nil s => exact .nil s
    | cons ha _ ih =>
        have hP' := hall _ _ (List.prefix_append [_] _) (single ha)
        exact .cons ⟨(hstep _ _ _ hI hP ha).mpr hP', ha⟩ (ih (hinv _ _ _ hI hP ha) hP'
          fun bs t hbs hr ↦ hall _ _ (List.cons_prefix_cons.mpr ⟨rfl, hbs⟩) (.cons ha hr))

/-- The same with an invariant of all runs. -/
theorem only_iff {I P : σ → Prop} {Good : σ → ℓ → Prop}
    (hdet : ∀ s a t t', S s a t → S s a t' → t = t') (hinv : ∀ s a s', I s → S s a s' → I s')
    (hstep : ∀ s a s', I s → P s → S s a s' → (Good s a ↔ P s')) (hI : I s) (hP : P s) :
    Run (Step.Only Good S) s as s' ↔
      Run S s as s' ∧ ∀ bs t, bs <+: as → Run S s bs t → P t :=
  only_iff_along hdet (fun s a s' hI _ ↦ hinv s a s' hI) hstep hI hP

/-- When a step that is not good dooms the run, the runs that end well are runs of good
steps. -/
theorem only_of_doomed {I D P : σ → Prop} {Good : σ → ℓ → Prop}
    (hgood : ∀ s a s', I s → Good s a → S s a s' → I s')
    (hbad : ∀ s a s', I s → ¬ Good s a → S s a s' → D s')
    (hdoomed : ∀ s a s', D s → S s a s' → D s') (hend : ∀ s, D s → ¬ P s) (h : Run S s as s')
    (hI : I s) (hP : P s') : Run (Step.Only Good S) s as s' := by
  induction h with
  | nil s => exact .nil s
  | cons ha hr ih =>
      rename_i s t _ a _
      by_cases hg : Good s a
      · exact .cons ⟨hg, ha⟩ (ih (hgood s a t hI hg ha) hP)
      · exact absurd hP (hend _ (hr.invariant hdoomed (hbad s a t hI hg ha)))

/-- A reflexive and transitive relation that every step from an invariant state
respects relates the two ends of every run. -/
theorem relates {P : σ → Prop} {R : σ → σ → Prop} (hrefl : ∀ s, R s s)
    (htrans : ∀ {s s' s''}, R s s' → R s' s'' → R s s'')
    (hinv : ∀ s a s', P s → S s a s' → P s') (hstep : ∀ s a s', P s → S s a s' → R s s')
    (h : Run S s as s') (hs : P s) : R s s' := by
  induction h with
  | nil s => exact hrefl s
  | cons ha _ ih => exact htrans (hstep _ _ _ hs ha) (ih (hinv _ _ _ hs ha))

/-- A goal is reached when, short of it, some step keeps the invariant and comes closer. -/
theorem exists_of_measure {I Goal : σ → Prop} (μ : σ → ℕ)
    (hstep : ∀ s, I s → Goal s ∨ ∃ a s', S s a s' ∧ I s' ∧ μ s' < μ s) (hs : I s) :
    ∃ as s', Run S s as s' ∧ I s' ∧ Goal s' := by
  induction hn : μ s using Nat.strong_induction_on generalizing s with
  | h n ih =>
      rcases hstep s hs with hgoal | ⟨a, t, ha, ht, hlt⟩
      · exact ⟨[], s, .nil s, hs, hgoal⟩
      · obtain ⟨as, s', hr, hs', hgoal⟩ := ih (μ t) (hn ▸ hlt) ht rfl
        exact ⟨a :: as, s', .cons ha hr, hs', hgoal⟩

end Run

/-- Two judgements on the calls of a history come to the same if they do wherever an invariant
of the calls before holds, and good calls keep it. -/
theorem forall_prefix_iff {α : Type u} {I : List α → Prop} {P Q : List α → α → Prop}
    {as : List α} (hnil : I [])
    (hiff : ∀ before a, before ++ [a] <+: as → I before → (P before a ↔ Q before a))
    (hstep : ∀ before a, before ++ [a] <+: as → I before → Q before a → I (before ++ [a])) :
    (∀ before a, before ++ [a] <+: as → P before a) ↔
      ∀ before a, before ++ [a] <+: as → Q before a := by
  have hI : (∀ before a, before ++ [a] <+: as → I before → Q before a) →
      ∀ before, before <+: as → I before := by
    intro hgood before
    induction before using List.reverseRecOn with
    | nil => exact fun _ ↦ hnil
    | append_singleton before a ih =>
        intro has
        have hbefore := ih ((List.prefix_append _ _).trans has)
        exact hstep before a has hbefore (hgood before a has hbefore)
  constructor
  · intro h before a has
    have hgood : ∀ before a, before ++ [a] <+: as → I before → Q before a :=
      fun before a has hbefore ↦ (hiff before a has hbefore).mp (h before a has)
    exact hgood before a has (hI hgood before ((List.prefix_append _ _).trans has))
  · intro h before a has
    have hbefore := hI (fun before a has _ ↦ h before a has) before
      ((List.prefix_append _ _).trans has)
    exact (hiff before a has hbefore).mpr (h before a has)

/-- The states a system can reach from `s`. -/
def Reachable (S : Step σ ℓ) (s s' : σ) : Prop := ∃ as, Run S s as s'

namespace Reachable

variable {S : Step σ ℓ} {s s' s'' : σ} {a : ℓ}

theorem refl (s : σ) : Reachable S s s := ⟨[], .nil s⟩

theorem step (h : Reachable S s s') (h' : S s' a s'') : Reachable S s s'' :=
  h.elim fun _ hr ↦ ⟨_, hr.snoc h'⟩

/-- Invariants hold of every reachable state. -/
theorem invariant {P : σ → Prop} (hstep : ∀ s a s', P s → S s a s' → P s')
    (h : Reachable S s s') (hs : P s) : P s' :=
  h.elim fun _ hr ↦ hr.invariant hstep hs

end Reachable

end SemanticBus
