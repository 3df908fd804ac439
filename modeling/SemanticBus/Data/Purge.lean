import Mathlib.Data.List.Basic

/-!
# Deleting steps from a run

A machine takes a list of inputs, and some of its outputs are observed.  `purge` deletes
the inputs that are hidden where they are taken.  Unwinding is the rule for showing that
nothing observed depends on them: a relation between the states of the two runs that a
hidden input keeps on its own and every other input keeps on both sides, with the same
observation.
-/

universe u v w x

namespace SemanticBus

variable {σ : Type u} {α : Type v} {ρ : Type w} {ω : Type x}

def observations (step : σ → α → ρ × σ) (observe : α → ρ → Option ω) : σ → List α → List ω
  | _, [] => []
  | s, a :: as => (observe a (step s a).1).toList ++ observations step observe (step s a).2 as

/-- The inputs without those that are hidden where they are taken. -/
def purge (step : σ → α → ρ × σ) (hidden : σ → α → Bool) : σ → List α → List α
  | _, [] => []
  | s, a :: as =>
      if hidden s a then purge step hidden (step s a).2 as
      else a :: purge step hidden (step s a).2 as

/-- Every input of a run is allowed where it is taken. -/
def Along (step : σ → α → ρ × σ) (ok : σ → α → Prop) : σ → List α → Prop
  | _, [] => True
  | s, a :: as => ok s a ∧ Along step ok (step s a).2 as

/-- A relation between the states of a run and of the run without its hidden inputs. -/
structure Unwinding (step : σ → α → ρ × σ) (hidden : σ → α → Bool) (observe : α → ρ → Option ω)
    (ok : σ → α → Prop) (R : σ → σ → Prop) : Prop where
  hide : ∀ {s t a}, R s t → ok s a → hidden s a = true →
    R (step s a).2 t ∧ observe a (step s a).1 = none
  keep : ∀ {s t a}, R s t → ok s a → hidden s a = false →
    ok t a ∧ R (step s a).2 (step t a).2 ∧ observe a (step s a).1 = observe a (step t a).1

variable {step : σ → α → ρ × σ} {hidden : σ → α → Bool} {observe : α → ρ → Option ω}
  {ok : σ → α → Prop} {R : σ → σ → Prop} {s t : σ} {as : List α}

/-- Hidden inputs are those that meet a test on the input alone. -/
theorem purge_eq_filter (step : σ → α → ρ × σ) (test : α → Bool) (s : σ) (as : List α) :
    purge step (fun _ a ↦ test a) s as = as.filter (!test ·) := by
  induction as generalizing s with
  | nil => rfl
  | cons a as ih =>
      rw [purge, List.filter_cons, ih]
      cases test a with
      | true => rfl
      | false => rfl

/-- The run without its hidden inputs is allowed. -/
theorem Unwinding.along_purge (h : Unwinding step hidden observe ok R) (hR : R s t)
    (hok : Along step ok s as) : Along step ok t (purge step hidden s as) := by
  induction as generalizing s t with
  | nil => trivial
  | cons a as ih =>
      rw [purge]
      cases hhidden : hidden s a with
      | true => exact ih (h.hide hR hok.1 hhidden).1 hok.2
      | false =>
          obtain ⟨hok', hR', -⟩ := h.keep hR hok.1 hhidden
          exact ⟨hok', ih hR' hok.2⟩

/-- Nothing that is observed depends on the hidden inputs. -/
theorem Unwinding.observations_purge (h : Unwinding step hidden observe ok R) (hR : R s t)
    (hok : Along step ok s as) :
    observations step observe t (purge step hidden s as) = observations step observe s as := by
  induction as generalizing s t with
  | nil => rfl
  | cons a as ih =>
      rw [purge, observations]
      cases hhidden : hidden s a with
      | true =>
          obtain ⟨hR', hnone⟩ := h.hide hR hok.1 hhidden
          rw [hnone]
          exact ih hR' hok.2
      | false =>
          obtain ⟨-, hR', hsame⟩ := h.keep hR hok.1 hhidden
          rw [hsame]
          exact congrArg _ (ih hR' hok.2)

end SemanticBus
