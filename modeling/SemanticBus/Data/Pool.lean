import Mathlib.Logic.Function.Basic
import SemanticBus.Data.Prog
import SemanticBus.Data.Run

/-!
# Programs side by side

A pool is a server and some programs that issue their commands to it in any order,
each command with an environment of its own.  What is left of a program is hard to
argue about, so an `Outline` names the points at which a program can stand and says
what its next command does there; the runs of a pool are the runs of its points
(`Outline.run_pool`).
-/

universe u v w

namespace SemanticBus

variable {κ : Type v} {Λ : Type w} {ε σ α : Type u}

/-- The first command of a program, unless it has returned. -/
def Prog.issue (env : ε) : Prog ε σ α → σ → Option (Prog ε σ α × σ)
  | .pure _, _ => none
  | .step f k, s => some (k (f env s).1, (f env s).2)

/-- Some programs, and the server they share. -/
structure ProgPool (κ : Type v) (ε σ α : Type u) where
  server : σ
  /-- What is left of each program. -/
  progs : κ → Prog ε σ α

/-- The programs `progs`, and where each of them stands. -/
structure Points (κ : Type v) (Λ : Type w) (σ : Type u) where
  server : σ
  points : κ → Λ

/-- The points at which some programs can stand. -/
structure Outline (κ : Type v) (Λ : Type w) (ε σ α : Type u) where
  /-- What is left of a program at a point. -/
  prog : κ → Λ → Prog ε σ α
  /-- The next command of a program: the point after it, and what it makes of the server. -/
  next : κ → Λ → ε → σ → Option (Λ × σ)
  issue_prog : ∀ i l env s,
    (prog i l).issue env s = (next i l env s).map fun x ↦ (prog i x.1, x.2)

section

variable [DecidableEq κ]

namespace Points

variable {p : Points κ Λ σ} {i j : κ} {l : Λ} {s : σ}

/-- One program goes to another point, and the server to another state. -/
def move (p : Points κ Λ σ) (i : κ) (l : Λ) (s : σ) : Points κ Λ σ where
  server := s
  points := Function.update p.points i l

@[simp] theorem server_move : (p.move i l s).server = s := rfl

@[simp] theorem points_move_self : (p.move i l s).points i = l := Function.update_self _ _ _

theorem points_move_of_ne (h : j ≠ i) : (p.move i l s).points j = p.points j :=
  Function.update_of_ne h _ _

theorem forall_points_move {P : κ → Λ → Prop} :
    (∀ j, P j ((p.move i l s).points j)) ↔ P i l ∧ ∀ j, j ≠ i → P j (p.points j) :=
  Function.forall_update_iff p.points P

/-- What the points before and after a move have in common holds of the same programs. -/
theorem points_move_iff {P : Λ → Prop} (h : P l ↔ P (p.points i)) (j : κ) :
    P ((p.move i l s).points j) ↔ P (p.points j) := by
  by_cases hj : j = i
  · rw [hj, points_move_self]
    exact h
  · rw [points_move_of_ne hj]

end Points

def ProgPool.issue (p : ProgPool κ ε σ α) (a : κ × ε) : Option (ProgPool κ ε σ α) :=
  ((p.progs a.1).issue a.2 p.server).map fun x ↦
    { server := x.2, progs := Function.update p.progs a.1 x.1 }

namespace Outline

variable {o : Outline κ Λ ε σ α}

/-- A program goes on to its next point. -/
def step (o : Outline κ Λ ε σ α) (p : Points κ Λ σ) (a : κ × ε) : Option (Points κ Λ σ) :=
  (o.next a.1 (p.points a.1) a.2 p.server).map fun x ↦ p.move a.1 x.1 x.2

/-- The pool of the programs that stand at some points. -/
def pool (o : Outline κ Λ ε σ α) (p : Points κ Λ σ) : ProgPool κ ε σ α where
  server := p.server
  progs i := o.prog i (p.points i)

theorem issue_pool (o : Outline κ Λ ε σ α) (p : Points κ Λ σ) (a : κ × ε) :
    (o.pool p).issue a = (o.step p a).map o.pool := by
  rw [ProgPool.issue, step, show (o.pool p).progs a.1 = o.prog a.1 (p.points a.1) from rfl,
    o.issue_prog, Option.map_map, Option.map_map]
  refine congrArg (Option.map · _) (funext fun x ↦ ?_)
  refine congrArg (ProgPool.mk x.2) (funext fun i ↦ ?_)
  exact (Function.apply_update (fun i ↦ o.prog i) p.points a.1 x.1 i).symm

/-- The runs of a pool are the runs of its points. -/
theorem run_pool (o : Outline κ Λ ε σ α) {p : Points κ Λ σ} {as : List (κ × ε)}
    {x : ProgPool κ ε σ α} :
    Run (Step.graph ProgPool.issue) (o.pool p) as x ↔
      ∃ q, Run (Step.graph o.step) p as q ∧ x = o.pool q :=
  Run.graph_map o.issue_pool

/-- What a step does: one program goes from one point to another. -/
theorem exists_move {p q : Points κ Λ σ} {a : κ × ε} (h : o.step p a = some q) :
    ∃ l s, o.next a.1 (p.points a.1) a.2 p.server = some (l, s) ∧ q = p.move a.1 l s := by
  obtain ⟨x, hx, rfl⟩ := Option.map_eq_some_iff.mp h
  exact ⟨x.1, x.2, hx, rfl⟩

end Outline

end

end SemanticBus
