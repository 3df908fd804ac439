import SemanticBus.Data.Pool

/-!
# Programs that go on together

Two programs on different servers are coupled if each command of one has a command of the
other beside it: from states of the servers that are related the two get related replies and
leave related states, and on related replies the programs go on coupled.  A program may also
raise, and then returns `none`.

Programs that are coupled stay so whatever else is sent to the servers in between, so pools of
them go through the same runs (`ProgPool.Coupled.run`).
-/

universe u v

namespace SemanticBus

variable {ε σ σ' α α' β β' : Type u}

namespace Prog

/-- Programs whose commands keep the servers related by `R`, and that return results related
by `S`. -/
inductive Coupled (R : σ → σ' → Prop) {α α' : Type u} (S : α → α' → Prop) :
    Prog ε σ α → Prog ε σ' α' → Prop
  | pure {a : α} {a' : α'} (h : S a a') : Coupled R S (.pure a) (.pure a')
  | step {β β' : Type u} {f : ε → σ → β × σ} {f' : ε → σ' → β' × σ'} {k : β → Prog ε σ α}
      {k' : β' → Prog ε σ' α'} (T : β → β' → Prop)
      (hf : ∀ env s s', R s s' → T (f env s).1 (f' env s').1 ∧ R (f env s).2 (f' env s').2)
      (hk : ∀ b b', T b b' → Coupled R S (k b) (k' b')) :
      Coupled R S (.step f k) (.step f' k')

namespace Coupled

variable {R : σ → σ' → Prop} {S : α → α' → Prop} {T : β → β' → Prop}

theorem ret {a : α} {a' : α'} (h : S a a') :
    Coupled R S (Pure.pure a : Prog ε σ α) (Pure.pure a' : Prog ε σ' α') := .pure h

theorem command {f : ε → σ → α × σ} {f' : ε → σ' → α' × σ'}
    (h : ∀ env s s', R s s' → S (f env s).1 (f' env s').1 ∧ R (f env s).2 (f' env s').2) :
    Coupled R S (Prog.command f) (Prog.command f') := .step S h fun _ _ ↦ .pure

theorem query {f : ε → σ → α} {f' : ε → σ' → α'}
    (h : ∀ env s s', R s s' → S (f env s) (f' env s')) :
    Coupled R S (Prog.query f) (Prog.query f') := command fun env s s' hs ↦ ⟨h env s s' hs, hs⟩

theorem modify {f : ε → σ → σ} {f' : ε → σ' → σ'} {S : PUnit → PUnit → Prop} (hS : S ⟨⟩ ⟨⟩)
    (h : ∀ env s s', R s s' → R (f env s) (f' env s')) :
    Coupled R S (Prog.modify f) (Prog.modify f') := command fun env s s' hs ↦ ⟨hS, h env s s' hs⟩

theorem mono {S' : α → α' → Prop} {x : Prog ε σ α} {x' : Prog ε σ' α'} (h : Coupled R S x x')
    (hS : ∀ a a', S a a' → S' a a') : Coupled R S' x x' := by
  induction h with
  | pure h => exact .pure (hS _ _ h)
  | step T hf _ ih => exact .step T hf fun b b' hb ↦ ih b b' hb

/-- One after the other. -/
theorem bind {x : Prog ε σ β} {x' : Prog ε σ' β'} {g : β → Prog ε σ α} {g' : β' → Prog ε σ' α'}
    (h : Coupled R T x x') (hg : ∀ b b', T b b' → Coupled R S (g b) (g' b')) :
    Coupled R S (x >>= g) (x' >>= g') := by
  show Coupled R S (x.bind g) (x'.bind g')
  induction h with
  | pure hb => exact hg _ _ hb
  | step U hf _ ih => exact .step U hf fun b b' hb ↦ ih b b' hb

/-- Coupled programs issue their next commands together. -/
theorem issue {x : Prog ε σ α} {x' : Prog ε σ' α'} (h : Coupled R S x x') {env : ε} {s : σ}
    {s' : σ'} (hs : R s s') :
    Option.Rel (fun y y' ↦ Coupled R S y.1 y'.1 ∧ R y.2 y'.2) (x.issue env s)
      (x'.issue env s') := by
  cases h with
  | pure => exact .none
  | step T hf hk =>
      obtain ⟨hreply, hstate⟩ := hf env s s' hs
      exact .some ⟨hk _ _ hreply, hstate⟩

/-- A program that has returned is coupled with one that has. -/
theorem of_pure_right {x : Prog ε σ α} {a' : α'} (h : Coupled R S x (.pure a' : Prog ε σ' α')) :
    ∃ a, x = .pure a ∧ S a a' := by
  cases h with
  | pure h => exact ⟨_, rfl, h⟩

end Coupled

/-- The second program does not raise, and returns a related result. -/
def Returns (S : α → α' → Prop) (a : α) (o : Option α') : Prop := ∃ a', o = some a' ∧ S a a'

/-- One after the other, when the second programs may raise. -/
theorem Coupled.bindT {R : σ → σ' → Prop} {S : α → α' → Prop} {T : β → β' → Prop}
    {x : Prog ε σ β} {x' : OptionT (Prog ε σ') β'} {g : β → Prog ε σ α}
    {g' : β' → OptionT (Prog ε σ') α'} (h : Coupled R (Returns T) x x'.run)
    (hg : ∀ b b', T b b' → Coupled R (Returns S) (g b) (g' b').run) :
    Coupled R (Returns S) (x >>= g) (x' >>= g').run := by
  refine h.bind ?_
  rintro b _ ⟨b', rfl, hb⟩
  exact hg b b' hb

/-- A result that is not raised. -/
theorem Coupled.retT {R : σ → σ' → Prop} {S : α → α' → Prop} {a : α} {a' : α'} (h : S a a') :
    Coupled R (Returns S) (Pure.pure a : Prog ε σ α)
      (Pure.pure a' : OptionT (Prog ε σ') α').run := .pure ⟨a', rfl, h⟩

end Prog

/-! ## Pools -/

section

variable {κ : Type v} [DecidableEq κ] {R : σ → σ' → Prop} {S : α → α' → Prop}

/-- Pools of programs that are coupled, on servers that are related. -/
structure ProgPool.Coupled (R : σ → σ' → Prop) (S : α → α' → Prop) (p : ProgPool κ ε σ α)
    (p' : ProgPool κ ε σ' α') : Prop where
  server : R p.server p'.server
  progs : ∀ i, Prog.Coupled R S (p.progs i) (p'.progs i)

variable {p : ProgPool κ ε σ α} {p' : ProgPool κ ε σ' α'}

theorem ProgPool.Coupled.issue (h : p.Coupled R S p') (a : κ × ε) :
    Option.Rel (ProgPool.Coupled R S) (p.issue a) (p'.issue a) := by
  have hissue : Option.Rel (fun y y' ↦ Prog.Coupled R S y.1 y'.1 ∧ R y.2 y'.2)
      ((p.progs a.1).issue a.2 p.server) ((p'.progs a.1).issue a.2 p'.server) :=
    (h.progs a.1).issue h.server
  rw [ProgPool.issue, ProgPool.issue]
  generalize (p.progs a.1).issue a.2 p.server = y at hissue ⊢
  generalize (p'.progs a.1).issue a.2 p'.server = y' at hissue ⊢
  cases hissue with
  | none => exact .none
  | some hboth =>
      refine .some ⟨hboth.2, fun i ↦ ?_⟩
      dsimp only
      by_cases hi : i = a.1
      · subst hi
        rw [Function.update_self, Function.update_self]
        exact hboth.1
      · rw [Function.update_of_ne hi, Function.update_of_ne hi]
        exact h.progs i

/-- Coupled pools go through the same runs, and stay coupled. -/
theorem ProgPool.Coupled.run (h : p.Coupled R S p') (as : List (κ × ε)) :
    Option.Rel (ProgPool.Coupled R S) (as.foldlM ProgPool.issue p)
      (as.foldlM ProgPool.issue p') := by
  induction as generalizing p p' with
  | nil => exact .some h
  | cons a as ih =>
      rw [List.foldlM_cons, List.foldlM_cons]
      have hissue := h.issue a
      generalize p.issue a = q at hissue ⊢
      generalize p'.issue a = q' at hissue ⊢
      cases hissue with
      | none => exact .none
      | some hnext => exact ih hnext

/-- The runs of a pool are those of one that is coupled with it. -/
theorem ProgPool.Coupled.exists_run (h : p.Coupled R S p') {as : List (κ × ε)}
    {q' : ProgPool κ ε σ' α'} (hrun : Run (Step.graph ProgPool.issue) p' as q') :
    ∃ q, Run (Step.graph ProgPool.issue) p as q ∧ q.Coupled R S q' := by
  have hboth := h.run as
  rw [Run.graph_iff.mp hrun] at hboth
  generalize hq : as.foldlM ProgPool.issue p = o at hboth
  cases hboth with
  | some hcoupled => exact ⟨_, Run.graph_iff.mpr hq, hcoupled⟩

end

end SemanticBus
