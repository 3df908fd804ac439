/-!
# Programs of atomic commands

A program issues commands to a server one after the other and goes on with the
reply of each.  A command is atomic: it reads the environment, a clock say, and
reads and changes the state of the server.  Between two commands of a program other
programs may issue theirs; `run` is what a program does when none does.
-/

universe u

namespace SemanticBus

/-- A program on servers with states `σ` in environments `ε`, which returns an `α`. -/
inductive Prog (ε σ : Type u) (α : Type u) : Type (u + 1)
  /-- Return. -/
  | pure (a : α)
  /-- Issue a command, and go on with its reply. -/
  | step {β : Type u} (f : ε → σ → β × σ) (k : β → Prog ε σ α)

namespace Prog

variable {ε σ α β : Type u}

def bind : Prog ε σ α → (α → Prog ε σ β) → Prog ε σ β
  | .pure a, g => g a
  | .step f k, g => .step f fun b ↦ (k b).bind g

instance : Monad (Prog ε σ) where
  pure := .pure
  bind := bind

def command (f : ε → σ → β × σ) : Prog ε σ β := .step f .pure

def ask : Prog ε σ ε := command fun env s ↦ (env, s)

def query (f : ε → σ → β) : Prog ε σ β := command fun env s ↦ (f env s, s)

def modify (f : ε → σ → σ) : Prog ε σ PUnit := command fun env s ↦ (⟨⟩, f env s)

def run (env : ε) : Prog ε σ α → σ → α × σ
  | .pure a, s => (a, s)
  | .step f k, s => (k (f env s).1).run env (f env s).2

@[simp] theorem run_pure (env : ε) (a : α) (s : σ) : (Pure.pure a : Prog ε σ α).run env s = (a, s) :=
  rfl

@[simp] theorem run_bind (env : ε) (x : Prog ε σ α) (g : α → Prog ε σ β) (s : σ) :
    (x >>= g).run env s = (g (x.run env s).1).run env (x.run env s).2 := by
  show (x.bind g).run env s = _
  induction x generalizing s with
  | pure a => rfl
  | step f k ih => exact ih _ _

@[simp] theorem run_command (env : ε) (f : ε → σ → β × σ) (s : σ) :
    (command f : Prog ε σ β).run env s = f env s := rfl

@[simp] theorem run_ask (env : ε) (s : σ) : (ask : Prog ε σ ε).run env s = (env, s) := rfl

@[simp] theorem run_query (env : ε) (f : ε → σ → β) (s : σ) :
    (query f).run env s = (f env s, s) := rfl

@[simp] theorem run_modify (env : ε) (f : ε → σ → σ) (s : σ) :
    (modify f).run env s = (⟨⟩, f env s) := rfl

/-- Every command of a program relates the states before and after it. -/
inductive Within (R : σ → σ → Prop) : Prog ε σ α → Prop
  | pure (a : α) : Within R (.pure a)
  | step {β : Type u} {f : ε → σ → β × σ} {k : β → Prog ε σ α} :
      (∀ env s, R s (f env s).2) → (∀ b, Within R (k b)) → Within R (.step f k)

namespace Within

variable {R : σ → σ → Prop} {x : Prog ε σ α} {g : α → Prog ε σ β}

theorem ret (a : α) : Within R (Pure.pure a : Prog ε σ α) := .pure a

theorem bind (hx : Within R x) (hg : ∀ a, Within R (g a)) : Within R (x >>= g) := by
  show Within R (x.bind g)
  induction hx with
  | pure a => exact hg a
  | step hf _ ih => exact .step hf fun b ↦ ih b

theorem command {f : ε → σ → β × σ} (h : ∀ env s, R s (f env s).2) :
    Within R (Prog.command f) := .step h .pure

theorem modify {f : ε → σ → σ} (h : ∀ env s, R s (f env s)) : Within R (Prog.modify f) := command h

theorem query (f : ε → σ → β) (hrefl : ∀ s, R s s) : Within R (Prog.query f) :=
  command fun _ s ↦ hrefl s

theorem ask (hrefl : ∀ s, R s s) : Within R (Prog.ask : Prog ε σ ε) := command fun _ s ↦ hrefl s

/-- A reflexive and transitive relation that every command respects relates the two ends
of a run. -/
theorem run (h : Within R x) (hrefl : ∀ s, R s s)
    (htrans : ∀ {s s' s''}, R s s' → R s' s'' → R s s'') (env : ε) (s : σ) :
    R s (x.run env s).2 := by
  induction h generalizing s with
  | pure a => exact hrefl s
  | step hf _ ih => exact htrans (hf env s) (ih _ _)

end Within

end Prog

end SemanticBus
