import SemanticBus.Data.Pool

/-!
# Calls that happen in one go

Programs that carry out calls on an object share it with each other.  Next to them a copy of the
object serves the same calls in one go: each of them at the moment when its program returns.  The
programs are as good as atomic if all along the object is the copy and every program has returned
what the copy replied (`AsOne`).  This is so exactly if every command that returns does the whole
call to the object as it is then, and every other command nothing (`Whole`, `serial_iff`).
-/

universe u v w

namespace SemanticBus

variable {κ : Type v} {Λ : Type w} {ε σ α : Type u}

namespace Prog

variable {β : Type u} (env : ε) (s : σ)

/-- A program that starts with a query issues it. -/
theorem issue_query_bind (f : ε → σ → β) (k : β → Prog ε σ α) :
    (query f >>= k).issue env s = some (k (f env s), s) := rfl

end Prog

namespace Run

variable {γ ℓ : Type*} {note : σ → ℓ → γ → γ} {S : Step σ ℓ} {Good : σ → ℓ → Prop} {s s' : σ}
  {c c' : γ} {as : List ℓ}

/-- Notes can be kept of every run of good steps. -/
theorem exists_noting (note : σ → ℓ → γ → γ) (h : Run (Step.Only Good S) s as s') (c : γ) :
    ∃ c', Run (Step.Only (fun x a ↦ Good x.1 a) (Step.Noting note S)) (s, c) as (s', c') := by
  induction h generalizing c with
  | nil s => exact ⟨c, .nil _⟩
  | cons ha _ ih =>
      rename_i s _ _ a _ _
      obtain ⟨c', hr⟩ := ih (note s a c)
      exact ⟨c', .cons ⟨ha.1, ha.2, rfl⟩ hr⟩

/-- Without the notes. -/
theorem of_noting {x y : σ × γ}
    (h : Run (Step.Only (fun x a ↦ Good x.1 a) (Step.Noting note S)) x as y) :
    Run (Step.Only Good S) x.1 as y.1 := by
  induction h with
  | nil x => exact .nil x.1
  | cons ha _ ih => exact .cons ⟨ha.1, ha.2.1⟩ ih

end Run

structure Copy (κ : Type v) (σ α : Type u) where
  server : σ
  replies : κ → Option α

namespace Outline

variable [DecidableEq κ] (o : Outline κ Λ ε σ α) (reply : Λ → Option α)
  (exec : κ → ε → σ → σ × α)

/-- The copy serves a call when its program returns. -/
def serve (p : Points κ Λ σ) (a : κ × ε) (copy : Copy κ σ α) : Copy κ σ α :=
  match (o.next a.1 (p.points a.1) a.2 p.server).bind (reply ·.1) with
  | none => copy
  | some _ =>
      { server := (exec a.1 a.2 copy.server).1
        replies := Function.update copy.replies a.1 (some (exec a.1 a.2 copy.server).2) }

abbrev Serves : Step (Points κ Λ σ × Copy κ σ α) (κ × ε) :=
  Step.Noting (o.serve reply exec) (Step.graph o.step)

/-- The copy before any call. -/
def copyOf (p : Points κ Λ σ) : Copy κ σ α where
  server := p.server
  replies i := reply (p.points i)

omit [DecidableEq κ] in
/-- The object is the copy, and the programs have returned what it replied. -/
def AsOne (x : Points κ Λ σ × Copy κ σ α) : Prop :=
  x.1.server = x.2.server ∧ ∀ i, reply (x.1.points i) = x.2.replies i

/-- A command that returns a reply does the whole call, any other does nothing. -/
def Does (returned : Option α) (call : σ → σ × α) (s s' : σ) : Prop :=
  match returned with
  | none => s' = s
  | some r => (s', r) = call s

omit [DecidableEq κ] in
/-- The next command does the whole call and returns its reply, or it does nothing. -/
def Whole (p : Points κ Λ σ) (a : κ × ε) : Prop :=
  ∀ l s, o.next a.1 (p.points a.1) a.2 p.server = some (l, s) →
    Does (reply l) (exec a.1 a.2) p.server s

variable {o reply exec}

omit [DecidableEq κ] in
theorem whole_iff_does {p : Points κ Λ σ} {a : κ × ε} {l : Λ} {s : σ}
    (h : o.next a.1 (p.points a.1) a.2 p.server = some (l, s)) :
    Whole o reply exec p a ↔ Does (reply l) (exec a.1 a.2) p.server s := by
  constructor
  · exact fun hwhole ↦ hwhole l s h
  · intro hdoes l' s' h'
    obtain ⟨rfl, rfl⟩ := Prod.mk.inj (Option.some.inj (h.symm.trans h'))
    exact hdoes

/-- One command is whole exactly if it keeps the object and its copy together. -/
theorem whole_iff (hreturned : ∀ i l env s, (reply l).isSome → o.next i l env s = none)
    {x y : Points κ Λ σ × Copy κ σ α} {a : κ × ε} (hx : AsOne reply x)
    (h : Serves o reply exec x a y) : Whole o reply exec x.1 a ↔ AsOne reply y := by
  obtain ⟨p, copy⟩ := x
  obtain ⟨q, copy'⟩ := y
  obtain ⟨hserver, hreplies⟩ := hx
  obtain ⟨hstep, hcopy⟩ := h
  obtain ⟨l, s, hnext, rfl⟩ := Outline.exists_move hstep
  have hbefore : reply (p.points a.1) = none := by
    rw [← Option.not_isSome_iff_eq_none]
    intro hsome
    cases hnext.symm.trans (hreturned a.1 _ a.2 p.server hsome)
  rw [whole_iff_does hnext]
  change copy' = o.serve reply exec p a copy at hcopy
  rw [serve, hnext, Option.bind_some] at hcopy
  change p.server = copy.server at hserver
  cases hl : reply l with
  | none =>
      rw [hl] at hcopy
      obtain rfl : copy' = copy := hcopy
      have hsame : ∀ i, reply ((p.move a.1 l s).points i) = copy'.replies i := by
        intro i
        rw [← hreplies i]
        by_cases hi : i = a.1
        · rw [hi, Points.points_move_self, hl, hbefore]
        · rw [Points.points_move_of_ne hi]
      exact ⟨fun h ↦ ⟨h.trans hserver, hsame⟩, fun h ↦ h.1.trans hserver.symm⟩
  | some r =>
      rw [hl] at hcopy
      dsimp only at hcopy
      rw [← hserver] at hcopy
      subst hcopy
      show (s, r) = exec a.1 a.2 p.server ↔ _
      constructor
      · intro h
        have hs : s = (exec a.1 a.2 p.server).1 := congrArg Prod.fst h
        have hr : r = (exec a.1 a.2 p.server).2 := congrArg Prod.snd h
        refine ⟨hs, fun i ↦ ?_⟩
        by_cases hi : i = a.1
        · subst hi
          rw [Points.points_move_self, hl, hr]
          exact (Function.update_self a.1 _ copy.replies).symm
        · rw [Points.points_move_of_ne hi]
          exact (hreplies i).trans (Function.update_of_ne hi _ copy.replies).symm
      · rintro ⟨hs, hr⟩
        have hself := hr a.1
        rw [Points.points_move_self, hl] at hself
        have hnew : some r = some (exec a.1 a.2 p.server).2 :=
          hself.trans (Function.update_self ..)
        exact Prod.ext hs (Option.some.inj hnew)

/-- Next to a copy, the programs are as good as atomic all along exactly if every command is
whole. -/
theorem only_whole_iff (hreturned : ∀ i l env s, (reply l).isSome → o.next i l env s = none)
    {p : Points κ Λ σ} {as : List (κ × ε)} {x : Points κ Λ σ × Copy κ σ α} :
    Run (Step.Only (fun x a ↦ Whole o reply exec x.1 a) (Serves o reply exec))
        (p, copyOf reply p) as x ↔
      Run (Serves o reply exec) (p, copyOf reply p) as x ∧
        ∀ bs y, bs <+: as → Run (Serves o reply exec) (p, copyOf reply p) bs y →
          AsOne reply y := by
  refine Run.only_iff (I := fun _ ↦ True) ?_ (fun _ _ _ _ _ ↦ trivial)
    (fun x a y _ hx h ↦ whole_iff hreturned hx h) trivial ⟨rfl, fun _ ↦ rfl⟩
  rintro x a y y' ⟨hstep, hcopy⟩ ⟨hstep', hcopy'⟩
  exact Prod.ext (Option.some.inj (hstep.symm.trans hstep')) (hcopy.trans hcopy'.symm)

/-- The programs are as good as atomic all along exactly if every command is whole. -/
theorem serial_iff (hreturned : ∀ i l env s, (reply l).isSome → o.next i l env s = none)
    {p q : Points κ Λ σ} {as : List (κ × ε)} (h : Run (Step.graph o.step) p as q) :
    Run (Step.Only (Whole o reply exec) (Step.graph o.step)) p as q ↔
      ∀ bs y, bs <+: as → Run (Serves o reply exec) (p, copyOf reply p) bs y → AsOne reply y := by
  constructor
  · intro hwhole
    obtain ⟨copy, hrun⟩ := hwhole.exists_noting (o.serve reply exec) (copyOf reply p)
    exact ((only_whole_iff hreturned).mp hrun).2
  · intro hall
    have hany : Run (Step.Only (fun _ _ ↦ True) (Step.graph o.step)) p as q :=
      h.mono fun _ _ _ hstep ↦ ⟨trivial, hstep⟩
    obtain ⟨copy, hrun⟩ := hany.exists_noting (o.serve reply exec) (copyOf reply p)
    exact ((only_whole_iff hreturned).mpr ⟨hrun.of_only, hall⟩).of_noting

end Outline

end SemanticBus
