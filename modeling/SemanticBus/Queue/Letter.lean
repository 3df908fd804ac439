import Mathlib.Logic.Relation
import Mathlib.Order.Nat

/-!
# The way of one message

What may happen to one message between the router and a websocket, in the terms of its sender: it
waits, a worker tries to deliver it, the websocket takes it or does not, and the message is done,
waits again or is given up.  `Moves` says so for a message with `maxRetries` retries, and `Sound`
is what holds of it at any time: it is taken at most once and not tried again after that, and it
is given up only after `maxRetries + 1` failures.

Nothing here is about queues, workers or registries; those are shown to move messages in this
way.
-/

namespace SemanticBus

inductive Phase where
  | handed
  | found
  | ended (taken : Bool)
deriving DecidableEq

inductive Place where
  | waiting
  /-- It is being delivered, or the delivery was broken off. -/
  | away (phase : Option Phase)
  /-- It was called back, or is out of date. -/
  | withdrawn
  | delivered
  | abandoned
deriving DecidableEq

structure Letter where
  place : Place := .waiting
  /-- The number of sends that were not taken. -/
  refused : Nat := 0
  /-- Whether a send was taken. -/
  taken : Bool := false
  /-- The number of deliveries that failed. -/
  failures : Nat := 0

namespace Letter

inductive Moves (maxRetries : Nat) (l : Letter) : Letter → Prop
  /-- A worker gets it. -/
  | hand : l.place = .waiting → Moves maxRetries l { l with place := .away (some .handed) }
  /-- The worker has a websocket for it. -/
  | find : l.place = .away (some .handed) →
      Moves maxRetries l { l with place := .away (some .found) }
  /-- The worker has none. -/
  | miss : l.place = .away (some .handed) →
      Moves maxRetries l { l with place := .away (some (.ended false)) }
  /-- The websocket takes it. -/
  | take : l.place = .away (some .found) →
      Moves maxRetries l { l with place := .away (some (.ended true)), taken := true }
  /-- The websocket does not take it. -/
  | refuse : l.place = .away (some .found) →
      Moves maxRetries l { l with place := .away (some (.ended false)), refused := l.refused + 1 }
  /-- The success is reported. -/
  | deliver : l.place = .away (some (.ended true)) →
      Moves maxRetries l { l with place := .delivered }
  /-- The failure is reported, and there are retries left (should the report raise, nobody will get
  it). -/
  | retry : l.place = .away (some (.ended false)) → l.failures < maxRetries →
      Moves maxRetries l { l with place := .waiting, failures := l.failures + 1 }
  /-- The failure is reported, and there are none. -/
  | abandon : l.place = .away (some (.ended false)) → maxRetries ≤ l.failures →
      Moves maxRetries l { l with place := .abandoned, failures := l.failures + 1 }
  /-- The worker is stopped. -/
  | stop {phase : Phase} : l.place = .away (some phase) →
      Moves maxRetries l { l with place := .away none }
  /-- It is called back or out of date. -/
  | withdraw : l.place = .waiting → Moves maxRetries l { l with place := .withdrawn }

abbrev Comes (maxRetries : Nat) : Letter → Prop := Relation.ReflTransGen (Moves maxRetries) {}

structure Sound (maxRetries : Nat) (l : Letter) : Prop where
  /-- A message that was taken is delivered, or that is still to be reported. -/
  taken : l.taken = true →
    l.place = .delivered ∨ l.place = .away (some (.ended true)) ∨ l.place = .away none
  /-- A message that counts as delivered was taken. -/
  delivered : l.place = .delivered ∨ l.place = .away (some (.ended true)) → l.taken = true
  /-- Every send that is not taken is a failure, reported or not. -/
  refused : l.refused ≤ l.failures ∨ l.refused = l.failures + 1 ∧ l.taken = false ∧
    (l.place = .away (some (.ended false)) ∨ l.place = .away none)
  /-- It is given up after the last retry. -/
  abandoned : l.place = .abandoned → l.failures = maxRetries + 1
  failures : l.place ≠ .abandoned → l.failures ≤ maxRetries

variable {maxRetries : Nat} {l l' : Letter}

theorem Sound.start (maxRetries : Nat) : Sound maxRetries {} where
  taken h := by cases h
  delivered h := by rcases h with h | h <;> cases h
  refused := .inl le_rfl
  abandoned h := by cases h
  failures _ := Nat.zero_le _

/-- A message without a verdict was not taken, and its failures are reported. -/
theorem Sound.untaken (h : Sound maxRetries l) (hp : l.place = .waiting ∨
    l.place = .away (some .handed) ∨ l.place = .away (some .found)) :
    l.taken = false ∧ l.refused ≤ l.failures ∧ l.failures ≤ maxRetries := by
  refine ⟨Bool.eq_false_iff.mpr fun htaken ↦ ?_, ?_, h.failures ?_⟩
  · rcases h.taken htaken with h' | h' | h' <;> simp [h'] at hp
  · rcases h.refused with hle | ⟨-, -, h' | h'⟩
    · exact hle
    · simp [h'] at hp
    · simp [h'] at hp
  · rcases hp with h' | h' | h' <;> simp [h']

/-- Such a message may be where it does not count as taken. -/
theorem Sound.of_untaken (h : l.taken = false ∧ l.refused ≤ l.failures ∧ l.failures ≤ maxRetries)
    {place : Place} (hdone : place ≠ .delivered ∧ place ≠ .away (some (.ended true)))
    (habandoned : place ≠ .abandoned) : Sound maxRetries { l with place := place } where
  taken htaken := absurd (h.1.symm.trans htaken) (by decide)
  delivered hp := hp.elim (absurd · hdone.1) (absurd · hdone.2)
  refused := .inl h.2.1
  abandoned hp := absurd hp habandoned
  failures _ := h.2.2

/-- A failure that is to be reported was no success. -/
theorem Sound.failed (h : Sound maxRetries l) (hp : l.place = .away (some (.ended false))) :
    l.taken = false ∧ l.refused ≤ l.failures + 1 ∧ l.failures ≤ maxRetries := by
  refine ⟨Bool.eq_false_iff.mpr fun htaken ↦ ?_, ?_, h.failures (by simp [hp])⟩
  · rcases h.taken htaken with h' | h' | h' <;> simp [h'] at hp
  · rcases h.refused with hle | ⟨heq, -⟩
    · exact Nat.le_succ_of_le hle
    · exact heq.le

/-- Every move keeps it so. -/
theorem Sound.move (h : Sound maxRetries l) (hm : Moves maxRetries l l') : Sound maxRetries l' := by
  cases hm with
  | hand hp => exact .of_untaken (h.untaken (.inl hp)) (by simp) (by simp)
  | find hp => exact .of_untaken (h.untaken (.inr (.inl hp))) (by simp) (by simp)
  | miss hp => exact .of_untaken (h.untaken (.inr (.inl hp))) (by simp) (by simp)
  | withdraw hp => exact .of_untaken (h.untaken (.inl hp)) (by simp) (by simp)
  | take hp =>
      obtain ⟨-, hrefused, hfew⟩ := h.untaken (.inr (.inr hp))
      exact ⟨fun _ ↦ .inr (.inl rfl), fun _ ↦ rfl, .inl hrefused, nofun, fun _ ↦ hfew⟩
  | refuse hp =>
      obtain ⟨htaken, hrefused, hfew⟩ := h.untaken (.inr (.inr hp))
      refine ⟨fun ht ↦ absurd (htaken.symm.trans ht) (by decide), by simp, ?_, nofun, fun _ ↦ hfew⟩
      rcases Nat.lt_or_eq_of_le hrefused with hlt | heq
      · exact .inl hlt
      · exact .inr ⟨congrArg (· + 1) heq, htaken, .inl rfl⟩
  | deliver hp =>
      have htaken := h.delivered (.inr hp)
      have hrefused : l.refused ≤ l.failures := by
        rcases h.refused with hle | ⟨-, hfalse, -⟩
        · exact hle
        · exact absurd (hfalse.symm.trans htaken) (by decide)
      exact ⟨fun _ ↦ .inl rfl, fun _ ↦ htaken, .inl hrefused, nofun,
        fun _ ↦ h.failures (by simp [hp])⟩
  | retry hp hlt =>
      obtain ⟨htaken, hrefused, -⟩ := h.failed hp
      exact .of_untaken (l := { l with failures := l.failures + 1 }) ⟨htaken, hrefused, hlt⟩
        (by simp) (by simp)
  | abandon hp hle =>
      obtain ⟨htaken, hrefused, hfew⟩ := h.failed hp
      exact ⟨fun ht ↦ absurd (htaken.symm.trans ht) (by decide), by simp, .inl hrefused,
        fun _ ↦ congrArg (· + 1) (le_antisymm hfew hle), fun hne ↦ absurd rfl hne⟩
  | stop hp =>
      refine ⟨fun _ ↦ .inr (.inr rfl), by simp, ?_, nofun, fun _ ↦ h.failures (by simp [hp])⟩
      rcases h.refused with hle | ⟨heq, htaken, -⟩
      · exact .inl hle
      · exact .inr ⟨heq, htaken, .inr rfl⟩

/-- It is so however the message comes. -/
theorem Comes.sound (h : Comes maxRetries l) : Sound maxRetries l := by
  induction h with
  | refl => exact .start maxRetries
  | tail _ hm ih => exact ih.move hm

/-- A message is sent at most once more than it has retries. -/
theorem Sound.sends_le (h : Sound maxRetries l) : l.refused + l.taken.toNat ≤ maxRetries + 1 := by
  have hfew : l.failures ≤ maxRetries + 1 := by
    by_cases hp : l.place = .abandoned
    · exact (h.abandoned hp).le
    · exact Nat.le_succ_of_le (h.failures hp)
  rcases h.refused with hle | ⟨heq, htaken, hp⟩
  · cases htaken : l.taken with
    | false => exact hle.trans hfew
    | true =>
        have hplace : l.place ≠ .abandoned := by
          rcases h.taken htaken with hp | hp | hp <;> simp [hp]
        exact Nat.succ_le_succ (hle.trans (h.failures hplace))
  · have hplace : l.place ≠ .abandoned := by
      rcases hp with hp | hp <;> simp [hp]
    rw [heq, htaken]
    exact Nat.succ_le_succ (h.failures hplace)

end Letter

end SemanticBus
