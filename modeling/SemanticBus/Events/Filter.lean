import SemanticBus.Events.Stream

/-!
# Event filters

A filter is a conjunction of criteria, most of them optional collections.  Its
docstring lets an empty collection match any event, like `None`; the code tests
for `None` alone, so an empty collection matches nothing.

`Admits` is the documented meaning.  `matches_iff` says that the code adds to it
that no collection is empty, and `EventFilter.matches_iff_admits_iff` where the
two agree.
-/

universe u

namespace SemanticBus

section Criterion

variable {α : Type u} {c c' : Option (List α)} {P : α → Prop}

/-- An absent or empty collection is met by everything, another one by what one of its
elements accepts. -/
def Meets (c : Option (List α)) (P : α → Prop) : Prop :=
  ∀ l, c = some l → l ≠ [] → ∃ a ∈ l, P a

/-- A collection with elements is replaced by a larger one, or nothing changes. -/
def Enlarges (c c' : Option (List α)) : Prop :=
  c' = c ∨ ∃ l l', c = some l ∧ c' = some l' ∧ l ≠ [] ∧ l ⊆ l'

/-- Testing for `None` alone is to reject an empty collection. -/
theorem all_eq_true_iff {test : List α → Bool} (htest : ∀ l, test l = true ↔ ∃ a ∈ l, P a) :
    c.all test = true ↔ Meets c P ∧ c ≠ some [] := by
  cases c with
  | none => simp [Meets]
  | some l =>
      rw [Option.all_some, htest]
      constructor
      · intro h
        refine ⟨?_, ?_⟩
        · rintro _ ⟨⟩ -
          exact h
        · rintro ⟨⟩
          obtain ⟨a, ha, -⟩ := h
          exact List.not_mem_nil ha
      · rintro ⟨hmeets, hne⟩
        exact hmeets l rfl fun hl ↦ hne (congrArg some hl)

theorem Enlarges.all (h : Enlarges c c') {test : List α → Bool}
    (htest : ∀ l, test l = true ↔ ∃ a ∈ l, P a) (hall : c.all test = true) :
    c'.all test = true := by
  rcases h with rfl | ⟨l, l', rfl, rfl, -, hsub⟩
  · exact hall
  · obtain ⟨a, ha, hP⟩ := (htest l).mp hall
    exact (htest l').mpr ⟨a, hsub ha, hP⟩

end Criterion

namespace EventFilter

variable {filter wider : EventFilter} {event : BaseEvent}

structure Admits (filter : EventFilter) (event : BaseEvent) : Prop where
  session : Meets filter.sessionIds (· = event.sessionId)
  exec : Meets filter.execIds (event.execId = some ·)
  type : Meets filter.eventTypes (· = event.eventType)
  typePrefix : Meets filter.eventTypePrefixes (·.toList <+: event.eventType.value.toList)
  severity : filter.minSeverity.rank ≤ event.severity.rank
  source : Meets filter.sourceAgentIds (event.sourceAgentId = some ·)
  tenant : Meets filter.tenantIds (· = event.tenantId)

/-- No criterion is an empty collection. -/
structure NoEmpty (filter : EventFilter) : Prop where
  session : filter.sessionIds ≠ some []
  exec : filter.execIds ≠ some []
  type : filter.eventTypes ≠ some []
  typePrefix : filter.eventTypePrefixes ≠ some []
  source : filter.sourceAgentIds ≠ some []
  tenant : filter.tenantIds ≠ some []

/-- Elements are added to collections that have some. -/
structure Widens (filter wider : EventFilter) : Prop where
  session : Enlarges filter.sessionIds wider.sessionIds
  exec : Enlarges filter.execIds wider.execIds
  type : Enlarges filter.eventTypes wider.eventTypes
  typePrefix : Enlarges filter.eventTypePrefixes wider.eventTypePrefixes
  severity : wider.minSeverity = filter.minSeverity
  source : Enlarges filter.sourceAgentIds wider.sourceAgentIds
  tenant : Enlarges filter.tenantIds wider.tenantIds

/-! ## The tests of the code -/

theorem mem_test_iff {α : Type u} [DecidableEq α] {a : α} (l : List α) :
    decide (a ∈ l) = true ↔ ∃ b ∈ l, b = a := by
  rw [decide_eq_true_eq, exists_eq_right]

theorem any_test_iff {α : Type u} [DecidableEq α] {o : Option α} (l : List α) :
    o.any (· ∈ l) = true ↔ ∃ b ∈ l, o = some b := by
  cases o with
  | none => simp only [Option.any_none, Bool.false_eq_true, reduceCtorEq, and_false, exists_false]
  | some a => simp only [Option.any_some, decide_eq_true_eq, Option.some.injEq, exists_eq_right']

theorem startsWith_test_iff {text : String} (l : List String) :
    l.any (text.startsWith ·) = true ↔ ∃ p ∈ l, p.toList <+: text.toList := by
  simp only [List.any_eq_true, String.startsWith_string_iff]

/-- The code adds to the documented meaning that no collection is empty. -/
theorem matches_iff : filter.matches event = true ↔ filter.Admits event ∧ filter.NoEmpty := by
  simp only [EventFilter.matches, Bool.and_eq_true, decide_eq_true_eq,
    all_eq_true_iff mem_test_iff, all_eq_true_iff any_test_iff, all_eq_true_iff startsWith_test_iff]
  constructor
  · rintro ⟨⟨⟨⟨⟨⟨⟨hs, hs'⟩, ⟨he, he'⟩⟩, ⟨ht, ht'⟩⟩, ⟨hp, hp'⟩⟩, hseverity⟩, ⟨ha, ha'⟩⟩, ⟨hn, hn'⟩⟩
    exact ⟨⟨hs, he, ht, hp, hseverity, ha, hn⟩, ⟨hs', he', ht', hp', ha', hn'⟩⟩
  · rintro ⟨⟨hs, he, ht, hp, hseverity, ha, hn⟩, ⟨hs', he', ht', hp', ha', hn'⟩⟩
    exact ⟨⟨⟨⟨⟨⟨⟨hs, hs'⟩, ⟨he, he'⟩⟩, ⟨ht, ht'⟩⟩, ⟨hp, hp'⟩⟩, hseverity⟩, ⟨ha, ha'⟩⟩, ⟨hn, hn'⟩⟩

/-- Adding elements to collections that have some keeps every match. -/
theorem Widens.matches (h : filter.Widens wider) (hmatches : filter.matches event = true) :
    wider.matches event = true := by
  simp only [EventFilter.matches, Bool.and_eq_true, decide_eq_true_eq] at hmatches ⊢
  obtain ⟨⟨⟨⟨⟨⟨hs, he⟩, ht⟩, hp⟩, hseverity⟩, ha⟩, hn⟩ := hmatches
  exact ⟨⟨⟨⟨⟨⟨h.session.all mem_test_iff hs, h.exec.all any_test_iff he⟩,
    h.type.all mem_test_iff ht⟩, h.typePrefix.all startsWith_test_iff hp⟩,
    h.severity ▸ hseverity⟩, h.source.all any_test_iff ha⟩, h.tenant.all mem_test_iff hn⟩

/-- A filter matches as documented, and keeps its matches when it is enlarged, just
when it has no empty collection, unless the event fails another criterion. -/
theorem matches_iff_admits_iff (filter : EventFilter) (event : BaseEvent) :
    ((filter.matches event = true ↔ filter.Admits event) ∧
      ∀ wider, filter.Widens wider → filter.matches event = true → wider.matches event = true) ↔
        filter.NoEmpty ∨ ¬ filter.Admits event := by
  rw [and_iff_left fun wider h ↦ h.matches, matches_iff]
  tauto

/-- A filter with an empty set of sessions matches no event of any session. -/
theorem not_matches_of_empty : ¬ ∀ (filter : EventFilter) (event : BaseEvent),
    (filter.matches event = true ↔ filter.Admits event) ∧
      ∀ wider, filter.Widens wider → filter.matches event = true →
        wider.matches event = true := by
  intro h
  let filter : EventFilter := { sessionIds := some [] }
  let event : BaseEvent :=
    { eventType := .flowStarted, sessionId := ⟨1⟩, tenantId := "acme", message := "" }
  have hadmits : filter.Admits event :=
    { session := by rintro _ ⟨⟩ hne; exact absurd rfl hne
      exec := by rintro _ ⟨⟩
      type := by rintro _ ⟨⟩
      typePrefix := by rintro _ ⟨⟩
      severity := by decide
      source := by rintro _ ⟨⟩
      tenant := by rintro _ ⟨⟩ }
  have hmatches := (h filter event).1.mpr hadmits
  cases hmatches

end EventFilter

end SemanticBus
