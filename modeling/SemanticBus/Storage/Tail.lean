import SemanticBus.Storage.Trace
import SemanticBus.Trace.Store

/-!
# The tail of the trace in memory

The tail of a session or of an execution is looked up in an index of positions, which
is cleared when the oldest events are dropped, and never rebuilt: the events that were
there before are kept but not found.  The tail is that of the scan exactly if none of
those matches, or more match since than are asked for (`tail_iff`).
-/

namespace SemanticBus

namespace InMemoryTraceStore

/-- The events of a session or of an execution that the index leads to. -/
def lookedUp (store : InMemoryTraceStore) (sessionId : Option UUID) (execId : Option String) :
    List TraceRecord :=
  match sessionId, nonempty execId with
  | some sessionId, none =>
      ((store.bySession.get? sessionId).getD []).filterMap (store.events[·]?)
  | some sessionId, some execId =>
      (((store.bySession.get? sessionId).getD []).filterMap (store.events[·]?)).filter
        (·.execId = some execId)
  | none, some execId => ((store.byExec.get? execId).getD []).filterMap (store.events[·]?)
  | none, none => store.events

/-- The last events of a session or of an execution, and whether there are more. -/
def tail (store : InMemoryTraceStore) (sessionId : Option UUID) (execId : Option String)
    (limit : Int) : List TraceRecord × Bool :=
  let events := store.lookedUp sessionId execId
  (sliceFrom events (-limit), limit < events.length)

/-- Append an event, and note how many events were left when some were dropped last. -/
def appendNoted (x : InMemoryTraceStore × Nat) (record : TraceRecord) : InMemoryTraceStore × Nat :=
  (x.1.append record,
    if x.1.maxEvents < x.1.events.length + 1 then (x.1.append record).events.length else x.2)

/-- A store after some events, with the number of those that it kept when it last dropped some. -/
def after (maxEvents : Nat) (records : List TraceRecord) : InMemoryTraceStore × Nat :=
  records.foldl appendNoted ({ maxEvents := maxEvents }, 0)

theorem after_snoc (maxEvents : Nat) (records : List TraceRecord) (record : TraceRecord) :
    after maxEvents (records ++ [record]) = appendNoted (after maxEvents records) record := by
  rw [after, List.foldl_append]
  rfl

theorem after_fst (maxEvents : Nat) (records : List TraceRecord) :
    (after maxEvents records).1 = records.foldl append { maxEvents := maxEvents } := by
  induction records using List.reverseRecOn with
  | nil => rfl
  | append_singleton records record ih =>
      rw [after_snoc, List.foldl_append, ← ih]
      rfl

/-- Positions lead to the events from one on that have a property. -/
def Leads (events : List TraceRecord) (old : Nat) (p : TraceRecord → Bool) (indices : List Nat) :
    Prop :=
  indices.map (events[·]?) = ((events.drop old).filter p).map some

/-- The positions in the index are those of the events since some were dropped last. -/
structure Indexed (x : InMemoryTraceStore × Nat) : Prop where
  old_le : x.2 ≤ x.1.events.length
  session : ∀ sessionId, Leads x.1.events x.2 (·.ephemeralInterfaceId = some sessionId)
    ((x.1.bySession.get? sessionId).getD [])
  exec : ∀ execId, execId ≠ "" → Leads x.1.events x.2 (·.execId = some execId)
    ((x.1.byExec.get? execId).getD [])

variable {events : List TraceRecord} {old : Nat} {p : TraceRecord → Bool} {indices : List Nat}
  {record : TraceRecord} {x : InMemoryTraceStore × Nat}

theorem Leads.filterMap (h : Leads events old p indices) :
    indices.filterMap (events[·]?) = (events.drop old).filter p :=
  calc indices.filterMap (events[·]?)
      = (indices.map (events[·]?)).filterMap id := by
          rw [List.filterMap_map]
          rfl
    _ = (((events.drop old).filter p).map some).filterMap id := by rw [show _ = _ from h]
    _ = (events.drop old).filter p := by
          rw [List.filterMap_map]
          exact List.filterMap_some

/-- No event comes after the last one. -/
theorem leads_nil (events : List TraceRecord) (p : TraceRecord → Bool) :
    Leads events events.length p [] := by
  rw [Leads, List.drop_length]
  rfl

/-- An event with the property at the next position, or one without. -/
theorem Leads.snoc (h : Leads events old p indices) (hold : old ≤ events.length) :
    Leads (events ++ [record]) old p
      (if p record then indices ++ [events.length] else indices) := by
  have hsame : indices.map ((events ++ [record])[·]?) = indices.map (events[·]?) := by
    refine List.map_congr_left fun i hi ↦ ?_
    have hmem : events[i]? ∈ ((events.drop old).filter p).map some :=
      h ▸ List.mem_map_of_mem hi
    obtain ⟨found, -, hfound⟩ := List.mem_map.mp hmem
    exact List.getElem?_append_left (List.getElem?_eq_some_iff.mp hfound.symm).1
  rw [Leads, List.drop_append_of_le_length hold, List.filter_append, List.map_append, ← h, ← hsame]
  split
  · rename_i hp
    rw [List.map_append, List.map_singleton, List.getElem?_concat_length,
      List.filter_cons_of_pos hp]
    rfl
  · rename_i hp
    rw [List.filter_cons_of_neg hp, List.filter_nil, List.map_nil, List.append_nil]

/-- An index with one more position, under a key if there is one. -/
def addIndex {κ : Type*} [DecidableEq κ] (d : Dict κ (List Nat)) (i : Nat) :
    Option κ → Dict κ (List Nat)
  | none => d
  | some key => d.insert key ((d.get? key).getD [] ++ [i])

theorem get?_addIndex {κ : Type*} [DecidableEq κ] (d : Dict κ (List Nat)) (i : Nat)
    (key : Option κ) (k : κ) :
    ((addIndex d i key).get? k).getD []
      = if decide (key = some k) then (d.get? k).getD [] ++ [i] else (d.get? k).getD [] := by
  cases key with
  | none => rfl
  | some key =>
      rw [addIndex, Dict.get?_insert]
      by_cases hkey : k = key
      · rw [if_pos hkey, decide_eq_true (congrArg some hkey.symm), if_pos rfl, hkey]
        rfl
      · rw [if_neg hkey, decide_eq_false fun heq ↦ hkey (Option.some.inj heq).symm,
          if_neg Bool.false_ne_true]

theorem Indexed.step (h : Indexed x) (record : TraceRecord) : Indexed (appendNoted x record) := by
  obtain ⟨store, old⟩ := x
  rw [appendNoted, append]
  dsimp only
  rw [List.length_append, List.length_singleton]
  by_cases hfull : store.maxEvents < store.events.length + 1
  · -- the index is cleared
    rw [if_pos hfull, if_pos hfull]
    exact ⟨le_rfl, fun _ ↦ leads_nil _ _, fun _ _ ↦ leads_nil _ _⟩
  · rw [if_neg hfull, if_neg hfull]
    have hold : old ≤ store.events.length := h.old_le
    refine ⟨?_, fun sessionId ↦ ?_, fun execId hne ↦ ?_⟩
    · show old ≤ (store.events ++ [record]).length
      rw [List.length_append]
      exact hold.trans (Nat.le_add_right _ _)
    · have hsnoc := @Leads.snoc _ _ _ _ record (h.session sessionId) hold
      rw [← get?_addIndex] at hsnoc
      cases hkey : record.ephemeralInterfaceId with
      | none | some key =>
        rw [hkey] at hsnoc
        exact hsnoc
    · have hsnoc := @Leads.snoc _ _ _ _ record (h.exec execId hne) hold
      have hkey : decide (record.execId = some execId)
          = decide (nonempty record.execId = some execId) := by
        refine decide_eq_decide.mpr ?_
        cases record.execId with
        | none => rfl
        | some key =>
            by_cases hempty : key = ""
            · rw [hempty]
              exact ⟨fun heq ↦ absurd (Option.some.inj heq).symm hne, fun heq ↦ by cases heq⟩
            · have hkey : nonempty (some key) = some key := by simp [nonempty, hempty]
              rw [hkey]
      rw [hkey, ← get?_addIndex] at hsnoc
      cases hexec : nonempty record.execId with
      | none | some key =>
        rw [hexec] at hsnoc
        exact hsnoc

theorem indexed_after (maxEvents : Nat) (records : List TraceRecord) :
    Indexed (after maxEvents records) := by
  induction records using List.reverseRecOn with
  | nil => exact ⟨le_rfl, fun _ ↦ leads_nil [] _, fun _ _ ↦ leads_nil [] _⟩
  | append_singleton records record ih =>
      rw [after_snoc]
      exact ih.step record

/-! ## The tail and the scan -/

def tailFilters (sessionId : Option UUID) (execId : Option String) : TraceFilters :=
  { sessionId := sessionId, execId := execId }

theorem skips_tailFilters (sessionId : Option UUID) (execId : Option String)
    (event : TraceRecord) : skips (tailFilters sessionId execId) event
      = (sessionId.any (event.ephemeralInterfaceId ≠ some ·)
        || (nonempty execId).any (event.execId ≠ some ·)) := by
  rw [skips]
  show (false || _ || _ || false || false || false) = _
  rw [Bool.false_or, Bool.or_false, Bool.or_false, Bool.or_false]
  rfl

/-- The events that a tail is of: without filters all of them, with filters those since some were
dropped last. -/
def tailed (x : InMemoryTraceStore × Nat) (sessionId : Option UUID) (execId : Option String) :
    List TraceRecord :=
  (tailFilters sessionId execId).matching
    (if sessionId = none ∧ nonempty execId = none then x.1.events else x.1.events.drop x.2)

theorem lookedUp_eq (h : Indexed x) (sessionId : Option UUID) (execId : Option String) :
    x.1.lookedUp sessionId execId = tailed x sessionId execId := by
  have hne : ∀ e, nonempty execId = some e → e ≠ "" := by
    intro e he
    exact of_decide_eq_true (Option.filter_eq_some_iff.mp he).2
  have htailed : ∀ events p, (∀ event, p event = !skips (tailFilters sessionId execId) event) →
      (tailFilters sessionId execId).matching events = events.filter p := by
    intro events p hp
    rw [TraceFilters.matching]
    exact List.filter_congr fun event _ ↦ (hp event).symm
  have hskips := skips_tailFilters sessionId execId
  unfold lookedUp tailed
  cases sessionId with
  | none =>
      cases hexec : nonempty execId with
      | none =>
          rw [hexec] at hskips
          rw [if_pos ⟨rfl, rfl⟩]
          rw [htailed _ (fun _ ↦ true) fun event ↦ by rw [hskips]; rfl]
          exact (List.filter_eq_self.mpr fun _ _ ↦ rfl).symm
      | some e =>
          rw [hexec] at hskips
          rw [if_neg fun hnone ↦ Option.some_ne_none e hnone.2]
          rw [htailed _ (·.execId = some e) fun event ↦ by rw [hskips]; simp]
          exact (h.exec e (hne e hexec)).filterMap
  | some s =>
      rw [if_neg fun hnone ↦ Option.some_ne_none s hnone.1]
      cases hexec : nonempty execId with
      | none =>
          rw [hexec] at hskips
          rw [htailed _ (·.ephemeralInterfaceId = some s) fun event ↦ by rw [hskips]; simp]
          exact (h.session s).filterMap
      | some e =>
          rw [hexec] at hskips
          dsimp only
          rw [(h.session s).filterMap, List.filter_filter, htailed _ fun event ↦
            decide (event.execId = some e) && decide (event.ephemeralInterfaceId = some s)]
          intro event
          rw [hskips]
          simp [Bool.and_comm]

theorem tail_eq (h : Indexed x) (sessionId : Option UUID) (execId : Option String) (limit : Int) :
    x.1.tail sessionId execId limit = (sliceFrom (tailed x sessionId execId) (-limit),
      decide (limit < (tailed x sessionId execId).length)) := by
  rw [← lookedUp_eq h]
  rfl

/-- The last of some events, and of more of them. -/
theorem mostRecent_append_iff {old new : List TraceRecord} {limit : Nat} (hlimit : 1 ≤ limit) :
    (mostRecent limit new, decide (limit < new.length))
        = (mostRecent limit (old ++ new), decide (limit < (old ++ new).length)) ↔
      old = [] ∨ limit < new.length := by
  rw [Prod.mk.injEq, decide_eq_decide, List.length_append]
  constructor
  · rintro ⟨hevents, hmore⟩
    have hlength := congrArg List.length hevents
    rw [mostRecent, mostRecent, List.length_drop, List.length_drop, List.length_append] at hlength
    rw [← List.length_eq_zero_iff]
    omega
  · rintro (rfl | hlt)
    · rw [List.nil_append, List.length_nil, Nat.zero_add]
      exact ⟨rfl, Iff.rfl⟩
    · refine ⟨?_, by omega⟩
      have hold : old.drop (old.length + new.length - limit) = [] :=
        List.drop_eq_nil_of_le (by omega)
      rw [mostRecent, mostRecent, List.length_append, List.drop_append, hold, List.nil_append]
      congr 1
      omega

/-- After any events the tail of a session or an execution, and whether there are more, is that of
the scan of all events exactly if neither is given, or none matches of the events that were there
when some were dropped last, or more than the limit match since. -/
theorem tail_iff (maxEvents : Nat) (records : List TraceRecord) (sessionId : Option UUID)
    (execId : Option String) {limit : Int} (hlimit : 1 ≤ limit) :
    let store := records.foldl append { maxEvents := maxEvents }
    let old := (after maxEvents records).2
    let filters : TraceFilters := { sessionId := sessionId, execId := execId }
    store.tail sessionId execId limit = (mostRecent limit.toNat (filters.matching store.events),
        decide (limit < (filters.matching store.events).length)) ↔
      sessionId = none ∧ nonempty execId = none ∨ filters.matching (store.events.take old) = [] ∨
        limit < (filters.matching (store.events.drop old)).length := by
  intro store old filters
  have hstore : (after maxEvents records).1 = store := after_fst maxEvents records
  have htail := tail_eq (indexed_after maxEvents records) sessionId execId limit
  have hlast : ∀ events : List TraceRecord,
      (sliceFrom events (-limit), decide (limit < events.length))
        = (mostRecent limit.toNat events, decide (limit.toNat < events.length)) := by
    intro events
    rw [sliceFrom_neg_of_pos events (by omega), Prod.mk.injEq, decide_eq_decide]
    exact ⟨rfl, by omega⟩
  rw [hstore, hlast, tailed, hstore] at htail
  rw [htail, show decide (limit < (filters.matching store.events).length)
    = decide (limit.toNat < (filters.matching store.events).length) from
      decide_eq_decide.mpr (by omega)]
  by_cases hnone : sessionId = none ∧ nonempty execId = none
  · rw [if_pos hnone]
    exact iff_of_true rfl (.inl hnone)
  · rw [if_neg hnone, or_iff_right hnone]
    have hsplit : filters.matching store.events = filters.matching (store.events.take old)
        ++ filters.matching (store.events.drop old) := by
      rw [TraceFilters.matching, TraceFilters.matching, TraceFilters.matching, ← List.filter_append,
        List.take_append_drop]
    rw [hsplit]
    have hiff := @mostRecent_append_iff (filters.matching (store.events.take old))
      (filters.matching (store.events.drop old)) limit.toNat (by omega)
    refine hiff.trans (or_congr_right ?_)
    omega

/-- The last event of a session. -/
theorem tail_sample :
    let store := [sampleTrace 1 ⟨1⟩, sampleTrace 2 ⟨2⟩].foldl append { maxEvents := 10 }
    let old := (after 10 [sampleTrace 1 ⟨1⟩, sampleTrace 2 ⟨2⟩]).2
    let filters : TraceFilters := { sessionId := some ⟨100⟩, execId := none }
    store.tail (some ⟨100⟩) none 1 = (mostRecent (1 : Int).toNat (filters.matching store.events),
        decide ((1 : Int) < (filters.matching store.events).length)) ↔
      (some ⟨100⟩ : Option UUID) = none ∧ nonempty none = none ∨
        filters.matching (store.events.take old) = [] ∨
        (1 : Int) < (filters.matching (store.events.drop old)).length :=
  tail_iff 10 [sampleTrace 1 ⟨1⟩, sampleTrace 2 ⟨2⟩] (some ⟨100⟩) none (by decide)

/-- Eleven events of a session with a limit of ten: ten are kept, and none of them found. -/
theorem tail_forgets :
    ¬ ∀ maxEvents ≥ 10, ∀ (records : List TraceRecord) (sessionId : Option UUID)
      (execId : Option String) (limit : Int), 1 ≤ limit →
      let store := records.foldl append { maxEvents := maxEvents }
      let filters : TraceFilters := { sessionId := sessionId, execId := execId }
      store.tail sessionId execId limit = (mostRecent limit.toNat (filters.matching store.events),
        decide (limit < (filters.matching store.events).length)) := by
  intro h
  have hforgets := h 10 (by decide) (List.replicate 11 (sampleTrace 1 ⟨1⟩)) (some ⟨100⟩) none 1
    (by decide)
  have hmore := congrArg Prod.snd hforgets
  cases hmore

end InMemoryTraceStore

end SemanticBus
