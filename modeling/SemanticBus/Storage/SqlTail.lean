import SemanticBus.Storage.Tail

/-!
# The tail of the trace over SQL

Over SQL the tail asks for one row more than it returns.  It is the tail of all events, while
the one in memory is of those that the index leads to: the two adapters agree exactly if no
event before those matches, or if more of those match than are asked for (`tails_same_iff`).
-/

namespace SemanticBus

open InMemoryTraceStore

/-- The last events of a session or of an execution, and whether there are more. -/
def SqlAlchemyTraceStore.tail (store : SqlAlchemyTraceStore) (sessionId : Option UUID)
    (execId : Option String) (limit : Nat) : List TraceRecord × Bool :=
  let events := store.select (conditions (tailFilters sessionId execId)) (limit + 1)
  ((events.take limit).reverse, limit < events.length)

/-- How many of the events that were appended last a tail in memory is of: those in the store, or
with a filter those since some were dropped. -/
def foundSince (maxEvents : Nat) (records : List TraceRecord) (sessionId : Option UUID)
    (execId : Option String) : Nat :=
  let x := after maxEvents records
  if sessionId = none ∧ nonempty execId = none then x.1.events.length
  else x.1.events.length - x.2

variable {records : List TraceRecord} {sessionId : Option UUID} {execId : Option String}
  {limit : Nat}

theorem mostRecent_length (limit : Nat) (events : List TraceRecord) :
    (mostRecent limit events).length = min limit events.length := by
  rw [mostRecent, List.length_drop]
  omega

/-- The last events are the last ones of one more. -/
theorem mostRecent_succ (limit : Nat) (events : List TraceRecord) :
    ((mostRecent (limit + 1) events).reverse.take limit).reverse = mostRecent limit events := by
  rw [List.take_reverse, List.reverse_reverse, mostRecent_length, mostRecent, mostRecent,
    List.drop_drop]
  congr 1
  omega

/-- Over SQL the tail is that of all events. -/
theorem SqlAlchemyTraceStore.tail_eq {store : SqlAlchemyTraceStore}
    (h : store.rows.Pairwise fun a b ↦ a.timestamp < b.timestamp) :
    let events := (tailFilters sessionId execId).matching store.rows
    store.tail sessionId execId limit = (mostRecent limit events, decide (limit < events.length)) := by
  intro events
  have hselect : store.select (conditions (tailFilters sessionId execId)) (limit + 1)
      = (mostRecent (limit + 1) events).reverse := by
    rw [← query_eq h, query, List.reverse_reverse]
  rw [tail, hselect, mostRecent_succ, List.length_reverse, mostRecent_length, Prod.mk.injEq,
    decide_eq_decide]
  exact ⟨rfl, by omega⟩

/-- The store in memory has the last events that were appended. -/
theorem InMemoryTraceStore.events_suffix (maxEvents : Nat) (records : List TraceRecord) :
    (after maxEvents records).1.events <:+ records := by
  induction records using List.reverseRecOn with
  | nil => exact List.suffix_rfl
  | append_singleton records record ih =>
      obtain ⟨dropped, hdropped⟩ := ih
      have happended : (after maxEvents records).1.events ++ [record] <:+ records ++ [record] :=
        ⟨dropped, by rw [← List.append_assoc, hdropped]⟩
      rw [after_snoc, appendNoted, append]
      dsimp only
      split
      · exact (List.drop_suffix _ _).trans happended
      · exact happended

/-- The index leads to the last of the matching events. -/
theorem InMemoryTraceStore.tailed_eq (maxEvents : Nat) (records : List TraceRecord)
    (sessionId : Option UUID) (execId : Option String) :
    tailed (after maxEvents records) sessionId execId = (tailFilters sessionId execId).matching
      (records.drop (records.length - foundSince maxEvents records sessionId execId)) := by
  obtain ⟨dropped, hdropped⟩ := events_suffix maxEvents records
  have hold := (indexed_after maxEvents records).old_le
  have hlength := congrArg List.length hdropped
  rw [List.length_append] at hlength
  have hdrop : ∀ n, records.drop (dropped.length + n)
      = (after maxEvents records).1.events.drop n := by
    intro n
    conv_lhs => rw [← hdropped]
    rw [← List.drop_drop, List.drop_left]
  rw [tailed, foundSince]
  congr 1
  split
  · rw [show records.length - (after maxEvents records).1.events.length = dropped.length + 0 by omega,
      hdrop, List.drop_zero]
  · rw [show records.length - ((after maxEvents records).1.events.length
        - (after maxEvents records).2) = dropped.length + (after maxEvents records).2 by omega, hdrop]

/-- Both adapters, given the same events in the order of time, return the same tail and the same
word on whether there are more, exactly if none of the events matches that the one in memory
does not find, or more match of the others than are asked for. -/
theorem tails_same_iff (maxEvents : Nat) {sql : SqlAlchemyTraceStore}
    (htime : records.Pairwise fun a b ↦ a.timestamp < b.timestamp)
    (hsql : records.foldlM SqlAlchemyTraceStore.append {} = some sql) (hlimit : 1 ≤ limit) :
    let memory := records.foldl InMemoryTraceStore.append { maxEvents := maxEvents }
    let lost := records.length - foundSince maxEvents records sessionId execId
    let filters : TraceFilters := { sessionId := sessionId, execId := execId }
    memory.tail sessionId execId limit = sql.tail sessionId execId limit ↔
      filters.matching (records.take lost) = [] ∨
        limit < (filters.matching (records.drop lost)).length := by
  intro memory lost filters
  have hrows : sql.rows = records :=
    (SqlAlchemyTraceStore.rows_foldlM hsql).trans (List.nil_append _)
  have hmemory : memory.tail sessionId execId limit
      = (mostRecent limit (filters.matching (records.drop lost)),
        decide (limit < (filters.matching (records.drop lost)).length)) := by
    have htail := InMemoryTraceStore.tail_eq (indexed_after maxEvents records) sessionId execId limit
    rw [after_fst, tailed_eq, sliceFrom_neg_of_pos _ (by omega)] at htail
    rw [htail, Prod.mk.injEq, decide_eq_decide, Int.toNat_natCast, Nat.cast_lt]
    exact ⟨rfl, Iff.rfl⟩
  have hsplit : filters.matching records
      = filters.matching (records.take lost) ++ filters.matching (records.drop lost) := by
    rw [TraceFilters.matching, TraceFilters.matching, TraceFilters.matching, ← List.filter_append,
      List.take_append_drop]
  have hall : sql.tail sessionId execId limit = (mostRecent limit (filters.matching records),
      decide (limit < (filters.matching records).length)) := by
    rw [SqlAlchemyTraceStore.tail_eq (hrows ▸ htime), hrows]
    rfl
  rw [hmemory, hall, hsplit]
  exact mostRecent_append_iff hlimit

/-- The last event of a session. -/
theorem tails_same_sample :
    let records := [sampleTrace 1 ⟨1⟩, sampleTrace 2 ⟨2⟩]
    let memory := records.foldl InMemoryTraceStore.append { maxEvents := 10 }
    memory.tail (some ⟨100⟩) none 1
      = SqlAlchemyTraceStore.tail { rows := records } (some ⟨100⟩) none 1 :=
  (tails_same_iff 10 (by decide) rfl (by decide)).mpr (.inl rfl)

end SemanticBus
