import Mathlib.Data.List.Sort
import SemanticBus.Data.Dict
import SemanticBus.Storage.Ports

/-!
# The trace stores

Two adapters of the trace port.  The one in memory scans its events from the oldest
and stops at the limit, the one over SQL orders the matching rows from the newest and
cuts there: they give the same events exactly when no more match than the limit allows
(`query_eq_iff`).
-/

namespace SemanticBus

structure TraceFilters where
  tenantId : Option String := none
  sessionId : Option UUID := none
  execId : Option String := none
  eventType : Option String := none
  since : Option Time := none
  until_ : Option Time := none

/-- What a port promises of a query: the last matching events, oldest first. -/
def mostRecent (limit : Nat) (events : List TraceRecord) : List TraceRecord :=
  events.drop (events.length - limit)

/-! ## In memory -/

structure InMemoryTraceStore where
  maxEvents : Nat := 100000
  events : List TraceRecord := []
  /-- The positions of the events of a session. -/
  bySession : Dict UUID (List Nat) := ∅
  /-- The positions of the events of an execution. -/
  byExec : Dict String (List Nat) := ∅

namespace InMemoryTraceStore

/-- Append a trace event; over the limit the oldest tenth is dropped. -/
def append (store : InMemoryTraceStore) (record : TraceRecord) : InMemoryTraceStore :=
  let idx := store.events.length
  let store : InMemoryTraceStore :=
    { store with
      events := store.events ++ [record]
      bySession := match record.ephemeralInterfaceId with
        | none => store.bySession
        | some key =>
            store.bySession.insert key ((store.bySession.get? key).getD [] ++ [idx])
      byExec := match nonempty record.execId with
        | none => store.byExec
        | some key => store.byExec.insert key ((store.byExec.get? key).getD [] ++ [idx]) }
  if store.maxEvents < store.events.length then
    { store with
      events := store.events.drop (store.maxEvents / 10)
      bySession := ∅
      byExec := ∅ }
  else store

/-- Whether the scan of a query goes past an event. -/
def skips (filters : TraceFilters) (event : TraceRecord) : Bool :=
  (nonempty filters.tenantId).any (event.tenantId ≠ ·)
    || filters.sessionId.any (event.ephemeralInterfaceId ≠ some ·)
    || (nonempty filters.execId).any (event.execId ≠ some ·)
    || (nonempty filters.eventType).any (event.eventType ≠ ·)
    || filters.since.any (event.timestamp < ·)
    || filters.until_.any (· < event.timestamp)

/-- The scan of a query, with the results so far. -/
def scan (filters : TraceFilters) (limit : Nat) (results : List TraceRecord) :
    List TraceRecord → List TraceRecord
  | [] => results
  | event :: events =>
      if skips filters event then scan filters limit results events
      else if limit ≤ (results ++ [event]).length then results ++ [event]
      else scan filters limit (results ++ [event]) events

def query (store : InMemoryTraceStore) (filters : TraceFilters) (limit : Nat) :
    List TraceRecord := scan filters limit [] store.events

end InMemoryTraceStore

/-! ## Over SQL -/

/-- SQL trace storage: the rows of the table, in the order of insertion. -/
structure SqlAlchemyTraceStore where
  rows : List TraceRecord := []

namespace SqlAlchemyTraceStore

/-- Append a trace event; the primary key is the id of the event. -/
def append (store : SqlAlchemyTraceStore) (record : TraceRecord) : Option SqlAlchemyTraceStore :=
  if record.eventId ∈ store.rows.map TraceRecord.eventId then none
  else some { rows := store.rows ++ [record] }

/-- The conditions of a query; a comparison with `NULL` does not hold. -/
def conditions (filters : TraceFilters) : List (TraceRecord → Bool) :=
  ((nonempty filters.tenantId).map fun t (row : TraceRecord) ↦ decide (row.tenantId = t)).toList
    ++ (filters.sessionId.map fun s (row : TraceRecord) ↦
        decide (row.ephemeralInterfaceId = some s)).toList
    ++ ((nonempty filters.execId).map fun e (row : TraceRecord) ↦
        decide (row.execId = some e)).toList
    ++ ((nonempty filters.eventType).map fun t (row : TraceRecord) ↦
        decide (row.eventType = t)).toList
    ++ (filters.since.map fun t (row : TraceRecord) ↦ decide (t ≤ row.timestamp)).toList
    ++ (filters.until_.map fun t (row : TraceRecord) ↦ decide (row.timestamp ≤ t)).toList

/-- `SELECT .. WHERE .. ORDER BY timestamp DESC LIMIT ..`. -/
def select (store : SqlAlchemyTraceStore) (conditions : List (TraceRecord → Bool)) (limit : Nat) :
    List TraceRecord :=
  ((store.rows.filter fun row ↦ conditions.all (· row)).insertionSort
    fun a b ↦ b.timestamp ≤ a.timestamp).take limit

def query (store : SqlAlchemyTraceStore) (filters : TraceFilters) (limit : Nat) :
    List TraceRecord := (store.select (conditions filters) limit).reverse

end SqlAlchemyTraceStore

/-! ## What the queries return -/

variable {filters : TraceFilters} {limit : Nat} {records : List TraceRecord}

/-- The two adapters test events alike. -/
theorem conditions_eq_skips (filters : TraceFilters) (event : TraceRecord) :
    (SqlAlchemyTraceStore.conditions filters).all (· event)
      = !InMemoryTraceStore.skips filters event := by
  have key : ∀ {α : Type} (o : Option α) (p : α → TraceRecord → Bool) (q : α → Bool),
      (∀ a, p a event = !q a) → ((o.map p).toList.all (· event)) = !o.any q := by
    intro α o p q h
    cases o with
    | none => rfl
    | some a =>
        show (p a event && true) = !q a
        rw [Bool.and_true, h a]
  unfold SqlAlchemyTraceStore.conditions InMemoryTraceStore.skips
  rw [List.all_append, List.all_append, List.all_append, List.all_append, List.all_append]
  simp only [Bool.not_or]
  congr 1
  · congr 1
    · congr 1
      · congr 1
        · congr 1
          · exact key _ _ _ fun t ↦ by simp
          · exact key _ _ _ fun s ↦ by simp
        · exact key _ _ _ fun e ↦ by simp
      · exact key _ _ _ fun t ↦ by simp
    · exact key _ _ _ fun t ↦ by rw [← decide_not, decide_eq_decide, not_lt]
  · exact key _ _ _ fun t ↦ by rw [← decide_not, decide_eq_decide, not_lt]

def TraceFilters.matching (filters : TraceFilters) (events : List TraceRecord) :
    List TraceRecord := events.filter fun event ↦ !InMemoryTraceStore.skips filters event

namespace InMemoryTraceStore

/-- Below its limit the store keeps what it is given. -/
theorem events_foldl (store : InMemoryTraceStore) (records : List TraceRecord)
    (h : store.events.length + records.length ≤ store.maxEvents) :
    (records.foldl append store).events = store.events ++ records := by
  induction records generalizing store with
  | nil => exact (List.append_nil _).symm
  | cons record records ih =>
      have hroom : ¬ store.maxEvents < (store.events ++ [record]).length := by
        rw [List.length_append, List.length_singleton]
        rw [List.length_cons] at h
        omega
      have hevents : (store.append record).events = store.events ++ [record] := by
        unfold append
        dsimp only
        rw [if_neg hroom]
      have hmax : (store.append record).maxEvents = store.maxEvents := by
        unfold append
        dsimp only
        rw [if_neg hroom]
      rw [List.foldl_cons, ih (store.append record), hevents, List.append_assoc,
        List.singleton_append]
      rw [hevents, hmax, List.length_append, List.length_singleton]
      rw [List.length_cons] at h
      omega

/-- The scan stops at the limit, but not before the first match. -/
theorem scan_eq (results events : List TraceRecord) (h : results.length < max limit 1) :
    scan filters limit results events
      = results ++ (filters.matching events).take (max limit 1 - results.length) := by
  induction events generalizing results with
  | nil => rw [scan, TraceFilters.matching, List.filter_nil, List.take_nil, List.append_nil]
  | cons event events ih =>
      rw [scan, TraceFilters.matching]
      cases hskip : skips filters event with
      | true =>
          rw [if_pos rfl, List.filter_cons_of_neg (by rw [hskip]; decide)]
          exact ih results h
      | false =>
          rw [if_neg Bool.false_ne_true, List.filter_cons_of_pos (by rw [hskip]; rfl)]
          obtain ⟨n, hn⟩ : ∃ n, max limit 1 - results.length = n + 1 :=
            ⟨max limit 1 - results.length - 1, by omega⟩
          rw [hn, List.take_succ_cons]
          have hlen : (results ++ [event]).length = results.length + 1 := by
            rw [List.length_append, List.length_singleton]
          by_cases hfull : limit ≤ (results ++ [event]).length
          · have hzero : n = 0 := by omega
            rw [if_pos hfull, hzero, List.take_zero]
          · have hrest : max limit 1 - (results ++ [event]).length = n := by omega
            rw [if_neg hfull, ih (results ++ [event]) (by omega), hrest, List.append_assoc,
              List.singleton_append]
            rfl

end InMemoryTraceStore

namespace SqlAlchemyTraceStore

/-- The table holds the rows that it took. -/
theorem rows_foldlM {store store' : SqlAlchemyTraceStore}
    (h : records.foldlM append store = some store') : store'.rows = store.rows ++ records := by
  induction records generalizing store with
  | nil =>
      obtain rfl := Option.some.inj h
      exact (List.append_nil _).symm
  | cons record records ih =>
      rw [List.foldlM_cons] at h
      obtain ⟨mid, hmid, h⟩ := Option.bind_eq_some_iff.mp h
      rw [append] at hmid
      split at hmid
      · cases hmid
      · obtain rfl := Option.some.inj hmid
        rw [ih h, List.append_assoc, List.singleton_append]

/-- The newest rows, oldest first. -/
theorem query_eq {store : SqlAlchemyTraceStore}
    (h : store.rows.Pairwise fun a b ↦ a.timestamp < b.timestamp) :
    store.query filters limit = mostRecent limit (filters.matching store.rows) := by
  have hmatching : (store.rows.filter fun row ↦ (conditions filters).all (· row))
      = filters.matching store.rows := by
    rw [TraceFilters.matching]
    exact List.filter_congr fun row _ ↦ conditions_eq_skips filters row
  have hsorted : (filters.matching store.rows).Pairwise fun a b ↦ a.timestamp < b.timestamp :=
    h.sublist List.filter_sublist
  -- the reversed list is the only one that goes from the newest to the oldest
  have hunique : ∀ a ∈ filters.matching store.rows, ∀ b ∈ filters.matching store.rows,
      a.timestamp = b.timestamp → a = b := by
    intro a ha b hb heq
    obtain ⟨i, hi, rfl⟩ := List.mem_iff_getElem.mp ha
    obtain ⟨j, hj, rfl⟩ := List.mem_iff_getElem.mp hb
    rcases lt_trichotomy i j with hij | rfl | hij
    · exact absurd heq (List.pairwise_iff_getElem.mp hsorted i j hi hj hij).ne
    · rfl
    · exact absurd heq (List.pairwise_iff_getElem.mp hsorted j i hj hi hij).ne'
  have : Std.Total fun a b : TraceRecord ↦ b.timestamp ≤ a.timestamp :=
    ⟨fun a b ↦ le_total b.timestamp a.timestamp⟩
  have : IsTrans TraceRecord fun a b ↦ b.timestamp ≤ a.timestamp :=
    ⟨fun _ _ _ hab hbc ↦ hbc.trans hab⟩
  have hsort : (filters.matching store.rows).insertionSort (fun a b ↦ b.timestamp ≤ a.timestamp)
      = (filters.matching store.rows).reverse := by
    refine List.Perm.eq_of_pairwise ?_ (List.pairwise_insertionSort _ _)
      (List.pairwise_reverse.mpr (hsorted.imp fun hab ↦ hab.le))
      ((List.perm_insertionSort _ _).trans (List.reverse_perm _).symm)
    intro a b ha hb hab hba
    exact hunique a ((List.mem_insertionSort _).mp ha) b (List.mem_reverse.mp hb)
      (le_antisymm hba hab)
  rw [query, select, hmatching, hsort, mostRecent, List.take_reverse, List.reverse_reverse]

end SqlAlchemyTraceStore

/-- A list in strict order has the same first and last elements only if there are no others. -/
theorem take_eq_drop_iff {events : List TraceRecord}
    (h : events.Pairwise fun a b ↦ a.timestamp < b.timestamp) :
    events.take (max limit 1) = mostRecent limit events ↔ events.length ≤ limit := by
  rw [mostRecent]
  constructor
  · intro heq
    by_contra hlong
    rw [not_le] at hlong
    have hlen := congrArg List.length heq
    rw [List.length_take, List.length_drop] at hlen
    have hpos : 0 < limit := by omega
    have hfirst : (events.take (max limit 1))[0]? = (events.drop (events.length - limit))[0]? := by
      rw [heq]
    rw [List.getElem?_take, if_pos (by omega), List.getElem?_drop,
      List.getElem?_eq_getElem (by omega : 0 < events.length),
      List.getElem?_eq_getElem (by omega : events.length - limit + 0 < events.length)] at hfirst
    have hlt := List.pairwise_iff_getElem.mp h 0 (events.length - limit + 0) (by omega) (by omega)
      (by omega)
    rw [Option.some.inj hfirst] at hlt
    exact lt_irrefl _ hlt
  · intro hle
    rw [List.take_of_length_le (hle.trans (le_max_left _ _)),
      show events.length - limit = 0 by omega, List.drop_zero]

/-- Both adapters, given the same events in the order of time, answer a query with the
most recent matches exactly when at most `limit` events match. -/
theorem query_eq_iff {maxEvents : Nat} {sql : SqlAlchemyTraceStore}
    (hfew : records.length < maxEvents)
    (htime : records.Pairwise fun a b ↦ a.timestamp < b.timestamp)
    (hsql : records.foldlM SqlAlchemyTraceStore.append {} = some sql) :
    let memory := records.foldl InMemoryTraceStore.append { maxEvents := maxEvents }
    (memory.query filters limit = mostRecent limit (filters.matching records) ∧
      sql.query filters limit = mostRecent limit (filters.matching records)) ↔
      (filters.matching records).length ≤ limit := by
  intro memory
  have hrows : sql.rows = records := (SqlAlchemyTraceStore.rows_foldlM hsql).trans (List.nil_append _)
  have hevents : memory.events = records :=
    (InMemoryTraceStore.events_foldl _ records (by
      show 0 + records.length ≤ maxEvents
      omega)).trans (List.nil_append _)
  have hquery : memory.query filters limit = (filters.matching records).take (max limit 1) := by
    have hscan := @InMemoryTraceStore.scan_eq filters limit [] memory.events
      (lt_max_of_lt_right Nat.one_pos)
    rw [InMemoryTraceStore.query, hscan, hevents]
    rfl
  have hsorted : (filters.matching records).Pairwise fun a b ↦ a.timestamp < b.timestamp :=
    htime.sublist List.filter_sublist
  rw [hquery, SqlAlchemyTraceStore.query_eq (hrows ▸ htime), hrows, take_eq_drop_iff hsorted]
  exact and_iff_left rfl

def sampleTrace (timestamp : Time) (eventId : UUID) : TraceRecord where
  eventId := eventId
  eventType := "intent.offer"
  timestamp := timestamp
  tenantId := "acme"
  ephemeralInterfaceId := some ⟨100⟩
  execId := none
  agentId := none
  connId := none
  data := []

theorem query_eq_sample :
    let records := [sampleTrace 1 ⟨1⟩, sampleTrace 2 ⟨2⟩]
    let memory := records.foldl InMemoryTraceStore.append { maxEvents := 100000 }
    let sql : SqlAlchemyTraceStore := { rows := records }
    (memory.query { tenantId := some "acme" } 2
        = mostRecent 2 (TraceFilters.matching { tenantId := some "acme" } records) ∧
      sql.query { tenantId := some "acme" } 2
        = mostRecent 2 (TraceFilters.matching { tenantId := some "acme" } records)) ↔
      (TraceFilters.matching { tenantId := some "acme" } records).length ≤ 2 :=
  query_eq_iff (by decide) (by decide) rfl

/-- With a limit of one the store in memory returns the first of two events, the other
store the last. -/
theorem query_oldest :
    let records := [sampleTrace 1 ⟨1⟩, sampleTrace 2 ⟨2⟩]
    let memory := records.foldl InMemoryTraceStore.append { maxEvents := 100000 }
    records.foldlM SqlAlchemyTraceStore.append {} = some { rows := records } ∧
      memory.query {} 1 = [sampleTrace 1 ⟨1⟩] ∧
      SqlAlchemyTraceStore.query { rows := records } {} 1 = [sampleTrace 2 ⟨2⟩] ∧
      memory.query {} 1 ≠ mostRecent 1 (TraceFilters.matching {} records) := by
  intro records memory
  refine ⟨rfl, rfl, rfl, fun h ↦ ?_⟩
  have htime := congrArg (List.map TraceRecord.timestamp) h
  cases htime

end SemanticBus
