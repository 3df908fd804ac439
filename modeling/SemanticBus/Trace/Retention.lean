import SemanticBus.Data.Retained
import SemanticBus.Data.Run
import SemanticBus.Trace.Store

/-!
# What the trace store keeps

The store keeps a list of events for every session and one for those of no session, and
drops the oldest tenth of a list that is over the limit.  A tenth of less than ten is
nothing, so lists stay within the limit exactly if it is ten or more, or nothing was
ever over it (`keeps_iff`).

The index by execution holds positions in these lists, which move when events are
dropped.  As long as no events are dropped from a session with events of an execution,
its index leads to its events (`getByExec_of_undisturbed`).
-/

namespace SemanticBus

namespace SemanticTraceStore

variable {store : SemanticTraceStore} {event : TraceEvent} {max : Nat} {as bs : List TraceEvent}
  {place : Option UUID} {execId : String}

/-- The events of a session, or those of none. -/
def eventsOf (store : SemanticTraceStore) : Option UUID → List TraceEvent
  | none => store.globalEvents
  | some sessionId => (store.bySession.get? sessionId.str).getD []

/-- A store after some events. -/
def after (max : Nat) (as : List TraceEvent) : SemanticTraceStore :=
  as.foldl append { maxEvents := max }

theorem after_snoc (max : Nat) (as : List TraceEvent) (event : TraceEvent) :
    after max (as ++ [event]) = (after max as).append event := by
  rw [after, List.foldl_append]
  rfl

@[simp] theorem append_maxEvents : (store.append event).maxEvents = store.maxEvents := by
  rw [append]
  split
  · rfl
  · rfl

@[simp] theorem after_maxEvents (max : Nat) (as : List TraceEvent) :
    (after max as).maxEvents = max := by
  induction as using List.reverseRecOn with
  | nil => rfl
  | append_singleton as event ih => rw [after_snoc, append_maxEvents, ih]

/-- An event goes to its own list, which may then lose its oldest ones. -/
theorem eventsOf_append (place : Option UUID) :
    (store.append event).eventsOf place = if event.ephemeralInterfaceId = place
      then store.evict (store.eventsOf place ++ [event]) else store.eventsOf place := by
  rw [append]
  cases event.ephemeralInterfaceId with
  | none =>
      cases place with
      | none => rfl
      | some sessionId => rfl
  | some sessionId =>
      cases place with
      | none => rfl
      | some sessionId' =>
          show (Dict.get? (Dict.insert _ _ _) _).getD [] = _
          rw [Dict.get?_insert]
          by_cases h : sessionId = sessionId'
          · rw [if_pos (congrArg _ h.symm), if_pos (congrArg some h), ← h]
            rfl
          · rw [if_neg fun hkey ↦ h (UUID.str_injective hkey).symm,
              if_neg fun hsome ↦ h (Option.some.inj hsome)]
            rfl

/-! ## The limit -/

/-- A list keeps the last of what was appended to it, all of it up to the limit and never more. -/
structure Keeps (max : Nat) (appended kept : List TraceEvent) : Prop where
  bounded : kept.length ≤ max
  suffix : kept <:+ appended
  all : appended.length ≤ max → kept = appended

theorem evict_suffix (events : List TraceEvent) : store.evict events <:+ events := by
  rw [evict]
  split
  · exact List.drop_suffix _ _
  · exact List.suffix_refl _

theorem evict_of_le {events : List TraceEvent} (h : events.length ≤ store.maxEvents) :
    store.evict events = events := if_neg (not_lt.mpr h)

/-- A tenth of less than ten is nothing. -/
theorem evict_of_lt (h : store.maxEvents < 10) (events : List TraceEvent) :
    store.evict events = events := by
  rw [evict, Nat.div_eq_of_lt h, List.drop_zero, ite_self]

/-- A tenth of ten or more is enough for one event. -/
theorem length_evict_le {events : List TraceEvent} (h : 10 ≤ store.maxEvents)
    (hlen : events.length ≤ store.maxEvents + 1) :
    (store.evict events).length ≤ store.maxEvents := by
  rw [evict]
  split
  · rw [List.length_drop]
    omega
  · omega

theorem eventsOf_after_snoc (max : Nat) (as : List TraceEvent) (event : TraceEvent)
    (place : Option UUID) :
    (after max (as ++ [event])).eventsOf place = if event.ephemeralInterfaceId = place
      then (after max as).evict ((after max as).eventsOf place ++ [event])
      else (after max as).eventsOf place := by
  rw [after_snoc, eventsOf_append]

/-- Only oldest events go. -/
theorem eventsOf_suffix (max : Nat) (as : List TraceEvent) (place : Option UUID) :
    (after max as).eventsOf place <:+ cameTo (·.ephemeralInterfaceId) place as := by
  induction as using List.reverseRecOn with
  | nil =>
      cases place with
      | none => exact List.suffix_refl _
      | some sessionId => exact List.suffix_refl _
  | append_singleton as event ih =>
      rw [eventsOf_after_snoc, cameTo_snoc]
      split
      · obtain ⟨dropped, hdropped⟩ := ih
        refine (evict_suffix _).trans ⟨dropped, ?_⟩
        rw [← List.append_assoc, hdropped]
      · exact ih

/-- Nothing goes up to the limit, and nothing ever if the limit is less than ten. -/
theorem eventsOf_eq (h : max < 10 ∨ (cameTo (·.ephemeralInterfaceId) place as).length ≤ max) :
    (after max as).eventsOf place = cameTo (·.ephemeralInterfaceId) place as := by
  induction as using List.reverseRecOn with
  | nil =>
      cases place with
      | none => rfl
      | some sessionId => rfl
  | append_singleton as event ih =>
      have hprefix : as <+: as ++ [event] := List.prefix_append _ _
      have ih := ih (h.imp_right (length_cameTo_le hprefix).trans)
      rw [eventsOf_after_snoc, ih]
      rw [cameTo_snoc] at h ⊢
      split
      · rename_i hplace
        rw [if_pos hplace] at h
        rcases h with h | h
        · exact evict_of_lt (by rwa [after_maxEvents]) _
        · exact evict_of_le (by rwa [after_maxEvents])
      · rfl

theorem length_eventsOf_le (h : 10 ≤ max) (as : List TraceEvent) (place : Option UUID) :
    ((after max as).eventsOf place).length ≤ max := by
  induction as using List.reverseRecOn with
  | nil =>
      cases place with
      | none => exact Nat.zero_le _
      | some sessionId => exact Nat.zero_le _
  | append_singleton as event ih =>
      rw [eventsOf_after_snoc]
      split
      · have hle := @length_evict_le (after max as) ((after max as).eventsOf place ++ [event])
        rw [after_maxEvents, List.length_append, List.length_singleton] at hle
        exact hle h (Nat.succ_le_succ ih)
      · exact ih

/-- After every event each list keeps the last of its events within the limit, and an event
changes no list but its own, exactly if the limit is ten or more or no list has had more
events than the limit. -/
theorem keeps_iff (max : Nat) (as : List TraceEvent) :
    ((∀ bs, bs <+: as → ∀ place,
        Keeps max (cameTo (·.ephemeralInterfaceId) place bs) ((after max bs).eventsOf place)) ∧
      ∀ bs event, bs ++ [event] <+: as → ∀ place, place ≠ event.ephemeralInterfaceId →
        (after max (bs ++ [event])).eventsOf place = (after max bs).eventsOf place) ↔
      10 ≤ max ∨ ∀ place, (cameTo (·.ephemeralInterfaceId) place as).length ≤ max := by
  constructor
  · rintro ⟨hkeeps, -⟩
    refine (le_or_gt 10 max).imp_right fun hlt place ↦ ?_
    have hbounded := (hkeeps as (List.prefix_refl as) place).bounded
    rwa [eventsOf_eq (.inl hlt)] at hbounded
  · intro h
    constructor
    · intro bs hbs place
      refine ⟨?_, eventsOf_suffix max bs place, fun hle ↦ eventsOf_eq (.inr hle)⟩
      rcases h with h | h
      · exact length_eventsOf_le h bs place
      · have hle := (length_cameTo_le hbs).trans (h place)
        rw [eventsOf_eq (.inr hle)]
        exact hle
    · intro bs event _ place hne
      rw [eventsOf_after_snoc, if_neg hne.symm]

def sampleTrace (execId : String) : TraceEvent where
  eventType := .execRequest
  tenantId := "acme"
  ephemeralInterfaceId := some ⟨100⟩
  execId := some execId

/-- With a limit of five a session keeps its sixth event, and all others. -/
theorem kept_over_limit :
    ¬ ∀ max ≥ 1, ∀ as place, Keeps max (cameTo (·.ephemeralInterfaceId) place as)
      ((after max as).eventsOf place) := by
  intro h
  have hbounded := (h 5 (by decide) (List.replicate 6 (sampleTrace "exec")) (some ⟨100⟩)).bounded
  have hlength : ((after 5 (List.replicate 6 (sampleTrace "exec"))).eventsOf (some ⟨100⟩)).length
      = 6 := rfl
  rw [hlength] at hbounded
  exact absurd hbounded (by decide)

/-! ## The index by execution -/

/-- What all the lists keep of some events, in the order in which they came. -/
def kept (store : SemanticTraceStore) (as : List TraceEvent) : List TraceEvent :=
  retained (·.ephemeralInterfaceId) (fun place ↦ (store.eventsOf place).length) as

/-- The lists are the parts of what is kept. -/
theorem cameTo_kept (max : Nat) (as : List TraceEvent) (place : Option UUID) :
    cameTo (·.ephemeralInterfaceId) place ((after max as).kept as)
      = (after max as).eventsOf place := by
  rw [kept, cameTo_retained]
  exact (List.suffix_iff_eq_drop.mp (eventsOf_suffix max as place)).symm

def ofExec (execId : String) (event : TraceEvent) : Bool :=
  event.ephemeralInterfaceId.isSome && event.execId = some execId

/-- The positions that the index has for an execution. -/
def refsOf (store : SemanticTraceStore) (execId : String) : List (String × Nat) :=
  (store.byExec.get? execId).getD []

/-- The event at a position, if any. -/
def atRef (store : SemanticTraceStore) (ref : String × Nat) : Option TraceEvent :=
  ((store.bySession.get? ref.1).getD [])[ref.2]?

/-- Whether the next event of a session makes it lose its oldest ones. -/
def Evicts (store : SemanticTraceStore) (sessionId : UUID) : Prop :=
  10 ≤ store.maxEvents ∧ store.maxEvents ≤ (store.eventsOf (some sessionId)).length

/-- The index has an execution id that is not empty, and no session with events of the execution
loses any. -/
def Undisturbed (execId : String) (store : SemanticTraceStore) (event : TraceEvent) : Prop :=
  ∀ sessionId, event.ephemeralInterfaceId = some sessionId →
    (event.execId = some execId → execId ≠ "") ∧
      (store.Evicts sessionId → event.execId ≠ some execId ∧
        ∀ ref ∈ store.refsOf execId, ref.1 ≠ sessionId.str)

/-- The events of an execution are where the index says. -/
structure Indexed (execId : String) (as : List TraceEvent) (store : SemanticTraceStore) :
    Prop where
  leads : (store.refsOf execId).map store.atRef = (as.filter (ofExec execId)).map some
  places : ∀ event ∈ as, ofExec execId event = true →
    ∃ sessionId, event.ephemeralInterfaceId = some sessionId ∧
      ∃ ref ∈ store.refsOf execId, ref.1 = sessionId.str
  kept : (store.kept as).filter (ofExec execId) = as.filter (ofExec execId)

/-- An event that does not make its session lose others. -/
theorem evict_of_not {sessionId : UUID} (h : ¬ store.Evicts sessionId) (event : TraceEvent) :
    store.evict (store.eventsOf (some sessionId) ++ [event])
      = store.eventsOf (some sessionId) ++ [event] := by
  by_cases hten : 10 ≤ store.maxEvents
  · apply evict_of_le
    rw [List.length_append, List.length_singleton]
    exact not_le.mp fun hle ↦ h ⟨hten, hle⟩
  · exact evict_of_lt (not_le.mp hten) _

theorem refsOf_append (execId : String) : (store.append event).refsOf execId =
    match event.ephemeralInterfaceId with
    | none => store.refsOf execId
    | some sessionId => if event.execId = some execId ∧ execId ≠ ""
        then store.refsOf execId ++ [(sessionId.str, (store.eventsOf (some sessionId)).length)]
        else store.refsOf execId := by
  rw [append]
  cases event.ephemeralInterfaceId with
  | none => rfl
  | some sessionId =>
      cases hexec : event.execId with
      | none => rfl
      | some execId' =>
          show (Dict.get? (if execId' = "" then _ else _) execId).getD [] = _
          dsimp only
          by_cases hempty : execId' = ""
          · rw [if_pos hempty, if_neg fun h ↦ h.2 ((Option.some.inj h.1).symm.trans hempty)]
            rfl
          · rw [if_neg hempty, Dict.get?_insert]
            by_cases hsame : execId = execId'
            · rw [if_pos hsame, if_pos ⟨congrArg some hsame.symm, hsame ▸ hempty⟩, ← hsame]
              rfl
            · rw [if_neg hsame, if_neg fun h ↦ hsame (Option.some.inj h.1).symm]
              rfl

/-- A position that is found is still right after an event, unless its list loses others. -/
theorem atRef_append {ref : String × Nat} {found : TraceEvent} (h : store.atRef ref = some found)
    (hkeeps : ∀ sessionId, event.ephemeralInterfaceId = some sessionId →
      ref.1 = sessionId.str → ¬ store.Evicts sessionId) :
    (store.append event).atRef ref = some found := by
  rw [append]
  cases hsession : event.ephemeralInterfaceId with
  | none => exact h
  | some sessionId =>
      show ((Dict.get? (Dict.insert _ _ _) ref.1).getD [])[ref.2]? = _
      rw [Dict.get?_insert]
      split
      · rename_i hkey
        rw [Option.getD_some, ← eventsOf, evict_of_not (hkeeps sessionId hsession hkey),
          List.getElem?_append_left, ← h, atRef, hkey]
        · rfl
        · rw [atRef, hkey] at h
          exact (List.getElem?_eq_some_iff.mp h).1
      · exact h

theorem kept_append (hother : ∀ place, place ≠ event.ephemeralInterfaceId →
      ((store.append event).eventsOf place).length = (store.eventsOf place).length)
    (hself : ((store.append event).eventsOf event.ephemeralInterfaceId).length
      = (store.eventsOf event.ephemeralInterfaceId).length + 1) :
    (store.append event).kept (as ++ [event]) = store.kept as ++ [event] :=
  retained_snoc hself hother

theorem Indexed.step (h : Indexed execId as store) (hundisturbed : Undisturbed execId store event) :
    Indexed execId (as ++ [event]) (store.append event) := by
  have hother : ∀ place, place ≠ event.ephemeralInterfaceId →
      ((store.append event).eventsOf place).length = (store.eventsOf place).length := by
    intro place hne
    rw [eventsOf_append, if_neg hne.symm]
  -- the positions that are there
  have hrefs : ((store.refsOf execId).map (store.append event).atRef)
      = (as.filter (ofExec execId)).map some := by
    rw [← h.leads]
    refine List.map_congr_left fun ref href ↦ ?_
    have hmem : store.atRef ref ∈ (as.filter (ofExec execId)).map some :=
      h.leads ▸ List.mem_map_of_mem href
    obtain ⟨found, -, hfound⟩ := List.mem_map.mp hmem
    rw [← hfound]
    refine atRef_append hfound.symm fun sessionId hsession hkey hevicts ↦ ?_
    exact ((hundisturbed sessionId hsession).2 hevicts).2 ref href hkey
  by_cases hmine : ofExec execId event = true
  · obtain ⟨hsome, hexec⟩ := Bool.and_eq_true_iff.mp hmine
    have hexec : event.execId = some execId := of_decide_eq_true hexec
    obtain ⟨sessionId, hsession⟩ := Option.isSome_iff_exists.mp hsome
    obtain ⟨hne, hevicts⟩ := hundisturbed sessionId hsession
    have hnot : ¬ store.Evicts sessionId := fun hevict ↦ (hevicts hevict).1 hexec
    have hlist : (store.append event).eventsOf (some sessionId)
        = store.eventsOf (some sessionId) ++ [event] := by
      rw [eventsOf_append, if_pos hsession, evict_of_not hnot]
    have hrefsOf : (store.append event).refsOf execId
        = store.refsOf execId ++ [(sessionId.str, (store.eventsOf (some sessionId)).length)] := by
      rw [refsOf_append, hsession]
      exact if_pos ⟨hexec, hne hexec⟩
    have hlast : (store.append event).atRef
        (sessionId.str, (store.eventsOf (some sessionId)).length) = some event := by
      show ((store.append event).eventsOf (some sessionId))[_]? = _
      rw [hlist, List.getElem?_concat_length]
    constructor
    · rw [hrefsOf, List.map_append, hrefs, List.map_singleton, hlast, List.filter_append,
        List.filter_cons_of_pos hmine, List.map_append]
      rfl
    · intro other hmem hother
      rw [hrefsOf]
      rcases List.mem_append.mp hmem with hmem | hmem
      · obtain ⟨id, hid, ref, href, hkey⟩ := h.places other hmem hother
        exact ⟨id, hid, ref, List.mem_append_left _ href, hkey⟩
      · rw [List.mem_singleton.mp hmem]
        exact ⟨sessionId, hsession, _, List.mem_append_right _ List.mem_cons_self, rfl⟩
    · rw [kept_append hother, List.filter_append, List.filter_append, h.kept]
      rw [hsession, hlist, List.length_append, List.length_singleton]
  · have hmine : ofExec execId event = false := Bool.not_eq_true _ ▸ hmine
    have hrefsOf : (store.append event).refsOf execId = store.refsOf execId := by
      rw [refsOf_append]
      cases hsession : event.ephemeralInterfaceId with
      | none => rfl
      | some sessionId =>
          refine if_neg fun hexec ↦ ?_
          rw [ofExec, hsession, hexec.1, decide_eq_true rfl] at hmine
          cases hmine
    constructor
    · rw [hrefsOf, hrefs, List.filter_append, List.filter_cons_of_neg (by rw [hmine]; rintro ⟨⟩),
        List.filter_nil, List.append_nil]
    · intro other hmem hother
      rw [hrefsOf]
      rcases List.mem_append.mp hmem with hmem | hmem
      · exact h.places other hmem hother
      · rw [List.mem_singleton.mp hmem, hmine] at hother
        cases hother
    · rw [List.filter_append, List.filter_cons_of_neg (by rw [hmine]; rintro ⟨⟩),
        List.filter_nil, List.append_nil, ← h.kept]
      cases hsession : event.ephemeralInterfaceId with
      | none =>
          refine filter_retained_snoc hmine (fun b _ hb hplace ↦ ?_) hother
          rw [ofExec, hplace, hsession] at hb
          cases hb
      | some sessionId =>
          by_cases hevicts : store.Evicts sessionId
          · refine filter_retained_snoc hmine (fun b hb hofExec hplace ↦ ?_) hother
            obtain ⟨id, hid, ref, href, hkey⟩ := h.places b hb hofExec
            have hid : sessionId = id := Option.some.inj ((hplace.trans hsession).symm.trans hid)
            exact ((hundisturbed sessionId hsession).2 hevicts).2 ref href (hid ▸ hkey)
          · have hself : ((store.append event).eventsOf event.ephemeralInterfaceId).length
                = (store.eventsOf event.ephemeralInterfaceId).length + 1 := by
              rw [eventsOf_append, if_pos rfl, hsession, evict_of_not hevicts, List.length_append,
                List.length_singleton]
            rw [kept_append hother hself, List.filter_append,
              List.filter_cons_of_neg (by rw [hmine]; rintro ⟨⟩), List.filter_nil,
              List.append_nil]

abbrev Appends : Step SemanticTraceStore TraceEvent :=
  fun store event store' ↦ store' = store.append event

/-- A run of events ends in the store after them. -/
theorem eq_after (h : Run Appends { maxEvents := max } as store) : store = after max as := by
  refine h.history (P := fun as store ↦ store = after max as) ?_ rfl
  rintro bs store event store' rfl rfl
  rw [after_snoc]

theorem Indexed.run
    (h : Run (Step.Only (Undisturbed execId) Appends) { maxEvents := max } as store) :
    Indexed execId as store := by
  refine h.history (P := Indexed execId) ?_ ⟨rfl, fun event hmem ↦ ?_, rfl⟩
  · rintro bs store event store' h ⟨hundisturbed, rfl⟩
    exact h.step hundisturbed
  · cases hmem

/-- The index leads to the events of the execution that are kept. -/
theorem Indexed.found (h : Indexed execId as store) :
    (store.refsOf execId).filterMap store.atRef = (store.kept as).filter (ofExec execId) :=
  calc (store.refsOf execId).filterMap store.atRef
      = ((store.refsOf execId).map store.atRef).filterMap id := by
          rw [List.filterMap_map]
          rfl
    _ = ((as.filter (ofExec execId)).map some).filterMap id := by rw [h.leads]
    _ = as.filter (ofExec execId) := by
          rw [List.filterMap_map]
          exact List.filterMap_some
    _ = (store.kept as).filter (ofExec execId) := h.kept.symm

/-- In a run in which no session with events of an execution loses any, the events that the index
gives for it are those of its events that are kept. -/
theorem getByExec_of_undisturbed {tail : Int}
    (h : Run (Step.Only (Undisturbed execId) Appends) { maxEvents := max } as store)
    (htail : (store.kept as).length ≤ tail) :
    store.getByExec (.str execId) tail = ((store.kept as).filter (ofExec execId), false) := by
  have hle : (((store.kept as).filter (ofExec execId)).length : Int) ≤ tail :=
    (Int.ofNat_le.mpr (List.length_filter_le _ _)).trans htail
  show (sliceFrom ((store.refsOf execId).filterMap store.atRef) (-tail),
    decide (tail < ((store.refsOf execId).filterMap store.atRef).length)) = _
  rw [(Indexed.run h).found, sliceFrom_neg_of_le hle, decide_eq_false (not_lt.mpr hle)]

/-- An event of another session, and of another execution. -/
def elsewhere : TraceEvent := { sampleTrace "b" with ephemeralInterfaceId := some ⟨200⟩ }

/-- Many events of another session leave an execution alone. -/
theorem run_elsewhere (n : ℕ) (hrefs : ∀ ref ∈ store.refsOf "a", ref.1 ≠ UUID.str ⟨200⟩) :
    Run (Step.Only (Undisturbed "a") Appends) store (List.replicate n elsewhere)
      ((List.replicate n elsewhere).foldl append store) := by
  induction n generalizing store with
  | zero => exact .nil store
  | succ n ih =>
      refine .cons ⟨fun sessionId hsession ↦ ?_, rfl⟩ (ih ?_)
      · cases hsession
        exact ⟨fun hexec ↦ absurd hexec (by decide), fun _ ↦ ⟨by decide, hrefs⟩⟩
      · rw [refsOf_append]
        exact hrefs

/-- Between two events of an execution, another session loses an event. -/
theorem getByExec_sample :
    let as := sampleTrace "a" :: (List.replicate 11 elsewhere ++ [sampleTrace "a"])
    ((after 10 as).kept as).length = 12 ∧
      (after 10 as).getByExec (.str "a") 12
        = (((after 10 as).kept as).filter (ofExec "a"), false) := by
  intro as
  have hnot : ∀ store : SemanticTraceStore,
      (store.eventsOf (some ⟨100⟩)).length < store.maxEvents →
      Undisturbed "a" store (sampleTrace "a") := by
    intro store hlt sessionId hsession
    cases hsession
    exact ⟨fun _ ↦ by decide, fun hevicts ↦ absurd hevicts.2 (not_le.mpr hlt)⟩
  have hrun : Run (Step.Only (Undisturbed "a") Appends) { maxEvents := 10 } as (after 10 as) :=
    .cons ⟨hnot _ (by decide), rfl⟩
      ((run_elsewhere 11 (by decide +kernel)).snoc ⟨hnot _ (by decide +kernel), rfl⟩)
  have hkept : ((after 10 as).kept as).length = 12 := by decide +kernel
  exact ⟨hkept, getByExec_of_undisturbed hrun (by rw [hkept]; decide)⟩

/-- After ten more events of its session the first one is gone, and the index gives the second
one, which is of another execution. -/
theorem getByExec_stale :
    ¬ ∀ max ≥ 1, ∀ as execId, ∀ tail : Int, ((after max as).kept as).length ≤ tail →
      (after max as).getByExec (.str execId) tail
        = (((after max as).kept as).filter (ofExec execId), false) := by
  intro h
  have hstale := h 10 (by decide) (sampleTrace "a" :: List.replicate 10 (sampleTrace "b")) "a" 10
    (by decide)
  have hone : ((after 10 (sampleTrace "a" :: List.replicate 10 (sampleTrace "b"))).getByExec
      (.str "a") 10).1.length = 1 := rfl
  rw [hstale] at hone
  exact absurd hone (by decide)

end SemanticTraceStore

end SemanticBus
