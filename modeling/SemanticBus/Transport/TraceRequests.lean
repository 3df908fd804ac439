import SemanticBus.Trace.Retention
import SemanticBus.Transport.Server

/-!
# What a trace request gets

A `trace.get` request names a session, an execution or neither, and how many of the last
events it wants, a thousand at most.  A slice from a negative tail on counts from the
other end: a tail of zero gets all events, and a negative one all but the first few.  The
reply is right exactly for positive tails, and for others by chance (`replies_iff`).
-/

namespace SemanticBus

open SemanticTraceStore (Appends Undisturbed after ofExec cameTo_kept)

def asked (sessionId : Option UUID) (execId : Json) (events : List TraceEvent) :
    List TraceEvent :=
  events.filter fun event ↦
    match sessionId with
    | some _ => event.ephemeralInterfaceId = sessionId &&
        (!execId.truthy || (Json.ofStr? event.execId).eq execId)
    | none => if execId.truthy
        then event.ephemeralInterfaceId.isSome && (Json.ofStr? event.execId).eq execId
        else event.ephemeralInterfaceId = none

/-- The last of some events, as many as the tail but no more than a thousand. -/
def window (tail : Int) (events : List TraceEvent) : List TraceEvent :=
  events.drop (events.length - (min tail 1000).toNat)

namespace Bus

variable {b : Bus} {websocket max : Nat} {envelope : MessageEnvelope} {as : List TraceEvent}
  {tail : Int}

/-- The reply has the last of some events, and says whether there are more. -/
def Replies (b : Bus) (websocket : Nat) (envelope : MessageEnvelope) (tail : Int)
    (events : List TraceEvent) : Prop :=
  (window tail events).length ≤ 1000 ∧
    (b.handleTraceGet websocket envelope).sends = [(websocket, createTraceResult envelope.tenantId
      envelope.ephemeralInterfaceId ((window tail events).map TraceEvent.toDict)
      ((window tail events).length < events.length) envelope.messageId)]

/-- An execution id without a session must be a possible key. -/
def AsksByKey (envelope : MessageEnvelope) : Prop :=
  envelope.ephemeralInterfaceId = none → (JsonObj.get envelope.payload "exec_id").truthy = true →
    (JsonObj.get envelope.payload "exec_id").hashable = true

/-- The tails for which the slice is right: the positive ones, and others for some numbers of
events. -/
def TailFits (tail : Int) (n : Nat) : Prop :=
  0 < tail ∨ tail = 0 ∧ n = 0 ∨ tail < 0 ∧ 0 < n ∧ n ≤ -tail

/-- No session loses events of the execution that a request names without a session. -/
def LeavesAlone (envelope : MessageEnvelope) (store : SemanticTraceStore) (event : TraceEvent) :
    Prop :=
  ∀ execId, envelope.ephemeralInterfaceId = none → execId ≠ "" →
    JsonObj.get envelope.payload "exec_id" = .str execId → Undisturbed execId store event

theorem length_window (tail : Int) (events : List TraceEvent) :
    (window tail events).length = min events.length (min tail 1000).toNat := by
  rw [window, List.length_drop]
  omega

/-- The slice and its flag are right exactly for the tails that fit. -/
theorem slice_iff (tail : Int) (events : List TraceEvent) :
    ((sliceFrom events (-(min tail 1000))).length = (window tail events).length ∧
        decide (min tail 1000 < events.length)
          = decide ((window tail events).length < events.length)) ↔
      TailFits tail events.length := by
  rw [length_window, decide_eq_decide]
  by_cases hpos : 0 < tail
  · have hmin : 0 < min tail 1000 := lt_min hpos (by decide)
    rw [sliceFrom_neg_of_pos events hmin, List.length_drop]
    refine iff_of_true ⟨by omega, by omega⟩ (.inl hpos)
  · have hmin : min tail 1000 = tail := min_eq_left (by omega)
    rw [hmin, sliceFrom_neg_of_nonpos events (not_lt.mp hpos), List.length_drop]
    rw [TailFits, or_iff_right hpos]
    omega

theorem slice_eq_window (h : 0 < tail) (events : List TraceEvent) :
    sliceFrom events (-(min tail 1000)) = window tail events :=
  sliceFrom_neg_of_pos events (lt_min h (by decide))

/-- A slice that fits is the window. -/
theorem slice_of_fits {events : List TraceEvent} (h : TailFits tail events.length) :
    sliceFrom events (-(min tail 1000)) = window tail events := by
  by_cases hpos : 0 < tail
  · exact slice_eq_window hpos events
  · have hlength := ((slice_iff tail events).mpr h).1
    have hnil : window tail events = [] := by
      apply List.length_eq_zero_iff.mp
      rw [length_window]
      omega
    rw [hnil] at hlength ⊢
    exact List.length_eq_zero_iff.mp hlength

theorem eq_str_iff {execId : Option String} {e : String} :
    (Json.ofStr? execId).eq (.str e) = decide (execId = some e) := by
  cases execId with
  | none => rfl
  | some execId => simp [Json.ofStr?, Json.eq]

/-- No event has an execution id that is no string. -/
theorem eq_of_not_str {execId : Option String} {j : Json} (htruthy : j.truthy = true)
    (hstr : j.str? = none) : (Json.ofStr? execId).eq j = false := by
  cases j with
  | null => cases htruthy
  | str e => cases hstr
  | _ =>
      cases execId with
      | none => rfl
      | some execId => rfl

/-- What the store looks up before it slices. -/
def lookedUp (store : SemanticTraceStore) (sessionId : Option UUID) (execId : Json) :
    List TraceEvent :=
  match sessionId with
  | some _ => if execId.truthy
      then (store.eventsOf sessionId).filter fun event ↦ (Json.ofStr? event.execId).eq execId
      else store.eventsOf sessionId
  | none => if execId.truthy
      then ((execId.str?.bind store.byExec.get?).getD []).filterMap store.atRef
      else store.globalEvents

theorem traceQuery_eq (store : SemanticTraceStore) {sessionId : Option UUID} {execId : Json}
    (hkey : sessionId = none → execId.truthy = true → execId.hashable = true) (tail : Int) :
    traceQuery store sessionId execId tail = .ok
      (sliceFrom (lookedUp store sessionId execId) (-tail),
        decide (tail < (lookedUp store sessionId execId).length)) := by
  cases sessionId with
  | some sessionId => rfl
  | none =>
      rw [traceQuery, lookedUp]
      cases htruthy : execId.truthy with
      | true =>
          rw [hkey rfl htruthy]
          rfl
      | false => rfl

/-- What the store looks up is what is asked for. -/
theorem lookedUp_eq
    (hrun : Run (Step.Only (LeavesAlone envelope) Appends) { maxEvents := max } as b.trace) :
    lookedUp b.trace envelope.ephemeralInterfaceId (JsonObj.get envelope.payload "exec_id")
      = asked envelope.ephemeralInterfaceId (JsonObj.get envelope.payload "exec_id")
        (b.trace.kept as) := by
  have hcame : ∀ place, (b.trace.kept as).filter (·.ephemeralInterfaceId = place)
      = b.trace.eventsOf place := by
    intro place
    rw [SemanticTraceStore.eq_after hrun.of_only]
    exact cameTo_kept max as place
  generalize hexec : JsonObj.get envelope.payload "exec_id" = execId
  cases hsession : envelope.ephemeralInterfaceId with
  | some sessionId =>
      rw [lookedUp, asked, ← hcame (some sessionId)]
      dsimp only
      cases execId.truthy with
      | true =>
          rw [if_pos rfl, List.filter_filter]
          exact List.filter_congr fun event _ ↦ Bool.and_comm _ _
      | false =>
          rw [if_neg Bool.false_ne_true]
          exact List.filter_congr fun event _ ↦ (Bool.and_true _).symm
  | none =>
      rw [lookedUp, asked]
      dsimp only
      cases htruthy : execId.truthy with
      | false => exact (hcame none).symm
      | true =>
          simp only [if_true]
          cases hstr : execId.str? with
          | none =>
              symm
              apply List.filter_eq_nil_iff.mpr
              intro event _
              rw [eq_of_not_str htruthy hstr, Bool.and_false]
              exact Bool.false_ne_true
          | some e =>
              obtain rfl : execId = .str e := by
                cases execId <;> cases hstr
                rfl
              have hne : e ≠ "" := of_decide_eq_true htruthy
              have halone : Run (Step.Only (Undisturbed e) Appends) { maxEvents := max } as
                  b.trace :=
                hrun.mono fun _ _ _ h ↦ ⟨h.1 e hsession hne hexec, h.2⟩
              refine (SemanticTraceStore.Indexed.run halone).found.trans ?_
              refine List.filter_congr fun event _ ↦ ?_
              rw [eq_str_iff]
              rfl

/-- What a handler that can look events up sends. -/
theorem handleTraceGet_sends
    (htail : JsonObj.getD envelope.payload "tail" (.int 100) = .int tail)
    (hrun : Run (Step.Only (LeavesAlone envelope) Appends) { maxEvents := max } as b.trace)
    (hkey : AsksByKey envelope) :
    let events := asked envelope.ephemeralInterfaceId (JsonObj.get envelope.payload "exec_id")
      (b.trace.kept as)
    (b.handleTraceGet websocket envelope).sends = [(websocket, createTraceResult envelope.tenantId
      envelope.ephemeralInterfaceId ((sliceFrom events (-(min tail 1000))).map TraceEvent.toDict)
      (min tail 1000 < events.length) envelope.messageId)] := by
  intro events
  have hquery := traceQuery_eq b.trace hkey (min tail 1000)
  rw [lookedUp_eq hrun] at hquery
  rw [handleTraceGet, htail, tailOf]
  dsimp only
  rw [hquery]
  rfl

/-- In a run in which no session loses events of the execution that a request names, the reply has
the last events that are asked for exactly if the execution id can be looked up and the tail
fits their number, as every positive one does. -/
theorem replies_iff
    (htail : JsonObj.getD envelope.payload "tail" (.int 100) = .int tail)
    (hrun : Run (Step.Only (LeavesAlone envelope) Appends) { maxEvents := max } as b.trace) :
    b.Replies websocket envelope tail (asked envelope.ephemeralInterfaceId
        (JsonObj.get envelope.payload "exec_id") (b.trace.kept as)) ↔
      AsksByKey envelope ∧ TailFits tail (asked envelope.ephemeralInterfaceId
        (JsonObj.get envelope.payload "exec_id") (b.trace.kept as)).length := by
  have hsends := fun hkey ↦ @handleTraceGet_sends b websocket max envelope as tail htail hrun hkey
  generalize asked envelope.ephemeralInterfaceId (JsonObj.get envelope.payload "exec_id")
    (b.trace.kept as) = events at hsends
  have hbound : (window tail events).length ≤ 1000 := by
    rw [length_window]
    omega
  rw [Replies, and_iff_right hbound]
  by_cases hkey : AsksByKey envelope
  · rw [and_iff_right hkey, hsends hkey, ← slice_iff]
    constructor
    · intro heq
      have hpayload := congrArg Message.payload (congrArg Prod.snd (List.cons.inj heq).1)
      simp only [createTraceResult, List.cons.injEq, Prod.mk.injEq, Json.arr.injEq, Json.bool.injEq,
        true_and, and_true] at hpayload
      obtain ⟨hevents, -, htruncated⟩ := hpayload
      refine ⟨?_, htruncated⟩
      have hlength := congrArg List.length hevents
      rwa [List.length_map, List.length_map] at hlength
    · rintro ⟨hlength, htruncated⟩
      rw [slice_of_fits ((slice_iff tail events).mp ⟨hlength, htruncated⟩), htruncated]
  · refine iff_of_false (fun heq ↦ ?_) fun h ↦ hkey h.1
    have hraises : (b.handleTraceGet websocket envelope).sends = [] := by
      rw [handleTraceGet, htail, tailOf]
      dsimp only
      rw [AsksByKey, not_forall] at hkey
      obtain ⟨hsession, hkey⟩ := hkey
      rw [not_forall] at hkey
      obtain ⟨htruthy, hhashable⟩ := hkey
      rw [hsession, traceQuery, htruthy, eq_false_of_ne_true hhashable]
      rfl
    rw [hraises] at heq
    cases heq

def tracedEvents : List TraceEvent := List.replicate 3 (SemanticTraceStore.sampleTrace "exec")

def traced : Bus where
  library := Server.sampleLibrary
  trace := after 10 tracedEvents

/-- A request for the last events of an execution. -/
def traceRequest (tail : Int) : MessageEnvelope :=
  Server.sampleEnvelope .traceGet ⟨1⟩ "acme" none [("exec_id", .str "exec"), ("tail", .int tail)]

/-- The last two of them are sent. -/
theorem replies_sample :
    let events := asked none (.str "exec") (traced.trace.kept tracedEvents)
    events.length = 3 ∧ traced.Replies 10 (traceRequest 2) 2 events := by
  intro events
  have hleft : ∀ store : SemanticTraceStore,
      (store.eventsOf (some ⟨100⟩)).length < store.maxEvents →
      LeavesAlone (traceRequest 2) store (SemanticTraceStore.sampleTrace "exec") := by
    rintro store hlt execId - hne - sessionId hsession
    cases hsession
    exact ⟨fun _ ↦ hne, fun hevicts ↦ absurd hevicts.2 (not_le.mpr hlt)⟩
  have hrun : Run (Step.Only (LeavesAlone (traceRequest 2)) Appends) { maxEvents := 10 }
      tracedEvents traced.trace :=
    .cons ⟨hleft _ (by decide), rfl⟩ (.cons ⟨hleft _ (by decide), rfl⟩
      (.cons ⟨hleft _ (by decide), rfl⟩ (.nil _)))
  have htail : TailFits 2 events.length := .inl (by decide)
  exact ⟨by decide +kernel, (@replies_iff traced 10 10 (traceRequest 2) _ 2 rfl hrun).mpr
    ⟨fun _ _ ↦ rfl, htail⟩⟩

/-- A tail of zero gets the events, and no event should be sent. -/
theorem replies_zero :
    ¬ ∀ (b : Bus) (websocket max : Nat) (envelope : MessageEnvelope) (as : List TraceEvent)
      (tail : Int), JsonObj.getD envelope.payload "tail" (.int 100) = .int tail →
      Run Appends { maxEvents := max } as b.trace →
      b.Replies websocket envelope tail (asked envelope.ephemeralInterfaceId
        (JsonObj.get envelope.payload "exec_id") (b.trace.kept as)) := by
  intro h
  have hzero := (h traced 10 10 (traceRequest 0) tracedEvents 0 rfl
    (.cons rfl (.cons rfl (.cons rfl (.nil _))))).2
  have hpayload := congrArg Message.payload (congrArg Prod.snd (List.cons.inj hzero).1)
  cases hpayload

end Bus

end SemanticBus
