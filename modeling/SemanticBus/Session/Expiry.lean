import SemanticBus.Session.Calls
import SemanticBus.Storage.Sessions

/-!
# When a session has expired

The manager and both session stores ask in their own words whether a session has
expired: the sweep of the manager, the checks before an offer and an execution, and
`expire_before` of the stores.  A session is overdue once its deadline, if it has one, is
past.  All of them agree with that where its deadline is a date and, if it is overdue, so are the
deadlines of the sessions that the sweep looks at before it (`expiry_agrees_iff`): elsewhere
computing a deadline raises, and a sweep that raises leaves the sessions that it has not seen.
-/

namespace SemanticBus

namespace Session

/-- The end of the negotiation, or of the agreement, if the session is in one. -/
def deadline (session : Session) : Option Time :=
  match session.status with
  | .negotiating => some (session.createdAt + Time.seconds session.negotiationTtlSeconds)
  | .active => session.activatedAt.map (· + Time.seconds session.sessionTtlSeconds)
  | .closed | .expired => none

/-- Whether the deadline is past. -/
def overdue (session : Session) (now : Time) : Bool := session.deadline.any (· < now)

/-- The record has the status, the times and the lifetimes of the session. -/
structure Stored (session : Session) (record : SessionRecord) : Prop where
  status : record.status = session.status.value
  createdAt : record.createdAt = session.createdAt
  activatedAt : record.activatedAt = session.activatedAt
  negotiationTtlSeconds : record.negotiationTtlSeconds = session.negotiationTtlSeconds
  sessionTtlSeconds : record.sessionTtlSeconds = session.sessionTtlSeconds

variable {session : Session} {record : SessionRecord} {now : Time}

/-- An agreed session is expired when its deadline is past. -/
theorem WellFormed.isExpired (h : session.WellFormed)
    (hopen : session.status = .negotiating ∨ session.status = .active) :
    session.isExpired now = session.overdue now := by
  rw [Session.isExpired, overdue, deadline, expiresAt]
  rcases hopen with hstatus | hstatus
  · rw [hstatus]
    rfl
  · obtain ⟨_, _, activatedAt, -, -, -, -, hat⟩ := h.agreed (.inl hstatus)
    rw [hstatus, hat]
    rfl

theorem overdue_of_ended (h : session.status = .closed ∨ session.status = .expired) :
    session.overdue now = false := by
  rw [overdue, deadline]
  rcases h with h | h
  · rw [h]
    rfl
  · rw [h]
    rfl

/-- The sweep of the manager. -/
theorem WellFormed.lapsed (h : session.WellFormed) :
    SessionManager.lapsed session now = session.overdue now := by
  rw [SessionManager.lapsed]
  cases hstatus : session.status with
  | negotiating =>
      rw [h.isExpired (.inl hstatus)]
      exact (Bool.and_true _).trans (Bool.and_true _)
  | active =>
      rw [h.isExpired (.inr hstatus)]
      exact (Bool.and_true _).trans (Bool.and_true _)
  | closed =>
      rw [overdue_of_ended (.inl hstatus)]
      exact (Bool.and_true _).trans (Bool.and_false _)
  | expired =>
      rw [overdue_of_ended (.inr hstatus)]
      exact Bool.and_false _

/-- The store in memory. -/
theorem Stored.lapsed (h : session.Stored record) :
    InMemorySessionStore.lapsed now record = session.overdue now := by
  rw [InMemorySessionStore.lapsed, overdue, deadline, h.status, h.createdAt, h.activatedAt,
    h.negotiationTtlSeconds, h.sessionTtlSeconds]
  cases session.status with
  | negotiating => rfl
  | active =>
      cases session.activatedAt with
      | none => rfl
      | some activatedAt => rfl
  | closed => rfl
  | expired => rfl

/-- The store over SQL. -/
theorem Stored.selected {model : SessionModel} (h : session.Stored (sessionModelToRecord model)) :
    (SqlAlchemySessionStore.selected model && SqlAlchemySessionStore.lapsed now model)
      = session.overdue now := by
  have hstatus : model.status = session.status.value := h.status
  have hcreatedAt : model.createdAt = session.createdAt := h.createdAt
  have hactivatedAt : model.activatedAt = session.activatedAt := h.activatedAt
  have hnegotiation : model.negotiationTtlSeconds = session.negotiationTtlSeconds :=
    h.negotiationTtlSeconds
  have hsession : model.sessionTtlSeconds = session.sessionTtlSeconds := h.sessionTtlSeconds
  rw [SqlAlchemySessionStore.selected, SqlAlchemySessionStore.lapsed, overdue, deadline, hstatus,
    hcreatedAt, hactivatedAt, hnegotiation, hsession]
  cases session.status with
  | negotiating => rfl
  | active =>
      cases session.activatedAt with
      | none => rfl
      | some activatedAt => rfl
  | closed => rfl
  | expired => rfl

/-- Neither store raises at a session whose deadline is a date. -/
theorem Stored.raises (h : session.Stored record) (hdated : session.Dated) :
    InMemorySessionStore.raises record = false := by
  rw [InMemorySessionStore.raises, h.status, h.createdAt, h.activatedAt, h.negotiationTtlSeconds,
    h.sessionTtlSeconds]
  rw [Session.Dated, expiresAt] at hdated
  cases hstatus : session.status with
  | negotiating =>
      rw [hstatus] at hdated
      show decide (¬ _) = false
      exact decide_eq_false (not_not.mpr (hdated (.inl rfl)))
  | active =>
      cases hat : session.activatedAt with
      | none => rfl
      | some activatedAt =>
          rw [hstatus, hat] at hdated
          show decide (¬ _) = false
          exact decide_eq_false (not_not.mpr (hdated (.inr ⟨rfl, rfl⟩)))
  | closed => rfl
  | expired => rfl

end Session

namespace SessionManager

/-- All that asks whether a session has expired gives the same answer: whether it is overdue. -/
structure ExpiryAgrees (floatOfStr : String → Option ℚ) (m : SessionManager) (sid : UUID)
    (session : Session) (now : Time) : Prop where
  /-- The sweep marks it. -/
  sweep : ((m.cleanupExpiredSessions now).getSession sid).map (·.status)
    = some (if session.overdue now then .expired else session.status)
  /-- The store in memory marks its record, if it raises at no other. -/
  memory : ∀ (store : InMemorySessionStore) record clock, store.get sid = some record →
    session.Stored record → (∀ j other, store.get j = some other → j ≠ sid →
      InMemorySessionStore.raises other = false) →
    ((store.expireBefore clock now).1.get sid).map (·.status)
      = some (if session.overdue now then "expired" else record.status)
  /-- The store over SQL marks its row, if it raises at no other. -/
  sql : ∀ (store : SqlAlchemySessionStore) record clock, store.get sid = some record →
    session.Stored record → (∀ j other, store.get j = some other → j ≠ sid →
      InMemorySessionStore.raises other = false) →
    ((store.expireBefore clock now).1.get sid).map (·.status)
      = some (if session.overdue now then "expired" else record.status)
  /-- No offer is refused while it negotiates, and only then. -/
  offers : ∀ offerId providerAgentId providerConnId schemaIds viewIds requires accepts score
    metadata,
    (m.exec floatOfStr now (.addOffer offerId sid providerAgentId providerConnId schemaIds viewIds
        requires accepts score metadata)).2 ≠ .refused ↔
      session.status = .negotiating ∧ session.overdue now = false
  /-- A valid offer is accepted then. -/
  accepts : ∀ offerId providerAgentId providerConnId schemaIds viewIds requires accepts score
    metadata,
    Offer.wellFormed floatOfStr (schemaIds.orElse (.arr [])) (viewIds.orElse (.arr []))
      (requires.orElse (.arr [])) (accepts.orElse (.arr [])) score (metadata.orElse (.obj [])) →
    ((m.exec floatOfStr now (.addOffer offerId sid providerAgentId providerConnId schemaIds viewIds
        requires accepts score metadata)).2 = .accepted ↔
      session.status = .negotiating ∧ session.overdue now = false)
  /-- A participant may execute while it is active, and only then. -/
  execs : ∀ sender, sender = session.requesterAgentId ∨ some sender = session.providerAgentId →
    ((m.exec floatOfStr now (.validateSessionForExec sid sender)).2 = .accepted ↔
      session.status = .active ∧ session.overdue now = false)

/-- What the sweep looks at before the session, in the order in which they were created. -/
def before (m : SessionManager) (sid : UUID) : List Session :=
  (m.sessions.entries.takeWhile (·.1 ≠ sid)).map Prod.snd

variable {m : SessionManager} {floatOfStr : String → Option ℚ} {sid : UUID} {session : Session}
  {now : Time}

theorem takesOffers_iff (h : session.WellFormed) : takesOffers session now = true ↔
    session.status = .negotiating ∧ session.overdue now = false := by
  rw [takesOffers, Bool.and_eq_true, Bool.not_eq_true', decide_eq_true_iff]
  exact and_congr_right fun hstatus ↦ by rw [h.isExpired (.inl hstatus)]

/-- What an offer to a session whose deadline is a date gets: it is refused, raises, or is
accepted. -/
theorem exec_addOffer (hget : m.getSession sid = some session) (hdated : session.Dated)
    (offerId : String) (providerAgentId : UUID) (providerConnId : String)
    (schemaIds viewIds requires accepts score metadata : Json) :
    (m.exec floatOfStr now (.addOffer offerId sid providerAgentId providerConnId schemaIds viewIds
      requires accepts score metadata)).2 = if takesOffers session now then
        (if Offer.wellFormed floatOfStr (schemaIds.orElse (.arr [])) (viewIds.orElse (.arr []))
          (requires.orElse (.arr [])) (accepts.orElse (.arr [])) score (metadata.orElse (.obj []))
          then .accepted else .raised .validationError)
      else .refused := by
  have hcases := @Offer.construct_cases floatOfStr now offerId providerAgentId providerConnId
    (schemaIds.orElse (.arr [])) (viewIds.orElse (.arr [])) (requires.orElse (.arr []))
    (accepts.orElse (.arr [])) score (metadata.orElse (.obj []))
  have hfits : m.overflows (.addOffer offerId sid providerAgentId providerConnId schemaIds viewIds
      requires accepts score metadata) = false := by
    rw [overflows_addOffer hget, decide_eq_false_iff_not]
    exact fun h ↦ h.2 hdated
  rw [exec_of_not_overflows hfits, perform, addOffer, hget]
  dsimp only
  by_cases htakes : takesOffers session now = true
  · rw [if_pos htakes, if_pos htakes]
    rcases hcases with ⟨hwell, offer, hok, -⟩ | ⟨hill, herror⟩
    · rw [hok, hwell]
      rfl
    · rw [herror, hill]
      rfl
  · rw [if_neg htakes, if_neg htakes]

/-- What the sweep leaves of the session. -/
theorem sweep_iff (h : session.WellFormed) (hget : m.getSession sid = some session) :
    ((m.cleanupExpiredSessions now).getSession sid).map (·.status)
        = some (if session.overdue now then .expired else session.status) ↔
      (session.overdue now = true → session.Dated ∧ ∀ other ∈ m.before sid, other.Dated) := by
  have hreaches : m.sessions.reaches Session.Dated sid = true ↔
      session.Dated ∧ ∀ other ∈ m.before sid, other.Dated := by
    rw [Dict.reaches_iff hget, and_comm, before, List.forall_mem_map]
  rw [getSession_cleanup, hget, Option.map_some, Option.map_some, h.lapsed, ← hreaches]
  cases hoverdue : session.overdue now with
  | false => exact iff_of_true (by rw [if_neg (by simp)]; rfl) (fun h ↦ by cases h)
  | true =>
      by_cases hreach : m.sessions.reaches Session.Dated sid = true
      · exact iff_of_true (by rw [if_pos ⟨hreach, rfl⟩]; rfl) fun _ ↦ hreach
      · refine iff_of_false (fun hstatus ↦ ?_) fun h ↦ hreach (h rfl)
        rw [if_neg fun h ↦ hreach h.1] at hstatus
        have hexpired : session.status = .expired := Option.some.inj hstatus
        cases (Session.overdue_of_ended (.inr hexpired)).symm.trans hoverdue

/-- No record of a store raises, if those of the other sessions do not. -/
theorem none_raises {get : UUID → Option SessionRecord} {record : SessionRecord}
    (hrecord : get sid = some record) (hstored : session.Stored record) (hdated : session.Dated)
    (hothers : ∀ j other, get j = some other → j ≠ sid →
      InMemorySessionStore.raises other = false) (j : UUID) (other : SessionRecord)
    (hother : get j = some other) : InMemorySessionStore.raises other = false := by
  by_cases hj : j = sid
  · subst hj
    obtain rfl := Option.some.inj (hrecord.symm.trans hother)
    exact hstored.raises hdated
  · exact hothers j other hother hj

theorem expire_memory {store : InMemorySessionStore} {record : SessionRecord} (clock : Time)
    (hrecord : store.get sid = some record) (hstored : session.Stored record)
    (hdated : session.Dated) (hothers : ∀ j other, store.get j = some other → j ≠ sid →
      InMemorySessionStore.raises other = false) :
    ((store.expireBefore clock now).1.get sid).map (·.status)
      = some (if session.overdue now then "expired" else record.status) := by
  have hreach : store.reaches sid = true :=
    Dict.reaches_of_forall (none_raises hrecord hstored hdated hothers) hrecord
  rw [InMemorySessionStore.get_expireBefore, hrecord, Option.map_some, Option.map_some, hreach,
    hstored.lapsed]
  cases session.overdue now with
  | false => rfl
  | true => rfl

theorem expire_sql {store : SqlAlchemySessionStore} {record : SessionRecord} (clock : Time)
    (hrecord : store.get sid = some record) (hstored : session.Stored record)
    (hdated : session.Dated) (hothers : ∀ j other, store.get j = some other → j ≠ sid →
      InMemorySessionStore.raises other = false) :
    ((store.expireBefore clock now).1.get sid).map (·.status)
      = some (if session.overdue now then "expired" else record.status) := by
  have hnone : ¬ (store.rows.values.filter SqlAlchemySessionStore.selected).any
      SqlAlchemySessionStore.raises = true := by
    rw [store.any_raises]
    rintro ⟨j, other, hother, hraises⟩
    cases (none_raises hrecord hstored hdated hothers j other hother).symm.trans hraises
  obtain ⟨model, hmodel, rfl⟩ := Option.map_eq_some_iff.mp hrecord
  rw [SqlAlchemySessionStore.expireBefore, if_neg hnone, SqlAlchemySessionStore.get, Dict.get?_map,
    hmodel, Option.map_some, Option.map_some, Option.map_some, hstored.selected]
  cases session.overdue now with
  | false => rfl
  | true => rfl

/-- What a request for an execution gets. -/
theorem exec_validate (h : session.WellFormed) (hget : m.getSession sid = some session)
    (hdated : session.Dated) {sender : UUID}
    (hsender : sender = session.requesterAgentId ∨ some sender = session.providerAgentId) :
    (m.exec floatOfStr now (.validateSessionForExec sid sender)).2 = .accepted ↔
      session.status = .active ∧ session.overdue now = false := by
  have hfits : m.overflows (.validateSessionForExec sid sender) = false := by
    rw [overflows_validate hget, decide_eq_false_iff_not]
    exact fun h ↦ h.2 hdated
  rw [exec_of_not_overflows hfits, perform]
  constructor
  · intro haccepted
    cases hok : m.validateSessionForExec now sid sender with
    | error reason =>
        rw [hok] at haccepted
        cases haccepted
    | ok session' =>
        obtain ⟨hget', hactive, hlive, -⟩ := validate_ok hok
        obtain rfl := Option.some.inj (hget'.symm.trans hget)
        exact ⟨hactive, h.isExpired (.inr hactive) ▸ hlive⟩
  · rintro ⟨hactive, hlive⟩
    have hlive : session.isExpired now = false := by rw [h.isExpired (.inr hactive), hlive]
    rw [validate_eq_ok hget hactive hlive hsender]

/-- They raise for one whose deadline is none, so that one that is not overdue is turned away. -/
theorem ExpiryAgrees.dated (h : ExpiryAgrees floatOfStr m sid session now)
    (hwell : session.WellFormed) (hget : m.getSession sid = some session) : session.Dated := by
  by_contra hundated
  by_cases hoverdue : session.overdue now = true
  · exact hundated ((sweep_iff hwell hget).mp h.sweep hoverdue).1
  rw [Bool.not_eq_true] at hoverdue
  rcases (Classical.not_imp.mp hundated).1 with hstatus | ⟨hstatus, -⟩
  · have haccepted := (h.accepts "off_1" ⟨1⟩ "provider" (.arr []) (.arr []) (.arr []) (.arr [])
      (.float 0) (.obj []) rfl).mpr ⟨hstatus, hoverdue⟩
    have hraises : m.overflows (.addOffer "off_1" sid ⟨1⟩ "provider" (.arr []) (.arr []) (.arr [])
        (.arr []) (.float 0) (.obj [])) = true :=
      (overflows_addOffer hget _ _ _ _ _ _ _ _ _).trans (decide_eq_true ⟨hstatus, hundated⟩)
    rw [exec_of_overflows hraises] at haccepted
    cases haccepted
  · have haccepted := (h.execs session.requesterAgentId (.inl rfl)).mpr ⟨hstatus, hoverdue⟩
    have hraises : m.overflows (.validateSessionForExec sid session.requesterAgentId) = true :=
      (overflows_validate hget _).trans (decide_eq_true ⟨hstatus, hundated⟩)
    rw [exec_of_overflows hraises] at haccepted
    cases haccepted

theorem expiryAgrees_of_dated (hwell : session.WellFormed) (hget : m.getSession sid = some session)
    (hdated : session.Dated)
    (hbefore : session.overdue now = true → ∀ other ∈ m.before sid, other.Dated) :
    ExpiryAgrees floatOfStr m sid session now := by
  constructor
  · exact (sweep_iff hwell hget).mpr fun hoverdue ↦ ⟨hdated, hbefore hoverdue⟩
  · exact fun store record clock hrecord hstored ↦ expire_memory clock hrecord hstored hdated
  · exact fun store record clock hrecord hstored ↦ expire_sql clock hrecord hstored hdated
  · intro offerId providerAgentId providerConnId schemaIds viewIds requires accepts score metadata
    rw [exec_addOffer hget hdated, ← takesOffers_iff hwell]
    by_cases htakes : takesOffers session now = true
    · rw [if_pos htakes]
      refine iff_of_true ?_ htakes
      split
      · exact SessionReply.noConfusion
      · exact SessionReply.noConfusion
    · rw [if_neg htakes]
      exact iff_of_false (fun hne ↦ hne rfl) htakes
  · intro offerId providerAgentId providerConnId schemaIds viewIds requires accepts score metadata
      hvalid
    rw [exec_addOffer hget hdated, ← takesOffers_iff hwell, if_pos hvalid]
    split
    · rename_i htakes
      exact iff_of_true rfl htakes
    · rename_i htakes
      exact iff_of_false SessionReply.noConfusion htakes
  · exact fun sender ↦ exec_validate hwell hget hdated

/-- Of every session that calls of the manager lead to, at every instant, the sweep, both stores
and the checks before an offer and an execution agree whether it has expired, exactly when its
deadline is a date and, if it is overdue, so are those of the sessions before it. -/
theorem expiry_agrees_iff {negotiationTtl sessionTtl : Int} {start : Time}
    {calls : List (Time × (SessionCall × SessionReply))} {x : Time × SessionManager}
    (hrun : Run (Step.Timed (Calls floatOfStr))
      (start, { negotiationTtl := negotiationTtl, sessionTtl := sessionTtl }) calls x)
    (hget : x.2.getSession sid = some session) (now : Time) :
    ExpiryAgrees floatOfStr x.2 sid session now ↔
      session.Dated ∧ (session.overdue now = true → ∀ other ∈ x.2.before sid, other.Dated) := by
  have hwell : x.2.WellFormed := by
    refine hrun.invariant (P := fun x ↦ x.2.WellFormed) ?_ (.new _ _)
    rintro x a y h hstep
    exact (h.step hstep.2.2).1
  have hsession := hwell sid session hget
  constructor
  · intro hagrees
    exact ⟨hagrees.dated hsession hget, fun hoverdue ↦
      ((sweep_iff hsession hget).mp hagrees.sweep hoverdue).2⟩
  · rintro ⟨hdated, hbefore⟩
    exact expiryAgrees_of_dated hsession hget hdated hbefore

/-- A session is agreed to, and another one is created after it. -/
def agreedAndOpen : List (Time × SessionCall) :=
  sampleCalls ++ [(3, .createSession ⟨5⟩ "acme" ⟨2⟩ "requester" ⟨6⟩ [] [] none)]

/-- The second session, 31 seconds after it was created. -/
theorem expiry_agrees_sample :
    let x := (play (fun _ ↦ none) (0, {}) agreedAndOpen).1
    ∃ session, x.2.getSession ⟨5⟩ = some session ∧
      session.overdue (Time.seconds 31) = true ∧
      ExpiryAgrees (fun _ ↦ none) x.2 ⟨5⟩ session (Time.seconds 31) := by
  intro x
  have hplayable : Playable (fun _ ↦ none) (0, {}) agreedAndOpen :=
    ⟨by decide, rfl, by decide, trivial, by decide, trivial, by decide, rfl, trivial⟩
  refine ⟨_, rfl, by decide, ?_⟩
  exact (expiry_agrees_iff (run_play hplayable) rfl _).mpr ⟨by decide, by decide⟩

/-- With agreements that last longer than there are dates, the sweep stops at the first session and
leaves the second one. -/
theorem expiry_disagrees :
    let x := (play (fun _ ↦ none) (0, { sessionTtl := 253402300800 }) agreedAndOpen).1
    ∃ session, x.2.getSession ⟨5⟩ = some session ∧ session.overdue (Time.seconds 31) = true ∧
      ((x.2.cleanupExpiredSessions (Time.seconds 31)).getSession ⟨5⟩).map (·.status)
        = some .negotiating ∧
      ¬ ExpiryAgrees (fun _ ↦ none) x.2 ⟨5⟩ session (Time.seconds 31) := by
  intro x
  have hleft : ((x.2.cleanupExpiredSessions (Time.seconds 31)).getSession ⟨5⟩).map (·.status)
      = some .negotiating := by decide +kernel
  refine ⟨_, rfl, by decide, hleft, fun hagrees ↦ ?_⟩
  cases hleft.symm.trans hagrees.sweep

end SessionManager

end SemanticBus
