import SemanticBus.Session.Calls
import SemanticBus.Storage.Sessions

/-!
# A session manager with a store

The manager takes a storage adapter and keeps it, and none of its methods ever uses it:
every operation is that of the manager alone.  So the store holds the sessions of the
manager exactly as long as the manager has none.
-/

universe u

namespace SemanticBus

/-- The record that holds a session; `dump` serializes an offer. -/
def Session.toRecord (session : Session) (dump : Offer → JsonObj) (metadata : JsonObj) :
    SessionRecord where
  ephemeralInterfaceId := session.ephemeralInterfaceId
  tenantId := session.tenantId
  requesterAgentId := session.requesterAgentId
  requesterConnId := session.requesterConnId
  providerAgentId := session.providerAgentId
  providerConnId := session.providerConnId
  intentMessageId := session.intentMessageId
  intentData := session.intent
  status := session.status.value
  offers := session.offers.map dump
  chosenOfferId := session.chosenOfferId
  chosenSchemaId := session.chosenSchemaId
  chosenViewId := session.chosenViewId
  createdAt := session.createdAt
  activatedAt := session.activatedAt
  closedAt := session.closedAt
  negotiationTtlSeconds := session.negotiationTtlSeconds
  sessionTtlSeconds := session.sessionTtlSeconds
  metadata := metadata

structure StoredSessionManager (σ : Type u) where
  manager : SessionManager
  storage : Option σ := none

namespace StoredSessionManager

variable {σ : Type u}

/-- `SessionManager(negotiation_ttl_seconds, session_ttl_seconds, storage=storage)`. -/
def new (negotiationTtl sessionTtl : Int) (storage : Option σ) : StoredSessionManager σ where
  manager := { negotiationTtl := negotiationTtl, sessionTtl := sessionTtl }
  storage := storage

/-- What a call does and returns.  No method reads or writes the storage. -/
def exec (s : StoredSessionManager σ) (floatOfStr : String → Option ℚ) (now : Time)
    (call : SessionCall) : StoredSessionManager σ × SessionReply :=
  ({ s with manager := (s.manager.exec floatOfStr now call).1 },
    (s.manager.exec floatOfStr now call).2)

def creates : SessionCall → Option UUID
  | .createSession id _ _ _ _ _ _ _ => some id
  | _ => none

/-- A call at a clock reading, with what it returns.  The id of a new session is fresh: neither
the manager nor the storage has it. -/
def Calls (get : σ → UUID → Option SessionRecord) (floatOfStr : String → Option ℚ) (now : Time) :
    Step (StoredSessionManager σ) (SessionCall × SessionReply) := fun s a s' ↦
  (∀ id, creates a.1 = some id →
    s.manager.getSession id = none ∧ ∀ storage ∈ s.storage, get storage id = none) ∧
      s.exec floatOfStr now a.1 = (s', a.2)

/-- The storage holds every session of the manager as it is. -/
def Mirrored (get : σ → UUID → Option SessionRecord) (dump : Offer → JsonObj)
    (s : StoredSessionManager σ) : Prop :=
  ∀ storage ∈ s.storage, ∀ id session, s.manager.getSession id = some session →
    ∃ metadata, get storage id = some (session.toRecord dump metadata)

variable {get : σ → UUID → Option SessionRecord} {dump : Offer → JsonObj}
  {floatOfStr : String → Option ℚ} {now : Time} {s s' : StoredSessionManager σ}
  {a : SessionCall × SessionReply}

/-- A call of the stored manager is a call of the manager, and leaves the storage as it is. -/
theorem Calls.manager (h : Calls get floatOfStr now s a s') :
    SessionManager.Calls floatOfStr now s.manager a s'.manager ∧ s'.storage = s.storage := by
  obtain ⟨hfresh, hexec⟩ := h
  obtain ⟨rfl, hreply⟩ := Prod.mk.inj hexec
  refine ⟨⟨fun id _ _ _ _ _ _ _ hcall ↦ ?_, Prod.ext rfl hreply⟩, rfl⟩
  exact (hfresh id (by rw [hcall]; rfl)).1

/-- A session that was not there is one that the call creates. -/
theorem creates_of_new {m m' : SessionManager} {id : UUID} {session : Session}
    (h : SessionManager.Calls floatOfStr now m a m') (hnone : m.getSession id = none)
    (hget : m'.getSession id = some session) : creates a.1 = some id := by
  obtain ⟨call, reply⟩ := a
  have hupdate : ∀ {target : UUID} {f : Session → Session},
      (m.update target f).getSession id ≠ some session := by
    intro target f
    rw [SessionManager.getSession_update]
    split
    · rename_i heq
      rw [← heq, hnone]
      exact fun h ↦ by cases h
    · rw [hnone]
      exact fun h ↦ by cases h
  rcases SessionManager.exec_cases h.2 with ⟨-, rfl⟩ | ⟨-, heffect⟩
  · cases hnone.symm.trans hget
  cases heffect with
  | create =>
      rw [SessionManager.getSession_create] at hget
      split at hget
      · rename_i heq
        rw [heq]
        rfl
      · cases hnone.symm.trans hget
  | offer | agree | close => exact absurd hget hupdate
  | validate => cases hnone.symm.trans hget
  | flowInfo | flowResult => exact absurd hget hupdate
  | cleanup =>
      rw [SessionManager.getSession_cleanup, hnone] at hget
      cases hget

/-- A call that creates a session leaves it in the manager. -/
theorem exists_of_creates {m m' : SessionManager} {id : UUID}
    (h : SessionManager.Calls floatOfStr now m a m') (hid : creates a.1 = some id) :
    ∃ session, m'.getSession id = some session := by
  obtain ⟨call, reply⟩ := a
  cases call with
  | createSession id' tenantId agentId connId intentId intent flowAgents flowEntryPoint =>
      obtain rfl := Option.some.inj hid
      obtain ⟨rfl, -⟩ := Prod.mk.inj h.2
      exact ⟨_, Dict.get?_insert_self _ _ _⟩
  | addOffer | agree | closeSession | validateSessionForExec | setFlowInfo | updateFlowResult
  | cleanup => cases hid

/-- The manager has a storage, which knows none of its sessions. -/
structure Unknown (get : σ → UUID → Option SessionRecord) (storage : σ)
    (s : StoredSessionManager σ) : Prop where
  kept : s.storage = some storage
  unknown : ∀ id session, s.manager.getSession id = some session → get storage id = none

/-- Whatever is called, the storage learns nothing. -/
theorem Unknown.step {storage : σ} (hs : Unknown get storage s)
    (h : Calls get floatOfStr now s a s') : Unknown get storage s' := by
  obtain ⟨hcall, hsame⟩ := h.manager
  refine ⟨hsame.trans hs.kept, fun id session hget ↦ ?_⟩
  cases hold : s.manager.getSession id with
  | none => exact (h.1 id (creates_of_new hcall hold hget)).2 storage (by rw [hs.kept]; rfl)
  | some session₀ => exact hs.unknown id session₀ hold

/-- A storage that knows no session mirrors a manager that has none, and no other. -/
theorem Unknown.mirrored {storage : σ} (hs : Unknown get storage s) :
    Mirrored get dump s ↔ ∀ id, s.manager.getSession id = none := by
  constructor
  · intro h id
    by_contra hne
    obtain ⟨session, hget⟩ := Option.ne_none_iff_exists'.mp hne
    obtain ⟨metadata, hrecord⟩ := h storage (by rw [hs.kept]; rfl) id session hget
    cases (hs.unknown id session hget).symm.trans hrecord
  · intro h storage' _ id session hget
    cases (h id).symm.trans hget

/-- In every run of a manager that was given a store, whatever store it is and whatever it holds
at the start: after every operation the store holds all sessions of the manager as they are,
exactly when no operation creates a session. -/
theorem mirrored_iff (get : σ → UUID → Option SessionRecord) (dump : Offer → JsonObj)
    (floatOfStr : String → Option ℚ) (negotiationTtl sessionTtl : Int) (storage : σ)
    (start : Time) (as : List (Time × (SessionCall × SessionReply)))
    (x : Time × StoredSessionManager σ) :
    Run (Step.Only (fun _ a ↦ creates a.2.1 = none) (Step.Timed (Calls get floatOfStr)))
        (start, new negotiationTtl sessionTtl (some storage)) as x ↔
      Run (Step.Timed (Calls get floatOfStr))
          (start, new negotiationTtl sessionTtl (some storage)) as x ∧
        ∀ bs y, bs <+: as → Run (Step.Timed (Calls get floatOfStr))
          (start, new negotiationTtl sessionTtl (some storage)) bs y → Mirrored get dump y.2 := by
  refine Run.only_iff (P := fun y : Time × StoredSessionManager σ ↦ Mirrored get dump y.2)
    (I := fun y : Time × StoredSessionManager σ ↦ Unknown get storage y.2)
    (fun s a t t' h h' ↦ ?_) (fun s a t hs h ↦ hs.step h.2.2) (fun s a t hs hmirror h ↦ ?_)
    ⟨rfl, fun id session hget ↦ by cases hget⟩ fun _ _ id session hget ↦ by cases hget
  · obtain ⟨-, htime, -, hexec⟩ := h
    obtain ⟨-, htime', -, hexec'⟩ := h'
    exact Prod.ext (htime.trans htime'.symm) (congrArg Prod.fst (hexec.symm.trans hexec'))
  · obtain ⟨hcall, -⟩ := h.2.2.manager
    have hnone := hs.mirrored.mp hmirror
    rw [(hs.step h.2.2).mirrored]
    constructor
    · intro hcreates id
      by_contra hne
      obtain ⟨session, hget⟩ := Option.ne_none_iff_exists'.mp hne
      cases hcreates.symm.trans (creates_of_new hcall (hnone id) hget)
    · intro hempty
      by_contra hne
      obtain ⟨id, hid⟩ := Option.ne_none_iff_exists'.mp hne
      obtain ⟨session, hget⟩ := exists_of_creates hcall hid
      cases (hempty id).symm.trans hget

/-- A manager with an empty store in memory. -/
def sampleManager : Time × StoredSessionManager InMemorySessionStore := (0, new 30 300 (some {}))

/-- The first session that is created is not in the store. -/
theorem created_unstored : ∃ x a, Run (Step.Timed (Calls InMemorySessionStore.get fun _ ↦ none))
      sampleManager [a] x ∧ x.2.manager.getSession ⟨1⟩ ≠ none ∧
        ∀ dump, ¬ Mirrored InMemorySessionStore.get dump x.2 := by
  let call : SessionCall := .createSession ⟨1⟩ "acme" ⟨2⟩ "c" ⟨3⟩ [] [] none
  refine ⟨(1, (sampleManager.2.exec (fun _ ↦ none) 1 call).1), (1, call, .accepted),
    .single ⟨(by decide : (0 : Int) ≤ 1), rfl, fun id _ ↦ ⟨rfl, fun storage h ↦ ?_⟩, rfl⟩, ?_, ?_⟩
  · obtain rfl := Option.some.inj h
    rfl
  · exact fun h ↦ by cases h
  · intro dump h
    obtain ⟨metadata, hrecord⟩ := h {} rfl ⟨1⟩ _ rfl
    cases hrecord

end StoredSessionManager

end SemanticBus
