import SemanticBus.Data.Clock
import SemanticBus.Data.Dict
import SemanticBus.Data.Json
import SemanticBus.Data.Uuid

/-!
# Sessions

A session is the negotiation that an intent opens and, once the requester has
agreed to an offer, the contract that execution messages run under.  Its
lifetime is measured from its creation while it negotiates and from its
activation while it is active; a session that is closed or expired has none
left.
-/

namespace SemanticBus

inductive SessionStatus where
  | negotiating
  | active
  | closed
  | expired
deriving DecidableEq, Repr

def SessionStatus.value : SessionStatus → String
  | negotiating => "negotiating"
  | active => "active"
  | closed => "closed"
  | expired => "expired"

inductive ExecutionStatus where
  | pending
  | accepted
  | inProgress
  | completed
  | failed
  | rejected
deriving DecidableEq, Repr

/-- A single execution request within a session.  The view id of the result is
assigned without validation, from whatever the intent gives as its capability. -/
structure ExecutionRecord where
  execId : UUID
  correlationId : UUID
  idempotencyKey : Option String := none
  status : ExecutionStatus := .pending
  requesterConnId : String
  action : Option String := none
  resultViewId : Json := .null
  resultValid : Option Bool := none
  createdAt : Time
  acceptedAt : Option Time := none
  completedAt : Option Time := none
  policyAllowed : Bool := true
  policyReason : Option String := none

/-- An offer from a provider to fulfill an intent. -/
structure Offer where
  offerId : String
  providerAgentId : UUID
  providerConnId : String
  schemaIds : List String := []
  viewIds : List String := []
  requires : List String := []
  accepts : List String := []
  score : ℚ := 0
  metadata : JsonObj := []
  createdAt : Time

namespace Offer

/-- How a `float` field between 0 and 1 reads a value; `floatOfStr` reads a text
the way the validation library does. -/
def scoreOf (floatOfStr : String → Option ℚ) (value : Json) : Option ℚ :=
  match value with
  | .str text => (floatOfStr text).filter fun q ↦ 0 ≤ q ∧ q ≤ 1
  | value => value.num?.filter fun q ↦ 0 ≤ q ∧ q ≤ 1

/-- The offer that `Offer(...)` builds from what a provider sent, or the
`ValidationError` it raises. -/
def construct (floatOfStr : String → Option ℚ) (now : Time) (offerId : String)
    (providerAgentId : UUID) (providerConnId : String)
    (schemaIds viewIds requires accepts score metadata : Json) : Except PyError Offer :=
  match schemaIds.strList?, viewIds.strList?, requires.strList?, accepts.strList?,
      scoreOf floatOfStr score, metadata.obj? with
  | some schemaIds, some viewIds, some requires, some accepts, some score, some metadata => .ok
      { offerId := offerId
        providerAgentId := providerAgentId
        providerConnId := providerConnId
        schemaIds := schemaIds
        viewIds := viewIds
        requires := requires
        accepts := accepts
        score := score
        metadata := metadata
        createdAt := now }
  | _, _, _, _, _, _ => .error .validationError

def wellFormed (floatOfStr : String → Option ℚ)
    (schemaIds viewIds requires accepts score metadata : Json) : Bool :=
  schemaIds.strList?.isSome && viewIds.strList?.isSome && requires.strList?.isSome
    && accepts.strList?.isSome && (scoreOf floatOfStr score).isSome && metadata.obj?.isSome

def toDict (offer : Offer) : Json :=
  .obj [("offer_id", .str offer.offerId), ("provider_agent_id", .str offer.providerAgentId.str),
    ("schema_ids", .ofStrs offer.schemaIds), ("view_ids", .ofStrs offer.viewIds),
    ("requires", .ofStrs offer.requires), ("accepts", .ofStrs offer.accepts),
    ("score", .float offer.score), ("metadata", .obj offer.metadata)]

end Offer

namespace Offer

variable {floatOfStr : String → Option ℚ} {now : Time} {offerId : String} {agentId : UUID}
  {connId : String} {schemaIds viewIds requires accepts score metadata : Json}

/-- What building an offer gives: the offer of the provider, or an error. -/
theorem construct_cases :
    (wellFormed floatOfStr schemaIds viewIds requires accepts score metadata = true ∧
      ∃ offer, construct floatOfStr now offerId agentId connId schemaIds viewIds requires accepts
        score metadata = .ok offer ∧ offer.providerAgentId = agentId ∧
        offer.providerConnId = connId) ∨
    (wellFormed floatOfStr schemaIds viewIds requires accepts score metadata = false ∧
      construct floatOfStr now offerId agentId connId schemaIds viewIds requires accepts score
        metadata = .error .validationError) := by
  unfold construct wellFormed
  split
  · rename_i hschemas hviews hrequires haccepts hscore hmetadata
    refine .inl ⟨?_, _, rfl, rfl, rfl⟩
    simp [hschemas, hviews, hrequires, haccepts, hscore, hmetadata]
  · rename_i hnot
    refine .inr ⟨?_, rfl⟩
    by_contra hwell
    simp only [Bool.not_eq_false, Bool.and_eq_true, Option.isSome_iff_exists] at hwell
    obtain ⟨⟨⟨⟨⟨⟨_, h₁⟩, ⟨_, h₂⟩⟩, ⟨_, h₃⟩⟩, ⟨_, h₄⟩⟩, ⟨_, h₅⟩⟩, ⟨_, h₆⟩⟩ := hwell
    exact hnot _ _ _ _ _ _ h₁ h₂ h₃ h₄ h₅ h₆

theorem wellFormed_of_ok {offer : Offer}
    (h : construct floatOfStr now offerId agentId connId schemaIds viewIds requires accepts score
      metadata = .ok offer) :
    wellFormed floatOfStr schemaIds viewIds requires accepts score metadata = true := by
  rcases construct_cases with ⟨hwell, _⟩ | ⟨_, herror⟩
  · exact hwell
  · cases herror.symm.trans h

theorem wellFormed_of_error {e : PyError}
    (h : construct floatOfStr now offerId agentId connId schemaIds viewIds requires accepts score
      metadata = .error e) :
    wellFormed floatOfStr schemaIds viewIds requires accepts score metadata = false := by
  rcases construct_cases with ⟨_, offer, hok, _⟩ | ⟨hill, _⟩
  · cases hok.symm.trans h
  · exact hill

end Offer

structure Session where
  ephemeralInterfaceId : UUID
  tenantId : String
  requesterAgentId : UUID
  requesterConnId : String
  providerAgentId : Option UUID := none
  providerConnId : Option String := none
  intentMessageId : UUID
  intent : JsonObj := []
  offers : List Offer := []
  chosenOfferId : Option String := none
  chosenSchemaId : Option String := none
  chosenViewId : Option String := none
  status : SessionStatus := .negotiating
  createdAt : Time
  activatedAt : Option Time := none
  closedAt : Option Time := none
  negotiationTtlSeconds : Int := 30
  sessionTtlSeconds : Int := 300
  executions : List ExecutionRecord := []
  execIndex : Dict String Nat := ∅
  idempotencyIndex : Dict String Nat := ∅
  flowAgents : List String := []
  flowEntryPoint : Option String := none
  flowCurrentStep : Nat := 0
  flowResults : JsonObj := []
  aggregatedOfferId : Option String := none

namespace Session

def expiresAt (session : Session) : Time :=
  match session.status, session.activatedAt with
  | .negotiating, _ => session.createdAt + Time.seconds session.negotiationTtlSeconds
  | .active, some activatedAt => activatedAt + Time.seconds session.sessionTtlSeconds
  | _, _ => session.createdAt

/-- Whether there is such a `datetime`; if not, computing it raises an `OverflowError`.  A session
that has ended has no deadline to compute. -/
def Dated (session : Session) : Prop :=
  session.status = .negotiating ∨ session.status = .active ∧ session.activatedAt.isSome →
    session.expiresAt.IsDate

instance : DecidablePred Dated := fun _ ↦ inferInstanceAs (Decidable (_ → _))

def isExpired (session : Session) (now : Time) : Bool := session.expiresAt < now

def addOffer (session : Session) (offer : Offer) : Session :=
  { session with offers := session.offers ++ [offer] }

/-- The first offer with an id. -/
def getOffer (session : Session) (offerId : String) : Option Offer :=
  session.offers.find? (·.offerId = offerId)

/-- Activate the session by accepting one of its offers; `none` when the session
has no such offer. -/
def activate (session : Session) (now : Time) (offerId : String)
    (chosenSchemaId chosenViewId : Option String) : Option Session :=
  (session.getOffer offerId).map fun offer ↦
    { session with
      chosenOfferId := some offerId
      providerAgentId := some offer.providerAgentId
      providerConnId := some offer.providerConnId
      chosenSchemaId := chosenSchemaId
      chosenViewId := chosenViewId
      status := .active
      activatedAt := some now }

def close (session : Session) (now : Time) : Session :=
  { session with status := .closed, closedAt := some now }

def expire (session : Session) (now : Time) : Session :=
  { session with status := .expired, closedAt := some now }

def addExecution (session : Session) (record : ExecutionRecord) : Session :=
  let idx := session.executions.length
  { session with
    executions := session.executions ++ [record]
    execIndex := session.execIndex.insert record.execId.str idx
    idempotencyIndex := match record.idempotencyKey with
      | none => session.idempotencyIndex
      | some key => if key = "" then session.idempotencyIndex
          else session.idempotencyIndex.insert key idx }

/-- The position of an execution record, by the text of its id.  What is not a
string has a text too, but never that of a UUID. -/
def execPosition (session : Session) (execId : Json) : Option Nat :=
  (execId.str?.bind session.execIndex.get?).filter (· < session.executions.length)

def getExecution (session : Session) (execId : Json) : Option ExecutionRecord :=
  (session.execPosition execId).bind fun idx ↦ session.executions[idx]?

end Session

/-- Set the status of a record, with the timestamp of the status and, at the end
of the execution, what the caller says about the result. -/
def ExecutionRecord.update (record : ExecutionRecord) (now : Time) (status : ExecutionStatus)
    (resultViewId : Option Json) (resultValid : Option Bool) : ExecutionRecord :=
  match status with
  | .accepted => { record with status := status, acceptedAt := some now }
  | .completed | .failed =>
      { record with
        status := status
        completedAt := some now
        resultViewId := resultViewId.getD record.resultViewId
        resultValid := resultValid <|> record.resultValid }
  | .pending | .inProgress | .rejected => { record with status := status }

namespace Session

/-- Update the status of an execution, if the session has it. -/
def updateExecutionStatus (session : Session) (now : Time) (execId : Json)
    (status : ExecutionStatus) (resultViewId : Option Json) (resultValid : Option Bool) : Session :=
  match session.execPosition execId with
  | none => session
  | some idx =>
      { session with
        executions := session.executions.modify idx
          (·.update now status resultViewId resultValid) }

/-- A session without executions has none to update. -/
theorem updateExecutionStatus_of_nil {session : Session} (h : session.executions = [])
    (now : Time) (execId : Json) (status : ExecutionStatus) (resultViewId : Option Json)
    (resultValid : Option Bool) :
    session.updateExecutionStatus now execId status resultViewId resultValid = session := by
  have hnone : session.execPosition execId = none := by
    rw [execPosition, h, Option.filter_eq_none_iff]
    intro idx _
    simp
  rw [updateExecutionStatus, hnone]

/-! ## Lifetimes -/

theorem expiresAt_active {session : Session} {activatedAt : Time} (h : session.status = .active)
    (ha : session.activatedAt = some activatedAt) :
    session.expiresAt = activatedAt + Time.seconds session.sessionTtlSeconds := by
  rw [expiresAt, h, ha]

end Session

end SemanticBus
