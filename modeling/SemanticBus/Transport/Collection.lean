import Mathlib.Algebra.Order.BigOperators.Group.List
import SemanticBus.Transport.Effects

/-!
# Collecting the offers of a flow

`_execute_agent_flow` counts the offers of the session: it stops as soon as there are as many as
the flow has agents, whoever made them, and it keeps nothing of fewer offers when the time is over.
`Collected` says what the end of the collection is to be: no early end before every agent of the
flow has offered, `NO_OFFERS` only if none has, and else the combination of the offers of these
agents.

The offers of a session are those that arrived in time, in order (`offers_arrived`).  Over every
run, the collection ends as it is to exactly if the count and the agents agree (`Fair`).
-/

namespace SemanticBus

def meanScore (offers : List Offer) : ℚ := (offers.map Offer.score).sum / offers.length

namespace AgentFlow

def Has (flow : AgentFlow) (agentId : UUID) : Prop :=
  ∃ node ∈ flow.agents, UUID.parse node.agentId = some agentId

instance (flow : AgentFlow) (agentId : UUID) : Decidable (flow.Has agentId) :=
  inferInstanceAs (Decidable (∃ node ∈ flow.agents, UUID.parse node.agentId = some agentId))

def ownOffers (flow : AgentFlow) (offers : List Offer) : List Offer :=
  offers.filter (flow.Has ·.providerAgentId)

/-- Every agent of the flow has offered. -/
def AllOffered (flow : AgentFlow) (offers : List Offer) : Prop :=
  ∀ node ∈ flow.agents, ∃ offer ∈ offers, UUID.parse node.agentId = some offer.providerAgentId

/-- Agents of the flow have offered, and the offers of others add nothing to theirs. -/
structure Undisturbed (flow : AgentFlow) (offers : List Offer) : Prop where
  offered : flow.ownOffers offers ≠ []
  schemaIds : ∀ x ∈ offers.flatMap Offer.schemaIds,
    x ∈ (flow.ownOffers offers).flatMap Offer.schemaIds
  requires : ∀ x ∈ offers.flatMap Offer.requires, x ∈ (flow.ownOffers offers).flatMap Offer.requires
  accepts : ∀ x ∈ offers.flatMap Offer.accepts, x ∈ (flow.ownOffers offers).flatMap Offer.accepts
  score : meanScore offers = meanScore (flow.ownOffers offers)

/-- The count of the offers says what the agents of the flow have done: when there are as many as
agents, all of them have offered, or those that have by the last look, and no one else adds to it;
when there are fewer, none has. -/
structure Fair (flow : AgentFlow) (offers : List Offer) (polls : Nat) : Prop where
  full : flow.agents.length ≤ offers.length → 1 < polls → flow.AllOffered offers
  alone : flow.agents.length ≤ offers.length → offers ≠ [] → flow.Undisturbed offers
  fewer : offers.length < flow.agents.length → flow.ownOffers offers = []

section Decidable

variable (flow : AgentFlow) (offers : List Offer) (polls : Nat)

instance : Decidable (flow.AllOffered offers) :=
  inferInstanceAs (Decidable (∀ node ∈ flow.agents, ∃ offer ∈ offers,
    UUID.parse node.agentId = some offer.providerAgentId))

instance : Decidable (flow.Undisturbed offers) :=
  decidable_of_iff
    (flow.ownOffers offers ≠ [] ∧
      (∀ x ∈ offers.flatMap Offer.schemaIds, x ∈ (flow.ownOffers offers).flatMap Offer.schemaIds) ∧
      (∀ x ∈ offers.flatMap Offer.requires, x ∈ (flow.ownOffers offers).flatMap Offer.requires) ∧
      (∀ x ∈ offers.flatMap Offer.accepts, x ∈ (flow.ownOffers offers).flatMap Offer.accepts) ∧
      meanScore offers = meanScore (flow.ownOffers offers))
    ⟨fun ⟨h₁, h₂, h₃, h₄, h₅⟩ ↦ ⟨h₁, h₂, h₃, h₄, h₅⟩, fun ⟨h₁, h₂, h₃, h₄, h₅⟩ ↦ ⟨h₁, h₂, h₃, h₄, h₅⟩⟩

instance : Decidable (flow.Fair offers polls) :=
  decidable_of_iff
    ((flow.agents.length ≤ offers.length → 1 < polls → flow.AllOffered offers) ∧
      (flow.agents.length ≤ offers.length → offers ≠ [] → flow.Undisturbed offers) ∧
      (offers.length < flow.agents.length → flow.ownOffers offers = []))
    ⟨fun ⟨h₁, h₂, h₃⟩ ↦ ⟨h₁, h₂, h₃⟩, fun ⟨h₁, h₂, h₃⟩ ↦ ⟨h₁, h₂, h₃⟩⟩

end Decidable

end AgentFlow

def offerField (aggregated : Json) (key : String) : Option Json :=
  aggregated.obj?.bind (JsonObj.get? · key)

def Lists (aggregated : Json) (key : String) (values : List String) : Prop :=
  ∃ listed, offerField aggregated key = some (.ofStrs listed) ∧ ∀ x, x ∈ listed ↔ x ∈ values

/-- An offer combines some offers: the unions of what they list, and their mean score. -/
structure Aggregates (offers : List Offer) (aggregated : Json) : Prop where
  offered : offers ≠ []
  schemaIds : Lists aggregated "schema_ids" (offers.flatMap Offer.schemaIds)
  requires : Lists aggregated "requires" (offers.flatMap Offer.requires)
  accepts : Lists aggregated "accepts" (offers.flatMap Offer.accepts)
  score : offerField aggregated "score" = some (.float (meanScore offers)) ∧
    0 ≤ meanScore offers ∧ meanScore offers ≤ 1

/-- The answer that there are no offers. -/
def noOffers (task : FlowTask) : Nat × Message :=
  (task.websocket, createError
    (if task.envelope.tenantId = "" then "system" else task.envelope.tenantId)
    (some task.envelope.messageId) "NO_OFFERS" "No agents responded with offers for the flow")

def offersAnswer (task : FlowTask) (sessionId : UUID) (aggregated : Json) : Nat × Message :=
  (task.websocket,
    createIntentOffers task.envelope.tenantId task.envelope.messageId sessionId [aggregated])

/-- What the end of a collection is to be, with the offers of the session, the looks that were left
and the messages sent. -/
structure Collected (task : FlowTask) (sessionId : UUID) (flow : AgentFlow) (offers : List Offer)
    (polls : Nat) (sends : List (Nat × Message)) : Prop where
  early : 1 < polls → flow.AllOffered offers
  answer : sends = [noOffers task] ∧ flow.ownOffers offers = [] ∨
    ∃ aggregated, sends = [offersAnswer task sessionId aggregated] ∧
      Aggregates (flow.ownOffers offers) aggregated

variable {flow : AgentFlow} {offers : List Offer} {task : FlowTask} {sessionId : UUID}
  {polls : Nat} {sends : List (Nat × Message)} {aggregated : Json}

/-! ## The aggregated offer -/

theorem ofStrs_injective {l l' : List String} (h : Json.ofStrs l = .ofStrs l') : l = l' := by
  have hmap : l.map Json.str = l'.map Json.str := by
    injection h
  refine List.map_injective_iff.mpr ?_ hmap
  intro s s' hs
  injection hs

/-- A list without repetitions lists the values of another one if they have the same. -/
theorem lists_dedup_iff {key : String} {values values' : List String}
    (hfield : offerField aggregated key = some (.ofStrs values.dedup)) :
    Lists aggregated key values' ↔ ∀ x, x ∈ values ↔ x ∈ values' := by
  constructor
  · rintro ⟨listed, hlisted, hmem⟩ x
    have hsame := ofStrs_injective (Option.some.inj (hfield.symm.trans hlisted))
    rw [← hmem, ← hsame, List.mem_dedup]
  · intro hsame
    refine ⟨_, hfield, fun x ↦ ?_⟩
    rw [List.mem_dedup]
    exact hsame x

/-- The mean of scores between 0 and 1 is between 0 and 1. -/
theorem meanScore_mem (hne : offers ≠ [])
    (hscores : ∀ offer ∈ offers, 0 ≤ offer.score ∧ offer.score ≤ 1) :
    0 ≤ meanScore offers ∧ meanScore offers ≤ 1 := by
  have hpos : (0 : ℚ) < offers.length := Nat.cast_pos.mpr (List.length_pos_of_ne_nil hne)
  rw [meanScore]
  constructor
  · refine div_nonneg (List.sum_nonneg fun q hq ↦ ?_) hpos.le
    obtain ⟨offer, hmem, rfl⟩ := List.mem_map.mp hq
    exact (hscores offer hmem).1
  · rw [div_le_one hpos]
    have hsum : (offers.map Offer.score).sum ≤ (offers.map Offer.score).length • (1 : ℚ) := by
      refine List.sum_le_card_nsmul _ _ fun q hq ↦ ?_
      obtain ⟨offer, hmem, rfl⟩ := List.mem_map.mp hq
      exact (hscores offer hmem).2
    rwa [List.length_map, nsmul_one] at hsum

theorem mem_of_mem_ownOffers {offer : Offer} (h : offer ∈ flow.ownOffers offers) :
    offer ∈ offers := List.mem_of_mem_filter h

/-- What the offers of the flow's agents list, all offers list. -/
theorem mem_flatMap_of_own {values : Offer → List String} {x : String}
    (h : x ∈ (flow.ownOffers offers).flatMap values) : x ∈ offers.flatMap values := by
  obtain ⟨offer, hmem, hx⟩ := List.mem_flatMap.mp h
  exact List.mem_flatMap.mpr ⟨offer, mem_of_mem_ownOffers hmem, hx⟩

/-- The aggregated offer combines the offers of the flow's agents if those of others add nothing. -/
theorem aggregates_iff {offerId : String}
    (hscores : ∀ offer ∈ offers, 0 ≤ offer.score ∧ offer.score ≤ 1) :
    Aggregates (flow.ownOffers offers) (Bus.aggregatedOffer offerId flow offers) ↔
      flow.Undisturbed offers := by
  have hlists : ∀ key values, offerField (Bus.aggregatedOffer offerId flow offers) key
        = some (.ofStrs (offers.flatMap values).dedup) →
      (Lists (Bus.aggregatedOffer offerId flow offers) key
          ((flow.ownOffers offers).flatMap values) ↔
        ∀ x ∈ offers.flatMap values, x ∈ (flow.ownOffers offers).flatMap values) := by
    intro key values hfield
    rw [lists_dedup_iff hfield]
    exact forall_congr' fun x ↦ ⟨Iff.mp, fun h ↦ ⟨h, mem_flatMap_of_own⟩⟩
  have hscore : offerField (Bus.aggregatedOffer offerId flow offers) "score"
      = some (.float (meanScore offers)) := rfl
  constructor
  · intro h
    refine ⟨h.offered, (hlists _ _ rfl).mp h.schemaIds, (hlists _ _ rfl).mp h.requires,
      (hlists _ _ rfl).mp h.accepts, ?_⟩
    have hsame := hscore.symm.trans h.score.1
    injection hsame with hsame
    injection hsame
  · intro h
    refine ⟨h.offered, (hlists _ _ rfl).mpr h.schemaIds, (hlists _ _ rfl).mpr h.requires,
      (hlists _ _ rfl).mpr h.accepts, ?_, ?_⟩
    · rw [hscore, h.score]
    · exact meanScore_mem h.offered fun offer hmem ↦ hscores offer (mem_of_mem_ownOffers hmem)

theorem noOffers_ne_offersAnswer : noOffers task ≠ offersAnswer task sessionId aggregated := by
  intro h
  have htype := congrArg (fun sent : Nat × Message ↦ sent.2.messageType) h
  cases htype

/-- With the answer that there are no offers, none of the flow's agents may have offered. -/
theorem collected_noOffers_iff :
    Collected task sessionId flow offers polls [noOffers task] ↔
      (1 < polls → flow.AllOffered offers) ∧ flow.ownOffers offers = [] := by
  constructor
  · intro h
    refine ⟨h.early, ?_⟩
    rcases h.answer with ⟨-, hnone⟩ | ⟨aggregated, hsends, -⟩
    · exact hnone
    · exact absurd (List.singleton_inj.mp hsends) noOffers_ne_offersAnswer
  · rintro ⟨hearly, hnone⟩
    exact ⟨hearly, .inl ⟨rfl, hnone⟩⟩

/-- With an aggregated offer, it is to combine the offers of the flow's agents. -/
theorem collected_offers_iff :
    Collected task sessionId flow offers polls [offersAnswer task sessionId aggregated] ↔
      (1 < polls → flow.AllOffered offers) ∧ Aggregates (flow.ownOffers offers) aggregated := by
  constructor
  · intro h
    refine ⟨h.early, ?_⟩
    rcases h.answer with ⟨hsends, -⟩ | ⟨aggregated', hsends, hagg⟩
    · exact absurd (List.singleton_inj.mp hsends).symm noOffers_ne_offersAnswer
    · have hpayload := congrArg (fun sent : Nat × Message ↦ sent.2.payload)
        (List.singleton_inj.mp hsends)
      have hsame : aggregated = aggregated' := by
        simpa [offersAnswer, createIntentOffers] using hpayload
      exact hsame ▸ hagg
  · rintro ⟨hearly, hagg⟩
    exact ⟨hearly, .inr ⟨aggregated, rfl, hagg⟩⟩

/-! ## The look that ends the collection -/

def SessionManager.offersOf (m : SessionManager) (sessionId : UUID) : List Offer :=
  ((m.getSession sessionId).map Session.offers).getD []

/-- A look at the offers goes on, or it ends the collection with what it found or with nothing. -/
theorem Bus.pollOffers_cases (b : Bus) (env : Env) (task : FlowTask) (sessionId : UUID)
    (flow : AgentFlow) (polls : Nat) :
    (∃ todo, (b.pollOffers env task sessionId flow polls).task = some todo) ∨
      (flow.agents.length ≤ (b.sessions.offersOf sessionId).length ∧
        b.pollOffers env task sessionId flow polls
          = b.finishFlow env task sessionId flow (b.sessions.offersOf sessionId)) ∨
      (polls ≤ 1 ∧ ((b.sessions.offersOf sessionId).length < flow.agents.length ∨
          b.sessions.offersOf sessionId = []) ∧
        b.pollOffers env task sessionId flow polls = b.finishFlow env task sessionId flow []) := by
  rw [Bus.pollOffers, SessionManager.offersOf]
  cases b.sessions.getSession sessionId with
  | none =>
      by_cases hpolls : polls ≤ 1
      · exact .inr (.inr ⟨hpolls, .inr rfl, if_pos hpolls⟩)
      · left
        dsimp only [Option.map_none, Option.filter_none]
        rw [if_neg hpolls]
        exact ⟨_, rfl⟩
  | some session =>
      by_cases hfull : flow.agents.length ≤ session.offers.length
      · refine .inr (.inl ⟨hfull, ?_⟩)
        dsimp only [Option.map_some, Option.getD_some]
        rw [Option.filter_some, if_pos (decide_eq_true hfull)]
      · dsimp only [Option.map_some, Option.getD_some]
        rw [Option.filter_some, if_neg (by simpa using hfull)]
        by_cases hpolls : polls ≤ 1
        · exact .inr (.inr ⟨hpolls, .inl (not_le.mp hfull), if_pos hpolls⟩)
        · left
          dsimp only
          rw [if_neg hpolls]
          exact ⟨_, rfl⟩

/-- The messages of the end of a collection. -/
theorem Bus.finishFlow_sends (b : Bus) (env : Env) (offers : List Offer) :
    (b.finishFlow env task sessionId flow offers).sends =
      if offers = [] then [noOffers task]
      else [offersAnswer task sessionId (aggregatedOffer (env.uuid 0).str flow offers)] := by
  rw [Bus.finishFlow]
  split
  · rfl
  · rfl

theorem Bus.pollOffers_error (b : Bus) (env : Env) (task : FlowTask) (sessionId : UUID)
    (flow : AgentFlow) (polls : Nat) :
    (b.pollOffers env task sessionId flow polls).error = none := by
  have hfinish : ∀ offers, (b.finishFlow env task sessionId flow offers).error = none := by
    intro offers
    rw [Bus.finishFlow]
    split
    · rfl
    · rfl
  unfold Bus.pollOffers
  dsimp only
  split
  · exact hfinish _
  · split
    · exact hfinish []
    · rfl

/-- The end of a collection is as it is to be if the count is fair. -/
theorem Bus.collected_pollOffers_iff {b : Bus} {env : Env}
    (hscores : ∀ offer ∈ b.sessions.offersOf sessionId, 0 ≤ offer.score ∧ offer.score ≤ 1)
    (hended : (b.pollOffers env task sessionId flow polls).task = none) :
    Collected task sessionId flow (b.sessions.offersOf sessionId) polls
        (b.pollOffers env task sessionId flow polls).sends ↔
      flow.Fair (b.sessions.offersOf sessionId) polls := by
  rcases b.pollOffers_cases env task sessionId flow polls with ⟨todo, htodo⟩ | ⟨hfull, heq⟩ |
    ⟨hpolls, hfew, heq⟩
  · cases hended.symm.trans htodo
  · rw [heq, finishFlow_sends]
    by_cases hnone : b.sessions.offersOf sessionId = []
    · -- a flow without agents
      have hagents : flow.agents = [] := by
        rw [hnone] at hfull
        exact List.length_eq_zero_iff.mp (Nat.le_zero.mp hfull)
      have hall : flow.AllOffered [] := by
        intro node hmem
        rw [hagents] at hmem
        cases hmem
      rw [if_pos hnone, hnone, collected_noOffers_iff]
      exact ⟨fun _ ↦ ⟨fun _ _ ↦ hall, fun _ hne ↦ absurd rfl hne, fun _ ↦ rfl⟩,
        fun _ ↦ ⟨fun _ ↦ hall, rfl⟩⟩
    · rw [if_neg hnone, collected_offers_iff, aggregates_iff hscores]
      constructor
      · rintro ⟨hearly, hund⟩
        exact ⟨fun _ ↦ hearly, fun _ _ ↦ hund, fun hlt ↦ absurd hfull (not_le.mpr hlt)⟩
      · intro hfair
        exact ⟨hfair.full hfull, hfair.alone hfull hnone⟩
  · rw [heq, finishFlow_sends, if_pos rfl, collected_noOffers_iff]
    constructor
    · rintro ⟨-, hown⟩
      refine ⟨fun _ hlt ↦ absurd hpolls (not_le.mpr hlt), fun hfull hne ↦ ?_, fun _ ↦ hown⟩
      rcases hfew with hlt | hnone
      · exact absurd hfull (not_le.mpr hlt)
      · exact absurd hnone hne
    · intro hfair
      refine ⟨fun hlt ↦ absurd hpolls (not_le.mpr hlt), ?_⟩
      rcases hfew with hlt | hnone
      · exact hfair.fewer hlt
      · rw [hnone]
        rfl

/-! ## The offers that arrive -/

abbrev Arrival := UUID × String

def Offer.arrival (offer : Offer) : Arrival := (offer.providerAgentId, offer.providerConnId)

def arrivalOf (sessionId : UUID) : Action → Option Arrival
  | .message connId envelope =>
      if envelope.messageType = .intentOffer ∧ envelope.ephemeralInterfaceId = some sessionId then
        some (envelope.senderId, connId)
      else none
  | _ => none

/-- The offers that are sent to a session in a run. -/
def arrivals (sessionId : UUID) (as : List Server.Label) : List Arrival :=
  as.filterMap fun a ↦ arrivalOf sessionId a.2.2

/-- What a message does to the offers of a session: it may add the one that it is. -/
def OffersGrow (connId : String) (envelope : MessageEnvelope) (sessionId : UUID)
    (session session' : Session) : Prop :=
  session'.offers = session.offers ∨
    ∃ offer, session'.offers = session.offers ++ [offer] ∧ 0 ≤ offer.score ∧ offer.score ≤ 1 ∧
      arrivalOf sessionId (.message connId envelope) = some offer.arrival

variable {b : Bus} {env : Env} {websocket : Nat} {connId : String} {envelope : MessageEnvelope}

theorem Offer.score_mem {floatOfStr : String → Option ℚ} {now : Time} {offerId : String}
    {agentId : UUID} {schemaIds viewIds requires accepts score metadata : Json} {offer : Offer}
    (h : construct floatOfStr now offerId agentId connId schemaIds viewIds requires accepts score
      metadata = .ok offer) : 0 ≤ offer.score ∧ offer.score ≤ 1 := by
  rw [construct] at h
  split at h
  · rename_i hscore _
    obtain rfl := Except.ok.inj h
    unfold scoreOf at hscore
    split at hscore
    · exact of_decide_eq_true (Option.filter_eq_some_iff.mp hscore).2
    · exact of_decide_eq_true (Option.filter_eq_some_iff.mp hscore).2
  · cases h

theorem SessionManager.score_of_addOffer {m m' : SessionManager} {floatOfStr : String → Option ℚ}
    {now : Time} {offerId : String} {agentId : UUID}
    {schemaIds viewIds requires accepts score metadata : Json} {offer : Offer}
    (h : m.addOffer floatOfStr now offerId sessionId agentId connId schemaIds viewIds requires
      accepts score metadata = .ok (m', some offer)) : 0 ≤ offer.score ∧ offer.score ≤ 1 := by
  rw [addOffer] at h
  split at h
  · cases h
  · split_ifs at h
    · split at h
      · cases h
      · rename_i built hbuilt
        obtain ⟨-, hoffer⟩ := Prod.mk.inj (Except.ok.inj h)
        obtain rfl := Option.some.inj hoffer
        exact Offer.score_mem hbuilt
    · cases h

namespace Bus

theorem handleIntentOffer_offers (htype : envelope.messageType = .intentOffer) :
    Option.Rel (OffersGrow connId envelope sessionId) (b.sessions.getSession sessionId)
      ((b.handleIntentOffer env websocket connId envelope).bus.sessions.getSession sessionId) := by
  have hrefl : ∀ sid session, OffersGrow connId envelope sid session session :=
    fun _ _ ↦ .inl rfl
  have hsame : Option.Rel (OffersGrow connId envelope sessionId)
      (b.sessions.getSession sessionId) (b.sessions.getSession sessionId) := by
    cases b.sessions.getSession sessionId with
    | none => exact .none
    | some session => exact .some (hrefl _ _)
  rw [handleIntentOffer]
  split
  · exact hsame
  · rename_i target htarget
    split
    · exact hsame
    · dsimp only
      split
      · exact hsame
      · exact hsame
      · rename_i sessions offer hoffer
        obtain ⟨rfl, hagent, hconn, -⟩ := addOffer_ok hoffer
        refine SessionManager.rel_update hrefl (fun session _ ↦ .inr ⟨offer, rfl, ?_⟩) sessionId
        refine ⟨(SessionManager.score_of_addOffer hoffer).1,
          (SessionManager.score_of_addOffer hoffer).2, ?_⟩
        rw [arrivalOf, if_pos ⟨htype, htarget⟩, Offer.arrival, hagent, hconn]

/-- What a message does to the offers of a session. -/
theorem handleMessage_offers :
    Option.Rel (OffersGrow connId envelope sessionId) (b.sessions.getSession sessionId)
      ((b.handleMessage env websocket connId envelope).bus.sessions.getSession sessionId) := by
  by_cases htype : envelope.messageType = .intentOffer
  · have hhandler : b.handleMessage env websocket connId envelope
        = b.handleIntentOffer env websocket connId envelope := by
      rw [handleMessage, htype]
    rw [hhandler]
    exact handleIntentOffer_offers htype
  · have heffect : Option.Rel (MessageEffect b env.now connId envelope sessionId)
        (b.sessions.getSession sessionId)
        ((b.handleMessage env websocket connId envelope).bus.sessions.getSession sessionId) :=
      handleMessage_session
    refine rel_imp (fun session session' heffect ↦ ?_) heffect
    cases heffect with
    | offer hoffer _ _ _ _ _ => exact absurd hoffer htype
    | execution _ _ =>
        left
        rw [Session.updateExecutionStatus]
        split
        · rfl
        · rfl
    | same | agree _ _ _ _ _ | close _ _ => exact .inl rfl

end Bus

namespace Server

variable {s s' : Server} {now : Time} {ids : Nat → UUID} {a : Action} {as : List Label}
  {x y : Time × Server}

/-- The offers of the sessions are what arrived, and their scores are between 0 and 1. -/
def OffersArrived (as : List Label) (s : Server) : Prop :=
  ∀ sessionId, (∀ offer ∈ s.bus.sessions.offersOf sessionId, 0 ≤ offer.score ∧ offer.score ≤ 1) ∧
    ((s.bus.sessions.offersOf sessionId).map Offer.arrival).Sublist (arrivals sessionId as)

/-- A message is handled. -/
theorem fire_message_sessions {fired : Fired} (h : s.fire env (.message connId envelope) = some fired) :
    ∃ websocket, fired.server.bus.sessions
      = (s.bus.handleMessage env websocket connId envelope).bus.sessions := by
  obtain ⟨⟨connId', conn, o⟩, houtcome, rfl⟩ := Option.map_eq_some_iff.mp h
  rw [resume_sessions]
  obtain ⟨found, -, hif⟩ := Option.bind_eq_some_iff.mp houtcome
  split_ifs at hif
  obtain ⟨-, hrest⟩ := Prod.mk.inj (Option.some.inj hif)
  obtain ⟨-, rfl⟩ := Prod.mk.inj hrest
  exact ⟨_, rfl⟩

/-- What a step does to the offers of a session: it may add one that arrives. -/
theorem Steps.offers_grow (h : Steps now s (ids, a) s') (sessionId : UUID) :
    s'.bus.sessions.offersOf sessionId = s.bus.sessions.offersOf sessionId ∨
      ∃ offer, s'.bus.sessions.offersOf sessionId = s.bus.sessions.offersOf sessionId ++ [offer] ∧
        0 ≤ offer.score ∧ offer.score ≤ 1 ∧ arrivalOf sessionId a = some offer.arrival := by
  simp only [SessionManager.offersOf]
  cases hget : s.bus.sessions.getSession sessionId with
  | none =>
      left
      cases hget' : s'.bus.sessions.getSession sessionId with
      | none => rfl
      | some session' =>
          obtain ⟨_, _, _, _, _, -, -, -, rfl⟩ := h.sessionStep.created _ _ hget hget'
          rfl
  | some session =>
      obtain ⟨session', hget', heffect⟩ := h.sessionStep.kept _ _ hget
      rw [hget']
      cases heffect with
      | same | flowInfo _ _ _ | expire _ _ => exact .inl rfl
      | @message connId conn envelope _ ha _ _ =>
          subst ha
          obtain ⟨-, fired, hfire, rfl⟩ := h
          obtain ⟨websocket, hsessions⟩ := fire_message_sessions hfire
          have hgrow : Option.Rel (OffersGrow connId envelope sessionId)
              (s.bus.sessions.getSession sessionId) (((s.bus.handleMessage ⟨now, ids⟩ websocket
                connId envelope).bus.sessions).getSession sessionId) := Bus.handleMessage_offers
          rw [← hsessions, hget, hget'] at hgrow
          cases hgrow with
          | some hgrow => exact hgrow

/-- In every run the offers of a session are among those that arrived, in the same order. -/
theorem offers_arrived (library : Library) (settings : Settings) {t : Time}
    (h : Run (Step.Timed Steps) (t, start library settings) as y) : OffersArrived as y.2 := by
  refine Run.history (P := fun as x ↦ OffersArrived as x.2) ?_ h ?_
  · rintro bs x ⟨now, ids, a⟩ y hx hstep sessionId
    obtain ⟨hscores, hsub⟩ := hx sessionId
    have harrivals : arrivals sessionId (bs ++ [(now, ids, a)])
        = arrivals sessionId bs ++ (arrivalOf sessionId a).toList := by
      rw [arrivals, List.filterMap_append, List.filterMap_cons]
      cases arrivalOf sessionId a with
      | none => rfl
      | some _ => rfl
    rw [harrivals]
    rcases Steps.offers_grow hstep.2.2 sessionId with hsame | ⟨offer, hgrown, hlow, hhigh, harrival⟩
    · rw [hsame]
      exact ⟨hscores, hsub.trans (List.sublist_append_left _ _)⟩
    · rw [hgrown, harrival]
      refine ⟨fun other hmem ↦ ?_, ?_⟩
      · rcases List.mem_append.mp hmem with hmem | hmem
        · exact hscores other hmem
        · obtain rfl := List.mem_singleton.mp hmem
          exact ⟨hlow, hhigh⟩
      · rw [List.map_append]
        exact hsub.append_right _
  · intro sessionId
    refine ⟨fun offer hmem ↦ ?_, List.nil_sublist _⟩
    cases hmem

/-! ## Collections -/

/-- A broadcast that waits for offers: its session, its flow, and the looks left. -/
structure Collecting where
  task : FlowTask
  sessionId : UUID
  flow : AgentFlow
  polls : Nat

/-- The broadcast of a connection, if it waits for offers. -/
def collecting (s : Server) (connId : String) : Option Collecting :=
  (s.taskOf connId).bind fun (_, task) ↦ match task.stage with
    | .collecting sessionId flow polls _ =>
        some { task := task, sessionId := sessionId, flow := flow, polls := polls }
    | _ => none

variable {w : Collecting} {fired : Fired}

/-- What a handler that raises nothing sends, and what it leaves of the broadcast. -/
theorem taskOf_resume (s : Server) (connId : String) (conn : Connection) {o : Outcome}
    (h : o.error = none) :
    (s.resume connId conn o).sends = o.sends ∧
      ((s.resume connId conn o).server.taskOf connId).map Prod.snd = o.task := by
  rw [resume, h]
  dsimp only
  refine ⟨rfl, ?_⟩
  rw [taskOf]
  dsimp only
  rw [Dict.get?_insert_self, Option.bind_some, Option.map_map]
  cases o.task with
  | none => rfl
  | some task => rfl

/-- A look at the offers of a broadcast. -/
theorem fire_poll (hcollecting : s.collecting connId = some w)
    (h : s.fire env (.poll connId) = some fired) :
    fired.sends = (s.bus.pollOffers env w.task w.sessionId w.flow w.polls).sends ∧
      (fired.server.taskOf connId).map Prod.snd
        = (s.bus.pollOffers env w.task w.sessionId w.flow w.polls).task := by
  obtain ⟨⟨connId', conn', o⟩, houtcome, rfl⟩ := Option.map_eq_some_iff.mp h
  cases handles_of_outcome houtcome with
  | poll htask hstage _ =>
      rw [collecting, htask, Option.bind_some] at hcollecting
      dsimp only at hcollecting
      rw [hstage] at hcollecting
      obtain rfl := Option.some.inj hcollecting
      exact taskOf_resume s connId conn' (s.bus.pollOffers_error env _ _ _ _)

/-- A look that ends a collection in a state whose offers have arrived. -/
theorem OffersArrived.collected_iff_fair (h : OffersArrived as s)
    (hcollecting : s.collecting connId = some w) (hfire : s.fire env (.poll connId) = some fired)
    (hended : fired.server.taskOf connId = none) :
    Collected w.task w.sessionId w.flow (s.bus.sessions.offersOf w.sessionId) w.polls fired.sends ↔
      w.flow.Fair (s.bus.sessions.offersOf w.sessionId) w.polls := by
  obtain ⟨hsends, htask⟩ := fire_poll hcollecting hfire
  rw [hended] at htask
  rw [hsends]
  exact Bus.collected_pollOffers_iff (h w.sessionId).1 htask.symm

/-- In every run, a look that ends a collection ends it as it is to exactly if the count of the
offers is fair. -/
theorem collected_iff {library : Library} {settings : Settings} {t : Time}
    (h : Run (Step.Timed Steps) (t, start library settings) as y)
    (hcollecting : y.2.collecting connId = some w) (hfire : y.2.fire env (.poll connId) = some fired)
    (hended : fired.server.taskOf connId = none) :
    Collected w.task w.sessionId w.flow (y.2.bus.sessions.offersOf w.sessionId) w.polls fired.sends ↔
      w.flow.Fair (y.2.bus.sessions.offersOf w.sessionId) w.polls :=
  (offers_arrived library settings h).collected_iff_fair hcollecting hfire hended

def pairFlow : AgentFlow where
  intentSummary := "translate"
  agents := [{ agentId := UUID.str ⟨2⟩, capability := "translate", description := "translates" },
    { agentId := UUID.str ⟨3⟩, capability := "summarize", description := "summarizes" }]
  entryPoint := UUID.str ⟨2⟩
  reasoning := "they can"
  confidence := 1

/-- A broadcast with a flow, and an offer of the agent `sender`. -/
def sampleWait (flow : AgentFlow) (connId : String) (sender : UUID) :
    List (Time × UUID × Action) := sampleRegistration ++
  [(0, ⟨90⟩, .connect 12 (sampleEnvelope .agentRegister ⟨3⟩ "acme" none [])),
    (1, ⟨90⟩, .message requesterConn
      (sampleEnvelope .intentBroadcast ⟨1⟩ "acme" none [("intent", .str "translate")])),
    (2, ⟨100⟩, .answer requesterConn (some flow))]
  ++ flow.agents.map (fun _ ↦ (3, ⟨90⟩, .deliver requesterConn))
  ++ [(4, ⟨90⟩, .message connId (sampleEnvelope .intentOffer sender "acme" (some ⟨100⟩) []))]

/-- Looks at the offers, every 0.2 seconds. -/
def sampleLooks (n : Nat) : List (Time × UUID × Action) :=
  (List.range n).map fun k ↦ (200003 + 200000 * k, ⟨90⟩, .poll requesterConn)

def stateAfter (script : List (Time × UUID × Action)) : Server := (playState sampleStart script).2

/-- The look at the offers after a script. -/
def lookAfter (script : List (Time × UUID × Action)) (now : Time) : Option Fired :=
  (stateAfter script).fire ⟨now, fun _ ↦ ⟨101⟩⟩ (.poll requesterConn)

def foundBy (script : List (Time × UUID × Action)) (w : Collecting) : List Offer :=
  (stateAfter script).bus.sessions.offersOf w.sessionId

/-- A script is a run to a collection that ends with the next look, and something holds of the
end. -/
def EndsAs (Q : Collecting → List Offer → List (Nat × Message) → Prop)
    (script : List (Time × UUID × Action)) (now : Time) : Prop :=
  Run (Step.Timed Steps) sampleStart (playLabels script) (playState sampleStart script) ∧
    ∃ w fired, (stateAfter script).collecting requesterConn = some w ∧
      lookAfter script now = some fired ∧ fired.server.taskOf requesterConn = none ∧
      Q w (foundBy script w) fired.sends

/-- A script can be played and its next look ends a collection that is good. -/
def PlaysOut (good : Collecting → Bool) (script : List (Time × UUID × Action)) (now : Time) : Prop :=
  Playable (fun _ _ _ ↦ True) sampleStart script ∧
    ((stateAfter script).collecting requesterConn).any good = true ∧
    (lookAfter script now).any (fun fired ↦ (fired.server.taskOf requesterConn).isNone) = true

instance (good : Collecting → Bool) (script : List (Time × UUID × Action)) (now : Time) :
    Decidable (PlaysOut good script now) := inferInstanceAs (Decidable (_ ∧ _ ∧ _))

theorem PlaysOut.endsAs {Q : Collecting → List Offer → List (Nat × Message) → Prop}
    {script : List (Time × UUID × Action)} {now : Time} {good : Collecting → Bool}
    (h : PlaysOut good script now)
    (hQ : ∀ w fired,
      Run (Step.Timed Steps) sampleStart (playLabels script) (playState sampleStart script) →
        (stateAfter script).collecting requesterConn = some w → good w = true →
        lookAfter script now = some fired → fired.server.taskOf requesterConn = none →
          Q w (foundBy script w) fired.sends) : EndsAs Q script now := by
  obtain ⟨hplayable, hcollecting, hended⟩ := h
  obtain ⟨w, hw, hgood⟩ := (Option.any_eq_true _ _).mp hcollecting
  obtain ⟨fired, hfired, hnone⟩ := (Option.any_eq_true _ _).mp hended
  have htask := Option.isNone_iff_eq_none.mp hnone
  have hrun := run_play hplayable
  exact ⟨hrun, w, fired, hw, hfired, htask, hQ w fired hrun hw hgood hfired htask⟩

/-- The agent of the flow offers before the first look. -/
def ownOffer : List (Time × UUID × Action) :=
  sampleWait (sampleFlow (UUID.str ⟨2⟩)) providerConn ⟨2⟩

theorem collected_sample :
    EndsAs (fun w offers sends ↦ Collected w.task w.sessionId w.flow offers w.polls sends)
      ownOffer 200003 := by
  have hplays : PlaysOut (fun w ↦ w.flow.Fair (foundBy ownOffer w) w.polls) ownOffer 200003 := by
    decide +kernel
  refine hplays.endsAs fun w fired hrun hw hfair hfire hended ↦ ?_
  exact (collected_iff hrun hw hfire hended).mpr (of_decide_eq_true hfair)

/-- Another agent offers before the first look. -/
def foreignOffer : List (Time × UUID × Action) :=
  sampleWait (sampleFlow (UUID.str ⟨2⟩)) (SemanticBus.connId "acme" ⟨3⟩ 12) ⟨3⟩

/-- One of two agents offers, up to the last look. -/
def halfOffer : List (Time × UUID × Action) :=
  sampleWait pairFlow providerConn ⟨2⟩ ++ sampleLooks 50

/-- An unfair count ends a collection otherwise than it is to. -/
theorem PlaysOut.not_collected {script : List (Time × UUID × Action)} {now : Time}
    (h : PlaysOut (fun w ↦ ¬ w.flow.Fair (foundBy script w) w.polls) script now) :
    EndsAs (fun w offers sends ↦ ¬ Collected w.task w.sessionId w.flow offers w.polls sends)
      script now := by
  refine h.endsAs fun w fired hrun hw hunfair hfire hended hcollected ↦ ?_
  have harrived : OffersArrived (playLabels script) (stateAfter script) :=
    offers_arrived sampleLibrary {} hrun
  exact of_decide_eq_true hunfair ((harrived.collected_iff_fair hw hfire hended).mp hcollected)

/-- The bus answers at once with the offer of another agent, and after 10 seconds that there are no
offers where there is one. -/
theorem collected_wrongly :
    EndsAs (fun w offers sends ↦ ¬ Collected w.task w.sessionId w.flow offers w.polls sends)
        foreignOffer 200003 ∧
      EndsAs (fun w offers sends ↦ ¬ Collected w.task w.sessionId w.flow offers w.polls sends)
        halfOffer 10200003 := by
  constructor
  · apply PlaysOut.not_collected
    decide +kernel
  · apply PlaysOut.not_collected
    decide +kernel

end Server

end SemanticBus
