import Mathlib.Data.Finset.Erase
import Mathlib.Data.Finset.Insert
import SemanticBus.Data.Dict
import SemanticBus.Data.Json
import SemanticBus.Data.Uuid

/-!
# The view registry

Response schemas by agent and capability, with a reverse index from a capability
to the agents that provide it.  `Indexed` says that the index is the inverse of
the schema table and keeps no empty sets; registering and unregistering an agent
keep it so.
-/

namespace SemanticBus

abbrev SchemaMap := Dict String JsonObj

/-- Registry for agent-provided response schemas. -/
structure ViewRegistry where
  schemasByAgent : Dict UUID SchemaMap := ∅
  agentsByCapability : Dict String (Finset UUID) := ∅

namespace ViewRegistry

/-- Add an agent to the providers of a capability. -/
def addProvider (index : Dict String (Finset UUID)) (agentId : UUID) (capability : String) :
    Dict String (Finset UUID) :=
  index.insert capability (insert agentId ((index.get? capability).getD ∅))

/-- Remove an agent from the providers of a capability, and the capability with
its last provider. -/
def dropProvider (index : Dict String (Finset UUID)) (agentId : UUID) (capability : String) :
    Dict String (Finset UUID) :=
  match index.get? capability with
  | none => index
  | some agents =>
      if agents.erase agentId = ∅ then index.erase capability
      else index.insert capability (agents.erase agentId)

/-- Remove all schemas of an agent. -/
def unregisterAgentSchemas (views : ViewRegistry) (agentId : UUID) : ViewRegistry where
  schemasByAgent := views.schemasByAgent.erase agentId
  agentsByCapability :=
    match views.schemasByAgent.get? agentId with
    | none => views.agentsByCapability
    | some schemas => schemas.keys.foldl (dropProvider · agentId ·) views.agentsByCapability

def registerAgentSchemas (views : ViewRegistry) (agentId : UUID) (schemas : SchemaMap) :
    ViewRegistry :=
  let views :=
    if views.schemasByAgent.contains agentId then views.unregisterAgentSchemas agentId else views
  { schemasByAgent := views.schemasByAgent.insert agentId schemas
    agentsByCapability := schemas.keys.foldl (addProvider · agentId ·) views.agentsByCapability }

/-- The schema of a capability of an agent.  A capability that is no possible key
raises a `TypeError` when the agent has schemas. -/
def getSchema (views : ViewRegistry) (agentId : UUID) (capability : Json) :
    Except PyError (Option JsonObj) :=
  match views.schemasByAgent.get? agentId with
  | none => .ok none
  | some schemas =>
      if schemas.keys = [] then .ok none
      else if capability.hashable then .ok (capability.str?.bind schemas.get?)
      else .error .typeError

/-- Whether a payload has the fields that a schema requires.  Whatever goes wrong
while they are looked up counts as a failed validation. -/
def conforms (schemaDef : JsonObj) (payload : Json) : Bool :=
  if (schemaDef.get? "properties").isSome then
    ((schemaDef.getD "required" (.arr [])).items?).any
      (·.all fun field ↦ payload.contains field = some true)
  else true

/-- Validate a payload against the schema an agent registered for a capability;
without a schema anything is valid. -/
def validate (views : ViewRegistry) (agentId : UUID) (capability payload : Json) :
    Except PyError Bool :=
  match views.getSchema agentId capability with
  | .error e => .error e
  | .ok none => .ok true
  | .ok (some schemaDef) => .ok (conforms schemaDef payload)

/-! ## The reverse index -/

/-- The index lists the agent as a provider of the capability. -/
def Provides (index : Dict String (Finset UUID)) (agentId : UUID) (capability : String) : Prop :=
  ∃ agents, index.get? capability = some agents ∧ agentId ∈ agents

/-- No capability is kept without a provider. -/
def NoEmpty (index : Dict String (Finset UUID)) : Prop :=
  ∀ capability agents, index.get? capability = some agents → agents.Nonempty

variable {index : Dict String (Finset UUID)} {agentId a : UUID} {capability k : String}

theorem provides_addProvider :
    Provides (addProvider index agentId capability) a k
      ↔ a = agentId ∧ k = capability ∨ Provides index a k := by
  unfold Provides addProvider
  rw [Dict.get?_insert]
  by_cases hk : k = capability
  · subst hk
    simp only [if_pos, Option.some.injEq, exists_eq_left', Finset.mem_insert, and_true]
    refine or_congr_right ?_
    cases index.get? k with
    | none => simp
    | some agents => simp
  · simp [hk]

theorem noEmpty_addProvider (h : NoEmpty index) : NoEmpty (addProvider index agentId capability) := by
  intro k agents hk
  rw [addProvider, Dict.get?_insert] at hk
  split at hk
  · obtain rfl := Option.some.inj hk
    exact Finset.insert_nonempty _ _
  · exact h k agents hk

theorem provides_dropProvider :
    Provides (dropProvider index agentId capability) a k
      ↔ Provides index a k ∧ ¬ (a = agentId ∧ k = capability) := by
  unfold Provides dropProvider
  split
  · rename_i hnone
    refine ⟨?_, And.left⟩
    rintro ⟨agents, hk, ha⟩
    refine ⟨⟨agents, hk, ha⟩, ?_⟩
    rintro ⟨-, rfl⟩
    rw [hnone] at hk
    cases hk
  · rename_i agents hsome
    by_cases hk : k = capability
    · subst hk
      have hget : ∀ S, index.get? k = some S ↔ S = agents := by
        intro S
        rw [hsome, Option.some.injEq, eq_comm]
      split
      · rename_i hempty
        simp only [Dict.get?_erase_self, hget, exists_eq_left, and_true]
        constructor
        · rintro ⟨S, hS, _⟩
          cases hS
        · rintro ⟨ha, hne⟩
          have hin := Finset.mem_erase.mpr ⟨hne, ha⟩
          rw [hempty] at hin
          exact absurd hin (Finset.notMem_empty a)
      · simp only [Dict.get?_insert_self, hget, Option.some.injEq, exists_eq_left', exists_eq_left,
          Finset.mem_erase, and_true]
        exact and_comm
    · split
      · simp [Dict.get?_erase, hk]
      · simp [Dict.get?_insert, hk]

theorem noEmpty_dropProvider (h : NoEmpty index) :
    NoEmpty (dropProvider index agentId capability) := by
  unfold dropProvider
  split
  · exact h
  · rename_i agents hsome
    split
    · intro k S hk
      rw [Dict.get?_erase] at hk
      split at hk
      · cases hk
      · exact h k S hk
    · rename_i hne
      intro k S hk
      rw [Dict.get?_insert] at hk
      split at hk
      · obtain rfl := Option.some.inj hk
        exact Finset.nonempty_iff_ne_empty.mpr hne
      · exact h k S hk

theorem provides_foldl_addProvider (capabilities : List String) :
    Provides (capabilities.foldl (addProvider · agentId ·) index) a k
      ↔ a = agentId ∧ k ∈ capabilities ∨ Provides index a k := by
  induction capabilities generalizing index with
  | nil => simp
  | cons capability capabilities ih =>
      rw [List.foldl_cons, ih, provides_addProvider, List.mem_cons]
      tauto

theorem provides_foldl_dropProvider (capabilities : List String) :
    Provides (capabilities.foldl (dropProvider · agentId ·) index) a k
      ↔ Provides index a k ∧ ¬ (a = agentId ∧ k ∈ capabilities) := by
  induction capabilities generalizing index with
  | nil => simp
  | cons capability capabilities ih =>
      rw [List.foldl_cons, ih, provides_dropProvider, List.mem_cons]
      tauto

/-- What a fold keeps at each step it keeps altogether. -/
theorem noEmpty_foldl {f : Dict String (Finset UUID) → String → Dict String (Finset UUID)}
    (hf : ∀ index k, NoEmpty index → NoEmpty (f index k)) (capabilities : List String)
    (h : NoEmpty index) : NoEmpty (capabilities.foldl f index) := by
  induction capabilities generalizing index with
  | nil => exact h
  | cons capability capabilities ih => exact ih (hf index capability h)

/-! ## The index is the inverse of the table -/

/-- An agent is listed under a capability exactly when it has a schema for it,
and no empty set is kept. -/
structure Indexed (views : ViewRegistry) : Prop where
  provides_iff : ∀ a k, Provides views.agentsByCapability a k ↔
    ∃ schemas, views.schemasByAgent.get? a = some schemas ∧ k ∈ schemas.keys
  noEmpty : NoEmpty views.agentsByCapability

theorem Indexed.empty : Indexed {} where
  provides_iff a k := by
    constructor
    · rintro ⟨agents, hk, _⟩
      cases hk
    · rintro ⟨schemas, ha, _⟩
      cases ha
  noEmpty k agents hk := by cases hk

variable {views : ViewRegistry}

theorem Indexed.unregister (h : Indexed views) (agentId : UUID) :
    Indexed (views.unregisterAgentSchemas agentId) := by
  unfold unregisterAgentSchemas
  cases hs : views.schemasByAgent.get? agentId with
  | none =>
      refine ⟨fun a k ↦ ?_, h.noEmpty⟩
      rw [h.provides_iff, Dict.get?_erase]
      split
      · rename_i ha
        rw [ha, hs]
      · rfl
  | some schemas =>
      refine ⟨fun a k ↦ ?_, noEmpty_foldl (fun _ _ ↦ noEmpty_dropProvider) _ h.noEmpty⟩
      rw [provides_foldl_dropProvider, h.provides_iff, Dict.get?_erase]
      by_cases ha : a = agentId
      · subst ha
        simp [hs]
      · simp [ha]

theorem Indexed.register (h : Indexed views) (agentId : UUID) (schemas : SchemaMap) :
    Indexed (views.registerAgentSchemas agentId schemas) := by
  unfold registerAgentSchemas
  have hbefore : ∃ before : ViewRegistry,
      (if views.schemasByAgent.contains agentId then views.unregisterAgentSchemas agentId
        else views) = before ∧ Indexed before ∧ before.schemasByAgent.get? agentId = none := by
    by_cases hc : views.schemasByAgent.contains agentId = true
    · exact ⟨_, if_pos hc, h.unregister agentId, Dict.get?_erase_self _ _⟩
    · refine ⟨_, if_neg hc, h, ?_⟩
      rw [Dict.contains_iff, ← Option.isSome_iff_exists] at hc
      simpa using hc
  obtain ⟨before, heq, hind, hnone⟩ := hbefore
  rw [heq]
  refine ⟨fun a k ↦ ?_, noEmpty_foldl (fun _ _ ↦ noEmpty_addProvider) _ hind.noEmpty⟩
  rw [provides_foldl_addProvider, hind.provides_iff, Dict.get?_insert]
  by_cases ha : a = agentId
  · subst ha
    simp [hnone]
  · simp [ha]

/-! ## The table -/

@[simp] theorem schemasByAgent_unregister (views : ViewRegistry) (agentId a : UUID) :
    (views.unregisterAgentSchemas agentId).schemasByAgent.get? a
      = if a = agentId then none else views.schemasByAgent.get? a := Dict.get?_erase _ _ _

@[simp] theorem schemasByAgent_register (views : ViewRegistry) (agentId a : UUID)
    (schemas : SchemaMap) :
    (views.registerAgentSchemas agentId schemas).schemasByAgent.get? a
      = if a = agentId then some schemas else views.schemasByAgent.get? a := by
  unfold registerAgentSchemas
  rw [Dict.get?_insert]
  split
  · rfl
  · rename_i hne
    split
    · rw [schemasByAgent_unregister, if_neg hne]
    · rfl

end ViewRegistry

end SemanticBus
