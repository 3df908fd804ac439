import SemanticBus.Registry.Registry

/-!
# The flow planner

A language model answers an intent with a flow, any value of the answer type;
the planner drops the repeated agents and passes the rest on.  The graph that it
also builds is used by nobody.
-/

namespace SemanticBus

structure AgentNode where
  agentId : String
  capability : String
  dependsOn : List String := []
  requiredInputs : List String := []
  outputs : List String := []
  description : String

structure RouteMapping where
  conditionValue : String
  nextAgent : String

structure ConditionalRoute where
  fromAgent : String
  conditionField : String
  routes : List RouteMapping := []
  defaultRoute : String

/-- The flow structure that the language model returns. -/
structure AgentFlow where
  intentSummary : String
  agents : List AgentNode
  entryPoint : String
  conditionalRoutes : List ConditionalRoute := []
  parallelGroups : List (List String) := []
  reasoning : String
  confidence : ℚ

/-- Keep the first node of each agent id. -/
def dedupAgents (seen : List String) : List AgentNode → List AgentNode
  | [] => []
  | node :: nodes =>
      if node.agentId ∈ seen then dedupAgents seen nodes
      else node :: dedupAgents (seen ++ [node.agentId]) nodes

/-- The flow for an intent, from the answer of the language model; `none` when
the model could not be asked or its answer was no flow. -/
def discoverFlow (answer : Option AgentFlow) : Option AgentFlow :=
  answer.map fun flow ↦ { flow with agents := dedupAgents [] flow.agents }

/-- Whether `intent[:80]`, which is logged before the language model is asked,
does not raise. -/
def sliceable : Json → Bool
  | .str _ | .arr _ => true
  | _ => false

/-! ## What deduplication keeps -/

variable {seen : List String} {nodes : List AgentNode} {node : AgentNode} {id : String}

theorem mem_of_mem_dedupAgents (h : node ∈ dedupAgents seen nodes) : node ∈ nodes := by
  induction nodes generalizing seen with
  | nil => exact h
  | cons first nodes ih =>
      rw [dedupAgents] at h
      split at h
      · exact List.mem_cons_of_mem _ (ih h)
      · rcases List.mem_cons.mp h with rfl | h
        · exact List.mem_cons_self
        · exact List.mem_cons_of_mem _ (ih h)

/-- Every agent id keeps a node, unless it was seen before. -/
theorem exists_mem_dedupAgents (h : node ∈ nodes) (hseen : node.agentId ∉ seen) :
    ∃ kept ∈ dedupAgents seen nodes, kept.agentId = node.agentId := by
  induction nodes generalizing seen with
  | nil => cases h
  | cons first nodes ih =>
      rw [dedupAgents]
      rcases List.mem_cons.mp h with rfl | hmem
      · rw [if_neg hseen]
        exact ⟨node, List.mem_cons_self, rfl⟩
      · split
        · exact ih hmem hseen
        · by_cases heq : node.agentId = first.agentId
          · exact ⟨first, List.mem_cons_self, heq.symm⟩
          · have hseen' : node.agentId ∉ seen ++ [first.agentId] := by simp [hseen, heq]
            obtain ⟨kept, hkept, hid⟩ := ih hmem hseen'
            exact ⟨kept, List.mem_cons_of_mem _ hkept, hid⟩

/-- Deduplication keeps the agent ids of the flow. -/
theorem forall_dedupAgents_iff {P : String → Prop} :
    (∀ node ∈ dedupAgents [] nodes, P node.agentId) ↔ ∀ node ∈ nodes, P node.agentId := by
  constructor
  · intro h node hmem
    obtain ⟨kept, hkept, hid⟩ := exists_mem_dedupAgents hmem (List.not_mem_nil)
    exact hid ▸ h kept hkept
  · intro h node hmem
    exact h node (mem_of_mem_dedupAgents hmem)

end SemanticBus
