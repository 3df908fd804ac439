import SemanticBus.Orchestration.Graph

/-!
# Running the graph of a flow

LangGraph runs a graph in supersteps: a node runs one superstep after each
superstep in which one of its predecessors has run.  The edges of the
dependencies are independent of each other, so an agent that depends on the ends
of two branches runs once for each of them, and does not wait for the longer one.

`runsInOrder_iff` says which flows run as their dependencies demand: those with a
layer for each agent, zero at the entry point and one more along each dependency.
-/

namespace SemanticBus

open StateGraph

def StateGraph.ran (g : StateGraph) : ℕ → List String
  | 0 => g.nodes.filter fun name ↦ (START, name) ∈ g.edges
  | k + 1 => g.nodes.filter fun name ↦ ∃ pred ∈ g.ran k, (pred, name) ∈ g.edges

theorem StateGraph.mem_nodes_of_mem_ran {g : StateGraph} {name : String} {k : ℕ}
    (h : name ∈ g.ran k) : name ∈ g.nodes := by
  cases k with
  | zero => exact List.mem_of_mem_filter h
  | succ k => exact List.mem_of_mem_filter h

namespace AgentFlow

/-- Every agent runs exactly once, after all agents it depends on. -/
structure RunsInOrder (flow : AgentFlow) (g : StateGraph) : Prop where
  once : ∀ id ∈ flow.ids, ∃! k, id ∈ g.ran k
  after : ∀ id dep, flow.Awaits id dep → ∀ k, id ∈ g.ran k → ∃ j < k, dep ∈ g.ran j

/-- Distinct agents, no cycle, and every agent behind the entry point. -/
structure FromEntry (flow : AgentFlow) : Prop where
  nodup : flow.ids.Nodup
  acyclic : Acyclic flow.DependsOn
  entry : flow.entryPoint ∈ flow.ids
  after : ∀ id ∈ flow.ids, flow.AfterEntry id
  routes : flow.conditionalRoutes = []

/-- The chains of dependencies from an agent to the entry point have one length; and
only the entry point names `START`, should the registry have an agent of that name. -/
structure Tiered (flow : AgentFlow) (registry : Dict String AgentRecord) : Prop where
  layers : ∃ rank, Layered flow.Awaits flow.entryPoint {id | id ∈ flow.ids} rank
  start : registry.contains START → ∀ id, flow.DependsOn id START → id = flow.entryPoint

variable {flow : AgentFlow} {registry : Dict String AgentRecord} {lg : LangGraph}
  {graph : StateGraph} {id dep : String} {k : ℕ}

theorem FromEntry.rooted (h : flow.FromEntry) :
    Rooted flow.Awaits flow.entryPoint {id | id ∈ flow.ids} where
  mem := h.entry
  closed := by
    rintro id dep ⟨hdep, hmem⟩
    exact ⟨hdep.mem_ids, hmem⟩
  dep := by
    intro id hid hne
    rcases h.after id hid with heq | hafter
    · exact absurd heq hne
    · -- the first dependency on the way to the entry point is an agent
      obtain ⟨dep, hdep, hrest⟩ := Relation.TransGen.head'_iff.mp hafter
      rcases Relation.ReflTransGen.cases_head hrest with rfl | ⟨next, hnext, -⟩
      · exact ⟨_, hdep, h.entry⟩
      · exact ⟨dep, hdep, hnext.mem_ids⟩

/-! ## The supersteps -/

theorem mem_ran_zero_iff (hlg : lg.Accepts flow registry) (hroutes : flow.conditionalRoutes = []) :
    id ∈ (flow.graph registry).ran 0 ↔ id ∈ flow.ids ∧
      (id = flow.entryPoint ∨ flow.DependsOn id START ∧ registry.contains START) := by
  have hstart : START ∉ flow.ids := by
    intro hmem
    exact (LangGraph.ne_of_takes (hlg.takes START hmem)).1 rfl
  rw [StateGraph.ran, List.mem_filter, decide_eq_true_eq, mem_edges_graph_iff hroutes]
  apply and_congr_right'
  simp only [true_and, hstart, or_false, false_and, and_false]

theorem mem_ran_succ_iff (hlg : lg.Accepts flow registry) (hroutes : flow.conditionalRoutes = []) :
    id ∈ (flow.graph registry).ran (k + 1) ↔
      ∃ dep ∈ (flow.graph registry).ran k, flow.Awaits id dep := by
  have hreserved : ∀ id ∈ flow.ids, id ≠ START ∧ id ≠ END := by
    intro id hid
    exact LangGraph.ne_of_takes (hlg.takes id hid)
  rw [StateGraph.ran, List.mem_filter, decide_eq_true_eq]
  constructor
  · rintro ⟨hid, dep, hran, hedge⟩
    have hdep : dep ∈ flow.ids := mem_nodes_of_mem_ran hran
    rcases (mem_edges_graph_iff hroutes).mp hedge with ⟨rfl, -⟩ | ⟨hdepends, -⟩ | ⟨rfl, -⟩
    · exact absurd rfl (hreserved _ hdep).1
    · exact ⟨dep, hran, hdepends, hdep⟩
    · exact absurd rfl (hreserved _ hid).2
  · rintro ⟨dep, hran, hdepends, hdep⟩
    exact ⟨hdepends.mem_ids, dep, hran,
      (mem_edges_graph_iff hroutes).mpr (.inr (.inl ⟨hdepends, .inr hdep⟩))⟩

/-- When only the entry point hangs on `START`, the supersteps are the waves of the
dependencies. -/
theorem mem_ran_iff (hlg : lg.Accepts flow registry) (hflow : flow.FromEntry)
    (hstart : registry.contains START → ∀ id, flow.DependsOn id START → id = flow.entryPoint) :
    id ∈ (flow.graph registry).ran k ↔ id ∈ Wave flow.Awaits flow.entryPoint k := by
  induction k generalizing id with
  | zero =>
      rw [mem_ran_zero_iff hlg hflow.routes, Wave, Set.mem_singleton_iff]
      constructor
      · rintro ⟨-, heq | ⟨hdep, hknown⟩⟩
        · exact heq
        · exact hstart hknown id hdep
      · rintro rfl
        exact ⟨hflow.entry, .inl rfl⟩
  | succ k ih =>
      rw [mem_ran_succ_iff hlg hflow.routes]
      apply exists_congr
      intro dep
      exact and_congr_left' ih

/-- An agent behind the entry point runs in a superstep after the first. -/
theorem exists_mem_ran_succ (hlg : lg.Accepts flow registry) (hflow : flow.FromEntry)
    (h : Relation.TransGen flow.DependsOn id flow.entryPoint) :
    ∃ k, id ∈ (flow.graph registry).ran (k + 1) := by
  induction h using Relation.TransGen.head_induction_on with
  | single hdep =>
      have hentry := (mem_ran_zero_iff hlg hflow.routes).mpr ⟨hflow.entry, .inl rfl⟩
      exact ⟨0, (mem_ran_succ_iff hlg hflow.routes).mpr ⟨_, hentry, hdep, hflow.entry⟩⟩
  | head hdep _ ih =>
      obtain ⟨k, hran⟩ := ih
      exact ⟨k + 1, (mem_ran_succ_iff hlg hflow.routes).mpr
        ⟨_, hran, hdep, mem_nodes_of_mem_ran hran⟩⟩

/-- An agent that hangs on `START` besides the entry point runs twice. -/
theorem RunsInOrder.eq_entryPoint (hlg : lg.Accepts flow registry) (hflow : flow.FromEntry)
    (h : flow.RunsInOrder (flow.graph registry)) (hknown : registry.contains START)
    (hdep : flow.DependsOn id START) : id = flow.entryPoint := by
  rcases hflow.after id hdep.mem_ids with heq | hafter
  · exact heq
  · have hzero := (mem_ran_zero_iff hlg hflow.routes).mpr ⟨hdep.mem_ids, .inr ⟨hdep, hknown⟩⟩
    obtain ⟨k, hsucc⟩ := exists_mem_ran_succ hlg hflow hafter
    have heq := (h.once id hdep.mem_ids).unique hzero hsucc
    cases heq

theorem runsInOrder_graph_iff (hlg : lg.Accepts flow registry) (hflow : flow.FromEntry) :
    flow.RunsInOrder (flow.graph registry) ↔ flow.Tiered registry := by
  constructor
  · intro h
    have hstart : registry.contains START → ∀ id, flow.DependsOn id START →
        id = flow.entryPoint := by
      intro hknown id hdep
      exact h.eq_entryPoint hlg hflow hknown hdep
    refine ⟨(existsUnique_wave_iff hflow.rooted).mp ?_, hstart⟩
    intro id hid
    simpa only [mem_ran_iff hlg hflow hstart] using h.once id hid
  · intro h
    have hran : ∀ {id k}, id ∈ (flow.graph registry).ran k ↔
        id ∈ Wave flow.Awaits flow.entryPoint k := mem_ran_iff hlg hflow h.start
    obtain ⟨rank, hrank⟩ := h.layers
    constructor
    · intro id hid
      simpa only [hran] using (existsUnique_wave_iff hflow.rooted).mpr h.layers id hid
    · intro id dep hdep k hid
      simp only [hran] at hid ⊢
      exact hrank.exists_lt hflow.rooted hid hdep

end AgentFlow

/-- The graph of a flow runs every agent exactly once, and after all agents it depends
on, just when the chains of dependencies from it to the entry point have one length. -/
theorem LangGraph.runsInOrder_iff (lg : LangGraph) (flow : AgentFlow)
    (registry : Dict String AgentRecord) (hflow : flow.FromEntry) (graph : StateGraph)
    (hgraph : lg.buildLanggraph flow registry = .ok graph) :
    flow.RunsInOrder graph ↔ flow.Tiered registry := by
  obtain ⟨hlg, rfl⟩ := (buildLanggraph_eq_ok_iff hflow.routes).mp hgraph
  exact AgentFlow.runsInOrder_graph_iff hlg hflow

/-- In a closed flow every agent is behind the entry point when no other agent is
without dependencies. -/
theorem AgentFlow.Closed.fromEntry {flow : AgentFlow} (h : flow.Closed)
    (hdep : ∀ id ∈ flow.ids, id = flow.entryPoint ∨ ∃ dep, flow.DependsOn id dep) :
    flow.FromEntry := by
  refine ⟨h.nodup, h.acyclic, h.entry, ?_, h.routes⟩
  refine h.acyclic.induction (List.finite_toSet flow.ids) ?_
  intro id hid ih
  rcases hdep id hid with heq | ⟨dep, hdep⟩
  · exact .inl heq
  · exact afterEntry_of_dependsOn (ih dep (h.deps id dep hdep) hdep) hdep

theorem AgentFlow.chain_fromEntry : chain.FromEntry := by
  apply chain_closed.fromEntry
  intro id hid
  rcases List.mem_pair.mp hid with rfl | rfl
  · exact .inl rfl
  · exact .inr ⟨"translator", ofDeps_dependsOn_iff.mpr ⟨["translator"], by decide, by decide⟩⟩

/-- The translation runs before its summary. -/
theorem LangGraph.runsInOrder_chain :
    AgentFlow.chain.RunsInOrder (AgentFlow.chain.graph ∅) := by
  have hgraph : plain.buildLanggraph .chain ∅ = .ok (AgentFlow.chain.graph ∅) :=
    (buildLanggraph_eq_ok_iff rfl).mpr ⟨AgentFlow.chain_closed.accepts_iff.mpr (by decide), rfl⟩
  rw [runsInOrder_iff plain .chain ∅ AgentFlow.chain_fromEntry _ hgraph]
  refine ⟨⟨(["translator", "summarizer"].idxOf ·), by decide, ?_⟩, ?_⟩
  · rintro id - dep - ⟨hdep, -⟩
    obtain ⟨deps, hmem, hin⟩ := AgentFlow.ofDeps_dependsOn_iff.mp hdep
    rcases List.mem_pair.mp hmem with h | h
    · cases h
      exact absurd hin List.not_mem_nil
    · cases h
      rw [List.mem_singleton.mp hin]
      decide
  · intro hknown
    cases hknown

/-- A review of the summary together with the translation runs twice, the first time
side by side with the summary. -/
theorem LangGraph.not_runsInOrder_of_join :
    ¬ ∀ (lg : LangGraph) (flow : AgentFlow) (registry : Dict String AgentRecord)
      (graph : StateGraph), flow.FromEntry → lg.buildLanggraph flow registry = .ok graph →
        flow.RunsInOrder graph := by
  intro h
  let flow := AgentFlow.ofDeps "translator" [("translator", []), ("summarizer", ["translator"]),
    ("reviewer", ["translator", "summarizer"])]
  have hclosed : flow.Closed := AgentFlow.ofDeps_closed
    (["translator", "summarizer", "reviewer"].idxOf ·) (by decide) (by decide) (by decide)
  have hsummary : flow.Awaits "summarizer" "translator" :=
    ⟨AgentFlow.ofDeps_dependsOn_iff.mpr ⟨["translator"], by decide, by decide⟩, by decide⟩
  have hreview : ∀ dep ∈ ["translator", "summarizer"], flow.Awaits "reviewer" dep := by
    intro dep hdep
    refine ⟨AgentFlow.ofDeps_dependsOn_iff.mpr ⟨_, by decide, hdep⟩, ?_⟩
    revert dep
    decide
  have hflow : flow.FromEntry := by
    apply hclosed.fromEntry
    intro id hid
    have hid' : id = "translator" ∨ id = "summarizer" ∨ id = "reviewer" := by
      simpa [flow, AgentFlow.ofDeps, AgentFlow.ids] using hid
    rcases hid' with rfl | rfl | rfl
    · exact .inl rfl
    · exact .inr ⟨_, hsummary.1⟩
    · exact .inr ⟨_, (hreview "translator" (by decide)).1⟩
  have hlg : plain.Accepts flow ∅ := hclosed.accepts_iff.mpr (by decide)
  have hruns := h plain flow ∅ _ hflow ((buildLanggraph_eq_ok_iff rfl).mpr ⟨hlg, rfl⟩)
  obtain ⟨rank, hrank⟩ := ((AgentFlow.runsInOrder_graph_iff hlg hflow).mp hruns).layers
  have hmem : ∀ {id dep}, flow.Awaits id dep → rank id = rank dep + 1 := by
    intro id dep hdep
    exact hrank.succ id hdep.1.mem_ids dep hdep.2 hdep
  have hshort := hmem (hreview "translator" (by decide))
  have hlong := hmem (hreview "summarizer" (by decide))
  have hmiddle := hmem hsummary
  omega

end SemanticBus
