import SemanticBus.Data.Dag
import SemanticBus.Orchestration.FlowPlanner

/-!
# The graph of a flow

`buildLanggraph` turns a flow into a LangGraph `StateGraph`: a node for each
agent, an edge from `START` to the entry point, an edge for each dependency, the
conditional routes, and an edge to `END` from each agent nothing depends on.

`reaches_end` holds of every graph that is built.  `START` has one edge only, so
an agent is reached from it just when it is the entry point or depends on it
(`start_reaches_iff`): agents without dependencies, which the comment on parallel
groups means to run in parallel, are left out unless they are the entry point.
-/

universe u v

namespace SemanticBus

namespace StateGraph

def START : String := "__start__"

def END : String := "__end__"

end StateGraph

open StateGraph

/-- What the planner relies on in LangGraph: `add_node` refuses some names, among
them the two reserved ones. -/
structure LangGraph where
  takes : String → Bool
  start_refused : takes START = false
  end_refused : takes END = false

/-- The conditional edges from a node; which one is taken is decided by a function
of the state. -/
structure Branch where
  source : String
  ends : List String

structure StateGraph where
  nodes : List String := []
  edges : List (String × String) := []
  branches : List Branch := []

namespace StateGraph

variable (g : StateGraph)

def addNode (lg : LangGraph) (name : String) : Except PyError StateGraph :=
  if lg.takes name ∧ name ∉ g.nodes then .ok { g with nodes := g.nodes ++ [name] }
  else .error .valueError

def addEdge (edge : String × String) : Except PyError StateGraph :=
  if edge.1 = END ∨ edge.2 = START then .error .valueError
  else .ok { g with edges := g.edges ++ [edge] }

/-- A node takes one branch of each name, and the routing functions of the planner
all have the same name. -/
def addConditionalEdges (source : String) (ends : List String) : Except PyError StateGraph :=
  if source ∈ g.branches.map Branch.source then .error .valueError
  else .ok { g with branches := g.branches ++ [⟨source, ends⟩] }

def sources : List String := g.edges.map Prod.fst ++ g.branches.map Branch.source

def targets : List String := g.edges.map Prod.snd ++ g.branches.flatMap Branch.ends

/-- Every edge joins known nodes, and one of them leaves `START`. -/
def compile : Except PyError StateGraph :=
  if (∀ name ∈ g.sources, name ∈ g.nodes ∨ name = START) ∧ START ∈ g.sources ∧
      ∀ name ∈ g.targets, name ∈ g.nodes ∨ name = END then .ok g
  else .error .valueError

def Edge (a b : String) : Prop :=
  (a, b) ∈ g.edges ∨ ∃ branch ∈ g.branches, branch.source = a ∧ b ∈ branch.ends

/-- A path from `START` to `END` leads through the node. -/
structure OnPath (name : String) : Prop where
  from_start : Relation.ReflTransGen g.Edge START name
  to_end : Relation.ReflTransGen g.Edge name END

end StateGraph

namespace AgentFlow

variable (flow : AgentFlow)

def ids : List String := flow.agents.map AgentNode.agentId

def DependsOn (id dep : String) : Prop :=
  ∃ node ∈ flow.agents, node.agentId = id ∧ dep ∈ node.dependsOn

def Awaits (id dep : String) : Prop := flow.DependsOn id dep ∧ dep ∈ flow.ids

/-- The entry point, and every agent that depends on it, directly or indirectly. -/
def AfterEntry (id : String) : Prop :=
  id = flow.entryPoint ∨ Relation.TransGen flow.DependsOn id flow.entryPoint

def dependencyEdges (registry : Dict String AgentRecord) : List (String × String) :=
  flow.agents.flatMap fun node ↦
    (node.dependsOn.filter fun dep ↦ registry.contains dep || dep ∈ flow.ids).map
      fun dep ↦ (dep, node.agentId)

def nodesWithOutgoing : List String :=
  flow.agents.flatMap AgentNode.dependsOn ++ flow.conditionalRoutes.map ConditionalRoute.fromAgent

def terminalNodes : List String :=
  flow.ids.filter fun id ↦ id ∉ flow.nodesWithOutgoing ∧
    ¬ flow.conditionalRoutes.any fun route ↦ route.fromAgent = id

end AgentFlow

def ConditionalRoute.possibleAgents (route : ConditionalRoute) : List String :=
  route.routes.map RouteMapping.nextAgent ++ [route.defaultRoute]

/-- The graph of a flow, or the `ValueError` that adding to it or compiling it
raises. -/
def LangGraph.buildLanggraph (lg : LangGraph) (flow : AgentFlow)
    (registry : Dict String AgentRecord) : Except PyError StateGraph :=
  if ¬ flow.ids.Nodup then .error .valueError
  else do
    let workflow ← flow.ids.foldlM (fun (g : StateGraph) id ↦ g.addNode lg id) {}
    let workflow ← workflow.addEdge (START, flow.entryPoint)
    let workflow ← (flow.dependencyEdges registry).foldlM addEdge workflow
    let workflow ← flow.conditionalRoutes.foldlM
      (fun (g : StateGraph) route ↦ g.addConditionalEdges route.fromAgent route.possibleAgents)
      workflow
    let workflow ← (flow.terminalNodes.map fun id ↦ (id, END)).foldlM addEdge workflow
    workflow.compile

/-! ## What is built -/

/-- The graph of a flow without conditional routes. -/
def AgentFlow.graph (flow : AgentFlow) (registry : Dict String AgentRecord) : StateGraph where
  nodes := flow.ids
  edges := (START, flow.entryPoint) :: (flow.dependencyEdges registry ++
    flow.terminalNodes.map fun id ↦ (id, END))

/-- The flows without conditional routes that a graph is built for. -/
structure LangGraph.Accepts (lg : LangGraph) (flow : AgentFlow)
    (registry : Dict String AgentRecord) : Prop where
  nodup : flow.ids.Nodup
  takes : ∀ id ∈ flow.ids, lg.takes id
  entry : flow.entryPoint ∈ flow.ids ∨ flow.entryPoint = END
  deps : ∀ edge ∈ flow.dependencyEdges registry, edge.1 ∈ flow.ids ∨ edge.1 = START

section Built

variable {lg : LangGraph} {flow : AgentFlow} {registry : Dict String AgentRecord}
  {g graph : StateGraph} {names : List String} {edges : List (String × String)}
  {a b id dep : String}

/-- A computation that did not raise is one whose parts did not. -/
theorem bind_eq_ok_iff {ε : Type u} {α β : Type v} {x : Except ε α} {f : α → Except ε β} {b : β} :
    x >>= f = .ok b ↔ ∃ a, x = .ok a ∧ f a = .ok b := by
  cases x with
  | error e =>
      constructor
      · intro h
        cases h
      · rintro ⟨a, h, -⟩
        cases h
  | ok a =>
      constructor
      · intro h
        exact ⟨a, rfl, h⟩
      · rintro ⟨a', h, h'⟩
        cases h
        exact h'

theorem StateGraph.addNode_eq_ok_iff {name : String} : g.addNode lg name = .ok graph ↔
    (lg.takes name ∧ name ∉ g.nodes) ∧ graph = { g with nodes := g.nodes ++ [name] } := by
  rw [addNode]
  split
  · rename_i hname
    constructor
    · rintro ⟨⟩
      exact ⟨hname, rfl⟩
    · rintro ⟨-, rfl⟩
      rfl
  · rename_i hname
    constructor
    · intro h
      cases h
    · rintro ⟨hok, -⟩
      exact absurd hok hname

theorem StateGraph.foldlM_addNode_eq_ok_iff :
    names.foldlM (fun (g : StateGraph) name ↦ g.addNode lg name) g = .ok graph ↔
      ((∀ name ∈ names, lg.takes name ∧ name ∉ g.nodes) ∧ names.Nodup) ∧
        graph = { g with nodes := g.nodes ++ names } := by
  induction names generalizing g with
  | nil =>
      simp only [List.foldlM_nil, pure, Except.pure, Except.ok.injEq, List.append_nil,
        List.not_mem_nil, false_imp_iff, implies_true, List.nodup_nil, true_and]
      exact eq_comm
  | cons name names ih =>
      rw [List.foldlM_cons, bind_eq_ok_iff, List.forall_mem_cons, List.nodup_cons]
      constructor
      · rintro ⟨_, hname, hrest⟩
        obtain ⟨hok, rfl⟩ := addNode_eq_ok_iff.mp hname
        obtain ⟨⟨hoks, hnodup⟩, rfl⟩ := ih.mp hrest
        simp only [List.mem_append, List.mem_singleton, not_or] at hoks
        refine ⟨⟨⟨hok, ?_⟩, ?_, hnodup⟩, ?_⟩
        · intro other hother
          exact ⟨(hoks other hother).1, (hoks other hother).2.1⟩
        · intro hmem
          exact (hoks name hmem).2.2 rfl
        · simp only [List.append_assoc, List.singleton_append]
      · rintro ⟨⟨⟨hok, hoks⟩, hnew, hnodup⟩, rfl⟩
        refine ⟨_, addNode_eq_ok_iff.mpr ⟨hok, rfl⟩, ih.mpr ⟨⟨?_, hnodup⟩, ?_⟩⟩
        · intro other hother
          refine ⟨(hoks other hother).1, ?_⟩
          rw [List.mem_append, List.mem_singleton]
          rintro (hin | rfl)
          · exact (hoks other hother).2 hin
          · exact hnew hother
        · simp only [List.append_assoc, List.singleton_append]

theorem StateGraph.addEdge_eq_ok_iff {edge : String × String} : g.addEdge edge = .ok graph ↔
    (edge.1 ≠ END ∧ edge.2 ≠ START) ∧ graph = { g with edges := g.edges ++ [edge] } := by
  rw [addEdge]
  split
  · rename_i hedge
    constructor
    · intro h
      cases h
    · rintro ⟨hok, -⟩
      exact absurd hedge (not_or.mpr hok)
  · rename_i hedge
    constructor
    · rintro ⟨⟩
      exact ⟨not_or.mp hedge, rfl⟩
    · rintro ⟨-, rfl⟩
      rfl

theorem StateGraph.foldlM_addEdge_eq_ok_iff :
    edges.foldlM addEdge g = .ok graph ↔
      (∀ edge ∈ edges, edge.1 ≠ END ∧ edge.2 ≠ START) ∧
        graph = { g with edges := g.edges ++ edges } := by
  induction edges generalizing g with
  | nil =>
      simp only [List.foldlM_nil, pure, Except.pure, Except.ok.injEq, List.append_nil,
        List.not_mem_nil, false_imp_iff, implies_true, true_and]
      exact eq_comm
  | cons edge edges ih =>
      rw [List.foldlM_cons, bind_eq_ok_iff, List.forall_mem_cons]
      constructor
      · rintro ⟨_, hedge, hrest⟩
        obtain ⟨hok, rfl⟩ := addEdge_eq_ok_iff.mp hedge
        obtain ⟨hoks, rfl⟩ := ih.mp hrest
        refine ⟨⟨hok, hoks⟩, ?_⟩
        simp only [List.append_assoc, List.singleton_append]
      · rintro ⟨⟨hok, hoks⟩, rfl⟩
        refine ⟨_, addEdge_eq_ok_iff.mpr ⟨hok, rfl⟩, ih.mpr ⟨hoks, ?_⟩⟩
        simp only [List.append_assoc, List.singleton_append]

theorem StateGraph.compile_eq_ok_iff :
    g.compile = .ok graph ↔ ((∀ name ∈ g.sources, name ∈ g.nodes ∨ name = START) ∧
      START ∈ g.sources ∧ ∀ name ∈ g.targets, name ∈ g.nodes ∨ name = END) ∧ graph = g := by
  rw [compile]
  split
  · rename_i h
    constructor
    · rintro ⟨⟩
      exact ⟨h, rfl⟩
    · rintro ⟨-, rfl⟩
      rfl
  · rename_i h
    constructor
    · intro hok
      cases hok
    · rintro ⟨hok, -⟩
      exact absurd hok h

theorem AgentFlow.mem_dependencyEdges_iff : (dep, id) ∈ flow.dependencyEdges registry ↔
    flow.DependsOn id dep ∧ (registry.contains dep ∨ dep ∈ flow.ids) := by
  simp only [dependencyEdges, DependsOn, List.mem_flatMap, List.mem_map, List.mem_filter,
    Prod.mk.injEq, Bool.or_eq_true, decide_eq_true_eq]
  constructor
  · rintro ⟨node, hnode, _, ⟨hdep, hknown⟩, rfl, rfl⟩
    exact ⟨⟨node, hnode, rfl, hdep⟩, hknown⟩
  · rintro ⟨⟨node, hnode, rfl, hdep⟩, hknown⟩
    exact ⟨node, hnode, dep, ⟨hdep, hknown⟩, rfl, rfl⟩

theorem AgentFlow.DependsOn.mem_ids (h : flow.DependsOn id dep) : id ∈ flow.ids := by
  obtain ⟨node, hnode, rfl, -⟩ := h
  exact List.mem_map_of_mem hnode

theorem AgentFlow.mem_terminalNodes_iff (hroutes : flow.conditionalRoutes = []) :
    id ∈ flow.terminalNodes ↔ id ∈ flow.ids ∧ ∀ a, ¬ flow.DependsOn a id := by
  simp only [terminalNodes, nodesWithOutgoing, hroutes, List.map_nil, List.append_nil,
    List.any_nil, List.mem_filter, List.mem_flatMap, decide_eq_true_eq, DependsOn]
  apply and_congr_right'
  constructor
  · rintro ⟨hnone, -⟩ a ⟨node, hnode, -, hdep⟩
    exact hnone ⟨node, hnode, hdep⟩
  · intro hnone
    refine ⟨?_, Bool.false_ne_true⟩
    rintro ⟨node, hnode, hdep⟩
    exact hnone node.agentId ⟨node, hnode, rfl, hdep⟩

theorem LangGraph.ne_of_takes (h : lg.takes id) : id ≠ START ∧ id ≠ END := by
  constructor
  · rintro rfl
    rw [lg.start_refused] at h
    cases h
  · rintro rfl
    rw [lg.end_refused] at h
    cases h

theorem AgentFlow.mem_sources_graph_iff : a ∈ (flow.graph registry).sources ↔
    a = START ∨ (∃ id, (a, id) ∈ flow.dependencyEdges registry) ∨ a ∈ flow.terminalNodes := by
  simp [AgentFlow.graph, sources]

theorem AgentFlow.entryPoint_mem_targets : flow.entryPoint ∈ (flow.graph registry).targets := by
  simp [AgentFlow.graph, targets]

theorem AgentFlow.of_mem_targets_graph (h : a ∈ (flow.graph registry).targets) :
    a = flow.entryPoint ∨ (∃ dep, (dep, a) ∈ flow.dependencyEdges registry) ∨ a = END := by
  simp only [AgentFlow.graph, targets, List.flatMap_nil, List.append_nil, List.mem_map,
    List.mem_cons, List.mem_append] at h
  obtain ⟨edge, rfl | hedge | ⟨id, -, rfl⟩, rfl⟩ := h
  · exact .inl rfl
  · exact .inr (.inl ⟨edge.1, hedge⟩)
  · exact .inr (.inr rfl)

theorem AgentFlow.mem_ids_of_dependencyEdges {edge : String × String}
    (h : edge ∈ flow.dependencyEdges registry) : edge.2 ∈ flow.ids :=
  (AgentFlow.mem_dependencyEdges_iff.mp h).1.mem_ids

theorem AgentFlow.mem_ids_of_terminalNodes (h : id ∈ flow.terminalNodes) : id ∈ flow.ids :=
  List.mem_of_mem_filter h

/-- The edges of an accepted flow can be added. -/
theorem LangGraph.Accepts.edges_ok (h : lg.Accepts flow registry) :
    flow.entryPoint ≠ START ∧
      (∀ edge ∈ flow.dependencyEdges registry, edge.1 ≠ END ∧ edge.2 ≠ START) ∧
      ∀ edge ∈ flow.terminalNodes.map fun id ↦ (id, END), edge.1 ≠ END ∧ edge.2 ≠ START := by
  have hne : START ≠ END := by decide
  refine ⟨?_, ?_, ?_⟩
  · rcases h.entry with hentry | hentry
    · exact (ne_of_takes (h.takes _ hentry)).1
    · rw [hentry]
      exact hne.symm
  · intro edge hedge
    refine ⟨?_, (ne_of_takes (h.takes _ (AgentFlow.mem_ids_of_dependencyEdges hedge))).1⟩
    rcases h.deps edge hedge with hdep | hdep
    · exact (ne_of_takes (h.takes _ hdep)).2
    · rw [hdep]
      exact hne
  · rw [List.forall_mem_map]
    intro id hmem
    exact ⟨(ne_of_takes (h.takes id (AgentFlow.mem_ids_of_terminalNodes hmem))).2, hne.symm⟩

/-- The graph of an accepted flow can be compiled. -/
theorem LangGraph.Accepts.compile_ok (h : lg.Accepts flow registry) :
    (∀ name ∈ (flow.graph registry).sources, name ∈ flow.ids ∨ name = START) ∧
      START ∈ (flow.graph registry).sources ∧
      ∀ name ∈ (flow.graph registry).targets, name ∈ flow.ids ∨ name = END := by
  refine ⟨?_, AgentFlow.mem_sources_graph_iff.mpr (.inl rfl), ?_⟩
  · intro name hname
    rcases AgentFlow.mem_sources_graph_iff.mp hname with hstart | ⟨id, hedge⟩ | hmem
    · exact .inr hstart
    · exact h.deps _ hedge
    · exact .inl (AgentFlow.mem_ids_of_terminalNodes hmem)
  · intro name hname
    rcases AgentFlow.of_mem_targets_graph hname with rfl | ⟨dep, hedge⟩ | hend
    · exact h.entry
    · exact .inl (AgentFlow.mem_ids_of_dependencyEdges hedge)
    · exact .inr hend

theorem LangGraph.buildLanggraph_eq_ok_iff (hroutes : flow.conditionalRoutes = []) :
    lg.buildLanggraph flow registry = .ok graph ↔
      lg.Accepts flow registry ∧ graph = flow.graph registry := by
  rw [buildLanggraph, hroutes]
  split
  · rename_i hdup
    constructor
    · intro h
      cases h
    · rintro ⟨h, -⟩
      exact absurd h.nodup hdup
  · simp only [List.foldlM_nil, bind_eq_ok_iff, addEdge_eq_ok_iff, foldlM_addEdge_eq_ok_iff,
      foldlM_addNode_eq_ok_iff, compile_eq_ok_iff]
    constructor
    · rintro ⟨_, ⟨⟨hnames, hnodup⟩, rfl⟩, _, ⟨hentry, rfl⟩, _, ⟨hdeps, rfl⟩, _, ⟨⟩, _,
        ⟨hterminal, rfl⟩, ⟨hsources, -, htargets⟩, rfl⟩
      have hgraph : ({ nodes := [] ++ flow.ids
                       edges := [] ++ [(START, flow.entryPoint)] ++ flow.dependencyEdges registry ++
                         flow.terminalNodes.map fun id ↦ (id, END) } : StateGraph) =
          flow.graph registry := by
        simp only [AgentFlow.graph, List.nil_append, List.cons_append]
      rw [hgraph] at hsources htargets
      refine ⟨⟨hnodup, fun id hid ↦ (hnames id hid).1, ?_, ?_⟩, hgraph⟩
      · exact htargets flow.entryPoint AgentFlow.entryPoint_mem_targets
      · rintro ⟨dep, id⟩ hedge
        exact hsources dep (AgentFlow.mem_sources_graph_iff.mpr (.inr (.inl ⟨id, hedge⟩)))
    · rintro ⟨h, rfl⟩
      have hne : START ≠ END := by decide
      obtain ⟨hentry, hdeps, hterminal⟩ := h.edges_ok
      refine ⟨_, ⟨⟨fun id hid ↦ ⟨h.takes id hid, List.not_mem_nil⟩, h.nodup⟩, rfl⟩, _,
        ⟨⟨hne, hentry⟩, rfl⟩, _, ⟨hdeps, rfl⟩, _, rfl, _, ⟨hterminal, rfl⟩, ?_⟩
      simp only [List.nil_append, List.cons_append]
      exact ⟨h.compile_ok, rfl⟩

/-! ## Paths -/

theorem AgentFlow.mem_edges_graph_iff (hroutes : flow.conditionalRoutes = []) :
    (a, b) ∈ (flow.graph registry).edges ↔ a = START ∧ b = flow.entryPoint ∨
      flow.DependsOn b a ∧ (registry.contains a ∨ a ∈ flow.ids) ∨
      b = END ∧ a ∈ flow.ids ∧ ∀ c, ¬ flow.DependsOn c a := by
  rw [← mem_terminalNodes_iff hroutes, ← mem_dependencyEdges_iff]
  simp only [AgentFlow.graph, List.mem_cons, List.mem_append, List.mem_map, Prod.mk.injEq]
  apply or_congr_right
  apply or_congr_right
  constructor
  · rintro ⟨id, hid, rfl, rfl⟩
    exact ⟨rfl, hid⟩
  · rintro ⟨rfl, hid⟩
    exact ⟨a, hid, rfl, rfl⟩

theorem AgentFlow.edge_graph_iff (hroutes : flow.conditionalRoutes = []) :
    (flow.graph registry).Edge a b ↔ a = START ∧ b = flow.entryPoint ∨
      flow.DependsOn b a ∧ (registry.contains a ∨ a ∈ flow.ids) ∨
      b = END ∧ a ∈ flow.ids ∧ ∀ c, ¬ flow.DependsOn c a := by
  rw [← mem_edges_graph_iff hroutes, Edge]
  simp only [AgentFlow.graph, List.not_mem_nil, false_and, exists_false, or_false]

/-- Without cycles among the dependencies, `END` is reached from every agent. -/
theorem AgentFlow.reaches_end (hroutes : flow.conditionalRoutes = [])
    (hacyclic : Acyclic flow.DependsOn) :
    ∀ id ∈ flow.ids, Relation.ReflTransGen (flow.graph registry).Edge id END := by
  refine hacyclic.swap.induction (List.finite_toSet flow.ids) ?_
  -- the edges are followed from an agent to those that depend on it
  intro id hid ih
  by_cases hnext : ∃ next, flow.DependsOn next id
  · obtain ⟨next, hdep⟩ := hnext
    have hedge : (flow.graph registry).Edge id next :=
      (edge_graph_iff hroutes).mpr (.inr (.inl ⟨hdep, .inr hid⟩))
    exact (ih next hdep.mem_ids hdep).head hedge
  · exact .single ((edge_graph_iff hroutes).mpr
      (.inr (.inr ⟨rfl, hid, not_exists.mp hnext⟩)))

/-- The agents behind the entry point are reached from `START`. -/
theorem AgentFlow.AfterEntry.reached (hroutes : flow.conditionalRoutes = [])
    (hdeps : ∀ id dep, flow.DependsOn id dep → dep ∈ flow.ids) (h : flow.AfterEntry id) :
    Relation.ReflTransGen (flow.graph registry).Edge START id := by
  have hentry : Relation.ReflTransGen (flow.graph registry).Edge START flow.entryPoint :=
    .single ((edge_graph_iff hroutes).mpr (.inl ⟨rfl, rfl⟩))
  have hedge : ∀ {id dep}, flow.DependsOn id dep → (flow.graph registry).Edge dep id := by
    intro id dep hdep
    exact (edge_graph_iff hroutes).mpr (.inr (.inl ⟨hdep, .inr (hdeps id dep hdep)⟩))
  rcases h with rfl | h
  · exact hentry
  · induction h using Relation.TransGen.head_induction_on with
    | single hdep => exact hentry.tail (hedge hdep)
    | head hdep _ ih => exact ih.tail (hedge hdep)

theorem AgentFlow.afterEntry_of_dependsOn (h : flow.AfterEntry dep)
    (hdep : flow.DependsOn id dep) : flow.AfterEntry id := by
  rcases h with rfl | h
  · exact .inr (.single hdep)
  · exact .inr (.head hdep h)

/-- Nothing else is. -/
theorem AgentFlow.afterEntry_of_reached (hroutes : flow.conditionalRoutes = [])
    (hdeps : ∀ id dep, flow.DependsOn id dep → dep ∈ flow.ids)
    (hreserved : ∀ id ∈ flow.ids, id ≠ START ∧ id ≠ END)
    (h : Relation.ReflTransGen (flow.graph registry).Edge START a) :
    a = START ∨ a = END ∨ flow.AfterEntry a := by
  induction h with
  | refl => exact .inl rfl
  | @tail c a _ hedge ih =>
      rcases (edge_graph_iff hroutes).mp hedge with ⟨-, rfl⟩ | ⟨hdep, -⟩ | ⟨rfl, -⟩
      · exact .inr (.inr (.inl rfl))
      · have hne := hreserved c (hdeps a c hdep)
        rcases ih with rfl | rfl | hafter
        · exact absurd rfl hne.1
        · exact absurd rfl hne.2
        · exact .inr (.inr (afterEntry_of_dependsOn hafter hdep))
      · exact .inr (.inl rfl)

end Built

/-- Distinct agents, the entry point and the dependencies among them, no cycle,
and no conditional routes. -/
structure AgentFlow.Closed (flow : AgentFlow) : Prop where
  nodup : flow.ids.Nodup
  entry : flow.entryPoint ∈ flow.ids
  deps : ∀ id dep, flow.DependsOn id dep → dep ∈ flow.ids
  acyclic : Acyclic flow.DependsOn
  routes : flow.conditionalRoutes = []

section Closed

variable {lg : LangGraph} {flow : AgentFlow} {registry : Dict String AgentRecord}
  {graph : StateGraph} {id : String}

/-- The graph of a closed flow is built unless LangGraph refuses one of its names. -/
theorem AgentFlow.Closed.accepts_iff (h : flow.Closed) :
    lg.Accepts flow registry ↔ ∀ id ∈ flow.ids, lg.takes id := by
  constructor
  · exact LangGraph.Accepts.takes
  · intro htakes
    refine ⟨h.nodup, htakes, .inl h.entry, ?_⟩
    rintro ⟨dep, id⟩ hedge
    exact .inl (h.deps id dep (AgentFlow.mem_dependencyEdges_iff.mp hedge).1)

theorem AgentFlow.Closed.onPath_graph_iff (h : flow.Closed) (htakes : ∀ id ∈ flow.ids, lg.takes id)
    (hid : id ∈ flow.ids) : (flow.graph registry).OnPath id ↔ flow.AfterEntry id := by
  constructor
  · intro honPath
    have hreserved : ∀ id ∈ flow.ids, id ≠ START ∧ id ≠ END := by
      intro id hid
      exact LangGraph.ne_of_takes (htakes id hid)
    rcases AgentFlow.afterEntry_of_reached h.routes h.deps hreserved honPath.from_start
      with hstart | hend | hafter
    · exact absurd hstart (hreserved id hid).1
    · exact absurd hend (hreserved id hid).2
    · exact hafter
  · intro hafter
    exact ⟨hafter.reached h.routes h.deps, AgentFlow.reaches_end h.routes h.acyclic id hid⟩

end Closed

/-- LangGraph as it takes every name but the reserved ones. -/
def LangGraph.plain : LangGraph where
  takes name := name ≠ START ∧ name ≠ END
  start_refused := by decide
  end_refused := by decide

def AgentFlow.ofDeps (entryPoint : String) (agents : List (String × List String)) : AgentFlow where
  intentSummary := ""
  agents := agents.map fun e ↦
    { agentId := e.1, capability := "", dependsOn := e.2, description := "" }
  entryPoint := entryPoint
  reasoning := ""
  confidence := 1

theorem AgentFlow.ofDeps_dependsOn_iff {entryPoint id dep : String}
    {agents : List (String × List String)} : (ofDeps entryPoint agents).DependsOn id dep ↔
      ∃ deps, (id, deps) ∈ agents ∧ dep ∈ deps := by
  simp only [DependsOn, ofDeps, List.mem_map]
  constructor
  · rintro ⟨_, ⟨⟨id, deps⟩, hmem, rfl⟩, rfl, hdep⟩
    exact ⟨deps, hmem, hdep⟩
  · rintro ⟨deps, hmem, hdep⟩
    exact ⟨_, ⟨(id, deps), hmem, rfl⟩, rfl, hdep⟩

theorem AgentFlow.ofDeps_closed {entryPoint : String} {agents : List (String × List String)}
    (rank : String → ℕ) (hnodup : (agents.map Prod.fst).Nodup)
    (hentry : entryPoint ∈ agents.map Prod.fst)
    (h : ∀ e ∈ agents, ∀ dep ∈ e.2, dep ∈ agents.map Prod.fst ∧ rank dep < rank e.1) :
    (ofDeps entryPoint agents).Closed := by
  have hids : (ofDeps entryPoint agents).ids = agents.map Prod.fst := by
    simp only [ids, ofDeps, List.map_map, Function.comp_def]
  have hdep : ∀ id dep, (ofDeps entryPoint agents).DependsOn id dep →
      dep ∈ agents.map Prod.fst ∧ rank dep < rank id := by
    intro id dep hdep
    obtain ⟨deps, hmem, hdep⟩ := ofDeps_dependsOn_iff.mp hdep
    exact h _ hmem dep hdep
  exact
    { nodup := hids ▸ hnodup
      entry := hids ▸ hentry
      deps := fun id dep hd ↦ hids ▸ (hdep id dep hd).1
      acyclic := Acyclic.of_rank fun id dep hd ↦ (hdep id dep hd).2
      routes := rfl }

/-- A graph is built for a closed flow whose names LangGraph takes, and all agents
are on a path through it just when each of them is the entry point or depends on it. -/
theorem LangGraph.forall_onPath_iff (lg : LangGraph) (flow : AgentFlow)
    (registry : Dict String AgentRecord) (hflow : flow.Closed) :
    ((∃ graph, lg.buildLanggraph flow registry = .ok graph) ↔ ∀ id ∈ flow.ids, lg.takes id) ∧
      ∀ graph, lg.buildLanggraph flow registry = .ok graph →
        ((∀ id ∈ flow.ids, graph.OnPath id) ↔ ∀ id ∈ flow.ids, flow.AfterEntry id) := by
  have hbuild : ∀ graph, lg.buildLanggraph flow registry = .ok graph ↔
      (∀ id ∈ flow.ids, lg.takes id) ∧ graph = flow.graph registry := by
    intro graph
    rw [buildLanggraph_eq_ok_iff hflow.routes, hflow.accepts_iff]
  constructor
  · constructor
    · rintro ⟨graph, hgraph⟩
      exact ((hbuild graph).mp hgraph).1
    · intro htakes
      exact ⟨_, (hbuild _).mpr ⟨htakes, rfl⟩⟩
  · intro graph hgraph
    obtain ⟨htakes, rfl⟩ := (hbuild graph).mp hgraph
    apply forall₂_congr
    intro id hid
    exact hflow.onPath_graph_iff htakes hid

/-- A translation, and the summary of what it returns. -/
def AgentFlow.chain : AgentFlow :=
  ofDeps "translator" [("translator", []), ("summarizer", ["translator"])]

theorem AgentFlow.chain_closed : chain.Closed :=
  ofDeps_closed (["translator", "summarizer"].idxOf ·) (by decide) (by decide) (by decide)

theorem LangGraph.forall_onPath_chain :
    ∃ graph, plain.buildLanggraph .chain ∅ = .ok graph ∧
      ∀ id ∈ AgentFlow.chain.ids, graph.OnPath id := by
  obtain ⟨hbuild, hpath⟩ := forall_onPath_iff plain .chain ∅ AgentFlow.chain_closed
  obtain ⟨graph, hgraph⟩ := hbuild.mpr (by decide)
  refine ⟨graph, hgraph, (hpath graph hgraph).mpr ?_⟩
  have hdep : AgentFlow.chain.DependsOn "summarizer" "translator" :=
    AgentFlow.ofDeps_dependsOn_iff.mpr ⟨["translator"], by decide, by decide⟩
  intro id hid
  rcases List.mem_pair.mp hid with rfl | rfl
  · exact .inl rfl
  · exact .inr (.single hdep)

/-- Two agents without dependencies: only the entry point is reached. -/
theorem LangGraph.not_onPath_of_parallel :
    ¬ ∀ (lg : LangGraph) (flow : AgentFlow) (registry : Dict String AgentRecord)
      (graph : StateGraph), flow.Closed → lg.buildLanggraph flow registry = .ok graph →
        ∀ id ∈ flow.ids, graph.OnPath id := by
  intro h
  let flow := AgentFlow.ofDeps "translator" [("translator", []), ("summarizer", [])]
  have hclosed : flow.Closed :=
    AgentFlow.ofDeps_closed String.length (by decide) (by decide) (by decide)
  have htakes : ∀ id ∈ flow.ids, plain.takes id := by decide
  have hbuild : plain.buildLanggraph flow ∅ = .ok (flow.graph ∅) :=
    (buildLanggraph_eq_ok_iff rfl).mpr ⟨hclosed.accepts_iff.mpr htakes, rfl⟩
  have honPath := h plain flow ∅ _ hclosed hbuild "summarizer" (by decide)
  rcases (hclosed.onPath_graph_iff htakes (by decide)).mp honPath with heq | hafter
  · exact absurd heq (by decide)
  · obtain ⟨dep, hdep, -⟩ := Relation.TransGen.head'_iff.mp hafter
    obtain ⟨deps, hmem, hin⟩ := AgentFlow.ofDeps_dependsOn_iff.mp hdep
    have hnil : deps = [] := by simpa using hmem
    rw [hnil] at hin
    exact absurd hin List.not_mem_nil

end SemanticBus
