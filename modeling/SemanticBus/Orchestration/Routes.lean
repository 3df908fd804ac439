import SemanticBus.Orchestration.Graph

/-!
# Conditional routes

A conditional route looks a field of its agent's output up and leads to the agent that the
value is mapped to, or to a default.  `GraphBuilder.built_iff` says which flows with such routes
a graph is built for, by any builder that refuses what LangGraph's is documented to refuse.
-/

universe u v w

namespace SemanticBus

open StateGraph

/-- The state that flows through the graph, as far as the routes use it. -/
structure AgentFlowState where
  agentOutputs : Dict String JsonObj := ∅

/-- The routing function of a conditional route; `format` prints a value that is no string. -/
def ConditionalRoute.routeFn (route : ConditionalRoute) (format : Json → String)
    (state : AgentFlowState) : String :=
  let agentOutput := (state.agentOutputs.get? route.fromAgent).getD []
  let conditionValue := match agentOutput.get route.conditionField with
    | .str text => text
    | value => format value
  match route.routes.find? (·.conditionValue = conditionValue) with
  | some mapping => mapping.nextAgent
  | none => route.defaultRoute

def branchOf (route : ConditionalRoute) : Branch := ⟨route.fromAgent, route.possibleAgents⟩

namespace AgentFlow

variable (flow : AgentFlow)

def routedGraph (registry : Dict String AgentRecord) : StateGraph where
  nodes := flow.ids
  edges := (START, flow.entryPoint) :: (flow.dependencyEdges registry ++
    flow.terminalNodes.map fun id ↦ (id, END))
  branches := flow.conditionalRoutes.map branchOf

end AgentFlow

structure LangGraph.Routable (lg : LangGraph) (flow : AgentFlow)
    (registry : Dict String AgentRecord) : Prop where
  accepts : lg.Accepts flow registry
  once : (flow.conditionalRoutes.map ConditionalRoute.fromAgent).Nodup
  source : ∀ route ∈ flow.conditionalRoutes, route.fromAgent ∈ flow.ids ∨ route.fromAgent = START
  target : ∀ route ∈ flow.conditionalRoutes, ∀ id ∈ route.possibleAgents, id ∈ flow.ids ∨ id = END

/-- What the planner uses of LangGraph: graphs under construction, and the calls that add to one
and compile it, or raise. -/
structure GraphBuilder where
  Graph : Type
  new : Graph
  addNode : Graph → String → Except PyError Graph
  addEdge : Graph → String × String → Except PyError Graph
  addConditionalEdges : Graph → String → List String → Except PyError Graph
  compile : Graph → Except PyError Graph

namespace GraphBuilder

/-- The graph of a flow, or what adding to it or compiling it raises. -/
def buildLanggraph (b : GraphBuilder) (flow : AgentFlow) (registry : Dict String AgentRecord) :
    Except PyError b.Graph :=
  if ¬ flow.ids.Nodup then .error .valueError
  else do
    let workflow ← flow.ids.foldlM b.addNode b.new
    let workflow ← b.addEdge workflow (START, flow.entryPoint)
    let workflow ← (flow.dependencyEdges registry).foldlM b.addEdge workflow
    let workflow ← flow.conditionalRoutes.foldlM
      (fun g route ↦ b.addConditionalEdges g route.fromAgent route.possibleAgents) workflow
    let workflow ← (flow.terminalNodes.map fun id ↦ (id, END)).foldlM b.addEdge workflow
    b.compile workflow

/-- The calls refuse what they are documented to refuse, and add what they are given; `view` is
what has been added to a graph. -/
structure Documented (b : GraphBuilder) (lg : LangGraph) (view : b.Graph → StateGraph) :
    Prop where
  new : view b.new = {}
  /-- A name that is reserved or in use is refused. -/
  addNode : ∀ g name, (b.addNode g name).map view = (view g).addNode lg name
  /-- So is an edge from `END` or to `START`. -/
  addEdge : ∀ g edge, (b.addEdge g edge).map view = (view g).addEdge edge
  /-- So is a second branch of one name from a node. -/
  addConditionalEdges : ∀ g source ends,
    (b.addConditionalEdges g source ends).map view = (view g).addConditionalEdges source ends
  /-- So is a graph with an edge or a branch of an unknown node, or with none from `START`. -/
  compile : ∀ g, (b.compile g).map view = (view g).compile

end GraphBuilder

variable {lg : LangGraph} {flow : AgentFlow} {registry : Dict String AgentRecord}
  {g graph : StateGraph} {routes : List ConditionalRoute} {a : String}

/-! ## What is built -/

theorem StateGraph.addConditionalEdges_eq_ok_iff {source : String} {ends : List String} :
    g.addConditionalEdges source ends = .ok graph ↔
      source ∉ g.branches.map Branch.source ∧
        graph = { g with branches := g.branches ++ [⟨source, ends⟩] } := by
  rw [addConditionalEdges]
  split
  · rename_i hused
    exact iff_of_false nofun fun h ↦ h.1 hused
  · rename_i hfree
    constructor
    · rintro ⟨⟩
      exact ⟨hfree, rfl⟩
    · rintro ⟨-, rfl⟩
      rfl

theorem StateGraph.foldlM_addConditionalEdges_eq_ok_iff :
    routes.foldlM (fun (g : StateGraph) (route : ConditionalRoute) ↦
        g.addConditionalEdges route.fromAgent route.possibleAgents) g = .ok graph ↔
      ((∀ route ∈ routes, route.fromAgent ∉ g.branches.map Branch.source) ∧
        (routes.map ConditionalRoute.fromAgent).Nodup) ∧
        graph = { g with branches := g.branches ++ routes.map branchOf } := by
  induction routes generalizing g with
  | nil =>
      simp only [List.foldlM_nil, pure, Except.pure, Except.ok.injEq, List.map_nil, List.append_nil,
        List.not_mem_nil, false_imp_iff, implies_true, List.nodup_nil, true_and]
      exact eq_comm
  | cons route routes ih =>
      rw [List.foldlM_cons, bind_eq_ok_iff, List.forall_mem_cons, List.map_cons, List.nodup_cons]
      constructor
      · rintro ⟨_, hroute, hrest⟩
        obtain ⟨hfree, rfl⟩ := addConditionalEdges_eq_ok_iff.mp hroute
        obtain ⟨⟨hfrees, hnodup⟩, rfl⟩ := ih.mp hrest
        simp only [List.map_append, List.map_cons, List.map_nil, List.mem_append,
          List.mem_singleton, not_or] at hfrees
        refine ⟨⟨⟨hfree, fun other hother ↦ (hfrees other hother).1⟩, ?_, hnodup⟩, ?_⟩
        · intro hmem
          obtain ⟨other, hother, hsame⟩ := List.mem_map.mp hmem
          exact (hfrees other hother).2 hsame
        · simp only [List.append_assoc, List.singleton_append, List.map_cons, branchOf]
      · rintro ⟨⟨⟨hfree, hfrees⟩, hnew, hnodup⟩, rfl⟩
        refine ⟨_, addConditionalEdges_eq_ok_iff.mpr ⟨hfree, rfl⟩, ih.mpr ⟨⟨?_, hnodup⟩, ?_⟩⟩
        · intro other hother
          rw [List.map_append, List.mem_append, List.map_cons, List.map_nil, List.mem_singleton]
          rintro (hin | hsame)
          · exact hfrees other hother hin
          · have hsame' : other.fromAgent = route.fromAgent := hsame
            exact hnew (hsame' ▸ List.mem_map_of_mem hother)
        · simp only [List.append_assoc, List.singleton_append, List.map_cons, branchOf]

theorem AgentFlow.mem_targets_routedGraph_iff : a ∈ (flow.routedGraph registry).targets ↔
    a ∈ (flow.graph registry).targets ∨ ∃ route ∈ flow.conditionalRoutes, a ∈ route.possibleAgents := by
  simp [routedGraph, AgentFlow.graph, targets, branchOf, or_assoc]

theorem AgentFlow.mem_sources_routedGraph_iff : a ∈ (flow.routedGraph registry).sources ↔
    a ∈ (flow.graph registry).sources ∨ ∃ route ∈ flow.conditionalRoutes, route.fromAgent = a := by
  simp [routedGraph, AgentFlow.graph, sources, branchOf, or_assoc]

/-- The graph of a routable flow can be compiled. -/
theorem LangGraph.Routable.compile_ok (h : lg.Routable flow registry) :
    (∀ name ∈ (flow.routedGraph registry).sources, name ∈ flow.ids ∨ name = START) ∧
      START ∈ (flow.routedGraph registry).sources ∧
      ∀ name ∈ (flow.routedGraph registry).targets, name ∈ flow.ids ∨ name = END := by
  obtain ⟨hsources, hstart, htargets⟩ := h.accepts.compile_ok
  refine ⟨?_, AgentFlow.mem_sources_routedGraph_iff.mpr (.inl hstart), ?_⟩
  · intro name hname
    rcases AgentFlow.mem_sources_routedGraph_iff.mp hname with hname | ⟨route, hroute, rfl⟩
    · exact hsources name hname
    · exact h.source route hroute
  · intro name hname
    rcases AgentFlow.mem_targets_routedGraph_iff.mp hname with hname | ⟨route, hroute, hname⟩
    · exact htargets name hname
    · exact h.target route hroute name hname

theorem LangGraph.buildLanggraph_routed_iff (lg : LangGraph) (flow : AgentFlow)
    (registry : Dict String AgentRecord) (graph : StateGraph) :
    lg.buildLanggraph flow registry = .ok graph ↔
      lg.Routable flow registry ∧ graph = flow.routedGraph registry := by
  rw [buildLanggraph]
  split
  · rename_i hdup
    exact iff_of_false (fun h ↦ by cases h) fun h ↦ hdup h.1.accepts.nodup
  · simp only [bind_eq_ok_iff, addEdge_eq_ok_iff, foldlM_addEdge_eq_ok_iff,
      foldlM_addNode_eq_ok_iff, foldlM_addConditionalEdges_eq_ok_iff, compile_eq_ok_iff]
    constructor
    · rintro ⟨_, ⟨⟨hnames, hnodup⟩, rfl⟩, _, ⟨hentry, rfl⟩, _, ⟨hdeps, rfl⟩, _,
        ⟨⟨-, honce⟩, rfl⟩, _, ⟨hterminal, rfl⟩, ⟨hsources, -, htargets⟩, rfl⟩
      have hgraph : ({ nodes := [] ++ flow.ids
                       edges := [] ++ [(START, flow.entryPoint)] ++ flow.dependencyEdges registry ++
                         flow.terminalNodes.map fun id ↦ (id, END)
                       branches := [] ++ flow.conditionalRoutes.map branchOf } : StateGraph) =
          flow.routedGraph registry := by
        simp only [AgentFlow.routedGraph, List.nil_append, List.cons_append]
      rw [hgraph] at hsources htargets
      have hedge : ∀ name ∈ (flow.graph registry).sources, name ∈ flow.ids ∨ name = START :=
        fun name hname ↦ hsources name (AgentFlow.mem_sources_routedGraph_iff.mpr (.inl hname))
      refine ⟨⟨⟨hnodup, fun id hid ↦ (hnames id hid).1, ?_, ?_⟩, honce, ?_, ?_⟩, hgraph⟩
      · exact htargets flow.entryPoint
          (AgentFlow.mem_targets_routedGraph_iff.mpr (.inl AgentFlow.entryPoint_mem_targets))
      · rintro ⟨dep, id⟩ hdep
        exact hedge dep (AgentFlow.mem_sources_graph_iff.mpr (.inr (.inl ⟨id, hdep⟩)))
      · intro route hroute
        exact hsources _ (AgentFlow.mem_sources_routedGraph_iff.mpr (.inr ⟨route, hroute, rfl⟩))
      · intro route hroute id hid
        exact htargets id (AgentFlow.mem_targets_routedGraph_iff.mpr (.inr ⟨route, hroute, hid⟩))
    · rintro ⟨h, rfl⟩
      have hne : START ≠ END := by decide
      obtain ⟨hentry, hdeps, hterminal⟩ := h.accepts.edges_ok
      refine ⟨_, ⟨⟨fun id hid ↦ ⟨h.accepts.takes id hid, List.not_mem_nil⟩, h.accepts.nodup⟩, rfl⟩,
        _, ⟨⟨hne, hentry⟩, rfl⟩, _, ⟨hdeps, rfl⟩, _,
        ⟨⟨fun _ _ ↦ List.not_mem_nil, h.once⟩, rfl⟩, _, ⟨hterminal, rfl⟩, ?_⟩
      simp only [List.nil_append, List.cons_append]
      exact ⟨h.compile_ok, rfl⟩

/-! ## By any builder -/

/-- A view of what a computation returns, part by part. -/
theorem map_bind_eq {ε : Type u} {α α' β β' : Type v} {x : Except ε α} {x' : Except ε α'}
    {f : α → Except ε β} {f' : α' → Except ε β'} {view : α → α'} {view' : β → β'}
    (hx : x.map view = x') (hf : ∀ a, (f a).map view' = f' (view a)) :
    (x >>= f).map view' = x' >>= f' := by
  rw [← hx]
  cases x with
  | error e => rfl
  | ok a => exact hf a

/-- A view of what a loop returns, round by round. -/
theorem map_foldlM_eq {ε : Type u} {α : Type v} {σ σ' : Type w} {f : σ → α → Except ε σ}
    {f' : σ' → α → Except ε σ'} {view : σ → σ'} (hf : ∀ s a, (f s a).map view = f' (view s) a)
    (as : List α) (s : σ) : (as.foldlM f s).map view = as.foldlM f' (view s) := by
  induction as generalizing s with
  | nil => rfl
  | cons a as ih =>
      rw [List.foldlM_cons, List.foldlM_cons]
      exact map_bind_eq (hf s a) ih

namespace GraphBuilder

variable {b : GraphBuilder} {view : b.Graph → StateGraph}

theorem Documented.build_eq (h : b.Documented lg view) (flow : AgentFlow)
    (registry : Dict String AgentRecord) :
    (b.buildLanggraph flow registry).map view = lg.buildLanggraph flow registry := by
  rw [buildLanggraph, LangGraph.buildLanggraph]
  split
  · rfl
  · have hnew : (flow.ids.foldlM b.addNode b.new).map view
        = flow.ids.foldlM (fun (g : StateGraph) id ↦ g.addNode lg id) {} := by
      rw [← h.new]
      exact map_foldlM_eq h.addNode _ _
    refine map_bind_eq hnew fun g₁ ↦ map_bind_eq (h.addEdge g₁ _) fun g₂ ↦ ?_
    refine map_bind_eq (map_foldlM_eq h.addEdge _ g₂) fun g₃ ↦ ?_
    refine map_bind_eq (map_foldlM_eq (fun g _ ↦ h.addConditionalEdges g _ _) _ g₃) fun g₄ ↦ ?_
    exact map_bind_eq (map_foldlM_eq h.addEdge _ g₄) h.compile

/-- A graph is built for a flow just when the flow is routable, and it is the graph of the
flow. -/
theorem built_iff (h : b.Documented lg view) (flow : AgentFlow)
    (registry : Dict String AgentRecord) (graph : StateGraph) :
    (∃ g, b.buildLanggraph flow registry = .ok g ∧ view g = graph) ↔
      lg.Routable flow registry ∧ graph = flow.routedGraph registry := by
  rw [← lg.buildLanggraph_routed_iff, ← h.build_eq]
  cases b.buildLanggraph flow registry with
  | error e =>
      refine iff_of_false ?_ (fun hok ↦ by cases hok)
      rintro ⟨g, hg, -⟩
      cases hg
  | ok g =>
      constructor
      · rintro ⟨g', hg, rfl⟩
        obtain rfl := Except.ok.inj hg
        rfl
      · intro hg
        exact ⟨g, rfl, Except.ok.inj hg⟩

def keeping (lg : LangGraph) : GraphBuilder where
  Graph := StateGraph
  new := {}
  addNode g := g.addNode lg
  addEdge g := g.addEdge
  addConditionalEdges g := g.addConditionalEdges
  compile g := g.compile

theorem documented_keeping (lg : LangGraph) : (keeping lg).Documented lg id := by
  have hid : ∀ x : Except PyError StateGraph, x.map id = x := by
    intro x
    cases x with
    | error e => rfl
    | ok g => rfl
  exact ⟨rfl, fun _ _ ↦ hid _, fun _ _ ↦ hid _, fun _ _ _ ↦ hid _, fun _ ↦ hid _⟩

/-- A translation that is summarized if it is in English. -/
def routed : AgentFlow :=
  { AgentFlow.ofDeps "translator" [("translator", []), ("summarizer", [])] with
    conditionalRoutes := [⟨"translator", "language", [⟨"en", "summarizer"⟩], END⟩] }

theorem built_sample :
    ∃ g, (keeping .plain).buildLanggraph routed ∅ = .ok g ∧ g = routed.routedGraph ∅ := by
  have haccepts : LangGraph.plain.Accepts routed ∅ :=
    ⟨by decide, by decide, .inl (by decide), by decide⟩
  exact (built_iff (documented_keeping .plain) routed ∅ _).mpr
    ⟨⟨haccepts, by decide, by decide, by decide⟩, rfl⟩

end GraphBuilder

/-- A route leads to an agent that it names. -/
theorem ConditionalRoute.routeFn_mem (route : ConditionalRoute) (format : Json → String)
    (state : AgentFlowState) : route.routeFn format state ∈ route.possibleAgents := by
  unfold routeFn possibleAgents
  dsimp only
  split
  · rename_i mapping hmapping
    exact List.mem_append_left _ (List.mem_map_of_mem (List.mem_of_find?_eq_some hmapping))
  · exact List.mem_append_right _ (List.mem_singleton_self _)

end SemanticBus
