import SemanticBus.Data.Table
import SemanticBus.Registry.Registry

/-!
# The roster of connected agents

The registry keeps three dictionaries, and two more in the view registry.  What they stand for
is one list: the agents that are connected, in the order in which they registered, each with its
websocket.  `Roster` is that list, and an operation of the registry is one line of list
functions on it.

`registry_roster` says that after any sequence of operations every query of the registry is
answered as the roster says.  Among them is `find_candidates`, which prefers agents with less
load: nothing sets a load, so the candidates are those that have been connected longest.
-/

namespace SemanticBus

/-! ## Queries -/

namespace ViewRegistry

variable (views : ViewRegistry)

/-- List all capabilities with registered schemas for an agent. -/
def listAgentSchemas (agentId : UUID) : List String :=
  ((views.schemasByAgent.get? agentId).getD ∅).keys

/-- List all registered capabilities across all agents, with the texts of their providers. -/
def listAllCapabilities : List (String × Finset String) :=
  views.agentsByCapability.entries.map fun e ↦ (e.1, e.2.image UUID.str)

/-- Total number of unique schemas registered. -/
def schemaCount : Nat := (views.schemasByAgent.values.map Dict.size).sum

def agentCount : Nat := views.schemasByAgent.size

end ViewRegistry

namespace AgentRegistry

variable (r : AgentRegistry)

structure CandidateQuery where
  tenantId : String
  capability : Option String := none
  tags : Option (List String) := none
  excludeAgentId : Option UUID := none
  maxCandidates : Int := 3

/-- The rules that a candidate matches, apart from its status. -/
def CandidateQuery.matches (query : CandidateQuery) (agent : AgentRecord) : Bool :=
  agent.tenantId = query.tenantId
    && query.excludeAgentId.all (agent.agentId ≠ ·)
    && (query.capability.filter (· ≠ "")).all (· ∈ agent.capabilities)
    && (query.tags.getD [] = [] || (query.tags.getD []).any (· ∈ agent.tags))

def firstOf (agents : List AgentRecord) (n : Int) : List AgentRecord :=
  agents.take (if 0 ≤ n then n else agents.length + n).toNat

/-- Find candidate agents that can fulfill an intent, those with less load first. -/
def findCandidates (query : CandidateQuery) : List AgentRecord :=
  let candidates := r.agentsByConn.values.filter fun agent ↦
    agent.status = .online && query.matches agent
  firstOf (candidates.mergeSort fun a b ↦ a.load ≤ b.load) query.maxCandidates

def getWebsocketByAgentId (agentId : UUID) : Option Nat :=
  (r.connByAgent.get? agentId).bind r.connections.get?

def agentCount : Nat := r.agentsByConn.size

def onlineCount : Nat := r.agentsByConn.values.countP (·.status = .online)

end AgentRegistry

/-! ## The roster -/

structure Member where
  agent : AgentRecord
  websocket : Nat

/-- The agents that are connected, in the order in which they registered; each of them once. -/
structure Roster extends Table Member (·.agent.agentId) where
  /-- The connection of an agent has the id that says whose it is. -/
  keyed : ∀ m ∈ rows, m.agent.connId = connId m.agent.tenantId m.agent.agentId m.websocket
  /-- The agents are online, and their loads are not known. -/
  fresh : ∀ m ∈ rows, m.agent.status = .online ∧ m.agent.load = 0

/-- A record that is built is that of an agent that is online. -/
theorem construct_fresh {now : Time} {agentId : UUID} {tenantId connId : String}
    {capabilities tags schemas metadata : Json} {agent : AgentRecord}
    (h : AgentRecord.construct now agentId tenantId connId capabilities tags schemas metadata
      = .ok agent) : agent.status = .online ∧ agent.load = 0 := by
  rw [AgentRecord.construct] at h
  split at h
  · cases h
    exact ⟨rfl, rfl⟩
  · cases h

namespace Roster

variable (roster : Roster)

def empty : Roster where
  toTable := ∅
  keyed := nofun
  fresh := nofun

def stay (p : AgentRecord → Bool) : Roster where
  toTable := roster.filter fun m ↦ p m.agent
  keyed m hm := roster.keyed m (List.mem_of_mem_filter hm)
  fresh m hm := roster.fresh m (List.mem_of_mem_filter hm)

/-- A sign of life of the agent of a connection. -/
def touch (now : Time) (connId : String) : Roster where
  toTable := roster.map
    (fun m ↦ if m.agent.connId = connId then { m with agent := m.agent.touch now } else m)
    fun m ↦ by
      show AgentRecord.agentId (Member.agent (if _ then _ else _)) = _
      split
      · rfl
      · rfl
  keyed := by
    intro m hm
    obtain ⟨m', hm', rfl⟩ := List.mem_map.mp hm
    split
    · exact roster.keyed m' hm'
    · exact roster.keyed m' hm'
  fresh := by
    intro m hm
    obtain ⟨m', hm', rfl⟩ := List.mem_map.mp hm
    split
    · exact roster.fresh m' hm'
    · exact roster.fresh m' hm'

/-- An agent registers: it goes to the end, or is gone if its record cannot be built. -/
def register (now : Time) (agentId : UUID) (tenantId : String) (websocket : Nat)
    (capabilities tags schemas metadata : Json) : Roster :=
  let rest := roster.stay (·.agentId ≠ agentId)
  match h : AgentRecord.construct now agentId tenantId (connId tenantId agentId websocket)
      (capabilities.orElse (.arr [])) (tags.orElse (.arr [])) (schemas.orElse (.obj []))
      (metadata.orElse (.obj [])) with
  | .error _ => rest
  | .ok agent =>
      { toTable := rest.add ⟨agent, websocket⟩ (by
          intro hmem
          obtain ⟨m, hm, hid⟩ := List.mem_map.mp hmem
          refine of_decide_eq_true (List.mem_filter.mp hm).2 ?_
          exact hid.trans (AgentRegistry.construct_ok h).1)
        keyed := by
          obtain ⟨rfl, rfl, hconn, -⟩ := AgentRegistry.construct_ok h
          exact List.forall_mem_append.mpr ⟨rest.keyed, List.forall_mem_singleton.mpr hconn⟩
        fresh := List.forall_mem_append.mpr
          ⟨rest.fresh, List.forall_mem_singleton.mpr (construct_fresh h)⟩ }

/-- What a registration makes of the list. -/
theorem rows_register (now : Time) (agentId : UUID) (tenantId : String) (websocket : Nat)
    (capabilities tags schemas metadata : Json) :
    (roster.register now agentId tenantId websocket capabilities tags schemas metadata).rows
      = (roster.rows.filter fun m ↦ m.agent.agentId ≠ agentId) ++
        match AgentRecord.construct now agentId tenantId (connId tenantId agentId websocket)
          (capabilities.orElse (.arr [])) (tags.orElse (.arr [])) (schemas.orElse (.obj []))
          (metadata.orElse (.obj [])) with
        | .error _ => []
        | .ok agent => [⟨agent, websocket⟩] := by
  rw [register]
  split
  · rename_i e herror
    rw [herror]
    exact (List.append_nil _).symm
  · rename_i agent hok
    show (roster.rows.filter _) ++ [_] = _
    rw [hok]

/-- The roster after an operation. -/
def exec (heartbeatTimeout : ℚ) (now : Time) : AgentRegistry.RegistryOp → Roster
  | .register agentId tenantId websocket capabilities tags schemas metadata =>
      roster.register now agentId tenantId websocket capabilities tags schemas metadata
  | .unregister connId => roster.stay (·.connId ≠ connId)
  | .heartbeat connId => roster.touch now connId
  | .cleanup => roster.stay (·.isAlive now heartbeatTimeout)

def agents : List AgentRecord := roster.rows.map Member.agent

def findConn (connId : String) : Option Member := roster.rows.find? (·.agent.connId = connId)

/-- The agents that have a schema for a capability. -/
def providers (capability : String) : Finset UUID :=
  ((roster.agents.filter fun agent ↦ capability ∈ agent.schemas.keys).map (·.agentId)).toFinset

/-- The schema of an agent for a capability.  What is no possible key raises if it is looked
for in a dictionary that is not empty. -/
def schemaOf (agentId : UUID) (capability : Json) : Except PyError (Option JsonObj) :=
  match (roster.find agentId).filter fun m ↦ m.agent.schemas.keys ≠ [] with
  | none => .ok none
  | some m =>
      if capability.hashable then .ok (capability.str?.bind m.agent.schemas.get?)
      else .error .typeError

end Roster

/-! ## The registry keeps the roster -/

/-- The dictionaries of the registry are those of the roster. -/
structure Listed (r : AgentRegistry) (roster : Roster) : Prop where
  coherent : r.Coherent
  values : r.agentsByConn.values = roster.agents
  sockets : ∀ m ∈ roster.rows, r.connections.get? m.agent.connId = some m.websocket

namespace Listed

open AgentRegistry (Coherent)

variable {r : AgentRegistry} {roster roster' : Roster} {agent : AgentRecord} {c : String} {a : UUID}
  {now : Time} {m : Member}

theorem empty (heartbeatTimeout : ℚ) :
    Listed { heartbeatTimeout := heartbeatTimeout } Roster.empty where
  coherent := .new heartbeatTimeout
  values := rfl
  sockets := nofun

/-- The records of the registry. -/
theorem get?_iff (h : Listed r roster) : r.agentsByConn.get? c = some agent ↔
    ∃ m ∈ roster.rows, m.agent = agent ∧ agent.connId = c := by
  have hmem : agent ∈ r.agentsByConn.values ↔ ∃ m ∈ roster.rows, m.agent = agent := by
    rw [h.values, Roster.agents, List.mem_map]
  rw [Dict.mem_values_iff] at hmem
  constructor
  · intro hget
    obtain ⟨m, hm, hagent⟩ := hmem.mp ⟨c, hget⟩
    exact ⟨m, hm, hagent, (h.coherent.keyed c agent hget).1⟩
  · rintro ⟨m, hm, hagent, rfl⟩
    obtain ⟨c, hget⟩ := hmem.mpr ⟨m, hm, hagent⟩
    rwa [(h.coherent.keyed c agent hget).1]

theorem get?_member (h : Listed r roster) (hm : m ∈ roster.rows) :
    r.agentsByConn.get? m.agent.connId = some m.agent := h.get?_iff.mpr ⟨m, hm, rfl, rfl⟩

/-- A connection is that of one agent. -/
theorem eq_of_connId {m m' : Member} (hm : m ∈ roster.rows) (hm' : m' ∈ roster.rows)
    (hconn : m.agent.connId = m'.agent.connId) : m = m' := by
  rw [roster.keyed m hm, roster.keyed m' hm'] at hconn
  exact roster.eq_of_key hm hm' (connId_injective hconn).2.1

theorem connByAgent_iff (h : Listed r roster) : r.connByAgent.get? a = some c ↔
    ∃ m ∈ roster.rows, m.agent.agentId = a ∧ m.agent.connId = c := by
  rw [h.coherent.conn_iff]
  constructor
  · rintro ⟨agent, hget, hid⟩
    obtain ⟨m, hm, rfl, hconn⟩ := h.get?_iff.mp hget
    exact ⟨m, hm, hid, hconn⟩
  · rintro ⟨m, hm, hid, rfl⟩
    exact ⟨m.agent, h.get?_member hm, hid⟩

/-- What a removal leaves of the records. -/
theorem values_removeAgent (h : Coherent r) (c : String) :
    (r.removeAgent c).agentsByConn.values = r.agentsByConn.values.filter (·.connId ≠ c) := by
  have hagents : (r.removeAgent c).agentsByConn = r.agentsByConn.erase c := by
    rw [AgentRegistry.removeAgent]
    split
    · rename_i hnone
      exact (Dict.erase_of_get?_none hnone).symm
    · rfl
  rw [hagents, Dict.values, Dict.values, Dict.erase, List.filter_map]
  refine congrArg (List.map Prod.snd) (List.filter_congr fun e he ↦ ?_)
  show decide (e.1 ≠ c) = decide (e.2.connId ≠ c)
  rw [(h.keyed e.1 e.2 (Dict.get?_of_mem_entries he)).1]

theorem connections_removeAgent (r : AgentRegistry) (c c' : String) :
    (r.removeAgent c).connections.get? c' = if c' = c then none else r.connections.get? c' := by
  rw [AgentRegistry.removeAgent]
  split
  · exact Dict.get?_erase _ _ _
  · exact Dict.get?_erase _ _ _

/-- Connections are removed one after the other. -/
theorem removeAll (h : Listed r roster) (conns : List String)
    (hrows : roster'.rows = roster.rows.filter fun m ↦ m.agent.connId ∉ conns) :
    Listed (conns.foldl AgentRegistry.removeAgent r) roster' := by
  induction conns generalizing r roster with
  | nil =>
      have hsame : roster'.rows = roster.rows := by
        rw [hrows]
        exact List.filter_eq_self.mpr fun _ _ ↦ decide_eq_true List.not_mem_nil
      exact ⟨h.coherent, by rw [List.foldl_nil, h.values, Roster.agents, Roster.agents, hsame],
        hsame ▸ h.sockets⟩
  | cons c conns ih =>
      have hone : Listed (r.removeAgent c) (roster.stay (·.connId ≠ c)) := by
        refine ⟨h.coherent.removeAgent c, ?_, fun m hm ↦ ?_⟩
        · rw [values_removeAgent h.coherent, h.values, Roster.agents, List.filter_map]
          rfl
        · obtain ⟨hm, hne⟩ := List.mem_filter.mp hm
          rw [connections_removeAgent, if_neg (of_decide_eq_true hne)]
          exact h.sockets m hm
      refine ih hone ?_
      rw [hrows]
      show _ = List.filter _ (roster.rows.filter _)
      rw [List.filter_filter]
      refine List.filter_congr fun m _ ↦ ?_
      simp [not_or, Bool.and_comm]

/-- The connection of an agent that registers is removed. -/
theorem supersede (h : Listed r roster) (a : UUID) :
    Listed (r.supersede a) (roster.stay (·.agentId ≠ a)) := by
  rw [AgentRegistry.supersede]
  cases hconn : r.connByAgent.get? a with
  | none =>
      refine h.removeAll [] (List.filter_congr fun m hm ↦ ?_)
      have hne : m.agent.agentId ≠ a := by
        intro hid
        cases hconn.symm.trans (h.connByAgent_iff.mpr ⟨m, hm, hid, rfl⟩)
      exact (decide_eq_true hne).trans (decide_eq_true List.not_mem_nil).symm
  | some c =>
      obtain ⟨m', hm', hid, rfl⟩ := h.connByAgent_iff.mp hconn
      refine h.removeAll [m'.agent.connId] (List.filter_congr fun m hm ↦ ?_)
      rw [decide_eq_decide, List.mem_singleton, not_iff_not, ← hid]
      constructor
      · intro hsame
        rw [roster.eq_of_key hm hm' hsame]
      · intro hsame
        rw [eq_of_connId hm hm' hsame]

theorem register (h : Listed r roster) (now : Time) (agentId : UUID) (tenantId : String)
    (websocket : Nat) (capabilities tags schemas metadata : Json) :
    Listed (r.register now agentId tenantId websocket capabilities tags schemas metadata).1
      (roster.register now agentId tenantId websocket capabilities tags schemas metadata) := by
  have hbefore := h.supersede agentId
  have hcoherent :=
    h.coherent.register now agentId tenantId websocket capabilities tags schemas metadata
  have hrows :=
    roster.rows_register now agentId tenantId websocket capabilities tags schemas metadata
  generalize roster.register now agentId tenantId websocket capabilities tags schemas metadata
    = roster' at hrows ⊢
  rw [AgentRegistry.register] at hcoherent ⊢
  dsimp only at hcoherent ⊢
  cases hbuilt : AgentRecord.construct now agentId tenantId (connId tenantId agentId websocket)
      (capabilities.orElse (.arr [])) (tags.orElse (.arr [])) (schemas.orElse (.obj []))
      (metadata.orElse (.obj [])) with
  | error e =>
      rw [hbuilt] at hrows hcoherent
      rw [List.append_nil] at hrows
      refine ⟨hcoherent, ?_, ?_⟩
      · rw [hbefore.values, Roster.agents, Roster.agents, hrows]
        rfl
      · rw [hrows]
        exact hbefore.sockets
  | ok agent =>
      rw [hbuilt] at hrows hcoherent
      obtain ⟨hid, -, hconn, -⟩ := AgentRegistry.construct_ok hbuilt
      have hnew : (r.supersede agentId).agentsByConn.get? agent.connId = none := by
        by_contra hne
        obtain ⟨agent', hget⟩ := Option.ne_none_iff_exists'.mp hne
        obtain ⟨m, hm, rfl, hsame⟩ := hbefore.get?_iff.mp hget
        refine of_decide_eq_true (List.mem_filter.mp hm).2 ?_
        have hkey := (roster.keyed m (List.mem_of_mem_filter hm)).symm.trans (hsame.trans hconn)
        exact (connId_injective hkey).2.1
      have hvalues : ((r.supersede agentId).agentsByConn.insert agent.connId agent).values
          = roster'.agents := by
        rw [Dict.values, Dict.entries_insert_of_get?_none agent hnew, List.map_append,
          ← Dict.values, hbefore.values, Roster.agents, Roster.agents, hrows, List.map_append]
        rfl
      have hsockets : ∀ m ∈ roster'.rows, ((r.supersede agentId).connections.insert agent.connId
          websocket).get? m.agent.connId = some m.websocket := by
        intro m hm
        rw [hrows, List.mem_append] at hm
        rw [Dict.get?_insert]
        rcases hm with hm | hm
        · have hne : m.agent.connId ≠ agent.connId := by
            intro hsame
            have hget := hbefore.get?_member hm
            rw [hsame, hnew] at hget
            cases hget
          rw [if_neg hne]
          exact hbefore.sockets m hm
        · obtain rfl := List.mem_singleton.mp hm
          exact if_pos rfl
      dsimp only at hcoherent ⊢
      split at hcoherent
      · rename_i hschemas
        rw [if_pos hschemas]
        exact ⟨hcoherent, hvalues, hsockets⟩
      · rename_i hschemas
        rw [if_neg hschemas]
        exact ⟨hcoherent, hvalues, hsockets⟩

theorem heartbeat (h : Listed r roster) (now : Time) (connId : String) :
    Listed (r.heartbeat now connId).1 (roster.touch now connId) := by
  have hcoherent := h.coherent.heartbeat now connId
  rw [AgentRegistry.heartbeat] at hcoherent ⊢
  cases hget : r.agentsByConn.get? connId with
  | none =>
      have hrows : (roster.touch now connId).rows = roster.rows := by
        refine (List.map_congr_left fun m hm ↦ if_neg ?_).trans (List.map_id _)
        rintro rfl
        cases hget.symm.trans (h.get?_member hm)
      refine ⟨h.coherent, ?_, ?_⟩
      · rw [h.values, Roster.agents, Roster.agents, hrows]
      · rw [hrows]
        exact h.sockets
  | some agent =>
      obtain ⟨m', hm', rfl, rfl⟩ := h.get?_iff.mp hget
      rw [hget] at hcoherent
      have honline : (m'.agent.touch now).status ≠ .offline := by
        show m'.agent.status ≠ .offline
        rw [(roster.fresh m' hm').1]
        nofun
      dsimp only at hcoherent ⊢
      rw [if_neg honline] at hcoherent ⊢
      refine ⟨hcoherent, ?_, ?_⟩
      · show (r.agentsByConn.insert m'.agent.connId (m'.agent.touch now)).values
          = (roster.touch now m'.agent.connId).agents
        have hagents : (roster.touch now m'.agent.connId).agents
            = roster.agents.map fun agent ↦
              if agent.connId = m'.agent.connId then agent.touch now else agent := by
          show (roster.rows.map _).map _ = (roster.rows.map _).map _
          rw [List.map_map, List.map_map]
          refine List.map_congr_left fun m _ ↦ ?_
          show Member.agent (if _ then _ else _) = if m.agent.connId = _ then _ else _
          split
          · rfl
          · rfl
        rw [hagents, ← h.values, Dict.values, Dict.entries_insert_of_get?_some _ hget, Dict.values,
          List.map_map, List.map_map]
        refine List.map_congr_left fun e he ↦ ?_
        have hentry := Dict.get?_of_mem_entries he
        show Prod.snd (if e.1 = m'.agent.connId then _ else e)
          = if e.2.connId = m'.agent.connId then e.2.touch now else e.2
        rw [(h.coherent.keyed e.1 e.2 hentry).1]
        split
        · rename_i hconn
          rw [hconn, hget] at hentry
          rw [Option.some.inj hentry]
        · rfl
      · intro m hm
        obtain ⟨m₀, hm₀, rfl⟩ := List.mem_map.mp hm
        split
        · exact h.sockets m₀ hm₀
        · exact h.sockets m₀ hm₀

theorem unregister (h : Listed r roster) (connId : String) :
    Listed (r.unregister connId).1 (roster.stay (·.connId ≠ connId)) := by
  have hremoved : Listed (r.removeAgent connId) (roster.stay (·.connId ≠ connId)) := by
    refine h.removeAll [connId] (List.filter_congr fun m _ ↦ ?_)
    simp
  rw [AgentRegistry.unregister]
  cases hget : r.agentsByConn.get? connId with
  | some agent => exact hremoved
  | none =>
      have hrows : (roster.stay (·.connId ≠ connId)).rows = roster.rows := by
        refine List.filter_eq_self.mpr fun m hm ↦ decide_eq_true ?_
        rintro rfl
        cases hget.symm.trans (h.get?_member hm)
      refine ⟨h.coherent, ?_, ?_⟩
      · rw [h.values, Roster.agents, Roster.agents, hrows]
      · rw [hrows]
        exact h.sockets

theorem cleanupDeadAgents (h : Listed r roster) (now : Time) :
    Listed (r.cleanupDeadAgents now).1 (roster.stay (·.isAlive now r.heartbeatTimeout)) := by
  refine h.removeAll _ (List.filter_congr fun m hm ↦ ?_)
  have hdead : m.agent.connId ∈ r.deadConnIds now ↔
      m.agent.isAlive now r.heartbeatTimeout = false := by
    have honline : m.agent.status ≠ .offline := by
      rw [(roster.fresh m hm).1]
      nofun
    rw [AgentRegistry.deadConnIds, List.mem_map]
    constructor
    · rintro ⟨e, he, hconn⟩
      obtain ⟨he, hdead⟩ := List.mem_filter.mp he
      have hget := Dict.get?_of_mem_entries he
      rw [hconn, h.get?_member hm] at hget
      rw [← Option.some.inj hget] at hdead
      simpa [honline] using hdead
    · intro hdead
      refine ⟨(m.agent.connId, m.agent), List.mem_filter.mpr
        ⟨Dict.mem_entries_of_get? (h.get?_member hm), ?_⟩, rfl⟩
      simp [hdead, honline]
  rw [Bool.eq_iff_iff, decide_eq_true_iff, hdead, Bool.not_eq_false]

end Listed

/-! ## What the registry answers -/

/-- Every query of the registry is answered as the roster says. -/
structure Answers (r : AgentRegistry) (roster : Roster) : Prop where
  listAgents : ∀ tenantId onlyOnline, r.listAgents tenantId onlyOnline
    = roster.agents.filter fun agent ↦ (tenantId.filter (· ≠ "")).all (agent.tenantId = ·)
  /-- The candidates are those that have been connected longest. -/
  findCandidates : ∀ query, r.findCandidates query
    = AgentRegistry.firstOf (roster.agents.filter query.matches) query.maxCandidates
  getAgentById : ∀ a, r.getAgentById a = (roster.find a).map Member.agent
  getAgentByConn : ∀ c, r.getAgentByConn c = (roster.findConn c).map Member.agent
  getWebsocket : ∀ c, r.getWebsocket c = (roster.findConn c).map Member.websocket
  getWebsocketByAgentId : ∀ a, r.getWebsocketByAgentId a = (roster.find a).map Member.websocket
  agentCount : r.agentCount = roster.rows.length
  onlineCount : r.onlineCount = roster.rows.length
  listAgentSchemas : ∀ a, r.views.listAgentSchemas a
    = ((roster.find a).map fun m ↦ m.agent.schemas.keys).getD []
  getSchema : ∀ a capability, r.views.getSchema a capability = roster.schemaOf a capability
  validate : ∀ a capability payload, r.views.validate a capability payload
    = (roster.schemaOf a capability).map (·.all (ViewRegistry.conforms · payload))
  listAllCapabilities : ∀ capability texts, (capability, texts) ∈ r.views.listAllCapabilities ↔
    texts = (roster.providers capability).image UUID.str ∧ texts.Nonempty
  schemaCount : r.views.schemaCount = (roster.agents.map fun agent ↦ agent.schemas.size).sum
  agentsWithSchemas : r.views.agentCount = roster.agents.countP fun agent ↦ agent.schemas.keys ≠ []

namespace Listed

variable {r : AgentRegistry} {roster : Roster} {agent : AgentRecord} {c : String} {a : UUID}
  {m : Member}

theorem online (h : Listed r roster) (hagent : agent ∈ r.agentsByConn.values) :
    agent.status = .online ∧ agent.load = 0 := by
  rw [h.values, Roster.agents] at hagent
  obtain ⟨m, hm, rfl⟩ := List.mem_map.mp hagent
  exact roster.fresh m hm

theorem listAgents_eq (h : Listed r roster) (tenantId : Option String) (onlyOnline : Bool) :
    r.listAgents tenantId onlyOnline
      = roster.agents.filter fun agent ↦ (tenantId.filter (· ≠ "")).all (agent.tenantId = ·) := by
  have honline : ∀ agents : List AgentRecord, (∀ agent ∈ agents, agent ∈ r.agentsByConn.values) →
      (if onlyOnline then agents.filter (·.status = .online) else agents) = agents := by
    intro agents hagents
    split
    · exact List.filter_eq_self.mpr fun agent hagent ↦
        decide_eq_true (h.online (hagents agent hagent)).1
    · rfl
  unfold AgentRegistry.listAgents
  cases tenantId with
  | none =>
      dsimp only
      rw [honline _ fun _ ↦ id, h.values]
      exact (List.filter_eq_self.mpr fun _ _ ↦ rfl).symm
  | some t =>
      dsimp only
      by_cases ht : t = ""
      · subst ht
        rw [if_pos rfl, honline _ fun _ ↦ id, h.values]
        exact (List.filter_eq_self.mpr fun _ _ ↦ rfl).symm
      · have hgiven : (some t).filter (· ≠ "") = some t :=
          Option.filter_some_pos (decide_eq_true ht)
        rw [if_neg ht, honline _ fun _ ↦ List.mem_of_mem_filter, h.values, hgiven]
        rfl

theorem findCandidates_eq (h : Listed r roster) (query : AgentRegistry.CandidateQuery) :
    r.findCandidates query
      = AgentRegistry.firstOf (roster.agents.filter query.matches) query.maxCandidates := by
  have hmatching : (r.agentsByConn.values.filter fun agent ↦
      agent.status = .online && query.matches agent) = roster.agents.filter query.matches := by
    rw [← h.values]
    refine List.filter_congr fun agent hagent ↦ ?_
    rw [decide_eq_true (h.online hagent).1, Bool.true_and]
  -- the loads are all the same, so the sort changes nothing
  have hsorted : (roster.agents.filter query.matches).Pairwise fun a b ↦
      decide (a.load ≤ b.load) = true := by
    refine List.pairwise_of_forall_mem_list fun a ha b hb ↦ decide_eq_true ?_
    have hload : ∀ agent ∈ roster.agents.filter query.matches, agent.load = 0 := by
      intro agent hagent
      have hagent := List.mem_of_mem_filter hagent
      rw [← h.values] at hagent
      exact (h.online hagent).2
    rw [hload a ha, hload b hb]
  rw [AgentRegistry.findCandidates]
  rw [hmatching, List.mergeSort_of_pairwise hsorted]

theorem findConn_iff : roster.findConn c = some m ↔ m ∈ roster.rows ∧ m.agent.connId = c := by
  have hfound : ∀ m, roster.findConn c = some m → m ∈ roster.rows ∧ m.agent.connId = c := by
    intro m hfind
    have hconn := List.find?_some (p := fun m : Member ↦ m.agent.connId = c) hfind
    exact ⟨List.mem_of_find?_eq_some hfind, of_decide_eq_true hconn⟩
  refine ⟨hfound m, fun ⟨hm, hconn⟩ ↦ ?_⟩
  cases hfind : roster.findConn c with
  | none => exact absurd (decide_eq_true hconn) (List.find?_eq_none.mp hfind m hm)
  | some m' =>
      obtain ⟨hm', hconn'⟩ := hfound m' hfind
      rw [eq_of_connId hm' hm (hconn'.trans hconn.symm)]

theorem find_iff : roster.find a = some m ↔ m ∈ roster.rows ∧ m.agent.agentId = a :=
  Table.find_eq_some_iff

theorem getAgentByConn_eq (h : Listed r roster) (c : String) :
    r.getAgentByConn c = (roster.findConn c).map Member.agent := by
  refine Option.ext fun agent ↦ ?_
  rw [AgentRegistry.getAgentByConn, h.get?_iff, Option.map_eq_some_iff]
  refine exists_congr fun m ↦ ?_
  rw [findConn_iff]
  constructor
  · rintro ⟨hm, rfl, rfl⟩
    exact ⟨⟨hm, rfl⟩, rfl⟩
  · rintro ⟨⟨hm, rfl⟩, rfl⟩
    exact ⟨hm, rfl, rfl⟩

theorem getWebsocket_eq (h : Listed r roster) (c : String) :
    r.getWebsocket c = (roster.findConn c).map Member.websocket := by
  rw [AgentRegistry.getWebsocket]
  cases hfind : roster.findConn c with
  | some m =>
      obtain ⟨hm, rfl⟩ := findConn_iff.mp hfind
      exact h.sockets m hm
  | none =>
      cases hget : r.connections.get? c with
      | none => rfl
      | some websocket =>
          obtain ⟨agent, hagent⟩ := (h.coherent.same_keys c).mpr ⟨websocket, hget⟩
          have hnone := h.getAgentByConn_eq c
          rw [hfind, AgentRegistry.getAgentByConn, hagent] at hnone
          cases hnone

/-- What is found by the connection that is known of an agent. -/
theorem byAgent_eq (h : Listed r roster) {α : Type} (f : Member → α) {get : String → Option α}
    (hget : ∀ c, get c = (roster.findConn c).map f) (a : UUID) :
    (r.connByAgent.get? a).bind get = (roster.find a).map f := by
  cases hfind : roster.find a with
  | some m =>
      obtain ⟨hm, hid⟩ := find_iff.mp hfind
      rw [h.connByAgent_iff.mpr ⟨m, hm, hid, rfl⟩, Option.bind_some, hget,
        findConn_iff.mpr ⟨hm, rfl⟩]
  | none =>
      cases hconn : r.connByAgent.get? a with
      | none => rfl
      | some c =>
          obtain ⟨m, hm, hid, -⟩ := h.connByAgent_iff.mp hconn
          cases hfind.symm.trans (find_iff.mpr ⟨hm, hid⟩)

theorem schemas_iff (h : Listed r roster) {schemas : SchemaMap} :
    r.views.schemasByAgent.get? a = some schemas ↔
      ∃ m ∈ roster.rows, m.agent.agentId = a ∧ m.agent.schemas = schemas ∧ schemas.keys ≠ [] := by
  rw [h.coherent.schemas_iff]
  constructor
  · rintro ⟨c, agent, hget, hid, hschemas⟩
    obtain ⟨m, hm, rfl, -⟩ := h.get?_iff.mp hget
    exact ⟨m, hm, hid, hschemas⟩
  · rintro ⟨m, hm, hid, hschemas⟩
    exact ⟨_, m.agent, h.get?_member hm, hid, hschemas⟩

theorem listAgentSchemas_eq (h : Listed r roster) (a : UUID) : r.views.listAgentSchemas a
    = ((roster.find a).map fun m ↦ m.agent.schemas.keys).getD [] := by
  rw [ViewRegistry.listAgentSchemas]
  cases hget : r.views.schemasByAgent.get? a with
  | some schemas =>
      obtain ⟨m, hm, hid, rfl, -⟩ := h.schemas_iff.mp hget
      rw [find_iff.mpr ⟨hm, hid⟩]
      rfl
  | none =>
      cases hfind : roster.find a with
      | none => rfl
      | some m =>
          obtain ⟨hm, hid⟩ := find_iff.mp hfind
          rw [Option.map_some, Option.getD_some]
          by_contra hne
          cases hget.symm.trans (h.schemas_iff.mpr ⟨m, hm, hid, rfl, fun hnil ↦ hne hnil.symm⟩)

theorem getSchema_eq (h : Listed r roster) (a : UUID) (capability : Json) :
    r.views.getSchema a capability = roster.schemaOf a capability := by
  rw [ViewRegistry.getSchema, Roster.schemaOf]
  cases hget : r.views.schemasByAgent.get? a with
  | some schemas =>
      obtain ⟨m, hm, hid, rfl, hkeys⟩ := h.schemas_iff.mp hget
      rw [find_iff.mpr ⟨hm, hid⟩, Option.filter_some, if_pos (decide_eq_true hkeys)]
      dsimp only
      rw [if_neg hkeys]
  | none =>
      -- an agent without schemas is not in the table
      have hfilter : (roster.find a).filter (fun m ↦ m.agent.schemas.keys ≠ []) = none := by
        refine Option.filter_eq_none_iff.mpr fun m hfind hkeys ↦ ?_
        obtain ⟨hm, hid⟩ := find_iff.mp hfind
        cases hget.symm.trans (h.schemas_iff.mpr ⟨m, hm, hid, rfl, of_decide_eq_true hkeys⟩)
      rw [hfilter]

theorem validate_eq (h : Listed r roster) (a : UUID) (capability payload : Json) :
    r.views.validate a capability payload
      = (roster.schemaOf a capability).map (·.all (ViewRegistry.conforms · payload)) := by
  rw [ViewRegistry.validate, h.getSchema_eq]
  rcases roster.schemaOf a capability with e | _ | schemaDef
  · rfl
  · rfl
  · rfl

/-- The table of schemas is that of the agents that have any. -/
theorem schemas_perm (h : Listed r roster) : r.views.schemasByAgent.entries.Perm
    ((roster.agents.filter fun agent ↦ agent.schemas.keys ≠ []).map fun agent ↦
      (agent.agentId, agent.schemas)) := by
  have hnodup : ((roster.agents.filter fun agent ↦ agent.schemas.keys ≠ []).map fun agent ↦
      (agent.agentId, agent.schemas)).Nodup := by
    refine List.Nodup.of_map Prod.fst ?_
    rw [List.map_map]
    refine List.Nodup.sublist (List.filter_sublist.map _) ?_
    rw [Roster.agents, List.map_map]
    exact roster.nodup
  refine (List.perm_ext_iff_of_nodup r.views.schemasByAgent.nodup.of_map hnodup).mpr ?_
  rintro ⟨a, schemas⟩
  rw [Dict.mem_entries_iff, h.schemas_iff, List.mem_map]
  constructor
  · rintro ⟨m, hm, rfl, rfl, hne⟩
    exact ⟨m.agent, List.mem_filter.mpr ⟨List.mem_map_of_mem hm, decide_eq_true hne⟩, rfl⟩
  · rintro ⟨agent, hagent, heq⟩
    obtain ⟨hagent, hne⟩ := List.mem_filter.mp hagent
    obtain ⟨m, hm, rfl⟩ := List.mem_map.mp hagent
    obtain ⟨rfl, rfl⟩ := Prod.mk.inj heq
    exact ⟨m, hm, rfl, rfl, of_decide_eq_true hne⟩

theorem schemaCount_eq (h : Listed r roster) :
    r.views.schemaCount = (roster.agents.map fun agent ↦ agent.schemas.size).sum := by
  have hperm := ((h.schemas_perm.map Prod.snd).map Dict.size).sum_eq
  rw [ViewRegistry.schemaCount, Dict.values, hperm, List.map_map, List.map_map]
  induction roster.agents with
  | nil => rfl
  | cons agent agents ih =>
      by_cases hkeys : agent.schemas.keys = []
      · have hsize : agent.schemas.size = 0 := by
          rw [Dict.size, ← List.length_map Prod.fst]
          exact congrArg List.length hkeys
        rw [List.filter_cons_of_neg (by simpa using hkeys), ih, List.map_cons, List.sum_cons, hsize,
          Nat.zero_add]
      · rw [List.filter_cons_of_pos (by simpa using hkeys), List.map_cons, List.sum_cons, ih,
          List.map_cons, List.sum_cons]
        rfl

theorem agentsWithSchemas_eq (h : Listed r roster) :
    r.views.agentCount = roster.agents.countP fun agent ↦ agent.schemas.keys ≠ [] := by
  rw [ViewRegistry.agentCount, Dict.size, h.schemas_perm.length_eq, List.length_map,
    List.countP_eq_length_filter]

theorem listAllCapabilities_iff (h : Listed r roster) (capability : String)
    (texts : Finset String) : (capability, texts) ∈ r.views.listAllCapabilities ↔
      texts = (roster.providers capability).image UUID.str ∧ texts.Nonempty := by
  have hprovides : ∀ a, ViewRegistry.Provides r.views.agentsByCapability a capability ↔
      a ∈ roster.providers capability := by
    intro a
    rw [h.coherent.indexed.provides_iff, Roster.providers, List.mem_toFinset, List.mem_map]
    constructor
    · rintro ⟨schemas, hget, hkey⟩
      obtain ⟨m, hm, rfl, rfl, -⟩ := h.schemas_iff.mp hget
      exact ⟨m.agent, List.mem_filter.mpr ⟨List.mem_map_of_mem hm, decide_eq_true hkey⟩, rfl⟩
    · rintro ⟨agent, hagent, rfl⟩
      obtain ⟨hagent, hkey⟩ := List.mem_filter.mp hagent
      obtain ⟨m, hm, rfl⟩ := List.mem_map.mp hagent
      have hkey := of_decide_eq_true hkey
      refine ⟨m.agent.schemas, h.schemas_iff.mpr ⟨m, hm, rfl, rfl, ?_⟩, hkey⟩
      exact List.ne_nil_of_mem hkey
  have hset : ∀ agents, r.views.agentsByCapability.get? capability = some agents →
      agents = roster.providers capability := by
    intro agents hget
    ext a
    rw [← hprovides]
    constructor
    · exact fun ha ↦ ⟨agents, hget, ha⟩
    · rintro ⟨agents', hget', ha⟩
      rw [Option.some.inj (hget.symm.trans hget')]
      exact ha
  rw [ViewRegistry.listAllCapabilities, List.mem_map]
  constructor
  · rintro ⟨⟨k, agents⟩, hmem, heq⟩
    obtain ⟨rfl, rfl⟩ := Prod.mk.inj heq
    have hget := Dict.mem_entries_iff.mp hmem
    refine ⟨by rw [hset agents hget], ?_⟩
    exact (h.coherent.indexed.noEmpty k agents hget).image _
  · rintro ⟨rfl, hne⟩
    obtain ⟨a, ha⟩ := Finset.image_nonempty.mp hne
    obtain ⟨agents, hget, -⟩ := (hprovides a).mpr ha
    refine ⟨(capability, agents), Dict.mem_entries_iff.mpr hget, ?_⟩
    rw [hset agents hget]

/-- All queries together. -/
theorem answers (h : Listed r roster) : Answers r roster where
  listAgents := h.listAgents_eq
  findCandidates := h.findCandidates_eq
  getAgentById a := h.byAgent_eq Member.agent h.getAgentByConn_eq a
  getAgentByConn := h.getAgentByConn_eq
  getWebsocket := h.getWebsocket_eq
  getWebsocketByAgentId a := h.byAgent_eq Member.websocket h.getWebsocket_eq a
  agentCount := by
    have hlength := congrArg List.length h.values
    rwa [Dict.values, Roster.agents, List.length_map, List.length_map] at hlength
  onlineCount := by
    rw [AgentRegistry.onlineCount, List.countP_eq_length.mpr fun agent hagent ↦
      decide_eq_true (h.online hagent).1, h.values, Roster.agents, List.length_map]
  listAgentSchemas := h.listAgentSchemas_eq
  getSchema := h.getSchema_eq
  validate := h.validate_eq
  listAllCapabilities := h.listAllCapabilities_iff
  schemaCount := h.schemaCount_eq
  agentsWithSchemas := h.agentsWithSchemas_eq

/-- One operation on both. -/
theorem exec (h : Listed r roster) (now : Time) (op : AgentRegistry.RegistryOp) :
    Listed (r.exec now op) (roster.exec r.heartbeatTimeout now op) := by
  cases op with
  | register agentId tenantId websocket capabilities tags schemas metadata =>
      exact h.register now agentId tenantId websocket capabilities tags schemas metadata
  | unregister connId => exact h.unregister connId
  | heartbeat connId => exact h.heartbeat now connId
  | cleanup => exact h.cleanupDeadAgents now

end Listed

namespace AgentRegistry

theorem heartbeatTimeout_removeAgent (r : AgentRegistry) (c : String) :
    (r.removeAgent c).heartbeatTimeout = r.heartbeatTimeout := by
  rw [removeAgent]
  split
  · rfl
  · rfl

/-- No operation changes the timeout. -/
theorem heartbeatTimeout_exec (r : AgentRegistry) (now : Time) (op : RegistryOp) :
    (r.exec now op).heartbeatTimeout = r.heartbeatTimeout := by
  have hfold : ∀ (conns : List String) (r : AgentRegistry),
      (conns.foldl removeAgent r).heartbeatTimeout = r.heartbeatTimeout := by
    intro conns
    induction conns with
    | nil => exact fun _ ↦ rfl
    | cons c conns ih => exact fun r ↦ (ih _).trans (heartbeatTimeout_removeAgent r c)
  cases op with
  | register agentId tenantId websocket capabilities tags schemas metadata =>
      have hsupersede : (r.supersede agentId).heartbeatTimeout = r.heartbeatTimeout := by
        rw [supersede]
        split
        · rfl
        · exact heartbeatTimeout_removeAgent r _
      rw [exec, register, ← hsupersede]
      dsimp only
      split
      · rfl
      · dsimp only
        split
        · rfl
        · rfl
  | unregister connId =>
      rw [exec, unregister]
      split
      · rfl
      · exact heartbeatTimeout_removeAgent r connId
  | heartbeat connId =>
      rw [exec, heartbeat]
      split
      · rfl
      · rfl
  | cleanup => exact hfold _ r

end AgentRegistry

/-- After any sequence of operations the registry and the view registry answer every query as the
list of the connected agents does, in the order in which they registered. -/
theorem registry_roster (heartbeatTimeout : ℚ) (ops : List (Time × AgentRegistry.RegistryOp)) :
    Answers (ops.foldl (fun r op ↦ r.exec op.1 op.2) { heartbeatTimeout := heartbeatTimeout })
      (ops.foldl (fun roster op ↦ roster.exec heartbeatTimeout op.1 op.2) .empty) := by
  have hrun : ∀ (r : AgentRegistry) (roster : Roster), r.heartbeatTimeout = heartbeatTimeout →
      Listed r roster → Listed (ops.foldl (fun r op ↦ r.exec op.1 op.2) r)
        (ops.foldl (fun roster op ↦ roster.exec heartbeatTimeout op.1 op.2) roster) := by
    induction ops with
    | nil => exact fun _ _ _ h ↦ h
    | cons op ops ih =>
        intro r roster htimeout h
        refine ih _ _ ((r.heartbeatTimeout_exec op.1 op.2).trans htimeout) ?_
        rw [← htimeout]
        exact h.exec op.1 op.2
  exact (hrun _ _ rfl (.empty heartbeatTimeout)).answers

end SemanticBus
