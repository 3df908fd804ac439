import SemanticBus.Data.Run
import SemanticBus.Registry.Agent

/-!
# The agent registry

Three indexes of the registry (the records by connection, the connection of each
agent, the websocket of each connection) and the two of the view registry
describe the same set of registrations.  `Coherent` says so, and
`registry_coherent` says that it holds after any sequence of operations,
registrations that fail halfway included.

Every operation runs under the registry lock and is one function of the state;
a websocket is its `id()`.
-/

namespace SemanticBus

/-- Presence and capabilities of the connected agents. -/
structure AgentRegistry where
  heartbeatTimeout : ℚ := 30
  views : ViewRegistry := {}
  agentsByConn : Dict String AgentRecord := ∅
  connByAgent : Dict UUID String := ∅
  connections : Dict String Nat := ∅

namespace AgentRegistry

def removeAgent (r : AgentRegistry) (connId : String) : AgentRegistry :=
  match r.agentsByConn.get? connId with
  | none => { r with connections := r.connections.erase connId }
  | some agent =>
      { r with
        agentsByConn := r.agentsByConn.erase connId
        connByAgent := r.connByAgent.erase agent.agentId
        views := r.views.unregisterAgentSchemas agent.agentId
        connections := r.connections.erase connId }

/-- The websocket of the connection that an agent already has. -/
def existing (r : AgentRegistry) (agentId : UUID) : Option Nat :=
  (r.connByAgent.get? agentId).bind r.connections.get?

/-- Forget the connection that an agent already has: `register` closes its
websocket (`existing`) and removes it. -/
def supersede (r : AgentRegistry) (agentId : UUID) : AgentRegistry :=
  match r.connByAgent.get? agentId with
  | none => r
  | some existingConn => r.removeAgent existingConn

def store (r : AgentRegistry) (agent : AgentRecord) (websocket : Nat) : AgentRegistry :=
  { r with
    agentsByConn := r.agentsByConn.insert agent.connId agent
    connByAgent := r.connByAgent.insert agent.agentId agent.connId
    connections := r.connections.insert agent.connId websocket }

/-- Register a new agent with the bus.  The connection the agent had is removed
before the record is built, so it is gone also when that raises. -/
def register (r : AgentRegistry) (now : Time) (agentId : UUID) (tenantId : String) (websocket : Nat)
    (capabilities tags schemas metadata : Json) :
    AgentRegistry × Except PyError (String × AgentRecord) :=
  let connId := connId tenantId agentId websocket
  let r := r.supersede agentId
  match AgentRecord.construct now agentId tenantId connId (capabilities.orElse (.arr []))
      (tags.orElse (.arr [])) (schemas.orElse (.obj [])) (metadata.orElse (.obj [])) with
  | .error e => (r, .error e)
  | .ok agent =>
      let r := r.store agent websocket
      let r := if schemas.truthy then
          { r with views := r.views.registerAgentSchemas agentId agent.schemas }
        else r
      (r, .ok (connId, agent))

def unregister (r : AgentRegistry) (connId : String) : AgentRegistry × Option AgentRecord :=
  match r.agentsByConn.get? connId with
  | none => (r, none)
  | some agent => (r.removeAgent connId, some agent)

/-- Update the last sign of life of an agent. -/
def heartbeat (r : AgentRegistry) (now : Time) (connId : String) : AgentRegistry × Bool :=
  match r.agentsByConn.get? connId with
  | none => (r, false)
  | some agent =>
      let agent := agent.touch now
      let agent := if agent.status = .offline then { agent with status := .online } else agent
      ({ r with agentsByConn := r.agentsByConn.insert connId agent }, true)

/-- The connections of agents that missed their heartbeats and were not marked
offline before. -/
def deadConnIds (r : AgentRegistry) (now : Time) : List String :=
  (r.agentsByConn.entries.filter fun e ↦
    !e.2.isAlive now r.heartbeatTimeout && e.2.status ≠ .offline).map Prod.fst

/-- Remove the agents that missed their heartbeats; the websockets to close come
second.  The records are marked offline first, which nothing gets to see. -/
def cleanupDeadAgents (r : AgentRegistry) (now : Time) : AgentRegistry × List Nat :=
  ((r.deadConnIds now).foldl removeAgent r, (r.deadConnIds now).filterMap r.connections.get?)

/-- The agents, by tenant if one is given, and by status. -/
def listAgents (r : AgentRegistry) (tenantId : Option String) (onlyOnline : Bool) :
    List AgentRecord :=
  let agents := r.agentsByConn.values
  let agents := match tenantId with
    | none => agents
    | some t => if t = "" then agents else agents.filter (·.tenantId = t)
  if onlyOnline then agents.filter (·.status = .online) else agents

def getAgentById (r : AgentRegistry) (agentId : UUID) : Option AgentRecord :=
  (r.connByAgent.get? agentId).bind r.agentsByConn.get?

def getAgentByConn (r : AgentRegistry) (connId : String) : Option AgentRecord :=
  r.agentsByConn.get? connId

def getWebsocket (r : AgentRegistry) (connId : String) : Option Nat := r.connections.get? connId

/-! ## Coherence -/

/-- The indexes describe the same registrations. -/
structure Coherent (r : AgentRegistry) : Prop where
  /-- The records and the websockets have the same connections. -/
  same_keys : ∀ c, (∃ agent, r.agentsByConn.get? c = some agent) ↔
    ∃ websocket, r.connections.get? c = some websocket
  /-- The connection of an agent is the one whose record is the agent's. -/
  conn_iff : ∀ a c, r.connByAgent.get? a = some c ↔
    ∃ agent, r.agentsByConn.get? c = some agent ∧ agent.agentId = a
  /-- The schemas are those of the registered agents that have any. -/
  schemas_iff : ∀ a schemas, r.views.schemasByAgent.get? a = some schemas ↔
    ∃ c agent, r.agentsByConn.get? c = some agent ∧ agent.agentId = a ∧
      agent.schemas = schemas ∧ schemas.keys ≠ []
  /-- The reverse index of the schemas. -/
  indexed : ViewRegistry.Indexed r.views
  /-- Connection ids are built from the record and the websocket. -/
  keyed : ∀ c agent, r.agentsByConn.get? c = some agent → agent.connId = c ∧
    ∃ websocket, c = connId agent.tenantId agent.agentId websocket

variable {r : AgentRegistry} {a : UUID} {c : String}

/-- Two records of one agent are under the same connection. -/
theorem Coherent.conn_unique (h : Coherent r) {c c' : String} {agent agent' : AgentRecord}
    (hc : r.agentsByConn.get? c = some agent) (hc' : r.agentsByConn.get? c' = some agent')
    (hid : agent.agentId = agent'.agentId) : c = c' := by
  have h₁ := (h.conn_iff agent.agentId c).mpr ⟨agent, hc, rfl⟩
  have h₂ := (h.conn_iff agent.agentId c').mpr ⟨agent', hc', hid.symm⟩
  exact Option.some.inj (h₁.symm.trans h₂)

theorem Coherent.new (heartbeatTimeout : ℚ) :
    Coherent { heartbeatTimeout := heartbeatTimeout } where
  same_keys c := by
    constructor
    · rintro ⟨agent, hc⟩
      cases hc
    · rintro ⟨websocket, hc⟩
      cases hc
  conn_iff a c := by
    constructor
    · intro hc
      cases hc
    · rintro ⟨agent, hc, _⟩
      cases hc
  schemas_iff a schemas := by
    constructor
    · intro hc
      cases hc
    · rintro ⟨c, agent, hc, _⟩
      cases hc
  indexed := ViewRegistry.Indexed.empty
  keyed c agent hc := by cases hc

/-- Removing an agent keeps the indexes coherent. -/
theorem Coherent.removeAgent (h : Coherent r) (connId : String) : Coherent (r.removeAgent connId) := by
  unfold AgentRegistry.removeAgent
  cases hget : r.agentsByConn.get? connId with
  | none =>
      refine ⟨fun c ↦ ?_, h.conn_iff, h.schemas_iff, h.indexed, h.keyed⟩
      by_cases hc : c = connId
      · simp [hc, hget]
      · simpa [hc, Dict.get?_erase] using h.same_keys c
  | some removed =>
      have hremoved := (h.conn_iff removed.agentId connId).mpr ⟨removed, hget, rfl⟩
      refine ⟨fun c ↦ ?_, fun a c ↦ ?_, fun a schemas ↦ ?_, h.indexed.unregister _, fun c agent hc ↦ ?_⟩
      · by_cases hc : c = connId
        · simp [hc]
        · simpa [hc, Dict.get?_erase] using h.same_keys c
      · rw [Dict.get?_erase, Dict.get?_erase]
        constructor
        · intro hconn
          split at hconn
          · cases hconn
          · rename_i hne
            obtain ⟨agent, hc, hid⟩ := (h.conn_iff a c).mp hconn
            have hcne : c ≠ connId := by
              rintro rfl
              rw [hget] at hc
              exact hne (hid.symm.trans (congrArg AgentRecord.agentId (Option.some.inj hc).symm))
            rw [if_neg hcne]
            exact ⟨agent, hc, hid⟩
        · rintro ⟨agent, hc, hid⟩
          split at hc
          · cases hc
          · rename_i hcne
            have hne : a ≠ removed.agentId := by
              rintro rfl
              exact hcne (h.conn_unique hc hget hid)
            rw [if_neg hne]
            exact (h.conn_iff a c).mpr ⟨agent, hc, hid⟩
      · rw [ViewRegistry.schemasByAgent_unregister]
        constructor
        · intro hs
          split at hs
          · cases hs
          · rename_i hne
            obtain ⟨c, agent, hc, hid, hrest⟩ := (h.schemas_iff a schemas).mp hs
            have hcne : c ≠ connId := by
              rintro rfl
              rw [hget] at hc
              exact hne (hid.symm.trans (congrArg AgentRecord.agentId (Option.some.inj hc).symm))
            exact ⟨c, agent, by rw [Dict.get?_erase, if_neg hcne]; exact hc, hid, hrest⟩
        · rintro ⟨c, agent, hc, hid, hrest⟩
          rw [Dict.get?_erase] at hc
          split at hc
          · cases hc
          · rename_i hcne
            have hne : a ≠ removed.agentId := by
              rintro rfl
              exact hcne (h.conn_unique hc hget hid)
            rw [if_neg hne]
            exact (h.schemas_iff a schemas).mpr ⟨c, agent, hc, hid, hrest⟩
      · rw [Dict.get?_erase] at hc
        split at hc
        · cases hc
        · exact h.keyed c agent hc

theorem Coherent.supersede (h : Coherent r) (agentId : UUID) : Coherent (r.supersede agentId) := by
  unfold AgentRegistry.supersede
  split
  · exact h
  · exact h.removeAgent _

/-- After `supersede` the agent is not registered. -/
theorem connByAgent_supersede (h : Coherent r) (agentId : UUID) :
    (r.supersede agentId).connByAgent.get? agentId = none := by
  unfold AgentRegistry.supersede
  cases hconn : r.connByAgent.get? agentId with
  | none => exact hconn
  | some existingConn =>
      obtain ⟨agent, hget, rfl⟩ := (h.conn_iff agentId existingConn).mp hconn
      simp only [AgentRegistry.removeAgent, hget]
      exact Dict.get?_erase_self _ _

/-- What a record that was built looks like. -/
theorem construct_ok {now : Time} {agentId : UUID} {tenantId connId : String}
    {capabilities tags schemas metadata : Json} {agent : AgentRecord}
    (h : AgentRecord.construct now agentId tenantId connId capabilities tags
      (schemas.orElse (.obj [])) metadata = .ok agent) :
    agent.agentId = agentId ∧ agent.tenantId = tenantId ∧ agent.connId = connId ∧
      (agent.schemas.keys ≠ [] ↔ schemas.truthy = true) := by
  unfold AgentRecord.construct at h
  split at h
  · rename_i capabilities' tags' schemas' metadata' _ _ hschemas _
    cases h
    refine ⟨rfl, rfl, rfl, ?_⟩
    rw [ne_eq, Dict.keys_ofList_eq_nil]
    unfold Json.orElse at hschemas
    split at hschemas
    · rename_i htruthy
      refine iff_of_true ?_ htruthy
      rintro rfl
      cases schemas with
      | obj fields =>
          cases fields with
          | nil => cases htruthy
          | cons e fields =>
              simp only [Json.dicts?, List.mapM_cons, Option.bind_eq_bind] at hschemas
              obtain ⟨_, _, hrest⟩ := Option.bind_eq_some_iff.mp hschemas
              obtain ⟨_, _, hnil⟩ := Option.bind_eq_some_iff.mp hrest
              cases hnil
      | _ => cases hschemas
    · rename_i hfalsy
      refine iff_of_false ?_ hfalsy
      obtain rfl : schemas' = [] := by simpa [Json.dicts?] using hschemas.symm
      simp
  · cases h

/-- Storing the record of an agent that is not registered keeps the indexes
coherent, when its schemas are stored with it. -/
theorem Coherent.store (h : Coherent r) {agent : AgentRecord} {websocket : Nat}
    (hnone : r.connByAgent.get? agent.agentId = none)
    (hconn : agent.connId = connId agent.tenantId agent.agentId websocket)
    {views : ViewRegistry} (hindexed : ViewRegistry.Indexed views)
    (hviews : ∀ a schemas, views.schemasByAgent.get? a = some schemas ↔
      a = agent.agentId ∧ agent.schemas = schemas ∧ schemas.keys ≠ [] ∨
        a ≠ agent.agentId ∧ r.views.schemasByAgent.get? a = some schemas) :
    Coherent { r.store agent websocket with views := views } := by
  -- no other record is under the new connection id, which determines its agent
  have hfree : ∀ c agent', r.agentsByConn.get? c = some agent' →
      agent'.agentId ≠ agent.agentId ∧ c ≠ agent.connId := by
    intro c agent' hc
    have hne : agent'.agentId ≠ agent.agentId := by
      intro hid
      have := (h.conn_iff agent.agentId c).mpr ⟨agent', hc, hid⟩
      rw [hnone] at this
      cases this
    refine ⟨hne, ?_⟩
    rintro rfl
    obtain ⟨_, w', hkey⟩ := h.keyed _ _ hc
    rw [hconn] at hkey
    exact hne (connId_injective hkey).2.1.symm
  refine ⟨fun c ↦ ?_, fun a c ↦ ?_, fun a schemas ↦ ?_, hindexed, fun c agent' hc ↦ ?_⟩
  · by_cases hc : c = agent.connId
    · simp [hc, AgentRegistry.store, Dict.get?_insert_self]
    · simpa [hc, AgentRegistry.store, Dict.get?_insert] using h.same_keys c
  · simp only [AgentRegistry.store, Dict.get?_insert]
    constructor
    · intro hget
      split at hget
      · rename_i ha
        obtain rfl := Option.some.inj hget
        rw [if_pos rfl]
        exact ⟨agent, rfl, ha.symm⟩
      · obtain ⟨agent', hc, hid⟩ := (h.conn_iff a c).mp hget
        rw [if_neg (hfree c agent' hc).2]
        exact ⟨agent', hc, hid⟩
    · rintro ⟨agent', hc, hid⟩
      split at hc
      · rename_i heq
        obtain rfl := Option.some.inj hc
        rw [if_pos hid.symm, heq]
      · rw [if_neg fun ha ↦ (hfree c agent' hc).1 (hid.trans ha)]
        exact (h.conn_iff a c).mpr ⟨agent', hc, hid⟩
  · rw [hviews]
    simp only [AgentRegistry.store, Dict.get?_insert]
    constructor
    · rintro (⟨rfl, hrest⟩ | ⟨hne, hs⟩)
      · exact ⟨agent.connId, agent, if_pos rfl, rfl, hrest⟩
      · obtain ⟨c, agent', hc, hid, hrest⟩ := (h.schemas_iff a schemas).mp hs
        exact ⟨c, agent', by rw [if_neg (hfree c agent' hc).2]; exact hc, hid, hrest⟩
    · rintro ⟨c, agent', hc, hid, hrest⟩
      split at hc
      · obtain rfl := Option.some.inj hc
        exact .inl ⟨hid.symm, hrest⟩
      · have hne := (hfree c agent' hc).1
        exact .inr ⟨fun ha ↦ hne (hid.trans ha),
          (h.schemas_iff a schemas).mpr ⟨c, agent', hc, hid, hrest⟩⟩
  · simp only [AgentRegistry.store, Dict.get?_insert] at hc
    split at hc
    · rename_i heq
      obtain rfl := Option.some.inj hc
      exact ⟨heq.symm, websocket, heq.trans hconn⟩
    · exact h.keyed c agent' hc

theorem Coherent.register (h : Coherent r) (now : Time) (agentId : UUID) (tenantId : String)
    (websocket : Nat) (capabilities tags schemas metadata : Json) :
    Coherent (r.register now agentId tenantId websocket capabilities tags schemas metadata).1 := by
  have hbefore := h.supersede agentId
  have hnone := connByAgent_supersede h agentId
  unfold AgentRegistry.register
  dsimp only
  split
  · exact hbefore
  · rename_i agent hok
    obtain ⟨rfl, rfl, hconn, hschemas⟩ := construct_ok hok
    dsimp only
    split
    · rename_i htruthy
      refine hbefore.store hnone hconn (hbefore.indexed.register _ _) fun a s ↦ ?_
      rw [ViewRegistry.schemasByAgent_register]
      by_cases ha : a = agent.agentId
      · simp only [ha, if_pos, Option.some.injEq, true_and, ne_eq, not_true_eq_false, false_and,
          or_false]
        exact ⟨fun hs ↦ ⟨hs, hs ▸ hschemas.mpr htruthy⟩, And.left⟩
      · simp [ha, AgentRegistry.store]
    · rename_i hfalsy
      refine hbefore.store hnone hconn hbefore.indexed fun a s ↦ ?_
      have hempty : agent.schemas.keys = [] := by
        by_contra hne
        exact hfalsy (hschemas.mp hne)
      by_cases ha : a = agent.agentId
      · subst ha
        refine iff_of_false ?_ ?_
        · intro hs
          obtain ⟨c, agent', hc, hid, _⟩ := (hbefore.schemas_iff _ s).mp hs
          have := (hbefore.conn_iff agent.agentId c).mpr ⟨agent', hc, hid⟩
          rw [hnone] at this
          cases this
        · rintro (⟨_, rfl, hne⟩ | ⟨hne, _⟩)
          · exact hne hempty
          · exact hne rfl
      · simp [ha]

theorem Coherent.unregister (h : Coherent r) (connId : String) :
    Coherent (r.unregister connId).1 := by
  unfold AgentRegistry.unregister
  split
  · exact h
  · exact h.removeAgent connId

/-- Changing a record in place keeps the indexes coherent, if its identity and
its schemas stay. -/
theorem Coherent.update (h : Coherent r) {agent agent' : AgentRecord}
    (hget : r.agentsByConn.get? c = some agent) (hagent : agent'.agentId = agent.agentId)
    (htenant : agent'.tenantId = agent.tenantId) (hconn : agent'.connId = agent.connId)
    (hschemas : agent'.schemas = agent.schemas) :
    Coherent { r with agentsByConn := r.agentsByConn.insert c agent' } := by
  -- a property of identity and schemas holds of the new record where it held of the old
  have key : ∀ (P : AgentRecord → Prop), (P agent' ↔ P agent) → ∀ c',
      (∃ b, (r.agentsByConn.insert c agent').get? c' = some b ∧ P b) ↔
        ∃ b, r.agentsByConn.get? c' = some b ∧ P b := by
    intro P hP c'
    by_cases hc : c' = c
    · subst hc
      simp [Dict.get?_insert_self, hget, hP]
    · simp [Dict.get?_insert, hc]
  refine ⟨fun c' ↦ ?_, fun a c' ↦ ?_, fun a schemas ↦ ?_, h.indexed, fun c' b hb ↦ ?_⟩
  · have := key (fun _ ↦ True) Iff.rfl c'
    simp only [and_true] at this
    exact this.trans (h.same_keys c')
  · exact (h.conn_iff a c').trans (key (fun b ↦ b.agentId = a) (by rw [hagent]) c').symm
  · refine (h.schemas_iff a schemas).trans (exists_congr fun c' ↦ ?_)
    exact (key (fun b ↦ b.agentId = a ∧ b.schemas = schemas ∧ schemas.keys ≠ [])
      (by rw [hagent, hschemas]) c').symm
  · rw [Dict.get?_insert] at hb
    split at hb
    · rename_i heq
      obtain rfl := Option.some.inj hb
      rw [hconn, htenant, hagent, heq]
      exact h.keyed c agent hget
    · exact h.keyed c' b hb

theorem Coherent.heartbeat (h : Coherent r) (now : Time) (connId : String) :
    Coherent (r.heartbeat now connId).1 := by
  unfold AgentRegistry.heartbeat
  cases hget : r.agentsByConn.get? connId with
  | none => exact h
  | some agent =>
      dsimp only
      split
      · exact h.update hget rfl rfl rfl rfl
      · exact h.update hget rfl rfl rfl rfl

theorem Coherent.cleanupDeadAgents (h : Coherent r) (now : Time) :
    Coherent (r.cleanupDeadAgents now).1 := by
  have hfold : ∀ (conns : List String) (r : AgentRegistry), Coherent r →
      Coherent (conns.foldl AgentRegistry.removeAgent r) := by
    intro conns
    induction conns with
    | nil => exact fun r h ↦ h
    | cons c conns ih => exact fun r h ↦ ih _ (h.removeAgent c)
  exact hfold _ _ h

/-- A connection of an agent that has another one now is not registered. -/
theorem Coherent.superseded (h : Coherent r) {t t' : String} {w w' : Nat} (hw : w ≠ w')
    (hconn : r.connByAgent.get? a = some (connId t' a w')) :
    r.agentsByConn.get? (connId t a w) = none := by
  by_contra hne
  obtain ⟨agent, hget⟩ := Option.ne_none_iff_exists'.mp hne
  obtain ⟨_, w'', hkey⟩ := h.keyed _ _ hget
  obtain ⟨_, hid, _⟩ := connId_injective hkey
  have := (h.conn_iff a _).mpr ⟨agent, hget, hid.symm⟩
  exact hw (connId_injective (Option.some.inj (this.symm.trans hconn))).2.2

/-! ## Runs -/

inductive RegistryOp where
  | register (agentId : UUID) (tenantId : String) (websocket : Nat)
      (capabilities tags schemas metadata : Json)
  | unregister (connId : String)
  | heartbeat (connId : String)
  | cleanup

/-- The state after an operation. -/
def exec (r : AgentRegistry) (now : Time) : RegistryOp → AgentRegistry
  | .register agentId tenantId websocket capabilities tags schemas metadata =>
      (r.register now agentId tenantId websocket capabilities tags schemas metadata).1
  | .unregister connId => (r.unregister connId).1
  | .heartbeat connId => (r.heartbeat now connId).1
  | .cleanup => (r.cleanupDeadAgents now).1

def Executes : Step AgentRegistry (Time × RegistryOp) := fun r op r' ↦ r' = r.exec op.1 op.2

theorem Coherent.exec (h : Coherent r) (now : Time) (op : RegistryOp) :
    Coherent (r.exec now op) := by
  cases op with
  | register agentId tenantId websocket capabilities tags schemas metadata =>
      exact h.register now agentId tenantId websocket capabilities tags schemas metadata
  | unregister connId => exact h.unregister connId
  | heartbeat connId => exact h.heartbeat now connId
  | cleanup => exact h.cleanupDeadAgents now

/-- Every sequence of operations keeps the indexes coherent. -/
theorem Coherent.of_run {heartbeatTimeout : ℚ} {ops : List (Time × RegistryOp)}
    (h : Run Executes { heartbeatTimeout := heartbeatTimeout } ops r) : Coherent r := by
  refine Run.invariant ?_ h (Coherent.new _)
  rintro r op r' hr rfl
  exact hr.exec op.1 op.2

/-- After any sequence of operations the indexes are coherent, and unregistering
a connection of an agent that has a connection over another websocket changes
nothing. -/
theorem registry_coherent {heartbeatTimeout : ℚ} {ops : List (Time × RegistryOp)}
    (h : Run Executes { heartbeatTimeout := heartbeatTimeout } ops r) :
    Coherent r ∧ ∀ a t t' w w', w ≠ w' → r.connByAgent.get? a = some (connId t' a w') →
      r.unregister (connId t a w) = (r, none) := by
  have hcoherent := Coherent.of_run h
  refine ⟨hcoherent, fun a t t' w w' hw hconn ↦ ?_⟩
  rw [unregister, hcoherent.superseded hw hconn]

/-- An agent reconnects over another websocket; its first connection closes late. -/
theorem registry_coherent_sample :
    let first : Time × RegistryOp := (0, .register ⟨1⟩ "acme" 10 (.arr []) (.arr [])
      (.obj [("translate", .obj [])]) (.obj []))
    let second : Time × RegistryOp := (1, .register ⟨1⟩ "acme" 11 (.arr []) (.arr [])
      (.obj [("summarize", .obj [])]) (.obj []))
    let r := ((({} : AgentRegistry).exec first.1 first.2).exec second.1 second.2)
    Coherent r ∧ r.unregister (connId "acme" ⟨1⟩ 10) = (r, none) := by
  intro first second r
  have hrun : Run Executes {} [first, second] r := .cons rfl (.single rfl)
  obtain ⟨hcoherent, hlate⟩ := registry_coherent hrun
  exact ⟨hcoherent, hlate ⟨1⟩ "acme" "acme" 10 11 (by decide) (by decide +kernel)⟩

end AgentRegistry

end SemanticBus
