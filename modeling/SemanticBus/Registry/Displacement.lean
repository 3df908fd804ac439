import SemanticBus.Registry.Registry

/-!
# What a registration displaces

`register` closes and removes the connection of the agent id before it builds the
record, and it looks that connection up by the agent id alone.  So a record that does
not validate costs the agent the connection it had, and a record that does takes the
connection of an agent of another tenant.

`Considerate` says what a call is to leave alone.  It is so exactly if the agent id has no
connection yet, or the record validates and the connection is one of the same tenant that
shares its websocket with no other.
-/

namespace SemanticBus.AgentRegistry

structure RegisterCall where
  now : Time
  agentId : UUID
  tenantId : String
  websocket : Nat
  capabilities : Json := .arr []
  tags : Json := .arr []
  schemas : Json := .obj []
  metadata : Json := .obj []

namespace RegisterCall

def valid (call : RegisterCall) : Bool :=
  (call.capabilities.orElse (.arr [])).strList?.isSome &&
    (call.tags.orElse (.arr [])).strList?.isSome &&
    (call.schemas.orElse (.obj [])).dicts?.isSome &&
    (call.metadata.orElse (.obj [])).obj?.isSome

/-- The registry after the call. -/
def after (call : RegisterCall) (r : AgentRegistry) : AgentRegistry :=
  (r.register call.now call.agentId call.tenantId call.websocket call.capabilities call.tags
    call.schemas call.metadata).1

/-- What the call returns or raises. -/
def reply (call : RegisterCall) (r : AgentRegistry) : Except PyError (String × AgentRecord) :=
  (r.register call.now call.agentId call.tenantId call.websocket call.capabilities call.tags
    call.schemas call.metadata).2

def closes (call : RegisterCall) (r : AgentRegistry) : Option Nat := r.existing call.agentId

end RegisterCall

/-- A registration is in all indexes of `r'` as it is in those of `r`. -/
structure Kept (r r' : AgentRegistry) (c : String) (agent : AgentRecord) : Prop where
  record : r'.agentsByConn.get? c = some agent
  conn : r'.connByAgent.get? agent.agentId = some c
  websocket : r'.connections.get? c = r.connections.get? c
  schemas : r'.views.schemasByAgent.get? agent.agentId = r.views.schemasByAgent.get? agent.agentId

/-- A call that raises changes nothing, and one that succeeds leaves every registration but
those of the agent in its tenant in place and open. -/
structure Considerate (r : AgentRegistry) (call : RegisterCall) : Prop where
  raised : ∀ e, call.reply r = .error e → call.after r = r ∧ call.closes r = none
  registered : ∀ result, call.reply r = .ok result → ∀ c agent,
    r.agentsByConn.get? c = some agent →
      ¬(agent.agentId = call.agentId ∧ agent.tenantId = call.tenantId) →
        Kept r (call.after r) c agent ∧
          ∀ w, call.closes r = some w → r.connections.get? c ≠ some w

/-- The connection that the agent has, if any, may be displaced: the record validates, and the
connection is one of the same tenant, over a websocket of its own. -/
def MayDisplace (r : AgentRegistry) (call : RegisterCall) : Prop :=
  ∀ c agent, r.agentsByConn.get? c = some agent → agent.agentId = call.agentId →
    call.valid = true ∧ agent.tenantId = call.tenantId ∧
      ∀ c' agent', r.agentsByConn.get? c' = some agent' →
        r.connections.get? c' = r.connections.get? c → c' = c

variable {r : AgentRegistry} {call : RegisterCall} {c c' : String} {agent agent' : AgentRecord}

/-! ## The record -/

/-- The record is built if it validates. -/
theorem construct_isOk (now : Time) (agentId : UUID) (tenantId connId : String)
    (capabilities tags schemas metadata : Json) :
    (∃ agent, AgentRecord.construct now agentId tenantId connId capabilities tags schemas metadata
        = .ok agent) ↔
      (capabilities.strList?.isSome && tags.strList?.isSome && schemas.dicts?.isSome &&
        metadata.obj?.isSome) = true := by
  rw [AgentRecord.construct]
  cases capabilities.strList? with
  | none => simp
  | some _ =>
      cases tags.strList? with
      | none => simp
      | some _ =>
          cases schemas.dicts? with
          | none => simp
          | some _ =>
              cases metadata.obj? with
              | none => simp
              | some _ => simp

/-- A call raises when the record does not validate; the connection the agent had is gone. -/
theorem RegisterCall.invalid (h : call.valid = false) :
    (∃ e, call.reply r = .error e) ∧ call.after r = r.supersede call.agentId := by
  rw [RegisterCall.reply, RegisterCall.after, register]
  dsimp only
  split
  · rename_i e _
    exact ⟨⟨e, rfl⟩, rfl⟩
  · rename_i agent hok
    have hvalid := (construct_isOk _ _ _ _ _ _ _ _).mp ⟨agent, hok⟩
    cases h.symm.trans hvalid

/-- A call with a valid record stores it. -/
theorem RegisterCall.stores (h : call.valid = true) :
    ∃ agent, agent.agentId = call.agentId ∧
      agent.connId = connId call.tenantId call.agentId call.websocket ∧
      call.reply r = .ok (agent.connId, agent) ∧
      call.after r =
        let r := (r.supersede call.agentId).store agent call.websocket
        if call.schemas.truthy then
          { r with views := r.views.registerAgentSchemas call.agentId agent.schemas }
        else r := by
  rw [RegisterCall.reply, RegisterCall.after, register]
  dsimp only
  split
  · rename_i e herror
    obtain ⟨agent, hok⟩ := (construct_isOk call.now call.agentId call.tenantId
      (connId call.tenantId call.agentId call.websocket) _ _ _ _).mpr h
    cases herror.symm.trans hok
  · rename_i agent hok
    obtain ⟨hagent, -, hconn, -⟩ := construct_ok hok
    exact ⟨agent, hagent, hconn, by rw [hconn], rfl⟩

/-! ## Registrations of others -/

theorem Kept.refl (h : Coherent r) (hget : r.agentsByConn.get? c = some agent) : Kept r r c agent :=
  ⟨hget, (h.conn_iff _ _).mpr ⟨agent, hget, rfl⟩, rfl, rfl⟩

/-- Removing one agent keeps the others. -/
theorem kept_removeAgent (h : Coherent r) (hget : r.agentsByConn.get? c = some agent)
    (hne : c ≠ c') : Kept r (r.removeAgent c') c agent := by
  have hconn := (h.conn_iff _ _).mpr ⟨agent, hget, rfl⟩
  rw [removeAgent]
  cases hremoved : r.agentsByConn.get? c' with
  | none => exact ⟨hget, hconn, by rw [Dict.get?_erase, if_neg hne], rfl⟩
  | some removed =>
      have hagent : agent.agentId ≠ removed.agentId := fun hid ↦
        hne (h.conn_unique hget hremoved hid)
      constructor
      · show (r.agentsByConn.erase c').get? c = some agent
        rw [Dict.get?_erase, if_neg hne]
        exact hget
      · show (r.connByAgent.erase removed.agentId).get? agent.agentId = some c
        rw [Dict.get?_erase, if_neg hagent]
        exact hconn
      · show (r.connections.erase c').get? c = r.connections.get? c
        rw [Dict.get?_erase, if_neg hne]
      · show (r.views.unregisterAgentSchemas removed.agentId).schemasByAgent.get? agent.agentId = _
        rw [ViewRegistry.schemasByAgent_unregister, if_neg hagent]

/-- Superseding the connection of one agent keeps the others. -/
theorem kept_supersede (h : Coherent r) (hget : r.agentsByConn.get? c = some agent) {a : UUID}
    (hne : agent.agentId ≠ a) : Kept r (r.supersede a) c agent := by
  rw [supersede]
  cases hconn : r.connByAgent.get? a with
  | none => exact Kept.refl h hget
  | some existingConn =>
      refine kept_removeAgent h hget ?_
      rintro rfl
      obtain ⟨agent', hget', hid⟩ := (h.conn_iff _ _).mp hconn
      obtain rfl := Option.some.inj (hget.symm.trans hget')
      exact hne hid

/-- A valid registration keeps those of the other agents. -/
theorem kept_after (h : Coherent r) (hvalid : call.valid = true)
    (hget : r.agentsByConn.get? c = some agent) (hne : agent.agentId ≠ call.agentId) :
    Kept r (call.after r) c agent := by
  obtain ⟨new, hid, hconn, -, hafter⟩ := RegisterCall.stores (r := r) hvalid
  have hkept := kept_supersede h hget hne
  have hc : c ≠ new.connId := by
    rintro rfl
    obtain ⟨-, websocket, hkey⟩ := h.keyed _ _ hget
    exact hne (connId_injective (hkey.symm.trans hconn)).2.1
  have hstored : Kept r ((r.supersede call.agentId).store new call.websocket) c agent := by
    constructor
    · show ((r.supersede call.agentId).agentsByConn.insert new.connId new).get? c = some agent
      rw [Dict.get?_insert, if_neg hc]
      exact hkept.record
    · show ((r.supersede call.agentId).connByAgent.insert new.agentId new.connId).get? _ = some c
      rw [Dict.get?_insert, if_neg (hid ▸ hne)]
      exact hkept.conn
    · show ((r.supersede call.agentId).connections.insert new.connId call.websocket).get? c = _
      rw [Dict.get?_insert, if_neg hc]
      exact hkept.websocket
    · exact hkept.schemas
  rw [hafter]
  dsimp only
  split
  · refine ⟨hstored.record, hstored.conn, hstored.websocket, ?_⟩
    rw [ViewRegistry.schemasByAgent_register, if_neg hne]
    exact hstored.schemas
  · exact hstored

/-! ## The connection of the agent -/

/-- Superseding changes nothing only if the agent is not registered. -/
theorem supersede_eq_iff (h : Coherent r) (a : UUID) :
    r.supersede a = r ↔ r.connByAgent.get? a = none := by
  constructor
  · intro heq
    have hnone := connByAgent_supersede h a
    rw [heq] at hnone
    exact hnone
  · intro hnone
    rw [supersede, hnone]

/-- The agent is not registered if no record is its. -/
theorem connByAgent_none_iff (h : Coherent r) (a : UUID) :
    r.connByAgent.get? a = none ↔
      ∀ c agent, r.agentsByConn.get? c = some agent → agent.agentId ≠ a := by
  constructor
  · rintro hnone c agent hget rfl
    cases hnone.symm.trans ((h.conn_iff _ c).mpr ⟨agent, hget, rfl⟩)
  · intro hall
    cases hconn : r.connByAgent.get? a with
    | none => rfl
    | some c =>
        obtain ⟨agent, hget, hid⟩ := (h.conn_iff a c).mp hconn
        exact absurd hid (hall c agent hget)

/-- The websocket that a call closes is that of the agent's registration. -/
theorem closes_eq (h : Coherent r) (hget : r.agentsByConn.get? c = some agent)
    (hid : agent.agentId = call.agentId) : call.closes r = r.connections.get? c := by
  have hconn := (h.conn_iff call.agentId c).mpr ⟨agent, hget, hid⟩
  rw [RegisterCall.closes, existing, hconn]
  rfl

/-- The registration of the agent is not kept. -/
theorem not_kept_after (h : Coherent r) (hget : r.agentsByConn.get? c = some agent)
    (hid : agent.agentId = call.agentId) (htenant : agent.tenantId ≠ call.tenantId)
    (hvalid : call.valid = true) : ¬ Kept r (call.after r) c agent := by
  intro hkept
  obtain ⟨new, hnew, hconn, -, hafter⟩ := RegisterCall.stores (r := r) hvalid
  have hnow : (call.after r).connByAgent.get? call.agentId = some new.connId := by
    have hstored : ((r.supersede call.agentId).store new call.websocket).connByAgent.get?
        call.agentId = some new.connId := by
      show ((r.supersede call.agentId).connByAgent.insert new.agentId new.connId).get? _ = _
      rw [hnew]
      exact Dict.get?_insert_self _ _ _
    rw [hafter]
    dsimp only
    split
    · exact hstored
    · exact hstored
  obtain ⟨-, websocket, hkey⟩ := h.keyed c agent hget
  have hsame : c = new.connId := by
    rw [← hid] at hnow
    exact Option.some.inj (hkept.conn.symm.trans hnow)
  exact htenant (connId_injective (hkey.symm.trans (hsame.trans hconn))).1

/-- A call with an invalid record is considerate if the agent is not registered. -/
theorem considerate_invalid_iff (h : Coherent r) (hvalid : call.valid = false) :
    Considerate r call ↔ r.connByAgent.get? call.agentId = none := by
  obtain ⟨⟨e, hreply⟩, hafter⟩ := RegisterCall.invalid (r := r) hvalid
  constructor
  · intro hcons
    have heq := (hcons.raised e hreply).1
    rw [hafter] at heq
    exact (supersede_eq_iff h call.agentId).mp heq
  · intro hnone
    constructor
    · intro _ _
      refine ⟨hafter.trans ((supersede_eq_iff h call.agentId).mpr hnone), ?_⟩
      rw [RegisterCall.closes, existing, hnone]
      rfl
    · intro result hok
      cases hreply.symm.trans hok

/-- A call with a valid record is considerate if the agent's registration is of the tenant and
alone on its websocket. -/
theorem considerate_valid_iff (h : Coherent r) (hvalid : call.valid = true) :
    Considerate r call ↔
      ∀ c agent, r.agentsByConn.get? c = some agent → agent.agentId = call.agentId →
        agent.tenantId = call.tenantId ∧ ∀ c' agent', r.agentsByConn.get? c' = some agent' →
          r.connections.get? c' = r.connections.get? c → c' = c := by
  obtain ⟨new, -, -, hreply, -⟩ := RegisterCall.stores (r := r) hvalid
  constructor
  · intro hcons c agent hget hid
    have htenant : agent.tenantId = call.tenantId := by
      by_contra hne
      have hkept := hcons.registered _ hreply c agent hget fun hboth ↦ hne hboth.2
      exact not_kept_after h hget hid hne hvalid hkept.1
    refine ⟨htenant, fun c' agent' hget' hshared ↦ ?_⟩
    by_contra hne
    have hother : agent'.agentId ≠ call.agentId := fun hid' ↦
      hne (h.conn_unique hget' hget (hid'.trans hid.symm))
    obtain ⟨w, hw⟩ := (h.same_keys c).mp ⟨agent, hget⟩
    have hopen := (hcons.registered _ hreply c' agent' hget' fun hboth ↦ hother hboth.1).2
    exact hopen w ((closes_eq h hget hid).trans hw) (hshared.trans hw)
  · intro hall
    constructor
    · intro e herror
      cases hreply.symm.trans herror
    · intro _ _ c agent hget hother
      have hne : agent.agentId ≠ call.agentId := fun hid ↦ hother ⟨hid, (hall c agent hget hid).1⟩
      refine ⟨kept_after h hvalid hget hne, fun w hcloses hw ↦ ?_⟩
      cases hconn : r.connByAgent.get? call.agentId with
      | none =>
          rw [RegisterCall.closes, existing, hconn] at hcloses
          cases hcloses
      | some existingConn =>
          obtain ⟨old, hold, hid⟩ := (h.conn_iff _ _).mp hconn
          have hshared : r.connections.get? c = r.connections.get? existingConn :=
            hw.trans (hcloses.symm.trans (closes_eq h hold hid))
          obtain rfl := (hall existingConn old hold hid).2 c agent hget hshared
          obtain rfl := Option.some.inj (hget.symm.trans hold)
          exact hne hid

/-- In every state of a registry, a call to `register` is considerate exactly if it may displace
the connection that the agent has. -/
theorem considerate_iff {heartbeatTimeout : ℚ} {ops : List (Time × RegistryOp)}
    (h : Run Executes { heartbeatTimeout := heartbeatTimeout } ops r) (call : RegisterCall) :
    Considerate r call ↔ MayDisplace r call := by
  have hcoherent := Coherent.of_run h
  cases hvalid : call.valid with
  | false =>
      rw [considerate_invalid_iff hcoherent hvalid, connByAgent_none_iff hcoherent]
      refine forall₃_congr fun c agent _ ↦ ⟨fun hne hid ↦ absurd hid hne, fun hall hid ↦ ?_⟩
      cases hvalid.symm.trans (hall hid).1
  | true =>
      rw [considerate_valid_iff hcoherent hvalid]
      exact forall₄_congr fun c agent _ _ ↦ (and_iff_right hvalid).symm

/-- An agent of the tenant `acme` is connected. -/
def connected : AgentRegistry :=
  ({} : AgentRegistry).exec 0
    (.register ⟨1⟩ "acme" 10 (.arr []) (.arr []) (.obj []) (.obj []))

theorem entries_connected : connected.agentsByConn.entries = [(connId "acme" ⟨1⟩ 10,
    { agentId := ⟨1⟩
      tenantId := "acme"
      connId := connId "acme" ⟨1⟩ 10
      lastSeen := 0
      registeredAt := 0 })] := rfl

/-- The agent connects again over another websocket. -/
theorem considerate_sample :
    Considerate connected
      { now := 1
        agentId := ⟨1⟩
        tenantId := "acme"
        websocket := 11 } := by
  have hrun : Run Executes {} [(0, .register ⟨1⟩ "acme" 10 (.arr []) (.arr []) (.obj []) (.obj []))]
      connected := .single rfl
  have honly : ∀ c agent, connected.agentsByConn.get? c = some agent →
      c = connId "acme" ⟨1⟩ 10 ∧ agent.tenantId = "acme" := by
    intro c agent hget
    have hmem := Dict.mem_entries_of_get? hget
    rw [entries_connected, List.mem_singleton] at hmem
    obtain ⟨rfl, rfl⟩ := Prod.mk.inj hmem
    exact ⟨rfl, rfl⟩
  refine (considerate_iff hrun _).mpr fun c agent hget _ ↦ ?_
  refine ⟨rfl, (honly c agent hget).2, fun c' agent' hget' _ ↦ ?_⟩
  exact (honly c' agent' hget').1.trans (honly c agent hget).1.symm

/-- A call with capabilities that are no list costs an agent its connection, and a valid call under
another tenant takes it. -/
theorem not_considerate :
    ¬ Considerate connected
        { now := 1
          agentId := ⟨1⟩
          tenantId := "acme"
          websocket := 11
          capabilities := .str "translate" } ∧
      ¬ Considerate connected
        { now := 1
          agentId := ⟨1⟩
          tenantId := "globex"
          websocket := 11 } := by
  constructor
  · intro h
    have hclosed := (h.raised .validationError rfl).2
    revert hclosed
    decide +kernel
  · intro h
    have hkept := (h.registered _ rfl (connId "acme" ⟨1⟩ 10) _ rfl (by simp)).1.conn
    revert hkept
    decide +kernel

end SemanticBus.AgentRegistry
