import SemanticBus.Data.Clock
import SemanticBus.Schema.ViewRegistry

/-!
# Agent records

What the registry knows about a connected agent, how a record is validated, and
the key of a connection.  `connId_injective` says that the key determines the
tenant, the agent and the websocket, whatever characters the tenant id has: the
last two components contain no colon.
-/

namespace SemanticBus

inductive AgentStatus where
  | online
  | offline
  | idle
deriving DecidableEq, Repr

def AgentStatus.value : AgentStatus → String
  | online => "online"
  | offline => "offline"
  | idle => "idle"

structure AgentRecord where
  agentId : UUID
  tenantId : String
  connId : String
  capabilities : List String := []
  description : Option String := none
  tags : List String := []
  schemas : SchemaMap := ∅
  status : AgentStatus := .online
  lastSeen : Time
  registeredAt : Time
  load : ℚ := 0
  metadata : JsonObj := []

namespace AgentRecord

/-- The record that `AgentRecord(...)` builds from what a client sent, or the
`ValidationError` it raises. -/
def construct (now : Time) (agentId : UUID) (tenantId connId : String)
    (capabilities tags schemas metadata : Json) : Except PyError AgentRecord :=
  match capabilities.strList?, tags.strList?, schemas.dicts?, metadata.obj? with
  | some capabilities, some tags, some schemas, some metadata => .ok
      { agentId := agentId
        tenantId := tenantId
        connId := connId
        capabilities := capabilities
        tags := tags
        schemas := Dict.ofList schemas
        lastSeen := now
        registeredAt := now
        metadata := metadata }
  | _, _, _, _ => .error .validationError

/-- Whether the agent is still alive, by its last sign of life. -/
def isAlive (agent : AgentRecord) (now : Time) (timeoutSeconds : ℚ) : Bool :=
  ((now - agent.lastSeen : Int) : ℚ) ≤ timeoutSeconds * 1000000

/-- Update the last sign of life. -/
def touch (agent : AgentRecord) (now : Time) : AgentRecord := { agent with lastSeen := now }

def toPublicDict (agent : AgentRecord) : Json :=
  .obj [("agent_id", .str agent.agentId.str), ("tenant_id", .str agent.tenantId),
    ("capabilities", .ofStrs agent.capabilities), ("tags", .ofStrs agent.tags),
    ("status", .str agent.status.value), ("load", .float agent.load)]

end AgentRecord

/-! ## Connection ids -/

/-- The key of a connection: `f"{tenant_id}:{agent_id}:{id(websocket)}"`. -/
def connId (tenantId : String) (agentId : UUID) (websocket : Nat) : String :=
  tenantId ++ ":" ++ agentId.str ++ ":" ++ toString websocket

/-- Two lists that agree agree around the last occurrence of an element. -/
theorem append_cons_inj {α : Type*} {c : α} {x y z w : List α} (hz : c ∉ z) (hw : c ∉ w)
    (h : x ++ c :: z = y ++ c :: w) : x = y ∧ z = w := by
  rcases List.append_eq_append_iff.mp h with ⟨l, hy, hl⟩ | ⟨l, hx, hl⟩
  · cases l with
    | nil => exact ⟨by simpa using hy.symm, by simpa using hl⟩
    | cons b l =>
        obtain ⟨rfl, rfl⟩ := List.cons.inj hl
        exact absurd (by simp) hz
  · cases l with
    | nil => exact ⟨by simpa using hx, by simpa using hl.symm⟩
    | cons b l =>
        obtain ⟨rfl, rfl⟩ := List.cons.inj hl
        exact absurd (by simp) hw

theorem colon_notMem_toString (n : Nat) : ':' ∉ (toString n).toList := by
  intro h
  have hdigits : (toString n).toList = Nat.toDigits 10 n := by
    rw [Nat.toString_eq_ofList_toDigits, String.toList_ofList]
  rw [hdigits] at h
  exact absurd (Nat.isDigit_of_mem_toDigits (by decide) (by decide) h) (by decide)

theorem toString_injective : Function.Injective (toString : Nat → String) := by
  intro n m h
  have hn : Nat.ofDigitChars 10 (Nat.toDigits 10 n) 0 = n := Nat.ofDigitChars_ten_toDigits
  have hm : Nat.ofDigitChars 10 (Nat.toDigits 10 m) 0 = m := Nat.ofDigitChars_ten_toDigits
  rw [Nat.toString_eq_ofList_toDigits, Nat.toString_eq_ofList_toDigits] at h
  rw [← hn, ← hm, String.ofList_injective h]

/-- A connection id determines its three components. -/
theorem connId_injective {t t' : String} {a a' : UUID} {w w' : Nat}
    (h : connId t a w = connId t' a' w') : t = t' ∧ a = a' ∧ w = w' := by
  have hlist : (t.toList ++ ':' :: a.str.toList) ++ ':' :: (toString w).toList
      = (t'.toList ++ ':' :: a'.str.toList) ++ ':' :: (toString w').toList := by
    have := congrArg String.toList h
    simpa [connId] using this
  obtain ⟨hfront, hsocket⟩ :=
    append_cons_inj (colon_notMem_toString w) (colon_notMem_toString w') hlist
  obtain ⟨htenant, hagent⟩ := append_cons_inj a.colon_notMem_str a'.colon_notMem_str hfront
  refine ⟨String.toList_injective htenant, ?_, ?_⟩
  · exact UUID.str_injective (String.toList_injective hagent)
  · exact toString_injective (String.toList_injective hsocket)

end SemanticBus
