import SemanticBus.Transport.Ordering

/-!
# The flag of a forwarded result

A result is forwarded with a flag, `_view_valid`, that tells the requester whether it has
the fields that the schema of its provider requires.  The flag is also set when nothing
was looked up: for a result that is falsy, and for a schema without properties.  And it is
set when each field is found in a result that is no object, a list or a text.

`flag_iff` says for which results the flag tells the truth.
-/

namespace SemanticBus

namespace Json

variable {value : Json} {required : List Json}

/-- An object with all of the required fields. -/
def HasFields (value : Json) (required : List Json) : Prop :=
  ∃ fields, value.obj? = some fields ∧
    ∀ field ∈ required, ∃ name, field.str? = some name ∧ (fields.lookup name).isSome = true

/-- In an object the fields are found that it has. -/
theorem contains_obj_iff (fields : JsonObj) (field : Json) : (obj fields).contains field = some true ↔
    ∃ name, field.str? = some name ∧ (fields.lookup name).isSome = true := by
  cases field
  case str name => simp [contains, str?]
  all_goals simp [contains, str?, hashable]

theorem hasFields_obj_iff (fields : JsonObj) : (obj fields).HasFields required ↔
    ∀ field ∈ required, (obj fields).contains field = some true := by
  simp only [contains_obj_iff]
  constructor
  · rintro ⟨fields', hfields, hall⟩
    cases hfields
    exact hall
  · intro hall
    exact ⟨fields, rfl, hall⟩

theorem HasFields.obj (h : value.HasFields required) : value.obj?.isSome = true := by
  obtain ⟨fields, hfields, -⟩ := h
  rw [hfields, Option.isSome_some]

end Json

namespace ViewRegistry

variable {schemaDef : JsonObj} {required : List Json} {payload : Json}

/-- What conforms to a schema with properties is something in which the required fields are
found. -/
theorem conforms_iff (hproperties : (schemaDef.get? "properties").isSome = true)
    (hrequired : schemaDef.get? "required" = some (.arr required)) :
    conforms schemaDef payload = true ↔ ∀ field ∈ required, payload.contains field = some true := by
  have hlist : schemaDef.getD "required" (.arr []) = .arr required := by
    rw [JsonObj.getD, ← JsonObj.get?, hrequired, Option.getD_some]
  rw [conforms, if_pos hproperties, hlist, Json.items?, Option.any_some, List.all_eq_true]
  simp only [decide_eq_true_eq]

/-- What conforms to a schema with properties has the required fields exactly if it is an
object or conforms not at all. -/
theorem hasFields_of_conforms_iff (hproperties : (schemaDef.get? "properties").isSome = true)
    (hrequired : schemaDef.get? "required" = some (.arr required)) :
    (conforms schemaDef payload = true → payload.HasFields required) ↔
      payload.obj?.isSome = true ∨ ∃ field ∈ required, payload.contains field ≠ some true := by
  rw [conforms_iff hproperties hrequired]
  constructor
  · intro h
    by_cases hfound : ∀ field ∈ required, payload.contains field = some true
    · exact .inl (h hfound).obj
    · obtain ⟨field, hmissing⟩ := not_forall.mp hfound
      exact .inr ⟨field, Classical.not_imp.mp hmissing⟩
  · rintro (hobj | ⟨field, hfield, hmissing⟩) hfound
    · cases payload with
      | obj fields => exact (Json.hasFields_obj_iff fields).mpr hfound
      | _ => cases hobj
    · exact absurd (hfound field hfield) hmissing

theorem conforms_of_not (h : ¬ (schemaDef.get? "properties").isSome = true) :
    conforms schemaDef payload = true := if_neg h

end ViewRegistry

namespace Bus

open ViewRegistry

variable {b : Bus} {env : Env} {websocket requester : Nat} {envelope : MessageEnvelope}
  {sid : UUID} {session : Session} {message : Message} {schemaDef : JsonObj}
  {required : List Json} {valid : Bool}

def capabilityOf (session : Session) : Json := session.intent.getD "capability" (.str "unknown")

/-- A result that is forwarded has its flag and its capability written over it. -/
theorem handleExecResult_forwarded
    (hcheck : b.checkProvider env envelope "exec.result" = .ok (sid, session))
    (hsent : (requester, message) ∈ (b.handleExecResult env websocket envelope).sends)
    (htype : message.messageType = .execResult) :
    ∃ valid, b.viewValid session envelope.senderId envelope.payload = .ok valid ∧
      message.payload = (JsonObj.set envelope.payload "_view_valid" (.bool valid)).set "_capability"
        (capabilityOf session) := by
  rw [handleExecResult, hcheck] at hsent
  dsimp only at hsent
  split at hsent
  · obtain ⟨-, rfl⟩ := Prod.mk.inj (List.mem_singleton.mp hsent)
    cases htype
  · split at hsent
    · cases hsent
    · rename_i valid hvalid
      split at hsent
      · cases hsent
      · split at hsent
        · obtain ⟨-, rfl⟩ := Prod.mk.inj (List.mem_singleton.mp hsent)
          cases htype
        · obtain ⟨-, rfl⟩ := Prod.mk.inj (List.mem_singleton.mp hsent)
          exact ⟨valid, hvalid, rfl⟩

/-- The fields of a forwarded result. -/
theorem lookup_forwarded (body : JsonObj) (capability : Json) (key : String) :
    List.lookup key ((body.set "_view_valid" (.bool valid)).set "_capability" capability) =
      if key = "_capability" then some capability
      else if key = "_view_valid" then some (.bool valid) else body.lookup key := by
  rw [JsonObj.lookup_set, JsonObj.lookup_set]

/-- A result is looked into: there are a result and a capability, and a schema with properties. -/
def LooksInto (schemaDef : JsonObj) (session : Session) (body : JsonObj) : Prop :=
  (capabilityOf session).truthy = true ∧ (body.get "result").truthy = true ∧
    (schemaDef.get? "properties").isSome = true

/-- With a schema, the flag is set for what conforms to it, and for what is not looked into. -/
theorem viewValid_true_iff {provider : UUID} {body : JsonObj}
    (hschema : b.registry.views.getSchema provider (capabilityOf session) = .ok (some schemaDef))
    (hvalid : b.viewValid session provider body = .ok valid) :
    valid = true ↔ (LooksInto schemaDef session body →
      conforms schemaDef (body.get "result") = true) := by
  rw [viewValid, ← capabilityOf] at hvalid
  split at hvalid
  · rename_i hlooks
    obtain ⟨hcapability, hresult⟩ := Bool.and_eq_true_iff.mp hlooks
    rw [validate, hschema] at hvalid
    cases hvalid
    constructor
    · intro h _
      exact h
    · intro h
      by_cases hproperties : (schemaDef.get? "properties").isSome = true
      · exact h ⟨hcapability, hresult, hproperties⟩
      · exact conforms_of_not hproperties
  · rename_i hlooks
    cases hvalid
    refine iff_of_true rfl fun hlooks' ↦ ?_
    exact absurd (Bool.and_eq_true_iff.mpr ⟨hlooks'.1, hlooks'.2.1⟩) hlooks

/-- A result that is forwarded with the flag set has the fields that the schema of its provider
requires, exactly if a result that is looked into is an object or misses a field, and one that
is not has the fields by itself. -/
theorem flag_iff
    (hcheck : b.checkProvider env envelope "exec.result" = .ok (sid, session))
    (hschema : b.registry.views.getSchema envelope.senderId (capabilityOf session) =
      .ok (some schemaDef))
    (hrequired : schemaDef.get? "required" = some (.arr required))
    (hsent : (requester, message) ∈ (b.handleExecResult env websocket envelope).sends)
    (htype : message.messageType = .execResult) :
    (message.payload.lookup "_view_valid" = some (.bool true) →
        (message.payload.get "result").HasFields required) ↔
      (LooksInto schemaDef session envelope.payload →
        (JsonObj.get envelope.payload "result").obj?.isSome = true ∨
          ∃ field ∈ required,
            (JsonObj.get envelope.payload "result").contains field ≠ some true) ∧
      (¬ LooksInto schemaDef session envelope.payload →
        (JsonObj.get envelope.payload "result").HasFields required) := by
  obtain ⟨valid, hvalid, hpayload⟩ := handleExecResult_forwarded hcheck hsent htype
  have hflag : message.payload.lookup "_view_valid" = some (.bool true) ↔ valid = true := by
    rw [hpayload, lookup_forwarded, if_neg (by decide), if_pos rfl]
    simp
  have hresult : message.payload.get "result" = JsonObj.get envelope.payload "result" := by
    rw [JsonObj.get, JsonObj.getD, hpayload, lookup_forwarded, if_neg (by decide),
      if_neg (by decide)]
    rfl
  rw [hflag, hresult, viewValid_true_iff hschema hvalid]
  by_cases hlooks : LooksInto schemaDef session envelope.payload
  · rw [← hasFields_of_conforms_iff hlooks.2.2 hrequired]
    constructor
    · intro h
      exact ⟨fun _ hconforms ↦ h fun _ ↦ hconforms, fun hnot ↦ absurd hlooks hnot⟩
    · intro h hconforms
      exact h.1 hlooks (hconforms hlooks)
  · constructor
    · intro h
      exact ⟨fun hlooks' ↦ absurd hlooks' hlooks, fun _ ↦ h fun hlooks' ↦ absurd hlooks' hlooks⟩
    · intro h _
      exact h.2 hlooks

/-! ### Results of a provider that requires a text -/

open Server

def sampleSchema : JsonObj :=
  [("properties", .obj [("text", .obj [])]), ("required", .arr [.str "text"])]

def sampleBus : Bus :=
  (playState sampleStart (sampleNegotiation ++
    [(200010, ⟨90⟩, .connect 12 (sampleEnvelope .agentRegister busId "acme" none
        [("schemas", .obj [("unknown", .obj sampleSchema)])])),
      sampleAgree 300000])).2.bus

def sampleResult (result : Json) : MessageEnvelope :=
  sampleEnvelope .execResult busId "acme" (some ⟨100⟩) [("result", result)]

def sampleSends (result : Json) : List (Nat × Message) :=
  (sampleBus.handleExecResult ⟨400000, fun _ ↦ ⟨90⟩⟩ 11 (sampleResult result)).sends

def sampleForwarded (result : Json) (valid : Bool) : Message where
  messageType := .execResult
  senderId := busId
  tenantId := "acme"
  ephemeralInterfaceId := some ⟨100⟩
  payload := [("result", result), ("_view_valid", .bool valid), ("_capability", .str "unknown")]

/-- A text for the required field is forwarded with the flag. -/
theorem flag_sample : (10, sampleForwarded (.obj [("text", .str "hello")]) true) ∈
      sampleSends (.obj [("text", .str "hello")]) ∧
    (Json.obj [("text", .str "hello")]).HasFields [.str "text"] := by
  have hsent : (10, sampleForwarded (.obj [("text", .str "hello")]) true) ∈
      sampleSends (.obj [("text", .str "hello")]) := List.mem_singleton.mpr rfl
  refine ⟨hsent, (flag_iff rfl rfl rfl hsent rfl).mpr ⟨fun _ ↦ .inl rfl, fun hnot ↦ ?_⟩ rfl⟩
  exact absurd ⟨rfl, rfl, rfl⟩ hnot

/-- The empty object, and a text in which the name of the field occurs, are forwarded with the
flag too. -/
theorem flag_misleads :
    sampleBus.registry.views.getSchema busId (.str "unknown") = .ok (some sampleSchema) ∧
      ∀ result ∈ [Json.obj [], .str "some text"],
        (10, sampleForwarded result true) ∈ sampleSends result ∧
          ¬ result.HasFields [.str "text"] := by
  refine ⟨rfl, ?_⟩
  intro result hresult
  rcases List.mem_pair.mp hresult with rfl | rfl
  · refine ⟨List.mem_singleton.mpr rfl, ?_⟩
    rintro ⟨fields, hfields, hall⟩
    cases hfields
    obtain ⟨name, hname, hfound⟩ := hall _ (List.mem_singleton.mpr rfl)
    cases hfound
  · refine ⟨List.mem_singleton.mpr rfl, ?_⟩
    rintro ⟨fields, hfields, -⟩
    cases hfields

end Bus

end SemanticBus
