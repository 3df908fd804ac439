import Mathlib.Data.Multiset.Lattice
import Mathlib.Order.Nat
import SemanticBus.Data.Json
import SemanticBus.Data.Uuid

/-!
# The policy engine

Intent-based access control: an engine asks its policies one after the other, stops at the
first that denies, and warns if one of them warned.  `decision_evaluate` says that the
decision is the strictest one of the policies, whatever their order, and `Judges` what the
result says besides.

With its default policies the engine denies critical requests and nothing else
(`evaluate_defaults_iff`): no purpose is asked for, no purpose or scope is denied, and the policy
for tenants allows everything.
-/

namespace SemanticBus

inductive RiskLevel where
  | low
  | medium
  | high
  | critical
deriving DecidableEq

namespace RiskLevel

def value : RiskLevel → String
  | low => "low"
  | medium => "medium"
  | high => "high"
  | critical => "critical"

def ofValue (text : String) : Option RiskLevel :=
  [low, medium, high, critical].find? (·.value = text)

def riskOrder : RiskLevel → Nat
  | low => 0
  | medium => 1
  | high => 2
  | critical => 3

theorem ofValue_eq_some_iff {text : String} {level : RiskLevel} :
    ofValue text = some level ↔ text = level.value := by
  constructor
  · intro h
    have hvalue := List.find?_some (show [low, medium, high, critical].find?
      (fun l ↦ decide (l.value = text)) = some level from h)
    exact (of_decide_eq_true hvalue).symm
  · rintro rfl
    cases level with
    | low | medium | high | critical => decide

theorem value_injective : Function.Injective value := by
  intro level level' h
  have hlevel := ofValue_eq_some_iff.mpr h
  rw [ofValue_eq_some_iff.mpr rfl] at hlevel
  exact Option.some.inj hlevel

end RiskLevel

/-- Policy evaluation result, from the mildest to the strictest. -/
inductive PolicyDecision where
  | allow
  | warn
  | deny
deriving DecidableEq

namespace PolicyDecision

def rank : PolicyDecision → ℕ
  | allow => 0
  | warn => 1
  | deny => 2

theorem rank_injective : Function.Injective rank := by
  intro a b h
  cases a with
  | allow | warn | deny =>
      cases b with
      | allow | warn | deny => first
        | rfl
        | exact absurd h (by decide)

instance : LinearOrder PolicyDecision := LinearOrder.lift' rank rank_injective

instance : OrderBot PolicyDecision where
  bot := allow
  bot_le a := Nat.zero_le (rank a)

instance : OrderTop PolicyDecision where
  top := deny
  le_top a := by
    show rank a ≤ 2
    cases a with
    | allow | warn | deny => decide

end PolicyDecision

structure PolicyContext where
  sessionId : UUID
  tenantId : String
  requesterAgentId : UUID
  providerAgentId : UUID
  action : String
  purpose : Option String := none
  dataScope : List String := []
  riskLevel : Option String := none
  execId : Option String := none
  metadata : JsonObj := []

structure PolicyResult where
  decision : PolicyDecision
  reason : Option String := none
  details : JsonObj := []

def PolicyResult.isAllowed (result : PolicyResult) : Bool :=
  result.decision = .allow || result.decision = .warn

/-- A policy: its name and how it evaluates a context. -/
structure Policy where
  name : String
  evaluate : PolicyContext → PolicyResult

namespace Policy

/-- An optional text that is there and not empty. -/
def given (text : Option String) : Option String := text.filter (· ≠ "")

/-- `RiskLevelPolicy`: denies requests that exceed the maximum allowed risk. -/
def riskLevelPolicy (maxRisk : RiskLevel) : Policy where
  name := "RiskLevelPolicy"
  evaluate context :=
    match given context.riskLevel with
    | none => { decision := .warn, reason := some "No risk_level declared" }
    | some text =>
        match RiskLevel.ofValue text with
        | none => { decision := .warn, reason := some ("Unknown risk_level: " ++ text) }
        | some declaredRisk =>
            if maxRisk.riskOrder < declaredRisk.riskOrder then
              { decision := .deny
                reason := some ("Risk level " ++ declaredRisk.value ++ " exceeds maximum " ++
                  maxRisk.value)
                details := [("declared_risk", .str declaredRisk.value),
                  ("max_allowed", .str maxRisk.value)] }
            else { decision := .allow }

/-- `PurposePolicy`: checks if a purpose is declared and valid. -/
def purposePolicy (requirePurpose : Bool) (deniedPurposes : List String) : Policy where
  name := "PurposePolicy"
  evaluate context :=
    match given context.purpose with
    | none =>
        if requirePurpose then
          { decision := .deny, reason := some "Purpose is required but not declared" }
        else { decision := .allow }
    | some purpose =>
        if purpose ∈ deniedPurposes then
          { decision := .deny
            reason := some ("Purpose '" ++ purpose ++ "' is not allowed")
            details := [("denied_purpose", .str purpose)] }
        else { decision := .allow }

/-- The scopes that are sensitive unless others are given. -/
def defaultSensitiveScopes : List String := ["pii", "financial", "health", "credentials"]

/-- `DataScopePolicy`: checks data scope access.  The order of the scopes found is that of a set,
and a text shows them as a set. -/
def dataScopePolicy (showSet : List String → String) (requireScope : Bool)
    (deniedScopes sensitiveScopes : List String) : Policy where
  name := "DataScopePolicy"
  evaluate context :=
    if requireScope && context.dataScope.isEmpty then
      { decision := .warn, reason := some "Data scope not declared" }
    else
      let denied := context.dataScope.dedup.filter (· ∈ deniedScopes)
      if denied ≠ [] then
        { decision := .deny
          reason := some ("Access to data scopes denied: " ++ showSet denied)
          details := [("denied_scopes", .ofStrs denied)] }
      else
        let sensitive := context.dataScope.dedup.filter fun scope ↦
          scope ∈ if sensitiveScopes = [] then defaultSensitiveScopes else sensitiveScopes
        if sensitive ≠ [] then
          { decision := .warn
            reason := some ("Accessing sensitive data: " ++ showSet sensitive)
            details := [("sensitive_scopes", .ofStrs sensitive)] }
        else { decision := .allow }

/-- `TenantIsolationPolicy`: leaves the check to the creation of sessions. -/
def tenantIsolationPolicy : Policy where
  name := "TenantIsolationPolicy"
  evaluate _ := { decision := .allow }

end Policy

/-- Evaluates multiple policies to make access decisions. -/
structure PolicyEngine where
  policies : List Policy

namespace PolicyEngine

open Policy

/-- The default policy stack. -/
def defaults (showSet : List String → String) : PolicyEngine where
  policies := [tenantIsolationPolicy, riskLevelPolicy .high, purposePolicy false [],
    dataScopePolicy showSet false [] []]

def addPolicy (engine : PolicyEngine) (policy : Policy) : PolicyEngine where
  policies := engine.policies ++ [policy]

/-- The warning of a policy; a reason that is missing is shown as `None`. -/
def warning (policy : Policy) (result : PolicyResult) : String :=
  policy.name ++ ": " ++ result.reason.getD "None"

/-- Ask the policies, with the warnings so far. -/
def evaluateFrom (context : PolicyContext) : List String → List Policy → PolicyResult
  | warnings, [] =>
      if warnings = [] then { decision := .allow }
      else { decision := .warn, reason := some ("; ".intercalate warnings) }
  | warnings, policy :: policies =>
      let result := policy.evaluate context
      match result.decision with
      | .deny => result
      | .warn => evaluateFrom context (warnings ++ [warning policy result]) policies
      | .allow => evaluateFrom context warnings policies

/-- Evaluate all policies against the context. -/
def evaluate (engine : PolicyEngine) (context : PolicyContext) : PolicyResult :=
  evaluateFrom context [] engine.policies

def checkExecRequest (engine : PolicyEngine) (sessionId : UUID) (tenantId : String)
    (requesterAgentId providerAgentId : UUID) (action : String) (purpose : Option String)
    (dataScope : Option (List String)) (riskLevel execId : Option String) : PolicyResult :=
  engine.evaluate
    { sessionId := sessionId
      tenantId := tenantId
      requesterAgentId := requesterAgentId
      providerAgentId := providerAgentId
      action := action
      purpose := purpose
      dataScope := dataScope.getD []
      riskLevel := riskLevel
      execId := execId }

/-! ## The decision -/

section Decision

variable {engine : PolicyEngine} {context : PolicyContext} {policy : Policy}
  {policies policies' : List Policy} {warnings : List String}

def decisions (policies : List Policy) (context : PolicyContext) : Multiset PolicyDecision :=
  (policies.map fun policy ↦ (policy.evaluate context).decision : List PolicyDecision)

theorem decisions_cons : decisions (policy :: policies) context
    = (policy.evaluate context).decision ::ₘ decisions policies context := rfl

/-- The warnings of some policies, in their order. -/
def warningsOf (policies : List Policy) (context : PolicyContext) : List String :=
  (policies.filter fun policy ↦ (policy.evaluate context).decision = .warn).map fun policy ↦
    warning policy (policy.evaluate context)

def ofWarnings (warnings : List String) : PolicyDecision := if warnings = [] then .allow else .warn

/-- The result is that of the first policy that denies, or has the warnings. -/
inductive Judges (context : PolicyContext) (warnings : List String) (policies : List Policy)
    (result : PolicyResult) : Prop
  /-- A policy denies, and those before it do not. -/
  | denied {before after : List Policy} {policy : Policy} : policies = before ++ policy :: after →
      (∀ p ∈ before, (p.evaluate context).decision ≠ .deny) →
      (policy.evaluate context).decision = .deny → result = policy.evaluate context →
      Judges context warnings policies result
  /-- No policy denies, and some warn. -/
  | warned : (∀ p ∈ policies, (p.evaluate context).decision ≠ .deny) →
      warnings ++ warningsOf policies context ≠ [] →
      result = { decision := .warn
                 reason := some ("; ".intercalate (warnings ++ warningsOf policies context)) } →
      Judges context warnings policies result
  /-- All policies allow. -/
  | allowed : (∀ p ∈ policies, (p.evaluate context).decision = .allow) → warnings = [] →
      result = { decision := .allow } → Judges context warnings policies result

theorem ofWarnings_append (warnings : List String) (text : String) :
    ofWarnings (warnings ++ [text]) = .warn := by
  rw [ofWarnings, if_neg]
  simp

/-- The decision is the strictest one, and a warning so far counts as one. -/
theorem decision_evaluateFrom : (evaluateFrom context warnings policies).decision
    = ofWarnings warnings ⊔ (decisions policies context).sup := by
  induction policies generalizing warnings with
  | nil =>
      rw [evaluateFrom, show decisions [] context = 0 from rfl, Multiset.sup_zero, sup_bot_eq,
        ofWarnings]
      split
      · rfl
      · rfl
  | cons policy policies ih =>
      rw [evaluateFrom, decisions_cons, Multiset.sup_cons]
      split
      · rename_i hdeny
        rw [hdeny, show PolicyDecision.deny = ⊤ from rfl, top_sup_eq, sup_top_eq]
      · rename_i hwarn
        rw [ih, ofWarnings_append, hwarn, ← sup_assoc]
        congr 1
        rw [ofWarnings]
        split
        · rfl
        · rfl
      · rename_i hallow
        rw [ih, hallow, show PolicyDecision.allow = ⊥ from rfl, bot_sup_eq]

theorem judges_evaluateFrom :
    Judges context warnings policies (evaluateFrom context warnings policies) := by
  induction policies generalizing warnings with
  | nil =>
      rw [evaluateFrom]
      split
      · rename_i hnil
        exact .allowed (fun _ h ↦ absurd h List.not_mem_nil) hnil rfl
      · rename_i hsome
        have hwarnings : warnings ++ warningsOf [] context = warnings := List.append_nil warnings
        refine .warned (fun _ h ↦ absurd h List.not_mem_nil) ?_ ?_
        · rw [hwarnings]
          exact hsome
        · rw [hwarnings]
  | cons policy policies ih =>
      rw [evaluateFrom]
      split
      · rename_i hdeny
        exact .denied (List.nil_append _).symm (fun _ h ↦ absurd h List.not_mem_nil) hdeny rfl
      · rename_i hwarn
        have hne : (policy.evaluate context).decision ≠ .deny := by
          rw [hwarn]
          decide
        have hwarnings : warnings ++ warningsOf (policy :: policies) context
            = warnings ++ [warning policy (policy.evaluate context)] ++
              warningsOf policies context := by
          rw [warningsOf, List.filter_cons, if_pos (decide_eq_true hwarn), List.map_cons,
            List.append_assoc]
          rfl
        cases @ih (warnings ++ [warning policy (policy.evaluate context)]) with
        | denied hsplit hbefore hdeny hresult =>
            rw [hsplit]
            exact .denied (List.cons_append ..).symm
              (List.forall_mem_cons.mpr ⟨hne, hbefore⟩) hdeny (hsplit ▸ hresult)
        | warned hnone hsome hresult =>
            exact .warned (List.forall_mem_cons.mpr ⟨hne, hnone⟩) (hwarnings ▸ hsome)
              (hwarnings ▸ hresult)
        | allowed _ hnil _ => simp at hnil
      · rename_i hallow
        have hne : (policy.evaluate context).decision ≠ .deny := by
          rw [hallow]
          decide
        have hwarnings : warningsOf (policy :: policies) context = warningsOf policies context := by
          rw [warningsOf, List.filter_cons, if_neg]
          · rfl
          · rw [hallow]
            decide
        cases @ih warnings with
        | denied hsplit hbefore hdeny hresult =>
            rw [hsplit]
            exact .denied (List.cons_append ..).symm
              (List.forall_mem_cons.mpr ⟨hne, hbefore⟩) hdeny (hsplit ▸ hresult)
        | warned hnone hsome hresult =>
            exact .warned (List.forall_mem_cons.mpr ⟨hne, hnone⟩) (hwarnings ▸ hsome)
              (hwarnings ▸ hresult)
        | allowed hall hnil hresult =>
            exact .allowed (List.forall_mem_cons.mpr ⟨hallow, hall⟩) hnil hresult

/-- The decision is the strictest of the policies' decisions, and the result is that of the first
policy that denies or has all the warnings. -/
theorem decision_evaluate (engine : PolicyEngine) (context : PolicyContext) :
    (engine.evaluate context).decision = (decisions engine.policies context).sup ∧
      Judges context [] engine.policies (engine.evaluate context) :=
  ⟨decision_evaluateFrom.trans (bot_sup_eq _), judges_evaluateFrom⟩

theorem sup_decisions_eq_deny_iff : (decisions policies context).sup = .deny ↔
    ∃ p ∈ policies, (p.evaluate context).decision = .deny := by
  induction policies with
  | nil =>
      constructor
      · intro h
        cases h
      · rintro ⟨p, hp, -⟩
        exact absurd hp List.not_mem_nil
  | cons policy policies ih =>
      rw [decisions_cons, Multiset.sup_cons, List.exists_mem_cons_iff, ← ih]
      exact max_eq_top

theorem sup_decisions_eq_allow_iff : (decisions policies context).sup = .allow ↔
    ∀ p ∈ policies, (p.evaluate context).decision = .allow := by
  induction policies with
  | nil => exact iff_of_true rfl fun p hp ↦ absurd hp List.not_mem_nil
  | cons policy policies ih =>
      rw [decisions_cons, Multiset.sup_cons, List.forall_mem_cons, ← ih]
      exact sup_eq_bot_iff

end Decision

/-! ## The default policies -/

section Defaults

variable {showSet : List String → String} {context : PolicyContext}

theorem policies_foldl_addPolicy (engine : PolicyEngine) (added : List Policy) :
    (added.foldl addPolicy engine).policies = engine.policies ++ added := by
  induction added generalizing engine with
  | nil => exact (List.append_nil _).symm
  | cons policy added ih =>
      rw [List.foldl_cons, ih, addPolicy, List.append_assoc, List.singleton_append]

theorem given_eq_some_iff {text : Option String} {t : String} :
    given text = some t ↔ text = some t ∧ t ≠ "" := by
  rw [given, Option.filter_eq_some_iff, decide_eq_true_iff]

/-- A level that is declared is denied above the maximum and allowed else. -/
theorem decision_declared {level : RiskLevel} (maxRisk : RiskLevel)
    (h : context.riskLevel = some level.value) :
    ((riskLevelPolicy maxRisk).evaluate context).decision =
      if maxRisk.riskOrder < level.riskOrder then .deny else .allow := by
  have hgiven : given context.riskLevel = some level.value :=
    given_eq_some_iff.mpr ⟨h, by cases level <;> decide⟩
  rw [riskLevelPolicy]
  dsimp only
  rw [hgiven]
  dsimp only
  rw [RiskLevel.ofValue_eq_some_iff.mpr rfl]
  dsimp only
  split
  · rfl
  · rfl

/-- A level that is missing or unknown is warned of. -/
theorem decision_undeclared (maxRisk : RiskLevel)
    (h : ∀ level : RiskLevel, context.riskLevel ≠ some level.value) :
    ((riskLevelPolicy maxRisk).evaluate context).decision = .warn := by
  rw [riskLevelPolicy]
  dsimp only
  split
  · rfl
  · rename_i text hsome
    obtain ⟨htext, -⟩ := given_eq_some_iff.mp hsome
    split
    · rfl
    · rename_i level hlevel
      exact absurd (htext.trans (congrArg some (RiskLevel.ofValue_eq_some_iff.mp hlevel))) (h level)

theorem decision_risk_eq_deny_iff : ((riskLevelPolicy .high).evaluate context).decision = .deny ↔
    context.riskLevel = some RiskLevel.critical.value := by
  by_cases h : ∃ level, context.riskLevel = some (RiskLevel.value level)
  · obtain ⟨level, hlevel⟩ := h
    rw [decision_declared .high hlevel, hlevel]
    cases level with
    | low | medium | high | critical => decide
  · rw [decision_undeclared .high (fun level hlevel ↦ h ⟨level, hlevel⟩)]
    exact iff_of_false nofun fun hcritical ↦ h ⟨.critical, hcritical⟩

theorem decision_risk_eq_allow_iff : ((riskLevelPolicy .high).evaluate context).decision = .allow ↔
    ∃ level, context.riskLevel = some (RiskLevel.value level) ∧ level ≠ .critical := by
  by_cases h : ∃ level, context.riskLevel = some (RiskLevel.value level)
  · obtain ⟨level, hlevel⟩ := h
    rw [decision_declared .high hlevel]
    constructor
    · intro hallow
      refine ⟨level, hlevel, ?_⟩
      rintro rfl
      cases hallow
    · rintro ⟨level', hlevel', hne⟩
      cases RiskLevel.value_injective (Option.some.inj (hlevel.symm.trans hlevel'))
      cases level with
      | low | medium | high => rfl
      | critical => exact absurd rfl hne
  · rw [decision_undeclared .high (fun level hlevel ↦ h ⟨level, hlevel⟩)]
    exact iff_of_false nofun fun ⟨level, hlevel, _⟩ ↦ h ⟨level, hlevel⟩

/-- The policy for purposes of the default stack allows every purpose. -/
theorem decision_purpose :
    ((purposePolicy false []).evaluate context).decision = .allow := by
  rw [purposePolicy]
  dsimp only
  split
  · rfl
  · rw [if_neg List.not_mem_nil]

/-- The policy for scopes of the default stack warns of the sensitive ones. -/
theorem decision_dataScope :
    ((dataScopePolicy showSet false [] []).evaluate context).decision =
      if ∃ scope ∈ context.dataScope, scope ∈ defaultSensitiveScopes then .warn else .allow := by
  have hdenied : context.dataScope.dedup.filter (fun scope ↦ decide (scope ∈ ([] : List String)))
      = [] := List.filter_eq_nil_iff.mpr (by simp)
  have hsensitive : context.dataScope.dedup.filter (fun scope ↦
      decide (scope ∈ defaultSensitiveScopes)) ≠ [] ↔
      ∃ scope ∈ context.dataScope, scope ∈ defaultSensitiveScopes := by
    rw [Ne, List.filter_eq_nil_iff]
    simp
  rw [dataScopePolicy]
  dsimp only
  rw [Bool.false_and, if_neg Bool.false_ne_true, hdenied, if_neg (fun h ↦ h rfl), if_pos rfl]
  by_cases h : ∃ scope ∈ context.dataScope, scope ∈ defaultSensitiveScopes
  · rw [if_pos (hsensitive.mpr h), if_pos h]
  · rw [if_neg (fun hne ↦ h (hsensitive.mp hne)), if_neg h]

/-- With the default policies and others that were added, a request is denied exactly if it is
critical or a policy that was added denies it, and allowed without a warning exactly if its risk
is declared and not critical, it accesses no sensitive scope and the policies added allow it. -/
theorem evaluate_defaults_iff (showSet : List String → String) (added : List Policy)
    (context : PolicyContext) :
    let result := (added.foldl addPolicy (defaults showSet)).evaluate context
    (result.decision = .deny ↔ context.riskLevel = some RiskLevel.critical.value ∨
        ∃ p ∈ added, (p.evaluate context).decision = .deny) ∧
      (result.decision = .allow ↔
        (∃ level, context.riskLevel = some (RiskLevel.value level) ∧ level ≠ .critical) ∧
          (∀ scope ∈ context.dataScope, scope ∉ defaultSensitiveScopes) ∧
          ∀ p ∈ added, (p.evaluate context).decision = .allow) := by
  intro result
  have hdecision : result.decision = (decisions (tenantIsolationPolicy :: riskLevelPolicy .high ::
      purposePolicy false [] :: dataScopePolicy showSet false [] [] :: added) context).sup := by
    rw [(decision_evaluate _ context).1, policies_foldl_addPolicy]
    rfl
  have htenant : (tenantIsolationPolicy.evaluate context).decision = .allow := rfl
  rw [hdecision, sup_decisions_eq_deny_iff, sup_decisions_eq_allow_iff]
  simp only [List.exists_mem_cons_iff, List.forall_mem_cons, htenant, decision_purpose,
    decision_risk_eq_deny_iff, decision_risk_eq_allow_iff, decision_dataScope]
  by_cases hscope : ∃ scope ∈ context.dataScope, scope ∈ defaultSensitiveScopes
  · simp [hscope]
  · have hnone : ∀ scope ∈ context.dataScope, scope ∉ defaultSensitiveScopes :=
      fun scope hmem hsensitive ↦ hscope ⟨scope, hmem, hsensitive⟩
    simpa [hscope] using fun _ _ _ _ ↦ hnone

end Defaults

end PolicyEngine

end SemanticBus
