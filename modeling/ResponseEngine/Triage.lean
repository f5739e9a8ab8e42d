/-
  Triage.lean --- the collection-only triage policy.

  `evaluate` decides whether a collection action may be sent without a human.  Its
  checks come in the order of the source: the policy's own entry, the endpoint's
  capabilities, the target, the budget.  A policy is any value whose fields have
  their declared types; the validators across fields (a valid asset and decision,
  an allowlist where one is needed, one entry for each action and asset class) are
  not assumed, and `evaluate` does not rely on them.
-/
import ResponseEngine.Triage.ApprovedFile
import ResponseEngine.Contract.Action

set_option autoImplicit false

namespace ResponseEngine.Triage

open ResponseEngine.Foundation ResponseEngine.Python ResponseEngine.Python.Pydantic
open ResponseEngine.Contract

/-! ## Vocabularies -/

/-- `CollectAction`. -/
inductive CollectAction where
  | collectProcessInfo
  | collectNetworkConnections
  | collectFile
  deriving DecidableEq, Repr

/-- A collection action as one of the seven actions. -/
def CollectAction.toAction : CollectAction → Action
  | collectProcessInfo => .collectProcessInfo
  | collectNetworkConnections => .collectNetworkConnections
  | collectFile => .collectFile

/-- The wire text of a collection action. -/
def CollectAction.value (a : CollectAction) : String := a.toAction.value

instance : Vocabulary CollectAction where
  members := [.collectProcessInfo, .collectNetworkConnections, .collectFile]
  text := CollectAction.value
  mem_members a := by cases a <;> decide
  text_injective := by
    intro a b h
    cases a <;> cases b <;>
      first | rfl | simp [CollectAction.value, CollectAction.toAction, Action.value] at h

/-- `AssetClass`. -/
inductive AssetClass where
  | standard
  | critical
  | unknown
  deriving DecidableEq, Repr

/-- The wire text of an asset class. -/
def AssetClass.value : AssetClass → String
  | standard => "standard"
  | critical => "critical"
  | unknown => "unknown"

instance : Vocabulary AssetClass where
  members := [.standard, .critical, .unknown]
  text := AssetClass.value
  mem_members a := by cases a <;> decide
  text_injective := by
    intro a b h
    cases a <;> cases b <;> first | rfl | simp [AssetClass.value] at h

/-- `Decision`. -/
inductive Decision where
  | autoDispatch
  | skip
  | requireApproval
  deriving DecidableEq, Repr

/-- `mode` of an endpoint. -/
inductive EndpointMode where
  | off
  | dryRun
  | enforce
  deriving DecidableEq, Repr

/-- `ARTIFACT_PROTOCOL`, the one protocol there is. -/
inductive ArtifactProtocol where
  | signedJsonV2ResumeV1
  deriving DecidableEq, Repr

/-- `MAX_ACTIVE_GLOBAL`. -/
def maxActiveGlobal : ℕ := 128

/-- `ARTIFACT_RESERVATION_BYTES`. -/
def artifactReservationBytes : ℕ := 1048576

/-! ## Policies -/

/-- A text that matches `^[A-Za-z0-9._:-]+$`, of at most 128 characters. -/
def isRuleId (t : Text) : Bool :=
  boundedText 1 128 t && t.all fun c => isLetter c || c.isDigit || decide (c ∈ Text.ofString "._:-")

/-- A rule id. -/
abbrev RuleId := {t : Text // isRuleId t = true}

/-- `CollectionBudget`. -/
structure CollectionBudget where
  reservedBytesPerAction : Bounded 1048576 1048576
  maxActionsPerAlert : Bounded 1 3
  maxBytesPerAlert : Bounded 1048576 3145728
  endpointWindowSeconds : Bounded 60 86400
  maxActionsPerEndpointWindow : Bounded 1 64
  maxBytesPerEndpointWindow : Bounded 1048576 67108864
  maxActivePerEndpoint : Bounded 1 8
  workflowTtlSeconds : Bounded 30 900

/-- `CollectionBudget()`: every default is within its own bounds. -/
def CollectionBudget.default : CollectionBudget where
  reservedBytesPerAction := ⟨1048576, by decide⟩
  maxActionsPerAlert := ⟨3, by decide⟩
  maxBytesPerAlert := ⟨3145728, by decide⟩
  endpointWindowSeconds := ⟨900, by decide⟩
  maxActionsPerEndpointWindow := ⟨12, by decide⟩
  maxBytesPerEndpointWindow := ⟨12582912, by decide⟩
  maxActivePerEndpoint := ⟨3, by decide⟩
  workflowTtlSeconds := ⟨300, by decide⟩

/-- `ActionPolicy`. -/
structure ActionPolicy where
  action : CollectAction
  assetClass : AssetClass
  decision : Decision
  filePaths : List ApprovedFile

/-- `AutoTriagePolicy`. -/
structure AutoTriagePolicy where
  ruleId : RuleId
  version : Bounded 1 2147483647
  enabled : Bool
  entries : List ActionPolicy
  budget : CollectionBudget

/-! ## Validators across fields -/

/-- `enforce_automation_boundary`. -/
def ActionPolicy.enforceAutomationBoundary (self : ActionPolicy) : Except PyError Unit := do
  raiseIf (decide (self.assetClass ≠ .standard) && decide (self.decision = .autoDispatch))
    (.valueError "critical and unclassified endpoints cannot auto-dispatch")
  let autoFile := decide (self.action = .collectFile) && decide (self.decision = .autoDispatch)
  raiseIf (autoFile != !self.filePaths.isEmpty)
    (.valueError "only auto COLLECT_FILE requires an explicit exact-path allowlist")
  raiseIf (decide (self.filePaths.length ≠ self.filePaths.dedup.length))
    (.valueError "duplicate exact file allowlist path")

/-- `one_decision_per_action_and_asset_class`. -/
def oneDecisionPerActionAndAssetClass (entries : List ActionPolicy) : Except PyError Unit :=
  let pairs := entries.map fun entry => (entry.action, entry.assetClass)
  raiseIf (decide (pairs.length ≠ pairs.dedup.length))
    (.valueError "duplicate rule action and asset-class policy entry")

/-- The policies that validation accepts. -/
structure AutoTriagePolicy.Valid (policy : AutoTriagePolicy) : Prop where
  entries : 1 ≤ policy.entries.length ∧ policy.entries.length ≤ 9
  filePaths : ∀ e ∈ policy.entries, e.filePaths.length ≤ 16 ∧ ∀ f ∈ e.filePaths, f.Accepted
  boundary : ∀ e ∈ policy.entries, e.enforceAutomationBoundary = .ok ()
  unique : oneDecisionPerActionAndAssetClass policy.entries = .ok ()

/-- `default_policy`. -/
def defaultPolicy (ruleId : RuleId) (version : Bounded 1 2147483647) : AutoTriagePolicy where
  ruleId
  version
  enabled := false
  entries :=
    [AssetClass.standard, .critical, .unknown].flatMap fun asset =>
      [CollectAction.collectProcessInfo, .collectNetworkConnections, .collectFile].map fun action =>
        { action
          assetClass := asset
          decision :=
            if asset = .standard ∧ action ≠ .collectFile then .autoDispatch else .requireApproval
          filePaths := [] }
  budget := .default

/-- The default policy passes every validator. -/
theorem defaultPolicy_valid (ruleId : RuleId) (version : Bounded 1 2147483647) :
    (defaultPolicy ruleId version).Valid where
  entries := by simp [defaultPolicy]
  filePaths := by
    intro e he
    have hnone : e.filePaths = [] := by
      simp only [defaultPolicy, List.mem_flatMap, List.mem_map] at he
      obtain ⟨_, _, _, _, rfl⟩ := he
      rfl
    rw [hnone]
    exact ⟨Nat.zero_le _, fun f hf => by simp at hf⟩
  boundary := by
    intro e he
    simp only [defaultPolicy, List.mem_flatMap, List.mem_map] at he
    obtain ⟨asset, _, action, _, rfl⟩ := he
    cases asset <;> cases action <;> rfl
  unique := rfl

/-! ## The endpoint and its usage -/

/-- `EndpointCapability`. -/
structure EndpointCapability where
  platform : Platform
  recent : Bool
  mode : EndpointMode
  implementedActions : List Action
  allowedActions : List Action
  authenticatedCommandChannel : Bool
  collectionAcceptanceGate : Bool
  artifactProtocol : Option ArtifactProtocol

/-- `BudgetUsage`. -/
@[ext] structure BudgetUsage where
  actionsForAlert : ℕ
  bytesForAlert : ℕ
  actionsInEndpointWindow : ℕ
  bytesInEndpointWindow : ℕ
  activeForEndpoint : ℕ
  activeGlobal : ℕ

/-! ## Decisions -/

/-- The reasons that `evaluate` gives. -/
inductive Reason where
  | ruleDisabled
  | noMatchingPolicyEntry
  | policySkip
  | capabilityReportNotCurrent
  | actionNotSupported
  | endpointPolicyDenied
  | endpointNotEnforcing
  | authenticatedCommandChannelRequired
  | executionPolicyGateRequired
  | signedArtifactDeliveryNotSupported
  | verifiedProcessIdentityRequired
  | alertFileTargetMissing
  | alertFileTargetInvalid
  | alertFileTargetNotAllowlisted
  | alertActionBudget
  | alertByteBudget
  | endpointFrequencyBudget
  | endpointByteBudget
  | endpointConcurrencyBudget
  | globalConcurrencyBudget
  | assetRequiresApproval
  | policyRequiresApproval
  | policyAutoCollection
  deriving DecidableEq, Repr

/-- The wire text of a reason. -/
def Reason.value : Reason → String
  | ruleDisabled => "rule_disabled"
  | noMatchingPolicyEntry => "no_matching_policy_entry"
  | policySkip => "policy_skip"
  | capabilityReportNotCurrent => "capability_report_not_current"
  | actionNotSupported => "action_not_supported"
  | endpointPolicyDenied => "endpoint_policy_denied"
  | endpointNotEnforcing => "endpoint_not_enforcing"
  | authenticatedCommandChannelRequired => "authenticated_command_channel_required"
  | executionPolicyGateRequired => "execution_policy_gate_required"
  | signedArtifactDeliveryNotSupported => "signed_artifact_delivery_not_supported"
  | verifiedProcessIdentityRequired => "verified_process_identity_required"
  | alertFileTargetMissing => "alert_file_target_missing"
  | alertFileTargetInvalid => "alert_file_target_invalid"
  | alertFileTargetNotAllowlisted => "alert_file_target_not_allowlisted"
  | alertActionBudget => "alert_action_budget"
  | alertByteBudget => "alert_byte_budget"
  | endpointFrequencyBudget => "endpoint_frequency_budget"
  | endpointByteBudget => "endpoint_byte_budget"
  | endpointConcurrencyBudget => "endpoint_concurrency_budget"
  | globalConcurrencyBudget => "global_concurrency_budget"
  | assetRequiresApproval => "asset_requires_approval"
  | policyRequiresApproval => "policy_requires_approval"
  | policyAutoCollection => "policy_auto_collection"

/-- A text that matches `^[a-z0-9_]+$`, of at most 128 characters. -/
def isReasonText (t : Text) : Bool :=
  boundedText 1 128 t && t.all fun c =>
    match c with
    | .scalar c => c.isLower || c.isDigit || c == '_'
    | .surrogate _ => false

/-- Every reason passes the check of the field that holds it, so that building a
decision never fails. -/
theorem isReasonText_value (r : Reason) : isReasonText r.value = true := by
  cases r <;> decide +kernel

/-- `TriageDecision`. -/
structure TriageDecision where
  ruleId : RuleId
  policyVersion : Bounded 1 2147483647
  action : CollectAction
  assetClass : AssetClass
  decision : Decision
  reason : Reason

/-! ## Refusals -/

/-- Whether an entry is for an action and an asset class. -/
def ActionPolicy.covers (e : ActionPolicy) (action : CollectAction) (assetClass : AssetClass) :
    Bool :=
  decide (e.action = action) && decide (e.assetClass = assetClass)

/-- What the endpoint cannot do, or does not allow. -/
def capabilityRefusal (action : CollectAction) (endpoint : EndpointCapability) : Option Reason :=
  if !endpoint.recent then some .capabilityReportNotCurrent
  else if action.toAction ∉ endpoint.implementedActions then some .actionNotSupported
  else if action.toAction ∉ endpoint.allowedActions then some .endpointPolicyDenied
  else if endpoint.mode ≠ .enforce then some .endpointNotEnforcing
  else if !endpoint.authenticatedCommandChannel then some .authenticatedCommandChannelRequired
  else if !endpoint.collectionAcceptanceGate then some .executionPolicyGateRequired
  else if endpoint.artifactProtocol ≠ some .signedJsonV2ResumeV1 then
    some .signedArtifactDeliveryNotSupported
  else none

/-- What is wrong with the file to collect.  Each exception of `ApprovedFile` is a
`ValueError`, which the source catches (`isValueError_of_modelValidate`). -/
def fileRefusal (entry : ActionPolicy) (platform : Platform) (filePath : PyVal) : Option Reason :=
  if !filePath.truthy then some .alertFileTargetMissing
  else
    match ApprovedFile.modelValidate (ApprovedFile.fields platform filePath) with
    | .error _ => some .alertFileTargetInvalid
    | .ok _ =>
        if entry.decision = .autoDispatch ∧ ¬ entry.filePaths.any (fun p =>
            decide (p.platform = platform) && filePath.pyEq (.str p.path)) then
          some .alertFileTargetNotAllowlisted
        else none

/-- What is wrong with the target of the action. -/
def targetRefusal (entry : ActionPolicy) (action : CollectAction) (platform : Platform)
    (processIdentityVerified filePath : PyVal) : Option Reason :=
  match action with
  | .collectProcessInfo =>
      match processIdentityVerified with
      | .bool true => none
      | _ => some .verifiedProcessIdentityRequired
  | .collectFile => fileRefusal entry platform filePath
  | .collectNetworkConnections => none

/-- `checks`: whether each dimension of the budget is exhausted. -/
def budgetChecks (budget : CollectionBudget) (usage : BudgetUsage) : List (Bool × Reason) :=
  [(decide (usage.actionsForAlert ≥ budget.maxActionsPerAlert), .alertActionBudget),
    (decide (usage.bytesForAlert + artifactReservationBytes > budget.maxBytesPerAlert),
      .alertByteBudget),
    (decide (usage.actionsInEndpointWindow ≥ budget.maxActionsPerEndpointWindow),
      .endpointFrequencyBudget),
    (decide (usage.bytesInEndpointWindow + artifactReservationBytes >
      budget.maxBytesPerEndpointWindow), .endpointByteBudget),
    (decide (usage.activeForEndpoint ≥ budget.maxActivePerEndpoint), .endpointConcurrencyBudget),
    (decide (usage.activeGlobal ≥ maxActiveGlobal), .globalConcurrencyBudget)]

/-- The first dimension that is exhausted. -/
def budgetRefusal (budget : CollectionBudget) (usage : BudgetUsage) : Option Reason :=
  ((budgetChecks budget usage).find? Prod.fst).map Prod.snd

/-! ## Evaluation -/

/-- The outcome that the entry gives where nothing is refused.  The asset is checked again,
in case an invalid entry was built without validation. -/
def grantedOutcome (entry : ActionPolicy) (assetClass : AssetClass) : Decision × Reason :=
  if assetClass ≠ .standard then (.requireApproval, .assetRequiresApproval)
  else if entry.decision = .requireApproval then (entry.decision, .policyRequiresApproval)
  else (entry.decision, .policyAutoCollection)

/-- The decision and the reason for one call. -/
def outcome (policy : AutoTriagePolicy) (action : CollectAction) (assetClass : AssetClass)
    (endpoint : EndpointCapability) (usage : BudgetUsage)
    (processIdentityVerified filePath : PyVal) : Decision × Reason :=
  if !policy.enabled then (.skip, .ruleDisabled)
  else
    match policy.entries.find? fun e => e.covers action assetClass with
    | none => (.skip, .noMatchingPolicyEntry)
    | some entry =>
        if entry.decision = .skip then (.skip, .policySkip)
        else
          match capabilityRefusal action endpoint,
            targetRefusal entry action endpoint.platform processIdentityVerified filePath,
            budgetRefusal policy.budget usage with
          | some reason, _, _ => (.skip, reason)
          | none, some reason, _ => (.skip, reason)
          | none, none, some reason => (.skip, reason)
          | none, none, none => grantedOutcome entry assetClass

/-- `evaluate`. -/
def evaluate (policy : AutoTriagePolicy) (action assetClass : Text) (endpoint : EndpointCapability)
    (usage : BudgetUsage) (processIdentityVerified filePath : PyVal) :
    Except PyError TriageDecision :=
  match Vocabulary.ofText? (α := CollectAction) action with
  | none =>
      .error (.valueError "automatic triage is restricted to the three collection actions")
  | some action =>
      match Vocabulary.ofText? (α := AssetClass) assetClass with
      | none => .error (.valueError "unrecognized Manager-owned asset classification")
      | some assetClass =>
          let (decision, reason) :=
            outcome policy action assetClass endpoint usage processIdentityVerified filePath
          .ok { ruleId := policy.ruleId
                policyVersion := policy.version
                action, assetClass, decision, reason }

end ResponseEngine.Triage
