/-
  Triage/Dispatch.lean --- when a collection is sent without a human.

  Each refusal of `evaluate` is characterised by what it lets through, and a call
  whose decision is not `skip` by the entry that decided it (`Passes`).  Together
  they give the calls that are dispatched automatically, exactly
  (`evaluate_autoDispatch_iff`): every check is needed and no other one is made.
-/
import ResponseEngine.Triage

set_option autoImplicit false

namespace ResponseEngine.Triage

open ResponseEngine.Foundation ResponseEngine.Python ResponseEngine.Python.Pydantic
open ResponseEngine.Contract

/-! ## The policy's entry -/

/-- The first entry for an action and an asset class: no entry before it is for both. -/
def AutoTriagePolicy.First (policy : AutoTriagePolicy) (action : CollectAction)
    (assetClass : AssetClass) (entry : ActionPolicy) : Prop :=
  entry.action = action ∧ entry.assetClass = assetClass ∧
    ∃ before after, policy.entries = before ++ entry :: after ∧
      ∀ e ∈ before, e.action = action → e.assetClass ≠ assetClass

theorem covers_iff {e : ActionPolicy} {action : CollectAction} {assetClass : AssetClass} :
    e.covers action assetClass = true ↔ e.action = action ∧ e.assetClass = assetClass := by
  simp [ActionPolicy.covers]

theorem find?_covers_eq_some {policy : AutoTriagePolicy} {action : CollectAction}
    {assetClass : AssetClass} {entry : ActionPolicy} :
    policy.entries.find? (fun e => e.covers action assetClass) = some entry ↔
      policy.First action assetClass entry := by
  rw [List.find?_eq_some_iff_append, covers_iff, AutoTriagePolicy.First, and_assoc]
  have hbefore : ∀ e : ActionPolicy, (!e.covers action assetClass) = true ↔
      (e.action = action → e.assetClass ≠ assetClass) := by
    intro e
    rw [Bool.not_eq_true', Bool.eq_false_iff, ne_eq, covers_iff, not_and]
  simp only [hbefore]

/-! ## The endpoint -/

/-- An endpoint that can carry out a collection and may be asked to. -/
structure Capable (action : CollectAction) (endpoint : EndpointCapability) : Prop where
  recent : endpoint.recent = true
  implemented : action.toAction ∈ endpoint.implementedActions
  allowed : action.toAction ∈ endpoint.allowedActions
  enforcing : endpoint.mode = .enforce
  channel : endpoint.authenticatedCommandChannel = true
  gate : endpoint.collectionAcceptanceGate = true
  delivery : endpoint.artifactProtocol = some .signedJsonV2ResumeV1

theorem capabilityRefusal_eq_none {action : CollectAction} {endpoint : EndpointCapability} :
    capabilityRefusal action endpoint = none ↔ Capable action endpoint := by
  constructor
  · intro h
    unfold capabilityRefusal at h
    split_ifs at h with hrecent himplemented hallowed hmode hchannel hgate hprotocol
    exact ⟨by simpa using hrecent, himplemented, hallowed, not_not.mp hmode,
      by simpa using hchannel, by simpa using hgate, not_not.mp hprotocol⟩
  · intro h
    simp [capabilityRefusal, h.recent, h.implemented, h.allowed, h.enforcing, h.channel, h.gate,
      h.delivery]

/-! ## The target -/

/-- A path that is exact on the platform, and in the entry's allowlist for it. -/
def Allowlisted (entry : ActionPolicy) (platform : Platform) (filePath : PyVal) : Prop :=
  ∃ path, filePath = .str path ∧ ApprovedFile.Accepted { platform, path } ∧
    { platform, path } ∈ entry.filePaths

/-- A value that passes is a nonempty text, hence true. -/
theorem truthy_of_accepted {platform : Platform} {path : Text}
    (h : ApprovedFile.Accepted { platform, path }) : (PyVal.str path).truthy = true := by
  have hbounded := h.bounded
  cases path with
  | nil => simp [boundedText] at hbounded
  | cons c rest => rfl

theorem any_filePaths_iff {entry : ActionPolicy} {platform : Platform} {path : Text} :
    (entry.filePaths.any fun p =>
        decide (p.platform = platform) && (PyVal.str path).pyEq (.str p.path)) = true ↔
      { platform, path } ∈ entry.filePaths := by
  rw [List.any_eq_true]
  constructor
  · rintro ⟨⟨platform', path'⟩, hmem, hp⟩
    rw [Bool.and_eq_true, decide_eq_true_eq, PyVal.pyEq_str] at hp
    obtain ⟨rfl, hpath⟩ := hp
    rw [PyVal.str.inj hpath]
    exact hmem
  · intro hmem
    refine ⟨_, hmem, ?_⟩
    rw [Bool.and_eq_true, decide_eq_true_eq, PyVal.pyEq_str]
    exact ⟨rfl, rfl⟩

/-- An entry that dispatches takes exactly the files of its allowlist. -/
theorem fileRefusal_eq_none {entry : ActionPolicy} {platform : Platform} {filePath : PyVal}
    (hauto : entry.decision = .autoDispatch) :
    fileRefusal entry platform filePath = none ↔ Allowlisted entry platform filePath := by
  constructor
  · intro h
    unfold fileRefusal at h
    split at h
    · simp at h
    split at h
    · simp at h
    rename_i file hfile
    obtain ⟨path, rfl, hpath⟩ := ApprovedFile.modelValidate_fields_eq_ok.mp hfile
    split_ifs at h with hlisted
    refine ⟨path, rfl, hpath ▸ file.property, any_filePaths_iff.mp ?_⟩
    by_contra hnot
    exact hlisted ⟨hauto, hnot⟩
  · rintro ⟨path, rfl, haccepted, hmem⟩
    have hfile : ApprovedFile.modelValidate (ApprovedFile.fields platform (.str path)) =
        .ok ⟨_, haccepted⟩ := ApprovedFile.modelValidate_fields_eq_ok.mpr ⟨path, rfl, rfl⟩
    simp only [fileRefusal, truthy_of_accepted haccepted, hfile, any_filePaths_iff.mpr hmem,
      Bool.not_true, Bool.false_eq_true, not_true_eq_false, and_false, if_false]

/-- A target that can be collected without a human. -/
structure Targetable (entry : ActionPolicy) (action : CollectAction) (platform : Platform)
    (processIdentityVerified filePath : PyVal) : Prop where
  process : action = .collectProcessInfo → processIdentityVerified = .bool true
  file : action = .collectFile → Allowlisted entry platform filePath

theorem targetRefusal_eq_none {entry : ActionPolicy} {action : CollectAction} {platform : Platform}
    {processIdentityVerified filePath : PyVal} (hauto : entry.decision = .autoDispatch) :
    targetRefusal entry action platform processIdentityVerified filePath = none ↔
      Targetable entry action platform processIdentityVerified filePath := by
  cases action with
  | collectProcessInfo =>
      constructor
      · intro h
        simp only [targetRefusal] at h
        split at h
        · exact ⟨fun _ => rfl, fun hfile => by cases hfile⟩
        · simp at h
      · intro h
        rw [h.process rfl]
        rfl
  | collectFile =>
      rw [targetRefusal, fileRefusal_eq_none hauto]
      constructor
      · intro h
        exact ⟨fun hprocess => (by cases hprocess), fun _ => h⟩
      · intro h
        exact h.file rfl
  | collectNetworkConnections =>
      constructor
      · intro _
        exact ⟨fun hprocess => (by cases hprocess), fun hfile => (by cases hfile)⟩
      · intro _
        rfl

/-! ## The budget -/

/-- The usage after one more action has been reserved. -/
def BudgetUsage.charge (usage : BudgetUsage) : BudgetUsage where
  actionsForAlert := usage.actionsForAlert + 1
  bytesForAlert := usage.bytesForAlert + artifactReservationBytes
  actionsInEndpointWindow := usage.actionsInEndpointWindow + 1
  bytesInEndpointWindow := usage.bytesInEndpointWindow + artifactReservationBytes
  activeForEndpoint := usage.activeForEndpoint + 1
  activeGlobal := usage.activeGlobal + 1

/-- A usage within every limit of a budget, and within the global one. -/
structure Within (budget : CollectionBudget) (usage : BudgetUsage) : Prop where
  actionsForAlert : usage.actionsForAlert ≤ budget.maxActionsPerAlert
  bytesForAlert : usage.bytesForAlert ≤ budget.maxBytesPerAlert
  actionsInEndpointWindow : usage.actionsInEndpointWindow ≤ budget.maxActionsPerEndpointWindow
  bytesInEndpointWindow : usage.bytesInEndpointWindow ≤ budget.maxBytesPerEndpointWindow
  activeForEndpoint : usage.activeForEndpoint ≤ budget.maxActivePerEndpoint
  activeGlobal : usage.activeGlobal ≤ maxActiveGlobal

/-- No dimension is exhausted exactly when one more reservation stays within them all:
the comparisons with `>=` and those with `+ reservation >` draw the same line. -/
theorem budgetRefusal_eq_none {budget : CollectionBudget} {usage : BudgetUsage} :
    budgetRefusal budget usage = none ↔ Within budget usage.charge := by
  rw [budgetRefusal, Option.map_eq_none_iff, List.find?_eq_none]
  simp only [budgetChecks, List.forall_mem_cons, List.not_mem_nil, false_imp_iff, implies_true,
    and_true, decide_eq_true_eq, ge_iff_le, gt_iff_lt, not_le, not_lt]
  constructor
  · rintro ⟨h₁, h₂, h₃, h₄, h₅, h₆⟩
    exact ⟨h₁, h₂, h₃, h₄, h₅, h₆⟩
  · rintro ⟨h₁, h₂, h₃, h₄, h₅, h₆⟩
    exact ⟨h₁, h₂, h₃, h₄, h₅, h₆⟩

/-! ## The decision -/

section

variable {policy : AutoTriagePolicy} {action : CollectAction} {assetClass : AssetClass}
  {endpoint : EndpointCapability} {usage : BudgetUsage} {processIdentityVerified filePath : PyVal}

/-- A call that no check refuses, and the entry that decides it. -/
structure Passes (policy : AutoTriagePolicy) (action : CollectAction) (assetClass : AssetClass)
    (endpoint : EndpointCapability) (usage : BudgetUsage)
    (processIdentityVerified filePath : PyVal) (entry : ActionPolicy) : Prop where
  enabled : policy.enabled = true
  first : policy.First action assetClass entry
  chosen : entry.decision ≠ .skip
  capable : capabilityRefusal action endpoint = none
  target :
    targetRefusal entry action endpoint.platform processIdentityVerified filePath = none
  budget : budgetRefusal policy.budget usage = none

/-- The outcome of a call that no check refuses. -/
theorem outcome_of_passes {entry : ActionPolicy}
    (h : Passes policy action assetClass endpoint usage processIdentityVerified filePath entry) :
    outcome policy action assetClass endpoint usage processIdentityVerified filePath =
      grantedOutcome entry assetClass := by
  simp only [outcome, h.enabled, find?_covers_eq_some.mpr h.first, h.chosen, h.capable, h.target,
    h.budget, Bool.not_true, Bool.false_eq_true, if_false]

theorem grantedOutcome_eq_autoDispatch {entry : ActionPolicy} :
    (grantedOutcome entry assetClass).1 = .autoDispatch ↔
      assetClass = .standard ∧ entry.decision = .autoDispatch := by
  unfold grantedOutcome
  split_ifs with hstandard happroval
  · simp [hstandard]
  · simp [happroval]
  · simp [not_not.mp hstandard]

/-- Any other call is skipped. -/
theorem exists_passes_of_ne_skip
    (h : (outcome policy action assetClass endpoint usage processIdentityVerified filePath).1 ≠
      .skip) :
    ∃ entry,
      Passes policy action assetClass endpoint usage processIdentityVerified filePath entry := by
  unfold outcome at h
  split at h
  · exact absurd rfl h
  rename_i henabled
  split at h
  · exact absurd rfl h
  rename_i entry hfind
  split at h
  · exact absurd rfl h
  rename_i hskip
  split at h
  · exact absurd rfl h
  · exact absurd rfl h
  · exact absurd rfl h
  rename_i hcapable htarget hbudget
  exact ⟨entry, by simpa using henabled, find?_covers_eq_some.mp hfind, hskip, hcapable, htarget,
    hbudget⟩

/-- The calls that are dispatched automatically. -/
structure Dispatchable (policy : AutoTriagePolicy) (action : CollectAction)
    (assetClass : AssetClass) (endpoint : EndpointCapability) (usage : BudgetUsage)
    (processIdentityVerified filePath : PyVal) : Prop where
  enabled : policy.enabled = true
  standard : assetClass = .standard
  entry : ∃ entry, policy.First action assetClass entry ∧ entry.decision = .autoDispatch ∧
    Targetable entry action endpoint.platform processIdentityVerified filePath
  capable : Capable action endpoint
  room : Within policy.budget usage.charge

theorem outcome_autoDispatch_iff :
    (outcome policy action assetClass endpoint usage processIdentityVerified filePath).1 =
        .autoDispatch ↔
      Dispatchable policy action assetClass endpoint usage processIdentityVerified filePath := by
  constructor
  · intro h
    have hne : (outcome policy action assetClass endpoint usage processIdentityVerified
        filePath).1 ≠ .skip := by
      rw [h]
      decide
    obtain ⟨entry, hpasses⟩ := exists_passes_of_ne_skip hne
    rw [outcome_of_passes hpasses, grantedOutcome_eq_autoDispatch] at h
    obtain ⟨hstandard, hauto⟩ := h
    exact ⟨hpasses.enabled, hstandard,
      ⟨entry, hpasses.first, hauto, (targetRefusal_eq_none hauto).mp hpasses.target⟩,
      capabilityRefusal_eq_none.mp hpasses.capable, budgetRefusal_eq_none.mp hpasses.budget⟩
  · intro h
    obtain ⟨entry, hfirst, hauto, htarget⟩ := h.entry
    have hpasses : Passes policy action assetClass endpoint usage processIdentityVerified filePath
        entry :=
      { enabled := h.enabled
        first := hfirst
        chosen := by
          rw [hauto]
          decide
        capable := capabilityRefusal_eq_none.mpr h.capable
        target := (targetRefusal_eq_none hauto).mpr htarget
        budget := budgetRefusal_eq_none.mpr h.room }
    rw [outcome_of_passes hpasses, grantedOutcome_eq_autoDispatch]
    exact ⟨h.standard, hauto⟩

end

/-- What `evaluate` returns: the outcome, under the policy's name and version. -/
theorem evaluate_eq_ok {policy : AutoTriagePolicy} {action assetClass : Text}
    {endpoint : EndpointCapability} {usage : BudgetUsage}
    {processIdentityVerified filePath : PyVal} {d : TriageDecision} :
    evaluate policy action assetClass endpoint usage processIdentityVerified filePath = .ok d ↔
      action = Text.ofString d.action.value ∧ assetClass = Text.ofString d.assetClass.value ∧
        d.ruleId = policy.ruleId ∧ d.policyVersion = policy.version ∧
        (d.decision, d.reason) = outcome policy d.action d.assetClass endpoint usage
          processIdentityVerified filePath := by
  constructor
  · intro h
    unfold evaluate at h
    split at h
    · simp at h
    rename_i a haction
    split at h
    · simp at h
    rename_i c hclass
    obtain rfl := Except.ok.inj h
    exact ⟨Vocabulary.ofText?_eq_some_iff.mp haction, Vocabulary.ofText?_eq_some_iff.mp hclass,
      rfl, rfl, rfl⟩
  · rintro ⟨rfl, rfl, hrule, hversion, houtcome⟩
    have haction : Vocabulary.ofText? (Text.ofString d.action.value) = some d.action :=
      Vocabulary.ofText?_text d.action
    have hclass : Vocabulary.ofText? (Text.ofString d.assetClass.value) = some d.assetClass :=
      Vocabulary.ofText?_text d.assetClass
    simp only [evaluate, haction, hclass, ← hrule, ← hversion, ← houtcome]

/-- **Automatic dispatch, exactly.**  For every policy, whether or not its validators
across fields ran, `evaluate` returns `auto_dispatch` on the calls that are
`Dispatchable` and on no other. -/
theorem evaluate_autoDispatch_iff (policy : AutoTriagePolicy) (action assetClass : Text)
    (endpoint : EndpointCapability) (usage : BudgetUsage)
    (processIdentityVerified filePath : PyVal) :
    (∃ d, evaluate policy action assetClass endpoint usage processIdentityVerified filePath =
        .ok d ∧ d.decision = .autoDispatch) ↔
      ∃ (a : CollectAction) (c : AssetClass), action = Text.ofString a.value ∧
        assetClass = Text.ofString c.value ∧
        Dispatchable policy a c endpoint usage processIdentityVerified filePath := by
  constructor
  · rintro ⟨d, heval, hauto⟩
    obtain ⟨haction, hclass, _, _, houtcome⟩ := evaluate_eq_ok.mp heval
    refine ⟨d.action, d.assetClass, haction, hclass, outcome_autoDispatch_iff.mp ?_⟩
    rw [← houtcome]
    exact hauto
  · rintro ⟨a, c, haction, hclass, hdispatchable⟩
    let result := outcome policy a c endpoint usage processIdentityVerified filePath
    let d : TriageDecision := ⟨policy.ruleId, policy.version, a, c, result.1, result.2⟩
    have heval : evaluate policy action assetClass endpoint usage processIdentityVerified filePath =
        .ok d := evaluate_eq_ok.mpr ⟨haction, hclass, rfl, rfl, rfl⟩
    exact ⟨d, heval, outcome_autoDispatch_iff.mpr hdispatchable⟩

end ResponseEngine.Triage
