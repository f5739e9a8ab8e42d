/-
  Triage/Restriction.lean --- capability, target and budget only restrict.

  What a call brings besides its policy is a `Situation`, and situations are ordered
  by what they let an endpoint do.  The decision is monotone in that order
  (`monotone_outcome`): a situation that no check refuses is refused in no stronger
  one, since each refusal is antitone by itself, and the outcome past the refusals
  does not look at the situation.
-/
import ResponseEngine.Triage.Dispatch

set_option autoImplicit false

namespace ResponseEngine.Triage

open ResponseEngine.Foundation ResponseEngine.Python ResponseEngine.Python.Pydantic
open ResponseEngine.Contract

/-! ## The order of decisions -/

/-- The place of a decision among the three. -/
def Decision.rank : Decision → ℕ
  | skip => 0
  | requireApproval => 1
  | autoDispatch => 2

theorem Decision.rank_injective : Function.Injective Decision.rank := by
  intro a b h
  cases a <;> cases b <;> first | rfl | exact absurd h (by decide)

/-- `skip < require_approval < auto_dispatch`. -/
instance : PartialOrder Decision := PartialOrder.lift Decision.rank Decision.rank_injective

instance : OrderBot Decision where
  bot := .skip
  bot_le d := Nat.zero_le d.rank

example : Decision.skip < .requireApproval ∧ Decision.requireApproval < .autoDispatch :=
  ⟨Nat.zero_lt_one, Nat.one_lt_two⟩

/-! ## The order of situations -/

/-- The first endpoint can do no more than the second, on one platform. -/
structure EndpointCapability.NoStronger (e₂ e₁ : EndpointCapability) : Prop where
  platform : e₂.platform = e₁.platform
  recent : e₂.recent = true → e₁.recent = true
  /-- of the modes only `enforce` lets anything through -/
  mode : e₂.mode = .enforce → e₁.mode = .enforce
  implementedActions : e₂.implementedActions ⊆ e₁.implementedActions
  allowedActions : e₂.allowedActions ⊆ e₁.allowedActions
  authenticatedCommandChannel :
    e₂.authenticatedCommandChannel = true → e₁.authenticatedCommandChannel = true
  collectionAcceptanceGate :
    e₂.collectionAcceptanceGate = true → e₁.collectionAcceptanceGate = true
  artifactProtocol : ∀ p, e₂.artifactProtocol = some p → e₁.artifactProtocol = some p

/-- The first usage is at most the second in every counter. -/
structure BudgetUsage.AtMost (u₁ u₂ : BudgetUsage) : Prop where
  actionsForAlert : u₁.actionsForAlert ≤ u₂.actionsForAlert
  bytesForAlert : u₁.bytesForAlert ≤ u₂.bytesForAlert
  actionsInEndpointWindow : u₁.actionsInEndpointWindow ≤ u₂.actionsInEndpointWindow
  bytesInEndpointWindow : u₁.bytesInEndpointWindow ≤ u₂.bytesInEndpointWindow
  activeForEndpoint : u₁.activeForEndpoint ≤ u₂.activeForEndpoint
  activeGlobal : u₁.activeGlobal ≤ u₂.activeGlobal

/-- What a call of `evaluate` brings besides the policy, the action and the asset class. -/
structure Situation where
  endpoint : EndpointCapability
  usage : BudgetUsage
  processIdentityVerified : PyVal
  filePath : PyVal

/-- The first situation is no stronger than the second: a weaker endpoint, more usage, a
weaker identity flag, and the same file path or none. -/
structure Situation.NoStronger (s₂ s₁ : Situation) : Prop where
  endpoint : s₂.endpoint.NoStronger s₁.endpoint
  usage : s₁.usage.AtMost s₂.usage
  processIdentityVerified :
    s₂.processIdentityVerified = .bool true → s₁.processIdentityVerified = .bool true
  filePath : s₂.filePath = s₁.filePath ∨ s₂.filePath = .none

theorem EndpointCapability.NoStronger.refl (e : EndpointCapability) : e.NoStronger e :=
  ⟨rfl, id, id, fun _ => id, fun _ => id, id, id, fun _ => id⟩

theorem EndpointCapability.NoStronger.trans {e₃ e₂ e₁ : EndpointCapability}
    (h₃ : e₃.NoStronger e₂) (h₂ : e₂.NoStronger e₁) : e₃.NoStronger e₁ where
  platform := h₃.platform.trans h₂.platform
  recent := h₂.recent ∘ h₃.recent
  mode := h₂.mode ∘ h₃.mode
  implementedActions := List.Subset.trans h₃.implementedActions h₂.implementedActions
  allowedActions := List.Subset.trans h₃.allowedActions h₂.allowedActions
  authenticatedCommandChannel := h₂.authenticatedCommandChannel ∘ h₃.authenticatedCommandChannel
  collectionAcceptanceGate := h₂.collectionAcceptanceGate ∘ h₃.collectionAcceptanceGate
  artifactProtocol p h := h₂.artifactProtocol p (h₃.artifactProtocol p h)

theorem BudgetUsage.AtMost.refl (u : BudgetUsage) : u.AtMost u :=
  ⟨le_rfl, le_rfl, le_rfl, le_rfl, le_rfl, le_rfl⟩

theorem BudgetUsage.AtMost.trans {u₁ u₂ u₃ : BudgetUsage} (h₁ : u₁.AtMost u₂)
    (h₂ : u₂.AtMost u₃) : u₁.AtMost u₃ where
  actionsForAlert := h₁.actionsForAlert.trans h₂.actionsForAlert
  bytesForAlert := h₁.bytesForAlert.trans h₂.bytesForAlert
  actionsInEndpointWindow := h₁.actionsInEndpointWindow.trans h₂.actionsInEndpointWindow
  bytesInEndpointWindow := h₁.bytesInEndpointWindow.trans h₂.bytesInEndpointWindow
  activeForEndpoint := h₁.activeForEndpoint.trans h₂.activeForEndpoint
  activeGlobal := h₁.activeGlobal.trans h₂.activeGlobal

/-- Situations, the stronger above. -/
instance : Preorder Situation where
  le := Situation.NoStronger
  le_refl s := ⟨.refl s.endpoint, .refl s.usage, id, .inl rfl⟩
  le_trans s₃ s₂ s₁ h₃ h₂ := by
    refine ⟨h₃.endpoint.trans h₂.endpoint, h₂.usage.trans h₃.usage,
      h₂.processIdentityVerified ∘ h₃.processIdentityVerified, ?_⟩
    rcases h₃.filePath with hsame | hnone
    · rw [hsame]
      exact h₂.filePath
    · exact .inr hnone

/-! ## Each refusal by itself -/

theorem Capable.mono {action : CollectAction} {e₂ e₁ : EndpointCapability}
    (h : e₂.NoStronger e₁) (hcapable : Capable action e₂) : Capable action e₁ where
  recent := h.recent hcapable.recent
  implemented := h.implementedActions hcapable.implemented
  allowed := h.allowedActions hcapable.allowed
  enforcing := h.mode hcapable.enforcing
  channel := h.authenticatedCommandChannel hcapable.channel
  gate := h.collectionAcceptanceGate hcapable.gate
  delivery := h.artifactProtocol _ hcapable.delivery

/-- A target that is not refused has a file path, where one is needed, and so keeps it. -/
theorem targetRefusal_mono {entry : ActionPolicy} {action : CollectAction} {s₂ s₁ : Situation}
    (h : s₂ ≤ s₁)
    (htarget : targetRefusal entry action s₂.endpoint.platform s₂.processIdentityVerified
      s₂.filePath = none) :
    targetRefusal entry action s₁.endpoint.platform s₁.processIdentityVerified s₁.filePath =
      none := by
  cases action with
  | collectProcessInfo =>
      have hverified : s₂.processIdentityVerified = .bool true := by
        simp only [targetRefusal] at htarget
        split at htarget
        · assumption
        · simp at htarget
      rw [h.processIdentityVerified hverified]
      rfl
  | collectFile =>
      rcases h.filePath with hsame | hnone
      · rw [← h.endpoint.platform]
        simpa only [targetRefusal, hsame] using htarget
      · rw [hnone] at htarget
        exact absurd htarget (by simp [targetRefusal, fileRefusal, PyVal.truthy])
  | collectNetworkConnections => rfl

theorem Within.antitone {budget : CollectionBudget} {u₁ u₂ : BudgetUsage} (h : u₁.AtMost u₂)
    (hwithin : Within budget u₂.charge) : Within budget u₁.charge where
  actionsForAlert := le_trans (Nat.add_le_add_right h.actionsForAlert 1) hwithin.actionsForAlert
  bytesForAlert := le_trans (Nat.add_le_add_right h.bytesForAlert _) hwithin.bytesForAlert
  actionsInEndpointWindow :=
    le_trans (Nat.add_le_add_right h.actionsInEndpointWindow 1) hwithin.actionsInEndpointWindow
  bytesInEndpointWindow :=
    le_trans (Nat.add_le_add_right h.bytesInEndpointWindow _) hwithin.bytesInEndpointWindow
  activeForEndpoint :=
    le_trans (Nat.add_le_add_right h.activeForEndpoint 1) hwithin.activeForEndpoint
  activeGlobal := le_trans (Nat.add_le_add_right h.activeGlobal 1) hwithin.activeGlobal

/-! ## The decision -/

section

variable {policy : AutoTriagePolicy} {action : CollectAction} {assetClass : AssetClass}

/-- The outcome of a call in a situation. -/
def Situation.outcome (s : Situation) (policy : AutoTriagePolicy) (action : CollectAction)
    (assetClass : AssetClass) : Decision × Reason :=
  Triage.outcome policy action assetClass s.endpoint s.usage s.processIdentityVerified s.filePath

/-- `evaluate` in a situation. -/
def Situation.evaluate (s : Situation) (policy : AutoTriagePolicy) (action : CollectAction)
    (assetClass : AssetClass) : Except PyError TriageDecision :=
  Triage.evaluate policy action.value assetClass.value s.endpoint s.usage
    s.processIdentityVerified s.filePath

/-- A call that passes in a situation passes in every stronger one, by the same entry. -/
theorem Passes.mono {entry : ActionPolicy} {s₂ s₁ : Situation} (h : s₂ ≤ s₁)
    (hpasses : Passes policy action assetClass s₂.endpoint s₂.usage s₂.processIdentityVerified
      s₂.filePath entry) :
    Passes policy action assetClass s₁.endpoint s₁.usage s₁.processIdentityVerified s₁.filePath
      entry where
  enabled := hpasses.enabled
  first := hpasses.first
  chosen := hpasses.chosen
  capable :=
    capabilityRefusal_eq_none.mpr ((capabilityRefusal_eq_none.mp hpasses.capable).mono h.endpoint)
  target := targetRefusal_mono h hpasses.target
  budget := budgetRefusal_eq_none.mpr ((budgetRefusal_eq_none.mp hpasses.budget).antitone h.usage)

/-- A stronger situation never gets a lower decision. -/
theorem monotone_outcome (policy : AutoTriagePolicy) (action : CollectAction)
    (assetClass : AssetClass) :
    Monotone fun s : Situation => (s.outcome policy action assetClass).1 := by
  intro s₂ s₁ h
  by_cases hskip : (s₂.outcome policy action assetClass).1 = .skip
  · dsimp only
    rw [hskip]
    exact bot_le
  · -- past the refusals the two outcomes are the same
    obtain ⟨entry, hpasses⟩ := exists_passes_of_ne_skip hskip
    dsimp only [Situation.outcome]
    rw [outcome_of_passes hpasses, outcome_of_passes (hpasses.mono h)]

/-- A validated entry dispatches nothing outside the standard assets. -/
theorem ne_autoDispatch_of_boundary {entry : ActionPolicy}
    (h : entry.enforceAutomationBoundary = .ok ()) (hasset : entry.assetClass ≠ .standard) :
    entry.decision ≠ .autoDispatch := by
  intro hauto
  simp only [ActionPolicy.enforceAutomationBoundary, bind_eq_ok, raiseIf_eq_ok] at h
  obtain ⟨_, hboundary, _⟩ := h
  simp [hasset, hauto] at hboundary

/-- Under a validated policy the asset is checked again for nothing: what is not refused
gets the entry's own decision. -/
theorem grantedOutcome_of_valid {entry : ActionPolicy} (hvalid : policy.Valid)
    (hfirst : policy.First action assetClass entry) (hchosen : entry.decision ≠ .skip) :
    (grantedOutcome entry assetClass).1 = entry.decision := by
  obtain ⟨_, rfl, before, after, hentries, _⟩ := hfirst
  have hmem : entry ∈ policy.entries := by simp [hentries]
  unfold grantedOutcome
  split_ifs with hasset happroval
  · have hauto := ne_autoDispatch_of_boundary (hvalid.boundary entry hmem) hasset
    cases hdecision : entry.decision with
    | skip => exact absurd hdecision hchosen
    | requireApproval => rfl
    | autoDispatch => exact absurd hdecision hauto
  · rfl
  · rfl

theorem outcome_skip_or_own (hvalid : policy.Valid) (s : Situation) :
    (s.outcome policy action assetClass).1 = .skip ∨
      ∃ entry, policy.First action assetClass entry ∧
        (s.outcome policy action assetClass).1 = entry.decision := by
  by_cases hskip : (s.outcome policy action assetClass).1 = .skip
  · exact .inl hskip
  · obtain ⟨entry, hpasses⟩ := exists_passes_of_ne_skip hskip
    refine .inr ⟨entry, hpasses.first, ?_⟩
    rw [Situation.outcome, outcome_of_passes hpasses]
    exact grantedOutcome_of_valid hvalid hpasses.first hpasses.chosen

/-- `evaluate` returns, with the outcome's decision. -/
theorem exists_evaluate (policy : AutoTriagePolicy) (action : CollectAction)
    (assetClass : AssetClass) (s : Situation) :
    ∃ d, s.evaluate policy action assetClass = .ok d ∧
      d.decision = (s.outcome policy action assetClass).1 := by
  let outcome := s.outcome policy action assetClass
  let d : TriageDecision :=
    ⟨policy.ruleId, policy.version, action, assetClass, outcome.1, outcome.2⟩
  exact ⟨d, evaluate_eq_ok.mpr ⟨rfl, rfl, rfl, rfl, rfl⟩, rfl⟩

end

/-- **Capability, target and budget only ever restrict policy.**  Under a validated policy
every call decides, to skip or as the entry that it matched says, and a call in a
situation no stronger never decides higher. -/
theorem evaluate_restricts {policy : AutoTriagePolicy} (hvalid : policy.Valid)
    (action : CollectAction) (assetClass : AssetClass) :
    (∀ s : Situation, ∃ d, s.evaluate policy action assetClass = .ok d ∧
      (d.decision = .skip ∨
        ∃ entry, policy.First action assetClass entry ∧ d.decision = entry.decision)) ∧
    ∀ (s₂ s₁ : Situation) (d₂ d₁ : TriageDecision), s₂ ≤ s₁ →
      s₁.evaluate policy action assetClass = .ok d₁ →
      s₂.evaluate policy action assetClass = .ok d₂ → d₂.decision ≤ d₁.decision := by
  constructor
  · intro s
    obtain ⟨d, heval, hdecision⟩ := exists_evaluate policy action assetClass s
    refine ⟨d, heval, ?_⟩
    rw [hdecision]
    exact outcome_skip_or_own hvalid s
  · intro s₂ s₁ d₂ d₁ h heval₁ heval₂
    obtain ⟨d₁', heval₁', hdecision₁⟩ := exists_evaluate policy action assetClass s₁
    obtain ⟨d₂', heval₂', hdecision₂⟩ := exists_evaluate policy action assetClass s₂
    obtain rfl := Except.ok.inj (heval₁.symm.trans heval₁')
    obtain rfl := Except.ok.inj (heval₂.symm.trans heval₂')
    rw [hdecision₁, hdecision₂]
    exact monotone_outcome policy action assetClass h

/-- The default policy of a rule, enabled. -/
def enabledPolicy : AutoTriagePolicy :=
  { defaultPolicy ⟨"rule", by decide +kernel⟩ ⟨1, by decide⟩ with enabled := true }

theorem enabledPolicy_valid : enabledPolicy.Valid :=
  let h := defaultPolicy_valid ⟨"rule", by decide +kernel⟩ ⟨1, by decide⟩
  ⟨h.entries, h.filePaths, h.boundary, h.unique⟩

/-- An endpoint that carries out everything, with nothing used yet. -/
def capableSituation : Situation where
  endpoint :=
    { platform := .linux
      recent := true
      mode := .enforce
      implementedActions := actions
      allowedActions := actions
      authenticatedCommandChannel := true
      collectionAcceptanceGate := true
      artifactProtocol := some .signedJsonV2ResumeV1 }
  usage := ⟨0, 0, 0, 0, 0, 0⟩
  processIdentityVerified := .bool true
  filePath := .none

/-- The same with one action running and no identity. -/
def usedSituation : Situation :=
  { capableSituation with
    usage := ⟨1, 1048576, 1, 1048576, 1, 1⟩
    processIdentityVerified := .none }

theorem usedSituation_le : usedSituation ≤ capableSituation where
  endpoint := .refl _
  usage := by constructor <;> exact Nat.zero_le _
  processIdentityVerified h := by cases h
  filePath := .inl rfl

/-- A process is collected from the one and, without an identity, not from the other. -/
theorem evaluate_restricts_sample :
    ∃ d₂ d₁, capableSituation.evaluate enabledPolicy .collectProcessInfo .standard = .ok d₁ ∧
      d₁.decision = .autoDispatch ∧
      usedSituation.evaluate enabledPolicy .collectProcessInfo .standard = .ok d₂ ∧
      d₂.decision ≤ d₁.decision := by
  have hrestricts := evaluate_restricts enabledPolicy_valid .collectProcessInfo .standard
  obtain ⟨d₁, heval₁, _⟩ := hrestricts.1 capableSituation
  obtain ⟨d₂, heval₂, _⟩ := hrestricts.1 usedSituation
  have hauto : (capableSituation.evaluate enabledPolicy .collectProcessInfo .standard).map
      (·.decision) = .ok .autoDispatch := by
    decide +kernel
  rw [heval₁] at hauto
  exact ⟨d₂, d₁, heval₁, Except.ok.inj hauto, heval₂,
    hrestricts.2 usedSituation capableSituation d₂ d₁ usedSituation_le heval₁ heval₂⟩

end ResponseEngine.Triage
