/-
  Triage/Reordering.lean --- the policy as a set of rules.

  `evaluate` takes the first entry for the action and the asset class.  A validated
  policy has no second one (`AutoTriagePolicy.Valid.countP_covers_le_one`), and an
  allowlist and the endpoint's action lists are only searched, so the order of all of
  these lists makes no difference (`evaluate_order_independent`).
-/
import ResponseEngine.Foundation.Precedence
import ResponseEngine.Triage.Restriction

set_option autoImplicit false

namespace ResponseEngine.Triage

open ResponseEngine.Foundation ResponseEngine.Python ResponseEngine.Python.Pydantic
open ResponseEngine.Contract

/-! ## The same rules -/

/-- One rule, however its allowlist is written. -/
structure ActionPolicy.Same (e e' : ActionPolicy) : Prop where
  action : e.action = e'.action
  assetClass : e.assetClass = e'.assetClass
  decision : e.decision = e'.decision
  filePaths : ∀ file, file ∈ e.filePaths ↔ file ∈ e'.filePaths

/-- One rule, with its allowlist in some order. -/
structure ActionPolicy.Reordered (e e' : ActionPolicy) : Prop where
  action : e.action = e'.action
  assetClass : e.assetClass = e'.assetClass
  decision : e.decision = e'.decision
  filePaths : e.filePaths.Perm e'.filePaths

/-- One policy but for its entries. -/
structure AutoTriagePolicy.SameHeader (policy policy' : AutoTriagePolicy) : Prop where
  ruleId : policy.ruleId = policy'.ruleId
  version : policy.version = policy'.version
  enabled : policy.enabled = policy'.enabled
  budget : policy.budget = policy'.budget

/-- One set of rules. -/
structure AutoTriagePolicy.SameRules (policy policy' : AutoTriagePolicy) : Prop where
  header : policy.SameHeader policy'
  left : ∀ e ∈ policy.entries, ∃ e' ∈ policy'.entries, e.Same e'
  right : ∀ e' ∈ policy'.entries, ∃ e ∈ policy.entries, e.Same e'

/-- The same entries in some order, each with its allowlist in some order. -/
structure AutoTriagePolicy.Reordered (policy policy' : AutoTriagePolicy) : Prop where
  header : policy.SameHeader policy'
  entries : ∃ entries, policy.entries.Perm entries ∧
    List.Forall₂ ActionPolicy.Reordered entries policy'.entries

/-- One endpoint, however often and in whatever order it lists its actions. -/
structure EndpointCapability.Same (endpoint endpoint' : EndpointCapability) : Prop where
  platform : endpoint.platform = endpoint'.platform
  recent : endpoint.recent = endpoint'.recent
  mode : endpoint.mode = endpoint'.mode
  implementedActions :
    ∀ a, a ∈ endpoint.implementedActions ↔ a ∈ endpoint'.implementedActions
  allowedActions : ∀ a, a ∈ endpoint.allowedActions ↔ a ∈ endpoint'.allowedActions
  authenticatedCommandChannel :
    endpoint.authenticatedCommandChannel = endpoint'.authenticatedCommandChannel
  collectionAcceptanceGate :
    endpoint.collectionAcceptanceGate = endpoint'.collectionAcceptanceGate
  artifactProtocol : endpoint.artifactProtocol = endpoint'.artifactProtocol

theorem EndpointCapability.Same.refl (endpoint : EndpointCapability) : endpoint.Same endpoint :=
  ⟨rfl, rfl, rfl, fun _ => Iff.rfl, fun _ => Iff.rfl, rfl, rfl, rfl⟩

theorem ActionPolicy.Reordered.same {e e' : ActionPolicy} (h : e.Reordered e') : e.Same e' :=
  ⟨h.action, h.assetClass, h.decision, fun _ => h.filePaths.mem_iff⟩

/-- Writing a policy in another order leaves its set of rules. -/
theorem AutoTriagePolicy.Reordered.sameRules {policy policy' : AutoTriagePolicy}
    (h : policy.Reordered policy') : policy.SameRules policy' := by
  obtain ⟨entries, hperm, hentries⟩ := h.entries
  refine ⟨h.header, ?_, ?_⟩
  · intro e he
    obtain ⟨e', he', hsame⟩ := exists_of_forall₂ hentries e (hperm.mem_iff.mp he)
    exact ⟨e', he', hsame.same⟩
  · intro e' he'
    obtain ⟨e, he, hsame⟩ := exists_of_forall₂ hentries.flip e' he'
    exact ⟨e, hperm.mem_iff.mpr he, hsame.same⟩

/-! ## One entry for each action and asset class -/

/-- A validated policy never has two entries for one action and one asset class. -/
theorem AutoTriagePolicy.Valid.nodup_pairs {policy : AutoTriagePolicy} (h : policy.Valid) :
    (policy.entries.map fun e => (e.action, e.assetClass)).Nodup := by
  have hunique := h.unique
  simp only [oneDecisionPerActionAndAssetClass, raiseIf_eq_ok, decide_eq_false_iff_not,
    not_not] at hunique
  apply List.dedup_eq_self.mp
  exact (List.dedup_sublist _).eq_of_length hunique.symm

theorem AutoTriagePolicy.Valid.countP_covers_le_one {policy : AutoTriagePolicy}
    (h : policy.Valid) (action : CollectAction) (assetClass : AssetClass) :
    policy.entries.countP (·.covers action assetClass) ≤ 1 := by
  have hcount := List.nodup_iff_count_le_one.mp h.nodup_pairs (action, assetClass)
  rw [List.count, List.countP_map] at hcount
  refine le_trans (le_of_eq (List.countP_congr ?_)) hcount
  intro e _
  rw [covers_iff, Function.comp_apply, beq_iff_eq, Prod.mk.injEq]

theorem AutoTriagePolicy.Valid.eq_of_covers {policy : AutoTriagePolicy} (h : policy.Valid)
    {action : CollectAction} {assetClass : AssetClass} :
    ∀ e ∈ policy.entries, ∀ e' ∈ policy.entries, e.covers action assetClass = true →
      e'.covers action assetClass = true → e = e' := by
  intro e he e' he' hcovers hcovers'
  obtain ⟨haction, hasset⟩ := covers_iff.mp hcovers
  obtain ⟨haction', hasset'⟩ := covers_iff.mp hcovers'
  apply List.inj_on_of_nodup_map h.nodup_pairs he he'
  rw [haction, hasset, haction', hasset']

/-! ## What the checks read -/

theorem ActionPolicy.Same.covers_eq {e e' : ActionPolicy} (h : e.Same e')
    (action : CollectAction) (assetClass : AssetClass) :
    e.covers action assetClass = e'.covers action assetClass := by
  rw [ActionPolicy.covers, ActionPolicy.covers, h.action, h.assetClass]

/-- The entries that two policies with the same rules take for a call are the same, or
neither has one. -/
theorem AutoTriagePolicy.SameRules.rel_find? {policy policy' : AutoTriagePolicy}
    (hvalid : policy.Valid) (h : policy.SameRules policy') (action : CollectAction)
    (assetClass : AssetClass) :
    Option.Rel ActionPolicy.Same (policy.entries.find? (·.covers action assetClass))
      (policy'.entries.find? (·.covers action assetClass)) :=
  rel_find?_of_unique hvalid.eq_of_covers (fun _ _ hsame => hsame.covers_eq action assetClass)
    h.left h.right

/-- The allowlist is only searched. -/
theorem fileRefusal_congr {e e' : ActionPolicy} (h : e.Same e') (platform : Platform)
    (filePath : PyVal) : fileRefusal e platform filePath = fileRefusal e' platform filePath := by
  have hany : e.filePaths.any (fun p =>
        decide (p.platform = platform) && filePath.pyEq (.str p.path)) =
      e'.filePaths.any (fun p =>
        decide (p.platform = platform) && filePath.pyEq (.str p.path)) := by
    apply Bool.eq_iff_iff.mpr
    simp only [List.any_eq_true, h.filePaths]
  rw [fileRefusal, fileRefusal, h.decision, hany]

theorem targetRefusal_congr {e e' : ActionPolicy} (h : e.Same e') (action : CollectAction)
    (platform : Platform) (processIdentityVerified filePath : PyVal) :
    targetRefusal e action platform processIdentityVerified filePath =
      targetRefusal e' action platform processIdentityVerified filePath := by
  cases action with
  | collectProcessInfo => rfl
  | collectFile => exact fileRefusal_congr h platform filePath
  | collectNetworkConnections => rfl

/-- The action lists are only searched. -/
theorem capabilityRefusal_congr {endpoint endpoint' : EndpointCapability}
    (h : endpoint.Same endpoint') (action : CollectAction) :
    capabilityRefusal action endpoint = capabilityRefusal action endpoint' := by
  rw [capabilityRefusal, capabilityRefusal, h.recent, h.mode, h.authenticatedCommandChannel,
    h.collectionAcceptanceGate, h.artifactProtocol]
  simp only [h.implementedActions, h.allowedActions]

theorem grantedOutcome_congr {e e' : ActionPolicy} (h : e.Same e') (assetClass : AssetClass) :
    grantedOutcome e assetClass = grantedOutcome e' assetClass := by
  rw [grantedOutcome, grantedOutcome, h.decision]

/-! ## The decision -/

theorem outcome_congr {policy policy' : AutoTriagePolicy} {endpoint endpoint' : EndpointCapability}
    (hvalid : policy.Valid) (hrules : policy.SameRules policy')
    (hendpoint : endpoint.Same endpoint') (action : CollectAction) (assetClass : AssetClass)
    (usage : BudgetUsage) (processIdentityVerified filePath : PyVal) :
    outcome policy action assetClass endpoint usage processIdentityVerified filePath =
      outcome policy' action assetClass endpoint' usage processIdentityVerified filePath := by
  have hfind := hrules.rel_find? hvalid action assetClass
  unfold outcome
  rw [hrules.header.enabled, hrules.header.budget, capabilityRefusal_congr hendpoint,
    hendpoint.platform]
  -- either neither policy has an entry for the call, or both have the same one
  generalize policy.entries.find? (·.covers action assetClass) = found at hfind ⊢
  generalize policy'.entries.find? (·.covers action assetClass) = found' at hfind ⊢
  cases hfind with
  | none => rfl
  | some hsame =>
      dsimp only
      rw [hsame.decision, targetRefusal_congr hsame, grantedOutcome_congr hsame]

theorem evaluate_congr {policy policy' : AutoTriagePolicy}
    {endpoint endpoint' : EndpointCapability} (hvalid : policy.Valid)
    (hrules : policy.SameRules policy') (hendpoint : endpoint.Same endpoint')
    (action assetClass : Text) (usage : BudgetUsage) (processIdentityVerified filePath : PyVal) :
    evaluate policy action assetClass endpoint usage processIdentityVerified filePath =
      evaluate policy' action assetClass endpoint' usage processIdentityVerified filePath := by
  unfold evaluate
  simp only [outcome_congr hvalid hrules hendpoint, hrules.header.ruleId, hrules.header.version]

/-- **The order of a policy makes no difference.**  A validated policy has at most one entry
for an action and an asset class.  Every call on an endpoint that lists its actions in
any way decides the same, for the same reason, when the entries and their allowlists are
put in another order, and under every policy with the same set of rules. -/
theorem evaluate_order_independent {policy : AutoTriagePolicy} (hvalid : policy.Valid) :
    (∀ action assetClass, policy.entries.countP (·.covers action assetClass) ≤ 1) ∧
    (∀ (policy' : AutoTriagePolicy) (endpoint endpoint' : EndpointCapability),
      policy.Reordered policy' → endpoint.Same endpoint' →
      ∀ (action assetClass : Text) (usage : BudgetUsage)
        (processIdentityVerified filePath : PyVal),
      evaluate policy action assetClass endpoint usage processIdentityVerified filePath =
        evaluate policy' action assetClass endpoint' usage processIdentityVerified filePath) ∧
    ∀ (policy' : AutoTriagePolicy) (endpoint endpoint' : EndpointCapability),
      policy.SameRules policy' → endpoint.Same endpoint' →
      ∀ (action assetClass : Text) (usage : BudgetUsage)
        (processIdentityVerified filePath : PyVal),
      evaluate policy action assetClass endpoint usage processIdentityVerified filePath =
        evaluate policy' action assetClass endpoint' usage processIdentityVerified filePath := by
  refine ⟨hvalid.countP_covers_le_one, ?_, ?_⟩
  · intro policy' endpoint endpoint' hreordered hendpoint
    exact evaluate_congr hvalid hreordered.sameRules hendpoint
  · intro policy' endpoint endpoint' hrules hendpoint
    exact evaluate_congr hvalid hrules hendpoint

/-- The enabled policy, read from its end. -/
def reversedPolicy : AutoTriagePolicy :=
  { enabledPolicy with entries := enabledPolicy.entries.reverse }

/-- The capable endpoint, allowed two actions. -/
def narrowEndpoint : EndpointCapability :=
  { capableSituation.endpoint with allowedActions := [.killProcess, .collectProcessInfo] }

/-- The same endpoint, with its actions backwards and one of them twice. -/
def repeatingEndpoint : EndpointCapability :=
  { narrowEndpoint with
    implementedActions := actions.reverse
    allowedActions := [.collectProcessInfo, .killProcess, .collectProcessInfo] }

theorem reversedPolicy_reordered : enabledPolicy.Reordered reversedPolicy where
  header := ⟨rfl, rfl, rfl, rfl⟩
  entries :=
    ⟨reversedPolicy.entries, (List.reverse_perm _).symm,
      List.forall₂_same.mpr fun _ _ => ⟨rfl, rfl, rfl, .refl _⟩⟩

theorem repeatingEndpoint_same : narrowEndpoint.Same repeatingEndpoint :=
  { EndpointCapability.Same.refl narrowEndpoint with
    implementedActions := fun _ => List.mem_reverse.symm
    allowedActions := by
      intro a
      cases a <;> decide }

/-- A process is collected from the endpoint under either order. -/
theorem evaluate_order_independent_sample :
    enabledPolicy.entries.countP (·.covers .collectProcessInfo .standard) ≤ 1 ∧
    evaluate enabledPolicy "COLLECT_PROCESS_INFO" "standard" narrowEndpoint
        capableSituation.usage (.bool true) .none =
      evaluate reversedPolicy "COLLECT_PROCESS_INFO" "standard" repeatingEndpoint
        capableSituation.usage (.bool true) .none ∧
    (evaluate enabledPolicy "COLLECT_PROCESS_INFO" "standard" narrowEndpoint
        capableSituation.usage (.bool true) .none).map (·.decision) = .ok .autoDispatch := by
  obtain ⟨hone, horder, _⟩ := evaluate_order_independent enabledPolicy_valid
  refine ⟨hone _ _, ?_, by decide +kernel⟩
  apply horder reversedPolicy _ repeatingEndpoint reversedPolicy_reordered repeatingEndpoint_same

end ResponseEngine.Triage
