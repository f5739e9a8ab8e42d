/-
  Automation/DefaultPolicies.lean --- the policies that ship with the package.

  Every default policy passes its own validation, and no alert is in reach of two of
  them for one action, so their order decides nothing (`defaultPolicies_unordered`).
  Their modes follow the tiers: once the gates pass, the tier alone decides what runs
  and what waits for approval (`defaultPolicies_runs_iff`).
-/
import ResponseEngine.Automation.Exits
import ResponseEngine.Automation.PolicyDefinition
import ResponseEngine.Foundation.Precedence

set_option autoImplicit false

namespace ResponseEngine.Automation

open ResponseEngine.Foundation ResponseEngine.Python ResponseEngine.Python.Pydantic
open ResponseEngine.Contract ResponseEngine.Policy

/-! ## The policies -/

/-- `("rule", "stateful", "correlation")`. -/
def defaultSources : List Text := ["rule", "stateful", "correlation"]

/-- `contain-reverse-shell`. -/
def reverseShellPolicy : ResponsePolicy where
  policyId := "contain-reverse-shell"
  description := ("Linux /dev/tcp reverse shell: terminate the exact process instance after " :
    Text) ++ ("analyst approval." : Text)
  scope := { ruleIds := ["DET-LNX-001"], rulePrefixes := [], mitreTactics := [] }
  action := .killProcess
  mode := .approval
  minLevel := 12
  minConfidence := some (.finite (7656119366529843 / 9007199254740992))
  requiredEvidence := ["process.command_line"]
  detectionSources := defaultSources
  hostAllowlist := []
  cooldownSeconds := 300

/-- `contain-credential-theft`. -/
def credentialTheftPolicy : ResponsePolicy where
  policyId := "contain-credential-theft"
  description := ("Credential-access tooling: terminate the exact process instance after " :
    Text) ++ ("analyst approval." : Text)
  scope := { ruleIds := [], rulePrefixes := ["DET-CRED-"], mitreTactics := [] }
  action := .killProcess
  mode := .approval
  minLevel := 12
  minConfidence := some (.finite (3602879701896397 / 4503599627370496))
  requiredEvidence := []
  detectionSources := defaultSources
  hostAllowlist := []
  cooldownSeconds := 300

/-- The rules that `investigate-process` answers. -/
def investigatedRules : List Text := ["DET-PS-010", "DET-INJ-010", "DET-INJ-011", "DET-CRED-010"]

/-- `investigate-process`. -/
def investigatePolicy : ResponsePolicy where
  policyId := "investigate-process"
  description := "Read-only process inspection runs automatically."
  scope := { ruleIds := investigatedRules, rulePrefixes := [], mitreTactics := [] }
  action := .collectProcessInfo
  mode := .auto
  minLevel := 0
  minConfidence := none
  requiredEvidence := []
  detectionSources := defaultSources
  hostAllowlist := []
  cooldownSeconds := 60

/-- `isolate-exfiltration`. -/
def isolatePolicy : ResponsePolicy where
  policyId := "isolate-exfiltration"
  description := ("Host isolation is disruptive and often ambiguous: preview only, then " :
    Text) ++ ("require approval." : Text)
  scope := { ruleIds := ["DET-EXFIL-001"], rulePrefixes := [], mitreTactics := [] }
  action := .isolateHost
  mode := .approval
  minLevel := 12
  minConfidence := none
  requiredEvidence := []
  detectionSources := defaultSources
  hostAllowlist := []
  cooldownSeconds := 300

/-- `DEFAULT_POLICIES`. -/
def defaultPolicies : List ResponsePolicy :=
  [cradlePolicy, reverseShellPolicy, credentialTheftPolicy, investigatePolicy, isolatePolicy]

/-- Every default policy is one that validation accepts. -/
theorem validate_defaultPolicies : ∀ p ∈ defaultPolicies, p.validate = .ok () := by
  unfold defaultPolicies
  simp only [List.forall_mem_cons, List.not_mem_nil, false_imp_iff, implies_true, and_true]
  decide +kernel

/-- No two of them have the same id. -/
theorem policyIds_nodup : (defaultPolicies.map ResponsePolicy.policyId).Nodup := by
  decide +kernel

/-! ## One policy for an alert and an action -/

/-- A scope without tactics looks at the rule only. -/
theorem PolicyMatch.matches_iff_takesRule {scope : PolicyMatch} (htactics : scope.mitreTactics = [])
    {alert : Dict} : scope.matches alert = true ↔
      ∃ ruleId, Dict.get alert "rule_id" = .str ruleId ∧ scope.TakesRule ruleId := by
  constructor
  · intro h
    simp only [PolicyMatch.matches, htactics, Bool.or_eq_true, List.any_nil] at h
    rcases h with (hid | hprefix) | htactic
    · obtain ⟨t, ht, heq⟩ := List.any_eq_true.mp hid
      exact ⟨t, PyVal.pyEq_str.mp heq, .inl ht⟩
    · split at hprefix
      · rename_i ruleId hrule
        obtain ⟨p, hp, hstarts⟩ := List.any_eq_true.mp hprefix
        exact ⟨ruleId, hrule, .inr ⟨p, hp, List.isPrefixOf_iff_prefix.mp hstarts⟩⟩
      · simp at hprefix
    · split at htactic <;> simp at htactic
  · intro h
    obtain ⟨ruleId, hrule, htakes⟩ := h
    exact PolicyMatch.matches_of_takesRule hrule htakes

/-- Two policies that never answer one alert with one action. -/
def Apart (p q : ResponsePolicy) : Prop :=
  p.action = q.action → ∀ ruleId, p.scope.TakesRule ruleId → ¬ q.scope.TakesRule ruleId

instance : Std.Symm Apart where
  symm _ _ h haction ruleId hq hp := h haction.symm ruleId hp hq

/-- A policy that lists its rules is apart from those that take none of them. -/
theorem apart_of_rules {p : ResponsePolicy} {others : List ResponsePolicy}
    (hprefixes : p.scope.rulePrefixes = [])
    (h : ∀ q ∈ others, p.action = q.action →
      ∀ ruleId ∈ p.scope.ruleIds, ¬ q.scope.TakesRule ruleId) : ∀ q ∈ others, Apart p q := by
  intro q hq haction ruleId hp
  rcases hp with hmem | ⟨t, ht, _⟩
  · exact h q hq haction ruleId hmem
  · rw [hprefixes] at ht
    exact absurd ht List.not_mem_nil

/-- A policy is apart from those that declare other actions. -/
theorem apart_of_actions {p : ResponsePolicy} {others : List ResponsePolicy}
    (h : ∀ q ∈ others, p.action ≠ q.action) : ∀ q ∈ others, Apart p q :=
  fun q hq haction => absurd haction (h q hq)

theorem pairwise_apart : defaultPolicies.Pairwise Apart :=
  .cons (apart_of_rules rfl (by decide +kernel)) <|
    .cons (apart_of_rules rfl (by decide +kernel)) <|
      .cons (apart_of_actions (by decide)) <|
        .cons (apart_of_actions (by decide)) <| .cons (by simp) .nil

theorem mitreTactics_defaultPolicies : ∀ p ∈ defaultPolicies, p.scope.mitreTactics = [] := by
  simp [defaultPolicies, cradlePolicy, reverseShellPolicy, credentialTheftPolicy,
    investigatePolicy, isolatePolicy]

/-- At most one of the default policies answers an alert with an action. -/
theorem applies_unique {alert : PyVal} {action : Action} {p q : ResponsePolicy}
    (hp : p ∈ defaultPolicies) (hq : q ∈ defaultPolicies) (happliesp : Applies p alert action)
    (happliesq : Applies q alert action) : p = q := by
  by_contra hne
  have hapart := pairwise_apart.forall hp hq hne
  obtain ⟨r, hr, hpr⟩ :=
    (PolicyMatch.matches_iff_takesRule (mitreTactics_defaultPolicies p hp)).mp happliesp.1
  obtain ⟨r', hr', hqr⟩ :=
    (PolicyMatch.matches_iff_takesRule (mitreTactics_defaultPolicies q hq)).mp happliesq.1
  obtain rfl := PyVal.str.inj (hr.symm.trans hr')
  exact hapart (happliesp.2.trans happliesq.2.symm) r hpr hqr

/-- The policy that decides is the one that applies. -/
theorem firstPolicy_eq_some_iff {policies : List ResponsePolicy}
    (hsame : ∀ p, p ∈ policies ↔ p ∈ defaultPolicies) {alert : PyVal} {action : Action}
    {p : ResponsePolicy} : firstPolicy policies alert action = some p ↔
      p ∈ defaultPolicies ∧ Applies p alert action := by
  constructor
  · intro hfirst
    exact (applies_of_firstPolicy hfirst).imp_left (hsame p).mp
  · intro h
    obtain ⟨hmem, happlies⟩ := h
    apply find?_eq_some_of_unique _ ((hsame p).mpr hmem) (search_iff.mpr happlies)
    intro a ha b hb hpa hpb
    exact applies_unique ((hsame a).mp ha) ((hsame b).mp hb) (search_iff.mp hpa)
      (search_iff.mp hpb)

/-- **The order of the default policies decides nothing.**  Any list with the same policies, in
any order and with repetitions, decides every alert in the same way. -/
theorem defaultPolicies_unordered {policies : List ResponsePolicy}
    (hsame : ∀ p, p ∈ policies ↔ p ∈ defaultPolicies) (rt : Runtime) (alert : PyVal)
    (commandAction : Option Text) (globalMode : Text) :
    evaluatePolicy rt alert commandAction policies globalMode =
      evaluatePolicy rt alert commandAction defaultPolicies globalMode := by
  apply evaluatePolicy_congr
  intro _ action
  apply Option.ext
  intro p
  rw [firstPolicy_eq_some_iff hsame, firstPolicy_eq_some_iff fun _ => Iff.rfl]

theorem defaultPolicies_unordered_sample :
    evaluatePolicy .sample (cradleAlert (.finite 1)) (some "KILL_PROCESS") defaultPolicies.reverse
        "enforce" =
      evaluatePolicy .sample (cradleAlert (.finite 1)) (some "KILL_PROCESS") defaultPolicies
        "enforce" :=
  defaultPolicies_unordered (fun _ => List.mem_reverse) .sample _ _ _

/-! ## What runs under the default policies -/

/-- Every default policy has the mode that the tier of its action calls for. -/
theorem mode_defaultPolicies : ∀ p ∈ defaultPolicies,
    p.mode = if classifyTier p.action.value = .autoSafe then .auto else .approval := by
  decide +kernel

/-- The gates of the default policy that answers the alert, if there is one, let it
through. -/
def PassesDefaults (rt : Runtime) (alert : PyVal) (action : Action) : Prop :=
  ∀ p ∈ defaultPolicies, Applies p alert action → PassesGates rt p alert

theorem firstPolicy_defaultPolicies {alert : PyVal} {action : Action} {p : ResponsePolicy} :
    firstPolicy defaultPolicies alert action = some p ↔
      p ∈ defaultPolicies ∧ Applies p alert action :=
  firstPolicy_eq_some_iff fun _ => Iff.rfl

theorem runsUnattended_defaultPolicies {rt : Runtime} {alert : PyVal}
    {commandAction : Option Text} : RunsUnattended rt alert commandAction defaultPolicies ↔
      ∃ action, Answerable alert commandAction action ∧ classifyTier action.value = .autoSafe ∧
        PassesDefaults rt alert action := by
  refine exists_congr fun action => and_congr_right fun _ => and_congr_right fun htier => ?_
  constructor
  · intro h p hp happlies
    exact (h p (firstPolicy_defaultPolicies.mpr ⟨hp, happlies⟩)).1
  · intro h p hfirst
    obtain ⟨hp, happlies⟩ := firstPolicy_defaultPolicies.mp hfirst
    refine ⟨h p hp happlies, ?_⟩
    rw [mode_defaultPolicies p hp, happlies.2, if_pos htier]

theorem asksApproval_defaultPolicies {rt : Runtime} {alert : PyVal}
    {commandAction : Option Text} : AsksApproval rt alert commandAction defaultPolicies ↔
      ∃ action, Answerable alert commandAction action ∧ classifyTier action.value ≠ .autoSafe ∧
        PassesDefaults rt alert action := by
  refine exists_congr fun action => and_congr_right fun _ => ?_
  constructor
  · intro h
    obtain ⟨hdefault, hpolicy⟩ := h
    have htier : classifyTier action.value ≠ .autoSafe := by
      cases hfirst : firstPolicy defaultPolicies alert action with
      | none => exact hdefault hfirst
      | some p =>
          obtain ⟨hp, happlies⟩ := firstPolicy_defaultPolicies.mp hfirst
          rcases (hpolicy p hfirst).2 with hmode | ⟨_, htier⟩
          · intro hsafe
            rw [mode_defaultPolicies p hp, happlies.2, if_pos hsafe] at hmode
            exact absurd hmode (by decide)
          · exact htier
    refine ⟨htier, fun p hp happlies => ?_⟩
    exact (hpolicy p (firstPolicy_defaultPolicies.mpr ⟨hp, happlies⟩)).1
  · intro h
    obtain ⟨htier, hgates⟩ := h
    refine ⟨fun _ => htier, fun p hfirst => ?_⟩
    obtain ⟨hp, happlies⟩ := firstPolicy_defaultPolicies.mp hfirst
    refine ⟨hgates p hp happlies, .inl ?_⟩
    rw [mode_defaultPolicies p hp, happlies.2, if_neg htier]

/-- **What the shipped policies run.**  An answerable alert whose gates pass is answered by its
tier: a safe action runs by itself in any global mode, any other waits for approval under
`enforce`; and nothing else runs or waits. -/
theorem defaultPolicies_runs_iff (rt : Runtime) (alert : PyVal) (commandAction : Option Text)
    (globalMode : Text) :
    ((evaluatePolicy rt alert commandAction defaultPolicies globalMode).autoExecute = true ↔
      ∃ action, Answerable alert commandAction action ∧ classifyTier action.value = .autoSafe ∧
        PassesDefaults rt alert action) ∧
    ((evaluatePolicy rt alert commandAction defaultPolicies globalMode).mode = .approval ↔
      globalMode = "enforce" ∧ ∃ action, Answerable alert commandAction action ∧
        classifyTier action.value ≠ .autoSafe ∧ PassesDefaults rt alert action) := by
  rw [← runsUnattended_defaultPolicies, ← asksApproval_defaultPolicies, ← mode_eq_approval_iff]
  exact ⟨(evaluatePolicy_exit _ _ _ _ _).autoExecute_iff.trans mode_eq_auto_iff, Iff.rfl⟩

end ResponseEngine.Automation
