/-
  Triage/Default.lean --- the default policy, once it is enabled.

  The default policy is a matrix of nine entries without a file.  Enabled, it decides
  every call by three questions: whether the endpoint, the target and the budget leave
  the collection open (`Situation.Open`), whether the asset is a standard one, and what
  tier the action has.  The matrix is thereby the tier table on the standard assets
  (`evaluate_enabledDefault`): a change of one that is not made in the other breaks it.
-/
import ResponseEngine.Policy
import ResponseEngine.Triage.Restriction

set_option autoImplicit false

namespace ResponseEngine.Triage

open ResponseEngine.Foundation ResponseEngine.Python ResponseEngine.Python.Pydantic
open ResponseEngine.Policy

/-! ## The matrix -/

/-- The default policy of a rule, after an operator enabled it. -/
def enabledDefault (ruleId : RuleId) (version : Bounded 1 2147483647) : AutoTriagePolicy :=
  { defaultPolicy ruleId version with enabled := true }

/-- The entry that the default policy has for an action and an asset class. -/
def defaultEntry (action : CollectAction) (assetClass : AssetClass) : ActionPolicy where
  action
  assetClass
  decision :=
    if assetClass = .standard ∧ action ≠ .collectFile then .autoDispatch else .requireApproval
  filePaths := []

variable {ruleId : RuleId} {version : Bounded 1 2147483647} {action : CollectAction}
  {assetClass : AssetClass}

/-- Every action has its entry for every asset class. -/
theorem first_enabledDefault {entry : ActionPolicy} :
    (enabledDefault ruleId version).First action assetClass entry ↔
      entry = defaultEntry action assetClass := by
  have hfind : (enabledDefault ruleId version).entries.find?
      (fun e => e.covers action assetClass) = some (defaultEntry action assetClass) := by
    cases action <;> cases assetClass <;> rfl
  rw [← find?_covers_eq_some, hfind, Option.some.injEq]
  exact eq_comm

theorem enabledDefault_valid (ruleId : RuleId) (version : Bounded 1 2147483647) :
    (enabledDefault ruleId version).Valid :=
  let h := defaultPolicy_valid ruleId version
  ⟨h.entries, h.filePaths, h.boundary, h.unique⟩

/-- The collections that are safe to run by themselves are all but that of a file. -/
theorem classifyTier_collect : classifyTier action.value = .autoSafe ↔ action ≠ .collectFile := by
  cases action <;> decide

theorem defaultEntry_eq_autoDispatch :
    (defaultEntry action assetClass).decision = .autoDispatch ↔
      assetClass = .standard ∧ classifyTier action.value = .autoSafe := by
  rw [classifyTier_collect, defaultEntry]
  split_ifs with h
  · exact iff_of_true rfl h
  · exact iff_of_false (by decide) h

theorem defaultEntry_eq_requireApproval :
    (defaultEntry action assetClass).decision = .requireApproval ↔
      assetClass ≠ .standard ∨ classifyTier action.value = .analystApproval := by
  have htier : classifyTier action.value = .analystApproval ↔
      ¬ classifyTier action.value = .autoSafe := by
    cases classifyTier action.value <;> simp
  rw [htier, ← not_and_or, ← defaultEntry_eq_autoDispatch, defaultEntry]
  split_ifs <;> simp

theorem defaultEntry_ne_skip (action : CollectAction) (assetClass : AssetClass) :
    (defaultEntry action assetClass).decision ≠ .skip := by
  unfold defaultEntry
  split_ifs <;> simp

/-! ## An open collection -/

/-- A file that is exact on the platform, whether or not a policy lists it. -/
def ExactFile (platform : Platform) (filePath : PyVal) : Prop :=
  ∃ path, filePath = .str path ∧ ApprovedFile.Accepted { platform, path }

/-- Every entry asks for an exact file. -/
theorem exactFile_of_fileRefusal {entry : ActionPolicy} {platform : Platform} {filePath : PyVal}
    (h : fileRefusal entry platform filePath = none) : ExactFile platform filePath := by
  unfold fileRefusal at h
  split at h
  · simp at h
  split at h
  · simp at h
  rename_i file hfile
  obtain ⟨path, rfl, hpath⟩ := ApprovedFile.modelValidate_fields_eq_ok.mp hfile
  exact ⟨path, rfl, hpath ▸ file.property⟩

/-- One that leaves the decision to a human asks for nothing more. -/
theorem fileRefusal_eq_none_of_ne {entry : ActionPolicy} {platform : Platform} {filePath : PyVal}
    (hauto : entry.decision ≠ .autoDispatch) :
    fileRefusal entry platform filePath = none ↔ ExactFile platform filePath := by
  refine ⟨exactFile_of_fileRefusal, fun h => ?_⟩
  obtain ⟨path, rfl, haccepted⟩ := h
  have hfile : ApprovedFile.modelValidate (ApprovedFile.fields platform (.str path)) =
      .ok ⟨_, haccepted⟩ := ApprovedFile.modelValidate_fields_eq_ok.mpr ⟨path, rfl, rfl⟩
  simp only [fileRefusal, truthy_of_accepted haccepted, hfile, hauto, Bool.not_true,
    Bool.false_eq_true, false_and, if_false]

/-- Neither the endpoint, nor the target, nor the default budget stands in the way. -/
structure Situation.Open (s : Situation) (action : CollectAction) : Prop where
  capable : Capable action s.endpoint
  process : action = .collectProcessInfo → s.processIdentityVerified = .bool true
  file : action = .collectFile → ExactFile s.endpoint.platform s.filePath
  room : Within .default s.usage.charge

/-- The target check of the default policy. -/
theorem targetRefusal_defaultEntry {s : Situation} :
    targetRefusal (defaultEntry action assetClass) action s.endpoint.platform
        s.processIdentityVerified s.filePath = none ↔
      (action = .collectProcessInfo → s.processIdentityVerified = .bool true) ∧
        (action = .collectFile → ExactFile s.endpoint.platform s.filePath) := by
  by_cases hfile : action = .collectFile
  · have hauto : (defaultEntry action assetClass).decision ≠ .autoDispatch := by
      rw [ne_eq, defaultEntry_eq_autoDispatch, classifyTier_collect, hfile]
      simp
    subst hfile
    rw [targetRefusal, fileRefusal_eq_none_of_ne hauto]
    simp
  · cases action with
    | collectFile => exact absurd rfl hfile
    | collectNetworkConnections => simp [targetRefusal]
    | collectProcessInfo =>
        simp only [targetRefusal, forall_const, reduceCtorEq, false_imp_iff, and_true]
        split
        · simp [*]
        · rename_i hverified
          exact iff_of_false (by simp) hverified

/-- A call passes under the default policy exactly when the collection is open, and then by its
own entry. -/
theorem passes_enabledDefault {s : Situation} {entry : ActionPolicy} :
    Passes (enabledDefault ruleId version) action assetClass s.endpoint s.usage
        s.processIdentityVerified s.filePath entry ↔
      entry = defaultEntry action assetClass ∧ s.Open action := by
  constructor
  · intro h
    obtain rfl := first_enabledDefault.mp h.first
    obtain ⟨hprocess, hfile⟩ := targetRefusal_defaultEntry.mp h.target
    exact ⟨rfl, capabilityRefusal_eq_none.mp h.capable, hprocess, hfile,
      budgetRefusal_eq_none.mp h.budget⟩
  · intro h
    obtain ⟨rfl, hopen⟩ := h
    exact
      { enabled := rfl
        first := first_enabledDefault.mpr rfl
        chosen := defaultEntry_ne_skip action assetClass
        capable := capabilityRefusal_eq_none.mpr hopen.capable
        target := targetRefusal_defaultEntry.mpr ⟨hopen.process, hopen.file⟩
        budget := budgetRefusal_eq_none.mpr hopen.room }

/-! ## The decision -/

/-- The outcome under the default policy: the entry's where the collection is open. -/
theorem outcome_enabledDefault (ruleId : RuleId) (version : Bounded 1 2147483647) (s : Situation)
    {decision : Decision} (hne : decision ≠ .skip) :
    (s.outcome (enabledDefault ruleId version) action assetClass).1 = decision ↔
      s.Open action ∧ (defaultEntry action assetClass).decision = decision := by
  have hgranted : (grantedOutcome (defaultEntry action assetClass) assetClass).1 =
      (defaultEntry action assetClass).decision :=
    grantedOutcome_of_valid (enabledDefault_valid ruleId version)
      (first_enabledDefault.mpr rfl) (defaultEntry_ne_skip action assetClass)
  constructor
  · intro h
    obtain ⟨entry, hpasses⟩ := exists_passes_of_ne_skip (by
      rw [← Situation.outcome, h]
      exact hne)
    obtain ⟨rfl, hopen⟩ := passes_enabledDefault.mp hpasses
    rw [Situation.outcome, outcome_of_passes hpasses, hgranted] at h
    exact ⟨hopen, h⟩
  · intro h
    rw [Situation.outcome, outcome_of_passes (passes_enabledDefault.mpr ⟨rfl, h.1⟩), hgranted]
    exact h.2

/-- **The default policy follows the tiers.**  Enabled, it sends an open collection by itself
on a standard asset where the tier is safe, hands every other open one to a human, and skips
the rest. -/
theorem evaluate_enabledDefault (ruleId : RuleId) (version : Bounded 1 2147483647)
    (action : CollectAction) (assetClass : AssetClass) (s : Situation) :
    ∃ d, s.evaluate (enabledDefault ruleId version) action assetClass = .ok d ∧
      (d.decision = .autoDispatch ↔
        s.Open action ∧ assetClass = .standard ∧ classifyTier action.value = .autoSafe) ∧
      (d.decision = .requireApproval ↔
        s.Open action ∧
          (assetClass ≠ .standard ∨ classifyTier action.value = .analystApproval)) ∧
      (d.decision = .skip ↔ ¬ s.Open action) := by
  obtain ⟨d, heval, hdecision⟩ :=
    exists_evaluate (enabledDefault ruleId version) action assetClass s
  refine ⟨d, heval, ?_, ?_, ?_⟩
  · rw [hdecision, outcome_enabledDefault ruleId version s (by decide),
      defaultEntry_eq_autoDispatch]
  · rw [hdecision, outcome_enabledDefault ruleId version s (by decide),
      defaultEntry_eq_requireApproval]
  · rw [hdecision, ← not_iff_not, not_not]
    constructor
    · intro hne
      exact ((outcome_enabledDefault ruleId version s hne).mp rfl).1
    · intro hopen hskip
      -- the entry of an open collection decides, and no entry skips
      have hchosen := defaultEntry_ne_skip action assetClass
      have hown := (outcome_enabledDefault ruleId version s hchosen).mpr ⟨hopen, rfl⟩
      exact hchosen (hown.symm.trans hskip)

end ResponseEngine.Triage
