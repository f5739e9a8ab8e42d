/-
  Forensics/Decision.lean --- who decides about a collection.

  The request decides what is collected; the policy and the asset class decide only
  whether.  `planForensicCollection_law` says exactly when a collection is recommended,
  put to an analyst or skipped, and `planForensicCollection_monotone` that a stricter
  policy or asset class never lets more through, and changes nothing else.
-/
import ResponseEngine.Forensics.Plan

set_option autoImplicit false

namespace ResponseEngine.Forensics

open ResponseEngine.Foundation ResponseEngine.Python ResponseEngine.Python.Pydantic
open ResponseEngine.Contract ResponseEngine.Policy ResponseEngine.Triage

variable {rt : Runtime} {request policy : PyVal} {assetClass : Text}
  {plan : ForensicCollectionPlan}

/-! ## The parts of a plan -/

/-- A plan decides by a validated policy and a known asset class. -/
structure Decides (plan : ForensicCollectionPlan) (p : ForensicCollectionPolicy)
    (a : AssetClass) : Prop where
  tier : plan.authorizationTier = collectionTier p plan.request.val.action a
  decision : (plan.decision, plan.reason) =
    planDecision p plan.request.val.action a plan.authorizationTier
  kind : plan.evidenceKind = collectionKinds plan.request.val.action

theorem exists_decides (h : planForensicCollection rt request policy assetClass = .ok plan) :
    ∃ (p : CheckedPolicy) (a : AssetClass),
      ForensicCollectionPolicy.codec.parse policy.modelDump = .ok p ∧
      assetClass = (a.value : Text) ∧ Decides plan p.val a := by
  unfold planForensicCollection at h
  rw [bind_eq_ok] at h
  obtain ⟨r, _, h⟩ := h
  rw [bind_eq_ok] at h
  obtain ⟨p, hp, h⟩ := h
  split at h
  · simp at h
  rename_i a ha
  rw [bind_eq_ok] at h
  obtain ⟨_, _, h⟩ := h
  obtain rfl := Except.ok.inj h
  exact ⟨p, a, hp, Vocabulary.ofText?_eq_some_iff.mp ha, rfl, rfl, rfl⟩

/-! ## When a collection is recommended -/

/-- The policy takes part in the decision about an action. -/
def Covers (p : ForensicCollectionPolicy) (action : CollectAction) : Prop :=
  p.enabled = true ∧ action ∈ p.allowedActions.val

/-- Nothing asks for an analyst. -/
def NeedsNoAnalyst (p : ForensicCollectionPolicy) (action : CollectAction) (a : AssetClass) :
    Prop :=
  a = .standard ∧ action ∉ p.requireApproval.val ∧ classifyTier action.value = .autoSafe

theorem collectionTier_eq_autoSafe {p : ForensicCollectionPolicy} {action : CollectAction}
    {a : AssetClass} : collectionTier p action a = .autoSafe ↔ NeedsNoAnalyst p action a := by
  unfold collectionTier NeedsNoAnalyst
  split_ifs with h
  · constructor
    · simp
    · intro hneeds
      obtain ⟨ha, haction, _⟩ := hneeds
      cases h with
      | inl hne => exact absurd ha hne
      | inr hmem => exact absurd hmem haction
  · rw [not_or, not_not] at h
    simp [h]

theorem planDecision_skip {p : ForensicCollectionPolicy} {action : CollectAction} {a : AssetClass}
    {tier : Tier} : (planDecision p action a tier).1 = .skip ↔ ¬ Covers p action := by
  unfold planDecision Covers
  by_cases henabled : p.enabled = true
  · by_cases hallowed : action ∈ p.allowedActions.val
    · by_cases ha : a = .standard <;> cases tier <;> simp [henabled, hallowed, ha]
    · simp [henabled, hallowed]
  · simp [henabled]

theorem planDecision_recommend {p : ForensicCollectionPolicy} {action : CollectAction}
    {a : AssetClass} {tier : Tier} :
    (planDecision p action a tier).1 = .recommend ↔
      Covers p action ∧ a = .standard ∧ tier = .autoSafe := by
  unfold planDecision Covers
  by_cases henabled : p.enabled = true
  · by_cases hallowed : action ∈ p.allowedActions.val
    · by_cases ha : a = .standard <;> cases tier <;> simp [henabled, hallowed, ha]
    · simp [henabled, hallowed]
  · simp [henabled]

theorem Decides.skip_iff {p : ForensicCollectionPolicy} {a : AssetClass} (h : Decides plan p a) :
    plan.decision = .skip ↔ ¬ Covers p plan.request.val.action := by
  have hdecision : plan.decision = _ := congrArg Prod.fst h.decision
  rw [hdecision, planDecision_skip]

theorem Decides.recommend_iff {p : ForensicCollectionPolicy} {a : AssetClass}
    (h : Decides plan p a) : plan.decision = .recommend ↔
      Covers p plan.request.val.action ∧ NeedsNoAnalyst p plan.request.val.action a := by
  have hdecision : plan.decision = _ := congrArg Prod.fst h.decision
  rw [hdecision, planDecision_recommend, h.tier, collectionTier_eq_autoSafe]
  exact and_congr_right fun _ => and_iff_right_of_imp fun hneeds => hneeds.1

theorem Decides.autoSafe_iff {p : ForensicCollectionPolicy} {a : AssetClass}
    (h : Decides plan p a) :
    plan.authorizationTier = .autoSafe ↔ NeedsNoAnalyst p plan.request.val.action a := by
  rw [h.tier, collectionTier_eq_autoSafe]

/-- **When a collection is recommended**, skipped, or left to an analyst. -/
theorem planForensicCollection_law
    (h : planForensicCollection rt request policy assetClass = .ok plan) :
    ∃ (p : CheckedPolicy) (a : AssetClass),
      ForensicCollectionPolicy.codec.parse policy.modelDump = .ok p ∧
      assetClass = (a.value : Text) ∧
      (plan.decision = .skip ↔ ¬ Covers p.val plan.request.val.action) ∧
      (plan.decision = .recommend ↔ Covers p.val plan.request.val.action ∧
        NeedsNoAnalyst p.val plan.request.val.action a) ∧
      (plan.authorizationTier = .autoSafe ↔ NeedsNoAnalyst p.val plan.request.val.action a) := by
  obtain ⟨p, a, hp, ha, hplan⟩ := exists_decides h
  exact ⟨p, a, hp, ha, hplan.skip_iff, hplan.recommend_iff, hplan.autoSafe_iff⟩

/-- On a standard asset the sample request needs no analyst. -/
theorem planForensicCollection_law_sample :
    ∃ plan, planForensicCollection .sample instanceRequest samplePolicy "standard" = .ok plan ∧
      ∃ p : CheckedPolicy, ForensicCollectionPolicy.codec.parse samplePolicy.modelDump = .ok p ∧
        Covers p.val plan.request.val.action ∧
        NeedsNoAnalyst p.val plan.request.val.action .standard := by
  obtain ⟨plan, hplan⟩ := exists_eq_ok
    (x := planForensicCollection .sample instanceRequest samplePolicy "standard")
    (by decide +kernel)
  have hdecision : (planForensicCollection .sample instanceRequest samplePolicy "standard").map
      (fun plan => plan.decision) = .ok .recommend := by
    decide +kernel
  rw [hplan] at hdecision
  obtain ⟨p, a, hp, hasset, _, hrecommend, _⟩ := planForensicCollection_law hplan
  obtain rfl : AssetClass.standard = a :=
    Vocabulary.text_injective (Text.ofString_inj.mp hasset)
  exact ⟨plan, hplan, p, hp, hrecommend.mp (Except.ok.inj hdecision)⟩

/-! ## Stricter policies and assets -/

/-- How little a decision lets through. -/
def PlanDecision.strictness : PlanDecision → ℕ
  | recommend => 0
  | requireApproval => 1
  | skip => 2

/-- How much a tier asks for. -/
def tierStrictness : Tier → ℕ
  | .autoSafe => 0
  | .analystApproval => 1

/-- A policy that is at least as strict: disabled where the other is, with no more allowed
actions, and approval for no fewer. -/
structure Stricter (p q : ForensicCollectionPolicy) : Prop where
  enabled : q.enabled = true → p.enabled = true
  allowed : ∀ action ∈ q.allowedActions.val, action ∈ p.allowedActions.val
  approval : ∀ action ∈ p.requireApproval.val, action ∈ q.requireApproval.val

theorem Stricter.covers {p q : ForensicCollectionPolicy} (h : Stricter p q)
    {action : CollectAction} (hq : Covers q action) : Covers p action :=
  ⟨h.enabled hq.1, h.allowed action hq.2⟩

theorem Stricter.needsNoAnalyst {p q : ForensicCollectionPolicy} (h : Stricter p q)
    {action : CollectAction} {a b : AssetClass} (hasset : b = .standard → a = .standard)
    (hq : NeedsNoAnalyst q action b) : NeedsNoAnalyst p action a :=
  ⟨hasset hq.1, fun hmem => hq.2.1 (h.approval action hmem), hq.2.2⟩

/-- A decision is at most as strict as another that skips where it skips and recommends only
where it recommends. -/
theorem strictness_le {d e : PlanDecision} (hskip : d = .skip → e = .skip)
    (hrecommend : e = .recommend → d = .recommend) : d.strictness ≤ e.strictness := by
  cases d <;> cases e <;> simp_all [PlanDecision.strictness]

theorem tierStrictness_le {t u : Tier} (h : u = .autoSafe → t = .autoSafe) :
    tierStrictness t ≤ tierStrictness u := by
  cases t <;> cases u <;> simp_all [tierStrictness]

/-- **Strictness is monotone, and changes nothing else.**  Under a stricter policy or asset class
the same request gets a decision and a tier that are at least as strict, for the same target, the
same command schema and the same kind of evidence. -/
theorem planForensicCollection_monotone {stricter : PyVal} {otherClass : Text}
    {other : ForensicCollectionPlan} {p q : CheckedPolicy}
    (h : planForensicCollection rt request policy assetClass = .ok plan)
    (hother : planForensicCollection rt request stricter otherClass = .ok other)
    (hp : ForensicCollectionPolicy.codec.parse policy.modelDump = .ok p)
    (hq : ForensicCollectionPolicy.codec.parse stricter.modelDump = .ok q)
    (hstricter : Stricter p.val q.val)
    (hasset : otherClass = "standard" → assetClass = "standard") :
    plan.decision.strictness ≤ other.decision.strictness ∧
    tierStrictness plan.authorizationTier ≤ tierStrictness other.authorizationTier ∧
    other.request = plan.request ∧ other.target = plan.target ∧
    other.commandSchemaVersion = plan.commandSchemaVersion ∧
    other.evidenceKind = plan.evidenceKind := by
  obtain ⟨hrequest, htarget⟩ := planForensicCollection_eq_ok h
  obtain ⟨hrequest', htarget'⟩ := planForensicCollection_eq_ok hother
  obtain ⟨p', a, hp', ha, hplan⟩ := exists_decides h
  obtain ⟨q', b, hq', hb, hplan'⟩ := exists_decides hother
  obtain rfl := Except.ok.inj (hp.symm.trans hp')
  obtain rfl := Except.ok.inj (hq.symm.trans hq')
  have hsame : other.request = plan.request := Except.ok.inj (hrequest'.symm.trans hrequest)
  have hclass : b = .standard → a = .standard := by
    intro hstandard
    rw [hb, hstandard] at hasset
    exact Vocabulary.text_injective (Text.ofString_inj.mp (ha.symm.trans (hasset rfl)))
  have hneeds : NeedsNoAnalyst q.val plan.request.val.action b →
      NeedsNoAnalyst p.val plan.request.val.action a := hstricter.needsNoAnalyst hclass
  rw [hsame] at htarget'
  obtain ⟨hversion, htargets⟩ := Prod.mk.inj (Except.ok.inj (htarget'.symm.trans htarget))
  refine ⟨strictness_le ?_ ?_, ?_, hsame, htargets, hversion, ?_⟩
  · rw [hplan.skip_iff, hplan'.skip_iff, hsame]
    exact mt hstricter.covers
  · rw [hplan.recommend_iff, hplan'.recommend_iff, hsame]
    exact And.imp hstricter.covers hneeds
  · apply tierStrictness_le
    rw [hplan.autoSafe_iff, hplan'.autoSafe_iff, hsame]
    exact hneeds
  · rw [hplan.kind, hplan'.kind, hsame]

/-- The same request for a standard and for a critical asset. -/
theorem planForensicCollection_monotone_sample :
    ∃ plan other, planForensicCollection .sample instanceRequest samplePolicy "standard" =
        .ok plan ∧
      planForensicCollection .sample instanceRequest samplePolicy "critical" = .ok other ∧
      plan.decision.strictness ≤ other.decision.strictness := by
  obtain ⟨plan, hplan⟩ := exists_eq_ok
    (x := planForensicCollection .sample instanceRequest samplePolicy "standard")
    (by decide +kernel)
  obtain ⟨other, hother⟩ := exists_eq_ok
    (x := planForensicCollection .sample instanceRequest samplePolicy "critical")
    (by decide +kernel)
  obtain ⟨p, hp⟩ := exists_eq_ok
    (x := ForensicCollectionPolicy.codec.parse samplePolicy.modelDump) (by decide +kernel)
  have hstricter : Stricter p.val p.val := ⟨id, fun _ h => h, fun _ h => h⟩
  have hasset : ("critical" : Text) = "standard" → ("standard" : Text) = "standard" := fun _ => rfl
  exact ⟨plan, other, hplan, hother,
    (planForensicCollection_monotone hplan hother hp hp hstricter hasset).1⟩

end ResponseEngine.Forensics
