/-
  Automation/Exits.lean --- the exits of `evaluatePolicy`.

  `Exit` lists the six ways in which a decision is made, each with its guard, and
  `evaluatePolicy_exit` says that there is no seventh.  What holds of every decision
  is proved from it by cases, without looking into `evaluatePolicy` again.
-/
import ResponseEngine.Automation.LoopGuard

set_option autoImplicit false

namespace ResponseEngine.Automation

open ResponseEngine.Foundation ResponseEngine.Python ResponseEngine.Python.Pydantic
open ResponseEngine.Contract ResponseEngine.Policy

/-- How a decision was made. -/
inductive Exit (rt : Runtime) (alert : PyVal) (policies : List ResponsePolicy)
    (globalMode : GlobalMode) : Option Text → PolicyDecision → Prop where
  | malformed {commandAction : Option Text} {problem : Text}
      (hmalformed : malformed alert = some problem) :
      Exit rt alert policies globalMode commandAction
        (decision globalMode "validation" commandAction .denied
          [("malformed alert: " : Text) ++ problem] 0)
  | untranslated (hwell : WellFormed alert) :
      Exit rt alert policies globalMode none
        (decision globalMode "default-tier" none .record ["no translatable recommendation"] 0)
  | unknown {action : Text} (hwell : WellFormed alert)
      (hunknown : ∀ a : Action, action ≠ (a.value : Text)) :
      Exit rt alert policies globalMode (some action)
        (decision globalMode "validation" (some action) .denied
          [action ++ (" is outside the closed set" : Text)] 0)
  | marked {action : Action} (hwell : WellFormed alert) (hmarked : Marked alert) :
      Exit rt alert policies globalMode (some (action.value : Text))
        (loopGuardDenial globalMode action)
  | unmatched {action : Action} (hwell : WellFormed alert) (hunmarked : Unmarked alert)
      (hnone : ∀ p ∈ policies, ¬ Applies p alert action) :
      Exit rt alert policies globalMode (some (action.value : Text))
        (defaultDecision globalMode action.value)
  | matched {action : Action} {before after : List ResponsePolicy} {policy : ResponsePolicy}
      (hwell : WellFormed alert) (hunmarked : Unmarked alert)
      (hpolicies : policies = before ++ policy :: after)
      (hbefore : ∀ p ∈ before, ¬ Applies p alert action) (happlies : Applies policy alert action) :
      Exit rt alert policies globalMode (some (action.value : Text))
        (matchedDecision rt globalMode policy alert.entries action.value)

variable {rt : Runtime} {alert : PyVal} {policies : List ResponsePolicy}

/-- The search for a policy looks for one that applies. -/
theorem search_iff {policy : ResponsePolicy} {action : Action} :
    (policy.scope.matches alert.entries &&
      decide (Text.ofString policy.action.value = Text.ofString action.value)) = true ↔
      Applies policy alert action := by
  rw [Bool.and_eq_true, decide_eq_true_eq, Applies, Text.ofString_inj]
  exact and_congr_right fun _ => (Vocabulary.text_injective (α := Action)).eq_iff

/-- The policy that decides: the first that matches the alert and declares the action. -/
def firstPolicy (policies : List ResponsePolicy) (alert : PyVal) (action : Action) :
    Option ResponsePolicy :=
  policies.find? fun p => p.scope.matches alert.entries &&
    decide (Text.ofString p.action.value = Text.ofString action.value)

theorem firstPolicy_eq_none {action : Action} (hnone : ∀ p ∈ policies, ¬ Applies p alert action) :
    firstPolicy policies alert action = none := by
  apply List.find?_eq_none.mpr
  intro p hp
  rw [search_iff]
  exact hnone p hp

theorem applies_of_firstPolicy {action : Action} {policy : ResponsePolicy}
    (h : firstPolicy policies alert action = some policy) :
    policy ∈ policies ∧ Applies policy alert action := by
  unfold firstPolicy at h
  have hfound := List.find?_some h
  exact ⟨List.mem_of_find?_eq_some h, search_iff.mp hfound⟩

theorem firstPolicy_append (before after : List ResponsePolicy) (alert : PyVal) (action : Action) :
    firstPolicy (before ++ after) alert action =
      (firstPolicy before alert action).or (firstPolicy after alert action) :=
  List.find?_append

theorem exists_firstPolicy {action : Action} (h : ∃ p ∈ policies, Applies p alert action) :
    ∃ p, firstPolicy policies alert action = some p := by
  obtain ⟨p, hp, happlies⟩ := h
  cases hfirst : firstPolicy policies alert action with
  | none => exact absurd (search_iff.mpr happlies) (List.find?_eq_none.mp hfirst p hp)
  | some first => exact ⟨first, rfl⟩

theorem firstPolicy_cons_of_not {action : Action} {policy : ResponsePolicy}
    (hnot : ¬ Applies policy alert action) :
    firstPolicy (policy :: policies) alert action = firstPolicy policies alert action :=
  List.find?_cons_of_neg (search_iff.not.mpr hnot)

/-- Without a policy that applies the tier decides. -/
theorem evaluatePolicy_of_unmatched {action : Action} (hwell : WellFormed alert)
    (hunmarked : Unmarked alert) (hnone : ∀ p ∈ policies, ¬ Applies p alert action)
    (globalMode : Text) :
    evaluatePolicy rt alert (some (action.value : Text)) policies globalMode =
      defaultDecision (effectiveMode globalMode) action.value := by
  have hfind := firstPolicy_eq_none hnone
  rw [firstPolicy] at hfind
  rw [evaluatePolicy_of_wellFormed hwell, unmarked_iff.mp hunmarked, hfind, if_neg (by simp)]
  rfl

/-- An action outside the closed set is denied. -/
theorem evaluatePolicy_of_unknown {action : Text} (hwell : WellFormed alert)
    (hunknown : ∀ a : Action, action ≠ (a.value : Text)) (globalMode : Text) :
    evaluatePolicy rt alert (some action) policies globalMode =
      decision (effectiveMode globalMode) "validation" (some action) .denied
        [action ++ (" is outside the closed set" : Text)] 0 := by
  have hnot : actions.any (fun a => decide (Text.ofString a.value = action)) = false := by
    rw [List.any_eq_false]
    intro a _ ha
    exact hunknown a (of_decide_eq_true ha).symm
  simp only [evaluatePolicy, malformed_eq_none.mpr hwell, hnot, Bool.not_false, if_true]

/-- **The inversion of `evaluate_policy`.** -/
theorem evaluatePolicy_exit (rt : Runtime) (alert : PyVal) (commandAction : Option Text)
    (policies : List ResponsePolicy) (globalMode : Text) :
    Exit rt alert policies (effectiveMode globalMode) commandAction
      (evaluatePolicy rt alert commandAction policies globalMode) := by
  cases hmalformed : malformed alert with
  | some problem =>
      simp only [evaluatePolicy, hmalformed]
      exact .malformed hmalformed
  | none =>
      have hwell := malformed_eq_none.mp hmalformed
      cases commandAction with
      | none =>
          simp only [evaluatePolicy, hmalformed]
          exact .untranslated hwell
      | some action =>
          by_cases hknown : ∃ a : Action, action = (a.value : Text)
          · obtain ⟨a, rfl⟩ := hknown
            by_cases hmarked : Marked alert
            · rw [evaluatePolicy_of_marked hwell hmarked]
              exact .marked hwell hmarked
            · have hunmarked : Unmarked alert := not_not.mp fun h => hmarked (not_unmarked_iff.mp h)
              cases hfind : policies.find? fun p => p.scope.matches alert.entries &&
                  decide (Text.ofString p.action.value = Text.ofString a.value) with
              | none =>
                  have hnone : ∀ p ∈ policies, ¬ Applies p alert a := by
                    intro p hp happlies
                    exact List.find?_eq_none.mp hfind p hp (search_iff.mpr happlies)
                  rw [evaluatePolicy_of_unmatched hwell hunmarked hnone]
                  exact .unmatched hwell hunmarked hnone
              | some policy =>
                  obtain ⟨hpolicy, before, after, rfl, hskipped⟩ :=
                    List.find?_eq_some_iff_append.mp hfind
                  have hbefore : ∀ p ∈ before, ¬ Applies p alert a := by
                    intro p hp happlies
                    have hskip := hskipped p hp
                    rw [search_iff.mpr happlies] at hskip
                    exact absurd hskip (by decide)
                  have happlies := search_iff.mp hpolicy
                  rw [evaluatePolicy_of_first hwell hunmarked hbefore happlies]
                  exact .matched hwell hunmarked rfl hbefore happlies
          · have hunknown : ∀ a : Action, action ≠ (a.value : Text) := fun a ha => hknown ⟨a, ha⟩
            rw [evaluatePolicy_of_unknown hwell hunknown]
            exact .unknown hwell hunknown

/-! ## What runs, and what waits for approval -/

/-- The gates of a policy let the alert through. -/
def PassesGates (rt : Runtime) (policy : ResponsePolicy) (alert : PyVal) : Prop :=
  gateFailures rt policy alert.entries = []

/-- The alert may be answered with the action at all. -/
structure Answerable (alert : PyVal) (commandAction : Option Text) (action : Action) : Prop where
  well : WellFormed alert
  unmarked : Unmarked alert
  action_eq : commandAction = some (action.value : Text)

theorem value_injective {a b : Action} (h : (a.value : Text) = b.value) : a = b :=
  Vocabulary.text_injective (Text.ofString_inj.mp h)

/-- A policy runs something by itself when it says so, its gates pass and the action is
safe. -/
theorem matchedDecision_mode_eq_auto {policy : ResponsePolicy} {action : Text}
    {globalMode : GlobalMode} {items : Dict} :
    (matchedDecision rt globalMode policy items action).mode = .auto ↔
      gateFailures rt policy items = [] ∧ policy.mode = .auto ∧
        classifyTier action = .autoSafe := by
  unfold matchedDecision
  dsimp only
  split_ifs with hempty
  · rw [decision_mode, rewriteMode_eq_auto, List.isEmpty_iff.mp hempty]
    unfold downgradeMode
    cases policy.mode <;> by_cases htier : classifyTier action = .autoSafe <;>
      simp [PolicyMode.toDecision, htier]
  · rw [decision_mode]
    simp [List.isEmpty_iff.not.mp hempty]

/-- An approval is asked for under `enforce`, where the mode before the rewrite is one. -/
theorem rewriteMode_eq_approval_iff {globalMode : GlobalMode} {mode : DecisionMode}
    {reasons : List Text} : (rewriteMode globalMode mode reasons).1 = .approval ↔
      globalMode = .enforce ∧ mode = .approval := by
  cases globalMode <;> cases mode <;> simp [rewriteMode]

/-- A policy asks for an approval when it says so, or when it may not run its action by
itself. -/
theorem matchedDecision_mode_eq_approval {policy : ResponsePolicy} {action : Text}
    {globalMode : GlobalMode} {items : Dict} :
    (matchedDecision rt globalMode policy items action).mode = .approval ↔
      globalMode = .enforce ∧ gateFailures rt policy items = [] ∧
        (policy.mode = .approval ∨ policy.mode = .auto ∧ classifyTier action ≠ .autoSafe) := by
  unfold matchedDecision
  dsimp only
  split_ifs with hempty
  · rw [decision_mode, rewriteMode_eq_approval_iff, List.isEmpty_iff.mp hempty]
    unfold downgradeMode
    cases policy.mode <;> by_cases htier : classifyTier action = .autoSafe <;>
      simp [PolicyMode.toDecision, htier]
  · rw [decision_mode]
    simp [List.isEmpty_iff.not.mp hempty]

theorem defaultDecision_mode_eq_auto {globalMode : GlobalMode} {action : Text} :
    (defaultDecision globalMode action).mode = .auto ↔ classifyTier action = .autoSafe := by
  unfold defaultDecision
  dsimp only
  rw [decision_mode, rewriteMode_eq_auto]
  split_ifs with htier <;> simp [htier]

theorem defaultDecision_mode_eq_approval {globalMode : GlobalMode} {action : Text} :
    (defaultDecision globalMode action).mode = .approval ↔
      globalMode = .enforce ∧ classifyTier action ≠ .autoSafe := by
  unfold defaultDecision
  dsimp only
  rw [decision_mode, rewriteMode_eq_approval_iff]
  split_ifs with htier <;> simp [htier]

/-- The mode of a decision says whether it runs by itself. -/
theorem Exit.autoExecute_iff {globalMode : GlobalMode} {commandAction : Option Text}
    {d : PolicyDecision} (h : Exit rt alert policies globalMode commandAction d) :
    d.autoExecute = true ↔ d.mode = .auto := by
  cases h with
  | malformed => exact decision_autoExecute _ _ _ _ _
  | untranslated => exact decision_autoExecute _ _ _ _ _
  | unknown => exact decision_autoExecute _ _ _ _ _
  | marked => simp [loopGuardDenial]
  | unmatched => exact decision_autoExecute _ _ _ _ _
  | matched =>
      unfold matchedDecision
      dsimp only
      split_ifs
      · exact decision_autoExecute _ _ _ _ _
      · exact decision_autoExecute _ _ _ _ _

/-- An alert that cannot be answered is denied or recorded. -/
theorem Exit.inert_of_not_answerable {globalMode : GlobalMode} {commandAction : Option Text}
    {d : PolicyDecision} (h : Exit rt alert policies globalMode commandAction d)
    (hnot : ∀ action, ¬ Answerable alert commandAction action) :
    d.mode = .denied ∨ d.mode = .record := by
  cases h with
  | malformed => exact .inl rfl
  | untranslated => exact .inr rfl
  | unknown => exact .inl rfl
  | marked => exact .inl rfl
  | unmatched hwell hunmarked _ => exact absurd ⟨hwell, hunmarked, rfl⟩ (hnot _)
  | matched hwell hunmarked _ _ _ => exact absurd ⟨hwell, hunmarked, rfl⟩ (hnot _)

/-- An alert that can be answered comes to the policies. -/
theorem evaluatePolicy_of_answerable {commandAction : Option Text} {action : Action}
    (h : Answerable alert commandAction action) (policies : List ResponsePolicy)
    (globalMode : Text) :
    evaluatePolicy rt alert commandAction policies globalMode =
      (firstPolicy policies alert action).elim
        (defaultDecision (effectiveMode globalMode) action.value)
        fun policy =>
          matchedDecision rt (effectiveMode globalMode) policy alert.entries action.value := by
  rw [h.action_eq, evaluatePolicy_of_wellFormed h.well, unmarked_iff.mp h.unmarked,
    if_neg (by simp)]
  rfl

/-- Lists of policies that decide well-formed alerts by the same policy decide the same. -/
theorem evaluatePolicy_congr {others : List ResponsePolicy}
    (h : WellFormed alert →
      ∀ action, firstPolicy policies alert action = firstPolicy others alert action)
    (commandAction : Option Text) (globalMode : Text) :
    evaluatePolicy rt alert commandAction policies globalMode =
      evaluatePolicy rt alert commandAction others globalMode := by
  unfold evaluatePolicy
  cases hmalformed : malformed alert with
  | some problem => rfl
  | none =>
      cases commandAction with
      | none => rfl
      | some action =>
          dsimp only
          split_ifs with hunknown
          · rfl
          · rfl
          · rw [Bool.not_eq_true', Bool.not_eq_false, List.any_eq_true] at hunknown
            obtain ⟨a, -, ha⟩ := hunknown
            rw [← of_decide_eq_true ha]
            have hfirst := h (malformed_eq_none.mp hmalformed) a
            unfold firstPolicy at hfirst
            rw [hfirst]

/-- What runs by itself under a list of policies. -/
def RunsUnattended (rt : Runtime) (alert : PyVal) (commandAction : Option Text)
    (policies : List ResponsePolicy) : Prop :=
  ∃ action, Answerable alert commandAction action ∧ classifyTier action.value = .autoSafe ∧
    ∀ p, firstPolicy policies alert action = some p → PassesGates rt p alert ∧ p.mode = .auto

/-- What an analyst is asked to approve under a list of policies, where the mode is
`enforce`. -/
def AsksApproval (rt : Runtime) (alert : PyVal) (commandAction : Option Text)
    (policies : List ResponsePolicy) : Prop :=
  ∃ action, Answerable alert commandAction action ∧
    (firstPolicy policies alert action = none → classifyTier action.value ≠ .autoSafe) ∧
    ∀ p, firstPolicy policies alert action = some p → PassesGates rt p alert ∧
      (p.mode = .approval ∨ p.mode = .auto ∧ classifyTier action.value ≠ .autoSafe)

/-- What is previewed, staged or run can be answered. -/
theorem exists_answerable {commandAction : Option Text} {globalMode : Text}
    (h : Runs (evaluatePolicy rt alert commandAction policies globalMode).mode) :
    ∃ action, Answerable alert commandAction action := by
  by_contra hnone
  rcases (evaluatePolicy_exit rt alert commandAction policies globalMode).inert_of_not_answerable
    (not_exists.mp hnone) with hmode | hmode
  · rw [hmode] at h
    simp [Runs] at h
  · rw [hmode] at h
    simp [Runs] at h

theorem mode_eq_auto_iff {commandAction : Option Text} {globalMode : Text} :
    (evaluatePolicy rt alert commandAction policies globalMode).mode = .auto ↔
      RunsUnattended rt alert commandAction policies := by
  constructor
  · intro hauto
    obtain ⟨action, hanswerable⟩ := exists_answerable (.inr (.inr hauto))
    rw [evaluatePolicy_of_answerable hanswerable] at hauto
    refine ⟨action, hanswerable, ?_⟩
    cases hfirst : firstPolicy policies alert action with
    | none =>
        rw [hfirst] at hauto
        exact ⟨defaultDecision_mode_eq_auto.mp hauto, by simp⟩
    | some p =>
        rw [hfirst] at hauto
        obtain ⟨hgates, hmode, htier⟩ := matchedDecision_mode_eq_auto.mp hauto
        refine ⟨htier, fun q hq => ?_⟩
        rw [← Option.some.inj hq]
        exact ⟨hgates, hmode⟩
  · intro hruns
    obtain ⟨action, hanswerable, htier, hpolicy⟩ := hruns
    rw [evaluatePolicy_of_answerable hanswerable]
    cases hfirst : firstPolicy policies alert action with
    | none => exact defaultDecision_mode_eq_auto.mpr htier
    | some p =>
        obtain ⟨hgates, hmode⟩ := hpolicy p hfirst
        exact matchedDecision_mode_eq_auto.mpr ⟨hgates, hmode, htier⟩

theorem mode_eq_approval_iff {commandAction : Option Text} {globalMode : Text} :
    (evaluatePolicy rt alert commandAction policies globalMode).mode = .approval ↔
      globalMode = "enforce" ∧ AsksApproval rt alert commandAction policies := by
  constructor
  · intro happroval
    obtain ⟨action, hanswerable⟩ := exists_answerable (.inr (.inl happroval))
    rw [evaluatePolicy_of_answerable hanswerable] at happroval
    cases hfirst : firstPolicy policies alert action with
    | none =>
        rw [hfirst] at happroval
        obtain ⟨henforce, htier⟩ := defaultDecision_mode_eq_approval.mp happroval
        exact ⟨effectiveMode_eq_enforce.mp henforce, action, hanswerable, fun _ => htier,
          by simp [hfirst]⟩
    | some p =>
        rw [hfirst] at happroval
        obtain ⟨henforce, hgates, hmode⟩ := matchedDecision_mode_eq_approval.mp happroval
        refine ⟨effectiveMode_eq_enforce.mp henforce, action, hanswerable, by simp [hfirst],
          fun q hq => ?_⟩
        rw [← Option.some.inj (hfirst.symm.trans hq)]
        exact ⟨hgates, hmode⟩
  · intro hasks
    obtain ⟨henforce, action, hanswerable, hdefault, hpolicy⟩ := hasks
    have hmode := effectiveMode_eq_enforce.mpr henforce
    rw [evaluatePolicy_of_answerable hanswerable]
    cases hfirst : firstPolicy policies alert action with
    | none => exact defaultDecision_mode_eq_approval.mpr ⟨hmode, hdefault hfirst⟩
    | some p => exact matchedDecision_mode_eq_approval.mpr ⟨hmode, hpolicy p hfirst⟩

/-- **What runs, and what waits for approval**, exactly, for every alert, action, list of
policies and global mode. -/
theorem evaluatePolicy_runs_iff (rt : Runtime) (alert : PyVal) (commandAction : Option Text)
    (policies : List ResponsePolicy) (globalMode : Text) :
    ((evaluatePolicy rt alert commandAction policies globalMode).autoExecute = true ↔
      RunsUnattended rt alert commandAction policies) ∧
    ((evaluatePolicy rt alert commandAction policies globalMode).mode = .approval ↔
      globalMode = "enforce" ∧ AsksApproval rt alert commandAction policies) :=
  ⟨(evaluatePolicy_exit rt alert commandAction policies globalMode).autoExecute_iff.trans
    mode_eq_auto_iff, mode_eq_approval_iff⟩

end ResponseEngine.Automation
