/-
  Automation/Shadowing.lean --- policies that can never decide.

  `evaluate_policy` takes the first policy that applies, so a policy whose whole scope
  earlier policies of the same action take already is dead.  `Shadowed` compares the
  criteria alone, and can be computed; it finds exactly the policies that can be removed
  without changing any decision (`shadowed_iff_removable`).  The hard direction builds an
  alert for every criterion that no earlier policy covers.
-/
import ResponseEngine.Automation.Exits
import ResponseEngine.Automation.PolicyDefinition

set_option autoImplicit false

namespace ResponseEngine.Automation

open ResponseEngine.Foundation ResponseEngine.Python ResponseEngine.Contract
open ResponseEngine.Policy

variable {rt : Runtime} {alert : PyVal} {before after : List ResponsePolicy}
  {policy : ResponsePolicy}

/-! ## What a scope takes -/

/-- A scope takes an alert by its rule, or by its tactic. -/
theorem PolicyMatch.matches_iff {scope : PolicyMatch} {items : Dict} {ruleId : Text}
    (hrule : Dict.get items "rule_id" = .str ruleId) :
    scope.matches items = true ↔ scope.TakesRule ruleId ∨
      ∃ tactic ∈ scope.mitreTactics, Dict.get items "mitre_tactic" = .str tactic := by
  by_cases htakes : scope.TakesRule ruleId
  · simp [htakes, PolicyMatch.matches_of_takesRule hrule htakes]
  · have hids : scope.ruleIds.any (fun t => (PyVal.str ruleId).pyEq (.str t)) = false := by
      rw [List.any_eq_false]
      intro t ht heq
      exact htakes (.inl (PyVal.str.inj (PyVal.pyEq_str.mp heq) ▸ ht))
    have hprefixes : scope.rulePrefixes.any ruleId.startsWith = false := by
      rw [List.any_eq_false]
      intro p hp hstarts
      exact htakes (.inr ⟨p, hp, List.isPrefixOf_iff_prefix.mp hstarts⟩)
    simp only [PolicyMatch.matches, hrule, hids, hprefixes, Bool.or_self, Bool.false_or, htakes,
      false_or]
    cases htactic : Dict.get items "mitre_tactic" <;> simp

/-! ## Shadowed policies -/

/-- The policies of a list that declare the action of a policy. -/
def rivals (before : List ResponsePolicy) (policy : ResponsePolicy) : List ResponsePolicy :=
  before.filter fun p => decide (p.action = policy.action)

theorem mem_rivals {p : ResponsePolicy} :
    p ∈ rivals before policy ↔ p ∈ before ∧ p.action = policy.action := by
  simp [rivals]

/-- A scope takes every alert of a tactic: by the tactic, or because it takes every rule. -/
def PolicyMatch.TakesTactic (self : PolicyMatch) (tactic : Text) : Prop :=
  tactic ∈ self.mitreTactics ∨ [] ∈ self.rulePrefixes

instance (scope : PolicyMatch) (tactic : Text) : Decidable (scope.TakesTactic tactic) :=
  inferInstanceAs (Decidable (_ ∨ _))

/-- Every criterion of the policy is covered by the rivals before it. -/
structure Shadowed (before : List ResponsePolicy) (policy : ResponsePolicy) : Prop where
  rules : ∀ ruleId ∈ policy.scope.ruleIds, ruleId.isBlank = false →
    ∃ p ∈ rivals before policy, p.scope.TakesRule ruleId
  prefixes : ∀ start ∈ policy.scope.rulePrefixes,
    ∃ p ∈ rivals before policy, ∃ earlier ∈ p.scope.rulePrefixes, earlier <+: start
  tactics : ∀ tactic ∈ policy.scope.mitreTactics,
    ∃ p ∈ rivals before policy, p.scope.TakesTactic tactic

theorem shadowed_iff : Shadowed before policy ↔
    (∀ ruleId ∈ policy.scope.ruleIds, ruleId.isBlank = false →
      ∃ p ∈ rivals before policy, p.scope.TakesRule ruleId) ∧
    (∀ start ∈ policy.scope.rulePrefixes,
      ∃ p ∈ rivals before policy, ∃ earlier ∈ p.scope.rulePrefixes, earlier <+: start) ∧
    ∀ tactic ∈ policy.scope.mitreTactics,
      ∃ p ∈ rivals before policy, p.scope.TakesTactic tactic :=
  ⟨fun h => ⟨h.rules, h.prefixes, h.tactics⟩, fun h => ⟨h.1, h.2.1, h.2.2⟩⟩

instance (before : List ResponsePolicy) (policy : ResponsePolicy) :
    Decidable (Shadowed before policy) :=
  decidable_of_iff' _ shadowed_iff

/-- An alert that a shadowed policy takes is taken before it. -/
theorem Shadowed.exists_applies (h : Shadowed before policy) (hwell : WellFormed alert)
    {action : Action} (happlies : Applies policy alert action) :
    ∃ p ∈ before, Applies p alert action := by
  obtain ⟨hmatches, rfl⟩ := happlies
  obtain ⟨ruleId, hrule, hblank⟩ := hwell.named "rule_id" (by simp)
  rw [PolicyMatch.matches_iff hrule] at hmatches
  have hrival : ∃ p ∈ rivals before policy, p.scope.matches alert.entries = true := by
    rcases hmatches with (hlisted | ⟨start, hstart, hstarts⟩) | ⟨tactic, hmem, htactic⟩
    · obtain ⟨p, hp, htakes⟩ := h.rules ruleId hlisted hblank
      exact ⟨p, hp, (PolicyMatch.matches_iff hrule).mpr (.inl htakes)⟩
    · obtain ⟨p, hp, earlier, hearlier, hprefix⟩ := h.prefixes start hstart
      have htakes : p.scope.TakesRule ruleId := .inr ⟨earlier, hearlier, hprefix.trans hstarts⟩
      exact ⟨p, hp, (PolicyMatch.matches_iff hrule).mpr (.inl htakes)⟩
    · obtain ⟨p, hp, hcovers⟩ := h.tactics tactic hmem
      refine ⟨p, hp, (PolicyMatch.matches_iff hrule).mpr ?_⟩
      cases hcovers with
      | inl hlisted => exact .inr ⟨tactic, hlisted, htactic⟩
      | inr hempty => exact .inl (.inr ⟨[], hempty, List.nil_prefix⟩)
  obtain ⟨p, hp, hmatches⟩ := hrival
  obtain ⟨hbefore, haction⟩ := mem_rivals.mp hp
  exact ⟨p, hbefore, hmatches, haction⟩

/-- A shadowed policy is never the one that decides. -/
theorem Shadowed.firstPolicy_remove (h : Shadowed before policy) (hwell : WellFormed alert)
    (action : Action) :
    firstPolicy (before ++ policy :: after) alert action =
      firstPolicy (before ++ after) alert action := by
  rw [firstPolicy_append, firstPolicy_append]
  by_cases happlies : Applies policy alert action
  · obtain ⟨first, hfirst⟩ := exists_firstPolicy (h.exists_applies hwell happlies)
    rw [hfirst, Option.some_or, Option.some_or]
  · rw [firstPolicy_cons_of_not happlies]

/-! ## Criteria that are not covered -/

/-- A rule id that goes on from a text and that no rival takes, where none of their prefixes
starts the text. -/
theorem exists_rule_outside {start : Text} (hlt :
      ((rivals before policy).flatMap (·.scope.rulePrefixes)).length < 0x110000)
    (hnot : ∀ p ∈ rivals before policy, ∀ earlier ∈ p.scope.rulePrefixes, ¬ earlier <+: start) :
    ∃ ruleId : Text, start <+: ruleId ∧ ruleId.isBlank = false ∧
      ∀ p ∈ rivals before policy, ¬ p.scope.TakesRule ruleId := by
  have hstarts : ∀ earlier ∈ (rivals before policy).flatMap (·.scope.rulePrefixes),
      ¬ earlier <+: start := by
    intro earlier hearlier
    obtain ⟨p, hp, hearlier⟩ := List.mem_flatMap.mp hearlier
    exact hnot p hp earlier hearlier
  obtain ⟨u, v, hlisted, hprefixes⟩ := exists_extension_outside CodePoint.ofOrd_injective hstarts
    hlt ((rivals before policy).flatMap (·.scope.ruleIds)) (.scalar 'a')
  refine ⟨start ++ (u ++ .scalar 'a' :: v), List.prefix_append _ _, ?_, ?_⟩
  · rw [Text.isBlank, List.all_append, List.all_append, List.all_cons]
    simp [CodePoint.isSpace, CodePoint.ord]
  · intro p hp htakes
    cases htakes with
    | inl hmem => exact hlisted (List.mem_flatMap.mpr ⟨p, hp, hmem⟩)
    | inr hstarts =>
        obtain ⟨earlier, hearlier, hstarts⟩ := hstarts
        exact hprefixes earlier (List.mem_flatMap.mpr ⟨p, hp, hearlier⟩) hstarts

/-- A well-formed alert of a rule and a tactic. -/
def alertWith (ruleId : Text) (tactic : PyVal) : PyVal :=
  .dict [("alert_id", .str "alert-1"), ("rule_id", .str ruleId), ("host_id", .str "host-1"),
    ("level", .int 0), ("mitre_tactic", tactic)]

theorem wellFormed_alertWith {ruleId : Text} (h : ruleId.isBlank = false) (tactic : PyVal) :
    WellFormed (alertWith ruleId tactic) := by
  refine ⟨⟨_, rfl⟩, ?_, ⟨0, rfl, le_refl 0, by decide⟩, .inr ⟨[], rfl⟩⟩
  intro key hkey
  simp only [List.mem_cons, List.not_mem_nil, or_false] at hkey
  rcases hkey with rfl | rfl | rfl
  · exact ⟨"alert-1", rfl, by decide +kernel⟩
  · exact ⟨ruleId, rfl, h⟩
  · exact ⟨"host-1", rfl, by decide +kernel⟩

theorem unmarked_alertWith (ruleId : Text) (tactic : PyVal) :
    Unmarked (alertWith ruleId tactic) :=
  unmarked_iff.mpr rfl

theorem matches_alertWith {scope : PolicyMatch} {ruleId : Text} {tactic : PyVal} :
    scope.matches (alertWith ruleId tactic).entries = true ↔ scope.TakesRule ruleId ∨
      ∃ t ∈ scope.mitreTactics, tactic = .str t :=
  PolicyMatch.matches_iff rfl

/-- Some alert comes to a policy that is not shadowed. -/
theorem exists_consulted
    (hlt : ((rivals before policy).flatMap (·.scope.rulePrefixes)).length < 0x110000)
    (hnot : ¬ Shadowed before policy) :
    ∃ alert, WellFormed alert ∧ Unmarked alert ∧ Applies policy alert policy.action ∧
      ∀ p ∈ before, ¬ Applies p alert policy.action := by
  -- an alert that the scope takes and no rival's scope takes
  have hscope : ∃ (ruleId : Text) (tactic : PyVal), ruleId.isBlank = false ∧
      (policy.scope.TakesRule ruleId ∨ ∃ t ∈ policy.scope.mitreTactics, tactic = .str t) ∧
      ∀ p ∈ rivals before policy,
        ¬ (p.scope.TakesRule ruleId ∨ ∃ t ∈ p.scope.mitreTactics, tactic = .str t) := by
    rw [shadowed_iff, not_and_or, not_and_or] at hnot
    push Not at hnot
    rcases hnot with ⟨ruleId, hmem, hblank, hfree⟩ | ⟨start, hmem, hfree⟩ | ⟨tactic, hmem, hfree⟩
    · refine ⟨ruleId, .none, hblank, .inl (.inl hmem), fun p hp => ?_⟩
      simp [hfree p hp]
    · obtain ⟨ruleId, hstarts, hblank, houtside⟩ := exists_rule_outside hlt hfree
      refine ⟨ruleId, .none, hblank, .inl (.inr ⟨start, hmem, hstarts⟩), fun p hp => ?_⟩
      simp [houtside p hp]
    · have hempty : ∀ p ∈ rivals before policy, ∀ earlier ∈ p.scope.rulePrefixes,
          ¬ earlier <+: [] := by
        intro p hp earlier hearlier hnil
        rw [List.prefix_nil.mp hnil] at hearlier
        exact hfree p hp (.inr hearlier)
      obtain ⟨ruleId, _, hblank, houtside⟩ := exists_rule_outside hlt hempty
      refine ⟨ruleId, .str tactic, hblank, .inr ⟨tactic, hmem, rfl⟩, fun p hp htakes => ?_⟩
      cases htakes with
      | inl hrule => exact houtside p hp hrule
      | inr htactic =>
          obtain ⟨t, ht, heq⟩ := htactic
          exact hfree p hp (.inl (PyVal.str.inj heq ▸ ht))
  obtain ⟨ruleId, tactic, hblank, htakes, hfree⟩ := hscope
  refine ⟨alertWith ruleId tactic, wellFormed_alertWith hblank tactic, unmarked_alertWith _ _,
    ⟨matches_alertWith.mpr htakes, rfl⟩, fun p hp happlies => ?_⟩
  exact hfree p (mem_rivals.mpr ⟨hp, happlies.2⟩) (matches_alertWith.mp happlies.1)

/-! ## Removing a policy -/

/-- A policy that decides says so first. -/
theorem head?_matchedDecision (globalMode : GlobalMode) (policy : ResponsePolicy) (items : Dict)
    (action : Text) :
    (matchedDecision rt globalMode policy items action).reasons.head? =
      some (("matched " : Text) ++ policy.policyId) := by
  unfold matchedDecision
  dsimp only
  split_ifs
  · simp only [decision, rewriteMode, downgradeMode]
    split_ifs <;> rfl
  · rfl

theorem head?_defaultDecision (globalMode : GlobalMode) (action : Text) :
    (defaultDecision globalMode action).reasons.head? =
      some (("no policy matched; tier " : Text) ++ ((classifyTier action).value : Text)) := by
  simp only [defaultDecision, decision, rewriteMode]
  split_ifs <;> rfl

theorem matchedDecision_ne_defaultDecision (globalMode : GlobalMode) (policy : ResponsePolicy)
    (items : Dict) (action : Text) :
    matchedDecision rt globalMode policy items action ≠ defaultDecision globalMode action := by
  intro heq
  have hhead : (matchedDecision rt globalMode policy items action).reasons.head? = _ :=
    head?_matchedDecision globalMode policy items action
  rw [heq, head?_defaultDecision] at hhead
  have hletter : some (CodePoint.scalar 'n') = some (CodePoint.scalar 'm') :=
    congrArg List.head? (Option.some.inj hhead)
  exact absurd hletter (by decide)

/-- **Which policies are dead.**  A policy behind others is shadowed by them exactly when it can
be removed, whatever comes after it, without changing any decision. -/
theorem shadowed_iff_removable (rt : Runtime)
    (hlt : ((rivals before policy).flatMap (·.scope.rulePrefixes)).length < 0x110000) :
    Shadowed before policy ↔
      ∀ (alert : PyVal) (commandAction : Option Text) (after : List ResponsePolicy)
        (globalMode : Text),
        evaluatePolicy rt alert commandAction (before ++ policy :: after) globalMode =
          evaluatePolicy rt alert commandAction (before ++ after) globalMode := by
  constructor
  · intro hshadowed alert commandAction after globalMode
    exact evaluatePolicy_congr (fun hwell => hshadowed.firstPolicy_remove hwell) commandAction
      globalMode
  · intro hremovable
    by_contra hnot
    obtain ⟨alert, hwell, hunmarked, happlies, hbefore⟩ := exists_consulted hlt hnot
    have hequal := hremovable alert (some (policy.action.value : Text)) [] "enforce"
    rw [evaluatePolicy_of_first hwell hunmarked hbefore happlies, List.append_nil,
      evaluatePolicy_of_unmatched hwell hunmarked hbefore] at hequal
    exact matchedDecision_ne_defaultDecision _ policy _ _ hequal

/-- The policy for every detection rule. -/
def detectionPolicy : ResponsePolicy := { cradlePolicy with scope := ⟨[], ["DET-"], []⟩ }

/-- A policy with a narrower scope, to be put behind it. -/
def narrowerPolicy : ResponsePolicy :=
  { cradlePolicy with scope := ⟨[], ["DET-PROC-"], []⟩, mode := .simulate }

theorem shadowed_iff_removable_sample :
    evaluatePolicy .sample (cradleAlert (.finite 1)) (some "KILL_PROCESS")
        [detectionPolicy, narrowerPolicy] "enforce" =
      evaluatePolicy .sample (cradleAlert (.finite 1)) (some "KILL_PROCESS")
        [detectionPolicy] "enforce" := by
  have hshadowed : Shadowed [detectionPolicy] narrowerPolicy := by decide +kernel
  have hlt : ((rivals [detectionPolicy] narrowerPolicy).flatMap (·.scope.rulePrefixes)).length <
      0x110000 := by decide +kernel
  exact (shadowed_iff_removable .sample hlt).mp hshadowed _ _ [] _

end ResponseEngine.Automation
