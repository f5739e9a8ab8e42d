/-
  Automation/LoopGuard.lean --- alerts on the executor's own activity.

  For a well-formed alert and a known action, the loop guard is the only exit of
  `evaluatePolicy` that denies, and it is taken exactly when a text of the evidence
  carries the marker.  The policies are not looked at before it.
-/
import ResponseEngine.Automation.Gates

set_option autoImplicit false

namespace ResponseEngine.Automation

open ResponseEngine.Foundation ResponseEngine.Python ResponseEngine.Python.Pydantic
open ResponseEngine.Contract ResponseEngine.Policy

variable {rt : Runtime} {globalMode : GlobalMode}

/-- Some text of the evidence, at any depth, carries the executor's marker. -/
def Marked (alert : PyVal) : Prop :=
  ∃ t, StringValue (Dict.get alert.entries "evidence") t ∧ responseExecutorMarker <:+: t

theorem not_unmarked_iff {alert : PyVal} : ¬ Unmarked alert ↔ Marked alert := by
  simp [Unmarked, Marked]

theorem marked_iff {alert : PyVal} : Marked alert ↔
    (strings (Dict.get alert.entries "evidence")).any
      (·.contains responseExecutorMarker) = true := by
  rw [← not_unmarked_iff, unmarked_iff, Bool.not_eq_false]

/-! ## The denial -/

/-- The decision of the loop guard: nothing is simulated, nothing is run. -/
def loopGuardDenial (globalMode : GlobalMode) (action : Action) : PolicyDecision where
  policyId := "loop-guard"
  action := some action.value
  mode := .denied
  globalMode := globalMode
  simulate := false
  autoExecute := false
  cooldownSeconds := 0
  reasons := ["alert describes the response executor's own activity"]

/-- A marked alert is denied before any policy is looked at. -/
theorem evaluatePolicy_of_marked {alert : PyVal} (hwell : WellFormed alert)
    (hmarked : Marked alert) (action : Action) (policies : List ResponsePolicy) (mode : Text) :
    evaluatePolicy rt alert (some (action.value : Text)) policies mode =
      loopGuardDenial (effectiveMode mode) action := by
  rw [evaluatePolicy_of_wellFormed hwell, if_pos (marked_iff.mp hmarked)]
  rfl

/-! ## The other exits -/

theorem rewriteMode_ne_denied {mode : DecisionMode} {reasons : List Text} (h : mode ≠ .denied) :
    (rewriteMode globalMode mode reasons).1 ≠ .denied := by
  unfold rewriteMode
  split_ifs
  · simp
  · exact h

theorem downgradeMode_ne_denied {action : Text} {mode : PolicyMode} {reasons : List Text} :
    (downgradeMode action mode.toDecision reasons).1 ≠ .denied := by
  unfold downgradeMode
  split_ifs
  · simp
  · cases mode <;> simp [PolicyMode.toDecision]

theorem defaultDecision_ne_denied (action : Text) :
    (defaultDecision globalMode action).mode ≠ .denied := by
  apply rewriteMode_ne_denied
  split_ifs <;> simp

/-- A policy records, or runs in its own mode, but does not deny. -/
theorem matchedDecision_ne_denied (policy : ResponsePolicy) (alert : Dict) (action : Text) :
    (matchedDecision rt globalMode policy alert action).mode ≠ .denied := by
  unfold matchedDecision
  dsimp only
  split
  · apply rewriteMode_ne_denied
    exact downgradeMode_ne_denied
  · rw [decision_mode]
    simp

/-- Past the loop guard nothing is denied. -/
theorem mode_ne_denied_of_unmarked {alert : PyVal} (hwell : WellFormed alert)
    (hunmarked : Unmarked alert) (action : Action) (policies : List ResponsePolicy)
    (mode : Text) :
    (evaluatePolicy rt alert (some (action.value : Text)) policies mode).mode ≠ .denied := by
  rw [evaluatePolicy_of_wellFormed hwell, unmarked_iff.mp hunmarked, if_neg (by simp)]
  cases policies.find? fun p => p.scope.matches alert.entries &&
      decide (Text.ofString p.action.value = Text.ofString action.value) with
  | none => exact defaultDecision_ne_denied _
  | some policy => exact matchedDecision_ne_denied policy _ _

/-! ## The loop guard -/

/-- **The loop guard** is exact: whatever the policies and the global mode, a well-formed
alert gets its denial exactly when some text of the evidence carries the marker, and
nothing else denies a known action. -/
theorem evaluatePolicy_loopGuard_iff {rt : Runtime} {alert : PyVal} (h : malformed alert = none)
    (action : Action) (policies : List ResponsePolicy) (mode : Text) :
    (evaluatePolicy rt alert (some (action.value : Text)) policies mode =
        loopGuardDenial (effectiveMode mode) action ↔ Marked alert) ∧
      ((evaluatePolicy rt alert (some (action.value : Text)) policies mode).mode = .denied ↔
        Marked alert) := by
  have hwell := malformed_eq_none.mp h
  have hdenied : (evaluatePolicy rt alert (some (action.value : Text)) policies mode).mode =
      .denied → Marked alert := by
    intro hmode
    by_contra hnot
    rw [← not_unmarked_iff, not_not] at hnot
    exact mode_ne_denied_of_unmarked hwell hnot action policies mode hmode
  have hmarked : Marked alert → evaluatePolicy rt alert (some (action.value : Text)) policies mode =
      loopGuardDenial (effectiveMode mode) action := fun hmarked =>
    evaluatePolicy_of_marked hwell hmarked action policies mode
  constructor
  · constructor
    · intro hd
      apply hdenied
      rw [hd]
      rfl
    · exact hmarked
  · constructor
    · exact hdenied
    · intro h
      rw [hmarked h]
      rfl

/-- An alert whose evidence names the executor in a list inside an object. -/
def executorAlert : PyVal :=
  .dict [("alert_id", .str "alert-1"), ("rule_id", .str "DET-PROC-012"), ("host_id", .str "host-1"),
    ("level", .int 16),
    ("evidence", .dict [("process.command_line",
      .list [.str "/bin/sh", .str "exec panopticon-response-executor --kill 7"])])]

/-- A permissive policy does not help. -/
theorem evaluatePolicy_loopGuard_iff_sample :
    malformed executorAlert = none ∧ Marked executorAlert ∧
      evaluatePolicy .sample executorAlert (some (Action.value .killProcess : Text)) [cradlePolicy]
        "enforce" = loopGuardDenial .enforce .killProcess := by
  have hwell : malformed executorAlert = none := by decide +kernel
  have hmarked : Marked executorAlert := marked_iff.mpr (by decide +kernel)
  exact ⟨hwell, hmarked, (evaluatePolicy_loopGuard_iff hwell .killProcess [cradlePolicy]
    "enforce").1.mpr hmarked⟩

end ResponseEngine.Automation
