/-
  Automation/GlobalMode.lean --- what the global mode can change.

  Two runs of `evaluatePolicy` on one alert, one action and one list of policies are
  compared, the first under `enforce` and the second under any other mode string.  The
  second is the first with its decision previewed (`evaluatePolicy_eq_preview`):
  the mode computations before the rewrite do not look at the global mode, so each
  exit needs one fact, that rewriting and building a decision commute with `preview`.
-/
import ResponseEngine.Automation.Decision

set_option autoImplicit false

namespace ResponseEngine.Automation

open ResponseEngine.Foundation ResponseEngine.Python ResponseEngine.Contract ResponseEngine.Policy

variable {rt : Runtime}

/-! ## The previewed decision -/

/-- A decision taken under `enforce`, as `simulate` has it. -/
def preview (d : PolicyDecision) : PolicyDecision :=
  let rewritten := rewriteMode .simulate d.mode d.reasons
  { d with globalMode := .simulate, mode := rewritten.1, reasons := rewritten.2 }

/-- What the second of two decisions shares with the first, and what it changes. -/
structure Previews (d₁ d₂ : PolicyDecision) : Prop where
  globalMode : d₂.globalMode = .simulate
  policyId : d₂.policyId = d₁.policyId
  action : d₂.action = d₁.action
  simulate : d₂.simulate = d₁.simulate
  autoExecute : d₂.autoExecute = d₁.autoExecute
  cooldownSeconds : d₂.cooldownSeconds = d₁.cooldownSeconds
  /-- an approval is previewed, and nothing else changes -/
  mode : d₂.mode = if d₁.mode = .approval then .simulate else d₁.mode

theorem previews_preview (d : PolicyDecision) : Previews d (preview d) := by
  refine ⟨rfl, rfl, rfl, rfl, rfl, rfl, ?_⟩
  unfold preview rewriteMode
  cases d.mode <;> rfl

/-! ## Rewriting -/

/-- Under `enforce` no mode is rewritten. -/
@[simp] theorem rewriteMode_enforce (mode : DecisionMode) (reasons : List Text) :
    rewriteMode .enforce mode reasons = (mode, reasons) := by
  unfold rewriteMode
  rw [if_neg (by simp)]

/-- A mode other than `approval` is not rewritten. -/
theorem rewriteMode_of_ne {globalMode : GlobalMode} {mode : DecisionMode} (reasons : List Text)
    (h : mode ≠ .approval) : rewriteMode globalMode mode reasons = (mode, reasons) :=
  if_neg fun hrewrite => h hrewrite.1

/-- The simulate flag does not tell the two modes apart. -/
theorem simulate_rewriteMode (mode : DecisionMode) (reasons : List Text) :
    let rewritten := rewriteMode .simulate mode reasons
    (decide (rewritten.1 = .simulate) || decide (rewritten.1 = .approval)) =
      (decide (mode = .simulate) || decide (mode = .approval)) := by
  cases mode <;> rfl

/-- Neither does the flag for what runs by itself. -/
theorem autoExecute_rewriteMode (mode : DecisionMode) (reasons : List Text) :
    decide ((rewriteMode .simulate mode reasons).1 = .auto) = decide (mode = .auto) := by
  cases mode <;> rfl

/-- Building the rewritten decision is previewing the decision. -/
theorem decision_rewriteMode (policyId : Text) (action : Option Text) (mode : DecisionMode)
    (reasons : List Text) (cooldown : Int) :
    let rewritten := rewriteMode .simulate mode reasons
    decision .simulate policyId action rewritten.1 rewritten.2 cooldown =
      preview (decision .enforce policyId action mode reasons cooldown) := by
  have hsimulate := simulate_rewriteMode mode reasons
  have hauto := autoExecute_rewriteMode mode reasons
  simp only [decision, preview, hsimulate, hauto]

/-- A decision that asks for no approval changes its global mode only. -/
theorem decision_of_ne {mode : DecisionMode} (policyId : Text) (action : Option Text)
    (reasons : List Text) (cooldown : Int) (h : mode ≠ .approval) :
    decision .simulate policyId action mode reasons cooldown =
      preview (decision .enforce policyId action mode reasons cooldown) := by
  have hrewritten := decision_rewriteMode policyId action mode reasons cooldown
  rw [rewriteMode_of_ne reasons h] at hrewritten
  exact hrewritten

/-! ## The exits -/

theorem defaultDecision_preview (action : Text) :
    defaultDecision .simulate action = preview (defaultDecision .enforce action) := by
  unfold defaultDecision
  dsimp only
  rw [rewriteMode_enforce]
  apply decision_rewriteMode

theorem matchedDecision_preview (policy : ResponsePolicy) (alert : Dict) (action : Text) :
    matchedDecision rt .simulate policy alert action =
      preview (matchedDecision rt .enforce policy alert action) := by
  unfold matchedDecision
  dsimp only
  split
  · rw [rewriteMode_enforce]
    apply decision_rewriteMode
  · exact decision_of_ne _ _ _ _ (by decide)

/-- Every exit of the decision under another mode is the same exit under `enforce`,
previewed. -/
theorem evaluatePolicy_eq_preview (alert : PyVal) (commandAction : Option Text)
    (policies : List ResponsePolicy) {mode : Text} (hmode : mode ≠ "enforce") :
    evaluatePolicy rt alert commandAction policies mode =
      preview (evaluatePolicy rt alert commandAction policies "enforce") := by
  have hsimulate : effectiveMode mode = .simulate := if_neg hmode
  have henforce : effectiveMode "enforce" = .enforce := if_pos rfl
  unfold evaluatePolicy
  rw [hsimulate, henforce]
  dsimp only
  split
  · -- a malformed alert
    exact decision_of_ne _ _ _ _ (by decide)
  · cases commandAction with
    | none =>
        exact decision_of_ne _ _ _ _ (by decide)
    | some action =>
        dsimp only
        split
        · -- an action outside the closed set
          exact decision_of_ne _ _ _ _ (by decide)
        · split
          · -- the executor's own activity
            exact decision_of_ne _ _ _ _ (by decide)
          · split
            · apply defaultDecision_preview
            · apply matchedDecision_preview

/-! ## The two runs -/

/-- **A misconfigured or default mode turns approval into simulate, and changes nothing
else.** -/
theorem evaluatePolicy_previews {rt : Runtime} {mode : Text} (alert : PyVal)
    (commandAction : Option Text) (policies : List ResponsePolicy) (hmode : mode ≠ "enforce") :
    Previews (evaluatePolicy rt alert commandAction policies "enforce")
      (evaluatePolicy rt alert commandAction policies mode) := by
  rw [evaluatePolicy_eq_preview alert commandAction policies hmode]
  apply previews_preview

/-- A well-formed alert with nothing but the required keys. -/
def sampleAlert : PyVal :=
  .dict [("alert_id", .str "alert-1"), ("rule_id", .str "DET-PS-010"), ("host_id", .str "host-1"),
    ("level", .int 10)]

/-- A misspelled mode previews the process kill that `enforce` stages. -/
theorem evaluatePolicy_previews_sample :
    (evaluatePolicy .sample sampleAlert (some "KILL_PROCESS") [] "enforce").mode = .approval ∧
      (evaluatePolicy .sample sampleAlert (some "KILL_PROCESS") [] "enforced").mode = .simulate ∧
      Previews (evaluatePolicy .sample sampleAlert (some "KILL_PROCESS") [] "enforce")
        (evaluatePolicy .sample sampleAlert (some "KILL_PROCESS") [] "enforced") := by
  have hmisspelled : ("enforced" : Text) ≠ "enforce" := by decide
  have hpreviews : Previews
      (evaluatePolicy .sample sampleAlert (some "KILL_PROCESS") [] "enforce")
      (evaluatePolicy .sample sampleAlert (some "KILL_PROCESS") [] "enforced") :=
    evaluatePolicy_previews sampleAlert (some "KILL_PROCESS") [] hmisspelled
  have hmode : (evaluatePolicy .sample sampleAlert (some "KILL_PROCESS") [] "enforce").mode =
      .approval := by
    decide +kernel
  refine ⟨hmode, ?_, hpreviews⟩
  rw [hpreviews.mode, hmode]
  rfl

end ResponseEngine.Automation
