/-
  Automation/Audit.lean --- what the reasons of a decision tell.

  The reasons are the audit record.  They quote texts of the alert and of the policy,
  and still cannot be forged by either: a reason of a failed gate, of a downgrade or of
  a preview is there exactly when that happened (`evaluatePolicy_reasons_tell`).  Each
  quoted text stands behind a fixed beginning, and no two beginnings agree.
-/
import ResponseEngine.Automation.Exits

set_option autoImplicit false

namespace ResponseEngine.Automation

open ResponseEngine.Foundation ResponseEngine.Python ResponseEngine.Python.Pydantic
open ResponseEngine.Contract ResponseEngine.Policy

variable {rt : Runtime} {alert : PyVal} {policies : List ResponsePolicy}

/-! ## Beginnings -/

/-- The beginning of the reason of a failed gate. -/
def gateStart : Text := "gate failed: "

/-- The beginning of the reason of a downgrade. -/
def downgradeStart : Text := "auto downgraded to approval: "

/-- The beginning of the reason of a preview. -/
def previewStart : Text := "global mode simulate: "

/-- Some reason begins so. -/
def Says (reasons : List Text) (start : Text) : Prop := ∃ r ∈ reasons, start <+: r

instance (reasons : List Text) (start : Text) : Decidable (Says reasons start) :=
  inferInstanceAs (Decidable (∃ r ∈ reasons, start <+: r))

theorem says_cons {r : Text} {reasons : List Text} {start : Text} :
    Says (r :: reasons) start ↔ start <+: r ∨ Says reasons start :=
  List.exists_mem_cons_iff _ _ _

theorem says_append {reasons more : List Text} {start : Text} :
    Says (reasons ++ more) start ↔ Says reasons start ∨ Says more start := by
  simp only [Says, List.mem_append, or_and_right, exists_or]

@[simp] theorem not_says_nil (start : Text) : ¬ Says [] start := by
  simp [Says]

/-- Texts that differ early on do not begin alike, whatever follows. -/
theorem not_prefix_append {start literal : Text} (n : ℕ) (hstart : n ≤ start.length)
    (hliteral : n ≤ literal.length) (hne : start.take n ≠ literal.take n) (rest : Text) :
    ¬ start <+: literal ++ rest := by
  intro hprefix
  apply hne
  obtain ⟨more, hmore⟩ := hprefix
  calc start.take n = (start ++ more).take n := (List.take_append_of_le_length hstart).symm
    _ = (literal ++ rest).take n := by rw [hmore]
    _ = literal.take n := List.take_append_of_le_length hliteral

/-- A reason whose first two letters are others, whatever it quotes. -/
theorem not_says_singleton {start literal : Text} (hstart : 2 ≤ start.length)
    (hliteral : 2 ≤ literal.length) (hne : start.take 2 ≠ literal.take 2) (quoted : Text) :
    ¬ Says [literal ++ quoted] start := by
  rw [says_cons, or_iff_left (not_says_nil start)]
  exact not_prefix_append 2 hstart hliteral hne quoted

/-! ## The reasons of a decision -/

/-- What the reasons tell: a failed gate, a downgrade, a preview. -/
structure Told (reasons : List Text) (gate downgrade preview : Prop) : Prop where
  gate_iff : Says reasons gateStart ↔ gate
  downgrade_iff : Says reasons downgradeStart ↔ downgrade
  preview_iff : Says reasons previewStart ↔ preview

/-- A reason that begins unlike the three tells nothing, whatever it quotes. -/
theorem told_quiet {literal : Text} (hlength : 2 ≤ literal.length)
    (hgate : gateStart.take 2 ≠ literal.take 2)
    (hdowngrade : downgradeStart.take 2 ≠ literal.take 2)
    (hpreview : previewStart.take 2 ≠ literal.take 2) (quoted : Text) :
    Told [literal ++ quoted] False False False := by
  constructor
  · exact iff_of_false (not_says_singleton (by decide) hlength hgate quoted) id
  · exact iff_of_false (not_says_singleton (by decide) hlength hdowngrade quoted) id
  · exact iff_of_false (not_says_singleton (by decide) hlength hpreview quoted) id

theorem Told.append {reasons more : List Text} {g₁ g₂ d₁ d₂ p₁ p₂ : Prop}
    (h₁ : Told reasons g₁ d₁ p₁) (h₂ : Told more g₂ d₂ p₂) :
    Told (reasons ++ more) (g₁ ∨ g₂) (d₁ ∨ d₂) (p₁ ∨ p₂) := by
  constructor
  · rw [says_append, h₁.gate_iff, h₂.gate_iff]
  · rw [says_append, h₁.downgrade_iff, h₂.downgrade_iff]
  · rw [says_append, h₁.preview_iff, h₂.preview_iff]

theorem Told.congr {reasons : List Text} {g₁ g₂ d₁ d₂ p₁ p₂ : Prop} (h : Told reasons g₁ d₁ p₁)
    (hg : g₁ ↔ g₂) (hd : d₁ ↔ d₂) (hp : p₁ ↔ p₂) : Told reasons g₂ d₂ p₂ :=
  ⟨h.gate_iff.trans hg, h.downgrade_iff.trans hd, h.preview_iff.trans hp⟩

/-- The failed gates are told, each behind the same beginning. -/
theorem told_failures {failures : List Text} (hne : failures ≠ []) :
    Told (failures.map fun failure => gateStart ++ failure) True False False := by
  have hunlike {start : Text} (hlength : 2 ≤ start.length)
      (hne : start.take 2 ≠ gateStart.take 2) :
      ¬ Says (failures.map fun failure => gateStart ++ failure) start := by
    intro h
    obtain ⟨reason, hreason, hstart⟩ := h
    obtain ⟨failure, _, rfl⟩ := List.mem_map.mp hreason
    exact not_prefix_append 2 hlength (by decide) hne failure hstart
  constructor
  · obtain ⟨failure, hfailure⟩ := List.exists_mem_of_ne_nil failures hne
    exact iff_of_true
      ⟨gateStart ++ failure, List.mem_map_of_mem hfailure, List.prefix_append _ _⟩ trivial
  · exact iff_of_false (hunlike (by decide) (by decide)) id
  · exact iff_of_false (hunlike (by decide) (by decide)) id

/-- The reason of a downgrade, with the action it quotes. -/
theorem told_downgrade (quoted : Text) : Told [downgradeStart ++ quoted] False True False := by
  constructor
  · exact iff_of_false (not_says_singleton (by decide) (by decide) (by decide) quoted) id
  · exact iff_of_true ⟨_, List.mem_singleton_self _, List.prefix_append _ _⟩ trivial
  · exact iff_of_false (not_says_singleton (by decide) (by decide) (by decide) quoted) id

/-- The reason of a preview. -/
theorem told_preview :
    Told [("global mode simulate: containment previewed, not staged" : Text)] False False True := by
  constructor
  · exact iff_of_false (by decide) id
  · exact iff_of_false (by decide) id
  · exact iff_of_true (by decide) trivial

/-! ## The reasons of each step -/

theorem told_downgradeMode {action : Text} {mode : DecisionMode} {reasons : List Text}
    {g d p : Prop} (h : Told reasons g d p) :
    Told (downgradeMode action mode reasons).2 g
      (d ∨ mode = .auto ∧ classifyTier action ≠ .autoSafe) p := by
  unfold downgradeMode
  split_ifs with hauto
  · simp only [List.append_assoc]
    exact (h.append (told_downgrade _)).congr (iff_of_eq (or_false g))
      (or_congr_right (by simp [hauto])) (iff_of_eq (or_false p))
  · exact h.congr Iff.rfl (by simp [hauto]) Iff.rfl

theorem told_rewriteMode {globalMode : GlobalMode} {mode : DecisionMode} {reasons : List Text}
    {g d p : Prop} (h : Told reasons g d p) :
    Told (rewriteMode globalMode mode reasons).2 g d
      (p ∨ mode = .approval ∧ globalMode = .simulate) := by
  unfold rewriteMode
  split_ifs with happroval
  · exact (h.append told_preview).congr (iff_of_eq (or_false g)) (iff_of_eq (or_false d))
      (or_congr_right (by simp [happroval]))
  · exact h.congr Iff.rfl Iff.rfl (by simp [happroval])

theorem downgradeMode_eq_approval {action : Text} {mode : PolicyMode} {reasons : List Text} :
    (downgradeMode action mode.toDecision reasons).1 = .approval ↔
      mode = .approval ∨ mode = .auto ∧ classifyTier action ≠ .autoSafe := by
  unfold downgradeMode
  cases mode <;> by_cases htier : classifyTier action = .autoSafe <;>
    simp [PolicyMode.toDecision, htier]

/-- The reasons of the tier default. -/
theorem told_defaultDecision {globalMode : GlobalMode} {action : Text} :
    Told (defaultDecision globalMode action).reasons False False
      (globalMode = .simulate ∧ classifyTier action ≠ .autoSafe) := by
  have hquiet : Told [("no policy matched; tier " : Text) ++ ((classifyTier action).value : Text)]
      False False False :=
    told_quiet (by decide) (by decide) (by decide) (by decide) _
  refine (told_rewriteMode hquiet).congr Iff.rfl Iff.rfl ?_
  rw [false_or, and_comm]
  refine and_congr_right fun _ => ?_
  split_ifs with htier <;> simp [htier]

/-- The reasons of a policy that applies. -/
theorem told_matchedDecision {globalMode : GlobalMode} {policy : ResponsePolicy} {items : Dict}
    {action : Text} :
    Told (matchedDecision rt globalMode policy items action).reasons
      (gateFailures rt policy items ≠ [])
      (gateFailures rt policy items = [] ∧ policy.mode = .auto ∧ classifyTier action ≠ .autoSafe)
      (globalMode = .simulate ∧ gateFailures rt policy items = [] ∧
        (policy.mode = .approval ∨ policy.mode = .auto ∧ classifyTier action ≠ .autoSafe)) := by
  have hquiet : Told [("matched " : Text) ++ policy.policyId] False False False :=
    told_quiet (by decide) (by decide) (by decide) (by decide) _
  unfold matchedDecision
  dsimp only
  split_ifs with hempty
  · have hnil := List.isEmpty_iff.mp hempty
    refine (told_rewriteMode (told_downgradeMode hquiet)).congr (by simp [hnil]) ?_ ?_
    · rw [false_or]
      cases policy.mode <;> simp [PolicyMode.toDecision, hnil]
    · rw [false_or, downgradeMode_eq_approval, and_comm]
      simp [hnil]
  · have hne : gateFailures rt policy items ≠ [] := List.isEmpty_iff.not.mp hempty
    exact (hquiet.append (told_failures hne)).congr (by simp [hne]) (by simp [hne]) (by simp [hne])

/-- An alert that cannot be answered tells nothing of gates, downgrades and previews. -/
theorem Exit.told_of_not_answerable {globalMode : GlobalMode} {commandAction : Option Action}
    {d : PolicyDecision}
    (h : Exit rt alert policies globalMode (commandAction.map fun a => (a.value : Text)) d)
    (hnot : ∀ action, ¬ Answerable alert (commandAction.map fun a => (a.value : Text)) action) :
    Told d.reasons False False False := by
  generalize hcommand : (commandAction.map fun a => (a.value : Text)) = command at h hnot
  cases h with
  | malformed => exact told_quiet (by decide) (by decide) (by decide) (by decide) _
  | untranslated =>
      have hquiet : Told [("no translatable recommendation" : Text)] False False False :=
        ⟨by decide, by decide, by decide⟩
      exact hquiet
  | unknown _ hunknown =>
      cases commandAction with
      | none => exact absurd hcommand (by simp)
      | some a => exact absurd (Option.some.inj hcommand).symm (hunknown a)
  | marked =>
      have hquiet : Told [("alert describes the response executor's own activity" : Text)]
          False False False := ⟨by decide, by decide, by decide⟩
      exact hquiet
  | unmatched hwell hunmarked _ => exact absurd ⟨hwell, hunmarked, rfl⟩ (hnot _)
  | matched hwell hunmarked _ _ _ => exact absurd ⟨hwell, hunmarked, rfl⟩ (hnot _)

/-- The failed gates that a decision records. -/
def FailsGates (rt : Runtime) (alert : PyVal) (commandAction : Option Text)
    (policies : List ResponsePolicy) : Prop :=
  ∃ action, Answerable alert commandAction action ∧
    ∃ p, firstPolicy policies alert action = some p ∧ ¬ PassesGates rt p alert

/-- A policy that would run its action by itself, and may not. -/
def Downgrades (rt : Runtime) (alert : PyVal) (commandAction : Option Text)
    (policies : List ResponsePolicy) : Prop :=
  ∃ action, Answerable alert commandAction action ∧
    ∃ p, firstPolicy policies alert action = some p ∧ PassesGates rt p alert ∧ p.mode = .auto ∧
      classifyTier action.value ≠ .autoSafe

/-- An alert is answerable with one action at most. -/
theorem Answerable.exists_iff {commandAction : Option Text} {action : Action}
    (h : Answerable alert commandAction action) {P : Action → Prop} :
    (∃ a, Answerable alert commandAction a ∧ P a) ↔ P action := by
  constructor
  · intro hexists
    obtain ⟨a, ha, hP⟩ := hexists
    rw [value_injective (Option.some.inj (h.action_eq.symm.trans ha.action_eq))]
    exact hP
  · intro hP
    exact ⟨action, h, hP⟩

theorem effectiveMode_eq_simulate {globalMode : Text} :
    effectiveMode globalMode = .simulate ↔ globalMode ≠ "enforce" := by
  unfold effectiveMode
  split_ifs with h <;> simp [h]

/-- **What the reasons tell happened**, whatever the alert and the policies say.  The action is
one of the closed set, or none, as a translation leaves it. -/
theorem evaluatePolicy_reasons_tell (rt : Runtime) (alert : PyVal) (commandAction : Option Action)
    (policies : List ResponsePolicy) (globalMode : Text) :
    let action : Option Text := commandAction.map fun a => (a.value : Text)
    Told (evaluatePolicy rt alert action policies globalMode).reasons
      (FailsGates rt alert action policies) (Downgrades rt alert action policies)
      (globalMode ≠ "enforce" ∧ AsksApproval rt alert action policies) := by
  intro command
  by_cases hsome : ∃ action, Answerable alert command action
  · obtain ⟨action, h⟩ := hsome
    rw [evaluatePolicy_of_answerable h]
    cases hfirst : firstPolicy policies alert action with
    | none =>
        refine told_defaultDecision.congr ?_ ?_ ?_
        · rw [FailsGates, h.exists_iff, hfirst]
          simp
        · rw [Downgrades, h.exists_iff, hfirst]
          simp
        · rw [AsksApproval, h.exists_iff, hfirst, effectiveMode_eq_simulate]
          simp
    | some p =>
        refine told_matchedDecision.congr ?_ ?_ ?_
        · rw [FailsGates, h.exists_iff, hfirst]
          simp [PassesGates]
        · rw [Downgrades, h.exists_iff, hfirst]
          simp [PassesGates]
        · rw [AsksApproval, h.exists_iff, hfirst, effectiveMode_eq_simulate]
          simp [PassesGates]
  · have hnot := not_exists.mp hsome
    refine ((evaluatePolicy_exit rt alert command policies globalMode).told_of_not_answerable
      hnot).congr ?_ ?_ ?_
    · exact iff_of_false id fun ⟨action, h, _⟩ => hnot action h
    · exact iff_of_false id fun ⟨action, h, _⟩ => hnot action h
    · exact iff_of_false id fun ⟨_, action, h, _⟩ => hnot action h

end ResponseEngine.Automation
