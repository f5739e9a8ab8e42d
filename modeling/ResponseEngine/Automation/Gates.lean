/-
  Automation/Gates.lean --- what the gates of a policy let through.

  `GatesHold` says positively what a policy asks of an alert.  The source collects
  failures instead: a gate passes when a comparison that would fail it is false.
  For every gate but one the two agree; a NaN confidence, or a NaN bound, is neither
  below the other nor at least it, and passes.
-/
import ResponseEngine.Automation.Decision

set_option autoImplicit false

namespace ResponseEngine.Automation

open ResponseEngine.Foundation ResponseEngine.Python ResponseEngine.Python.Pydantic
open ResponseEngine.Contract ResponseEngine.Policy

variable {rt : Runtime} {policy : ResponsePolicy}

/-! ## What a policy asks of an alert -/

/-- The number that a confidence is; a bool is none. -/
def confidence? : PyVal → Option Double
  | .int n => some (.finite n)
  | .float x => some x
  | _ => none

/-- A value other than `None`, the empty string, the empty list and the empty object. -/
def HasValue (v : PyVal) : Prop :=
  v ≠ .none ∧ v ≠ .str [] ∧ v ≠ .list [] ∧ v.asMapping? ≠ some []

def LevelHolds (policy : ResponsePolicy) (alert : Dict) : Prop :=
  ∃ n : Int, Dict.get alert "level" = .int n ∧ policy.minLevel ≤ n

def ConfidenceHolds (policy : ResponsePolicy) (alert : Dict) : Prop :=
  ∀ bound, policy.minConfidence = some bound →
    ∃ x, confidence? (Dict.get alert "confidence") = some x ∧ bound.le x = true

def EvidenceHolds (policy : ResponsePolicy) (alert : Dict) : Prop :=
  ∀ key ∈ policy.requiredEvidence,
    HasValue (Dict.get (Dict.get alert "evidence").entries key)

def SourceHolds (policy : ResponsePolicy) (alert : Dict) : Prop :=
  ∃ t ∈ policy.detectionSources, Dict.get alert "detection_source" = .str t

def HostHolds (policy : ResponsePolicy) (alert : Dict) : Prop :=
  policy.hostAllowlist ≠ [] → ∃ t ∈ policy.hostAllowlist, Dict.get alert "host_id" = .str t

/-- Every gate but the confidence gate holds. -/
structure OtherGatesHold (policy : ResponsePolicy) (alert : Dict) : Prop where
  level : LevelHolds policy alert
  evidence : EvidenceHolds policy alert
  source : SourceHolds policy alert
  host : HostHolds policy alert

/-- Every gate of a policy holds. -/
structure GatesHold (policy : ResponsePolicy) (alert : Dict) : Prop
    extends OtherGatesHold policy alert where
  confidence : ConfidenceHolds policy alert

/-- The confidence is a number, and it or the bound is a NaN. -/
def ConfidenceUnordered (policy : ResponsePolicy) (alert : Dict) : Prop :=
  ∃ bound x, policy.minConfidence = some bound ∧
    confidence? (Dict.get alert "confidence") = some x ∧ (x = .nan ∨ bound = .nan)

theorem not_confidenceHolds_of_unordered {alert : Dict} (h : ConfidenceUnordered policy alert) :
    ¬ ConfidenceHolds policy alert := by
  intro hholds
  obtain ⟨bound, x, hbound, hx, hnan⟩ := h
  obtain ⟨y, hy, hle⟩ := hholds bound hbound
  obtain rfl : x = y := Option.some.inj (hx.symm.trans hy)
  rcases hnan with rfl | rfl
  · rw [Double.le_nan] at hle
    exact absurd hle (by decide)
  · rw [Double.nan_le] at hle
    exact absurd hle (by decide)

/-! ## The failures of each gate -/

section

variable {alert : Dict}

theorem levelFailures_eq_nil (h : ∃ n : Int, Dict.get alert "level" = .int n ∧ 0 ≤ n ∧ n ≤ 16) :
    levelFailures policy alert = [] ↔ LevelHolds policy alert := by
  obtain ⟨n, hn, _⟩ := h
  simp only [levelFailures, LevelHolds, hn, PyVal.int.injEq]
  split_ifs with hlt
  · simp [not_le.mpr hlt]
  · simp [not_lt.mp hlt]

theorem confidenceFailures_eq_nil :
    confidenceFailures rt policy alert = [] ↔
      ConfidenceHolds policy alert ∨ ConfidenceUnordered policy alert := by
  unfold confidenceFailures ConfidenceHolds ConfidenceUnordered
  cases policy.minConfidence with
  | none => simp
  | some bound =>
      have hbelow : ∀ x : Double, x.lt bound = false ↔
          bound.le x = true ∨ x = .nan ∨ bound = .nan := fun _ => Double.not_lt_iff
      cases Dict.get alert "confidence" with
      | int n => simpa [confidence?] using hbelow (.finite n)
      | float x => simpa [confidence?] using hbelow x
      | _ => simp [confidence?]

theorem pyEq_list_nil {v : PyVal} : v.pyEq (.list []) = true ↔ v = .list [] := by
  cases v with
  | list xs => cases xs <;> simp [PyVal.pyEq, PyVal.pyEqAll]
  | _ => simp [PyVal.pyEq, PyVal.numberEq, PyVal.number?]

theorem pyEq_dict_nil {v : PyVal} : v.pyEq (.dict []) = true ↔ v.asMapping? = some [] := by
  cases v with
  | dict d => cases d <;> simp [PyVal.pyEq, PyVal.pyEqItems, PyVal.asMapping?]
  | mapping d => cases d <;> simp [PyVal.pyEq, PyVal.pyEqItems, PyVal.asMapping?]
  | _ => simp [PyVal.pyEq, PyVal.numberEq, PyVal.number?, PyVal.asMapping?]

theorem isEmptyEvidence_eq_false {v : PyVal} : isEmptyEvidence v = false ↔ HasValue v := by
  rw [← Bool.not_eq_true, isEmptyEvidence, Bool.or_eq_true, Bool.or_eq_true, Bool.or_eq_true,
    PyVal.isNone_iff, PyVal.pyEq_str, pyEq_list_nil, pyEq_dict_nil, HasValue]
  tauto

/-- `alert.get("evidence") or {}` has the entries of the evidence. -/
theorem evidenceOf_eq : evidenceOf alert = (Dict.get alert "evidence").entries := by
  unfold evidenceOf
  dsimp only
  split_ifs with htruthy
  · rfl
  · cases hv : Dict.get alert "evidence" with
    | dict items =>
        obtain rfl : items = [] := by simpa [hv, PyVal.truthy] using htruthy
        rfl
    | mapping items =>
        obtain rfl : items = [] := by simpa [hv, PyVal.truthy] using htruthy
        rfl
    | _ => rfl

theorem evidenceFailures_eq_nil :
    evidenceFailures policy alert = [] ↔ EvidenceHolds policy alert := by
  simp only [evidenceFailures, evidenceOf_eq, List.map_eq_nil_iff, List.filter_eq_nil_iff,
    Bool.not_eq_true, isEmptyEvidence_eq_false, EvidenceHolds]

theorem sourceFailures_eq_nil :
    sourceFailures rt policy alert = [] ↔ SourceHolds policy alert := by
  unfold sourceFailures SourceHolds
  dsimp only
  split_ifs with hany
  · simpa [PyVal.pyEq_str] using hany
  · simpa [PyVal.pyEq_str] using hany

theorem hostFailures_eq_nil (h : ∃ t, Dict.get alert "host_id" = .str t) :
    hostFailures policy alert = [] ↔ HostHolds policy alert := by
  obtain ⟨t, ht⟩ := h
  unfold hostFailures HostHolds
  simp only [ht, PyVal.str.injEq]
  by_cases hnil : policy.hostAllowlist = []
  · simp [hnil]
  · simp [hnil, List.isEmpty_iff]

end

/-- No failure is collected exactly when the other gates hold and the confidence gate
holds or is unordered. -/
theorem gateFailures_eq_nil {alert : PyVal} (h : WellFormed alert) :
    gateFailures rt policy alert.entries = [] ↔
      OtherGatesHold policy alert.entries ∧
        (ConfidenceHolds policy alert.entries ∨ ConfidenceUnordered policy alert.entries) := by
  obtain ⟨host, hhost, _⟩ := h.named "host_id" (by simp)
  simp only [gateFailures, List.append_eq_nil_iff, levelFailures_eq_nil h.level,
    confidenceFailures_eq_nil, evidenceFailures_eq_nil, sourceFailures_eq_nil,
    hostFailures_eq_nil ⟨host, hhost⟩]
  constructor
  · rintro ⟨⟨⟨⟨hlevel, hconfidence⟩, hevidence⟩, hsource⟩, hhostHolds⟩
    exact ⟨⟨hlevel, hevidence, hsource, hhostHolds⟩, hconfidence⟩
  · rintro ⟨⟨hlevel, hevidence, hsource, hhostHolds⟩, hconfidence⟩
    exact ⟨⟨⟨⟨hlevel, hconfidence⟩, hevidence⟩, hsource⟩, hhostHolds⟩

/-! ## The policy that decides -/

/-- The policy matches the alert and declares the action. -/
def Applies (policy : ResponsePolicy) (alert : PyVal) (action : Action) : Prop :=
  policy.scope.matches alert.entries = true ∧ policy.action = action

/-- No text of the evidence carries the executor's marker. -/
def Unmarked (alert : PyVal) : Prop :=
  ∀ t, StringValue (Dict.get alert.entries "evidence") t → ¬ responseExecutorMarker <:+: t

theorem unmarked_iff {alert : PyVal} :
    Unmarked alert ↔ (strings (Dict.get alert.entries "evidence")).any
      (·.contains responseExecutorMarker) = false := by
  rw [List.any_eq_false]
  constructor
  · intro h t ht hmarker
    exact h t (stringValue_of_mem_strings ht) (of_decide_eq_true hmarker)
  · intro h t ht hmarker
    exact h t (mem_strings_of_stringValue ht) (decide_eq_true hmarker)

/-- A well-formed alert with a known action comes to the loop guard, and then to the
policies. -/
theorem evaluatePolicy_of_wellFormed {alert : PyVal} {action : Action}
    {policies : List ResponsePolicy} {globalMode : Text} (hwell : WellFormed alert) :
    evaluatePolicy rt alert (some (action.value : Text)) policies globalMode =
      if (strings (Dict.get alert.entries "evidence")).any (·.contains responseExecutorMarker) then
        decision (effectiveMode globalMode) "loop-guard" (some (action.value : Text)) .denied
          ["alert describes the response executor's own activity"] 0
      else
        (policies.find? fun p => p.scope.matches alert.entries &&
            decide (Text.ofString p.action.value = Text.ofString action.value)).elim
          (defaultDecision (effectiveMode globalMode) action.value)
          fun policy =>
            matchedDecision rt (effectiveMode globalMode) policy alert.entries action.value := by
  have hknown : actions.any (fun a => decide (Text.ofString a.value = Text.ofString action.value)) =
      true := List.any_eq_true.mpr ⟨action, Vocabulary.mem_members action, decide_eq_true rfl⟩
  simp only [evaluatePolicy, malformed_eq_none.mpr hwell, hknown, Bool.not_true,
    Bool.false_eq_true, if_false]
  congr 1
  split <;> rename_i hfind <;> rw [hfind] <;> rfl

/-- A well-formed alert without the marker is decided by the first policy that applies. -/
theorem evaluatePolicy_of_first {alert : PyVal} {action : Action}
    {before after : List ResponsePolicy} {globalMode : Text} (hwell : WellFormed alert)
    (hunmarked : Unmarked alert) (hbefore : ∀ p ∈ before, ¬ Applies p alert action)
    (happlies : Applies policy alert action) :
    evaluatePolicy rt alert (some (action.value : Text)) (before ++ policy :: after) globalMode =
      matchedDecision rt (effectiveMode globalMode) policy alert.entries action.value := by
  have happly : ∀ p : ResponsePolicy, (p.scope.matches alert.entries &&
      decide (Text.ofString p.action.value = Text.ofString action.value)) = true ↔
        Applies p alert action := by
    intro p
    rw [Bool.and_eq_true, decide_eq_true_eq, Applies]
    exact and_congr_right fun _ =>
      ⟨fun h => Vocabulary.text_injective (Text.ofString_inj.mp h), fun h => by rw [h]⟩
  have hfirst : (before ++ policy :: after).find? (fun p => p.scope.matches alert.entries &&
      decide (Text.ofString p.action.value = Text.ofString action.value)) = some policy := by
    rw [List.find?_eq_some_iff_append]
    refine ⟨(happly policy).mpr happlies, before, after, rfl, fun p hp => ?_⟩
    rw [Bool.not_eq_true', ← Bool.not_eq_true, happly]
    exact hbefore p hp
  rw [evaluatePolicy_of_wellFormed hwell, unmarked_iff.mp hunmarked, hfirst, if_neg (by simp)]
  rfl

/-- A mode under which something is previewed, staged or run. -/
def Runs (mode : DecisionMode) : Prop := mode = .simulate ∨ mode = .approval ∨ mode = .auto

/-- A policy that only records stays so, and any other runs, whatever rewriting does. -/
theorem rewritten_record_or_runs (globalMode : GlobalMode) (action : Text) (mode : PolicyMode)
    (reasons : List Text) :
    let downgraded := downgradeMode action mode.toDecision reasons
    let rewritten := rewriteMode globalMode downgraded.1 downgraded.2
    (mode = .record → rewritten.1 = .record) ∧ (mode ≠ .record → Runs rewritten.1) := by
  cases mode with
  | record => simp [PolicyMode.toDecision, downgradeMode, rewriteMode]
  | simulate => simp [PolicyMode.toDecision, downgradeMode, rewriteMode, Runs]
  | approval => cases globalMode <;> simp [PolicyMode.toDecision, downgradeMode, rewriteMode, Runs]
  | auto =>
      by_cases htier : classifyTier action = .autoSafe
      · simp [PolicyMode.toDecision, downgradeMode, rewriteMode, Runs, htier]
      · cases globalMode <;>
          simp [PolicyMode.toDecision, downgradeMode, rewriteMode, Runs, htier]

/-- With a failing gate the decision is to record. -/
theorem matchedDecision_of_failures {alert : Dict} (globalMode : GlobalMode) (action : Action)
    (hne : gateFailures rt policy alert ≠ []) :
    (matchedDecision rt globalMode policy alert action.value).mode = .record := by
  unfold matchedDecision
  dsimp only
  rw [if_neg (by simpa using hne)]
  rfl

/-- Without a failing gate the policy's own mode decides whether something runs. -/
theorem matchedDecision_of_no_failures {alert : Dict} (globalMode : GlobalMode) (action : Action)
    (hnil : gateFailures rt policy alert = []) :
    let d := matchedDecision rt globalMode policy alert action.value
    (policy.mode = .record → d.mode = .record) ∧ (policy.mode ≠ .record → Runs d.mode) := by
  unfold matchedDecision
  dsimp only
  rw [if_pos (by simp [hnil])]
  exact rewritten_record_or_runs _ _ _ _

/-- The alerts and policies for which the gates decide: a confidence gate that is
unordered is not the only one left to fail under a policy that runs something. -/
def GatesDecide (policy : ResponsePolicy) (alert : Dict) : Prop :=
  OtherGatesHold policy alert → ConfidenceUnordered policy alert → policy.mode = .record

/-- A decision rests on the gates: if it runs something they all hold, and where one fails
it is to record. -/
def RestsOnGates (policy : ResponsePolicy) (alert : Dict) (d : PolicyDecision) : Prop :=
  (Runs d.mode → GatesHold policy alert) ∧ (¬ GatesHold policy alert → d.mode = .record)

/-- Where no failure is collected, all gates hold but the confidence gate, which may be
unordered. -/
theorem restsOnGates_of_no_failures {alert : PyVal} (globalMode : GlobalMode) (action : Action)
    (hwell : WellFormed alert) (hnil : gateFailures rt policy alert.entries = []) :
    RestsOnGates policy alert.entries
        (matchedDecision rt globalMode policy alert.entries action.value) ↔
      GatesDecide policy alert.entries := by
  obtain ⟨hother, hconfidence⟩ := (gateFailures_eq_nil hwell).mp hnil
  obtain ⟨hrecord, hruns⟩ := matchedDecision_of_no_failures globalMode action hnil
  constructor
  · intro hrests _ hunordered
    by_contra hmode
    exact not_confidenceHolds_of_unordered hunordered (hrests.1 (hruns hmode)).confidence
  · intro hdecide
    have hgates : ¬ GatesHold policy alert.entries → policy.mode = .record := by
      intro hnot
      rcases hconfidence with hholds | hunordered
      · exact absurd ⟨hother, hholds⟩ hnot
      · exact hdecide hother hunordered
    constructor
    · intro hd
      by_contra hnot
      rw [hrecord (hgates hnot)] at hd
      simp [Runs] at hd
    · intro hnot
      exact hrecord (hgates hnot)

/-- Where a failure is collected, the decision is to record, and some gate fails. -/
theorem restsOnGates_of_failures {alert : PyVal} (globalMode : GlobalMode) (action : Action)
    (hwell : WellFormed alert) (hne : gateFailures rt policy alert.entries ≠ []) :
    RestsOnGates policy alert.entries
        (matchedDecision rt globalMode policy alert.entries action.value) ↔
      GatesDecide policy alert.entries := by
  have hrecord := matchedDecision_of_failures globalMode action hne
  constructor
  · intro _ hother hunordered
    exact absurd ((gateFailures_eq_nil hwell).mpr ⟨hother, .inr hunordered⟩) hne
  · intro _
    constructor
    · intro hruns
      rw [hrecord] at hruns
      simp [Runs] at hruns
    · intro _
      exact hrecord

/-- **When a decision really rests on its gates.** -/
theorem evaluatePolicy_gates_iff {rt : Runtime} {alert : PyVal} {action : Action}
    {policy : ResponsePolicy} (before after : List ResponsePolicy) (globalMode : Text)
    (hwell : WellFormed alert) (hunmarked : Unmarked alert)
    (hbefore : ∀ p ∈ before, ¬ Applies p alert action) (happlies : Applies policy alert action) :
    RestsOnGates policy alert.entries (evaluatePolicy rt alert (some (action.value : Text))
        (before ++ policy :: after) globalMode) ↔
      GatesDecide policy alert.entries := by
  rw [evaluatePolicy_of_first hwell hunmarked hbefore happlies]
  by_cases hnil : gateFailures rt policy alert.entries = []
  · exact restsOnGates_of_no_failures _ action hwell hnil
  · exact restsOnGates_of_failures _ action hwell hnil

/-- The first of the default policies. -/
def cradlePolicy : ResponsePolicy where
  policyId := "contain-download-cradle"
  description := ("PowerShell download cradle with high rule confidence: " : Text) ++
    ("terminate the exact process instance after analyst approval." : Text)
  scope := { ruleIds := ["DET-PROC-012"], rulePrefixes := [], mitreTactics := [] }
  action := .killProcess
  mode := .approval
  minLevel := 12
  minConfidence := some (.finite (3602879701896397 / 4503599627370496))
  requiredEvidence := ["process.command_line"]
  detectionSources := ["rule", "stateful", "correlation"]
  hostAllowlist := []
  cooldownSeconds := 300

/-- An alert that it matches, with the given confidence. -/
def cradleAlert (confidence : Double) : PyVal :=
  .dict [("alert_id", .str "alert-1"), ("rule_id", .str "DET-PROC-012"), ("host_id", .str "host-1"),
    ("level", .int 12), ("confidence", .float confidence), ("detection_source", .str "rule"),
    ("evidence", .dict [("process.command_line", .str "powershell")])]

theorem wellFormed_cradleAlert (confidence : Double) : WellFormed (cradleAlert confidence) :=
  malformed_eq_none.mp (by rfl)

theorem unmarked_cradleAlert (confidence : Double) : Unmarked (cradleAlert confidence) :=
  unmarked_iff.mpr (by rfl)

theorem applies_cradlePolicy (confidence : Double) :
    Applies cradlePolicy (cradleAlert confidence) .killProcess :=
  ⟨by rfl, rfl⟩

/-- With a confidence of nine tenths, the approval that is asked for rests on every gate. -/
theorem evaluatePolicy_gates_iff_sample :
    (evaluatePolicy .sample (cradleAlert (.finite (9 / 10))) (some "KILL_PROCESS")
        [cradlePolicy] "enforce").mode = .approval ∧
      GatesHold cradlePolicy (cradleAlert (.finite (9 / 10))).entries := by
  have hdecide : GatesDecide cradlePolicy (cradleAlert (.finite (9 / 10))).entries := by
    intro _ ⟨bound, x, hbound, hx, hnan⟩
    obtain rfl : _ = bound := Option.some.inj hbound
    obtain rfl : _ = x := Option.some.inj hx
    simp at hnan
  have hmode : (evaluatePolicy .sample (cradleAlert (.finite (9 / 10))) (some "KILL_PROCESS")
      [cradlePolicy] "enforce").mode = .approval := by
    decide +kernel
  have hrests : RestsOnGates cradlePolicy (cradleAlert (.finite (9 / 10))).entries
      (evaluatePolicy .sample (cradleAlert (.finite (9 / 10))) (some "KILL_PROCESS")
        [cradlePolicy] "enforce") :=
    (evaluatePolicy_gates_iff [] [] "enforce" (wellFormed_cradleAlert _) (unmarked_cradleAlert _)
      (by simp) (applies_cradlePolicy _)).mpr hdecide
  exact ⟨hmode, hrests.1 (.inr (.inl hmode))⟩

/-- A confidence that is not a number passes the confidence gate: an approval is asked for
on the strength of it. -/
theorem evaluatePolicy_gates_nan :
    WellFormed (cradleAlert .nan) ∧ Unmarked (cradleAlert .nan) ∧
      Applies cradlePolicy (cradleAlert .nan) .killProcess ∧
      (evaluatePolicy .sample (cradleAlert .nan) (some "KILL_PROCESS") [cradlePolicy]
        "enforce").mode = .approval ∧
      ¬ GatesHold cradlePolicy (cradleAlert .nan).entries := by
  refine ⟨wellFormed_cradleAlert _, unmarked_cradleAlert _, applies_cradlePolicy _,
    by decide +kernel, ?_⟩
  intro hholds
  exact not_confidenceHolds_of_unordered ⟨_, .nan, rfl, rfl, .inl rfl⟩ hholds.confidence

end ResponseEngine.Automation
