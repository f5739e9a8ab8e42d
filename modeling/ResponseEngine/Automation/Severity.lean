/-
  Automation/Severity.lean --- what of an alert has a say, and in which direction.

  Eight keys of an alert are read and nothing else of it (`evaluatePolicy_reads`).  Of
  these the level and the confidence only open gates: an alert that fails none is decided
  in the same way however much more severe it gets (`evaluatePolicy_raises`).
-/
import ResponseEngine.Automation.Audit

set_option autoImplicit false

namespace ResponseEngine.Automation

open ResponseEngine.Foundation ResponseEngine.Python ResponseEngine.Contract
open ResponseEngine.Policy

variable {rt : Runtime} {alert other : PyVal} {policies : List ResponsePolicy}

/-! ## The keys that are read -/

/-- The keys whose values only need to be the same. -/
def plainKeys : List String :=
  ["alert_id", "rule_id", "host_id", "evidence", "detection_source", "mitre_tactic"]

/-- Two objects hold the same under a key. -/
def SameAt (alert other : PyVal) (key : String) : Prop :=
  Dict.find? alert.entries key = Dict.find? other.entries key

theorem SameAt.get {key : String} (h : SameAt alert other key) :
    Dict.get other.entries key = Dict.get alert.entries key := by
  rw [Dict.get, Dict.get, h]

theorem SameAt.getD {key : String} (h : SameAt alert other key) (default : PyVal) :
    Dict.getD other.entries key default = Dict.getD alert.entries key default := by
  rw [Dict.getD, Dict.getD, h]

/-- Two objects that agree on the keys of `plainKeys`. -/
structure Agree (alert other : PyVal) : Prop where
  alert_isMapping : ∃ items, alert.asMapping? = some items
  other_isMapping : ∃ items, other.asMapping? = some items
  same : ∀ key ∈ plainKeys, SameAt alert other key

theorem Agree.get (h : Agree alert other) {key : String} (hkey : key ∈ plainKeys) :
    Dict.get other.entries key = Dict.get alert.entries key :=
  (h.same key hkey).get

theorem Agree.malformed (h : Agree alert other)
    (hlevel : isLevel (Dict.get other.entries "level") = isLevel (Dict.get alert.entries "level")) :
    malformed other = malformed alert := by
  obtain ⟨items, hitems⟩ := h.alert_isMapping
  obtain ⟨others, hothers⟩ := h.other_isMapping
  have hmissing : ∀ key ∈ plainKeys, missingKey others key = missingKey items key := by
    intro key hkey
    have hget := h.get hkey
    rw [entries_of_asMapping? hitems, entries_of_asMapping? hothers] at hget
    rw [missingKey, missingKey, hget]
  have hevidence := (h.same "evidence" (by decide)).getD (.dict [])
  rw [entries_of_asMapping? hitems, entries_of_asMapping? hothers] at hevidence hlevel
  simp only [Automation.malformed, hitems, hothers, List.findSome?_cons, List.findSome?_nil,
    hmissing "alert_id" (by decide), hmissing "rule_id" (by decide),
    hmissing "host_id" (by decide), hlevel, hevidence]

theorem Agree.matches (h : Agree alert other) (scope : PolicyMatch) :
    scope.matches other.entries = scope.matches alert.entries := by
  have hrule := (h.same "rule_id" (by decide)).get
  have htactic := (h.same "mitre_tactic" (by decide)).get
  rw [PolicyMatch.matches, PolicyMatch.matches, hrule, htactic]

theorem Agree.firstPolicy (h : Agree alert other) (action : Action) :
    firstPolicy policies other action = firstPolicy policies alert action := by
  simp only [Automation.firstPolicy, h.matches]

theorem Agree.marker (h : Agree alert other) :
    strings (Dict.get other.entries "evidence") = strings (Dict.get alert.entries "evidence") := by
  rw [h.get (by decide)]

/-! ## Decisions that are the same -/

/-- A policy looks at the alert through its gates only. -/
theorem matchedDecision_congr {globalMode : GlobalMode} {policy : ResponsePolicy}
    {items others : Dict} {action : Text}
    (h : gateFailures rt policy others = gateFailures rt policy items) :
    matchedDecision rt globalMode policy others action =
      matchedDecision rt globalMode policy items action := by
  unfold matchedDecision
  rw [h]

/-- Alerts that agree, with the same gate failures where a policy is asked, are decided in the
same way. -/
theorem Agree.evaluatePolicy (h : Agree alert other)
    (hlevel : isLevel (Dict.get other.entries "level") = isLevel (Dict.get alert.entries "level"))
    {commandAction : Option Text}
    (hgates : ∀ action, Answerable alert commandAction action → ∀ p,
      Automation.firstPolicy policies alert action = some p →
        gateFailures rt p other.entries = gateFailures rt p alert.entries) (globalMode : Text) :
    evaluatePolicy rt other commandAction policies globalMode =
      evaluatePolicy rt alert commandAction policies globalMode := by
  unfold Automation.evaluatePolicy
  rw [h.malformed hlevel]
  cases hmalformed : Automation.malformed alert with
  | some problem => rfl
  | none =>
      cases commandAction with
      | none => rfl
      | some action =>
          simp only [h.marker, h.matches]
          split_ifs with hunknown hmarked
          · rfl
          · rfl
          · rw [Bool.not_eq_true', Bool.not_eq_false, List.any_eq_true] at hunknown
            obtain ⟨a, _, ha⟩ := hunknown
            obtain rfl := of_decide_eq_true ha
            have hanswerable : Answerable alert (some (a.value : Text)) a :=
              ⟨malformed_eq_none.mp hmalformed,
                unmarked_iff.mpr (Bool.not_eq_true _ ▸ hmarked), rfl⟩
            have hfirst := hgates a hanswerable
            unfold Automation.firstPolicy at hfirst
            cases hfind : policies.find? fun p => p.scope.matches alert.entries &&
                decide (Text.ofString p.action.value = Text.ofString a.value) with
            | none => rfl
            | some p => exact matchedDecision_congr (hfirst p hfind)

/-! ## The gates -/

theorem levelFailures_congr {policy : ResponsePolicy} (h : SameAt alert other "level") :
    levelFailures policy other.entries = levelFailures policy alert.entries := by
  rw [levelFailures, levelFailures, h.get]

theorem confidenceFailures_congr {policy : ResponsePolicy} (h : SameAt alert other "confidence") :
    confidenceFailures rt policy other.entries = confidenceFailures rt policy alert.entries := by
  rw [confidenceFailures, confidenceFailures, h.get]

theorem Agree.evidenceFailures (h : Agree alert other) (policy : ResponsePolicy) :
    evidenceFailures policy other.entries = evidenceFailures policy alert.entries := by
  have hget := (h.same "evidence" (by decide)).get
  rw [Automation.evidenceFailures, Automation.evidenceFailures, evidenceOf, evidenceOf, hget]

theorem Agree.sourceFailures (h : Agree alert other) (policy : ResponsePolicy) :
    sourceFailures rt policy other.entries = sourceFailures rt policy alert.entries := by
  have hget := (h.same "detection_source" (by decide)).get
  rw [Automation.sourceFailures, Automation.sourceFailures, hget]

theorem Agree.hostFailures (h : Agree alert other) (policy : ResponsePolicy) :
    hostFailures policy other.entries = hostFailures policy alert.entries := by
  have hget := (h.same "host_id" (by decide)).get
  rw [Automation.hostFailures, Automation.hostFailures, hget]

/-- The gates fail alike where those of the level and of the confidence do. -/
theorem Agree.gateFailures (h : Agree alert other) {policy : ResponsePolicy}
    (hlevel : levelFailures policy other.entries = levelFailures policy alert.entries)
    (hconfidence : confidenceFailures rt policy other.entries =
      confidenceFailures rt policy alert.entries) :
    gateFailures rt policy other.entries = gateFailures rt policy alert.entries := by
  rw [Automation.gateFailures, Automation.gateFailures, hlevel, hconfidence, h.evidenceFailures,
    h.sourceFailures, h.hostFailures]

/-! ## The keys that have a say -/

/-- The keys of an alert that are read. -/
def readKeys : List String := "level" :: "confidence" :: plainKeys

/-- **Nothing else of an alert has a say.**  Two objects that hold the same under the keys that
are read are decided in the same way, in whatever order and beside whatever else they hold
them. -/
theorem evaluatePolicy_reads {items others : Dict} (halert : alert.asMapping? = some items)
    (hother : other.asMapping? = some others)
    (hsame : ∀ key ∈ readKeys, Dict.find? items key = Dict.find? others key) (rt : Runtime)
    (commandAction : Option Text) (policies : List ResponsePolicy) (globalMode : Text) :
    evaluatePolicy rt other commandAction policies globalMode =
      evaluatePolicy rt alert commandAction policies globalMode := by
  have hkeys : ∀ key ∈ readKeys, SameAt alert other key := by
    intro key hkey
    rw [SameAt, entries_of_asMapping? halert, entries_of_asMapping? hother]
    exact hsame key hkey
  have hlevel := hkeys "level" (by decide)
  have hconfidence := hkeys "confidence" (by decide)
  have hagree : Agree alert other :=
    ⟨⟨items, halert⟩, ⟨others, hother⟩, fun key hkey => hkeys key (by simp [readKeys, hkey])⟩
  apply hagree.evaluatePolicy (by rw [hlevel.get])
  intro _ _ p _
  exact hagree.gateFailures (levelFailures_congr hlevel) (confidenceFailures_congr hconfidence)

/-- An alert in another order and with a field of its own. -/
def relayedAlert : PyVal :=
  .mapping [("level", .int 12), ("vendor", .str "relay"), ("evidence",
      .dict [("process.command_line", .str "powershell")]), ("detection_source", .str "rule"),
    ("confidence", .float (.finite 1)), ("rule_id", .str "DET-PROC-012"),
    ("host_id", .str "host-1"), ("alert_id", .str "alert-1")]

theorem evaluatePolicy_reads_sample :
    evaluatePolicy .sample relayedAlert (some "KILL_PROCESS") [cradlePolicy] "enforce" =
      evaluatePolicy .sample (cradleAlert (.finite 1)) (some "KILL_PROCESS") [cradlePolicy]
        "enforce" := by
  apply evaluatePolicy_reads rfl rfl
  intro key hkey
  simp only [readKeys, plainKeys, List.mem_cons, List.not_mem_nil, or_false] at hkey
  rcases hkey with rfl | rfl | rfl | rfl | rfl | rfl | rfl | rfl <;> rfl

/-! ## More severe alerts -/

/-- An object that agrees with another on the plain keys, has no lower a level, and no lower a
confidence where the other has one.  Both levels are valid ones, from 0 to 16. -/
structure Raises (alert other : PyVal) : Prop extends Agree alert other where
  level : ∃ n m : Int, Dict.get alert.entries "level" = .int n ∧
    Dict.get other.entries "level" = .int m ∧ 0 ≤ n ∧ n ≤ m ∧ m ≤ 16
  confidence : ∀ x, confidence? (Dict.get alert.entries "confidence") = some x →
    ∃ y, confidence? (Dict.get other.entries "confidence") = some y ∧ x.le y = true

theorem Raises.levelFailures (h : Raises alert other) {policy : ResponsePolicy}
    (hpass : levelFailures policy alert.entries = []) :
    levelFailures policy other.entries = [] := by
  obtain ⟨n, m, hn, hm, hnonneg, hle, hmax⟩ := h.level
  rw [levelFailures_eq_nil ⟨n, hn, hnonneg, hle.trans hmax⟩] at hpass
  rw [levelFailures_eq_nil ⟨m, hm, hnonneg.trans hle, hmax⟩]
  obtain ⟨k, hk, hmin⟩ := hpass
  rw [hn, PyVal.int.injEq] at hk
  exact ⟨m, hm, hmin.trans (hk ▸ hle)⟩

theorem Raises.confidenceFailures (h : Raises alert other) {policy : ResponsePolicy}
    (hpass : confidenceFailures rt policy alert.entries = []) :
    confidenceFailures rt policy other.entries = [] := by
  rw [confidenceFailures_eq_nil] at hpass ⊢
  cases hpass with
  | inl hholds =>
      left
      intro bound hbound
      obtain ⟨x, hx, hle⟩ := hholds bound hbound
      obtain ⟨y, hy, hxy⟩ := h.confidence x hx
      exact ⟨y, hy, Double.le_trans hle hxy⟩
  | inr hunordered =>
      right
      obtain ⟨bound, x, hbound, hx, hnan⟩ := hunordered
      obtain ⟨y, hy, hxy⟩ := h.confidence x hx
      refine ⟨bound, y, hbound, hy, .inr ?_⟩
      cases hnan with
      | inl hnan =>
          rw [hnan, Double.nan_le] at hxy
          exact absurd hxy (by decide)
      | inr hbound => exact hbound

theorem Raises.isLevel (h : Raises alert other) :
    isLevel (Dict.get other.entries "level") = isLevel (Dict.get alert.entries "level") := by
  obtain ⟨n, m, hn, hm, hnonneg, hle, hmax⟩ := h.level
  have hfirst : Automation.isLevel (Dict.get alert.entries "level") = true :=
    isLevel_iff.mpr ⟨n, hn, hnonneg, hle.trans hmax⟩
  have hsecond : Automation.isLevel (Dict.get other.entries "level") = true :=
    isLevel_iff.mpr ⟨m, hm, hnonneg.trans hle, hmax⟩
  rw [hfirst, hsecond]

/-- **Severity only opens gates.**  An alert that fails no gate is decided in the same way when
its level, within the valid range, or its confidence rises. -/
theorem evaluatePolicy_raises (h : Raises alert other) {commandAction : Option Text}
    (hpass : ¬ FailsGates rt alert commandAction policies) (globalMode : Text) :
    evaluatePolicy rt other commandAction policies globalMode =
      evaluatePolicy rt alert commandAction policies globalMode := by
  apply h.evaluatePolicy h.isLevel
  intro action hanswerable p hfirst
  have hgates : gateFailures rt p alert.entries = [] := by
    by_contra hfails
    exact hpass ⟨action, hanswerable, p, hfirst, hfails⟩
  have hall := hgates
  simp only [Automation.gateFailures, List.append_eq_nil_iff] at hall
  obtain ⟨⟨⟨⟨hlevel, hconfidence⟩, _⟩, _⟩, _⟩ := hall
  apply h.gateFailures
  · rw [hlevel, h.levelFailures hlevel]
  · rw [hconfidence, h.confidenceFailures hconfidence]

/-- A confidence that rises from 9/10 to 1. -/
theorem evaluatePolicy_raises_sample :
    evaluatePolicy .sample (cradleAlert (.finite 1)) (some "KILL_PROCESS") [cradlePolicy]
        "enforce" =
      evaluatePolicy .sample (cradleAlert (.finite (9 / 10))) (some "KILL_PROCESS") [cradlePolicy]
        "enforce" := by
  apply evaluatePolicy_raises
  · refine ⟨⟨⟨_, rfl⟩, ⟨_, rfl⟩, ?_⟩, ⟨12, 12, rfl, rfl, by decide, by decide, by decide⟩, ?_⟩
    · intro key hkey
      simp only [plainKeys, List.mem_cons, List.not_mem_nil, or_false] at hkey
      rcases hkey with rfl | rfl | rfl | rfl | rfl | rfl <;> rfl
    · intro x hx
      obtain rfl := Option.some.inj hx
      exact ⟨.finite 1, rfl, by decide +kernel⟩
  · intro h
    obtain ⟨action, _, p, hfirst, hfails⟩ := h
    obtain rfl := List.mem_singleton.mp (applies_of_firstPolicy hfirst).1
    exact hfails (by unfold PassesGates; decide +kernel)

end ResponseEngine.Automation
