/-
  Automation/PolicyDefinition.lean --- the policies that validation accepts.

  A policy is any value whose fields have their declared types; here are the checks
  that pydantic and the models' own validators add.  Two of them say less than they
  are meant to.  `PolicyMatch._non_empty` counts criteria and does not look at them,
  so a prefix that starts every rule id passes (`exists_escaping_iff`).
  `ResponsePolicy._valid_id` uses `re.match` with `$`, which lets a newline at the end
  through (`validate_policyId_iff`).
-/
import ResponseEngine.Automation.Gates
import ResponseEngine.Foundation.Pattern
import ResponseEngine.Foundation.Prefixes
import ResponseEngine.Python.Codec

set_option autoImplicit false

namespace ResponseEngine.Automation

open ResponseEngine.Foundation ResponseEngine.Python ResponseEngine.Python.Pydantic
open ResponseEngine.Contract

/-! ## The scope of a policy -/

/-- `PolicyMatch._non_empty`. -/
def PolicyMatch.nonEmpty (self : PolicyMatch) : Except PyError Unit :=
  raiseIf (self.ruleIds.isEmpty && self.rulePrefixes.isEmpty && self.mitreTactics.isEmpty)
    (.valueError "a policy match needs at least one criterion")

/-- The scopes that validation accepts. -/
abbrev AcceptedMatch := {scope : PolicyMatch // scope.nonEmpty = .ok ()}

/-- A scope takes a rule id by name, or by how it starts. -/
def PolicyMatch.TakesRule (self : PolicyMatch) (ruleId : Text) : Prop :=
  ruleId ∈ self.ruleIds ∨ ∃ p ∈ self.rulePrefixes, p <+: ruleId

instance (scope : PolicyMatch) (ruleId : Text) : Decidable (scope.TakesRule ruleId) :=
  inferInstanceAs (Decidable (_ ∨ _))

theorem PolicyMatch.matches_of_takesRule {scope : PolicyMatch} {alert : Dict} {ruleId : Text}
    (hrule : Dict.get alert "rule_id" = .str ruleId) (h : scope.TakesRule ruleId) :
    scope.matches alert = true := by
  simp only [PolicyMatch.matches, hrule, Bool.or_eq_true]
  left
  cases h with
  | inl hmem =>
      left
      exact List.any_eq_true.mpr ⟨ruleId, hmem, PyVal.pyEq_str_self ruleId⟩
  | inr hprefix =>
      right
      obtain ⟨p, hp, hprefix⟩ := hprefix
      exact List.any_eq_true.mpr ⟨p, hp, List.isPrefixOf_iff_prefix.mpr hprefix⟩

/-- Without a tactic an alert is in scope by its rule only. -/
theorem PolicyMatch.matches_eq_false {scope : PolicyMatch} {alert : Dict} {ruleId : Text}
    (hrule : Dict.get alert "rule_id" = .str ruleId)
    (htactic : Dict.get alert "mitre_tactic" = .none) (h : ¬ scope.TakesRule ruleId) :
    scope.matches alert = false := by
  simp only [PolicyMatch.matches, hrule, htactic, Bool.or_false, Bool.or_eq_false_iff,
    List.any_eq_false]
  constructor
  · intro t ht heq
    exact h (.inl (PyVal.str.inj (PyVal.pyEq_str.mp heq) ▸ ht))
  · intro p hp hprefix
    exact h (.inr ⟨p, hp, List.isPrefixOf_iff_prefix.mp hprefix⟩)

/-! ## Alerts out of scope -/

/-- A well-formed alert of a rule, with nothing but the required keys. -/
def alertOf (ruleId : Text) : PyVal :=
  .dict [("alert_id", .str "alert-1"), ("rule_id", .str ruleId), ("host_id", .str "host-1"),
    ("level", .int 0)]

theorem malformed_alertOf {ruleId : Text} (h : ruleId.isBlank = false) :
    malformed (alertOf ruleId) = none := by
  apply malformed_eq_none.mpr
  refine ⟨⟨_, rfl⟩, ?_, ⟨0, rfl, le_refl 0, by decide⟩, .inr ⟨[], rfl⟩⟩
  intro key hkey
  simp only [List.mem_cons, List.not_mem_nil, or_false] at hkey
  rcases hkey with rfl | rfl | rfl
  · exact ⟨"alert-1", rfl, by decide +kernel⟩
  · exact ⟨ruleId, rfl, h⟩
  · exact ⟨"host-1", rfl, by decide +kernel⟩

/-- A well-formed alert escapes a scope exactly when some rule id is not taken. -/
theorem PolicyMatch.exists_escaping {scope : PolicyMatch} :
    (∃ alert, malformed alert = none ∧ scope.matches alert.entries = false) ↔
      ∃ ruleId : Text, ruleId.isBlank = false ∧ ¬ scope.TakesRule ruleId := by
  constructor
  · intro ⟨alert, hwell, hescapes⟩
    obtain ⟨ruleId, hrule, hblank⟩ := (malformed_eq_none.mp hwell).named "rule_id" (by simp)
    refine ⟨ruleId, hblank, fun htakes => ?_⟩
    rw [PolicyMatch.matches_of_takesRule hrule htakes] at hescapes
    cases hescapes
  · intro ⟨ruleId, hblank, hnot⟩
    exact ⟨alertOf ruleId, malformed_alertOf hblank, PolicyMatch.matches_eq_false rfl rfl hnot⟩

/-- The criteria leave room for a rule id: some text is apart from all the prefixes, or a
prefix begins with a text that is a rule id not taken itself. -/
def PolicyMatch.LeavesRoom (self : PolicyMatch) : Prop :=
  (∃ u, Clear self.rulePrefixes u) ∨
    ∃ p ∈ self.rulePrefixes, ∃ t : Text, t <+: p ∧ t.isBlank = false ∧ ¬ self.TakesRule t

/-- A text apart from all the prefixes goes on to a rule id that is not listed. -/
theorem PolicyMatch.exists_free_of_clear {scope : PolicyMatch} {u : Text}
    (h : Clear scope.rulePrefixes u) :
    ∃ ruleId : Text, ruleId.isBlank = false ∧ ¬ scope.TakesRule ruleId := by
  obtain ⟨v, hv⟩ := exists_append_notMem scope.ruleIds u (.scalar 'a')
  refine ⟨u ++ .scalar 'a' :: v, ?_, ?_⟩
  · rw [Text.isBlank, List.all_append, List.all_cons]
    simp [CodePoint.isSpace, CodePoint.ord]
  · intro htakes
    cases htakes with
    | inl hlisted => exact hv hlisted
    | inr hprefix =>
        obtain ⟨p, hp, hprefix⟩ := hprefix
        exact h.not_prefix_append _ p hp hprefix

theorem PolicyMatch.exists_free_iff {scope : PolicyMatch} :
    (∃ ruleId : Text, ruleId.isBlank = false ∧ ¬ scope.TakesRule ruleId) ↔ scope.LeavesRoom := by
  constructor
  · intro ⟨ruleId, hblank, hnot⟩
    by_cases hbegins : ∃ p ∈ scope.rulePrefixes, ruleId <+: p
    · obtain ⟨p, hp, hprefix⟩ := hbegins
      exact .inr ⟨p, hp, ruleId, hprefix, hblank, hnot⟩
    · refine .inl ⟨ruleId, fun p hp => ⟨?_, ?_⟩⟩
      · intro hprefix
        exact hnot (.inr ⟨p, hp, hprefix⟩)
      · intro hprefix
        exact hbegins ⟨p, hp, hprefix⟩
  · intro hroom
    cases hroom with
    | inl hclear =>
        obtain ⟨u, hu⟩ := hclear
        exact exists_free_of_clear hu
    | inr hbegins =>
        obtain ⟨p, _, t, _, hblank, hnot⟩ := hbegins
        exact ⟨t, hblank, hnot⟩

/-- Fewer prefixes than there are code points leave room unless one of them is empty. -/
theorem PolicyMatch.leavesRoom_iff {scope : PolicyMatch}
    (hlt : scope.rulePrefixes.length < 0x110000) :
    scope.LeavesRoom ↔ [] ∉ scope.rulePrefixes := by
  constructor
  · intro hroom hnil
    obtain ⟨ruleId, _, hnot⟩ := exists_free_iff.mpr hroom
    exact hnot (.inr ⟨[], hnil, List.nil_prefix⟩)
  · intro hnil
    exact .inl (exists_clear CodePoint.ofOrd_injective hnil hlt)

/-- **When a scope is no catch-all.**  Some well-formed alert escapes an accepted scope
exactly when its criteria leave room for a rule id; with fewer prefixes than there are
code points, that is when no prefix is empty. -/
theorem exists_escaping_iff (scope : AcceptedMatch) :
    ((∃ alert, malformed alert = none ∧ scope.val.matches alert.entries = false) ↔
      scope.val.LeavesRoom) ∧
    (scope.val.rulePrefixes.length < 0x110000 →
      (scope.val.LeavesRoom ↔ [] ∉ scope.val.rulePrefixes)) :=
  ⟨PolicyMatch.exists_escaping.trans PolicyMatch.exists_free_iff, PolicyMatch.leavesRoom_iff⟩

/-- The scope whose one criterion is the empty prefix. -/
def catchAllMatch : AcceptedMatch :=
  ⟨{ ruleIds := [], rulePrefixes := [[]], mitreTactics := [] }, rfl⟩

/-- It is accepted, and takes every well-formed alert. -/
theorem catchAllMatch_matches :
    ¬ ∃ alert, malformed alert = none ∧ catchAllMatch.val.matches alert.entries = false := by
  intro hescapes
  obtain ⟨ruleId, _, hnot⟩ := PolicyMatch.exists_escaping.mp hescapes
  exact hnot (.inr ⟨[], List.mem_singleton_self [], List.nil_prefix⟩)

/-! ## Policy ids -/

/-- `[a-z0-9]`. -/
def isLowerAlnum : CodePoint → Bool
  | .scalar c => c.isLower || c.isDigit
  | .surrogate _ => false

/-- `[a-z0-9-]`. -/
def isLowerAlnumDash (c : CodePoint) : Bool := isLowerAlnum c || decide (c = .scalar '-')

/-- `[a-z0-9][a-z0-9-]{1,63}`. -/
def policyIdBody : Pattern := .seq (.one isLowerAlnum) (.rep isLowerAlnumDash 1 63)

/-- `_POLICY_ID`. -/
def policyIdPattern : Pattern := policyIdBody.anchored

/-- `ResponsePolicy._valid_id`. -/
def ResponsePolicy.validId (self : ResponsePolicy) : Except PyError Unit :=
  raiseIf (!policyIdPattern.reMatch self.policyId)
    (.valueError "policy_id must be lowercase kebab-case")

/-- An `int` field with bounds. -/
def checkBounds (name : String) (lower upper n : Int) : Except PyError Unit :=
  raiseIf (!(decide (lower ≤ n) && decide (n ≤ upper)))
    (.validationError name "Input should be valid")

/-- The declared constraints on the fields of a policy.  A `str` without constraints takes
any text. -/
def ResponsePolicy.checkFields (self : ResponsePolicy) : Except PyError Unit := do
  raiseIf (!boundedText 0 300 self.description)
    (.validationError "description" "Input should be valid")
  locate "match" (validator self.scope.nonEmpty)
  checkBounds "min_level" 0 16 self.minLevel
  raiseIf (!self.minConfidence.all fun x => (Double.finite 0).le x && x.le (.finite 1))
    (.validationError "min_confidence" "Input should be valid")
  checkBounds "cooldown_seconds" 0 86400 self.cooldownSeconds

/-- `ResponsePolicy`, as pydantic validates it: the fields, then the model's validator. -/
def ResponsePolicy.validate (self : ResponsePolicy) : Except PyError Unit := do
  self.checkFields
  validator self.validId

/-- The texts that a policy id is meant to be: 2 to 64 characters, a lowercase letter or a
digit first, and then these or dashes. -/
structure IsPolicyId (t : Text) : Prop where
  length : 2 ≤ t.length ∧ t.length ≤ 64
  head : ∀ c, t.head? = some c → isLowerAlnum c = true
  tail : ∀ c ∈ t.tail, isLowerAlnumDash c = true

theorem reFullmatch_policyIdBody {t : Text} :
    policyIdBody.reFullmatch t = true ↔ IsPolicyId t := by
  rw [Pattern.reFullmatch, policyIdBody, Pattern.matchesAt_seq]
  simp only [Pattern.matchesAt, Bool.and_eq_true, decide_eq_true_eq, List.all_eq_true]
  constructor
  · intro h
    obtain ⟨first, rest, ht, ⟨hlength, hfirst⟩, ⟨hlower, hupper⟩, hrest⟩ := h
    obtain ⟨c, rfl⟩ := List.length_eq_one_iff.mp hlength
    subst ht
    refine ⟨?_, ?_, hrest⟩
    · rw [List.length_append, List.length_singleton]
      omega
    · intro d hd
      obtain rfl := Option.some.inj hd
      exact hfirst c (List.mem_singleton_self c)
  · intro h
    cases t with
    | nil => exact absurd h.length.1 (by decide)
    | cons c rest =>
        have hlength := h.length
        rw [List.length_cons] at hlength
        refine ⟨[c], rest, rfl, ⟨rfl, ?_⟩, ⟨by omega, by omega⟩, h.tail⟩
        intro d hd
        rw [List.mem_singleton.mp hd]
        exact h.head c rfl

theorem anchorFree_policyIdBody : policyIdBody.AnchorFree := ⟨trivial, trivial⟩

/-- A newline belongs to no policy id. -/
theorem not_isPolicyId_newline (t : Text) : ¬ IsPolicyId (t ++ [Pattern.newline]) := by
  intro h
  cases t with
  | nil => exact absurd h.length.1 (by decide)
  | cons c rest =>
      have htail := h.tail Pattern.newline (List.mem_append_right rest (List.mem_singleton_self _))
      exact absurd htail (by decide)

/-- What `_valid_id` lets through. -/
theorem validId_eq_ok {policy : ResponsePolicy} :
    policy.validId = .ok () ↔
      IsPolicyId policy.policyId ∨
        ∃ body, policy.policyId = body ++ [Pattern.newline] ∧ IsPolicyId body := by
  rw [ResponsePolicy.validId, raiseIf_eq_ok, Bool.not_eq_false', policyIdPattern,
    Pattern.reMatch_anchored_iff anchorFree_policyIdBody]
  simp only [reFullmatch_policyIdBody]

/-- Where the other fields pass, the validator of the id decides. -/
theorem validate_eq_ok {policy : ResponsePolicy} (h : policy.checkFields = .ok ()) (s : Text) :
    ({ policy with policyId := s } : ResponsePolicy).validate = .ok () ↔
      IsPolicyId s ∨ ∃ body, s = body ++ [Pattern.newline] ∧ IsPolicyId body := by
  have hfields : ({ policy with policyId := s } : ResponsePolicy).checkFields = .ok () := h
  rw [ResponsePolicy.validate, hfields, ok_bind, validator_eq_ok, validId_eq_ok]

/-- **Which policy ids are accepted.**  With the other fields valid, a text is accepted
exactly when it is a policy id, unless it is one followed by a newline. -/
theorem validate_policyId_iff {policy : ResponsePolicy} (h : policy.checkFields = .ok ())
    (s : Text) :
    (({ policy with policyId := s } : ResponsePolicy).validate = .ok () ↔ IsPolicyId s) ↔
      ¬ ∃ body, IsPolicyId body ∧ s = body ++ [Pattern.newline] := by
  rw [validate_eq_ok h]
  constructor
  · intro hiff ⟨body, hbody, hs⟩
    have hid := hiff.mp (.inr ⟨body, hs, hbody⟩)
    rw [hs] at hid
    exact not_isPolicyId_newline body hid
  · intro hnot
    constructor
    · intro haccepted
      cases haccepted with
      | inl hid => exact hid
      | inr hbody =>
          obtain ⟨body, hs, hbody⟩ := hbody
          exact absurd ⟨body, hbody, hs⟩ hnot
    · exact .inl

theorem checkFields_cradlePolicy : cradlePolicy.checkFields = .ok () := by
  decide +kernel

/-- Two letters are a policy id, and accepted as one. -/
theorem validate_policyId_iff_sample :
    ({ cradlePolicy with policyId := "ab" } : ResponsePolicy).validate = .ok () ↔
      IsPolicyId "ab" := by
  apply (validate_policyId_iff checkFields_cradlePolicy "ab").mpr
  intro ⟨body, _, hs⟩
  have hlast := congrArg List.getLast? hs
  rw [List.getLast?_concat] at hlast
  exact absurd hlast (by decide)

/-- The same letters and a newline are accepted too. -/
theorem validate_policyId_newline :
    ¬ (({ cradlePolicy with policyId := "ab\n" } : ResponsePolicy).validate = .ok () ↔
      IsPolicyId "ab\n") := by
  intro hiff
  exact not_isPolicyId_newline "ab" (hiff.mp (by decide +kernel))

end ResponseEngine.Automation
