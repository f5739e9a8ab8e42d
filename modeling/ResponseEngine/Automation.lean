/-
  Automation.lean --- the automated-response policy.

  `evaluatePolicy` decides one alert: validation, the closed action set, the
  response-loop guard, the first matching policy and its gates, the tier downgrade
  and the global mode, in the order of the source.  A decision is a pydantic model
  whose fields are given values of their declared types; a `str` field without
  constraints takes any text, lone surrogates included, so building it never raises.
-/
import ResponseEngine.Policy

set_option autoImplicit false

namespace ResponseEngine.Automation

open ResponseEngine.Foundation ResponseEngine.Python ResponseEngine.Contract ResponseEngine.Policy

/-! ## Modes -/

/-- `PolicyMode`. -/
inductive PolicyMode where
  | record
  | simulate
  | approval
  | auto
  deriving DecidableEq, Repr

/-- `DecisionMode`. -/
inductive DecisionMode where
  | record
  | simulate
  | approval
  | auto
  | denied
  deriving DecidableEq, Repr

/-- `GlobalMode`. -/
inductive GlobalMode where
  | simulate
  | enforce
  deriving DecidableEq, Repr

/-- A policy's mode as a decision's. -/
def PolicyMode.toDecision : PolicyMode → DecisionMode
  | record => .record
  | simulate => .simulate
  | approval => .approval
  | auto => .auto

/-- The global mode in force: anything but the two mode strings is the default,
`simulate`. -/
def effectiveMode (globalMode : Text) : GlobalMode :=
  if globalMode = "enforce" then .enforce else .simulate

/-- `DEFAULT_TIER_COOLDOWN_SECONDS`. -/
def defaultTierCooldownSeconds : Int := 300

/-- `RESPONSE_EXECUTOR_MARKER`. -/
def responseExecutorMarker : Text := "panopticon-response-executor"

/-! ## Policies -/

/-- `PolicyMatch`. -/
structure PolicyMatch where
  ruleIds : List Text
  rulePrefixes : List Text
  mitreTactics : List Text

/-- `PolicyMatch.matches`. -/
def PolicyMatch.matches (self : PolicyMatch) (alert : Dict) : Bool :=
  let ruleId := Dict.get alert "rule_id"
  let tactic := Dict.get alert "mitre_tactic"
  self.ruleIds.any (fun t => ruleId.pyEq (.str t)) ||
    (match ruleId with
      | .str t => self.rulePrefixes.any t.startsWith
      | _ => false) ||
    (match tactic with
      | .str t => self.mitreTactics.any (· = t)
      | _ => false)

/-- `ResponsePolicy`. -/
structure ResponsePolicy where
  policyId : Text
  description : Text
  scope : PolicyMatch
  action : Action
  mode : PolicyMode
  minLevel : Int
  minConfidence : Option Double
  requiredEvidence : List Text
  detectionSources : List Text
  hostAllowlist : List Text
  cooldownSeconds : Int

/-- `PolicyDecision`. -/
structure PolicyDecision where
  policyId : Text
  action : Option Text
  mode : DecisionMode
  globalMode : GlobalMode
  simulate : Bool
  autoExecute : Bool
  cooldownSeconds : Int
  reasons : List Text

/-! ## The alert -/

/-- A key that must hold a text which is not blank. -/
def missingKey (alert : Dict) (key : String) : Option Text :=
  match Dict.get alert key with
  | .str t => if t.isBlank then some (("alert has no " : Text) ++ (key : Text)) else none
  | _ => some (("alert has no " : Text) ++ (key : Text))

/-- `type(level) is int and 0 <= level <= 16`. -/
def isLevel : PyVal → Bool
  | .int n => decide (0 ≤ n) && decide (n ≤ 16)
  | _ => false

/-- `_malformed`. -/
def malformed (alert : PyVal) : Option Text :=
  match alert.asMapping? with
  | none => some "alert is not an object"
  | some items =>
      match (["alert_id", "rule_id", "host_id"] : List String).findSome? (missingKey items) with
      | some problem => some problem
      | none =>
          if !isLevel (Dict.get items "level") then some "alert level is not an integer in 0..16"
          else
            let evidence := Dict.getD items "evidence" (.dict [])
            if !evidence.isNone && evidence.asMapping?.isNone then
              some "alert evidence is not an object"
            else none

mutual

/-- `_strings`. -/
def strings : PyVal → List Text
  | .str t => [t]
  | .dict items => stringsOfItems items
  | .mapping items => stringsOfItems items
  | .list xs => stringsOfList xs
  | .tuple xs => stringsOfList xs
  | _ => []

/-- The strings of a sequence. -/
def stringsOfList : List PyVal → List Text
  | [] => []
  | x :: xs => strings x ++ stringsOfList xs

/-- The strings of the values of a mapping. -/
def stringsOfItems : List (Key × PyVal) → List Text
  | [] => []
  | (_, v) :: items => strings v ++ stringsOfItems items

end

/-! ## Gates -/

/-- The alert's level reaches the policy's.  A well-formed alert has an integer level. -/
def levelFailures (policy : ResponsePolicy) (alert : Dict) : List Text :=
  match Dict.get alert "level" with
  | .int level =>
      if level < policy.minLevel then
        [("level " : Text) ++ Text.ofInt level ++ (" below " : Text) ++ Text.ofInt policy.minLevel]
      else []
  | _ => []

/-- A confidence that is required is present and not below the bound. -/
def confidenceFailures (rt : Runtime) (policy : ResponsePolicy) (alert : Dict) : List Text :=
  match policy.minConfidence with
  | none => []
  | some bound =>
      let below (confidence : PyVal) (x : Double) : List Text :=
        if x.lt bound then
          [("confidence " : Text) ++ rt.format confidence ++ (" below " : Text) ++
            rt.format (.float bound)]
        else []
      match Dict.get alert "confidence" with
      | .int n => below (.int n) (.finite n)
      | .float x => below (.float x) x
      -- a bool is not a confidence
      | _ => ["alert carries no confidence"]

/-- `v in (None, "", [], {})`. -/
def isEmptyEvidence (v : PyVal) : Bool :=
  v.isNone || v.pyEq (.str []) || v.pyEq (.list []) || v.pyEq (.dict [])

/-- `alert.get("evidence") or {}`. -/
def evidenceOf (alert : Dict) : Dict :=
  let evidence := Dict.get alert "evidence"
  if evidence.truthy then evidence.entries else []

/-- Every required evidence key has a value. -/
def evidenceFailures (policy : ResponsePolicy) (alert : Dict) : List Text :=
  let missing (key : Text) : Bool := isEmptyEvidence (Dict.get (evidenceOf alert) key)
  (policy.requiredEvidence.filter missing).map fun key => ("evidence missing " : Text) ++ key

/-- The detection source is one of the policy's. -/
def sourceFailures (rt : Runtime) (policy : ResponsePolicy) (alert : Dict) : List Text :=
  let source := Dict.get alert "detection_source"
  if policy.detectionSources.any fun t => source.pyEq (.str t) then []
  else [("detection source " : Text) ++ rt.repr source ++ (" not eligible" : Text)]

/-- The host is in the policy's scope.  A well-formed alert has a host id that is a text. -/
def hostFailures (policy : ResponsePolicy) (alert : Dict) : List Text :=
  match Dict.get alert "host_id" with
  | .str host =>
      if policy.hostAllowlist.isEmpty || policy.hostAllowlist.any (· = host) then []
      else [("host " : Text) ++ host ++ (" not in policy scope" : Text)]
  | _ => []

/-- `_gate_failures`. -/
def gateFailures (rt : Runtime) (policy : ResponsePolicy) (alert : Dict) : List Text :=
  levelFailures policy alert ++ confidenceFailures rt policy alert ++
    evidenceFailures policy alert ++ sourceFailures rt policy alert ++ hostFailures policy alert

/-! ## The decision -/

/-- `decide`. -/
def decision (globalMode : GlobalMode) (policyId : Text) (action : Option Text)
    (mode : DecisionMode) (reasons : List Text) (cooldown : Int) : PolicyDecision where
  policyId := policyId
  action := action
  mode := mode
  globalMode := globalMode
  simulate := decide (mode = .simulate) || decide (mode = .approval)
  autoExecute := decide (mode = .auto)
  cooldownSeconds := cooldown
  reasons := reasons

/-- `approval` under the global mode `simulate` is only previewed. -/
def rewriteMode (globalMode : GlobalMode) (mode : DecisionMode) (reasons : List Text) :
    DecisionMode × List Text :=
  if mode = .approval ∧ globalMode = .simulate then
    (.simulate, reasons ++ [("global mode simulate: containment previewed, not staged" : Text)])
  else (mode, reasons)

/-- `auto` is kept for safe actions only. -/
def downgradeMode (action : Text) (mode : DecisionMode) (reasons : List Text) :
    DecisionMode × List Text :=
  if mode = .auto ∧ classifyTier action ≠ .autoSafe then
    (.approval, reasons ++ [("auto downgraded to approval: " : Text) ++ action ++ (" is " : Text) ++
      ((classifyTier action).value : Text)])
  else (mode, reasons)

/-- The decision when no policy applies. -/
def defaultDecision (globalMode : GlobalMode) (action : Text) : PolicyDecision :=
  let tier := classifyTier action
  let mode : DecisionMode := if tier = .autoSafe then .auto else .approval
  let rewritten :=
    rewriteMode globalMode mode [("no policy matched; tier " : Text) ++ (tier.value : Text)]
  decision globalMode "default-tier" (some action) rewritten.1 rewritten.2
    defaultTierCooldownSeconds

/-- The decision of a policy that applies. -/
def matchedDecision (rt : Runtime) (globalMode : GlobalMode) (policy : ResponsePolicy)
    (alert : Dict) (action : Text) : PolicyDecision :=
  let reasons : List Text := [("matched " : Text) ++ policy.policyId]
  let failures := gateFailures rt policy alert
  if failures.isEmpty then
    let downgraded := downgradeMode action policy.mode.toDecision reasons
    let rewritten := rewriteMode globalMode downgraded.1 downgraded.2
    decision globalMode policy.policyId (some action) rewritten.1 rewritten.2
      policy.cooldownSeconds
  else
    decision globalMode policy.policyId (some action) .record
      (reasons ++ failures.map fun failure => ("gate failed: " : Text) ++ failure)
      policy.cooldownSeconds

/-- `evaluate_policy`. -/
def evaluatePolicy (rt : Runtime) (alert : PyVal) (commandAction : Option Text)
    (policies : List ResponsePolicy) (globalMode : Text) : PolicyDecision :=
  let mode := effectiveMode globalMode
  match malformed alert with
  | some problem =>
      decision mode "validation" commandAction .denied [("malformed alert: " : Text) ++ problem] 0
  | none =>
      match commandAction with
      | none => decision mode "default-tier" none .record ["no translatable recommendation"] 0
      | some action =>
          if !actions.any (fun a => decide (Text.ofString a.value = action)) then
            decision mode "validation" (some action) .denied
              [action ++ (" is outside the closed set" : Text)] 0
          else if (strings (Dict.get alert.entries "evidence")).any
              (·.contains responseExecutorMarker) then
            decision mode "loop-guard" (some action) .denied
              ["alert describes the response executor's own activity"] 0
          else
            match policies.find? fun p =>
                p.scope.matches alert.entries && decide (Text.ofString p.action.value = action) with
            | none => defaultDecision mode action
            | some policy => matchedDecision rt mode policy alert.entries action

end ResponseEngine.Automation
