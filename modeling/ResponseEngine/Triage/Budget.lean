/-
  Triage/Budget.lean --- the collection budget over runs of the caller.

  The caller keeps the ledger of its reservations and passes `evaluate` the usage
  that the ledger shows.  `accounting` is that caller: it charges a call whose
  decision is not `skip`, it marks an action as finished, and it lets actions leave
  an endpoint's window, in any order and for any alerts and endpoints.  No run
  exceeds a limit, and a call is refused for the budget only when one more
  reservation would (`accounting_within_budget`).
-/
import ResponseEngine.Foundation.Quota
import ResponseEngine.Triage.Dispatch

set_option autoImplicit false

namespace ResponseEngine.Triage

open ResponseEngine.Foundation ResponseEngine.Python

/-! ## Budget reasons -/

/-- The reasons that name an exhausted dimension of the budget. -/
def budgetReasons : List Reason :=
  [.alertActionBudget, .alertByteBudget, .endpointFrequencyBudget, .endpointByteBudget,
    .endpointConcurrencyBudget, .globalConcurrencyBudget]

theorem not_budget_of_capabilityRefusal {action : CollectAction} {endpoint : EndpointCapability}
    {reason : Reason} (h : capabilityRefusal action endpoint = some reason) :
    reason ∉ budgetReasons := by
  unfold capabilityRefusal at h
  split_ifs at h
  all_goals
    obtain rfl := Option.some.inj h
    decide

theorem not_budget_of_fileRefusal {entry : ActionPolicy} {platform : Platform}
    {filePath : PyVal} {reason : Reason} (h : fileRefusal entry platform filePath = some reason) :
    reason ∉ budgetReasons := by
  unfold fileRefusal at h
  split at h
  · obtain rfl := Option.some.inj h
    decide
  split at h
  · obtain rfl := Option.some.inj h
    decide
  split at h
  · obtain rfl := Option.some.inj h
    decide
  · simp at h

theorem not_budget_of_targetRefusal {entry : ActionPolicy} {action : CollectAction}
    {platform : Platform} {processIdentityVerified filePath : PyVal} {reason : Reason}
    (h : targetRefusal entry action platform processIdentityVerified filePath = some reason) :
    reason ∉ budgetReasons := by
  cases action with
  | collectProcessInfo =>
      simp only [targetRefusal] at h
      split at h
      · simp at h
      · obtain rfl := Option.some.inj h
        decide
  | collectFile => exact not_budget_of_fileRefusal h
  | collectNetworkConnections => simp [targetRefusal] at h

theorem not_budget_of_grantedOutcome (entry : ActionPolicy) (assetClass : AssetClass) :
    (grantedOutcome entry assetClass).2 ∉ budgetReasons := by
  unfold grantedOutcome
  split_ifs
  all_goals
    dsimp only
    decide

/-- A budget reason is given only where the budget refuses. -/
theorem budgetRefusal_ne_none_of_reason {policy : AutoTriagePolicy} {action : CollectAction}
    {assetClass : AssetClass} {endpoint : EndpointCapability} {usage : BudgetUsage}
    {processIdentityVerified filePath : PyVal}
    (h : (outcome policy action assetClass endpoint usage processIdentityVerified filePath).2 ∈
      budgetReasons) :
    budgetRefusal policy.budget usage ≠ none := by
  unfold outcome at h
  split at h
  · exact absurd h (by decide)
  split at h
  · exact absurd h (by decide)
  split at h
  · exact absurd h (by decide)
  split at h
  · rename_i hcapability
    exact absurd h (not_budget_of_capabilityRefusal hcapability)
  · rename_i htarget
    exact absurd h (not_budget_of_targetRefusal htarget)
  · rename_i hbudget
    rw [hbudget]
    exact Option.some_ne_none _
  · exact absurd h (not_budget_of_grantedOutcome _ _)

/-! ## The ledger -/

section

variable (Alert Endpoint : Type) [DecidableEq Alert] [DecidableEq Endpoint]

/-- A reservation of the caller. -/
structure Reservation where
  alert : Alert
  endpoint : Endpoint
  /-- the action still counts in its endpoint's window -/
  inWindow : Bool
  /-- the action has not finished -/
  active : Bool

/-- What a budget limits. -/
inductive Dimension where
  | alertActions (alert : Alert)
  | alertBytes (alert : Alert)
  | windowActions (endpoint : Endpoint)
  | windowBytes (endpoint : Endpoint)
  | activeFor (endpoint : Endpoint)
  | activeGlobal

/-- A call of `evaluate`, but for the usage. -/
structure Call where
  alert : Alert
  endpoint : Endpoint
  action : Text
  assetClass : Text
  capability : EndpointCapability
  processIdentityVerified : PyVal
  filePath : PyVal

/-- What the caller does. -/
inductive Event where
  /-- evaluates, and reserves unless the decision is to skip -/
  | triage (call : Call Alert Endpoint)
  /-- records that the action of a reservation has finished -/
  | finish (index : ℕ)
  /-- lets some of an endpoint's actions leave its window -/
  | leaveWindow (endpoint : Endpoint) (leaves : ℕ → Bool)

variable {Alert Endpoint}

/-- A reservation counts one action, or its bytes, on its alert, on its endpoint while it
is in the window, and on its endpoint and globally while it is active. -/
def weight : Dimension Alert Endpoint → Reservation Alert Endpoint → ℕ
  | .alertActions a, r => if r.alert = a then 1 else 0
  | .alertBytes a, r => if r.alert = a then artifactReservationBytes else 0
  | .windowActions e, r => if r.endpoint = e ∧ r.inWindow then 1 else 0
  | .windowBytes e, r => if r.endpoint = e ∧ r.inWindow then artifactReservationBytes else 0
  | .activeFor e, r => if r.endpoint = e ∧ r.active then 1 else 0
  | .activeGlobal, r => if r.active then 1 else 0

/-- The configured limit of a dimension. -/
def limit (budget : CollectionBudget) : Dimension Alert Endpoint → ℕ
  | .alertActions _ => budget.maxActionsPerAlert
  | .alertBytes _ => budget.maxBytesPerAlert
  | .windowActions _ => budget.maxActionsPerEndpointWindow
  | .windowBytes _ => budget.maxBytesPerEndpointWindow
  | .activeFor _ => budget.maxActivePerEndpoint
  | .activeGlobal => maxActiveGlobal

/-- A budget as limits on the ledger. -/
def quota (budget : CollectionBudget) : Quota (Dimension Alert Endpoint)
    (Reservation Alert Endpoint) where
  weight := weight
  limit := limit budget

/-- The usage that the ledger shows for an alert and an endpoint. -/
def usage (ledger : List (Reservation Alert Endpoint)) (alert : Alert) (endpoint : Endpoint) :
    BudgetUsage where
  actionsForAlert := Quota.load weight (.alertActions alert) ledger
  bytesForAlert := Quota.load weight (.alertBytes alert) ledger
  actionsInEndpointWindow := Quota.load weight (.windowActions endpoint) ledger
  bytesInEndpointWindow := Quota.load weight (.windowBytes endpoint) ledger
  activeForEndpoint := Quota.load weight (.activeFor endpoint) ledger
  activeGlobal := Quota.load weight .activeGlobal ledger

/-- The ledger after one more reservation. -/
def reserve (ledger : List (Reservation Alert Endpoint)) (alert : Alert) (endpoint : Endpoint) :
    List (Reservation Alert Endpoint) :=
  ledger ++ [{ alert, endpoint, inWindow := true, active := true }]

/-- `evaluate` with the current usage. -/
def evaluateCall (policy : AutoTriagePolicy) (ledger : List (Reservation Alert Endpoint))
    (call : Call Alert Endpoint) : Except PyError TriageDecision :=
  evaluate policy call.action call.assetClass call.capability
    (usage ledger call.alert call.endpoint) call.processIdentityVerified call.filePath

/-- The caller. -/
def accounting (policy : AutoTriagePolicy) :
    Machine (List (Reservation Alert Endpoint)) (Event Alert Endpoint) where
  step ledger
    | .triage call =>
        match evaluateCall policy ledger call with
        | .ok d =>
            if d.decision ≠ .skip then some (reserve ledger call.alert call.endpoint) else none
        | .error _ => none
    | .finish index =>
        some (ledger.mapIdx fun i r => if i = index then { r with active := false } else r)
    | .leaveWindow endpoint leaves =>
        some (ledger.mapIdx fun i r =>
          if r.endpoint = endpoint ∧ leaves i then { r with inWindow := false } else r)

/-! ## One step -/

/-- A reservation is charged to the usage of its alert and endpoint. -/
theorem usage_reserve (ledger : List (Reservation Alert Endpoint)) (alert : Alert)
    (endpoint : Endpoint) :
    usage (reserve ledger alert endpoint) alert endpoint =
      (usage ledger alert endpoint).charge := by
  ext <;> simp [usage, reserve, Quota.load_concat, weight, BudgetUsage.charge]

/-- A ledger within the quota shows every alert and endpoint a usage within the budget. -/
theorem within_usage {budget : CollectionBudget} {ledger : List (Reservation Alert Endpoint)}
    (h : (quota budget).Within ledger) (alert : Alert) (endpoint : Endpoint) :
    Within budget (usage ledger alert endpoint) where
  actionsForAlert := h (.alertActions alert)
  bytesForAlert := h (.alertBytes alert)
  actionsInEndpointWindow := h (.windowActions endpoint)
  bytesInEndpointWindow := h (.windowBytes endpoint)
  activeForEndpoint := h (.activeFor endpoint)
  activeGlobal := h .activeGlobal

/-- A reservation that stays within the budget for its own alert and endpoint keeps every
limit it weighs on. -/
theorem load_reserve_le {budget : CollectionBudget} {ledger : List (Reservation Alert Endpoint)}
    {alert : Alert} {endpoint : Endpoint}
    (h : Within budget (usage (reserve ledger alert endpoint) alert endpoint))
    (d : Dimension Alert Endpoint)
    (hpos : 0 < weight d { alert, endpoint, inWindow := true, active := true }) :
    Quota.load weight d (reserve ledger alert endpoint) ≤ limit budget d := by
  cases d with
  | alertActions a =>
      obtain ⟨rfl, _⟩ : alert = a ∧ _ := ite_ne_right_iff.mp hpos.ne'
      exact h.actionsForAlert
  | alertBytes a =>
      obtain ⟨rfl, _⟩ : alert = a ∧ _ := ite_ne_right_iff.mp hpos.ne'
      exact h.bytesForAlert
  | windowActions e =>
      obtain ⟨⟨rfl, _⟩, _⟩ : (endpoint = e ∧ _) ∧ _ := ite_ne_right_iff.mp hpos.ne'
      exact h.actionsInEndpointWindow
  | windowBytes e =>
      obtain ⟨⟨rfl, _⟩, _⟩ : (endpoint = e ∧ _) ∧ _ := ite_ne_right_iff.mp hpos.ne'
      exact h.bytesInEndpointWindow
  | activeFor e =>
      obtain ⟨⟨rfl, _⟩, _⟩ : (endpoint = e ∧ _) ∧ _ := ite_ne_right_iff.mp hpos.ne'
      exact h.activeForEndpoint
  | activeGlobal => exact h.activeGlobal

theorem step_reserve {budget : CollectionBudget} {ledger : List (Reservation Alert Endpoint)}
    {alert : Alert} {endpoint : Endpoint}
    (h : Within budget (usage (reserve ledger alert endpoint) alert endpoint)) :
    (quota budget).Step ledger (reserve ledger alert endpoint) :=
  .add (load_reserve_le h)

/-- A finished action weighs no more than before. -/
theorem weight_finish_le (d : Dimension Alert Endpoint) (r : Reservation Alert Endpoint) :
    weight d { r with active := false } ≤ weight d r := by
  cases d with
  | activeFor e => simp [weight]
  | activeGlobal => simp [weight]
  | _ => exact le_rfl

/-- An action that left the window weighs no more than before. -/
theorem weight_leaveWindow_le (d : Dimension Alert Endpoint) (r : Reservation Alert Endpoint) :
    weight d { r with inWindow := false } ≤ weight d r := by
  cases d with
  | windowActions e => simp [weight]
  | windowBytes e => simp [weight]
  | _ => exact le_rfl

/-- A call that is not skipped has room for its reservation. -/
theorem within_reserve_of_ne_skip {policy : AutoTriagePolicy}
    {ledger : List (Reservation Alert Endpoint)} {call : Call Alert Endpoint} {d : TriageDecision}
    (h : evaluateCall policy ledger call = .ok d) (hskip : d.decision ≠ .skip) :
    Within policy.budget
      (usage (reserve ledger call.alert call.endpoint) call.alert call.endpoint) := by
  obtain ⟨_, _, _, _, houtcome⟩ := evaluate_eq_ok.mp h
  have hne : (outcome policy d.action d.assetClass call.capability
      (usage ledger call.alert call.endpoint) call.processIdentityVerified call.filePath).1 ≠
        .skip := by
    rw [← houtcome]
    exact hskip
  obtain ⟨entry, hpasses⟩ := exists_passes_of_ne_skip hne
  rw [usage_reserve]
  exact budgetRefusal_eq_none.mp hpasses.budget

/-- A call that is refused for the budget has no room for its reservation. -/
theorem not_within_reserve_of_budgetReason {policy : AutoTriagePolicy}
    {ledger : List (Reservation Alert Endpoint)} {call : Call Alert Endpoint} {d : TriageDecision}
    (h : evaluateCall policy ledger call = .ok d) (hreason : d.reason ∈ budgetReasons) :
    ¬ Within policy.budget
      (usage (reserve ledger call.alert call.endpoint) call.alert call.endpoint) := by
  obtain ⟨_, _, _, _, houtcome⟩ := evaluate_eq_ok.mp h
  have hmem : (outcome policy d.action d.assetClass call.capability
      (usage ledger call.alert call.endpoint) call.processIdentityVerified call.filePath).2 ∈
        budgetReasons := by
    rw [← houtcome]
    exact hreason
  intro hwithin
  rw [usage_reserve] at hwithin
  exact budgetRefusal_ne_none_of_reason hmem (budgetRefusal_eq_none.mpr hwithin)

/-- Every step of the caller keeps the budget. -/
theorem step_accounting {policy : AutoTriagePolicy} (ledger : List (Reservation Alert Endpoint))
    (event : Event Alert Endpoint) (ledger' : List (Reservation Alert Endpoint))
    (h : (accounting policy).step ledger event = some ledger') :
    (quota policy.budget).Step ledger ledger' := by
  cases event with
  | triage call =>
      simp only [accounting] at h
      split at h
      · rename_i d heval
        obtain ⟨hskip, hledger⟩ := Option.ite_none_right_eq_some.mp h
        obtain rfl := Option.some.inj hledger
        exact step_reserve (within_reserve_of_ne_skip heval hskip)
      · simp at h
  | finish index =>
      simp only [accounting, Option.some.injEq] at h
      rw [← h]
      refine .lighten fun d i r => ?_
      split_ifs
      · exact weight_finish_le d r
      · exact le_rfl
  | leaveWindow endpoint leaves =>
      simp only [accounting, Option.some.injEq] at h
      rw [← h]
      refine .lighten fun d i r => ?_
      split_ifs
      · exact weight_leaveWindow_le d r
      · exact le_rfl

/-! ## Every run -/

/-- **The budget holds over every run**: each alert's actions and bytes, each endpoint's
window actions, window bytes and active actions and the active actions of all stay
within their limits, and `evaluate` gives a budget reason only where one more
reservation would exceed one of them. -/
theorem accounting_within_budget (policy : AutoTriagePolicy)
    (events : List (Event Alert Endpoint)) :
    (quota policy.budget).Within ((accounting policy).run [] events) ∧
    ∀ (call : Call Alert Endpoint) (d : TriageDecision),
      evaluateCall policy ((accounting policy).run [] events) call = .ok d →
        d.reason ∈ budgetReasons →
          ¬ (quota policy.budget).Within
            (reserve ((accounting policy).run [] events) call.alert call.endpoint) := by
  refine ⟨Quota.run_within step_accounting events, fun call d heval hreason hwithin => ?_⟩
  exact not_within_reserve_of_budgetReason heval hreason (within_usage hwithin _ _)

/-- Three calls for one alert use up its actions; when one of them has finished, there is
room at the endpoint for another alert but still none for this one. -/
example :
    let policy := { defaultPolicy ⟨"rule-1", by decide⟩ ⟨1, by decide⟩ with enabled := true }
    let capability : EndpointCapability :=
      { platform := .linux
        recent := true
        mode := .enforce
        implementedActions := [.collectNetworkConnections]
        allowedActions := [.collectNetworkConnections]
        authenticatedCommandChannel := true
        collectionAcceptanceGate := true
        artifactProtocol := some .signedJsonV2ResumeV1 }
    let call : Call ℕ ℕ :=
      { alert := 1
        endpoint := 1
        action := "COLLECT_NETWORK_CONNECTIONS"
        assetClass := "standard"
        capability
        processIdentityVerified := .bool false
        filePath := .none }
    let events : List (Event ℕ ℕ) :=
      [.triage call, .triage call, .triage call, .triage call, .finish 0, .triage call,
        .triage { call with alert := 2 }]
    ((accounting policy).run [] events).map (fun r => (r.alert, r.active)) =
      [(1, false), (1, true), (1, true), (2, true)] := by
  decide +kernel

end

end ResponseEngine.Triage
