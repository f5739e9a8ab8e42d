/-
  Policy.lean --- the authorization tier of an action.
-/
import ResponseEngine.Contract.Action

set_option autoImplicit false

namespace ResponseEngine.Policy

open ResponseEngine.Foundation ResponseEngine.Contract

/-- `Tier`. -/
inductive Tier where
  | autoSafe
  | analystApproval
  deriving DecidableEq, Repr

/-- The wire text of a tier. -/
def Tier.value : Tier → String
  | autoSafe => "AUTO_SAFE"
  | analystApproval => "ANALYST_APPROVAL"

/-- `_TIERS`. -/
def tiers : Action → Tier
  | .collectProcessInfo => .autoSafe
  | .collectNetworkConnections => .autoSafe
  | .collectFile => .analystApproval
  | .quarantineFile => .analystApproval
  | .killProcess => .analystApproval
  | .isolateHost => .analystApproval
  | .releaseHostIsolation => .analystApproval

/-- `classify_tier`: a text outside the closed set needs approval. -/
def classifyTier (action : Text) : Tier :=
  match (Python.Pydantic.Vocabulary.ofText? action : Option Action) with
  | some a => tiers a
  | none => .analystApproval

/-- Only the two read-only collections are safe to run by themselves. -/
theorem classifyTier_eq_autoSafe {action : Text} :
    classifyTier action = .autoSafe ↔
      action = "COLLECT_PROCESS_INFO" ∨ action = "COLLECT_NETWORK_CONNECTIONS" := by
  unfold classifyTier
  constructor
  · intro h
    split at h
    · rename_i a ha
      rw [Python.Pydantic.Vocabulary.ofText?_eq_some_iff.mp ha]
      cases a with
      | collectProcessInfo => exact .inl rfl
      | collectNetworkConnections => exact .inr rfl
      | _ => simp [tiers] at h
    · simp at h
  · rintro (rfl | rfl)
    · rfl
    · rfl

/-- A safe action is an action. -/
theorem exists_action_of_autoSafe {action : Text} (h : classifyTier action = .autoSafe) :
    ∃ a : Action, action = a.value := by
  rcases classifyTier_eq_autoSafe.mp h with rfl | rfl
  · exact ⟨.collectProcessInfo, rfl⟩
  · exact ⟨.collectNetworkConnections, rfl⟩

end ResponseEngine.Policy
