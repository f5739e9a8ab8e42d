/-
  Access.lean --- the closed analyst roles and what each may do.

  A role is a persisted text, so `permissionsFor` reads any text.  A text that is no role
  may do nothing; only the analyst may both request and decide (`mem_both_iff`), and the
  administration of artifacts and of triage comes with neither.
-/
import Mathlib.Data.Finset.Insert
import ResponseEngine.Python.Pydantic

set_option autoImplicit false

namespace ResponseEngine.Access

open ResponseEngine.Foundation ResponseEngine.Python.Pydantic

/-- `AnalystRole`. -/
inductive AnalystRole where
  | viewer
  | responder
  | approver
  | analyst
  | artifactAdmin
  | triageAdmin
  deriving DecidableEq, Repr

/-- The persisted text of a role. -/
def AnalystRole.value : AnalystRole → String
  | viewer => "viewer"
  | responder => "responder"
  | approver => "approver"
  | analyst => "analyst"
  | artifactAdmin => "artifact_admin"
  | triageAdmin => "triage_admin"

instance : Vocabulary AnalystRole where
  members := [.viewer, .responder, .approver, .analyst, .artifactAdmin, .triageAdmin]
  text := AnalystRole.value
  mem_members a := by cases a <;> decide
  text_injective := by
    intro a b h
    cases a <;> cases b <;> first | rfl | simp [AnalystRole.value] at h

/-- `AnalystPermission`. -/
inductive AnalystPermission where
  | request
  | decide
  | investigate
  | artifactRead
  | artifactScopeManage
  | triageManage
  deriving DecidableEq, Repr

/-- `_PERMISSIONS`. -/
def permissions : AnalystRole → Finset AnalystPermission
  | .triageAdmin => {.triageManage}
  | .viewer => ∅
  | .responder => {.request, .investigate, .artifactRead}
  | .approver => {.decide, .investigate, .artifactRead}
  | .analyst => {.request, .decide, .investigate, .artifactRead}
  | .artifactAdmin => {.artifactRead, .artifactScopeManage}

/-- `permissions_for`: a text that is no role gets nothing. -/
def permissionsFor (role : Text) : Finset AnalystPermission :=
  match (Vocabulary.ofText? role : Option AnalystRole) with
  | some role => permissions role
  | none => ∅

theorem permissionsFor_value (r : AnalystRole) : permissionsFor r.value = permissions r := by
  have hrole : (Vocabulary.ofText? (r.value : Text) : Option AnalystRole) = some r :=
    Vocabulary.ofText?_text r
  rw [permissionsFor, hrole]

/-- Only a role has permissions. -/
theorem exists_role_of_mem {role : Text} {p : AnalystPermission} (h : p ∈ permissionsFor role) :
    ∃ r : AnalystRole, role = (r.value : Text) := by
  unfold permissionsFor at h
  split at h
  · rename_i r hr
    exact ⟨r, Vocabulary.ofText?_eq_some_iff.mp hr⟩
  · simp at h

/-- One who administers neither requests nor decides. -/
theorem not_mem_of_administers {role : Text}
    (h : .artifactScopeManage ∈ permissionsFor role ∨ .triageManage ∈ permissionsFor role) :
    .request ∉ permissionsFor role ∧ .decide ∉ permissionsFor role := by
  obtain ⟨r, rfl⟩ := h.elim exists_role_of_mem exists_role_of_mem
  rw [permissionsFor_value] at h ⊢
  revert h
  cases r <;> decide

/-- **Two pairs of eyes.**  Who requests a response may not decide on it, but for the legacy
analyst. -/
theorem mem_both_iff {role : Text} :
    .request ∈ permissionsFor role ∧ .decide ∈ permissionsFor role ↔ role = "analyst" := by
  constructor
  · intro h
    obtain ⟨r, rfl⟩ := exists_role_of_mem h.1
    rw [permissionsFor_value] at h
    cases r with
    | analyst => rfl
    | _ => exact absurd h (by decide)
  · intro h
    rw [show role = (AnalystRole.analyst.value : Text) from h, permissionsFor_value]
    decide

end ResponseEngine.Access
