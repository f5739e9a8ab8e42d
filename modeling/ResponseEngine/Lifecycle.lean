/-
  Lifecycle.lean --- the response lifecycle over runs of requests.

  `isLegalTransition` is the transition check of the package; `lifecycle` is the
  machine that applies a request exactly when the check passes.  The lifecycle laws
  are about every sequence of requests (`lifecycle_laws`): what a run that reached
  an outcome went through, that an end is final, and how often a run changes.
-/
import ResponseEngine.Foundation.Machine
import ResponseEngine.Python.Pydantic

set_option autoImplicit false

namespace ResponseEngine.Lifecycle

open ResponseEngine.Foundation ResponseEngine.Python.Pydantic

/-- `ResponseActionState`. -/
inductive ResponseActionState where
  | pending
  | authorized
  | dispatched
  | accepted
  | succeeded
  | failed
  | rejected
  | indeterminate
  | cancelled
  | expired
  deriving DecidableEq, Repr

namespace ResponseActionState

/-- `_TERMINAL`. -/
def terminal : List ResponseActionState :=
  [succeeded, failed, rejected, indeterminate, cancelled, expired]

/-- The states that an agent's result leads to. -/
def outcomes : List ResponseActionState := [succeeded, failed, rejected, indeterminate]

/-- `_LEGAL_TRANSITIONS`. -/
def legalTransitions : ResponseActionState → List ResponseActionState
  | pending => [authorized, cancelled]
  | authorized => [dispatched, cancelled]
  | dispatched => [accepted, succeeded, failed, rejected, indeterminate]
  | accepted => [succeeded, failed, rejected, indeterminate]
  | succeeded => []
  | failed => []
  | rejected => []
  | indeterminate => []
  | cancelled => []
  | expired => []

/-- The wire text of a state. -/
def value : ResponseActionState → String
  | pending => "PENDING"
  | authorized => "AUTHORIZED"
  | dispatched => "DISPATCHED"
  | accepted => "ACCEPTED"
  | succeeded => "SUCCEEDED"
  | failed => "FAILED"
  | rejected => "REJECTED"
  | indeterminate => "INDETERMINATE"
  | cancelled => "CANCELLED"
  | expired => "EXPIRED"

instance : Vocabulary ResponseActionState where
  members := [pending, authorized, dispatched, accepted, succeeded, failed, rejected,
    indeterminate, cancelled, expired]
  text := value
  mem_members a := by cases a <;> decide
  text_injective := by
    intro a b h
    cases a <;> cases b <;> first | rfl | simp [value] at h

end ResponseActionState

open ResponseActionState

/-- `is_legal_transition`. -/
def isLegalTransition (current requested : ResponseActionState) : Bool :=
  if current ∈ terminal then false
  else if requested = expired then true
  else decide (requested ∈ legalTransitions current)

/-- The machine of requests: a legal one is entered, any other ignored. -/
def lifecycle : Machine ResponseActionState ResponseActionState where
  step current requested := if isLegalTransition current requested then some requested else none

/-! ## One step -/

theorem step_eq_some {current requested entered : ResponseActionState} :
    lifecycle.step current requested = some entered ↔
      isLegalTransition current requested = true ∧ entered = requested := by
  simp only [lifecycle]
  split_ifs with hlegal
  · simp [hlegal, eq_comm]
  · simp [hlegal]

/-- How far a state is from the start. -/
def rank : ResponseActionState → ℕ
  | pending => 0
  | authorized => 1
  | dispatched => 2
  | accepted => 3
  | succeeded => 4
  | failed => 4
  | rejected => 4
  | indeterminate => 4
  | cancelled => 4
  | expired => 4

theorem rank_le (s : ResponseActionState) : rank s ≤ 4 := by
  cases s <;> decide

/-- Every legal transition leads further. -/
theorem rank_lt_of_legal {current requested : ResponseActionState}
    (h : isLegalTransition current requested = true) : rank current < rank requested := by
  revert h
  cases current <;> cases requested <;> decide

theorem rank_lt_of_step (s r t : ResponseActionState) (h : lifecycle.step s r = some t) :
    rank s < rank t := by
  obtain ⟨hlegal, rfl⟩ := step_eq_some.mp h
  exact rank_lt_of_legal hlegal

/-- A terminal state takes no request. -/
theorem step_of_terminal {s : ResponseActionState} (h : s ∈ terminal) (r : ResponseActionState) :
    lifecycle.step s r = none := by
  simp [lifecycle, isLegalTransition, h]

/-- A state that is entered was requested, and legally. -/
theorem legal_of_step {current requested entered : ResponseActionState}
    (h : lifecycle.step current requested = some entered) :
    isLegalTransition current entered = true := by
  obtain ⟨hlegal, rfl⟩ := step_eq_some.mp h
  exact hlegal

/-! ## The history behind a state -/

/-- A run that is in a state other than the first one has entered it. -/
theorem mem_entered_of_run {before : List ResponseActionState} {s : ResponseActionState}
    (h : lifecycle.run pending before = s) (hne : s ≠ pending) :
    s ∈ lifecycle.entered pending before := by
  have hmem := lifecycle.run_mem pending before
  rw [h] at hmem
  exact (List.mem_cons.mp hmem).resolve_left hne

/-- The states from which an entered state can have been reached. -/
theorem run_of_step {before : List ResponseActionState} {r t : ResponseActionState}
    (h : lifecycle.step (lifecycle.run pending before) r = some t) :
    (t = dispatched → lifecycle.run pending before = authorized) ∧
    (t = accepted → lifecycle.run pending before = dispatched) ∧
    (t ∈ outcomes → lifecycle.run pending before = dispatched ∨
      lifecycle.run pending before = accepted) ∧
    (t = cancelled → lifecycle.run pending before = pending ∨
      lifecycle.run pending before = authorized) := by
  have hlegal := legal_of_step h
  revert hlegal
  cases lifecycle.run pending before <;> cases t <;> decide

/-- Dispatch comes after authorization. -/
theorem sublist_of_dispatched {requests : List ResponseActionState}
    (h : dispatched ∈ lifecycle.entered pending requests) :
    [authorized, dispatched].Sublist (lifecycle.entered pending requests) := by
  change ([authorized] ++ [dispatched]).Sublist _
  refine lifecycle.sublist_entered (fun before r hr => ?_) h
  have hbefore := (run_of_step hr).1 rfl
  exact List.singleton_sublist.mpr (mem_entered_of_run hbefore (by decide))

/-- Acceptance comes after dispatch. -/
theorem sublist_of_accepted {requests : List ResponseActionState}
    (h : accepted ∈ lifecycle.entered pending requests) :
    [authorized, dispatched, accepted].Sublist (lifecycle.entered pending requests) := by
  change ([authorized, dispatched] ++ [accepted]).Sublist _
  refine lifecycle.sublist_entered (fun before r hr => ?_) h
  have hbefore := (run_of_step hr).2.1 rfl
  exact sublist_of_dispatched (mem_entered_of_run hbefore (by decide))

/-- An outcome comes after authorization and dispatch, with or without acceptance. -/
theorem sublist_of_outcome {requests : List ResponseActionState} {t : ResponseActionState}
    (ht : t ∈ outcomes) (h : t ∈ lifecycle.entered pending requests) :
    [authorized, dispatched, t].Sublist (lifecycle.entered pending requests) := by
  change ([authorized, dispatched] ++ [t]).Sublist _
  refine lifecycle.sublist_entered (fun before r hr => ?_) h
  rcases (run_of_step hr).2.2.1 ht with hbefore | hbefore
  · exact sublist_of_dispatched (mem_entered_of_run hbefore (by decide))
  · have haccepted := sublist_of_accepted (mem_entered_of_run hbefore (by decide))
    exact (List.sublist_append_left [authorized, dispatched] [accepted]).trans haccepted

/-- Once a terminal state is reached, nothing more is entered. -/
theorem entered_of_terminal {s : ResponseActionState} (h : s ∈ terminal)
    (requests : List ResponseActionState) : lifecycle.entered s requests = [] :=
  lifecycle.entered_of_stuck (step_of_terminal h) requests

/-- A cancelled run was never dispatched: it was cancelled no later than authorized, and
nothing follows. -/
theorem not_dispatched_of_cancelled {requests : List ResponseActionState}
    (h : cancelled ∈ lifecycle.entered pending requests) :
    dispatched ∉ lifecycle.entered pending requests := by
  obtain ⟨before, r, after, rfl, hr, hentered⟩ := lifecycle.exists_split_of_mem_entered h
  rw [hentered, entered_of_terminal (s := cancelled) (by decide)]
  intro hdispatched
  have hmem : dispatched ∈ pending :: lifecycle.entered pending before := by
    simpa using hdispatched
  have hrank := Machine.rank_le_run rank_lt_of_step hmem
  rcases (run_of_step hr).2.2.2 rfl with hbefore | hbefore
  · rw [hbefore] at hrank
    exact absurd hrank (by decide)
  · rw [hbefore] at hrank
    exact absurd hrank (by decide)

/-! ## The laws -/

/-- **The lifecycle laws**, over every sequence of requests. -/
theorem lifecycle_laws (requests : List ResponseActionState) :
    (∀ later, lifecycle.run pending requests ∈ terminal →
      lifecycle.run pending (requests ++ later) = lifecycle.run pending requests ∧
      lifecycle.entered pending (requests ++ later) = lifecycle.entered pending requests) ∧
    (∀ t ∈ [succeeded, failed, rejected, indeterminate],
      t ∈ lifecycle.entered pending requests →
        [authorized, dispatched, t].Sublist (lifecycle.entered pending requests)) ∧
    (cancelled ∈ lifecycle.entered pending requests →
      dispatched ∉ lifecycle.entered pending requests) ∧
    (pending :: lifecycle.entered pending requests).Nodup ∧
    (lifecycle.entered pending requests).length ≤ 4 ∧
    (∀ s, s ∉ terminal →
      isLegalTransition s expired = true ∧ lifecycle.run s [expired] = expired) := by
  refine ⟨fun later hterminal => ?_, fun t ht => sublist_of_outcome ht,
    not_dispatched_of_cancelled, Machine.nodup_entered rank_lt_of_step pending requests,
    Machine.length_entered_le rank_lt_of_step rank_le pending requests, fun s hnot => ?_⟩
  · rw [lifecycle.run_append, lifecycle.entered_append, entered_of_terminal hterminal,
      List.append_nil]
    exact ⟨lifecycle.run_of_stuck (step_of_terminal hterminal) later, rfl⟩
  · have hlegal : isLegalTransition s expired = true := by simp [isLegalTransition, hnot]
    exact ⟨hlegal, lifecycle.next_of_some (step_eq_some.mpr ⟨hlegal, rfl⟩)⟩

end ResponseEngine.Lifecycle
