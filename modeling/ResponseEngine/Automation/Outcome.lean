/-
  Automation/Outcome.lean --- from a result on the wire to the status of an incident.

  A result that the contract accepts names an outcome, the lifecycle has a state of
  that name, and the status model classifies a containment row by it.  The three
  vocabularies meet here: every accepted result can be recorded from exactly the two
  states in which an agent may report, and with execution evidence the incident
  reports a success exactly when completion was observed, from then on for good.
-/
import ResponseEngine.Automation.Incident
import ResponseEngine.Contract.Result

set_option autoImplicit false

namespace ResponseEngine.Automation

open ResponseEngine.Foundation ResponseEngine.Python ResponseEngine.Python.Pydantic
open ResponseEngine.Contract ResponseEngine.Lifecycle ResponseStatus Relation

/-! ## Outcomes and states -/

/-- The lifecycle state of the same name. -/
def outcomeState : ResultOutcome → ResponseActionState
  | .succeeded => .succeeded
  | .failed => .failed
  | .rejected => .rejected
  | .indeterminate => .indeterminate

/-- The two vocabularies differ in their letter case only. -/
theorem value_outcomeState (outcome : ResultOutcome) :
    (outcomeState outcome).value = outcome.value.toUpper := by
  cases outcome <;> decide +kernel

/-- An agent reports from dispatch, or from its acceptance. -/
theorem legal_outcomeState_iff {state : ResponseActionState} (outcome : ResultOutcome) :
    isLegalTransition state (outcomeState outcome) = true ↔
      state = .dispatched ∨ state = .accepted := by
  cases state <;> cases outcome <;> decide

/-! ## Recording a result -/

/-- The row, with a result recorded in it. -/
structure Recorded (result : CommandResult) (row next : Dict) : Prop where
  action : SameAction row next
  state : Dict.get next "command_lifecycle_state" = .str (outcomeState result.outcome).value
  detail : Dict.get next "result_detail" = CommandResult.textOrNone result.detail

/-- The detail of a result says that the effect was observed. -/
def Verified (result : CommandResult) : Prop :=
  ∃ t, result.detail = some t ∧ verifiedPrefix <+: t

/-- A detail that is a text or absent is always read. -/
theorem exists_isVerified_textOrNone (detail : Option Text) :
    ∃ b, isVerified (CommandResult.textOrNone detail) = .ok b := by
  cases detail with
  | none => exact ⟨false, rfl⟩
  | some t =>
      rw [CommandResult.textOrNone, isVerified]
      split_ifs
      · exact ⟨_, rfl⟩
      · exact ⟨_, rfl⟩

theorem isVerified_textOrNone_eq_true {detail : Option Text} :
    isVerified (CommandResult.textOrNone detail) = .ok true ↔
      ∃ t, detail = some t ∧ verifiedPrefix <+: t := by
  rw [isVerified_eq_true]
  cases detail with
  | none => simp [CommandResult.textOrNone]
  | some t => simp [CommandResult.textOrNone]

/-- The status that a containment row has from a recorded result. -/
structure Tells (result : CommandResult) (s : ResponseStatus) : Prop where
  contained_iff : s = contained ↔ result.outcome = .succeeded ∧ Verified result
  success_iff : containmentUnverified ≤ s ↔ result.outcome = .succeeded
  failed_le : containmentFailed ≤ s

theorem exists_tells {result : CommandResult} {row next : Dict} (h : Recorded result row next)
    (haction : ∃ a ∈ containmentActions, Dict.get row "action" = .str (a.value : Text)) :
    ∃ s, itemStatus next = .ok s ∧ Tells result s := by
  obtain ⟨a, ha, hrow⟩ := haction
  have hcontainment : isContainment (Dict.get next "action") = .ok true :=
    isContainment_eq_true.mpr ⟨a, ha, h.action.trans hrow⟩
  simp only [itemStatus, hcontainment, h.state, h.detail, ok_bind]
  have hfailed : ∀ outcome, result.outcome = outcome → outcome ≠ .succeeded →
      Tells result containmentFailed := by
    intro outcome houtcome hne
    refine ⟨iff_of_false (by decide) fun hc => ?_, iff_of_false (by decide) fun hc => ?_, le_rfl⟩
    · exact hne (houtcome.symm.trans hc.1)
    · exact hne (houtcome.symm.trans hc)
  cases houtcome : result.outcome with
  | succeeded =>
      obtain ⟨b, hb⟩ := exists_isVerified_textOrNone result.detail
      have hverified : Verified result ↔ b = true := by
        rw [Verified, ← isVerified_textOrNone_eq_true, hb, Except.ok.injEq]
      rw [if_pos (by rfl), hb, ok_bind]
      cases b with
      | true =>
          refine ⟨contained, rfl, ⟨fun _ => ⟨houtcome, hverified.mpr rfl⟩, fun _ => rfl⟩,
            ⟨fun _ => houtcome, fun _ => ?_⟩, ?_⟩ <;> decide
      | false =>
          refine ⟨containmentUnverified, rfl, iff_of_false (by decide) fun hc => ?_,
            ⟨fun _ => houtcome, fun _ => le_rfl⟩, by decide⟩
          exact absurd (hverified.mp hc.2) (by decide)
  | failed => exact ⟨containmentFailed, by rfl, hfailed _ houtcome (by decide)⟩
  | rejected => exact ⟨containmentFailed, by rfl, hfailed _ houtcome (by decide)⟩
  | indeterminate => exact ⟨containmentFailed, by rfl, hfailed _ houtcome (by decide)⟩

/-- Recording a result from either of the two states is a step of the row. -/
theorem Recorded.rowStep {result : CommandResult} {row next : Dict} (h : Recorded result row next)
    {state : ResponseActionState} (hstate : commandState? row = some state)
    (hreports : state = .dispatched ∨ state = .accepted) : RowStep row next :=
  .transition h.action hstate ((legal_outcomeState_iff result.outcome).mpr hreports)
    (Vocabulary.literal_eq_some_iff.mpr h.state)

/-- **An accepted result is reported as it is, for good.**  A containment row takes a result
in exactly the two states in which an agent may report.  Its status then tells how the
containment ended, is a success exactly when the outcome is one, and with execution evidence
exactly when completion was observed; and no later report of the open incident is lower. -/
theorem recorded_result_is_reported {rt : Runtime} {raw : Dict} {result : CommandResult}
    (haccepted : CommandResult.modelValidate rt raw = .ok result) {rows : List Dict} {p : ℕ}
    {row next : Dict} (hrow : rows[p]? = some row) {state : ResponseActionState}
    (hstate : commandState? row = some state)
    (haction : ∃ a ∈ containmentActions, Dict.get row "action" = .str (a.value : Text))
    (h : Recorded result row next) :
    (isLegalTransition state (outcomeState result.outcome) = true ↔
      state = .dispatched ∨ state = .accepted) ∧
    ∃ s, itemStatus next = .ok s ∧ Tells result s ∧
      (∀ evidence, result.execution = some evidence →
        (containmentUnverified ≤ s ↔ evidence.completionObserved = true)) ∧
      ((state = .dispatched ∨ state = .accepted) → Progress rows (rows.set p next)) ∧
      ∀ later incidentStatus t, ReflTransGen Progress (rows.set p next) later →
        ¬ Closed incidentStatus → deriveResponseStatus later incidentStatus = .ok t → s ≤ t := by
  obtain ⟨-, hvalid⟩ := CommandResult.modelValidate_eq_ok.mp haccepted
  obtain ⟨s, hs, htells⟩ := exists_tells h haction
  refine ⟨legal_outcomeState_iff result.outcome, s, hs, htells, ?_, ?_, ?_⟩
  · intro evidence hevidence
    exact htells.success_iff.trans (hvalid.consistent.agrees evidence hevidence).succeeded
  · intro hreports
    exact .change next hrow (h.rowStep hstate hreports)
  · intro later incidentStatus t hrun hopen hreport
    have hmem : next ∈ rows.set p next :=
      List.mem_set (List.getElem?_eq_some_iff.mp hrow).1 next
    have hended : HasEnded s later := Reach.preserved (fun _ _ => hasEnded_of_progress) hrun
      ⟨next, hmem, hs, htells.failed_le⟩
    exact le_of_hasEnded hopen hreport hended

/-- A kill that was initiated, and whose completion was not seen. -/
theorem recorded_result_is_reported_sample :
    ∃ result, CommandResult.modelValidate .sample CommandResult.sampleRecord = .ok result ∧
      ∃ s, itemStatus (killRow (outcomeState result.outcome)
        (CommandResult.textOrNone result.detail)) = .ok s ∧ Tells result s := by
  obtain ⟨result, hresult⟩ := exists_eq_ok
    (x := CommandResult.modelValidate .sample CommandResult.sampleRecord) (by decide +kernel)
  have hrecorded : Recorded result (killRow .dispatched .none)
      (killRow (outcomeState result.outcome) (CommandResult.textOrNone result.detail)) :=
    ⟨rfl, rfl, rfl⟩
  have hrow : [killRow .dispatched .none][0]? = some (killRow .dispatched .none) := rfl
  obtain ⟨-, s, hs, htells, -⟩ := recorded_result_is_reported hresult hrow
    (commandState?_killRow _ _) ⟨.killProcess, by decide, rfl⟩ hrecorded
  exact ⟨result, hresult, s, hs, htells⟩

end ResponseEngine.Automation
