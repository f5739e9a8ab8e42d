/-
  Pipeline.lean --- from a recommendation to the decision on its command.

  The translation is the only source of an action and a target, and the policy decides
  how the translated action runs.  Composed, the two stages run two recommendations by
  themselves and no others, deny for two reasons only, and act on nothing but what was
  translated (`respond_sound`): no list of policies and no alert changes that.
-/
import ResponseEngine.Automation.Exits
import ResponseEngine.Recommendation.Translation

set_option autoImplicit false

namespace ResponseEngine.Pipeline

open ResponseEngine.Foundation ResponseEngine.Python ResponseEngine.Python.Pydantic
open ResponseEngine.Contract ResponseEngine.Policy ResponseEngine.Recommendation
open ResponseEngine.Automation

/-! ## The two stages -/

/-- A recommendation as a detection engine makes it, with the alert that carries it. -/
structure Recommended where
  action : Text
  activeResponse : Dict
  context : PyVal
  alert : PyVal

/-- What the two stages make of a recommendation. -/
structure Response where
  command : Option Translation
  decision : PolicyDecision

/-- `translate_recommendation`, and `evaluate_policy` on the translated action. -/
def respond (rt : Runtime) (r : Recommended) (policies : List ResponsePolicy)
    (globalMode : Text) : Except PyError Response := do
  let command ← translateRecommendation rt r.action r.activeResponse r.context
  return { command, decision :=
    evaluatePolicy rt r.alert (command.map (·.action)) policies globalMode }

/-- The two recommendations that only read. -/
inductive ReadOnly : Text → Action → Prop where
  | process : ReadOnly "COLLECT_PROCESS_INFO" .collectProcessInfo
  | network : ReadOnly "COLLECT_NETWORK_CONNECTIONS" .collectNetworkConnections

variable {rt : Runtime} {r : Recommended} {policies : List ResponsePolicy} {globalMode : Text}

theorem respond_eq_ok {response : Response} : respond rt r policies globalMode = .ok response ↔
    translateRecommendation rt r.action r.activeResponse r.context = .ok response.command ∧
      response.decision = evaluatePolicy rt r.alert (response.command.map (·.action)) policies
        globalMode := by
  rw [respond, bind_eq_ok]
  constructor
  · intro h
    obtain ⟨command, hcommand, hresponse⟩ := h
    obtain rfl := Except.ok.inj hresponse
    exact ⟨hcommand, rfl⟩
  · intro h
    obtain ⟨hcommand, hdecision⟩ := h
    refine ⟨response.command, hcommand, ?_⟩
    rw [← hdecision]
    rfl

/-! ## What is translated -/

/-- A translation names a known action, which is safe exactly where the recommendation only
reads. -/
theorem exists_action_of_translates {action : Text} {activeResponse : Dict} {context : PyVal}
    {tr : Translation} (h : Translates rt activeResponse context action tr) :
    ∃ command : Action, tr.action = (command.value : Text) ∧
      (classifyTier command.value = .autoSafe ↔ ReadOnly action command) := by
  have hprocess {action : Text} {command : Action} (h : ProcessRecommendation action command) :
      classifyTier command.value = .autoSafe ↔ ReadOnly action command := by
    cases h with
    | terminate => exact iff_of_false (by decide) (by intro h; cases h)
    | collect => exact iff_of_true (by decide) .process
  cases h with
  | canonical haction => exact ⟨_, rfl, hprocess haction⟩
  | legacy haction => exact ⟨_, rfl, hprocess haction⟩
  | file => exact ⟨.quarantineFile, rfl, iff_of_false (by decide) (by intro h; cases h)⟩
  | host haction =>
      cases haction with
      | network => exact ⟨_, rfl, iff_of_true (by decide) .network⟩
      | isolate => exact ⟨_, rfl, iff_of_false (by decide) (by intro h; cases h)⟩

/-- What a response can be answered with is what was translated. -/
theorem exists_command_of_answerable {response : Response}
    (h : respond rt r policies globalMode = .ok response) {command : Action}
    (hanswerable : Answerable r.alert (response.command.map (·.action)) command) :
    ∃ tr, response.command = some tr ∧ tr.action = (command.value : Text) ∧
      (classifyTier command.value = .autoSafe ↔ ReadOnly r.action command) := by
  obtain ⟨tr, htr, haction⟩ := Option.map_eq_some_iff.mp hanswerable.action_eq
  have htranslates := (respond_eq_ok.mp h).1
  rw [htr, translateRecommendation_eq_some] at htranslates
  obtain ⟨other, hother, htier⟩ := exists_action_of_translates htranslates
  obtain rfl : other = command := value_injective (hother.symm.trans haction)
  exact ⟨tr, htr, haction, htier⟩

/-! ## What is decided -/

/-- A decision is about the action it was asked for. -/
theorem action_eq {globalMode : GlobalMode} {alert : PyVal} {commandAction : Option Text}
    {d : PolicyDecision} (h : Exit rt alert policies globalMode commandAction d) :
    d.action = commandAction := by
  cases h with
  | matched =>
      unfold matchedDecision
      dsimp only
      split_ifs <;> rfl
  | _ => rfl

/-- The recommendation runs by itself. -/
def RunsByItself (rt : Runtime) (r : Recommended) (policies : List ResponsePolicy)
    (command : Option Translation) : Prop :=
  ∃ action tr, command = some tr ∧ tr.action = (Action.value action : Text) ∧
    ReadOnly r.action action ∧ WellFormed r.alert ∧ Unmarked r.alert ∧
    ∀ p, firstPolicy policies r.alert action = some p → PassesGates rt p r.alert ∧ p.mode = .auto

theorem autoExecute_iff {response : Response}
    (h : respond rt r policies globalMode = .ok response) :
    response.decision.autoExecute = true ↔ RunsByItself rt r policies response.command := by
  rw [(respond_eq_ok.mp h).2,
    (evaluatePolicy_exit rt r.alert _ policies globalMode).autoExecute_iff, mode_eq_auto_iff]
  constructor
  · intro hruns
    obtain ⟨action, hanswerable, htier, hpolicy⟩ := hruns
    obtain ⟨tr, htr, haction, hreads⟩ := exists_command_of_answerable h hanswerable
    exact ⟨action, tr, htr, haction, hreads.mp htier, hanswerable.well, hanswerable.unmarked,
      hpolicy⟩
  · intro hruns
    obtain ⟨action, tr, htr, haction, hreads, hwell, hunmarked, hpolicy⟩ := hruns
    have hanswerable : Answerable r.alert (response.command.map (·.action)) action :=
      ⟨hwell, hunmarked, by rw [htr, Option.map_some, haction]⟩
    obtain ⟨_, _, _, htier⟩ := exists_command_of_answerable h hanswerable
    exact ⟨action, hanswerable, htier.mpr hreads, hpolicy⟩

theorem denied_iff {response : Response}
    (h : respond rt r policies globalMode = .ok response) :
    response.decision.mode = .denied ↔
      malformed r.alert ≠ none ∨ response.command ≠ none ∧ Marked r.alert := by
  obtain ⟨htranslates, hdecision⟩ := respond_eq_ok.mp h
  have hexit := evaluatePolicy_exit rt r.alert (response.command.map (·.action)) policies globalMode
  rw [← hdecision] at hexit
  generalize hcommand : response.command.map (·.action) = command at hexit
  generalize response.decision = d at hexit
  cases hexit with
  | malformed hmalformed => exact iff_of_true rfl (.inl (by simp [hmalformed]))
  | untranslated hwell =>
      rw [Option.map_eq_none_iff] at hcommand
      exact iff_of_false (by simp) (by simp [malformed_eq_none.mpr hwell, hcommand])
  | unknown _ hunknown =>
      obtain ⟨tr, htr, rfl⟩ := Option.map_eq_some_iff.mp hcommand
      rw [htr, translateRecommendation_eq_some] at htranslates
      obtain ⟨action, haction, _⟩ := exists_action_of_translates htranslates
      exact absurd haction (hunknown action)
  | marked hwell hmarked =>
      obtain ⟨tr, htr, _⟩ := Option.map_eq_some_iff.mp hcommand
      exact iff_of_true rfl (.inr ⟨by simp [htr], hmarked⟩)
  | unmatched hwell hunmarked _ =>
      refine iff_of_false (defaultDecision_ne_denied _) ?_
      simp [malformed_eq_none.mpr hwell, not_unmarked_iff.symm, hunmarked]
  | matched hwell hunmarked _ _ _ =>
      refine iff_of_false (matchedDecision_ne_denied _ _ _) ?_
      simp [malformed_eq_none.mpr hwell, not_unmarked_iff.symm, hunmarked]

/-- **The two stages composed.**  Exactly the recommendations that only read run by themselves,
where the alert and the first policy let them; a response is denied only for a malformed alert
or the executor's own; and what runs, waits or is previewed is the translated action. -/
theorem respond_sound {response : Response}
    (h : respond rt r policies globalMode = .ok response) :
    (response.decision.autoExecute = true ↔ RunsByItself rt r policies response.command) ∧
    (response.decision.mode = .denied ↔
      malformed r.alert ≠ none ∨ response.command ≠ none ∧ Marked r.alert) ∧
    (Runs response.decision.mode → ∃ tr, response.command = some tr ∧
      response.decision.action = some tr.action) := by
  refine ⟨autoExecute_iff h, denied_iff h, fun hruns => ?_⟩
  have hdecision := (respond_eq_ok.mp h).2
  rw [hdecision] at hruns
  obtain ⟨action, hanswerable⟩ := exists_answerable hruns
  obtain ⟨tr, htr, _⟩ := exists_command_of_answerable h hanswerable
  refine ⟨tr, htr, ?_⟩
  rw [hdecision, action_eq (evaluatePolicy_exit rt r.alert _ policies globalMode), htr]
  rfl

/-- A process to be looked into, with its alert. -/
def sampleRecommended : Recommended where
  action := "COLLECT_PROCESS_INFO"
  activeResponse := sampleRecommendation
  context := .none
  alert := cradleAlert (.finite 1)

/-- Without policies, the process is looked into by itself. -/
theorem respond_sound_sample :
    ∃ response, respond .sample sampleRecommended [] "simulate" = .ok response ∧
      RunsByItself .sample sampleRecommended [] response.command ∧
      response.decision.mode ≠ .denied ∧
      ∃ tr, response.command = some tr ∧ response.decision.action = some tr.action := by
  obtain ⟨response, hresponse⟩ := exists_eq_ok
    (x := respond .sample sampleRecommended [] "simulate") (by decide +kernel)
  have hdecided : (respond .sample sampleRecommended [] "simulate").map
      (fun response => (response.decision.autoExecute, response.decision.mode)) =
        .ok (true, .auto) := by
    decide +kernel
  rw [hresponse] at hdecided
  obtain ⟨hauto, hmode⟩ := Prod.mk.inj (Except.ok.inj hdecided)
  obtain ⟨hruns, _, hsame⟩ := respond_sound hresponse
  refine ⟨response, hresponse, hruns.mp hauto, ?_, hsame (.inr (.inr hmode))⟩
  rw [hmode]
  decide

end ResponseEngine.Pipeline
