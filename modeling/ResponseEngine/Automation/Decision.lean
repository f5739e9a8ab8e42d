/-
  Automation/Decision.lean --- what a decision may say.

  Every exit of `evaluatePolicy` builds its decision through `decision`, and the
  mode of the two exits that may run something has passed `downgradeMode` or the
  tier, and then `rewriteMode`.  One spec lemma for each of these gives the safety
  law of every exit (`evaluatePolicy_safe`).
-/
import ResponseEngine.Automation

set_option autoImplicit false

namespace ResponseEngine.Automation

open ResponseEngine.Foundation ResponseEngine.Python ResponseEngine.Contract ResponseEngine.Policy

/-! ## Well-formed alerts -/

/-- What `_malformed` requires of an alert. -/
structure WellFormed (alert : PyVal) : Prop where
  isMapping : ∃ items, alert.asMapping? = some items
  named : ∀ key ∈ (["alert_id", "rule_id", "host_id"] : List String),
    ∃ t, Dict.get alert.entries key = .str t ∧ t.isBlank = false
  level : ∃ n : Int, Dict.get alert.entries "level" = .int n ∧ 0 ≤ n ∧ n ≤ 16
  evidence : Dict.getD alert.entries "evidence" (.dict []) = .none ∨
    ∃ items, (Dict.getD alert.entries "evidence" (.dict [])).asMapping? = some items

theorem missingKey_eq_none {alert : Dict} {key : String} :
    missingKey alert key = none ↔ ∃ t, Dict.get alert key = .str t ∧ t.isBlank = false := by
  unfold missingKey
  split
  · rename_i t ht
    cases hblank : t.isBlank <;> simp [ht, hblank]
  · rename_i hne
    simp only [reduceCtorEq, false_iff]
    rintro ⟨t, ht, _⟩
    exact hne t ht

theorem isLevel_iff {v : PyVal} : isLevel v = true ↔ ∃ n : Int, v = .int n ∧ 0 ≤ n ∧ n ≤ 16 := by
  cases v <;> simp [isLevel]

theorem entries_of_asMapping? {alert : PyVal} {items : Dict}
    (h : alert.asMapping? = some items) : alert.entries = items := by
  rw [PyVal.entries, h]
  rfl

theorem wellFormed_of_malformed {alert : PyVal} (h : malformed alert = none) :
    WellFormed alert := by
  unfold malformed at h
  cases hitems : alert.asMapping? with
  | none => simp [hitems] at h
  | some items =>
      simp only [hitems] at h
      split at h
      · simp at h
      · rename_i hkeys
        split_ifs at h with hlevel hevidence
        refine ⟨⟨items, hitems⟩, ?_, ?_, ?_⟩
        all_goals rw [entries_of_asMapping? hitems]
        · intro key hkey
          exact missingKey_eq_none.mp (List.findSome?_eq_none_iff.mp hkeys key hkey)
        · exact isLevel_iff.mp (by simpa using hlevel)
        · simp only [Bool.and_eq_true, Bool.not_eq_true', not_and,
            Option.isNone_iff_eq_none] at hevidence
          cases hnone : (Dict.getD items "evidence" (.dict [])).isNone with
          | true => exact .inl (PyVal.isNone_iff.mp hnone)
          | false => exact .inr (Option.ne_none_iff_exists'.mp (hevidence hnone))

theorem malformed_of_wellFormed {alert : PyVal} (h : WellFormed alert) :
    malformed alert = none := by
  obtain ⟨items, hitems⟩ := h.isMapping
  have hentries := entries_of_asMapping? hitems
  have hkeys : (["alert_id", "rule_id", "host_id"] : List String).findSome? (missingKey items) =
      none := by
    rw [List.findSome?_eq_none_iff]
    intro key hkey
    exact missingKey_eq_none.mpr (hentries ▸ h.named key hkey)
  have hlevel : isLevel (Dict.get items "level") = true := isLevel_iff.mpr (hentries ▸ h.level)
  have hevidence := hentries ▸ h.evidence
  unfold malformed
  simp only [hitems, hkeys, hlevel, Bool.not_true, Bool.false_eq_true, if_false]
  rw [if_neg]
  rcases hevidence with hnone | ⟨e, he⟩
  · simp [hnone, PyVal.isNone]
  · simp [he]

theorem malformed_eq_none {alert : PyVal} : malformed alert = none ↔ WellFormed alert :=
  ⟨wellFormed_of_malformed, malformed_of_wellFormed⟩

/-! ## Strings at any depth -/

/-- A text occurs as a string value somewhere in a value. -/
inductive StringValue : PyVal → Text → Prop where
  | str (t : Text) : StringValue (.str t) t
  | dict {items : Dict} {k : Key} {v : PyVal} {t : Text} (hmem : (k, v) ∈ items)
      (h : StringValue v t) : StringValue (.dict items) t
  | mapping {items : Dict} {k : Key} {v : PyVal} {t : Text} (hmem : (k, v) ∈ items)
      (h : StringValue v t) : StringValue (.mapping items) t
  | list {xs : List PyVal} {v : PyVal} {t : Text} (hmem : v ∈ xs) (h : StringValue v t) :
      StringValue (.list xs) t
  | tuple {xs : List PyVal} {v : PyVal} {t : Text} (hmem : v ∈ xs) (h : StringValue v t) :
      StringValue (.tuple xs) t

theorem mem_stringsOfList {xs : List PyVal} {t : Text} :
    t ∈ stringsOfList xs ↔ ∃ v ∈ xs, t ∈ strings v := by
  induction xs with
  | nil => simp [stringsOfList]
  | cons x xs ih => simp [stringsOfList, ih]

theorem mem_stringsOfItems {items : Dict} {t : Text} :
    t ∈ stringsOfItems items ↔ ∃ k v, (k, v) ∈ items ∧ t ∈ strings v := by
  induction items with
  | nil => simp [stringsOfItems]
  | cons entry items ih =>
      obtain ⟨k, v⟩ := entry
      simp only [stringsOfItems, List.mem_append, ih, List.mem_cons, Prod.mk.injEq]
      constructor
      · rintro (h | ⟨k', v', hmem, h⟩)
        · exact ⟨k, v, .inl ⟨rfl, rfl⟩, h⟩
        · exact ⟨k', v', .inr hmem, h⟩
      · rintro ⟨k', v', ⟨rfl, rfl⟩ | hmem, h⟩
        · exact .inl h
        · exact .inr ⟨k', v', hmem, h⟩

/-- `_strings` yields every string value, at any depth. -/
theorem mem_strings_of_stringValue {v : PyVal} {t : Text} (h : StringValue v t) :
    t ∈ strings v := by
  induction h with
  | str t => simp [strings]
  | dict hmem _ ih => exact mem_stringsOfItems.mpr ⟨_, _, hmem, ih⟩
  | mapping hmem _ ih => exact mem_stringsOfItems.mpr ⟨_, _, hmem, ih⟩
  | list hmem _ ih => exact mem_stringsOfList.mpr ⟨_, hmem, ih⟩
  | tuple hmem _ ih => exact mem_stringsOfList.mpr ⟨_, hmem, ih⟩

mutual

/-- `_strings` yields nothing else. -/
theorem stringValue_of_mem_strings : ∀ {v : PyVal} {t : Text}, t ∈ strings v → StringValue v t
  | .str s, t, h => by
      obtain rfl := List.mem_singleton.mp h
      exact .str t
  | .dict items, t, h => by
      obtain ⟨k, v, hmem, hv⟩ := stringValue_of_mem_items h
      exact .dict hmem hv
  | .mapping items, t, h => by
      obtain ⟨k, v, hmem, hv⟩ := stringValue_of_mem_items h
      exact .mapping hmem hv
  | .list xs, t, h => by
      obtain ⟨v, hmem, hv⟩ := stringValue_of_mem_list h
      exact .list hmem hv
  | .tuple xs, t, h => by
      obtain ⟨v, hmem, hv⟩ := stringValue_of_mem_list h
      exact .tuple hmem hv
  | .none, _, h => by simp [strings] at h
  | .bool _, _, h => by simp [strings] at h
  | .int _, _, h => by simp [strings] at h
  | .float _, _, h => by simp [strings] at h
  | .bytes _, _, h => by simp [strings] at h
  | .datetime _, _, h => by simp [strings] at h
  | .model _ _, _, h => by simp [strings] at h
  | .object _, _, h => by simp [strings] at h

theorem stringValue_of_mem_list :
    ∀ {xs : List PyVal} {t : Text}, t ∈ stringsOfList xs → ∃ v ∈ xs, StringValue v t
  | x :: xs, t, h => by
      rcases List.mem_append.mp h with h | h
      · exact ⟨x, List.mem_cons_self, stringValue_of_mem_strings h⟩
      · obtain ⟨v, hmem, hv⟩ := stringValue_of_mem_list h
        exact ⟨v, List.mem_cons_of_mem x hmem, hv⟩

theorem stringValue_of_mem_items :
    ∀ {items : Dict} {t : Text}, t ∈ stringsOfItems items →
      ∃ k v, (k, v) ∈ items ∧ StringValue v t
  | (k, v) :: items, t, h => by
      rcases List.mem_append.mp h with h | h
      · exact ⟨k, v, List.mem_cons_self, stringValue_of_mem_strings h⟩
      · obtain ⟨k', v', hmem, hv⟩ := stringValue_of_mem_items h
        exact ⟨k', v', List.mem_cons_of_mem (k, v) hmem, hv⟩

end

/-! ## Building a decision -/

variable {rt : Runtime} {globalMode : GlobalMode}

@[simp] theorem decision_mode (policyId : Text) (action : Option Text) (mode : DecisionMode)
    (reasons : List Text) (cooldown : Int) :
    (decision globalMode policyId action mode reasons cooldown).mode = mode := rfl

/-- What runs by itself is what the mode `auto` says. -/
theorem decision_autoExecute (policyId : Text) (action : Option Text) (mode : DecisionMode)
    (reasons : List Text) (cooldown : Int) :
    (decision globalMode policyId action mode reasons cooldown).autoExecute = true ↔
      mode = .auto :=
  decide_eq_true_iff

/-- `approval` survives under `enforce` only. -/
theorem rewriteMode_eq_approval {mode : DecisionMode} {reasons : List Text}
    (h : (rewriteMode globalMode mode reasons).1 = .approval) : globalMode = .enforce := by
  unfold rewriteMode at h
  split_ifs at h with hrewrite
  cases globalMode with
  | simulate => exact absurd ⟨h, rfl⟩ hrewrite
  | enforce => rfl

/-- Rewriting never makes a mode `auto`. -/
theorem rewriteMode_eq_auto {mode : DecisionMode} {reasons : List Text} :
    (rewriteMode globalMode mode reasons).1 = .auto ↔ mode = .auto := by
  unfold rewriteMode
  split_ifs with hrewrite
  · simp [hrewrite.1]
  · rfl

/-- `auto` survives for safe actions only. -/
theorem autoSafe_of_downgradeMode {action : Text} {mode : DecisionMode} {reasons : List Text}
    (h : (downgradeMode action mode reasons).1 = .auto) : classifyTier action = .autoSafe := by
  unfold downgradeMode at h
  split_ifs at h with hdowngrade
  by_contra hne
  exact hdowngrade ⟨h, hne⟩

theorem effectiveMode_eq_enforce {mode : Text} :
    effectiveMode mode = .enforce ↔ mode = "enforce" := by
  unfold effectiveMode
  split_ifs with h <;> simp [h]

/-! ## The two exits that may run something -/

/-- What a decision for an action may say, given the global mode. -/
structure Safe (globalMode : GlobalMode) (action : Text) (d : PolicyDecision) : Prop where
  action_eq : d.action = some action
  auto_iff : d.autoExecute = true ↔ d.mode = .auto
  autoSafe : d.mode = .auto → classifyTier action = .autoSafe
  approval : d.mode = .approval → globalMode = .enforce

/-- A decision for an action is safe when its mode is. -/
theorem decision_safe {policyId action : Text} {mode : DecisionMode} {reasons : List Text}
    {cooldown : Int} (hauto : mode = .auto → classifyTier action = .autoSafe)
    (happroval : mode = .approval → globalMode = .enforce) :
    Safe globalMode action
      (decision globalMode policyId (some action) mode reasons cooldown) where
  action_eq := rfl
  auto_iff := decision_autoExecute _ _ _ _ _
  autoSafe := hauto
  approval := happroval

theorem defaultDecision_safe (action : Text) :
    Safe globalMode action (defaultDecision globalMode action) := by
  apply decision_safe
  · intro hauto
    rw [rewriteMode_eq_auto] at hauto
    by_contra hne
    simp [hne] at hauto
  · exact rewriteMode_eq_approval

theorem matchedDecision_safe (policy : ResponsePolicy) (alert : Dict) (action : Text) :
    Safe globalMode action (matchedDecision rt globalMode policy alert action) := by
  unfold matchedDecision
  dsimp only
  split
  · apply decision_safe
    · intro hauto
      rw [rewriteMode_eq_auto] at hauto
      exact autoSafe_of_downgradeMode hauto
    · exact rewriteMode_eq_approval
  · apply decision_safe
    · intro hauto
      cases hauto
    · intro happroval
      cases happroval

/-! ## The safety law -/

/-- What every decision obeys, whatever the policies declare. -/
structure ObeysSafetyLaw (alert : PyVal) (commandAction : Option Text) (globalMode : Text)
    (d : PolicyDecision) : Prop where
  /-- the alert and the policies never choose the action -/
  action_eq : d.action = commandAction
  /-- only a well-formed alert, a safe action and foreign activity run by themselves -/
  autoExecute : d.autoExecute = true →
    WellFormed alert ∧
    (∃ action : Action, commandAction = some (action.value : Text) ∧
      classifyTier action.value = .autoSafe) ∧
    ∀ t, StringValue (Dict.get alert.entries "evidence") t → ¬ responseExecutorMarker <:+: t
  approval : d.mode = .approval → globalMode = "enforce"
  auto : ∀ action, commandAction = some action → classifyTier action ≠ .autoSafe → d.mode ≠ .auto

/-- A decision to deny or to record runs nothing. -/
theorem obeys_of_inert {alert : PyVal} {commandAction : Option Text} {globalMode : Text}
    {policyId : Text} {mode : DecisionMode} {reasons : List Text} {cooldown : Int}
    (hmode : mode = .denied ∨ mode = .record) :
    ObeysSafetyLaw alert commandAction globalMode
      (decision (effectiveMode globalMode) policyId commandAction mode reasons cooldown) := by
  have hne : mode ≠ .auto ∧ mode ≠ .approval := by
    rcases hmode with rfl | rfl <;> simp
  refine ⟨rfl, fun hauto => ?_, fun happroval => absurd happroval hne.2, fun _ _ _ => hne.1⟩
  exact absurd ((decision_autoExecute _ _ _ _ _).mp hauto) hne.1

/-- A safe decision on a well-formed alert without the marker. -/
theorem obeys_of_safe {alert : PyVal} {action globalMode : Text} {d : PolicyDecision}
    (hwell : malformed alert = none)
    (hloop : ¬ (strings (Dict.get alert.entries "evidence")).any
      (·.contains responseExecutorMarker) = true)
    (hsafe : Safe (effectiveMode globalMode) action d) :
    ObeysSafetyLaw alert (some action) globalMode d where
  action_eq := hsafe.action_eq
  autoExecute := by
    intro hauto
    have htier := hsafe.autoSafe (hsafe.auto_iff.mp hauto)
    obtain ⟨a, rfl⟩ := exists_action_of_autoSafe htier
    refine ⟨malformed_eq_none.mp hwell, ⟨a, rfl, htier⟩, ?_⟩
    intro t ht hmarker
    apply hloop
    exact List.any_eq_true.mpr ⟨t, mem_strings_of_stringValue ht, decide_eq_true hmarker⟩
  approval happroval := effectiveMode_eq_enforce.mp (hsafe.approval happroval)
  auto := by
    intro a ha htier hauto
    obtain rfl := Option.some.inj ha
    exact htier (hsafe.autoSafe hauto)

/-- **The safety law of `evaluate_policy`**, on every path and for every list of
policies. -/
theorem evaluatePolicy_obeys (rt : Runtime) (alert : PyVal) (commandAction : Option Text)
    (policies : List ResponsePolicy) (globalMode : Text) :
    ObeysSafetyLaw alert commandAction globalMode
      (evaluatePolicy rt alert commandAction policies globalMode) := by
  simp only [evaluatePolicy]
  split
  · exact obeys_of_inert (.inl rfl)
  · rename_i hwell
    cases commandAction with
    | none => exact obeys_of_inert (.inr rfl)
    | some action =>
        dsimp only
        split_ifs with hknown hloop
        · exact obeys_of_inert (.inl rfl)
        · exact obeys_of_inert (.inl rfl)
        -- The default tier and a matched policy are the exits that may run something.
        · split
          · exact obeys_of_safe hwell hloop (defaultDecision_safe action)
          · exact obeys_of_safe hwell hloop (matchedDecision_safe _ _ action)

end ResponseEngine.Automation
