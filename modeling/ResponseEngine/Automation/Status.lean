/-
  Automation/Status.lean --- the response status of an incident.

  `deriveResponseStatus` classifies every action of an incident, collects the
  classes and reports the first of them in order of precedence.  `ResponseStatus` is
  linearly ordered by that precedence, with `detected` lowest, and the report is the
  supremum of the classes.  Hence the order and the repetition of the actions do not
  matter, and two parts of an incident are reported by the maximum of their reports.
-/
import ResponseEngine.Contract.Action
import ResponseEngine.Foundation.Precedence

set_option autoImplicit false

namespace ResponseEngine.Automation

open ResponseEngine.Foundation ResponseEngine.Python ResponseEngine.Contract

/-! ## Statuses -/

/-- `ResponseStatus`. -/
inductive ResponseStatus where
  | resolved
  | contained
  | containmentUnverified
  | containmentFailed
  | responseExecuting
  | awaitingApproval
  | simulatedContainment
  | responseRecorded
  | detected
  deriving DecidableEq, Repr

namespace ResponseStatus

/-- The documented precedence, as a height. -/
def rank : ResponseStatus → ℕ
  | resolved => 8
  | contained => 7
  | containmentUnverified => 6
  | containmentFailed => 5
  | responseExecuting => 4
  | awaitingApproval => 3
  | simulatedContainment => 2
  | responseRecorded => 1
  | detected => 0

theorem rank_injective : Function.Injective rank := by
  intro a b h
  cases a <;> cases b <;> first | rfl | simp [rank] at h

instance : LinearOrder ResponseStatus := LinearOrder.lift' rank rank_injective

instance : OrderBot ResponseStatus where
  bot := detected
  bot_le a := Nat.zero_le (rank a)

end ResponseStatus

open ResponseStatus

/-! ## The source -/

/-- `VERIFIED_PREFIX`. -/
def verifiedPrefix : Text := "verified:"

/-- `CONTAINMENT_ACTIONS`. -/
def containmentActions : List Action := [.killProcess, .quarantineFile, .isolateHost]

/-- `v in (...)` or `v == ...`, of texts. -/
def isOneOf (v : PyVal) (texts : List Text) : Bool := texts.any fun t => v.pyEq (.str t)

/-- `action in CONTAINMENT_ACTIONS`: looking a value up in a set hashes it first. -/
def isContainment (action : PyVal) : Except PyError Bool := do
  raiseIf (!action.hashable) .typeError
  return isOneOf action (containmentActions.map fun a => (a.value : Text))

/-- `(detail or "").startswith(VERIFIED_PREFIX)`. -/
def isVerified (detail : PyVal) : Except PyError Bool :=
  if detail.truthy then
    match detail with
    | .str t => return t.startsWith verifiedPrefix
    -- bytes have a `startswith` too, which takes no text
    | .bytes _ => .error .typeError
    | _ => .error .attributeError
  else return false

/-- The status that one item adds to those found. -/
def itemStatus (item : Dict) : Except PyError ResponseStatus := do
  let command := Dict.get item "command_lifecycle_state"
  let containment ← isContainment (Dict.get item "action")
  if containment && isOneOf command ["SUCCEEDED"] then
    if ← isVerified (Dict.get item "result_detail") then return contained
    else return containmentUnverified
  else if containment && isOneOf command ["FAILED", "REJECTED", "INDETERMINATE", "EXPIRED"] then
    return containmentFailed
  else if containment && isOneOf command ["AUTHORIZED", "DISPATCHED", "ACCEPTED"] then
    return responseExecuting
  else if containment && isOneOf (Dict.get item "lifecycle_state") ["PENDING"] then
    return awaitingApproval
  else if isOneOf (Dict.get item "simulation_status") ["simulated"] then
    return simulatedContainment
  else return responseRecorded

/-- The order in which the statuses found are looked for. -/
def precedence : List ResponseStatus :=
  [contained, containmentUnverified, containmentFailed, responseExecuting, awaitingApproval,
    simulatedContainment, responseRecorded]

/-- `derive_response_status`. -/
def deriveResponseStatus (items : List Dict) (incidentStatus : Option Text) :
    Except PyError ResponseStatus :=
  if incidentStatus = some ("resolved" : Text) ∨
      incidentStatus = some ("false_positive" : Text) then
    return resolved
  else do
    let found ← items.mapM itemStatus
    return (precedence.find? fun status => decide (status ∈ found)).getD detected

/-! ## One item -/

/-- The analyst has closed the incident. -/
def Closed (incidentStatus : Option Text) : Prop :=
  incidentStatus = some ("resolved" : Text) ∨ incidentStatus = some ("false_positive" : Text)

/-- A containment action whose command succeeded with a verified observation. -/
structure VerifiedContainment (item : Dict) : Prop where
  action : ∃ a ∈ containmentActions, Dict.get item "action" = .str (a.value : Text)
  succeeded : Dict.get item "command_lifecycle_state" = .str "SUCCEEDED"
  verified : ∃ t, Dict.get item "result_detail" = .str t ∧ verifiedPrefix <+: t

/-- The detail of an item is a text or absent, and its action can be looked up. -/
structure Readable (item : Dict) : Prop where
  detail : Dict.get item "result_detail" = .none ∨ ∃ t, Dict.get item "result_detail" = .str t
  action : (Dict.get item "action").hashable = true

theorem isOneOf_iff {v : PyVal} {texts : List Text} :
    isOneOf v texts = true ↔ ∃ t ∈ texts, v = .str t := by
  simp only [isOneOf, List.any_eq_true, PyVal.pyEq_str]

theorem isContainment_eq_ok {action : PyVal} {b : Bool} : isContainment action = .ok b ↔
    action.hashable = true ∧
      isOneOf action (containmentActions.map fun a => (a.value : Text)) = b := by
  simp only [isContainment, bind_eq_ok, raiseIf_eq_ok, Bool.not_eq_false', pure_eq_ok,
    Except.ok.injEq]
  constructor
  · intro h
    obtain ⟨_, h⟩ := h
    exact h
  · intro h
    exact ⟨(), h⟩

/-- An action is a containment when it is one of the three texts. -/
theorem isContainment_eq_true {action : PyVal} : isContainment action = .ok true ↔
    ∃ a ∈ containmentActions, action = .str (a.value : Text) := by
  rw [isContainment_eq_ok, isOneOf_iff]
  constructor
  · intro ⟨_, t, ht, haction⟩
    obtain ⟨a, ha, rfl⟩ := List.mem_map.mp ht
    exact ⟨a, ha, haction⟩
  · intro ⟨a, ha, haction⟩
    rw [haction]
    exact ⟨rfl, _, List.mem_map_of_mem ha, rfl⟩

theorem isVerified_eq_true {detail : PyVal} : isVerified detail = .ok true ↔
    ∃ t, detail = .str t ∧ verifiedPrefix <+: t := by
  unfold isVerified
  split_ifs with htruthy
  · cases detail with
    | str t => simp [Text.startsWith, List.isPrefixOf_iff_prefix]
    | _ => simp
  · simp only [pure_eq_ok, Except.ok.injEq, Bool.false_eq_true, false_iff]
    intro ⟨t, ht, hprefix⟩
    subst ht
    have hempty : t = [] := by simpa [PyVal.truthy] using htruthy
    rw [hempty] at hprefix
    exact absurd (List.prefix_nil.mp hprefix) (by decide)

theorem exists_isVerified {item : Dict} (h : Readable item) :
    ∃ b, isVerified (Dict.get item "result_detail") = .ok b := by
  rcases h.detail with hnone | ⟨t, ht⟩
  · rw [hnone]
    exact ⟨false, rfl⟩
  · rw [ht, isVerified]
    split_ifs
    · exact ⟨_, rfl⟩
    · exact ⟨_, rfl⟩

/-- Every item adds one of the listed statuses. -/
theorem mem_precedence_of_itemStatus {item : Dict} {s : ResponseStatus}
    (h : itemStatus item = .ok s) : s ∈ precedence := by
  simp only [itemStatus, bind_eq_ok] at h
  obtain ⟨containment, -, h⟩ := h
  split_ifs at h
  · obtain ⟨verified, -, h⟩ := bind_eq_ok.mp h
    split_ifs at h <;> (obtain rfl := Except.ok.inj h; decide)
  all_goals (obtain rfl := Except.ok.inj h; decide)

/-- An item whose fields can be read is classified. -/
theorem exists_itemStatus {item : Dict} (h : Readable item) : ∃ s, itemStatus item = .ok s := by
  obtain ⟨verified, hverified⟩ := exists_isVerified h
  have hcontainment := isContainment_eq_ok.mpr ⟨h.action, rfl⟩
  simp only [itemStatus, hcontainment, hverified, ok_bind]
  split_ifs <;> exact ⟨_, rfl⟩

/-- Exactly the verified containments count as contained. -/
theorem itemStatus_eq_contained {item : Dict} :
    itemStatus item = .ok contained ↔ VerifiedContainment item := by
  constructor
  · intro h
    simp only [itemStatus, bind_eq_ok] at h
    obtain ⟨containment, hcontainment, h⟩ := h
    split_ifs at h with hsucceeded
    · obtain ⟨verified, hverified, h⟩ := bind_eq_ok.mp h
      split_ifs at h with htrue
      · rw [Bool.and_eq_true] at hsucceeded
        rw [hsucceeded.1] at hcontainment
        rw [htrue] at hverified
        refine ⟨isContainment_eq_true.mp hcontainment, ?_, isVerified_eq_true.mp hverified⟩
        simpa [isOneOf_iff] using hsucceeded.2
      · exact absurd (Except.ok.inj h) (by decide)
    all_goals exact absurd (Except.ok.inj h) (by decide)
  · intro h
    have hcontainment := isContainment_eq_true.mpr h.action
    have hverified := isVerified_eq_true.mpr h.verified
    simp [itemStatus, hcontainment, h.succeeded, hverified, isOneOf]

/-! ## All items -/

theorem precedence_decreasing : precedence.Pairwise (· > ·) := by decide

theorem le_contained_of_mem : ∀ s ∈ precedence, s ≤ contained := by decide

theorem derive_of_closed {items : List Dict} {incidentStatus : Option Text}
    (h : Closed incidentStatus) : deriveResponseStatus items incidentStatus = .ok resolved :=
  if_pos h

/-- The scan in order of precedence gives the supremum of what was found. -/
theorem derive_of_not_closed {items : List Dict} {incidentStatus : Option Text}
    (h : ¬ Closed incidentStatus) : deriveResponseStatus items incidentStatus = do
      let found ← items.mapM itemStatus
      return (found : Multiset ResponseStatus).sup := by
  unfold Closed at h
  rw [deriveResponseStatus, if_neg h]
  cases hfound : items.mapM itemStatus with
  | error e => rfl
  | ok found =>
      have hlisted : ∀ s ∈ found, s ∈ precedence ∨ s = ⊥ := by
        intro s hs
        obtain ⟨item, -, hitem⟩ := (mem_iff_of_mapM_eq_ok hfound).mp hs
        exact Or.inl (mem_precedence_of_itemStatus hitem)
      exact congrArg Except.ok (find?_getD_eq_sup (fun _ => decide_eq_true_iff)
        precedence_decreasing hlisted)

theorem derive_singleton {item : Dict} {incidentStatus : Option Text}
    (h : ¬ Closed incidentStatus) :
    deriveResponseStatus [item] incidentStatus = itemStatus item := by
  rw [derive_of_not_closed h, List.mapM_cons, List.mapM_nil]
  cases itemStatus item with
  | error e => rfl
  | ok s => exact congrArg Except.ok Multiset.sup_singleton

/-- A report of an open incident is the supremum of the statuses of its items. -/
theorem derive_eq_ok_iff {items : List Dict} {incidentStatus : Option Text} {s : ResponseStatus}
    (h : ¬ Closed incidentStatus) : deriveResponseStatus items incidentStatus = .ok s ↔
      ∃ found, items.mapM itemStatus = .ok found ∧ (found : Multiset ResponseStatus).sup = s := by
  rw [derive_of_not_closed h, bind_eq_ok]
  simp only [pure_eq_ok, Except.ok.injEq]

/-- Nothing that is found is as high as `resolved`. -/
theorem derive_ne_resolved {items : List Dict} {incidentStatus : Option Text}
    (h : ¬ Closed incidentStatus) : deriveResponseStatus items incidentStatus ≠ .ok resolved := by
  intro hd
  obtain ⟨found, hfound, hsup⟩ := (derive_eq_ok_iff h).mp hd
  obtain ⟨hmem, -⟩ := (sup_eq_iff (by decide)).mp hsup
  obtain ⟨item, -, hitem⟩ := (mem_iff_of_mapM_eq_ok hfound).mp hmem
  exact absurd (mem_precedence_of_itemStatus hitem) (by decide)

/-- Items that are classified at all are classified together with any others of them. -/
theorem exists_derive {items : List Dict} (incidentStatus : Option Text)
    (h : ∀ item ∈ items, Readable item) :
    ∃ s, deriveResponseStatus items incidentStatus = .ok s := by
  by_cases hclosed : Closed incidentStatus
  · exact ⟨resolved, derive_of_closed hclosed⟩
  · obtain ⟨found, hfound⟩ :=
      exists_mapM_eq_ok.mpr fun item hitem => exists_itemStatus (h item hitem)
    exact ⟨_, (derive_eq_ok_iff hclosed).mpr ⟨found, hfound, rfl⟩⟩

/-- Only the items that occur matter. -/
theorem derive_congr {items others : List Dict} {incidentStatus : Option Text} {s : ResponseStatus}
    (hsame : ∀ item, item ∈ items ↔ item ∈ others)
    (h : deriveResponseStatus items incidentStatus = .ok s) :
    deriveResponseStatus others incidentStatus = .ok s := by
  by_cases hclosed : Closed incidentStatus
  · rwa [derive_of_closed hclosed] at h ⊢
  · obtain ⟨found, hfound, hsup⟩ := (derive_eq_ok_iff hclosed).mp h
    obtain ⟨found', hfound'⟩ := exists_mapM_eq_ok.mpr fun item hitem =>
      exists_mapM_eq_ok.mp ⟨found, hfound⟩ item ((hsame item).mpr hitem)
    refine (derive_eq_ok_iff hclosed).mpr ⟨found', hfound', hsup ▸ sup_congr fun t => ?_⟩
    rw [Multiset.mem_coe, Multiset.mem_coe, mem_iff_of_mapM_eq_ok hfound,
      mem_iff_of_mapM_eq_ok hfound']
    exact exists_congr fun item => and_congr_left fun _ => (hsame item).symm

/-- Two parts are reported by the maximum of their reports. -/
theorem derive_append {items others : List Dict} {incidentStatus : Option Text}
    {s t : ResponseStatus} (hs : deriveResponseStatus items incidentStatus = .ok s)
    (ht : deriveResponseStatus others incidentStatus = .ok t) :
    deriveResponseStatus (items ++ others) incidentStatus = .ok (max s t) := by
  by_cases hclosed : Closed incidentStatus
  · rw [derive_of_closed hclosed, Except.ok.injEq] at hs ht
    rw [derive_of_closed hclosed, ← hs, ← ht, max_self]
  · obtain ⟨found, hfound, hsup⟩ := (derive_eq_ok_iff hclosed).mp hs
    obtain ⟨found', hfound', hsup'⟩ := (derive_eq_ok_iff hclosed).mp ht
    refine (derive_eq_ok_iff hclosed).mpr ⟨found ++ found', ?_, ?_⟩
    · rw [List.mapM_append, hfound, hfound']
      rfl
    · rw [← Multiset.coe_add, Multiset.sup_add, hsup, hsup']

/-- An open incident is contained when one of its items is. -/
theorem derive_contained_iff {items : List Dict} {incidentStatus : Option Text}
    {s : ResponseStatus} (hopen : ¬ Closed incidentStatus)
    (h : deriveResponseStatus items incidentStatus = .ok s) :
    s = contained ↔ ∃ item ∈ items, VerifiedContainment item := by
  obtain ⟨found, hfound, rfl⟩ := (derive_eq_ok_iff hopen).mp h
  rw [sup_eq_iff (by decide), Multiset.mem_coe, mem_iff_of_mapM_eq_ok hfound]
  simp only [itemStatus_eq_contained]
  refine and_iff_left fun t ht => ?_
  obtain ⟨item, -, hitem⟩ := (mem_iff_of_mapM_eq_ok hfound).mp ht
  exact le_contained_of_mem t (mem_precedence_of_itemStatus hitem)

/-! ## The report -/

/-- What the report of an incident says about its items. -/
structure Reports (items : List Dict) (incidentStatus : Option Text) : Prop where
  /-- items that can be read are reported -/
  returns : (∀ item ∈ items, Readable item) →
    ∃ s, deriveResponseStatus items incidentStatus = .ok s
  resolved_iff : deriveResponseStatus items incidentStatus = .ok resolved ↔ Closed incidentStatus
  /-- an open incident has the highest of the statuses of its single items -/
  highest : ¬ Closed incidentStatus → deriveResponseStatus items incidentStatus = do
    let statuses ← items.mapM fun item => deriveResponseStatus [item] incidentStatus
    return (statuses : Multiset ResponseStatus).sup
  /-- neither order nor repetition matters -/
  sameItems : ∀ others, (∀ item, item ∈ items ↔ item ∈ others) → ∀ s,
    deriveResponseStatus items incidentStatus = .ok s →
      deriveResponseStatus others incidentStatus = .ok s
  concatenation : ∀ others s t, deriveResponseStatus items incidentStatus = .ok s →
    deriveResponseStatus others incidentStatus = .ok t →
      deriveResponseStatus (items ++ others) incidentStatus = .ok (max s t)
  contained_iff : ¬ Closed incidentStatus → ∀ s,
    deriveResponseStatus items incidentStatus = .ok s →
      (s = contained ↔ ∃ item ∈ items, VerifiedContainment item)

/-- **The status model**: for every list of items and every incident status. -/
theorem deriveResponseStatus_reports (items : List Dict) (incidentStatus : Option Text) :
    Reports items incidentStatus where
  returns := exists_derive incidentStatus
  resolved_iff := by
    constructor
    · intro h
      by_contra hopen
      exact derive_ne_resolved hopen h
    · exact derive_of_closed
  highest := by
    intro hopen
    simp only [derive_singleton hopen]
    exact derive_of_not_closed hopen
  sameItems others hsame s h := derive_congr hsame h
  concatenation others s t hs ht := derive_append hs ht
  contained_iff hopen s h := derive_contained_iff hopen h

/-- A kill that was verified, beside one that is still pending. -/
example : deriveResponseStatus
    [[("action", .str "KILL_PROCESS"), ("lifecycle_state", .str "PENDING")],
      [("action", .str "KILL_PROCESS"), ("command_lifecycle_state", .str "SUCCEEDED"),
        ("result_detail", .str "verified: pid 7 gone")]] none = .ok contained := by
  decide +kernel

end ResponseEngine.Automation
