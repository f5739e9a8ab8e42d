/-
  Automation/Incident.lean --- the status of an incident while its commands run.

  `Progress` is what may happen to the rows of an incident between two reports: a
  row arrives, or one row changes as the lifecycle lets its command change.  Over
  every run, in any interleaving of the rows, a status that tells how containment
  ended is never lowered (`derive_never_regresses`), and `contained` is only reached
  by way of a dispatched containment command (`derive_contained_was_dispatched`).
-/
import ResponseEngine.Automation.Status
import ResponseEngine.Foundation.Reach
import ResponseEngine.Lifecycle

set_option autoImplicit false

namespace ResponseEngine.Automation

open ResponseEngine.Foundation ResponseEngine.Python ResponseEngine.Python.Pydantic
open ResponseEngine.Contract ResponseEngine.Lifecycle ResponseStatus Relation

/-! ## Rows -/

/-- The state of a row's command; `none` while there is no command. -/
def commandState? (row : Dict) : Option ResponseActionState :=
  Vocabulary.literal (Dict.get row "command_lifecycle_state")

/-- A row whose command, if it has one, is no further than authorized. -/
def Fresh (row : Dict) : Prop :=
  commandState? row = none ∨ commandState? row = some .authorized

/-- Two rows for the same action. -/
def SameAction (row next : Dict) : Prop := Dict.get next "action" = Dict.get row "action"

/-- What may happen to one row. -/
inductive RowStep (row next : Dict) : Prop where
  /-- fields other than the action, the command's state and its result change -/
  | annotate (haction : SameAction row next)
      (hstate : Dict.get next "command_lifecycle_state" = Dict.get row "command_lifecycle_state")
      (hdetail : Dict.get next "result_detail" = Dict.get row "result_detail")
  /-- a row without a command is changed, and may get an authorized one -/
  | authorize (haction : SameAction row next) (hnone : commandState? row = none)
      (hfresh : Fresh next)
  /-- the command makes a legal transition -/
  | transition {current requested : ResponseActionState} (haction : SameAction row next)
      (hcurrent : commandState? row = some current)
      (hlegal : isLegalTransition current requested = true)
      (hrequested : commandState? next = some requested)

/-- What may happen to the rows of an incident. -/
inductive Progress (rows : List Dict) : List Dict → Prop where
  | arrive (row : Dict) (hfresh : Fresh row) : Progress rows (rows ++ [row])
  | change {p : ℕ} {row : Dict} (next : Dict) (hrow : rows[p]? = some row)
      (hstep : RowStep row next) : Progress rows (rows.set p next)

/-- What one step can have done to the row at a place. -/
theorem Progress.row_before {rows later : List Dict} (h : Progress rows later) {place : ℕ}
    {next : Dict} (hnext : later[place]? = some next) :
    Fresh next ∨ ∃ row, rows[place]? = some row ∧ (row = next ∨ RowStep row next) := by
  cases h with
  | arrive row hfresh =>
      by_cases hlt : place < rows.length
      · rw [List.getElem?_append_left hlt] at hnext
        exact .inr ⟨next, hnext, .inl rfl⟩
      · rw [List.getElem?_append_right (not_lt.mp hlt)] at hnext
        rw [List.mem_singleton.mp (List.mem_of_getElem? hnext)]
        exact .inl hfresh
  | @change changed row replaced hrow hstep =>
      by_cases hplace : changed = place
      · subst hplace
        rw [List.getElem?_set_self', hrow] at hnext
        obtain rfl : replaced = next := Option.some.inj hnext
        exact .inr ⟨row, hrow, .inr hstep⟩
      · rw [List.getElem?_set_ne hplace] at hnext
        exact .inr ⟨next, hnext, .inl rfl⟩

/-- A row that is there stays at its place, unless a step changes it. -/
theorem Progress.row_after {rows later : List Dict} (h : Progress rows later) {row : Dict}
    (hrow : row ∈ rows) : row ∈ later ∨ ∃ next ∈ later, RowStep row next := by
  cases h with
  | arrive arrived _ => exact .inl (List.mem_append_left [arrived] hrow)
  | @change place changed next hchanged hstep =>
      obtain ⟨index, hindex⟩ := List.mem_iff_getElem?.mp hrow
      by_cases hplace : place = index
      · subst hplace
        obtain rfl : changed = row := Option.some.inj (hchanged.symm.trans hindex)
        refine .inr ⟨next, ?_, hstep⟩
        apply List.mem_of_getElem? (i := place)
        rw [List.getElem?_set_self', hchanged]
        rfl
      · refine .inl (List.mem_of_getElem? (i := index) ?_)
        rw [List.getElem?_set_ne hplace]
        exact hindex

/-! ## One kill -/

/-- The row of a process kill whose command is in a given state. -/
def killRow (state : ResponseActionState) (detail : PyVal) : Dict :=
  [("action", .str "KILL_PROCESS"), ("command_lifecycle_state", .str state.value),
    ("result_detail", detail)]

theorem commandState?_killRow (state : ResponseActionState) (detail : PyVal) :
    commandState? (killRow state detail) = some state :=
  Vocabulary.literal_eq_some_iff.mpr rfl

/-- A legal transition of its command. -/
theorem killRow_progress {current requested : ResponseActionState} (detail : PyVal)
    (hlegal : isLegalTransition current requested = true) :
    Progress [killRow current .none] [killRow requested detail] := by
  have hstep : RowStep (killRow current .none) (killRow requested detail) :=
    .transition rfl (commandState?_killRow _ _) hlegal (commandState?_killRow _ _)
  exact Progress.change (p := 0) (killRow requested detail) rfl hstep

/-- A kill that is authorized, dispatched and verified. -/
theorem killRow_run :
    ReflTransGen Progress [killRow .authorized .none]
      [killRow .succeeded (.str "verified: pid 7 gone")] := by
  have hdispatch : Progress [killRow .authorized .none] [killRow .dispatched .none] :=
    killRow_progress .none rfl
  exact .tail (.single hdispatch) (killRow_progress _ rfl)

/-! ## Containment that has ended -/

/-- A command whose state is one of the listed texts is in one of the states they stand for. -/
theorem exists_commandState {row : Dict} (states : List ResponseActionState)
    (h : isOneOf (Dict.get row "command_lifecycle_state")
      (states.map fun state => (state.value : Text)) = true) :
    ∃ state ∈ states, commandState? row = some state := by
  obtain ⟨t, ht, hvalue⟩ := isOneOf_iff.mp h
  obtain ⟨state, hstate, rfl⟩ := List.mem_map.mp ht
  exact ⟨state, hstate, Vocabulary.literal_eq_some_iff.mpr hvalue⟩

/-- The row says how its containment ended: its command is at an end. -/
structure Ended (row : Dict) (s : ResponseStatus) : Prop where
  status : itemStatus row = .ok s
  le : containmentFailed ≤ s

theorem Ended.terminal {row : Dict} {s : ResponseStatus} (h : Ended row s) :
    ∃ state ∈ ResponseActionState.terminal, commandState? row = some state := by
  have hstatus := h.status
  simp only [itemStatus, bind_eq_ok] at hstatus
  obtain ⟨containment, -, hstatus⟩ := hstatus
  split_ifs at hstatus with hsucceeded hfailed
  · rw [Bool.and_eq_true] at hsucceeded
    obtain ⟨state, hmem, hstate⟩ := exists_commandState [.succeeded] hsucceeded.2
    rw [List.mem_singleton.mp hmem] at hstate
    exact ⟨.succeeded, by decide, hstate⟩
  · rw [Bool.and_eq_true] at hfailed
    obtain ⟨state, hmem, hstate⟩ :=
      exists_commandState [.failed, .rejected, .indeterminate, .expired] hfailed.2
    have hterminal : ∀ state ∈ ([.failed, .rejected, .indeterminate, .expired] :
        List ResponseActionState), state ∈ ResponseActionState.terminal := by decide
    exact ⟨state, hterminal state hmem, hstate⟩
  all_goals
    obtain rfl := Except.ok.inj hstatus
    exact absurd h.le (by decide)

/-- A success that is reported is the success of a containment command. -/
theorem Ended.succeeded {row : Dict} {s : ResponseStatus} (h : Ended row s)
    (hle : containmentUnverified ≤ s) :
    (∃ a ∈ containmentActions, Dict.get row "action" = .str (a.value : Text)) ∧
      commandState? row = some .succeeded := by
  have hstatus := h.status
  simp only [itemStatus, bind_eq_ok] at hstatus
  obtain ⟨containment, hcontainment, hstatus⟩ := hstatus
  split_ifs at hstatus with hsucceeded
  · rw [Bool.and_eq_true] at hsucceeded
    rw [hsucceeded.1] at hcontainment
    obtain ⟨state, hmem, hstate⟩ := exists_commandState [.succeeded] hsucceeded.2
    rw [List.mem_singleton.mp hmem] at hstate
    exact ⟨isContainment_eq_true.mp hcontainment, hstate⟩
  all_goals
    obtain rfl := Except.ok.inj hstatus
    exact absurd hle (by decide)

/-- What such a row says is read from three of its fields. -/
theorem Ended.annotate {row next : Dict} {s : ResponseStatus} (h : Ended row s)
    (haction : SameAction row next)
    (hstate : Dict.get next "command_lifecycle_state" = Dict.get row "command_lifecycle_state")
    (hdetail : Dict.get next "result_detail" = Dict.get row "result_detail") : Ended next s := by
  refine ⟨?_, h.le⟩
  have hstatus := h.status
  simp only [itemStatus, bind_eq_ok] at hstatus ⊢
  obtain ⟨containment, hcontainment, hstatus⟩ := hstatus
  refine ⟨containment, haction ▸ hcontainment, ?_⟩
  rw [hstate, hdetail]
  split_ifs at hstatus ⊢ with hsucceeded hfailed
  · exact hstatus
  · exact hstatus
  all_goals
    obtain rfl := Except.ok.inj hstatus
    exact absurd h.le (by decide)

/-- No step takes back how containment ended. -/
theorem Ended.rowStep {row next : Dict} {s : ResponseStatus} (h : Ended row s)
    (hstep : RowStep row next) : Ended next s := by
  obtain ⟨state, hterminal, hstate⟩ := h.terminal
  cases hstep with
  | annotate haction hcommand hdetail => exact h.annotate haction hcommand hdetail
  | authorize _ hnone _ =>
      rw [hnone] at hstate
      exact absurd hstate (by simp)
  | transition _ hcurrent hlegal _ =>
      obtain rfl := Option.some.inj (hcurrent.symm.trans hstate)
      rw [isLegalTransition, if_pos hterminal] at hlegal
      exact absurd hlegal (by simp)

/-- Some row says that containment ended so. -/
def HasEnded (s : ResponseStatus) (rows : List Dict) : Prop := ∃ row ∈ rows, Ended row s

theorem hasEnded_of_progress {rows later : List Dict} {s : ResponseStatus}
    (h : HasEnded s rows) (hstep : Progress rows later) : HasEnded s later := by
  obtain ⟨row, hrow, hended⟩ := h
  rcases hstep.row_after hrow with hmem | ⟨next, hnext, hrowStep⟩
  · exact ⟨row, hmem, hended⟩
  · exact ⟨next, hnext, hended.rowStep hrowStep⟩

/-- A report that tells how containment ended has it from a row. -/
theorem hasEnded_of_derive {rows : List Dict} {incidentStatus : Option Text} {s : ResponseStatus}
    (hopen : ¬ Closed incidentStatus) (h : deriveResponseStatus rows incidentStatus = .ok s)
    (hle : containmentFailed ≤ s) : HasEnded s rows := by
  obtain ⟨found, hfound, hsup⟩ := (derive_eq_ok_iff hopen).mp h
  have hne : s ≠ ⊥ := by
    rintro rfl
    exact absurd hle (by decide)
  obtain ⟨row, hrow, hstatus⟩ :=
    (mem_iff_of_mapM_eq_ok hfound).mp (Multiset.mem_coe.mp ((sup_eq_iff hne).mp hsup).1)
  exact ⟨row, hrow, hstatus, hle⟩

/-- A report is at least what any row says. -/
theorem le_of_hasEnded {rows : List Dict} {incidentStatus : Option Text} {s t : ResponseStatus}
    (hopen : ¬ Closed incidentStatus) (h : deriveResponseStatus rows incidentStatus = .ok t)
    (hended : HasEnded s rows) : s ≤ t := by
  obtain ⟨found, hfound, rfl⟩ := (derive_eq_ok_iff hopen).mp h
  obtain ⟨row, hrow, hstatus⟩ := hended
  exact Multiset.le_sup ((mem_iff_of_mapM_eq_ok hfound).mpr ⟨row, hrow, hstatus.status⟩)

/-- **Containment that has ended stays reported.**  Over every run of an incident's rows, a
report of how containment ended is never followed by a lower one. -/
theorem derive_never_regresses {rows later : List Dict} {incidentStatus : Option Text}
    {s t : ResponseStatus} (hrun : ReflTransGen Progress rows later)
    (hbefore : deriveResponseStatus rows incidentStatus = .ok s) (hle : containmentFailed ≤ s)
    (hafter : deriveResponseStatus later incidentStatus = .ok t) : s ≤ t := by
  by_cases hclosed : Closed incidentStatus
  · rw [derive_of_closed hclosed, Except.ok.injEq] at hbefore hafter
    rw [← hbefore, ← hafter]
  · have hended : HasEnded s later := Reach.preserved (fun _ _ => hasEnded_of_progress) hrun
      (hasEnded_of_derive hclosed hbefore hle)
    exact le_of_hasEnded hclosed hafter hended

/-- A failed kill stays reported when another one is authorized. -/
theorem derive_never_regresses_sample :
    ∃ t, deriveResponseStatus [killRow .failed .none, killRow .authorized .none] none = .ok t ∧
      containmentFailed ≤ t := by
  have harrival : Progress [killRow .failed .none]
      [killRow .failed .none, killRow .authorized .none] :=
    Progress.arrive (killRow .authorized .none) (.inr (commandState?_killRow _ _))
  have hbefore : deriveResponseStatus [killRow .failed .none] none = .ok containmentFailed := by
    decide +kernel
  have hafter : deriveResponseStatus [killRow .failed .none, killRow .authorized .none] none =
      .ok containmentFailed := by
    decide +kernel
  exact ⟨_, hafter, derive_never_regresses (.single harrival) hbefore le_rfl hafter⟩

/-! ## How a success was reached -/

/-- At a place there is a row for an action, with its command in one of the states. -/
def Stands (place : ℕ) (action : PyVal) (states : List ResponseActionState)
    (rows : List Dict) : Prop :=
  ∃ row, rows[place]? = some row ∧ Dict.get row "action" = action ∧
    ∃ state ∈ states, commandState? row = some state

/-- No fresh row is past its authorization. -/
theorem Fresh.not_past {row : Dict} {states : List ResponseActionState}
    {state : ResponseActionState} (h : Fresh row) (hstates : .authorized ∉ states)
    (hmem : state ∈ states) : ¬ commandState? row = some state := by
  intro hstate
  rcases h with hnone | hauthorized
  · rw [hnone] at hstate
    exact absurd hstate (by simp)
  · obtain rfl := Option.some.inj (hauthorized.symm.trans hstate)
    exact hstates hmem

theorem not_stands_of_fresh {place : ℕ} {action : PyVal} {states : List ResponseActionState}
    {rows : List Dict} (hstates : .authorized ∉ states) (hfresh : ∀ row ∈ rows, Fresh row) :
    ¬ Stands place action states rows := by
  intro h
  obtain ⟨row, hrow, _, state, hmem, hstate⟩ := h
  exact (hfresh row (List.mem_of_getElem? hrow)).not_past hstates hmem hstate

/-- States that can only be entered from others are entered from them by the same row. -/
theorem stands_of_progress {place : ℕ} {action : PyVal}
    {states sources : List ResponseActionState} (hstates : .authorized ∉ states)
    (hsources : ∀ current requested, isLegalTransition current requested = true →
      requested ∈ states → current ∈ states ∨ current ∈ sources)
    {rows later : List Dict} (hnot : ¬ Stands place action states rows)
    (hstep : Progress rows later) (h : Stands place action states later) :
    Stands place action sources rows := by
  obtain ⟨next, hnext, haction, state, hmem, hstate⟩ := h
  have hnotFresh : ¬ Fresh next := fun hfresh => hfresh.not_past hstates hmem hstate
  rcases hstep.row_before hnext with hfresh | ⟨row, hrow, rfl | hrowStep⟩
  · exact absurd hfresh hnotFresh
  · exact absurd ⟨row, hrow, haction, state, hmem, hstate⟩ hnot
  · cases hrowStep with
    | annotate hsame hcommand _ =>
        refine absurd ⟨row, hrow, hsame.symm.trans haction, state, hmem, ?_⟩ hnot
        rw [← hstate, commandState?, commandState?, hcommand]
    | authorize _ _ hfresh => exact absurd hfresh hnotFresh
    | @transition current requested hsame hcurrent hlegal hrequested =>
        obtain rfl := Option.some.inj (hrequested.symm.trans hstate)
        rcases hsources current requested hlegal hmem with hthere | hsource
        · exact absurd ⟨row, hrow, hsame.symm.trans haction, current, hthere, hcurrent⟩ hnot
        · exact ⟨row, hrow, hsame.symm.trans haction, current, hsource, hcurrent⟩

/-- Behind the dispatch are dispatched commands only. -/
theorem source_of_afterDispatch : ∀ current requested, isLegalTransition current requested = true →
    requested ∈ ResponseActionState.accepted :: ResponseActionState.outcomes →
    current ∈ ResponseActionState.accepted :: ResponseActionState.outcomes ∨
      current ∈ [ResponseActionState.dispatched] := by
  intro current requested
  cases current <;> cases requested <;> decide

/-- Behind the authorization are authorized commands only. -/
theorem source_of_dispatched : ∀ current requested, isLegalTransition current requested = true →
    requested ∈ [ResponseActionState.dispatched] →
    current ∈ [ResponseActionState.dispatched] ∨ current ∈ [ResponseActionState.authorized] := by
  intro current requested
  cases current <;> cases requested <;> decide

/-- **A success was dispatched.**  Where an open incident whose rows started fresh is reported
contained, verified or not, one of its rows has that status, and the command of that row
was authorized and then dispatched for the same containment action. -/
theorem derive_contained_was_dispatched {rows later : List Dict} {incidentStatus : Option Text}
    {s : ResponseStatus} (hfresh : ∀ row ∈ rows, Fresh row)
    (hrun : ReflTransGen Progress rows later) (hopen : ¬ Closed incidentStatus)
    (h : deriveResponseStatus later incidentStatus = .ok s) (hle : containmentUnverified ≤ s) :
    ∃ place row, later[place]? = some row ∧ itemStatus row = .ok s ∧
      ∃ a ∈ containmentActions, Dict.get row "action" = .str (a.value : Text) ∧
        ∃ before between, ReflTransGen Progress rows before ∧
          Stands place (.str (a.value : Text)) [.authorized] before ∧
          ReflTransGen Progress before between ∧
          Stands place (.str (a.value : Text)) [.dispatched] between ∧
          ReflTransGen Progress between later := by
  have hfailed : containmentFailed ≤ s := le_trans (by decide) hle
  obtain ⟨row, hrow, hended⟩ := hasEnded_of_derive hopen h hfailed
  obtain ⟨place, hplace⟩ := List.mem_iff_getElem?.mp hrow
  obtain ⟨⟨a, ha, haction⟩, hstate⟩ := hended.succeeded hle
  have hsucceeded : Stands place (.str (a.value : Text)) (.accepted :: ResponseActionState.outcomes)
      later := ⟨row, hplace, haction, .succeeded, by decide, hstate⟩
  obtain ⟨between, hbetween, hdispatched, hafter⟩ := Reach.exists_before
    (Q := Stands place (.str (a.value : Text)) (.accepted :: ResponseActionState.outcomes))
    (fun _ _ => stands_of_progress (by decide) source_of_afterDispatch) hrun
    (not_stands_of_fresh (by decide) hfresh) hsucceeded
  obtain ⟨before, hbefore, hauthorized, hlater⟩ := Reach.exists_before
    (Q := Stands place (.str (a.value : Text)) [.dispatched])
    (fun _ _ => stands_of_progress (by decide) source_of_dispatched) hbetween
    (not_stands_of_fresh (by decide) hfresh) hdispatched
  exact ⟨place, row, hplace, hended.status, a, ha, haction, before, between, hbefore,
    hauthorized, hlater, hdispatched, hafter⟩

theorem derive_contained_was_dispatched_sample :
    ∃ (place : ℕ) (row : Dict),
      [killRow .succeeded (.str "verified: pid 7 gone")][place]? = some row ∧
      itemStatus row = .ok contained := by
  have hfresh : ∀ row ∈ [killRow .authorized .none], Fresh row := by
    intro row hrow
    rw [List.mem_singleton.mp hrow]
    exact .inr (commandState?_killRow _ _)
  have hopen : ¬ Closed none := by simp [Closed]
  obtain ⟨place, row, hrow, hstatus, -⟩ := derive_contained_was_dispatched hfresh killRow_run hopen
    (s := contained) (by decide +kernel) (by decide)
  exact ⟨place, row, hrow, hstatus⟩

end ResponseEngine.Automation
