/-
  Catalog.lean --- what the analyst is told about the closed actions.

  The catalog states a kind of target, a tier and a disruptive flag for each action, in a
  table of its own.  The contract, the policy and the triage never read that table, and it
  agrees with all three: a command is admitted exactly with the kind of target that is
  shown (`admitted_iff_described`), and what can run without a human is told by the tier and
  by the flag (`unattended_iff_described`).
-/
import ResponseEngine.Automation.Exits
import ResponseEngine.Contract.ClosedTarget
import ResponseEngine.Triage.Restriction

set_option autoImplicit false

namespace ResponseEngine.Catalog

open ResponseEngine.Foundation ResponseEngine.Python ResponseEngine.Python.Pydantic
open ResponseEngine.Contract ResponseEngine.Policy

/-! ## Descriptors -/

/-- `target_kind`. -/
inductive TargetKind where
  | process
  | file
  | host
  deriving DecidableEq, Repr

/-- `ActionDescriptor`. -/
structure ActionDescriptor where
  action : Action
  label : String
  targetKind : TargetKind
  tier : Tier
  disruptive : Bool
  description : String
  deriving DecidableEq, Repr

/-- `_METADATA`. -/
def metadata : Action → String × TargetKind × Bool × String
  | .killProcess => ("Terminate process", .process, true,
      "Terminate the exact process identity; cannot be undone.")
  | .collectProcessInfo => ("Collect process information", .process, false,
      "Inspect an exact process identity without terminating it.")
  | .collectNetworkConnections => ("Collect network connections", .host, false,
      "Collect the endpoint's current network connections.")
  | .collectFile => ("Collect file", .file, false,
      "Collect a specific file; collected content may contain sensitive data.")
  | .quarantineFile => ("Quarantine file", .file, true,
      "Move a specific file into endpoint quarantine.")
  | .isolateHost => ("Isolate host", .host, true,
      "Restrict endpoint networking while retaining management connectivity.")
  | .releaseHostIsolation => ("Release host isolation", .host, true,
      "Restore networking on an isolated endpoint.")

/-- The descriptor of an action. -/
def descriptor (action : Action) : ActionDescriptor where
  action
  label := (metadata action).1
  targetKind := (metadata action).2.1
  tier := classifyTier action.value
  disruptive := (metadata action).2.2.1
  description := (metadata action).2.2.2

/-- `action_catalog`. -/
def actionCatalog : List ActionDescriptor := actions.map descriptor

theorem mem_actionCatalog {d : ActionDescriptor} :
    d ∈ actionCatalog ↔ d = descriptor d.action := by
  rw [actionCatalog, List.mem_map]
  constructor
  · intro h
    obtain ⟨action, _, rfl⟩ := h
    rfl
  · intro h
    exact ⟨d.action, Vocabulary.mem_members d.action, h.symm⟩

/-- An action has one descriptor. -/
theorem exists_described {action : Action} {p : ActionDescriptor → Prop} :
    (∃ d ∈ actionCatalog, d.action = action ∧ p d) ↔ p (descriptor action) := by
  constructor
  · intro h
    obtain ⟨d, hmem, rfl, hp⟩ := h
    exact mem_actionCatalog.mp hmem ▸ hp
  · intro h
    exact ⟨descriptor action, mem_actionCatalog.mpr rfl, rfl, h⟩

/-! ## The kinds of target -/

/-- The kind of a target that the contract admits. -/
def kind : ClosedTarget → TargetKind
  | .process _ => .process
  | .bootProcess _ => .process
  | .file _ => .file
  | .host => .host

/-- The schema version that a target belongs to. -/
def version : ClosedTarget → SchemaVersion
  | .bootProcess _ => .v2
  | _ => .v1

theorem targetKind_eq_process {action : Action} :
    (descriptor action).targetKind = .process ↔ action ∈ processActions := by
  cases action <;> decide

theorem targetKind_eq_file {action : Action} :
    (descriptor action).targetKind = .file ↔ action ∈ fileActions := by
  cases action <;> decide

theorem targetKind_eq_host {action : Action} :
    (descriptor action).targetKind = .host ↔ action ∉ processActions ∧ action ∉ fileActions := by
  cases action <;> decide

/-- A target fits an action when it is of the kind that the catalog shows, in its version. -/
theorem fits_iff_kind {t : ClosedTarget} {schemaVersion : SchemaVersion} {action : Action} :
    t.Fits schemaVersion action ↔
      kind t = (descriptor action).targetKind ∧ version t = schemaVersion := by
  rw [eq_comm (b := (descriptor action).targetKind)]
  cases t <;> cases schemaVersion <;>
    simp [ClosedTarget.Fits, kind, version, targetKind_eq_process, targetKind_eq_file,
      targetKind_eq_host]

/-- **The catalog describes the contract.**  A command is admitted exactly when its target is
one of the kind that the descriptor of its action shows. -/
theorem admitted_iff_described (rt : Runtime) (self : Command) :
    Command.enforceClosedTargetSchema rt self = .ok () ↔
      (self.schemaVersion = .v2 → self.expiresAt.utcoffset.isSome = true) ∧
        ∃ d ∈ actionCatalog, d.action = self.action ∧
          ∃ t : ClosedTarget, kind t = d.targetKind ∧ version t = self.schemaVersion ∧
            Dict.Same self.target t.toDict := by
  rw [Command.enforceClosedTargetSchema_eq_ok, exists_described]
  simp only [fits_iff_kind, and_assoc]

/-! ## What can run without a human -/

/-- Some alert runs the action by itself, under some policies. -/
def CanExecute (rt : Runtime) (action : Action) : Prop :=
  ∃ (alert : PyVal) (policies : List Automation.ResponsePolicy) (globalMode : Text),
    (Automation.evaluatePolicy rt alert (some action.value) policies globalMode).autoExecute = true

/-- Some validated triage policy sends the action by itself. -/
def CanDispatch (action : Action) : Prop :=
  ∃ (policy : Triage.AutoTriagePolicy) (assetClass : Text) (s : Triage.Situation)
    (d : Triage.TriageDecision), policy.Valid ∧
      Triage.evaluate policy action.value assetClass s.endpoint s.usage s.processIdentityVerified
        s.filePath = .ok d ∧ d.decision = .autoDispatch

/-- Without policies a safe action runs by itself; no policy makes another one do so. -/
theorem canExecute_iff {rt : Runtime} {action : Action} :
    CanExecute rt action ↔ classifyTier action.value = .autoSafe := by
  constructor
  · intro h
    obtain ⟨alert, policies, globalMode, hauto⟩ := h
    have hexit := Automation.evaluatePolicy_exit rt alert (some action.value) policies globalMode
    obtain ⟨other, hanswerable, htier, _⟩ :=
      Automation.mode_eq_auto_iff.mp (hexit.autoExecute_iff.mp hauto)
    obtain rfl : action = other :=
      Automation.value_injective (Option.some.inj hanswerable.action_eq)
    exact htier
  · intro htier
    let alert := Automation.cradleAlert (.finite 1)
    have hanswerable : Automation.Answerable alert (some action.value) action :=
      ⟨Automation.wellFormed_cradleAlert _, Automation.unmarked_cradleAlert _, rfl⟩
    refine ⟨alert, [], "simulate", ?_⟩
    have hexit := Automation.evaluatePolicy_exit rt alert (some action.value) [] "simulate"
    refine hexit.autoExecute_iff.mpr (Automation.mode_eq_auto_iff.mpr ?_)
    exact ⟨action, hanswerable, htier, fun p hp => by simp [Automation.firstPolicy] at hp⟩

/-- A policy that sends one collection by itself, of one file where it is the collection of a
file. -/
def openPolicy (action : Triage.CollectAction) : Triage.AutoTriagePolicy :=
  { Triage.enabledPolicy with
    entries :=
      [{ action
         assetClass := .standard
         decision := .autoDispatch
         filePaths := if action = .collectFile then [⟨.linux, "/etc/hosts"⟩] else [] }] }

theorem accepted_hosts : Triage.ApprovedFile.Accepted ⟨.linux, "/etc/hosts"⟩ :=
  ⟨by decide +kernel, by decide +kernel⟩

theorem openPolicy_valid (action : Triage.CollectAction) : (openPolicy action).Valid where
  entries := by simp [openPolicy]
  filePaths := by
    intro e he
    obtain rfl := List.mem_singleton.mp he
    dsimp only
    split_ifs
    · refine ⟨by decide, fun f hf => ?_⟩
      obtain rfl := List.mem_singleton.mp hf
      exact accepted_hosts
    · exact ⟨by decide, fun f hf => absurd hf List.not_mem_nil⟩
  boundary := by
    intro e he
    obtain rfl := List.mem_singleton.mp he
    cases action <;> decide +kernel
  unique := rfl

/-- An endpoint that carries out everything, with a file at hand. -/
def openSituation : Triage.Situation :=
  { Triage.capableSituation with filePath := .str "/etc/hosts" }

/-- Exactly the three collections can be sent by triage. -/
theorem canDispatch_iff {action : Action} :
    CanDispatch action ↔ ∃ a : Triage.CollectAction, a.toAction = action := by
  constructor
  · intro h
    obtain ⟨policy, assetClass, s, d, _, heval, _⟩ := h
    obtain ⟨haction, _⟩ := Triage.evaluate_eq_ok.mp heval
    exact ⟨d.action, (Automation.value_injective haction).symm⟩
  · intro h
    obtain ⟨a, rfl⟩ := h
    have hauto : (openSituation.outcome (openPolicy a) a .standard).1 = .autoDispatch := by
      cases a <;> decide +kernel
    obtain ⟨d, heval, hdecision⟩ :=
      Triage.exists_evaluate (openPolicy a) a .standard openSituation
    exact ⟨openPolicy a, "standard", openSituation, d, openPolicy_valid a, heval,
      hdecision.trans hauto⟩

theorem disruptive_eq_false {action : Action} :
    (descriptor action).disruptive = false ↔ ∃ a : Triage.CollectAction, a.toAction = action := by
  constructor
  · intro h
    cases action with
    | collectProcessInfo => exact ⟨.collectProcessInfo, rfl⟩
    | collectNetworkConnections => exact ⟨.collectNetworkConnections, rfl⟩
    | collectFile => exact ⟨.collectFile, rfl⟩
    | _ => exact absurd h (by decide)
  · intro h
    obtain ⟨a, rfl⟩ := h
    cases a <;> rfl

/-- **The catalog tells what can run without a human.**  An action is of the safe tier exactly
when the policy can execute it by itself, and undisruptive exactly when triage can send it; what
is of the safe tier is undisruptive. -/
theorem unattended_iff_described (rt : Runtime) {d : ActionDescriptor} (h : d ∈ actionCatalog) :
    (d.tier = .autoSafe ↔ CanExecute rt d.action) ∧
      (d.disruptive = false ↔ CanDispatch d.action) ∧
        (CanExecute rt d.action → CanDispatch d.action) := by
  rw [mem_actionCatalog.mp h]
  have hdispatch {action : Action} :
      (descriptor action).disruptive = false ↔ CanDispatch action :=
    disruptive_eq_false.trans canDispatch_iff.symm
  refine ⟨canExecute_iff.symm, hdispatch, fun hexecute => hdispatch.mp ?_⟩
  rcases classifyTier_eq_autoSafe.mp (canExecute_iff.mp hexecute) with hvalue | hvalue
  · rw [show d.action = .collectProcessInfo from Automation.value_injective hvalue]
    rfl
  · rw [show d.action = .collectNetworkConnections from Automation.value_injective hvalue]
    rfl

theorem unattended_iff_described_sample :
    CanDispatch .collectFile ∧ ¬ CanExecute .sample .collectFile := by
  obtain ⟨htier, hflag, _⟩ :=
    unattended_iff_described .sample (d := descriptor .collectFile) (by decide +kernel)
  exact ⟨hflag.mp rfl, fun hexecute => absurd (htier.mpr hexecute) (by decide)⟩

end ResponseEngine.Catalog
