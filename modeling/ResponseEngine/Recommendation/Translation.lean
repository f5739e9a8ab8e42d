/-
  Recommendation/Translation.lean --- what a translation produces, and whether the
  contract takes it.

  `Translates` lists the four ways a recommendation becomes a command, and
  `translateRecommendation_eq_some` says there is no fifth.  From it follow the
  agreement that a canonical target carries (`translateRecommendation_canonical`)
  and the exact inputs on which translator and contract agree
  (`translateRecommendation_accepted_iff`).
-/
import ResponseEngine.Recommendation.CanonicalTarget

set_option autoImplicit false

namespace ResponseEngine.Recommendation

open ResponseEngine.Foundation ResponseEngine.Python ResponseEngine.Python.Pydantic
open ResponseEngine.Contract ResponseEngine.LinuxIdentity

/-! ## The four ways to a command -/

/-- The two recommendations that are aimed at a process. -/
inductive ProcessRecommendation : Text → Action → Prop where
  | terminate : ProcessRecommendation "TERMINATE_PROCESS" .killProcess
  | collect : ProcessRecommendation "COLLECT_PROCESS_INFO" .collectProcessInfo

/-- The two recommendations that are aimed at the whole host. -/
inductive HostRecommendation : Text → Action → Prop where
  | network : HostRecommendation "COLLECT_NETWORK_CONNECTIONS" .collectNetworkConnections
  | isolate : HostRecommendation "ISOLATE_HOST" .isolateHost

/-- How a recommendation becomes a command. -/
inductive Translates (rt : Runtime) (activeResponse : Dict) (context : PyVal) :
    Text → Translation → Prop where
  /-- an endpoint context is given, and proves the process -/
  | canonical {action : Text} {command : Action} (haction : ProcessRecommendation action command)
      (hcontext : context ≠ .none) (v : VerifiedProcess rt context activeResponse) :
      Translates rt activeResponse context action
        { action := command.value
          target := (ClosedTarget.bootProcess v.target).toDict
          reason := "verified canonical native process target" }
  /-- no context is given, and the recommendation carries its own numbers -/
  | legacy {action : Text} {command : Action} (haction : ProcessRecommendation action command)
      (hcontext : context = .none) {pid startTimeTicks : Int}
      (hpid : Dict.get activeResponse "target_pid" = .int pid)
      (hticks : Dict.get activeResponse "target_start_time_ticks" = .int startTimeTicks)
      (hpos : 0 < startTimeTicks) :
      Translates rt activeResponse context action
        { action := command.value
          target := [("pid", .int pid), ("start_time_ticks", .int startTimeTicks)]
          reason := "direct mapping" }
  | file {path : Text} (hpath : Dict.get activeResponse "target_file" = .str path)
      (hne : path ≠ []) :
      Translates rt activeResponse context "QUARANTINE_FILE"
        { action := Action.quarantineFile.value
          target := [("path", .str path)]
          reason := "direct mapping" }
  | host {action : Text} {command : Action} (haction : HostRecommendation action command) :
      Translates rt activeResponse context action
        { action := command.value, target := [], reason := "direct mapping" }

variable {rt : Runtime} {action : Text} {activeResponse : Dict} {context : PyVal}
  {tr : Translation}

theorem legacyProcessTarget_eq_some {target : Dict} :
    legacyProcessTarget activeResponse = some target ↔
      ∃ pid startTimeTicks : Int, Dict.get activeResponse "target_pid" = .int pid ∧
        Dict.get activeResponse "target_start_time_ticks" = .int startTimeTicks ∧
        0 < startTimeTicks ∧
        target = ([("pid", .int pid), ("start_time_ticks", .int startTimeTicks)] : Dict) := by
  unfold legacyProcessTarget
  split
  · rename_i pid startTimeTicks hpid hticks
    split_ifs with hpos
    · simp [hpid, hticks, hpos]
    · simp [hpid, hticks, not_le.mp hpos, eq_comm]
  · rename_i hne
    simp only [reduceCtorEq, false_iff]
    rintro ⟨pid, startTimeTicks, hpid, hticks, _⟩
    exact hne pid startTimeTicks hpid hticks

theorem fileTarget_eq_some {target : Dict} :
    fileTarget activeResponse = some target ↔
      ∃ path, Dict.get activeResponse "target_file" = .str path ∧ path ≠ [] ∧
        target = ([("path", .str path)] : Dict) := by
  unfold fileTarget
  split
  · rename_i path hpath
    split_ifs with hempty
    · simp [hpath, List.isEmpty_iff.mp hempty]
    · simp [hpath, List.isEmpty_iff.not.mp hempty, eq_comm]
  · rename_i hne
    simp only [reduceCtorEq, false_iff]
    rintro ⟨path, hpath, _⟩
    exact hne path hpath

/-- A process recommendation with a context goes through the canonical target. -/
theorem translateRecommendation_of_context {command : Action}
    (haction : ProcessRecommendation action command) (hcontext : context ≠ .none) :
    translateRecommendation rt action activeResponse context = .ok (some tr) ↔
      ∃ target, canonicalProcessTarget rt context activeResponse = .ok (some target) ∧
        tr = { action := command.value, target,
               reason := "verified canonical native process target" } := by
  have hsome : context.isNone = false := PyVal.isNone_eq_false_iff.mpr hcontext
  unfold translateRecommendation
  cases haction
  all_goals
    simp only [hsome, true_and, Text.ofString_inj, String.reduceEq, or_true, or_false, if_true,
      if_false, bind_eq_ok]
    constructor
    · rintro ⟨target, htarget, h⟩
      cases target with
      | none => simp at h
      | some target =>
          simp only [pure_eq_ok, Except.ok.injEq, Option.some.injEq] at h
          exact ⟨target, htarget, h.symm⟩
    · rintro ⟨target, htarget, rfl⟩
      exact ⟨some target, htarget, rfl⟩

/-- A process recommendation without a context goes through the legacy target. -/
theorem translateRecommendation_of_no_context {command : Action}
    (haction : ProcessRecommendation action command) :
    translateRecommendation rt action activeResponse .none = .ok (some tr) ↔
      ∃ target, legacyProcessTarget activeResponse = some target ∧
        tr = { action := command.value, target, reason := "direct mapping" } := by
  unfold translateRecommendation
  cases haction
  all_goals
    simp only [PyVal.isNone, Bool.true_eq_false, false_and, if_false, Text.ofString_inj,
      String.reduceEq, if_true, pure_eq_ok, Except.ok.injEq, Option.map_eq_some_iff]
    exact exists_congr fun target => and_congr_right fun _ => eq_comm

/-- Every other recommendation is mapped directly. -/
theorem translateRecommendation_of_other
    (haction : ¬ ∃ command, ProcessRecommendation action command) :
    translateRecommendation rt action activeResponse context = .ok (some tr) ↔
      (∃ command, HostRecommendation action command ∧
        tr = { action := command.value, target := [], reason := "direct mapping" }) ∨
      (action = "QUARANTINE_FILE" ∧ ∃ target, fileTarget activeResponse = some target ∧
        tr = { action := "QUARANTINE_FILE", target, reason := "direct mapping" }) := by
  have hterminate : action ≠ "TERMINATE_PROCESS" := by
    rintro rfl
    exact haction ⟨_, .terminate⟩
  have hcollect : action ≠ "COLLECT_PROCESS_INFO" := by
    rintro rfl
    exact haction ⟨_, .collect⟩
  unfold translateRecommendation
  simp only [hterminate, hcollect, or_self, and_false, if_false]
  constructor
  · intro h
    split_ifs at h with hnetwork hfile hisolate
    · subst hnetwork
      exact .inl ⟨_, .network, by simpa [Action.value] using h.symm⟩
    · obtain ⟨target, htarget, rfl⟩ := Option.map_eq_some_iff.mp (Except.ok.inj h)
      exact .inr ⟨hfile, target, htarget, rfl⟩
    · subst hisolate
      exact .inl ⟨_, .isolate, by simpa [Action.value] using h.symm⟩
    · simp at h
  · rintro (⟨command, haction, rfl⟩ | ⟨rfl, target, htarget, rfl⟩)
    · cases haction <;> simp [Action.value]
    · simp [htarget]

/-- **The inversion of `translate_recommendation`.** -/
theorem translateRecommendation_eq_some :
    translateRecommendation rt action activeResponse context = .ok (some tr) ↔
      Translates rt activeResponse context action tr := by
  constructor
  · intro h
    by_cases hprocess : ∃ command, ProcessRecommendation action command
    · obtain ⟨command, haction⟩ := hprocess
      by_cases hcontext : context = .none
      · subst hcontext
        obtain ⟨target, htarget, rfl⟩ := (translateRecommendation_of_no_context haction).mp h
        obtain ⟨pid, ticks, hpid, hticks, hpos, rfl⟩ := legacyProcessTarget_eq_some.mp htarget
        exact .legacy haction rfl hpid hticks hpos
      · obtain ⟨target, htarget, rfl⟩ := (translateRecommendation_of_context haction hcontext).mp h
        obtain ⟨v, rfl⟩ := canonicalProcessTarget_eq_some.mp htarget
        exact .canonical haction hcontext v
    · rcases (translateRecommendation_of_other hprocess).mp h with
        ⟨command, haction, rfl⟩ | ⟨rfl, target, htarget, rfl⟩
      · exact .host haction
      · obtain ⟨path, hpath, hne, rfl⟩ := fileTarget_eq_some.mp htarget
        exact .file hpath hne
  · intro h
    cases h with
    | canonical haction hcontext v =>
        exact (translateRecommendation_of_context haction hcontext).mpr
          ⟨_, canonicalProcessTarget_eq_some.mpr ⟨v, rfl⟩, rfl⟩
    | legacy haction hcontext hpid hticks hpos =>
        subst hcontext
        exact (translateRecommendation_of_no_context haction).mpr
          ⟨_, legacyProcessTarget_eq_some.mpr ⟨_, _, hpid, hticks, hpos, rfl⟩, rfl⟩
    | file hpath hne =>
        refine (translateRecommendation_of_other ?_).mpr
          (.inr ⟨rfl, _, fileTarget_eq_some.mpr ⟨_, hpath, hne, rfl⟩, rfl⟩)
        rintro ⟨_, haction⟩
        generalize haction' : (Text.ofString "QUARANTINE_FILE") = action at haction
        cases haction <;> simp at haction'
    | host haction =>
        refine (translateRecommendation_of_other ?_).mpr (.inl ⟨_, haction, rfl⟩)
        rintro ⟨_, hprocess⟩
        cases haction <;> generalize haction' : Text.ofString _ = action at hprocess <;>
          cases hprocess <;> simp at haction'

/-! ## Agreement with the contract -/

/-- The schema version a consumer declares for a target. -/
def commandSchema (target : Dict) : SchemaVersion :=
  if Dict.contains target "boot_id" then .v2 else .v1

/-- The contract takes a translation: with any valid ids and any aware expiry it is
a command that passes the validator. -/
def Accepted (rt : Runtime) (tr : Translation) : Prop :=
  ∃ action target, Vocabulary.literal (.str tr.action) = some action ∧
    laxDict 16 (.dict tr.target) = some target ∧
    ∀ (commandId agentId correlationId : Text) (expiresAt : DateTime),
      boundedText 1 128 commandId = true → boundedText 1 128 agentId = true →
      boundedText 1 128 correlationId = true → expiresAt.utcoffset.isSome = true →
      Command.enforceClosedTargetSchema rt
        { commandId, agentId, correlationId, expiresAt, action, target
          schemaVersion := commandSchema tr.target } = .ok ()

/-- A translation is taken exactly when its target is the wire form of a closed
target of its action. -/
theorem accepted_iff :
    Accepted rt tr ↔ ∃ action : Action, tr.action = action.value ∧
      (Dict.keys tr.target).length ≤ 16 ∧
      ∃ t : ClosedTarget, t.Fits (commandSchema tr.target) action ∧
        Dict.Same tr.target t.toDict := by
  simp only [Accepted, Vocabulary.literal_eq_some_iff, PyVal.str.injEq, laxDict, PyVal.asMapping?,
    Option.filter_eq_some_iff, Option.some.injEq, decide_eq_true_eq,
    Command.enforceClosedTargetSchema_eq_ok]
  constructor
  · rintro ⟨action, _, haction, ⟨rfl, hsize⟩, h⟩
    obtain ⟨_, ht⟩ := h "c" "a" "r" sampleMoment (by decide) (by decide) (by decide) (by decide)
    exact ⟨action, haction, hsize, ht⟩
  · rintro ⟨action, haction, hsize, ht⟩
    exact ⟨action, _, haction, ⟨rfl, hsize⟩, fun _ _ _ _ _ _ _ haware => ⟨fun _ => haware, ht⟩⟩

theorem ProcessRecommendation.mem_processActions {command : Action}
    (h : ProcessRecommendation action command) : command ∈ processActions := by
  cases h <;> decide

/-- A canonical target is always taken. -/
theorem accepted_bootProcess {command : Action} (h : command ∈ processActions)
    (t : BootProcessTarget) (reason : Text) :
    Accepted rt
      { action := command.value, target := (ClosedTarget.bootProcess t).toDict, reason } := by
  refine accepted_iff.mpr ⟨command, rfl, ?_, .bootProcess t, ?_, Dict.Same.refl _⟩
  · simp [ClosedTarget.toDict, Dict.keys]
  · simpa [commandSchema, ClosedTarget.toDict, Dict.contains, ClosedTarget.Fits] using h

/-- A legacy target is taken exactly when both of its numbers are positive. -/
theorem accepted_process_iff {command : Action} (h : command ∈ processActions)
    {pid startTimeTicks : Int} {reason : Text} :
    Accepted rt
      { action := command.value
        target := [("pid", .int pid), ("start_time_ticks", .int startTimeTicks)], reason } ↔
      0 < pid ∧ 0 < startTimeTicks := by
  have hschema : commandSchema
      [("pid", .int pid), ("start_time_ticks", .int startTimeTicks)] = .v1 := by
    simp [commandSchema, Dict.contains]
  rw [accepted_iff]
  dsimp only
  rw [hschema]
  constructor
  · rintro ⟨action, haction, _, ht⟩
    obtain rfl : command = action := Vocabulary.text_injective (Text.ofString_inj.mp haction)
    obtain ⟨t, hsame⟩ := (ClosedTarget.exists_fits_process h).mp ht
    have hpid := hsame "pid"
    have hticks := hsame "start_time_ticks"
    simp [ClosedTarget.toDict] at hpid hticks
    have := t.pid_pos
    have := t.ticks_pos
    omega
  · rintro ⟨hpid, hticks⟩
    refine ⟨command, rfl, by simp [Dict.keys], (ClosedTarget.exists_fits_process h).mpr
      ⟨⟨pid.toNat, startTimeTicks.toNat, by omega, by omega⟩, ?_⟩⟩
    simp [ClosedTarget.toDict, Int.toNat_of_nonneg hpid.le, Int.toNat_of_nonneg hticks.le,
      Dict.Same.refl]

/-- A file target is taken exactly when its path is not empty and not too long. -/
theorem accepted_file_iff {path reason : Text} :
    Accepted rt
      { action := Action.quarantineFile.value, target := [("path", .str path)], reason } ↔
      path ≠ [] ∧ path.length ≤ 4096 := by
  have hschema : commandSchema [("path", .str path)] = .v1 := by
    simp [commandSchema, Dict.contains]
  have hfile : Action.quarantineFile ∈ fileActions := by decide
  rw [accepted_iff]
  dsimp only
  rw [hschema]
  constructor
  · rintro ⟨action, haction, _, ht⟩
    obtain rfl : Action.quarantineFile = action :=
      Vocabulary.text_injective (Text.ofString_inj.mp haction)
    obtain ⟨t, hsame⟩ := (ClosedTarget.exists_fits_file hfile).mp ht
    have hpath := hsame "path"
    simp [ClosedTarget.toDict] at hpath
    exact hpath ▸ ⟨t.path_ne_nil, t.path_le⟩
  · rintro ⟨hne, hle⟩
    exact ⟨.quarantineFile, rfl, by simp [Dict.keys],
      (ClosedTarget.exists_fits_file hfile).mpr ⟨⟨path, hne, hle⟩, Dict.Same.refl _⟩⟩

/-- A target-less host action is always taken. -/
theorem accepted_host {command : Action} (h : HostRecommendation action command) (reason : Text) :
    Accepted rt { action := command.value, target := [], reason } := by
  refine accepted_iff.mpr ⟨command, rfl, by simp [Dict.keys], .host, ?_, Dict.Same.refl _⟩
  cases h <;> exact ⟨by decide, by decide⟩

/-- The inputs whose translation the contract takes: a legacy process target names
a positive PID, and a file to quarantine has a path of at most 4096 characters.
The translator checks neither. -/
structure Admissible (action : Text) (activeResponse : Dict) (context : PyVal) : Prop where
  pid_pos : (action = "TERMINATE_PROCESS" ∨ action = "COLLECT_PROCESS_INFO") → context = .none →
    ∀ pid startTimeTicks : Int, Dict.get activeResponse "target_pid" = .int pid →
      Dict.get activeResponse "target_start_time_ticks" = .int startTimeTicks →
      0 < startTimeTicks → 0 < pid
  path_le : action = "QUARANTINE_FILE" → ∀ path : Text,
    Dict.get activeResponse "target_file" = .str path → path.length ≤ 4096

theorem exists_processRecommendation_iff :
    (∃ command, ProcessRecommendation action command) ↔
      action = "TERMINATE_PROCESS" ∨ action = "COLLECT_PROCESS_INFO" := by
  constructor
  · rintro ⟨command, haction⟩
    cases haction with
    | terminate => exact .inl rfl
    | collect => exact .inr rfl
  · rintro (rfl | rfl)
    · exact ⟨_, .terminate⟩
    · exact ⟨_, .collect⟩

/-- **Every translation is taken by the contract, on exactly the admissible inputs.** -/
theorem translateRecommendation_accepted_iff (rt : Runtime) (action : Text)
    (activeResponse : Dict) (context : PyVal) :
    (∀ tr, translateRecommendation rt action activeResponse context = .ok (some tr) →
      Accepted rt tr) ↔ Admissible action activeResponse context := by
  simp only [translateRecommendation_eq_some]
  constructor
  · intro h
    constructor
    · intro haction hcontext pid ticks hpid hticks hpos
      obtain ⟨command, hcommand⟩ := exists_processRecommendation_iff.mpr haction
      have haccepted := h _ (.legacy hcommand hcontext hpid hticks hpos)
      exact ((accepted_process_iff hcommand.mem_processActions).mp haccepted).1
    · rintro rfl path hpath
      by_cases hne : path = []
      · simp [hne]
      · exact (accepted_file_iff.mp (h _ (.file hpath hne))).2
  · intro hadmissible tr htranslates
    cases htranslates with
    | canonical hcommand hcontext v =>
        exact accepted_bootProcess hcommand.mem_processActions v.target _
    | legacy hcommand hcontext hpid hticks hpos =>
        have haction := exists_processRecommendation_iff.mp ⟨_, hcommand⟩
        have hpidPos := hadmissible.pid_pos haction hcontext _ _ hpid hticks hpos
        exact (accepted_process_iff hcommand.mem_processActions).mpr ⟨hpidPos, hpos⟩
    | file hpath hne =>
        exact accepted_file_iff.mpr ⟨hne, hadmissible.path_le rfl _ hpath⟩
    | host hcommand => exact accepted_host hcommand _

/-- A recommendation to terminate process 0 is translated, and no command can carry
the result. -/
theorem translateRecommendation_refused_pid_zero :
    ¬ ∀ tr, translateRecommendation .sample "TERMINATE_PROCESS"
        [("target_pid", .int 0), ("target_start_time_ticks", .int 5)] .none = .ok (some tr) →
      Accepted .sample tr := by
  intro h
  have htranslates : Translates .sample
      [("target_pid", .int 0), ("target_start_time_ticks", .int 5)] .none "TERMINATE_PROCESS"
      { action := Action.killProcess.value
        target := [("pid", .int 0), ("start_time_ticks", .int 5)]
        reason := "direct mapping" } :=
    .legacy .terminate rfl (by simp) (by simp) (by decide)
  have haccepted := h _ (translateRecommendation_eq_some.mpr htranslates)
  exact absurd ((accepted_process_iff (by decide)).mp haccepted).1 (by decide)

/-! ## What a canonical translation agrees on -/

/-- The entity id that the context's identity model requires of the subject: the
truncated digest of the retained Linux identity, or the native digest. -/
def EntityProved (context : PyVal) (host boot : Text) (pid ticks : Nat) : Prop :=
  if isText (context.field "identity_model") identityModel then
    ∃ (uuid : Uuid) (digest entity : Text),
      (context.field "linux_identity").field "boot_uuid" = .str uuid ∧
      sha256Hex uuid = .ok digest ∧ boot = ("boot_" : Text) ++ digest ∧
      shortDigest (host ++ ("|" : Text) ++ uuid ++ ("|" : Text) ++ Text.ofNat pid ++
        ("|" : Text) ++ Text.ofNat ticks) = .ok entity ∧
      (context.field "subject").field "entity_id" = .str entity
  else
    ∃ entity, nativeEntityId host boot pid (Text.ofNat ticks) = .ok entity ∧
      (context.field "subject").field "entity_id" = .str entity

/-- A verified process carries the entity id of its identity model. -/
theorem VerifiedProcess.entityProved (v : VerifiedProcess rt context activeResponse) :
    EntityProved context v.host v.target.bootId v.target.pid v.target.startTimeTicks := by
  unfold EntityProved
  split_ifs with hmodel
  · obtain ⟨i, p⟩ := v.linuxProof (isText_eq_true.mp hmodel)
    obtain ⟨digest, hdigest, hboot⟩ := p.boot_digest
    obtain ⟨entity, hentity, hsubject⟩ := p.entity_digest
    rw [NativeIdentity.entityPreimage, p.host_eq, p.pid_eq, p.ticks_eq] at hentity
    exact ⟨i.boot, digest, entity, p.carries.boot_eq, hdigest, hboot, hentity, hsubject⟩
  · have hnative := (provesEntity_eq_true.mp v.proved).2 fun h =>
      hmodel (isText_eq_true.mpr (by simp [v.context_eq, h]))
    exact ⟨v.nativeEntity, v.native_digest, by rw [v.subject_field, hnative]⟩

/-- **A canonical translation names one process on which endpoint, subject and
recommendation agree.** -/
theorem translateRecommendation_canonical {rt : Runtime} {action : Text} {activeResponse : Dict}
    {context : PyVal} {tr : Translation} (hcontext : context ≠ .none)
    (haction : action = "TERMINATE_PROCESS" ∨ action = "COLLECT_PROCESS_INFO")
    (h : translateRecommendation rt action activeResponse context = .ok (some tr)) :
    tr.action = (if action = "TERMINATE_PROCESS" then "KILL_PROCESS" else "COLLECT_PROCESS_INFO") ∧
    ∃ (host boot : Text) (pid ticks : Nat),
      tr.target = ([("pid", .int pid), ("start_time_ticks", .str (Text.ofNat ticks)),
        ("boot_id", .str boot)] : Dict) ∧
      (context.field "subject").field "observed_pid" = .int pid ∧
      Dict.get activeResponse "target_pid" = .int pid ∧ 1 ≤ pid ∧ pid ≤ 2 ^ 32 - 1 ∧
      Dict.get activeResponse "target_start_time_ticks" = .int ticks ∧
      1 ≤ ticks ∧ ticks ≤ 2 ^ 64 - 1 ∧
      (context.field "endpoint").field "boot_id" = .str boot ∧
      (context.field "subject").field "boot_id" = .str boot ∧
      (context.field "endpoint").field "host_id" = .str host ∧
      (∀ named, Dict.find? activeResponse "host_id" = some named → named = .str host) ∧
      EntityProved context host boot pid ticks := by
  cases translateRecommendation_eq_some.mp h with
  | canonical hcommand _ v =>
      have hpid := v.target.pid_le
      have hticks := v.target.ticks_le
      simp only [maxPid, maxTicks] at hpid hticks
      refine ⟨by cases hcommand <;> simp [Action.value], v.host, v.target.bootId, v.target.pid,
        v.target.startTimeTicks, rfl, ?_, v.named_pid, v.target.pid_pos, by omega, v.named_ticks,
        v.target.ticks_pos, by omega, ?_, ?_, ?_, ?_, v.entityProved⟩
      · rw [v.subject_field, v.pid_eq]
      · rw [v.endpoint_field, v.endpoint_boot_eq]
      · rw [v.subject_field, v.subject_boot_eq]
      · rw [v.endpoint_field, v.host_eq]
      · intro named hnamed
        simpa [Dict.getD, hnamed] using v.named_host
  | legacy _ hnone => exact absurd hnone hcontext
  | file => simp at haction
  | host hcommand => cases hcommand <;> simp at haction

/-- A native identity. -/
def sampleIdentity : NativeIdentity where
  hostId := ⟨"host-1", by decide⟩
  boot := ⟨"01234567-89ab-4cde-8f01-23456789abcd", by decide⟩
  sensorId := ⟨"sensor-1", by decide⟩
  pid := ⟨4242, by decide⟩
  ticks := ⟨777, by decide⟩
  seq := ⟨9, by decide⟩

/-- The context that an agent retains of that identity. -/
def sampleContext (agentId : Text) : PyVal :=
  .dict (contextOf sampleIdentity agentId "145c540d83e2fb5835e8ab71ec35967e"
    "fa4aecb7eb60d25d3c3178c5d0e4892a"
    "boot_79944bb6f20d142ddcbff6e727c264ae4c7d5b3fbf64b58e77d20b78bd596e19")

/-- A recommendation that names the process of that identity. -/
def sampleRecommendation : Dict :=
  [("target_pid", .int 4242), ("target_start_time_ticks", .int 777)]

theorem translateRecommendation_canonical_sample :
    ∃ tr, translateRecommendation .sample "TERMINATE_PROCESS" sampleRecommendation
        (sampleContext "agent-1") = .ok (some tr) ∧
      tr.action = (if ("TERMINATE_PROCESS" : Text) = "TERMINATE_PROCESS" then "KILL_PROCESS"
        else "COLLECT_PROCESS_INFO") := by
  obtain ⟨tr, htr⟩ := exists_eq_ok_some (x := translateRecommendation .sample "TERMINATE_PROCESS"
    sampleRecommendation (sampleContext "agent-1")) (by decide +kernel)
  exact ⟨tr, htr,
    (translateRecommendation_canonical (by simp [sampleContext]) (.inl rfl) htr).1⟩

end ResponseEngine.Recommendation
