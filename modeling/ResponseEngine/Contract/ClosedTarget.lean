/-
  Contract/ClosedTarget.lean --- what the command contract admits.

  `ClosedTarget` is the abstract side of the contract: four kinds of target whose
  bounds are part of the value, so that an inadmissible target cannot be built.
  `enforceClosedTargetSchema_eq_ok` connects it to the validator: a command passes
  exactly when its target dict is the wire form of a closed target that fits its
  action and schema version.
-/
import ResponseEngine.Contract.Command

set_option autoImplicit false

namespace ResponseEngine.Contract

open ResponseEngine.Foundation ResponseEngine.Python ResponseEngine.Python.Pydantic

/-! ## What the contract admits -/

/-- The target of a schema-1 process action. -/
structure ProcessTarget where
  pid : Nat
  startTimeTicks : Nat
  pid_pos : 0 < pid
  ticks_pos : 0 < startTimeTicks

/-- The boot-bound target of a schema-2 process action. -/
@[ext] structure BootProcessTarget where
  pid : Nat
  startTimeTicks : Nat
  bootId : Text
  pid_pos : 0 < pid
  pid_le : (pid : Int) ≤ maxPid
  ticks_pos : 0 < startTimeTicks
  ticks_le : (startTimeTicks : Int) ≤ maxTicks
  boot_shape : isBootId bootId = true

/-- The target of a file action. -/
structure FileTarget where
  path : Text
  path_ne_nil : path ≠ []
  path_le : path.length ≤ 4096

/-- What a command may be aimed at. -/
inductive ClosedTarget where
  | process (t : ProcessTarget)
  | bootProcess (t : BootProcessTarget)
  | file (t : FileTarget)
  | host

namespace ClosedTarget

/-- The kind of target each action takes under each schema version. -/
def Fits : ClosedTarget → SchemaVersion → Action → Prop
  | process _, .v1, a => a ∈ processActions
  | bootProcess _, .v2, a => a ∈ processActions
  | file _, .v1, a => a ∈ fileActions
  | host, .v1, a => a ∉ processActions ∧ a ∉ fileActions
  | _, _, _ => False

/-- The wire form of a target. -/
def toDict : ClosedTarget → Dict
  | process t => [("pid", .int t.pid), ("start_time_ticks", .int t.startTimeTicks)]
  | bootProcess t =>
      [("pid", .int t.pid), ("start_time_ticks", .str (Text.ofNat t.startTimeTicks)),
        ("boot_id", .str t.bootId)]
  | file t => [("path", .str t.path)]
  | host => []

/-- No action takes both a process and a file. -/
theorem not_mem_fileActions {a : Action} (h : a ∈ processActions) : a ∉ fileActions := by
  cases a <;> simp_all [processActions, fileActions]

/-! Under each schema version, the targets that fit an action are of one kind. -/

section

variable {a : Action} {p : ClosedTarget → Prop}

theorem exists_fits_v2 :
    (∃ t : ClosedTarget, t.Fits .v2 a ∧ p t) ↔ a ∈ processActions ∧ ∃ t, p (.bootProcess t) := by
  constructor
  · rintro ⟨t, hfits, hp⟩
    cases t with
    | bootProcess t => exact ⟨hfits, t, hp⟩
    | _ => exact hfits.elim
  · rintro ⟨haction, t, hp⟩
    exact ⟨.bootProcess t, haction, hp⟩

theorem exists_fits_process (h : a ∈ processActions) :
    (∃ t : ClosedTarget, t.Fits .v1 a ∧ p t) ↔ ∃ t, p (.process t) := by
  constructor
  · rintro ⟨t, hfits, hp⟩
    cases t with
    | process t => exact ⟨t, hp⟩
    | bootProcess t => exact hfits.elim
    | file t => exact absurd hfits (not_mem_fileActions h)
    | host => exact absurd h hfits.1
  · rintro ⟨t, hp⟩
    exact ⟨.process t, h, hp⟩

theorem exists_fits_file (h : a ∈ fileActions) :
    (∃ t : ClosedTarget, t.Fits .v1 a ∧ p t) ↔ ∃ t, p (.file t) := by
  constructor
  · rintro ⟨t, hfits, hp⟩
    cases t with
    | process t => exact absurd h (not_mem_fileActions hfits)
    | bootProcess t => exact hfits.elim
    | file t => exact ⟨t, hp⟩
    | host => exact absurd h hfits.2
  · rintro ⟨t, hp⟩
    exact ⟨.file t, h, hp⟩

theorem exists_fits_host (hprocess : a ∉ processActions) (hfile : a ∉ fileActions) :
    (∃ t : ClosedTarget, t.Fits .v1 a ∧ p t) ↔ p .host := by
  constructor
  · rintro ⟨t, hfits, hp⟩
    cases t with
    | process t => exact absurd hfits hprocess
    | bootProcess t => exact hfits.elim
    | file t => exact absurd hfits hfile
    | host => exact hp
  · intro hp
    exact ⟨.host, ⟨hprocess, hfile⟩, hp⟩

end

end ClosedTarget

variable {rt : Runtime}

/-! ## The validator accepts exactly the closed targets -/

namespace Command

/-- `expires_at` carries a usable offset. -/
theorem isAware_iff {d : DateTime} :
    d.tzinfo.isNone = false ∧ d.utcoffset.isNone = false ↔ d.utcoffset.isSome = true := by
  cases h : d.tzinfo <;> simp [DateTime.utcoffset, h]

/-- A schema-2 command passes exactly with an aware expiry, a process action and
the wire form of a boot-bound target. -/
theorem enforceBootBoundTarget_eq_ok {self : Command} :
    enforceBootBoundTarget rt self = .ok () ↔
      self.expiresAt.utcoffset.isSome = true ∧ self.action ∈ processActions ∧
        ∃ t : BootProcessTarget, Dict.Same self.target (ClosedTarget.bootProcess t).toDict := by
  simp only [enforceBootBoundTarget, bind_eq_ok, raiseIf_eq_ok, Dict.getItem_eq_ok, isAware_iff,
    Bool.or_eq_false_iff, Bool.not_eq_false', decide_eq_false_iff_not, not_not]
  constructor
  · rintro ⟨_, haware, _, ⟨haction, hkeys⟩, pid, hpid, ticks, hticks, boot, hboot,
      _, hpidOk, refused, hrefused, _, rfl, hbootOk⟩
    obtain ⟨n, rfl, hn, hmax⟩ := isPid_iff.mp hpidOk
    obtain ⟨m, rfl, hm, hmmax⟩ := refusesTicks_eq_ok_false.mp hrefused
    obtain ⟨b, rfl, hb⟩ := isBoot_iff.mp hbootOk
    refine ⟨haware, haction, ⟨n, m, b, hn, hmax, hm, hmmax, hb⟩, ?_⟩
    refine Dict.same_of_hasExactly hkeys ?_
    simp [ClosedTarget.toDict, hpid, hticks, hboot]
  · rintro ⟨haware, haction, t, hsame⟩
    have hpid := hsame "pid"
    have hticks := hsame "start_time_ticks"
    have hboot := hsame "boot_id"
    simp [ClosedTarget.toDict] at hpid hticks hboot
    exact ⟨(), haware, (), ⟨haction, hsame.hasExactly⟩, _, hpid, _, hticks, _, hboot,
      (), isPid_iff.mpr ⟨t.pid, rfl, t.pid_pos, t.pid_le⟩,
      false, refusesTicks_eq_ok_false.mpr ⟨t.startTimeTicks, rfl, t.ticks_pos, t.ticks_le⟩,
      (), rfl, isBoot_iff.mpr ⟨t.bootId, rfl, t.boot_shape⟩⟩

/-- A schema-1 process target passes exactly when it is the wire form of one. -/
theorem enforceProcessTarget_eq_ok {self : Command} :
    enforceProcessTarget self = .ok () ↔
      ∃ t : ProcessTarget, Dict.Same self.target (ClosedTarget.process t).toDict := by
  simp only [enforceProcessTarget, bind_eq_ok, raiseIf_eq_ok, Dict.getItem_eq_ok,
    Bool.not_eq_false', Bool.and_eq_true]
  constructor
  · rintro ⟨_, hkeys, pid, hpid, ticks, hticks, hpidOk, hticksOk⟩
    obtain ⟨n, rfl, hn⟩ := isPositiveInt_iff.mp hpidOk
    obtain ⟨m, rfl, hm⟩ := isPositiveInt_iff.mp hticksOk
    refine ⟨⟨n, m, hn, hm⟩, Dict.same_of_hasExactly hkeys ?_⟩
    simp [ClosedTarget.toDict, hpid, hticks]
  · rintro ⟨t, hsame⟩
    have hpid := hsame "pid"
    have hticks := hsame "start_time_ticks"
    simp [ClosedTarget.toDict] at hpid hticks
    exact ⟨(), hsame.hasExactly, _, hpid, _, hticks,
      isPositiveInt_iff.mpr ⟨t.pid, rfl, t.pid_pos⟩,
      isPositiveInt_iff.mpr ⟨t.startTimeTicks, rfl, t.ticks_pos⟩⟩

/-- A file target passes exactly when it is the wire form of one. -/
theorem enforceFileTarget_eq_ok {self : Command} :
    enforceFileTarget self = .ok () ↔
      ∃ t : FileTarget, Dict.Same self.target (ClosedTarget.file t).toDict := by
  simp only [enforceFileTarget, bind_eq_ok, raiseIf_eq_ok, Dict.getItem_eq_ok, Bool.not_eq_false']
  constructor
  · rintro ⟨_, hkeys, v, hv, hpath⟩
    cases v with
    | str path =>
        simp only [raiseIf_eq_ok, Bool.or_eq_false_iff, decide_eq_false_iff_not, not_lt] at hpath
        refine ⟨⟨path, by simpa using hpath.1, hpath.2⟩, Dict.same_of_hasExactly hkeys ?_⟩
        simp [ClosedTarget.toDict, hv]
    | _ => simp at hpath
  · rintro ⟨t, hsame⟩
    have hpath := hsame "path"
    simp [ClosedTarget.toDict] at hpath
    refine ⟨(), hsame.hasExactly, _, hpath, ?_⟩
    simpa using ⟨t.path_ne_nil, t.path_le⟩

/-- The only dict with the same lookups as the empty one is the empty one. -/
theorem same_nil_iff {d : Dict} : Dict.Same d [] ↔ d = [] := by
  constructor
  · intro h
    cases d with
    | nil => rfl
    | cons entry d =>
        obtain ⟨k, v⟩ := entry
        simpa using h k
  · rintro rfl
    exact Dict.Same.refl _

/-- **The contract admits exactly the closed targets.** -/
theorem enforceClosedTargetSchema_eq_ok {self : Command} :
    enforceClosedTargetSchema rt self = .ok () ↔
      (self.schemaVersion = .v2 → self.expiresAt.utcoffset.isSome = true) ∧
        ∃ t : ClosedTarget, t.Fits self.schemaVersion self.action ∧
          Dict.Same self.target t.toDict := by
  unfold enforceClosedTargetSchema
  cases hversion : self.schemaVersion with
  | v2 =>
      simp only [if_true, true_imp_iff]
      rw [enforceBootBoundTarget_eq_ok, ClosedTarget.exists_fits_v2]
  | v1 =>
      simp only [reduceCtorEq, if_false, false_imp_iff, true_and]
      split_ifs with hprocess hfile
      · rw [enforceProcessTarget_eq_ok, ClosedTarget.exists_fits_process hprocess]
      · rw [enforceFileTarget_eq_ok, ClosedTarget.exists_fits_file hfile]
      · rw [raiseIf_eq_ok, ClosedTarget.exists_fits_host hprocess hfile, Bool.not_eq_false',
          List.isEmpty_iff, ← same_nil_iff, ClosedTarget.toDict]

/-! ## The validator raises nothing but `ValueError` -/

/-- A key that the dict is known to have is read without a `KeyError`. -/
theorem getItem_ne_error {d : Dict} {names : List Key} (h : Dict.hasExactly d names = true)
    {k : Key} (hk : k ∈ names) (e : PyError) : Dict.getItem d k ≠ .error e := by
  obtain ⟨v, hv⟩ := Dict.contains_iff.mp ((Dict.hasExactly_iff.mp h k).mpr hk)
  rw [Dict.getItem_eq_ok.mpr hv]
  simp

theorem isValueError_of_refusesTicks {v : PyVal} {e : PyError}
    (h : refusesTicks rt v = .error e) : e.isValueError = true := by
  cases v with
  | str t =>
      simp only [refusesTicks] at h
      split at h
      · rename_i hshape
        obtain ⟨n, _, _, rfl⟩ := isNativeTicks_iff.mp hshape
        simp at h
      · simp at h
  | _ => simp [refusesTicks] at h

theorem isValueError_of_enforceBootBoundTarget {self : Command} {e : PyError}
    (h : enforceBootBoundTarget rt self = .error e) : e.isValueError = true := by
  simp only [enforceBootBoundTarget, bind_eq_error, raiseIf_eq_error, raiseIf_eq_ok,
    Bool.or_eq_false_iff, Bool.not_eq_false'] at h
  rcases h with ⟨_, rfl⟩ | ⟨_, _, ⟨_, rfl⟩ | ⟨_, ⟨_, hkeys⟩, h⟩⟩
  · rfl
  · rfl
  rcases h with h | ⟨_, _, h | ⟨_, _, h | ⟨_, _, h⟩⟩⟩
  · exact absurd h (getItem_ne_error hkeys (by simp) e)
  · exact absurd h (getItem_ne_error hkeys (by simp) e)
  · exact absurd h (getItem_ne_error hkeys (by simp) e)
  rcases h with ⟨_, rfl⟩ | ⟨_, _, h | ⟨_, _, ⟨_, rfl⟩ | ⟨_, _, _, rfl⟩⟩⟩
  · rfl
  · exact isValueError_of_refusesTicks h
  · rfl
  · rfl

theorem isValueError_of_enforceProcessTarget {self : Command} {e : PyError}
    (h : enforceProcessTarget self = .error e) : e.isValueError = true := by
  simp only [enforceProcessTarget, bind_eq_error, raiseIf_eq_error, raiseIf_eq_ok,
    Bool.not_eq_false'] at h
  rcases h with ⟨_, rfl⟩ | ⟨_, hkeys, h | ⟨_, _, h | ⟨_, _, _, rfl⟩⟩⟩
  · rfl
  · exact absurd h (getItem_ne_error hkeys (by simp) e)
  · exact absurd h (getItem_ne_error hkeys (by simp) e)
  · rfl

theorem isValueError_of_enforceFileTarget {self : Command} {e : PyError}
    (h : enforceFileTarget self = .error e) : e.isValueError = true := by
  simp only [enforceFileTarget, bind_eq_error, raiseIf_eq_error, raiseIf_eq_ok,
    Bool.not_eq_false'] at h
  rcases h with ⟨_, rfl⟩ | ⟨_, hkeys, h | ⟨v, _, h⟩⟩
  · rfl
  · exact absurd h (getItem_ne_error hkeys (by simp) e)
  · cases v with
    | str path =>
        obtain ⟨_, rfl⟩ := raiseIf_eq_error.mp h
        rfl
    | _ =>
        simp only [Except.error.injEq] at h
        rw [← h]
        rfl

/-- Every refusal of the validator is one that pydantic turns into a
`ValidationError`. -/
theorem isValueError_of_enforceClosedTargetSchema {self : Command} {e : PyError}
    (h : enforceClosedTargetSchema rt self = .error e) : e.isValueError = true := by
  unfold enforceClosedTargetSchema at h
  split_ifs at h
  · exact isValueError_of_enforceBootBoundTarget h
  · exact isValueError_of_enforceProcessTarget h
  · exact isValueError_of_enforceFileTarget h
  · obtain ⟨_, rfl⟩ := raiseIf_eq_error.mp h
    rfl

/-- `Command.model_validate` raises nothing but a `ValueError`. -/
theorem isValueError_of_modelValidate {d : Dict} {e : PyError}
    (h : modelValidate rt d = .error e) : e.isValueError = true := by
  simp only [modelValidate, bind_eq_error, pure_eq_ok, reduceCtorEq, and_false, exists_false,
    or_false] at h
  rcases h with h | ⟨_, _, h | ⟨_, _, h | ⟨_, _, h | ⟨_, _, h | ⟨_, _, h | ⟨_, _, h | ⟨_, _, h |
    ⟨_, _, h⟩⟩⟩⟩⟩⟩⟩⟩
  · exact isValueError_of_closed h
  · exact isValueError_of_required h
  · exact isValueError_of_optional h
  · exact isValueError_of_required h
  · exact isValueError_of_required h
  · exact isValueError_of_required h
  · exact isValueError_of_optional h
  · exact isValueError_of_optional h
  · exact isValueError_of_validator (fun _ => isValueError_of_enforceClosedTargetSchema) h

end Command

end ResponseEngine.Contract
