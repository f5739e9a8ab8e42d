/-
  Contract/Command.lean --- the typed command and its target schema.

  `Command` is the model pydantic builds; `enforceClosedTargetSchema` is the
  validator the package adds to it, check by check, and `modelValidate` the two
  together on a raw dict.
-/
import ResponseEngine.Contract.Action

set_option autoImplicit false

namespace ResponseEngine.Contract

open ResponseEngine.Foundation ResponseEngine.Python ResponseEngine.Python.Pydantic

/-- `Command`. -/
structure Command where
  commandId : Text
  schemaVersion : SchemaVersion
  agentId : Text
  action : Action
  expiresAt : DateTime
  target : Dict
  correlationId : Text

namespace Command

variable (rt : Runtime)

/-! ## Checks on a target value -/

/-- `isinstance(pid, int) and not isinstance(pid, bool) and 0 < pid <= 0xFFFFFFFF`. -/
def isPid : PyVal → Bool
  | .int n => decide (0 < n) && decide (n ≤ maxPid)
  | _ => false

/-- `isinstance(v, int) and not isinstance(v, bool) and v > 0`. -/
def isPositiveInt : PyVal → Bool
  | .int n => decide (0 < n)
  | _ => false

/-- `not isinstance(ticks, str) or not re.fullmatch(...) or int(ticks) > 0xFFFFFFFFFFFFFFFF`. -/
def refusesTicks : PyVal → Except PyError Bool
  | .str t =>
      if isNativeTicks t then do
        let n ← rt.int t
        return decide (maxTicks < n)
      else return true
  | _ => return true

/-- `isinstance(boot, str) and re.fullmatch(...)`. -/
def isBoot : PyVal → Bool
  | .str t => isBootId t
  | _ => false

/-! ## The validator -/

/-- The checks on a schema-2 command. -/
def enforceBootBoundTarget (self : Command) : Except PyError Unit := do
  raiseIf (self.expiresAt.tzinfo.isNone || self.expiresAt.utcoffset.isNone)
    (.valueError "schema-2 expiration requires an aware timestamp")
  raiseIf (decide (self.action ∉ processActions) ||
      !Dict.hasExactly self.target ["pid", "start_time_ticks", "boot_id"])
    (.valueError "schema-2 requires a boot-bound process action target")
  let pid ← Dict.getItem self.target "pid"
  let ticks ← Dict.getItem self.target "start_time_ticks"
  let boot ← Dict.getItem self.target "boot_id"
  raiseIf (!isPid pid) (.valueError "schema-2 process PID must be a positive uint32")
  let refused ← refusesTicks rt ticks
  raiseIf refused
    (.valueError "schema-2 native ticks require a canonical positive uint64 decimal string")
  raiseIf (!isBoot boot) (.valueError "schema-2 process boot identity is invalid")

/-- The checks on a schema-1 process action. -/
def enforceProcessTarget (self : Command) : Except PyError Unit := do
  raiseIf (!Dict.hasExactly self.target ["pid", "start_time_ticks"])
    (.valueError "process action target must contain only pid and start_time_ticks")
  let pid ← Dict.getItem self.target "pid"
  let ticks ← Dict.getItem self.target "start_time_ticks"
  raiseIf (!(isPositiveInt pid && isPositiveInt ticks))
    (.valueError "process action target values must be positive integers")

/-- The checks on a file action. -/
def enforceFileTarget (self : Command) : Except PyError Unit := do
  raiseIf (!Dict.hasExactly self.target ["path"])
    (.valueError "file action target must contain only a path")
  match ← Dict.getItem self.target "path" with
  | .str path =>
      raiseIf (path.isEmpty || decide (4096 < path.length))
        (.valueError "file action path is invalid")
  | _ => .error (.valueError "file action target must contain only a path")

/-- `enforce_closed_target_schema`. -/
def enforceClosedTargetSchema (self : Command) : Except PyError Unit :=
  if self.schemaVersion = .v2 then enforceBootBoundTarget rt self
  else if self.action ∈ processActions then enforceProcessTarget self
  else if self.action ∈ fileActions then enforceFileTarget self
  else raiseIf (!self.target.isEmpty) (.valueError "this action does not accept a target")

/-- The declared fields. -/
def fields : List Key :=
  ["command_id", "schema_version", "agent_id", "action", "expires_at", "target", "correlation_id"]

/-- `Command.model_validate(d)`. -/
def modelValidate (d : Dict) : Except PyError Command := do
  closed d fields
  let commandId ← required d "command_id" (laxStr rt 1 128)
  let schemaVersion ← optional d "schema_version" SchemaVersion.v1 Vocabulary.literal
  let agentId ← required d "agent_id" (laxStr rt 1 128)
  let action ← required d "action" Vocabulary.literal
  let expiresAt ← required d "expires_at" rt.laxDatetime
  let target ← optional d "target" [] (laxDict 16)
  let correlationId ← optional d "correlation_id" rt.uuid4 (laxStr rt 1 128)
  let command : Command :=
    { commandId, schemaVersion, agentId, action, expiresAt, target, correlationId }
  validator (enforceClosedTargetSchema rt command)
  return command

/-! ## What each check accepts -/

variable {rt}

theorem isPid_iff {v : PyVal} :
    isPid v = true ↔ ∃ n : Nat, v = .int n ∧ 0 < n ∧ (n : Int) ≤ maxPid := by
  cases v <;> simp [isPid]
  rename_i n
  constructor
  · rintro ⟨hpos, hle⟩
    exact ⟨n.toNat, by omega, by omega, by omega⟩
  · rintro ⟨m, rfl, hpos, hle⟩
    exact ⟨by omega, hle⟩

theorem isPositiveInt_iff {v : PyVal} :
    isPositiveInt v = true ↔ ∃ n : Nat, v = .int n ∧ 0 < n := by
  cases v <;> simp [isPositiveInt]
  rename_i n
  constructor
  · intro hpos
    exact ⟨n.toNat, by omega, by omega⟩
  · rintro ⟨m, rfl, hpos⟩
    omega

theorem isBoot_iff {v : PyVal} : isBoot v = true ↔ ∃ t, v = .str t ∧ isBootId t = true := by
  cases v <;> simp [isBoot]

/-- The ticks that pass are the canonical texts of the positive 64-bit numbers. -/
theorem refusesTicks_eq_ok_false {v : PyVal} :
    refusesTicks rt v = .ok false ↔
      ∃ n : Nat, v = .str (Text.ofNat n) ∧ 0 < n ∧ (n : Int) ≤ maxTicks := by
  constructor
  · intro h
    cases v with
    | str t =>
        simp only [refusesTicks] at h
        split at h
        · rename_i hshape
          obtain ⟨n, hpos, _, rfl⟩ := isNativeTicks_iff.mp hshape
          simp at h
          exact ⟨n, rfl, hpos, by omega⟩
        · simp at h
    | _ => simp [refusesTicks] at h
  · rintro ⟨n, rfl, hpos, hle⟩
    simp [refusesTicks, isNativeTicks_ofNat hpos hle]
    omega

/-- Validation reads a dict through its lookups. -/
theorem modelValidate_congr {d e : Dict} (h : Dict.Same d e) :
    modelValidate rt d = modelValidate rt e := by
  have hkeys : (Dict.keys d).all (· ∈ fields) = (Dict.keys e).all (· ∈ fields) := by
    rw [Bool.eq_iff_iff, Dict.all_keys_iff, Dict.all_keys_iff]
    simp only [h.contains]
  have hrequired : ∀ {α : Type} (name : String) (parse : PyVal → Option α),
      required d name parse = required e name parse := by
    intro α name parse
    rw [required, required, h]
  have hoptional : ∀ {α : Type} (name : String) (default : α) (parse : PyVal → Option α),
      optional d name default parse = optional e name default parse := by
    intro α name default parse
    rw [Pydantic.optional, Pydantic.optional, h]
  simp only [modelValidate, closed, hkeys, hrequired, hoptional]

/-- What an accepted dict holds. -/
structure Validated (rt : Runtime) (d : Dict) (c : Command) : Prop where
  commandId : required d "command_id" (laxStr rt 1 128) = .ok c.commandId
  schemaVersion : optional d "schema_version" SchemaVersion.v1 Vocabulary.literal =
    .ok c.schemaVersion
  agentId : required d "agent_id" (laxStr rt 1 128) = .ok c.agentId
  action : required d "action" Vocabulary.literal = .ok c.action
  expiresAt : required d "expires_at" rt.laxDatetime = .ok c.expiresAt
  target : optional d "target" [] (laxDict 16) = .ok c.target
  correlationId : optional d "correlation_id" rt.uuid4 (laxStr rt 1 128) = .ok c.correlationId
  enforced : enforceClosedTargetSchema rt c = .ok ()

theorem modelValidate_eq_ok {d : Dict} {c : Command} :
    modelValidate rt d = .ok c ↔ closed d fields = .ok () ∧ Validated rt d c := by
  simp only [modelValidate, bind_eq_ok, validator_eq_ok, pure_eq_ok, Except.ok.injEq]
  constructor
  · rintro ⟨_, hclosed, commandId, hcommand, version, hversion, agentId, hagent, action, haction,
      expiresAt, hexpires, target, htarget, correlationId, hcorrelation, _, henforced, rfl⟩
    exact ⟨hclosed, hcommand, hversion, hagent, haction, hexpires, htarget, hcorrelation,
      henforced⟩
  · rintro ⟨hclosed, v⟩
    exact ⟨(), hclosed, _, v.commandId, _, v.schemaVersion, _, v.agentId, _, v.action, _,
      v.expiresAt, _, v.target, _, v.correlationId, (), v.enforced, rfl⟩

end Command

end ResponseEngine.Contract
