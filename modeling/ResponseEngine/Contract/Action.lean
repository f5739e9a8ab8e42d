/-
  Contract/Action.lean --- the closed response vocabulary.

  The seven actions of `response_engine.contract` with their two special classes,
  the schema versions, and the regular expressions that the contract, the
  translator and the Linux identity proof each repeat.
-/
import ResponseEngine.Python.Pydantic

set_option autoImplicit false

namespace ResponseEngine.Contract

open ResponseEngine.Foundation ResponseEngine.Python ResponseEngine.Python.Pydantic

/-! ## Actions -/

/-- `Action`. -/
inductive Action where
  | killProcess
  | collectProcessInfo
  | collectNetworkConnections
  | collectFile
  | quarantineFile
  | isolateHost
  | releaseHostIsolation
  deriving DecidableEq, Repr

/-- The wire text of an action. -/
def Action.value : Action → String
  | killProcess => "KILL_PROCESS"
  | collectProcessInfo => "COLLECT_PROCESS_INFO"
  | collectNetworkConnections => "COLLECT_NETWORK_CONNECTIONS"
  | collectFile => "COLLECT_FILE"
  | quarantineFile => "QUARANTINE_FILE"
  | isolateHost => "ISOLATE_HOST"
  | releaseHostIsolation => "RELEASE_HOST_ISOLATION"

/-- `ACTIONS`. -/
def actions : List Action :=
  [.killProcess, .collectProcessInfo, .collectNetworkConnections, .collectFile, .quarantineFile,
    .isolateHost, .releaseHostIsolation]

/-- `_PROCESS_ACTIONS`. -/
def processActions : List Action := [.killProcess, .collectProcessInfo]

/-- `_FILE_ACTIONS`. -/
def fileActions : List Action := [.collectFile, .quarantineFile]

instance : Vocabulary Action where
  members := actions
  text := Action.value
  mem_members a := by cases a <;> decide
  text_injective := by
    intro a b h
    cases a <;> cases b <;> first | rfl | simp [Action.value] at h

/-! ## Schema versions -/

/-- `schema_version` of a command. -/
inductive SchemaVersion where
  | v1
  | v2
  deriving DecidableEq, Repr

/-- The wire text of a schema version. -/
def SchemaVersion.value : SchemaVersion → String
  | v1 => "1"
  | v2 => "2"

instance : Vocabulary SchemaVersion where
  members := [.v1, .v2]
  text := SchemaVersion.value
  mem_members a := by cases a <;> decide
  text_injective := by
    intro a b h
    cases a <;> cases b <;> first | rfl | simp [SchemaVersion.value] at h

/-! ## Regular expressions -/

/-- Full match of `[1-9][0-9]{0,19}`. -/
def isNativeTicks (t : Text) : Bool := Text.isCanonicalDecimal 19 t

/-- `boot_` and 64 lowercase hexadecimal digits. -/
def bootIdPattern : List (CodePoint → Bool) :=
  Text.lits "boot_" ++ List.replicate 64 CodePoint.isLowerHex

/-- Full match of `boot_[0-9a-f]{64}`. -/
def isBootId (t : Text) : Bool := Text.fullmatch bootIdPattern t

/-- The largest PID, `0xFFFFFFFF`. -/
def maxPid : Int := 0xFFFFFFFF

/-- The largest native tick count, `0xFFFFFFFFFFFFFFFF`. -/
def maxTicks : Int := 0xFFFFFFFFFFFFFFFF

/-- Native tick tokens are the decimal texts of the positive numbers below `10 ^ 20`. -/
theorem isNativeTicks_iff {t : Text} :
    isNativeTicks t = true ↔ ∃ n, 0 < n ∧ n < 10 ^ 20 ∧ t = Text.ofNat n :=
  Text.isCanonicalDecimal_iff

theorem isNativeTicks_ofNat {n : Nat} (hpos : 0 < n) (hmax : (n : Int) ≤ maxTicks) :
    isNativeTicks (Text.ofNat n) = true := by
  refine isNativeTicks_iff.mpr ⟨n, hpos, ?_, rfl⟩
  unfold maxTicks at hmax
  omega

/-- A boot id has no surrogates. -/
theorem encodable_of_isBootId {t : Text} (h : isBootId t = true) : t.Encodable :=
  Text.encodable_of_fullmatch (fun _ => rfl) h

end ResponseEngine.Contract
