/-
  Contract/Result.lean --- the typed result of a command.

  A version-2 result may carry evidence of what the endpoint did to the process.
  `versionedOutcome` lets a result through only when the evidence agrees with the
  outcome; an `execution` that is present is never null.  The serializer leaves the
  key out when there is no evidence, so a dump is validated to the same result.
-/
import ResponseEngine.Contract.Action
import ResponseEngine.Python.Codec

set_option autoImplicit false

namespace ResponseEngine.Contract

open ResponseEngine.Foundation ResponseEngine.Python ResponseEngine.Python.Pydantic

/-! ## Vocabularies -/

/-- `ResultOutcome`. -/
inductive ResultOutcome where
  | succeeded
  | failed
  | rejected
  | indeterminate
  deriving DecidableEq, Repr

/-- The wire text of an outcome. -/
def ResultOutcome.value : ResultOutcome → String
  | succeeded => "succeeded"
  | failed => "failed"
  | rejected => "rejected"
  | indeterminate => "indeterminate"

instance : Vocabulary ResultOutcome where
  members := [.succeeded, .rejected, .failed, .indeterminate]
  text := ResultOutcome.value
  mem_members a := by cases a <;> decide
  text_injective := by
    intro a b h
    cases a <;> cases b <;> first | rfl | simp [ResultOutcome.value] at h

/-- `representation` of execution evidence. -/
inductive Representation where
  | windowsProcessTerminationV1
  deriving DecidableEq, Repr

instance : Vocabulary Representation where
  members := [.windowsProcessTerminationV1]
  text _ := "windows_process_termination_v1"
  mem_members a := by cases a; decide
  text_injective _ _ _ := rfl

/-- `stage` of execution evidence. -/
inductive Stage where
  | preflight
  | boot
  | open
  | identity
  | image
  | critical
  | protection
  | liveness
  | initiate
  | completion
  deriving DecidableEq, Repr

/-- The wire text of a stage. -/
def Stage.value : Stage → String
  | preflight => "preflight"
  | boot => "boot"
  | .open => "open"
  | identity => "identity"
  | image => "image"
  | critical => "critical"
  | protection => "protection"
  | liveness => "liveness"
  | initiate => "initiate"
  | completion => "completion"

instance : Vocabulary Stage where
  members := [.preflight, .boot, .open, .identity, .image, .critical, .protection, .liveness,
    .initiate, .completion]
  text := Stage.value
  mem_members a := by cases a <;> decide
  text_injective := by
    intro a b h
    cases a <;> cases b <;> first | rfl | simp [Stage.value] at h

/-! ## Models -/

/-- `ProcessExecutionEvidence`. -/
structure ProcessExecutionEvidence where
  representation : Representation
  stage : Stage
  actionInitiated : Bool
  completionObserved : Bool
  nativeError : Option (Bounded 0 0xFFFFFFFF)

/-- `ProcessExecutionEvidence`, as pydantic validates it. -/
def ProcessExecutionEvidence.codec : Codec ProcessExecutionEvidence :=
  Codec.closedModel "ProcessExecutionEvidence" false
    (((Fields.required "representation" Codec.literal).append <|
      (Fields.required "stage" Codec.literal).append <|
      (Fields.required "action_initiated" Codec.bool).append <|
      (Fields.required "completion_observed" Codec.bool).append
      (Fields.required "native_error"
        (Codec.nullable (Codec.int 0 0xFFFFFFFF) (by simp)))).equiv
      { toFun := fun ⟨representation, stage, actionInitiated, completionObserved, nativeError⟩ =>
          { representation, stage, actionInitiated, completionObserved, nativeError }
        invFun := fun e => (e.representation, e.stage, e.actionInitiated, e.completionObserved,
          e.nativeError)
        left_inv := fun _ => rfl
        right_inv := fun _ => rfl })
    (by decide)

theorem ProcessExecutionEvidence.parse_none (e : ProcessExecutionEvidence) :
    codec.parse .none ≠ .ok e := by
  rw [ne_eq, codec, Codec.closedModel_parse_eq_ok]
  simp

/-- `ProcessExecutionEvidence | None`. -/
def executionCodec : Codec (Option ProcessExecutionEvidence) :=
  Codec.nullable ProcessExecutionEvidence.codec ProcessExecutionEvidence.parse_none

/-- `CommandResult`. -/
structure CommandResult where
  schemaVersion : SchemaVersion
  resultId : Text
  commandId : Text
  outcome : ResultOutcome
  detail : Option Text
  correlationId : Option Text
  execution : Option ProcessExecutionEvidence

/-! ## The validator -/

/-- The outcome that evidence of an initiated action leaves. -/
def ProcessExecutionEvidence.expected (evidence : ProcessExecutionEvidence) :
    Option ResultOutcome :=
  if evidence.completionObserved then some .succeeded
  else if evidence.actionInitiated then some .indeterminate
  else none

/-- The checks of evidence against an outcome. -/
def checkExecution (outcome : ResultOutcome) (evidence : ProcessExecutionEvidence) :
    Except PyError Unit := do
  raiseIf (evidence.actionInitiated != decide (evidence.stage = .completion))
    (.valueError "process completion stage requires initiated action")
  raiseIf (evidence.expected.isSome && decide (evidence.expected ≠ some outcome))
    (.valueError "outcome contradicts process execution facts")
  raiseIf (evidence.completionObserved && !evidence.actionInitiated)
    (.valueError "observed action completion requires initiated action")
  raiseIf (evidence.expected.isNone &&
      !([.failed, .rejected] : List ResultOutcome).contains outcome)
    (.valueError "uninitiated process action cannot claim success or uncertainty")
  raiseIf (evidence.nativeError.isSome &&
      !([.failed, .indeterminate] : List ResultOutcome).contains outcome)
    (.valueError "native error contradicts successful/refused process action")

namespace CommandResult

/-- The checks of a result whose `execution` was given. -/
def checkGivenExecution (self : CommandResult) : Except PyError Unit :=
  let missing : PyError :=
    .valueError "execution evidence requires schema 2 and a non-null object"
  match self.execution with
  | none => .error missing
  | some evidence => do
      raiseIf (decide (self.schemaVersion ≠ .v2)) missing
      checkExecution self.outcome evidence

/-- `versioned_outcome`. -/
def versionedOutcome (self : CommandResult) (modelFieldsSet : List Key) : Except PyError Unit := do
  raiseIf (decide (self.outcome = .indeterminate) && decide (self.schemaVersion ≠ .v2))
    (.valueError "indeterminate outcome requires result schema 2")
  raiseIf (decide (self.schemaVersion = .v2) && self.correlationId.isNone)
    (.valueError "result schema 2 requires command correlation")
  if ("execution" : Key) ∈ modelFieldsSet then checkGivenExecution self else return ()

/-- The declared fields. -/
def fields : List Key :=
  ["schema_version", "result_id", "command_id", "outcome", "detail", "correlation_id", "execution"]

/-- `CommandResult.model_validate(d)`. -/
def modelValidate (rt : Runtime) (d : Dict) : Except PyError CommandResult := do
  closed d fields
  let schemaVersion ← optional d "schema_version" SchemaVersion.v1 Vocabulary.literal
  let resultId ← required d "result_id" (laxStr rt 1 128)
  let commandId ← required d "command_id" (laxStr rt 1 128)
  let outcome ← required d "outcome" Vocabulary.literal
  let detail ← optional d "detail" none (laxNullable (laxStr rt 0 512))
  let correlationId ← optional d "correlation_id" none (laxNullable (laxStr rt 1 128))
  let execution ← (Fields.optional "execution" executionCodec none).parse d
  let result : CommandResult :=
    { schemaVersion, resultId, commandId, outcome, detail, correlationId, execution }
  validator (versionedOutcome result (Dict.keys d))
  return result

/-! ## The serializer -/

/-- The wire value of a text that may be absent. -/
def textOrNone : Option Text → PyVal
  | none => .none
  | some t => .str t

/-- The attributes of a result, in their declared order. -/
def attributes (self : CommandResult) : Dict :=
  [("schema_version", .str self.schemaVersion.value), ("result_id", .str self.resultId),
    ("command_id", .str self.commandId), ("outcome", .str self.outcome.value),
    ("detail", textOrNone self.detail), ("correlation_id", textOrNone self.correlationId),
    ("execution", executionCodec.toPy self.execution)]

/-- `self.model_dump()`, by `omit_absent_execution`. -/
def modelDump (self : CommandResult) : Dict :=
  let serialized := PyVal.dumpItems self.attributes
  if self.execution.isNone then Dict.pop serialized "execution" else serialized

end CommandResult

/-! ## Consistent facts -/

/-- Evidence agrees with an outcome. -/
structure Agrees (outcome : ResultOutcome) (evidence : ProcessExecutionEvidence) : Prop where
  stage : evidence.stage = .completion ↔ evidence.actionInitiated = true
  succeeded : outcome = .succeeded ↔ evidence.completionObserved = true
  indeterminate : outcome = .indeterminate ↔
    evidence.actionInitiated = true ∧ evidence.completionObserved = false
  notInitiated : outcome = .failed ∨ outcome = .rejected ↔ evidence.actionInitiated = false
  nativeError : evidence.nativeError ≠ none → outcome = .failed ∨ outcome = .indeterminate

theorem agrees_iff {outcome : ResultOutcome} {evidence : ProcessExecutionEvidence} :
    Agrees outcome evidence ↔
      (evidence.stage = .completion ↔ evidence.actionInitiated = true) ∧
      (outcome = .succeeded ↔ evidence.completionObserved = true) ∧
      (outcome = .indeterminate ↔
        evidence.actionInitiated = true ∧ evidence.completionObserved = false) ∧
      (outcome = .failed ∨ outcome = .rejected ↔ evidence.actionInitiated = false) ∧
      (evidence.nativeError ≠ none → outcome = .failed ∨ outcome = .indeterminate) :=
  ⟨fun h => ⟨h.stage, h.succeeded, h.indeterminate, h.notInitiated, h.nativeError⟩,
    fun ⟨h₁, h₂, h₃, h₄, h₅⟩ => ⟨h₁, h₂, h₃, h₄, h₅⟩⟩

/-- The checks let through exactly the evidence that agrees. -/
theorem checkExecution_eq_ok {outcome : ResultOutcome} {evidence : ProcessExecutionEvidence} :
    checkExecution outcome evidence = .ok () ↔ Agrees outcome evidence := by
  obtain ⟨representation, stage, initiated, observed, nativeError⟩ := evidence
  rw [agrees_iff]
  -- The two facts leave one outcome, or the two of an action that was not initiated.
  cases initiated <;> cases observed <;> cases outcome <;>
    simp [checkExecution, ProcessExecutionEvidence.expected, bind_eq_ok]

namespace CommandResult

variable {rt : Runtime}

theorem checkGivenExecution_eq_ok {self : CommandResult} :
    checkGivenExecution self = .ok () ↔ self.schemaVersion = .v2 ∧
      ∃ evidence, self.execution = some evidence ∧ Agrees self.outcome evidence := by
  unfold checkGivenExecution
  cases hexecution : self.execution with
  | none => simp
  | some evidence => simp [bind_eq_ok, checkExecution_eq_ok]

/-- What the validator lets through: where the key was given there is evidence, and it
agrees with the outcome. -/
theorem versionedOutcome_eq_ok {self : CommandResult} {fieldsSet : List Key} :
    versionedOutcome self fieldsSet = .ok () ↔
      (self.outcome = .indeterminate → self.schemaVersion = .v2) ∧
      (self.schemaVersion = .v2 → self.correlationId.isSome = true) ∧
      (("execution" : Key) ∈ fieldsSet → self.schemaVersion = .v2 ∧
        ∃ evidence, self.execution = some evidence ∧ Agrees self.outcome evidence) := by
  rw [← checkGivenExecution_eq_ok, versionedOutcome]
  split_ifs with hgiven <;> simp [bind_eq_ok, hgiven]

/-- What an accepted record holds. -/
structure Validated (rt : Runtime) (d : Dict) (r : CommandResult) : Prop where
  schemaVersion : optional d "schema_version" SchemaVersion.v1 Vocabulary.literal =
    .ok r.schemaVersion
  resultId : required d "result_id" (laxStr rt 1 128) = .ok r.resultId
  commandId : required d "command_id" (laxStr rt 1 128) = .ok r.commandId
  outcome : required d "outcome" Vocabulary.literal = .ok r.outcome
  detail : optional d "detail" none (laxNullable (laxStr rt 0 512)) = .ok r.detail
  correlationId : optional d "correlation_id" none (laxNullable (laxStr rt 1 128)) =
    .ok r.correlationId
  execution : (Fields.optional "execution" executionCodec none).parse d = .ok r.execution
  versioned : versionedOutcome r (Dict.keys d) = .ok ()

theorem modelValidate_eq_ok {d : Dict} {r : CommandResult} :
    modelValidate rt d = .ok r ↔ closed d fields = .ok () ∧ Validated rt d r := by
  simp only [modelValidate, bind_eq_ok, validator_eq_ok, pure_eq_ok, Except.ok.injEq]
  constructor
  · intro h
    obtain ⟨_, hclosed, version, hversion, resultId, hresult, commandId, hcommand, outcome,
      houtcome, detail, hdetail, correlationId, hcorrelation, execution, hexecution, _, hversioned,
      rfl⟩ := h
    exact ⟨hclosed, hversion, hresult, hcommand, houtcome, hdetail, hcorrelation, hexecution,
      hversioned⟩
  · intro h
    obtain ⟨hclosed, v⟩ := h
    exact ⟨(), hclosed, _, v.schemaVersion, _, v.resultId, _, v.commandId, _, v.outcome, _,
      v.detail, _, v.correlationId, _, v.execution, (), v.versioned, rfl⟩

/-! ## What is retained -/

/-- The facts of an accepted record are consistent. -/
structure Consistent (d : Dict) (r : CommandResult) : Prop where
  /-- evidence is carried exactly when the record has the key -/
  carried : r.execution.isSome = true ↔ Dict.contains d "execution" = true
  /-- and it is read from what stands there, which is not null -/
  read : ∀ evidence, r.execution = some evidence →
    Dict.get d "execution" ≠ .none ∧
      ProcessExecutionEvidence.codec.parse (Dict.get d "execution") = .ok evidence
  version : ∀ evidence, r.execution = some evidence → r.schemaVersion = .v2
  agrees : ∀ evidence, r.execution = some evidence → Agrees r.outcome evidence

/-- Evidence comes from a value at the key. -/
theorem Validated.execution_eq_some {d : Dict} {r : CommandResult} (h : Validated rt d r)
    {evidence : ProcessExecutionEvidence} (hevidence : r.execution = some evidence) :
    ∃ v, Dict.find? d "execution" = some v ∧
      ProcessExecutionEvidence.codec.parse v = .ok evidence := by
  have hparse := Fields.optional_parse_eq_ok.mp h.execution
  rw [hevidence] at hparse
  rcases hparse with ⟨v, hv, hread⟩ | ⟨-, hdefault⟩
  · rcases Codec.nullable_parse_eq_ok.mp hread with ⟨-, hnone⟩ | ⟨e, he, hsome⟩
    · exact absurd hnone (by simp)
    · exact ⟨v, hv, Option.some.inj hsome ▸ he⟩
  · exact absurd hdefault (by simp)

theorem Validated.consistent {d : Dict} {r : CommandResult} (h : Validated rt d r) :
    Consistent d r := by
  obtain ⟨-, -, hgiven⟩ := versionedOutcome_eq_ok.mp h.versioned
  rw [Dict.mem_keys_iff] at hgiven
  have hcontains : ∀ evidence, r.execution = some evidence →
      Dict.contains d "execution" = true := by
    intro evidence hevidence
    obtain ⟨v, hv, -⟩ := h.execution_eq_some hevidence
    exact Dict.contains_iff.mpr ⟨v, hv⟩
  refine { carried := ⟨?_, ?_⟩, read := ?_, version := ?_, agrees := ?_ }
  · intro hsome
    obtain ⟨evidence, hevidence⟩ := Option.isSome_iff_exists.mp hsome
    exact hcontains evidence hevidence
  · intro hkey
    obtain ⟨-, evidence, hevidence, -⟩ := hgiven hkey
    rw [hevidence]
    rfl
  · intro evidence hevidence
    obtain ⟨v, hv, hread⟩ := h.execution_eq_some hevidence
    rw [Dict.get_of_find? hv]
    refine ⟨fun hnone => ?_, hread⟩
    exact ProcessExecutionEvidence.parse_none evidence (hnone ▸ hread)
  · intro evidence hevidence
    exact (hgiven (hcontains evidence hevidence)).1
  · intro evidence hevidence
    obtain ⟨-, other, hother, hagrees⟩ := hgiven (hcontains evidence hevidence)
    obtain rfl := Option.some.inj (hother.symm.trans hevidence)
    exact hagrees

/-! ## The dump -/

theorem map_fst_attributes (r : CommandResult) : r.attributes.map Prod.fst = fields := rfl

theorem fields_nodup : fields.Nodup := by decide

/-- Every attribute but an absent execution is dumped. -/
theorem find?_modelDump {r : CommandResult} {k : Key} {v : PyVal} (hmem : (k, v) ∈ r.attributes)
    (hkept : k = "execution" → r.execution.isSome = true) :
    Dict.find? r.modelDump k = some v.modelDump := by
  have hfind : Dict.find? (PyVal.dumpItems r.attributes) k = some v.modelDump := by
    have hattribute : Dict.find? r.attributes k = some v :=
      Dict.find?_of_mem (map_fst_attributes r ▸ fields_nodup) hmem
    rw [PyVal.find?_dumpItems, hattribute, Option.map_some]
  unfold modelDump
  dsimp only
  split_ifs with hnone
  · have hne : k ≠ "execution" := by
      intro hk
      have hsome := hkept hk
      rw [Option.isNone_iff_eq_none.mp hnone] at hsome
      exact absurd hsome (by decide)
    rw [Dict.find?_pop, if_neg hne, hfind]
  · exact hfind

/-- The key of the execution is dumped with evidence only. -/
theorem contains_modelDump_execution (r : CommandResult) :
    Dict.contains r.modelDump "execution" = true ↔ r.execution.isSome = true := by
  constructor
  · intro hkey
    by_contra hnone
    rw [Option.not_isSome_iff_eq_none] at hnone
    simp only [modelDump, hnone, Option.isNone_none, if_true, Dict.contains, Dict.find?_pop] at hkey
    exact absurd hkey (by simp)
  · intro hsome
    have hmem : (("execution" : Key), executionCodec.toPy r.execution) ∈ r.attributes := by
      simp [attributes]
    exact Dict.contains_iff.mpr ⟨_, find?_modelDump hmem fun _ => hsome⟩

theorem closed_modelDump (r : CommandResult) : closed r.modelDump fields = .ok () := by
  rw [closed, raiseIf_eq_ok, Bool.not_eq_false', List.all_eq_true]
  intro k hk
  have hkeys : k ∈ (PyVal.dumpItems r.attributes).map Prod.fst := by
    rw [Dict.keys, List.mem_dedup] at hk
    unfold modelDump at hk
    dsimp only at hk
    split_ifs at hk
    · exact (List.filter_sublist.map Prod.fst).subset hk
    · exact hk
  rw [PyVal.map_fst_dumpItems, map_fst_attributes] at hkeys
  exact decide_eq_true hkeys

/-! ## The round trip -/

/-- A text that may be absent is read back from its wire value. -/
theorem laxNullable_textOrNone {lower upper : ℕ} {t : Option Text}
    (h : ∀ s, t = some s → boundedText lower upper s = true) :
    laxNullable (laxStr rt lower upper) (textOrNone t).modelDump = some t := by
  cases t with
  | none => rfl
  | some s =>
      simp [textOrNone, PyVal.modelDump, laxNullable, PyVal.isNone, laxStr_of_bounded (h s rfl)]

theorem boundedText_of_required {d : Dict} {name : String} {lower upper : ℕ} {t : Text}
    (h : required d name (laxStr rt lower upper) = .ok t) : boundedText lower upper t = true := by
  obtain ⟨v, -, hv⟩ := required_eq_ok.mp h
  exact boundedText_of_laxStr hv

/-- An optional text that was accepted is within its bounds. -/
theorem boundedText_of_optional {d : Dict} {name : String} {lower upper : ℕ} {t : Option Text}
    (h : optional d name none (laxNullable (laxStr rt lower upper)) = .ok t) :
    ∀ s, t = some s → boundedText lower upper s = true := by
  intro s hs
  subst hs
  unfold Pydantic.optional at h
  split at h
  · rw [located_eq_ok, laxNullable] at h
    split_ifs at h
    · simp at h
    · obtain ⟨u, hu, hsome⟩ := Option.map_eq_some_iff.mp h
      obtain rfl := Option.some.inj hsome
      exact boundedText_of_laxStr hu
  · simp at h

/-- The key of an absent execution is missing from the dump, and its default is none. -/
theorem execution_parse_modelDump (r : CommandResult) :
    (Fields.optional "execution" executionCodec none).parse r.modelDump = .ok r.execution := by
  rw [Fields.optional_parse_eq_ok]
  cases hexecution : r.execution with
  | none =>
      refine Or.inr ⟨?_, rfl⟩
      have hkey := contains_modelDump_execution r
      rw [hexecution] at hkey
      simpa [Dict.contains] using hkey
  | some evidence =>
      have hmem : (("execution" : Key), executionCodec.toPy r.execution) ∈ r.attributes := by
        simp [attributes]
      have hfind := find?_modelDump hmem fun _ => by rw [hexecution]; rfl
      rw [← hexecution]
      exact Or.inl ⟨_, hfind, executionCodec.parse_toPy r.execution⟩

/-- Validating the dump of an accepted result gives the result. -/
theorem Validated.modelDump {d : Dict} {r : CommandResult} (h : Validated rt d r) :
    Validated rt r.modelDump r := by
  have hfind : ∀ k v, (k, v) ∈ r.attributes → k ≠ "execution" →
      Dict.find? r.modelDump k = some v.modelDump :=
    fun k v hmem hne => find?_modelDump hmem fun hk => absurd hk hne
  have hversion := hfind "schema_version" (.str r.schemaVersion.value) (by simp [attributes])
    (by decide)
  have hresult := hfind "result_id" (.str r.resultId) (by simp [attributes]) (by decide)
  have hcommand := hfind "command_id" (.str r.commandId) (by simp [attributes]) (by decide)
  have houtcome := hfind "outcome" (.str r.outcome.value) (by simp [attributes]) (by decide)
  have hdetail := hfind "detail" (textOrNone r.detail) (by simp [attributes]) (by decide)
  have hcorrelation := hfind "correlation_id" (textOrNone r.correlationId) (by simp [attributes])
    (by decide)
  have hversioned : versionedOutcome r (Dict.keys r.modelDump) = .ok () := by
    obtain ⟨hindeterminate, hcorrelated, -⟩ := versionedOutcome_eq_ok.mp h.versioned
    refine versionedOutcome_eq_ok.mpr ⟨hindeterminate, hcorrelated, fun hkey => ?_⟩
    rw [Dict.mem_keys_iff, contains_modelDump_execution] at hkey
    obtain ⟨evidence, hevidence⟩ := Option.isSome_iff_exists.mp hkey
    exact ⟨h.consistent.version evidence hevidence, evidence, hevidence,
      h.consistent.agrees evidence hevidence⟩
  exact
    { schemaVersion :=
        (optional_eq_ok_of_find? hversion).mpr (Vocabulary.literal_eq_some_iff.mpr rfl)
      resultId := required_eq_ok.mpr ⟨_, hresult,
        laxStr_of_bounded (boundedText_of_required h.resultId)⟩
      commandId := required_eq_ok.mpr ⟨_, hcommand,
        laxStr_of_bounded (boundedText_of_required h.commandId)⟩
      outcome := required_eq_ok.mpr ⟨_, houtcome, Vocabulary.literal_eq_some_iff.mpr rfl⟩
      detail := (optional_eq_ok_of_find? hdetail).mpr
        (laxNullable_textOrNone (boundedText_of_optional h.detail))
      correlationId := (optional_eq_ok_of_find? hcorrelation).mpr
        (laxNullable_textOrNone (boundedText_of_optional h.correlationId))
      execution := execution_parse_modelDump r
      versioned := hversioned }

/-- A result can be dumped and validated again. -/
structure RoundTrips (rt : Runtime) (r : CommandResult) : Prop where
  validates : modelValidate rt r.modelDump = .ok r
  /-- the dump has the key exactly when there is evidence -/
  key_iff : Dict.contains r.modelDump "execution" = true ↔ r.execution.isSome = true

/-- **A result that is accepted** has consistent facts, and survives its dump. -/
theorem modelValidate_consistent {rt : Runtime} {raw : Dict} {r : CommandResult}
    (h : modelValidate rt raw = .ok r) : Consistent raw r ∧ RoundTrips rt r := by
  obtain ⟨-, hvalid⟩ := modelValidate_eq_ok.mp h
  exact ⟨hvalid.consistent, modelValidate_eq_ok.mpr ⟨closed_modelDump r, hvalid.modelDump⟩,
    contains_modelDump_execution r⟩

/-- A record of an action that was initiated and whose completion was not seen. -/
def sampleRecord : Dict :=
  [("schema_version", .str "2"), ("result_id", .str "result-evidence"),
    ("command_id", .str "cmd-evidence"), ("correlation_id", .str "corr-evidence"),
    ("outcome", .str "indeterminate"),
    ("execution", .dict [("representation", .str "windows_process_termination_v1"),
      ("stage", .str "completion"), ("action_initiated", .bool true),
      ("completion_observed", .bool false), ("native_error", .int 6)])]

theorem modelValidate_consistent_sample :
    ∃ r, modelValidate .sample sampleRecord = .ok r ∧ r.execution.isSome = true ∧
      Consistent sampleRecord r ∧ RoundTrips .sample r := by
  obtain ⟨r, hr⟩ := exists_eq_ok (x := modelValidate .sample sampleRecord) (by decide +kernel)
  have hlaws := modelValidate_consistent hr
  exact ⟨r, hr, hlaws.1.carried.mpr (by decide), hlaws⟩

end CommandResult

end ResponseEngine.Contract
