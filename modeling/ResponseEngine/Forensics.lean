/-
  Forensics.lean --- forensic collection requests, policies and plans.

  `planForensicCollection` validates a request and a policy again from their dumps,
  whatever was done to them since they were built, and recommends one collection
  with the target that a command for it would carry.
-/
import ResponseEngine.Artifacts
import ResponseEngine.Policy
import ResponseEngine.Recommendation
import ResponseEngine.Triage

set_option autoImplicit false

namespace ResponseEngine.Forensics

open ResponseEngine.Foundation ResponseEngine.Python ResponseEngine.Python.Pydantic
open ResponseEngine.Contract ResponseEngine.Artifacts ResponseEngine.Policy
open ResponseEngine.Recommendation ResponseEngine.Triage

/-! ## Identifiers -/

/-- A code point that `\S` does not match. -/
def isWhiteSpace (c : CodePoint) : Bool :=
  (0x09 ≤ c.ord && c.ord ≤ 0x0D) || (0x2000 ≤ c.ord && c.ord ≤ 0x200A) ||
    [0x20, 0x85, 0xA0, 0x1680, 0x2028, 0x2029, 0x202F, 0x205F, 0x3000].contains c.ord

/-- A text with length bounds that is not all white space. -/
def isIdentifier (upper : ℕ) (t : Text) : Bool :=
  boundedText 1 upper t && t.any fun c => !isWhiteSpace c

/-- `Identifier`. -/
abbrev Identifier := {t : Text // isIdentifier 128 t = true}

/-- `HostIdentifier`. -/
abbrev HostIdentifier := {t : Text // isIdentifier 256 t = true}

/-- `Literal["1"]`. -/
inductive Version where
  | v1
  deriving DecidableEq, Repr

instance : Vocabulary Version where
  members := [.v1]
  text _ := "1"
  mem_members a := by cases a; decide
  text_injective _ _ _ := rfl

/-! ## Models -/

/-- `ProcessIdentity`. -/
structure ProcessIdentity where
  pid : Bounded 1 0xFFFFFFFF
  startTimeTicks : Bounded 1 0xFFFFFFFFFFFFFFFF
  bootId : Option {t : Text // isBootId t = true}

/-- `EvidenceReference`. -/
structure EvidenceReference where
  sourceId : Identifier
  sourceRecordId : Identifier
  manifest : ArtifactManifest

/-- `ForensicContext`, before its own validator. -/
structure ForensicContext where
  alertId : Identifier
  agentId : Identifier
  hostId : HostIdentifier
  sourceId : Identifier
  sourceRecordId : Identifier
  observedAt : {d : DateTime // d.utcoffset.isSome = true}
  ruleId : Option Identifier
  recommendationId : Option Identifier
  evidence : {es : List EvidenceReference // es.length ≤ 32}

/-- One turn of the loop of `consistent_evidence_scope`, with the artifact ids seen so far. -/
def checkReference (self : ForensicContext) (identities : List Text)
    (reference : EvidenceReference) : Except PyError Unit := do
  let manifest := reference.manifest
  raiseIf (decide (manifest.agentId.val ≠ self.agentId.val) ||
      decide (manifest.hostId.val ≠ self.hostId.val))
    (.valueError "evidence reference belongs to another endpoint")
  raiseIf (identities.contains manifest.artifactId.val)
    (.valueError "duplicate artifact identity in forensic context")

/-- The loop of `consistent_evidence_scope`. -/
def checkEvidence (self : ForensicContext) (identities : List Text) :
    List EvidenceReference → Except PyError Unit
  | [] => .ok ()
  | reference :: rest => do
      checkReference self identities reference
      checkEvidence self (reference.manifest.artifactId.val :: identities) rest

/-- `consistent_evidence_scope`. -/
def ForensicContext.consistentEvidenceScope (self : ForensicContext) : Except PyError Unit :=
  checkEvidence self [] self.evidence

/-- A context that passed. -/
abbrev CheckedContext := {c : ForensicContext // c.consistentEvidenceScope = .ok ()}

/-- `ForensicCollectionRequest`, before its own validator. -/
structure ForensicCollectionRequest where
  schemaVersion : Version
  requestId : Identifier
  action : CollectAction
  context : CheckedContext
  process : Option ProcessIdentity
  file : Option CheckedFile

/-- `exact_collection_target`. -/
def ForensicCollectionRequest.exactCollectionTarget (self : ForensicCollectionRequest) :
    Except PyError Unit := do
  raiseIf (self.process.isSome != decide (self.action = .collectProcessInfo))
    (.valueError "only process collection requires a process identity")
  raiseIf (self.file.isSome != decide (self.action = .collectFile))
    (.valueError "only file metadata collection requires an exact native file path")

/-- A request that passed. -/
abbrev CheckedRequest := {r : ForensicCollectionRequest // r.exactCollectionTarget = .ok ()}

/-- `ForensicCollectionPolicy`, before its own validator. -/
structure ForensicCollectionPolicy where
  schemaVersion : Version
  policyId : Identifier
  version : Bounded 1 2147483647
  enabled : Bool
  allowedActions : {as : List CollectAction // as.length ≤ 3}
  requireApproval : {as : List CollectAction // as.length ≤ 3}

/-- `unique_actions`. -/
def ForensicCollectionPolicy.uniqueActions (self : ForensicCollectionPolicy) :
    Except PyError Unit := do
  let duplicates (actions : List CollectAction) : Bool :=
    decide (actions.length ≠ actions.dedup.length)
  raiseIf (duplicates self.allowedActions) (.valueError "duplicate forensic policy action")
  raiseIf (duplicates self.requireApproval) (.valueError "duplicate forensic policy action")

/-- A policy that passed. -/
abbrev CheckedPolicy := {p : ForensicCollectionPolicy // p.uniqueActions = .ok ()}

/-! ## Declarations -/

/-- The declared fields of a process identity. -/
def ProcessIdentity.declared : Fields ProcessIdentity :=
  ((Fields.required "pid" (Codec.int 1 0xFFFFFFFF)).append <|
    (Fields.required "start_time_ticks" (Codec.int 1 0xFFFFFFFFFFFFFFFF)).append
    (Fields.optional "boot_id" (Codec.nullable (Codec.text isBootId) (by simp)) none)).equiv
    { toFun := fun ⟨pid, startTimeTicks, bootId⟩ => { pid, startTimeTicks, bootId }
      invFun := fun i => (i.pid, i.startTimeTicks, i.bootId)
      left_inv := fun _ => rfl
      right_inv := fun _ => rfl }

/-- The class `ProcessIdentity`. -/
def ProcessIdentity.cls : ModelClass := declared.cls "ProcessIdentity" true

/-- `ProcessIdentity`, as pydantic validates it. -/
def ProcessIdentity.codec : Codec ProcessIdentity :=
  Codec.closedModel "ProcessIdentity" true declared (by decide)

/-- `EvidenceReference`, as pydantic validates it. -/
def EvidenceReference.codec : Codec EvidenceReference :=
  Codec.closedModel "EvidenceReference" true
    (((Fields.required "source_id" (Codec.text (isIdentifier 128))).append <|
      (Fields.required "source_record_id" (Codec.text (isIdentifier 128))).append
      (Fields.required "manifest" ArtifactManifest.codec)).equiv
      { toFun := fun ⟨sourceId, sourceRecordId, manifest⟩ =>
          { sourceId, sourceRecordId, manifest }
        invFun := fun e => (e.sourceId, e.sourceRecordId, e.manifest)
        left_inv := fun _ => rfl
        right_inv := fun _ => rfl })
    (by decide)

theorem isValueError_of_checkReference {c : ForensicContext} {identities : List Text}
    {reference : EvidenceReference} {e : PyError}
    (h : checkReference c identities reference = .error e) : e.isValueError = true := by
  simp only [checkReference, bind_eq_error, raiseIf_eq_error] at h
  rcases h with ⟨_, rfl⟩ | ⟨_, _, _, rfl⟩ <;> rfl

theorem isValueError_of_consistentEvidenceScope {c : ForensicContext} {e : PyError}
    (h : c.consistentEvidenceScope = .error e) : e.isValueError = true := by
  suffices hloop : ∀ es identities, checkEvidence c identities es = .error e →
      e.isValueError = true from hloop _ _ h
  intro es
  induction es with
  | nil => simp [checkEvidence]
  | cons reference rest ih =>
      intro identities h
      rw [checkEvidence, bind_eq_error] at h
      rcases h with h | ⟨_, _, h⟩
      · exact isValueError_of_checkReference h
      · exact ih _ h

/-- The declared fields of a context. -/
def ForensicContext.declared : Fields ForensicContext :=
  ((Fields.required "alert_id" (Codec.text (isIdentifier 128))).append <|
    (Fields.required "agent_id" (Codec.text (isIdentifier 128))).append <|
    (Fields.required "host_id" (Codec.text (isIdentifier 256))).append <|
    (Fields.required "source_id" (Codec.text (isIdentifier 128))).append <|
    (Fields.required "source_record_id" (Codec.text (isIdentifier 128))).append <|
    (Fields.required "observed_at" Codec.awareDatetime).append <|
    (Fields.optional "rule_id"
      (Codec.nullable (Codec.text (isIdentifier 128)) (by simp)) none).append <|
    (Fields.optional "recommendation_id"
      (Codec.nullable (Codec.text (isIdentifier 128)) (by simp)) none).append
    (Fields.optional "evidence" (Codec.list EvidenceReference.codec 32)
      ⟨[], Nat.zero_le _⟩)).equiv
    { toFun := fun ⟨alertId, agentId, hostId, sourceId, sourceRecordId, observedAt, ruleId,
          recommendationId, evidence⟩ =>
        { alertId, agentId, hostId, sourceId, sourceRecordId, observedAt, ruleId,
          recommendationId, evidence }
      invFun := fun c => (c.alertId, c.agentId, c.hostId, c.sourceId, c.sourceRecordId,
        c.observedAt, c.ruleId, c.recommendationId, c.evidence)
      left_inv := fun _ => rfl
      right_inv := fun _ => rfl }

/-- The class `ForensicContext`. -/
def ForensicContext.cls : ModelClass := declared.cls "ForensicContext" true

/-- `ForensicContext`, as pydantic validates it. -/
def ForensicContext.codec : Codec CheckedContext :=
  Codec.model "ForensicContext" true declared (by decide)
    ForensicContext.consistentEvidenceScope isValueError_of_consistentEvidenceScope

theorem isValueError_of_exactCollectionTarget {r : ForensicCollectionRequest} {e : PyError}
    (h : r.exactCollectionTarget = .error e) : e.isValueError = true := by
  simp only [ForensicCollectionRequest.exactCollectionTarget, bind_eq_error, raiseIf_eq_error] at h
  rcases h with ⟨_, rfl⟩ | ⟨_, _, _, rfl⟩
  · rfl
  · rfl

theorem ProcessIdentity.parse_none (i : ProcessIdentity) : codec.parse .none ≠ .ok i := by
  rw [ne_eq, codec, Codec.closedModel_parse_eq_ok]
  simp

theorem parse_none_approvedFile (f : CheckedFile) : ApprovedFile.codec.parse .none ≠ .ok f := by
  rw [ne_eq, ApprovedFile.codec, Codec.equiv_parse_eq_ok]
  exact Codec.model_ne_none _ _

/-- The declared fields of a request. -/
def ForensicCollectionRequest.declared : Fields ForensicCollectionRequest :=
  ((Fields.optional "schema_version" Codec.literal Version.v1).append <|
    (Fields.required "request_id" (Codec.text (isIdentifier 128))).append <|
    (Fields.required "action" Codec.literal).append <|
    (Fields.required "context" ForensicContext.codec).append <|
    (Fields.optional "process" (Codec.nullable ProcessIdentity.codec ProcessIdentity.parse_none)
      none).append
    (Fields.optional "file" (Codec.nullable ApprovedFile.codec parse_none_approvedFile) none)).equiv
    { toFun := fun ⟨schemaVersion, requestId, action, context, process, file⟩ =>
        { schemaVersion, requestId, action, context, process, file }
      invFun := fun r => (r.schemaVersion, r.requestId, r.action, r.context, r.process, r.file)
      left_inv := fun _ => rfl
      right_inv := fun _ => rfl }

/-- The class `ForensicCollectionRequest`. -/
def ForensicCollectionRequest.cls : ModelClass := declared.cls "ForensicCollectionRequest" true

/-- `ForensicCollectionRequest`, as pydantic validates it. -/
def ForensicCollectionRequest.codec : Codec CheckedRequest :=
  Codec.model "ForensicCollectionRequest" true declared (by decide)
    ForensicCollectionRequest.exactCollectionTarget isValueError_of_exactCollectionTarget

/-- `list(COLLECTION_KINDS)`. -/
def collectionActions : {as : List CollectAction // as.length ≤ 3} :=
  ⟨[.collectProcessInfo, .collectNetworkConnections, .collectFile], by decide⟩

theorem isValueError_of_uniqueActions {p : ForensicCollectionPolicy} {e : PyError}
    (h : p.uniqueActions = .error e) : e.isValueError = true := by
  simp only [ForensicCollectionPolicy.uniqueActions, bind_eq_error, raiseIf_eq_error] at h
  rcases h with ⟨_, rfl⟩ | ⟨_, _, _, rfl⟩
  · rfl
  · rfl

/-- The declared fields of a policy. -/
def ForensicCollectionPolicy.declared : Fields ForensicCollectionPolicy :=
  ((Fields.optional "schema_version" Codec.literal Version.v1).append <|
    (Fields.required "policy_id" (Codec.text (isIdentifier 128))).append <|
    (Fields.required "version" (Codec.int 1 2147483647)).append <|
    (Fields.optional "enabled" Codec.bool false).append <|
    (Fields.optional "allowed_actions" (Codec.list Codec.literal 3) collectionActions).append
    (Fields.optional "require_approval" (Codec.list Codec.literal 3) collectionActions)).equiv
    { toFun := fun ⟨schemaVersion, policyId, version, enabled, allowedActions,
          requireApproval⟩ =>
        { schemaVersion, policyId, version, enabled, allowedActions, requireApproval }
      invFun := fun p => (p.schemaVersion, p.policyId, p.version, p.enabled, p.allowedActions,
        p.requireApproval)
      left_inv := fun _ => rfl
      right_inv := fun _ => rfl }

/-- The class `ForensicCollectionPolicy`. -/
def ForensicCollectionPolicy.cls : ModelClass := declared.cls "ForensicCollectionPolicy" true

/-- `ForensicCollectionPolicy`, as pydantic validates it. -/
def ForensicCollectionPolicy.codec : Codec CheckedPolicy :=
  Codec.model "ForensicCollectionPolicy" true declared (by decide)
    ForensicCollectionPolicy.uniqueActions isValueError_of_uniqueActions

/-! ## Plans -/

/-- The decision of a plan. -/
inductive PlanDecision where
  | recommend
  | requireApproval
  | skip
  deriving DecidableEq, Repr

/-- The reason of a plan. -/
inductive PlanReason where
  | policyDisabled
  | actionNotAllowed
  | assetRequiresApproval
  | collectionRequiresApproval
  | collectionRecommended
  deriving DecidableEq, Repr

/-- `ForensicCollectionPlan`. -/
structure ForensicCollectionPlan where
  schemaVersion : Version
  request : CheckedRequest
  policyId : Identifier
  policyVersion : Bounded 1 2147483647
  assetClass : AssetClass
  decision : PlanDecision
  reason : PlanReason
  authorizationTier : Tier
  evidenceKind : ArtifactKind
  commandSchemaVersion : SchemaVersion
  target : Dict

/-- `COLLECTION_KINDS`. -/
def collectionKinds : CollectAction → ArtifactKind
  | .collectProcessInfo => .processSnapshot
  | .collectNetworkConnections => .networkSnapshot
  | .collectFile => .fileMetadata

/-- The recommendation that a process identity stands for. -/
def ProcessIdentity.recommendation (i : ProcessIdentity) : Dict :=
  [("target_pid", .int (i.pid : ℕ)), ("target_start_time_ticks", .int (i.startTimeTicks : ℕ))]

/-- The schema version and the target of the command that a request asks for. -/
def collectionTarget (rt : Runtime) (request : ForensicCollectionRequest) :
    Except PyError (SchemaVersion × Dict) :=
  match request.process with
  | some identity => do
      match ← translateRecommendation rt request.action.value identity.recommendation .none with
      | none => .error (.valueError "process identity cannot be translated safely")
      | some mapped =>
          match identity.bootId with
          | none => return (.v1, mapped.target)
          | some bootId =>
              return (.v2, [("pid", .int (identity.pid : ℕ)),
                ("start_time_ticks", .str (Text.ofNat identity.startTimeTicks)),
                ("boot_id", .str bootId)])
  | none =>
      match request.file with
      | some file => return (.v1, [("path", .str file.val.path)])
      | none => return (.v1, [])

/-- The tier of a collection: the policy and the asset class may strengthen it. -/
def collectionTier (policy : ForensicCollectionPolicy) (action : CollectAction)
    (assetClass : AssetClass) : Tier :=
  if assetClass ≠ .standard ∨ action ∈ policy.requireApproval.val then .analystApproval
  else classifyTier action.value

/-- The decision and the reason for a collection. -/
def planDecision (policy : ForensicCollectionPolicy) (action : CollectAction)
    (assetClass : AssetClass) (tier : Tier) : PlanDecision × PlanReason :=
  if !policy.enabled then (.skip, .policyDisabled)
  else if action ∉ policy.allowedActions.val then (.skip, .actionNotAllowed)
  else if assetClass ≠ .standard then (.requireApproval, .assetRequiresApproval)
  else if tier = .analystApproval then (.requireApproval, .collectionRequiresApproval)
  else (.recommend, .collectionRecommended)

/-- `plan_forensic_collection`. -/
def planForensicCollection (rt : Runtime) (request policy : PyVal) (assetClass : Text) :
    Except PyError ForensicCollectionPlan := do
  let request ← ForensicCollectionRequest.codec.parse request.modelDump
  let policy ← ForensicCollectionPolicy.codec.parse policy.modelDump
  match Vocabulary.ofText? (α := AssetClass) assetClass with
  | none => .error (.valueError "unknown asset classification")
  | some assetClass => do
      let (commandSchemaVersion, target) ← collectionTarget rt request
      let action := request.val.action
      let tier := collectionTier policy action assetClass
      let (decision, reason) := planDecision policy action assetClass tier
      return { schemaVersion := .v1
               request
               policyId := policy.val.policyId
               policyVersion := policy.val.version
               assetClass, decision, reason
               authorizationTier := tier
               evidenceKind := collectionKinds action
               commandSchemaVersion, target }

end ResponseEngine.Forensics
