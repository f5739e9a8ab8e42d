/-
  Forensics/Evidence.lean --- evidence and the command it answers.

  `validateEvidenceMetadata` compares an artifact's manifest with what the manager
  expects of one command.  Whatever passes is the manifest itself, and no signed
  manifest passes under two expectations: an artifact cannot be replayed for another
  command, case, endpoint or action (`expectation_unique`).  A context takes references
  to evidence of its own endpoint, each artifact once (`consistentEvidenceScope_eq_ok`).
-/
import ResponseEngine.Artifacts.Signing
import ResponseEngine.Forensics

set_option autoImplicit false

namespace ResponseEngine.Forensics

open ResponseEngine.Foundation ResponseEngine.Python ResponseEngine.Python.Pydantic
open ResponseEngine.Artifacts ResponseEngine.Triage

/-! ## Expectations -/

/-- `EvidenceExpectation`. -/
@[ext] structure EvidenceExpectation where
  action : CollectAction
  agentId : Identifier
  hostId : HostIdentifier
  commandId : Identifier
  correlationId : Identifier

/-- `EvidenceExpectation`, as pydantic validates it. -/
def EvidenceExpectation.codec : Codec EvidenceExpectation :=
  Codec.closedModel "EvidenceExpectation" true
    (((Fields.required "action" Codec.literal).append <|
      (Fields.required "agent_id" (Codec.text (isIdentifier 128))).append <|
      (Fields.required "host_id" (Codec.text (isIdentifier 256))).append <|
      (Fields.required "command_id" (Codec.text (isIdentifier 128))).append
      (Fields.required "correlation_id" (Codec.text (isIdentifier 128)))).equiv
      { toFun := fun ⟨action, agentId, hostId, commandId, correlationId⟩ =>
          { action, agentId, hostId, commandId, correlationId }
        invFun := fun e => (e.action, e.agentId, e.hostId, e.commandId, e.correlationId)
        left_inv := fun _ => rfl
        right_inv := fun _ => rfl })
    (by decide)

/-! ## The check -/

/-- The raw manifest that is validated: the dump of an `ArtifactManifest`, or the value
itself.  A raw value is one that holds no instances of models. -/
def rawManifest : PyVal → PyVal
  | .model cls attributes =>
      if cls = ArtifactManifest.cls then (PyVal.model cls attributes).modelDump
      else .model cls attributes
  | v => v

/-- The fields that are compared: each with what the manifest says and what is expected. -/
def scopeFields (value : ArtifactManifest) (expected : EvidenceExpectation) :
    List (String × Text × Text) :=
  [("agent_id", value.agentId, expected.agentId), ("host_id", value.hostId, expected.hostId),
    ("command_id", value.commandId, expected.commandId),
    ("correlation_id", value.correlationId, expected.correlationId)]

/-- The loop over the compared fields. -/
def checkScope : List (String × Text × Text) → Except PyError Unit
  | [] => .ok ()
  | (name, found, wanted) :: rest => do
      raiseIf (decide (found ≠ wanted))
        (.valueError (("evidence " : Text) ++ (name : Text) ++
          (" does not match expected command scope" : Text)))
      checkScope rest

/-- `validate_evidence_metadata`. -/
def validateEvidenceMetadata (manifest expected : PyVal) : Except PyError ArtifactManifest := do
  let expected ← EvidenceExpectation.codec.parse expected.modelDump
  let value ← ArtifactManifest.codec.parse (rawManifest manifest)
  checkScope (scopeFields value expected)
  raiseIf (decide (value.kind ≠ collectionKinds expected.action))
    (.valueError "evidence kind does not match collection action")
  return value

/-! ## What passes -/

/-- A manifest is of the command that an expectation is about. -/
structure Answers (value : ArtifactManifest) (expected : EvidenceExpectation) : Prop where
  agent : value.agentId.val = expected.agentId.val
  host : value.hostId.val = expected.hostId.val
  command : value.commandId.val = expected.commandId.val
  correlation : value.correlationId.val = expected.correlationId.val
  kind : value.kind = collectionKinds expected.action

theorem checkScope_eq_ok {fields : List (String × Text × Text)} :
    checkScope fields = .ok () ↔ ∀ entry ∈ fields, entry.2.1 = entry.2.2 := by
  induction fields with
  | nil => simp [checkScope]
  | cons entry rest ih =>
      obtain ⟨name, found, wanted⟩ := entry
      simp only [checkScope, bind_eq_ok, raiseIf_eq_ok, decide_eq_false_iff_not, not_not,
        List.forall_mem_cons, ih]
      constructor
      · intro h
        obtain ⟨_, hfound, hrest⟩ := h
        exact ⟨hfound, hrest⟩
      · intro h
        exact ⟨(), h⟩

/-- The loop and the kind pass exactly for a manifest that answers the expectation. -/
theorem answers_iff {value : ArtifactManifest} {expected : EvidenceExpectation} :
    Answers value expected ↔ checkScope (scopeFields value expected) = .ok () ∧
      value.kind = collectionKinds expected.action := by
  rw [checkScope_eq_ok]
  simp only [scopeFields, List.forall_mem_cons, List.not_mem_nil, false_imp_iff, implies_true,
    and_true]
  constructor
  · intro h
    exact ⟨⟨h.agent, h.host, h.command, h.correlation⟩, h.kind⟩
  · intro h
    obtain ⟨⟨hagent, hhost, hcommand, hcorrelation⟩, hkind⟩ := h
    exact ⟨hagent, hhost, hcommand, hcorrelation, hkind⟩

theorem validateEvidenceMetadata_eq_ok {manifest expected : PyVal} {value : ArtifactManifest} :
    validateEvidenceMetadata manifest expected = .ok value ↔
      ∃ e, EvidenceExpectation.codec.parse expected.modelDump = .ok e ∧
        ArtifactManifest.codec.parse (rawManifest manifest) = .ok value ∧ Answers value e := by
  simp only [validateEvidenceMetadata, bind_eq_ok, raiseIf_eq_ok, decide_eq_false_iff_not, not_not,
    pure_eq_ok, Except.ok.injEq, answers_iff]
  constructor
  · intro h
    obtain ⟨e, he, m, hm, _, hscope, _, hkind, hvalue⟩ := h
    subst hvalue
    exact ⟨e, he, hm, hscope, hkind⟩
  · intro h
    obtain ⟨e, he, hm, hscope, hkind⟩ := h
    exact ⟨e, he, value, hm, (), hscope, (), hkind, rfl⟩

theorem collectionKinds_injective : Function.Injective collectionKinds := by
  intro a b h
  cases a <;> cases b <;> first | rfl | exact absurd h (by decide)

/-- A manifest answers one expectation at most. -/
theorem Answers.unique {value : ArtifactManifest} {e f : EvidenceExpectation}
    (he : Answers value e) (hf : Answers value f) : e = f :=
  EvidenceExpectation.ext (collectionKinds_injective (he.kind.symm.trans hf.kind))
    (Subtype.ext (he.agent.symm.trans hf.agent)) (Subtype.ext (he.host.symm.trans hf.host))
    (Subtype.ext (he.command.symm.trans hf.command))
    (Subtype.ext (he.correlation.symm.trans hf.correlation))

/-- The signature of a manifest has no say. -/
theorem Answers.of_sameButSignature {m n : ArtifactManifest} {e : EvidenceExpectation}
    (h : Answers m e) (hsame : m.SameButSignature n) : Answers n e := by
  obtain ⟨hagent, hhost, hcommand, hcorrelation, hkind⟩ := h
  rw [← hsame]
  exact ⟨hagent, hhost, hcommand, hcorrelation, hkind⟩

/-- Manifests of the same signing bytes differ in their signatures only. -/
theorem sameButSignature_of_signingInput {rt : Runtime} {v w : PyVal} {m n : ArtifactManifest}
    (hm : ArtifactManifest.codec.parse v = .ok m) (hn : ArtifactManifest.codec.parse w = .ok n)
    (h : artifactSigningInput rt v = artifactSigningInput rt w) : m.SameButSignature n := by
  obtain ⟨data₁, hdata₁, hbytes₁⟩ := artifactSigningInput_eq rt hm
  obtain ⟨data₂, hdata₂, hbytes₂⟩ := artifactSigningInput_eq rt hn
  have hlength {m : ArtifactManifest} {data : List (List UInt8)}
      (h : m.contents.map Text.utf8? = data.map some) : data.length = fields.length := by
    have hlength := congrArg List.length h
    rw [List.length_map, List.length_map] at hlength
    exact hlength.symm
  rw [hbytes₁, hbytes₂, Except.ok.injEq, List.append_cancel_left_eq] at h
  obtain rfl := Signing.recordBytes_inj (hlength hdata₁) (hlength hdata₂) h
  exact ArtifactManifest.contents_inj.mp (Text.map_utf8?_injective hdata₁ hdata₂)

/-- **Evidence cannot be replayed.**  Manifests that are signed by the same bytes, whatever the
signatures, pass under one expectation only: one action, agent, host, command and correlation. -/
theorem expectation_unique (rt : Runtime) {v w expected other : PyVal} {m n : ArtifactManifest}
    (hm : validateEvidenceMetadata v expected = .ok m)
    (hn : validateEvidenceMetadata w other = .ok n)
    (hbytes : artifactSigningInput rt (rawManifest v) = artifactSigningInput rt (rawManifest w)) :
    m.SameButSignature n ∧ ∃ e, EvidenceExpectation.codec.parse expected.modelDump = .ok e ∧
      EvidenceExpectation.codec.parse other.modelDump = .ok e := by
  obtain ⟨e, he, hvalue, hanswers⟩ := validateEvidenceMetadata_eq_ok.mp hm
  obtain ⟨f, hf, hother, hotherAnswers⟩ := validateEvidenceMetadata_eq_ok.mp hn
  have hsame := sameButSignature_of_signingInput hvalue hother hbytes
  obtain rfl := (hanswers.of_sameButSignature hsame).unique hotherAnswers
  exact ⟨hsame, e, he, hf⟩

/-- What is expected of the command that the sample manifest is of. -/
def sampleExpectation : EvidenceExpectation where
  action := .collectProcessInfo
  agentId := ⟨"agent-1", by decide⟩
  hostId := ⟨"host-1", by decide⟩
  commandId := ⟨"cmd-1", by decide⟩
  correlationId := ⟨"corr-1", by decide⟩

theorem validateEvidenceMetadata_sample (signature : {t : Text // isSignature t = true}) :
    validateEvidenceMetadata (ArtifactManifest.codec.toPy (sampleManifest signature))
      (EvidenceExpectation.codec.toPy sampleExpectation) = .ok (sampleManifest signature) :=
  validateEvidenceMetadata_eq_ok.mpr ⟨sampleExpectation, EvidenceExpectation.codec.parse_toPy _,
    ArtifactManifest.codec.parse_toPy _, rfl, rfl, rfl, rfl, rfl⟩

/-- Two signatures of one manifest: its bytes, and the expectation that both pass under. -/
theorem expectation_unique_sample :
    (sampleManifest (sampleSignature 'A' rfl)).SameButSignature
        (sampleManifest (sampleSignature 'B' rfl)) ∧
      sampleManifest (sampleSignature 'A' rfl) ≠ sampleManifest (sampleSignature 'B' rfl) := by
  have hbytes : artifactSigningInput .sample (rawManifest
      (ArtifactManifest.codec.toPy (sampleManifest (sampleSignature 'A' rfl)))) =
        artifactSigningInput .sample (rawManifest
          (ArtifactManifest.codec.toPy (sampleManifest (sampleSignature 'B' rfl)))) := by
    decide +kernel
  constructor
  · exact (expectation_unique .sample (validateEvidenceMetadata_sample (sampleSignature 'A' rfl))
      (validateEvidenceMetadata_sample (sampleSignature 'B' rfl)) hbytes).1
  · intro hequal
    have hsignature := congrArg (fun m => m.authorization.signature.val.head?) hequal
    exact absurd hsignature (by decide)

/-! ## The evidence of a context -/

/-- A reference is to evidence of the context's endpoint. -/
def OfEndpoint (c : ForensicContext) (reference : EvidenceReference) : Prop :=
  reference.manifest.agentId.val = c.agentId.val ∧ reference.manifest.hostId.val = c.hostId.val

/-- One reference passes when it is of the endpoint and its artifact is new. -/
theorem checkReference_eq_ok {c : ForensicContext} {identities : List Text}
    {reference : EvidenceReference} : checkReference c identities reference = .ok () ↔
      OfEndpoint c reference ∧ reference.manifest.artifactId.val ∉ identities := by
  have hcontains : identities.contains reference.manifest.artifactId.val = false ↔
      reference.manifest.artifactId.val ∉ identities := by
    rw [← Bool.not_eq_true, List.contains_iff_mem]
  simp only [checkReference, bind_eq_ok, raiseIf_eq_ok, Bool.or_eq_false_iff,
    decide_eq_false_iff_not, not_not, hcontains, OfEndpoint]
  constructor
  · intro h
    obtain ⟨_, hendpoint, hnew⟩ := h
    exact ⟨hendpoint, hnew⟩
  · intro h
    obtain ⟨hendpoint, hnew⟩ := h
    exact ⟨(), hendpoint, hnew⟩

/-- The loop passes when every reference is of the endpoint, no artifact comes twice, and none
was seen before. -/
theorem checkEvidence_eq_ok {c : ForensicContext} {references : List EvidenceReference}
    {identities : List Text} : checkEvidence c identities references = .ok () ↔
      (∀ r ∈ references, OfEndpoint c r) ∧
      (references.map fun r => r.manifest.artifactId.val).Nodup ∧
      ∀ r ∈ references, r.manifest.artifactId.val ∉ identities := by
  induction references generalizing identities with
  | nil => simp [checkEvidence]
  | cons reference rest ih =>
      rw [checkEvidence, bind_eq_ok, List.forall_mem_cons, List.forall_mem_cons, List.map_cons,
        List.nodup_cons]
      constructor
      · intro h
        obtain ⟨_, hreference, hrest⟩ := h
        obtain ⟨hendpoint, hnew⟩ := checkReference_eq_ok.mp hreference
        obtain ⟨hendpoints, hnodup, hunseen⟩ := ih.mp hrest
        refine ⟨⟨hendpoint, hendpoints⟩, ⟨?_, hnodup⟩, hnew, ?_⟩
        · intro hmem
          obtain ⟨r, hr, heq⟩ := List.mem_map.mp hmem
          exact hunseen r hr (heq ▸ List.mem_cons_self)
        · intro r hr hmem
          exact hunseen r hr (List.mem_cons_of_mem _ hmem)
      · intro h
        obtain ⟨⟨hendpoint, hendpoints⟩, ⟨hfresh, hnodup⟩, hnew, hunseen⟩ := h
        refine ⟨(), checkReference_eq_ok.mpr ⟨hendpoint, hnew⟩, ih.mpr ⟨hendpoints, hnodup, ?_⟩⟩
        intro r hr hmem
        cases List.mem_cons.mp hmem with
        | inl heq => exact hfresh (List.mem_map.mpr ⟨r, hr, heq⟩)
        | inr hseen => exact hunseen r hr hseen

/-- What a context takes as evidence. -/
theorem consistentEvidenceScope_eq_ok {c : ForensicContext} :
    c.consistentEvidenceScope = .ok () ↔ (∀ r ∈ c.evidence.val, OfEndpoint c r) ∧
      (c.evidence.val.map fun r => r.manifest.artifactId.val).Nodup := by
  rw [ForensicContext.consistentEvidenceScope, checkEvidence_eq_ok]
  simp

/-- **Admitted evidence makes a case.**  A context whose evidence was admitted, each artifact
under an expectation of its own, is consistent exactly when all the expectations are of the
context's agent and host and no artifact comes twice. -/
theorem admitted_consistent_iff {c : ForensicContext}
    {expected : EvidenceReference → EvidenceExpectation}
    (hadmitted : ∀ r ∈ c.evidence.val,
      validateEvidenceMetadata (ArtifactManifest.codec.toPy r.manifest)
        (EvidenceExpectation.codec.toPy (expected r)) = .ok r.manifest) :
    c.consistentEvidenceScope = .ok () ↔
      (∀ r ∈ c.evidence.val, (expected r).agentId.val = c.agentId.val ∧
        (expected r).hostId.val = c.hostId.val) ∧
      (c.evidence.val.map fun r => r.manifest.artifactId.val).Nodup := by
  rw [consistentEvidenceScope_eq_ok]
  refine and_congr_left fun _ => forall_congr' fun r => forall_congr' fun hr => ?_
  obtain ⟨e, he, _, hanswers⟩ := validateEvidenceMetadata_eq_ok.mp (hadmitted r hr)
  obtain rfl := Except.ok.inj ((EvidenceExpectation.codec.parse_toPy (expected r)).symm.trans he)
  rw [OfEndpoint, hanswers.agent, hanswers.host]

/-- The sample manifest, for an artifact of its own. -/
def otherManifest : ArtifactManifest :=
  { sampleManifest (sampleSignature 'A' rfl) with
    artifactId :=
      ⟨"art_1123456789abcdef0123456789abcdef0123456789abcdef0123456789abcdef", by decide⟩ }

/-- A reference to a manifest. -/
def sampleReference (manifest : ArtifactManifest) : EvidenceReference where
  sourceId := ⟨"sensor-1", by decide⟩
  sourceRecordId := ⟨"record-1", by decide⟩
  manifest

/-- A context with two artifacts. -/
def sampleCase : ForensicContext where
  alertId := ⟨"alert-1", by decide⟩
  agentId := ⟨"agent-1", by decide⟩
  hostId := ⟨"host-1", by decide⟩
  sourceId := ⟨"sensor-1", by decide⟩
  sourceRecordId := ⟨"record-1", by decide⟩
  observedAt := ⟨sampleMoment, by decide⟩
  ruleId := none
  recommendationId := none
  evidence :=
    ⟨[sampleReference (sampleManifest (sampleSignature 'A' rfl)), sampleReference otherManifest],
      by decide⟩

theorem admitted_consistent_iff_sample : sampleCase.consistentEvidenceScope = .ok () := by
  have hadmitted : ∀ r ∈ sampleCase.evidence.val,
      validateEvidenceMetadata (ArtifactManifest.codec.toPy r.manifest)
        (EvidenceExpectation.codec.toPy sampleExpectation) = .ok r.manifest := by
    intro r hr
    rcases List.mem_pair.mp hr with rfl | rfl
    · exact validateEvidenceMetadata_sample _
    · exact validateEvidenceMetadata_eq_ok.mpr ⟨sampleExpectation,
        EvidenceExpectation.codec.parse_toPy _, ArtifactManifest.codec.parse_toPy _, rfl, rfl, rfl,
        rfl, rfl⟩
  refine (admitted_consistent_iff hadmitted).mpr ⟨?_, by decide⟩
  intro r hr
  rcases List.mem_pair.mp hr with rfl | rfl
  · exact ⟨rfl, rfl⟩
  · exact ⟨rfl, rfl⟩

end ResponseEngine.Forensics
