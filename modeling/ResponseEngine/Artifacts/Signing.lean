/-
  Artifacts/Signing.lean --- the signing bytes of an artifact manifest.

  `artifactSigningInput` validates a manifest, dumps it, merges the authorization's
  fields into the dump and writes thirteen of them, each with its name and length,
  after a domain of its own.  The hand-kept list of names leaves out one field, the
  signature: everything else in the manifest can be read back from the bytes.
-/
import ResponseEngine.Artifacts
import ResponseEngine.Signing.Envelope

set_option autoImplicit false

namespace ResponseEngine.Artifacts

open ResponseEngine.Foundation ResponseEngine.Python ResponseEngine.Python.Pydantic
open ResponseEngine.Signing (field fieldBytes recordBytes)

/-! ## The signing input -/

/-- `FIELDS`. -/
def fields : List String :=
  ["schema_version", "artifact_id", "agent_id", "host_id", "command_id", "correlation_id", "kind",
    "media_type", "content_bytes", "sha256", "produced_at_unix", "algorithm", "key_id"]

/-- The bytes in front of every artifact's fields. -/
def artifactDomain : List UInt8 := Text.utf8 "panopticon-response-artifact-auth/2\n".toList

/-- `str(value)`. -/
def strOf (rt : Runtime) : PyVal → Text
  | .str t => t
  | .int n => Text.ofInt n
  | v => rt.format v

/-- `{**manifest, **manifest["authorization"]}`; the dump of a manifest has a dict there. -/
def mergedFields (manifest : Dict) : Except PyError Dict := do
  let authorization ← Dict.getItem manifest "authorization"
  return Dict.update manifest authorization.entries

/-- One field of the signing input. -/
def artifactField (rt : Runtime) (merged : Dict) (name : String) : Except PyError (List UInt8) := do
  let value ← Dict.getItem merged name
  field name (strOf rt value)

/-- `artifact_signing_input`. -/
def artifactSigningInput (rt : Runtime) (value : PyVal) : Except PyError (List UInt8) := do
  let manifest ← ArtifactManifest.codec.parse value
  let merged ← mergedFields (ArtifactManifest.codec.toPy manifest).modelDump.entries
  let output ← fields.mapM (artifactField rt merged)
  return artifactDomain ++ output.flatten

/-! ## What is signed -/

namespace ArtifactManifest

/-- The contents of the signed fields, in order. -/
def contents (m : ArtifactManifest) : List Text :=
  [Vocabulary.text m.schemaVersion, m.artifactId, m.agentId, m.hostId, m.commandId,
    m.correlationId, m.kind.value, Vocabulary.text m.mediaType, Text.ofNat m.contentBytes,
    m.sha256, Text.ofNat m.producedAtUnix, Vocabulary.text m.authorization.algorithm,
    m.authorization.keyId]

/-- Two manifests with the same value in every field but `authorization.signature`. -/
def SameButSignature (m n : ArtifactManifest) : Prop :=
  { m with authorization := { m.authorization with signature := n.authorization.signature } } = n

/-- The thirteen contents determine the manifest up to its signature. -/
theorem contents_inj {m n : ArtifactManifest} :
    m.contents = n.contents ↔ SameButSignature m n := by
  constructor
  · intro h
    simp only [contents, List.cons.injEq, Text.ofNat_inj, and_true, Text.ofString_inj] at h
    obtain ⟨hversion, hartifact, hagent, hhost, hcommand, hcorrelation, hkind, hmedia, hbytes,
      hsha, hproduced, halgorithm, hkey⟩ := h
    have hkind' : m.kind = n.kind := Vocabulary.text_injective hkind
    cases m with
    | mk _ _ _ _ _ _ _ _ _ _ _ am =>
        cases n with
        | mk _ _ _ _ _ _ _ _ _ _ _ an =>
            cases am
            cases an
            simp only [SameButSignature, ArtifactManifest.mk.injEq,
              ArtifactAuthorization.mk.injEq]
            exact ⟨trivial, Subtype.ext hartifact, Subtype.ext hagent, Subtype.ext hhost,
              Subtype.ext hcommand, Subtype.ext hcorrelation, hkind', trivial,
              Subtype.ext hbytes, Subtype.ext hsha, Subtype.ext hproduced, trivial,
              Subtype.ext hkey, trivial⟩
  · intro h
    rw [← h]
    rfl

end ArtifactManifest

/-! ## The fields of a dump -/

variable {rt : Runtime}

/-- The merged fields of a manifest's dump. -/
def merged (m : ArtifactManifest) : Dict :=
  let manifest := (ArtifactManifest.codec.toPy m).modelDump.entries
  Dict.update manifest (Dict.get manifest "authorization").entries

theorem mergedFields_eq (m : ArtifactManifest) :
    mergedFields (ArtifactManifest.codec.toPy m).modelDump.entries = .ok (merged m) := by
  have hcontains : Dict.contains (ArtifactManifest.codec.toPy m).modelDump.entries
      "authorization" = true := by rfl
  rw [mergedFields, Dict.getItem_of_contains hcontains]
  rfl

/-- Every name of the list is present in the merged dict, and holds the manifest's own
content. -/
theorem forall₂_fields (m : ArtifactManifest) :
    List.Forall₂ (fun name text => ∃ v, Dict.find? (merged m) (name : String) = some v ∧
      strOf rt v = text) fields m.contents := by
  unfold fields ArtifactManifest.contents
  repeat' refine .cons ⟨_, rfl, rfl⟩ ?_
  exact .nil

/-- Fields that are present are written like fields given by their contents. -/
theorem mapM_artifactField {d : Dict} {names : List String} {texts : List Text}
    (h : List.Forall₂ (fun name text => ∃ v, Dict.find? d (name : String) = some v ∧
      strOf rt v = text) names texts) :
    names.mapM (artifactField rt d) = (names.zip (texts.map PyVal.str)).mapM fieldBytes := by
  induction h with
  | nil => rfl
  | @cons name text names texts hname _ ih =>
      obtain ⟨v, hv, htext⟩ := hname
      rw [List.map_cons, List.zip_cons_cons, List.mapM_cons, List.mapM_cons, ih]
      rw [artifactField, Dict.getItem_eq_ok.mpr hv, ok_bind, htext]
      rfl

/-- A manifest holds encodable texts only. -/
theorem encodable_contents (m : ArtifactManifest) : ∀ t ∈ m.contents, t.Encodable := by
  have hbounded : ∀ {upper : ℕ} (t : BoundedText upper), t.val.Encodable := fun t =>
    (boundedText_iff.mp t.property).1
  simp only [ArtifactManifest.contents, List.forall_mem_cons, Text.encodable_ofString,
    Text.encodable_ofNat, hbounded, true_and, List.not_mem_nil, false_imp_iff, implies_true,
    and_true]
  exact ⟨Text.encodable_of_fullmatch (fun _ => rfl) m.artifactId.property,
    Text.encodable_of_fullmatch (fun _ => rfl) m.sha256.property,
    Text.encodable_of_fullmatch (fun _ => rfl) m.authorization.keyId.property⟩

/-! ## The signature covers the manifest -/

/-- The signing bytes of an accepted manifest: its contents, framed, after the domain. -/
theorem artifactSigningInput_eq (rt : Runtime) {value : PyVal} {m : ArtifactManifest}
    (h : ArtifactManifest.codec.parse value = .ok m) :
    ∃ data, m.contents.map Text.utf8? = data.map some ∧
      artifactSigningInput rt value = .ok (artifactDomain ++ recordBytes fields data) := by
  obtain ⟨data, hdata⟩ := Option.isSome_iff_exists.mp
    (Text.utf8All?_isSome.mpr (encodable_contents m))
  have hutf8 := Text.utf8All?_eq_some.mp hdata
  have hlength : fields.length = m.contents.length := rfl
  obtain ⟨parts, hparts, hflatten⟩ := Signing.mapM_fieldBytes_of_utf8 hlength hutf8
  refine ⟨data, hutf8, ?_⟩
  rw [artifactSigningInput, h, ok_bind, mergedFields_eq, ok_bind,
    mapM_artifactField (forall₂_fields m), hparts, ok_bind, hflatten]
  rfl

/-- The two domains differ before either ends. -/
theorem artifactDomain_append_ne {left right : List UInt8} :
    artifactDomain ++ left ≠ Signing.domain ++ right := by
  intro h
  have htake := congrArg (List.take 12) h
  rw [List.take_append_of_le_length (by decide), List.take_append_of_le_length (by decide)] at htake
  exact absurd htake (by decide)

/-- **A manifest's signature covers every field but itself**, and never stands for a
command. -/
theorem artifactSigningInput_covers (rt : Runtime) :
    (∀ (v₁ v₂ : PyVal) (m₁ m₂ : ArtifactManifest),
      ArtifactManifest.codec.parse v₁ = .ok m₁ → ArtifactManifest.codec.parse v₂ = .ok m₂ →
      ∃ b₁ b₂, artifactSigningInput rt v₁ = .ok b₁ ∧ artifactSigningInput rt v₂ = .ok b₂ ∧
        (b₁ = b₂ ↔ m₁.SameButSignature m₂)) ∧
    ∀ (v₁ v₂ : PyVal) (b₁ b₂ : List UInt8), artifactSigningInput rt v₁ = .ok b₁ →
      Signing.signingInput rt v₂ = .ok b₂ → b₁ ≠ b₂ := by
  constructor
  · intro v₁ v₂ m₁ m₂ h₁ h₂
    obtain ⟨data₁, hdata₁, hbytes₁⟩ := artifactSigningInput_eq rt h₁
    obtain ⟨data₂, hdata₂, hbytes₂⟩ := artifactSigningInput_eq rt h₂
    refine ⟨_, _, hbytes₁, hbytes₂, ?_⟩
    rw [List.append_cancel_left_eq, ← ArtifactManifest.contents_inj]
    have hlength : ∀ {m : ArtifactManifest} {data : List (List UInt8)},
        m.contents.map Text.utf8? = data.map some → data.length = fields.length := by
      intro m data h
      have hlength := congrArg List.length h
      rw [List.length_map, List.length_map] at hlength
      exact hlength.symm
    constructor
    · intro h
      obtain rfl := Signing.recordBytes_inj (hlength hdata₁) (hlength hdata₂) h
      exact Text.map_utf8?_injective hdata₁ hdata₂
    · intro h
      rw [h, hdata₂] at hdata₁
      rw [List.map_injective_iff.mpr (Option.some_injective _) hdata₁]
  · intro v₁ v₂ b₁ b₂ h₁ h₂ h
    obtain ⟨m, hm, _⟩ := bind_eq_ok.mp h₁
    obtain ⟨data, _, hbytes⟩ := artifactSigningInput_eq rt hm
    obtain ⟨rest, rfl⟩ := Signing.domain_of_signingInput h₂
    rw [h₁, Except.ok.injEq, h] at hbytes
    exact artifactDomain_append_ne hbytes.symm

/-- A manifest with a given signature. -/
def sampleManifest (signature : {t : Text // isSignature t = true}) : ArtifactManifest where
  schemaVersion := .v2
  artifactId := ⟨"art_0123456789abcdef0123456789abcdef0123456789abcdef0123456789abcdef", by decide⟩
  agentId := ⟨"agent-1", by decide⟩
  hostId := ⟨"host-1", by decide⟩
  commandId := ⟨"cmd-1", by decide⟩
  correlationId := ⟨"corr-1", by decide⟩
  kind := .processSnapshot
  mediaType := .applicationJson
  contentBytes := ⟨2, by decide⟩
  sha256 := ⟨"0123456789abcdef0123456789abcdef0123456789abcdef0123456789abcdef", by decide⟩
  producedAtUnix := ⟨1700000000, by decide⟩
  authorization :=
    { algorithm := .es256
      keyId := ⟨"0123456789abcdef", by decide⟩
      signature }

/-- A signature that repeats one letter. -/
def sampleSignature (c : Char) (hc : isBase64 (.scalar c) = true) :
    {t : Text // isSignature t = true} :=
  ⟨List.replicate 86 (.scalar c) ++ Text.ofString "==", by
    refine Text.fullmatch_append (Text.fullmatch_replicate (by simp) ?_) (Text.fullmatch_lits "==")
    intro d hd
    rwa [List.eq_of_mem_replicate hd]⟩

theorem artifactSigningInput_covers_sample :
    ∃ b₁ b₂, artifactSigningInput .sample
        (ArtifactManifest.codec.toPy (sampleManifest (sampleSignature 'A' rfl))).modelDump =
          .ok b₁ ∧
      artifactSigningInput .sample
        (ArtifactManifest.codec.toPy (sampleManifest (sampleSignature 'B' rfl))).modelDump =
          .ok b₂ ∧ b₁ = b₂ := by
  obtain ⟨b₁, b₂, h₁, h₂, hiff⟩ := (artifactSigningInput_covers .sample).1 _ _ _ _
    (ArtifactManifest.codec.parse_toPy (sampleManifest (sampleSignature 'A' rfl)))
    (ArtifactManifest.codec.parse_toPy (sampleManifest (sampleSignature 'B' rfl)))
  exact ⟨b₁, b₂, h₁, h₂, hiff.mpr rfl⟩

end ResponseEngine.Artifacts
