/-
  Artifacts.lean --- the signed artifact manifest.

  `ArtifactManifest` describes one artifact that an agent delivered.  Its fields are
  closed: every value of the structures below is one that validation accepts.
-/
import ResponseEngine.Python.Codec

set_option autoImplicit false

namespace ResponseEngine.Artifacts

open ResponseEngine.Foundation ResponseEngine.Python ResponseEngine.Python.Pydantic

/-! ## Texts -/

/-- `^[0-9a-f]{16}$`. -/
def isKeyId (t : Text) : Bool := Text.fullmatch (List.replicate 16 CodePoint.isLowerHex) t

/-- `[A-Za-z0-9+/]`. -/
def isBase64 : CodePoint → Bool
  | .scalar c => c.isAlphanum || c == '+' || c == '/'
  | .surrogate _ => false

/-- `^[A-Za-z0-9+/]{86}==$`, of 88 characters. -/
def isSignature (t : Text) : Bool :=
  Text.fullmatch (List.replicate 86 isBase64 ++ Text.lits "==") t

/-- `^art_[0-9a-f]{64}$`. -/
def isArtifactId (t : Text) : Bool :=
  Text.fullmatch (Text.lits "art_" ++ List.replicate 64 CodePoint.isLowerHex) t

/-- `^[0-9a-f]{64}$`. -/
def isSha256 (t : Text) : Bool := Text.fullmatch (List.replicate 64 CodePoint.isLowerHex) t

/-! ## Vocabularies -/

/-- `Literal["ES256"]`. -/
inductive Algorithm where
  | es256
  deriving DecidableEq, Repr

instance : Vocabulary Algorithm where
  members := [.es256]
  text _ := "ES256"
  mem_members a := by cases a; decide
  text_injective _ _ _ := rfl

/-- `Literal["2"]`. -/
inductive ManifestVersion where
  | v2
  deriving DecidableEq, Repr

instance : Vocabulary ManifestVersion where
  members := [.v2]
  text _ := "2"
  mem_members a := by cases a; decide
  text_injective _ _ _ := rfl

/-- `Literal["application/json"]`. -/
inductive MediaType where
  | applicationJson
  deriving DecidableEq, Repr

instance : Vocabulary MediaType where
  members := [.applicationJson]
  text _ := "application/json"
  mem_members a := by cases a; decide
  text_injective _ _ _ := rfl

/-- What an artifact is evidence of. -/
inductive ArtifactKind where
  | processSnapshot
  | networkSnapshot
  | fileMetadata
  | executionReport
  deriving DecidableEq, Repr

/-- The wire text of a kind. -/
def ArtifactKind.value : ArtifactKind → String
  | processSnapshot => "process_snapshot"
  | networkSnapshot => "network_snapshot"
  | fileMetadata => "file_metadata"
  | executionReport => "execution_report"

instance : Vocabulary ArtifactKind where
  members := [.processSnapshot, .networkSnapshot, .fileMetadata, .executionReport]
  text := ArtifactKind.value
  mem_members a := by cases a <;> decide
  text_injective := by
    intro a b h
    cases a <;> cases b <;> first | rfl | simp [ArtifactKind.value] at h

/-! ## Models -/

/-- `str`, of at least one and at most so many characters. -/
abbrev BoundedText (upper : ℕ) := {t : Text // boundedText 1 upper t = true}

/-- `ArtifactAuthorization`. -/
structure ArtifactAuthorization where
  algorithm : Algorithm
  keyId : {t : Text // isKeyId t = true}
  signature : {t : Text // isSignature t = true}

/-- `ArtifactManifest`. -/
structure ArtifactManifest where
  schemaVersion : ManifestVersion
  artifactId : {t : Text // isArtifactId t = true}
  agentId : BoundedText 128
  hostId : BoundedText 256
  commandId : BoundedText 128
  correlationId : BoundedText 128
  kind : ArtifactKind
  mediaType : MediaType
  contentBytes : Bounded 1 1048576
  sha256 : {t : Text // isSha256 t = true}
  producedAtUnix : Bounded 0 253402300799
  authorization : ArtifactAuthorization

/-- `ArtifactAuthorization`, as pydantic validates it. -/
def ArtifactAuthorization.codec : Codec ArtifactAuthorization :=
  Codec.closedModel "ArtifactAuthorization" false
    (((Fields.required "algorithm" Codec.literal).append <|
      (Fields.required "key_id" (Codec.text isKeyId)).append
      (Fields.required "signature" (Codec.text isSignature))).equiv
      { toFun := fun ⟨algorithm, keyId, signature⟩ => { algorithm, keyId, signature }
        invFun := fun a => (a.algorithm, a.keyId, a.signature)
        left_inv := fun _ => rfl
        right_inv := fun _ => rfl })
    (by decide)

/-- The declared fields of an artifact manifest. -/
def ArtifactManifest.declared : Fields ArtifactManifest :=
  ((Fields.required "schema_version" Codec.literal).append <|
    (Fields.required "artifact_id" (Codec.text isArtifactId)).append <|
    (Fields.required "agent_id" (Codec.text (boundedText 1 128))).append <|
    (Fields.required "host_id" (Codec.text (boundedText 1 256))).append <|
    (Fields.required "command_id" (Codec.text (boundedText 1 128))).append <|
    (Fields.required "correlation_id" (Codec.text (boundedText 1 128))).append <|
    (Fields.required "kind" Codec.literal).append <|
    (Fields.required "media_type" Codec.literal).append <|
    (Fields.required "content_bytes" (Codec.int 1 1048576)).append <|
    (Fields.required "sha256" (Codec.text isSha256)).append <|
    (Fields.required "produced_at_unix" (Codec.int 0 253402300799)).append
    (Fields.required "authorization" ArtifactAuthorization.codec)).equiv
    { toFun := fun ⟨schemaVersion, artifactId, agentId, hostId, commandId, correlationId, kind,
          mediaType, contentBytes, sha256, producedAtUnix, authorization⟩ =>
        { schemaVersion, artifactId, agentId, hostId, commandId, correlationId, kind, mediaType,
          contentBytes, sha256, producedAtUnix, authorization }
      invFun := fun m => (m.schemaVersion, m.artifactId, m.agentId, m.hostId, m.commandId,
        m.correlationId, m.kind, m.mediaType, m.contentBytes, m.sha256, m.producedAtUnix,
        m.authorization)
      left_inv := fun _ => rfl
      right_inv := fun _ => rfl }

/-- The class `ArtifactManifest`. -/
def ArtifactManifest.cls : ModelClass := declared.cls "ArtifactManifest" false

/-- `ArtifactManifest`, as pydantic validates it. -/
def ArtifactManifest.codec : Codec ArtifactManifest :=
  Codec.closedModel "ArtifactManifest" false declared (by decide)

end ResponseEngine.Artifacts
