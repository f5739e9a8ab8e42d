/-
  Recommendation/FailClosed.lean --- when the translation and the identity builder
  return, and when an exception escapes them.

  Every shape test is total, and so are the number conversions behind it.  The one
  step that can raise is the UTF-8 encoding of a text that is hashed before
  anything is compared with the digest: a lone surrogate in a host id or a sensor
  id leaves both functions with a `UnicodeEncodeError`.
-/
import ResponseEngine.Recommendation.Translation

set_option autoImplicit false

namespace ResponseEngine.Recommendation

open ResponseEngine.Foundation ResponseEngine.Python ResponseEngine.Contract
open ResponseEngine.LinuxIdentity

variable {rt : Runtime}

/-! ## Hashing -/

/-- A digest is taken of exactly the encodable texts. -/
theorem exists_sha256Hex_eq_ok {t : Text} : (∃ digest, sha256Hex t = .ok digest) ↔ t.Encodable := by
  simp only [sha256Hex, exists_bind_eq_ok, pure_eq_ok, Except.ok.injEq, exists_eq', and_true]
  exact exists_encode_eq_ok

theorem exists_nativeField_eq_ok {field : Text} :
    (∃ text, nativeField field = .ok text) ↔ field.Encodable := by
  simp only [nativeField, exists_bind_eq_ok, pure_eq_ok, Except.ok.injEq, exists_eq', and_true]
  exact exists_encode_eq_ok

/-- The native digest is computed when the fields that are not fixed by a pattern
are encodable. -/
theorem exists_nativeEntityId_eq_ok {host boot : Text} {pid ticks : Nat}
    (hboot : isBootId boot = true) :
    (∃ entity, nativeEntityId host boot pid (Text.ofNat ticks) = .ok entity) ↔
      host.Encodable := by
  have hfields : (∃ texts, (nativeFields host boot pid (Text.ofNat ticks)).mapM nativeField =
      .ok texts) ↔ host.Encodable := by
    rw [exists_mapM_eq_ok]
    simp [nativeFields, exists_nativeField_eq_ok, encodable_of_isBootId hboot]
  rw [← hfields]
  constructor
  · rintro ⟨entity, h⟩
    obtain ⟨texts, _, htexts, _⟩ := nativeEntityId_eq_ok.mp h
    exact ⟨texts, htexts⟩
  · rintro ⟨texts, htexts⟩
    obtain ⟨bytes, _, hutf8⟩ := mapM_nativeField_eq_ok htexts
    obtain ⟨digest, hdigest⟩ :=
      exists_sha256Hex_eq_ok.mpr (Option.isSome_iff_exists.mpr ⟨_, hutf8⟩)
    exact ⟨_, nativeEntityId_eq_ok.mpr ⟨texts, digest, htexts, hdigest, rfl⟩⟩

/-! ## Building a context -/

/-- A record and an agent id that pass every check made before a digest is taken. -/
def Observes (record agentId : PyVal) (i : NativeIdentity) : Prop :=
  ∃ fields host proc sensor agent,
    record = .dict fields ∧ agentId = .str agent ∧ agent ≠ [] ∧
    Dict.get fields "host" = .dict host ∧ Dict.get fields "process" = .dict proc ∧
    Dict.get fields "sensor" = .dict sensor ∧ nativeIdentity? fields host proc sensor = some i

theorem encodable_of_isUuid {t : Text} (h : isUuid t = true) : t.Encodable :=
  Text.encodable_of_fullmatch (fun _ => rfl) h

/-- The digests of a record are taken when its host and its sensor are encodable. -/
theorem exists_checkedContext_eq_ok {i : NativeIdentity} {agentId : Text} {record proc : Dict} :
    (∃ r, checkedContext i agentId record proc = .ok r) ↔
      i.hostId.val.Encodable ∧ i.sensorId.val.Encodable := by
  have hboot := encodable_of_isUuid i.boot.property
  have hentity : i.entityPreimage.Encodable ↔ i.hostId.val.Encodable := by
    simp [NativeIdentity.entityPreimage, hboot]
  have hrecord : i.recordPreimage.Encodable ↔ i.sensorId.val.Encodable := by
    simp [NativeIdentity.recordPreimage, hboot]
  rw [← hentity, ← hrecord]
  simp only [checkedContext, exists_bind_eq_ok]
  constructor
  · rintro ⟨entity, he, recordId, hr, _⟩
    exact ⟨exists_sha256Hex_eq_ok.mp ⟨entity, he⟩, exists_sha256Hex_eq_ok.mp ⟨recordId, hr⟩⟩
  · rintro ⟨he, hr⟩
    obtain ⟨entity, he⟩ := exists_sha256Hex_eq_ok.mpr he
    obtain ⟨recordId, hr⟩ := exists_sha256Hex_eq_ok.mpr hr
    refine ⟨entity, he, recordId, hr, ?_⟩
    split
    · exact ⟨none, rfl⟩
    · obtain ⟨digest, hdigest⟩ := exists_sha256Hex_eq_ok.mpr hboot
      exact ⟨_, by rw [hdigest]; rfl⟩

/-- **When `linux_endpoint_context` returns.** -/
theorem exists_linuxEndpointContext_eq_ok {record agentId : PyVal} :
    (∃ r, linuxEndpointContext record agentId = .ok r) ↔
      ∀ i, Observes record agentId i → i.hostId.val.Encodable ∧ i.sensorId.val.Encodable := by
  constructor
  · rintro ⟨r, hr⟩ i
      ⟨fields, host, proc, sensor, agent, rfl, rfl, hagent, hhost, hproc, hsensor, hi⟩
    have hchecked : checkedContext i agent fields proc = .ok r := by
      simpa [linuxEndpointContext, hhost, hproc, hsensor, hi, hagent] using hr
    exact exists_checkedContext_eq_ok.mp ⟨r, hchecked⟩
  · intro h
    unfold linuxEndpointContext
    split
    case h_2 => exact ⟨none, rfl⟩
    rename_i fields agent
    split
    case h_2 => exact ⟨none, rfl⟩
    rename_i host proc sensor hhost hproc hsensor
    split
    case h_2 => exact ⟨none, rfl⟩
    rename_i i hi
    split_ifs with hagent
    · exact ⟨none, rfl⟩
    · have hne : agent ≠ [] := fun hnil => hagent (List.isEmpty_iff.mpr hnil)
      exact exists_checkedContext_eq_ok.mpr
        (h i ⟨fields, host, proc, sensor, agent, rfl, rfl, hne, hhost, hproc, hsensor, hi⟩)

/-! ## Rechecking a context -/

/-- A context that carries an identity under an agent rebuilds a record that observes
it. -/
theorem observes_rebuiltRecord_iff {context endpoint subject proof : Dict} {i : NativeIdentity}
    {ticks : Nat} (h : Rebuilds context endpoint subject proof ticks) :
    Observes (.dict (rebuiltRecord context endpoint subject proof ticks))
        (Dict.get endpoint "agent_id") i ↔
      Carries (.dict context) i ∧ ∃ agent : NonemptyText,
        Dict.get endpoint "agent_id" = .str agent := by
  obtain ⟨hendpoint, hsubject, hproof, hticks, _⟩ := h
  constructor
  · rintro ⟨fields, host, proc, sensor, agent, hfields, hagent, hne, hhost, hproc, hsensor, hi⟩
    obtain rfl := PyVal.dict.inj hfields
    simp [rebuiltRecord] at hhost hproc hsensor
    subst hhost hproc hsensor
    obtain ⟨_, _, _, hhostId, hboot, hsensorId, hpid, hstart, hseq, _⟩ :=
      nativeIdentity?_eq_some.mp hi
    simp [rebuiltRecord] at hhostId hboot hsensorId hpid hstart hseq
    refine ⟨⟨?_, ?_, ?_, ?_, ?_, ?_⟩, ⟨agent, hne⟩, hagent⟩ <;>
      simp [hendpoint, hsubject, hproof, hhostId, hboot, hsensorId, hpid, hseq, hticks, hstart]
  · rintro ⟨hcarries, agent, hagent⟩
    obtain ⟨hhost, hboot, hsensor, hseq, hpid, hcarriedTicks⟩ := hcarries
    simp [hendpoint, hsubject, hproof, hticks] at hhost hboot hsensor hseq hpid hcarriedTicks
    refine ⟨_, _, _, _, agent, rfl, hagent, agent.property, rfl, rfl, rfl,
      nativeIdentity?_eq_some.mpr ?_⟩
    simp [rebuiltRecord, hhost, hboot, hsensor, hseq, hpid, hcarriedTicks]

/-- A context that carries an identity is rebuilt, with the identity's ticks. -/
theorem exists_rebuilds_of_carries {context : Dict} {i : NativeIdentity}
    (h : Carries (.dict context) i) :
    ∃ endpoint subject proof, Rebuilds context endpoint subject proof i.ticks := by
  obtain ⟨endpoint, hendpoint, _⟩ := exists_dict_of_field h.host_eq (by simp)
  obtain ⟨subject, hsubject, hticks⟩ := exists_dict_of_field h.ticks_eq (by simp)
  obtain ⟨proof, hproof, _⟩ := exists_dict_of_field h.seq_eq (by simp)
  rw [PyVal.field_dict] at hendpoint hsubject hproof
  exact ⟨endpoint, subject, proof, hendpoint, hsubject, hproof, hticks,
    isNativeTicks_ofNat i.ticks.property.1 i.ticks.property.2⟩

/-- **When `verified_linux_subject` returns.** -/
theorem exists_verifiedLinuxSubject_eq_ok {context : Dict} :
    (∃ r, verifiedLinuxSubject rt context = .ok r) ↔
      ∀ i, Carries (.dict context) i →
        (∃ agent : NonemptyText,
          ((PyVal.dict context).field "endpoint").field "agent_id" = .str agent) →
        i.hostId.val.Encodable ∧ i.sensorId.val.Encodable := by
  constructor
  · intro ⟨r, hr⟩ i hcarries hagent
    obtain ⟨endpoint, subject, proof, hrebuilds⟩ := exists_rebuilds_of_carries hcarries
    rw [verifiedLinuxSubject_of_rebuilds hrebuilds, bind_eq_ok] at hr
    obtain ⟨rebuilt, hrebuilt, _⟩ := hr
    apply exists_linuxEndpointContext_eq_ok.mp ⟨rebuilt, hrebuilt⟩ i
    apply (observes_rebuiltRecord_iff hrebuilds).mpr
    exact ⟨hcarries, by simpa [hrebuilds.endpoint_eq] using hagent⟩
  · intro h
    by_cases hrebuilds : ∃ endpoint subject proof ticks,
      Rebuilds context endpoint subject proof ticks
    · obtain ⟨endpoint, subject, proof, ticks, hrebuilds⟩ := hrebuilds
      rw [verifiedLinuxSubject_of_rebuilds hrebuilds, exists_bind_eq_ok]
      have hreturns : ∃ rebuilt, linuxEndpointContext
          (.dict (rebuiltRecord context endpoint subject proof ticks))
          (Dict.get endpoint "agent_id") = .ok rebuilt := by
        apply exists_linuxEndpointContext_eq_ok.mpr
        intro i hi
        obtain ⟨hcarries, hagent⟩ := (observes_rebuiltRecord_iff hrebuilds).mp hi
        exact h i hcarries (by simpa [hrebuilds.endpoint_eq] using hagent)
      obtain ⟨rebuilt, hrebuilt⟩ := hreturns
      exact ⟨rebuilt, hrebuilt, _, rfl⟩
    · exact ⟨false, verifiedLinuxSubject_of_not_rebuilds hrebuilds⟩

/-! ## The canonical target -/

theorem exists_provesEntity_eq_ok {items subject : Dict} {expected : Text} :
    (∃ b, provesEntity rt items subject expected = .ok b) ↔
      (Dict.get items "identity_model" = .str identityModel →
        ∃ b, verifiedLinuxSubject rt items = .ok b) := by
  unfold provesEntity
  by_cases hmodel : Dict.get items "identity_model" = .str identityModel
  · simp [hmodel]
  · simp [hmodel]

/-- What the texts of an exact process must be like for its digests to be taken. -/
structure Hashable (context : PyVal) (host : Text) : Prop where
  host : host.Encodable
  sensor : context.field "identity_model" = .str identityModel → ∀ i, Carries context i →
    (∃ agent : NonemptyText, (context.field "endpoint").field "agent_id" = .str agent) →
    i.sensorId.val.Encodable

/-- **When `_canonical_process_target` returns.** -/
theorem exists_canonicalProcessTarget_eq_ok {context : PyVal} {recommendation : Dict} :
    (∃ r, canonicalProcessTarget rt context recommendation = .ok r) ↔
      ∀ host target, ExactProcess context host target → Hashable context host := by
  constructor
  · rintro ⟨r, hr⟩ host target h
    obtain ⟨items, _, subject, rfl, _, hsubject⟩ := h.exists_dicts
    rw [h.canonicalProcessTarget_eq rt rfl hsubject, bind_eq_ok] at hr
    obtain ⟨expected, hexpected, hr⟩ := hr
    obtain ⟨proved, hproved, _⟩ := bind_eq_ok.mp hr
    have hhost := (exists_nativeEntityId_eq_ok target.boot_shape).mp ⟨expected, hexpected⟩
    refine ⟨hhost, fun hmodel i hcarries hagent => ?_⟩
    have hrecheck := exists_provesEntity_eq_ok.mp ⟨proved, hproved⟩ hmodel
    exact (exists_verifiedLinuxSubject_eq_ok.mp hrecheck i hcarries hagent).2
  · intro h
    by_cases hexact : ∃ host target, ExactProcess context host target
    · obtain ⟨host, target, hexact⟩ := hexact
      obtain ⟨hhost, hsensor⟩ := h host target hexact
      obtain ⟨items, _, subject, rfl, _, hsubject⟩ := hexact.exists_dicts
      obtain ⟨expected, hexpected⟩ := (exists_nativeEntityId_eq_ok target.boot_shape).mpr hhost
      obtain ⟨proved, hproved⟩ :
          ∃ proved, provesEntity rt items subject expected = .ok proved := by
        refine exists_provesEntity_eq_ok.mpr fun hmodel => ?_
        refine exists_verifiedLinuxSubject_eq_ok.mpr fun i hcarries hagent => ?_
        have hsame : i.hostId.val = host :=
          PyVal.str.inj (hcarries.host_eq.symm.trans hexact.host_eq)
        exact ⟨hsame ▸ hhost, hsensor hmodel i hcarries hagent⟩
      rw [hexact.canonicalProcessTarget_eq rt rfl hsubject, hexpected, ok_bind, hproved, ok_bind]
      split
      · exact ⟨none, rfl⟩
      · exact ⟨_, rfl⟩
    · exact ⟨none, canonicalProcessTarget_of_not_exact fun host target hex =>
        hexact ⟨host, target, hex⟩⟩

/-! ## The translation -/

/-- The inputs on which `translate_recommendation` hashes encodable texts only: no
exact process is asked for, or its host and, where the Linux proof is rechecked, its
sensor hold no lone surrogate. -/
def TranslatesSafely (action : Text) (context : PyVal) : Prop :=
  (action = "TERMINATE_PROCESS" ∨ action = "COLLECT_PROCESS_INFO") →
    ∀ host target, ExactProcess context host target → Hashable context host

/-- The inputs on which `linux_endpoint_context` hashes encodable texts only. -/
def BuildsSafely (record agentId : PyVal) : Prop :=
  ∀ i, Observes record agentId i → i.hostId.val.Encodable ∧ i.sensorId.val.Encodable

/-- A recommendation that needs no canonical target is total. -/
theorem exists_translateRecommendation_of_direct {action : Text} {activeResponse : Dict}
    {context : PyVal} (h : ¬ (context.isNone = false ∧
      (action = "TERMINATE_PROCESS" ∨ action = "COLLECT_PROCESS_INFO"))) :
    ∃ r, translateRecommendation rt action activeResponse context = .ok r := by
  unfold translateRecommendation
  dsimp only
  rw [if_neg h]
  split_ifs <;> exact ⟨_, rfl⟩

/-- **When `translate_recommendation` returns.** -/
theorem exists_translateRecommendation_eq_ok {action : Text} {activeResponse : Dict}
    {context : PyVal} :
    (∃ r, translateRecommendation rt action activeResponse context = .ok r) ↔
      TranslatesSafely action context := by
  by_cases hcanonical : context.isNone = false ∧
      (action = "TERMINATE_PROCESS" ∨ action = "COLLECT_PROCESS_INFO")
  · have hreturns : (∃ r, translateRecommendation rt action activeResponse context = .ok r) ↔
        ∃ r, canonicalProcessTarget rt context activeResponse = .ok r := by
      unfold translateRecommendation
      dsimp only
      rw [if_pos hcanonical, exists_bind_eq_ok]
      refine exists_congr fun target => and_iff_left_of_imp fun _ => ?_
      cases target with
      | none => exact ⟨none, rfl⟩
      | some target => exact ⟨_, rfl⟩
    rw [hreturns, exists_canonicalProcessTarget_eq_ok]
    exact ⟨fun h _ => h, fun h => h hcanonical.2⟩
  · refine iff_of_true (exists_translateRecommendation_of_direct hcanonical) ?_
    intro haction host target hexact
    -- a process recommendation is mapped directly only without a context
    have hnone : context = .none := by
      by_contra hne
      exact hcanonical ⟨PyVal.isNone_eq_false_iff.mpr hne, haction⟩
    subst hnone
    exact absurd hexact.host_eq (by simp [PyVal.field])

/-- **Both functions return on exactly the inputs whose hashed texts are encodable.** -/
theorem failsClosed_iff (rt : Runtime) :
    (∀ (action : Text) (activeResponse : Dict) (context : PyVal),
      (∃ r, translateRecommendation rt action activeResponse context = .ok r) ↔
        TranslatesSafely action context) ∧
    (∀ record agentId : PyVal,
      (∃ r, linuxEndpointContext record agentId = .ok r) ↔ BuildsSafely record agentId) :=
  ⟨fun _ _ _ => exists_translateRecommendation_eq_ok,
    fun _ _ => exists_linuxEndpointContext_eq_ok⟩

/-- A host id that a JSON document can carry and that has no UTF-8 encoding. -/
def surrogateHost : Text := [.surrogate 0]

/-- A context whose host id is a lone surrogate, and exact otherwise. -/
def surrogateContext : PyVal :=
  let boot : PyVal :=
    .str "boot_79944bb6f20d142ddcbff6e727c264ae4c7d5b3fbf64b58e77d20b78bd596e19"
  .dict
    [("endpoint", .dict [("host_id", .str surrogateHost), ("boot_id", boot)]),
      ("subject",
        .dict [("observed_pid", .int 4242), ("native_creation_ticks", .str "777"),
          ("boot_id", boot), ("resolution", .str "native_exact")])]

/-- A record whose host id is a lone surrogate, and well formed otherwise. -/
def surrogateRecord : PyVal :=
  .dict
    [("schema_version", .str "1.0"), ("record_type", .str "event"), ("type", .str "process.exec"),
      ("seq", .int 9),
      ("host",
        .dict [("id", .str surrogateHost),
          ("boot_id", .str "01234567-89ab-4cde-8f01-23456789abcd")]),
      ("sensor", .dict [("id", .str "sensor-1")]),
      ("process",
        .dict [("pid", .int 4242), ("start_ticks", .int 777),
          ("confidence", .dict [("identity", .str "observed")])])]

/-- A lone surrogate in a host id leaves both functions with an exception. -/
theorem not_returns_surrogate :
    (¬ ∃ r, translateRecommendation .sample "TERMINATE_PROCESS" sampleRecommendation
      surrogateContext = .ok r) ∧
    ¬ ∃ r, linuxEndpointContext surrogateRecord (.str "agent-1") = .ok r := by
  constructor
  · have hraises : returns (translateRecommendation .sample "TERMINATE_PROCESS"
        sampleRecommendation surrogateContext) = false := by decide +kernel
    rintro ⟨r, hr⟩
    simp [hr, returns] at hraises
  · have hraises : returns (linuxEndpointContext surrogateRecord (.str "agent-1")) = false := by
      decide +kernel
    rintro ⟨r, hr⟩
    simp [hr, returns] at hraises

end ResponseEngine.Recommendation
