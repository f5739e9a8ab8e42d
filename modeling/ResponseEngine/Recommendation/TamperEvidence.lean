/-
  Recommendation/TamperEvidence.lean --- an entity id stands for one process.

  Two runs are compared.  If SHA-256 does not collide on the strings that the two
  runs hash, then equal entity ids mean equal hosts and equal targets, whichever
  identity models the two contexts use; for Linux contexts the record id adds the
  boot UUID, the sensor and the sequence number (`canonicalProcessTarget_tamper_evident`).
-/
import ResponseEngine.Recommendation.Preimages
import ResponseEngine.Recommendation.Translation

set_option autoImplicit false

namespace ResponseEngine.Recommendation

open ResponseEngine.Foundation ResponseEngine.Python ResponseEngine.Contract
open ResponseEngine.LinuxIdentity

/-! ## The strings that are hashed -/

/-- The two strings hashed for the native identity of a Linux context. -/
def linuxPreimages (context : PyVal) : Set Text :=
  {t | ∃ i : NativeIdentity, Carries context i ∧ (t = i.entityPreimage ∨ t = i.recordPreimage)}

/-- The string hashed for the native digest of a context. -/
def nativePreimages (context : PyVal) : Set Text :=
  {t | ∃ (host boot ticks : Text) (pid : Int) (texts : List Text),
    (context.field "endpoint").field "host_id" = .str host ∧
    (context.field "endpoint").field "boot_id" = .str boot ∧
    (context.field "subject").field "observed_pid" = .int pid ∧
    (context.field "subject").field "native_creation_ticks" = .str ticks ∧
    (nativeFields host boot pid ticks).mapM nativeField = .ok texts ∧ t = texts.flatten}

/-! ## Native identities are read back from their strings -/

theorem entityPreimage_inj {i j : NativeIdentity} (h : i.entityPreimage = j.entityPreimage) :
    i.hostId = j.hostId ∧ i.boot = j.boot ∧ i.pid = j.pid ∧ i.ticks = j.ticks := by
  rw [NativeIdentity.entityPreimage_eq, NativeIdentity.entityPreimage_eq] at h
  obtain ⟨hhost, hboot, hpid, hticks⟩ := entityText_inj h
  exact ⟨Subtype.ext hhost, hboot, Subtype.ext hpid, Subtype.ext hticks⟩

theorem recordPreimage_inj {i j : NativeIdentity} (h : i.recordPreimage = j.recordPreimage) :
    i.sensorId = j.sensorId ∧ i.boot = j.boot ∧ i.seq = j.seq := by
  rw [NativeIdentity.recordPreimage_eq, NativeIdentity.recordPreimage_eq] at h
  obtain ⟨hsensor, hboot, hseq⟩ := recordText_inj h
  exact ⟨Subtype.ext hsensor, hboot, Subtype.ext hseq⟩

/-! ## Equal entity ids -/

section

variable {rt₁ rt₂ : Runtime} {c₁ c₂ : PyVal} {r₁ r₂ : Dict}

theorem shortDigest_eq_ok {t entity : Text} :
    shortDigest t = .ok entity ↔ ∃ digest, sha256Hex t = .ok digest ∧ entity = digest.take 32 := by
  simp only [shortDigest, bind_eq_ok, pure_eq_ok, Except.ok.injEq]
  simp only [eq_comm]

/-- A digest in hexadecimal has 64 digits. -/
theorem length_of_sha256Hex {t digest : Text} (h : sha256Hex t = .ok digest) :
    digest.length = 64 := by
  obtain ⟨bytes, _, rfl⟩ := sha256Hex_eq_ok.mp h
  simp [Text.ofChars]

/-- The native digest of a process whose context is not of the Linux model. -/
theorem VerifiedProcess.native_entity_eq (v : VerifiedProcess rt₁ c₁ r₁)
    (hmodel : c₁.field "identity_model" ≠ .str identityModel) :
    (c₁.field "subject").field "entity_id" = .str v.nativeEntity := by
  rw [v.subject_field]
  exact (provesEntity_eq_true.mp v.proved).2 fun h => hmodel (by simp [v.context_eq, h])

/-- The string behind a native digest. -/
theorem VerifiedProcess.native_preimage (v : VerifiedProcess rt₁ c₁ r₁) :
    ∃ texts digest, (nativeFields v.host v.target.bootId v.target.pid
        (Text.ofNat v.target.startTimeTicks)).mapM nativeField = .ok texts ∧
      sha256Hex texts.flatten = .ok digest ∧ v.nativeEntity = ("proc_" : Text) ++ digest ∧
      texts.flatten ∈ nativePreimages c₁ := by
  obtain ⟨texts, digest, htexts, hdigest, hentity⟩ := nativeEntityId_eq_ok.mp v.native_digest
  refine ⟨texts, digest, htexts, hdigest, hentity, v.host, v.target.bootId,
    Text.ofNat v.target.startTimeTicks, v.target.pid, texts, ?_, ?_, ?_, ?_, htexts, rfl⟩
  · rw [v.endpoint_field, v.host_eq]
  · rw [v.endpoint_field, v.endpoint_boot_eq]
  · rw [v.subject_field, v.pid_eq]
  · rw [v.subject_field, v.ticks_eq]

/-- Two native contexts. -/
theorem same_of_native (hfree : Set.InjOn sha256Hex (nativePreimages c₁ ∪ nativePreimages c₂))
    (v₁ : VerifiedProcess rt₁ c₁ r₁) (v₂ : VerifiedProcess rt₂ c₂ r₂)
    (h : v₁.nativeEntity = v₂.nativeEntity) : v₁.host = v₂.host ∧ v₁.target = v₂.target := by
  obtain ⟨texts₁, digest₁, htexts₁, hdigest₁, hentity₁, hmem₁⟩ := v₁.native_preimage
  obtain ⟨texts₂, digest₂, htexts₂, hdigest₂, hentity₂, hmem₂⟩ := v₂.native_preimage
  have hdigest : digest₁ = digest₂ := by
    rw [hentity₁, hentity₂] at h
    exact List.append_cancel_left h
  have htexts : texts₁.flatten = texts₂.flatten :=
    hfree (.inl hmem₁) (.inr hmem₂) (by rw [hdigest₁, hdigest₂, hdigest])
  have hfields := nativeFields_inj (by rfl) htexts₁ htexts₂ htexts
  simp only [nativeFields, List.cons.injEq, Text.ofInt_natCast, Text.ofNat_inj, true_and,
    and_true] at hfields
  obtain ⟨hhost, hboot, hpid, hticks⟩ := hfields
  exact ⟨hhost, BootProcessTarget.ext hpid hticks hboot⟩

/-- Two Linux contexts with the same entity id carry the same process and boot. -/
theorem same_of_linux (hfree : Set.InjOn shortDigest (linuxPreimages c₁ ∪ linuxPreimages c₂))
    {host₁ host₂ : Text} {target₁ target₂ : BootProcessTarget} {i j : NativeIdentity}
    (p₁ : LinuxProof c₁ host₁ target₁ i) (p₂ : LinuxProof c₂ host₂ target₂ j)
    (h : (c₁.field "subject").field "entity_id" = (c₂.field "subject").field "entity_id") :
    host₁ = host₂ ∧ target₁ = target₂ ∧ i.boot = j.boot := by
  obtain ⟨entity₁, hdigest₁, hentity₁⟩ := p₁.entity_digest
  obtain ⟨entity₂, hdigest₂, hentity₂⟩ := p₂.entity_digest
  have hentity : entity₁ = entity₂ := PyVal.str.inj (hentity₁.symm.trans (h.trans hentity₂))
  have hpreimage : i.entityPreimage = j.entityPreimage :=
    hfree (.inl ⟨i, p₁.carries, .inl rfl⟩) (.inr ⟨j, p₂.carries, .inl rfl⟩)
      (by rw [hdigest₁, hdigest₂, hentity])
  obtain ⟨hhost, hboot, hpid, hticks⟩ := entityPreimage_inj hpreimage
  obtain ⟨digest₁, hboot₁, htarget₁⟩ := p₁.boot_digest
  obtain ⟨digest₂, hboot₂, htarget₂⟩ := p₂.boot_digest
  have hdigest : digest₁ = digest₂ := Except.ok.inj (hboot₁.symm.trans (hboot ▸ hboot₂))
  refine ⟨by rw [← p₁.host_eq, ← p₂.host_eq, hhost], BootProcessTarget.ext ?_ ?_ ?_, hboot⟩
  · rw [← p₁.pid_eq, ← p₂.pid_eq, hpid]
  · rw [← p₁.ticks_eq, ← p₂.ticks_eq, hticks]
  · rw [htarget₁, htarget₂, hdigest]

/-- The two formats of an entity id have different lengths. -/
theorem not_linux_and_native {host : Text} {target : BootProcessTarget} {i : NativeIdentity}
    (p : LinuxProof c₁ host target i) (v : VerifiedProcess rt₂ c₂ r₂)
    (hmodel : c₂.field "identity_model" ≠ .str identityModel) :
    (c₁.field "subject").field "entity_id" ≠ (c₂.field "subject").field "entity_id" := by
  intro h
  obtain ⟨entity, hshort, hentity⟩ := p.entity_digest
  obtain ⟨digest, hdigest, rfl⟩ := shortDigest_eq_ok.mp hshort
  obtain ⟨_, native, _, hnative, hnativeEntity, _⟩ := v.native_preimage
  rw [hentity, v.native_entity_eq hmodel, PyVal.str.injEq, hnativeEntity] at h
  have hlength := congrArg List.length h
  have hlen : ("proc_" : Text).length = 5 := rfl
  simp [length_of_sha256Hex hdigest, length_of_sha256Hex hnative, hlen] at hlength

/-- Two Linux contexts with the same record id carry the same sensor and sequence
number. -/
theorem same_record_of_linux
    (hfree : Set.InjOn shortDigest (linuxPreimages c₁ ∪ linuxPreimages c₂))
    {host₁ host₂ : Text} {target₁ target₂ : BootProcessTarget} {i j : NativeIdentity}
    (p₁ : LinuxProof c₁ host₁ target₁ i) (p₂ : LinuxProof c₂ host₂ target₂ j)
    (h : c₁.field "record_id" = c₂.field "record_id") :
    i.sensorId = j.sensorId ∧ i.boot = j.boot ∧ i.seq = j.seq := by
  obtain ⟨record₁, hdigest₁, hrecord₁⟩ := p₁.record_digest
  obtain ⟨record₂, hdigest₂, hrecord₂⟩ := p₂.record_digest
  have hrecord : record₁ = record₂ := PyVal.str.inj (hrecord₁.symm.trans (h.trans hrecord₂))
  exact recordPreimage_inj
    (hfree (.inl ⟨i, p₁.carries, .inr rfl⟩) (.inr ⟨j, p₂.carries, .inr rfl⟩)
      (by rw [hdigest₁, hdigest₂, hrecord]))

/-- The values that a retained context binds: they identify the endpoint, the
process, the boot and the observation. -/
def boundValues (context : PyVal) : List PyVal :=
  [context.field "identity_model",
    (context.field "endpoint").field "host_id",
    (context.field "endpoint").field "boot_id",
    (context.field "subject").field "observed_pid",
    (context.field "subject").field "native_creation_ticks",
    (context.field "subject").field "boot_id",
    (context.field "subject").field "resolution",
    (context.field "linux_identity").field "boot_uuid",
    (context.field "linux_identity").field "sensor_id",
    (context.field "linux_identity").field "seq"]

/-- Two accepted contexts with the same entity id are aimed at the same process. -/
theorem same_of_verified (hnative : Set.InjOn sha256Hex (nativePreimages c₁ ∪ nativePreimages c₂))
    (hlinux : Set.InjOn shortDigest (linuxPreimages c₁ ∪ linuxPreimages c₂))
    (v₁ : VerifiedProcess rt₁ c₁ r₁) (v₂ : VerifiedProcess rt₂ c₂ r₂)
    (h : (c₁.field "subject").field "entity_id" = (c₂.field "subject").field "entity_id") :
    v₁.host = v₂.host ∧ v₁.target = v₂.target ∧
      (c₁.field "identity_model" = .str identityModel ↔
        c₂.field "identity_model" = .str identityModel) := by
  by_cases hmodel₁ : c₁.field "identity_model" = .str identityModel
  · obtain ⟨i, p₁⟩ := v₁.linuxProof hmodel₁
    by_cases hmodel₂ : c₂.field "identity_model" = .str identityModel
    · obtain ⟨j, p₂⟩ := v₂.linuxProof hmodel₂
      obtain ⟨hhost, htarget, _⟩ := same_of_linux hlinux p₁ p₂ h
      exact ⟨hhost, htarget, iff_of_true hmodel₁ hmodel₂⟩
    · exact absurd h (not_linux_and_native p₁ v₂ hmodel₂)
  · by_cases hmodel₂ : c₂.field "identity_model" = .str identityModel
    · obtain ⟨j, p₂⟩ := v₂.linuxProof hmodel₂
      exact absurd h.symm (not_linux_and_native p₂ v₁ hmodel₁)
    · rw [v₁.native_entity_eq hmodel₁, v₂.native_entity_eq hmodel₂, PyVal.str.injEq] at h
      obtain ⟨hhost, htarget⟩ := same_of_native hnative v₁ v₂ h
      exact ⟨hhost, htarget, iff_of_false hmodel₁ hmodel₂⟩

/-- Accepted Linux contexts with the same entity id and record id bind the same values. -/
theorem boundValues_eq (hnative : Set.InjOn sha256Hex (nativePreimages c₁ ∪ nativePreimages c₂))
    (hlinux : Set.InjOn shortDigest (linuxPreimages c₁ ∪ linuxPreimages c₂))
    (v₁ : VerifiedProcess rt₁ c₁ r₁) (v₂ : VerifiedProcess rt₂ c₂ r₂)
    (hmodel : c₁.field "identity_model" = .str identityModel)
    (hentity : (c₁.field "subject").field "entity_id" = (c₂.field "subject").field "entity_id")
    (hrecord : c₁.field "record_id" = c₂.field "record_id") : boundValues c₁ = boundValues c₂ := by
  obtain ⟨hhost, htarget, hmodels⟩ := same_of_verified hnative hlinux v₁ v₂ hentity
  obtain ⟨i, p₁⟩ := v₁.linuxProof hmodel
  obtain ⟨j, p₂⟩ := v₂.linuxProof (hmodels.mp hmodel)
  obtain ⟨hsensor, hboot, hseq⟩ := same_record_of_linux hlinux p₁ p₂ hrecord
  simp only [boundValues, hmodel, hmodels.mp hmodel, v₁.endpoint_field, v₂.endpoint_field,
    v₁.subject_field, v₂.subject_field, v₁.host_eq, v₂.host_eq, v₁.endpoint_boot_eq,
    v₂.endpoint_boot_eq, v₁.pid_eq, v₂.pid_eq, v₁.ticks_eq, v₂.ticks_eq, v₁.subject_boot_eq,
    v₂.subject_boot_eq, v₁.resolution_eq, v₂.resolution_eq, p₁.carries.boot_eq,
    p₂.carries.boot_eq, p₁.carries.sensor_eq, p₂.carries.sensor_eq, p₁.carries.seq_eq,
    p₂.carries.seq_eq, hhost, htarget, hsensor, hboot, hseq]

end

/-- **Tamper evidence.**  Where SHA-256 does not collide on the native strings that two
runs hash, nor its first 32 digits on their Linux strings, the entity id fixes host
and target; with the record id it fixes everything that a retained proof binds, so
that no altered proof yields a target. -/
theorem canonicalProcessTarget_tamper_evident {rt₁ rt₂ : Runtime} {c₁ c₂ : PyVal}
    (hnative : Set.InjOn sha256Hex (nativePreimages c₁ ∪ nativePreimages c₂))
    (hlinux : Set.InjOn shortDigest (linuxPreimages c₁ ∪ linuxPreimages c₂))
    (hentity : (c₁.field "subject").field "entity_id" = (c₂.field "subject").field "entity_id")
    {r₁ t₁ : Dict} (h₁ : canonicalProcessTarget rt₁ c₁ r₁ = .ok (some t₁)) :
    (∀ r₂ t₂, canonicalProcessTarget rt₂ c₂ r₂ = .ok (some t₂) →
      (c₁.field "endpoint").field "host_id" = (c₂.field "endpoint").field "host_id" ∧ t₁ = t₂ ∧
      (c₁.field "identity_model" = .str identityModel →
        c₂.field "identity_model" = .str identityModel →
        c₁.field "record_id" = c₂.field "record_id" →
        ∀ name ∈ (["boot_uuid", "sensor_id", "seq"] : List String),
          (c₁.field "linux_identity").field name = (c₂.field "linux_identity").field name)) ∧
    (c₁.field "identity_model" = .str identityModel →
      c₁.field "record_id" = c₂.field "record_id" → boundValues c₁ ≠ boundValues c₂ →
      ∀ r₂ t₂, canonicalProcessTarget rt₂ c₂ r₂ ≠ .ok (some t₂)) := by
  obtain ⟨v₁, rfl⟩ := canonicalProcessTarget_eq_some.mp h₁
  constructor
  · intro r₂ t₂ h₂
    obtain ⟨v₂, rfl⟩ := canonicalProcessTarget_eq_some.mp h₂
    obtain ⟨hhost, htarget, _⟩ := same_of_verified hnative hlinux v₁ v₂ hentity
    refine ⟨?_, by rw [htarget], ?_⟩
    · rw [v₁.endpoint_field, v₂.endpoint_field, v₁.host_eq, v₂.host_eq, hhost]
    · intro hmodel _ hrecord name hname
      have hbound := boundValues_eq hnative hlinux v₁ v₂ hmodel hentity hrecord
      simp only [boundValues, List.cons.injEq] at hbound
      obtain ⟨_, _, _, _, _, _, _, huuid, hsensor, hseq, _⟩ := hbound
      simp only [List.mem_cons, List.not_mem_nil, or_false] at hname
      rcases hname with rfl | rfl | rfl
      · exact huuid
      · exact hsensor
      · exact hseq
  · intro hmodel hrecord hne r₂ t₂ h₂
    obtain ⟨v₂, rfl⟩ := canonicalProcessTarget_eq_some.mp h₂
    exact hne (boundValues_eq hnative hlinux v₁ v₂ hmodel hentity hrecord)

/-- A context carries at most one native identity. -/
theorem Carries.unique {context : PyVal} {i j : NativeIdentity} (hi : Carries context i)
    (hj : Carries context j) : i = j := by
  have hhost := PyVal.str.inj (hi.host_eq.symm.trans hj.host_eq)
  have hboot := PyVal.str.inj (hi.boot_eq.symm.trans hj.boot_eq)
  have hsensor := PyVal.str.inj (hi.sensor_eq.symm.trans hj.sensor_eq)
  have hseq := Int.ofNat_inj.mp (PyVal.int.inj (hi.seq_eq.symm.trans hj.seq_eq))
  have hpid := Int.ofNat_inj.mp (PyVal.int.inj (hi.pid_eq.symm.trans hj.pid_eq))
  have hticks := Text.ofNat_inj.mp (PyVal.str.inj (hi.ticks_eq.symm.trans hj.ticks_eq))
  exact NativeIdentity.ext (Subtype.ext hhost) (Subtype.ext hboot) (Subtype.ext hsensor)
    (Subtype.ext hpid) (Subtype.ext hticks) (Subtype.ext hseq)

theorem carries_sample (agentId : Text) : Carries (sampleContext agentId) sampleIdentity := by
  constructor <;> simp [sampleContext, contextOf]

theorem linuxPreimages_sample (agentId : Text) :
    linuxPreimages (sampleContext agentId) =
      {sampleIdentity.entityPreimage, sampleIdentity.recordPreimage} := by
  ext t
  constructor
  · rintro ⟨i, hi, rfl | rfl⟩
    · exact .inl (by rw [hi.unique (carries_sample agentId)])
    · exact .inr (by rw [hi.unique (carries_sample agentId)]; rfl)
  · rintro (rfl | rfl)
    · exact ⟨_, carries_sample agentId, .inl rfl⟩
    · exact ⟨_, carries_sample agentId, .inr rfl⟩

/-- At most one native string is hashed for a context. -/
theorem subsingleton_nativePreimages (context : PyVal) :
    (nativePreimages context).Subsingleton := by
  rintro _ ⟨host, boot, ticks, pid, texts, hhost, hboot, hpid, hticks, htexts, rfl⟩
    _ ⟨host', boot', ticks', pid', texts', hhost', hboot', hpid', hticks', htexts', rfl⟩
  obtain rfl := PyVal.str.inj (hhost.symm.trans hhost')
  obtain rfl := PyVal.str.inj (hboot.symm.trans hboot')
  obtain rfl := PyVal.int.inj (hpid.symm.trans hpid')
  obtain rfl := PyVal.str.inj (hticks.symm.trans hticks')
  rw [Except.ok.inj (htexts.symm.trans htexts')]

theorem nativePreimages_sample (agentId agentId' : Text) :
    nativePreimages (sampleContext agentId) = nativePreimages (sampleContext agentId') := by
  simp [nativePreimages, sampleContext, contextOf]

/-- One observation retained by two agents: the target is the same one, whatever
recommendation reaches it. -/
theorem canonicalProcessTarget_tamper_evident_sample :
    ∃ t₁, canonicalProcessTarget .sample (sampleContext "agent-1") sampleRecommendation =
        .ok (some t₁) ∧
      ∀ r₂ t₂, canonicalProcessTarget .sample (sampleContext "agent-2") r₂ = .ok (some t₂) →
        t₁ = t₂ := by
  obtain ⟨t₁, h₁⟩ := exists_eq_ok_some (x := canonicalProcessTarget .sample
    (sampleContext "agent-1") sampleRecommendation) (by decide +kernel)
  have hnative : Set.InjOn sha256Hex
      (nativePreimages (sampleContext "agent-1") ∪ nativePreimages (sampleContext "agent-2")) := by
    rw [nativePreimages_sample "agent-1" "agent-2", Set.union_self]
    exact (subsingleton_nativePreimages _).injOn _
  have hlinux : Set.InjOn shortDigest
      (linuxPreimages (sampleContext "agent-1") ∪ linuxPreimages (sampleContext "agent-2")) := by
    rw [linuxPreimages_sample, linuxPreimages_sample, Set.union_self, Set.injOn_pair]
    intro h
    exact absurd h (by decide +kernel)
  have hentity : ((sampleContext "agent-1").field "subject").field "entity_id" =
      ((sampleContext "agent-2").field "subject").field "entity_id" := by
    simp [sampleContext, contextOf]
  refine ⟨t₁, h₁, fun r₂ t₂ h₂ => ?_⟩
  exact ((canonicalProcessTarget_tamper_evident hnative hlinux hentity h₁).1 r₂ t₂ h₂).2.1

end ResponseEngine.Recommendation
