/-
  Recommendation/CanonicalTarget.lean --- when a canonical target is returned.

  The shape checks come first: a context that passes them is an `ExactProcess`, and any
  other returns no target.  `VerifiedProcess` states what has to agree between the
  endpoint, the subject and the recommendation; `canonicalProcessTarget_eq_some` is the
  one inversion that every later result about accepted contexts starts from.
-/
import ResponseEngine.Recommendation

set_option autoImplicit false

namespace ResponseEngine.Recommendation

open ResponseEngine.Foundation ResponseEngine.Python ResponseEngine.Contract
open ResponseEngine.LinuxIdentity

variable {rt : Runtime}

/-! ## The native digest -/

theorem nativeField_eq_ok {field text : Text} :
    nativeField field = .ok text ↔
      ∃ bytes, field.utf8? = some bytes ∧
        text = Text.ofNat bytes.length ++ ((":" : Text) ++ field) := by
  simp only [nativeField, bind_eq_ok, encode_eq_ok, pure_eq_ok, Except.ok.injEq]
  simp only [eq_comm]

/-- The bytes of a native field are its netstring. -/
theorem utf8?_nativeField {field : Text} {bytes : List UInt8} (h : field.utf8? = some bytes) :
    (Text.ofNat bytes.length ++ ((":" : Text) ++ field)).utf8? =
      some (Text.decimalPrefix.netstring bytes) :=
  Text.utf8?_append (Text.utf8?_ofChars _) (Text.utf8?_append (Text.utf8?_ofChars _) h)

/-- The material that is hashed is encodable exactly when its fields are, and its
bytes are their netstrings. -/
theorem mapM_nativeField_eq_ok {fields texts : List Text}
    (h : fields.mapM nativeField = .ok texts) :
    ∃ bytes : List (List UInt8), fields.map Text.utf8? = bytes.map some ∧
      Text.utf8? texts.flatten = some (Text.decimalPrefix.netstrings bytes) := by
  induction fields generalizing texts with
  | nil =>
      obtain rfl : [] = texts := by simpa using h
      exact ⟨[], rfl, rfl⟩
  | cons field fields ih =>
      simp only [List.mapM_cons, bind_eq_ok, pure_eq_ok, Except.ok.injEq] at h
      obtain ⟨text, htext, rest, hrest, rfl⟩ := h
      obtain ⟨data, hdata, rfl⟩ := nativeField_eq_ok.mp htext
      obtain ⟨bytes, hbytes, hflatten⟩ := ih hrest
      refine ⟨data :: bytes, by simp [hdata, hbytes], ?_⟩
      exact Text.utf8?_append (utf8?_nativeField hdata) hflatten

/-- The five fields hashed for a native process. -/
def nativeFields (host boot : Text) (pid : Int) (ticks : Text) : List Text :=
  ["native-process-instance-v1", host, boot, Text.ofInt pid, ticks]

/-- A native entity id is the digest of its fields. -/
theorem nativeEntityId_eq_ok {host boot ticks entity : Text} {pid : Int} :
    nativeEntityId host boot pid ticks = .ok entity ↔
      ∃ texts digest, (nativeFields host boot pid ticks).mapM nativeField = .ok texts ∧
        sha256Hex texts.flatten = .ok digest ∧ entity = ("proc_" : Text) ++ digest := by
  simp only [nativeEntityId, nativeFields, bind_eq_ok, pure_eq_ok, Except.ok.injEq]
  constructor
  · rintro ⟨texts, htexts, digest, hdigest, rfl⟩
    exact ⟨texts, digest, htexts, hdigest, rfl⟩
  · rintro ⟨texts, digest, htexts, hdigest, rfl⟩
    exact ⟨texts, htexts, digest, hdigest, rfl⟩

/-- As many fields are read back from the hashed material in only one way. -/
theorem nativeFields_inj {fields₁ fields₂ texts₁ texts₂ : List Text}
    (hlength : fields₁.length = fields₂.length) (h₁ : fields₁.mapM nativeField = .ok texts₁)
    (h₂ : fields₂.mapM nativeField = .ok texts₂) (h : texts₁.flatten = texts₂.flatten) :
    fields₁ = fields₂ := by
  obtain ⟨bytes₁, hbytes₁, hutf8₁⟩ := mapM_nativeField_eq_ok h₁
  obtain ⟨bytes₂, hbytes₂, hutf8₂⟩ := mapM_nativeField_eq_ok h₂
  have hlength' : bytes₁.length = bytes₂.length := by
    have h₁ := congrArg List.length hbytes₁
    have h₂ := congrArg List.length hbytes₂
    simp only [List.length_map] at h₁ h₂
    omega
  rw [h, hutf8₂] at hutf8₁
  have hbytes : bytes₁ = bytes₂ :=
    Text.decimalPrefix.netstrings_inj hlength' (Option.some.inj hutf8₁).symm
  exact Text.map_utf8?_injective hbytes₁ (hbytes ▸ hbytes₂)

/-! ## Exact processes -/

/-- A field that is present comes from a dict. -/
theorem exists_dict_of_field {v w : PyVal} {k : Key} (h : v.field k = w) (hw : w ≠ .none) :
    ∃ items, v = .dict items ∧ Dict.get items k = w := by
  cases v with
  | dict items => exact ⟨items, rfl, h⟩
  | _ => exact absurd h.symm hw

/-- A context that passes the shape checks made before the native digest is taken. -/
structure ExactProcess (context : PyVal) (host : Text) (target : BootProcessTarget) : Prop where
  host_eq : (context.field "endpoint").field "host_id" = .str host
  host_ne_nil : host ≠ []
  endpoint_boot_eq : (context.field "endpoint").field "boot_id" = .str target.bootId
  subject_boot_eq : (context.field "subject").field "boot_id" = .str target.bootId
  resolution_eq : (context.field "subject").field "resolution" = .str "native_exact"
  pid_eq : (context.field "subject").field "observed_pid" = .int target.pid
  ticks_eq : (context.field "subject").field "native_creation_ticks" =
    .str (Text.ofNat target.startTimeTicks)

theorem ExactProcess.exists_dicts {context : PyVal} {host : Text} {target : BootProcessTarget}
    (h : ExactProcess context host target) :
    ∃ items endpoint subject, context = .dict items ∧
      Dict.get items "endpoint" = .dict endpoint ∧ Dict.get items "subject" = .dict subject := by
  obtain ⟨endpoint, hendpoint, _⟩ := exists_dict_of_field h.host_eq (by simp)
  obtain ⟨subject, hsubject, _⟩ := exists_dict_of_field h.pid_eq (by simp)
  obtain ⟨items, rfl, hitems⟩ := exists_dict_of_field hendpoint (by simp)
  exact ⟨items, endpoint, subject, rfl, hitems, hsubject⟩

/-- The fields of an exact process, in the dicts that hold them. -/
theorem ExactProcess.gets {items endpoint subject : Dict} {host : Text}
    {target : BootProcessTarget} (h : ExactProcess (.dict items) host target)
    (hendpoint : Dict.get items "endpoint" = .dict endpoint)
    (hsubject : Dict.get items "subject" = .dict subject) :
    Dict.get endpoint "host_id" = .str host ∧
    Dict.get endpoint "boot_id" = .str target.bootId ∧
    Dict.get subject "boot_id" = .str target.bootId ∧
    Dict.get subject "resolution" = .str "native_exact" ∧
    Dict.get subject "observed_pid" = .int target.pid ∧
    Dict.get subject "native_creation_ticks" = .str (Text.ofNat target.startTimeTicks) := by
  obtain ⟨hhost, _, hboot, hsubjectBoot, hresolution, hpid, hticks⟩ := h
  rw [PyVal.field_dict, hendpoint, PyVal.field_dict] at hhost hboot
  rw [PyVal.field_dict, hsubject, PyVal.field_dict] at hsubjectBoot hresolution hpid hticks
  exact ⟨hhost, hboot, hsubjectBoot, hresolution, hpid, hticks⟩

/-- Past the shape checks, the target is decided by the two digests and by what the
recommendation names. -/
theorem ExactProcess.canonicalProcessTarget_eq {context : PyVal}
    {items subject recommendation : Dict} {host : Text} {target : BootProcessTarget}
    (h : ExactProcess context host target) (rt : Runtime) (hcontext : context = .dict items)
    (hsubject : Dict.get items "subject" = .dict subject) :
    canonicalProcessTarget rt context recommendation = do
      let expected ← nativeEntityId host target.bootId target.pid
        (Text.ofNat target.startTimeTicks)
      let proved ← provesEntity rt items subject expected
      if !proved || !namesProcess recommendation host target.pid target.startTimeTicks then
        return none
      return some (ClosedTarget.bootProcess target).toDict := by
  subst hcontext
  obtain ⟨_, endpoint, _, hitems, hendpoint, _⟩ := h.exists_dicts
  obtain rfl := PyVal.dict.inj hitems
  obtain ⟨hhost, hboot, hsubjectBoot, hresolution, hpid, hticks⟩ := h.gets hendpoint hsubject
  have hpidPos := target.pid_pos
  have hpidLe := target.pid_le
  have hmax := target.ticks_le
  simp only [canonicalProcessTarget, hendpoint, hsubject, hhost, hboot, hpid, hticks]
  rw [if_neg (by
    simp [h.host_ne_nil, target.boot_shape, hsubjectBoot, hresolution, hpidLe, hpidPos,
      isNativeTicks_ofNat target.ticks_pos hmax])]
  simp only [Runtime.int_ofNat, ok_bind]
  rw [if_neg (by omega)]
  rfl

/-- Without an exact process, no target is returned. -/
theorem canonicalProcessTarget_of_not_exact {context : PyVal} {recommendation : Dict}
    (h : ∀ host target, ¬ ExactProcess context host target) :
    canonicalProcessTarget rt context recommendation = .ok none := by
  unfold canonicalProcessTarget
  split
  case h_2 => rfl
  rename_i items
  split
  case h_2 => rfl
  rename_i endpoint subject hendpoint hsubject
  split
  case h_2 => rfl
  rename_i host boot pid ticks hhost hboot hpid hticks
  split_ifs with hchecks
  · rfl
  simp only [Bool.or_eq_true, not_or, Bool.not_eq_true', Bool.not_eq_false, Bool.and_eq_true,
    decide_eq_true_eq, isText_eq_true, List.isEmpty_iff] at hchecks
  obtain ⟨⟨⟨⟨⟨hne, hshape⟩, hsubjectBoot⟩, hresolution⟩, hpidPos, hpidLe⟩, hticksShape⟩ := hchecks
  obtain ⟨n, hpos, _, rfl⟩ := isNativeTicks_iff.mp hticksShape
  obtain ⟨p, rfl⟩ := Int.eq_ofNat_of_zero_le hpidPos.le
  simp only [Runtime.int_ofNat, ok_bind]
  split_ifs with hmax
  · rfl
  refine absurd ⟨?_, hne, ?_, ?_, ?_, ?_, ?_⟩
    (h host ⟨p, n, boot, by omega, hpidLe, hpos, by omega, hshape⟩)
  all_goals simp [hendpoint, hsubject, hhost, hboot, hpid, hticks, hsubjectBoot, hresolution]

/-! ## Accepted contexts -/

/-- What a context and a recommendation agree on when a target is returned. -/
structure VerifiedProcess (rt : Runtime) (context : PyVal) (recommendation : Dict) where
  items : Dict
  endpoint : Dict
  subject : Dict
  host : Text
  target : BootProcessTarget
  nativeEntity : Text
  context_eq : context = .dict items
  endpoint_eq : Dict.get items "endpoint" = .dict endpoint
  subject_eq : Dict.get items "subject" = .dict subject
  host_eq : Dict.get endpoint "host_id" = .str host
  host_ne_nil : host ≠ []
  endpoint_boot_eq : Dict.get endpoint "boot_id" = .str target.bootId
  subject_boot_eq : Dict.get subject "boot_id" = .str target.bootId
  resolution_eq : Dict.get subject "resolution" = .str "native_exact"
  pid_eq : Dict.get subject "observed_pid" = .int target.pid
  ticks_eq : Dict.get subject "native_creation_ticks" = .str (Text.ofNat target.startTimeTicks)
  native_digest : nativeEntityId host target.bootId target.pid
    (Text.ofNat target.startTimeTicks) = .ok nativeEntity
  proved : provesEntity rt items subject nativeEntity = .ok true
  named_pid : Dict.get recommendation "target_pid" = .int target.pid
  named_ticks : Dict.get recommendation "target_start_time_ticks" = .int target.startTimeTicks
  named_host : Dict.getD recommendation "host_id" (.str host) = .str host

theorem namesProcess_iff {recommendation : Dict} {host : Text} {pid ticks : Int} :
    namesProcess recommendation host pid ticks = true ↔
      Dict.get recommendation "target_pid" = .int pid ∧
      Dict.get recommendation "target_start_time_ticks" = .int ticks ∧
      Dict.getD recommendation "host_id" (.str host) = .str host := by
  unfold namesProcess
  split
  · rename_i p t hp ht
    simp [hp, ht, and_assoc]
  · rename_i hne
    simp only [Bool.false_eq_true, false_iff]
    rintro ⟨hpid, hticks, _⟩
    exact hne pid ticks hpid hticks

/-- The Linux model is rechecked from its retained proof; any other model carries
the native digest itself. -/
theorem provesEntity_eq_true {items subject : Dict} {expected : Text} :
    provesEntity rt items subject expected = .ok true ↔
      (Dict.get items "identity_model" = .str identityModel →
        verifiedLinuxSubject rt items = .ok true) ∧
      (Dict.get items "identity_model" ≠ .str identityModel →
        Dict.get subject "entity_id" = .str expected) := by
  unfold provesEntity
  by_cases hmodel : Dict.get items "identity_model" = .str identityModel
  · simp [hmodel]
  · simp [hmodel]

/-- What the checks have established once a target is returned, in the order in which
they are made. -/
theorem exists_verifiedProcess {context : PyVal} {recommendation target : Dict}
    (h : canonicalProcessTarget rt context recommendation = .ok (some target)) :
    ∃ v : VerifiedProcess rt context recommendation,
      target = (ClosedTarget.bootProcess v.target).toDict := by
  by_cases hexact : ∃ host process, ExactProcess context host process
  · obtain ⟨host, process, hexact⟩ := hexact
    obtain ⟨items, endpoint, subject, rfl, hendpoint, hsubject⟩ := hexact.exists_dicts
    simp only [hexact.canonicalProcessTarget_eq rt rfl hsubject, bind_eq_ok] at h
    obtain ⟨expected, hexpected, proved, hproved, h⟩ := h
    split_ifs at h with hnamed
    case pos => simp at h
    simp only [Bool.or_eq_true, not_or, Bool.not_eq_true', Bool.not_eq_false] at hnamed
    obtain ⟨rfl, hnames⟩ := hnamed
    obtain ⟨hnamedPid, hnamedTicks, hnamedHost⟩ := namesProcess_iff.mp hnames
    obtain rfl : _ = target := by simpa using h
    obtain ⟨hhost, hboot, hsubjectBoot, hresolution, hpid, hticks⟩ :=
      hexact.gets hendpoint hsubject
    exact ⟨⟨items, endpoint, subject, host, process, expected, rfl, hendpoint, hsubject, hhost,
      hexact.host_ne_nil, hboot, hsubjectBoot, hresolution, hpid, hticks, hexpected, hproved,
      hnamedPid, hnamedTicks, hnamedHost⟩, rfl⟩
  · rw [canonicalProcessTarget_of_not_exact fun host process hp => hexact ⟨host, process, hp⟩] at h
    simp at h

theorem VerifiedProcess.exactProcess {context : PyVal} {recommendation : Dict}
    (v : VerifiedProcess rt context recommendation) : ExactProcess context v.host v.target := by
  refine ⟨?_, v.host_ne_nil, ?_, ?_, ?_, ?_, ?_⟩
  all_goals
    simp [v.context_eq, v.endpoint_eq, v.subject_eq, v.host_eq, v.endpoint_boot_eq,
      v.subject_boot_eq, v.resolution_eq, v.pid_eq, v.ticks_eq]

/-- A verified process passes every check. -/
theorem VerifiedProcess.canonicalProcessTarget_eq {context : PyVal} {recommendation : Dict}
    (v : VerifiedProcess rt context recommendation) :
    canonicalProcessTarget rt context recommendation =
      .ok (some (ClosedTarget.bootProcess v.target).toDict) := by
  have hnamed := namesProcess_iff.mpr ⟨v.named_pid, v.named_ticks, v.named_host⟩
  rw [v.exactProcess.canonicalProcessTarget_eq rt v.context_eq v.subject_eq, v.native_digest]
  simp [v.proved, hnamed]

/-- **The inversion of `_canonical_process_target`.** -/
theorem canonicalProcessTarget_eq_some {context : PyVal} {recommendation target : Dict} :
    canonicalProcessTarget rt context recommendation = .ok (some target) ↔
      ∃ v : VerifiedProcess rt context recommendation,
        target = (ClosedTarget.bootProcess v.target).toDict := by
  constructor
  · exact exists_verifiedProcess
  · rintro ⟨v, rfl⟩
    exact v.canonicalProcessTarget_eq

/-! ## The fields of an accepted context -/

namespace VerifiedProcess

variable {context : PyVal} {recommendation : Dict} (v : VerifiedProcess rt context recommendation)

include v in
theorem endpoint_field (k : Key) : (context.field "endpoint").field k = Dict.get v.endpoint k := by
  simp [v.context_eq, v.endpoint_eq]

include v in
theorem subject_field (k : Key) : (context.field "subject").field k = Dict.get v.subject k := by
  simp [v.context_eq, v.subject_eq]

end VerifiedProcess

/-- The native identity that a context's own dicts spell out. -/
structure Carries (context : PyVal) (i : NativeIdentity) : Prop where
  host_eq : (context.field "endpoint").field "host_id" = .str i.hostId
  boot_eq : (context.field "linux_identity").field "boot_uuid" = .str i.boot
  sensor_eq : (context.field "linux_identity").field "sensor_id" = .str i.sensorId
  seq_eq : (context.field "linux_identity").field "seq" = .int i.seq
  pid_eq : (context.field "subject").field "observed_pid" = .int i.pid
  ticks_eq : (context.field "subject").field "native_creation_ticks" = .str (Text.ofNat i.ticks)

/-- The first 32 hexadecimal digits of the digest of a string. -/
def shortDigest (t : Text) : Except PyError Text := do
  let digest ← sha256Hex t
  return digest.take 32

/-- The Linux identity behind a verified process, and its digests. -/
structure LinuxProof (context : PyVal) (host : Text) (target : BootProcessTarget)
    (i : NativeIdentity) : Prop where
  carries : Carries context i
  host_eq : i.hostId.val = host
  pid_eq : i.pid.val = target.pid
  ticks_eq : i.ticks.val = target.startTimeTicks
  boot_digest : ∃ digest, sha256Hex i.boot = .ok digest ∧
    target.bootId = ("boot_" : Text) ++ digest
  entity_digest : ∃ entity, shortDigest i.entityPreimage = .ok entity ∧
    (context.field "subject").field "entity_id" = .str entity
  record_digest : ∃ recordId, shortDigest i.recordPreimage = .ok recordId ∧
    context.field "record_id" = .str recordId

/-- A retained proof that was rechecked belongs to the process that was verified. -/
theorem VerifiedProcess.linuxProof {context : PyVal} {recommendation : Dict}
    (v : VerifiedProcess rt context recommendation)
    (hmodel : context.field "identity_model" = .str identityModel) :
    ∃ i, LinuxProof context v.host v.target i := by
  have hitems : Dict.get v.items "identity_model" = .str identityModel := by
    simpa [v.context_eq] using hmodel
  obtain ⟨i, ⟨r⟩⟩ := retains_of_verifiedLinuxSubject ((provesEntity_eq_true.mp v.proved).1 hitems)
  have hendpoint : r.endpoint = v.endpoint :=
    PyVal.dict.inj (r.endpoint_eq.symm.trans v.endpoint_eq)
  have hsubject : r.subject = v.subject := PyVal.dict.inj (r.subject_eq.symm.trans v.subject_eq)
  have hproof : context.field "linux_identity" = .dict r.proof := by
    simp [v.context_eq, r.proof_eq]
  have hcarries : Carries context i :=
    ⟨by rw [v.endpoint_field, ← hendpoint, r.host_eq], by simp [hproof, r.boot_eq],
      by simp [hproof, r.sensor_eq], by simp [hproof, r.seq_eq],
      by rw [v.subject_field, ← hsubject, r.pid_eq],
      by rw [v.subject_field, ← hsubject, r.ticks_eq]⟩
  have hhost : i.hostId.val = v.host :=
    PyVal.str.inj (r.host_eq.symm.trans (hendpoint ▸ v.host_eq))
  have hboot : ("boot_" : Text) ++ r.digest = v.target.bootId :=
    PyVal.str.inj (r.endpoint_boot_eq.symm.trans (hendpoint ▸ v.endpoint_boot_eq))
  have hpid : (i.pid.val : Int) = v.target.pid :=
    PyVal.int.inj (r.pid_eq.symm.trans (hsubject ▸ v.pid_eq))
  have hticks : i.ticks.val = v.target.startTimeTicks :=
    Text.ofNat_inj.mp (PyVal.str.inj (r.ticks_eq.symm.trans (hsubject ▸ v.ticks_eq)))
  refine ⟨i, hcarries, hhost, Int.ofNat_inj.mp hpid, hticks, ⟨_, r.boot_digest, hboot.symm⟩,
    ⟨r.entity.take 32, ?_, ?_⟩, ⟨r.recordId.take 32, ?_, ?_⟩⟩
  · simp [shortDigest, r.entity_digest]
  · rw [v.subject_field, ← hsubject, r.entity_eq]
  · simp [shortDigest, r.record_digest]
  · simp [v.context_eq, r.record_eq]

end ResponseEngine.Recommendation
