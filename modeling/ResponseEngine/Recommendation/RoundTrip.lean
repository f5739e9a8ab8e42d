/-
  Recommendation/RoundTrip.lean --- from a sensor record to a process command.

  A context that was built from a record passes its own recheck, and a
  recommendation for the record's process is translated with it: the target names
  the record's PID, its start ticks and the digest of its boot UUID, and the
  command contract takes it.
-/
import ResponseEngine.Recommendation.FailClosed

set_option autoImplicit false

namespace ResponseEngine.Recommendation

open ResponseEngine.Foundation ResponseEngine.Python ResponseEngine.Contract
open ResponseEngine.LinuxIdentity

variable {rt : Runtime}

/-! ## The texts of a context -/

/-- The text of a digest has 64 lowercase hexadecimal digits. -/
theorem isBootId_of_sha256Hex {t digest : Text} (h : sha256Hex t = .ok digest) :
    isBootId (("boot_" : Text) ++ digest) = true := by
  obtain ⟨bytes, _, rfl⟩ := sha256Hex_eq_ok.mp h
  have hlength : (Text.ofChars (Sha256.hexdigest bytes)).length = 64 := by simp [Text.ofChars]
  have hdigits : ∀ c ∈ Text.ofChars (Sha256.hexdigest bytes), c.isLowerHex = true := by
    intro c hc
    obtain ⟨d, hd, rfl⟩ := List.mem_map.mp hc
    exact Sha256.isLowerHex_of_mem_hexdigest hd
  exact Text.fullmatch_append (Text.fullmatch_lits "boot_")
    (Text.fullmatch_replicate hlength hdigits)

/-- What is hashed was encodable. -/
theorem encodable_host_of_sha256Hex {i : NativeIdentity} {digest : Text}
    (h : sha256Hex i.entityPreimage = .ok digest) : i.hostId.val.Encodable := by
  have hpreimage := exists_sha256Hex_eq_ok.mp ⟨digest, h⟩
  simp only [NativeIdentity.entityPreimage, Text.encodable_append] at hpreimage
  exact hpreimage.1.1.1.1.1.1

/-! ## The context of a record -/

/-- The record's identity and the digests from which its context is made. -/
structure Built (record agentId : PyVal) where
  i : NativeIdentity
  agent : NonemptyText
  entity : Text
  recordId : Text
  digest : Text
  entity_digest : sha256Hex i.entityPreimage = .ok entity
  record_digest : sha256Hex i.recordPreimage = .ok recordId
  boot_digest : sha256Hex i.boot = .ok digest
  agent_eq : agentId = .str agent
  host_eq : (record.field "host").field "id" = .str i.hostId
  boot_eq : (record.field "host").field "boot_id" = .str i.boot
  pid_eq : (record.field "process").field "pid" = .int i.pid
  ticks_eq : (record.field "process").field "start_ticks" = .int i.ticks

namespace Built

variable {record agentId : PyVal} (b : Built record agentId)

/-- The context that is returned. -/
def context : Dict :=
  contextOf b.i b.agent (b.recordId.take 32) (b.entity.take 32) (("boot_" : Text) ++ b.digest)

/-- The process that a command aims at. -/
def target : BootProcessTarget where
  pid := b.i.pid
  startTimeTicks := b.i.ticks
  bootId := ("boot_" : Text) ++ b.digest
  pid_pos := b.i.pid.property.1
  pid_le := b.i.pid.property.2
  ticks_pos := b.i.ticks.property.1
  ticks_le := b.i.ticks.property.2
  boot_shape := isBootId_of_sha256Hex b.boot_digest

end Built

theorem exists_built {record agentId : PyVal} {context : Dict}
    (h : linuxEndpointContext record agentId = .ok (some context)) :
    ∃ b : Built record agentId, context = b.context := by
  obtain ⟨fields, host, proc, sensor, agent, i, rfl, rfl, hagent, hhost, hproc, hsensor, hi,
    hchecked⟩ := linuxEndpointContext_eq_some.mp h
  obtain ⟨entity, recordId, digest, hentity, hrecord, hdigest, _, _, rfl⟩ :=
    checkedContext_eq_some.mp hchecked
  obtain ⟨_, _, _, hhostId, hboot, _, hpid, hticks, _⟩ := nativeIdentity?_eq_some.mp hi
  refine ⟨⟨i, ⟨agent, hagent⟩, entity, recordId, digest, hentity, hrecord, hdigest, rfl,
    ?_, ?_, ?_, ?_⟩, rfl⟩
  all_goals simp [hhost, hproc, hhostId, hboot, hpid, hticks]

namespace Built

variable {record agentId : PyVal} (b : Built record agentId)

/-- The record that the recheck rebuilds gives the same context again. -/
theorem linuxEndpointContext_rebuilt {endpoint subject proof : Dict}
    (h : Rebuilds b.context endpoint subject proof b.i.ticks) :
    linuxEndpointContext (.dict (rebuiltRecord b.context endpoint subject proof b.i.ticks))
      (Dict.get endpoint "agent_id") = .ok (some b.context) := by
  obtain ⟨hendpoint, hsubject, hproof, _, _⟩ := h
  simp [context, contextOf] at hendpoint hsubject hproof
  subst hendpoint hsubject hproof
  refine linuxEndpointContext_eq_some.mpr
    ⟨_, _, _, _, b.agent, b.i, rfl, by simp, b.agent.property, rfl, rfl, rfl, ?_, ?_⟩
  · exact nativeIdentity?_eq_some.mpr (by simp [rebuiltRecord])
  · exact checkedContext_eq_some.mpr ⟨b.entity, b.recordId, b.digest, b.entity_digest,
      b.record_digest, b.boot_digest, by simp, by simp [rebuiltRecord, context, contextOf], rfl⟩

/-- Every entry of the context equals itself. -/
theorem context_entries_eq :
    (b.context.all fun entry => (Dict.get b.context entry.1).pyEq entry.2) = true := by
  have hnodup : (b.context.map Prod.fst).Nodup := by simp [context, contextOf]
  rw [List.all_eq_true]
  intro entry hentry
  rw [Dict.get_of_find? (Dict.find?_of_mem hnodup hentry)]
  simp only [context, contextOf, List.mem_cons, List.not_mem_nil, or_false] at hentry
  rcases hentry with rfl | rfl | rfl | rfl | rfl
  · exact PyVal.pyEq_str_self _
  · exact PyVal.pyEq_str_self _
  · exact PyVal.pyEq_dict_self (by simp) (by simp)
  · exact PyVal.pyEq_dict_self (by simp) (by simp)
  · exact PyVal.pyEq_dict_self (by simp) (by simp)

/-- A context that was built retains what rebuilds its record. -/
theorem exists_rebuilds :
    ∃ endpoint subject proof, Rebuilds b.context endpoint subject proof b.i.ticks := by
  refine ⟨_, _, _, rfl, rfl, rfl, ?_, isNativeTicks_ofNat b.i.ticks.property.1
    b.i.ticks.property.2⟩
  simp

/-- A context that was built passes its own recheck. -/
theorem verifiedLinuxSubject_eq : verifiedLinuxSubject rt b.context = .ok true := by
  obtain ⟨endpoint, subject, proof, hrebuilds⟩ := b.exists_rebuilds
  rw [verifiedLinuxSubject_of_rebuilds hrebuilds, b.linuxEndpointContext_rebuilt hrebuilds,
    ok_bind, Option.elim_some, b.context_entries_eq]
  rfl

/-- A recommendation that names the record's process and no other host is verified
with the context. -/
def verifiedProcess (rt : Runtime) {activeResponse : Dict} {nativeEntity : Text}
    (hnative : nativeEntityId b.i.hostId b.target.bootId b.target.pid
      (Text.ofNat b.target.startTimeTicks) = .ok nativeEntity)
    (hpid : Dict.get activeResponse "target_pid" = .int b.target.pid)
    (hticks : Dict.get activeResponse "target_start_time_ticks" = .int b.target.startTimeTicks)
    (hhost : Dict.getD activeResponse "host_id" (.str b.i.hostId) = .str b.i.hostId) :
    VerifiedProcess rt (.dict b.context) activeResponse where
  items := b.context
  endpoint :=
    [("agent_id", .str b.agent), ("host_id", .str b.i.hostId), ("boot_id", .str b.target.bootId)]
  subject :=
    [("observed_pid", .int b.i.pid), ("native_creation_ticks", .str (Text.ofNat b.i.ticks)),
      ("boot_id", .str b.target.bootId), ("resolution", .str "native_exact"),
      ("entity_id", .str (b.entity.take 32))]
  host := b.i.hostId
  target := b.target
  nativeEntity := nativeEntity
  context_eq := rfl
  endpoint_eq := by simp [context, contextOf, target]
  subject_eq := by simp [context, contextOf, target]
  host_eq := by simp
  host_ne_nil := b.i.hostId.property
  endpoint_boot_eq := by simp
  subject_boot_eq := by simp
  resolution_eq := by simp
  pid_eq := by simp [target]
  ticks_eq := by simp [target]
  native_digest := hnative
  proved := provesEntity_eq_true.mpr
    ⟨fun _ => b.verifiedLinuxSubject_eq, fun hne => absurd (by simp [context, contextOf]) hne⟩
  named_pid := hpid
  named_ticks := hticks
  named_host := hhost

/-- The native digest can be taken of a record that was accepted. -/
theorem exists_nativeEntity :
    ∃ entity, nativeEntityId b.i.hostId b.target.bootId b.target.pid
      (Text.ofNat b.target.startTimeTicks) = .ok entity :=
  (exists_nativeEntityId_eq_ok b.target.boot_shape).mpr
    (encodable_host_of_sha256Hex b.entity_digest)

/-- The translation with the context of a record. -/
theorem translateRecommendation_eq (rt : Runtime) {action : Text} {command : Action}
    {activeResponse : Dict} (haction : ProcessRecommendation action command)
    (hpid : Dict.get activeResponse "target_pid" = .int b.target.pid)
    (hticks : Dict.get activeResponse "target_start_time_ticks" = .int b.target.startTimeTicks)
    (hhost : Dict.getD activeResponse "host_id" (.str b.i.hostId) = .str b.i.hostId) :
    translateRecommendation rt action activeResponse (.dict b.context) = .ok (some
      { action := command.value
        target := (ClosedTarget.bootProcess b.target).toDict
        reason := "verified canonical native process target" }) := by
  obtain ⟨nativeEntity, hnative⟩ := b.exists_nativeEntity
  exact translateRecommendation_eq_some.mpr
    (.canonical haction (by simp) (b.verifiedProcess rt hnative hpid hticks hhost))

end Built

/-! ## The round trip -/

/-- The record of an identity, with the digests that the builder compares. -/
def nativeRecord (i : NativeIdentity) (entityId recordId : Text) : Dict :=
  [("schema_version", .str "1.0"), ("record_type", .str "event"), ("type", .str "process.exec"),
    ("id", .str recordId), ("seq", .int i.seq),
    ("host", .dict [("id", .str i.hostId), ("boot_id", .str i.boot)]),
    ("sensor", .dict [("id", .str i.sensorId)]),
    ("process",
      .dict [("pid", .int i.pid), ("start_ticks", .int i.ticks), ("entity_id", .str entityId),
        ("confidence", .dict [("identity", .str "observed")])])]

/-- Every identity with encodable ids has a record that is accepted. -/
theorem exists_linuxEndpointContext_eq_some {i : NativeIdentity} {agent : Text}
    (hagent : agent ≠ []) (hhost : i.hostId.val.Encodable) (hsensor : i.sensorId.val.Encodable) :
    ∃ entityId recordId context,
      linuxEndpointContext (.dict (nativeRecord i entityId recordId)) (.str agent) =
        .ok (some context) := by
  have hboot := encodable_of_isUuid i.boot.property
  obtain ⟨entity, hentity⟩ : ∃ entity, sha256Hex i.entityPreimage = .ok entity :=
    exists_sha256Hex_eq_ok.mpr (by simp [NativeIdentity.entityPreimage, hhost, hboot])
  obtain ⟨recordId, hrecord⟩ : ∃ recordId, sha256Hex i.recordPreimage = .ok recordId :=
    exists_sha256Hex_eq_ok.mpr (by simp [NativeIdentity.recordPreimage, hsensor, hboot])
  obtain ⟨digest, hdigest⟩ := exists_sha256Hex_eq_ok.mpr hboot
  refine ⟨entity.take 32, recordId.take 32,
    contextOf i agent (recordId.take 32) (entity.take 32) (("boot_" : Text) ++ digest),
    linuxEndpointContext_eq_some.mpr
      ⟨_, _, _, _, agent, i, rfl, rfl, hagent, rfl, rfl, rfl, ?_, ?_⟩⟩
  · exact nativeIdentity?_eq_some.mpr (by simp [nativeRecord])
  · exact checkedContext_eq_some.mpr ⟨entity, recordId, digest, hentity, hrecord, hdigest,
      by simp, by simp [nativeRecord], rfl⟩

/-- **The round trip from a record to a boot-bound process command**, over the whole
range of ticks. -/
theorem linuxEndpointContext_roundTrip (rt : Runtime) :
    (∀ (record agentId : PyVal) (context : Dict),
      linuxEndpointContext record agentId = .ok (some context) →
      verifiedLinuxSubject rt context = .ok true ∧
      ∃ (pid ticks : Nat) (uuid digest : Text),
        (record.field "process").field "pid" = .int pid ∧
        (record.field "process").field "start_ticks" = .int ticks ∧
        (record.field "host").field "boot_id" = .str uuid ∧ sha256Hex uuid = .ok digest ∧
        rt.int (Text.ofNat ticks) = .ok ticks ∧
        ∀ (action : Text) (command : Action) (activeResponse : Dict),
          ProcessRecommendation action command →
          Dict.get activeResponse "target_pid" = (record.field "process").field "pid" →
          Dict.get activeResponse "target_start_time_ticks" =
            (record.field "process").field "start_ticks" →
          (∀ named, Dict.find? activeResponse "host_id" = some named →
            named = (record.field "host").field "id") →
          ∃ tr, translateRecommendation rt action activeResponse (.dict context) =
              .ok (some tr) ∧
            tr.action = command.value ∧
            tr.target = ([("pid", .int pid), ("start_time_ticks", .str (Text.ofNat ticks)),
              ("boot_id", .str (("boot_" : Text) ++ digest))] : Dict) ∧
            commandSchema tr.target = .v2 ∧ Accepted rt tr) ∧
    ∀ ticks : Nat, 0 < ticks → ticks ≤ 2 ^ 64 - 1 →
      ∃ (record agentId : PyVal) (context : Dict),
        linuxEndpointContext record agentId = .ok (some context) ∧
        (record.field "process").field "start_ticks" = .int ticks := by
  constructor
  · intro record agentId context h
    obtain ⟨b, rfl⟩ := exists_built h
    refine ⟨b.verifiedLinuxSubject_eq, b.i.pid, b.i.ticks, b.i.boot, b.digest, b.pid_eq,
      b.ticks_eq, b.boot_eq, b.boot_digest, rt.int_ofNat _, ?_⟩
    intro action command activeResponse haction hpid hticks hhost
    rw [b.pid_eq] at hpid
    rw [b.ticks_eq] at hticks
    rw [b.host_eq] at hhost
    have hnamed : Dict.getD activeResponse "host_id" (.str b.i.hostId) = .str b.i.hostId := by
      unfold Dict.getD
      cases hfind : Dict.find? activeResponse "host_id" with
      | none => rfl
      | some named => exact hhost named hfind
    refine ⟨_, b.translateRecommendation_eq rt haction hpid hticks hnamed, rfl, rfl, ?_, ?_⟩
    · simp [commandSchema, ClosedTarget.toDict, Dict.contains]
    · exact accepted_bootProcess haction.mem_processActions b.target _
  · intro ticks hpos hle
    let i : NativeIdentity :=
      { sampleIdentity with ticks := ⟨ticks, hpos, by unfold maxTicks; omega⟩ }
    have hagent : ("agent-1" : Text) ≠ [] := by decide
    have hhost : i.hostId.val.Encodable := Text.encodable_ofString _
    have hsensor : i.sensorId.val.Encodable := Text.encodable_ofString _
    obtain ⟨entityId, recordId, context, h⟩ :=
      exists_linuxEndpointContext_eq_some hagent hhost hsensor
    exact ⟨_, _, context, h, by simp [nativeRecord, i]⟩

/-- The record of the sample identity. -/
def sampleRecord : PyVal :=
  .dict (nativeRecord sampleIdentity "fa4aecb7eb60d25d3c3178c5d0e4892a"
    "145c540d83e2fb5835e8ab71ec35967e")

theorem linuxEndpointContext_roundTrip_sample :
    ∃ context, linuxEndpointContext sampleRecord (.str "agent-1") = .ok (some context) ∧
      verifiedLinuxSubject .sample context = .ok true := by
  obtain ⟨context, hcontext⟩ :=
    exists_eq_ok_some (x := linuxEndpointContext sampleRecord (.str "agent-1")) (by decide +kernel)
  exact ⟨context, hcontext,
    ((linuxEndpointContext_roundTrip .sample).1 sampleRecord (.str "agent-1") context hcontext).1⟩

end ResponseEngine.Recommendation
