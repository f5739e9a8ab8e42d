/-
  LinuxIdentity.lean --- the Linux sensor identity proof.

  `linuxEndpointContext` builds a response subject from a sensor record whose two
  digests agree with the native identity it carries; `verifiedLinuxSubject`
  rebuilds the record from the retained proof and compares.  The native identity
  itself is a structure whose bounds are fields.
-/
import ResponseEngine.Contract.Action
import ResponseEngine.Foundation.Sha256

set_option autoImplicit false

namespace ResponseEngine.LinuxIdentity

open ResponseEngine.Foundation ResponseEngine.Python ResponseEngine.Contract

/-- `MODEL`. -/
def identityModel : Text := "linux_endpoint_v1"

/-- `UUID`: five runs of lowercase hexadecimal digits. -/
def uuidPattern : List (CodePoint → Bool) :=
  let hex (n : Nat) := List.replicate n CodePoint.isLowerHex
  hex 8 ++ Text.lits "-" ++ hex 4 ++ Text.lits "-" ++ hex 4 ++ Text.lits "-" ++ hex 4 ++
    Text.lits "-" ++ hex 12

/-- `UUID.fullmatch`. -/
def isUuid (t : Text) : Bool := Text.fullmatch uuidPattern t

/-! ## Native identities -/

/-- A nonempty text. -/
abbrev NonemptyText := {t : Text // t ≠ []}

/-- A lowercase UUID. -/
abbrev Uuid := {t : Text // isUuid t = true}

/-- A positive number up to a bound. -/
abbrev Positive (upper : Int) := {n : Nat // 0 < n ∧ (n : Int) ≤ upper}

/-- A native process identity as a Linux sensor observes it. -/
@[ext] structure NativeIdentity where
  hostId : NonemptyText
  boot : Uuid
  sensorId : NonemptyText
  pid : Positive maxPid
  ticks : Positive maxTicks
  seq : Positive maxTicks

namespace NativeIdentity

/-- `f"{host_id}|{boot}|{pid}|{ticks}"`. -/
def entityPreimage (i : NativeIdentity) : Text :=
  i.hostId.val ++ ("|" : Text) ++ i.boot.val ++ ("|" : Text) ++ Text.ofNat i.pid ++ ("|" : Text) ++
    Text.ofNat i.ticks

/-- `f"{sensor_id}|{boot}|{seq}"`. -/
def recordPreimage (i : NativeIdentity) : Text :=
  i.sensorId.val ++ ("|" : Text) ++ i.boot.val ++ ("|" : Text) ++ Text.ofNat i.seq

end NativeIdentity

/-! ## Building a context -/

/-- `isinstance(v, str) and v`. -/
def nonemptyText? : PyVal → Option NonemptyText
  | .str t => if h : t ≠ [] then some ⟨t, h⟩ else none
  | _ => none

/-- `isinstance(v, str) and UUID.fullmatch(v)`. -/
def uuid? : PyVal → Option Uuid
  | .str t => if h : isUuid t = true then some ⟨t, h⟩ else none
  | _ => none

/-- `type(v) is int and 0 < v <= upper`. -/
def positive? (upper : Int) : PyVal → Option (Positive upper)
  | .int (.ofNat n) => if h : 0 < n ∧ (n : Int) ≤ upper then some ⟨n, h⟩ else none
  | _ => none

/-- `v == text`. -/
def isText (v : PyVal) (text : Text) : Bool := v.pyEq (.str text)

/-- The checks of `linux_endpoint_context` on the four dicts of a record. -/
def nativeIdentity? (record host proc sensor : Dict) : Option NativeIdentity := do
  guard (isText (Dict.get record "schema_version") "1.0")
  guard (isText (Dict.get record "record_type") "event")
  guard (isText (Dict.get record "type") "process.exec")
  let hostId ← nonemptyText? (Dict.get host "id")
  let boot ← uuid? (Dict.get host "boot_id")
  let sensorId ← nonemptyText? (Dict.get sensor "id")
  let pid ← positive? maxPid (Dict.get proc "pid")
  let ticks ← positive? maxTicks (Dict.get proc "start_ticks")
  let seq ← positive? maxTicks (Dict.get record "seq")
  let confidence ← (Dict.get proc "confidence").asDict?
  guard (isText (Dict.get confidence "identity") "observed")
  return { hostId, boot, sensorId, pid, ticks, seq }

/-- `hashlib.sha256(t.encode()).hexdigest()`. -/
def sha256Hex (t : Text) : Except PyError Text := do
  let bytes ← encode t
  return Text.ofChars (Sha256.hexdigest bytes)

/-- The context of a record whose digests have been checked. -/
def contextOf (i : NativeIdentity) (agentId recordId entityId digest : Text) : Dict :=
  [("identity_model", .str identityModel),
    ("record_id", .str recordId),
    ("endpoint",
      .dict [("agent_id", .str agentId), ("host_id", .str i.hostId), ("boot_id", .str digest)]),
    ("subject",
      .dict [("observed_pid", .int i.pid), ("native_creation_ticks", .str (Text.ofNat i.ticks)),
        ("boot_id", .str digest), ("resolution", .str "native_exact"),
        ("entity_id", .str entityId)]),
    ("linux_identity",
      .dict [("boot_uuid", .str i.boot), ("sensor_id", .str i.sensorId), ("seq", .int i.seq)])]

/-- The digest comparisons of `linux_endpoint_context`, and the context that
passes them. -/
def checkedContext (i : NativeIdentity) (agentId : Text) (record proc : Dict) :
    Except PyError (Option Dict) := do
  let expectedEntity := (← sha256Hex i.entityPreimage).take 32
  let expectedRecord := (← sha256Hex i.recordPreimage).take 32
  if !isText (Dict.get proc "entity_id") expectedEntity ||
      !isText (Dict.get record "id") expectedRecord then
    return none
  let digest := ("boot_" : Text) ++ (← sha256Hex i.boot)
  return some (contextOf i agentId expectedRecord expectedEntity digest)

/-- `linux_endpoint_context`. -/
def linuxEndpointContext : PyVal → PyVal → Except PyError (Option Dict)
  | .dict record, .str agentId =>
      match Dict.get record "host", Dict.get record "process", Dict.get record "sensor" with
      | .dict host, .dict proc, .dict sensor =>
          match nativeIdentity? record host proc sensor with
          | some i => if agentId.isEmpty then return none else checkedContext i agentId record proc
          | none => return none
      | _, _, _ => return none
  | _, _ => return none

/-! ## Rechecking a retained proof -/

/-- The record that a retained proof rebuilds. -/
def rebuiltRecord (context endpoint subject proof : Dict) (ticks : Int) : Dict :=
  [("schema_version", .str "1.0"),
    ("record_type", .str "event"),
    ("type", .str "process.exec"),
    ("id", Dict.get context "record_id"),
    ("seq", Dict.get proof "seq"),
    ("host", .dict [("id", Dict.get endpoint "host_id"), ("boot_id", Dict.get proof "boot_uuid")]),
    ("sensor", .dict [("id", Dict.get proof "sensor_id")]),
    ("process",
      .dict [("pid", Dict.get subject "observed_pid"), ("start_ticks", .int ticks),
        ("entity_id", Dict.get subject "entity_id"),
        ("confidence", .dict [("identity", .str "observed")])])]

/-- `verified_linux_subject`. -/
def verifiedLinuxSubject (rt : Runtime) (context : Dict) : Except PyError Bool :=
  match Dict.get context "endpoint", Dict.get context "subject",
      Dict.get context "linux_identity" with
  | .dict endpoint, .dict subject, .dict proof =>
      match Dict.get subject "native_creation_ticks" with
      | .str ticks =>
          if isNativeTicks ticks then do
            let n ← rt.int ticks
            let rebuilt ← linuxEndpointContext
              (.dict (rebuiltRecord context endpoint subject proof n))
              (Dict.get endpoint "agent_id")
            match rebuilt with
            | some rebuilt => return rebuilt.all fun entry =>
                (Dict.get context entry.1).pyEq entry.2
            | none => return false
          else return false
      | _ => return false
  | _, _, _ => return false

/-! ## What the checks accept -/

theorem nonemptyText?_eq_some {v : PyVal} {t : NonemptyText} :
    nonemptyText? v = some t ↔ v = .str t := by
  obtain ⟨t, ht⟩ := t
  cases v <;> simp [nonemptyText?]
  rintro rfl
  exact ht

theorem uuid?_eq_some {v : PyVal} {t : Uuid} : uuid? v = some t ↔ v = .str t := by
  obtain ⟨t, ht⟩ := t
  cases v <;> simp [uuid?]
  rintro rfl
  exact ht

theorem positive?_eq_some {upper : Int} {v : PyVal} {n : Positive upper} :
    positive? upper v = some n ↔ v = .int n := by
  obtain ⟨n, hn⟩ := n
  cases v <;> simp [positive?]
  rename_i m
  cases m <;> simp
  rintro rfl
  exact hn

theorem asDict?_eq_some {v : PyVal} {d : Dict} : v.asDict? = some d ↔ v = .dict d := by
  cases v <;> simp [PyVal.asDict?]

theorem guard_eq_some {p : Prop} [Decidable p] {u : Unit} :
    (guard p : Option Unit) = some u ↔ p := by
  by_cases hp : p <;> simp [hp]

@[simp] theorem isText_eq_true {v : PyVal} {t : Text} : isText v t = true ↔ v = .str t :=
  PyVal.pyEq_str

/-- The record fields of an accepted identity. -/
theorem nativeIdentity?_eq_some {record host proc sensor : Dict} {i : NativeIdentity} :
    nativeIdentity? record host proc sensor = some i ↔
      Dict.get record "schema_version" = .str "1.0" ∧
      Dict.get record "record_type" = .str "event" ∧
      Dict.get record "type" = .str "process.exec" ∧
      Dict.get host "id" = .str i.hostId ∧
      Dict.get host "boot_id" = .str i.boot ∧
      Dict.get sensor "id" = .str i.sensorId ∧
      Dict.get proc "pid" = .int i.pid ∧
      Dict.get proc "start_ticks" = .int i.ticks ∧
      Dict.get record "seq" = .int i.seq ∧
      ∃ confidence, Dict.get proc "confidence" = .dict confidence ∧
        Dict.get confidence "identity" = .str "observed" := by
  unfold nativeIdentity?
  simp only [Option.bind_eq_bind, Option.bind_eq_some_iff, guard_eq_some, isText_eq_true,
    nonemptyText?_eq_some, uuid?_eq_some, positive?_eq_some, asDict?_eq_some]
  constructor
  · rintro ⟨_, hversion, _, hrecord, _, htype, host, hhost, boot, hboot, sensor, hsensor,
      pid, hpid, ticks, hticks, seq, hseq, confidence, hconf, _, hident, hi⟩
    obtain rfl := Option.some.inj hi
    exact ⟨hversion, hrecord, htype, hhost, hboot, hsensor, hpid, hticks, hseq,
      confidence, hconf, hident⟩
  · rintro ⟨hversion, hrecord, htype, hhost, hboot, hsensor, hpid, hticks, hseq,
      confidence, hconf, hident⟩
    exact ⟨(), hversion, (), hrecord, (), htype, _, hhost, _, hboot, _, hsensor,
      _, hpid, _, hticks, _, hseq, confidence, hconf, (), hident, rfl⟩

/-- `hashlib.sha256(t.encode()).hexdigest()` of an encodable text. -/
theorem sha256Hex_eq_ok {t digest : Text} :
    sha256Hex t = .ok digest ↔
      ∃ bytes, t.utf8? = some bytes ∧ digest = Text.ofChars (Sha256.hexdigest bytes) := by
  simp only [sha256Hex, bind_eq_ok, encode_eq_ok, pure_eq_ok, Except.ok.injEq]
  simp only [eq_comm]

/-- The digests of a checked record. -/
theorem checkedContext_eq_some {i : NativeIdentity} {agentId : Text} {record proc context : Dict} :
    checkedContext i agentId record proc = .ok (some context) ↔
      ∃ entity recordId digest,
        sha256Hex i.entityPreimage = .ok entity ∧ sha256Hex i.recordPreimage = .ok recordId ∧
        sha256Hex i.boot = .ok digest ∧
        Dict.get proc "entity_id" = .str (entity.take 32) ∧
        Dict.get record "id" = .str (recordId.take 32) ∧
        context = contextOf i agentId (recordId.take 32) (entity.take 32)
          (("boot_" : Text) ++ digest) := by
  simp only [checkedContext, bind_eq_ok]
  constructor
  · rintro ⟨entity, hentity, recordId, hrecord, h⟩
    split at h
    · simp at h
    · rename_i hids
      simp only [bind_eq_ok] at h
      obtain ⟨digest, hdigest, h⟩ := h
      simp only [Bool.or_eq_true, Bool.not_eq_true', not_or, Bool.not_eq_false,
        isText_eq_true] at hids
      obtain rfl : contextOf _ _ _ _ _ = context := by simpa using h
      exact ⟨entity, recordId, digest, hentity, hrecord, hdigest, hids.1, hids.2, rfl⟩
  · rintro ⟨entity, recordId, digest, hentity, hrecord, hdigest, hproc, hid, rfl⟩
    refine ⟨entity, hentity, recordId, hrecord, ?_⟩
    rw [if_neg (by simp [hproc, hid])]
    simp [hdigest]

/-- What an accepted record proves about its identity. -/
theorem linuxEndpointContext_eq_some {record agentId : PyVal} {context : Dict} :
    linuxEndpointContext record agentId = .ok (some context) ↔
      ∃ fields host proc sensor agent i,
        record = .dict fields ∧ agentId = .str agent ∧ agent ≠ [] ∧
        Dict.get fields "host" = .dict host ∧ Dict.get fields "process" = .dict proc ∧
        Dict.get fields "sensor" = .dict sensor ∧
        nativeIdentity? fields host proc sensor = some i ∧
        checkedContext i agent fields proc = .ok (some context) := by
  constructor
  · intro h
    unfold linuxEndpointContext at h
    split at h
    · rename_i fields agent
      split at h
      · rename_i host proc sensor hhost hproc hsensor
        split at h
        · rename_i i hi
          split_ifs at h with hagent
          · simp at h
          · exact ⟨fields, host, proc, sensor, agent, i, rfl, rfl, by simpa using hagent,
              hhost, hproc, hsensor, hi, h⟩
        · simp at h
      · simp at h
    · simp at h
  · rintro ⟨fields, host, proc, sensor, agent, i, rfl, rfl, hagent, hhost, hproc, hsensor, hi, h⟩
    simp [linuxEndpointContext, hhost, hproc, hsensor, hi, hagent, h]

/-! ## The recheck -/

/-- A context whose retained proof is rebuilt to a record with a number of ticks. -/
structure Rebuilds (context endpoint subject proof : Dict) (ticks : ℕ) : Prop where
  endpoint_eq : Dict.get context "endpoint" = .dict endpoint
  subject_eq : Dict.get context "subject" = .dict subject
  proof_eq : Dict.get context "linux_identity" = .dict proof
  ticks_eq : Dict.get subject "native_creation_ticks" = .str (Text.ofNat ticks)
  shape : isNativeTicks (Text.ofNat ticks) = true

/-- The recheck of such a context builds the context of the record again, and compares. -/
theorem verifiedLinuxSubject_of_rebuilds {rt : Runtime} {context endpoint subject proof : Dict}
    {ticks : ℕ} (h : Rebuilds context endpoint subject proof ticks) :
    verifiedLinuxSubject rt context = do
      let rebuilt ← linuxEndpointContext
        (.dict (rebuiltRecord context endpoint subject proof ticks)) (Dict.get endpoint "agent_id")
      return rebuilt.elim false fun rebuilt =>
        rebuilt.all fun entry => (Dict.get context entry.1).pyEq entry.2 := by
  simp only [verifiedLinuxSubject, h.endpoint_eq, h.subject_eq, h.proof_eq, h.ticks_eq, h.shape,
    if_true, Runtime.int_ofNat, ok_bind]
  congr 1
  funext rebuilt
  cases rebuilt with
  | none => rfl
  | some rebuilt => rfl

/-- Any other context fails it. -/
theorem verifiedLinuxSubject_of_not_rebuilds {rt : Runtime} {context : Dict}
    (h : ¬ ∃ endpoint subject proof ticks, Rebuilds context endpoint subject proof ticks) :
    verifiedLinuxSubject rt context = .ok false := by
  unfold verifiedLinuxSubject
  split
  case h_2 => rfl
  rename_i endpoint subject proof hendpoint hsubject hproof
  split
  case h_2 => rfl
  rename_i text htext
  split_ifs with hshape
  · obtain ⟨ticks, _, _, rfl⟩ := isNativeTicks_iff.mp hshape
    exact absurd ⟨endpoint, subject, proof, ticks, hendpoint, hsubject, hproof, htext, hshape⟩ h
  · rfl

/-! ## What a retained proof proves -/

/-- A retained context that passes the recheck carries a native identity: its own
fields are that identity's, and its digests are the identity's digests. -/
structure Retains (context : Dict) (i : NativeIdentity) where
  endpoint : Dict
  subject : Dict
  proof : Dict
  entity : Text
  recordId : Text
  digest : Text
  endpoint_eq : Dict.get context "endpoint" = .dict endpoint
  subject_eq : Dict.get context "subject" = .dict subject
  proof_eq : Dict.get context "linux_identity" = .dict proof
  host_eq : Dict.get endpoint "host_id" = .str i.hostId
  boot_eq : Dict.get proof "boot_uuid" = .str i.boot
  sensor_eq : Dict.get proof "sensor_id" = .str i.sensorId
  seq_eq : Dict.get proof "seq" = .int i.seq
  pid_eq : Dict.get subject "observed_pid" = .int i.pid
  ticks_eq : Dict.get subject "native_creation_ticks" = .str (Text.ofNat i.ticks)
  entity_digest : sha256Hex i.entityPreimage = .ok entity
  record_digest : sha256Hex i.recordPreimage = .ok recordId
  boot_digest : sha256Hex i.boot = .ok digest
  entity_eq : Dict.get subject "entity_id" = .str (entity.take 32)
  record_eq : Dict.get context "record_id" = .str (recordId.take 32)
  endpoint_boot_eq : Dict.get endpoint "boot_id" = .str (("boot_" : Text) ++ digest)

/-- What the rebuilt record observes is retained, where the rebuilt context compares. -/
theorem retains_of_rebuilt {context endpoint subject proof rebuilt : Dict} {ticks : ℕ}
    (h : Rebuilds context endpoint subject proof ticks)
    (hrebuilt : linuxEndpointContext (.dict (rebuiltRecord context endpoint subject proof ticks))
      (Dict.get endpoint "agent_id") = .ok (some rebuilt))
    (hsame : ∀ entry ∈ rebuilt, (Dict.get context entry.1).pyEq entry.2 = true) :
    ∃ i, Nonempty (Retains context i) := by
  obtain ⟨fields, host, proc, sensor, agent, i, hfields, hagent, _, hhost, hproc, hsensor, hi,
    hchecked⟩ := linuxEndpointContext_eq_some.mp hrebuilt
  obtain rfl := PyVal.dict.inj hfields
  obtain ⟨_, _, _, hhostId, hboot, hsensorId, hpid, hstart, hseq, _⟩ :=
    nativeIdentity?_eq_some.mp hi
  obtain ⟨entity, recordId, digest, hentity, hrecord, hdigest, hentityEq, hrecordEq, rfl⟩ :=
    checkedContext_eq_some.mp hchecked
  simp [rebuiltRecord] at hhost hproc hsensor
  subst hhost hproc hsensor
  simp [rebuiltRecord] at hhostId hboot hsensorId hpid hstart hseq hentityEq hrecordEq
  simp only [contextOf, List.forall_mem_cons] at hsame
  rw [h.endpoint_eq] at hsame
  obtain ⟨v, hv, hvdigest⟩ :=
    PyVal.find?_of_pyEq_dict (k := "boot_id") hsame.2.2.1 (by simp; rfl)
  refine ⟨i, ⟨⟨endpoint, subject, proof, entity, recordId, digest, h.endpoint_eq, h.subject_eq,
    h.proof_eq, hhostId, hboot, hsensorId, hseq, hpid, ?_, hentity, hrecord, hdigest, hentityEq,
    hrecordEq, ?_⟩⟩⟩
  · rw [h.ticks_eq, hstart]
  · rw [Dict.get_of_find? hv, PyVal.pyEq_str.mp hvdigest]

theorem retains_of_verifiedLinuxSubject {rt : Runtime} {context : Dict}
    (h : verifiedLinuxSubject rt context = .ok true) : ∃ i, Nonempty (Retains context i) := by
  by_cases hrebuilds : ∃ endpoint subject proof ticks,
    Rebuilds context endpoint subject proof ticks
  · obtain ⟨endpoint, subject, proof, ticks, hrebuilds⟩ := hrebuilds
    rw [verifiedLinuxSubject_of_rebuilds hrebuilds, bind_eq_ok] at h
    obtain ⟨rebuilt, hrebuilt, h⟩ := h
    cases rebuilt with
    | none => simp at h
    | some rebuilt =>
        apply retains_of_rebuilt hrebuilds hrebuilt
        simpa using h
  · simp [verifiedLinuxSubject_of_not_rebuilds hrebuilds] at h

end ResponseEngine.LinuxIdentity
