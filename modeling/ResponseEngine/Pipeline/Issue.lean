/-
  Pipeline/Issue.lean --- from a translation to the signed bytes of its command.

  A translation that the contract accepts becomes an envelope with the consumer's ids
  and times, and the envelope is signed, unless the path in it has no encoding: neither
  the translator nor the contract looks for lone surrogates.  The bytes cover the
  translation: what they were made from has the same ids, the same action and the same
  target (`issued_signed`).
-/
import ResponseEngine.Recommendation.Translation
import ResponseEngine.Signing.Deliverable

set_option autoImplicit false

namespace ResponseEngine.Pipeline

open ResponseEngine.Foundation ResponseEngine.Python ResponseEngine.Python.Pydantic
open ResponseEngine.Contract ResponseEngine.Recommendation ResponseEngine.Signing

/-! ## The envelope -/

/-- What a consumer adds to a translation. -/
@[ext] structure Particulars where
  commandId : Text
  correlationId : Text
  agentId : Text
  hostId : Text
  createdAt : Text
  expiresAt : Text

/-- The signed envelope of a translation, without its authorization. -/
def envelopeOf (p : Particulars) (tr : Translation) : Dict :=
  [("schema_version", .str (commandSchema tr.target).value), ("command_id", .str p.commandId),
    ("correlation_id", .str p.correlationId), ("agent_id", .str p.agentId),
    ("host_id", .str p.hostId), ("action", .str tr.action), ("created_at", .str p.createdAt),
    ("expires_at", .str p.expiresAt), ("target", .dict tr.target)]

/-- Ids that are names, and times that are moments. -/
structure Particulars.Valid (rt : Runtime) (p : Particulars) : Prop where
  named : ∀ t ∈ [p.commandId, p.correlationId, p.agentId, p.hostId], boundedText 1 128 t = true
  created : ∃ n, epochSeconds rt (.str p.createdAt) = .ok n
  expires : ∃ n, epochSeconds rt (.str p.expiresAt) = .ok n
  aware : ∃ moment, rt.laxDatetime (.str p.expiresAt) = some moment ∧ moment.utcoffset.isSome = true

variable {rt : Runtime} {p : Particulars} {tr : Translation}

/-- The signer takes a valid host id, and encodes it. -/
theorem Particulars.Valid.host (h : p.Valid rt) :
    p.hostId.Encodable ∧ 1 ≤ p.hostId.length ∧ p.hostId.length ≤ 128 := by
  have hmem : p.hostId ∈ [p.commandId, p.correlationId, p.agentId, p.hostId] := by simp
  exact boundedText_iff.mp (h.named p.hostId hmem)

theorem isClosed_envelopeOf (p : Particulars) (tr : Translation) :
    isClosed (envelopeOf p tr) = true := by
  simp [isClosed, envelopeOf, Signing.required, Dict.keys, Dict.contains]

/-- The command part of the envelope has no entry but the command's fields. -/
theorem closed_commandEntries_envelopeOf (p : Particulars) (tr : Translation) :
    closed (commandEntries (envelopeOf p tr)) Command.fields = .ok () := by
  simp [closed, commandEntries, envelopeOf, Dict.keys, raiseIf_eq_ok, Command.fields]

/-- The contract takes the command part of the envelope. -/
theorem exists_modelValidate_envelopeOf (hvalid : p.Valid rt) (haccepted : Accepted rt tr) :
    ∃ c, Command.modelValidate rt (commandEntries (envelopeOf p tr)) = .ok c := by
  obtain ⟨action, target, haction, htarget, henforced⟩ := haccepted
  obtain ⟨moment, hmoment, haware⟩ := hvalid.aware
  have hnamed := hvalid.named
  simp only [List.forall_mem_cons, List.not_mem_nil, false_imp_iff, implies_true, and_true]
    at hnamed
  obtain ⟨hcommand, hcorrelation, hagent, _⟩ := hnamed
  have hentry {name : String} {v : PyVal} (hk : (name : Key) ∈ Signing.required)
      (hkept : (name : Key) ∉ (["host_id", "created_at", "authorization"] : List Key))
      (hv : Dict.get (envelopeOf p tr) name = v) :
      Dict.find? (commandEntries (envelopeOf p tr)) name = some v := by
    rw [find?_of_isClosed (isClosed_envelopeOf p tr) hk hkept, hv]
  refine ⟨⟨p.commandId, commandSchema tr.target, p.agentId, action, moment, target,
    p.correlationId⟩, Command.modelValidate_eq_ok.mpr
      ⟨closed_commandEntries_envelopeOf p tr, ?_⟩⟩
  constructor
  · exact required_eq_ok.mpr ⟨_, hentry (by decide) (by decide) rfl, laxStr_of_bounded hcommand⟩
  · exact (optional_eq_ok_of_find? (hentry (by decide) (by decide) rfl)).mpr
      (Vocabulary.literal_eq_some_iff.mpr rfl)
  · exact required_eq_ok.mpr ⟨_, hentry (by decide) (by decide) rfl, laxStr_of_bounded hagent⟩
  · exact required_eq_ok.mpr ⟨_, hentry (by decide) (by decide) rfl, haction⟩
  · exact required_eq_ok.mpr ⟨_, hentry (by decide) (by decide) rfl, hmoment⟩
  · exact (optional_eq_ok_of_find? (hentry (by decide) (by decide) rfl)).mpr htarget
  · exact (optional_eq_ok_of_find? (hentry (by decide) (by decide) rfl)).mpr
      (laxStr_of_bounded hcorrelation)
  · exact henforced _ _ _ _ hcommand hagent hcorrelation haware

/-! ## Signing -/

/-- A translation that is issued: the contract takes it, and the consumer's ids and times are
valid. -/
structure Issued (rt : Runtime) (p : Particulars) (tr : Translation) : Prop where
  valid : p.Valid rt
  accepted : Accepted rt tr

/-- The path of a target, if it has one, has an encoding. -/
def EncodablePath (tr : Translation) : Prop :=
  ∀ t, Dict.get tr.target "path" = .str t → t.Encodable

/-- What is issued passes every check of the signer. -/
theorem Issued.complete (h : Issued rt p tr) : Complete rt (envelopeOf p tr) := by
  obtain ⟨_, hpos, hle⟩ := h.valid.host
  exact
    { closed := isClosed_envelopeOf p tr
      host := isHostId_iff.mpr ⟨p.hostId, rfl, hpos, hle⟩
      valid := exists_modelValidate_envelopeOf h.valid h.accepted
      target := ⟨tr.target, targetOf_of_dict rfl⟩
      created := h.valid.created
      expires := h.valid.expires
      identifiers := by
        simp only [List.forall_mem_cons, List.not_mem_nil, false_imp_iff, implies_true, and_true]
        exact ⟨⟨_, rfl⟩, ⟨_, rfl⟩, ⟨_, rfl⟩⟩ }

/-- Of the two texts that are signed unchecked, the host id of an issued command is encodable. -/
theorem Issued.hasLoneSurrogate_iff (h : Issued rt p tr) :
    HasLoneSurrogate (envelopeOf p tr) ↔ ¬ EncodablePath tr := by
  obtain ⟨hhost, _⟩ := h.valid.host
  constructor
  · intro hsurrogate hpath
    obtain ⟨t, ht, hhostId | hfield⟩ := hsurrogate
    · have heq : PyVal.str p.hostId = .str t := hhostId
      exact ht (PyVal.str.inj heq ▸ hhost)
    · exact ht (hpath t hfield)
  · intro hpath
    obtain ⟨t, ht⟩ := not_forall.mp hpath
    obtain ⟨hfield, hnot⟩ := Classical.not_imp.mp ht
    exact ⟨t, hnot, .inr hfield⟩

/-- What is issued is signed where its path has an encoding, and raises the encoding error where
it has none. -/
theorem Issued.signed (h : Issued rt p tr) :
    ((∃ bytes, signingInput rt (.dict (envelopeOf p tr)) = .ok bytes) ↔ EncodablePath tr) ∧
      (¬ EncodablePath tr →
        ∃ t, signingInput rt (.dict (envelopeOf p tr)) = .error (.unicodeEncodeError t)) := by
  obtain ⟨s, hs⟩ := h.complete.represents
  have hnone : s.encode? = none ↔ ¬ EncodablePath tr :=
    (encode?_eq_none_iff hs).trans h.hasLoneSurrogate_iff
  refine ⟨?_, fun hpath => (signingInput_refines hs).2 (hnone.mpr hpath)⟩
  simp only [(signingInput_refines hs).1]
  rw [← Option.isSome_iff_exists, ← not_iff_not, ← hnone, Option.not_isSome_iff_eq_none]

/-- What stands for an envelope stands for the translation in it. -/
theorem target_of_represents {s : SignedCommand} (h : Represents rt (envelopeOf p tr) s) :
    Dict.Same tr.target s.target.toDict := by
  obtain ⟨d, hd, hsame⟩ := h.target_eq
  have htarget : targetOf (envelopeOf p tr) = .ok tr.target := targetOf_of_dict rfl
  rw [htarget] at hd
  exact Except.ok.inj hd ▸ hsame

/-- The times of two envelopes denote the same seconds. -/
def SameTimes (rt : Runtime) (p q : Particulars) : Prop :=
  epochSeconds rt (.str p.createdAt) = epochSeconds rt (.str q.createdAt) ∧
    epochSeconds rt (.str p.expiresAt) = epochSeconds rt (.str q.expiresAt)

/-- **From a translation to a signature.**  What is issued is signed exactly where its path has an
encoding, and else raises the encoding error; and what is signed to the same bytes is the same
action on the same target, for the same host and agent, under the same ids and at the same times.
The interpreter's limit on the digits of an integer's text is left aside, as for the signer. -/
theorem issued_signed (h : Issued rt p tr) :
    ((∃ bytes, signingInput rt (.dict (envelopeOf p tr)) = .ok bytes) ↔ EncodablePath tr) ∧
    (¬ EncodablePath tr →
      ∃ t, signingInput rt (.dict (envelopeOf p tr)) = .error (.unicodeEncodeError t)) ∧
    ∀ (q : Particulars) (other : Translation) (bytes : List UInt8), Issued rt q other →
      signingInput rt (.dict (envelopeOf p tr)) = .ok bytes →
      signingInput rt (.dict (envelopeOf q other)) = .ok bytes →
      tr.action = other.action ∧ Dict.Same tr.target other.target ∧
      [p.commandId, p.correlationId, p.agentId, p.hostId] =
        [q.commandId, q.correlationId, q.agentId, q.hostId] ∧ SameTimes rt p q := by
  refine ⟨h.signed.1, h.signed.2, fun q other bytes hother hbytes hbytes' => ?_⟩
  obtain ⟨s, hs⟩ := h.complete.represents
  obtain ⟨t, ht⟩ := hother.complete.represents
  have hsbytes := ((signingInput_refines hs).1 bytes).mp hbytes
  have htbytes := ((signingInput_refines ht).1 bytes).mp hbytes'
  obtain rfl : s = t := SignedCommand.encode?_inj hsbytes htbytes
  have htext {key : Key} {a b c : Text} (hp : Dict.get (envelopeOf p tr) key = .str c)
      (hq : Dict.get (envelopeOf q other) key = .str c)
      (ha : Dict.get (envelopeOf p tr) key = .str a)
      (hb : Dict.get (envelopeOf q other) key = .str b) : a = b :=
    PyVal.str.inj ((ha.symm.trans hp).trans (hq.symm.trans hb))
  refine ⟨htext hs.action_eq ht.action_eq rfl rfl, ?_, ?_, ?_, ?_⟩
  · intro k
    exact (target_of_represents hs k).trans (target_of_represents ht k).symm
  · rw [htext hs.commandId_eq ht.commandId_eq rfl rfl,
      htext hs.correlationId_eq ht.correlationId_eq rfl rfl,
      htext hs.agentId_eq ht.agentId_eq rfl rfl, htext hs.host_eq ht.host_eq rfl rfl]
  · exact hs.created_eq.trans ht.created_eq.symm
  · exact hs.expires_eq.trans ht.expires_eq.symm

/-- The ids and times of a command. -/
def sampleParticulars : Particulars where
  commandId := "command-1"
  correlationId := "correlation-1"
  agentId := "agent-1"
  hostId := "host-1"
  createdAt := sampleTime
  expiresAt := sampleTime

theorem valid_sampleParticulars : sampleParticulars.Valid .sample where
  named := by decide
  created := exists_eq_ok (by decide +kernel)
  expires := exists_eq_ok (by decide +kernel)
  aware := ⟨sampleMoment, by decide +kernel, by decide⟩

/-- The translation that quarantines a file. -/
def quarantine (path : Text) : Translation where
  action := Action.quarantineFile.value
  target := [("path", .str path)]
  reason := "direct mapping"

theorem issued_quarantine {path : Text} (hne : path ≠ []) (hle : path.length ≤ 4096) :
    Issued .sample sampleParticulars (quarantine path) :=
  ⟨valid_sampleParticulars, accepted_file_iff.mpr ⟨hne, hle⟩⟩

/-- A path of letters is signed, a lone surrogate is not, and another path has other bytes. -/
theorem issued_signed_sample :
    (∃ bytes, signingInput .sample
      (.dict (envelopeOf sampleParticulars (quarantine "/tmp/a"))) = .ok bytes ∧
        signingInput .sample (.dict (envelopeOf sampleParticulars (quarantine "/tmp/b"))) ≠
          .ok bytes) ∧
    ∃ t, signingInput .sample
      (.dict (envelopeOf sampleParticulars (quarantine [.surrogate 0]))) =
        .error (.unicodeEncodeError t) := by
  have hissued (path : Text) (hne : path ≠ []) (hle : path.length ≤ 4096) :=
    issued_signed (issued_quarantine hne hle)
  constructor
  · obtain ⟨hsigned, _, hinjective⟩ := hissued "/tmp/a" (by decide) (by decide)
    obtain ⟨bytes, hbytes⟩ := hsigned.mpr fun t ht => by
      obtain rfl : ("/tmp/a" : Text) = t := by simpa [quarantine] using ht
      decide
    refine ⟨bytes, hbytes, fun hother => ?_⟩
    obtain ⟨_, hsame, _⟩ := hinjective _ (quarantine "/tmp/b") bytes
      (issued_quarantine (by decide) (by decide)) hbytes hother
    have hpath := hsame "path"
    simp only [quarantine, Dict.find?_cons, if_true, Option.some.injEq, PyVal.str.injEq] at hpath
    exact absurd hpath (by decide)
  · obtain ⟨_, hraises, _⟩ := hissued [.surrogate 0] (by decide) (by decide)
    exact hraises fun hpath => absurd (hpath _ (by simp [quarantine]; rfl)) (by decide)

end ResponseEngine.Pipeline
