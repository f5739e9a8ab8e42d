/-
  Signing/Canonical.lean --- canonical bytes, and the error that escapes.

  Two accepted envelopes have the same signing bytes exactly when they agree on
  everything a signature covers (`signingInput_canonical`).  One exception is not
  turned into `UnsignableCommand`: the host id and the path of a target are never
  checked for lone surrogates before they are encoded (`signingInput_closed_iff`).
-/
import ResponseEngine.Signing.Envelope

set_option autoImplicit false

namespace ResponseEngine.Signing

open ResponseEngine.Foundation ResponseEngine.Python ResponseEngine.Python.Pydantic
open ResponseEngine.Contract

variable {rt : Runtime}

/-! ## What two envelopes agree on -/

/-- The envelopes agree on everything a signature covers. -/
structure Agree (rt : Runtime) (c₁ c₂ : Dict) : Prop where
  scalars : ∀ name ∈ (["schema_version", "command_id", "correlation_id", "agent_id", "host_id",
    "action"] : List String), Dict.get c₁ name = Dict.get c₂ name
  created : epochSeconds rt (Dict.get c₁ "created_at") = epochSeconds rt (Dict.get c₂ "created_at")
  expires : epochSeconds rt (Dict.get c₁ "expires_at") = epochSeconds rt (Dict.get c₂ "expires_at")
  target : ∃ d₁ d₂, targetOf c₁ = .ok d₁ ∧ targetOf c₂ = .ok d₂ ∧ Dict.Same d₁ d₂

/-- The wire form of a target determines it. -/
theorem toDict_inj {s t : ClosedTarget} (h : Dict.Same s.toDict t.toDict) : s = t := by
  have hpid := (unsigned_pid .sample (Dict.Same.refl s.toDict)).symm.trans (unsigned_pid .sample h)
  have hticks := (unsigned_startTimeTicks .sample (Dict.Same.refl s.toDict)).symm.trans
    (unsigned_startTimeTicks .sample h)
  have hboot := (getD_bootId (Dict.Same.refl s.toDict)).symm.trans (getD_bootId h)
  have hpath := (getD_path (Dict.Same.refl s.toDict)).symm.trans (getD_path h)
  simp only [Except.ok.injEq, Text.ofNat_inj, PyVal.str.injEq] at hpid hticks hboot hpath
  exact flatten_injective (FlatTarget.ext hpid hticks hboot hpath)

/-- Envelopes that stand for one command agree. -/
theorem agree_of_represents {c₁ c₂ : Dict} {s : SignedCommand} (h₁ : Represents rt c₁ s)
    (h₂ : Represents rt c₂ s) : Agree rt c₁ c₂ := by
  obtain ⟨d₁, htarget₁, hsame₁⟩ := h₁.target_eq
  obtain ⟨d₂, htarget₂, hsame₂⟩ := h₂.target_eq
  refine ⟨?_, h₁.created_eq.trans h₂.created_eq.symm, h₁.expires_eq.trans h₂.expires_eq.symm, d₁,
    d₂, htarget₁, htarget₂, hsame₁.trans hsame₂.symm⟩
  simp only [List.forall_mem_cons, List.not_mem_nil, false_imp_iff, implies_true, and_true]
  exact ⟨h₁.version_eq.trans h₂.version_eq.symm, h₁.commandId_eq.trans h₂.commandId_eq.symm,
    h₁.correlationId_eq.trans h₂.correlationId_eq.symm, h₁.agentId_eq.trans h₂.agentId_eq.symm,
    h₁.host_eq.trans h₂.host_eq.symm, h₁.action_eq.trans h₂.action_eq.symm⟩

/-- Envelopes that agree stand for one command. -/
theorem eq_of_agree {c₁ c₂ : Dict} {s t : SignedCommand} (h₁ : Represents rt c₁ s)
    (h₂ : Represents rt c₂ t) (h : Agree rt c₁ c₂) : s = t := by
  have hscalars := h.scalars
  simp only [List.forall_mem_cons, List.not_mem_nil, false_imp_iff, implies_true, and_true,
    h₁.version_eq, h₂.version_eq, h₁.commandId_eq, h₂.commandId_eq, h₁.correlationId_eq,
    h₂.correlationId_eq, h₁.agentId_eq, h₂.agentId_eq, h₁.host_eq, h₂.host_eq, h₁.action_eq,
    h₂.action_eq, PyVal.str.injEq, Text.ofString_inj] at hscalars
  obtain ⟨hversion, hcommand, hcorrelation, hagent, hhost, haction⟩ := hscalars
  have hcreated := h.created
  have hexpires := h.expires
  rw [h₁.created_eq, h₂.created_eq, Except.ok.injEq, Int.ofNat_inj] at hcreated
  rw [h₁.expires_eq, h₂.expires_eq, Except.ok.injEq, Int.ofNat_inj] at hexpires
  obtain ⟨d₁, d₂, htarget₁, htarget₂, hsame⟩ := h.target
  obtain ⟨e₁, he₁, hsame₁⟩ := h₁.target_eq
  obtain ⟨e₂, he₂, hsame₂⟩ := h₂.target_eq
  obtain rfl : d₁ = e₁ := Except.ok.inj (htarget₁.symm.trans he₁)
  obtain rfl : d₂ = e₂ := Except.ok.inj (htarget₂.symm.trans he₂)
  have htarget := toDict_inj (hsame₁.symm.trans (hsame.trans hsame₂))
  exact SignedCommand.ext (Vocabulary.text_injective hversion) hcommand hcorrelation hagent hhost
    (Vocabulary.text_injective haction) hcreated hexpires htarget

/-! ## Key order and the authorization entry -/

/-- The envelopes have the same entries, `authorization` aside. -/
def SameButAuthorization (c₁ c₂ : Dict) : Prop :=
  ∀ k : Key, k ≠ "authorization" → Dict.find? c₁ k = Dict.find? c₂ k

theorem isClosed_iff {command : Dict} :
    isClosed command = true ↔
      (∀ k ∈ required, Dict.contains command k = true) ∧
        ∀ k : Key, k ≠ "authorization" → Dict.contains command k = true → k ∈ required := by
  simp only [isClosed, Bool.and_eq_true, List.all_eq_true, Dict.mem_keys_iff, Bool.or_eq_true,
    decide_eq_true_eq]
  refine and_congr_right fun _ => forall_congr' fun k => ?_
  tauto

theorem isClosed_congr {c₁ c₂ : Dict} (h : SameButAuthorization c₁ c₂) :
    isClosed c₁ = isClosed c₂ := by
  have hcontains : ∀ k : Key, k ≠ "authorization" → Dict.contains c₁ k = Dict.contains c₂ k := by
    intro k hk
    rw [Dict.contains, Dict.contains, h k hk]
  have hrequired : ∀ k ∈ required, k ≠ "authorization" := by
    rintro k hk rfl
    simp [required] at hk
  rw [Bool.eq_iff_iff, isClosed_iff, isClosed_iff]
  refine and_congr (forall₂_congr fun k hk => ?_) (forall₂_congr fun k hk => ?_)
  · rw [hcontains k (hrequired k hk)]
  · rw [hcontains k hk]

/-- Nothing that is signed depends on the order of the entries, nor on an
authorization. -/
theorem signingInput_congr {c₁ c₂ : Dict} (h : SameButAuthorization c₁ c₂) :
    signingInput rt (.dict c₁) = signingInput rt (.dict c₂) := by
  have hitem : ∀ name : String, (name : Key) ≠ "authorization" →
      Dict.getItem c₁ name = Dict.getItem c₂ name := by
    intro name hname
    rw [Dict.getItem, Dict.getItem, h _ hname]
  have hentries : Dict.Same (commandEntries c₁) (commandEntries c₂) := by
    intro k
    rw [find?_commandEntries, find?_commandEntries]
    split_ifs with hk
    · rfl
    · refine h k ?_
      rintro rfl
      simp at hk
  have htarget : targetOf c₁ = targetOf c₂ := by
    rw [targetOf, targetOf, Dict.get, Dict.get, h _ (by simp)]
  have hcontains : Dict.contains c₁ "created_at" = Dict.contains c₂ "created_at" := by
    rw [Dict.contains, Dict.contains, h _ (by simp)]
  simp only [signingInput, isClosed_congr h, envelopeBytes, hitem "host_id" (by simp),
    Command.modelValidate_congr hentries, htarget, signedFields, hcontains,
    hitem "schema_version" (by simp), hitem "command_id" (by simp),
    hitem "correlation_id" (by simp), hitem "agent_id" (by simp), hitem "action" (by simp),
    hitem "created_at" (by simp), hitem "expires_at" (by simp)]

theorem notUnsignable_ok {α : Type} {x : Except PyError α} {a : α} (h : x = .ok a) :
    NotUnsignable x := by
  rintro message rfl
  simp at h

/-- An accepted envelope stands for a command, and its bytes are that command's. -/
theorem exists_represents_of_ok {command : Dict} {bytes : List UInt8}
    (h : signingInput rt (.dict command) = .ok bytes) :
    ∃ s, Represents rt command s ∧ s.encode? = some bytes := by
  obtain ⟨_, hcommand, hcomplete⟩ := complete_of_notUnsignable (notUnsignable_ok h)
  obtain rfl := PyVal.dict.inj hcommand
  obtain ⟨s, hs⟩ := hcomplete.represents
  exact ⟨s, hs, ((signingInput_refines hs).1 bytes).mp h⟩

/-- **Canonical bytes.**  Accepted envelopes have the same bytes exactly when they agree
on everything a signature covers; the order of the entries and the authorization
never matter. -/
theorem signingInput_canonical (rt : Runtime) (c₁ c₂ : Dict) :
    (∀ b₁ b₂, signingInput rt (.dict c₁) = .ok b₁ → signingInput rt (.dict c₂) = .ok b₂ →
      (b₁ = b₂ ↔ Agree rt c₁ c₂)) ∧
    (SameButAuthorization c₁ c₂ → signingInput rt (.dict c₁) = signingInput rt (.dict c₂)) := by
  refine ⟨fun b₁ b₂ h₁ h₂ => ?_, signingInput_congr⟩
  obtain ⟨s, hs, hencode₁⟩ := exists_represents_of_ok h₁
  obtain ⟨t, ht, hencode₂⟩ := exists_represents_of_ok h₂
  constructor
  · rintro rfl
    obtain rfl := SignedCommand.encode?_inj hencode₁ hencode₂
    exact agree_of_represents hs ht
  · intro hagree
    obtain rfl := eq_of_agree hs ht hagree
    exact Option.some.inj (hencode₁.symm.trans hencode₂)

/-- The entries of an envelope, `authorization` aside. -/
def sampleEntries (hostId version action createdAt : Text) (target : Dict) : Dict :=
  [("schema_version", .str version), ("command_id", .str "command-1"),
    ("correlation_id", .str "correlation-1"), ("agent_id", .str "agent-1"),
    ("host_id", .str hostId), ("action", .str action), ("created_at", .str createdAt),
    ("expires_at", .str sampleTime), ("target", .dict target)]

theorem targetOf_sampleEntries (hostId version action createdAt : Text) (target : Dict) :
    targetOf (sampleEntries hostId version action createdAt target) = .ok target :=
  targetOf_of_dict (by simp [sampleEntries])

/-- An envelope that isolates a host. -/
def sampleEnvelope (hostId : Text) (authorization : Dict) : Dict :=
  ("authorization", .dict authorization) ::
    sampleEntries hostId "1" "ISOLATE_HOST" sampleTime []

/-- An envelope that kills a process of one boot. -/
def processEnvelope (pid : Int) : Dict :=
  sampleEntries "host-1" "2" "KILL_PROCESS" sampleTime
    [("pid", .int pid), ("start_time_ticks", .str "5"),
      ("boot_id", .str (Text.ofString "boot_" ++ List.replicate 64 (.scalar '0')))]

/-- An envelope that quarantines a file. -/
def fileEnvelope (createdAt : Text) : Dict :=
  sampleEntries "host-1" "1" "QUARANTINE_FILE" createdAt [("path", .str "/tmp/sample")]

/-- Another process has other bytes; another spelling of a time has the same, and so has an
envelope with another authorization. -/
theorem signingInput_canonical_sample :
    (∃ b₁ b₂, signingInput .sample (.dict (processEnvelope 41)) = .ok b₁ ∧
      signingInput .sample (.dict (processEnvelope 42)) = .ok b₂ ∧ b₁ ≠ b₂) ∧
    (∃ b₁ b₂, signingInput .sample (.dict (fileEnvelope sampleTime)) = .ok b₁ ∧
      signingInput .sample (.dict (fileEnvelope "2023-11-14T22:13:20Z")) = .ok b₂ ∧ b₁ = b₂) ∧
    signingInput .sample (.dict (sampleEnvelope "host-1" [])) =
      signingInput .sample (.dict (sampleEnvelope "host-1" [("key_id", .str "k")])) := by
  refine ⟨?_, ?_, ?_⟩
  · obtain ⟨b₁, h₁⟩ := exists_eq_ok (x := signingInput .sample (.dict (processEnvelope 41)))
      (by decide +kernel)
    obtain ⟨b₂, h₂⟩ := exists_eq_ok (x := signingInput .sample (.dict (processEnvelope 42)))
      (by decide +kernel)
    refine ⟨b₁, b₂, h₁, h₂, fun hequal => ?_⟩
    obtain ⟨d₁, d₂, htarget₁, htarget₂, hsame⟩ :=
      (((signingInput_canonical .sample _ _).1 b₁ b₂ h₁ h₂).mp hequal).target
    obtain rfl := Except.ok.inj ((targetOf_sampleEntries _ _ _ _ _).symm.trans htarget₁)
    obtain rfl := Except.ok.inj ((targetOf_sampleEntries _ _ _ _ _).symm.trans htarget₂)
    have hpid : (41 : ℤ) = 42 := PyVal.int.inj (Option.some.inj (hsame "pid"))
    exact absurd hpid (by decide)
  · obtain ⟨b₁, h₁⟩ := exists_eq_ok (x := signingInput .sample (.dict (fileEnvelope sampleTime)))
      (by decide +kernel)
    obtain ⟨b₂, h₂⟩ := exists_eq_ok
      (x := signingInput .sample (.dict (fileEnvelope "2023-11-14T22:13:20Z"))) (by decide +kernel)
    refine ⟨b₁, b₂, h₁, h₂, ((signingInput_canonical .sample _ _).1 b₁ b₂ h₁ h₂).mpr ?_⟩
    refine ⟨?_, by decide +kernel, ?_, _, _, targetOf_sampleEntries _ _ _ _ _,
      targetOf_sampleEntries _ _ _ _ _, Dict.Same.refl _⟩
    · simp [fileEnvelope, sampleEntries]
    · simp [fileEnvelope, sampleEntries]
  · refine (signingInput_canonical .sample _ _).2 fun k hk => ?_
    simp [sampleEnvelope, hk]

/-! ## The error that escapes -/

/-- A text that is signed without having been checked holds a lone surrogate. -/
def HasLoneSurrogate (command : Dict) : Prop :=
  ∃ t : Text, ¬ t.Encodable ∧
    (Dict.get command "host_id" = .str t ∨ (Dict.get command "target").field "path" = .str t)

/-- A target that is not empty is the envelope's own dict. -/
theorem targetOf_eq_ok {command d : Dict} (h : targetOf command = .ok d) :
    Dict.get command "target" = .dict d ∨
      d = [] ∧ (Dict.get command "target").truthy = false := by
  simp only [targetOf] at h
  split at h
  · split at h
    · rename_i items hitems
      exact .inl (hitems.trans (congrArg PyVal.dict (Except.ok.inj h)))
    · simp [unsignable] at h
  · rename_i hfalsy
    exact .inr ⟨(Except.ok.inj h).symm, by simpa using hfalsy⟩

/-- A falsy target has no entries. -/
theorem field_of_not_truthy {v : PyVal} (h : v.truthy = false) (k : Key) : v.field k = .none := by
  cases v with
  | dict items =>
      obtain rfl : items = [] := by simpa [PyVal.truthy] using h
      rfl
  | _ => rfl

/-- The path that is signed is the one in the envelope's target. -/
theorem path_of_represents {command : Dict} {s : SignedCommand} (h : Represents rt command s) :
    (flatten s.target).path = [] ∧ (Dict.get command "target").field "path" = .none ∨
      (Dict.get command "target").field "path" = .str (flatten s.target).path := by
  obtain ⟨d, htarget, hsame⟩ := h.target_eq
  have hpath := getD_path hsame
  rw [Dict.getD] at hpath
  rcases targetOf_eq_ok htarget with htarget | ⟨rfl, hfalsy⟩
  · rw [htarget, PyVal.field_dict]
    cases hfind : Dict.find? d "path" with
    | none =>
        rw [hfind] at hpath
        exact .inl ⟨(PyVal.str.inj hpath).symm, by rw [Dict.get, hfind]; rfl⟩
    | some v =>
        rw [hfind] at hpath
        exact .inr ((Dict.get_of_find? hfind).trans hpath)
  · exact .inl ⟨(PyVal.str.inj hpath).symm, field_of_not_truthy hfalsy _⟩

/-- The boot of a closed target is encodable. -/
theorem encodable_bootId (t : ClosedTarget) : (flatten t).bootId.Encodable := by
  cases t with
  | bootProcess t => exact encodable_of_isBootId t.boot_shape
  | _ => exact Text.encodable_ofChars []

/-- A represented command has an encoding unless one of the two unchecked texts has
none. -/
theorem encode?_eq_none_iff {command : Dict} {s : SignedCommand} (h : Represents rt command s) :
    s.encode? = none ↔ HasLoneSurrogate command := by
  obtain ⟨hcommand, hcorrelation, hagent⟩ := h.encodable_identifiers
  have hcontents : (∀ t ∈ s.contents, t.Encodable) ↔
      s.hostId.Encodable ∧ (flatten s.target).path.Encodable := by
    simp [SignedCommand.contents, hcommand, hcorrelation, hagent, encodable_bootId]
  rw [SignedCommand.encode?, Option.map_eq_none_iff, ← Option.not_isSome_iff_eq_none,
    Text.utf8All?_isSome, hcontents, not_and_or]
  constructor
  · rintro (hhost | hpath)
    · exact ⟨s.hostId, hhost, .inl h.host_eq⟩
    · rcases path_of_represents h with ⟨hnil, _⟩ | hfield
      · rw [hnil] at hpath
        exact absurd (Text.encodable_ofChars []) hpath
      · exact ⟨_, hpath, .inr hfield⟩
  · rintro ⟨t, ht, hhost | hpath⟩
    · obtain rfl : s.hostId = t := PyVal.str.inj (h.host_eq.symm.trans hhost)
      exact .inl ht
    · rcases path_of_represents h with ⟨_, hnone⟩ | hfield
      · rw [hnone] at hpath
        simp at hpath
      · obtain rfl := PyVal.str.inj (hfield.symm.trans hpath)
        exact .inr ht

/-- **The closed exception set.**  A value is signed or refused with
`UnsignableCommand`, unless it is an envelope that passes every check and hides a
lone surrogate in its host id or in the path of its target. -/
theorem signingInput_closed_iff (rt : Runtime) (v : PyVal) :
    ((∃ bytes, signingInput rt v = .ok bytes) ∨
      ∃ message, signingInput rt v = .error (.unsignableCommand message)) ↔
    ¬ ∃ command, v = .dict command ∧ Complete rt command ∧ HasLoneSurrogate command := by
  constructor
  · rintro h ⟨command, rfl, hcomplete, hsurrogate⟩
    obtain ⟨s, hs⟩ := hcomplete.represents
    obtain ⟨t, ht⟩ := (signingInput_refines hs).2 ((encode?_eq_none_iff hs).mpr hsurrogate)
    rw [ht] at h
    simp at h
  · intro h
    by_cases hrefused : ∃ message, signingInput rt v = .error (.unsignableCommand message)
    · exact .inr hrefused
    · obtain ⟨command, rfl, hcomplete⟩ :=
        complete_of_notUnsignable (fun message hm => hrefused ⟨message, hm⟩)
      obtain ⟨s, hs⟩ := hcomplete.represents
      cases hencode : s.encode? with
      | some bytes => exact .inl ⟨bytes, ((signingInput_refines hs).1 bytes).mpr hencode⟩
      | none => exact absurd ⟨command, rfl, hcomplete, (encode?_eq_none_iff hs).mp hencode⟩ h

/-- An envelope whose host id is a lone surrogate raises the encoding error. -/
theorem signingInput_open_at_surrogate :
    ¬ ((∃ bytes, signingInput .sample (.dict (sampleEnvelope [.surrogate 0] [])) = .ok bytes) ∨
      ∃ message, signingInput .sample (.dict (sampleEnvelope [.surrogate 0] [])) =
        .error (.unsignableCommand message)) := by
  have hescapes : signingInput .sample (.dict (sampleEnvelope [.surrogate 0] [])) =
      .error (.unicodeEncodeError [.surrogate 0]) := by
    decide +kernel
  rw [hescapes]
  simp

end ResponseEngine.Signing
