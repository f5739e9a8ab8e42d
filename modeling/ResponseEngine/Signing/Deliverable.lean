/-
  Signing/Deliverable.lean --- every command that the contract accepts can be signed.

  The signer derives the schema version and the target's fields by rules of its own.
  On the accepted commands they coincide with the contract's: past validation,
  nothing but an encoding error is left to happen.
-/
import ResponseEngine.Signing.Canonical

set_option autoImplicit false

namespace ResponseEngine.Signing

open ResponseEngine.Foundation ResponseEngine.Python ResponseEngine.Python.Pydantic
open ResponseEngine.Contract

variable {rt : Runtime}

/-- An envelope has exactly the required entries, with or without an authorization. -/
structure HasEntries (command : Dict) : Prop where
  required : ∀ k ∈ required, Dict.contains command k = true
  closed : ∀ k : Key, k ≠ "authorization" → Dict.contains command k = true → k ∈ Signing.required

theorem hasEntries_iff {command : Dict} : HasEntries command ↔ isClosed command = true := by
  rw [isClosed_iff]
  exact ⟨fun h => ⟨h.required, h.closed⟩, fun h => ⟨h.1, h.2⟩⟩

/-- A contract-valid command in an envelope. -/
structure ContractValid (rt : Runtime) (command : Dict) : Prop where
  entries : HasEntries command
  /-- the host id is an encodable text of 1 to 128 characters -/
  host : ∃ t : Text, Dict.get command "host_id" = .str t ∧ 1 ≤ t.length ∧ t.length ≤ 128 ∧
    t.Encodable
  /-- the other entries are accepted by `Command` -/
  accepted : ∃ c, Command.modelValidate rt (commandEntries command) = .ok c
  /-- the identifiers are plain strings -/
  texts : ∀ name ∈ (["command_id", "correlation_id", "agent_id"] : List String),
    ∃ t : Text, Dict.get command name = .str t ∧ t.Encodable
  /-- the target is a dict, and its path is encodable -/
  target : ∃ d, Dict.get command "target" = .dict d ∧
    ∀ t, Dict.get d "path" = .str t → t.Encodable
  created : ∃ (t : Text) (n : Int), Dict.get command "created_at" = .str t ∧
    epochSeconds rt (.str t) = .ok n
  expires : ∃ (t : Text) (n : Int), Dict.get command "expires_at" = .str t ∧
    epochSeconds rt (.str t) = .ok n

/-- A contract-valid command passes every check of the signer. -/
theorem ContractValid.complete {command : Dict} (h : ContractValid rt command) :
    Complete rt command := by
  obtain ⟨host, hhost, hpos, hle, _⟩ := h.host
  obtain ⟨target, htarget, _⟩ := h.target
  obtain ⟨created, n, hcreated, hn⟩ := h.created
  obtain ⟨expires, m, hexpires, hm⟩ := h.expires
  exact
    { closed := hasEntries_iff.mp h.entries
      host := isHostId_iff.mpr ⟨host, hhost, hpos, hle⟩
      valid := h.accepted
      target := ⟨target, targetOf_of_dict htarget⟩
      created := ⟨n, hcreated ▸ hn⟩
      expires := ⟨m, hexpires ▸ hm⟩
      identifiers := fun name hname => (h.texts name hname).imp fun _ ht => ht.1 }

/-- What the signer derives from an accepted target. -/
structure Derives (rt : Runtime) (command target : Dict) (bootId path pid ticks : Text) :
    Prop where
  boot_eq : Dict.getD target "boot_id" (.str []) = .str bootId
  path_eq : Dict.getD target "path" (.str []) = .str path
  version_eq : Dict.get command "schema_version" = .str (if bootId.isEmpty then "1" else "2")
  pid_eq : unsigned rt target "pid" = .ok pid
  ticks_eq : unsigned rt target "start_time_ticks" = .ok ticks

/-- Once the contract has accepted the target, no later check refuses it. -/
theorem exists_derives {command target : Dict} {c : Command} (hentries : HasEntries command)
    (hvalid : Command.modelValidate rt (commandEntries command) = .ok c)
    (htarget : Dict.get command "target" = .dict target) :
    ∃ bootId path pid ticks, Derives rt command target bootId path pid ticks := by
  have v := (Command.modelValidate_eq_ok.mp hvalid).2
  have hclosed := hasEntries_iff.mp hentries
  obtain ⟨t, hfits, hsame⟩ := exists_closedTarget hclosed v (targetOf_of_dict htarget)
  have hversion := Vocabulary.literal_eq_some_iff.mp
    (parsed_of_optional hclosed (by simp [required]) (by simp) v.schemaVersion)
  refine ⟨_, _, _, _, getD_bootId hsame, getD_path hsame, ?_, unsigned_pid rt hsame,
    unsigned_startTimeTicks rt hsame⟩
  rw [hversion, version_value_eq hfits]
  rfl

/-- A contract-valid command is signed. -/
theorem exists_signingInput_of_contractValid {command : Dict} (h : ContractValid rt command) :
    ∃ bytes, signingInput rt (.dict command) = .ok bytes := by
  obtain ⟨s, hs⟩ := h.complete.represents
  cases hencode : s.encode? with
  | some bytes => exact ⟨bytes, ((signingInput_refines hs).1 bytes).mpr hencode⟩
  | none =>
      obtain ⟨t, ht, hhost | hpath⟩ := (encode?_eq_none_iff hs).mp hencode
      · obtain ⟨host, heq, _, _, hencodable⟩ := h.host
        obtain rfl := PyVal.str.inj (heq.symm.trans hhost)
        exact absurd hencodable ht
      · obtain ⟨d, htarget, hencodable⟩ := h.target
        rw [htarget, PyVal.field_dict] at hpath
        exact absurd (hencodable t hpath) ht

/-- **No contract-valid command is unsignable.**  It is signed, and in particular the
checks that follow the contract's own never refuse a target that the contract took.  What
is left aside is the interpreter's limit on the digits of an integer's text, which only a
number of more than 4300 digits meets. -/
theorem signingInput_of_contractValid (rt : Runtime) :
    (∀ command, ContractValid rt command →
      ∃ bytes, signingInput rt (.dict command) = .ok bytes) ∧
    ∀ (command target : Dict) (c : Command), HasEntries command →
      Command.modelValidate rt (commandEntries command) = .ok c →
      Dict.get command "target" = .dict target →
      ∃ bootId path pid ticks, Derives rt command target bootId path pid ticks :=
  ⟨fun _ h => exists_signingInput_of_contractValid h, fun _ _ _ => exists_derives⟩

theorem contractValid_sampleEntries {version action : Text} {target : Dict}
    (haccepted : ∃ c, Command.modelValidate .sample
      (commandEntries (sampleEntries "host-1" version action sampleTime target)) = .ok c)
    (hpath : ∀ t, Dict.get target "path" = .str t → t.Encodable) :
    ContractValid .sample (sampleEntries "host-1" version action sampleTime target) where
  entries := hasEntries_iff.mpr (by
    simp [isClosed, sampleEntries, required, Dict.keys, Dict.contains])
  host := ⟨"host-1", by simp [sampleEntries], by decide, by decide, by decide⟩
  accepted := haccepted
  texts := by
    simp only [List.forall_mem_cons, List.not_mem_nil, false_imp_iff, implies_true, and_true]
    exact ⟨⟨"command-1", by simp [sampleEntries], by decide⟩,
      ⟨"correlation-1", by simp [sampleEntries], by decide⟩,
      ⟨"agent-1", by simp [sampleEntries], by decide⟩⟩
  target := ⟨target, by simp [sampleEntries], hpath⟩
  created := ⟨sampleTime, 1700000000, by simp [sampleEntries], by decide +kernel⟩
  expires := ⟨sampleTime, 1700000000, by simp [sampleEntries], by decide +kernel⟩

/-- Commands on a host, on a process of one boot and on a file. -/
theorem signingInput_of_contractValid_sample :
    (∃ bytes, signingInput .sample
      (.dict (sampleEntries "host-1" "1" "ISOLATE_HOST" sampleTime [])) = .ok bytes) ∧
    (∃ bytes, signingInput .sample (.dict (processEnvelope 42)) = .ok bytes) ∧
    ∃ bytes, signingInput .sample (.dict (fileEnvelope sampleTime)) = .ok bytes := by
  have hsigned := (signingInput_of_contractValid .sample).1
  refine ⟨hsigned _ (contractValid_sampleEntries ?_ ?_),
    hsigned _ (contractValid_sampleEntries ?_ ?_), hsigned _ (contractValid_sampleEntries ?_ ?_)⟩
  · exact exists_eq_ok (by decide +kernel)
  · intro t ht
    simp at ht
  · exact exists_eq_ok (by decide +kernel)
  · intro t ht
    simp at ht
  · exact exists_eq_ok (by decide +kernel)
  · intro t ht
    obtain rfl : ("/tmp/sample" : Text) = t := PyVal.str.inj ht
    decide

end ResponseEngine.Signing
