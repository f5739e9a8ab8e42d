/-
  Forensics/Delivery.lean --- whether a forensic plan can be delivered signed.

  A plan's target is taken by the command contract, so the signer has nothing left to
  refuse but the host: a forensic context may name a host by up to 256 characters,
  and a signed envelope by up to 128.
-/
import ResponseEngine.Forensics.Plan
import ResponseEngine.Signing.Deliverable

set_option autoImplicit false

namespace ResponseEngine.Forensics

open ResponseEngine.Foundation ResponseEngine.Python ResponseEngine.Python.Pydantic
open ResponseEngine.Contract ResponseEngine.Signing ResponseEngine.Triage

variable {rt : Runtime}

/-! ## Times -/

/-- The text is an RFC 3339 time in UTC at or after 1970, and the interpreter and pydantic
both read it as an aware one. -/
structure AwareUtcTime (rt : Runtime) (text : Text) where
  moment : DateTime
  offset : UtcOffset
  fromisoformat_eq : rt.fromisoformat (zuluOffset text) = some moment
  utcoffset_eq : moment.utcoffset = some offset
  utc : offset.micros = 0
  since1970 : 0 ≤ moment.wall
  validated : DateTime
  laxDatetime_eq : rt.laxDatetime (.str text) = some validated
  aware : validated.utcoffset.isSome = true

/-- Such a time has an epoch. -/
theorem AwareUtcTime.exists_epochSeconds {text : Text} (t : AwareUtcTime rt text) :
    ∃ n, epochSeconds rt (.str text) = .ok n := by
  have hinstant : 0 ≤ t.moment.replaceMicrosecondZero.instant t.offset := by
    have hwall := t.since1970
    simp only [DateTime.instant, DateTime.replaceMicrosecondZero, t.utc]
    omega
  have hseconds : 0 ≤ Double.truncate (t.moment.replaceMicrosecondZero.timestamp t.offset) := by
    refine Double.truncate_nonneg (Double.nearest_nonneg (div_nonneg ?_ (by norm_num)))
    exact_mod_cast hinstant
  refine ⟨Double.truncate (t.moment.replaceMicrosecondZero.timestamp t.offset), ?_⟩
  simp only [epochSeconds, t.fromisoformat_eq, t.utcoffset_eq]
  rw [if_neg (not_lt.mpr hseconds)]
  rfl

/-! ## The envelope -/

/-- The envelope of a plan: the command's fields, for the context's own agent and host. -/
def ForensicCollectionPlan.envelope (plan : ForensicCollectionPlan)
    (commandId correlationId createdAt expiresAt : Text) : Dict :=
  ("host_id", .str plan.request.val.context.val.hostId) :: ("created_at", .str createdAt) ::
    plan.command commandId plan.request.val.context.val.agentId correlationId (.str expiresAt)

/-- What is revalidated is the plan's command. -/
theorem commandEntries_envelope (plan : ForensicCollectionPlan)
    (commandId correlationId createdAt expiresAt : Text) :
    commandEntries (plan.envelope commandId correlationId createdAt expiresAt) =
      plan.command commandId plan.request.val.context.val.agentId correlationId
        (.str expiresAt) := by
  simp [commandEntries, ForensicCollectionPlan.envelope, ForensicCollectionPlan.command]

theorem hasEntries_envelope (plan : ForensicCollectionPlan)
    (commandId correlationId createdAt expiresAt : Text) :
    HasEntries (plan.envelope commandId correlationId createdAt expiresAt) := by
  have hkeys : (plan.envelope commandId correlationId createdAt expiresAt).map Prod.fst =
      (["host_id", "created_at", "command_id", "schema_version", "agent_id", "action",
        "expires_at", "target", "correlation_id"] : List Key) := rfl
  have hrequired : ∀ k ∈ Signing.required, k ∈
      (["host_id", "created_at", "command_id", "schema_version", "agent_id", "action",
        "expires_at", "target", "correlation_id"] : List Key) := by decide
  have hclosed : ∀ k ∈ (["host_id", "created_at", "command_id", "schema_version", "agent_id",
      "action", "expires_at", "target", "correlation_id"] : List Key), k ∈ Signing.required := by
    decide
  constructor
  · intro k hk
    rw [← Dict.mem_map_fst_iff, hkeys]
    exact hrequired k hk
  · intro k _ hk
    rw [← Dict.mem_map_fst_iff, hkeys] at hk
    exact hclosed k hk

/-- The path that is delivered is the checked path of the request. -/
theorem encodable_path {request : PyVal} {r : CheckedRequest} {version : SchemaVersion}
    {target : Dict} (hread : ReadFrom request r)
    (hkeeps : Keeps request r.val.action version target) {t : Text}
    (ht : Dict.get target "path" = .str t) : t.Encodable := by
  generalize haction : r.val.action = action at hkeeps
  cases hkeeps with
  | process => simp at ht
  | bootProcess => simp at ht
  | network => simp at ht
  | file hpath =>
      have hcheck := r.property
      simp only [ForensicCollectionRequest.exactCollectionTarget, bind_eq_ok, raiseIf_eq_ok,
        bne_eq_false_iff_eq, haction, decide_true] at hcheck
      obtain ⟨_, _, hfile⟩ := hcheck
      obtain ⟨f, hf⟩ := Option.isSome_iff_exists.mp hfile
      rw [approvedFile_attr_eq (hread.file f hf)] at hpath
      obtain rfl := PyVal.str.inj hpath
      simp only [Dict.get_cons, if_true, PyVal.str.injEq] at ht
      exact ht ▸ (boundedText_iff.mp f.property.bounded).1

/-- A plan that was made for a valid request. -/
theorem exists_plan (rt : Runtime) (r : CheckedRequest) (p : CheckedPolicy) (a : AssetClass) :
    ∃ plan, planForensicCollection rt (ForensicCollectionRequest.codec.toPy r)
        (ForensicCollectionPolicy.codec.toPy p) a.value = .ok plan ∧
      plan.request = r ∧
      Delivers (ForensicCollectionRequest.codec.toPy r) plan.request.val.action
        plan.commandSchemaVersion plan.target := by
  have hrequest := ForensicCollectionRequest.codec.parse_toPy r
  obtain ⟨plan, hplan⟩ : ∃ plan, planForensicCollection rt
      (ForensicCollectionRequest.codec.toPy r) (ForensicCollectionPolicy.codec.toPy p) a.value =
        .ok plan :=
    planForensicCollection_returns_iff.mpr
      ⟨⟨r, hrequest⟩, ⟨p, ForensicCollectionPolicy.codec.parse_toPy p⟩, a, rfl⟩
  obtain ⟨hparse, htarget⟩ := planForensicCollection_eq_ok hplan
  obtain rfl : plan.request = r := Except.ok.inj (hparse.symm.trans hrequest)
  obtain ⟨version, target, htarget', hdelivers⟩ := exists_delivers rt hrequest
  obtain ⟨rfl, rfl⟩ := Prod.mk.inj (Except.ok.inj (htarget'.symm.trans htarget))
  exact ⟨plan, hplan, rfl, hdelivers⟩

/-- The envelope of a plan for a host of at most 128 characters is contract-valid. -/
theorem contractValid_envelope {request : PyVal} {plan : ForensicCollectionPlan}
    (hdelivers : Delivers request plan.request.val.action plan.commandSchemaVersion plan.target)
    (hread : ReadFrom request plan.request)
    {commandId correlationId createdAt expiresAt : Text}
    (hcommand : boundedText 1 128 commandId = true)
    (hcorrelation : boundedText 1 128 correlationId = true)
    (created : AwareUtcTime rt createdAt) (expires : AwareUtcTime rt expiresAt)
    (hhost : plan.request.val.context.val.hostId.val.length ≤ 128) :
    ContractValid rt (plan.envelope commandId correlationId createdAt expiresAt) := by
  have hagent : boundedText 1 128 plan.request.val.context.val.agentId.val = true :=
    (Bool.and_eq_true_iff.mp plan.request.val.context.val.agentId.property).1
  obtain ⟨hhostEncodable, hhostPos, _⟩ := boundedText_iff.mp
    (Bool.and_eq_true_iff.mp plan.request.val.context.val.hostId.property).1
  obtain ⟨n, hn⟩ := created.exists_epochSeconds
  obtain ⟨m, hm⟩ := expires.exists_epochSeconds
  exact
    { entries := hasEntries_envelope _ _ _ _ _
      host := ⟨_, rfl, hhostPos, hhost, hhostEncodable⟩
      accepted := by
        rw [commandEntries_envelope]
        exact ⟨_, accepted_of_delivers hdelivers _ _ _ _ _ hcommand hagent hcorrelation
          expires.laxDatetime_eq expires.aware⟩
      texts := by
        simp only [List.forall_mem_cons, List.not_mem_nil, false_imp_iff, implies_true, and_true]
        exact ⟨⟨_, rfl, (boundedText_iff.mp hcommand).1⟩,
          ⟨_, rfl, (boundedText_iff.mp hcorrelation).1⟩, ⟨_, rfl, (boundedText_iff.mp hagent).1⟩⟩
      target := ⟨plan.target, rfl, fun _ ht => encodable_path hread hdelivers.keeps ht⟩
      created := ⟨createdAt, n, rfl, hn⟩
      expires := ⟨expiresAt, m, rfl, hm⟩ }

/-- **When a plan can be delivered signed**: exactly where the context's host has at most
128 characters. -/
theorem signingInput_envelope (rt : Runtime) (r : CheckedRequest) (p : CheckedPolicy)
    (a : AssetClass) :
    ∃ plan, planForensicCollection rt (ForensicCollectionRequest.codec.toPy r)
        (ForensicCollectionPolicy.codec.toPy p) a.value = .ok plan ∧
      plan.request = r ∧
      ∀ commandId correlationId createdAt expiresAt : Text,
        boundedText 1 128 commandId = true → boundedText 1 128 correlationId = true →
        Nonempty (AwareUtcTime rt createdAt) → Nonempty (AwareUtcTime rt expiresAt) →
        ((∃ bytes, signingInput rt
          (.dict (plan.envelope commandId correlationId createdAt expiresAt)) = .ok bytes) ↔
            r.val.context.val.hostId.val.length ≤ 128) := by
  obtain ⟨plan, hplan, rfl, hdelivers⟩ := exists_plan rt r p a
  refine ⟨plan, hplan, rfl, ?_⟩
  intro commandId correlationId createdAt expiresAt hcommand hcorrelation ⟨created⟩ ⟨expires⟩
  constructor
  · rintro ⟨bytes, hbytes⟩
    obtain ⟨s, hs, _⟩ := exists_represents_of_ok hbytes
    have hhost : s.hostId = plan.request.val.context.val.hostId.val :=
      PyVal.str.inj (hs.host_eq.symm.trans rfl)
    exact hhost ▸ hs.host_length.2
  · intro hhost
    have hread := readFrom_of_parse (ForensicCollectionRequest.codec.parse_toPy plan.request)
    exact exists_signingInput_of_contractValid
      (contractValid_envelope hdelivers hread hcommand hcorrelation created expires hhost)

/-- The sample time is one in UTC. -/
theorem nonempty_sampleUtcTime : Nonempty (AwareUtcTime .sample sampleTime) :=
  ⟨{ moment := sampleMoment
     offset := ⟨0, by decide, by decide⟩
     fromisoformat_eq := by decide
     utcoffset_eq := rfl
     utc := rfl
     since1970 := by decide
     validated := sampleMoment
     laxDatetime_eq := by decide
     aware := rfl }⟩

/-- A request for the network connections of a host. -/
def hostRequest (host : Text) : PyVal :=
  .model ForensicCollectionRequest.cls
    [("schema_version", .str "1"), ("request_id", .str "request-1"),
      ("action", .str "COLLECT_NETWORK_CONNECTIONS"),
      ("context",
        .model ForensicContext.cls
          [("alert_id", .str "alert-1"), ("agent_id", .str "agent-1"), ("host_id", .str host),
            ("source_id", .str "sensor-1"), ("source_record_id", .str "record-1"),
            ("observed_at", .datetime sampleMoment), ("rule_id", .none),
            ("recommendation_id", .none), ("evidence", .list [])]),
      ("process", .none), ("file", .none)]

/-- A request for a snapshot of a process of one boot. -/
def bootRequest : PyVal :=
  sampleRequest (.model ProcessIdentity.cls
    [("pid", .int 42), ("start_time_ticks", .int 7),
      ("boot_id", .str (Text.ofString "boot_" ++ List.replicate 64 (.scalar '0')))])

/-- A request for a file. -/
def fileRequest : PyVal :=
  .model ForensicCollectionRequest.cls
    [("schema_version", .str "1"), ("request_id", .str "request-1"),
      ("action", .str "COLLECT_FILE"), ("context", sampleForensicContext), ("process", .none),
      ("file",
        .model ApprovedFile.cls [("platform", .str "linux"), ("path", .str "/etc/hosts")])]

/-- The plans for the connections, a process of one boot and a file of a host of six
characters are delivered. -/
theorem signingInput_envelope_sample :
    ∀ request ∈ [hostRequest "host-1", bootRequest, fileRequest], ∃ r p plan,
      ForensicCollectionRequest.codec.parse request.modelDump = .ok r ∧
      ForensicCollectionPolicy.codec.parse samplePolicy.modelDump = .ok p ∧
      planForensicCollection .sample (ForensicCollectionRequest.codec.toPy r)
        (ForensicCollectionPolicy.codec.toPy p) "standard" = .ok plan ∧
      plan.request = r ∧
      ∃ bytes, signingInput .sample
        (.dict (plan.envelope "command-1" "correlation-1" sampleTime sampleTime)) =
          .ok bytes := by
  have hhosts : ∀ request ∈ [hostRequest "host-1", bootRequest, fileRequest],
      (ForensicCollectionRequest.codec.parse request.modelDump).map
        (fun r => decide (r.val.context.val.hostId.val.length ≤ 128)) = .ok true := by
    decide +kernel
  obtain ⟨p, hp⟩ := exists_eq_ok
    (x := ForensicCollectionPolicy.codec.parse samplePolicy.modelDump) (by decide +kernel)
  intro request hrequest
  have hhost := hhosts request hrequest
  cases hr : ForensicCollectionRequest.codec.parse request.modelDump with
  | error e => simp [hr, Except.map] at hhost
  | ok r =>
      rw [hr] at hhost
      obtain ⟨plan, hplan, hfor, hdelivered⟩ := signingInput_envelope .sample r p .standard
      exact ⟨r, p, plan, rfl, hp, hplan, hfor,
        (hdelivered "command-1" "correlation-1" sampleTime sampleTime (by decide) (by decide)
          nonempty_sampleUtcTime nonempty_sampleUtcTime).mpr
            (of_decide_eq_true (Except.ok.inj hhost))⟩

/-- A host id of 129 characters. -/
def longHost : Text := List.replicate 129 (.scalar 'h')

/-- A plan for a host of 129 characters is made, and its envelope is refused. -/
theorem signingInput_envelope_longHost :
    ∃ plan, planForensicCollection .sample (hostRequest longHost) samplePolicy "standard" =
        .ok plan ∧
      boundedText 1 128 "command-1" = true ∧ boundedText 1 128 "correlation-1" = true ∧
      Nonempty (AwareUtcTime .sample sampleTime) ∧
      ¬ ∃ bytes, signingInput .sample
        (.dict (plan.envelope "command-1" "correlation-1" sampleTime sampleTime)) = .ok bytes := by
  obtain ⟨plan, hplan⟩ := exists_eq_ok
    (x := planForensicCollection .sample (hostRequest longHost) samplePolicy "standard")
    (by decide +kernel)
  have hrefused : (planForensicCollection .sample (hostRequest longHost) samplePolicy
      "standard").map (fun plan => returns (signingInput .sample
        (.dict (plan.envelope "command-1" "correlation-1" sampleTime sampleTime)))) =
          .ok false := by
    decide +kernel
  rw [hplan] at hrefused
  have hreturns : returns (signingInput .sample
      (.dict (plan.envelope "command-1" "correlation-1" sampleTime sampleTime))) = false :=
    Except.ok.inj hrefused
  refine ⟨plan, hplan, by decide, by decide, nonempty_sampleUtcTime, ?_⟩
  rintro ⟨bytes, hbytes⟩
  rw [hbytes] at hreturns
  simp [returns] at hreturns

end ResponseEngine.Forensics
