/-
  Forensics/Agreement.lean --- two ways to a boot-bound process target.

  The translator checks the decimal text of a tick count and compares it with a
  number; the planner takes the number and prints it.  On a process that the
  translator returns, the planner accepts the same numbers and comes to the same
  target.
-/
import ResponseEngine.Forensics.Plan

set_option autoImplicit false

namespace ResponseEngine.Forensics

open ResponseEngine.Foundation ResponseEngine.Python ResponseEngine.Python.Pydantic
open ResponseEngine.Contract ResponseEngine.Artifacts ResponseEngine.Policy
open ResponseEngine.Recommendation ResponseEngine.Triage

variable {rt : Runtime}

/-- The arguments of a request for the process that a recommendation names, with the boot
id of a target. -/
def processRequest (requestId : Identifier) (context : PyVal) (recommendation target : Dict) :
    PyVal :=
  .dict [("request_id", .str requestId), ("action", .str "COLLECT_PROCESS_INFO"),
    ("context", context),
    ("process", .dict [("pid", Dict.get recommendation "target_pid"),
      ("start_time_ticks", Dict.get recommendation "target_start_time_ticks"),
      ("boot_id", Dict.get target "boot_id")])]

/-- A boot-bound target as a process identity: the bounds of the two models are the same. -/
def identityOf (t : BootProcessTarget) : ProcessIdentity where
  pid := ⟨t.pid, t.pid_pos, by
    have hle := t.pid_le
    unfold maxPid at hle
    omega⟩
  startTimeTicks := ⟨t.startTimeTicks, t.ticks_pos, by
    have hle := t.ticks_le
    unfold maxTicks at hle
    omega⟩
  bootId := some ⟨t.bootId, t.boot_shape⟩

/-- The request that is built from these arguments. -/
def requestOf (requestId : Identifier) (context : CheckedContext) (t : BootProcessTarget) :
    CheckedRequest where
  val :=
    { schemaVersion := .v1
      requestId
      action := .collectProcessInfo
      context
      process := some (identityOf t)
      file := none }
  property := rfl

/-- The numbers of a target are read back as its identity. -/
theorem parse_identity (t : BootProcessTarget) :
    ProcessIdentity.codec.parse (.dict [("pid", .int t.pid),
      ("start_time_ticks", .int t.startTimeTicks), ("boot_id", .str t.bootId)]) =
        .ok (identityOf t) := by
  rw [ProcessIdentity.codec, Codec.closedModel_parse_eq_ok]
  refine ⟨_, rfl, by rfl, ?_⟩
  simp only [ProcessIdentity.declared, Fields.equiv_parse_eq_ok, Fields.append_parse_eq_ok,
    Fields.required_parse_eq_ok, Fields.optional_parse_eq_ok, Codec.int_parse_eq_ok,
    Codec.nullable_parse_eq_ok, Codec.text_parse_eq_ok]
  exact ⟨⟨_, rfl, rfl⟩, ⟨_, rfl, rfl⟩, Or.inl ⟨_, rfl, Or.inr ⟨⟨t.bootId, t.boot_shape⟩, rfl, rfl⟩⟩⟩

/-- The arguments that a verified process gives are accepted. -/
theorem parse_processRequest {context : PyVal} {recommendation : Dict}
    (v : VerifiedProcess rt context recommendation) (requestId : Identifier)
    {forensicContext : PyVal} {c : CheckedContext}
    (hc : ForensicContext.codec.parse forensicContext.modelDump = .ok c) :
    ForensicCollectionRequest.codec.parse
      (processRequest requestId forensicContext recommendation
        (ClosedTarget.bootProcess v.target).toDict).modelDump =
      .ok (requestOf requestId c v.target) := by
  have hdump : (processRequest requestId forensicContext recommendation
      (ClosedTarget.bootProcess v.target).toDict).modelDump =
        .dict [("request_id", .str requestId), ("action", .str "COLLECT_PROCESS_INFO"),
          ("context", forensicContext.modelDump),
          ("process", .dict [("pid", .int v.target.pid),
            ("start_time_ticks", .int v.target.startTimeTicks),
            ("boot_id", .str v.target.bootId)])] := by
    rw [processRequest, v.named_pid, v.named_ticks]
    rfl
  rw [hdump, ForensicCollectionRequest.codec, Codec.model_parse_eq_ok]
  refine ⟨_, rfl, by rfl, ?_⟩
  rw [ForensicCollectionRequest.declared, Fields.equiv_parse_eq_ok]
  simp only [Fields.append_parse_eq_ok, Fields.required_parse_eq_ok, Fields.optional_parse_eq_ok,
    Codec.text_parse_eq_ok, Codec.literal_parse_eq_ok, Codec.nullable_parse_eq_ok]
  exact ⟨Or.inr ⟨rfl, trivial⟩, ⟨_, rfl, rfl⟩, ⟨_, rfl, rfl⟩, ⟨_, rfl, hc⟩,
    Or.inl ⟨_, rfl, Or.inr ⟨_, parse_identity v.target, rfl⟩⟩, Or.inr ⟨rfl, rfl⟩⟩

/-- Its plan has the boot-bound target. -/
theorem collectionTarget_requestOf (requestId : Identifier) (c : CheckedContext)
    (t : BootProcessTarget) :
    collectionTarget rt (requestOf requestId c t).val =
      .ok (.v2, (ClosedTarget.bootProcess t).toDict) := by
  have htranslate : translateRecommendation rt
      (Text.ofString CollectAction.collectProcessInfo.value) (identityOf t).recommendation .none =
        _ := translateRecommendation_identity (identityOf t)
  simp only [collectionTarget, requestOf, htranslate, ok_bind]
  rfl

/-- **The two producers agree.**  Whenever the translator returns a process to collect from,
the request with the recommendation's numbers and the target's boot id is accepted, and
the plan for it has schema version 2 and the translator's action and target. -/
theorem planForensicCollection_agrees {rt : Runtime} {context : PyVal} {recommendation : Dict}
    {tr : Translation} (hcontext : context ≠ .none)
    (htranslate : translateRecommendation rt "COLLECT_PROCESS_INFO" recommendation context =
      .ok (some tr))
    (requestId : Identifier) {forensicContext : PyVal} {c : CheckedContext}
    (hc : ForensicContext.codec.parse forensicContext.modelDump = .ok c)
    {policy : PyVal} {p : CheckedPolicy}
    (hp : ForensicCollectionPolicy.codec.parse policy.modelDump = .ok p)
    (assetClass : AssetClass) :
    ∃ request plan,
      ForensicCollectionRequest.codec.parse
        (processRequest requestId forensicContext recommendation tr.target).modelDump =
          .ok request ∧
      planForensicCollection rt (ForensicCollectionRequest.codec.toPy request) policy
        assetClass.value = .ok plan ∧
      plan.request = request ∧ plan.commandSchemaVersion = .v2 ∧
      (plan.request.val.action.value : Text) = tr.action ∧ plan.target = tr.target := by
  obtain ⟨target, htarget, rfl⟩ :=
    (translateRecommendation_of_context .collect hcontext).mp htranslate
  obtain ⟨v, rfl⟩ := canonicalProcessTarget_eq_some.mp htarget
  have hrequest := parse_processRequest v requestId hc
  have hreparse := ForensicCollectionRequest.codec.parse_toPy (requestOf requestId c v.target)
  have hreturns : ∃ plan, planForensicCollection rt
      (ForensicCollectionRequest.codec.toPy (requestOf requestId c v.target)) policy
      assetClass.value = .ok plan :=
    planForensicCollection_returns_iff.mpr ⟨⟨_, hreparse⟩, ⟨p, hp⟩, assetClass, rfl⟩
  obtain ⟨plan, hplan⟩ := hreturns
  obtain ⟨hread, hcollected⟩ := planForensicCollection_eq_ok hplan
  have hsame : plan.request = requestOf requestId c v.target :=
    Except.ok.inj (hread.symm.trans hreparse)
  rw [hsame, collectionTarget_requestOf, Except.ok.injEq, Prod.mk.injEq] at hcollected
  refine ⟨_, plan, hrequest, hplan, hsame, hcollected.1.symm, ?_, hcollected.2.symm⟩
  rw [hsame]
  rfl

/-- The two producers on the context of a native identity. -/
theorem planForensicCollection_agrees_sample :
    ∃ tr request plan,
      translateRecommendation .sample "COLLECT_PROCESS_INFO" sampleRecommendation
        (sampleContext "agent-1") = .ok (some tr) ∧
      ForensicCollectionRequest.codec.parse
        (processRequest ⟨"request-1", by decide⟩ sampleForensicContext sampleRecommendation
          tr.target).modelDump = .ok request ∧
      planForensicCollection .sample (ForensicCollectionRequest.codec.toPy request) samplePolicy
        "standard" = .ok plan ∧
      plan.target = tr.target := by
  obtain ⟨tr, htr⟩ := exists_eq_ok_some (x := translateRecommendation .sample
    "COLLECT_PROCESS_INFO" sampleRecommendation (sampleContext "agent-1")) (by decide +kernel)
  obtain ⟨c, hc⟩ := exists_eq_ok (x := ForensicContext.codec.parse sampleForensicContext.modelDump)
    (by decide +kernel)
  obtain ⟨p, hp⟩ := exists_eq_ok (x := ForensicCollectionPolicy.codec.parse samplePolicy.modelDump)
    (by decide +kernel)
  obtain ⟨request, plan, hrequest, hplan, -, -, -, htarget⟩ := planForensicCollection_agrees
    (by simp [sampleContext]) htr ⟨"request-1", by decide⟩ hc hp .standard
  exact ⟨tr, request, plan, htr, hrequest, hplan, htarget⟩

end ResponseEngine.Forensics
