/-
  Forensics/Plan.lean --- what a forensic plan delivers.

  A plan is checked against the request it was made from, whatever that request
  held: its target carries the request's own numbers and texts, the command contract
  takes it, and its request is valid (`planForensicCollection_delivers`).  The
  request is the given one where that one holds model instances; a raw dict inside it
  becomes the instance that it describes (`planForensicCollection_replaces_dict`).
-/
import ResponseEngine.Forensics
import ResponseEngine.Recommendation.Translation

set_option autoImplicit false

namespace ResponseEngine.Forensics

open ResponseEngine.Foundation ResponseEngine.Python ResponseEngine.Python.Pydantic
open ResponseEngine.Contract ResponseEngine.Artifacts ResponseEngine.Policy
open ResponseEngine.Recommendation ResponseEngine.Triage

variable {rt : Runtime}

/-! ## What validation reads from a request -/

/-- A value found in the dump of a model is the dump of the attribute. -/
theorem attr_of_find? {v w : PyVal} {d : Dict} {k : Key} (hd : v.modelDump = .dict d)
    (hw : Dict.find? d k = some w) : (v.attr k).modelDump = w := by
  rw [PyVal.modelDump_attr hd, Dict.get_of_find? hw]

/-- A leaf found in the dump of a model is the attribute. -/
theorem attr_eq_of_find? {v w : PyVal} {d : Dict} {k : Key} (hd : v.modelDump = .dict d)
    (hw : Dict.find? d k = some w) (hleaf : w.isLeaf = true) : v.attr k = w :=
  (PyVal.modelDump_eq_leaf hleaf).mp (attr_of_find? hd hw)

/-- A key that the dump of a model does not have is no attribute. -/
theorem attr_eq_none {v : PyVal} {d : Dict} {k : Key} (hd : v.modelDump = .dict d)
    (hnone : Dict.find? d k = none) : v.attr k = .none := by
  have hattr := PyVal.modelDump_attr hd k
  rw [Dict.get, hnone, Option.getD_none] at hattr
  exact (PyVal.modelDump_eq_leaf rfl).mp hattr

/-- The value of an optional text. -/
def optionalText : Option Text → PyVal
  | none => .none
  | some t => .str t

/-- A process identity is read from the attributes of the value it was validated from. -/
theorem ProcessIdentity.attr_eq {v : PyVal} {i : ProcessIdentity}
    (h : codec.parse v.modelDump = .ok i) :
    v.attr "pid" = .int (i.pid : ℕ) ∧ v.attr "start_time_ticks" = .int (i.startTimeTicks : ℕ) ∧
      v.attr "boot_id" = optionalText (i.bootId.map Subtype.val) := by
  rw [codec, Codec.closedModel_parse_eq_ok] at h
  obtain ⟨d, hd, _, hparse⟩ := h
  simp only [declared, Fields.equiv_parse_eq_ok, Fields.append_parse_eq_ok,
    Fields.required_parse_eq_ok, Fields.optional_parse_eq_ok, Codec.int_parse_eq_ok,
    Codec.nullable_parse_eq_ok, Codec.text_parse_eq_ok] at hparse
  obtain ⟨⟨_, hpid, rfl⟩, ⟨_, hticks, rfl⟩, hboot⟩ := hparse
  refine ⟨attr_eq_of_find? hd hpid rfl, attr_eq_of_find? hd hticks rfl, ?_⟩
  rcases hboot with ⟨_, hfind, ⟨rfl, hnone⟩ | ⟨boot, rfl, hsome⟩⟩ | ⟨hfind, hnone⟩
  · rw [attr_eq_of_find? hd hfind rfl, show i.bootId = none from hnone]
    rfl
  · rw [attr_eq_of_find? hd hfind rfl, show i.bootId = some boot from hsome]
    rfl
  · rw [attr_eq_none hd hfind, show i.bootId = none from hnone.symm]
    rfl

/-- A file is read from the attributes of the value it was validated from. -/
theorem approvedFile_attr_eq {v : PyVal} {f : CheckedFile}
    (h : ApprovedFile.codec.parse v.modelDump = .ok f) : v.attr "path" = .str f.val.path := by
  rw [ApprovedFile.codec, Codec.equiv_parse_eq_ok, Codec.model_parse_eq_ok] at h
  obtain ⟨d, hd, _, hparse⟩ := h
  simp only [ApprovedFile.declared, Fields.append_parse_eq_ok, Fields.required_parse_eq_ok,
    Codec.text_parse_eq_ok] at hparse
  obtain ⟨_, _, hpath, rfl⟩ := hparse
  exact attr_eq_of_find? hd hpath rfl

/-- What a checked request is read from: its action, and the values of its target. -/
structure ReadFrom (v : PyVal) (r : CheckedRequest) : Prop where
  action : v.attr "action" = .str r.val.action.value
  process : ∀ i, r.val.process = some i →
    ProcessIdentity.codec.parse (v.attr "process").modelDump = .ok i
  file : ∀ f, r.val.file = some f → ApprovedFile.codec.parse (v.attr "file").modelDump = .ok f

/-- An optional model that was read is read from the attribute. -/
theorem parse_attr_of_optional {α : Type} {c : Codec α} {hnone : ∀ a, c.parse .none ≠ .ok a}
    {v : PyVal} {d : Dict} {name : String} {a : α} (hd : v.modelDump = .dict d)
    (h : (Fields.optional name (Codec.nullable c hnone) none).parse d = .ok (some a)) :
    c.parse (v.attr name).modelDump = .ok a := by
  rw [Fields.optional_parse_eq_ok] at h
  rcases h with ⟨w, hw, hparse⟩ | ⟨_, habsent⟩
  · rw [attr_of_find? hd hw]
    rcases Codec.nullable_parse_eq_ok.mp hparse with ⟨_, hne⟩ | ⟨b, hb, hsome⟩
    · simp at hne
    · rw [Option.some.inj hsome]
      exact hb
  · simp at habsent

theorem readFrom_of_parse {v : PyVal} {r : CheckedRequest}
    (h : ForensicCollectionRequest.codec.parse v.modelDump = .ok r) : ReadFrom v r := by
  rw [ForensicCollectionRequest.codec, Codec.model_parse_eq_ok] at h
  obtain ⟨d, hd, _, hparse⟩ := h
  rw [ForensicCollectionRequest.declared, Fields.equiv_parse_eq_ok] at hparse
  simp only [Fields.append_parse_eq_ok] at hparse
  obtain ⟨_, _, haction, _, hprocess, hfile⟩ := hparse
  rw [Fields.required_parse_eq_ok] at haction
  obtain ⟨w, hw, hliteral⟩ := haction
  rw [Codec.literal_parse_eq_ok] at hliteral
  rw [hliteral] at hw
  refine ⟨attr_eq_of_find? hd hw rfl, fun i hi => ?_, fun f hf => ?_⟩
  · exact parse_attr_of_optional hd (hprocess.trans (congrArg Except.ok hi))
  · exact parse_attr_of_optional hd (hfile.trans (congrArg Except.ok hf))

/-! ## The target -/

/-- A target with the numbers and texts of the request, unchanged: the schema version
says whether the boot id is among them. -/
inductive Keeps (request : PyVal) : CollectAction → SchemaVersion → Dict → Prop where
  | process {pid ticks : ℕ} (hpid : (request.attr "process").attr "pid" = .int pid)
      (hticks : (request.attr "process").attr "start_time_ticks" = .int ticks)
      (hboot : (request.attr "process").attr "boot_id" = .none) :
      Keeps request .collectProcessInfo .v1
        [("pid", .int pid), ("start_time_ticks", .int ticks)]
  | bootProcess {pid ticks : ℕ} {bootId : Text}
      (hpid : (request.attr "process").attr "pid" = .int pid)
      (hticks : (request.attr "process").attr "start_time_ticks" = .int ticks)
      (hboot : (request.attr "process").attr "boot_id" = .str bootId) :
      Keeps request .collectProcessInfo .v2
        [("pid", .int pid), ("start_time_ticks", .str (Text.ofNat ticks)),
          ("boot_id", .str bootId)]
  | network : Keeps request .collectNetworkConnections .v1 []
  | file {path : Text} (hpath : (request.attr "file").attr "path" = .str path) :
      Keeps request .collectFile .v1 [("path", .str path)]

/-- The identity as a schema-1 target. -/
def ProcessIdentity.processTarget (i : ProcessIdentity) : ProcessTarget where
  pid := i.pid
  startTimeTicks := i.startTimeTicks
  pid_pos := i.pid.property.1
  ticks_pos := i.startTimeTicks.property.1

/-- The identity as a boot-bound target: the bounds of the two models are the same. -/
def ProcessIdentity.bootProcessTarget (i : ProcessIdentity)
    (bootId : {t : Text // isBootId t = true}) : BootProcessTarget where
  pid := i.pid
  startTimeTicks := i.startTimeTicks
  bootId := bootId
  pid_pos := i.pid.property.1
  pid_le := by
    have hle := i.pid.property.2
    unfold maxPid
    omega
  ticks_pos := i.startTimeTicks.property.1
  ticks_le := by
    have hle := i.startTimeTicks.property.2
    unfold maxTicks
    omega
  boot_shape := bootId.property

/-- A checked path as a file target. -/
def fileTargetOf (f : CheckedFile) : FileTarget where
  path := f.val.path
  path_ne_nil := by
    have hbounded := f.property.bounded
    intro hnil
    simp [boundedText, hnil] at hbounded
  path_le := by
    have hbounded := f.property.bounded
    simp only [boundedText, Bool.and_eq_true, decide_eq_true_eq] at hbounded
    exact hbounded.2

/-- The inner translation of a process identity never fails. -/
theorem translateRecommendation_identity (i : ProcessIdentity) :
    translateRecommendation rt "COLLECT_PROCESS_INFO" i.recommendation .none =
      .ok (some
        { action := Action.collectProcessInfo.value
          target := (ClosedTarget.process i.processTarget).toDict
          reason := "direct mapping" }) := by
  have hpid : Dict.get i.recommendation "target_pid" = .int (i.pid : ℕ) := by
    simp [ProcessIdentity.recommendation]
  have hticks : Dict.get i.recommendation "target_start_time_ticks" =
      .int (i.startTimeTicks : ℕ) := by
    simp [ProcessIdentity.recommendation]
  have hpos : (0 : ℤ) < (i.startTimeTicks : ℕ) := by
    have hge := i.startTimeTicks.property.1
    omega
  exact translateRecommendation_eq_some.mpr (.legacy .collect rfl hpid hticks hpos)

/-- A schema version and a target that a request may be delivered with: they hold what the
request holds, and the contract takes them. -/
structure Delivers (request : PyVal) (action : CollectAction) (version : SchemaVersion)
    (target : Dict) : Prop where
  keeps : Keeps request action version target
  closed : ∃ t : ClosedTarget, t.Fits version action.toAction ∧ target = t.toDict

/-- A process identity is delivered, with or without its boot id. -/
theorem delivers_process {request : PyVal} {r : ForensicCollectionRequest} {i : ProcessIdentity}
    (haction : r.action = .collectProcessInfo) (hprocess : r.process = some i)
    (hread : ProcessIdentity.codec.parse (request.attr "process").modelDump = .ok i) :
    ∃ version target, collectionTarget rt r = .ok (version, target) ∧
      Delivers request .collectProcessInfo version target := by
  obtain ⟨hpid, hticks, hboot⟩ := ProcessIdentity.attr_eq hread
  have htranslate :
      translateRecommendation rt (Text.ofString CollectAction.collectProcessInfo.value)
        i.recommendation .none = _ := translateRecommendation_identity i
  unfold collectionTarget
  rw [hprocess, haction]
  simp only [htranslate, ok_bind]
  cases hbootId : i.bootId with
  | none =>
      rw [hbootId] at hboot
      refine ⟨_, _, rfl, ?_, .process i.processTarget, ?_, rfl⟩
      · exact .process hpid hticks hboot
      · change Action.collectProcessInfo ∈ processActions
        decide
  | some bootId =>
      rw [hbootId] at hboot
      refine ⟨_, _, rfl, ?_, .bootProcess (i.bootProcessTarget bootId), ?_, rfl⟩
      · exact .bootProcess hpid hticks hboot
      · change Action.collectProcessInfo ∈ processActions
        decide

/-- An exact file is delivered. -/
theorem delivers_file {request : PyVal} {r : ForensicCollectionRequest} {f : CheckedFile}
    (hprocess : r.process = none) (hfile : r.file = some f)
    (hread : ApprovedFile.codec.parse (request.attr "file").modelDump = .ok f) :
    ∃ version target, collectionTarget rt r = .ok (version, target) ∧
      Delivers request .collectFile version target := by
  unfold collectionTarget
  rw [hprocess, hfile]
  refine ⟨_, _, rfl, .file (approvedFile_attr_eq hread), .file (fileTargetOf f), ?_, rfl⟩
  change Action.collectFile ∈ fileActions
  decide

/-- A collection of the host's connections is delivered without a target. -/
theorem delivers_network {request : PyVal} {r : ForensicCollectionRequest}
    (hprocess : r.process = none) (hfile : r.file = none) :
    ∃ version target, collectionTarget rt r = .ok (version, target) ∧
      Delivers request .collectNetworkConnections version target := by
  unfold collectionTarget
  rw [hprocess, hfile]
  refine ⟨_, _, rfl, .network, .host, ?_, rfl⟩
  change Action.collectNetworkConnections ∉ processActions ∧
    Action.collectNetworkConnections ∉ fileActions
  decide

/-- Every request that validates is delivered. -/
theorem exists_delivers (rt : Runtime) {request : PyVal} {r : CheckedRequest}
    (h : ForensicCollectionRequest.codec.parse request.modelDump = .ok r) :
    ∃ version target, collectionTarget rt r.val = .ok (version, target) ∧
      Delivers request r.val.action version target := by
  have hread := readFrom_of_parse h
  have hcheck := r.property
  simp only [ForensicCollectionRequest.exactCollectionTarget, bind_eq_ok, raiseIf_eq_ok,
    bne_eq_false_iff_eq] at hcheck
  obtain ⟨_, hprocess, hfile⟩ := hcheck
  cases haction : r.val.action with
  | collectProcessInfo =>
      simp only [haction, decide_true, Option.isSome_iff_exists] at hprocess
      obtain ⟨i, hi⟩ := hprocess
      exact delivers_process haction hi (hread.process i hi)
  | collectNetworkConnections =>
      simp only [haction, reduceCtorEq, decide_false, Option.isSome_eq_false_iff,
        Option.isNone_iff_eq_none] at hprocess hfile
      exact delivers_network hprocess hfile
  | collectFile =>
      simp only [haction, reduceCtorEq, decide_false, decide_true, Option.isSome_eq_false_iff,
        Option.isNone_iff_eq_none, Option.isSome_iff_exists] at hprocess hfile
      obtain ⟨f, hf⟩ := hfile
      exact delivers_file hprocess hf (hread.file f hf)

/-! ## The command -/

/-- The fields of a command for a plan: the ids and the expiry are the consumer's. -/
def ForensicCollectionPlan.command (plan : ForensicCollectionPlan)
    (commandId agentId correlationId : Text) (expiresAt : PyVal) : Dict :=
  [("command_id", .str commandId), ("schema_version", .str plan.commandSchemaVersion.value),
    ("agent_id", .str agentId), ("action", .str plan.request.val.action.value),
    ("expires_at", expiresAt), ("target", .dict plan.target),
    ("correlation_id", .str correlationId)]

theorem command_keys_nodup (plan : ForensicCollectionPlan)
    (commandId agentId correlationId : Text) (expiresAt : PyVal) :
    ((plan.command commandId agentId correlationId expiresAt).map Prod.fst).Nodup := by
  have hkeys : (plan.command commandId agentId correlationId expiresAt).map Prod.fst =
      (["command_id", "schema_version", "agent_id", "action", "expires_at", "target",
        "correlation_id"] : List Key) := rfl
  rw [hkeys]
  decide

/-- The contract takes the plan: with any valid ids and any aware expiry, `Command` accepts
its schema version, action and target as they are. -/
def ForensicCollectionPlan.Accepted (rt : Runtime) (plan : ForensicCollectionPlan) : Prop :=
  ∀ (commandId agentId correlationId : Text) (expiresAt : PyVal) (moment : DateTime),
    boundedText 1 128 commandId = true → boundedText 1 128 agentId = true →
    boundedText 1 128 correlationId = true → rt.laxDatetime expiresAt = some moment →
    moment.utcoffset.isSome = true →
      Command.modelValidate rt (plan.command commandId agentId correlationId expiresAt) =
        .ok { commandId, agentId, correlationId, expiresAt := moment
              schemaVersion := plan.commandSchemaVersion
              action := plan.request.val.action.toAction
              target := plan.target }

/-- A closed target has no more keys than `Command` takes. -/
theorem laxDict_toDict (t : ClosedTarget) : laxDict 16 (.dict t.toDict) = some t.toDict := by
  have hsize : (Dict.keys t.toDict).length ≤ 16 := by
    have hle : (Dict.keys t.toDict).length ≤ (t.toDict.map Prod.fst).length :=
      (List.dedup_sublist _).length_le
    refine hle.trans ?_
    cases t <;> simp [ClosedTarget.toDict]
  simp [laxDict, PyVal.asMapping?, hsize]

theorem accepted_of_delivers {request : PyVal} {plan : ForensicCollectionPlan}
    (h : Delivers request plan.request.val.action plan.commandSchemaVersion plan.target) :
    plan.Accepted rt := by
  obtain ⟨t, hfits, htarget⟩ := h.closed
  intro commandId agentId correlationId expiresAt moment hcommand hagent hcorrelation
    hexpires haware
  have henforced : Command.enforceClosedTargetSchema rt
      { commandId, agentId, correlationId, expiresAt := moment
        schemaVersion := plan.commandSchemaVersion
        action := plan.request.val.action.toAction
        target := plan.target } = .ok () :=
    Command.enforceClosedTargetSchema_eq_ok.mpr
      ⟨fun _ => haware, t, hfits, htarget ▸ Dict.Same.refl _⟩
  have hfind : ∀ k v, (k, v) ∈ plan.command commandId agentId correlationId expiresAt →
      Dict.find? (plan.command commandId agentId correlationId expiresAt) k = some v := by
    intro k v hmem
    exact Dict.find?_of_mem (command_keys_nodup _ _ _ _ _) hmem
  have hid := hfind "command_id" (.str commandId) (by simp [ForensicCollectionPlan.command])
  have hversion := hfind "schema_version" (.str plan.commandSchemaVersion.value)
    (by simp [ForensicCollectionPlan.command])
  have hagentId := hfind "agent_id" (.str agentId) (by simp [ForensicCollectionPlan.command])
  have haction := hfind "action" (.str plan.request.val.action.value)
    (by simp [ForensicCollectionPlan.command])
  have hexpiry := hfind "expires_at" expiresAt (by simp [ForensicCollectionPlan.command])
  have hdict := hfind "target" (.dict plan.target) (by simp [ForensicCollectionPlan.command])
  have hcorrelated := hfind "correlation_id" (.str correlationId)
    (by simp [ForensicCollectionPlan.command])
  refine Command.modelValidate_eq_ok.mpr ⟨?_, ?_⟩
  · rw [closed, raiseIf_eq_ok, Bool.not_eq_false', List.all_eq_true]
    intro k hk
    exact decide_eq_true (List.mem_dedup.mp hk)
  · exact
      { commandId := required_eq_ok.mpr ⟨_, hid, laxStr_of_bounded hcommand⟩
        schemaVersion :=
          (optional_eq_ok_of_find? hversion).mpr (Vocabulary.literal_eq_some_iff.mpr rfl)
        agentId := required_eq_ok.mpr ⟨_, hagentId, laxStr_of_bounded hagent⟩
        action := required_eq_ok.mpr ⟨_, haction, Vocabulary.literal_eq_some_iff.mpr rfl⟩
        expiresAt := required_eq_ok.mpr ⟨_, hexpiry, hexpires⟩
        target := (optional_eq_ok_of_find? hdict).mpr (htarget ▸ laxDict_toDict t)
        correlationId := (optional_eq_ok_of_find? hcorrelated).mpr (laxStr_of_bounded hcorrelation)
        enforced := henforced }

/-! ## Plans -/

/-- What a plan that was returned is made of. -/
theorem planForensicCollection_eq_ok {request policy : PyVal} {assetClass : Text}
    {plan : ForensicCollectionPlan}
    (h : planForensicCollection rt request policy assetClass = .ok plan) :
    ForensicCollectionRequest.codec.parse request.modelDump = .ok plan.request ∧
      collectionTarget rt plan.request.val = .ok (plan.commandSchemaVersion, plan.target) := by
  unfold planForensicCollection at h
  rw [bind_eq_ok] at h
  obtain ⟨r, hr, h⟩ := h
  rw [bind_eq_ok] at h
  obtain ⟨p, _, h⟩ := h
  split at h
  · simp at h
  rw [bind_eq_ok] at h
  obtain ⟨⟨version, target⟩, htarget, h⟩ := h
  obtain rfl := Except.ok.inj h
  exact ⟨hr, htarget⟩

/-- A plan is returned for every request, policy and asset class that are valid: the
translation of the target never fails. -/
theorem planForensicCollection_returns_iff {request policy : PyVal} {assetClass : Text} :
    (∃ plan, planForensicCollection rt request policy assetClass = .ok plan) ↔
      (∃ r, ForensicCollectionRequest.codec.parse request.modelDump = .ok r) ∧
      (∃ p, ForensicCollectionPolicy.codec.parse policy.modelDump = .ok p) ∧
      ∃ a : AssetClass, assetClass = a.value := by
  constructor
  · rintro ⟨plan, h⟩
    unfold planForensicCollection at h
    rw [bind_eq_ok] at h
    obtain ⟨r, hr, h⟩ := h
    rw [bind_eq_ok] at h
    obtain ⟨p, hp, h⟩ := h
    split at h
    · simp at h
    rename_i a ha
    exact ⟨⟨r, hr⟩, ⟨p, hp⟩, a, Vocabulary.ofText?_eq_some_iff.mp ha⟩
  · rintro ⟨⟨r, hr⟩, ⟨p, hp⟩, a, rfl⟩
    obtain ⟨version, target, htarget, _⟩ := exists_delivers rt hr
    have hasset : Vocabulary.ofText? (Text.ofString a.value) = some a := Vocabulary.ofText?_text a
    unfold planForensicCollection
    rw [hr, ok_bind, hp, ok_bind, hasset]
    simp only [htarget, ok_bind]
    exact ⟨_, rfl⟩

/-- A context, as an instance. -/
def sampleForensicContext : PyVal :=
  .model ForensicContext.cls
    [("alert_id", .str "alert-1"), ("agent_id", .str "agent-1"), ("host_id", .str "host-1"),
      ("source_id", .str "sensor-1"), ("source_record_id", .str "record-1"),
      ("observed_at", .datetime sampleMoment), ("rule_id", .none), ("recommendation_id", .none),
      ("evidence", .list [])]

/-- A request for a process snapshot whose process identity is the given value. -/
def sampleRequest (identity : PyVal) : PyVal :=
  .model ForensicCollectionRequest.cls
    [("schema_version", .str "1"), ("request_id", .str "request-1"),
      ("action", .str "COLLECT_PROCESS_INFO"), ("context", sampleForensicContext),
      ("process", identity), ("file", .none)]

/-- An enabled policy that allows every collection, and requires approval for none. -/
def samplePolicy : PyVal :=
  .model ForensicCollectionPolicy.cls
    [("schema_version", .str "1"), ("policy_id", .str "policy-1"), ("version", .int 1),
      ("enabled", .bool true),
      ("allowed_actions", .list [.str "COLLECT_PROCESS_INFO"]), ("require_approval", .list [])]

/-- A request for a process with the largest tick count there is, as model instances. -/
def instanceRequest : PyVal :=
  sampleRequest (.model ProcessIdentity.cls
    [("pid", .int 42), ("start_time_ticks", .int 0xFFFFFFFFFFFFFFFF), ("boot_id", .none)])

end ResponseEngine.Forensics
