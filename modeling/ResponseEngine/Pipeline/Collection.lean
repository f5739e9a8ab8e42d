/-
  Pipeline/Collection.lean --- from a triage decision to the signed bytes of its command.

  Triage decides on an action and a file path; the contract and the signer see them only
  later, and check them again.  What triage lets through passes both: a collection that is
  not skipped has a target that the contract takes, and its envelope is signed
  (`triaged_signed`).  The target of a process collection is not triage's to give and comes
  from the translation.
-/
import ResponseEngine.Pipeline.Issue
import ResponseEngine.Triage.Default

set_option autoImplicit false

namespace ResponseEngine.Pipeline

open ResponseEngine.Foundation ResponseEngine.Python ResponseEngine.Python.Pydantic
open ResponseEngine.Contract ResponseEngine.Recommendation ResponseEngine.Signing
open ResponseEngine.Triage

/-! ## The target -/

/-- The target of a collection that triage decides on, by the path that it was given. -/
inductive CollectionTarget : CollectAction → PyVal → Dict → Prop where
  | file (path : Text) : CollectionTarget .collectFile (.str path) [("path", .str path)]
  | network (filePath : PyVal) : CollectionTarget .collectNetworkConnections filePath []

variable {rt : Runtime} {action : CollectAction} {filePath : PyVal} {target : Dict}

/-- The path that is collected has one target, and it is an exact file's. -/
theorem exists_collectionTarget {policy : AutoTriagePolicy} {assetClass : AssetClass}
    {endpoint : EndpointCapability} {usage : BudgetUsage} {processIdentityVerified : PyVal}
    {entry : ActionPolicy}
    (h : Passes policy action assetClass endpoint usage processIdentityVerified filePath entry)
    (haction : action ≠ .collectProcessInfo) :
    ∃ target, CollectionTarget action filePath target ∧
      ∀ path, Dict.get target "path" = .str path →
        ApprovedFile.Accepted { platform := endpoint.platform, path } := by
  cases action with
  | collectProcessInfo => exact absurd rfl haction
  | collectNetworkConnections => exact ⟨[], .network filePath, fun path hpath => by simp at hpath⟩
  | collectFile =>
      obtain ⟨path, rfl, haccepted⟩ := exactFile_of_fileRefusal h.target
      refine ⟨_, .file path, fun other hother => ?_⟩
      obtain rfl : path = other := by simpa using hother
      exact haccepted

/-- An exact file is one that the contract takes: the two bounds on its length are the same. -/
theorem accepted_collectionTarget {platform : Platform} {reason : Text}
    (h : CollectionTarget action filePath target)
    (hfile : ∀ path, Dict.get target "path" = .str path →
      ApprovedFile.Accepted { platform, path }) :
    Accepted rt { action := action.value, target, reason } := by
  cases h with
  | file path =>
      obtain ⟨_, hpos, hle⟩ := boundedText_iff.mp (hfile path (by simp)).bounded
      have hne : path ≠ [] := List.length_pos_iff.mp hpos
      have hschema : commandSchema [("path", .str path)] = .v1 := by
        simp [commandSchema, Dict.contains]
      refine accepted_iff.mpr ⟨.collectFile, rfl, by simp [Dict.keys],
        .file ⟨path, hne, hle⟩, ?_, Dict.Same.refl _⟩
      dsimp only
      rw [hschema]
      exact List.mem_cons_self
  | network =>
      exact accepted_iff.mpr ⟨.collectNetworkConnections, rfl, by simp [Dict.keys],
        .host, ⟨by decide, by decide⟩, Dict.Same.refl _⟩

/-! ## Signing -/

/-- **What triage lets through is signed.**  Whatever the policy, a collection that is not skipped
has a target that the contract takes, and with valid ids and times the envelope that carries it
has its signing bytes. -/
theorem triaged_signed {policy : AutoTriagePolicy} {action assetClass : Text}
    {endpoint : EndpointCapability} {usage : BudgetUsage}
    {processIdentityVerified filePath : PyVal} {d : TriageDecision} {p : Particulars}
    (h : evaluate policy action assetClass endpoint usage processIdentityVerified filePath = .ok d)
    (hskip : d.decision ≠ .skip) (hprocess : d.action ≠ .collectProcessInfo)
    (hvalid : p.Valid rt) (reason : Text) :
    ∃ target, CollectionTarget d.action filePath target ∧ Accepted rt { action, target, reason } ∧
      ∃ bytes, signingInput rt (.dict (envelopeOf p { action, target, reason })) = .ok bytes := by
  obtain ⟨rfl, _, _, _, houtcome⟩ := evaluate_eq_ok.mp h
  have hdecision := congrArg Prod.fst houtcome
  dsimp only at hdecision
  rw [hdecision] at hskip
  obtain ⟨entry, hpasses⟩ := exists_passes_of_ne_skip hskip
  obtain ⟨target, htarget, hfile⟩ := exists_collectionTarget hpasses hprocess
  have hissued : Issued rt p { action := d.action.value, target, reason } :=
    ⟨hvalid, accepted_collectionTarget htarget hfile⟩
  have hpath : EncodablePath { action := d.action.value, target, reason } :=
    fun path hpath => (boundedText_iff.mp (hfile path hpath).bounded).1
  exact ⟨target, htarget, hissued.accepted, hissued.signed.1.mpr hpath⟩

/-- A file that waits for approval has a command that is signed. -/
theorem triaged_signed_sample :
    ∃ target, CollectionTarget .collectFile (.str "/etc/hosts") target ∧
      Accepted .sample { action := "COLLECT_FILE", target, reason := "" } ∧
      ∃ bytes, signingInput .sample (.dict (envelopeOf sampleParticulars
        { action := "COLLECT_FILE", target, reason := "" })) = .ok bytes := by
  let s : Situation := { capableSituation with filePath := .str "/etc/hosts" }
  let policy := enabledDefault ⟨"rule", by decide +kernel⟩ ⟨1, by decide⟩
  obtain ⟨d, heval, hdecision⟩ := exists_evaluate policy .collectFile .standard s
  obtain ⟨haction, _⟩ := evaluate_eq_ok.mp heval
  have hfile : CollectAction.collectFile = d.action :=
    Vocabulary.text_injective (Text.ofString_inj.mp haction)
  have hskip : (s.outcome policy .collectFile .standard).1 ≠ .skip := by decide +kernel
  have hsigned := triaged_signed heval (hdecision ▸ hskip) (hfile ▸ by decide)
    valid_sampleParticulars ""
  rw [← hfile] at hsigned
  exact hsigned

end ResponseEngine.Pipeline
