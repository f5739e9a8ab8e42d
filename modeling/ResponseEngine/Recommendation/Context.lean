/-
  Recommendation/Context.lean --- what an endpoint context can and cannot do.

  A retained Linux context is rechecked by rebuilding its record.  The recheck passes on
  the contexts that extend one the builder returns, and on no others
  (`verifiedLinuxSubject_iff_extends`).  A context that passes adds a boot to the target
  and nothing else: whatever is translated with a context is translated without one, to
  the same action on the same process (`translateRecommendation_narrows`).
-/
import ResponseEngine.Recommendation.RoundTrip

set_option autoImplicit false

namespace ResponseEngine.Recommendation

open ResponseEngine.Foundation ResponseEngine.Python ResponseEngine.Contract
open ResponseEngine.LinuxIdentity

/-! ## Extensions of a built context -/

/-- A context that holds what a built one does, and perhaps more. -/
structure Extends (context built : Dict) : Prop where
  /-- entry by entry, it compares equal -/
  equal : ∀ entry ∈ built, (Dict.get context entry.1).pyEq entry.2 = true
  /-- and in its own dicts stand the very same values: `True` compares equal to 1 -/
  same : ∀ name nested, (name, PyVal.dict nested) ∈ built →
    ∃ own, Dict.get context name = .dict own ∧ ∀ entry ∈ nested, Dict.get own entry.1 = entry.2

/-- A text of a dict stands in every dict that compares equal. -/
theorem get_of_pyEq {own nested : Dict} {k : Key} {t : Text}
    (h : (PyVal.dict own).pyEq (.dict nested) = true)
    (hk : Dict.find? nested k = some (.str t)) : Dict.get own k = .str t := by
  obtain ⟨v, hv, hequal⟩ := PyVal.find?_of_pyEq_dict h hk
  rw [Dict.get_of_find? hv, PyVal.pyEq_str.mp hequal]

/-- A context that compares equal to what its own proof rebuilds extends it. -/
theorem extends_of_rebuilt {context endpoint subject proof rebuilt : Dict} {ticks : ℕ}
    (h : Rebuilds context endpoint subject proof ticks)
    (hrebuilt : linuxEndpointContext (.dict (rebuiltRecord context endpoint subject proof ticks))
      (Dict.get endpoint "agent_id") = .ok (some rebuilt))
    (hequal : ∀ entry ∈ rebuilt, (Dict.get context entry.1).pyEq entry.2 = true) :
    Extends context rebuilt := by
  refine ⟨hequal, ?_⟩
  obtain ⟨fields, host, proc, sensor, agent, i, hfields, hagent, _, hhost, hproc, hsensor, hi,
    hchecked⟩ := linuxEndpointContext_eq_some.mp hrebuilt
  obtain rfl := PyVal.dict.inj hfields
  obtain ⟨_, _, _, hhostId, hboot, hsensorId, hpid, hstart, hseq, _⟩ :=
    nativeIdentity?_eq_some.mp hi
  obtain ⟨entity, recordId, digest, _, _, _, hentity, _, rfl⟩ := checkedContext_eq_some.mp hchecked
  simp [rebuiltRecord] at hhost hproc hsensor
  subst hhost hproc hsensor
  simp [rebuiltRecord] at hhostId hboot hsensorId hpid hstart hseq hentity
  simp only [contextOf, List.forall_mem_cons, h.endpoint_eq, h.subject_eq] at hequal
  obtain ⟨_, _, hendpoint, hsubject, _⟩ := hequal
  intro name nested hmem
  simp only [contextOf, List.mem_cons, Prod.mk.injEq, reduceCtorEq, and_false, PyVal.dict.injEq,
    List.not_mem_nil, or_false, false_or] at hmem
  rcases hmem with ⟨rfl, rfl⟩ | ⟨rfl, rfl⟩ | ⟨rfl, rfl⟩
  · refine ⟨endpoint, h.endpoint_eq, ?_⟩
    simp only [List.forall_mem_cons, List.not_mem_nil, false_imp_iff, implies_true, and_true]
    exact ⟨hagent, hhostId, get_of_pyEq hendpoint (by simp)⟩
  · refine ⟨subject, h.subject_eq, ?_⟩
    simp only [List.forall_mem_cons, List.not_mem_nil, false_imp_iff, implies_true, and_true]
    refine ⟨hpid, ?_, get_of_pyEq hsubject (by simp), get_of_pyEq hsubject (by simp),
      hentity⟩
    rw [h.ticks_eq, hstart]
  · refine ⟨proof, h.proof_eq, ?_⟩
    simp only [List.forall_mem_cons, List.not_mem_nil, false_imp_iff, implies_true, and_true]
    exact ⟨hboot, hsensorId, hseq⟩

/-- An extension of a built context rebuilds that context. -/
theorem Built.verifiedLinuxSubject_of_extends {rt : Runtime} {record agentId : PyVal}
    (b : Built record agentId) {context : Dict} (h : Extends context b.context) :
    verifiedLinuxSubject rt context = .ok true := by
  have hrecordId : Dict.get context "record_id" = .str (b.recordId.take 32) :=
    PyVal.pyEq_str.mp (h.equal ("record_id", _) (by simp [Built.context, contextOf]))
  obtain ⟨endpoint, hendpoint, hendpointSame⟩ := h.same "endpoint" _
    (by simp [Built.context, contextOf]; rfl)
  obtain ⟨subject, hsubject, hsubjectSame⟩ := h.same "subject" _
    (by simp [Built.context, contextOf]; rfl)
  obtain ⟨proof, hproof, hproofSame⟩ := h.same "linux_identity" _
    (by simp [Built.context, contextOf]; rfl)
  simp only [List.forall_mem_cons, List.not_mem_nil, false_imp_iff, implies_true, and_true]
    at hendpointSame hsubjectSame hproofSame
  obtain ⟨hagent, hhost, _⟩ := hendpointSame
  obtain ⟨hpid, hticks, _, _, hentity⟩ := hsubjectSame
  obtain ⟨hboot, hsensor, hseq⟩ := hproofSame
  have hrebuilds : Rebuilds context endpoint subject proof b.i.ticks :=
    ⟨hendpoint, hsubject, hproof, hticks,
      isNativeTicks_ofNat b.i.ticks.property.1 b.i.ticks.property.2⟩
  have hrebuilt : linuxEndpointContext
      (.dict (rebuiltRecord context endpoint subject proof b.i.ticks))
      (Dict.get endpoint "agent_id") = .ok (some b.context) := by
    refine linuxEndpointContext_eq_some.mpr
      ⟨_, _, _, _, b.agent, b.i, rfl, hagent, b.agent.property, rfl, rfl, rfl, ?_, ?_⟩
    · exact nativeIdentity?_eq_some.mpr
        (by simp [rebuiltRecord, hhost, hboot, hsensor, hpid, hseq])
    · exact checkedContext_eq_some.mpr ⟨b.entity, b.recordId, b.digest, b.entity_digest,
        b.record_digest, b.boot_digest, by simp [hentity], by simp [rebuiltRecord, hrecordId], rfl⟩
  rw [verifiedLinuxSubject_of_rebuilds hrebuilds, hrebuilt, ok_bind, Option.elim_some,
    List.all_eq_true.mpr h.equal]
  rfl

/-- **The recheck passes on the extensions of a built context, and on nothing else.** -/
theorem verifiedLinuxSubject_iff_extends (rt : Runtime) (context : Dict) :
    verifiedLinuxSubject rt context = .ok true ↔
      ∃ (record agentId : PyVal) (built : Dict),
        linuxEndpointContext record agentId = .ok (some built) ∧ Extends context built := by
  constructor
  · intro h
    by_cases hrebuilds : ∃ endpoint subject proof ticks,
      Rebuilds context endpoint subject proof ticks
    · obtain ⟨endpoint, subject, proof, ticks, hrebuilds⟩ := hrebuilds
      rw [verifiedLinuxSubject_of_rebuilds hrebuilds, bind_eq_ok] at h
      obtain ⟨rebuilt, hrebuilt, hall⟩ := h
      cases rebuilt with
      | none => simp at hall
      | some rebuilt =>
          refine ⟨_, _, rebuilt, hrebuilt, extends_of_rebuilt hrebuilds hrebuilt ?_⟩
          simpa using hall
    · simp [verifiedLinuxSubject_of_not_rebuilds hrebuilds] at h
  · intro h
    obtain ⟨record, agentId, built, hbuilt, hextends⟩ := h
    obtain ⟨b, rfl⟩ := exists_built hbuilt
    exact b.verifiedLinuxSubject_of_extends hextends

/-! ## With and without a context -/

/-- A boot-bound target without its boot. -/
def unbound (t : BootProcessTarget) : ProcessTarget :=
  ⟨t.pid, t.startTimeTicks, t.pid_pos, t.ticks_pos⟩

/-- The first translation is the second, or binds its process to a boot. -/
inductive Narrows : Translation → Translation → Prop where
  | same (tr : Translation) : Narrows tr tr
  | bound (command : Action) (t : BootProcessTarget) :
      Narrows
        { action := command.value
          target := (ClosedTarget.bootProcess t).toDict
          reason := "verified canonical native process target" }
        { action := command.value
          target := (ClosedTarget.process (unbound t)).toDict
          reason := "direct mapping" }

variable {rt : Runtime} {action : Text} {activeResponse : Dict} {context : PyVal}
  {tr : Translation}

/-- **A context narrows a translation and never makes one.**  What is translated with a context
is translated without it, to the same action on the same process, and the contract takes that
one too. -/
theorem translateRecommendation_narrows
    (h : translateRecommendation rt action activeResponse context = .ok (some tr)) :
    ∃ tr', translateRecommendation rt action activeResponse .none = .ok (some tr') ∧
      Narrows tr tr' ∧ (Accepted rt tr → Accepted rt tr') := by
  simp only [translateRecommendation_eq_some] at h ⊢
  cases h with
  | canonical haction hcontext v =>
      have hticks : (0 : Int) < v.target.startTimeTicks := Int.natCast_pos.mpr v.target.ticks_pos
      refine ⟨_, .legacy haction rfl v.named_pid v.named_ticks hticks, .bound _ v.target, ?_⟩
      intro _
      have hpid : (0 : Int) < v.target.pid := Int.natCast_pos.mpr v.target.pid_pos
      exact (accepted_process_iff haction.mem_processActions).mpr ⟨hpid, hticks⟩
  | legacy haction hcontext hpid hticks hpos =>
      exact ⟨_, .legacy haction rfl hpid hticks hpos, .same _, id⟩
  | file hpath hne => exact ⟨_, .file hpath hne, .same _, id⟩
  | host haction => exact ⟨_, .host haction, .same _, id⟩

theorem translateRecommendation_narrows_sample :
    ∃ tr tr', translateRecommendation .sample "TERMINATE_PROCESS" sampleRecommendation
        (sampleContext "agent-1") = .ok (some tr) ∧
      translateRecommendation .sample "TERMINATE_PROCESS" sampleRecommendation .none =
        .ok (some tr') ∧ Narrows tr tr' := by
  obtain ⟨tr, htr⟩ := exists_eq_ok_some (x := translateRecommendation .sample "TERMINATE_PROCESS"
    sampleRecommendation (sampleContext "agent-1")) (by decide +kernel)
  obtain ⟨tr', htr', hnarrows, _⟩ := translateRecommendation_narrows htr
  exact ⟨tr, tr', htr, htr', hnarrows⟩

end ResponseEngine.Recommendation
