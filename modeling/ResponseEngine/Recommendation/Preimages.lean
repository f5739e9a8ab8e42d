/-
  Recommendation/Preimages.lean --- the strings that identities are hashed from.

  A Linux identity is hashed from its parts joined by bars.  The first part is any
  text and may hold bars itself; the others hold none, so the join is read from the
  right.  Read so, a boot UUID would have to be a decimal number for a string of the
  one format to be one of the other.  A native identity is hashed from netstrings,
  which are read from the left.
-/
import ResponseEngine.Recommendation.CanonicalTarget

set_option autoImplicit false

namespace ResponseEngine.Recommendation

open ResponseEngine.Foundation ResponseEngine.Python ResponseEngine.LinuxIdentity

/-! ## The parts -/

theorem bar_not_mem_uuid (boot : Uuid) : CodePoint.scalar '|' ∉ boot.val :=
  Text.not_mem_of_fullmatch (by decide) boot.property

theorem bar_not_mem_ofNat (n : ℕ) : CodePoint.scalar '|' ∉ Text.ofNat n :=
  Text.not_mem_ofNat (by decide)

/-- A UUID is not a decimal number: it has dashes. -/
theorem uuid_ne_ofNat (boot : Uuid) (n : ℕ) : boot.val ≠ Text.ofNat n := by
  intro h
  have hlit : Text.lit '-' ∈ uuidPattern := by simp [uuidPattern, Text.lits]
  have hdash : CodePoint.scalar '-' ∈ boot.val := Text.mem_of_fullmatch hlit boot.property
  rw [h] at hdash
  exact Text.not_mem_ofNat (by decide) hdash

/-! ## Linux identities -/

/-- `f"{host_id}|{boot}|{pid}|{ticks}"`, whatever the size of the numbers. -/
def entityText (hostId : Text) (boot : Uuid) (pid ticks : ℕ) : Text :=
  hostId ++ ("|" : Text) ++ boot.val ++ ("|" : Text) ++ Text.ofNat pid ++ ("|" : Text) ++
    Text.ofNat ticks

/-- `f"{sensor_id}|{boot}|{seq}"`, whatever the size of the number. -/
def recordText (sensorId : Text) (boot : Uuid) (seq : ℕ) : Text :=
  sensorId ++ ("|" : Text) ++ boot.val ++ ("|" : Text) ++ Text.ofNat seq

theorem NativeIdentity.entityPreimage_eq (i : NativeIdentity) :
    i.entityPreimage = entityText i.hostId.val i.boot i.pid.val i.ticks.val := rfl

theorem NativeIdentity.recordPreimage_eq (i : NativeIdentity) :
    i.recordPreimage = recordText i.sensorId.val i.boot i.seq.val := rfl

variable {hostId hostId' sensorId sensorId' : Text} {boot boot' : Uuid}
  {pid pid' ticks ticks' seq seq' : ℕ}

/-- `host|boot|pid|ticks` is split from the right: only the host may hold a bar. -/
theorem entityText_inj
    (h : entityText hostId boot pid ticks = entityText hostId' boot' pid' ticks') :
    hostId = hostId' ∧ boot = boot' ∧ pid = pid' ∧ ticks = ticks' := by
  unfold entityText at h
  obtain ⟨h, hticks⟩ := Text.eq_of_append_char_eq (bar_not_mem_ofNat _) (bar_not_mem_ofNat _) h
  obtain ⟨h, hpid⟩ := Text.eq_of_append_char_eq (bar_not_mem_ofNat _) (bar_not_mem_ofNat _) h
  obtain ⟨hhost, hboot⟩ := Text.eq_of_append_char_eq (bar_not_mem_uuid _) (bar_not_mem_uuid _) h
  exact ⟨hhost, Subtype.ext hboot, Text.ofNat_inj.mp hpid, Text.ofNat_inj.mp hticks⟩

/-- `sensor|boot|seq` is split from the right: only the sensor may hold a bar. -/
theorem recordText_inj (h : recordText sensorId boot seq = recordText sensorId' boot' seq') :
    sensorId = sensorId' ∧ boot = boot' ∧ seq = seq' := by
  unfold recordText at h
  obtain ⟨h, hseq⟩ := Text.eq_of_append_char_eq (bar_not_mem_ofNat _) (bar_not_mem_ofNat _) h
  obtain ⟨hsensor, hboot⟩ := Text.eq_of_append_char_eq (bar_not_mem_uuid _) (bar_not_mem_uuid _) h
  exact ⟨hsensor, Subtype.ext hboot, Text.ofNat_inj.mp hseq⟩

/-- The last part but one is a number in the one format and a UUID in the other. -/
theorem entityText_ne_recordText (hostId sensorId : Text) (boot boot' : Uuid)
    (pid ticks seq : ℕ) : entityText hostId boot pid ticks ≠ recordText sensorId boot' seq := by
  intro h
  unfold entityText recordText at h
  obtain ⟨h, _⟩ := Text.eq_of_append_char_eq (bar_not_mem_ofNat _) (bar_not_mem_ofNat _) h
  obtain ⟨_, hpid⟩ := Text.eq_of_append_char_eq (bar_not_mem_ofNat _) (bar_not_mem_uuid _) h
  exact uuid_ne_ofNat boot' pid hpid.symm

/-! ## Native identities -/

/-- The material that a native identity is hashed from; a part that is not encodable
raises. -/
def nativeMaterial (host boot : Text) (pid : ℤ) (ticks : Text) : Except PyError Text := do
  return (← (nativeFields host boot pid ticks).mapM nativeField).flatten

/-- The native entity id is the digest of the material. -/
theorem nativeEntityId_eq (host boot : Text) (pid : ℤ) (ticks : Text) :
    nativeEntityId host boot pid ticks = do
      let material ← nativeMaterial host boot pid ticks
      return ("proc_" : Text) ++ (← sha256Hex material) := by
  rw [nativeMaterial, bind_assoc]
  rfl

/-- The material announces the length of each part. -/
theorem nativeMaterial_inj {host host' bootId bootId' ticks ticks' material : Text} {pid pid' : ℤ}
    (h : nativeMaterial host bootId pid ticks = .ok material)
    (h' : nativeMaterial host' bootId' pid' ticks' = .ok material) :
    host = host' ∧ bootId = bootId' ∧ pid = pid' ∧ ticks = ticks' := by
  simp only [nativeMaterial, bind_eq_ok, pure_eq_ok, Except.ok.injEq] at h h'
  obtain ⟨texts, htexts, rfl⟩ := h
  obtain ⟨texts', htexts', hflatten⟩ := h'
  have hfields := nativeFields_inj (by rfl) htexts htexts' hflatten.symm
  simp only [nativeFields, List.cons.injEq, and_true, true_and] at hfields
  obtain ⟨hhost, hboot, hpid, hticks⟩ := hfields
  exact ⟨hhost, hboot, Text.ofInt_injective hpid, hticks⟩

/-! ## All formats -/

/-- **The strings that are hashed are unambiguous.**  An entity string determines its four
parts and a record string its three, whatever the first part holds; no string is of both
formats; and the material of a native identity determines its four parts. -/
theorem preimages_unambiguous :
    (∀ (host host' : NonemptyText) (boot boot' : Uuid) (pid pid' ticks ticks' : ℕ),
      entityText host boot pid ticks = entityText host' boot' pid' ticks' →
      host = host' ∧ boot = boot' ∧ pid = pid' ∧ ticks = ticks') ∧
    (∀ (sensor sensor' : NonemptyText) (boot boot' : Uuid) (seq seq' : ℕ),
      recordText sensor boot seq = recordText sensor' boot' seq' →
      sensor = sensor' ∧ boot = boot' ∧ seq = seq') ∧
    (∀ (host sensor : NonemptyText) (boot boot' : Uuid) (pid ticks seq : ℕ),
      entityText host boot pid ticks ≠ recordText sensor boot' seq) ∧
    ∀ (host host' bootId bootId' ticks ticks' material : Text) (pid pid' : ℤ),
      nativeMaterial host bootId pid ticks = .ok material →
      nativeMaterial host' bootId' pid' ticks' = .ok material →
      host = host' ∧ bootId = bootId' ∧ pid = pid' ∧ ticks = ticks' := by
  refine ⟨?_, ?_, ?_, ?_⟩
  · intro host host' boot boot' pid pid' ticks ticks' h
    obtain ⟨hhost, hrest⟩ := entityText_inj h
    exact ⟨Subtype.ext hhost, hrest⟩
  · intro sensor sensor' boot boot' seq seq' h
    obtain ⟨hsensor, hrest⟩ := recordText_inj h
    exact ⟨Subtype.ext hsensor, hrest⟩
  · intro host sensor boot boot' pid ticks seq
    apply entityText_ne_recordText
  · intro host host' bootId bootId' ticks ticks' material pid pid' h h'
    exact nativeMaterial_inj h h'

end ResponseEngine.Recommendation
