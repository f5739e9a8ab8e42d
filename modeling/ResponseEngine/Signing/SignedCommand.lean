/-
  Signing/SignedCommand.lean --- what a signature covers.

  `SignedCommand` is the meaning of a signed envelope: the eight scalars and a
  closed target that fits the action.  `SignedCommand.encode?` writes it as twelve
  length-prefixed fields, and `encode?_inj` reads it back: the fields are framed
  unambiguously, and the flattened target is the target again.
-/
import ResponseEngine.Signing

set_option autoImplicit false

namespace ResponseEngine.Signing

open ResponseEngine.Foundation ResponseEngine.Python ResponseEngine.Python.Pydantic
open ResponseEngine.Contract

/-! ## The flattened target -/

/-- The four fields a target is flattened to. -/
@[ext] structure FlatTarget where
  pid : Nat
  startTimeTicks : Nat
  bootId : Text
  path : Text

/-- Absent entries are written as zero or as the empty text. -/
def flatten : ClosedTarget → FlatTarget
  | .process t => ⟨t.pid, t.startTimeTicks, [], []⟩
  | .bootProcess t => ⟨t.pid, t.startTimeTicks, t.bootId, []⟩
  | .file t => ⟨0, 0, [], t.path⟩
  | .host => ⟨0, 0, [], []⟩

theorem bootId_ne_nil (t : BootProcessTarget) : t.bootId ≠ [] := by
  intro h
  have hshape := t.boot_shape
  rw [h] at hshape
  exact absurd hshape (by decide)

/-- Nothing is lost in flattening: a zero PID, an empty boot or an empty path is never
the value of a present entry. -/
theorem flatten_injective : Function.Injective flatten := by
  intro s t h
  cases s with
  | process s =>
      cases t with
      | process t => cases s; cases t; simpa [flatten] using h
      | bootProcess t => simp [flatten, (bootId_ne_nil t).symm] at h
      | file t => simp [flatten, s.pid_pos.ne'] at h
      | host => simp [flatten, s.pid_pos.ne'] at h
  | bootProcess s =>
      cases t with
      | process t => simp [flatten, bootId_ne_nil s] at h
      | bootProcess t => cases s; cases t; simpa [flatten] using h
      | file t => simp [flatten, bootId_ne_nil s] at h
      | host => simp [flatten, bootId_ne_nil s] at h
  | file s =>
      cases t with
      | process t => simp [flatten, t.pid_pos.ne] at h
      | bootProcess t => simp [flatten, (bootId_ne_nil t).symm] at h
      | file t => cases s; cases t; simpa [flatten] using h
      | host => simp [flatten, s.path_ne_nil] at h
  | host =>
      cases t with
      | process t => simp [flatten, t.pid_pos.ne] at h
      | bootProcess t => simp [flatten, (bootId_ne_nil t).symm] at h
      | file t => simp [flatten, t.path_ne_nil.symm] at h
      | host => rfl

/-! ## Signed commands -/

/-- The meaning of a signed envelope. -/
@[ext] structure SignedCommand where
  version : SchemaVersion
  commandId : Text
  correlationId : Text
  agentId : Text
  hostId : Text
  action : Action
  createdAt : Nat
  expiresAt : Nat
  target : ClosedTarget

namespace SignedCommand

/-- The names of the fields, in order. -/
def names : List String :=
  ["schema_version", "command_id", "correlation_id", "agent_id", "host_id", "action", "created_at",
    "expires_at", "pid", "start_time_ticks", "boot_id", "path"]

/-- The contents of the fields, in order. -/
def contents (s : SignedCommand) : List Text :=
  [s.version.value, s.commandId, s.correlationId, s.agentId, s.hostId, s.action.value,
    Text.ofNat s.createdAt, Text.ofNat s.expiresAt, Text.ofNat (flatten s.target).pid,
    Text.ofNat (flatten s.target).startTimeTicks, (flatten s.target).bootId,
    (flatten s.target).path]

theorem contents_injective : Function.Injective contents := by
  intro s t h
  simp only [contents, List.cons.injEq, Text.ofString_inj, Text.ofNat_inj, and_true] at h
  obtain ⟨hversion, hcommand, hcorrelation, hagent, hhost, haction, hcreated, hexpires, hpid,
    hticks, hboot, hpath⟩ := h
  have htarget : s.target = t.target := flatten_injective (by
    cases hs : flatten s.target
    cases ht : flatten t.target
    simp_all)
  exact SignedCommand.ext (Vocabulary.text_injective hversion) hcommand hcorrelation hagent hhost
    (Vocabulary.text_injective haction) hcreated hexpires htarget

end SignedCommand

/-! ## Encoding -/

/-- The bytes of named fields, each a name, a length-prefixed text and a newline. -/
def recordBytes (names : List String) (data : List (List UInt8)) : List UInt8 :=
  Text.decimalPrefix.record 10 ((names.map fun name => Text.utf8 name.toList).zip data)

/-- Equally named records of the same bytes hold the same data. -/
theorem recordBytes_inj {names : List String} {data₁ data₂ : List (List UInt8)}
    (h₁ : data₁.length = names.length) (h₂ : data₂.length = names.length)
    (h : recordBytes names data₁ = recordBytes names data₂) : data₁ = data₂ := by
  have hfst : ∀ data : List (List UInt8), data.length = names.length →
      ((names.map fun name => Text.utf8 name.toList).zip data).map Prod.fst =
        names.map fun name => Text.utf8 name.toList :=
    fun data hlength => List.map_fst_zip (by simp [hlength])
  have hsnd : ∀ data : List (List UInt8), data.length = names.length →
      ((names.map fun name => Text.utf8 name.toList).zip data).map Prod.snd = data :=
    fun data hlength => List.map_snd_zip (by simp [hlength])
  have hfields := Text.decimalPrefix.record_inj 10 ((hfst data₁ h₁).trans (hfst data₂ h₂).symm) h
  rw [← hsnd data₁ h₁, ← hsnd data₂ h₂, hfields]

namespace SignedCommand

/-- The signing bytes of a command; a lone surrogate in it has none. -/
def encode? (s : SignedCommand) : Option (List UInt8) :=
  (Text.utf8All? s.contents).map fun data => domain ++ recordBytes names data

theorem encode?_eq_some {s : SignedCommand} {bytes : List UInt8} :
    s.encode? = some bytes ↔
      ∃ data, s.contents.map Text.utf8? = data.map some ∧
        bytes = domain ++ recordBytes names data := by
  simp only [encode?, Option.map_eq_some_iff, Text.utf8All?_eq_some]
  simp only [eq_comm]

/-- **A signature covers one command.** -/
theorem encode?_inj {s t : SignedCommand} {bytes : List UInt8} (hs : s.encode? = some bytes)
    (ht : t.encode? = some bytes) : s = t := by
  obtain ⟨data₁, hdata₁, rfl⟩ := encode?_eq_some.mp hs
  obtain ⟨data₂, hdata₂, hbytes⟩ := encode?_eq_some.mp ht
  have hlength : ∀ (u : SignedCommand) {data : List (List UInt8)},
      u.contents.map Text.utf8? = data.map some → data.length = names.length := by
    intro u data h
    simpa [contents, names] using (congrArg List.length h).symm
  have hdata : data₁ = data₂ :=
    recordBytes_inj (hlength s hdata₁) (hlength t hdata₂) (List.append_cancel_left hbytes)
  exact contents_injective (Text.map_utf8?_injective hdata₁ (hdata ▸ hdata₂))

end SignedCommand

end ResponseEngine.Signing
