/-
  Triage/PathGrammar.lean --- the paths that `ApprovedFile` accepts.

  `NativePath` is a grammar: it relates a path to its components and mentions no slice,
  no split and no regular expression.  The validator accepts exactly the paths of the
  grammar (`modelValidate_iff_nativePath`), and each of them has one reading, the
  components that the validator computed.
-/
import ResponseEngine.Triage.DeviceNames

set_option autoImplicit false

namespace ResponseEngine.Triage

open ResponseEngine.Foundation ResponseEngine.Python ResponseEngine.Python.Pydantic

/-! ## The grammar -/

/-- No control character and no wildcard occurs. -/
def Clean (path : Text) : Prop :=
  ∀ c ∈ path, 32 ≤ c.ord ∧ c.ord ≠ 127 ∧ c ∉ Text.ofString "*?[]"

/-- A device name alone, or followed by a dot and anything. -/
def Reserved (part : Text) : Prop :=
  ∃ stem extension, part = stem ++ extension ∧ IsDeviceName stem ∧
    (extension = [] ∨ ∃ rest, extension = .scalar '.' :: rest)

/-- A component that Windows takes literally. -/
structure WindowsComponent (part : Text) : Prop where
  nonempty : part ≠ []
  plain : ∀ c ∈ Text.ofString "<>:\"|", c ∉ part
  ending : part.getLast? ≠ some (.scalar '.') ∧ part.getLast? ≠ some (.scalar ' ')
  unreserved : ¬ Reserved part

/-- A slash, and one or more components joined by single slashes. -/
structure LinuxPath (path : Text) (components : List Text) : Prop where
  rooted : path = .scalar '/' :: [CodePoint.scalar '/'].intercalate components
  nonempty : components ≠ []
  separated : ∀ part ∈ components, CodePoint.scalar '/' ∉ part
  literal : ∀ part ∈ components, part ≠ [] ∧ part ≠ "." ∧ part ≠ ".."
  noBackslash : CodePoint.scalar '\\' ∉ path

/-- A drive letter, a colon and a backslash, and one or more components joined by single
backslashes. -/
structure WindowsPath (path : Text) (components : List Text) : Prop where
  rooted : ∃ letter, isLetter letter = true ∧
    path = letter :: .scalar ':' :: .scalar '\\' ::
      [CodePoint.scalar '\\'].intercalate components
  nonempty : components ≠ []
  separated : ∀ part ∈ components, CodePoint.scalar '\\' ∉ part
  literal : ∀ part ∈ components, WindowsComponent part
  noSlash : CodePoint.scalar '/' ∉ path

/-- An absolute path of the platform, and its components. -/
def NativePath : Platform → Text → List Text → Prop
  | .linux => LinuxPath
  | .windows => WindowsPath

/-! ## Characters and components -/

theorem clean_iff {path : Text} :
    (path.any isControl || (Text.ofString "*?[]").any fun c => decide (c ∈ path)) = false ↔
      Clean path := by
  simp only [Bool.or_eq_false_iff, List.any_eq_false, isControl, Bool.or_eq_true,
    decide_eq_true_eq, not_or, not_lt]
  constructor
  · rintro ⟨hcontrol, hwildcard⟩ c hc
    exact ⟨(hcontrol c hc).1, (hcontrol c hc).2, fun hmem => hwildcard c hmem hc⟩
  · intro h
    exact ⟨fun c hc => ⟨(h c hc).1, (h c hc).2.1⟩, fun c hmem hc => (h c hc).2.2 hmem⟩

/-- Without control characters, what follows the dot of an extension does not matter. -/
theorem isExtension_iff {extension : Text} (hclean : Clean extension) :
    isExtension extension = true ↔
      extension = [] ∨ ∃ rest, extension = .scalar '.' :: rest := by
  cases extension with
  | nil => simp [isExtension]
  | cons c rest =>
      have hnewline : CodePoint.scalar '\n' ∉ rest := by
        intro hmem
        have hcontrol := (hclean _ (List.mem_cons_of_mem c hmem)).1
        exact absurd hcontrol (by decide)
      simp [isExtension, hnewline]

theorem isReservedName_eq_true {part : Text} (hclean : Clean part) :
    isReservedName part = true ↔ Reserved part := by
  rw [isReservedName_iff]
  constructor
  · rintro ⟨stem, extension, rfl, hstem, hextension⟩
    have hrest : Clean extension := fun c hc => hclean c (List.mem_append_right stem hc)
    exact ⟨stem, extension, rfl, hstem, (isExtension_iff hrest).mp hextension⟩
  · rintro ⟨stem, extension, rfl, hstem, hextension⟩
    have hrest : Clean extension := fun c hc => hclean c (List.mem_append_right stem hc)
    exact ⟨stem, extension, rfl, hstem, (isExtension_iff hrest).mpr hextension⟩

/-- The source refuses the components that Windows does not take literally; `.` and `..`
end in a dot. -/
theorem windowsComponent_iff {part : Text} (hclean : Clean part) :
    WindowsComponent part ↔
      isRefusedPart part = false ∧ part ∉ ([[], ".", ".."] : List Text) := by
  have hrefused : isRefusedPart part = false ↔ (∀ c ∈ Text.ofString "<>:\"|", c ∉ part) ∧
      (part.getLast? ≠ some (.scalar '.') ∧ part.getLast? ≠ some (.scalar ' ')) ∧
        ¬ Reserved part := by
    rw [← isReservedName_eq_true hclean]
    simp only [isRefusedPart, endsWithDotOrSpace, Bool.or_eq_false_iff, List.any_eq_false,
      decide_eq_true_eq, beq_eq_false_iff_ne, ne_eq, Bool.not_eq_true, and_assoc]
  rw [hrefused]
  constructor
  · intro h
    refine ⟨⟨h.plain, h.ending, h.unreserved⟩, ?_⟩
    simp only [List.mem_cons, List.not_mem_nil, or_false, not_or]
    refine ⟨h.nonempty, ?_, ?_⟩
    · rintro rfl
      exact h.ending.1 rfl
    · rintro rfl
      exact h.ending.1 rfl
  · rintro ⟨⟨hplain, hending, hunreserved⟩, hliteral⟩
    exact ⟨fun hnil => hliteral (by simp [hnil]), hplain, hending, hunreserved⟩

/-! ## The two platforms -/

/-- What the validator requires of the components that it computed. -/
def Admitted (parts : List Text × Bool) : Prop :=
  parts.2 = true ∧ ∀ part ∈ parts.1, part ∉ ([[], ".", ".."] : List Text)

theorem linuxParts_cons (rest : Text) :
    (ApprovedFile.linuxParts (.scalar '/' :: rest)).1 = rest.splitOn (.scalar '/') := by
  rw [ApprovedFile.linuxParts, List.splitOn_cons_eq_if_modifyHead, if_pos (beq_self_eq_true _)]
  rfl

/-- A second slash at the start makes the first component empty. -/
theorem startsWith_doubleSlash {rest : Text} :
    Text.startsWith (.scalar '/' :: rest) "//" = true → [] ∈ rest.splitOn (.scalar '/') := by
  intro h
  cases rest with
  | nil => simp [Text.startsWith, Text.ofString, Text.ofChars] at h
  | cons c rest =>
      have hslash : .scalar '/' = c := by
        simpa [Text.startsWith, Text.ofString, Text.ofChars] using h
      rw [← hslash, List.splitOn_cons_eq_if_modifyHead, if_pos (beq_self_eq_true _)]
      exact List.mem_cons_self

theorem startsWith_slash {path : Text} :
    Text.startsWith path "/" = true ↔ ∃ rest, path = .scalar '/' :: rest := by
  cases path with
  | nil => simp [Text.startsWith, Text.ofString, Text.ofChars]
  | cons c rest =>
      have hslash : Text.startsWith (c :: rest) "/" = true ↔ .scalar '/' = c := by
        simp [Text.startsWith, Text.ofString, Text.ofChars]
      rw [hslash]
      constructor
      · rintro rfl
        exact ⟨rest, rfl⟩
      · rintro ⟨_, h⟩
        exact (List.cons.inj h).1.symm

theorem linuxParts_sound {path : Text} (h : Admitted (ApprovedFile.linuxParts path)) :
    LinuxPath path (ApprovedFile.linuxParts path).1 := by
  obtain ⟨hvalid, hliteral⟩ := h
  simp only [ApprovedFile.linuxParts, Bool.and_eq_true, Bool.not_eq_true', decide_eq_false_iff_not]
    at hvalid
  obtain ⟨⟨hslash, _⟩, hbackslash⟩ := hvalid
  obtain ⟨rest, rfl⟩ := startsWith_slash.mp hslash
  rw [linuxParts_cons] at hliteral ⊢
  obtain ⟨hne, hseparated, hjoined⟩ := Framing.splitOn_eq_iff.mp (Eq.refl (rest.splitOn _))
  refine ⟨by rw [hjoined], hne, hseparated, fun part hpart => ?_, hbackslash⟩
  simpa using hliteral part hpart

theorem linuxParts_complete {path : Text} {components : List Text}
    (h : LinuxPath path components) :
    Admitted (ApprovedFile.linuxParts path) ∧
      (ApprovedFile.linuxParts path).1 = components := by
  obtain ⟨rfl, hne, hseparated, hliteral, hbackslash⟩ := h
  have hsplit := Framing.splitOn_eq_iff.mpr ⟨hne, hseparated, rfl⟩
  rw [Admitted, linuxParts_cons, hsplit]
  refine ⟨⟨?_, fun part hpart => by simpa using hliteral part hpart⟩, rfl⟩
  have hdouble : Text.startsWith (.scalar '/' :: [CodePoint.scalar '/'].intercalate components)
      "//" = false := by
    rw [← Bool.not_eq_true]
    intro hstarts
    have hempty := startsWith_doubleSlash hstarts
    rw [hsplit] at hempty
    exact (hliteral [] hempty).1 rfl
  simp [ApprovedFile.linuxParts, startsWith_slash, hdouble, hbackslash]

theorem startsWithDrive_iff {path : Text} :
    startsWithDrive path = true ↔ ∃ letter rest, isLetter letter = true ∧
      path = letter :: .scalar ':' :: .scalar '\\' :: rest := by
  rcases path with _ | ⟨c₁, _ | ⟨c₂, _ | ⟨c₃, rest⟩⟩⟩
  · simp [startsWithDrive, Text.fullmatch]
  · simp [startsWithDrive, Text.fullmatch]
  · simp [startsWithDrive, Text.fullmatch]
  · simp [startsWithDrive, Text.fullmatch, Text.lit]

theorem windowsParts_cons (letter : CodePoint) (rest : Text) :
    (ApprovedFile.windowsParts (letter :: .scalar ':' :: .scalar '\\' :: rest)).1 =
      rest.splitOn (.scalar '\\') :=
  rfl

/-- The components of a path have its characters only. -/
theorem clean_of_mem {letter : CodePoint} {components : List Text}
    (hclean : Clean (letter :: .scalar ':' :: .scalar '\\' ::
      [CodePoint.scalar '\\'].intercalate components))
    {part : Text} (hpart : part ∈ components) : Clean part := by
  intro c hc
  have hmem : c ∈ [CodePoint.scalar '\\'].intercalate components :=
    Framing.mem_intercalate_of_mem hpart hc
  apply hclean
  simp [hmem]

theorem windowsParts_sound {path : Text} (hclean : Clean path)
    (h : Admitted (ApprovedFile.windowsParts path)) :
    WindowsPath path (ApprovedFile.windowsParts path).1 := by
  obtain ⟨hvalid, hliteral⟩ := h
  simp only [ApprovedFile.windowsParts, Bool.and_eq_true, Bool.not_eq_true',
    decide_eq_false_iff_not, List.any_eq_false, Bool.not_eq_true] at hvalid
  obtain ⟨⟨hdrive, hslash⟩, hrefused⟩ := hvalid
  obtain ⟨letter, rest, hletter, rfl⟩ := startsWithDrive_iff.mp hdrive
  rw [windowsParts_cons] at hliteral ⊢
  obtain ⟨hne, hseparated, hjoined⟩ := Framing.splitOn_eq_iff.mp (Eq.refl (rest.splitOn _))
  refine ⟨⟨letter, hletter, by rw [hjoined]⟩, hne, hseparated, fun part hpart => ?_, hslash⟩
  rw [← hjoined] at hclean
  exact (windowsComponent_iff (clean_of_mem hclean hpart)).mpr
    ⟨hrefused part hpart, hliteral part hpart⟩

theorem windowsParts_complete {path : Text} (hclean : Clean path) {components : List Text}
    (h : WindowsPath path components) :
    Admitted (ApprovedFile.windowsParts path) ∧
      (ApprovedFile.windowsParts path).1 = components := by
  obtain ⟨⟨letter, hletter, rfl⟩, hne, hseparated, hliteral, hslash⟩ := h
  have hsplit := Framing.splitOn_eq_iff.mpr ⟨hne, hseparated, rfl⟩
  have hparts : ∀ part ∈ components, isRefusedPart part = false ∧
      part ∉ ([[], ".", ".."] : List Text) := by
    intro part hpart
    exact (windowsComponent_iff (clean_of_mem hclean hpart)).mp (hliteral part hpart)
  rw [Admitted, windowsParts_cons, hsplit]
  refine ⟨⟨?_, fun part hpart => (hparts part hpart).2⟩, rfl⟩
  have hdrive : startsWithDrive (letter :: .scalar ':' :: .scalar '\\' ::
      [CodePoint.scalar '\\'].intercalate components) = true :=
    startsWithDrive_iff.mpr ⟨letter, _, hletter, rfl⟩
  have hrefused : components.any isRefusedPart = false := by
    rw [List.any_eq_false]
    intro part hpart
    simp [(hparts part hpart).1]
  rw [ApprovedFile.windowsParts, hdrive]
  simp only [List.drop_succ_cons, List.drop_zero, hsplit, hrefused, hslash, decide_false,
    Bool.not_false, Bool.and_self]

/-! ## The paths that pass -/

/-- The validator accepts the clean texts whose components it admits. -/
theorem exactNativePath_eq_ok {file : ApprovedFile} :
    file.exactNativePath = .ok () ↔ Clean file.path ∧ file.path.Encodable ∧
      Admitted (ApprovedFile.nativeParts file.platform file.path) := by
  simp only [ApprovedFile.exactNativePath, bind_eq_ok, raiseIf_eq_ok, clean_iff]
  simp only [Bool.not_eq_false', decide_eq_true_eq, Bool.or_eq_false_iff, List.any_eq_false,
    Admitted]
  constructor
  · rintro ⟨_, hclean, _, hencodable, hvalid, hliteral⟩
    exact ⟨hclean, hencodable, hvalid, hliteral⟩
  · rintro ⟨hclean, hencodable, hvalid, hliteral⟩
    exact ⟨(), hclean, (), hencodable, hvalid, hliteral⟩

/-- The source admits the components that it computed when they are those of a native
path, and a native path has no others. -/
theorem nativePath_iff {platform : Platform} {path : Text} (hclean : Clean path)
    {components : List Text} :
    NativePath platform path components ↔
      Admitted (ApprovedFile.nativeParts platform path) ∧
        components = (ApprovedFile.nativeParts platform path).1 := by
  cases platform with
  | linux =>
      constructor
      · intro h
        obtain ⟨hadmitted, hparts⟩ := linuxParts_complete h
        exact ⟨hadmitted, hparts.symm⟩
      · rintro ⟨hadmitted, rfl⟩
        exact linuxParts_sound hadmitted
  | windows =>
      constructor
      · intro h
        obtain ⟨hadmitted, hparts⟩ := windowsParts_complete hclean h
        exact ⟨hadmitted, hparts.symm⟩
      · rintro ⟨hadmitted, rfl⟩
        exact windowsParts_sound hclean hadmitted

theorem modelValidate_fields_iff {platform : Platform} {path : Text} :
    (∃ file, ApprovedFile.modelValidate (ApprovedFile.fields platform (.str path)) = .ok file) ↔
      ApprovedFile.Accepted { platform, path } := by
  constructor
  · rintro ⟨file, hfile⟩
    obtain ⟨t, ht, hval⟩ := ApprovedFile.modelValidate_fields_eq_ok.mp hfile
    obtain rfl := PyVal.str.inj ht
    rw [← hval]
    exact file.property
  · intro h
    exact ⟨⟨_, h⟩, ApprovedFile.modelValidate_fields_eq_ok.mpr ⟨path, rfl, rfl⟩⟩

/-- **The paths that `ApprovedFile` accepts are those of the grammar**, within the length
bounds and without control characters and wildcards.  The components that are joined to
such a path are its only ones. -/
theorem modelValidate_iff_nativePath (platform : Platform) (path : Text) :
    (∃ file, ApprovedFile.modelValidate (ApprovedFile.fields platform (.str path)) = .ok file) ↔
      boundedText 1 4096 path = true ∧ Clean path ∧
        ∃! components, NativePath platform path components := by
  rw [modelValidate_fields_iff]
  constructor
  · intro h
    obtain ⟨hclean, _, hadmitted⟩ := exactNativePath_eq_ok.mp h.exact
    refine ⟨h.bounded, hclean, _, (nativePath_iff hclean).mpr ⟨hadmitted, rfl⟩, ?_⟩
    intro components hpath
    exact ((nativePath_iff hclean).mp hpath).2
  · rintro ⟨hbounded, hclean, components, hpath, _⟩
    have hadmitted := ((nativePath_iff hclean).mp hpath).1
    have hencodable := (boundedText_iff.mp hbounded).1
    exact ⟨hbounded, exactNativePath_eq_ok.mpr ⟨hclean, hencodable, hadmitted⟩⟩

/-! ## Devices -/

/-- The name by which Windows recognises a device in a component: the text before the
first dot, without the spaces at its end. -/
def win32BaseName (part : Text) : Text :=
  (part.takeWhile (· != .scalar '.')).rdropWhile (· == .scalar ' ')

/-- A device name, one or more spaces, and a dot. -/
def SpacedDevice (part : Text) : Prop :=
  ∃ stem spaces extension, IsDeviceName stem ∧ 0 < spaces ∧
    part = stem ++ List.replicate spaces (.scalar ' ') ++ .scalar '.' :: extension

/-- A component is its base name, spaces, and what starts at its first dot. -/
theorem exists_eq_win32BaseName_append (part : Text) :
    ∃ spaces rest, part = win32BaseName part ++ List.replicate spaces (.scalar ' ') ++ rest ∧
      (rest = [] ∨ ∃ extension, rest = .scalar '.' :: extension) := by
  let isSpace : CodePoint → Bool := (· == .scalar ' ')
  let beforeDot : CodePoint → Bool := (· != .scalar '.')
  let name := part.takeWhile beforeDot
  have hall : ∀ c ∈ name.rtakeWhile isSpace, c = .scalar ' ' := by
    intro c hc
    have hspace : isSpace c = true := List.mem_rtakeWhile_imp hc
    exact eq_of_beq hspace
  have hspaces := List.eq_replicate_of_mem hall
  refine ⟨(name.rtakeWhile isSpace).length, part.dropWhile beforeDot, ?_, ?_⟩
  · rw [← hspaces]
    calc part = name ++ part.dropWhile beforeDot := List.takeWhile_append_dropWhile.symm
      _ = (name.rdropWhile isSpace ++ name.rtakeWhile isSpace) ++ part.dropWhile beforeDot := by
        rw [List.rdropWhile_append_rtakeWhile]
  · cases hrest : part.dropWhile beforeDot with
    | nil => exact .inl rfl
    | cons c extension =>
        have hdot := List.head?_dropWhile_not beforeDot part
        rw [hrest] at hdot
        have hc : c = .scalar '.' := by simpa [beforeDot] using hdot
        exact .inr ⟨extension, by rw [hc]⟩

/-- A device name has neither dots nor spaces. -/
theorem not_mem_of_isDeviceName {stem : Text} (h : IsDeviceName stem) :
    CodePoint.scalar '.' ∉ stem ∧ CodePoint.scalar ' ' ∉ stem := by
  have hnames : ∀ name ∈ deviceNames,
      upperCase (.scalar '.') ∉ name ∧ upperCase (.scalar ' ') ∉ name := by decide
  obtain ⟨hdot, hspace⟩ := hnames _ h
  exact ⟨fun hmem => hdot (List.mem_map_of_mem hmem), fun hmem => hspace (List.mem_map_of_mem hmem)⟩

theorem win32BaseName_append {stem : Text} (spaces : ℕ) (extension : Text)
    (hdot : CodePoint.scalar '.' ∉ stem) (hspace : CodePoint.scalar ' ' ∉ stem) :
    win32BaseName (stem ++ List.replicate spaces (.scalar ' ') ++ .scalar '.' :: extension) =
      stem := by
  have hbefore : ∀ c ∈ stem ++ List.replicate spaces (CodePoint.scalar ' '),
      (c != .scalar '.') = true := by
    intro c hc
    rw [bne_iff_ne]
    rintro rfl
    rcases List.mem_append.mp hc with hc | hc
    · exact hdot hc
    · exact absurd (List.eq_of_mem_replicate hc) (by decide)
  have hlast : stem.rdropWhile (· == .scalar ' ') = stem := by
    rw [List.rdropWhile_eq_self_iff]
    intro hne hlast
    exact hspace (eq_of_beq hlast ▸ List.getLast_mem hne)
  rw [win32BaseName, List.takeWhile_append_of_pos hbefore,
    List.takeWhile_cons_of_neg (by simp), List.append_nil, List.rdropWhile, List.reverse_append,
    List.reverse_replicate, List.dropWhile_append_of_pos (by simp)]
  exact hlast

/-- Of the components that pass, those that Windows takes for a device are the device
names with spaces before their extension. -/
theorem isDeviceName_win32BaseName_iff {part : Text} (h : WindowsComponent part) :
    IsDeviceName (win32BaseName part) ↔ SpacedDevice part := by
  constructor
  · intro hdevice
    obtain ⟨spaces, rest, hpart, hrest⟩ := exists_eq_win32BaseName_append part
    cases spaces with
    | zero =>
        rw [List.replicate_zero, List.append_nil] at hpart
        exact absurd ⟨_, rest, hpart, hdevice, hrest⟩ h.unreserved
    | succ spaces =>
        rcases hrest with rfl | ⟨extension, rfl⟩
        · refine absurd ?_ h.ending.2
          rw [hpart, List.append_nil, List.replicate_succ', ← List.append_assoc]
          exact List.getLast?_concat
        · exact ⟨_, spaces + 1, extension, hdevice, Nat.succ_pos spaces, hpart⟩
  · rintro ⟨stem, spaces, extension, hdevice, _, rfl⟩
    obtain ⟨hdot, hspace⟩ := not_mem_of_isDeviceName hdevice
    rw [win32BaseName_append spaces extension hdot hspace]
    exact hdevice

/-- **When an accepted Windows path names no device**: when none of its components is a
device name with spaces before its extension. -/
theorem windowsPath_names_no_device_iff {path : Text} {file : CheckedFile}
    (h : ApprovedFile.modelValidate (ApprovedFile.fields .windows (.str path)) = .ok file) :
    (∀ part ∈ (ApprovedFile.windowsParts path).1, ¬ IsDeviceName (win32BaseName part)) ↔
      ∀ part ∈ (ApprovedFile.windowsParts path).1, ¬ SpacedDevice part := by
  obtain ⟨hclean, _, hadmitted⟩ :=
    exactNativePath_eq_ok.mp (modelValidate_fields_iff.mp ⟨file, h⟩).exact
  have hpath := windowsParts_sound hclean hadmitted
  apply forall₂_congr
  intro part hpart
  rw [isDeviceName_win32BaseName_iff (hpath.literal part hpart)]

theorem accepted_windows (path : Text) (hbounded : boundedText 1 4096 path = true)
    (hexact : ApprovedFile.exactNativePath { platform := .windows, path } = .ok ()) :
    ∃ file, ApprovedFile.modelValidate (ApprovedFile.fields .windows (.str path)) = .ok file :=
  modelValidate_fields_iff.mpr ⟨hbounded, hexact⟩

/-- A name that is longer than a device name is none. -/
theorem windowsPath_names_no_device_iff_sample :
    (ApprovedFile.windowsParts "C:\\lab\\null .txt").1 = ["lab", "null .txt"] ∧
      ¬ SpacedDevice "null .txt" := by
  have hparts : (ApprovedFile.windowsParts "C:\\lab\\null .txt").1 = ["lab", "null .txt"] := by
    decide +kernel
  obtain ⟨file, hfile⟩ :=
    accepted_windows "C:\\lab\\null .txt" (by decide +kernel) (by decide +kernel)
  have hnone := (windowsPath_names_no_device_iff hfile).mp (by decide +kernel)
  rw [hparts] at hnone
  exact ⟨hparts, hnone _ (by simp)⟩

/-- A space before the extension hides the device `NUL` from the validator. -/
theorem windowsPath_names_device :
    (∃ file, ApprovedFile.modelValidate (ApprovedFile.fields .windows (.str "C:\\NUL .txt")) =
      .ok file) ∧
    ∃ part ∈ (ApprovedFile.windowsParts "C:\\NUL .txt").1,
      win32BaseName part = "NUL" ∧ IsDeviceName (win32BaseName part) :=
  ⟨accepted_windows _ (by decide +kernel) (by decide +kernel), by decide +kernel⟩

end ResponseEngine.Triage
