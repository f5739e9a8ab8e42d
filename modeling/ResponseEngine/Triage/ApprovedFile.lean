/-
  Triage/ApprovedFile.lean --- exact native file paths.

  `ApprovedFile` is a path on one platform; `exactNativePath` is the validator that
  the package adds to the declared fields.  The source cuts the path with slices,
  `split` and regular expressions and combines the outcomes in one flag; so does
  the definition here.
-/
import ResponseEngine.Python.Codec

set_option autoImplicit false

namespace ResponseEngine.Triage

open ResponseEngine.Foundation ResponseEngine.Python ResponseEngine.Python.Pydantic

/-- `Literal["windows", "linux"]`. -/
inductive Platform where
  | windows
  | linux
  deriving DecidableEq, Repr

/-- The wire text of a platform. -/
def Platform.value : Platform → String
  | windows => "windows"
  | linux => "linux"

instance : Vocabulary Platform where
  members := [.windows, .linux]
  text := Platform.value
  mem_members a := by cases a <;> decide
  text_injective := by
    intro a b h
    cases a <;> cases b <;> first | rfl | simp [Platform.value] at h

/-- `ApprovedFile`.  A value whose own validator was bypassed is a value too. -/
structure ApprovedFile where
  platform : Platform
  path : Text
  deriving DecidableEq

/-! ## Patterns -/

/-- `ord(c) < 32 or ord(c) == 127`. -/
def isControl (c : CodePoint) : Bool := decide (c.ord < 32) || decide (c.ord = 127)

/-- An ASCII letter. -/
def isLetter : CodePoint → Bool
  | .scalar c => c.isAlpha
  | .surrogate _ => false

/-- `[1-9]`. -/
def isPositiveDigit (c : CodePoint) : Bool := c.isDigit && c != .scalar '0'

/-- One letter of an ASCII word, ignoring case.  None of the letters of the reserved
names has a case variant outside ASCII. -/
def litIgnoringCase (upper : Char) (c : CodePoint) : Bool :=
  c == .scalar upper || c == .scalar upper.toLower

/-- `CON|PRN|AUX|NUL|COM[1-9]|LPT[1-9]`, ignoring case. -/
def reservedNames : List (List (CodePoint → Bool)) :=
  let word (s : String) := s.toList.map litIgnoringCase
  [word "CON", word "PRN", word "AUX", word "NUL", word "COM" ++ [isPositiveDigit],
    word "LPT" ++ [isPositiveDigit]]

/-- Full match of `(?:\..*)?`; a dot does not match a newline. -/
def isExtension : Text → Bool
  | [] => true
  | c :: rest => c == .scalar '.' && decide (CodePoint.scalar '\n' ∉ rest)

/-- Full match of a reserved name, alone or with an extension. -/
def isReservedName (part : Text) : Bool :=
  reservedNames.any fun name =>
    Text.fullmatch name (part.take name.length) && isExtension (part.drop name.length)

/-- A match of `^[A-Za-z]:\\` at the start. -/
def startsWithDrive (value : Text) : Bool :=
  Text.fullmatch [isLetter, Text.lit ':', Text.lit '\\'] (value.take 3)

/-- `part.endswith((".", " "))`. -/
def endsWithDotOrSpace (part : Text) : Bool :=
  part.getLast? == some (.scalar '.') || part.getLast? == some (.scalar ' ')

/-- A component that Windows does not take literally. -/
def isRefusedPart (part : Text) : Bool :=
  (Text.ofString "<>:\"|").any (fun c => decide (c ∈ part)) || endsWithDotOrSpace part ||
    isReservedName part

namespace ApprovedFile

/-! ## The validator -/

/-- The components of the path, and whether its shape is native to Linux. -/
def linuxParts (value : Text) : List Text × Bool :=
  ((value.splitOn (.scalar '/')).drop 1,
    Text.startsWith value "/" && !Text.startsWith value "//" &&
      !decide (CodePoint.scalar '\\' ∈ value))

/-- The components of the path, and whether its shape is native to Windows. -/
def windowsParts (value : Text) : List Text × Bool :=
  let parts := (value.drop 3).splitOn (.scalar '\\')
  (parts, startsWithDrive value && !decide (CodePoint.scalar '/' ∈ value) &&
    !parts.any isRefusedPart)

/-- The components of the path, and whether its shape is native. -/
def nativeParts : Platform → Text → List Text × Bool
  | .linux => linuxParts
  | .windows => windowsParts

/-- `exact_native_path`. -/
def exactNativePath (self : ApprovedFile) : Except PyError Unit := do
  raiseIf (self.path.any isControl ||
      (Text.ofString "*?[]").any fun c => decide (c ∈ self.path))
    (.valueError "file allowlist accepts exact paths only")
  raiseIf (!decide self.path.Encodable) (.valueError "file path must be valid UTF-8")
  let (parts, valid) := nativeParts self.platform self.path
  raiseIf (!valid || parts.any fun part => decide (part ∈ ([[], ".", ".."] : List Text)))
    (.valueError "file allowlist requires an unambiguous absolute native file path")

/-! ## Validation -/

/-- The paths that pass: within the length bounds, and exact. -/
structure Accepted (file : ApprovedFile) : Prop where
  bounded : boundedText 1 4096 file.path = true
  exact : exactNativePath file = .ok ()

end ApprovedFile

/-- A file that passed. -/
abbrev CheckedFile := {file : ApprovedFile // file.Accepted}

namespace ApprovedFile

/-- What the declared fields hold. -/
abbrev Declared := Platform × {t : Text // boundedText 1 4096 t = true}

/-- The declared fields. -/
def declared : Fields Declared :=
  (Fields.required "platform" Codec.literal).append
    (Fields.required "path" (Codec.text (boundedText 1 4096)))

/-- The class `ApprovedFile`. -/
def cls : ModelClass := declared.cls "ApprovedFile" false

/-- The file that the declared fields hold. -/
def ofDeclared (a : Declared) : ApprovedFile := { platform := a.1, path := a.2 }

/-- The validator, on the declared fields. -/
def check (a : Declared) : Except PyError Unit := exactNativePath (ofDeclared a)

theorem isValueError_of_check {a : Declared} {e : PyError} (h : check a = .error e) :
    e.isValueError = true := by
  simp only [check, exactNativePath, bind_eq_error, raiseIf_eq_error] at h
  rcases h with ⟨_, rfl⟩ | ⟨_, _, ⟨_, rfl⟩ | ⟨_, _, _, rfl⟩⟩
  · rfl
  · rfl
  · rfl

/-- The declared fields of a file that passes, and the file. -/
def checked : {a : Declared // check a = .ok ()} ≃ CheckedFile where
  toFun a := ⟨ofDeclared a, a.val.2.property, a.property⟩
  invFun f := ⟨(f.val.platform, ⟨f.val.path, f.property.bounded⟩), f.property.exact⟩
  left_inv _ := rfl
  right_inv _ := rfl

/-- `ApprovedFile`, as pydantic validates it. -/
def codec : Codec CheckedFile :=
  (Codec.model "ApprovedFile" false declared (by decide) check isValueError_of_check).equiv checked

/-- `ApprovedFile.model_validate(d)`. -/
def modelValidate (d : Dict) : Except PyError CheckedFile := codec.parse (.dict d)

/-- The dict that gives both fields. -/
def fields (platform : Platform) (path : PyVal) : Dict :=
  [("platform", .str platform.value), ("path", path)]

/-- A dict of both fields passes exactly when the path is a text that passes. -/
theorem modelValidate_fields_eq_ok {platform : Platform} {path : PyVal} {file : CheckedFile} :
    modelValidate (fields platform path) = .ok file ↔
      ∃ t, path = .str t ∧ file.val = { platform, path := t } := by
  have hclosed : closed (fields platform path) declared.names = .ok () := by
    rw [closed, raiseIf_eq_ok]
    simp [fields, Dict.keys, declared, Fields.append, Fields.required, Fields.single]
  have hplatform : Dict.find? (fields platform path) "platform" = some (.str platform.value) := by
    simp [fields]
  have hpath : Dict.find? (fields platform path) "path" = some path := by
    simp [fields]
  have hdeclared : ∀ a : Declared, declared.parse (fields platform path) = .ok a ↔
      a.1 = platform ∧ path = .str a.2 := by
    intro a
    have hliteral : (Codec.literal (α := Platform)).parse (.str platform.value) = .ok a.1 ↔
        a.1 = platform := by
      rw [Codec.literal_parse_eq_ok, PyVal.str.injEq, Text.ofString_inj]
      exact ⟨fun h => (Vocabulary.text_injective h).symm, fun h => by rw [h]; rfl⟩
    simp only [declared, Fields.append_parse_eq_ok, Fields.required_parse_eq_ok, hplatform, hpath,
      Option.some.injEq, exists_eq_left', hliteral, Codec.text_parse_eq_ok]
  simp only [modelValidate, codec, Codec.equiv_parse_eq_ok, Codec.model_parse_eq_ok,
    PyVal.dict.injEq, exists_eq_left', hclosed, true_and, hdeclared]
  obtain ⟨⟨platform', path'⟩, haccepted⟩ := file
  simp only [checked, ApprovedFile.mk.injEq]
  constructor
  · rintro ⟨rfl, rfl⟩
    exact ⟨path', rfl, rfl, rfl⟩
  · rintro ⟨t, rfl, rfl, rfl⟩
    exact ⟨rfl, rfl⟩

/-- `ApprovedFile` raises nothing but `ValueError`s. -/
theorem isValueError_of_modelValidate {d : Dict} {e : PyError} (h : modelValidate d = .error e) :
    e.isValueError = true :=
  codec.isValueError h

end ApprovedFile

end ResponseEngine.Triage
