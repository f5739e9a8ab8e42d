/-
  Triage/DeviceNames.lean --- the names that Windows keeps for devices.

  `deviceNames` lists them in upper case, and a text has such a name when its own
  upper case is one of them.  The source recognises them with one regular expression;
  `isReservedName_iff` says which texts that is: a device name alone, or followed by
  a dot and anything without a newline.
-/
import ResponseEngine.Triage.ApprovedFile

set_option autoImplicit false

namespace ResponseEngine.Triage

open ResponseEngine.Foundation

/-! ## Upper case -/

/-- The upper case of an ASCII letter; any other code point stays.  The letters of the
device names have no variant outside ASCII. -/
def upperCase : CodePoint → CodePoint
  | .scalar c => .scalar c.toUpper
  | .surrogate n => .surrogate n

theorem toNat_toLower {c : Char} (h : 65 ≤ c.toNat ∧ c.toNat ≤ 90) :
    c.toLower.toNat = c.toNat + 32 := by
  have hupper : c.val ≥ 'A'.val ∧ c.val ≤ 'Z'.val := h
  have hsum := UInt32.toNat_add c.val ('a'.val - 'A'.val)
  have hval : c.val.toNat = c.toNat := rfl
  have hdiff : ('a'.val - 'A'.val).toNat = 32 := by decide
  rw [hval, hdiff, Nat.mod_eq_of_lt (by omega)] at hsum
  unfold Char.toLower
  rw [dif_pos hupper]
  exact hsum

theorem toNat_toUpper (c : Char) :
    c.toUpper.toNat = if 97 ≤ c.toNat ∧ c.toNat ≤ 122 then c.toNat - 32 else c.toNat := by
  have hlower : 'a'.val ≤ c.val ∧ c.val ≤ 'z'.val ↔ 97 ≤ c.toNat ∧ c.toNat ≤ 122 := Iff.rfl
  have hsum := UInt32.toNat_add c.val ('A'.val - 'a'.val)
  have hval : c.val.toNat = c.toNat := rfl
  have hdiff : ('A'.val - 'a'.val).toNat = 4294967264 := by decide
  rw [hval, hdiff] at hsum
  unfold Char.toUpper
  split
  · rename_i h
    have hbounds := hlower.mp h
    rw [if_pos hbounds]
    refine hsum.trans ?_
    omega
  · rename_i h
    exact (if_neg (mt hlower.mpr h)).symm

/-- Two characters have the upper case of a letter: the letter and its lower case. -/
theorem toUpper_eq_iff {upper c : Char} (hupper : upper.isUpper = true) :
    c.toUpper = upper ↔ c = upper ∨ c = upper.toLower := by
  have hbounds : 65 ≤ upper.toNat ∧ upper.toNat ≤ 90 := by
    rw [Char.isUpper, decide_eq_true_eq] at hupper
    exact hupper
  simp only [← Char.toNat_inj, toNat_toUpper, toNat_toLower hbounds]
  split
  · omega
  · omega

/-- The class of a letter ignoring case. -/
theorem litIgnoringCase_iff {upper : Char} (hupper : upper.isUpper = true) {c : CodePoint} :
    litIgnoringCase upper c = true ↔ upperCase c = .scalar upper := by
  cases c with
  | scalar c => simp [litIgnoringCase, upperCase, toUpper_eq_iff hupper]
  | surrogate n => simp [litIgnoringCase, upperCase]

theorem isDigit_iff {c : Char} : c.isDigit = true ↔ 48 ≤ c.toNat ∧ c.toNat ≤ 57 := by
  rw [Char.isDigit, Bool.and_eq_true, decide_eq_true_eq, decide_eq_true_eq]
  rfl

/-- A character with the upper case of a digit is the digit. -/
theorem toUpper_eq_iff_of_isDigit {digit c : Char} (hdigit : digit.isDigit = true) :
    c.toUpper = digit ↔ c = digit := by
  have hbounds := isDigit_iff.mp hdigit
  simp only [← Char.toNat_inj, toNat_toUpper]
  split
  · omega
  · rfl

/-! ## The names -/

/-- `1` to `9`. -/
def portDigits : Text := "123456789"

/-- The device names, in upper case: `CON`, `PRN`, `AUX`, `NUL`, `COM1` to `COM9` and
`LPT1` to `LPT9`. -/
def deviceNames : List Text :=
  (["CON", "PRN", "AUX", "NUL"] : List Text) ++
    (["COM", "LPT"] : List Text).flatMap fun port => portDigits.map fun digit => port ++ [digit]

/-- A text is a device name, ignoring case. -/
def IsDeviceName (t : Text) : Prop := t.map upperCase ∈ deviceNames

instance (t : Text) : Decidable (IsDeviceName t) := inferInstanceAs (Decidable (_ ∈ _))

/-- A word of upper-case letters, ignoring case. -/
theorem fullmatch_word {letters : List Char} (hletters : ∀ c ∈ letters, c.isUpper = true)
    {t : Text} :
    Text.fullmatch (letters.map litIgnoringCase) t = true ↔
      t.map upperCase = Text.ofChars letters := by
  induction letters generalizing t with
  | nil => cases t <;> simp [Text.fullmatch, Text.ofChars]
  | cons upper letters ih =>
      obtain ⟨hupper, hrest⟩ := List.forall_mem_cons.mp hletters
      cases t with
      | nil => simp [Text.fullmatch, Text.ofChars]
      | cons c rest =>
          rw [List.map_cons, Text.fullmatch, Bool.and_eq_true, litIgnoringCase_iff hupper, ih hrest]
          exact List.cons_eq_cons.symm

/-- The class `[1-9]`. -/
theorem isPositiveDigit_iff {c : CodePoint} :
    isPositiveDigit c = true ↔ upperCase c ∈ portDigits := by
  cases c with
  | scalar c =>
      have hclass : c.isDigit = true ∧ c ≠ '0' ↔ c ∈ "123456789".toList := by
        have hlist : "123456789".toList = ['1', '2', '3', '4', '5', '6', '7', '8', '9'] := rfl
        simp only [isDigit_iff, hlist, List.mem_cons, List.not_mem_nil, or_false, ne_eq,
          ← Char.toNat_inj, Char.reduceToNat]
        omega
      have hdigits : CodePoint.scalar c.toUpper ∈ portDigits ↔ c ∈ "123456789".toList := by
        simp [portDigits, Text.ofString, Text.ofChars, toUpper_eq_iff_of_isDigit]
      simpa [isPositiveDigit, CodePoint.isDigit, upperCase, hdigits] using hclass
  | surrogate n =>
      simp [isPositiveDigit, CodePoint.isDigit, upperCase, portDigits, Text.ofString, Text.ofChars]

/-- A port name: a word and one of the digits. -/
theorem fullmatch_port {letters : List Char} (hletters : ∀ c ∈ letters, c.isUpper = true)
    {t : Text} :
    Text.fullmatch (letters.map litIgnoringCase ++ [isPositiveDigit]) t = true ↔
      ∃ digit ∈ portDigits, Text.ofChars letters ++ [digit] = t.map upperCase := by
  simp only [Text.fullmatch_append_iff, fullmatch_word hletters, Text.fullmatch_singleton,
    isPositiveDigit_iff]
  constructor
  · rintro ⟨stem, _, rfl, hstem, c, rfl, hc⟩
    exact ⟨upperCase c, hc, by rw [List.map_append, hstem, List.map_singleton]⟩
  · rintro ⟨digit, hdigit, ht⟩
    obtain ⟨stem, last, rfl, hstem, hlast⟩ := List.map_eq_append_iff.mp ht.symm
    obtain ⟨c, rfl, hc⟩ := List.map_eq_singleton_iff.mp hlast
    exact ⟨stem, [c], rfl, hstem, c, rfl, hc ▸ hdigit⟩

/-- The patterns of the source match the device names. -/
theorem exists_reservedName_iff {stem : Text} :
    (∃ name ∈ reservedNames, Text.fullmatch name stem = true) ↔ IsDeviceName stem := by
  have hword : ∀ letters : List Char, letters.all Char.isUpper = true → ∀ c ∈ letters,
      c.isUpper = true := fun letters h => List.all_eq_true.mp h
  simp only [reservedNames, List.mem_cons, List.not_mem_nil, or_false, exists_eq_or_imp,
    exists_eq_left, fullmatch_word (hword "CON".toList (by decide)),
    fullmatch_word (hword "PRN".toList (by decide)),
    fullmatch_word (hword "AUX".toList (by decide)),
    fullmatch_word (hword "NUL".toList (by decide)),
    fullmatch_port (hword "COM".toList (by decide)),
    fullmatch_port (hword "LPT".toList (by decide)), IsDeviceName, deviceNames, List.mem_append,
    List.mem_flatMap, List.mem_map, or_assoc]
  rfl

/-- The regular expression of the source: a device name alone, or followed by a dot and
anything without a newline. -/
theorem isReservedName_iff {part : Text} :
    isReservedName part = true ↔
      ∃ stem extension, part = stem ++ extension ∧ IsDeviceName stem ∧
        isExtension extension = true := by
  simp only [← exists_reservedName_iff, isReservedName, List.any_eq_true, Bool.and_eq_true]
  constructor
  · rintro ⟨name, hname, hmatch, hextension⟩
    exact ⟨_, _, (List.take_append_drop name.length part).symm, ⟨name, hname, hmatch⟩, hextension⟩
  · rintro ⟨stem, extension, rfl, ⟨name, hname, hmatch⟩, hextension⟩
    refine ⟨name, hname, ?_⟩
    rw [← Text.length_of_fullmatch hmatch, List.take_left, List.drop_left]
    exact ⟨hmatch, hextension⟩

end ResponseEngine.Triage
