/-
  Foundation/Text.lean --- texts as sequences of Unicode code points.

  A JSON document may carry a lone surrogate through a `\uD800` escape, so a text
  is a list of code points and not of Unicode scalar values.  Only the scalar
  values have a UTF-8 encoding; that encoding is partial here (`utf8?`), and it
  is injective where it is defined (`utf8?_injective`).
-/
import ResponseEngine.Foundation.Decimal
import ResponseEngine.Foundation.Framing

set_option autoImplicit false

namespace ResponseEngine.Foundation

/-- A Unicode code point: a scalar value, or one of the 2048 surrogates. -/
inductive CodePoint where
  | scalar (c : Char)
  | surrogate (n : Fin 0x800)
  deriving DecidableEq, Repr

namespace CodePoint

/-- The number of the code point. -/
def ord : CodePoint → Nat
  | scalar c => c.toNat
  | surrogate n => 0xD800 + n

/-- An ASCII digit. -/
def isDigit : CodePoint → Bool
  | scalar c => c.isDigit
  | surrogate _ => false

/-- A lowercase hexadecimal digit. -/
def isLowerHex : CodePoint → Bool
  | scalar c => c.isDigit || ('a' ≤ c && c ≤ 'f')
  | surrogate _ => false

/-- A code point that `str.strip` removes. -/
def isSpace (c : CodePoint) : Bool :=
  (0x09 ≤ c.ord && c.ord ≤ 0x0D) || (0x1C ≤ c.ord && c.ord ≤ 0x20) ||
    (0x2000 ≤ c.ord && c.ord ≤ 0x200A) ||
    [0x85, 0xA0, 0x1680, 0x2028, 0x2029, 0x202F, 0x205F, 0x3000].contains c.ord

/-- The code point with a given number. -/
def ofOrd (n : Fin 0x110000) : CodePoint :=
  if h : n.val.isValidChar then scalar (Char.ofNatAux n.val h)
  else surrogate ⟨n.val - 0xD800, by simp only [Nat.isValidChar] at h; omega⟩

theorem ord_ofOrd (n : Fin 0x110000) : (ofOrd n).ord = n := by
  unfold ofOrd
  split
  · rfl
  · rename_i h
    simp only [Nat.isValidChar] at h
    simp only [ord]
    omega

theorem ofOrd_injective : Function.Injective ofOrd := by
  intro m n h
  apply Fin.ext
  rw [← ord_ofOrd m, ← ord_ofOrd n, h]

end CodePoint

/-- A text: any sequence of code points. -/
abbrev Text := List CodePoint

namespace Text

/-- The text of a string of scalar values. -/
def ofChars (chars : List Char) : Text := chars.map .scalar

/-- The text of a string literal. -/
def ofString (s : String) : Text := ofChars s.toList

instance : Coe String Text := ⟨ofString⟩

theorem ofChars_injective : Function.Injective ofChars :=
  List.map_injective_iff.mpr fun _ _ h => CodePoint.scalar.inj h

@[simp] theorem ofString_inj {s t : String} : ofString s = ofString t ↔ s = t :=
  ⟨fun h => String.toList_inj.mp (ofChars_injective h), congrArg ofString⟩

/-- `not text.strip()`. -/
def isBlank (t : Text) : Bool := t.all CodePoint.isSpace

/-- `text.startswith(start)`. -/
def startsWith (t start : Text) : Bool := start.isPrefixOf t

/-- `part in text`. -/
def contains (t part : Text) : Bool := decide (part <:+: t)

/-! ## UTF-8 -/

/-- The scalar values of a text, unless it holds a surrogate. -/
def chars? : Text → Option (List Char)
  | [] => some []
  | .scalar c :: rest => (chars? rest).map (c :: ·)
  | .surrogate _ :: _ => none

/-- The UTF-8 bytes of scalar values. -/
def utf8 (chars : List Char) : List UInt8 := chars.flatMap String.utf8EncodeChar

/-- The UTF-8 encoding of a text; a lone surrogate has none. -/
def utf8? (t : Text) : Option (List UInt8) := t.chars?.map utf8

/-- No lone surrogate occurs. -/
def Encodable (t : Text) : Prop := t.utf8?.isSome

instance (t : Text) : Decidable t.Encodable := inferInstanceAs (Decidable (_ = true))

theorem chars?_eq_some_iff {t : Text} {chars : List Char} :
    t.chars? = some chars ↔ t = ofChars chars := by
  induction t generalizing chars with
  | nil => simp [chars?, ofChars, eq_comm]
  | cons c rest ih =>
      cases c with
      | scalar c =>
          cases chars with
          | nil => simp [chars?, ofChars]
          | cons d chars =>
              simp only [ofChars] at ih
              simp [chars?, ofChars, ih, and_comm, eq_comm]
      | surrogate n => cases chars <;> simp [chars?, ofChars]

@[simp] theorem chars?_ofChars (chars : List Char) : (ofChars chars).chars? = some chars :=
  chars?_eq_some_iff.mpr rfl

@[simp] theorem utf8?_ofChars (chars : List Char) : (ofChars chars).utf8? = some (utf8 chars) := by
  simp [utf8?]

theorem utf8?_eq_some_iff {t : Text} {bytes : List UInt8} :
    t.utf8? = some bytes ↔ ∃ chars, t = ofChars chars ∧ utf8 chars = bytes := by
  simp [utf8?, Option.map_eq_some_iff, chars?_eq_some_iff]

theorem encodable_iff {t : Text} : t.Encodable ↔ ∃ chars, t = ofChars chars := by
  simp [Encodable, Option.isSome_iff_exists, utf8?_eq_some_iff]

/-- The encodable texts are those without surrogates. -/
theorem encodable_iff_forall_ne_surrogate {t : Text} :
    t.Encodable ↔ ∀ n, CodePoint.surrogate n ∉ t := by
  constructor
  · intro h n
    obtain ⟨chars, rfl⟩ := encodable_iff.mp h
    simp [ofChars]
  · intro h
    induction t with
    | nil => exact encodable_iff.mpr ⟨[], rfl⟩
    | cons c rest ih =>
        obtain ⟨chars, rfl⟩ := encodable_iff.mp (ih fun n hn => h n (List.mem_cons_of_mem c hn))
        cases c with
        | scalar c => exact encodable_iff.mpr ⟨c :: chars, rfl⟩
        | surrogate n => exact absurd List.mem_cons_self (h n)

@[simp] theorem encodable_append {left right : Text} :
    (left ++ right).Encodable ↔ left.Encodable ∧ right.Encodable := by
  simp only [encodable_iff_forall_ne_surrogate, List.mem_append, not_or, forall_and]

@[simp] theorem encodable_ofChars (chars : List Char) : (ofChars chars).Encodable :=
  encodable_iff.mpr ⟨chars, rfl⟩

@[simp] theorem encodable_ofString (s : String) : (ofString s).Encodable :=
  encodable_ofChars s.toList

/-- Scalar values are read back from their UTF-8 bytes. -/
theorem utf8_injective : Function.Injective utf8 := by
  intro left right h
  have hbytes : left.utf8Encode = right.utf8Encode := by
    simpa [List.utf8Encode, utf8] using congrArg List.toByteArray h
  have hdecode := congrArg ByteArray.utf8Decode? hbytes
  simpa [List.utf8Decode?_utf8Encode] using hdecode

/-- Two encodable texts with the same bytes are the same text. -/
theorem utf8?_injective {left right : Text} {bytes : List UInt8}
    (hleft : left.utf8? = some bytes) (hright : right.utf8? = some bytes) : left = right := by
  obtain ⟨chars₁, rfl, h₁⟩ := utf8?_eq_some_iff.mp hleft
  obtain ⟨chars₂, rfl, h₂⟩ := utf8?_eq_some_iff.mp hright
  rw [utf8_injective (h₁.trans h₂.symm)]

/-- The encodings of several texts, unless one of them has none. -/
def utf8All? : List Text → Option (List (List UInt8))
  | [] => some []
  | t :: rest =>
      match t.utf8?, utf8All? rest with
      | some bytes, some data => some (bytes :: data)
      | _, _ => none

theorem utf8All?_eq_some {texts : List Text} {data : List (List UInt8)} :
    utf8All? texts = some data ↔ texts.map utf8? = data.map some := by
  induction texts generalizing data with
  | nil => cases data <;> simp [utf8All?]
  | cons t rest ih =>
      cases data with
      | nil => cases h : t.utf8? <;> cases h' : utf8All? rest <;> simp [utf8All?, h, h']
      | cons bytes data =>
          rw [List.map_cons, List.map_cons, List.cons.injEq, ← ih]
          cases h : t.utf8? <;> cases h' : utf8All? rest <;> simp [utf8All?, h, h']

theorem utf8All?_isSome {texts : List Text} :
    (utf8All? texts).isSome = true ↔ ∀ t ∈ texts, t.Encodable := by
  induction texts with
  | nil => simp [utf8All?]
  | cons t rest ih =>
      rw [List.forall_mem_cons, ← ih, Encodable]
      cases h : t.utf8? <;> cases h' : utf8All? rest <;> simp [utf8All?, h, h']

/-- Encodable texts are read back from their bytes, one by one. -/
theorem map_utf8?_injective {left right : List Text} {bytes : List (List UInt8)}
    (hleft : left.map utf8? = bytes.map some) (hright : right.map utf8? = bytes.map some) :
    left = right := by
  induction left generalizing right bytes with
  | nil =>
      cases bytes with
      | nil => simpa [eq_comm] using hright
      | cons data bytes => simp at hleft
  | cons t left ih =>
      cases bytes with
      | nil => simp at hleft
      | cons data bytes =>
          cases right with
          | nil => simp at hright
          | cons u right =>
              simp only [List.map_cons, List.cons.injEq] at hleft hright
              rw [utf8?_injective hleft.1 hright.1, ih hleft.2 hright.2]

theorem utf8_append (left right : List Char) : utf8 (left ++ right) = utf8 left ++ utf8 right :=
  List.flatMap_append

/-- A text is encodable when its parts are, and its bytes are theirs in order. -/
theorem utf8?_append {left right : Text} {bytes₁ bytes₂ : List UInt8}
    (hleft : left.utf8? = some bytes₁) (hright : right.utf8? = some bytes₂) :
    (left ++ right).utf8? = some (bytes₁ ++ bytes₂) := by
  obtain ⟨chars₁, rfl, rfl⟩ := utf8?_eq_some_iff.mp hleft
  obtain ⟨chars₂, rfl, rfl⟩ := utf8?_eq_some_iff.mp hright
  exact utf8?_eq_some_iff.mpr ⟨chars₁ ++ chars₂, by simp [ofChars], utf8_append _ _⟩

/-! ## Decimal numbers -/

/-- The decimal text of a natural number. -/
def ofNat (n : Nat) : Text := ofChars (Decimal.digits n)

/-- The decimal text of an integer, however many digits it has. -/
def ofInt : Int → Text
  | .ofNat n => ofNat n
  | .negSucc n => .scalar '-' :: ofNat (n + 1)

/-- The number written by a nonempty run of ASCII digits. -/
def decimal? (t : Text) : Option Nat :=
  match t.chars? with
  | none => none
  | some chars =>
      if chars ≠ [] ∧ chars.all Char.isDigit then some (Decimal.value chars) else none

theorem ofNat_injective : Function.Injective ofNat := fun _ _ h =>
  Decimal.digits_injective (ofChars_injective h)

@[simp] theorem ofNat_inj {m n : Nat} : ofNat m = ofNat n ↔ m = n := ofNat_injective.eq_iff

@[simp] theorem encodable_ofNat (n : Nat) : (ofNat n).Encodable := encodable_ofChars _

@[simp] theorem decimal?_ofNat (n : Nat) : (ofNat n).decimal? = some n := by
  have hdigits : (Decimal.digits n).all Char.isDigit := by
    simpa using fun c hc => Decimal.isDigit_of_mem_digits hc
  simp [decimal?, ofNat, hdigits]

/-- A character that is not a digit does not occur in a decimal text. -/
theorem not_mem_ofNat {n : Nat} {c : Char} (hc : c.isDigit = false) :
    CodePoint.scalar c ∉ ofNat n := by
  simp only [ofNat, ofChars, List.mem_map, not_exists, not_and]
  rintro d hd hcd
  exact Decimal.not_mem_digits hc (CodePoint.scalar.inj hcd ▸ hd)

@[simp] theorem ofInt_natCast (n : Nat) : ofInt n = ofNat n := rfl

/-- The decimal text of a natural number has no sign. -/
theorem ofNat_ne_dash {n : Nat} {t : Text} : ofNat n ≠ .scalar '-' :: t := by
  intro h
  have hdash : CodePoint.scalar '-' ∉ ofNat n := not_mem_ofNat (by decide)
  rw [h] at hdash
  exact hdash List.mem_cons_self

theorem ofInt_injective : Function.Injective ofInt := by
  intro m n h
  cases m with
  | ofNat m =>
      cases n with
      | ofNat n => exact congrArg Int.ofNat (ofNat_injective h)
      | negSucc n => exact absurd h ofNat_ne_dash
  | negSucc m =>
      cases n with
      | ofNat n => exact absurd h.symm ofNat_ne_dash
      | negSucc n =>
          apply congrArg
          exact Nat.succ_injective (ofNat_injective (List.cons.inj h).2)

/-- An ASCII digit is one UTF-8 byte, its own code. -/
theorem utf8EncodeChar_of_isDigit {c : Char} (hc : c.isDigit) :
    String.utf8EncodeChar c = [c.val.toUInt8] ∧ c.val.toUInt8 ≠ 58 := by
  obtain ⟨hchar, hlt⟩ := Decimal.digitChar_toNat_sub hc
  rw [← hchar]
  interval_cases c.toNat - '0'.toNat <;> decide

/-- Lengths in decimal, ended by a colon. -/
def decimalPrefix : Framing.LengthPrefix UInt8 where
  text n := utf8 (Decimal.digits n)
  sep := 58
  text_injective _ _ h := Decimal.digits_injective (utf8_injective h)
  sep_not_mem n h := by
    obtain ⟨c, hc, hmem⟩ := List.mem_flatMap.mp h
    obtain ⟨hone, hne⟩ := utf8EncodeChar_of_isDigit (Decimal.isDigit_of_mem_digits hc)
    rw [hone, List.mem_singleton] at hmem
    exact hne hmem.symm

/-- Two texts joined by a character are split at its last occurrence. -/
theorem eq_of_append_char_eq {left₁ left₂ right₁ right₂ : Text} {c : Char}
    (h₁ : CodePoint.scalar c ∉ right₁) (h₂ : CodePoint.scalar c ∉ right₂)
    (h : left₁ ++ ofChars [c] ++ right₁ = left₂ ++ ofChars [c] ++ right₂) :
    left₁ = left₂ ∧ right₁ = right₂ := by
  simp only [ofChars, List.map_cons, List.map_nil, List.append_assoc, List.cons_append,
    List.nil_append] at h
  exact Framing.eq_of_append_cons_eq_right h₁ h₂ h

/-! ## Character-class patterns -/

/-- Full match of a pattern of fixed width: one class for each code point. -/
def fullmatch (classes : List (CodePoint → Bool)) (t : Text) : Bool :=
  match classes, t with
  | [], [] => true
  | p :: classes, c :: rest => p c && fullmatch classes rest
  | _, _ => false

/-- The class of one literal character. -/
def lit (c : Char) : CodePoint → Bool := (· == .scalar c)

/-- The classes of a literal string. -/
def lits (s : String) : List (CodePoint → Bool) := s.toList.map lit

theorem fullmatch_iff_forall₂ {classes : List (CodePoint → Bool)} {t : Text} :
    fullmatch classes t = true ↔ List.Forall₂ (fun p c => p c = true) classes t := by
  induction classes generalizing t with
  | nil => cases t <;> simp [fullmatch]
  | cons p classes ih => cases t <;> simp [fullmatch, ih]

theorem fullmatch_append {classes₁ classes₂ : List (CodePoint → Bool)} {t₁ t₂ : Text}
    (h₁ : fullmatch classes₁ t₁ = true) (h₂ : fullmatch classes₂ t₂ = true) :
    fullmatch (classes₁ ++ classes₂) (t₁ ++ t₂) = true := by
  rw [fullmatch_iff_forall₂] at h₁ h₂ ⊢
  exact List.rel_append h₁ h₂

/-- A full match of one pattern after another is one of each. -/
theorem fullmatch_append_iff {classes₁ classes₂ : List (CodePoint → Bool)} {t : Text} :
    fullmatch (classes₁ ++ classes₂) t = true ↔
      ∃ t₁ t₂, t = t₁ ++ t₂ ∧ fullmatch classes₁ t₁ = true ∧ fullmatch classes₂ t₂ = true := by
  constructor
  · intro h
    induction classes₁ generalizing t with
    | nil => exact ⟨[], t, rfl, rfl, h⟩
    | cons p classes₁ ih =>
        cases t with
        | nil => simp [fullmatch] at h
        | cons c rest =>
            simp only [List.cons_append, fullmatch, Bool.and_eq_true] at h
            obtain ⟨t₁, t₂, rfl, h₁, h₂⟩ := ih h.2
            exact ⟨c :: t₁, t₂, rfl, by simp [fullmatch, h.1, h₁], h₂⟩
  · rintro ⟨t₁, t₂, rfl, h₁, h₂⟩
    exact fullmatch_append h₁ h₂

theorem length_of_fullmatch {classes : List (CodePoint → Bool)} {t : Text}
    (h : fullmatch classes t = true) : t.length = classes.length :=
  (fullmatch_iff_forall₂.mp h).length_eq.symm

/-- A pattern of one class is matched by the code points of the class. -/
theorem fullmatch_singleton {p : CodePoint → Bool} {t : Text} :
    fullmatch [p] t = true ↔ ∃ c, t = [c] ∧ p c = true := by
  cases t with
  | nil => simp [fullmatch]
  | cons c rest => cases rest <;> simp [fullmatch]

/-- A literal matches itself. -/
theorem fullmatch_lits (s : String) : fullmatch (lits s) (ofString s) = true := by
  rw [fullmatch_iff_forall₂, lits, ofString, ofChars, List.forall₂_map_left_iff,
    List.forall₂_map_right_iff]
  exact List.forall₂_same.mpr fun c _ => by simp [lit]

/-- A class repeated is matched by the texts of that length in the class. -/
theorem fullmatch_replicate {p : CodePoint → Bool} {n : Nat} {t : Text} (hlength : t.length = n)
    (h : ∀ c ∈ t, p c = true) : fullmatch (List.replicate n p) t = true := by
  subst hlength
  induction t with
  | nil => rfl
  | cons c rest ih =>
      simp only [List.length_cons, List.replicate_succ, fullmatch, Bool.and_eq_true]
      exact ⟨h c List.mem_cons_self, ih fun d hd => h d (List.mem_cons_of_mem c hd)⟩

/-- Every code point of a full match is in one of the pattern's classes. -/
theorem exists_class_of_mem {classes : List (CodePoint → Bool)} {t : Text}
    (h : fullmatch classes t = true) {c : CodePoint} (hc : c ∈ t) : ∃ p ∈ classes, p c = true := by
  induction fullmatch_iff_forall₂.mp h with
  | nil => simp at hc
  | @cons p d classes t hp hrest ih =>
      rcases List.mem_cons.mp hc with rfl | hc
      · exact ⟨p, List.mem_cons_self, hp⟩
      · obtain ⟨q, hq, hqc⟩ := ih (fullmatch_iff_forall₂.mpr hrest) hc
        exact ⟨q, List.mem_cons_of_mem _ hq, hqc⟩

/-- A literal of a pattern occurs in every full match. -/
theorem mem_of_fullmatch {classes : List (CodePoint → Bool)} {t : Text} {c : Char}
    (hc : lit c ∈ classes) (h : fullmatch classes t = true) : CodePoint.scalar c ∈ t := by
  induction fullmatch_iff_forall₂.mp h with
  | nil => exact absurd hc List.not_mem_nil
  | @cons p d classes t hp hrest ih =>
      rcases List.mem_cons.mp hc with rfl | hc
      · rw [beq_iff_eq.mp hp]
        exact List.mem_cons_self
      · exact List.mem_cons_of_mem d (ih hc (fullmatch_iff_forall₂.mpr hrest))

/-- A code point that no class of a pattern takes does not occur in a full match. -/
theorem not_mem_of_fullmatch {classes : List (CodePoint → Bool)} {t : Text} {c : CodePoint}
    (hc : classes.all (fun p => !p c) = true) (h : fullmatch classes t = true) : c ∉ t := by
  intro hmem
  obtain ⟨p, hp, hpc⟩ := exists_class_of_mem h hmem
  simpa [hpc] using List.all_eq_true.mp hc p hp

/-- A full match of a pattern without surrogates is encodable. -/
theorem encodable_of_fullmatch {classes : List (CodePoint → Bool)} {t : Text}
    (hclasses : ∀ n, classes.all (fun p => !p (.surrogate n)) = true)
    (h : fullmatch classes t = true) : t.Encodable :=
  encodable_iff_forall_ne_surrogate.mpr fun n => not_mem_of_fullmatch (hclasses n) h

/-- Full match of `[1-9][0-9]{0,more}`: a decimal without a leading zero. -/
def isCanonicalDecimal (more : Nat) : Text → Bool
  | [] => false
  | c :: rest =>
      (c.isDigit && c != .scalar '0') && (decide (rest.length ≤ more) && rest.all CodePoint.isDigit)

/-- A text of ASCII digits is a text of scalar values. -/
theorem exists_ofChars_of_all_isDigit {t : Text} (h : t.all CodePoint.isDigit = true) :
    ∃ chars, t = ofChars chars ∧ ∀ c ∈ chars, c.isDigit := by
  induction t with
  | nil => exact ⟨[], rfl, by simp⟩
  | cons c rest ih =>
      simp only [List.all_cons, Bool.and_eq_true] at h
      obtain ⟨chars, rfl, hchars⟩ := ih h.2
      cases c with
      | scalar c => exact ⟨c :: chars, rfl, by simpa [CodePoint.isDigit] using ⟨h.1, hchars⟩⟩
      | surrogate n => simp [CodePoint.isDigit] at h

theorem all_isDigit_ofChars {chars : List Char} :
    (ofChars chars).all CodePoint.isDigit = true ↔ ∀ c ∈ chars, c.isDigit := by
  simp [ofChars, CodePoint.isDigit]

/-- A canonical decimal is a canonical text of at most `more + 1` characters. -/
theorem isCanonicalDecimal_ofChars {more : Nat} {chars : List Char} :
    isCanonicalDecimal more (ofChars chars) = true ↔
      Decimal.Canonical chars ∧ chars.length ≤ more + 1 := by
  cases chars with
  | nil => simp [isCanonicalDecimal, ofChars, Decimal.Canonical]
  | cons c rest =>
      have hrest : (ofChars rest).all CodePoint.isDigit = true ↔ ∀ c ∈ rest, c.isDigit :=
        all_isDigit_ofChars
      simp only [ofChars] at hrest
      simp only [isCanonicalDecimal, ofChars, List.map_cons, Bool.and_eq_true, hrest,
        CodePoint.isDigit, Decimal.Canonical]
      simp
      tauto

/-- The full matches of `[1-9][0-9]{0,more}` are exactly the decimal texts of the
positive numbers of at most `more + 1` digits. -/
theorem isCanonicalDecimal_iff {more : Nat} {t : Text} :
    isCanonicalDecimal more t = true ↔ ∃ n, 0 < n ∧ n < 10 ^ (more + 1) ∧ t = ofNat n := by
  constructor
  · intro h
    have hall : t.all CodePoint.isDigit = true := by
      cases t with
      | nil => rfl
      | cons c rest =>
          simp only [isCanonicalDecimal, Bool.and_eq_true] at h
          rw [List.all_cons, h.1.1, h.2.2]
          rfl
    obtain ⟨chars, rfl, _⟩ := exists_ofChars_of_all_isDigit hall
    obtain ⟨hcanonical, hlen⟩ := isCanonicalDecimal_ofChars.mp h
    have hdigits := Decimal.digits_value hcanonical
    refine ⟨Decimal.value chars, Decimal.value_pos hcanonical, ?_, by rw [ofNat, hdigits]⟩
    rw [← Decimal.length_digits_le_iff (Nat.succ_pos more), hdigits]
    exact hlen
  · rintro ⟨n, hpos, hlt, rfl⟩
    exact isCanonicalDecimal_ofChars.mpr ⟨Decimal.canonical_digits hpos,
      (Decimal.length_digits_le_iff (Nat.succ_pos more)).mpr hlt⟩

end Text

end ResponseEngine.Foundation
