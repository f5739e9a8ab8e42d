/-
  Foundation/Decimal.lean --- canonical decimal texts of natural numbers.

  A text is canonical when it is a nonempty run of ASCII digits that does not
  start with `0`.  The two facts the rest of the development rests on are that
  every positive number has exactly one canonical text (`digits_value`), and that
  a text contains nothing but digits (`isDigit_of_mem_digits`), so any other
  character ends it.
-/
import Mathlib

set_option autoImplicit false

namespace ResponseEngine.Foundation.Decimal

/-- The decimal digits of `n`, most significant first. -/
def digits (n : Nat) : List Char := Nat.toDigits 10 n

/-- The number a run of decimal digits denotes. -/
def value (text : List Char) : Nat := Nat.ofDigitChars 10 text 0

/-- A nonempty run of digits without a leading zero. -/
def Canonical (text : List Char) : Prop :=
  text ≠ [] ∧ text.head? ≠ some '0' ∧ ∀ c ∈ text, c.isDigit

@[simp] theorem value_digits (n : Nat) : value (digits n) = n :=
  Nat.ofDigitChars_ten_toDigits

theorem digits_injective : Function.Injective digits :=
  Function.LeftInverse.injective value_digits

@[simp] theorem digits_ne_nil (n : Nat) : digits n ≠ [] :=
  Nat.toDigits_ne_nil

theorem isDigit_of_mem_digits {n : Nat} {c : Char} (h : c ∈ digits n) : c.isDigit :=
  Nat.isDigit_of_mem_toDigits (by decide) (by decide) h

/-- A character that is not a digit does not occur in a decimal text. -/
theorem not_mem_digits {n : Nat} {c : Char} (hc : c.isDigit = false) : c ∉ digits n := by
  intro h
  simp [isDigit_of_mem_digits h] at hc

theorem length_digits_le_iff {n k : Nat} (hk : 0 < k) :
    (digits n).length ≤ k ↔ n < 10 ^ k :=
  Nat.length_toDigits_le_iff (by decide) hk

/-- Appending one digit multiplies by ten and adds it. -/
theorem value_append_singleton (text : List Char) (c : Char) :
    value (text ++ [c]) = 10 * value text + (c.toNat - '0'.toNat) := by
  simp [value, Nat.ofDigitChars_append, Nat.ofDigitChars_cons]

/-- The text of a number with a nonzero leading part is that part's text followed
by the last digit. -/
theorem digits_mul_ten_add {n d : Nat} (hn : 0 < n) (hd : d < 10) :
    digits (10 * n + d) = digits n ++ [d.digitChar] := by
  rw [digits, ← Nat.toDigits_append_toDigits (by decide) hn hd, Nat.toDigits_of_lt_base hd]
  rfl

/-- A digit is the text of its own value. -/
theorem digitChar_toNat_sub {c : Char} (hc : c.isDigit) :
    (c.toNat - '0'.toNat).digitChar = c ∧ c.toNat - '0'.toNat < 10 := by
  have hbounds : '0'.toNat ≤ c.toNat ∧ c.toNat ≤ '9'.toNat := by
    simpa [Char.isDigit, Char.le_def, UInt32.le_iff_toNat_le] using hc
  have hlt : c.toNat - '0'.toNat < 10 := by
    have := hbounds.2
    simp only [Char.reduceToNat] at *
    omega
  refine ⟨?_, hlt⟩
  apply Char.toNat_inj.mp
  rw [Nat.toNat_digitChar_of_lt_ten hlt]
  simp only [Char.reduceToNat] at *
  omega

/-- A canonical text denotes a positive number. -/
theorem value_pos {text : List Char} (h : Canonical text) : 0 < value text := by
  obtain ⟨hne, hhead, hdigit⟩ := h
  induction text using List.reverseRecOn with
  | nil => exact absurd rfl hne
  | append_singleton front c ih =>
      rw [value_append_singleton]
      cases front with
      | nil =>
          have hc : c ≠ '0' := by simpa using hhead
          obtain ⟨hchar, _⟩ := digitChar_toNat_sub (hdigit c (by simp))
          have : c.toNat - '0'.toNat ≠ 0 := by
            intro hzero
            rw [hzero] at hchar
            exact hc hchar.symm
          omega
      | cons head rest =>
          have hpos : 0 < value (head :: rest) :=
            ih (by simp) (by simpa using hhead) fun c hc => hdigit c (by simp at hc ⊢; tauto)
          omega

/-- **Uniqueness.**  A canonical text is the text of the number it denotes. -/
theorem digits_value {text : List Char} (h : Canonical text) : digits (value text) = text := by
  obtain ⟨hne, hhead, hdigit⟩ := h
  induction text using List.reverseRecOn with
  | nil => exact absurd rfl hne
  | append_singleton front c ih =>
      obtain ⟨hchar, hlt⟩ := digitChar_toNat_sub (hdigit c (by simp))
      rw [value_append_singleton]
      cases front with
      | nil =>
          simp only [value, Nat.ofDigitChars_nil, Nat.mul_zero, Nat.zero_add, List.nil_append]
          rw [digits, Nat.toDigits_of_lt_base hlt, hchar]
      | cons head rest =>
          have hfront : Canonical (head :: rest) :=
            ⟨by simp, by simpa using hhead, fun c hc => hdigit c (by simp at hc ⊢; tauto)⟩
          rw [digits_mul_ten_add (value_pos hfront) hlt, hchar,
            ih hfront.1 hfront.2.1 hfront.2.2]

/-- The leading digit of a positive number is not zero. -/
theorem head?_digits_ne_zero {n : Nat} (hn : 0 < n) : (digits n).head? ≠ some '0' := by
  induction n using Nat.strong_induction_on with
  | _ n ih =>
      rw [digits, Nat.toDigits_eq_if (by decide)]
      split
      · have : n.digitChar ≠ '0' := by simp; omega
        simpa using this
      · have hlead := ih (n / 10) (by omega) (by omega)
        rw [List.head?_append_of_ne_nil _ Nat.toDigits_ne_nil]
        exact hlead

/-- The text of a positive number is canonical. -/
theorem canonical_digits {n : Nat} (hn : 0 < n) : Canonical (digits n) :=
  ⟨digits_ne_nil n, head?_digits_ne_zero hn, fun _ hc => isDigit_of_mem_digits hc⟩

end ResponseEngine.Foundation.Decimal
