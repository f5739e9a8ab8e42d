/-
  Foundation/Double.lean --- IEEE 754 binary64 values as exact numbers.

  A finite double is the rational number it denotes.  The two operations the
  development needs are the IEEE comparisons, where a NaN is unordered and equal
  to nothing, and the correctly rounded result of a division (`nearest`): ties go
  to the even significand.  `nearest` is exact only in the normal range; nothing
  below applies it outside.
-/
import Mathlib

set_option autoImplicit false

namespace ResponseEngine.Foundation

/-- A binary64 value. -/
inductive Double where
  | nan
  | infinity (negative : Bool)
  | finite (q : ℚ)
  deriving DecidableEq

namespace Double

/-- IEEE `==`. -/
def eq : Double → Double → Bool
  | infinity m, infinity n => m == n
  | finite p, finite q => p == q
  | _, _ => false

/-- IEEE `<`. -/
def lt : Double → Double → Bool
  | nan, _ => false
  | _, nan => false
  | infinity m, infinity n => m && !n
  | infinity m, finite _ => m
  | finite _, infinity n => !n
  | finite p, finite q => decide (p < q)

/-- IEEE `<=`. -/
def le (x y : Double) : Bool := x.lt y || x.eq y

/-- Only a NaN is neither below a value nor at least that value. -/
theorem not_lt_iff {x y : Double} : x.lt y = false ↔ y.le x = true ∨ x = nan ∨ y = nan := by
  cases x with
  | nan => simp [lt]
  | infinity m =>
      cases y with
      | nan => simp [lt]
      | infinity n => cases m <;> cases n <;> simp [lt, le, eq]
      | finite q => cases m <;> simp [lt, le, eq]
  | finite p =>
      cases y with
      | nan => simp [lt]
      | infinity n => cases n <;> simp [lt, le, eq]
      | finite q =>
          simp only [lt, le, eq, decide_eq_false_iff_not, not_lt, Bool.or_eq_true,
            decide_eq_true_eq, beq_iff_eq, reduceCtorEq, or_false]
          exact le_iff_lt_or_eq

theorem le_nan (x : Double) : x.le nan = false := by
  cases x <;> rfl

theorem nan_le (x : Double) : nan.le x = false := by
  cases x <;> rfl

protected theorem le_trans {x y z : Double} (hxy : x.le y = true) (hyz : y.le z = true) :
    x.le z = true := by
  cases x <;> cases y <;> cases z <;> simp_all [le, lt, eq]
  all_goals grind

/-- `2 ^ e`. -/
def pow2 : Int → ℚ
  | .ofNat n => (2 ^ n : Nat)
  | .negSucc n => 1 / (2 ^ (n + 1) : Nat)

/-- The exponent of the leading binary digit of a nonzero rational. -/
def floorLog2 (q : ℚ) : Int :=
  let e : Int := Nat.log2 q.num.natAbs - Nat.log2 q.den
  if pow2 e ≤ |q| then e else e - 1

/-- Round to an integer, ties to even. -/
def roundHalfEven (q : ℚ) : Int :=
  let f := q.floor
  if q - f < 1 / 2 then f
  else if 1 / 2 < q - f then f + 1
  else if f % 2 = 0 then f else f + 1

/-- The double nearest to a rational of the normal range. -/
def nearest (q : ℚ) : ℚ :=
  if q = 0 then 0
  else
    let ulp := pow2 (floorLog2 q - 52)
    roundHalfEven (q / ulp) * ulp

/-- Truncation toward zero. -/
def truncate (q : ℚ) : Int := if 0 ≤ q then q.floor else q.ceil

/-! ## Signs -/

theorem pow2_pos (e : Int) : 0 < pow2 e := by
  cases e with
  | ofNat n => simp [pow2]
  | negSucc n => simp [pow2]

theorem roundHalfEven_nonneg {q : ℚ} (h : 0 ≤ q) : 0 ≤ roundHalfEven q := by
  have hfloor : 0 ≤ q.floor := Rat.le_floor_iff.mpr (by simpa using h)
  unfold roundHalfEven
  dsimp only
  split_ifs <;> omega

/-- Rounding keeps the sign of a number that is not negative. -/
theorem nearest_nonneg {q : ℚ} (h : 0 ≤ q) : 0 ≤ nearest q := by
  unfold nearest
  dsimp only
  split_ifs
  · exact le_refl 0
  · have hulp := pow2_pos (floorLog2 q - 52)
    have hround := roundHalfEven_nonneg (div_nonneg h hulp.le)
    exact mul_nonneg (by exact_mod_cast hround) hulp.le

theorem truncate_nonneg {q : ℚ} (h : 0 ≤ q) : 0 ≤ truncate q := by
  rw [truncate, if_pos h]
  exact Rat.le_floor_iff.mpr (by simpa using h)

end Double

end ResponseEngine.Foundation
