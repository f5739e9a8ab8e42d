/-
  Foundation/Rounding.lean --- what rounding to binary64 does to a number.

  Inside one binade the doubles are equally spaced, so rounding there is rounding of
  the scaled number to an integer.  From this follow the three facts that are used:
  small integers are exact, the relative error is at most `2⁻⁵³`, and it is decided by
  one comparison whether a number just below an integer is rounded up to it.
-/
import ResponseEngine.Foundation.Double

set_option autoImplicit false

namespace ResponseEngine.Foundation.Double

/-! ## The leading binary digit -/

theorem pow2_eq_zpow (e : Int) : pow2 e = (2 : ℚ) ^ e := by
  cases e with
  | ofNat n => simp [pow2]
  | negSucc n => simp [pow2, zpow_negSucc]

/-- The binade of a positive number. -/
theorem log_eq_iff {r : ℚ} (hr : 0 < r) {e : Int} :
    Int.log 2 r = e ↔ (2 : ℚ) ^ e ≤ r ∧ r < (2 : ℚ) ^ (e + 1) := by
  have hle : (2 : ℚ) ^ e ≤ r ↔ e ≤ Int.log 2 r := by
    exact_mod_cast Int.zpow_le_iff_le_log (by norm_num : 1 < 2) hr
  have hlt : r < (2 : ℚ) ^ (e + 1) ↔ Int.log 2 r < e + 1 := by
    exact_mod_cast Int.lt_zpow_iff_log_lt (by norm_num : 1 < 2) hr
  rw [hle, hlt]
  omega

theorem abs_eq_natAbs_div (q : ℚ) : |q| = (q.num.natAbs : ℚ) / q.den := by
  have hden : (0 : ℚ) < q.den := by exact_mod_cast q.den_pos
  calc |q| = |(q.num : ℚ) / q.den| := by rw [Rat.num_div_den]
    _ = |(q.num : ℚ)| / q.den := by rw [abs_div, abs_of_pos hden]
    _ = (q.num.natAbs : ℚ) / q.den := by rw [← Int.cast_abs, Int.abs_eq_natAbs, Int.cast_natCast]

/-- A quotient of naturals lies in one of two neighbouring binades. -/
theorem div_mem_binades {n d : ℕ} (hn : n ≠ 0) (hd : d ≠ 0) :
    (2 : ℚ) ^ ((Nat.log2 n : Int) - Nat.log2 d - 1) ≤ (n : ℚ) / d ∧
      (n : ℚ) / d < (2 : ℚ) ^ ((Nat.log2 n : Int) - Nat.log2 d + 1) := by
  have hdpos : (0 : ℚ) < d := by exact_mod_cast Nat.pos_of_ne_zero hd
  have hnlow : (2 : ℚ) ^ (Nat.log2 n) ≤ n := by exact_mod_cast Nat.log2_self_le hn
  have hnhigh : (n : ℚ) < 2 ^ (Nat.log2 n + 1) := by exact_mod_cast Nat.lt_log2_self
  have hdlow : (2 : ℚ) ^ (Nat.log2 d) ≤ d := by exact_mod_cast Nat.log2_self_le hd
  have hdhigh : (d : ℚ) < 2 ^ (Nat.log2 d + 1) := by exact_mod_cast Nat.lt_log2_self
  constructor
  · calc (2 : ℚ) ^ ((Nat.log2 n : Int) - Nat.log2 d - 1)
        = 2 ^ (Nat.log2 n) / 2 ^ (Nat.log2 d + 1) := by
          rw [sub_sub, zpow_sub₀ two_ne_zero]
          norm_cast
      _ ≤ (n : ℚ) / d := div_le_div₀ (by positivity) hnlow hdpos hdhigh.le
  · calc (n : ℚ) / d < 2 ^ (Nat.log2 n + 1) / 2 ^ (Nat.log2 d) :=
          div_lt_div₀ hnhigh hdlow (by positivity) (by positivity)
      _ = (2 : ℚ) ^ ((Nat.log2 n : Int) - Nat.log2 d + 1) := by
          rw [sub_add_eq_add_sub, zpow_sub₀ two_ne_zero]
          norm_cast

theorem floorLog2_eq_log {q : ℚ} (h : q ≠ 0) : floorLog2 q = Int.log 2 |q| := by
  have hnum : q.num.natAbs ≠ 0 := Int.natAbs_ne_zero.mpr (Rat.num_ne_zero.mpr h)
  obtain ⟨hlow, hhigh⟩ := div_mem_binades hnum q.den_nz
  rw [← abs_eq_natAbs_div] at hlow hhigh
  symm
  rw [log_eq_iff (abs_pos.mpr h), floorLog2, pow2_eq_zpow]
  split_ifs with hle
  · exact ⟨hle, hhigh⟩
  · rw [sub_add_cancel]
    exact ⟨hlow, not_le.mp hle⟩

/-! ## Rounding to an integer -/

theorem roundHalfEven_intCast (n : Int) : roundHalfEven n = n := by
  have hfloor : (n : ℚ).floor = n := Rat.floor_intCast n
  simp [roundHalfEven, hfloor]

/-- Rounding does not cross an integer from above. -/
theorem le_roundHalfEven {q : ℚ} {n : Int} (h : (n : ℚ) ≤ q) : n ≤ roundHalfEven q := by
  have hfloor : n ≤ q.floor := Rat.le_floor_iff.mpr h
  unfold roundHalfEven
  dsimp only
  split_ifs <;> omega

/-- Rounding moves a number by at most one half. -/
theorem abs_roundHalfEven_sub_le (q : ℚ) : |(roundHalfEven q : ℚ) - q| ≤ 1 / 2 := by
  have hlow : (q.floor : ℚ) ≤ q := Int.floor_le q
  have hhigh : q < q.floor + 1 := Int.lt_floor_add_one q
  rw [abs_le, roundHalfEven]
  split_ifs <;> push_cast <;> constructor <;> linarith

/-- A number at most one below an even integer is rounded up to it from the middle on. -/
theorem roundHalfEven_of_half_le {q : ℚ} {n : Int} (heven : n % 2 = 0)
    (hlow : (n : ℚ) - 1 / 2 ≤ q) (hhigh : q < n) : roundHalfEven q = n := by
  have hfloor : ⌊q⌋ = n - 1 := by
    refine Int.floor_eq_iff.mpr ⟨?_, ?_⟩ <;> push_cast <;> linarith
  change q.floor = n - 1 at hfloor
  have hodd : (n - 1) % 2 ≠ 0 := by omega
  rw [roundHalfEven, hfloor]
  rw [if_neg (by push_cast; linarith), if_neg hodd]
  split_ifs <;> omega

/-- Below the middle it stays below. -/
theorem roundHalfEven_of_lt_half {q : ℚ} {n : Int} (h : q < (n : ℚ) - 1 / 2) :
    roundHalfEven q < n := by
  have hnear := (abs_le.mp (abs_roundHalfEven_sub_le q)).2
  have hlt : (roundHalfEven q : ℚ) < n := by linarith
  exact_mod_cast hlt

/-! ## Rounding to a double -/

/-- Inside a binade, rounding is rounding of the scaled number to an integer. -/
theorem nearest_eq {q : ℚ} {e : Int} (hlow : (2 : ℚ) ^ e ≤ |q|) (hhigh : |q| < (2 : ℚ) ^ (e + 1)) :
    nearest q = roundHalfEven (q * 2 ^ (52 - e)) / 2 ^ (52 - e) := by
  have hpos : 0 < |q| := lt_of_lt_of_le (by positivity) hlow
  have hq : q ≠ 0 := abs_pos.mp hpos
  have hlog : floorLog2 q = e := by
    rw [floorLog2_eq_log hq]
    exact (log_eq_iff hpos).mpr ⟨hlow, hhigh⟩
  have hulp : (2 : ℚ) ^ (e - 52) = ((2 : ℚ) ^ (52 - e))⁻¹ := by
    rw [← zpow_neg, neg_sub]
  rw [nearest, if_neg hq]
  dsimp only
  rw [hlog, pow2_eq_zpow, hulp, div_inv_eq_mul, div_eq_mul_inv]

/-- The relative error of rounding. -/
theorem abs_nearest_sub_le (q : ℚ) : |nearest q - q| ≤ |q| / 2 ^ 53 := by
  by_cases hq : q = 0
  · simp [nearest, hq]
  · obtain ⟨hlow, hhigh⟩ := (log_eq_iff (abs_pos.mpr hq)).mp rfl
    set e := Int.log 2 |q|
    have hscale : (0 : ℚ) < 2 ^ (52 - e) := by positivity
    have hround := abs_roundHalfEven_sub_le (q * 2 ^ (52 - e))
    have hulp : (2 : ℚ) ^ e / 2 ^ 53 = 1 / 2 / 2 ^ (52 - e) := by
      rw [zpow_sub₀ two_ne_zero]
      field_simp
    calc |nearest q - q|
        = |(roundHalfEven (q * 2 ^ (52 - e)) : ℚ) - q * 2 ^ (52 - e)| / 2 ^ (52 - e) := by
          rw [nearest_eq hlow hhigh, ← abs_of_pos hscale, ← abs_div, abs_of_pos hscale]
          congr 1
          field_simp
      _ ≤ 1 / 2 / 2 ^ (52 - e) := by gcongr
      _ = 2 ^ e / 2 ^ 53 := hulp.symm
      _ ≤ |q| / 2 ^ 53 := by gcongr

/-- The integers of at most 53 binary digits are doubles. -/
theorem nearest_intCast {n : Int} (h : n.natAbs < 2 ^ 53) : nearest n = n := by
  by_cases hn : n = 0
  · simp [nearest, hn]
  · have habs : |(n : ℚ)| = n.natAbs := by
      rw [← Int.cast_abs, Int.abs_eq_natAbs, Int.cast_natCast]
    have hlog : Nat.log2 n.natAbs ≤ 52 := by
      have := (Nat.log2_lt (Int.natAbs_ne_zero.mpr hn)).mpr h
      omega
    have hlow : (2 : ℚ) ^ (Nat.log2 n.natAbs : Int) ≤ |(n : ℚ)| := by
      rw [habs]
      exact_mod_cast Nat.log2_self_le (Int.natAbs_ne_zero.mpr hn)
    have hhigh : |(n : ℚ)| < (2 : ℚ) ^ ((Nat.log2 n.natAbs : Int) + 1) := by
      rw [habs]
      exact_mod_cast Nat.lt_log2_self
    obtain ⟨k, hk⟩ : ∃ k : ℕ, (52 : Int) - Nat.log2 n.natAbs = k :=
      ⟨52 - Nat.log2 n.natAbs, by omega⟩
    rw [nearest_eq hlow hhigh, hk, zpow_natCast]
    have hscaled : (n : ℚ) * 2 ^ k = ((n * 2 ^ k : Int) : ℚ) := by push_cast; rfl
    rw [hscaled, roundHalfEven_intCast]
    push_cast
    field_simp

/-! ## Just below an integer -/

section
variable {k : ℕ} {q : ℚ}

/-- The numbers from `k` up to `k + 1` lie in the binade of `k`. -/
theorem binade_of_lt_succ (hk : 0 < k) (hlow : (k : ℚ) ≤ q) (hhigh : q < k + 1) :
    (2 : ℚ) ^ (Nat.log2 k : Int) ≤ |q| ∧ |q| < (2 : ℚ) ^ ((Nat.log2 k : Int) + 1) := by
  have hpow : (2 : ℚ) ^ (Nat.log2 k : Int) ≤ k := by
    exact_mod_cast Nat.log2_self_le hk.ne'
  have hsucc : (k : ℚ) + 1 ≤ (2 : ℚ) ^ ((Nat.log2 k : Int) + 1) := by
    exact_mod_cast Nat.succ_le_of_lt (Nat.lt_log2_self (n := k))
  rw [abs_of_nonneg (le_trans (by positivity) hlow)]
  exact ⟨hpow.trans hlow, hhigh.trans_le hsucc⟩

/-- There, rounding is to a multiple of an integer fraction of one. -/
theorem nearest_of_lt_succ (hk : 0 < k) (hsmall : k < 2 ^ 52) (hlow : (k : ℚ) ≤ q)
    (hhigh : q < k + 1) :
    nearest q = roundHalfEven (q * 2 ^ (52 - Nat.log2 k)) / 2 ^ (52 - Nat.log2 k) := by
  have hlog : Nat.log2 k < 52 := (Nat.log2_lt hk.ne').mpr hsmall
  have hexp : (52 : Int) - Nat.log2 k = ((52 - Nat.log2 k : ℕ) : Int) := by omega
  obtain ⟨hbelow, habove⟩ := binade_of_lt_succ hk hlow hhigh
  rw [nearest_eq hbelow habove, hexp, zpow_natCast]

/-- A number close enough to `k + 1` is rounded up to it. -/
theorem nearest_eq_succ (hk : 0 < k) (hsmall : k < 2 ^ 52) (hlow : (k : ℚ) ≤ q)
    (hhigh : q < k + 1) (hclose : (k + 1 - q) * 2 ^ (53 - Nat.log2 k) ≤ 1) :
    nearest q = k + 1 := by
  have hlog : Nat.log2 k < 52 := (Nat.log2_lt hk.ne').mpr hsmall
  obtain ⟨s, hs⟩ : ∃ s, 52 - Nat.log2 k = s + 1 := ⟨51 - Nat.log2 k, by omega⟩
  have hs' : 53 - Nat.log2 k = s + 2 := by omega
  rw [hs'] at hclose
  rw [nearest_of_lt_succ hk hsmall hlow hhigh, hs]
  have hcast : (((k + 1) * 2 ^ (s + 1) : Int) : ℚ) = (k + 1) * 2 ^ (s + 1) := by push_cast; rfl
  have hround : roundHalfEven (q * 2 ^ (s + 1)) = (k + 1) * 2 ^ (s + 1) := by
    refine roundHalfEven_of_half_le ?_ ?_ ?_
    · rw [pow_succ, ← mul_assoc, Int.mul_emod_left]
    · rw [hcast]
      have hpow : (2 : ℚ) ^ (s + 2) = 2 * 2 ^ (s + 1) := by ring
      rw [hpow] at hclose
      linarith
    · rw [hcast]
      gcongr
  rw [hround, hcast]
  field_simp

/-- A number further away keeps its integer part. -/
theorem floor_nearest_eq (hk : 0 < k) (hsmall : k < 2 ^ 52) (hlow : (k : ℚ) ≤ q)
    (hhigh : q < k + 1) (hfar : 1 < (k + 1 - q) * 2 ^ (53 - Nat.log2 k)) :
    ⌊nearest q⌋ = k := by
  have hlog : Nat.log2 k < 52 := (Nat.log2_lt hk.ne').mpr hsmall
  obtain ⟨s, hs⟩ : ∃ s, 52 - Nat.log2 k = s := ⟨_, rfl⟩
  have hs' : 53 - Nat.log2 k = s + 1 := by omega
  rw [hs'] at hfar
  rw [nearest_of_lt_succ hk hsmall hlow hhigh, hs]
  have hscale : (0 : ℚ) < 2 ^ s := by positivity
  have hfrom : (k : Int) * 2 ^ s ≤ roundHalfEven (q * 2 ^ s) := by
    apply le_roundHalfEven
    push_cast
    gcongr
  have hbelow : roundHalfEven (q * 2 ^ s) < ((k : Int) + 1) * 2 ^ s := by
    apply roundHalfEven_of_lt_half
    push_cast
    rw [pow_succ] at hfar
    linarith
  refine Int.floor_eq_iff.mpr ⟨?_, ?_⟩
  · rw [le_div_iff₀ hscale]
    exact_mod_cast hfrom
  · rw [div_lt_iff₀ hscale]
    exact_mod_cast hbelow

end

/-! ## Truncation -/

theorem truncate_of_nonneg {q : ℚ} (h : 0 ≤ q) : truncate q = ⌊q⌋ := if_pos h

/-- A number above minus one and at most zero is truncated to zero. -/
theorem truncate_eq_zero {q : ℚ} (hlow : -1 < q) (hhigh : q ≤ 0) : truncate q = 0 := by
  rcases hhigh.lt_or_eq with hneg | rfl
  · rw [truncate, if_neg hneg.not_ge]
    apply le_antisymm
    · exact Rat.ceil_le_iff.mpr (by exact_mod_cast hhigh)
    · have hceil : -1 < q.ceil := Rat.lt_ceil_iff.mpr (by exact_mod_cast hlow)
      omega
  · rfl

/-- A number of at most minus one is truncated to a negative number. -/
theorem truncate_neg {q : ℚ} (h : q ≤ -1) : truncate q < 0 := by
  rw [truncate, if_neg (by linarith)]
  have hceil : q.ceil ≤ -1 := Rat.ceil_le_iff.mpr (by exact_mod_cast h)
  omega

end ResponseEngine.Foundation.Double
