/-
  Signing/Epoch.lean --- when the signed seconds are the seconds of the instant.

  `epochSeconds` drops the microseconds of the civil time before it applies the UTC
  offset, takes the result through a double and truncates toward zero.  Each of the
  three steps is harmless when the offset is a whole number of seconds.  Under an offset
  with a sub-second part the result may be one second too early or too late, and an
  instant just before 1970 may be accepted as the epoch.
-/
import ResponseEngine.Signing
import ResponseEngine.Foundation.Rounding

set_option autoImplicit false

namespace ResponseEngine.Signing

open ResponseEngine.Foundation ResponseEngine.Python

variable {rt : Runtime}

/-! ## What a text denotes -/

/-- The interpreter reads the text as an aware date-time, at this offset. -/
structure Denotes (rt : Runtime) (text : Text) (moment : DateTime) (offset : UtcOffset) : Prop where
  fromisoformat_eq : rt.fromisoformat (zuluOffset text) = some moment
  utcoffset_eq : moment.utcoffset = some offset

/-- The whole epoch seconds of the texts are those of the instants they denote. -/
structure WholeSeconds (rt : Runtime) (texts : Set Text) : Prop where
  /-- an accepted text gives the floor of its instant -/
  floor : ∀ text ∈ texts, ∀ moment offset, Denotes rt text moment offset →
    ∀ n, epochSeconds rt (.str text) = .ok n → n = moment.instant offset / 1000000
  /-- an instant before 1970 is refused -/
  refused : ∀ text ∈ texts, ∀ moment offset, Denotes rt text moment offset →
    moment.instant offset < 0 → ∀ n, epochSeconds rt (.str text) ≠ .ok n
  /-- texts of one instant are accepted together, with one result -/
  sameInstant : ∀ t₁ ∈ texts, ∀ t₂ ∈ texts, ∀ m₁ o₁ m₂ o₂,
    Denotes rt t₁ m₁ o₁ → Denotes rt t₂ m₂ o₂ → m₁.instant o₁ = m₂.instant o₂ →
      ∀ n, epochSeconds rt (.str t₁) = .ok n ↔ epochSeconds rt (.str t₂) = .ok n
  /-- a later instant does not get a smaller result -/
  monotone : ∀ t₁ ∈ texts, ∀ t₂ ∈ texts, ∀ m₁ o₁ m₂ o₂,
    Denotes rt t₁ m₁ o₁ → Denotes rt t₂ m₂ o₂ → m₁.instant o₁ ≤ m₂.instant o₂ →
      ∀ n₁ n₂, epochSeconds rt (.str t₁) = .ok n₁ → epochSeconds rt (.str t₂) = .ok n₂ → n₁ ≤ n₂

/-! ## The parts of an instant -/

/-- The civil seconds less the whole seconds of the offset. -/
def secondsPart (moment : DateTime) (offset : UtcOffset) : Int :=
  moment.wall / 1000000 - offset.micros / 1000000

/-- The microseconds of the civil time, which are dropped. -/
def microsecond (moment : DateTime) : Int := moment.wall % 1000000

/-- The sub-second part of the offset, which is not. -/
def subsecond (offset : UtcOffset) : Int := offset.micros % 1000000

/-- The double nearest to `whole` seconds less `micros` microseconds is `whole`. -/
def RoundsUp (whole micros : Int) : Prop :=
  micros * 2 ^ (53 - Nat.log2 (whole - 1).toNat) ≤ 1000000

/-- The steps of `epochSeconds` do no harm: the offset has no sub-second part, or the
whole seconds are negative, or what is dropped makes up for the sub-second part. -/
def Regular (moment : DateTime) (offset : UtcOffset) : Prop :=
  subsecond offset = 0 ∨ secondsPart moment offset < 0 ∨
    (secondsPart moment offset = 0 ∧ subsecond offset ≤ microsecond moment) ∨
    (0 < secondsPart moment offset ∧
      (subsecond offset ≤ microsecond moment ↔
        RoundsUp (secondsPart moment offset) (subsecond offset)))

section
variable {moment : DateTime} {offset : UtcOffset}

theorem microsecond_bounds (moment : DateTime) :
    0 ≤ microsecond moment ∧ microsecond moment < 1000000 := by
  unfold microsecond
  omega

theorem subsecond_bounds (offset : UtcOffset) :
    0 ≤ subsecond offset ∧ subsecond offset < 1000000 := by
  unfold subsecond
  omega

theorem secondsPart_natAbs_lt (moment : DateTime) (offset : UtcOffset) :
    (secondsPart moment offset).natAbs < 2 ^ 52 := by
  have hlow := moment.lower
  have hhigh := moment.upper
  have hoff := offset.lower
  have hoff' := offset.upper
  unfold secondsPart
  omega

theorem instant_eq (moment : DateTime) (offset : UtcOffset) :
    moment.instant offset =
      secondsPart moment offset * 1000000 + microsecond moment - subsecond offset := by
  unfold DateTime.instant secondsPart microsecond subsecond
  omega

/-- The floor of the instant, by comparing the two sub-second parts. -/
theorem instant_ediv (moment : DateTime) (offset : UtcOffset) :
    moment.instant offset / 1000000 =
      if subsecond offset ≤ microsecond moment then secondsPart moment offset
      else secondsPart moment offset - 1 := by
  have hmicro := microsecond_bounds moment
  have hsub := subsecond_bounds offset
  rw [instant_eq]
  split_ifs <;> omega

/-! ## The computed seconds -/

/-- `int(moment.replace(microsecond=0).timestamp())`. -/
def computedSeconds (moment : DateTime) (offset : UtcOffset) : Int :=
  Double.truncate (moment.replaceMicrosecondZero.timestamp offset)

/-- What is rounded: the whole seconds less the sub-second part of the offset. -/
theorem computedSeconds_eq (moment : DateTime) (offset : UtcOffset) :
    computedSeconds moment offset =
      Double.truncate (Double.nearest
        ((secondsPart moment offset : ℚ) - (subsecond offset : ℚ) / 1000000)) := by
  have hinstant : moment.replaceMicrosecondZero.instant offset =
      secondsPart moment offset * 1000000 - subsecond offset := by
    simp only [DateTime.instant, DateTime.replaceMicrosecondZero, secondsPart, subsecond]
    omega
  have hseconds : (moment.replaceMicrosecondZero.instant offset : ℚ) / 1000000 =
      (secondsPart moment offset : ℚ) - (subsecond offset : ℚ) / 1000000 := by
    rw [hinstant]
    push_cast
    ring
  rw [computedSeconds, DateTime.timestamp, hseconds]

/-- The sub-second part of an offset, in seconds. -/
theorem subsecond_seconds (h : subsecond offset ≠ 0) :
    (1 : ℚ) / 1000000 ≤ (subsecond offset : ℚ) / 1000000 ∧
      (subsecond offset : ℚ) / 1000000 ≤ 1 - 1 / 1000000 := by
  obtain ⟨hlow, hhigh⟩ := subsecond_bounds offset
  have hone : (1 : ℚ) ≤ subsecond offset := by exact_mod_cast (by omega : 1 ≤ subsecond offset)
  have hlast : (subsecond offset : ℚ) ≤ 999999 := by
    exact_mod_cast (by omega : subsecond offset ≤ 999999)
  constructor <;> linarith

theorem computedSeconds_of_whole (h : subsecond offset = 0) :
    computedSeconds moment offset = secondsPart moment offset := by
  have hbound := secondsPart_natAbs_lt moment offset
  rw [computedSeconds_eq, h]
  simp only [Int.cast_zero, zero_div, sub_zero]
  rw [Double.nearest_intCast (by omega)]
  unfold Double.truncate
  split_ifs
  · exact Rat.floor_intCast _
  · exact Rat.ceil_intCast _

/-- Negative whole seconds stay negative. -/
theorem computedSeconds_neg (h : secondsPart moment offset < 0) :
    computedSeconds moment offset < 0 := by
  by_cases hsub : subsecond offset = 0
  · rw [computedSeconds_of_whole hsub]
    exact h
  · obtain ⟨hlow, -⟩ := subsecond_seconds hsub
    have hpart : (secondsPart moment offset : ℚ) ≤ -1 := by
      exact_mod_cast (by omega : secondsPart moment offset ≤ -1)
    rw [computedSeconds_eq]
    set q := (secondsPart moment offset : ℚ) - (subsecond offset : ℚ) / 1000000
    have hq : q ≤ -1 - 1 / 1000000 := by
      simp only [q]
      linarith
    have herror := (abs_le.mp (Double.abs_nearest_sub_le q)).2
    rw [abs_of_neg (by linarith)] at herror
    apply Double.truncate_neg
    linarith

/-- Just below the epoch, truncation gives the epoch. -/
theorem computedSeconds_of_zero (h : secondsPart moment offset = 0)
    (hsub : subsecond offset ≠ 0) : computedSeconds moment offset = 0 := by
  obtain ⟨hlow, hhigh⟩ := subsecond_seconds hsub
  rw [computedSeconds_eq, h, Int.cast_zero, zero_sub]
  set q := (subsecond offset : ℚ) / 1000000
  have herror := abs_le.mp (Double.abs_nearest_sub_le (-q))
  rw [abs_of_neg (by linarith)] at herror
  apply Double.truncate_eq_zero
  · linarith [herror.1]
  · linarith [herror.2]

/-- In the first second after the epoch nothing is rounded up. -/
theorem computedSeconds_of_one (h : secondsPart moment offset = 1)
    (hsub : subsecond offset ≠ 0) : computedSeconds moment offset = 0 := by
  obtain ⟨hlow, hhigh⟩ := subsecond_seconds hsub
  rw [computedSeconds_eq, h, Int.cast_one]
  set q := (1 : ℚ) - (subsecond offset : ℚ) / 1000000
  have hq : 1 / 1000000 ≤ q ∧ q ≤ 1 - 1 / 1000000 := by
    simp only [q]
    constructor <;> linarith
  have herror := abs_le.mp (Double.abs_nearest_sub_le q)
  rw [abs_of_pos (by linarith)] at herror
  have hnonneg := Double.nearest_nonneg (by linarith : 0 ≤ q)
  rw [Double.truncate_of_nonneg hnonneg, Int.floor_eq_zero_iff]
  exact ⟨hnonneg, by linarith⟩

/-- The number that is rounded, once there is a whole second to compare it with. -/
theorem seconds_bounds {k : ℕ} (h : secondsPart moment offset = k + 1)
    (hsub : subsecond offset ≠ 0) :
    (k : ℚ) ≤ (secondsPart moment offset : ℚ) - (subsecond offset : ℚ) / 1000000 ∧
      (secondsPart moment offset : ℚ) - (subsecond offset : ℚ) / 1000000 < k + 1 := by
  obtain ⟨hlow, hhigh⟩ := subsecond_seconds hsub
  rw [h]
  push_cast
  constructor <;> linarith

/-- The distance to the next whole second, on the scale of the doubles. -/
theorem roundsUp_iff {k : ℕ} (h : secondsPart moment offset = k + 1) :
    RoundsUp (secondsPart moment offset) (subsecond offset) ↔
      ((k : ℚ) + 1 - ((secondsPart moment offset : ℚ) - (subsecond offset : ℚ) / 1000000)) *
        2 ^ (53 - Nat.log2 k) ≤ 1 := by
  have hscale : ((k : ℚ) + 1 - ((secondsPart moment offset : ℚ) -
      (subsecond offset : ℚ) / 1000000)) * 2 ^ (53 - Nat.log2 k) =
      ((subsecond offset * 2 ^ (53 - Nat.log2 k) : Int) : ℚ) / 1000000 := by
    rw [h]
    push_cast
    ring
  rw [hscale, div_le_one (by norm_num), RoundsUp, h, add_sub_cancel_right, Int.toNat_natCast]
  norm_cast

/-- From the next second on, rounding decides. -/
theorem computedSeconds_of_two_le (h : 2 ≤ secondsPart moment offset)
    (hsub : subsecond offset ≠ 0) :
    (RoundsUp (secondsPart moment offset) (subsecond offset) →
      computedSeconds moment offset = secondsPart moment offset) ∧
    (¬ RoundsUp (secondsPart moment offset) (subsecond offset) →
      computedSeconds moment offset = secondsPart moment offset - 1) := by
  obtain ⟨k, hk⟩ : ∃ k : ℕ, secondsPart moment offset = k + 1 :=
    ⟨(secondsPart moment offset - 1).toNat, by omega⟩
  have hpos : 0 < k := by omega
  have hsmall : k < 2 ^ 52 := by
    have := secondsPart_natAbs_lt moment offset
    omega
  obtain ⟨hlow, hhigh⟩ := seconds_bounds hk hsub
  have hnonneg := Double.nearest_nonneg ((Nat.cast_nonneg k).trans hlow)
  rw [roundsUp_iff hk, not_le, computedSeconds_eq, Double.truncate_of_nonneg hnonneg]
  constructor
  · intro hclose
    rw [Double.nearest_eq_succ hpos hsmall hlow hhigh hclose, hk]
    exact_mod_cast Int.floor_natCast (R := ℚ) (k + 1)
  · intro hfar
    rw [Double.floor_nearest_eq hpos hsmall hlow hhigh hfar, hk, add_sub_cancel_right]

theorem not_roundsUp_one (hsub : subsecond offset ≠ 0) : ¬ RoundsUp 1 (subsecond offset) := by
  have hbound := subsecond_bounds offset
  have hlog : Nat.log2 (1 - 1 : Int).toNat = 0 := by decide
  rw [RoundsUp, hlog]
  norm_num
  omega

/-- After the epoch, rounding decides between the whole seconds and one less. -/
theorem computedSeconds_of_pos (h : 0 < secondsPart moment offset) (hsub : subsecond offset ≠ 0) :
    (RoundsUp (secondsPart moment offset) (subsecond offset) →
      computedSeconds moment offset = secondsPart moment offset) ∧
    (¬ RoundsUp (secondsPart moment offset) (subsecond offset) →
      computedSeconds moment offset = secondsPart moment offset - 1) := by
  rcases (by omega : secondsPart moment offset = 1 ∨ 2 ≤ secondsPart moment offset) with hone | htwo
  · rw [computedSeconds_of_one hone hsub, hone]
    exact ⟨fun hround => absurd hround (not_roundsUp_one hsub), fun _ => rfl⟩
  · exact computedSeconds_of_two_le htwo hsub

/-! ## Regular moments -/

theorem regular_iff_of_pos (h : 0 < secondsPart moment offset) (hsub : subsecond offset ≠ 0) :
    Regular moment offset ↔ (subsecond offset ≤ microsecond moment ↔
      RoundsUp (secondsPart moment offset) (subsecond offset)) := by
  simp [Regular, hsub, h, h.ne', h.not_gt]

/-- The moments at which an accepted result is the floor of the instant. -/
theorem regular_iff : Regular moment offset ↔
    (0 ≤ computedSeconds moment offset →
      computedSeconds moment offset = moment.instant offset / 1000000) := by
  have hmicro := microsecond_bounds moment
  rw [instant_ediv]
  by_cases hsub : subsecond offset = 0
  · rw [computedSeconds_of_whole hsub, hsub, if_pos hmicro.1]
    exact ⟨fun _ _ => rfl, fun _ => Or.inl hsub⟩
  · rcases lt_trichotomy (secondsPart moment offset) 0 with hneg | hzero | hpos
    · have hcomputed := computedSeconds_neg hneg
      exact ⟨fun _ h => absurd h hcomputed.not_ge, fun _ => Or.inr (Or.inl hneg)⟩
    · rw [computedSeconds_of_zero hzero hsub, hzero, Regular, hzero]
      split_ifs with hle <;> simp [hsub, hle]
    · obtain ⟨hup, hdown⟩ := computedSeconds_of_pos hpos hsub
      rw [regular_iff_of_pos hpos hsub]
      by_cases hround : RoundsUp (secondsPart moment offset) (subsecond offset)
      · rw [iff_true_right hround, hup hround]
        split_ifs with hle
        · exact ⟨fun _ _ => rfl, fun _ => hle⟩
        · exact ⟨fun h => absurd h hle, fun h => absurd (h hpos.le) (by omega)⟩
      · rw [iff_false_right hround, hdown hround]
        split_ifs with hle
        · exact ⟨fun h => absurd hle h, fun h => absurd (h (by omega)) (by omega)⟩
        · exact ⟨fun _ _ => rfl, fun _ => hle⟩

/-- A regular moment at or after the epoch is accepted. -/
theorem computedSeconds_nonneg (h : 0 ≤ moment.instant offset) :
    0 ≤ computedSeconds moment offset := by
  have hmicro := microsecond_bounds moment
  have hsub := subsecond_bounds offset
  rw [instant_eq] at h
  have hpart : 0 ≤ secondsPart moment offset := by omega
  by_cases hwhole : subsecond offset = 0
  · rw [computedSeconds_of_whole hwhole]
    exact hpart
  · rcases hpart.eq_or_lt with hzero | hpos
    · rw [computedSeconds_of_zero hzero.symm hwhole]
    · obtain ⟨hup, hdown⟩ := computedSeconds_of_pos hpos hwhole
      by_cases hround : RoundsUp (secondsPart moment offset) (subsecond offset)
      · rw [hup hround]
        exact hpart
      · rw [hdown hround]
        omega

/-! ## The texts that are read correctly -/

/-- A text is accepted with the computed seconds unless they are negative. -/
theorem epochSeconds_eq_ok_iff {text : Text} (h : Denotes rt text moment offset) {n : Int} :
    epochSeconds rt (.str text) = .ok n ↔
      computedSeconds moment offset = n ∧ 0 ≤ computedSeconds moment offset := by
  simp only [epochSeconds, h.fromisoformat_eq, h.utcoffset_eq]
  unfold computedSeconds
  split_ifs with hneg
  · simp [unsignable, hneg]
  · simp [pure, Except.pure, not_lt.mp hneg]

/-- A regular text is accepted from the epoch on, with the floor of its instant. -/
theorem epochSeconds_of_regular {text : Text} (h : Denotes rt text moment offset)
    (hregular : Regular moment offset) {n : Int} :
    epochSeconds rt (.str text) = .ok n ↔
      n = moment.instant offset / 1000000 ∧ 0 ≤ moment.instant offset := by
  rw [epochSeconds_eq_ok_iff h]
  constructor
  · intro ⟨hn, hnonneg⟩
    have hfloor := regular_iff.mp hregular hnonneg
    omega
  · intro ⟨hn, hinstant⟩
    have hnonneg := computedSeconds_nonneg hinstant
    exact ⟨(regular_iff.mp hregular hnonneg).trans hn.symm, hnonneg⟩
end

/-- Whatever texts are compared, their seconds are those of the instants they denote
exactly if each of the moments is regular. -/
theorem wholeSeconds_iff {texts : Set Text} : WholeSeconds rt texts ↔
    ∀ text ∈ texts, ∀ moment offset, Denotes rt text moment offset → Regular moment offset := by
  constructor
  · intro hwhole text htext moment offset hdenotes
    rw [regular_iff]
    intro hnonneg
    have haccepted := (epochSeconds_eq_ok_iff hdenotes).mpr ⟨rfl, hnonneg⟩
    exact hwhole.floor text htext moment offset hdenotes _ haccepted
  · intro hregular
    have heq : ∀ text ∈ texts, ∀ moment offset, Denotes rt text moment offset → ∀ n,
        epochSeconds rt (.str text) = .ok n ↔
          n = moment.instant offset / 1000000 ∧ 0 ≤ moment.instant offset :=
      fun text htext moment offset hdenotes n =>
        epochSeconds_of_regular hdenotes (hregular text htext moment offset hdenotes)
    refine { floor := ?_, refused := ?_, sameInstant := ?_, monotone := ?_ }
    · intro text htext moment offset hdenotes n hn
      exact ((heq text htext moment offset hdenotes n).mp hn).1
    · intro text htext moment offset hdenotes hneg n hn
      exact hneg.not_ge ((heq text htext moment offset hdenotes n).mp hn).2
    · intro t₁ ht₁ t₂ ht₂ m₁ o₁ m₂ o₂ h₁ h₂ hsame n
      rw [heq t₁ ht₁ m₁ o₁ h₁, heq t₂ ht₂ m₂ o₂ h₂, hsame]
    · intro t₁ ht₁ t₂ ht₂ m₁ o₁ m₂ o₂ h₁ h₂ hle n₁ n₂ hn₁ hn₂
      rw [((heq t₁ ht₁ m₁ o₁ h₁ n₁).mp hn₁).1, ((heq t₂ ht₂ m₂ o₂ h₂ n₂).mp hn₂).1]
      exact Int.ediv_le_ediv (by norm_num) hle

/-! ## An instant before 1970 that is accepted -/

/-- One second past midnight at an offset of one and a half seconds. -/
def earlyTime : Text := "1970-01-01T00:00:01+00:00:01.500000"

/-- Its offset. -/
def earlyOffset : UtcOffset := ⟨1500000, by decide, by decide⟩

/-- Its moment. -/
def earlyMoment : DateTime where
  wall := 1000000
  tzinfo := some { utcoffset := some earlyOffset }
  lower := by decide
  upper := by decide

/-- A runtime that reads this text as the interpreter does. -/
def earlyRuntime : Runtime :=
  { Runtime.sample with
    fromisoformat := fun t => if t = earlyTime then some earlyMoment else none }

/-- Half a second before 1970 is accepted as the epoch. -/
theorem epochSeconds_earlyTime :
    epochSeconds earlyRuntime (.str earlyTime) = .ok 0 ∧
      earlyMoment.instant earlyOffset = -500000 ∧ ¬ WholeSeconds earlyRuntime Set.univ := by
  have hdenotes : Denotes earlyRuntime earlyTime earlyMoment earlyOffset :=
    ⟨by decide +kernel, rfl⟩
  have haccepted : epochSeconds earlyRuntime (.str earlyTime) = .ok 0 := by decide +kernel
  refine ⟨haccepted, rfl, fun hwhole => ?_⟩
  exact hwhole.refused earlyTime trivial earlyMoment earlyOffset hdenotes (by decide) 0 haccepted

end ResponseEngine.Signing
