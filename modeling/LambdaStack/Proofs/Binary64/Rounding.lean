import LambdaStack.Json.Basic
import Mathlib.Algebra.Order.Field.Power
import Mathlib.Data.Rat.Floor
import Mathlib.Tactic.Linarith
import Mathlib.Tactic.Positivity

/-!
# Rounding

A rational magnitude is rounded at an exponent at which its significand has just 53 bits, or at the
least exponent. Below `2 ^ 1023` the rounded number is therefore finite, and with it the number that
is nearest to any integer of a JSON value.
-/

namespace LambdaStack

theorem twoPow_eq_zpow (exponent : Int) : twoPow exponent = (2 : ℚ) ^ exponent := by
  cases exponent with
  | ofNat n => simp [twoPow]
  | negSucc n => simp [twoPow, Rat.mkRat_eq_div, zpow_negSucc]

/-- An integer bound from below outlasts rounding. -/
theorem le_roundHalfEven {bound : Int} {value : ℚ} (le : (bound : ℚ) ≤ value) :
    bound ≤ roundHalfEven value := by
  have low_le : bound ≤ value.floor := Rat.le_floor_iff.mpr le
  simp only [roundHalfEven]
  split_ifs <;> omega

/-- An integer bound from above outlasts rounding. -/
theorem roundHalfEven_le {bound : Int} {value : ℚ} (le : value ≤ bound) :
    roundHalfEven value ≤ bound := by
  have floor_le : (value.floor : ℚ) ≤ bound := (Rat.floor_le value).trans le
  have low_le : value.floor ≤ bound := by exact_mod_cast floor_le
  by_cases reached : value.floor = bound
  · -- The bound is the floor, so nothing is left over that could be rounded up.
    have half_pos : (0 : ℚ) < mkRat 1 2 := by decide
    have excess_lt : value - value.floor < mkRat 1 2 := by
      rw [reached]
      linarith
    simp only [roundHalfEven, if_pos excess_lt]
    exact low_le
  · simp only [roundHalfEven]
    split_ifs <;> omega

namespace Binary64

/-- The number is neither an infinity nor none at all. -/
def IsFinite (value : Binary64) : Prop :=
  ∃ finite : Finite, value = .finite finite

/-- The difference of the binary logarithms of numerator and denominator. -/
def exponentEstimate (magnitude : ℚ) : Int :=
  (magnitude.num.natAbs.log2 : Int) - (magnitude.den.log2 : Int)

private theorem natAbs_div_den {magnitude : ℚ} (positive : 0 < magnitude) :
    (magnitude.num.natAbs : ℚ) / magnitude.den = magnitude := by
  have num_eq : ((magnitude.num.natAbs : Int) : ℚ) = magnitude.num := by
    rw [Int.natAbs_of_nonneg (Rat.num_nonneg.mpr positive.le)]
  rw [← Int.cast_natCast, num_eq, Rat.num_div_den]

private theorem log2_bounds {n : Nat} (positive : n ≠ 0) :
    (2 : ℚ) ^ n.log2 ≤ n ∧ (n : ℚ) < 2 ^ (n.log2 + 1) := by
  constructor
  · exact_mod_cast Nat.log2_self_le positive
  · exact_mod_cast Nat.lt_log2_self (n := n)

/-- The estimate is off by less than one from the binary logarithm of a magnitude. -/
theorem magnitude_bounds {magnitude : ℚ} (positive : 0 < magnitude) :
    (2 : ℚ) ^ (exponentEstimate magnitude - 1) < magnitude ∧
      magnitude < (2 : ℚ) ^ (exponentEstimate magnitude + 1) := by
  have num_ne : magnitude.num.natAbs ≠ 0 := by
    have num_pos := Rat.num_pos.mpr positive
    omega
  obtain ⟨num_ge, num_lt⟩ := log2_bounds num_ne
  obtain ⟨den_ge, den_lt⟩ := log2_bounds magnitude.den_nz
  have den_pos : (0 : ℚ) < magnitude.den := by exact_mod_cast magnitude.den_pos
  have ratio_eq := natAbs_div_den positive
  unfold exponentEstimate
  constructor
  · calc (2 : ℚ) ^ ((magnitude.num.natAbs.log2 : Int) - magnitude.den.log2 - 1)
        = 2 ^ magnitude.num.natAbs.log2 / 2 ^ (magnitude.den.log2 + 1) := by
          rw [sub_sub, zpow_sub₀ two_ne_zero]
          norm_cast
      _ ≤ magnitude.num.natAbs / 2 ^ (magnitude.den.log2 + 1) := by gcongr
      _ < magnitude.num.natAbs / magnitude.den := by gcongr
      _ = magnitude := ratio_eq
  · calc magnitude
        = magnitude.num.natAbs / magnitude.den := ratio_eq.symm
      _ < 2 ^ (magnitude.num.natAbs.log2 + 1) / magnitude.den := by gcongr
      _ ≤ 2 ^ (magnitude.num.natAbs.log2 + 1) / 2 ^ magnitude.den.log2 := by gcongr
      _ = (2 : ℚ) ^ ((magnitude.num.natAbs.log2 : Int) - magnitude.den.log2 + 1) := by
          rw [sub_add_eq_add_sub, zpow_sub₀ two_ne_zero]
          norm_cast

/-- A magnitude is rounded at the exponent at which its significand has 53 bits, unless that is
below the least one. -/
theorem roundingExponent_cases {magnitude : ℚ} (positive : 0 < magnitude) :
    ∃ exponent : Int, roundingExponent magnitude = max exponent (-1074) ∧
      (2 : ℚ) ^ (exponent + 52) ≤ magnitude ∧ magnitude < (2 : ℚ) ^ (exponent + 53) := by
  obtain ⟨above, below⟩ := magnitude_bounds positive
  change ∃ exponent, max (if magnitude < twoPow (exponentEstimate magnitude) then
    exponentEstimate magnitude - 53 else exponentEstimate magnitude - 52) (-1074) = _ ∧ _
  rw [twoPow_eq_zpow]
  generalize exponentEstimate magnitude = estimate at above below ⊢
  by_cases small : magnitude < (2 : ℚ) ^ estimate
  · refine ⟨estimate - 53, by rw [if_pos small], ?_, ?_⟩
    · rw [show estimate - 53 + 52 = estimate - 1 by ring]
      exact above.le
    · rw [sub_add_cancel]
      exact small
  · refine ⟨estimate - 52, by rw [if_neg small], ?_, ?_⟩
    · rw [sub_add_cancel]
      exact not_lt.mp small
    · rw [show estimate - 52 + 53 = estimate + 1 by ring]
      exact below

/-- The significand of a magnitude below `2 ^ 1023` is of at most 53 bits and of just as many unless
the exponent is the least one, which leaves room for a carry. -/
theorem scaled_bounds {magnitude : ℚ} (positive : 0 < magnitude)
    (bounded : magnitude < (2 : ℚ) ^ (1023 : Int)) :
    -1074 ≤ roundingExponent magnitude ∧ roundingExponent magnitude ≤ 970 ∧
      magnitude / twoPow (roundingExponent magnitude) < 2 ^ 53 ∧
      (2 ^ 52 ≤ magnitude / twoPow (roundingExponent magnitude) ∨
        roundingExponent magnitude = -1074) := by
  obtain ⟨exponent, exponent_eq, above, below⟩ := roundingExponent_cases positive
  have exponent_lt : exponent + 52 < 1023 :=
    (zpow_lt_zpow_iff_right₀ one_lt_two).mp (above.trans_lt bounded)
  rw [exponent_eq, twoPow_eq_zpow]
  have scale_pos : (0 : ℚ) < 2 ^ max exponent (-1074) := by positivity
  refine ⟨le_max_right _ _, max_le (by omega) (by norm_num), ?_, ?_⟩
  · rw [div_lt_iff₀ scale_pos, ← zpow_natCast, ← zpow_add₀ two_ne_zero]
    refine below.trans_le (zpow_le_zpow_right₀ one_le_two ?_)
    have exponent_le := le_max_left exponent (-1074)
    push_cast
    omega
  · rcases le_total exponent (-1074) with least | normal
    · exact .inr (max_eq_right least)
    · left
      rw [max_eq_left normal, le_div_iff₀ (by positivity), ← zpow_natCast,
        ← zpow_add₀ two_ne_zero, add_comm]
      exact above

theorem ofParts_of_canonical (negative : Bool) {significand : Nat} {exponent : Int}
    (canonical : Canonical significand exponent) :
    ofParts negative significand exponent =
      .finite ⟨negative, significand, exponent, canonical⟩ :=
  dif_pos canonical

/-- What is rounded below `2 ^ 1023` is finite. -/
theorem isFinite_round (negative : Bool) {magnitude : ℚ} (nonneg : 0 ≤ magnitude)
    (bounded : magnitude < (2 : ℚ) ^ (1023 : Int)) :
    (round negative magnitude).IsFinite := by
  rcases nonneg.eq_or_lt with rfl | positive
  · have rounded_eq : roundHalfEven 0 = 0 :=
      le_antisymm (roundHalfEven_le (by simp)) (le_roundHalfEven (by simp))
    exact ⟨.zero negative, by simp [round, rounded_eq]⟩
  obtain ⟨exponent_ge, exponent_le, scaled_lt, scaled_ge⟩ := scaled_bounds positive bounded
  have scale_pos : 0 < twoPow (roundingExponent magnitude) := by
    rw [twoPow_eq_zpow]
    positivity
  have rounded_ge : 0 ≤ roundHalfEven (magnitude / twoPow (roundingExponent magnitude)) :=
    le_roundHalfEven (by exact_mod_cast div_nonneg nonneg scale_pos.le)
  have rounded_le : roundHalfEven (magnitude / twoPow (roundingExponent magnitude)) ≤ 2 ^ 53 :=
    roundHalfEven_le (by exact_mod_cast scaled_lt.le)
  have rounded_full : 2 ^ 52 ≤ roundHalfEven (magnitude / twoPow (roundingExponent magnitude)) ∨
      roundingExponent magnitude = -1074 :=
    scaled_ge.imp_left fun ge => le_roundHalfEven (by exact_mod_cast ge)
  simp only [round]
  generalize roundingExponent magnitude = exponent at *
  generalize roundHalfEven (magnitude / twoPow exponent) = rounded at *
  split_ifs with is_zero carries
  · exact ⟨_, rfl⟩
  · -- A carry leaves the least significand of full width, one exponent further up.
    exact ⟨_, ofParts_of_canonical negative ⟨by decide, by omega, by omega, .inl le_rfl⟩⟩
  · have rounded_lt : rounded.toNat < Nat.pow 2 53 := by
      have at_most : rounded.toNat ≤ Nat.pow 2 53 := by
        rw [Int.toNat_le]
        exact_mod_cast rounded_le
      omega
    have full : Nat.pow 2 52 ≤ rounded.toNat ∨ exponent = -1074 :=
      rounded_full.imp_left fun ge => by
        rw [Int.le_toNat rounded_ge]
        exact_mod_cast ge
    exact ⟨_, ofParts_of_canonical negative ⟨rounded_lt, by omega, by omega, full⟩⟩

/-- The number nearest to an integer of up to 64 bits is finite. -/
theorem isFinite_ofInt {value : Int}
    (bounds : -0x8000000000000000 ≤ value ∧ value < 0x10000000000000000) :
    (ofInt value).IsFinite := by
  have limit : ((0x10000000000000000 : Int) : ℚ) ≤ (2 : ℚ) ^ (1023 : Int) :=
    calc ((0x10000000000000000 : Int) : ℚ) = (2 : ℚ) ^ (64 : Int) := by norm_num
      _ ≤ (2 : ℚ) ^ (1023 : Int) := zpow_le_zpow_right₀ one_le_two (by decide)
  unfold ofInt ofRat
  split_ifs with negative
  · refine isFinite_round true (by linarith) (lt_of_lt_of_le ?_ limit)
    rw [← Int.cast_neg]
    exact_mod_cast (by omega : -value < 0x10000000000000000)
  · refine isFinite_round false (not_lt.mp negative) (lt_of_lt_of_le ?_ limit)
    exact_mod_cast bounds.2

end Binary64

/-- The binary number nearest to a number of a JSON value is finite. -/
theorem JsonNumber.isFinite_toBinary64 (number : JsonNumber) : number.toBinary64.IsFinite := by
  cases number with
  | integer value bounds => exact Binary64.isFinite_ofInt bounds
  | float value => exact ⟨value, rfl⟩

end LambdaStack
