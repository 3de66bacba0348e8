import LambdaStack.Proofs.Binary64.Rounding

/-!
# Exactness

What a finite number denotes is rounded to that number again. Integers of up to 53 bits are denoted
by numbers, so they and the multiples of a step below a number are met exactly, and a comparison of
numbers is one of the rationals they denote.
-/

namespace LambdaStack

theorem twoPow_pos (exponent : Int) : 0 < twoPow exponent := by
  rw [twoPow_eq_zpow]
  positivity

/-- An integer is rounded to itself. -/
theorem roundHalfEven_intCast (value : Int) : roundHalfEven value = value :=
  le_antisymm (roundHalfEven_le le_rfl) (le_roundHalfEven le_rfl)

namespace Binary64

namespace Finite

theorem magnitude_nonneg (value : Finite) : 0 ≤ value.magnitude :=
  mul_nonneg (Nat.cast_nonneg _) (twoPow_pos _).le

/-- A number other than a zero denotes a rational of its own sign. -/
theorem toRat_neg_iff {value : Finite} (nonzero : value.significand ≠ 0) :
    value.toRat < 0 ↔ value.negative = true := by
  have positive : 0 < value.magnitude :=
    mul_pos (Nat.cast_pos.mpr (Nat.pos_of_ne_zero nonzero)) (twoPow_pos _)
  cases sign : value.negative
  · simp [toRat, sign, positive.le]
  · simp [toRat, sign, positive]

end Finite

/-- A magnitude in canonical form is rounded at the exponent of that form. -/
theorem roundingExponent_of_canonical {significand : Nat} {exponent : Int}
    (canonical : Canonical significand exponent) (nonzero : significand ≠ 0) :
    roundingExponent (significand * twoPow exponent) = exponent := by
  obtain ⟨width, least, -, full⟩ := canonical
  have significand_pos : (0 : ℚ) < significand := Nat.cast_pos.mpr (Nat.pos_of_ne_zero nonzero)
  obtain ⟨found, found_eq, above, below⟩ :=
    roundingExponent_cases (mul_pos significand_pos (twoPow_pos exponent))
  rw [twoPow_eq_zpow] at above below
  have scale_pos : (0 : ℚ) < 2 ^ exponent := by positivity
  have found_le : found ≤ exponent := by
    have significand_lt : (significand : ℚ) < 2 ^ (53 : Int) := by exact_mod_cast width
    have magnitude_lt : (significand : ℚ) * 2 ^ exponent < 2 ^ (exponent + 53) := by
      rw [zpow_add₀ two_ne_zero, mul_comm]
      gcongr
    have exponent_lt := (zpow_lt_zpow_iff_right₀ one_lt_two).mp (above.trans_lt magnitude_lt)
    omega
  rw [found_eq]
  rcases full with full | rfl
  · have significand_ge : (2 : ℚ) ^ (52 : Int) ≤ significand := by exact_mod_cast full
    have magnitude_ge : (2 : ℚ) ^ (exponent + 52) ≤ significand * 2 ^ exponent := by
      rw [zpow_add₀ two_ne_zero, mul_comm]
      gcongr
    have exponent_lt := (zpow_lt_zpow_iff_right₀ one_lt_two).mp (magnitude_ge.trans_lt below)
    omega
  · exact max_eq_right found_le

/-- The magnitude of a finite number is rounded to the number. -/
theorem round_magnitude (value : Finite) :
    round value.negative value.magnitude = .finite value := by
  obtain ⟨negative, significand, exponent, canonical⟩ := value
  rcases eq_or_ne significand 0 with rfl | nonzero
  · -- A zero has the least exponent, whatever its sign.
    obtain rfl : exponent = -1074 := canonical.2.2.2.resolve_left (by decide)
    have rounded_eq : roundHalfEven 0 = 0 := roundHalfEven_intCast 0
    simp [round, Finite.magnitude, rounded_eq, Finite.zero]
  · have scaled_eq : (significand : ℚ) * twoPow exponent / twoPow exponent = (significand : Int) :=
      mul_div_cancel_right₀ _ (twoPow_pos exponent).ne'
    simp only [round, Finite.magnitude, roundingExponent_of_canonical canonical nonzero, scaled_eq,
      roundHalfEven_intCast, Int.toNat_natCast]
    rw [if_neg nonzero, if_neg canonical.1.ne, ofParts_of_canonical negative canonical]

/-- What a finite number denotes is rounded to the number, except that a zero loses its sign. -/
theorem ofRat_toRat {value : Finite} (signed : value.significand = 0 → value.negative = false) :
    ofRat value.toRat = .finite value := by
  rcases eq_or_ne value.significand 0 with zero | nonzero
  · have unsigned := signed zero
    have toRat_eq : value.toRat = value.magnitude := by simp [Finite.toRat, unsigned]
    rw [ofRat, toRat_eq, if_neg value.magnitude_nonneg.not_gt, ← unsigned, round_magnitude]
  · have sign := Finite.toRat_neg_iff nonzero
    rw [ofRat]
    split_ifs with below
    · have negative := sign.mp below
      rw [← negative, Finite.toRat, if_pos negative, neg_neg, round_magnitude]
    · have nonnegative : value.negative = false := by simpa using mt sign.mpr below
      rw [← nonnegative, Finite.toRat, if_neg (by simp [nonnegative]), round_magnitude]

/-- A natural number of up to 53 bits is the magnitude of a canonical form. -/
theorem exists_canonical_of_lt {n : Nat} (bounded : n < 2 ^ 53) :
    ∃ (significand : Nat) (exponent : Int), Canonical significand exponent ∧
      (significand = 0 → n = 0) ∧ (significand : ℚ) * twoPow exponent = n := by
  rcases eq_or_ne n 0 with rfl | nonzero
  · exact ⟨0, -1074, by decide, fun _ => rfl, by simp⟩
  · have log2_le : n.log2 ≤ 52 := by
      have log2_lt := (Nat.log2_lt nonzero).mpr bounded
      omega
    -- The significand is the number, shifted until its leading bit is the last of 53.
    have lower : 2 ^ n.log2 * 2 ^ (52 - n.log2) ≤ n * 2 ^ (52 - n.log2) :=
      Nat.mul_le_mul_right _ (Nat.log2_self_le nonzero)
    have upper : n * 2 ^ (52 - n.log2) < 2 ^ (n.log2 + 1) * 2 ^ (52 - n.log2) :=
      Nat.mul_lt_mul_of_pos_right Nat.lt_log2_self (by positivity)
    rw [← pow_add, show n.log2 + (52 - n.log2) = 52 by omega] at lower
    rw [← pow_add, show n.log2 + 1 + (52 - n.log2) = 53 by omega] at upper
    refine ⟨n * 2 ^ (52 - n.log2), (n.log2 : Int) - 52,
      ⟨upper, by omega, by omega, .inl lower⟩, fun zero => ?_, ?_⟩
    · simpa using zero
    · have cancel : (2 : ℚ) ^ ((52 - n.log2 : Nat) : Int) * 2 ^ ((n.log2 : Int) - 52) = 1 := by
        rw [← zpow_add₀ two_ne_zero, show ((52 - n.log2 : Nat) : Int) + (n.log2 - 52) = 0 by omega,
          zpow_zero]
      rw [twoPow_eq_zpow, Nat.cast_mul, Nat.cast_pow, mul_assoc, ← zpow_natCast, Nat.cast_ofNat,
        cancel, mul_one]

/-- An integer of up to 53 bits is the value of the number nearest to it. -/
theorem exists_ofInt_eq {n : Int} (bounded : n.natAbs < 2 ^ 53) :
    ∃ value : Finite, ofInt n = .finite value ∧ value.toRat = n := by
  obtain ⟨significand, exponent, canonical, zero, magnitude_eq⟩ := exists_canonical_of_lt bounded
  let value : Finite := ⟨decide (n < 0), significand, exponent, canonical⟩
  have toRat_eq : value.toRat = n := by
    change (if decide (n < 0) = true then -((significand : ℚ) * twoPow exponent)
      else significand * twoPow exponent) = n
    rw [magnitude_eq]
    split_ifs with below
    · have abs_eq : ((n.natAbs : Int) : ℚ) = ((-n : Int) : ℚ) := by
        congr 1
        have negative := of_decide_eq_true below
        omega
      rw [← Int.cast_natCast, abs_eq, Int.cast_neg, neg_neg]
    · have abs_eq : ((n.natAbs : Int) : ℚ) = (n : ℚ) := by
        congr 1
        have nonnegative : ¬ n < 0 := by simpa using below
        omega
      rw [← Int.cast_natCast, abs_eq]
  refine ⟨value, ?_, toRat_eq⟩
  rw [ofInt, ← toRat_eq]
  refine ofRat_toRat fun significand_zero => ?_
  have n_zero : n = 0 := Int.natAbs_eq_zero.mp (zero significand_zero)
  simp [value, n_zero]

/-- A numeral of up to 53 bits denotes itself. -/
theorem toRat?_ofNat {n : Nat} (bounded : n < 2 ^ 53) :
    toRat? (OfNat.ofNat n) = some (n : ℚ) := by
  obtain ⟨value, value_eq, toRat_eq⟩ := exists_ofInt_eq (n := n) bounded
  change toRat? (ofInt n) = _
  simp [value_eq, toRat?, toRat_eq]

theorem toRat?_eq_some_iff {number : Binary64} {value : ℚ} :
    number.toRat? = some value ↔
      ∃ finite : Finite, number = .finite finite ∧ finite.toRat = value := by
  cases number <;> simp [toRat?]

/-- What denotes no rational is an infinity or no number at all. -/
theorem cases_of_undefined {number : Binary64} (undefined : number.toRat? = none)
    (below : number ≠ .infinite false) : number = .nan ∨ number = .infinite true := by
  cases number with
  | nan => exact .inl rfl
  | infinite negative => cases negative <;> simp_all
  | finite value => simp [toRat?] at undefined

/-- A number denotes a rational, is the infinity above all, or neither. -/
theorem cases_of_toRat? (number : Binary64) :
    (∃ value : Finite, number = .finite value) ∨ number = .infinite false ∨
      number.toRat? = none ∧ number ≠ .infinite false := by
  cases number with
  | nan => exact .inr (.inr ⟨rfl, nofun⟩)
  | infinite negative => cases negative <;> simp [toRat?]
  | finite value => exact .inl ⟨value, rfl⟩

/-- Numbers compare as what they denote. -/
theorem le_iff_of_toRat? {left right : Binary64} {low high : ℚ} (left_eq : left.toRat? = some low)
    (right_eq : right.toRat? = some high) : left ≤ right ↔ low ≤ high := by
  obtain ⟨left, rfl, rfl⟩ := toRat?_eq_some_iff.mp left_eq
  obtain ⟨right, rfl, rfl⟩ := toRat?_eq_some_iff.mp right_eq
  exact decide_eq_true_iff

/-- Numbers compare strictly as what they denote. -/
theorem lt_iff_of_toRat? {left right : Binary64} {low high : ℚ} (left_eq : left.toRat? = some low)
    (right_eq : right.toRat? = some high) : left < right ↔ low < high := by
  obtain ⟨left, rfl, rfl⟩ := toRat?_eq_some_iff.mp left_eq
  obtain ⟨right, rfl, rfl⟩ := toRat?_eq_some_iff.mp right_eq
  exact decide_eq_true_iff

theorem zero_lt_finite (value : Finite) : (0 : Binary64) < .finite value ↔ 0 < value.toRat :=
  lt_iff_of_toRat? (toRat?_ofNat (by norm_num)) rfl

/-- Numbers that compare are finite unless one of them is the infinity of its side. -/
theorem cases_of_le {low high : Binary64} (le : low ≤ high) :
    low = .infinite true ∨ high = .infinite false ∨
      ∃ lower upper : Finite, low = .finite lower ∧ high = .finite upper ∧
        lower.toRat ≤ upper.toRat := by
  change lessEq low high = true at le
  cases low with
  | nan => simp [lessEq] at le
  | infinite negative =>
    cases negative with
    | true => exact .inl rfl
    | false => cases high <;> simp_all [lessEq]
  | finite lower =>
    cases high with
    | nan => simp [lessEq] at le
    | infinite negative => cases negative <;> simp_all [lessEq]
    | finite upper => exact .inr (.inr ⟨lower, upper, rfl, rfl, of_decide_eq_true le⟩)

/-- The remainder by a step leaves the multiple of the step at the floor of the quotient. -/
theorem floorTo_finite {step : Nat} (positive : step ≠ 0) (value : Finite) :
    floorTo step (.finite value) = ofInt (step * (value.toRat / step).floor) := by
  have step_ne : (step : ℚ) ≠ 0 := Nat.cast_ne_zero.mpr positive
  simp only [floorTo, ofInt]
  congr 1
  push_cast
  rw [mul_sub, mul_div_cancel₀ _ step_ne, sub_sub_cancel]

end Binary64

end LambdaStack
