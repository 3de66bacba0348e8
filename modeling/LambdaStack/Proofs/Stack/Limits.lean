import LambdaStack.Proofs.Binary64.Exactness
import LambdaStack.Stack.Alarms
import LambdaStack.Stack.Function
import Mathlib.Order.Bounds.Basic

/-!
# Limits of settings

Memory, time limit and the settings of the alarms as functions on the rationals that numbers denote:
what each is brought to, that a second pass changes nothing, and that a setting keeps its value when
it is written.
-/

namespace LambdaStack

open Binary64 (Finite ofInt toRat? toRat?_ofNat exists_ofInt_eq le_iff_of_toRat? lt_iff_of_toRat?
  zero_lt_finite cases_of_le cases_of_toRat? cases_of_undefined)

/-- The rational number that a number of a JSON value denotes. -/
def JsonNumber.toRat : JsonNumber → ℚ
  | .integer value _ => value
  | .float value => value.toRat

/-- Memory is brought to the greatest multiple of 64 that is not above it, from 128 to 3008. -/
structure MemoryNormalised (memory : Option Binary64 → Binary64) : Prop where
  /-- What is above the limits becomes the upper one. -/
  above : ∀ value : Finite, 3008 < value.toRat →
    (memory (some (.finite value))).toRat? = some 3008
  /-- What is within the limits becomes the greatest multiple that is not above it. -/
  within : ∀ value : Finite, 128 ≤ value.toRat → value.toRat ≤ 3008 →
    ∃ size : ℚ, (memory (some (.finite value))).toRat? = some size ∧
      IsGreatest {multiple : ℚ | (∃ count : ℤ, multiple = 64 * count) ∧ multiple ≤ value.toRat} size
  /-- What is below the limits becomes the lower one. -/
  below : ∀ value : Finite, value.toRat < 128 → (memory (some (.finite value))).toRat? = some 128
  /-- Without a setting it is the lower limit. -/
  absent : (memory none).toRat? = some 128
  /-- The infinity above all numbers becomes the upper limit. -/
  unbounded : (memory (some (.infinite false))).toRat? = some 3008
  /-- What else is no finite number becomes the lower limit. -/
  undefined : ∀ number : Binary64, number.toRat? = none → number ≠ .infinite false →
    (memory (some number)).toRat? = some 128
  /-- Whatever is given, a multiple within the limits results and is written as an integer. -/
  range : ∀ given, ∃ (count : ℤ) (bounds : _), 128 ≤ 64 * count ∧ 64 * count ≤ 3008 ∧
    (memory given).toRat? = some (64 * (count : ℚ)) ∧
    Json.ofSetting (memory given) = .number (.integer (64 * count) bounds)
  /-- More memory asked for is no less memory. -/
  monotone : ∀ low high : Binary64, low ≤ high → memory (some low) ≤ memory (some high)
  /-- What has been normalised stays. -/
  idempotent : ∀ given, memory (some (memory given)) = memory given

/-- A positive time limit is kept up to 900 seconds, and any other is 60. -/
structure TimeoutNormalised (timeout : Option Binary64 → Binary64) : Prop where
  /-- A positive time up to the limit is kept. -/
  kept : ∀ value : Finite, 0 < value.toRat → value.toRat ≤ 900 →
    timeout (some (.finite value)) = .finite value
  /-- What is above the limit becomes the limit. -/
  above : ∀ value : Finite, 900 < value.toRat →
    (timeout (some (.finite value))).toRat? = some 900
  /-- What is not positive becomes the default. -/
  otherwise : ∀ value : Finite, value.toRat ≤ 0 →
    (timeout (some (.finite value))).toRat? = some 60
  /-- Without a setting it is the default. -/
  absent : (timeout none).toRat? = some 60
  /-- The infinity above all numbers becomes the limit. -/
  unbounded : (timeout (some (.infinite false))).toRat? = some 900
  /-- What else is no finite number becomes the default. -/
  undefined : ∀ number : Binary64, number.toRat? = none → number ≠ .infinite false →
    (timeout (some number)).toRat? = some 60
  /-- Whatever is given, a positive time up to the limit results. -/
  range : ∀ given, ∃ seconds : ℚ, (timeout given).toRat? = some seconds ∧
    0 < seconds ∧ seconds ≤ 900
  /-- More time asked for is no less time. -/
  monotone : ∀ low high : Binary64, 0 < low → low ≤ high →
    timeout (some low) ≤ timeout (some high)
  /-- What has been normalised stays. -/
  idempotent : ∀ given, timeout (some (timeout given)) = timeout given

/-- A positive setting is kept, and any other has the default. -/
structure PositiveKept (default : ℚ) (setting : Option Binary64 → Binary64) : Prop where
  /-- A positive number is kept. -/
  kept : ∀ value : Finite, 0 < value.toRat → setting (some (.finite value)) = .finite value
  /-- What is not positive becomes the default. -/
  otherwise : ∀ value : Finite, value.toRat ≤ 0 →
    (setting (some (.finite value))).toRat? = some default
  /-- Without a setting it is the default. -/
  absent : (setting none).toRat? = some default
  /-- The infinity above all numbers is kept. -/
  unbounded : setting (some (.infinite false)) = .infinite false
  /-- What else is no finite number becomes the default. -/
  undefined : ∀ number : Binary64, number.toRat? = none → number ≠ .infinite false →
    (setting (some number)).toRat? = some default
  /-- What has been normalised stays. -/
  idempotent : ∀ given, setting (some (setting given)) = setting given

/-- A number is written with its value, and as an integer where the value is whole and near enough
to zero. -/
structure ValueWritten (write : Binary64 → Json) : Prop where
  /-- The value that is written is the one that is denoted. -/
  value : ∀ value : Finite, ∃ number : JsonNumber, write (.finite value) = .number number ∧
    number.toRat = value.toRat
  /-- Integers are the whole values that are less than `2 ^ 63` away from zero. -/
  integer_iff : ∀ value : Finite,
    (∃ (whole : ℤ) (bounds : _), write (.finite value) = .number (.integer whole bounds)) ↔
      (∃ whole : ℤ, value.toRat = whole) ∧ |value.toRat| < 2 ^ 63

namespace Json

/-- A whole number less than `2 ^ 63` away from zero is written as an integer. -/
theorem ofSetting_of_whole {value : Finite} {whole : ℤ} (toRat_eq : value.toRat = whole)
    (bounded : |whole| < 2 ^ 63) :
    ∃ bounds, ofSetting (.finite value) = .number (.integer whole bounds) := by
  have floor_eq : value.toRat.floor = whole := by rw [toRat_eq, Rat.floor_intCast]
  obtain ⟨above, below⟩ := abs_lt.mp bounded
  refine ⟨⟨by omega, by omega⟩, ?_⟩
  simp only [ofSetting, floor_eq]
  exact dif_pos ⟨toRat_eq, above, below⟩

/-- Any other finite number is written as it is. -/
theorem ofSetting_of_not_whole {value : Finite}
    (other : ¬ ((∃ whole : ℤ, value.toRat = whole) ∧ |value.toRat| < 2 ^ 63)) :
    ofSetting (.finite value) = .number (.float value) := by
  refine dif_neg fun fits => other ⟨⟨_, fits.1⟩, ?_⟩
  have bounded : |value.toRat.floor| < 2 ^ 63 := abs_lt.mpr fits.2
  rw [fits.1]
  exact_mod_cast bounded

theorem valueWritten_ofSetting : ValueWritten ofSetting where
  value value := by
    by_cases whole : (∃ whole : ℤ, value.toRat = whole) ∧ |value.toRat| < 2 ^ 63
    · obtain ⟨⟨whole, toRat_eq⟩, bounded⟩ := whole
      rw [toRat_eq] at bounded
      obtain ⟨bounds, written⟩ := ofSetting_of_whole toRat_eq (by exact_mod_cast bounded)
      exact ⟨_, written, toRat_eq.symm⟩
    · exact ⟨_, ofSetting_of_not_whole whole, rfl⟩
  integer_iff value := by
    constructor
    · rintro ⟨whole, bounds, written⟩
      by_contra other
      rw [ofSetting_of_not_whole other] at written
      simp at written
    · rintro ⟨⟨whole, toRat_eq⟩, bounded⟩
      rw [toRat_eq] at bounded
      exact ⟨whole, ofSetting_of_whole toRat_eq (by exact_mod_cast bounded)⟩

end Json

namespace Function

/-- The number of steps of 64 megabytes that a value amounts to within the limits. -/
def memorySteps (value : ℚ) : ℤ :=
  (max 128 (min value 3008) / 64).floor

theorem memorySteps_mono {low high : ℚ} (le : low ≤ high) : memorySteps low ≤ memorySteps high :=
  Rat.floor_monotone (by gcongr)

theorem memorySteps_of_ge {value : ℚ} (above : 3008 ≤ value) : memorySteps value = 47 := by
  rw [memorySteps, min_eq_right above, show (max 128 3008 / 64 : ℚ) = (47 : ℤ) by norm_num,
    Rat.floor_intCast]

theorem memorySteps_of_le {value : ℚ} (below : value ≤ 128) : memorySteps value = 2 := by
  rw [memorySteps, min_eq_left (by linarith), max_eq_left below,
    show (128 / 64 : ℚ) = (2 : ℤ) by norm_num, Rat.floor_intCast]

theorem memorySteps_of_within {value : ℚ} (low : 128 ≤ value) (high : value ≤ 3008) :
    memorySteps value = (value / 64).floor := by
  rw [memorySteps, min_eq_left high, max_eq_right low]

theorem two_le_memorySteps (value : ℚ) : 2 ≤ memorySteps value :=
  (memorySteps_of_le (min_le_left 128 value)).ge.trans (memorySteps_mono (min_le_right 128 value))

theorem memorySteps_le (value : ℚ) : memorySteps value ≤ 47 :=
  (memorySteps_mono (le_max_right 3008 value)).trans
    (memorySteps_of_ge (le_max_left 3008 value)).le

/-- A finite memory setting becomes its steps of 64 megabytes. -/
theorem memorySize_finite (value : Finite) :
    memorySize (some (.finite value)) = ofInt (64 * memorySteps value.toRat) := by
  have lower : (128 : Binary64) ≤ .finite value ↔ 128 ≤ value.toRat :=
    le_iff_of_toRat? (toRat?_ofNat (by norm_num)) rfl
  have upper : .finite value ≤ (3008 : Binary64) ↔ value.toRat ≤ 3008 :=
    le_iff_of_toRat? rfl (toRat?_ofNat (by norm_num))
  have beyond : (3008 : Binary64) < .finite value ↔ 3008 < value.toRat :=
    lt_iff_of_toRat? (toRat?_ofNat (by norm_num)) rfl
  simp only [memorySize, lower, upper, beyond]
  split_ifs with within above
  · rw [Binary64.floorTo_finite (by norm_num), memorySteps_of_within within.1 within.2]
    rfl
  · rw [memorySteps_of_ge above.le]
    rfl
  · -- What is neither within the limits nor above them is below.
    have below : value.toRat ≤ 128 := by
      by_contra above_low
      exact within ⟨by linarith, not_lt.mp above⟩
    rw [memorySteps_of_le below]
    rfl

theorem ofInt_memorySteps_least : ofInt (64 * memorySteps 128) = 128 := by
  rw [memorySteps_of_le le_rfl]
  rfl

theorem ofInt_memorySteps_greatest : ofInt (64 * memorySteps 3008) = 3008 := by
  rw [memorySteps_of_ge le_rfl]
  rfl

/-- A memory setting above every number becomes the upper limit. -/
theorem memorySize_unbounded :
    memorySize (some (.infinite false)) = ofInt (64 * memorySteps 3008) := by
  rw [ofInt_memorySteps_greatest]
  decide +kernel

/-- A memory setting below every number, or comparing with none, becomes the lower limit. -/
theorem memorySize_undefined {number : Binary64} (undefined : number.toRat? = none)
    (below : number ≠ .infinite false) :
    memorySize (some number) = ofInt (64 * memorySteps 128) := by
  rw [ofInt_memorySteps_least]
  rcases cases_of_undefined undefined below with rfl | rfl <;> decide +kernel

/-- Whatever is given, the memory is that of a rational value. -/
theorem exists_memorySize_eq (given : Option Binary64) :
    ∃ value : ℚ, memorySize given = ofInt (64 * memorySteps value) := by
  rcases given with _ | number
  · exact ⟨128, ofInt_memorySteps_least.symm⟩
  rcases cases_of_toRat? number with ⟨value, rfl⟩ | rfl | ⟨undefined, below⟩
  · exact ⟨value.toRat, memorySize_finite value⟩
  · exact ⟨3008, memorySize_unbounded⟩
  · exact ⟨128, memorySize_undefined undefined below⟩

/-- The steps within the limits are few enough for their sum to be exact. -/
theorem exists_ofInt_memorySteps_eq (value : ℚ) :
    ∃ size : Finite, ofInt (64 * memorySteps value) = .finite size ∧
      size.toRat = (64 * memorySteps value : ℤ) := by
  have least := two_le_memorySteps value
  have greatest := memorySteps_le value
  exact exists_ofInt_eq (by omega)

theorem toRat?_ofInt_memorySteps (value : ℚ) :
    (ofInt (64 * memorySteps value)).toRat? = some (64 * (memorySteps value : ℚ)) := by
  obtain ⟨size, size_eq, toRat_eq⟩ := exists_ofInt_memorySteps_eq value
  simp [size_eq, toRat?, toRat_eq]

theorem ofInt_memorySteps_mono {low high : ℚ} (le : memorySteps low ≤ memorySteps high) :
    ofInt (64 * memorySteps low) ≤ ofInt (64 * memorySteps high) := by
  rw [le_iff_of_toRat? (toRat?_ofInt_memorySteps low) (toRat?_ofInt_memorySteps high)]
  have cast_le : (memorySteps low : ℚ) ≤ memorySteps high := by exact_mod_cast le
  linarith

/-- Steps within the limits amount to themselves. -/
theorem memorySteps_steps (value : ℚ) :
    memorySteps (64 * memorySteps value : ℤ) = memorySteps value := by
  have least := two_le_memorySteps value
  have greatest := memorySteps_le value
  generalize memorySteps value = steps at least greatest ⊢
  rw [memorySteps_of_within (by exact_mod_cast (by omega : 128 ≤ 64 * steps))
    (by exact_mod_cast (by omega : 64 * steps ≤ 3008))]
  push_cast
  rw [mul_div_cancel_left₀ _ (by norm_num), Rat.floor_intCast]

/-- The steps of a value within the limits are the greatest multiple that is not above it. -/
theorem isGreatest_memorySteps {value : ℚ} (low : 128 ≤ value) (high : value ≤ 3008) :
    IsGreatest {multiple : ℚ | (∃ count : ℤ, multiple = 64 * count) ∧ multiple ≤ value}
      (64 * memorySteps value) := by
  rw [memorySteps_of_within low high]
  constructor
  · have floor_le := Rat.floor_le (value / 64)
    exact ⟨⟨_, rfl⟩, by linarith⟩
  · rintro _ ⟨⟨count, rfl⟩, count_le⟩
    have le_floor : count ≤ (value / 64).floor := Rat.le_floor_iff.mpr (by linarith)
    have cast_le : (count : ℚ) ≤ (value / 64).floor := by exact_mod_cast le_floor
    linarith

theorem memoryNormalised : MemoryNormalised memorySize where
  above value above := by
    rw [memorySize_finite, toRat?_ofInt_memorySteps, memorySteps_of_ge above.le]
    norm_num
  within value low high :=
    ⟨_, by rw [memorySize_finite, toRat?_ofInt_memorySteps], isGreatest_memorySteps low high⟩
  below value below := by
    rw [memorySize_finite, toRat?_ofInt_memorySteps, memorySteps_of_le below.le]
    norm_num
  absent := toRat?_ofNat (by norm_num)
  unbounded := by
    rw [memorySize_unbounded, ofInt_memorySteps_greatest]
    exact toRat?_ofNat (by norm_num)
  undefined number undefined below := by
    rw [memorySize_undefined undefined below, ofInt_memorySteps_least]
    exact toRat?_ofNat (by norm_num)
  range given := by
    obtain ⟨value, memory_eq⟩ := exists_memorySize_eq given
    obtain ⟨size, size_eq, toRat_eq⟩ := exists_ofInt_memorySteps_eq value
    have least := two_le_memorySteps value
    have greatest := memorySteps_le value
    obtain ⟨bounds, written⟩ := Json.ofSetting_of_whole toRat_eq (by rw [abs_lt]; omega)
    refine ⟨memorySteps value, bounds, by omega, by omega, ?_, ?_⟩
    · rw [memory_eq, toRat?_ofInt_memorySteps]
    · rw [memory_eq, size_eq, written]
  monotone low high le := by
    -- An infinity has the steps of a limit, which those of no setting are beyond.
    rcases cases_of_le le with rfl | rfl | ⟨lower, upper, rfl, rfl, toRat_le⟩
    · obtain ⟨value, memory_eq⟩ := exists_memorySize_eq (some high)
      rw [memorySize_undefined rfl (by decide), memory_eq]
      refine ofInt_memorySteps_mono ?_
      rw [memorySteps_of_le le_rfl]
      exact two_le_memorySteps value
    · obtain ⟨value, memory_eq⟩ := exists_memorySize_eq (some low)
      rw [memorySize_unbounded, memory_eq]
      refine ofInt_memorySteps_mono ?_
      rw [memorySteps_of_ge le_rfl]
      exact memorySteps_le value
    · rw [memorySize_finite, memorySize_finite]
      exact ofInt_memorySteps_mono (memorySteps_mono toRat_le)
  idempotent given := by
    obtain ⟨value, memory_eq⟩ := exists_memorySize_eq given
    obtain ⟨size, size_eq, toRat_eq⟩ := exists_ofInt_memorySteps_eq value
    rw [memory_eq, size_eq, memorySize_finite, toRat_eq, memorySteps_steps, size_eq]

/-- A finite time limit, compared as the rational that it denotes. -/
theorem timeout_finite (value : Finite) :
    timeout (some (.finite value)) =
      if 0 < value.toRat ∧ value.toRat ≤ 900 then .finite value
      else if 900 < value.toRat then 900 else 60 := by
  have upper : .finite value ≤ (900 : Binary64) ↔ value.toRat ≤ 900 :=
    le_iff_of_toRat? rfl (toRat?_ofNat (by norm_num))
  have beyond : (900 : Binary64) < .finite value ↔ 900 < value.toRat :=
    lt_iff_of_toRat? (toRat?_ofNat (by norm_num)) rfl
  simp only [timeout, zero_lt_finite, upper, beyond]

theorem timeout_of_mem {value : Finite} (positive : 0 < value.toRat) (upper : value.toRat ≤ 900) :
    timeout (some (.finite value)) = .finite value := by
  rw [timeout_finite, if_pos ⟨positive, upper⟩]

theorem timeout_unbounded : timeout (some (.infinite false)) = 900 := by
  decide +kernel

theorem timeout_undefined {number : Binary64} (undefined : number.toRat? = none)
    (below : number ≠ .infinite false) : timeout (some number) = 60 := by
  rcases cases_of_undefined undefined below with rfl | rfl <;> decide +kernel

/-- Whatever is given, the time limit is a positive number up to 900. -/
theorem exists_timeout_eq (given : Option Binary64) :
    ∃ seconds : Finite, timeout given = .finite seconds ∧
      0 < seconds.toRat ∧ seconds.toRat ≤ 900 := by
  obtain ⟨limit, limit_eq, limit_value⟩ := exists_ofInt_eq (n := 900) (by norm_num)
  obtain ⟨default, default_eq, default_value⟩ := exists_ofInt_eq (n := 60) (by norm_num)
  have limit_within : 0 < limit.toRat ∧ limit.toRat ≤ 900 := by norm_num [limit_value]
  have default_within : 0 < default.toRat ∧ default.toRat ≤ 900 := by norm_num [default_value]
  rcases given with _ | number
  · exact ⟨default, default_eq, default_within⟩
  rcases cases_of_toRat? number with ⟨value, rfl⟩ | rfl | ⟨undefined, below⟩
  · rw [timeout_finite]
    split_ifs with within
    · exact ⟨value, rfl, within⟩
    · exact ⟨limit, limit_eq, limit_within⟩
    · exact ⟨default, default_eq, default_within⟩
  · exact ⟨limit, timeout_unbounded.trans limit_eq, limit_within⟩
  · exact ⟨default, (timeout_undefined undefined below).trans default_eq, default_within⟩

/-- A positive time limit is cut off at 900 seconds. -/
theorem toRat?_timeout_of_pos {value : Finite} (positive : 0 < value.toRat) :
    (timeout (some (.finite value))).toRat? = some (min value.toRat 900) := by
  rcases le_or_gt value.toRat 900 with upper | beyond
  · rw [timeout_of_mem positive upper, min_eq_left upper]
    rfl
  · rw [timeout_finite, if_neg fun within => beyond.not_ge within.2, if_pos beyond,
      min_eq_right beyond.le]
    exact toRat?_ofNat (by norm_num)

theorem timeoutNormalised : TimeoutNormalised timeout where
  kept _ positive upper := timeout_of_mem positive upper
  above value beyond := by
    rw [toRat?_timeout_of_pos (by linarith), min_eq_right beyond.le]
  otherwise value nonpositive := by
    rw [timeout_finite, if_neg fun within => nonpositive.not_gt within.1,
      if_neg (by linarith : ¬ 900 < value.toRat)]
    exact toRat?_ofNat (by norm_num)
  absent := toRat?_ofNat (by norm_num)
  unbounded := by
    rw [timeout_unbounded]
    exact toRat?_ofNat (by norm_num)
  undefined number undefined below := by
    rw [timeout_undefined undefined below]
    exact toRat?_ofNat (by norm_num)
  range given := by
    obtain ⟨seconds, timeout_eq, positive, upper⟩ := exists_timeout_eq given
    exact ⟨seconds.toRat, by rw [timeout_eq]; rfl, positive, upper⟩
  monotone low high positive le := by
    rcases cases_of_le le with rfl | rfl | ⟨lower, upper, rfl, rfl, toRat_le⟩
    · exact absurd positive (by decide +kernel)
    · obtain ⟨seconds, timeout_eq, -, upper⟩ := exists_timeout_eq (some low)
      rw [timeout_unbounded, timeout_eq]
      exact (le_iff_of_toRat? rfl (toRat?_ofNat (by norm_num))).mpr upper
    · have lower_pos : 0 < lower.toRat := (zero_lt_finite lower).mp positive
      exact (le_iff_of_toRat? (toRat?_timeout_of_pos lower_pos)
        (toRat?_timeout_of_pos (lower_pos.trans_le toRat_le))).mpr (min_le_min_right 900 toRat_le)
  idempotent given := by
    obtain ⟨seconds, timeout_eq, positive, upper⟩ := exists_timeout_eq given
    rw [timeout_eq, timeout_of_mem positive upper]

end Function

namespace Alarms

/-- A positive setting, or else the default. -/
def positiveOr (default : Binary64) : Option Binary64 → Binary64
  | some value => if 0 < value then value else default
  | none => default

theorem threshold_eq_positiveOr : threshold = positiveOr 0 := by
  funext given
  cases given <;> rfl

theorem evaluationPeriods_eq_positiveOr : evaluationPeriods = positiveOr 5 := by
  funext given
  cases given <;> rfl

theorem period_eq_positiveOr : period = positiveOr 60 := by
  funext given
  cases given <;> rfl

theorem positiveKept_positiveOr {default : Nat} (bounded : default < 2 ^ 53) :
    PositiveKept default (positiveOr (OfNat.ofNat default)) where
  kept value positive := if_pos ((zero_lt_finite value).mpr positive)
  otherwise value nonpositive := by
    rw [positiveOr, if_neg (mt (zero_lt_finite value).mp nonpositive.not_gt)]
    exact toRat?_ofNat bounded
  absent := toRat?_ofNat bounded
  unbounded := by
    obtain ⟨zero, zero_eq, -⟩ := exists_ofInt_eq (n := 0) (by norm_num)
    refine if_pos ?_
    change ofInt 0 < _
    rw [zero_eq]
    rfl
  undefined number undefined below := by
    have not_positive : ¬ 0 < number := by
      rcases cases_of_undefined undefined below with rfl | rfl <;> decide +kernel
    rw [positiveOr, if_neg not_positive]
    exact toRat?_ofNat bounded
  idempotent given := by
    cases given with
    | none => exact ite_self _
    | some value =>
      by_cases positive : 0 < value
      · simp [positiveOr, positive]
      · simp [positiveOr, positive]

theorem positiveKept_threshold : PositiveKept (0 : Nat) threshold := by
  rw [threshold_eq_positiveOr]
  exact positiveKept_positiveOr (by norm_num)

/-- A threshold is the larger of the value and zero. -/
theorem toRat?_threshold (value : Finite) :
    (threshold (some (.finite value))).toRat? = some (max value.toRat 0) := by
  rcases lt_or_ge 0 value.toRat with positive | nonpositive
  · rw [positiveKept_threshold.kept value positive, max_eq_left positive.le]
    rfl
  · rw [positiveKept_threshold.otherwise value nonpositive, max_eq_right nonpositive]
    rfl

end Alarms

/-- Every numeric setting is brought to its limits, once and for all, and a number is written with
its value. -/
theorem settings_normalised :
    MemoryNormalised Function.memorySize ∧ TimeoutNormalised Function.timeout ∧
      PositiveKept 0 Alarms.threshold ∧
      (∀ value : Finite,
        (Alarms.threshold (some (.finite value))).toRat? = some (max value.toRat 0)) ∧
      PositiveKept 5 Alarms.evaluationPeriods ∧ PositiveKept 60 Alarms.period ∧
      ValueWritten Json.ofSetting := by
  refine ⟨Function.memoryNormalised, Function.timeoutNormalised, ?_, Alarms.toRat?_threshold,
    ?_, ?_, Json.valueWritten_ofSetting⟩
  · exact_mod_cast Alarms.positiveKept_threshold
  · rw [Alarms.evaluationPeriods_eq_positiveOr]
    exact Alarms.positiveKept_positiveOr (by norm_num)
  · rw [Alarms.period_eq_positiveOr]
    exact Alarms.positiveKept_positiveOr (by norm_num)

example : Function.memorySize (some (.ofRat (mkRat 401 2))) = 192 := by decide +kernel

end LambdaStack
