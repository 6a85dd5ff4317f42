import Mathlib.Algebra.Order.Field.Power
import Mathlib.Data.Int.Log
import Mathlib.Data.Rat.Floor
import Mathlib.Tactic.Linarith
import Mathlib.Tactic.Positivity

/-!
# Rounding to binary64

A finite double precision number is the rational it denotes.  The result of an
arithmetic operation is the exact one rounded to the nearest such number, ties
to the even significand; overflow to infinity is left out.

The proofs use two facts: the rounding is off by at most half a unit in the last
place, which is a power of two below the magnitude of the number, and it keeps
the order of the numbers.
-/

namespace Binary64

/-- The nearest integer, ties to even. -/
def roundEven (value : ℚ) : ℤ :=
  let below := ⌊value⌋
  if value - below < 1 / 2 then below
  else if 1 / 2 < value - below then below + 1
  else if below % 2 = 0 then below
  else below + 1

/-- The exponent of the unit in the last place. -/
def unitExponent (value : ℚ) : ℤ := max (Int.log 2 |value| - 52) (-1074)

def round (value : ℚ) : ℚ := roundEven (value / 2 ^ unitExponent value) * 2 ^ unitExponent value

/-- The number is a finite double. -/
def IsDouble (value : ℚ) : Prop := round value = value

instance (value : ℚ) : Decidable (IsDouble value) :=
  inferInstanceAs (Decidable (round value = value))

/-- Towards zero, as a conversion to an integer does. -/
def truncate (value : ℚ) : ℤ := if 0 ≤ value then ⌊value⌋ else ⌈value⌉

theorem abs_roundEven_sub_le (value : ℚ) : |(roundEven value : ℚ) - value| ≤ 1 / 2 := by
  have low := Int.floor_le value
  have high := Int.lt_floor_add_one value
  rw [abs_le]
  simp only [roundEven]
  by_cases near : value - ⌊value⌋ < 1 / 2
  · rw [if_pos near]
    constructor <;> linarith
  · rw [if_neg near]
    by_cases far : 1 / 2 < value - ⌊value⌋
    · rw [if_pos far]
      push_cast
      constructor <;> linarith
    · rw [if_neg far]
      by_cases even : ⌊value⌋ % 2 = 0
      · rw [if_pos even]
        constructor <;> linarith
      · rw [if_neg even]
        push_cast
        constructor <;> linarith

/-- Half a unit in the last place. -/
theorem abs_round_sub_le_unit (value : ℚ) :
    |round value - value| ≤ 2 ^ unitExponent value / 2 := by
  have unitPos : (0 : ℚ) < 2 ^ unitExponent value := zpow_pos (by norm_num) _
  have scaled := abs_roundEven_sub_le (value / 2 ^ unitExponent value)
  have factored : round value - value =
      (roundEven (value / 2 ^ unitExponent value) - value / 2 ^ unitExponent value) *
        2 ^ unitExponent value := by
    rw [sub_mul, div_mul_cancel₀ _ (ne_of_gt unitPos)]
    rfl
  rw [factored, abs_mul, abs_of_pos unitPos]
  calc |roundEven (value / 2 ^ unitExponent value) - value / 2 ^ unitExponent value| *
        (2 : ℚ) ^ unitExponent value
      ≤ 1 / 2 * 2 ^ unitExponent value := mul_le_mul_of_nonneg_right scaled (le_of_lt unitPos)
    _ = 2 ^ unitExponent value / 2 := by ring

/-- Below a power of two the rounding is off by at most that power times
`2 ^ (-54)`. -/
theorem abs_round_sub_le {value : ℚ} {bound : ℤ} (small : |value| < 2 ^ bound)
    (normal : -1021 ≤ bound) : |round value - value| ≤ 2 ^ (bound - 54) := by
  by_cases zero : value = 0
  · subst zero
    have exact : round 0 = 0 := by simp [round, roundEven]
    rw [exact, sub_zero, abs_zero]
    exact le_of_lt (zpow_pos (by norm_num) _)
  · have magnitude : (2 : ℚ) ^ Int.log 2 |value| ≤ |value| :=
      Int.zpow_log_le_self (by norm_num) (abs_pos.mpr zero)
    have below : Int.log 2 |value| < bound :=
      (zpow_lt_zpow_iff_right₀ (by norm_num : (1 : ℚ) < 2)).mp (magnitude.trans_lt small)
    have unit : unitExponent value ≤ bound - 53 := by
      unfold unitExponent
      omega
    calc |round value - value| ≤ 2 ^ unitExponent value / 2 := abs_round_sub_le_unit value
      _ ≤ 2 ^ (bound - 53) / 2 := by
        have grows : (2 : ℚ) ^ unitExponent value ≤ 2 ^ (bound - 53) :=
          zpow_le_zpow_right₀ (by norm_num) unit
        linarith
      _ = 2 ^ (bound - 54) := by
        have next : bound - 53 = bound - 54 + 1 := by ring
        rw [next, zpow_add_one₀ (by norm_num)]
        ring

theorem abs_truncate_le (value : ℚ) : |(truncate value : ℚ)| ≤ |value| := by
  unfold truncate
  split
  case isTrue nonneg =>
      have low : (0 : ℚ) ≤ ⌊value⌋ := by exact_mod_cast Int.floor_nonneg.mpr nonneg
      rw [abs_of_nonneg low, abs_of_nonneg nonneg]
      exact Int.floor_le value
  case isFalse negative =>
      have nonpos : value ≤ 0 := le_of_not_ge negative
      have high : (⌈value⌉ : ℚ) ≤ 0 := by exact_mod_cast Int.ceil_nonpos.mpr nonpos
      rw [abs_of_nonpos high, abs_of_nonpos nonpos]
      have above := Int.le_ceil value
      linarith

/-! ## The order -/

theorem truncate_le_truncate {first second : ℚ} (ordered : first ≤ second) :
    truncate first ≤ truncate second := by
  unfold truncate
  split
  case isTrue nonneg =>
      rw [if_pos (nonneg.trans ordered)]
      exact Int.floor_mono ordered
  case isFalse negative =>
      have nonpos := Int.ceil_nonpos.mpr (le_of_not_ge negative)
      split
      case isTrue nonneg => exact nonpos.trans (Int.floor_nonneg.mpr nonneg)
      case isFalse => exact Int.ceil_mono ordered

theorem floor_le_roundEven (value : ℚ) : ⌊value⌋ ≤ roundEven value := by
  simp only [roundEven]
  split_ifs <;> omega

theorem roundEven_le_floor_add_one (value : ℚ) : roundEven value ≤ ⌊value⌋ + 1 := by
  simp only [roundEven]
  split_ifs <;> omega

theorem le_roundEven {bound : ℤ} {value : ℚ} (below : bound ≤ value) : bound ≤ roundEven value :=
  (Int.le_floor.mpr below).trans (floor_le_roundEven value)

theorem roundEven_le {bound : ℤ} {value : ℚ} (above : value ≤ bound) : roundEven value ≤ bound := by
  rcases (Int.floor_le_iff.mpr (above.trans_lt (lt_add_one _))).lt_or_eq with under | exact_
  · exact (roundEven_le_floor_add_one value).trans under
  · have near : value - ⌊value⌋ < 1 / 2 := by
      rw [exact_]
      linarith
    simp only [roundEven]
    rw [if_pos near, exact_]

theorem roundEven_le_roundEven {first second : ℚ} (ordered : first ≤ second) :
    roundEven first ≤ roundEven second := by
  rcases (Int.floor_mono ordered).lt_or_eq with apart | same
  · calc roundEven first ≤ ⌊first⌋ + 1 := roundEven_le_floor_add_one first
      _ ≤ ⌊second⌋ := Int.add_one_le_iff.mpr apart
      _ ≤ roundEven second := floor_le_roundEven second
  · simp only [roundEven, same]
    have closer : first - ⌊second⌋ ≤ second - ⌊second⌋ := by linarith
    split_ifs <;> first | omega | linarith

theorem le_round {bound : ℤ} {value : ℚ} (below : bound * 2 ^ unitExponent value ≤ value) :
    bound * 2 ^ unitExponent value ≤ round value := by
  have positive : (0 : ℚ) < 2 ^ unitExponent value := by positivity
  have scaled : (bound : ℚ) ≤ roundEven (value / 2 ^ unitExponent value) := by
    exact_mod_cast le_roundEven ((le_div_iff₀ positive).mpr below)
  exact mul_le_mul_of_nonneg_right scaled positive.le

theorem round_le {bound : ℤ} {value : ℚ} (above : value ≤ bound * 2 ^ unitExponent value) :
    round value ≤ bound * 2 ^ unitExponent value := by
  have positive : (0 : ℚ) < 2 ^ unitExponent value := by positivity
  have scaled : (roundEven (value / 2 ^ unitExponent value) : ℚ) ≤ bound := by
    exact_mod_cast roundEven_le ((div_le_iff₀ positive).mpr above)
  exact mul_le_mul_of_nonneg_right scaled positive.le

/-- A power of two is a multiple of every smaller one. -/
theorem exists_mul_zpow {low high : ℤ} (ordered : low ≤ high) :
    ∃ count : ℤ, (count : ℚ) * 2 ^ low = 2 ^ high := by
  refine ⟨2 ^ (high - low).toNat, ?_⟩
  rw [Int.cast_pow, Int.cast_ofNat, ← zpow_natCast, ← zpow_add₀ two_ne_zero,
    Int.toNat_of_nonneg (by omega), Int.sub_add_cancel]

/-- Where the units differ there is a power of two between the magnitudes, and
both units divide it. -/
theorem exists_power_between {small large : ℚ} (nonzero : small ≠ 0) (ordered : |small| ≤ |large|)
    (finer : unitExponent small ≠ unitExponent large) :
    ∃ exponent, |small| ≤ 2 ^ exponent ∧ 2 ^ exponent ≤ |large| ∧
      unitExponent small ≤ exponent ∧ unitExponent large ≤ exponent := by
  have positive : 0 < |small| := abs_pos.mpr nonzero
  have logs : Int.log 2 |small| ≤ Int.log 2 |large| := Int.log_mono_right positive ordered
  have apart : Int.log 2 |small| + 1 ≤ Int.log 2 |large| ∧
      unitExponent small ≤ Int.log 2 |large| ∧ unitExponent large ≤ Int.log 2 |large| := by
    simp only [unitExponent] at finer ⊢
    omega
  refine ⟨Int.log 2 |large|, ?_, ?_, apart.2⟩
  · have below : |small| < 2 ^ (Int.log 2 |small| + 1) := Int.lt_zpow_succ_log_self one_lt_two _
    exact below.le.trans (zpow_le_zpow_right₀ one_le_two apart.1)
  · exact_mod_cast Int.zpow_log_le_self one_lt_two (positive.trans_le ordered)

/-- Integers are doubles as long as their unit is not above one. -/
theorem isDouble_intCast {value : ℤ} (small : |value| < 2 ^ 53) : IsDouble value := by
  have unit : unitExponent value ≤ 0 := by
    by_cases zero : value = 0
    · subst zero
      decide +kernel
    · have positive : (0 : ℚ) < |(value : ℚ)| := abs_pos.mpr (Int.cast_ne_zero.mpr zero)
      have below : |(value : ℚ)| < ((2 : ℕ) : ℚ) ^ (53 : ℤ) := by exact_mod_cast small
      have log := (Int.lt_zpow_iff_log_lt one_lt_two positive).mp below
      unfold unitExponent
      omega
  obtain ⟨count, isOne⟩ := exists_mul_zpow unit
  rw [zpow_zero] at isOne
  have multiple : ((value * count : ℤ) : ℚ) * 2 ^ unitExponent value = value := by
    rw [Int.cast_mul, mul_assoc, isOne, mul_one]
  have above := round_le multiple.ge
  have below := le_round multiple.le
  rw [multiple] at above below
  exact le_antisymm above below

/-- A multiple of both units between two numbers stays between them. -/
theorem round_le_round_of_between {first second middle : ℚ} {low high : ℤ}
    (isLow : low * 2 ^ unitExponent first = middle)
    (isHigh : high * 2 ^ unitExponent second = middle) (above : first ≤ middle)
    (below : middle ≤ second) : round first ≤ round second := by
  rw [← isLow] at above
  rw [← isHigh] at below
  calc round first ≤ low * 2 ^ unitExponent first := round_le above
    _ = high * 2 ^ unitExponent second := isLow.trans isHigh.symm
    _ ≤ round second := le_round below

/-- Rounding keeps the order. -/
theorem round_le_round {first second : ℚ} (ordered : first ≤ second) :
    round first ≤ round second := by
  by_cases same : unitExponent first = unitExponent second
  · have positive : (0 : ℚ) < 2 ^ unitExponent second := by positivity
    simp only [round, same]
    apply mul_le_mul_of_nonneg_right _ positive.le
    exact_mod_cast roundEven_le_roundEven (div_le_div_of_nonneg_right ordered positive.le)
  · by_cases nonpos : first ≤ 0
    · by_cases nonneg : 0 ≤ second
      · have zero (value : ℚ) : ((0 : ℤ) : ℚ) * 2 ^ unitExponent value = 0 := by
          rw [Int.cast_zero, zero_mul]
        exact round_le_round_of_between (zero first) (zero second) nonpos nonneg
      · have negative := not_le.mp nonneg
        obtain ⟨exponent, small, large, finer, coarser⟩ := exists_power_between negative.ne
          (abs_le_abs_of_nonpos negative.le ordered) fun equal => same equal.symm
        obtain ⟨high, isHigh⟩ := exists_mul_zpow finer
        obtain ⟨low, isLow⟩ := exists_mul_zpow coarser
        rw [abs_of_neg negative] at small
        rw [abs_of_nonpos nonpos] at large
        have negated {count : ℤ} {unit : ℚ} (isPower : count * unit = 2 ^ exponent) :
            ((-count : ℤ) : ℚ) * unit = -2 ^ exponent := by
          rw [Int.cast_neg, neg_mul, isPower]
        exact round_le_round_of_between (negated isLow) (negated isHigh) (le_neg_of_le_neg large)
          (neg_le_of_neg_le small)
    · have positive := not_le.mp nonpos
      have grows : |first| ≤ |second| := abs_le_abs_of_nonneg positive.le ordered
      obtain ⟨exponent, small, large, finer, coarser⟩ :=
        exists_power_between positive.ne' grows same
      obtain ⟨low, isLow⟩ := exists_mul_zpow finer
      obtain ⟨high, isHigh⟩ := exists_mul_zpow coarser
      rw [abs_of_pos positive] at small
      rw [abs_of_pos (positive.trans_le ordered)] at large
      exact round_le_round_of_between isLow isHigh small large

end Binary64
