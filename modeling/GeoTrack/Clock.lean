import GeoTrack.Binary64

/-!
# The clock of a process

All components of a replica read one clock, a 64-bit number of nanoseconds since
the Unix epoch, and each takes from it what its type can hold: milliseconds, or
a date and time with microseconds.
-/

namespace GeoTrack

/-- `time.time_ns() // 1_000_000`. -/
def nowMs (timeNs : ℤ) : ℤ := timeNs / 1000000

/-- A reading of the clock. -/
structure ClockTime where
  ns : ℤ
  lower : -2 ^ 63 ≤ ns
  upper : ns < 2 ^ 63

/-- The first moment of the year 1, in microseconds since the epoch. -/
def minDatetimeUs : ℤ := -62135596800000000

/-- The last microsecond of the year 9999. -/
def maxDatetimeUs : ℤ := 253402300799999999

/-- A date and time in UTC, in microseconds since the epoch. -/
structure DateTime where
  us : ℤ
  lower : minDatetimeUs ≤ us
  upper : us ≤ maxDatetimeUs
deriving DecidableEq

namespace DateTime

/-- Addition of a duration in microseconds; nothing when the date overflows. -/
def add (moment : DateTime) (durationUs : ℤ) : Option DateTime :=
  if inRange : minDatetimeUs ≤ moment.us + durationUs ∧
      moment.us + durationUs ≤ maxDatetimeUs then
    some ⟨moment.us + durationUs, inRange.1, inRange.2⟩
  else
    none

theorem us_add {moment sum : DateTime} {durationUs : ℤ}
    (added : moment.add durationUs = some sum) : sum.us = moment.us + durationUs := by
  unfold add at added
  split at added
  case isTrue => exact (congrArg us (Option.some.inj added)).symm
  case isFalse => cases added

end DateTime

/-- `datetime.now(UTC)`; a 64-bit clock never leaves the range of dates. -/
def utcNow (time : ClockTime) : DateTime where
  us := time.ns / 1000
  lower := by
    have lower := time.lower
    unfold minDatetimeUs
    omega
  upper := by
    have upper := time.upper
    unfold maxDatetimeUs
    omega

/-- `int(moment.timestamp() * 1000)`: the quotient by a million and the product
are rounded to doubles, the conversion truncates. -/
def toEpochMs (moment : DateTime) : ℤ :=
  Binary64.truncate (Binary64.round (Binary64.round ((moment.us : ℚ) / 1000000) * 1000))

/-- The truncation takes a millisecond off this moment, 1.001 s after the epoch. -/
example : toEpochMs ⟨1001000, by decide, by decide⟩ = 1000 := by decide +kernel

/-- How far the two roundings lead away from the exact number of milliseconds, for
seconds below a power of two. -/
theorem abs_rounded_ms_le {moment : DateTime} {bound : ℤ}
    (small : |(moment.us : ℚ) / 1000000| < 2 ^ bound) (normal : 0 ≤ bound) :
    |Binary64.round (Binary64.round ((moment.us : ℚ) / 1000000) * 1000) - moment.us / 1000| ≤
      1000 * 2 ^ (bound - 54) + 2 ^ (bound - 44) := by
  have first := Binary64.abs_round_sub_le small (by omega)
  generalize seconds : Binary64.round ((moment.us : ℚ) / 1000000) = rounded at first ⊢
  have product : |rounded * 1000| < 2 ^ (bound + 10) := by
    have one : (1 : ℚ) ≤ 2 ^ bound := one_le_zpow₀ (by norm_num) normal
    have error : (2 : ℚ) ^ (bound - 54) ≤ 2 ^ bound / 1000000 := by
      have split : (2 : ℚ) ^ (bound - 54) = 2 ^ bound * 2 ^ (-54 : ℤ) := by
        rw [sub_eq_add_neg, zpow_add₀ (by norm_num)]
      rw [split]
      have tiny : (2 : ℚ) ^ (-54 : ℤ) ≤ 1 / 1000000 := by norm_num
      calc (2 : ℚ) ^ bound * 2 ^ (-54 : ℤ) ≤ 2 ^ bound * (1 / 1000000) :=
            mul_le_mul_of_nonneg_left tiny (by linarith)
        _ = 2 ^ bound / 1000000 := by ring
    have larger : (2 : ℚ) ^ (bound + 10) = 2 ^ bound * 1024 := by
      rw [zpow_add₀ (by norm_num)]
      norm_num
    rw [abs_lt] at small ⊢
    rw [abs_le] at first
    rw [larger]
    constructor <;> linarith
  have second := Binary64.abs_round_sub_le product (by omega)
  have exponent : bound + 10 - 54 = bound - 44 := by ring
  rw [exponent] at second
  rw [abs_le] at first second ⊢
  constructor <;> linarith

/-- From 1970 to 2106 the conversion never rounds up to a later millisecond. -/
theorem toEpochMs_le {moment : DateTime} (sinceEpoch : 0 ≤ moment.us)
    (before2106 : moment.us < 2 ^ 32 * 1000000) : toEpochMs moment ≤ moment.us / 1000 := by
  have nonneg : (0 : ℚ) ≤ moment.us := by exact_mod_cast sinceEpoch
  have below : (moment.us : ℚ) < 2 ^ 32 * 1000000 := by exact_mod_cast before2106
  have small : |(moment.us : ℚ) / 1000000| < 2 ^ (32 : ℤ) := by
    rw [abs_of_nonneg (by positivity)]
    norm_num
    linarith
  have close := (abs_le.mp (abs_rounded_ms_le small (by norm_num))).2
  norm_num at close
  unfold toEpochMs Binary64.truncate
  split
  case isTrue =>
      have floor := Int.floor_le
        (Binary64.round (Binary64.round ((moment.us : ℚ) / 1000000) * 1000))
      generalize ⌊Binary64.round (Binary64.round ((moment.us : ℚ) / 1000000) * 1000)⌋ = ms at *
      have strict : (1000 * ms : ℚ) < moment.us + 1 := by linarith
      have whole : 1000 * ms < moment.us + 1 := by exact_mod_cast strict
      omega
  case isFalse negative =>
      have nonpos := Int.ceil_nonpos.mpr (le_of_not_ge negative)
      omega

/-- Every date fits 64 bits in milliseconds. -/
theorem toEpochMs_int64 (moment : DateTime) :
    -2 ^ 63 ≤ toEpochMs moment ∧ toEpochMs moment < 2 ^ 63 := by
  have lower : (minDatetimeUs : ℚ) ≤ moment.us := by exact_mod_cast moment.lower
  have upper : (moment.us : ℚ) ≤ maxDatetimeUs := by exact_mod_cast moment.upper
  norm_num [minDatetimeUs] at lower
  norm_num [maxDatetimeUs] at upper
  have small : |(moment.us : ℚ) / 1000000| < 2 ^ (38 : ℤ) := by
    rw [abs_lt]
    norm_num
    constructor <;> linarith
  have close := abs_le.mp (abs_rounded_ms_le small (by norm_num))
  norm_num at close
  have bounded : |Binary64.round (Binary64.round ((moment.us : ℚ) / 1000000) * 1000)| < 2 ^ 62 := by
    rw [abs_lt]
    norm_num
    constructor <;> linarith
  have fits : |(toEpochMs moment : ℚ)| < 2 ^ 62 := (Binary64.abs_truncate_le _).trans_lt bounded
  have whole : |toEpochMs moment| < 2 ^ 62 := by exact_mod_cast fits
  rw [abs_lt] at whole
  omega

theorem toEpochMs_le_toEpochMs {first second : DateTime} (ordered : first.us ≤ second.us) :
    toEpochMs first ≤ toEpochMs second := by
  have seconds : (first.us : ℚ) / 1000000 ≤ (second.us : ℚ) / 1000000 := by
    have cast : (first.us : ℚ) ≤ second.us := by exact_mod_cast ordered
    linarith
  have rounded := Binary64.round_le_round seconds
  exact Binary64.truncate_le_truncate (Binary64.round_le_round (by linarith))

/-- A moment in whole milliseconds, if it is a date. -/
def dateOfMs (ms : ℤ) : Option DateTime :=
  if inRange : minDatetimeUs ≤ ms * 1000 ∧ ms * 1000 ≤ maxDatetimeUs then
    some ⟨ms * 1000, inRange.1, inRange.2⟩
  else none

theorem us_of_dateOfMs {ms : ℤ} {moment : DateTime} (dated : dateOfMs ms = some moment) :
    moment.us = ms * 1000 := by
  unfold dateOfMs at dated
  split at dated
  case isTrue => exact congrArg DateTime.us (Option.some.inj dated).symm
  case isFalse => cases dated

/-- The milliseconds of a stored moment after `toEpochMs`.  A moment that is no
date never leaves the driver. -/
def msThroughFloat (ms : ℤ) : ℤ := ((dateOfMs ms).map toEpochMs).getD ms

/-- The conversion goes at most a millisecond towards the epoch. -/
theorem msThroughFloat_cases (ms : ℤ) :
    (0 ≤ msThroughFloat ms ∧ msThroughFloat ms ≤ ms ∧ ms ≤ msThroughFloat ms + 1) ∨
      (msThroughFloat ms ≤ 0 ∧ ms ≤ msThroughFloat ms ∧ msThroughFloat ms ≤ ms + 1) := by
  unfold msThroughFloat dateOfMs
  split
  case isFalse =>
      simp only [Option.map_none, Option.getD_none]
      omega
  case isTrue inRange =>
      have lower : (minDatetimeUs : ℚ) ≤ (ms * 1000 : ℤ) := by exact_mod_cast inRange.1
      have upper : ((ms * 1000 : ℤ) : ℚ) ≤ maxDatetimeUs := by exact_mod_cast inRange.2
      norm_num [minDatetimeUs] at lower
      norm_num [maxDatetimeUs] at upper
      have small : |((ms * 1000 : ℤ) : ℚ) / 1000000| < 2 ^ (38 : ℤ) := by
        rw [abs_lt]
        push_cast
        constructor <;> linarith
      have close := @abs_rounded_ms_le ⟨ms * 1000, inRange.1, inRange.2⟩ 38 small (by norm_num)
      simp only [Option.map_some, Option.getD_some]
      unfold toEpochMs Binary64.truncate
      generalize Binary64.round (Binary64.round _ * 1000) = sent at close ⊢
      push_cast at close
      norm_num at close
      rw [abs_le] at close
      split
      case isTrue nonneg =>
          left
          have above := Int.floor_le sent
          have below := Int.lt_floor_add_one sent
          have low : (ms - 2 : ℚ) < ⌊sent⌋ := by linarith
          have high : (⌊sent⌋ : ℚ) < ms + 1 := by linarith
          have wholeLow : ms - 2 < ⌊sent⌋ := by exact_mod_cast low
          have wholeHigh : ⌊sent⌋ < ms + 1 := by exact_mod_cast high
          have floorNonneg := Int.floor_nonneg.mpr nonneg
          omega
      case isFalse negative =>
          right
          have above := Int.le_ceil sent
          have below := Int.ceil_lt_add_one sent
          have low : (ms - 1 : ℚ) < ⌈sent⌉ := by linarith
          have high : (⌈sent⌉ : ℚ) < ms + 2 := by linarith
          have wholeLow : ms - 1 < ⌈sent⌉ := by exact_mod_cast low
          have wholeHigh : ⌈sent⌉ < ms + 2 := by exact_mod_cast high
          have ceilNonpos := Int.ceil_nonpos.mpr (le_of_not_ge negative)
          omega

theorem msThroughFloat_eq_self {ms : ℤ} (undated : dateOfMs ms = none) : msThroughFloat ms = ms := by
  rw [msThroughFloat, undated]
  rfl

theorem dateOfMs_eq_none_iff {ms : ℤ} :
    dateOfMs ms = none ↔ ms * 1000 < minDatetimeUs ∨ maxDatetimeUs < ms * 1000 := by
  unfold dateOfMs
  split
  case isTrue inRange => exact ⟨nofun, fun outside => by omega⟩
  case isFalse outOfRange => exact ⟨fun _ => by omega, fun _ => rfl⟩

theorem msThroughFloat_le_msThroughFloat {first second : ℤ} (ordered : first ≤ second) :
    msThroughFloat first ≤ msThroughFloat second := by
  have firstNear := msThroughFloat_cases first
  have secondNear := msThroughFloat_cases second
  cases firstDate : dateOfMs first with
  | none =>
      have same := msThroughFloat_eq_self firstDate
      rw [dateOfMs_eq_none_iff] at firstDate
      cases secondDate : dateOfMs second with
      | none => rwa [same, msThroughFloat_eq_self secondDate]
      | some =>
          have dated : ¬ dateOfMs second = none := by simp [secondDate]
          rw [dateOfMs_eq_none_iff] at dated
          unfold minDatetimeUs at firstDate
          omega
  | some moment =>
      cases secondDate : dateOfMs second with
      | none =>
          have same := msThroughFloat_eq_self secondDate
          have dated : ¬ dateOfMs first = none := by simp [firstDate]
          rw [dateOfMs_eq_none_iff] at dated secondDate
          unfold maxDatetimeUs at secondDate
          omega
      | some later =>
          rw [msThroughFloat, msThroughFloat, firstDate, secondDate]
          refine toEpochMs_le_toEpochMs ?_
          rw [us_of_dateOfMs firstDate, us_of_dateOfMs secondDate]
          omega

/-- Moments that are sent alike are neighbours. -/
theorem eq_add_one_of_msThroughFloat_eq {first second : ℤ} (before : first < second)
    (alike : msThroughFloat first = msThroughFloat second) : second = first + 1 := by
  have firstNear := msThroughFloat_cases first
  have secondNear := msThroughFloat_cases second
  have one : msThroughFloat 1 = 1 := by decide +kernel
  by_cases around : first = -1 ∧ second = 1
  · obtain ⟨rfl, rfl⟩ := around
    omega
  · omega

/-- `datetime.fromtimestamp(value / 1000)`: the quotient is a double, and its
fraction is rounded to whole microseconds.  Nothing when the date is out of
range. -/
def fromEpochMs (value : ℤ) : Option DateTime :=
  let seconds := Binary64.round ((value : ℚ) / 1000)
  let whole := Binary64.truncate seconds
  let us := whole * 1000000 + Binary64.roundEven (Binary64.round ((seconds - whole) * 1000000))
  if inRange : minDatetimeUs ≤ us ∧ us ≤ maxDatetimeUs then some ⟨us, inRange.1, inRange.2⟩
  else none

/-- Three centuries around the epoch are well inside the range of dates. -/
theorem isSome_fromEpochMs {value : ℤ} (near : |value| ≤ 10 ^ 13) : (fromEpochMs value).isSome := by
  have small : |(value : ℚ) / 1000| ≤ 10 ^ 10 := by
    have cast : |(value : ℚ)| ≤ 10 ^ 13 := by exact_mod_cast near
    rw [abs_div, abs_of_pos (by norm_num : (0 : ℚ) < 1000), div_le_iff₀ (by norm_num)]
    linarith
  have first := Binary64.abs_round_sub_le
    (lt_of_le_of_lt small (by norm_num : (10 : ℚ) ^ 10 < 2 ^ (34 : ℤ))) (by norm_num)
  norm_num at first
  generalize isSeconds : Binary64.round ((value : ℚ) / 1000) = seconds at first
  have whole := Binary64.abs_truncate_le seconds
  generalize isWhole : Binary64.truncate seconds = truncated at whole
  have secondsSmall : |seconds| ≤ 10 ^ 10 + 1 := by
    rw [abs_le] at first small ⊢
    constructor <;> linarith
  have wholeSmall := abs_le.mp (whole.trans secondsSmall)
  rw [abs_le] at secondsSmall
  have fraction : |(seconds - truncated) * 1000000| < 2 ^ (55 : ℤ) := by
    rw [abs_lt]
    constructor <;> norm_num <;> linarith
  have second := Binary64.abs_round_sub_le fraction (by norm_num)
  norm_num at second
  have third := Binary64.abs_roundEven_sub_le
    (Binary64.round ((seconds - truncated) * 1000000))
  generalize isRounded : Binary64.round ((seconds - truncated) * 1000000) = rounded at second third
  generalize isUs : Binary64.roundEven rounded = us at third
  rw [abs_le] at second third
  have lower : (minDatetimeUs : ℚ) ≤ truncated * 1000000 + us := by
    norm_num [minDatetimeUs]
    linarith
  have upper : (truncated * 1000000 + us : ℚ) ≤ maxDatetimeUs := by
    norm_num [maxDatetimeUs]
    linarith
  simp only [fromEpochMs, isSeconds, isWhole, isRounded, isUs]
  rw [dif_pos ⟨by exact_mod_cast lower, by exact_mod_cast upper⟩]
  rfl

/-- What the clock reads survives the way through milliseconds. -/
theorem isSome_fromEpochMs_utcNow (time : ClockTime) :
    (fromEpochMs (toEpochMs (utcNow time))).isSome := by
  apply isSome_fromEpochMs
  have lower : (-9223372036854776 : ℚ) ≤ (utcNow time).us := by
    have whole : -9223372036854776 ≤ (utcNow time).us := by
      have bound := time.lower
      simp only [utcNow]
      omega
    exact_mod_cast whole
  have upper : ((utcNow time).us : ℚ) ≤ 9223372036854776 := by
    have whole : (utcNow time).us ≤ 9223372036854776 := by
      have bound := time.upper
      simp only [utcNow]
      omega
    exact_mod_cast whole
  have small : |((utcNow time).us : ℚ) / 1000000| < 2 ^ (34 : ℤ) := by
    rw [abs_lt]
    norm_num
    constructor <;> linarith
  have close := abs_le.mp (abs_rounded_ms_le small (by norm_num))
  norm_num at close
  have bounded : |Binary64.round (Binary64.round (((utcNow time).us : ℚ) / 1000000) * 1000)| ≤
      10 ^ 13 := by
    rw [abs_le]
    constructor <;> linarith
  have fits : |(toEpochMs (utcNow time) : ℚ)| ≤ 10 ^ 13 :=
    (Binary64.abs_truncate_le _).trans bounded
  exact_mod_cast fits

end GeoTrack
