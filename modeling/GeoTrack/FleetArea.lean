import GeoTrack.SeededTrajectories
import Mathlib.Algebra.Order.ToIntervalMod
import Mathlib.Analysis.SpecialFunctions.Complex.Arg
import Mathlib.Analysis.SpecialFunctions.Trigonometric.Basic

/-!
# The fleet stays in its area

Each step moves a device along its heading and, where that leaves the circle,
mirrors the overshoot back inside.  The step is taken in metres around the
centre and stored in degrees, so what has to agree is the way there and the way
back: the latitude is clamped short of the poles and the longitude wrapped at
the antimeridian, and neither may bring a device further out.

This is about the arithmetic the program means, so the floats are real numbers
here.
-/

namespace GeoTrack

open FloatMath LabelledRuns

section Rounding

/-- The nearest integer, and the even one of two. -/
noncomputable def halfEven (number : ℝ) : ℤ :=
  if Int.fract number < ((1 / 2 : ℚ) : ℝ) then ⌊number⌋
  else if ((1 / 2 : ℚ) : ℝ) < Int.fract number then ⌊number⌋ + 1
  else if Even ⌊number⌋ then ⌊number⌋ else ⌊number⌋ + 1

theorem abs_halfEven_sub_le (number : ℝ) : |(halfEven number : ℝ) - number| ≤ 1 / 2 := by
  have parts := Int.floor_add_fract number
  have nonneg := Int.fract_nonneg number
  have below := Int.fract_lt_one number
  have half : ((1 / 2 : ℚ) : ℝ) = 1 / 2 := by norm_num
  simp only [halfEven, half]
  rw [abs_le]
  split_ifs with low high even
  · constructor <;> linarith
  · push_cast
    constructor <;> linarith
  · constructor <;> linarith
  · push_cast
    constructor <;> linarith

/-- Rounding never passes an integer. -/
theorem abs_halfEven_le {number : ℝ} {bound : ℕ} (inside : |number| ≤ bound) :
    |(halfEven number : ℝ)| ≤ bound := by
  have near := abs_le.mp (abs_halfEven_sub_le number)
  have range := abs_le.mp inside
  rw [← Int.cast_abs]
  have lower : -(bound : ℤ) - 1 < halfEven number := by
    have : ((-(bound : ℤ) - 1 : ℤ) : ℝ) < halfEven number := by
      push_cast
      linarith
    exact_mod_cast this
  have upper : halfEven number < (bound : ℤ) + 1 := by
    have : (halfEven number : ℝ) < ((bound : ℤ) + 1 : ℤ) := by
      push_cast
      linarith
    exact_mod_cast this
  have : |halfEven number| ≤ (bound : ℤ) := by
    rw [abs_le]
    omega
  exact_mod_cast this

end Rounding

/-- Floats, were they not rounded. -/
structure Unrounded where
  value : ℝ

namespace Unrounded

noncomputable instance : FloatMath Unrounded where
  add first second := ⟨first.value + second.value⟩
  sub first second := ⟨first.value - second.value⟩
  mul first second := ⟨first.value * second.value⟩
  div first second := ⟨first.value / second.value⟩
  mod first second := ⟨first.value - second.value * ⌊first.value / second.value⌋⟩
  literal number := ⟨number⟩
  lt first second := first.value < second.value
  le first second := first.value ≤ second.value
  sqrt number := ⟨√number.value⟩
  sin number := ⟨Real.sin number.value⟩
  cos number := ⟨Real.cos number.value⟩
  radians number := ⟨number.value * Real.pi / 180⟩
  degrees number := ⟨number.value * 180 / Real.pi⟩
  atan2 first second := ⟨Complex.arg ⟨second.value, first.value⟩⟩
  hypot east north := ⟨√(east.value ^ 2 + north.value ^ 2)⟩
  round number digits := ⟨halfEven (number.value * 10 ^ digits) / 10 ^ digits⟩
  pi := ⟨Real.pi⟩

variable (first second : Unrounded)

@[simp]
theorem value_add : (first + second).value = first.value + second.value := rfl

@[simp]
theorem value_sub : (first - second).value = first.value - second.value := rfl

@[simp]
theorem value_mul : (first * second).value = first.value * second.value := rfl

@[simp]
theorem value_div : (first / second).value = first.value / second.value := rfl

@[simp]
theorem value_mod : (first % second).value =
    first.value - second.value * ⌊first.value / second.value⌋ := rfl

@[simp]
theorem value_literal (number : ℚ) : (literal number : Unrounded).value = number := rfl

@[simp]
theorem value_sqrt : (sqrt first).value = √first.value := rfl

@[simp]
theorem value_hypot : (hypot first second).value = √(first.value ^ 2 + second.value ^ 2) := rfl

@[simp]
theorem lt_iff : lt first second = true ↔ first.value < second.value := decide_eq_true_iff

@[simp]
theorem value_pyMax : (pyMax first second).value = max first.value second.value := by
  unfold pyMax
  split_ifs with less
  · rw [max_eq_right ((lt_iff ..).mp less).le]
  · rw [max_eq_left (not_lt.mp ((lt_iff ..).not.mp less))]

@[simp]
theorem value_pyMin : (pyMin first second).value = min first.value second.value := by
  unfold pyMin
  split_ifs with less
  · rw [min_eq_right ((lt_iff ..).mp less).le]
  · rw [min_eq_left (not_lt.mp ((lt_iff ..).not.mp less))]

theorem abs_round_sub_le (digits : ℕ) :
    |(round first digits).value - first.value| ≤ 1 / 2 / 10 ^ digits := by
  have scale : (0 : ℝ) < 10 ^ digits := by positivity
  have near := abs_halfEven_sub_le (first.value * 10 ^ digits)
  have same : (round first digits).value - first.value =
      (halfEven (first.value * 10 ^ digits) - first.value * 10 ^ digits) / 10 ^ digits := by
    rw [sub_div, mul_div_cancel_right₀ _ scale.ne']
    rfl
  rw [same, abs_div, abs_of_pos scale]
  exact div_le_div_of_nonneg_right near scale.le

/-- A number in a range with whole ends is rounded to one in it. -/
theorem abs_round_le {digits bound : ℕ} (inside : |first.value| ≤ bound) :
    |(round first digits).value| ≤ bound := by
  have scale : (0 : ℝ) < 10 ^ digits := by positivity
  have scaled : |first.value * 10 ^ digits| ≤ ((bound * 10 ^ digits : ℕ) : ℝ) := by
    rw [abs_mul, abs_of_pos scale]
    push_cast
    exact mul_le_mul_of_nonneg_right inside scale.le
  have rounded := abs_halfEven_le scaled
  push_cast at rounded
  change |(halfEven (first.value * 10 ^ digits) : ℝ) / 10 ^ digits| ≤ bound
  rw [abs_div, abs_of_pos scale, div_le_iff₀ scale]
  exact rounded

end Unrounded

section Wrapping

theorem fullTurn_pos : (0 : ℝ) < 360 := by norm_num

theorem value_wrapDeg (delta : Unrounded) :
    (wrapDeg delta).value = toIcoMod fullTurn_pos (-180) delta.value := by
  rw [toIcoMod, toIcoDiv_eq_floor, zsmul_eq_mul]
  simp [wrapDeg]
  ring

theorem wrapDeg_mem (delta : Unrounded) :
    -180 ≤ (wrapDeg delta).value ∧ (wrapDeg delta).value < 180 := by
  have inside := toIcoMod_mem_Ico fullTurn_pos (-180) delta.value
  rw [← value_wrapDeg, Set.mem_Ico] at inside
  constructor
  · exact inside.1
  · linarith [inside.2]

/-- Going around takes no longer way. -/
theorem abs_wrapDeg_le (delta : Unrounded) : |(wrapDeg delta).value| ≤ |delta.value| := by
  obtain ⟨low, high⟩ := wrapDeg_mem delta
  by_cases inside : -180 ≤ delta.value ∧ delta.value < 180
  case pos =>
      have unchanged : toIcoMod fullTurn_pos (-180) delta.value = delta.value := by
        rw [toIcoMod_eq_self, Set.mem_Ico]
        constructor
        · exact inside.1
        · linarith [inside.2]
      rw [value_wrapDeg, unchanged]
  case neg =>
      have near : |(wrapDeg delta).value| ≤ 180 := abs_le.mpr ⟨low, high.le⟩
      have far : 180 ≤ |delta.value| := by
        rw [le_abs]
        by_cases west : -180 ≤ delta.value
        · exact .inl (not_lt.mp fun below => inside ⟨west, below⟩)
        · exact .inr (by linarith)
      exact near.trans far

/-- The difference to where a way of `delta` leads is `delta`, up to full turns. -/
theorem wrapDeg_wrapDeg_sub (start delta : Unrounded) :
    (wrapDeg (wrapDeg (start + delta) - start)).value = (wrapDeg delta).value := by
  simp only [value_wrapDeg, Unrounded.value_sub, Unrounded.value_add]
  rw [toIcoMod_eq_toIcoMod]
  refine ⟨toIcoDiv fullTurn_pos (-180) (start.value + delta.value), ?_⟩
  rw [← self_sub_toIcoMod fullTurn_pos (-180)]
  ring

end Wrapping

section Geometry

theorem one_le_mPerDegLon (lat : Unrounded) : 1 ≤ (mPerDegLon lat).value := by
  simp [mPerDegLon]

/-- Clamping brings nothing further from a number that is not clamped itself. -/
theorem abs_clamp_sub_le {low high center : ℝ} (above : low ≤ center) (below : center ≤ high)
    (number : ℝ) : |min (max number low) high - center| ≤ |number - center| := by
  rcases le_total number low with less | more
  · rw [max_eq_right less, min_eq_left (above.trans below), abs_of_nonpos (by linarith),
      abs_of_nonpos (by linarith)]
    linarith
  · rw [max_eq_left more]
    rcases le_total number high with inside | beyond
    · rw [min_eq_left inside]
    · rw [min_eq_right beyond, abs_of_nonneg (by linarith), abs_of_nonneg (by linarith)]
      linarith

variable (area : Area Unrounded) (east north : Unrounded)

theorem abs_position_lat_le : |(area.position east north).1.value| ≤ 899 / 10 := by
  simp only [Area.position, Unrounded.value_pyMin, Unrounded.value_pyMax, Unrounded.value_literal]
  push_cast
  rw [abs_le]
  constructor
  · exact le_min (by linarith [le_max_right (area.lat + north / mPerDegLat).value (-899 / 10)])
      (by norm_num)
  · exact min_le_right ..

theorem position_lon_mem :
    -180 ≤ (area.position east north).2.value ∧ (area.position east north).2.value < 180 :=
  wrapDeg_mem _

/-- Neither the clamped latitude nor the wrapped longitude is further from the
centre than the offsets it was made from. -/
theorem abs_offsets_position_le (center : |area.lat.value| ≤ 899 / 10) :
    |(area.offsets (area.position east north).1 (area.position east north).2).1.value| ≤
        |east.value| ∧
      |(area.offsets (area.position east north).1 (area.position east north).2).2.value| ≤
        |north.value| := by
  constructor
  · let scale := (mPerDegLon (((area.position east north).1 + area.lat) / literal 2)).value
    have positive : 0 < scale := zero_lt_one.trans_le (one_le_mPerDegLon _)
    have back : (area.offsets (area.position east north).1
        (area.position east north).2).1.value =
          (wrapDeg (east / mPerDegLon (((area.position east north).1 + area.lat) /
            literal 2))).value * scale := by
      rw [← wrapDeg_wrapDeg_sub area.lon]
      rfl
    have degrees := abs_wrapDeg_le (east / mPerDegLon
      (((area.position east north).1 + area.lat) / literal 2))
    change _ ≤ |east.value / scale| at degrees
    rw [back, abs_mul, abs_of_pos positive, ← le_div_iff₀ positive]
    rwa [abs_div, abs_of_pos positive] at degrees
  · obtain ⟨above, below⟩ := abs_le.mp center
    have lowest : (-899 / 10 : ℝ) ≤ area.lat.value := by linarith
    have clamped := abs_clamp_sub_le lowest below (area.lat.value + north.value / 111320)
    rw [add_sub_cancel_left, abs_div, abs_of_pos (by norm_num : (0 : ℝ) < 111320),
      le_div_iff₀ (by norm_num)] at clamped
    have back : (area.offsets (area.position east north).1
        (area.position east north).2).2.value =
          (min (max (area.lat.value + north.value / 111320) (-899 / 10)) (899 / 10) -
            area.lat.value) * 111320 := by
      simp [Area.offsets, Area.position, mPerDegLat]
    rw [back, abs_mul, abs_of_pos (by norm_num : (0 : ℝ) < 111320)]
    exact clamped

/-- The boundary test of a step. -/
def Area.Contains (lat lon : Unrounded) : Prop :=
  (hypot (area.offsets lat lon).1 (area.offsets lat lon).2).value ≤ area.radiusM.value

variable {area east north}

/-- What is inside in metres is inside in degrees. -/
theorem contains_position (center : |area.lat.value| ≤ 899 / 10)
    (inside : (hypot east north).value ≤ area.radiusM.value) :
    area.Contains (area.position east north).1 (area.position east north).2 := by
  obtain ⟨eastward, northward⟩ := abs_offsets_position_le area east north center
  refine le_trans (Real.sqrt_le_sqrt ?_) inside
  exact add_le_add (sq_le_sq.mpr eastward) (sq_le_sq.mpr northward)

theorem value_hypot_mul (scale direction : Unrounded) :
    (hypot (scale * sin direction) (scale * cos direction)).value = |scale.value| := by
  have circle : (scale * sin direction).value ^ 2 + (scale * cos direction).value ^ 2 =
      scale.value ^ 2 := by
    change (scale.value * Real.sin direction.value) ^ 2 +
      (scale.value * Real.cos direction.value) ^ 2 = _
    rw [mul_pow, mul_pow, ← mul_add, Real.sin_sq_add_cos_sq, mul_one]
  rw [Unrounded.value_hypot, circle, Real.sqrt_sq_eq_abs]

/-- A device that overshot the circle by up to its diameter lands inside, and
one that went further lands on the centre. -/
theorem hypot_reflect_le {radius limit headingDeg : Unrounded}
    (isRadius : radius = hypot east north) (nonneg : 0 ≤ limit.value)
    (overshot : limit.value < radius.value) :
    (hypot (reflect east north radius limit headingDeg).1
      (reflect east north radius limit headingDeg).2.1).value ≤ limit.value := by
  have positive : 0 < radius.value := nonneg.trans_lt overshot
  have mirrored : 0 ≤ max (2 * limit.value - radius.value) 0 / radius.value :=
    div_nonneg (le_max_right ..) positive.le
  have scaled : (hypot (reflect east north radius limit headingDeg).1
      (reflect east north radius limit headingDeg).2.1).value =
        max (2 * limit.value - radius.value) 0 / radius.value * radius.value := by
    have root : radius.value = √(east.value ^ 2 + north.value ^ 2) := by rw [isRadius]; rfl
    simp only [reflect, Unrounded.value_hypot, Unrounded.value_mul, Unrounded.value_div,
      Unrounded.value_pyMax, Unrounded.value_sub, Unrounded.value_literal, mul_pow, ← add_mul,
      Rat.cast_ofNat, Rat.cast_zero]
    rw [Real.sqrt_mul (by positivity), Real.sqrt_sq mirrored, ← root, mul_comm]
  rw [scaled, div_mul_cancel₀ _ positive.ne']
  exact max_le (by linarith) nonneg

end Geometry

section Movement

variable {σ : Type}

/-- What the standard library promises of its generators. -/
structure RandomSource.Lawful (source : RandomSource Unrounded σ) : Prop where
  random : ∀ rng, 0 ≤ (source.random rng).1.value ∧ (source.random rng).1.value < 1
  uniform : ∀ low high rng, low.value ≤ high.value →
    low.value ≤ (source.uniform low high rng).1.value ∧
      (source.uniform low high rng).1.value ≤ high.value

/-- A device in its area, moving as its kind does. -/
structure Travels (area : Area Unrounded) (state : DeviceState Unrounded) : Prop where
  inside : |area.lat.value| ≤ 899 / 10 → area.Contains state.lat state.lon
  lat : |state.lat.value| ≤ 899 / 10
  lon : -180 ≤ state.lon.value ∧ state.lon.value < 180
  heading : 0 ≤ state.headingDeg.value ∧ state.headingDeg.value ≤ 360
  kind : state.profile ∈ profiles
  speed : state.profile.minSpeedMps.value ≤ state.speedMps.value ∧
    state.speedMps.value ≤ state.profile.maxSpeedMps.value

theorem speeds_of_mem_profiles {profile : MotionProfile Unrounded} (listed : profile ∈ profiles) :
    profile.minSpeedMps.value ≤ profile.maxSpeedMps.value := by
  rcases List.mem_cons.mp listed with rfl | listed
  · norm_num [stationary]
  rcases List.mem_cons.mp listed with rfl | listed
  · norm_num [pedestrian]
  rcases List.mem_cons.mp listed with rfl | listed
  · norm_num [cyclist]
  · rw [List.mem_singleton.mp listed]
    norm_num [car]

/-- The last profile is the one chosen where the draw exceeds all shares. -/
theorem pickProfile_mem (draw cumulative : Unrounded) (listed : List (MotionProfile Unrounded)) :
    pickProfile draw cumulative listed ∈ listed ∨ pickProfile draw cumulative listed = car := by
  induction listed generalizing cumulative with
  | nil => exact .inr rfl
  | cons profile rest ih =>
      simp only [pickProfile]
      split
      · exact .inl List.mem_cons_self
      · exact (ih _).imp (List.mem_cons_of_mem _) id

theorem pickProfile_mem_profiles (draw cumulative : Unrounded) :
    pickProfile draw cumulative profiles ∈ profiles := by
  rcases pickProfile_mem draw cumulative profiles with listed | last
  · exact listed
  · rw [last]
    simp [profiles]

theorem mod_turn_mem (degrees : Unrounded) :
    0 ≤ (degrees % literal 360).value ∧ (degrees % literal 360).value ≤ 360 := by
  have floor := Int.floor_le (degrees.value / 360)
  have next := Int.lt_floor_add_one (degrees.value / 360)
  rw [le_div_iff₀ fullTurn_pos] at floor
  rw [div_lt_iff₀ fullTurn_pos] at next
  simp only [Unrounded.value_mod, Unrounded.value_literal, Rat.cast_ofNat]
  constructor <;> linarith

variable {source : RandomSource Unrounded σ} {area : Area Unrounded}

/-- What is put back into degrees from inside the circle. -/
theorem Travels.of_position {state : DeviceState Unrounded} {east north : Unrounded}
    (within : (hypot east north).value ≤ area.radiusM.value)
    (reached : (state.lat, state.lon) = area.position east north)
    (heading : 0 ≤ state.headingDeg.value ∧ state.headingDeg.value ≤ 360)
    (kind : state.profile ∈ profiles)
    (speed : state.profile.minSpeedMps.value ≤ state.speedMps.value ∧
      state.speedMps.value ≤ state.profile.maxSpeedMps.value) : Travels area state := by
  have lat : state.lat = (area.position east north).1 := congrArg Prod.fst reached
  have lon : state.lon = (area.position east north).2 := congrArg Prod.snd reached
  constructor
  case inside =>
      intro center
      rw [lat, lon]
      exact contains_position center within
  case lat =>
      rw [lat]
      exact abs_position_lat_le ..
  case lon =>
      rw [lon]
      exact position_lon_mem ..
  case heading => exact heading
  case kind => exact kind
  case speed => exact speed

theorem placeDevice_travels (lawful : source.Lawful) (nonneg : 0 ≤ area.radiusM.value) (seed : ℤ)
    (deviceId : String) : Travels area (placeDevice source area seed deviceId) := by
  simp only [placeDevice, profileFor]
  refine .of_position ?within rfl ?heading (pickProfile_mem_profiles ..) ?speed
  case within =>
      obtain ⟨above, below⟩ := lawful.random
        (source.random (deviceRng source seed deviceId)).2
      have root := Real.sqrt_le_one.mpr below.le
      rw [value_hypot_mul, Unrounded.value_mul, Unrounded.value_sqrt,
        abs_of_nonneg (mul_nonneg nonneg (Real.sqrt_nonneg _))]
      exact mul_le_of_le_one_right nonneg root
  case heading =>
      have turn := lawful.uniform (literal 0) (literal 360)
      simp only [Unrounded.value_literal, Rat.cast_zero, Rat.cast_ofNat] at turn
      exact turn _ (by norm_num)
  case speed =>
      exact lawful.uniform _ _ _ (speeds_of_mem_profiles (pickProfile_mem_profiles ..))

/-- Whatever a step overshoots, it ends inside. -/
theorem advance_travels {state : DeviceState Unrounded} (nonneg : 0 ≤ area.radiusM.value)
    (kind : state.profile ∈ profiles) (dt : Unrounded) (rng : σ) :
    Travels area (advance source dt area state rng).1 := by
  simp only [advance]
  refine .of_position ?within rfl ?heading kind ?speed
  case within =>
      split_ifs with overshot
      · exact hypot_reflect_le rfl nonneg ((Unrounded.lt_iff ..).mp overshot)
      · exact not_lt.mp ((Unrounded.lt_iff ..).not.mp overshot)
  case heading =>
      split_ifs with overshot
      · exact mod_turn_mem _
      · exact mod_turn_mem _
  case speed =>
      simp only [Unrounded.value_pyMin, Unrounded.value_pyMax]
      constructor
      · exact le_min (le_max_right ..) (speeds_of_mem_profiles kind)
      · exact min_le_right ..

theorem course_travels {settings : FleetSettings Unrounded} (lawful : source.Lawful)
    (nonneg : 0 ≤ settings.area.radiusM.value) (deviceId : String) (reports : ℕ) :
    Travels settings.area (Driven.course source settings deviceId reports).state := by
  induction reports with
  | zero => exact placeDevice_travels lawful nonneg ..
  | succ reports ih => exact advance_travels nonneg ih.kind ..

end Movement

namespace LoadGenerator

variable {σ : Type} {source : RandomSource Unrounded σ} {config : LoadConfig Unrounded}
  {generator : LoadGenerator Unrounded σ}

/-- Every device stays in the area and stands where its course leads with its last
report; and every report is next to the place that the course reached with it, and
one the server takes. -/
theorem fleet_stays_in_area (lawful : source.Lawful) (nonneg : 0 ≤ config.area.radiusM.value)
    {events : List (LoadEvent Unrounded)}
    (run : Run (step source config) Anything (fresh source config) events generator)
    {driven : Driven Unrounded σ} (drives : generator.Drives driven) :
    Travels config.area driven.state ∧
      driven.state = (Driven.course source config.toFleetSettings driven.state.deviceId
        driven.reported.length).state ∧
      ∀ n report, driven.reported[n]? = some report →
        |report.latitude.value| ≤ 90 ∧ |report.longitude.value| ≤ 180 ∧
          ∃ reached, reached = (Driven.course source config.toFleetSettings
              driven.state.deviceId (n + 1)).state ∧
            Travels config.area reached ∧
            |report.latitude.value - reached.lat.value| ≤ 1 / 2 / 10 ^ 7 ∧
            |report.longitude.value - reached.lon.value| ≤ 1 / 2 / 10 ^ 7 := by
  have follows := (onCourse_of_run run).follows drives
  have standing := congrArg Driven.state follows.standing
  change driven.state = _ at standing
  refine ⟨?_, standing, ?_⟩
  · rw [standing]
    exact course_travels lawful nonneg ..
  · intro n report nth
    obtain ⟨latitude, longitude⟩ := follows.reports n report nth
    have travels : Travels config.area (Driven.course source config.toFleetSettings
        driven.state.deviceId (n + 1)).state := course_travels lawful nonneg ..
    have north : |(Driven.course source config.toFleetSettings driven.state.deviceId
        (n + 1)).state.lat.value| ≤ (90 : ℕ) := travels.lat.trans (by norm_num)
    have east : |(Driven.course source config.toFleetSettings driven.state.deviceId
        (n + 1)).state.lon.value| ≤ (180 : ℕ) := by
      push_cast
      exact abs_le.mpr ⟨travels.lon.1, travels.lon.2.le⟩
    rw [latitude, longitude]
    refine ⟨?_, ?_, _, rfl, travels, ?_, ?_⟩
    · exact_mod_cast Unrounded.abs_round_le _ north
    · exact_mod_cast Unrounded.abs_round_le _ east
    · exact Unrounded.abs_round_sub_le ..
    · exact Unrounded.abs_round_sub_le ..

section Kilometre

/-- Draws the least that it may. -/
def least : RandomSource Unrounded Unit where
  seeded _ := ()
  random _ := (⟨0⟩, ())
  uniform low _ _ := (low, ())
  gauss mean _ _ := (mean, ())

theorem least_lawful : least.Lawful where
  random _ := ⟨le_refl (0 : ℝ), zero_lt_one⟩
  uniform _ _ _ nonempty := ⟨le_refl _, nonempty⟩

/-- One device on a kilometre around a place. -/
noncomputable def kilometre : LoadConfig Unrounded where
  interval := literal 3
  area := ⟨literal 50, literal 30, literal 1000⟩
  seed := 1
  transport := .http
  devices := 1
  connections := 1
  batchSize := 40
  batchWindowS := literal 1
  maxBatch := 400
  rampUp := literal 0
  devicePrefix := "dev-"
  connections_pos := one_pos
  batchSize_pos := by decide
  maxBatch_pos := by decide

/-- The fleet before its first report. -/
noncomputable def kilometreFleet : Devices Unrounded Unit 1 :=
  { Devices.init least kilometre.toFleetSettings (buildFleet least 1 "dev-" kilometre.area 1) ()
    with driving := true }.start least kilometre.toFleetSettings (literal 0)
    (literal 0)

theorem popDue_kilometreFleet : (kilometreFleet.popDue (literal 1)).1 = [0] := by
  have heap : kilometreFleet.schedule.heap =
      [(literal 0 + literal 0 * literal (0 : ℕ) / literal (1 : ℕ) + ⟨0⟩ * literal 3, 0)] := rfl
  have due : le (literal 0 + literal 0 * literal (0 : ℕ) / literal (1 : ℕ) +
      ⟨0⟩ * literal 3 : Unrounded) (literal 1) = true := by
    refine decide_eq_true ?_
    simp
  simp only [Devices.popDue, Schedule.popDue, heap, List.takeWhile, due]
  rfl

theorem fleet_stays_in_area_kilometre : ∃ generator driven report,
    Run (step least kilometre) Anything (fresh least kilometre)
      [.producer (.start (literal 0)), .producer (.wake (literal 1) 7)] generator ∧
    generator.Drives driven ∧ driven.reported[0]? = some report ∧
    Travels kilometre.area driven.state ∧ |report.latitude.value| ≤ 90 ∧
    |report.latitude.value - (Driven.course least kilometre.toFleetSettings
      driven.state.deviceId 1).state.lat.value| ≤ 1 / 2 / 10 ^ 7 := by
  have started : Run (step least kilometre) Anything (fresh least kilometre)
      [.producer (.start (literal 0))] _ := .snoc .nil trivial rfl
  have woken := @Run.snoc _ _ _ _ _ _ _ _ (.producer (.wake (literal 1) 7)) started trivial rfl
  let batcher : Batcher Unrounded := ⟨40, literal 1, literal 0, []⟩
  let produced := HttpRunner.produceDue least kilometre (literal 1) 7 (kilometreFleet.popDue (literal 1)).1
    (kilometreFleet.popDue (literal 1)).2 batcher
  have moved : ∃ report, (produced.1.fleet 0).reported[0]? = some report := by
    rw [show produced = HttpRunner.produceDue least kilometre (literal 1) 7 [0]
      (kilometreFleet.popDue (literal 1)).2 batcher from by rw [← popDue_kilometreFleet]]
    exact ⟨_, rfl⟩
  obtain ⟨report, reported⟩ := moved
  have drives : ∃ index : Fin 1, produced.1.fleet index = produced.1.fleet 0 := ⟨0, rfl⟩
  obtain ⟨travels, -, reports⟩ := fleet_stays_in_area least_lawful (by norm_num [kilometre])
    woken drives
  obtain ⟨north, -, _, rfl, -, near, -⟩ := reports 0 report reported
  exact ⟨_, _, report, woken, drives, reported, travels, north, near⟩

end Kilometre

end LoadGenerator

end GeoTrack
