import GeoTrack.Codec
import GeoTrack.ViewportBoxes

/-!
# From map bounds to a viewport

The map reports the longitudes of its edges on the copy of the world the user
panned to.  The client folds both edges back into one world, each on its own,
and the server reads edges out of order as a box that crosses the antimeridian.
Folding keeps what is on the map: a longitude is in the box exactly when one of
its copies is between the edges of the map.
-/

namespace GeoTrack

/-- A number of the client is a double as well. -/
abbrev JsNumber := PyFloat

namespace JsNumber

/-- The comparison of two numbers, false with a NaN. -/
def le : JsNumber → JsNumber → Bool
  | .finite first, .finite second => first ≤ second
  | .infinite negative, .finite _ => negative
  | .finite _, .infinite negative => !negative
  | .infinite first, .infinite second => first || !second
  | .nan, _ => false
  | _, .nan => false

/-- The lesser of two numbers, a NaN when one of them is. -/
def min (first second : JsNumber) : JsNumber :=
  if first = .nan ∨ second = .nan then .nan
  else if first.le second then first else second

def max (first second : JsNumber) : JsNumber :=
  if first = .nan ∨ second = .nan then .nan
  else if first.le second then second else first

end JsNumber

/-- The bounds of a map. -/
structure LngLatBounds where
  west : JsNumber
  south : JsNumber
  east : JsNumber
  north : JsNumber

/-- The four numbers of a viewport message. -/
structure BBoxValues where
  west : ℚ
  south : ℚ
  east : ℚ
  north : ℚ
deriving DecidableEq

def BBoxValues.world : BBoxValues := ⟨-180, -90, 180, 90⟩

/-- The quotient of a division rounded towards zero. -/
def truncate (quotient : ℚ) : ℤ := if 0 ≤ quotient then ⌊quotient⌋ else ⌈quotient⌉

/-- The remainder of a division, with the sign of the dividend. -/
def remainder (dividend divisor : ℚ) : ℚ := dividend - divisor * truncate (dividend / divisor)

/-- Fold a longitude into one world; the antimeridian comes out as 180, unless
it went in as -180. -/
def wrapLongitude (lon : ℚ) : ℚ :=
  if -180 ≤ lon ∧ lon ≤ 180 then lon
  else
    let wrapped := remainder (remainder (lon + 180) 360 + 360) 360 - 180
    if wrapped = -180 then 180 else wrapped

def clampLatitude (lat : JsNumber) : JsNumber :=
  JsNumber.min (.finite 90) (JsNumber.max (.finite (-90)) lat)

def boundsToBBox (bounds : LngLatBounds) : BBoxValues :=
  match bounds.west, bounds.east, clampLatitude bounds.south, clampLatitude bounds.north with
  | .finite rawWest, .finite rawEast, .finite south, .finite north =>
      let ordered := if south ≤ north then (south, north) else (north, south)
      if 360 ≤ rawEast - rawWest then
        ⟨-180, ordered.1, 180, ordered.2⟩
      else
        ⟨wrapLongitude rawWest, ordered.1, wrapLongitude rawEast, ordered.2⟩
  | _, _, _, _ => .world

/-- Make a box of four floats, with the text of the error that is raised when
they are none. -/
def BBox.ofFloats (west south east north : PyFloat) : Except String BBox :=
  match west, south, east, north with
  | .finite west, .finite south, .finite east, .finite north =>
      if longitudes : (-180 ≤ west ∧ west ≤ 180) ∧ (-180 ≤ east ∧ east ≤ 180) then
        if latitudes : (-90 ≤ south ∧ south ≤ 90) ∧ (-90 ≤ north ∧ north ≤ 90) then
          if ordered : south ≤ north then .ok ⟨west, south, east, north, longitudes, latitudes, ordered⟩
          else .error "bbox south must not be greater than north"
        else .error "bbox latitudes must be within [-90, 90]"
      else .error "bbox longitudes must be within [-180, 180]"
  | _, _, _, _ => .error "bbox values must be finite numbers"

/-- The box the server makes of the numbers of a viewport message. -/
def BBoxValues.validate (values : BBoxValues) : Except String BBox :=
  BBox.ofFloats (.finite values.west) (.finite values.south) (.finite values.east)
    (.finite values.north)

/-- Four numbers that make a box. -/
structure BBoxValues.Valid (values : BBoxValues) : Prop where
  longitudes : (-180 ≤ values.west ∧ values.west ≤ 180) ∧
    (-180 ≤ values.east ∧ values.east ≤ 180)
  latitudes : (-90 ≤ values.south ∧ values.south ≤ 90) ∧
    (-90 ≤ values.north ∧ values.north ≤ 90)
  ordered : values.south ≤ values.north

theorem BBoxValues.Valid.validate_eq {values : BBoxValues} (valid : values.Valid) :
    values.validate = .ok ⟨values.west, values.south, values.east, values.north,
      valid.longitudes, valid.latitudes, valid.ordered⟩ := by
  rw [validate, BBox.ofFloats, dif_pos valid.longitudes, dif_pos valid.latitudes,
    dif_pos valid.ordered]

/-! ## Longitudes -/

theorem truncate_bounds (quotient : ℚ) :
    -1 < quotient - truncate quotient ∧ quotient - truncate quotient < 1 := by
  rw [truncate]
  split
  · constructor <;> linarith [Int.floor_le quotient, Int.lt_floor_add_one quotient]
  · constructor <;> linarith [Int.le_ceil quotient, Int.ceil_lt_add_one quotient]

theorem truncate_le {quotient : ℚ} (nonneg : 0 ≤ quotient) : truncate quotient ≤ quotient := by
  rw [truncate, if_pos nonneg]
  exact Int.floor_le quotient

variable {dividend divisor : ℚ}

theorem remainder_eq_add_turns (dividend divisor : ℚ) :
    ∃ turns : ℤ, remainder dividend divisor = dividend + turns * divisor := by
  refine ⟨-truncate (dividend / divisor), ?_⟩
  rw [remainder]
  push_cast
  ring

theorem remainder_eq_mul (positive : 0 < divisor) :
    remainder dividend divisor =
      divisor * (dividend / divisor - truncate (dividend / divisor)) := by
  rw [remainder, mul_sub, mul_div_cancel₀ dividend positive.ne']

/-- A remainder is smaller than the divisor on either side. -/
theorem remainder_bounds (positive : 0 < divisor) :
    -divisor < remainder dividend divisor ∧ remainder dividend divisor < divisor := by
  rw [remainder_eq_mul positive]
  obtain ⟨above, below⟩ := truncate_bounds (dividend / divisor)
  constructor <;> nlinarith

theorem remainder_nonneg (positive : 0 < divisor) (nonneg : 0 ≤ dividend) :
    0 ≤ remainder dividend divisor := by
  rw [remainder_eq_mul positive]
  have below : truncate (dividend / divisor) ≤ dividend / divisor :=
    truncate_le (div_nonneg nonneg positive.le)
  exact mul_nonneg positive.le (sub_nonneg.mpr below)

/-- Folding moves a longitude by whole turns into one world. -/
theorem wrapLongitude_spec (lon : ℚ) :
    (∃ turns : ℤ, wrapLongitude lon = lon + turns * 360) ∧
      -180 ≤ wrapLongitude lon ∧ wrapLongitude lon ≤ 180 := by
  unfold wrapLongitude
  split
  case isTrue inRange => exact ⟨⟨0, by simp⟩, inRange⟩
  case isFalse =>
      obtain ⟨inner, isInner⟩ := remainder_eq_add_turns (lon + 180) 360
      obtain ⟨outer, isOuter⟩ := remainder_eq_add_turns (remainder (lon + 180) 360 + 360) 360
      have innerBounds : -360 < remainder (lon + 180) 360 ∧ remainder (lon + 180) 360 < 360 :=
        remainder_bounds (by norm_num)
      have least : 0 ≤ remainder (remainder (lon + 180) 360 + 360) 360 :=
        remainder_nonneg (by norm_num) (by linarith)
      have most : remainder (remainder (lon + 180) 360 + 360) 360 < 360 :=
        (remainder_bounds (by norm_num)).2
      dsimp only
      split
      case isTrue atEdge =>
          refine ⟨⟨inner + outer + 2, ?_⟩, by norm_num⟩
          push_cast
          linarith
      case isFalse =>
          refine ⟨⟨inner + outer + 1, ?_⟩, by linarith, by linarith⟩
          push_cast
          linarith

/-! ## Latitudes -/

theorem JsNumber.min_finite (first second : ℚ) :
    JsNumber.min (.finite first) (.finite second) = .finite (Min.min first second) := by
  rw [JsNumber.min, if_neg (by simp), min_def, apply_ite PyFloat.finite]
  simp [JsNumber.le]

theorem JsNumber.max_finite (first second : ℚ) :
    JsNumber.max (.finite first) (.finite second) = .finite (Max.max first second) := by
  rw [JsNumber.max, if_neg (by simp), max_def, apply_ite PyFloat.finite]
  simp [JsNumber.le]

theorem clampLatitude_finite (lat : ℚ) :
    clampLatitude (.finite lat) = .finite (min 90 (max (-90) lat)) := by
  rw [clampLatitude, JsNumber.max_finite, JsNumber.min_finite]

/-- A latitude that is a number is clamped to one from pole to pole. -/
theorem clampLatitude_spec {lat : JsNumber} (isNumber : lat ≠ .nan) :
    ∃ clamped, clampLatitude lat = .finite clamped ∧ -90 ≤ clamped ∧ clamped ≤ 90 := by
  cases lat with
  | finite value =>
      exact ⟨_, clampLatitude_finite value, le_min (by norm_num) (le_max_left _ _),
        min_le_left _ _⟩
  | infinite negative =>
      cases negative with
      | true => exact ⟨-90, rfl, by norm_num⟩
      | false => exact ⟨90, rfl, by norm_num⟩
  | nan => exact absurd rfl isNumber

theorem clampLatitude_nan : clampLatitude .nan = .nan := rfl

/-! ## Boxes -/

/-- The cases of folding the bounds of a map: something is not a number, the
map shows the whole circle, or both edges are folded. -/
theorem boundsToBBox_of_finite {bounds : LngLatBounds} {west south east north : ℚ}
    (isWest : bounds.west = .finite west) (isEast : bounds.east = .finite east)
    (isSouth : clampLatitude bounds.south = .finite south)
    (isNorth : clampLatitude bounds.north = .finite north) :
    boundsToBBox bounds =
      if 360 ≤ east - west then ⟨-180, min south north, 180, max south north⟩
      else ⟨wrapLongitude west, min south north, wrapLongitude east, max south north⟩ := by
  simp only [boundsToBBox, isWest, isEast, isSouth, isNorth]
  obtain inOrder | swapped := le_or_gt south north
  · simp [inOrder]
  · simp [swapped.not_ge, swapped.le]

theorem boundsToBBox_of_not_finite {bounds : LngLatBounds}
    (odd : (∀ west, bounds.west ≠ .finite west) ∨ (∀ east, bounds.east ≠ .finite east) ∨
      bounds.south = .nan ∨ bounds.north = .nan) :
    boundsToBBox bounds = .world := by
  unfold boundsToBBox
  split
  case h_1 west east south north isWest isEast isSouth isNorth =>
      obtain noWest | noEast | noSouth | noNorth := odd
      · exact absurd isWest (noWest west)
      · exact absurd isEast (noEast east)
      · rw [noSouth, clampLatitude_nan] at isSouth
        cases isSouth
      · rw [noNorth, clampLatitude_nan] at isNorth
        cases isNorth
  case h_2 => rfl

/-- A span of a whole turn contains a copy of every longitude. -/
theorem exists_turns_of_whole {west east : ℚ} (whole : 360 ≤ east - west) (lon : ℚ) :
    ∃ turns : ℤ, west ≤ lon + turns * 360 ∧ lon + turns * 360 ≤ east := by
  refine ⟨⌈(west - lon) / 360⌉, ?_, ?_⟩
  · have above := Int.le_ceil ((west - lon) / 360)
    rw [div_le_iff₀ (by norm_num)] at above
    linarith
  · have below := Int.ceil_lt_add_one ((west - lon) / 360)
    rw [← sub_lt_iff_lt_add, lt_div_iff₀ (by norm_num)] at below
    linarith

/-- Folded edges keep what lies between them. -/
theorem between_wrapLongitude_iff {west east lon : ℚ} (ordered : west ≤ east)
    (short : east - west < 360) (inside : -180 < lon ∧ lon < 180) :
    CircularBins.Between (wrapLongitude west) (wrapLongitude east) lon ↔
      ∃ turns : ℤ, west ≤ lon + turns * 360 ∧ lon + turns * 360 ≤ east := by
  obtain ⟨⟨westTurns, westEq⟩, westRange⟩ := wrapLongitude_spec west
  obtain ⟨⟨eastTurns, eastEq⟩, eastRange⟩ := wrapLongitude_spec east
  have folded : CircularBins.Folded 360 (-180) west east (wrapLongitude west)
      (wrapLongitude east) westTurns eastTurns :=
    { positive := by norm_num
      ordered := ordered
      short := short
      low_eq := westEq
      high_eq := eastEq
      low_mem := by norm_num [westRange]
      high_mem := by norm_num [eastRange]
      point := congrArg wrapLongitude }
  exact folded.between_iff (by norm_num [inside])

theorem BBoxValues.world_valid : BBoxValues.world.Valid where
  longitudes := by norm_num [world]
  latitudes := by norm_num [world]
  ordered := by norm_num [world]

/-- Bounds with numbers for edges, after the latitudes are clamped. -/
structure LngLatBounds.Finite (bounds : LngLatBounds) (west south east north : ℚ) : Prop where
  west : bounds.west = .finite west
  south : clampLatitude bounds.south = .finite south
  east : bounds.east = .finite east
  north : clampLatitude bounds.north = .finite north

theorem LngLatBounds.finite_or_odd (bounds : LngLatBounds) :
    (∃ west south east north, bounds.Finite west south east north) ∨
      ((∀ west, bounds.west ≠ .finite west) ∨ (∀ east, bounds.east ≠ .finite east) ∨
        bounds.south = .nan ∨ bounds.north = .nan) := by
  by_cases noSouth : bounds.south = .nan
  · exact Or.inr (Or.inr (Or.inr (Or.inl noSouth)))
  by_cases noNorth : bounds.north = .nan
  · exact Or.inr (Or.inr (Or.inr (Or.inr noNorth)))
  obtain ⟨south, isSouth, -⟩ := clampLatitude_spec noSouth
  obtain ⟨north, isNorth, -⟩ := clampLatitude_spec noNorth
  cases isWest : bounds.west with
  | finite west =>
      cases isEast : bounds.east with
      | finite east => exact Or.inl ⟨west, south, east, north, isWest, isSouth, isEast, isNorth⟩
      | _ => exact Or.inr (Or.inr (Or.inl (by simp)))
  | _ => exact Or.inr (Or.inl (by simp))

theorem LngLatBounds.Finite.clamped {bounds : LngLatBounds} {west south east north : ℚ}
    (finite : bounds.Finite west south east north) :
    (-90 ≤ south ∧ south ≤ 90) ∧ (-90 ≤ north ∧ north ≤ 90) := by
  have clamped : ∀ {lat : JsNumber} {value : ℚ}, clampLatitude lat = .finite value →
      -90 ≤ value ∧ value ≤ 90 := by
    intro lat value isValue
    have isNumber : lat ≠ .nan := by
      rintro rfl
      cases isValue
    obtain ⟨other, isOther, bounded⟩ := clampLatitude_spec isNumber
    rw [isOther] at isValue
    cases isValue
    exact bounded
  exact ⟨clamped finite.south, clamped finite.north⟩

theorem boundsToBBox_valid (bounds : LngLatBounds) : (boundsToBBox bounds).Valid := by
  obtain ⟨west, south, east, north, finite⟩ | odd := bounds.finite_or_odd
  · obtain ⟨southRange, northRange⟩ := finite.clamped
    have latitudes : (-90 ≤ min south north ∧ min south north ≤ 90) ∧
        (-90 ≤ max south north ∧ max south north ≤ 90) :=
      ⟨⟨le_min southRange.1 northRange.1, (min_le_left _ _).trans southRange.2⟩,
        southRange.1.trans (le_max_left _ _), max_le southRange.2 northRange.2⟩
    rw [boundsToBBox_of_finite finite.west finite.east finite.south finite.north]
    split
    · exact ⟨by norm_num, latitudes, min_le_max⟩
    · exact ⟨⟨(wrapLongitude_spec west).2, (wrapLongitude_spec east).2⟩, latitudes, min_le_max⟩
  · rw [boundsToBBox_of_not_finite odd]
    exact BBoxValues.world_valid

/-- Map bounds become a box that the server accepts and that contains what the
map shows; bounds that are not numbers become the whole world. -/
theorem boundsToBBox_correct (bounds : LngLatBounds) :
    (∃ bbox, (boundsToBBox bounds).validate = .ok bbox ∧
      ∀ west south east north, bounds.Finite west south east north → west ≤ east →
        ∀ lat lon, (min south north ≤ lat ∧ lat ≤ max south north) → (-180 < lon ∧ lon < 180) →
          (bbox.contains lat lon = true ↔
            ∃ turns : ℤ, west ≤ lon + turns * 360 ∧ lon + turns * 360 ≤ east)) ∧
      ((∀ west, bounds.west ≠ .finite west) ∨ (∀ east, bounds.east ≠ .finite east) ∨
          bounds.south = .nan ∨ bounds.north = .nan →
        boundsToBBox bounds = .world) := by
  refine ⟨⟨_, (boundsToBBox_valid bounds).validate_eq, ?_⟩, boundsToBBox_of_not_finite⟩
  intro west south east north finite inOrder lat lon latitude longitude
  have values := boundsToBBox_of_finite finite.west finite.east finite.south finite.north
  rw [BBox.contains_iff]
  obtain whole | short := le_or_gt 360 (east - west)
  · rw [if_pos whole] at values
    simp only [values]
    rw [CircularBins.Between, if_neg (by norm_num)]
    exact iff_of_true ⟨latitude, longitude.1.le, longitude.2.le⟩ (exists_turns_of_whole whole lon)
  · rw [if_neg short.not_ge] at values
    simp only [values]
    rw [and_iff_right latitude]
    exact between_wrapLongitude_iff inOrder short longitude

end GeoTrack
