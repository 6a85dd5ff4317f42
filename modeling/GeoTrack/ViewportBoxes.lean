import GeoTrack.CircularBins
import GeoTrack.Tables
import GeoTrack.ViewportGrid
import Mathlib.Data.List.Sort

/-!
# Boxes and the cells that cover them

A position is looked for in a bounding box in three ways: by the box itself,
by the position list of the API, whose query has one pair of ranges for each
part of the box, and by the map, which compares the cell of the position with
the rectangles of the box.  The first two agree.  The third agrees with them
except at 180 degrees, where a position belongs to the westernmost cells while
an edge stands for the easternmost ones.
-/

namespace GeoTrack

namespace BBox

def contains (bbox : BBox) (lat lon : ℚ) : Bool :=
  if !(bbox.south ≤ lat && lat ≤ bbox.north) then false
  else if bbox.crossesAntimeridian then bbox.west ≤ lon || lon ≤ bbox.east
  else bbox.west ≤ lon && lon ≤ bbox.east

/-- The condition of the position list on one row. -/
def selects (bbox : BBox) (position : Point) : Bool :=
  bbox.parts.any fun part =>
    (part.west ≤ position.longitude && position.longitude ≤ part.east) &&
      (part.south ≤ position.latitude && position.latitude ≤ part.north)

theorem crosses_iff {bbox : BBox} : bbox.crossesAntimeridian = true ↔ bbox.east < bbox.west :=
  decide_eq_true_iff

theorem not_crosses_iff {bbox : BBox} :
    bbox.crossesAntimeridian = false ↔ bbox.west ≤ bbox.east := by
  rw [crossesAntimeridian, decide_eq_false_iff_not, not_lt]

theorem contains_iff {bbox : BBox} {lat lon : ℚ} :
    bbox.contains lat lon = true ↔
      (bbox.south ≤ lat ∧ lat ≤ bbox.north) ∧
        CircularBins.Between bbox.west bbox.east lon := by
  rw [contains, CircularBins.Between]
  by_cases crossing : bbox.east < bbox.west
  · simp [crossesAntimeridian, crossing]
  · simp [crossesAntimeridian, crossing]

/-- The parts of a box are ordinary boxes over the same latitudes. -/
structure Part (bbox part : BBox) : Prop where
  ordered : part.west ≤ part.east
  west_le : part.west ≤ bbox.west
  south : part.south = bbox.south
  north : part.north = bbox.north

theorem part_of_mem {bbox part : BBox} (isPart : part ∈ bbox.parts) : Part bbox part := by
  unfold parts at isPart
  split at isPart
  case isTrue =>
      rw [List.mem_cons, List.mem_singleton] at isPart
      obtain rfl | rfl := isPart
      · exact ⟨bbox.longitudes.1.2, le_rfl, rfl, rfl⟩
      · exact ⟨bbox.longitudes.2.1, bbox.longitudes.1.1, rfl, rfl⟩
  case isFalse straight =>
      rw [List.mem_singleton] at isPart
      subst isPart
      exact ⟨not_crosses_iff.mp (by simpa using straight), le_rfl, rfl, rfl⟩

/-- The longitudes of a box are those of its parts. -/
theorem between_iff_exists_part {bbox : BBox} {lon : ℚ} (inRange : -180 ≤ lon ∧ lon ≤ 180) :
    CircularBins.Between bbox.west bbox.east lon ↔
      ∃ part ∈ bbox.parts, part.west ≤ lon ∧ lon ≤ part.east := by
  by_cases crossing : bbox.east < bbox.west
  · simp [CircularBins.Between, parts, crosses_iff, crossing, inRange]
  · simp [CircularBins.Between, parts, crosses_iff, crossing]

theorem contains_iff_exists_part {bbox : BBox} {lat lon : ℚ}
    (inRange : -180 ≤ lon ∧ lon ≤ 180) :
    bbox.contains lat lon = true ↔
      ∃ part ∈ bbox.parts, (part.west ≤ lon ∧ lon ≤ part.east) ∧
        (part.south ≤ lat ∧ lat ≤ part.north) := by
  rw [contains_iff, between_iff_exists_part inRange]
  constructor
  · rintro ⟨latitude, part, isPart, longitude⟩
    have sides : Part bbox part := part_of_mem isPart
    exact ⟨part, isPart, longitude, by rwa [sides.south, sides.north]⟩
  · rintro ⟨part, isPart, longitude, latitude⟩
    have sides : Part bbox part := part_of_mem isPart
    exact ⟨by rwa [sides.south, sides.north] at latitude, part, isPart, longitude⟩

theorem selects_iff {bbox : BBox} {position : Point} :
    bbox.selects position = true ↔
      ∃ part ∈ bbox.parts,
        (part.west ≤ position.longitude ∧ position.longitude ≤ part.east) ∧
          (part.south ≤ position.latitude ∧ position.latitude ≤ part.north) := by
  simp [selects]

theorem selects_iff_contains {bbox : BBox} {position : Point}
    (inRange : -180 ≤ position.longitude ∧ position.longitude ≤ 180) :
    bbox.selects position = true ↔
      bbox.contains position.latitude position.longitude = true := by
  rw [selects_iff, contains_iff_exists_part inRange]

end BBox

/-! ## The position list -/

def PositionRow.out (deviceId : DeviceId) (row : PositionRow) : DevicePositionOut where
  deviceId := deviceId
  latitude := row.position.latitude
  longitude := row.position.longitude
  reportedAt := row.reportedAt
  receivedAt := row.receivedAt

/-- Latest positions inside a longitude and latitude rectangle. -/
def inBbox (pg : Postgis) (db : Db) (bbox : Option BBox) (limit : ℕ) : List DevicePositionOut :=
  let rows := (db.devicePositions.entries.filter fun entry =>
    bbox.all fun bbox => bbox.selects entry.2.position)
  ((rows.insertionSort fun first second => pg.deviceOrder first.1 second.1 = true).take limit).map
    fun entry => entry.2.out entry.1

theorem mem_inBbox {pg : Postgis} {db : Db} {bbox : BBox} {limit : ℕ} {item : DevicePositionOut}
    (listed : item ∈ inBbox pg db (some bbox) limit) :
    ∃ row, db.devicePositions.get? item.deviceId = some row ∧ item = row.out item.deviceId ∧
      bbox.selects row.position = true := by
  rw [inBbox, List.mem_map] at listed
  obtain ⟨⟨deviceId, row⟩, taken, rfl⟩ := listed
  have kept := (List.mem_insertionSort _).mp (List.mem_of_mem_take taken)
  rw [List.mem_filter] at kept
  exact ⟨row, Dict.mem_entries_iff.mp kept.1, rfl, by simpa using kept.2⟩

/-- A page as long as the table leaves nobody out. -/
theorem mem_inBbox_of_selects {pg : Postgis} {db : Db} {bbox : BBox} {deviceId : DeviceId}
    {row : PositionRow} (stored : db.devicePositions.get? deviceId = some row)
    (selected : bbox.selects row.position = true) :
    row.out deviceId ∈ inBbox pg db (some bbox) db.devicePositions.entries.length := by
  rw [inBbox, List.mem_map]
  refine ⟨(deviceId, row), ?_, rfl⟩
  rw [List.take_of_length_le]
  · rw [List.mem_insertionSort, List.mem_filter]
    exact ⟨Dict.mem_entries_iff.mpr stored, by simpa using selected⟩
  · rw [List.length_insertionSort]
    exact List.length_filter_le _ _

/-! ## Rows and columns -/

theorem wrapLon_of_lt {lon : ℚ} (west : -180 ≤ lon) (east : lon < 180) : wrapLon lon = lon := by
  have firstTurn : ⌊(lon + 180) / 360⌋ = 0 := by
    rw [Int.floor_eq_zero_iff, Set.mem_Ico]
    constructor <;> linarith
  rw [wrapLon, firstTurn]
  push_cast
  ring

@[simp]
theorem wrapLon_antimeridian : wrapLon 180 = -180 := by
  norm_num [wrapLon]

namespace Grid

variable {grid : Grid} {bbox part : BBox} {lat lon : ℚ}

theorem rowOf_of_mem (latitude : -90 ≤ lat ∧ lat ≤ 90) :
    grid.rowOf lat = ⌊lat / grid.sizeDeg⌋ := by
  rw [rowOf, max_eq_left latitude.1, min_eq_left latitude.2]

theorem columnOf_of_lt (west : -180 ≤ lon) (east : lon < 180) :
    grid.columnOf lon = ⌊lon / grid.sizeDeg⌋ := by
  rw [columnOf, if_neg (not_le.mpr east), wrapLon_of_lt west east]

theorem columnOf_antimeridian : grid.columnOf 180 = ⌊grid.eastEdge / grid.sizeDeg⌋ := by
  rw [columnOf, if_pos le_rfl]

theorem cellOf_of_lt (west : -180 ≤ lon) (east : lon < 180) :
    grid.cellOf lat lon = (⌊lon / grid.sizeDeg⌋, grid.rowOf lat) := by
  rw [cellOf, wrapLon_of_lt west east]

/-- A position at 180 is in the column of -180. -/
theorem cellOf_antimeridian :
    grid.cellOf lat 180 = (grid.columnOf (-180), grid.rowOf lat) := by
  rw [cellOf, wrapLon_antimeridian, columnOf_of_lt le_rfl (by norm_num)]

/-- The rows of a box are those of the latitudes in it. -/
theorem exists_rowOf_eq_iff {row : ℤ} :
    (∃ lat, (bbox.south ≤ lat ∧ lat ≤ bbox.north) ∧ grid.rowOf lat = row) ↔
      grid.rowOf bbox.south ≤ row ∧ row ≤ grid.rowOf bbox.north := by
  rw [rowOf_of_mem bbox.latitudes.1, rowOf_of_mem bbox.latitudes.2,
    ← CircularBins.exists_bin_eq_iff grid.sizeDeg_pos bbox.ordered]
  have inRange : ∀ lat, bbox.south ≤ lat ∧ lat ≤ bbox.north → -90 ≤ lat ∧ lat ≤ 90 :=
    fun lat inside =>
      ⟨bbox.latitudes.1.1.trans inside.1, inside.2.trans bbox.latitudes.2.2⟩
  constructor
  · rintro ⟨lat, inside, isRow⟩
    exact ⟨lat, inside, by rwa [rowOf_of_mem (inRange lat inside)] at isRow⟩
  · rintro ⟨lat, inside, isRow⟩
    exact ⟨lat, inside, by rwa [rowOf_of_mem (inRange lat inside)]⟩

/-- The columns of a part begin no later than a longitude in it. -/
theorem columnOf_le (east : lon < 180) (inside : part.west ≤ lon) :
    grid.columnOf part.west ≤ ⌊lon / grid.sizeDeg⌋ := by
  rw [columnOf_of_lt part.longitudes.1.1 (inside.trans_lt east)]
  exact CircularBins.bin_mono grid.sizeDeg_pos inside

/-- The columns of a part end no sooner than a longitude in it, when its
column is not beyond the one of the eastern edge. -/
theorem le_columnOf (edge : ⌊lon / grid.sizeDeg⌋ ≤ ⌊grid.eastEdge / grid.sizeDeg⌋)
    (inside : lon ≤ part.east) : ⌊lon / grid.sizeDeg⌋ ≤ grid.columnOf part.east := by
  obtain atEdge | before := le_or_gt 180 part.east
  · rwa [columnOf, if_pos atEdge]
  · rw [columnOf_of_lt part.longitudes.2.1 before]
    exact CircularBins.bin_mono grid.sizeDeg_pos inside

/-- No cell boundary stands between the eastern edge and 180. -/
def BoundariesBelow (grid : Grid) : Prop :=
  ∀ index : ℤ, index * grid.sizeDeg < 180 → index * grid.sizeDeg ≤ grid.eastEdge

theorem BoundariesBelow.bin_le (boundaries : grid.BoundariesBelow) (east : lon < 180) :
    ⌊lon / grid.sizeDeg⌋ ≤ ⌊grid.eastEdge / grid.sizeDeg⌋ := by
  rw [CircularBins.le_bin_iff grid.sizeDeg_pos]
  apply boundaries
  exact lt_of_le_of_lt ((CircularBins.le_bin_iff grid.sizeDeg_pos).mp le_rfl) east

/-- The columns of a part that begins before the eastern edge are those of the
longitudes below 180 in it. -/
theorem exists_column_eq_iff (boundaries : grid.BoundariesBelow)
    (ordered : part.west ≤ part.east) (below : part.west < 180)
    (edge : part.west ≤ grid.eastEdge) {column : ℤ} :
    (∃ lon, (part.west ≤ lon ∧ lon ≤ part.east) ∧ lon < 180 ∧
        ⌊lon / grid.sizeDeg⌋ = column) ↔
      grid.columnOf part.west ≤ column ∧ column ≤ grid.columnOf part.east := by
  constructor
  · rintro ⟨lon, ⟨fromWest, toEast⟩, east, rfl⟩
    exact ⟨columnOf_le east fromWest, le_columnOf (boundaries.bin_le east) toEast⟩
  · rw [columnOf_of_lt part.longitudes.1.1 below]
    obtain atEdge | before := le_or_gt 180 part.east
    · -- the part runs to the antimeridian: look for the longitude up to the edge
      rw [columnOf, if_pos atEdge, ← CircularBins.exists_bin_eq_iff grid.sizeDeg_pos edge]
      rintro ⟨lon, ⟨fromWest, toEdge⟩, isColumn⟩
      have east : lon < 180 := toEdge.trans_lt grid.eastEdge_lt
      exact ⟨lon, ⟨fromWest, east.le.trans atEdge⟩, east, isColumn⟩
    · rw [columnOf_of_lt part.longitudes.2.1 before,
        ← CircularBins.exists_bin_eq_iff grid.sizeDeg_pos ordered]
      rintro ⟨lon, inside, isColumn⟩
      exact ⟨lon, inside, inside.2.trans_lt before, isColumn⟩

theorem rect_contains_iff {cell : Cell} (sides : BBox.Part bbox part) :
    (grid.rect part).contains cell = true ↔
      (grid.columnOf part.west ≤ cell.1 ∧ cell.1 ≤ grid.columnOf part.east) ∧
        (grid.rowOf bbox.south ≤ cell.2 ∧ cell.2 ≤ grid.rowOf bbox.north) := by
  simp [CellRect.contains, rect, sides.south, sides.north]

/-- A cell is covered when its column is one of a part's and its row one of
the box's. -/
theorem covers_rectsFor_iff {cell : Cell} :
    covers (grid.rectsFor bbox) cell = true ↔
      (∃ part ∈ bbox.parts,
        grid.columnOf part.west ≤ cell.1 ∧ cell.1 ≤ grid.columnOf part.east) ∧
        (grid.rowOf bbox.south ≤ cell.2 ∧ cell.2 ≤ grid.rowOf bbox.north) := by
  rw [covers_iff, rectsFor]
  constructor
  · rintro ⟨rect, isRect, inside⟩
    obtain ⟨part, isPart, rfl⟩ := List.mem_map.mp isRect
    obtain ⟨column, row⟩ := (rect_contains_iff (BBox.part_of_mem isPart)).mp inside
    exact ⟨⟨part, isPart, column⟩, row⟩
  · rintro ⟨⟨part, isPart, column⟩, row⟩
    exact ⟨grid.rect part, List.mem_map.mpr ⟨part, isPart, rfl⟩,
      (rect_contains_iff (BBox.part_of_mem isPart)).mpr ⟨column, row⟩⟩

/-! ## What is covered -/

/-- The rectangles of a box that begins west of the antimeridian cover exactly
the cells of the positions in it. -/
theorem covers_rectsFor_iff_exists_position (grid : Grid) (bbox : BBox)
    (boundaries : grid.BoundariesBelow) (west : bbox.west < 180)
    (edge : bbox.west ≤ grid.eastEdge) (cell : Cell) :
    covers (grid.rectsFor bbox) cell = true ↔
      ∃ lat lon, (-180 ≤ lon ∧ lon < 180) ∧ bbox.contains lat lon = true ∧
        grid.cellOf lat lon = cell := by
  have begins : ∀ part ∈ bbox.parts, part.west < 180 ∧ part.west ≤ grid.eastEdge :=
    fun part isPart =>
      have least : part.west ≤ bbox.west := (BBox.part_of_mem isPart).west_le
      ⟨least.trans_lt west, least.trans edge⟩
  rw [covers_rectsFor_iff, ← exists_rowOf_eq_iff]
  constructor
  · rintro ⟨⟨part, isPart, columns⟩, lat, latitude, isRow⟩
    obtain ⟨partBelow, partEdge⟩ := begins part isPart
    obtain ⟨lon, inside, east, isColumn⟩ :=
      (exists_column_eq_iff boundaries (BBox.part_of_mem isPart).ordered partBelow partEdge).mpr
        columns
    have fromWest : -180 ≤ lon := part.longitudes.1.1.trans inside.1
    refine ⟨lat, lon, ⟨fromWest, east⟩, ?_, ?_⟩
    · exact BBox.contains_iff.mpr
        ⟨latitude, (BBox.between_iff_exists_part ⟨fromWest, east.le⟩).mpr ⟨part, isPart, inside⟩⟩
    · rw [cellOf_of_lt fromWest east, isColumn, isRow]
  · rintro ⟨lat, lon, ⟨fromWest, east⟩, inside, rfl⟩
    obtain ⟨latitude, longitude⟩ := BBox.contains_iff.mp inside
    obtain ⟨part, isPart, inPart⟩ :=
      (BBox.between_iff_exists_part ⟨fromWest, east.le⟩).mp longitude
    rw [cellOf_of_lt fromWest east]
    obtain ⟨partBelow, partEdge⟩ := begins part isPart
    exact ⟨⟨part, isPart, (exists_column_eq_iff boundaries (BBox.part_of_mem isPart).ordered
      partBelow partEdge).mp ⟨lon, inPart, east, rfl⟩⟩, lat, latitude, rfl⟩

theorem standard_boundariesBelow : standard.BoundariesBelow := by
  intro index below
  have beforeLast : (index : ℚ) < 3600 := by
    norm_num [standard] at below
    linarith
  have last : (index : ℚ) ≤ 3599 := by
    have beforeLast : index < 3600 := by exact_mod_cast beforeLast
    exact_mod_cast Int.le_of_lt_add_one beforeLast
  norm_num [standard]
  linarith

theorem covers_harbour_iff_exists_position :
    standard.BoundariesBelow ∧
      ∀ cell, covers (standard.rectsFor .harbour) cell = true ↔
        ∃ lat lon, (-180 ≤ lon ∧ lon < 180) ∧ BBox.harbour.contains lat lon = true ∧
          standard.cellOf lat lon = cell :=
  ⟨standard_boundariesBelow, covers_rectsFor_iff_exists_position standard .harbour
    standard_boundariesBelow (by norm_num [BBox.harbour]) (by norm_num [BBox.harbour, standard])⟩

/-- A longitude in a box, up to the eastern edge, is in one of its columns. -/
theorem covers_cellOf_of_le (edge : lon ≤ grid.eastEdge) (fromWest : -180 ≤ lon)
    (inside : bbox.contains lat lon = true) :
    covers (grid.rectsFor bbox) (grid.cellOf lat lon) = true := by
  have east : lon < 180 := edge.trans_lt grid.eastEdge_lt
  obtain ⟨latitude, longitude⟩ := BBox.contains_iff.mp inside
  obtain ⟨part, isPart, inPart⟩ := (BBox.between_iff_exists_part ⟨fromWest, east.le⟩).mp longitude
  rw [covers_rectsFor_iff, ← exists_rowOf_eq_iff, cellOf_of_lt fromWest east]
  have toEdge := CircularBins.bin_mono grid.sizeDeg_pos edge
  exact ⟨⟨part, isPart, columnOf_le east inPart.1, le_columnOf toEdge inPart.2⟩,
    lat, latitude, rfl⟩

/-- The position at 180 is covered by a box that crosses the antimeridian, and
by a box that ends there when it begins in the column of -180. -/
theorem covers_cellOf_antimeridian (edge : -180 ≤ grid.eastEdge)
    (inside : bbox.contains lat 180 = true) :
    covers (grid.rectsFor bbox) (grid.cellOf lat 180) = true ↔
      (bbox.crossesAntimeridian = false → grid.columnOf bbox.west ≤ grid.columnOf (-180)) := by
  obtain ⟨latitude, longitude⟩ := BBox.contains_iff.mp inside
  have row : grid.rowOf bbox.south ≤ grid.rowOf lat ∧ grid.rowOf lat ≤ grid.rowOf bbox.north :=
    exists_rowOf_eq_iff.mp ⟨lat, latitude, rfl⟩
  have first : grid.columnOf (-180) = ⌊-180 / grid.sizeDeg⌋ :=
    columnOf_of_lt le_rfl (by norm_num)
  rw [covers_rectsFor_iff, cellOf_antimeridian, and_iff_left row]
  cases crossing : bbox.crossesAntimeridian with
  | true =>
      have eastBefore : bbox.east < 180 :=
        (BBox.crosses_iff.mp crossing).trans_le bbox.longitudes.1.2
      have reached : grid.columnOf (-180) ≤ grid.columnOf bbox.east := by
        rw [first, columnOf_of_lt bbox.longitudes.2.1 eastBefore]
        exact CircularBins.bin_mono grid.sizeDeg_pos bbox.longitudes.2.1
      simp [BBox.parts, crossing, reached]
  | false =>
      rw [CircularBins.Between, if_neg (BBox.not_crosses_iff.mp crossing).not_gt] at longitude
      have atEdge : bbox.east = 180 := le_antisymm bbox.longitudes.2.2 longitude.2
      have reached : grid.columnOf (-180) ≤ grid.columnOf bbox.east := by
        rw [first, atEdge, columnOf_antimeridian]
        exact CircularBins.bin_mono grid.sizeDeg_pos edge
      simp [BBox.parts, crossing, reached]

/-- What is in the box is on the map, but for a position at 180 in a box that
ends there and begins east of the cells of -180. -/
theorem covers_cellOf_iff_of_contains (grid : Grid) (longitudes : Set ℚ)
    (nextafter : IsGreatest {lon ∈ longitudes | lon < 180} grid.eastEdge)
    (least : -180 ∈ longitudes) (bbox : BBox) (lat lon : ℚ) (isLongitude : lon ∈ longitudes)
    (longitude : -180 ≤ lon ∧ lon ≤ 180) :
    (∀ (pg : Postgis) (db : Db) (deviceId : DeviceId) (row : PositionRow),
        db.devicePositions.get? deviceId = some row → row.position = ⟨lat, lon⟩ →
        ((∃ limit, row.out deviceId ∈ inBbox pg db (some bbox) limit) ↔
          bbox.contains lat lon = true)) ∧
      (bbox.contains lat lon = true →
        (covers (grid.rectsFor bbox) (grid.cellOf lat lon) = true ↔
          ¬(lon = 180 ∧ bbox.crossesAntimeridian = false ∧
            grid.columnOf (-180) < grid.columnOf bbox.west))) := by
  have beforeEdge : ∀ lon ∈ longitudes, lon < 180 → lon ≤ grid.eastEdge :=
    fun lon listed before => nextafter.2 ⟨listed, before⟩
  constructor
  · rintro pg db deviceId row stored atPosition
    have selected : bbox.selects row.position = true ↔ bbox.contains lat lon = true := by
      rw [atPosition]
      exact BBox.selects_iff_contains longitude
    rw [← selected]
    constructor
    · rintro ⟨limit, listed⟩
      obtain ⟨other, found, -, isSelected⟩ := mem_inBbox listed
      obtain rfl := Option.some.inj (stored.symm.trans found)
      exact isSelected
    · exact fun isSelected => ⟨_, mem_inBbox_of_selects stored isSelected⟩
  · intro inside
    obtain rfl | before := longitude.2.eq_or_lt
    · rw [covers_cellOf_antimeridian (beforeEdge _ least (by norm_num)) inside]
      simp
    · simp [covers_cellOf_of_le (beforeEdge lon isLongitude before) longitude.1 inside, before.ne]

/-- Ten degrees up to the antimeridian. -/
def atAntimeridian : BBox where
  west := 170
  south := -5
  east := 180
  north := 5
  longitudes := by norm_num
  latitudes := by norm_num
  ordered := by norm_num

/-- The longitudes of the standard cells: those up to the double below 180,
and 180 itself. -/
theorem standard_eastEdge_isGreatest :
    IsGreatest {lon ∈ {lon : ℚ | lon ≤ standard.eastEdge ∨ lon = 180} | lon < 180}
      standard.eastEdge := by
  constructor
  · exact ⟨Or.inl le_rfl, standard.eastEdge_lt⟩
  · rintro lon ⟨upToEdge | rfl, before⟩
    · exact upToEdge
    · exact absurd before (lt_irrefl _)

theorem contains_atAntimeridian_of_not_covers :
    (-90 ≤ (0 : ℚ) ∧ (0 : ℚ) ≤ 90) ∧ (-180 ≤ (180 : ℚ) ∧ (180 : ℚ) ≤ 180) ∧
      IsGreatest {lon ∈ {lon : ℚ | lon ≤ standard.eastEdge ∨ lon = 180} | lon < 180}
        standard.eastEdge ∧
      atAntimeridian.contains 0 180 = true ∧
      covers (standard.rectsFor atAntimeridian) (standard.cellOf 0 180) = false :=
  ⟨by norm_num, by norm_num, standard_eastEdge_isGreatest, by decide +kernel, by decide +kernel⟩

theorem covers_harbour_of_contains :
    BBox.harbour.contains 0 0 = true ∧
      (covers (standard.rectsFor .harbour) (standard.cellOf 0 0) = true ↔
        ¬((0 : ℚ) = 180 ∧ BBox.harbour.crossesAntimeridian = false ∧
          standard.columnOf (-180) < standard.columnOf BBox.harbour.west)) :=
  have inside : BBox.harbour.contains 0 0 = true := by decide +kernel
  have edge : (0 : ℚ) ≤ standard.eastEdge ∧ (-180 : ℚ) ≤ standard.eastEdge := by
    norm_num [standard]
  ⟨inside, (covers_cellOf_iff_of_contains standard
    {lon | lon ≤ standard.eastEdge ∨ lon = 180} standard_eastEdge_isGreatest (.inl edge.2)
    .harbour 0 0 (.inl edge.1) (by norm_num)).2 inside⟩

end Grid

end GeoTrack
