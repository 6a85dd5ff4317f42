import Mathlib.Algebra.Order.Floor.Ring
import Mathlib.Data.Rat.Floor

/-!
# Cells and viewports

Positions are bucketed into cells of a fixed number of degrees, and a viewport
is kept as one or two inclusive rectangles of cells.  Coordinates are exact
rationals; the double just below 180, at which an edge that reaches the
antimeridian is placed, is a parameter of the grid.
-/

namespace GeoTrack

/-- A WGS84 bounding box, crossing the antimeridian when `east < west`. -/
structure BBox where
  west : ℚ
  south : ℚ
  east : ℚ
  north : ℚ
  longitudes : (-180 ≤ west ∧ west ≤ 180) ∧ (-180 ≤ east ∧ east ≤ 180)
  latitudes : (-90 ≤ south ∧ south ≤ 90) ∧ (-90 ≤ north ∧ north ≤ 90)
  ordered : south ≤ north

namespace BBox

def crossesAntimeridian (bbox : BBox) : Bool := bbox.east < bbox.west

/-- Split into boxes that never cross the antimeridian. -/
def parts (bbox : BBox) : List BBox :=
  if bbox.crossesAntimeridian then
    [{ bbox with east := 180, longitudes := ⟨bbox.longitudes.1, by norm_num⟩ },
      { bbox with west := -180, longitudes := ⟨by norm_num, bbox.longitudes.2⟩ }]
  else
    [bbox]

/-- A window of a tenth of a degree. -/
def harbour : BBox where
  west := 0
  south := 0
  east := 1 / 10
  north := 1 / 10
  longitudes := by norm_num
  latitudes := by norm_num
  ordered := by norm_num

end BBox

abbrev Cell := ℤ × ℤ

/-- An inclusive range of cell indices. -/
structure CellRect where
  minX : ℤ
  minY : ℤ
  maxX : ℤ
  maxY : ℤ
deriving DecidableEq

def CellRect.contains (rect : CellRect) (cell : Cell) : Bool :=
  (rect.minX ≤ cell.1 && cell.1 ≤ rect.maxX) && (rect.minY ≤ cell.2 && cell.2 ≤ rect.maxY)

def covers (rects : List CellRect) (cell : Cell) : Bool :=
  rects.any fun rect => rect.contains cell

/-- The size of a cell, and the largest number the program can write that is
below 180. -/
structure Grid where
  sizeDeg : ℚ
  eastEdge : ℚ
  sizeDeg_pos : 0 < sizeDeg
  eastEdge_lt : eastEdge < 180

def wrapLon (lon : ℚ) : ℚ := (lon + 180) - 360 * ⌊(lon + 180) / 360⌋ - 180

namespace Grid

def rowOf (grid : Grid) (lat : ℚ) : ℤ := ⌊min (max lat (-90)) 90 / grid.sizeDeg⌋

/-- The column of a viewport edge.  A position at 180 wraps to -180, but an
edge there means "as far east as it goes". -/
def columnOf (grid : Grid) (lon : ℚ) : ℤ :=
  if 180 ≤ lon then ⌊grid.eastEdge / grid.sizeDeg⌋ else ⌊wrapLon lon / grid.sizeDeg⌋

def cellOf (grid : Grid) (lat lon : ℚ) : Cell := (⌊wrapLon lon / grid.sizeDeg⌋, grid.rowOf lat)

def rect (grid : Grid) (part : BBox) : CellRect where
  minX := grid.columnOf part.west
  minY := grid.rowOf part.south
  maxX := grid.columnOf part.east
  maxY := grid.rowOf part.north

def rectsFor (grid : Grid) (bbox : BBox) : List CellRect := bbox.parts.map grid.rect

/-- The cells of the default settings, with the double below 180. -/
def standard : Grid where
  sizeDeg := 1 / 20
  eastEdge := 180 - 1 / 2 ^ 45
  sizeDeg_pos := by norm_num
  eastEdge_lt := by norm_num

end Grid

/-- The integers from `first` to `last`, both included. -/
def inclusiveRange (first last : ℤ) : List ℤ :=
  (List.range (last + 1 - first).toNat).map fun (offset : ℕ) => first + offset

theorem mem_inclusiveRange {first last value : ℤ} :
    value ∈ inclusiveRange first last ↔ first ≤ value ∧ value ≤ last := by
  rw [inclusiveRange, List.mem_map]
  constructor
  · rintro ⟨offset, listed, rfl⟩
    rw [List.mem_range] at listed
    omega
  · rintro ⟨lower, upper⟩
    refine ⟨(value - first).toNat, List.mem_range.mpr ?_, ?_⟩ <;> omega

theorem CellRect.contains_iff {rect : CellRect} {cell : Cell} :
    rect.contains cell = true ↔
      cell.1 ∈ inclusiveRange rect.minX rect.maxX ∧
        cell.2 ∈ inclusiveRange rect.minY rect.maxY := by
  simp [contains, mem_inclusiveRange]

theorem covers_iff {rects : List CellRect} {cell : Cell} :
    covers rects cell = true ↔ ∃ rect ∈ rects, rect.contains cell = true :=
  List.any_eq_true

end GeoTrack
